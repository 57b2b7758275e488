import HtmlStream.Proofs.Template.Parsing
import HtmlStream.Proofs.Text.Edges
import HtmlStream.Template.Machine

/-!
Runs of text in a template. A run loses the layout at its edges, which is found by matching a pattern,
and what is left is one child of the innermost open element.
-/
namespace HtmlStream.Template

open Text

/-- What is left of a run of text when it ends. -/
structure IsFlushedAs (run left : List Char) : Prop where
  /-- The white space at an edge is gone if a line break is in it, and nothing else is gone. -/
  without : ∀ other, IsWithoutLayout run other ↔ other = left
  /-- This is what removing the matches of the pattern leaves. -/
  removed : Pattern.brokenEdge.removed run = left
  /-- The reader hands on the text that is left, or nothing if nothing is. -/
  events : Reading.textEvents run.reverse = if left = [] then [] else [.text (String.ofList left)]
  /-- It becomes a child of the innermost open element. -/
  builds : ∀ builder : Builder, builder.applyAll (Reading.textEvents run.reverse)
    = .ok (if left = [] then builder else builder.add (.text (String.ofList left)))
  flushes : ∀ machine : Machine, machine.text = run →
    machine.flushText = if left = [] then .ok { machine with text := [] }
      else { machine with text := [] }.addChild (.text (String.ofList left))
  /-- Of a text that was left nothing more is removed. -/
  fixed : Pattern.brokenEdge.removed left = left
  joins : ∀ other, Pattern.brokenEdge.removed run = run → Pattern.brokenEdge.removed other = other →
    Pattern.brokenEdge.removed (run ++ other) = run ++ other

theorem textEvents_reverse (run : List Char) :
    Reading.textEvents run.reverse
      = if trimBreaks run = [] then [] else [.text (String.ofList (trimBreaks run))] := by
  unfold Reading.textEvents
  rw [List.reverse_reverse]
  cases trimBreaks run <;> rfl

theorem Machine.flushText_eq_addChild (machine : Machine) :
    machine.flushText = if trimBreaks machine.text = [] then .ok { machine with text := [] }
      else { machine with text := [] }.addChild (.text (String.ofList (trimBreaks machine.text))) := by
  unfold flushText
  cases empty : machine.text with
  | nil =>
      have unchanged : { machine with text := [] } = machine := by rw [← empty]
      rw [unchanged]
      rfl
  | cons first rest =>
      dsimp only [List.isEmpty_cons]
      rw [if_neg Bool.false_ne_true]
      cases trimBreaks (first :: rest) <;> rfl

/-- Every run of text loses the white space at its edges that holds a line break, and nothing else. -/
theorem isFlushedAs_removed (run : List Char) :
    IsFlushedAs run (Pattern.brokenEdge.removed run) := by
  rw [removed_brokenEdge]
  refine ⟨fun other => ⟨fun without => without.eq_trimBreaks, ?_⟩, removed_brokenEdge run,
    textEvents_reverse run, fun builder => ?_, ?_, ?_, ?_⟩
  · rintro rfl
    exact isWithoutLayout_trimBreaks run
  · rw [textEvents_reverse]
    split_ifs <;> rfl
  · rintro machine rfl
    exact machine.flushText_eq_addChild
  · rw [removed_brokenEdge]
    exact trimBreaks_eq_self.mpr (isTrimmed_trimBreaks run)
  · intro other first second
    rw [removed_brokenEdge] at first second ⊢
    exact trimBreaks_eq_self.mpr
      ((trimBreaks_eq_self.mp first).append (trimBreaks_eq_self.mp second))

/-- Spaces at an edge stay if no line break is among them, and so do line breaks inside. -/
example : Pattern.brokenEdge.removed " a \n b\n\t".toList = " a \n b".toList := by
  rw [removed_brokenEdge]
  decide

/-- A run of nothing but layout leaves nothing. -/
example : Pattern.brokenEdge.removed "\t\n ".toList = [] := by
  rw [removed_brokenEdge]
  decide

end HtmlStream.Template
