import HtmlStream.Proofs.Template.Joining
import HtmlStream.Proofs.Template.Parsing
import HtmlStream.Proofs.Template.RoundTrip

/-!
Reading again what a template without holes is rendered to. The markup of contents is read as these
contents with adjacent texts joined; since the texts are trimmed, joining them trims nothing more. So
a second render of it gives the same text. The main statement is `isRenderedTo_of_reread`.
-/
namespace HtmlStream

namespace Template

/-! ## Reading -/

open Content Reading

section Declarations

variable {builder : Builder} {run : List Char}

theorem reads_declaration {name : List Char} (declares : IsDeclaration name) :
    Reads ('<' :: name ++ ['>']) (.text run, builder)
      (.text [], (builder.flushed run).add (.markup ("<" ++ String.ofList name ++ ">"))) := by
  rcases declares with ⟨⟨keyword, rest, rfl, spelled⟩, unclosed⟩
  have goesOn : Reads rest (.declaration keyword.reverse, builder.flushed run)
      (.declaration (rest.reverse ++ keyword.reverse), builder.flushed run) := by
    refine reads_gathering .declaration rest ?_
    intro before character within following
    have noBracket : character ≠ '>' := fun same =>
      unclosed (List.mem_append_right keyword (same ▸ mem_of_isPrefix within))
    exact if_neg noBracket
  have closes : Reads ['>'] (.declaration (rest.reverse ++ keyword.reverse), builder.flushed run)
      (.text [], (builder.flushed run).add
        (.markup ("<" ++ String.ofList (keyword ++ rest) ++ ">"))) := by
    refine reads_events (fun _ => rfl) ?_
    unfold nameOf
    rw [List.reverse_append, List.reverse_reverse, List.reverse_reverse]
    rfl
  have declares : Reads keyword (.tagName [] none, builder.flushed run)
      (afterTagName keyword.reverse none, builder.flushed run) :=
    reads_opener (isOpener_iff.mpr (.inr spelled)) none
  rw [afterTagName_keyword (by rwa [List.reverse_reverse])] at declares
  rw [List.cons_append, List.append_assoc]
  exact reads_bracket.cons (declares.append (goesOn.append closes))

end Declarations

/-- The builder once some contents after a run of text are read. -/
def Builder.holding (builder : Builder) (run : List Char) (contents : List Content) : Builder :=
  builder.addAll (toNodes (gathered (nameOf run) contents))

theorem Builder.flushed_of_isRun (builder : Builder) {run : List Char} (isRun : IsRun run.reverse) :
    builder.flushed run = builder.holding run [] := by
  have trimmed := Text.trimBreaks_eq_self.mpr isRun.trimmed
  have same : Tree.toNodes (Tree.ofRun (nameOf run)) = toNodes (ofRun (nameOf run)) := by
    unfold Tree.ofRun ofRun nameOf
    dsimp only
    rw [String.toList_ofList, trimmed]
    cases run.reverse with
    | nil => rfl
    | cons first rest =>
        have nonempty : (String.ofList (first :: rest)).isEmpty = false := by simp
        rw [nonempty]
        rfl
  unfold Builder.flushed Builder.holding
  rw [same, gathered]

theorem Builder.holding_text (builder : Builder) (run : List Char) (content : String)
    (later : List Content) :
    builder.holding (content.toList.reverse ++ run) later
      = builder.holding run (.text content :: later) := by
  unfold Builder.holding
  rw [nameOf_append, gathered]

/-- What ends a run of text is added after the run. -/
theorem Builder.holding_flushed (builder : Builder) {run : List Char} (isRun : IsRun run.reverse)
    {content : Content} {later : List Content}
    (flushes : gathered (nameOf run) (content :: later)
      = ofRun (nameOf run) ++ content.normalized :: gathered "" later) :
    ((builder.flushed run).add content.normalized.toNode).holding [] later
      = builder.holding run (content :: later) := by
  rw [builder.flushed_of_isRun isRun]
  unfold Builder.holding
  rw [flushes, toNodes_append, addAll_append, toNodes, addAll_cons, nameOf_nil]
  rfl

mutual
/-- After the markup of a content the builder holds it, and the text not yet flushed is a run. -/
theorem reads_content (content : Content) {builder : Builder} {run : List Char}
    (isRun : IsRun run.reverse) (legible : content.IsLegible) (unquoted : content.IsUnquoted) :
    ∃ rest built, Reads content.source (.text run, builder) (.text rest, built) ∧
      IsRun rest.reverse ∧
        ∀ later, built.holding rest later = builder.holding run (content :: later) := by
  cases content with
  | text content =>
      refine ⟨_, _, reads_text legible.1, ?_, builder.holding_text run content⟩
      rw [List.reverse_append, List.reverse_reverse]
      exact isRun.append (isRun_of_isLegibleText legible)
  | declaration content =>
      rcases legible with ⟨name, rfl, declares⟩
      have read : Reads _ (.text run, builder) _ := reads_declaration declares
      have spelled : Content.source (.declaration ("<" ++ String.ofList name ++ ">"))
          = '<' :: name ++ ['>'] := by simp [Content.source]
      exact ⟨[], _, spelled ▸ read, isRun_nil, fun _ => builder.holding_flushed isRun rfl⟩
  | element name attributes children =>
      rcases legible with ⟨readable, readables, _, noContent, childrenLegible⟩
      refine ⟨[], (builder.flushed run).add
        (Content.element name attributes children).normalized.toNode, ?_, isRun_nil,
        fun _ => builder.holding_flushed isRun rfl⟩
      rw [Content.source]
      cases void : isVoid name with
      | true =>
          have noChildren := noContent void
          subst noChildren
          refine (reads_opening readable readables unquoted.1 ?_).append (reads_nil _)
          rw [openEvent_of_void void]
          rfl
      | false =>
          have opening : Reads (Tree.openingSource name attributes) (.text run, builder) (.text [],
              (builder.flushed run).opened ⟨.literal name, attributes.map Tree.toAttribute⟩ []) :=
            reads_opening readable readables unquoted.1
              (congrArg (Builder.apply _) (openEvent_of_not_void void))
          have begins : IsRun (List.reverse []) := isRun_nil
          rcases reads_contents children begins childrenLegible unquoted.2 with
            ⟨rest, built, inner, restIsRun, held⟩
          refine opening.append (inner.append (reads_closing readable ?_))
          rw [built.flushed_of_isRun restIsRun, held, Builder.holding, Builder.addAll_opened,
            Builder.close_opened, List.append_nil, List.reverse_reverse, nameOf_nil]
          rfl

theorem reads_contents (contents : List Content) {builder : Builder} {run : List Char}
    (isRun : IsRun run.reverse) (legible : AreLegible contents) (unquoted : AreUnquoted contents) :
    ∃ rest built, Reads (sources contents) (.text run, builder) (.text rest, built) ∧
      IsRun rest.reverse ∧ built.holding rest [] = builder.holding run contents := by
  cases contents with
  | nil => exact ⟨run, builder, reads_nil _, isRun, rfl⟩
  | cons head tail =>
      rcases reads_content head isRun legible.1 unquoted.1 with
        ⟨between, half, first, betweenIsRun, held⟩
      rcases reads_contents tail betweenIsRun legible.2 unquoted.2 with
        ⟨rest, built, later, restIsRun, heldLater⟩
      exact ⟨rest, built, first.append later, restIsRun, heldLater.trans (held tail)⟩
end

/-- The markup of contents is read as these contents, with adjacent texts joined. -/
theorem readStrings_sources {contents : List Content} (legible : AreLegible contents)
    (unquoted : AreUnquoted contents) :
    readStrings [String.ofList (sources contents)] = .ok (toNodes (gathered "" contents)) := by
  have begins : IsRun (List.reverse []) := isRun_nil
  obtain ⟨rest, built, reads, restIsRun, held⟩ : ∃ rest built,
      Reads (sources contents) (.text [], .empty) (.text rest, built) ∧ IsRun rest.reverse ∧
        built.holding rest [] = Builder.empty.holding [] contents :=
    reads_contents contents begins legible unquoted
  have flushed : built.flushed rest = ⟨(toNodes (gathered "" contents)).reverse, []⟩ := by
    rw [built.flushed_of_isRun restIsRun, held, Builder.holding, Builder.addAll_empty, nameOf_nil]
  have ended : finishReading (.text rest) built = .ok (toNodes (gathered "" contents)) := by
    show (do (← built.applyAll (textEvents rest)).finish) = _
    rw [built.applyAll_textEvents, flushed]
    exact congrArg Except.ok (List.reverse_reverse _)
  have symbols : Symbol.ofStrings [String.ofList (sources contents)]
      = (sources contents).map .character ++ [] := by
    show (String.ofList (sources contents)).toList.map _ = _
    rw [String.toList_ofList, List.append_nil]
  rw [readStrings, readSymbols, symbols, reads, readFrom, ended]

/-! ## Roots -/

def standsAlone : List Content → Bool
  | [.element ..] => true
  | _ => false

/-- How deep the element of a template nests: an element that stands alone is the root itself. -/
def forestDepth (contents : List Content) : Nat :=
  depths contents + if standsAlone contents then 0 else 1

/-- Joining texts nests nothing deeper. -/
theorem forestDepth_gathered (contents : List Content) :
    forestDepth (gathered "" contents) ≤ forestDepth contents := by
  have alone : standsAlone contents = true → standsAlone (gathered "" contents) = true := by
    intro alone
    unfold standsAlone at alone
    split at alone
    · rfl
    · cases alone
  unfold forestDepth
  rw [depths_gathered]
  refine Nat.add_le_add_left ?_ _
  cases stands : standsAlone contents with
  | true =>
      rw [alone stands]
  | false => split <;> decide

/-- A value shows all that a template says. -/
structure PresentsAll (value : Value) (contents : List Content) : Prop where
  isTree : value.isTree = true
  shows : ∃ pieces, value.page false = .ok pieces ∧ Value.Show pieces (sources contents)
  frames : value.framesNeeded = forestDepth contents
  unquoted : value.HasUnquotedAttributes → AreUnquoted contents

theorem exists_element_of_fill {values : List Value} {start next : Nat} {tag : Tag}
    {children : List Node} {value : Value}
    (filled : Node.fill values start (.element tag children) = .ok (value, next)) :
    ∃ element : Element, value = element.toValue := by
  rcases exists_of_fill_element filled with ⟨attributes, inner, number, _, _, rfl⟩
  exact ⟨⟨number, tag.name.fill values, attributes, inner⟩, rfl⟩

section Filling

variable {nodes : List Node}

theorem standsAlone_eq_false (several : ∀ tag children, nodes ≠ [.element tag children]) :
    standsAlone (Node.contents nodes) = false := by
  cases nodes with
  | nil => rfl
  | cons head tail =>
      cases tail with
      | cons second rest => cases head <;> rfl
      | nil =>
          cases head with
          | element tag children => exact absurd rfl (several tag children)
          | _ => rfl

variable (start : Nat) (legible : Node.AreLegible nodes)

include legible

/-- The roots of a template in a fragment of their own. -/
theorem exists_fragment (several : standsAlone (Node.contents nodes) = false) :
    ∃ children next, fillNodes [] start nodes = .ok (children, next) ∧
      PresentsAll (.element next .fragment [] children) (Node.contents nodes) := by
  rcases exists_fillNodes_of_areLegible [] nodes start legible with
    ⟨children, next, filled, present, _⟩
  refine ⟨children, next, filled, present.areTrees, present.shows, ?_, fun unquoted =>
    present.unquoted unquoted.2⟩
  unfold forestDepth
  rw [several]
  exact congrArg (· + 1) present.frames

theorem exists_fillForest :
    ∃ root : Element, fillForest [] start nodes = .ok root.toValue ∧
      PresentsAll root.toValue (Node.contents nodes) := by
  unfold fillForest
  split
  next tag children =>
    rcases exists_fill_of_isLegible [] (.element tag children) start legible.1 with
      ⟨value, next, filled, presents⟩
    rcases exists_element_of_fill filled with ⟨root, rfl⟩
    refine ⟨root, ?_, presents.isTree, ?_, ?_, fun unquoted => ⟨presents.unquoted unquoted, trivial⟩⟩
    · rw [filled]
      rfl
    · rw [Node.contents, Node.contents, sources, sources, List.append_nil]
      exact presents.shows
    · exact presents.frames.trans (Nat.max_zero _).symm
  next several =>
    rcases exists_fragment start legible (standsAlone_eq_false several) with
      ⟨children, next, filled, presents⟩
    refine ⟨⟨next, .fragment, [], children⟩, ?_, presents⟩
    rw [filled]
    rfl

end Filling

theorem areLegible_of_readMarkup {source : String} {markup : Markup}
    (read : readMarkup (.template ⟨[source], []⟩) = .ok markup) :
    markup.values = [] ∧ Node.AreLegible markup.nodes := by
  cases strings : readStrings [source] with
  | error fault =>
      have checked : check (.template ⟨[source], []⟩) "html" = .ok ⟨[source], []⟩ := rfl
      unfold readMarkup at read
      rw [checked] at read
      dsimp only [bind, Except.bind, Except.mapError] at read
      rw [strings] at read
      cases read
  | ok nodes =>
      rw [readMarkup_of_readStrings strings] at read
      cases read
      exact ⟨rfl, Node.areLegible_iff.mpr (isLegible_readStrings strings)⟩

/-- A template without holes has an element, however elements are numbered. -/
theorem exists_toElement {source : String} {markup : Markup}
    (read : readMarkup (.template ⟨[source], []⟩) = .ok markup) (start : Nat) :
    ∃ root : Element, markup.toElement start = .ok root.toValue ∧
      PresentsAll root.toValue (Node.contents markup.nodes) := by
  rcases areLegible_of_readMarkup read with ⟨noValues, legible⟩
  rcases exists_fillForest start legible with ⟨root, filled, presents⟩
  refine ⟨root, ?_, presents⟩
  unfold Markup.toElement
  rw [noValues, filled]
  rfl

end Template

open Template

/-- An element is rendered to a text, wherever it is rendered and whatever else is there. -/
def IsRenderedTo (settings : Settings) (root : Value) (text : String) : Prop :=
  ∀ library providers context session, ∃ transcript,
    (Run.start (.start providers settings context) root).streamed library session
        = some transcript ∧
      transcript.failure? = none ∧ String.join transcript.texts = text

variable {settings : Settings}

theorem isRenderedTo_unique {root : Value} {text other : String}
    (first : IsRenderedTo settings root text) (second : IsRenderedTo settings root other) :
    text = other := by
  rcases first [] [] 0 .empty with ⟨transcript, streamed, _, joined⟩
  rcases second [] [] 0 .empty with ⟨same, streamedAgain, _, joinedAgain⟩
  rw [streamed] at streamedAgain
  cases streamedAgain
  exact joined.symm.trans joinedAgain

variable (unescaped : settings.autoescape = false)

include unescaped

theorem isRenderedTo_of_presentsAll {root : Element} {contents : List Content}
    (presents : PresentsAll root.toValue contents)
    (fits : root.toValue.framesNeeded ≤ settings.maxDepth) :
    IsRenderedTo settings root.toValue (String.ofList (Content.sources contents)) := by
  intro library providers context session
  rcases streamed_eq_page library providers settings context session root presents.isTree fits with
    ⟨transcript, streamed, shows⟩
  rcases presents.shows with ⟨pieces, page, shown⟩
  rw [unescaped, page] at shows
  exact ⟨transcript, streamed, shows.1, shows.2.trans shown.textOf⟩

/-- Rendering is a normal form. What a template without holes is rendered to is a template that is
rendered to the same text, provided that no text of an attribute holds a double quote. -/
theorem isRenderedTo_of_reread {source : String} {markup : Markup}
    (read : readMarkup (.template ⟨[source], []⟩) = .ok markup) (start : Nat) :
    ∃ root, markup.toElement start = .ok root ∧
      (root.HasUnquotedAttributes → root.framesNeeded ≤ settings.maxDepth →
        ∃ text, IsRenderedTo settings root text ∧
          ∃ again, readMarkup (.template ⟨[text], []⟩) = .ok again ∧
            ∀ restart, ∃ rereadRoot, again.toElement restart = .ok rereadRoot ∧
              rereadRoot.framesNeeded ≤ settings.maxDepth ∧
              IsRenderedTo settings rereadRoot text) := by
  rcases exists_toElement read start with ⟨root, filled, presents⟩
  refine ⟨root.toValue, filled, fun unquoted fits => ?_⟩
  have legible := Node.areLegible_contents _ (areLegible_of_readMarkup read).2
  have reread := readMarkup_of_readStrings
    (readStrings_sources legible (presents.unquoted unquoted))
  refine ⟨_, isRenderedTo_of_presentsAll unescaped presents fits, _, reread, fun restart => ?_⟩
  rcases exists_toElement reread restart with ⟨rereadRoot, refilled, rereadPresents⟩
  have joined := Content.areLegible_gathered _ "" Content.isRun_nil legible
  rw [Content.contents_toNodes _ joined] at rereadPresents
  have rereadFits : rereadRoot.toValue.framesNeeded ≤ settings.maxDepth := by
    rw [presents.frames] at fits
    rw [rereadPresents.frames]
    exact (forestDepth_gathered _).trans fits
  have again := isRenderedTo_of_presentsAll unescaped rereadPresents rereadFits
  rw [Content.sources_gathered] at again
  exact ⟨rereadRoot.toValue, refilled, rereadFits, again⟩

omit unescaped

/-- A declaration and a paragraph with an attribute given twice, one that is just set, declared
children, texts around a comment, and a line break that is trimmed. -/
def announcedParagraph : String :=
  "<!DOCTYPE html>\n<P a=1 a='2' hidden children=x>x<!-- - -->y<br/> z\n</P>"

def announcedMarkup : Markup where
  nodes := [
    .markup "<!DOCTYPE html>",
    .element ⟨.literal "P", [.named "a" (.text "1"), .named "a" (.text "2"), .named "hidden" .bare,
      .named "children" (.text "x")]⟩
      [.text "x", .text "y", .element ⟨.literal "br", []⟩ [], .text " z"]]
  values := []

theorem readMarkup_announcedParagraph :
    readMarkup (.template ⟨[announcedParagraph], []⟩) = .ok announcedMarkup := by
  apply readMarkup_of_readStrings
  with_unfolding_all rfl

theorem isRenderedTo_announcedParagraph :
    readMarkup (.template ⟨[announcedParagraph], []⟩) = .ok announcedMarkup ∧
    ∃ root, announcedMarkup.toElement 0 = .ok root ∧ root.HasUnquotedAttributes ∧
      root.framesNeeded ≤ Settings.standard.maxDepth ∧
      IsRenderedTo Settings.standard root
        "<!DOCTYPE html><P a=\"2\" hidden>xy<br> z</P>" ∧
      ∃ again, readMarkup (.template ⟨["<!DOCTYPE html><P a=\"2\" hidden>xy<br> z</P>"], []⟩)
          = .ok again ∧
        ∃ rereadRoot, again.toElement 0 = .ok rereadRoot ∧
          IsRenderedTo Settings.standard rereadRoot
            "<!DOCTYPE html><P a=\"2\" hidden>xy<br> z</P>" := by
  have read := readMarkup_announcedParagraph
  rcases isRenderedTo_of_reread (show Settings.standard.autoescape = false from rfl) read 0 with
    ⟨root, filled, stable⟩
  have given : root = .element 2 .fragment [] [
      .markup "<!DOCTYPE html>",
      .element 1 (.text "P") [(.text "a", .text "2"), (.text "hidden", .boolean true),
        (.text "children", .text "x")]
        [.text "x", .text "y", .element 0 (.text "br") [] [], .text " z"]] := by
    cases filled
    rfl
  have unquoted : root.HasUnquotedAttributes := by
    rw [given]
    simp [Value.HasUnquotedAttributes, Value.HaveUnquotedAttributes]
  have fits : root.framesNeeded ≤ Settings.standard.maxDepth := by
    rw [given]
    decide
  rcases stable unquoted fits with ⟨text, rendered, again, reread, restarted⟩
  rcases exists_toElement read 0 with ⟨element, refilled, presents⟩
  rw [filled] at refilled
  cases refilled
  have shown : text = "<!DOCTYPE html><P a=\"2\" hidden>xy<br> z</P>" := by
    rw [isRenderedTo_unique rendered (isRenderedTo_of_presentsAll rfl presents fits)]
    with_unfolding_all rfl
  rw [shown] at rendered reread restarted
  rcases restarted 0 with ⟨rereadRoot, refilled, _, renderedAgain⟩
  exact ⟨read, _, filled, unquoted, fits, rendered, again, reread, rereadRoot, refilled,
    renderedAgain⟩

end HtmlStream
