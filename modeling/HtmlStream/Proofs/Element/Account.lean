import HtmlStream.Element.Page
import HtmlStream.Renderer.Interpretation

/-!
Accounts of pages: what the interpreter makes of a body against pieces of a page. The styles that
were written before decide about the text of the pieces.
-/
namespace HtmlStream

/-! ## Styles that were written -/

/-- The styles that a renderer has recorded are those that were written. -/
def StyleSet.Records (styles : StyleSet) (written : List Nat) : Prop :=
  ∀ sheet : Style, Serializer.isRecorded styles (.style sheet) = true ↔ sheet.identity ∈ written

namespace PagePiece

def writtenAfter (written : List Nat) : List PagePiece → List Nat
  | [] => written
  | .text _ :: rest => writtenAfter written rest
  | .style sheet :: rest =>
      if sheet.identity ∈ written then writtenAfter written rest
      else writtenAfter (sheet.identity :: written) rest

/-- Pieces that have a text and after which given styles have been written. -/
structure Writes (written : List Nat) (pieces : List PagePiece) (text : String)
    (after : List Nat) : Prop where
  textOf_append : ∀ rest, textOf written (pieces ++ rest) = text ++ textOf after rest
  writtenAfter_append : ∀ rest, writtenAfter written (pieces ++ rest) = writtenAfter after rest

variable {written : List Nat}

theorem writes_nil : Writes written [] "" written where
  textOf_append _ := (String.empty_append).symm
  writtenAfter_append _ := rfl

theorem writes_text (content : String) : Writes written [.text content] content written where
  textOf_append _ := rfl
  writtenAfter_append _ := rfl

theorem writes_style_again {sheet : Style} (again : sheet.identity ∈ written) :
    Writes written [.style sheet] "" written where
  textOf_append _ := (if_pos again).trans String.empty_append.symm
  writtenAfter_append _ := if_pos again

theorem writes_style_first {sheet : Style} (first : sheet.identity ∉ written) :
    Writes written [.style sheet] ("<style>" ++ sheet.content ++ "</style>")
      (sheet.identity :: written) where
  textOf_append _ := if_neg first
  writtenAfter_append _ := if_neg first

theorem Writes.append {first second : List PagePiece} {text later : String}
    {between after : List Nat} (earlier : Writes written first text between)
    (rest : Writes between second later after) :
    Writes written (first ++ second) (text ++ later) after where
  textOf_append pieces := by
    rw [List.append_assoc, earlier.textOf_append, rest.textOf_append, String.append_assoc]
  writtenAfter_append pieces := by
    rw [List.append_assoc, earlier.writtenAfter_append, rest.writtenAfter_append]

theorem writes_textOf (written : List Nat) (pieces : List PagePiece) :
    Writes written pieces (textOf written pieces) (writtenAfter written pieces) := by
  induction pieces generalizing written with
  | nil => exact writes_nil
  | cons piece rest induction =>
      cases piece with
      | text content => exact (writes_text content).append (induction written)
      | style sheet =>
          by_cases again : sheet.identity ∈ written
          · have pieces := (writes_style_again again).append (induction written)
            rw [String.empty_append] at pieces
            rw [textOf, writtenAfter, if_pos again, if_pos again]
            exact pieces
          · rw [textOf, writtenAfter, if_neg again, if_neg again]
            exact (writes_style_first again).append (induction _)

end PagePiece

namespace StyleSet

variable {styles : StyleSet} {written : List Nat} {sheet : Style}

theorem records_nil : Records [] [] := fun _ => by
  simp [Serializer.isRecorded]

theorem Records.styleBlock_again (records : styles.Records written)
    (again : sheet.identity ∈ written) : Serializer.styleBlock styles sheet = (none, styles) := by
  unfold Serializer.styleBlock Serializer.record
  rw [if_pos ((records sheet).mpr again)]

theorem Records.styleBlock_first (records : styles.Records written)
    (first : sheet.identity ∉ written) :
    Serializer.styleBlock styles sheet
      = (some ("<style>" ++ sheet.content ++ "</style>"), .style sheet :: styles) := by
  unfold Serializer.styleBlock Serializer.record
  rw [if_neg fun recorded => first ((records sheet).mp recorded)]

theorem Records.cons (records : styles.Records written) :
    Records (.style sheet :: styles) (sheet.identity :: written) := by
  intro other
  have matching : (Value.style sheet).matchesItem (.style other) = true
      ↔ other.identity = sheet.identity := by
    simp only [Value.matchesItem, Value.equalsAs, Value.atomEquals, beq_iff_eq]
    exact eq_comm
  unfold Serializer.isRecorded
  rw [List.any_cons, Bool.or_eq_true, matching, List.mem_cons]
  exact or_congr Iff.rfl (records other)

end StyleSet

/-! ## Accounts of pages -/

/-- An account is one of some pieces of a page, before which given styles have been written. -/
def Account.IsOf (account : Account) (written : List Nat) :
    Except Fault (List PagePiece) → Prop
  | .ok pieces =>
      account.ending = .returned .null ∧
        String.join account.texts = PagePiece.textOf written pieces ∧
        account.styles.Records (PagePiece.writtenAfter written pieces)
  | .error fault => account.ending = .failed (.fault fault)

theorem Account.IsOf.after {account : Account} {written between : List Nat}
    {first : List PagePiece} {rest : Except Fault (List PagePiece)} {texts : List String}
    (isOf : account.IsOf between rest)
    (writes : PagePiece.Writes written first (String.join texts) between) :
    (account.after texts).IsOf written (PagePiece.inOrder (.ok first) rest) := by
  cases rest with
  | error fault => exact isOf
  | ok rest =>
      rcases isOf with ⟨returned, joined, records⟩
      refine ⟨returned, ?_, ?_⟩
      · rw [writes.textOf_append, ← joined]
        exact String.join_append
      · rw [writes.writtenAfter_append]
        exact records

theorem join_piecesOf (text : String) : String.join (piecesOf text) = text := by
  unfold piecesOf
  split
  · next empty => exact (String.isEmpty_iff.mp empty).symm
  · rw [String.join_cons, String.join_nil, String.append_empty]

end HtmlStream
