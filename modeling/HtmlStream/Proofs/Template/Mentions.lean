import HtmlStream.Proofs.Value.Mention
import HtmlStream.Template.Mention
import Mathlib.Data.List.Induction

/-!
The attributes that a reader makes of mentions, and what filling them gives. A reader gathers a value
symbol by symbol, and it joins characters that stand together to one piece; the text of the pieces is
that of the symbols all the same. The main statement is `fillAttributes_map_attribute`.
-/
namespace HtmlStream.Template

open Reading (appendCharacter)

/-- The pieces of a value with one more symbol; the last piece comes first. -/
def gatherSymbol (pieces : List Piece) : Symbol → List Piece
  | .character given => appendCharacter given pieces
  | .hole index => .hole index :: pieces

/-- The pieces of a value, the last one first. -/
def gatherPieces (content : List Symbol) : List Piece :=
  content.foldl gatherSymbol []

/-- The attribute that is read from a mention. -/
def Mention.attribute : Mention → Attribute
  | .bare name => .named (String.ofList name) .bare
  | .valued name content =>
      .named (String.ofList name) (.ofPieces (gatherPieces content).reverse)
  | .spread index => .spread index

theorem gatherPieces_concat (content : List Symbol) (symbol : Symbol) :
    gatherPieces (content ++ [symbol]) = gatherSymbol (gatherPieces content) symbol :=
  List.foldl_append

/-- A hole that is the only piece was the only symbol. -/
theorem eq_hole_of_gatherPieces {content : List Symbol} {index : Nat}
    (gathered : gatherPieces content = [.hole index]) : content = [.hole index] := by
  have gathers : ∀ pieces symbol, gatherSymbol pieces symbol ≠ [] := by
    intro pieces symbol
    cases symbol with
    | hole other => exact List.cons_ne_nil _ _
    | character given => rcases pieces with _ | ⟨_ | _, rest⟩ <;> exact List.cons_ne_nil _ _
  rcases List.eq_nil_or_concat content with rfl | ⟨earlier, symbol, rfl⟩
  · cases gathered
  rw [List.concat_eq_append] at gathered ⊢
  rw [gatherPieces_concat] at gathered
  cases symbol with
  | character given =>
      cases pieces : gatherPieces earlier with
      | nil => rw [pieces] at gathered; cases gathered
      | cons last rest => rw [pieces] at gathered; cases last <;> cases gathered
  | hole other =>
      rcases List.cons.inj gathered with ⟨same, none⟩
      cases same
      rcases List.eq_nil_or_concat earlier with rfl | ⟨others, symbol, rfl⟩
      · rfl
      · rw [List.concat_eq_append, gatherPieces_concat] at none
        exact absurd none (gathers _ _)

section Filling

variable (values : List Value)

/-! ## Values -/

/-- The text that is written with one part after the other. -/
def joinedText {α : Type} (write : α → Except Fault String) (parts : List α) :
    Except Fault String := do
  return String.join (← parts.mapM write)

theorem joinedText_concat {α : Type} (write : α → Except Fault String) (parts : List α)
    (last : α) :
    joinedText write (parts ++ [last])
      = (do return (← joinedText write parts) ++ (← write last)) := by
  unfold joinedText
  rw [List.mapM_append, List.mapM_cons, List.mapM_nil]
  cases parts.mapM write with
  | error problem => rfl
  | ok texts =>
      cases write last with
      | error problem => rfl
      | ok text =>
          have joined : String.join (texts ++ [text]) = String.join texts ++ text := by
            rw [String.join_append, String.join_cons, String.join_nil, String.append_empty]
          exact congrArg Except.ok joined

/-- A character that is pushed to a piece is written where it stands. -/
theorem joinedText_gatherSymbol (pieces : List Piece) (symbol : Symbol) :
    joinedText (Piece.fill values) (gatherSymbol pieces symbol).reverse
      = (do return (← joinedText (Piece.fill values) pieces.reverse)
          ++ (← symbol.written values)) := by
  have added : ∀ piece : Piece, piece.fill values = symbol.written values →
      joinedText (Piece.fill values) (piece :: pieces).reverse
        = (do return (← joinedText (Piece.fill values) pieces.reverse)
            ++ (← symbol.written values)) := by
    intro piece alike
    rw [List.reverse_cons, joinedText_concat, alike]
  cases symbol with
  | hole index => exact added (.hole index) rfl
  | character given =>
      rcases pieces with _ | ⟨_ | index, rest⟩
      · exact added (.text (String.singleton given)) rfl
      · rename_i content
        show joinedText (Piece.fill values) (.text (content.push given) :: rest).reverse = _
        rw [List.reverse_cons, List.reverse_cons, joinedText_concat, joinedText_concat]
        cases joinedText (Piece.fill values) rest.reverse with
        | error problem => rfl
        | ok before =>
            have pushed : before ++ content.push given
                = before ++ content ++ String.singleton given := by
              rw [String.push_eq_append, String.append_assoc]
            exact congrArg Except.ok pushed
      · exact added (.text (String.singleton given)) rfl

theorem joinedText_gatherPieces (content : List Symbol) :
    joinedText (Piece.fill values) (gatherPieces content).reverse
      = joinedText (Symbol.written values) content := by
  induction content using List.reverseRecOn with
  | nil => rfl
  | append_singleton earlier symbol induction =>
      rw [gatherPieces_concat, joinedText_gatherSymbol, joinedText_concat, induction]

theorem contentValue_of_not_hole {content : List Symbol}
    (mixed : ∀ index, content ≠ [.hole index]) :
    contentValue values content = (joinedText (Symbol.written values) content).map .text := by
  unfold contentValue joinedText
  split
  · exact absurd rfl (mixed _)
  · cases content.mapM (Symbol.written values) <;> rfl

theorem fill_ofPieces (content : List Symbol) :
    (AttributeValue.ofPieces (gatherPieces content).reverse).fill values
      = contentValue values content := by
  by_cases single : ∃ index, content = [.hole index]
  · rcases single with ⟨index, rfl⟩
    rfl
  have notHole : ∀ index, content ≠ [.hole index] := fun index same => single ⟨index, same⟩
  rw [contentValue_of_not_hole values notHole, ← joinedText_gatherPieces]
  cases pieces : (gatherPieces content).reverse with
  | nil => rfl
  | cons first rest =>
      cases rest with
      | nil =>
          cases first with
          | text text =>
              have joined : String.join [text] = text := by
                rw [String.join_cons, String.join_nil, String.append_empty]
              exact congrArg (fun text => Except.ok (Value.text text)) joined.symm
          | hole index =>
              exact absurd (eq_hole_of_gatherPieces (List.reverse_eq_iff.mp pieces))
                (notHole index)
      | cons second others =>
          have mixed : AttributeValue.ofPieces (first :: second :: others)
              = .mixed (first :: second :: others) := by
            cases first <;> rfl
          rw [mixed, AttributeValue.fill, joinedText]
          cases (first :: second :: others).mapM (Piece.fill values) <;> rfl

/-! ## Attributes -/

/-- What an attribute adds is what its mention says. -/
theorem fill_attribute (before : Entries) (mention : Mention) :
    mention.attribute.fill values before = (mention.entries values).map before.merge := by
  cases mention with
  | bare name => rfl
  | valued name content =>
      rw [Mention.attribute, Attribute.fill, fill_ofPieces, Mention.entries]
      cases contentValue values content <;> rfl
  | spread index =>
      rw [Mention.attribute, Attribute.fill, Mention.entries]
      cases (valueAt values index).asMapping? <;> rfl

theorem foldlM_map_attribute (before : Entries) (mentions : List Mention) :
    (mentions.map Mention.attribute).foldlM (Attribute.fill values) before
      = (Mention.allEntries values mentions).map before.merge := by
  induction mentions generalizing before with
  | nil => rfl
  | cons mention later induction =>
      rw [List.map_cons, List.foldlM_cons, fill_attribute]
      unfold Mention.allEntries at induction ⊢
      rw [List.mapM_cons]
      cases mention.entries values with
      | error problem => rfl
      | ok entries =>
          refine (induction (before.merge entries)).trans ?_
          cases later.mapM (Mention.entries values) with
          | error problem => rfl
          | ok others =>
              refine congrArg Except.ok ?_
              rw [List.flatten_cons, Entries.merge_append]

/-- Filling the attributes of a tag gives what its mentions say, key by key. -/
theorem fillAttributes_map_attribute (mentions : List Mention) :
    fillAttributes values (mentions.map Mention.attribute)
      = (Mention.allEntries values mentions).map (Entries.merge []) :=
  foldlM_map_attribute values [] mentions

end Filling
end HtmlStream.Template
