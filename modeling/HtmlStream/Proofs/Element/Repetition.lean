import HtmlStream.Proofs.Element.Account

/-!
Pieces of a page without the styles that stand further up already: none of the styles is lost, none
is left twice, and each stands where it stood first.
-/
namespace HtmlStream
namespace PagePiece

def markup : PagePiece → String
  | .text content => content
  | .style sheet => "<style>" ++ sheet.content ++ "</style>"

def identity? : PagePiece → Option Nat
  | .text _ => none
  | .style sheet => some sheet.identity

/-- The identities of the styles among some pieces, in order. -/
def identities (pieces : List PagePiece) : List Nat :=
  pieces.filterMap identity?

/-- Pieces without the styles that have been written before, or that stand further up. -/
def unrepeated (written : List Nat) : List PagePiece → List PagePiece
  | [] => []
  | .text content :: rest => .text content :: unrepeated written rest
  | .style sheet :: rest =>
      if sheet.identity ∈ written then unrepeated written rest
      else .style sheet :: unrepeated (sheet.identity :: written) rest

variable (written : List Nat) {identity : Nat} {sheet : Style}

@[simp] theorem identities_nil : identities [] = [] := rfl

@[simp] theorem identities_text (content : String) (rest : List PagePiece) :
    identities (.text content :: rest) = identities rest := rfl

@[simp] theorem identities_style (sheet : Style) (rest : List PagePiece) :
    identities (.style sheet :: rest) = sheet.identity :: identities rest := rfl

@[simp] theorem identities_append (first second : List PagePiece) :
    identities (first ++ second) = identities first ++ identities second :=
  List.filterMap_append

@[simp] theorem identities_texts (texts : List String) : identities (texts.map .text) = [] := by
  induction texts with
  | nil => rfl
  | cons content rest induction => exact induction

theorem unrepeated_again {written : List Nat} (again : sheet.identity ∈ written)
    (rest : List PagePiece) : unrepeated written (.style sheet :: rest) = unrepeated written rest :=
  if_pos again

theorem unrepeated_first {written : List Nat} (first : sheet.identity ∉ written)
    (rest : List PagePiece) : unrepeated written (.style sheet :: rest)
      = .style sheet :: unrepeated (sheet.identity :: written) rest :=
  if_neg first

theorem unrepeated_texts (texts : List String) :
    unrepeated written (texts.map .text) = texts.map .text := by
  induction texts with
  | nil => rfl
  | cons content rest induction => exact congrArg (.text content :: ·) induction

theorem writtenAfter_texts (texts : List String) :
    writtenAfter written (texts.map .text) = written := by
  induction texts with
  | nil => rfl
  | cons content rest induction => exact induction

theorem mem_writtenAfter (pieces : List PagePiece) :
    identity ∈ writtenAfter written pieces ↔ identity ∈ written ∨ identity ∈ identities pieces := by
  induction pieces generalizing written with
  | nil => simp [writtenAfter]
  | cons piece rest induction =>
      cases piece with
      | text content => exact induction written
      | style sheet =>
          rw [writtenAfter, identities_style, List.mem_cons]
          split
          · next again =>
              rw [induction]
              constructor
              · exact Or.imp_right .inr
              · rintro (before | rfl | later)
                · exact .inl before
                · exact .inl again
                · exact .inr later
          · rw [induction, List.mem_cons, or_comm (a := identity = _), or_assoc]

theorem unrepeated_append (first second : List PagePiece) :
    unrepeated written (first ++ second)
      = unrepeated written first ++ unrepeated (writtenAfter written first) second := by
  induction first generalizing written with
  | nil => rfl
  | cons piece rest induction =>
      cases piece with
      | text content => exact congrArg (.text content :: ·) (induction written)
      | style sheet =>
          rw [writtenAfter, List.cons_append]
          by_cases again : sheet.identity ∈ written
          · rw [unrepeated_again again, unrepeated_again again, if_pos again, induction]
          · rw [unrepeated_first again, unrepeated_first again, if_neg again, induction]
            rfl

theorem writtenAfter_unrepeated (pieces : List PagePiece) :
    writtenAfter written (unrepeated written pieces) = writtenAfter written pieces := by
  induction pieces generalizing written with
  | nil => rfl
  | cons piece rest induction =>
      cases piece with
      | text content => exact induction written
      | style sheet =>
          rw [writtenAfter]
          by_cases again : sheet.identity ∈ written
          · rw [unrepeated_again again, if_pos again, induction]
          · rw [unrepeated_first again, if_neg again, writtenAfter, if_neg again, induction]

theorem unrepeated_append_congr {first other : List PagePiece}
    (same : unrepeated [] first = unrepeated [] other) (second : List PagePiece) :
    unrepeated [] (first ++ second) = unrepeated [] (other ++ second) := by
  rw [unrepeated_append, unrepeated_append, same, ← writtenAfter_unrepeated [] first, same,
    writtenAfter_unrepeated]

/-- Nothing is left out but repetitions. -/
theorem mem_identities_unrepeated (pieces : List PagePiece) :
    identity ∈ identities (unrepeated written pieces)
      ↔ identity ∈ identities pieces ∧ identity ∉ written := by
  induction pieces generalizing written with
  | nil => simp [unrepeated]
  | cons piece rest induction =>
      cases piece with
      | text content => exact induction written
      | style sheet =>
          by_cases again : sheet.identity ∈ written
          · rw [unrepeated_again again, induction, identities_style, List.mem_cons]
            refine and_congr_left fun unwritten => (or_iff_right ?_).symm
            rintro rfl
            exact unwritten again
          · rw [unrepeated_first again, identities_style, identities_style, List.mem_cons,
              List.mem_cons, induction, List.mem_cons]
            by_cases same : identity = sheet.identity
            · simp [same, again]
            · simp [same]

/-- No style is repeated. -/
theorem nodup_identities_unrepeated (pieces : List PagePiece) :
    (identities (unrepeated written pieces)).Nodup := by
  induction pieces generalizing written with
  | nil => exact List.nodup_nil
  | cons piece rest induction =>
      cases piece with
      | text content => exact induction written
      | style sheet =>
          by_cases again : sheet.identity ∈ written
          · rw [unrepeated_again again]
            exact induction written
          · rw [unrepeated_first again, identities_style]
            refine List.nodup_cons.mpr ⟨fun member => ?_, induction _⟩
            exact ((mem_identities_unrepeated _ rest).mp member).2 List.mem_cons_self

/-- A style stands where it stood first. -/
theorem unrepeated_of_first {before : List PagePiece} (first : sheet.identity ∉ identities before)
    (after : List PagePiece) :
    ∃ rest, unrepeated [] (before ++ .style sheet :: after)
      = unrepeated [] before ++ .style sheet :: rest := by
  have unwritten : sheet.identity ∉ writtenAfter [] before := by
    simpa [mem_writtenAfter] using first
  rw [unrepeated_append, unrepeated_first unwritten]
  exact ⟨_, rfl⟩

end PagePiece
end HtmlStream
