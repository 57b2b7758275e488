import HtmlStream.Template.Holes

/-!
The names of tags as they are read. A name grows by one character at a time, unless it has become the
opener of a comment or of a declaration; no opener begins with another one.
-/
namespace HtmlStream.Template

/-! ## Openers -/

theorem lowercaseCharacter_of_isBlank {character : Char} (blank : Text.isBlank character = true) :
    Text.lowercaseCharacter character = character := by
  unfold Text.isBlank at blank
  simp only [Bool.or_eq_true, Bool.and_eq_true, decide_eq_true_eq, beq_iff_eq] at blank
  unfold Text.lowercaseCharacter
  split
  next kelvin =>
    rw [kelvin] at blank
    exact absurd blank (by decide)
  next =>
    unfold Char.toLower
    rw [dif_neg]
    rintro ⟨above, below⟩
    have least : 65 ≤ character.toNat := above
    have greatest : character.toNat ≤ 90 := below
    omega

/-- The characters of the keyword of declarations end no tag name. -/
theorem isNameCharacter_of_keyword {character : Char}
    (keyword : Text.lowercaseCharacter character ∈ "!doctype".toList) :
    IsNameCharacter character := by
  refine ⟨?_, ?_, ?_⟩
  · have unbroken : "!doctype".toList.all (fun other => !Text.isBlank other) = true := by decide
    cases blank : Text.isBlank character with
    | false => rfl
    | true =>
        rw [lowercaseCharacter_of_isBlank blank] at keyword
        have unblank := List.all_eq_true.mp unbroken _ keyword
        rw [blank] at unblank
        exact absurd unblank (by decide)
  · rintro rfl
    exact absurd keyword (by decide)
  · rintro rfl
    exact absurd keyword (by decide)

theorem lowercase_ofList_eq_keyword {opener : List Char} :
    Text.lowercase (String.ofList opener) = "!doctype"
      ↔ opener.map Text.lowercaseCharacter = "!doctype".toList := by
  unfold Text.lowercase
  rw [← String.toList_inj, String.toList_ofList, String.toList_ofList]

/-- An opener is spelled in one of two ways. -/
theorem isOpener_iff {opener : List Char} :
    IsOpener opener ↔ opener = "!--".toList ∨
      opener.map Text.lowercaseCharacter = "!doctype".toList := by
  unfold IsOpener
  rw [lowercase_ofList_eq_keyword, ← String.toList_inj, String.toList_ofList]

namespace IsOpener

variable {opener shorter : List Char}

theorem isNameCharacter (opens : IsOpener opener) {character : Char}
    (member : character ∈ opener) : IsNameCharacter character := by
  rcases isOpener_iff.mp opens with rfl | keyword
  · have unbroken : "!--".toList.all (fun other =>
        !Text.isBlank other && other != '/' && other != '>') = true := by decide
    have here := List.all_eq_true.mp unbroken character member
    simp only [Bool.and_eq_true, Bool.not_eq_true', bne_iff_ne] at here
    exact ⟨here.1.1, here.1.2, here.2⟩
  · exact isNameCharacter_of_keyword (keyword ▸ List.mem_map_of_mem member)

theorem eq_of_isPrefix (opens : IsOpener opener) (within : shorter <+: opener)
    (alike : IsOpener shorter) : shorter = opener := by
  have lowered := within.map Text.lowercaseCharacter
  rcases isOpener_iff.mp opens with rfl | keyword
  · rcases isOpener_iff.mp alike with rfl | other
    · rfl
    · rw [other] at lowered
      exact absurd lowered (by decide)
  · rcases isOpener_iff.mp alike with rfl | other
    · rw [keyword] at lowered
      exact absurd lowered (by decide)
    · refine within.eq_of_length ?_
      have same := congrArg List.length (other.trans keyword.symm)
      rwa [List.length_map, List.length_map] at same

theorem ne_nil (opens : IsOpener opener) : opener ≠ [] := by
  rintro rfl
  rcases isOpener_iff.mp opens with none | none <;> cases none

end IsOpener

/-! ## Reading -/

namespace Reading

variable {name : List Char} {character : Char}

theorem inTagName_of_isNameCharacter (goesOn : IsNameCharacter character) (name : List Char)
    (hole : Option Nat) :
    inTagName name hole character = quiet (afterTagName (character :: name) hole) := by
  simp [inTagName, goesOn.1, goesOn.2.1, goesOn.2.2]

theorem afterTagName_of_not_isOpener (goesOn : ¬ IsOpener name.reverse) (hole : Option Nat) :
    afterTagName name hole = .tagName name hole := by
  have noComment : nameOf name ≠ "!--" := fun comment => goesOn (.inl comment)
  have noDeclaration : Text.lowercase (nameOf name) ≠ "!doctype" :=
    fun declaration => goesOn (.inr declaration)
  unfold afterTagName
  rw [if_neg noComment, if_neg noDeclaration]

theorem afterTagName_dashes (hole : Option Nat) :
    afterTagName "!--".toList.reverse hole = .comment [] := rfl

theorem afterTagName_keyword
    (keyword : name.reverse.map Text.lowercaseCharacter = "!doctype".toList) (hole : Option Nat) :
    afterTagName name hole = .declaration name := by
  have noComment : nameOf name ≠ "!--" := by
    intro comment
    have spelled : name.reverse = "!--".toList := by rw [← comment, nameOf, String.toList_ofList]
    rw [spelled] at keyword
    exact absurd keyword (by decide)
  have declares : Text.lowercase (nameOf name) = "!doctype" :=
    lowercase_ofList_eq_keyword.mpr keyword
  unfold afterTagName
  rw [if_neg noComment, if_pos declares]

/-- An opener begins a comment or a declaration, and the hole before it is gone. -/
theorem holes_afterTagName (opens : IsOpener name.reverse) (hole : Option Nat) :
    (afterTagName name hole).holes = [] := by
  rcases isOpener_iff.mp opens with dashes | keyword
  · rw [List.reverse_eq_iff.mp dashes, afterTagName_dashes]
    rfl
  · rw [afterTagName_keyword keyword]
    rfl

end Reading

/-- Each of some characters is gathered after those before it, whatever follows. -/
def Gathers (state : List Char → Reading) (chars run : List Char) : Prop :=
  ∀ before character, before ++ [character] <+: chars → ∀ following,
    (state (before.reverse ++ run)).readCharacter character following
      = Reading.quiet (state (character :: (before.reverse ++ run)))

namespace Gathers

variable {state : List Char → Reading} {first : Char} {others run : List Char}

theorem head (gathers : Gathers state (first :: others) run) (following : Option Char) :
    (state run).readCharacter first following = Reading.quiet (state (first :: run)) :=
  gathers [] first (List.prefix_append [first] others) following

theorem tail (gathers : Gathers state (first :: others) run) :
    Gathers state others (first :: run) := by
  intro before character within following
  have gathered := gathers (first :: before) character
    (List.cons_prefix_cons.mpr ⟨rfl, within⟩) following
  rw [List.reverse_cons, List.append_assoc] at gathered
  exact gathered

end Gathers

/-- A tag name grows, unless it becomes an opener. -/
theorem gathers_tagName {name : List Char} (hole : Option Nat)
    (spelled : ∀ character ∈ name, IsNameCharacter character)
    (plain : ∀ shorter, shorter <+: name → ¬ IsOpener shorter) :
    Gathers (fun read => .tagName read hole) name [] := by
  intro before character within following
  have member := within.subset (List.mem_append_right before (List.mem_singleton_self character))
  have goesOn : ¬ IsOpener (character :: (before.reverse ++ [])).reverse := by
    rw [List.append_nil, List.reverse_cons, List.reverse_reverse]
    exact plain _ within
  show Reading.inTagName _ _ _ = _
  rw [Reading.inTagName_of_isNameCharacter (spelled character member),
    Reading.afterTagName_of_not_isOpener goesOn]

/-- All of an opener but its last character is gathered, and the last one tells what it opens. -/
theorem IsOpener.exists_lead {opener : List Char} (opens : IsOpener opener) (hole : Option Nat) :
    ∃ lead last, opener = lead ++ [last] ∧ Gathers (fun read => .tagName read hole) lead [] ∧
      ∀ following, (Reading.tagName lead.reverse hole).readCharacter last following
        = Reading.quiet (Reading.afterTagName opener.reverse hole) := by
  rcases List.eq_nil_or_concat opener with empty | ⟨lead, last, whole⟩
  · exact absurd empty opens.ne_nil
  · rw [List.concat_eq_append] at whole
    subst whole
    refine ⟨lead, last, rfl, ?_, ?_⟩
    · refine gathers_tagName hole
        (fun character member => opens.isNameCharacter (List.mem_append_left _ member)) ?_
      intro shorter within alike
      have whole := opens.eq_of_isPrefix (within.trans (List.prefix_append lead [last])) alike
      have longer := within.length_le
      rw [whole, List.length_append] at longer
      exact absurd longer (by simp)
    · intro following
      rw [List.reverse_append]
      exact Reading.inTagName_of_isNameCharacter
        (opens.isNameCharacter (List.mem_append_right lead (List.mem_singleton_self last))) _ _

end HtmlStream.Template
