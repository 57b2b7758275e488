import HtmlStream.Failure.Message
import Mathlib.Data.List.Forall2

/-!
Colored text and the plain text in it. Escape sequences that colour a text are taken out again whatever
stands around them, provided that the text itself has no escape character. Where only whole words are
colored, a word occurs in the colored text exactly if it occurs in the plain one. The main statements
are `Tinted.stripsTo` and `Tinted.occursIn_eq`.
-/
namespace HtmlStream

/-! ## Text without escape characters -/

/-- A text in which no escape sequence can begin. -/
def IsUnescaped (text : String) : Prop :=
  escapeCharacter ∉ text.toList

instance (text : String) : Decidable (IsUnescaped text) :=
  inferInstanceAs (Decidable (escapeCharacter ∉ text.toList))

@[simp] theorem isUnescaped_append {left right : String} :
    IsUnescaped (left ++ right) ↔ IsUnescaped left ∧ IsUnescaped right := by
  simp [IsUnescaped]

theorem isUnescaped_intercalate {separator : String} (apart : IsUnescaped separator)
    {parts : List String} (free : ∀ part ∈ parts, IsUnescaped part) :
    IsUnescaped (separator.intercalate parts) := by
  induction parts with
  | nil => simp [IsUnescaped]
  | cons head tail induction =>
      obtain ⟨first, rest⟩ := List.forall_mem_cons.mp free
      cases tail with
      | nil => simpa using first
      | cons second later => simpa [String.intercalate_cons_cons, first, apart] using induction rest

theorem digitChar_ne_escapeCharacter (digit : Nat) : Nat.digitChar digit ≠ escapeCharacter := by
  by_cases small : digit < 16
  · have hexadecimal : ∀ digit < 16, Nat.digitChar digit ≠ escapeCharacter := by decide
    exact hexadecimal digit small
  · have star : Nat.digitChar digit = '*' := by
      unfold Nat.digitChar
      simp (disch := omega) only [if_neg]
    rw [star]
    decide

/-- The induction is on the number: without its last digit it is smaller. -/
theorem escapeCharacter_not_mem_toDigits {base : Nat} (several : 1 < base) (number : Nat) :
    escapeCharacter ∉ Nat.toDigits base number := by
  induction number using Nat.strongRecOn with
  | ind number induction =>
      rw [Nat.toDigits_eq_if several]
      split
      · simpa using (digitChar_ne_escapeCharacter number).symm
      · have positive : 0 < number := by omega
        have earlier := induction (number / base) (Nat.div_lt_self positive several)
        simpa [earlier] using (digitChar_ne_escapeCharacter (number % base)).symm

theorem isUnescaped_toString (number : Int) : IsUnescaped (toString number) := by
  have several : 1 < 10 := by decide
  cases number with
  | ofNat number =>
      have written : toString (Int.ofNat number) = String.ofList (Nat.toDigits 10 number) := rfl
      rw [written]
      simpa [IsUnescaped] using escapeCharacter_not_mem_toDigits several number
  | negSucc number =>
      have written : toString (Int.negSucc number)
          = "-" ++ String.ofList (Nat.toDigits 10 (number + 1)) := rfl
      have sign : IsUnescaped "-" := by decide
      rw [written, isUnescaped_append]
      exact ⟨sign, by
        simpa [IsUnescaped] using escapeCharacter_not_mem_toDigits several (number + 1)⟩

namespace EscapeReading

/-! ## Taking escape sequences out -/

theorem strip_of_free {text : List Char} (free : escapeCharacter ∉ text) (rest : List Char) :
    outside.strip (text ++ rest) = text ++ outside.strip rest := by
  induction text with
  | nil => rfl
  | cons character text induction =>
      have different : character ≠ escapeCharacter := fun equal =>
        free (equal ▸ List.mem_cons_self)
      have later := induction fun member => free (List.mem_cons_of_mem character member)
      simp [strip, step, giveUp, different, pending, later]

theorem strip_sequence (style : TextStyle) (rest : List Char) :
    outside.strip (style.sequence.toList ++ rest) = outside.strip rest := by
  cases style <;> simp [TextStyle.sequence, TextStyle.parameter] <;> rfl

end EscapeReading

/-- Taking the escape sequences out of `colored` leaves `plain`, whatever comes after it. -/
def StripsTo (colored plain : String) : Prop :=
  ∀ rest, EscapeReading.outside.strip (colored.toList ++ rest)
    = plain.toList ++ EscapeReading.outside.strip rest

namespace StripsTo

variable {colored plain : String}

theorem of_isUnescaped (free : IsUnescaped plain) : StripsTo plain plain :=
  EscapeReading.strip_of_free free

theorem sequence (style : TextStyle) : StripsTo style.sequence "" :=
  EscapeReading.strip_sequence style

theorem append (strips : StripsTo colored plain) {later shown : String}
    (also : StripsTo later shown) : StripsTo (colored ++ later) (plain ++ shown) := by
  intro rest
  rw [String.toList_append, String.toList_append, List.append_assoc, strips, also,
    List.append_assoc]

theorem sequences (styles : List TextStyle) :
    StripsTo (String.join (styles.map TextStyle.sequence)) "" := by
  induction styles with
  | nil => exact fun rest => rfl
  | cons style styles induction =>
      rw [List.map_cons, String.join_cons]
      exact (sequence style).append induction

theorem colorize (palette : Palette) (styles : List TextStyle) (free : IsUnescaped plain) :
    StripsTo (palette.colorize styles plain) plain := by
  have bare : StripsTo plain plain := .of_isUnescaped free
  unfold Palette.colorize
  split
  · exact bare
  · exact bare
  · simpa using ((sequences styles).append bare).append (sequence .reset)

theorem stripColors_eq (strips : StripsTo colored plain) : stripColors colored = plain := by
  have stripped := strips []
  rw [List.append_nil] at stripped
  rw [stripColors, stripped]
  simp [EscapeReading.strip, EscapeReading.pending]

end StripsTo

/-! ## Where words occur -/

namespace EngineError

theorem occursIn_iff {part text : List Char} : occursIn part text = true ↔ part <:+: text := by
  induction text with
  | nil => simp [occursIn]
  | cons character text induction =>
      rw [occursIn, Bool.or_eq_true, List.isPrefixOf_iff_prefix, induction, List.infix_cons_iff]

end EngineError

theorem prefix_of_separated (before : List Char) {part after : List Char} {separator : Char}
    (apart : separator ∉ part) (leads : part <+: before ++ separator :: after) : part <+: before := by
  rcases List.prefix_or_prefix_of_prefix leads (List.prefix_append before _) with within | longer
  · exact within
  · obtain ⟨rest, rfl⟩ := longer
    rw [List.prefix_append_right_inj] at leads
    cases rest with
    | nil => simp
    | cons first rest =>
        obtain ⟨rfl, -⟩ := List.cons_prefix_cons.mp leads
        exact absurd (by simp) apart

/-- A part without a certain character occurs before it or after it. -/
theorem infix_separated_iff {part before after : List Char} {separator : Char}
    (apart : separator ∉ part) :
    part <:+: before ++ separator :: after ↔ part <:+: before ∨ part <:+: after := by
  constructor
  · intro occurs
    induction before with
    | nil =>
        rcases List.infix_cons_iff.mp occurs with leads | later
        · exact .inl (prefix_of_separated [] apart leads).isInfix
        · exact .inr later
    | cons character before induction =>
        rcases List.infix_cons_iff.mp occurs with leads | later
        · exact .inl (prefix_of_separated (character :: before) apart leads).isInfix
        · exact (induction later).imp_left fun within =>
            within.trans (List.suffix_cons character before).isInfix
  · rintro (within | within)
    · exact within.trans (List.prefix_append before _).isInfix
    · exact within.trans ((List.suffix_cons separator after).trans
        (List.suffix_append before _)).isInfix

/-- A word that is set apart from blanks and from escape sequences: none of its characters separates
words, begins or ends a sequence, and one is in no sequence at all. -/
structure IsWord (word : List Char) : Prop where
  blank : ' ' ∉ word
  lineFeed : '\n' ∉ word
  escape : escapeCharacter ∉ word
  final : 'm' ∉ word
  initial : 'W' ∈ word

theorem ErrorCode.isWord_text (code : ErrorCode) : IsWord code.text.toList := by
  cases code <;> constructor <;> decide

namespace IsWord

variable {word : List Char} (isWord : IsWord word)

include isWord

/-- Nothing is read of a word while a sequence is. -/
theorem infix_sequence_iff (style : TextStyle) (rest : List Char) :
    word <:+: style.sequence.toList ++ rest ↔ word <:+: rest := by
  have split : style.sequence.toList
      = escapeCharacter :: '[' :: style.parameter.toList ++ ['m'] := by
    cases style <;> decide
  have outside : ¬ word <:+: escapeCharacter :: '[' :: style.parameter.toList := by
    intro occurs
    have initial := occurs.subset isWord.initial
    cases style <;> revert initial <;> decide
  rw [split, List.append_assoc, List.singleton_append, infix_separated_iff isWord.final]
  exact or_iff_right outside

theorem infix_sequences_iff (styles : List TextStyle) (rest : List Char) :
    word <:+: (String.join (styles.map TextStyle.sequence)).toList ++ rest ↔ word <:+: rest := by
  induction styles with
  | nil => rfl
  | cons style styles induction =>
      rw [List.map_cons, String.join_cons, String.toList_append, List.append_assoc,
        isWord.infix_sequence_iff, induction]

theorem infix_colorize_iff (palette : Palette) (styles : List TextStyle) (text : String) :
    word <:+: (palette.colorize styles text).toList ↔ word <:+: text.toList := by
  have ended : ¬ word <:+: ['[', '0', 'm'] := fun occurs =>
    absurd (occurs.subset isWord.initial) (by decide)
  have reset : TextStyle.reset.sequence.toList = escapeCharacter :: ['[', '0', 'm'] := by decide
  unfold Palette.colorize
  split
  · rfl
  · rfl
  · rw [String.toList_append, String.toList_append, List.append_assoc, isWord.infix_sequences_iff,
      reset, infix_separated_iff isWord.escape]
    exact or_iff_left ended

end IsWord

/-! ## Colored words -/

/-- A text some of whose words are colored, and the same text without colours. What is colored stands
between blanks or line feeds. -/
inductive Tinted (palette : Palette) : String → String → Prop
  | bare {text : String} (free : IsUnescaped text) : Tinted palette text text
  | styled {text : String} (styles : List TextStyle) (free : IsUnescaped text) :
      Tinted palette (palette.colorize styles text) text
  | joined {colored plain later shown separator : String}
      (separates : separator = " " ∨ separator = "\n") (before : Tinted palette colored plain)
      (after : Tinted palette later shown) :
      Tinted palette (colored ++ separator ++ later) (plain ++ separator ++ shown)

namespace Tinted

variable {palette : Palette} {colored plain : String}

theorem stripsTo (tinted : Tinted palette colored plain) : StripsTo colored plain := by
  induction tinted with
  | bare free => exact .of_isUnescaped free
  | styled styles free => exact .colorize palette styles free
  | joined separates _ _ before after =>
      have free : ∀ separator, separator = " " ∨ separator = "\n" → IsUnescaped separator := by
        rintro _ (rfl | rfl) <;> decide
      exact (before.append (.of_isUnescaped (free _ separates))).append after

theorem infix_iff {word : List Char} (isWord : IsWord word) (tinted : Tinted palette colored plain) :
    word <:+: colored.toList ↔ word <:+: plain.toList := by
  induction tinted with
  | bare => rfl
  | styled styles => exact isWord.infix_colorize_iff palette styles _
  | @joined colored plain later shown _ separates _ _ before after =>
      have separated : ∀ character, character ∉ word → ∀ left right : String,
          word <:+: (left ++ String.singleton character ++ right).toList
            ↔ word <:+: left.toList ∨ word <:+: right.toList := by
        intro character apart left right
        simpa using infix_separated_iff apart
      rcases separates with rfl | rfl
      · exact (separated ' ' isWord.blank colored later).trans
          ((or_congr before after).trans (separated ' ' isWord.blank plain shown).symm)
      · exact (separated '\n' isWord.lineFeed colored later).trans
          ((or_congr before after).trans (separated '\n' isWord.lineFeed plain shown).symm)

/-- A word occurs in the colored text exactly if it occurs in the plain one. -/
theorem occursIn_eq {word : List Char} (isWord : IsWord word)
    (tinted : Tinted palette colored plain) :
    EngineError.occursIn word colored.toList = EngineError.occursIn word plain.toList := by
  rw [Bool.eq_iff_iff, EngineError.occursIn_iff, EngineError.occursIn_iff]
  exact tinted.infix_iff isWord

/-- Lines that are colored word by word, one below the other. -/
theorem stackedLines {lines shown : List String} (tinted : List.Forall₂ (Tinted palette) lines shown) :
    Tinted palette (stackedLines lines) (HtmlStream.stackedLines shown) := by
  unfold HtmlStream.stackedLines
  induction tinted with
  | nil => exact .bare (by decide)
  | cons first rest induction =>
      cases rest with
      | nil => simpa using first
      | cons second later =>
          rw [String.intercalate_cons_cons, String.intercalate_cons_cons]
          exact .joined (.inr rfl) first induction

end Tinted

end HtmlStream
