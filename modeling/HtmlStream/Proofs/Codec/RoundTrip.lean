import HtmlStream.Codec.Encoding
import Mathlib.Algebra.Group.Nat.Defs
import Mathlib.Data.List.TakeWhile

/-!
What the codecs have in common. A codec encodes each character for itself, after a mark if it writes
one, and decoding gives the characters back, except for one mark at the start. So a text that is
encoded in parts keeps a mark between any two of them. The main statements are `encode_eq_ok` and
`decode_flatten`.
-/
namespace HtmlStream.Codec

/-! ## Encoding character by character -/

/-- What a codec writes before a text. -/
def mark : Codec → List Char
  | .utf8Marked | .utf16 none | .utf32 none => [byteOrderMark]
  | .ascii | .latin1 | .utf8 | .utf16 (some _) | .utf32 (some _) => []

/-- The codec that writes the same without a mark. -/
def unmarked : Codec → Codec
  | .utf8Marked => .utf8
  | .utf16 order => .utf16 (some (order.getD .little))
  | .utf32 order => .utf32 (some (order.getD .little))
  | codec => codec

/-- A codec has bytes for a character. -/
def Covers (codec : Codec) (character : Char) : Prop :=
  ∀ limit ∈ codec.repertoire.map Prod.fst, character.toNat < limit

/-- The bytes of one character, without a mark. -/
def characterBytes (codec : Codec) (character : Char) : List UInt8 :=
  match codec with
  | .ascii | .latin1 => [UInt8.ofNat character.toNat]
  | .utf8 | .utf8Marked => String.utf8EncodeChar character
  | .utf16 order => (utf16Units character).flatMap (bytesOf (order.getD .little) 2)
  | .utf32 order => bytesOf (order.getD .little) 4 character.toNat

/-- The bytes of a text, with the mark. -/
def markedBytes (codec : Codec) (text : List Char) : List UInt8 :=
  (codec.mark ++ text).flatMap codec.characterBytes

theorem covers_of_unlimited {codec : Codec} (unlimited : codec.repertoire = none)
    (character : Char) : codec.Covers character := by
  intro limit found
  rw [unlimited] at found
  cases found

theorem mark_covered (codec : Codec) : ∀ character ∈ codec.mark, codec.Covers character := by
  cases codec with
  | utf8Marked | utf16 | utf32 => exact fun _ _ => covers_of_unlimited rfl _
  | ascii | latin1 | utf8 => exact fun _ member => absurd member List.not_mem_nil

theorem narrowBytes_eq_ok {codec : Codec} {limit : Nat} {text : List Char} {bytes : List UInt8} :
    narrowBytes codec limit text = .ok bytes
      ↔ (∀ character ∈ text, character.toNat < limit) ∧
        text.map (fun character => UInt8.ofNat character.toNat) = bytes := by
  unfold narrowBytes
  dsimp only
  generalize decides : (fun character : Char => decide (character.toNat < limit)) = fit
  have fits_iff : (∀ character ∈ text, fit character)
      ↔ ∀ character ∈ text, character.toNat < limit := by
    simp [← decides]
  rw [← fits_iff]
  split
  · next none =>
    have fits := List.dropWhile_eq_nil_iff.mp none
    rw [List.takeWhile_eq_self_iff.mpr fits]
    exact ⟨fun same => ⟨fits, Except.ok.inj same⟩, fun both => congrArg _ both.2⟩
  · next beyond =>
    exact ⟨fun same => (nomatch same),
      fun both => absurd (List.dropWhile_eq_nil_iff.mpr both.1) beyond⟩

/-- A codec that covers all characters encodes every text. -/
theorem encode_of_unlimited {codec : Codec} (unlimited : codec.repertoire = none)
    (text : List Char) : codec.encode text = .ok (codec.markedBytes text) := by
  cases codec with
  | ascii | latin1 => cases unlimited
  | utf8 | utf8Marked => rfl
  | utf16 order | utf32 order => cases order <;> rfl

/-- A text can be encoded if and only if all its characters are covered; its bytes are those of the
mark and of each character then. -/
theorem encode_eq_ok {codec : Codec} {text : List Char} {bytes : List UInt8} :
    codec.encode text = .ok bytes
      ↔ (∀ character ∈ text, codec.Covers character) ∧ codec.markedBytes text = bytes := by
  cases limited : codec.repertoire with
  | none =>
      have covered : ∀ character ∈ text, codec.Covers character :=
        fun character _ => covers_of_unlimited limited character
      rw [encode_of_unlimited limited]
      exact ⟨fun same => ⟨covered, Except.ok.inj same⟩, fun both => congrArg _ both.2⟩
  | some limit =>
      have covers_iff (character : Char) : codec.Covers character ↔ character.toNat < limit.1 := by
        simp [Covers, limited]
      cases codec with
      | ascii | latin1 =>
          cases limited
          simp only [covers_iff]
          refine narrowBytes_eq_ok.trans ?_
          rw [List.map_eq_flatMap]
          rfl
      | utf8 | utf8Marked | utf16 | utf32 => cases limited

/-! ## Decoding a character -/

section Utf8

variable {first second third fourth : UInt8} (rest : List UInt8)

theorem utf8Characters_one (lead : first.toNat < 0x80) :
    utf8Characters (first :: rest) = Char.ofNat first.toNat :: utf8Characters rest := by
  rw [utf8Characters.eq_def]
  exact if_pos lead

theorem utf8Characters_two (lead : 0x80 ≤ first.toNat) (short : first.toNat < 0xe0) :
    utf8Characters (first :: second :: rest)
      = Char.ofNat (first.toNat % 0x20 * 0x40 + continuation second) :: utf8Characters rest := by
  rw [utf8Characters.eq_def]
  simp only [if_neg (Nat.not_lt.mpr lead), if_pos short]

theorem utf8Characters_three (lead : 0xe0 ≤ first.toNat) (short : first.toNat < 0xf0) :
    utf8Characters (first :: second :: third :: rest)
      = Char.ofNat (first.toNat % 0x10 * 0x1000 + continuation second * 0x40 + continuation third)
          :: utf8Characters rest := by
  have notOne : ¬ first.toNat < 0x80 := by omega
  rw [utf8Characters.eq_def]
  simp only [if_neg notOne, if_neg (Nat.not_lt.mpr lead), if_pos short]

theorem utf8Characters_four (lead : 0xf0 ≤ first.toNat) :
    utf8Characters (first :: second :: third :: fourth :: rest)
      = Char.ofNat (first.toNat % 0x8 * 0x40000 + continuation second * 0x1000
          + continuation third * 0x40 + continuation fourth) :: utf8Characters rest := by
  have notOne : ¬ first.toNat < 0x80 := by omega
  have notTwo : ¬ first.toNat < 0xe0 := by omega
  rw [utf8Characters.eq_def]
  simp only [if_neg notOne, if_neg notTwo, if_neg (Nat.not_lt.mpr lead)]

end Utf8

theorem toNat_byte {value : Nat} (small : value < 256) : (UInt8.ofNat value).toNat = value := by
  rw [UInt8.toNat_ofNat', Nat.mod_eq_of_lt small]

theorem ofNat_of_eq {character : Char} {code : Nat} (same : code = character.toNat) :
    Char.ofNat code = character := by
  rw [same, Char.ofNat_toNat]

theorem toNat_lt (character : Char) : character.toNat < 0x110000 := by
  have := character.valid
  unfold Char.toNat
  grind

/-- No character is one half of a surrogate pair. -/
theorem toNat_not_surrogate (character : Char) :
    ¬ (0xd800 ≤ character.toNat ∧ character.toNat < 0xe000) := by
  have := character.valid
  unfold Char.toNat
  grind

/-- The first character of a text in UTF-8 is decoded whatever comes after it. The cases are the
numbers of its bytes. -/
theorem utf8Characters_append (character : Char) (rest : List UInt8) :
    utf8Characters (String.utf8EncodeChar character ++ rest)
      = character :: utf8Characters rest := by
  have bound := toNat_lt character
  unfold String.utf8EncodeChar
  rw [show character.val.toNat = character.toNat from rfl]
  generalize code_eq : character.toNat = code at bound
  have decoded {decoded : Nat} (same : decoded = code) : Char.ofNat decoded = character :=
    ofNat_of_eq (same.trans code_eq.symm)
  dsimp only
  split
  · next one =>
    have first := toNat_byte (show code < 256 by omega)
    rw [List.singleton_append, utf8Characters_one rest (by omega), first, decoded rfl]
  split
  · next one two =>
    have first := toNat_byte (show code / 64 % 32 + 192 < 256 by omega)
    have second := toNat_byte (show code % 64 + 128 < 256 by omega)
    refine (utf8Characters_two rest (by omega) (by omega)).trans ?_
    simp only [continuation, first, second]
    rw [decoded (by omega)]
  split
  · next one two three =>
    have first := toNat_byte (show code / 4096 % 16 + 224 < 256 by omega)
    have second := toNat_byte (show code / 64 % 64 + 128 < 256 by omega)
    have third := toNat_byte (show code % 64 + 128 < 256 by omega)
    refine (utf8Characters_three rest (by omega) (by omega)).trans ?_
    simp only [continuation, first, second, third]
    rw [decoded (by omega)]
  · next one two three =>
    have first := toNat_byte (show code / 262144 % 8 + 240 < 256 by omega)
    have second := toNat_byte (show code / 4096 % 64 + 128 < 256 by omega)
    have third := toNat_byte (show code / 64 % 64 + 128 < 256 by omega)
    have fourth := toNat_byte (show code % 64 + 128 < 256 by omega)
    refine (utf8Characters_four rest (by omega)).trans ?_
    simp only [continuation, first, second, third, fourth]
    rw [decoded (by omega)]

/-- The digits of a number in base 256 give the number again, as far as they reach. -/
theorem valueOf_bytesOf (order : ByteOrder) (width value : Nat) :
    valueOf order (bytesOf order width value) = value % 256 ^ width := by
  have digits (start : Nat) : ((List.range width).map fun place =>
        UInt8.ofNat (value >>> (8 * place))).reverse.foldl
          (fun value byte => 256 * value + byte.toNat) start
      = start * 256 ^ width + value % 256 ^ width := by
    induction width generalizing start with
    | zero => simp [Nat.mod_one]
    | succ width induction =>
        have digit : (UInt8.ofNat (value >>> (8 * width))).toNat = value / 256 ^ width % 256 := by
          rw [UInt8.toNat_ofNat', Nat.shiftRight_eq_div_pow, Nat.pow_mul]
        rw [List.range_succ, List.map_append, List.reverse_append]
        simp only [List.map_cons, List.map_nil, List.reverse_singleton, List.singleton_append,
          List.foldl_cons]
        rw [induction, digit, Nat.pow_succ, Nat.mod_mul]
        grind
  have := digits 0
  cases order <;> simpa [valueOf, bytesOf] using this

theorem utf32Characters_append (order : ByteOrder) (character : Char) (rest : List UInt8) :
    utf32Characters order (bytesOf order 4 character.toNat ++ rest)
      = character :: utf32Characters order rest := by
  have bound := toNat_lt character
  have value := valueOf_bytesOf order 4 character.toNat
  have four : ∃ first second third fourth,
      bytesOf order 4 character.toNat = [first, second, third, fourth] := by
    cases order <;> exact ⟨_, _, _, _, rfl⟩
  rcases four with ⟨first, second, third, fourth, bytes_eq⟩
  rw [bytes_eq] at value ⊢
  refine (utf32Characters.eq_1 ..).trans ?_
  rw [value, Nat.mod_eq_of_lt (by omega), Char.ofNat_toNat]
  rfl

theorem utf16Characters_cons (order : ByteOrder) (first second third fourth : UInt8)
    (rest : List UInt8) :
    utf16Characters order (first :: second :: third :: fourth :: rest)
      = if 0xd800 ≤ valueOf order [first, second] && valueOf order [first, second] < 0xdc00 then
          Char.ofNat (0x10000 + (valueOf order [first, second] - 0xd800) * 0x400
            + (valueOf order [third, fourth] - 0xdc00)) :: utf16Characters order rest
        else Char.ofNat (valueOf order [first, second])
          :: utf16Characters order (third :: fourth :: rest) :=
  rfl

/-- The first character of a text in UTF-16 is decoded unless one byte alone comes after it. -/
theorem utf16Characters_append (order : ByteOrder) (character : Char) {rest : List UInt8}
    (whole : rest.length ≠ 1) :
    utf16Characters order ((utf16Units character).flatMap (bytesOf order 2) ++ rest)
      = character :: utf16Characters order rest := by
  have bound := toNat_lt character
  have two (unit : Nat) : ∃ first second, bytesOf order 2 unit = [first, second] := by
    cases order <;> exact ⟨_, _, rfl⟩
  unfold utf16Units
  dsimp only
  split
  · next basic =>
    have unit := valueOf_bytesOf order 2 character.toNat
    have single := toNat_not_surrogate character
    rcases two character.toNat with ⟨first, second, bytes_eq⟩
    rw [List.flatMap_singleton, bytes_eq]
    rw [bytes_eq, Nat.mod_eq_of_lt (by omega)] at unit
    match rest, whole with
    | [], _ =>
        have last : [Char.ofNat (valueOf order [first, second])] = [character] := by
          rw [unit, Char.ofNat_toNat]
        exact last
    | third :: fourth :: rest, _ =>
        refine (utf16Characters_cons ..).trans ?_
        rw [unit, Char.ofNat_toNat]
        exact if_neg (by simp; omega)
  · next beyond =>
    have high := valueOf_bytesOf order 2 (0xd800 + (character.toNat - 0x10000) / 0x400)
    have low := valueOf_bytesOf order 2 (0xdc00 + (character.toNat - 0x10000) % 0x400)
    rcases two (0xd800 + (character.toNat - 0x10000) / 0x400) with ⟨first, second, high_eq⟩
    rcases two (0xdc00 + (character.toNat - 0x10000) % 0x400) with ⟨third, fourth, low_eq⟩
    rw [high_eq, Nat.mod_eq_of_lt (by omega)] at high
    rw [low_eq, Nat.mod_eq_of_lt (by omega)] at low
    simp only [List.flatMap_cons, List.flatMap_nil, List.append_nil, high_eq, low_eq]
    refine (utf16Characters_cons ..).trans ?_
    rw [high, low, if_pos (by simp; omega)]
    exact congrArg (· :: utf16Characters order rest) (ofNat_of_eq (by omega))

/-! ## Decoding texts -/

theorem utf16Bytes_length_ne_one (order : ByteOrder) (text : List Char) :
    (utf16Bytes order text).length ≠ 1 := by
  have even : (utf16Bytes order text).length % 2 = 0 := by
    have unit (value : Nat) : (bytesOf order 2 value).length = 2 := by
      cases order <;> rfl
    induction text with
    | nil => rfl
    | cons character text induction =>
        unfold utf16Bytes at induction ⊢
        have units : (utf16Units character).length * 2
            = ((utf16Units character).flatMap (bytesOf order 2)).length := by
          simp [List.length_flatMap, unit, List.map_const']
        rw [List.flatMap_cons, List.length_append, ← units]
        omega
  omega

/-- Without a mark, decoding gives back every text that can be encoded. The induction is on the
text. -/
theorem unmarked_decode {codec : Codec} {text : List Char}
    (covered : ∀ character ∈ text, codec.Covers character) :
    codec.unmarked.decode (text.flatMap codec.characterBytes) = text := by
  induction text with
  | nil => cases codec <;> rfl
  | cons character text induction =>
      have later := induction fun character member => covered character (.tail _ member)
      rw [List.flatMap_cons]
      cases codec with
      | ascii =>
          have small : character.toNat < 128 := covered character (.head _) 128 rfl
          exact List.cons_eq_cons.mpr ⟨ofNat_of_eq (toNat_byte (by omega)), later⟩
      | latin1 =>
          have small : character.toNat < 256 := covered character (.head _) 256 rfl
          exact List.cons_eq_cons.mpr ⟨ofNat_of_eq (toNat_byte small), later⟩
      | utf8 | utf8Marked =>
          exact (utf8Characters_append character _).trans (congrArg _ later)
      | utf16 order =>
          exact (utf16Characters_append _ character (utf16Bytes_length_ne_one _ text)).trans
            (congrArg _ later)
      | utf32 order =>
          exact (utf32Characters_append _ character _).trans (congrArg _ later)

/-- Decoding drops one mark at the start if the codec writes one. -/
theorem decode_eq (codec : Codec) (bytes : List UInt8) :
    codec.decode bytes = if codec.mark = [] then codec.unmarked.decode bytes
      else dropMark (codec.unmarked.decode bytes) := by
  cases codec with
  | ascii | latin1 | utf8 | utf8Marked => rfl
  | utf16 order | utf32 order => cases order <;> rfl

theorem mark_eq_nil_or (codec : Codec) : codec.mark = [] ∨ codec.mark = [byteOrderMark] := by
  cases codec with
  | ascii | latin1 | utf8 => exact .inl rfl
  | utf8Marked => exact .inr rfl
  | utf16 order | utf32 order => cases order <;> simp [mark]

theorem flatMap_append_eq_intercalate (separator first : List Char) (rest : List (List Char)) :
    (first :: rest).flatMap (separator ++ ·)
      = separator ++ separator.intercalate (first :: rest) := by
  induction rest generalizing first with
  | nil => simp
  | cons second rest induction =>
      rw [List.flatMap_cons, induction, List.intercalate_cons_of_ne_nil (List.cons_ne_nil _ _),
        List.append_assoc, List.append_assoc]

/-- Texts that were encoded in parts are decoded to the parts, but a codec that writes a mark leaves
it between any two of them. -/
theorem decode_flatten {codec : Codec} {parts : List (List Char)}
    (covered : ∀ part ∈ parts, ∀ character ∈ part, codec.Covers character) :
    codec.decode (parts.map codec.markedBytes).flatten = codec.mark.intercalate parts := by
  have bytes_eq : (parts.map codec.markedBytes).flatten
      = (parts.flatMap (codec.mark ++ ·)).flatMap codec.characterBytes := by
    rw [List.flatMap_assoc, List.flatMap_def]
    rfl
  have decoded : codec.unmarked.decode (parts.map codec.markedBytes).flatten
      = parts.flatMap (codec.mark ++ ·) := by
    rw [bytes_eq]
    refine unmarked_decode fun character member => ?_
    rcases List.mem_flatMap.mp member with ⟨part, between, member⟩
    rcases List.mem_append.mp member with marks | member
    · exact mark_covered codec character marks
    · exact covered part between character member
  rw [decode_eq, decoded]
  cases parts with
  | nil => exact ite_self _
  | cons first rest =>
      rw [flatMap_append_eq_intercalate]
      rcases mark_eq_nil_or codec with unmarked | marked
      · rw [if_pos unmarked, unmarked, List.nil_append]
      · rw [if_neg (by simp [marked]), marked]
        rfl

theorem length_flatten_markedBytes (codec : Codec) (parts : List (List Char)) :
    (parts.map codec.markedBytes).flatten.length
      = parts.length * (codec.mark.flatMap codec.characterBytes).length
        + (parts.flatten.flatMap codec.characterBytes).length := by
  induction parts with
  | nil => simp
  | cons first rest induction =>
      have here : (codec.markedBytes first).length
          = (codec.mark.flatMap codec.characterBytes).length
            + (first.flatMap codec.characterBytes).length := by
        rw [markedBytes, List.flatMap_append, List.length_append]
      rw [List.map_cons, List.flatten_cons, List.length_append, here, induction, List.flatten_cons,
        List.flatMap_append, List.length_append, List.length_cons, Nat.succ_mul]
      omega

theorem mark_bytes_ne_nil {codec : Codec} (marked : codec.mark ≠ []) :
    codec.mark.flatMap codec.characterBytes ≠ [] := by
  cases codec with
  | ascii | latin1 | utf8 => exact absurd rfl marked
  | utf8Marked => decide
  | utf16 order | utf32 order =>
      cases order with
      | none => decide
      | some => exact absurd rfl marked

/-- Parts of a text have the bytes of the whole text if and only if the codec writes no mark or
there is just one part. -/
theorem flatten_eq_markedBytes_iff (codec : Codec) (parts : List (List Char)) :
    (parts.map codec.markedBytes).flatten = codec.markedBytes parts.flatten
      ↔ codec.mark = [] ∨ parts.length = 1 := by
  constructor
  · intro same
    by_cases marked : codec.mark = []
    · exact .inl marked
    · have longer := List.length_pos_iff.mpr (mark_bytes_ne_nil marked)
      have lengths := congrArg List.length same
      rw [length_flatten_markedBytes, markedBytes, List.flatMap_append, List.length_append,
        Nat.add_right_cancel_iff] at lengths
      exact .inr (Nat.eq_of_mul_eq_mul_right longer (lengths.trans (Nat.one_mul _).symm))
  · rintro (unmarked | single)
    · unfold markedBytes
      rw [unmarked]
      simp only [List.nil_append]
      rw [← List.flatMap_def, ← List.flatMap_assoc, List.flatMap_id']
    · rcases List.length_eq_one_iff.mp single with ⟨part, rfl⟩
      simp

end HtmlStream.Codec
