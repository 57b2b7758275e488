import HtmlStream.Text.Blank
import HtmlStream.Text.Digit

/-!
Numerals: integers and floats as they are written in text. Digits may be of any script, with single
underscores between them, and blanks around a numeral do not count. Integers of too many digits are
neither read nor written in decimal.
-/
namespace HtmlStream.Decimal

/-- The most digits of an integer in decimal text. -/
def integerDigitLimit : Nat := 4300

/-- The least positive integer that has too many digits. -/
def leastLongInteger : Nat := Nat.pow 10 integerDigitLimit

def isShortInteger (value : Int) : Bool :=
  value.natAbs < leastLongInteger

inductive NumeralFault where
  | notInteger (text : String)
  | notFloat (text : String)
  | tooManyDigits (count : Nat)
  deriving DecidableEq

/-! ## Parts of numerals -/

/-- Whether a character may stand before or after a numeral. -/
def isOuterBlank (character : Char) : Bool :=
  Text.isBlank character && !(0x1c ≤ character.toNat && character.toNat ≤ 0x1f)

def trimmed (text : String) : List Char :=
  ((text.toList.dropWhile isOuterBlank).reverse.dropWhile isOuterBlank).reverse

/-- Whether a numeral is negated, and the characters after its sign. -/
def readSign : List Char → Bool × List Char
  | '-' :: rest => (true, rest)
  | '+' :: rest => (false, rest)
  | rest => (false, rest)

/-- A run of digits and the characters after it. An underscore belongs to the run if it stands
between two digits; `inside` says whether a digit stands before. -/
def readDigits : (inside : Bool) → List Char → List Nat × List Char
  | inside, '_' :: next :: rest =>
      match inside, Text.digit? next with
      | true, some digit =>
          let (digits, rest) := readDigits true rest
          (digit :: digits, rest)
      | _, _ => ([], '_' :: next :: rest)
  | _, character :: rest =>
      match Text.digit? character with
      | some digit =>
          let (digits, rest) := readDigits true rest
          (digit :: digits, rest)
      | none => ([], character :: rest)
  | _, [] => ([], [])

/-! ## Integers -/

/-- Read an integer. That it has too many digits is found before what stands after them. -/
def readInteger (text : String) : Except NumeralFault Int :=
  let (negative, rest) := readSign (trimmed text)
  match readDigits false rest with
  | ([], _) | (_, '_' :: _) => .error (.notInteger text)
  | (digits, rest) =>
      if integerDigitLimit < digits.length then .error (.tooManyDigits digits.length)
      else if !rest.isEmpty then .error (.notInteger text)
      else
        let magnitude : Int := Text.numberOfDigits digits
        .ok (if negative then -magnitude else magnitude)

/-! ## Floats -/

/-- The float nearest to `digits * 10 ^ exponent`. Beyond the range of floats no digits matter. -/
def nearestFloat (digits : List Nat) (exponent : Int) : Float :=
  let significant := digits.dropWhile (· == 0)
  let point := exponent + significant.length
  if significant.isEmpty || decide (point < -330) then 0.0
  else if 310 < point then 1.0 / 0.0
  else Float.ofScientific (Text.numberOfDigits significant) (decide (exponent < 0)) exponent.natAbs

/-- The exponent of a float, if nothing else is left. -/
def readExponent? : List Char → Option Int
  | [] => some 0
  | mark :: rest =>
      let (negative, rest) := readSign rest
      match mark == 'e' || mark == 'E', readDigits false rest with
      | true, (first :: others, []) =>
          let magnitude : Int := Text.numberOfDigits (first :: others)
          some (if negative then -magnitude else magnitude)
      | _, _ => none

/-- A float that is not negative, in digits with a point and an exponent. -/
def readDecimal? (characters : List Char) : Option Float :=
  let (whole, rest) := readDigits false characters
  let (fraction, rest) := match rest with
    | '.' :: rest => readDigits false rest
    | rest => ([], rest)
  if whole.isEmpty && fraction.isEmpty then none
  else (readExponent? rest).map fun exponent =>
    nearestFloat (whole ++ fraction) (exponent - fraction.length)

/-- A float that is not negative, which may also be called infinite or no number. -/
def readMagnitude? (characters : List Char) : Option Float :=
  match String.ofList (characters.map Char.toLower) with
  | "nan" => some (0.0 / 0.0)
  | "inf" | "infinity" => some (1.0 / 0.0)
  | _ => readDecimal? characters

def readFloat (text : String) : Except NumeralFault Float :=
  let (negative, rest) := readSign (trimmed text)
  match readMagnitude? rest with
  | some number => .ok (if negative then -number else number)
  | none => .error (.notFloat text)

end HtmlStream.Decimal
