import HtmlStream.Text.Digit

/-!
Format specifications: `[[fill]align][sign][z][#][0][width][grouping][.precision][code]`, the small
language that says how an interpolated text or number is laid out.
-/
namespace HtmlStream.Format

inductive Alignment where
  | left
  | right
  | center
  /-- Between the sign and the digits. -/
  | afterSign
  deriving DecidableEq

inductive SignRule where
  | negativeOnly
  | always
  | blankIfPositive
  deriving DecidableEq

inductive Grouping where
  | comma
  | underscore
  deriving DecidableEq

namespace Grouping

def separator : Grouping → Char
  | .comma => ','
  | .underscore => '_'

end Grouping

inductive FormatFault where
  | invalidSpecification (specification typeName : String)
  | missingPrecision
  | tooManyDigits
  /-- A precision beyond what numbers can be asked for. -/
  | precisionTooBig
  /-- A width that no text can be filled up to. -/
  | textTooLong
  | twoGroupings
  | groupingWithCode (grouping : Grouping) (code : Char)
  | unknownCode (code : Char) (typeName : String)
  | signWithText
  | blankSignWithText
  | negativeZeroWithText
  | alternateWithText
  | alignmentWithText
  | precisionWithInteger
  | negativeZeroWithInteger
  | signWithCharacter
  | alternateWithCharacter
  | characterOutOfRange
  | characterTooLarge
  | integerTooLarge
  /-- An integer with too many decimal digits. -/
  | integerTooLong
  | unsupportedType (typeName : String)
  deriving DecidableEq

structure Specification where
  fill : Char
  alignment : Alignment
  sign : Option SignRule
  noNegativeZero : Bool
  alternate : Bool
  width : Option Nat
  grouping : Option Grouping
  precision : Option Nat
  code : Option Char

def alignmentOf : Char → Option Alignment
  | '<' => some .left
  | '>' => some .right
  | '^' => some .center
  | '=' => some .afterSign
  | _ => none

def signRuleOf : Char → Option SignRule
  | '-' => some .negativeOnly
  | '+' => some .always
  | ' ' => some .blankIfPositive
  | _ => none

/-! ## Reading, part by part

Each part returns what it read and the characters after it. -/

/-- The fill character and the alignment, and whether each was given. -/
def readAlignment : List Char → (Option Char × Option Alignment) × List Char
  | first :: second :: rest =>
      match alignmentOf second with
      | some alignment => ((some first, some alignment), rest)
      | none =>
          match alignmentOf first with
          | some alignment => ((none, some alignment), second :: rest)
          | none => ((none, none), first :: second :: rest)
  | [only] =>
      match alignmentOf only with
      | some alignment => ((none, some alignment), [])
      | none => ((none, none), [only])
  | [] => ((none, none), [])

def readSign : List Char → Option SignRule × List Char
  | first :: rest =>
      match signRuleOf first with
      | some rule => (some rule, rest)
      | none => (none, first :: rest)
  | [] => (none, [])

/-- Whether the next character is `flag`, which is then consumed. -/
def readFlag (flag : Char) : List Char → Bool × List Char
  | first :: rest => if first = flag then (true, rest) else (false, first :: rest)
  | [] => (false, [])

def largestCount : Nat := 0x7fffffffffffffff

def largestWidth : Nat := 1 <<< 40

def readCount (characters : List Char) : Except FormatFault (Option Nat × List Char) :=
  match Text.leadingDigits characters with
  | ([], rest) => .ok (none, rest)
  | (digits, rest) =>
      let count := Text.numberOfDigits digits
      if largestCount < count then .error .tooManyDigits else .ok (some count, rest)

def readGrouping (characters : List Char) : Except FormatFault (Option Grouping × List Char) :=
  match characters with
  | ',' :: '_' :: _ => .error .twoGroupings
  | ',' :: rest => .ok (some .comma, rest)
  | '_' :: ',' :: _ => .error .twoGroupings
  | '_' :: rest => .ok (some .underscore, rest)
  | _ => .ok (none, characters)

def readPrecision (characters : List Char) : Except FormatFault (Option Nat × List Char) :=
  match characters with
  | '.' :: rest => do
      let (count, rest) ← readCount rest
      match count with
      | some _ => .ok (count, rest)
      | none => .error .missingPrecision
  | _ => .ok (none, characters)

/-- Which codes a grouping goes with: the decimal ones, and underscores also with the codes of
other bases. -/
def Grouping.allows (grouping : Grouping) : Option Char → Bool
  | none => true
  | some code =>
      "defgEG%F".toList.contains code
        || (grouping == .underscore && "boxX".toList.contains code)

/-- Read a specification for values of the type `typeName`. `defaultCode` and `defaultAlignment` are
what such values have by themselves; a leading zero asks for zeros between sign and digits where
the alignment is right by default. -/
def Specification.read (text typeName : String) (defaultCode : Option Char)
    (defaultAlignment : Alignment) : Except FormatFault Specification := do
  let ((fill, alignment), rest) := readAlignment text.toList
  let (sign, rest) := readSign rest
  let (noNegativeZero, rest) := readFlag 'z' rest
  let (alternate, rest) := readFlag '#' rest
  let (zeros, rest) := if fill.isNone then readFlag '0' rest else (false, rest)
  let (width, rest) ← readCount rest
  let (grouping, rest) ← readGrouping rest
  let (precision, rest) ← readPrecision rest
  match rest with
  | _ :: _ :: _ => .error (.invalidSpecification text typeName)
  | _ =>
      let code := rest.head?.or defaultCode
      let specification : Specification := {
        fill := if zeros then '0' else fill.getD ' '
        alignment :=
          alignment.getD (if zeros && defaultAlignment = .right then .afterSign
            else defaultAlignment)
        sign, noNegativeZero, alternate, width, grouping, precision, code }
      match grouping, code with
      | some kind, some letter =>
          if kind.allows code then .ok specification else .error (.groupingWithCode kind letter)
      | _, _ => .ok specification

def Specification.checkWidth (specification : Specification) : Except FormatFault Unit :=
  if largestWidth < specification.width.getD 0 then .error .textTooLong else .ok ()

/-- How a code is named in a message: itself if it is visible ASCII, else its number. -/
def codeName (code : Char) : String :=
  if 32 < code.toNat && code.toNat < 128 then String.singleton code
  else "\\x" ++ String.ofList (Nat.toDigits 16 code.toNat)

def tooLongMessage : String :=
  "Exceeds the limit (4300 digits) for integer string conversion; use "
    ++ "sys.set_int_max_str_digits() to increase the limit"

def FormatFault.message : FormatFault → String
  | .invalidSpecification specification typeName =>
      "Invalid format specifier '" ++ specification ++ "' for object of type '" ++ typeName ++ "'"
  | .missingPrecision => "Format specifier missing precision"
  | .tooManyDigits => "Too many decimal digits in format string"
  | .precisionTooBig => "precision too big"
  | .textTooLong => ""
  | .twoGroupings => "Cannot specify both ',' and '_'."
  | .groupingWithCode grouping code =>
      "Cannot specify '" ++ String.singleton grouping.separator ++ "' with '" ++ codeName code
        ++ "'."
  | .unknownCode code typeName =>
      "Unknown format code '" ++ codeName code ++ "' for object of type '" ++ typeName ++ "'"
  | .signWithText => "Sign not allowed in string format specifier"
  | .blankSignWithText => "Space not allowed in string format specifier"
  | .negativeZeroWithText => "Negative zero coercion (z) not allowed in string format specifier"
  | .alternateWithText => "Alternate form (#) not allowed in string format specifier"
  | .alignmentWithText => "'=' alignment not allowed in string format specifier"
  | .precisionWithInteger => "Precision not allowed in integer format specifier"
  | .negativeZeroWithInteger =>
      "Negative zero coercion (z) not allowed in integer format specifier"
  | .signWithCharacter => "Sign not allowed with integer format specifier 'c'"
  | .alternateWithCharacter =>
      "Alternate form (#) not allowed with integer format specifier 'c'"
  | .characterOutOfRange => "%c arg not in range(0x110000)"
  | .characterTooLarge => "Python int too large to convert to C long"
  | .integerTooLarge => "int too large to convert to float"
  | .integerTooLong => tooLongMessage
  | .unsupportedType typeName =>
      "unsupported format string passed to " ++ typeName ++ ".__format__"

end HtmlStream.Format
