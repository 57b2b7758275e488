import HtmlStream.Format.Specification
import HtmlStream.Decimal.Layout
import HtmlStream.Decimal.Numeral

/-!
Laying out texts and numbers by a specification.
-/
namespace HtmlStream.Format

/-! ## Text -/

def padded (fill : Char) (alignment : Alignment) (width : Nat) (text : List Char) : List Char :=
  let missing := width - text.length
  let before := match alignment with
    | .right => missing
    | .center => missing / 2
    | .left | .afterSign => 0
  List.replicate before fill ++ text ++ List.replicate (missing - before) fill

/-- Text is cut to the precision and then padded; nothing that concerns numbers may be asked. -/
def formatText (text typeName specificationText : String) : Except FormatFault String := do
  let specification ← Specification.read specificationText typeName (some 's') .left
  if let some code := specification.code then
    if code ≠ 's' then throw (.unknownCode code typeName)
  match specification.sign with
  | some .blankIfPositive => throw .blankSignWithText
  | some _ => throw .signWithText
  | none => pure ()
  if specification.noNegativeZero then throw .negativeZeroWithText
  if specification.alternate then throw .alternateWithText
  if specification.alignment = .afterSign then throw .alignmentWithText
  specification.checkWidth
  let characters := match specification.precision with
    | some count => text.toList.take count
    | none => text.toList
  return String.ofList
    (padded specification.fill specification.alignment (specification.width.getD 0) characters)

/-! ## Numbers

A number is its sign, a prefix that names its base, the digits before the point and everything
after them. Only the digits are grouped. -/

structure NumberParts where
  negative : Bool
  basePrefix : List Char
  digits : List Char
  remainder : List Char

/-- Split the text of a positive number after its leading digits. -/
def NumberParts.ofText (negative : Bool) (text : List Char) : NumberParts :=
  ⟨negative, [], text.takeWhile Char.isDigit, text.dropWhile Char.isDigit⟩

/-- Groups of `size` digits, the last group first. Zeros are put in front until the digits take
`width` places, separators included; `reversed` holds the digits that are left, last one first.
Every round uses a digit or a place, so their number bounds the rounds. -/
def groupedReversed (separator : Char) (size : Nat) :
    (rounds : Nat) → (reversed : List Char) → (width : Nat) → List Char
  | 0, reversed, _ => reversed
  | rounds + 1, reversed, width =>
      let length := min size (max (max reversed.length width) 1)
      let group := reversed.take length
      let filled := group ++ List.replicate (length - group.length) '0'
      let rest := reversed.drop length
      if rest.isEmpty && width ≤ length then filled
      else filled ++ separator :: groupedReversed separator size rounds rest (width - length - 1)

/-- The digits, grouped if asked for, with zeros in front up to `width` places. -/
def groupedDigits (grouping : Option Grouping) (size : Nat) (digits : List Char) (width : Nat) :
    List Char :=
  match grouping with
  | none => List.replicate (width - digits.length) '0' ++ digits
  | some kind =>
      (groupedReversed kind.separator size (digits.length + width) digits.reverse width).reverse

/-- Lay out a number. `groupSize` is how many digits stand between separators. -/
def layoutNumber (specification : Specification) (groupSize : Nat) (parts : NumberParts) :
    String :=
  let sign : List Char :=
    if parts.negative then ['-'] else
      match specification.sign with
      | some .always => ['+']
      | some .blankIfPositive => [' ']
      | _ => []
  let width := specification.width.getD 0
  let fixedLength := sign.length + parts.basePrefix.length + parts.remainder.length
  let zeroFilled := specification.fill = '0' && specification.alignment = .afterSign
  let digits :=
    if parts.digits.isEmpty then []
    else groupedDigits specification.grouping groupSize parts.digits
      (if zeroFilled then width - fixedLength else 0)
  let missing := width - (fixedLength + digits.length)
  let fill (count : Nat) := List.replicate count specification.fill
  let head := sign ++ parts.basePrefix
  let tail := digits ++ parts.remainder
  String.ofList <| match specification.alignment with
    | .left => head ++ tail ++ fill missing
    | .right => fill missing ++ head ++ tail
    | .center => fill (missing / 2) ++ head ++ tail ++ fill (missing - missing / 2)
    | .afterSign => head ++ fill missing ++ tail

/-! ## Doubles -/

/-- How many digits after the point a number shows where no precision is given. -/
def defaultPrecision : Nat := 6

/-- No double has more decimal digits than this, nor more of them after the point: what a precision
asks for beyond is zeros. -/
def exactDigits : Nat := 1100

def largestPrecision : Nat := 0x7fffffff

def toUppercase (text : List Char) : List Char :=
  text.map Char.toUpper

/-- A positive number with `precision` digits after the point, of which only the exact ones are
computed. -/
def fixedText (value : Decimal.Ratio) (precision : Nat) (alternate : Bool) : List Char :=
  let exact := min precision exactDigits
  Decimal.fixedText value exact alternate ++ List.replicate (precision - exact) '0'

def finiteText (specification : Specification) (significand : Nat) (exponent : Int) : List Char :=
  let value := Decimal.Ratio.ofBinary significand exponent
  let alternate := specification.alternate
  let precision := specification.precision.getD defaultPrecision
  let plain : Decimal.LayoutRule := ⟨alternate, false⟩
  let general (count : Nat) (pointZero : Bool) :=
    let digits := max count 1
    Decimal.digitsText (.general digits) ⟨alternate, pointZero⟩
      (Decimal.significantDigits value (min digits exactDigits))
  let exponential :=
    Decimal.digitsText (.exponential precision) plain
      (Decimal.significantDigits value (min (precision + 1) exactDigits))
  match specification.code with
  | some 'e' => exponential
  | some 'E' => toUppercase exponential
  | some 'f' | some 'F' | some '%' => fixedText value precision alternate
  | some 'g' | some 'n' => general precision false
  | some 'G' => toUppercase (general precision false)
  | _ =>
      match specification.precision with
      | some count => general count true
      | none => Decimal.digitsText .shortest ⟨alternate, true⟩
          (Decimal.shortestDigits significand exponent)

def layoutFloat (specification : Specification) (number : Float) : Except FormatFault String := do
  if largestPrecision < specification.precision.getD 0 then throw .precisionTooBig
  specification.checkWidth
  let percent := specification.code = some '%'
  let suffix := if percent then ['%'] else []
  let cased (text : List Char) :=
    match specification.code with
    | some 'E' | some 'F' | some 'G' => toUppercase text
    | _ => text
  let parts : NumberParts :=
    match Decimal.BinaryValue.ofFloat (if percent then number * 100 else number) with
    | .notANumber => ⟨false, [], [], cased "nan".toList ++ suffix⟩
    | .infinite negative => ⟨negative, [], [], cased "inf".toList ++ suffix⟩
    | .finite negative significand exponent =>
        let text := finiteText specification significand exponent
        -- A number that is shown as zero loses its sign if the specification asks for that.
        let isZero := text.all fun character => !('1' ≤ character && character ≤ '9')
        let shownNegative := negative && !(specification.noNegativeZero && isZero)
        .ofText shownNegative (text ++ suffix)
  return layoutNumber specification 3 parts

def isFloatCode (code : Char) : Bool :=
  "eEfFgG%".toList.contains code

def formatFloat (number : Float) (typeName specificationText : String) :
    Except FormatFault String := do
  let specification ← Specification.read specificationText typeName none .right
  match specification.code with
  | none => layoutFloat specification number
  | some code =>
      if code = 'n' || isFloatCode code then layoutFloat specification number
      else throw (.unknownCode code typeName)

/-! ## Integers -/

/-- The base of a code, the letter of its prefix and whether digits are in upper case. -/
def integerBase : Option Char → Nat × List Char × Bool
  | some 'b' => (2, ['0', 'b'], false)
  | some 'o' => (8, ['0', 'o'], false)
  | some 'x' => (16, ['0', 'x'], false)
  | some 'X' => (16, ['0', 'X'], true)
  | _ => (10, [], false)

/-- A code point as a character; only numbers that are one qualify. -/
def layoutCharacter (specification : Specification) (number : Int) :
    Except FormatFault String := do
  if specification.sign.isSome then throw .signWithCharacter
  if specification.alternate then throw .alternateWithCharacter
  if number < -largestCount - 1 || largestCount < number then throw .characterTooLarge
  if number < 0 || 0x10ffff < number then throw .characterOutOfRange
  specification.checkWidth
  return layoutNumber specification 3 ⟨false, [], [], [Char.ofNat number.toNat]⟩

def layoutInteger (specification : Specification) (number : Int) : Except FormatFault String := do
  if specification.precision.isSome then throw .precisionWithInteger
  if specification.noNegativeZero then throw .negativeZeroWithInteger
  if specification.code = some 'c' then layoutCharacter specification number
  else
    let (base, basePrefix, uppercase) := integerBase specification.code
    if base = 10 && !Decimal.isShortInteger number then throw .integerTooLong
    specification.checkWidth
    let digits := Nat.toDigits base number.natAbs
    return layoutNumber specification (if base = 10 then 3 else 4)
      ⟨number < 0, if specification.alternate then basePrefix else [],
        if uppercase then toUppercase digits else digits, []⟩

/-- The double nearest to a whole number, if it is not too large for one. -/
def floatOfInteger? (number : Int) : Option Float :=
  let nearest := Float.ofInt number
  if nearest.isInf then none else some nearest

def formatInteger (number : Int) (typeName specificationText : String) :
    Except FormatFault String := do
  let specification ← Specification.read specificationText typeName (some 'd') .right
  match specification.code with
  | none => layoutInteger specification number
  | some code =>
      if "bcdoxXn".toList.contains code then layoutInteger specification number
      else if isFloatCode code then
        match floatOfInteger? number with
        | some nearest => layoutFloat specification nearest
        | none => throw .integerTooLarge
      else throw (.unknownCode code typeName)

end HtmlStream.Format
