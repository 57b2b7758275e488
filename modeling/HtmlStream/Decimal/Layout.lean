import HtmlStream.Decimal.Digits

/-!
Layout of decimal digits: positional or with an exponent, and how many places are shown.
-/
namespace HtmlStream.Decimal

/-- Which notation is used, and how many digits it shows at least. -/
inductive NumberStyle where
  /-- One digit before the point and `places` after it, then the exponent. -/
  | exponential (places : Nat)
  /-- The shortest digits: positional from `0.0001` up to sixteen digits before the point. -/
  | shortest
  /-- `count` significant digits, positional where the exponent lies between -4 and `count`. -/
  | general (count : Nat)

structure LayoutRule where
  /-- Keep trailing zeros and the point. -/
  alternate : Bool
  /-- A whole number in positional notation shows one zero after the point. -/
  pointZero : Bool

/-- The exponent: its sign and at least two digits. -/
def exponentText (exponent : Int) : List Char :=
  let digits := Nat.toDigits 10 exponent.natAbs
  let padded := if digits.length < 2 then '0' :: digits else digits
  (if exponent < 0 then '-' else '+') :: padded

/-- The digits with the point `point` digits from their start, zeros filling what is missing up to
`places` digits after the point. -/
def positionalText (digits : List Char) (point : Int) (places : Nat) (alternate : Bool) :
    List Char :=
  let whole :=
    if point ≤ 0 then ['0']
    else digits.take point.toNat ++ List.replicate (point.toNat - digits.length) '0'
  let fraction :=
    if point ≤ 0 then List.replicate (-point).toNat '0' ++ digits else digits.drop point.toNat
  let filled := fraction ++ List.replicate (places - fraction.length) '0'
  if filled.isEmpty then (if alternate then whole ++ ['.'] else whole)
  else whole ++ '.' :: filled

def positional (number : DecimalDigits) (rule : LayoutRule) (places : Nat) : List Char :=
  let least := if rule.pointZero then max places 1 else places
  positionalText number.digits number.point least rule.alternate

/-- Digits in exponential notation, with at least `places` digits after the point. -/
def exponential (number : DecimalDigits) (rule : LayoutRule) (places : Nat) (mark : Char) :
    List Char :=
  positionalText number.digits 1 places rule.alternate
    ++ mark :: exponentText (number.point - 1)

def digitsText (style : NumberStyle) (rule : LayoutRule) (number : DecimalDigits) : List Char :=
  match style with
  | .exponential places => exponential number rule places 'e'
  | .shortest =>
      if number.point ≤ -4 || 16 < number.point then exponential number rule 0 'e'
      else positional number rule 0
  | .general count =>
      let limit : Int := if rule.pointZero then count - 1 else count
      let shown (before : Int) : Nat := if rule.alternate then (count - before).toNat else 0
      if number.point ≤ -4 || limit < number.point then
        exponential number rule (shown 1) 'e'
      else positional number rule (shown number.point)

/-- A number rounded to `places` digits after the point. -/
def fixedText (value : Ratio) (places : Nat) (alternate : Bool) : List Char :=
  let digits := Nat.toDigits 10 (value.scale places).roundToEven
  let padded := List.replicate (places + 1 - digits.length) '0' ++ digits
  let whole := padded.take (padded.length - places)
  let fraction := padded.drop (padded.length - places)
  if fraction.isEmpty then (if alternate then whole ++ ['.'] else whole)
  else whole ++ '.' :: fraction

/-- The text of a double: the fewest digits that read back, one zero after the point of a whole
number, and an exponent from `10 ^ 16` on and below `0.0001`. -/
def floatText (number : Float) : String :=
  match BinaryValue.ofFloat number with
  | .notANumber => "nan"
  | .infinite negative => if negative then "-inf" else "inf"
  | .finite negative significand exponent =>
      let text := digitsText .shortest ⟨false, true⟩ (shortestDigits significand exponent)
      String.ofList (if negative then '-' :: text else text)

end HtmlStream.Decimal
