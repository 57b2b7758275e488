import HtmlStream.Decimal.Binary

/-!
Decimal digits of a positive number, with the place of the decimal point: the fewest digits that
read back as the same double, or a given number of digits rounded to nearest, ties to even.
-/
namespace HtmlStream.Decimal

/-- The number `0.d₁d₂… * 10 ^ point`. The digits have no trailing zeros; only zero itself has the
single digit `0`. -/
structure DecimalDigits where
  digits : List Char
  point : Int

namespace DecimalDigits

def zero : DecimalDigits := ⟨['0'], 1⟩

/-- The digits of `whole * 10 ^ power`. -/
def ofScaled (whole : Nat) (power : Int) : DecimalDigits :=
  if whole = 0 then zero
  else
    let all := Nat.toDigits 10 whole
    ⟨(all.reverse.dropWhile (· == '0')).reverse, all.length + power⟩

end DecimalDigits

/-- The power of ten of the leading digit: the `k` with `10 ^ k ≤ value < 10 ^ (k + 1)`. The
estimate from the numbers of digits is at most one too large. -/
def leadingPower (value : Ratio) : Int :=
  let estimate : Int := ((Nat.toDigits 10 value.numerator).length : Int)
    - (Nat.toDigits 10 value.denominator).length
  let scaled := value.scale (-estimate)
  if scaled.denominator ≤ scaled.numerator then estimate else estimate - 1

/-- The value rounded to `count` significant digits. -/
def significantDigits (value : Ratio) (count : Nat) : DecimalDigits :=
  if value.numerator = 0 then .zero
  else
    let power := leadingPower value + 1 - count
    .ofScaled (value.scale (-power)).roundToEven power

/-- The numbers that read back as one double: those between the two half-way points around it,
which themselves read back as it if its significand is even. -/
structure ReadBackInterval where
  low : Ratio
  high : Ratio
  closed : Bool

namespace ReadBackInterval

def ofBinary (significand : Nat) (exponent : Int) : ReadBackInterval where
  low :=
    -- The gap below a power of two is half as wide, except at the smallest exponent.
    if significand = BinaryValue.leadingBit && decide (-1074 < exponent) then
      .ofBinary (4 * significand - 1) (exponent - 2)
    else .ofBinary (2 * significand - 1) (exponent - 1)
  high := .ofBinary (2 * significand + 1) (exponent - 1)
  closed := significand % 2 = 0

/-- Whether `whole * 10 ^ power` lies in the interval. -/
def contains (interval : ReadBackInterval) (whole : Nat) (power : Int) : Bool :=
  let low := interval.low.scale (-power)
  let high := interval.high.scale (-power)
  if interval.closed then
    low.numerator ≤ whole * low.denominator && whole * high.denominator ≤ high.numerator
  else
    low.numerator < whole * low.denominator && whole * high.denominator < high.numerator

end ReadBackInterval

/-- The nearest number of `count` digits, provided that one reads back. Of the two neighbours of
the value on the grid the nearer is tried first. -/
def readBackWith (interval : ReadBackInterval) (value : Ratio) (leading : Int) (count : Nat) :
    Option DecimalDigits :=
  let power := leading + 1 - count
  let scaled := value.scale (-power)
  let nearest := scaled.roundToEven
  let below := scaled.numerator / scaled.denominator
  let other := if nearest = below then below + 1 else below
  if interval.contains nearest power then some (.ofScaled nearest power)
  else if interval.contains other power then some (.ofScaled other power)
  else none

/-- The fewest digits that read back; seventeen always do. -/
def shortestDigits (significand : Nat) (exponent : Int) : DecimalDigits :=
  if significand = 0 then .zero
  else
    let value := Ratio.ofBinary significand exponent
    let interval := ReadBackInterval.ofBinary significand exponent
    let leading := leadingPower value
    let grids := (List.range 17).map (· + 1)
    (grids.findSome? (readBackWith interval value leading)).getD (significantDigits value 17)

end HtmlStream.Decimal
