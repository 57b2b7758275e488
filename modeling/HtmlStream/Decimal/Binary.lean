/-!
The exact value of a double: a sign, a whole significand and a power of two. All decimal text is
computed from these whole numbers, so nothing is rounded before the last step.
-/
namespace HtmlStream.Decimal

inductive BinaryValue where
  | notANumber
  | infinite (negative : Bool)
  /-- The number `significand * 2 ^ exponent`, negated if `negative`. -/
  | finite (negative : Bool) (significand : Nat) (exponent : Int)

namespace BinaryValue

/-- The leading one of a significand, which has 52 bits below it. -/
def leadingBit : Nat := 1 <<< 52

/-- Read the fields of a double. Zero exponent fields mark the numbers without a leading one. -/
def ofBits (bits : UInt64) : BinaryValue :=
  let word : Nat := bits.toNat
  let fraction : Nat := word % leadingBit
  let exponentField : Nat := word / leadingBit % 2048
  let negative := word / leadingBit / 2048 = 1
  if exponentField = 2047 then
    if fraction = 0 then .infinite negative else .notANumber
  else if exponentField = 0 then .finite negative fraction (-1074)
  else .finite negative (leadingBit + fraction) ((exponentField : Int) - 1075)

def ofFloat (number : Float) : BinaryValue :=
  ofBits number.toBits

end BinaryValue

/-- A positive fraction of whole numbers. -/
structure Ratio where
  numerator : Nat
  denominator : Nat

namespace Ratio

/-- `significand * 2 ^ exponent`. -/
def ofBinary (significand : Nat) (exponent : Int) : Ratio :=
  match exponent with
  | .ofNat power => ⟨significand <<< power, 1⟩
  | .negSucc power => ⟨significand, 1 <<< (power + 1)⟩

/-- The value times `10 ^ power`. -/
def scale (value : Ratio) (power : Int) : Ratio :=
  match power with
  | .ofNat positive => ⟨value.numerator * Nat.pow 10 positive, value.denominator⟩
  | .negSucc negative => ⟨value.numerator, value.denominator * Nat.pow 10 (negative + 1)⟩

/-- The nearest whole number; a value half-way between two goes to the even one. -/
def roundToEven (value : Ratio) : Nat :=
  let quotient := value.numerator / value.denominator
  let twiceRemainder := 2 * (value.numerator % value.denominator)
  if twiceRemainder < value.denominator then quotient
  else if value.denominator < twiceRemainder then quotient + 1
  else if quotient % 2 = 0 then quotient else quotient + 1

end Ratio
end HtmlStream.Decimal
