/-
Module: PaperTrading.Decimal.Rounded
Purpose: Quotients rounded to a decimal grid: to fixed places, or to a number of significant digits.
Main exports: roundDiv, BinaryValue.toPlaces, fixedText, BinaryValue.significant
-/
import PaperTrading.Decimal.Binary
import PaperTrading.Decimal.Numeral

namespace PaperTrading

/-- The whole number nearest to a quotient; a half goes to the even neighbour. -/
def roundDiv (numerator denominator : Nat) : Nat :=
  let quotient := numerator / denominator
  let remainder := numerator % denominator
  if denominator < 2 * remainder || (denominator == 2 * remainder && quotient % 2 == 1) then
    quotient + 1
  else
    quotient

namespace BinaryValue

/-- The value rounded to a number of decimal places. -/
def toPlaces (v : BinaryValue) (places : Nat) : Numeral :=
  ⟨v.negative, roundDiv (v.numerator * Nat.pow 10 places) v.denominator, places⟩

/-- The value in units of `10 ^ scale`, rounded. -/
def inUnits (v : BinaryValue) (scale : Int) : Nat :=
  roundDiv (v.numerator * Nat.pow 10 (-scale).toNat) (v.denominator * Nat.pow 10 scale.toNat)

/-- The largest power of ten that is not above the value, for a value that is not zero. -/
def leadingPower (v : BinaryValue) : Int :=
  if v.denominator ≤ v.numerator then
    ((Nat.toDigits 10 (v.numerator / v.denominator)).length : Int) - 1
  else
    -- `1 / v` lies between two whole numbers, so its digits bound the power to two candidates.
    let places := (Nat.toDigits 10 (v.denominator / v.numerator)).length
    if v.denominator ≤ v.numerator * Nat.pow 10 (places - 1) then -((places : Int) - 1) else -(places : Int)

/-- The value rounded to a number of significant digits, as a coefficient and the power of ten of its unit.
Rounding up to the next power of ten adds a digit that is zero. -/
def significant (v : BinaryValue) (digits : Nat) : Nat × Int :=
  let scale := v.leadingPower - (digits : Int) + 1
  (v.inUnits scale, scale)

end BinaryValue

/-- The words for doubles that are no numbers of the real line. -/
def specialWord (x : Float) : String :=
  if x.isNaN then "NaN" else if x < 0.0 then "-inf" else "inf"

/-- A double with a fixed number of decimal places. -/
def fixedText (places : Nat) (x : Float) : String :=
  match BinaryValue.ofFloat? x with
  | some v => String.ofList (v.toPlaces places).chars
  | none => specialWord x

end PaperTrading
