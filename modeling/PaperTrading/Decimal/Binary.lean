/-
Module: PaperTrading.Decimal.Binary
Purpose: The exact value of a double as a whole number times a power of two.
Main exports: BinaryValue, BinaryValue.ofFloat?, BinaryValue.numerator, BinaryValue.denominator
-/

namespace PaperTrading

/-- The exact value `mantissa * 2 ^ exponent` of a finite double, with its sign. -/
structure BinaryValue where
  negative : Bool
  mantissa : Nat
  exponent : Int
deriving DecidableEq, Repr

namespace BinaryValue

/-- The exponent of the finest grid that doubles lie on. -/
def leastExponent : Int := -1074

/-- The smallest mantissa of the doubles that are not on the finest grid. -/
def leastMantissa : Nat := Nat.pow 2 52

/-- The exact value of a double; none for infinities and for what is not a number. -/
def ofFloat? (x : Float) : Option BinaryValue :=
  let bits := x.toBits.toNat
  let negative := Nat.pow 2 63 ≤ bits
  let exponent := bits / Nat.pow 2 52 % Nat.pow 2 11
  let fraction := bits % Nat.pow 2 52
  if exponent = Nat.pow 2 11 - 1 then
    none
  else if exponent = 0 then
    some ⟨negative, fraction, leastExponent⟩
  else
    some ⟨negative, leastMantissa + fraction, leastExponent + (exponent - 1 : Nat)⟩

/-- The size of the value is `numerator / denominator`. -/
def numerator (v : BinaryValue) : Nat :=
  v.mantissa * Nat.pow 2 v.exponent.toNat

@[inherit_doc numerator]
def denominator (v : BinaryValue) : Nat :=
  Nat.pow 2 (-v.exponent).toNat

end BinaryValue

end PaperTrading
