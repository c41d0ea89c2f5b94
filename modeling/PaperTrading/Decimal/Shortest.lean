/-
Module: PaperTrading.Decimal.Shortest
Purpose: The shortest decimal that reads back as a given double.
Main exports: BinaryValue.shortest, shortestNumeral?

The reals that are read as a double form an interval around it.  The decimal grids are tried from coarse to
fine; on each, only the two neighbours of the double can be in the interval.  The first grid with a hit gives
the fewest digits; of two hits the nearer is taken, and the upper one when they are equally near.
-/
import PaperTrading.Decimal.Rounded

namespace PaperTrading

namespace BinaryValue

/-- Quarters of a mantissa unit from the value down to the lower end of its interval.  Just below a power of two
the doubles are twice as dense. -/
def lowerGap (v : BinaryValue) : Nat :=
  if v.mantissa = leastMantissa ∧ leastExponent < v.exponent then 1 else 2

/-- The grid point of `10 ^ scale` that the value can be written as, if there is one. -/
def onGrid? (v : BinaryValue) (scale : Int) : Option Nat :=
  -- All lengths are multiplied by `4 / 2 ^ exponent` and by the power of ten that makes them whole.
  let unit := Nat.pow 10 (-scale).toNat * Nat.pow 2 v.exponent.toNat
  let step := 4 * Nat.pow 10 scale.toNat * Nat.pow 2 (-v.exponent).toNat
  let middle := 4 * v.mantissa * unit
  let lowest := (4 * v.mantissa - v.lowerGap) * unit
  let highest := (4 * v.mantissa + 2) * unit
  let closed := v.mantissa % 2 == 0
  let below := middle / step
  let hitsBelow := lowest < below * step || (closed && lowest == below * step)
  let hitsAbove := (below + 1) * step < highest || (closed && (below + 1) * step == highest)
  match hitsBelow, hitsAbove with
  | false, false => none
  | true, false => some below
  | false, true => some (below + 1)
  | true, true => if middle - below * step < (below + 1) * step - middle then some below else some (below + 1)

/-- A power of ten above the value. -/
def coarsestScale (v : BinaryValue) : Int :=
  -- `30103 / 100000` is a little more than the decimal logarithm of two.
  Int.fdiv ((v.exponent + (Nat.log2 v.mantissa : Int) + 1) * 30103) 100000 + 1

/-- Seventeen digits tell all doubles apart, and `coarsestScale` is at most two powers too high. -/
def gridCount : Nat := 20

/-- The shortest decimal in the interval, as a coefficient and the power of ten of its unit. -/
def shortest (v : BinaryValue) : Nat × Int :=
  if v.mantissa = 0 then
    (0, 0)
  else
    let scales := (List.range gridCount).map fun (step : Nat) => v.coarsestScale - (step : Int)
    match scales.findSome? fun scale => (v.onGrid? scale).map fun coefficient => (coefficient, scale) with
    | some found => found
    | none => (v.inUnits (v.coarsestScale - gridCount), v.coarsestScale - gridCount)

end BinaryValue

/-- The shortest numeral that reads back as a double; none for infinities and for what is not a number. -/
def shortestNumeral? (x : Float) : Option Numeral :=
  (BinaryValue.ofFloat? x).map fun v =>
    let (coefficient, scale) := v.shortest
    ⟨v.negative, coefficient * Nat.pow 10 scale.toNat, (-scale).toNat⟩

end PaperTrading
