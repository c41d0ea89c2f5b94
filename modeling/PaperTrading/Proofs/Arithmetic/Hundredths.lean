/-
Module: PaperTrading.Proofs.Arithmetic.Hundredths
Purpose: Amounts in hundredths, a small arithmetic without infinities that can be evaluated.
Main exports: Hundredths, Hundredths.readsBack, Hundredths.flatDay

What is stated over any arithmetic is tried on this one.
-/
import Mathlib.Data.Nat.Sqrt
import PaperTrading.Market.Panel
import PaperTrading.Proofs.Decimal.ReadBack

namespace PaperTrading

/-- A number with two decimal places. -/
structure Hundredths where
  count : Int
deriving DecidableEq, Repr

namespace Hundredths

/-- A whole number of units. -/
def ofInt (n : Int) : Hundredths :=
  ⟨n * 100⟩

/-- A number to the power of a natural number. -/
def powerNat (x : Hundredths) : Nat → Hundredths
  | 0 => ofInt 1
  | exponent + 1 => ⟨(x.powerNat exponent).count * x.count / 100⟩

/-- Products and quotients are cut off after the second place.  There is no t distribution here, so nothing is
ever significant. -/
instance : Arithmetic Hundredths where
  add a b := ⟨a.count + b.count⟩
  sub a b := ⟨a.count - b.count⟩
  mul a b := ⟨(a.count * b.count).tdiv 100⟩
  div a b := ⟨(a.count * 100).tdiv b.count⟩
  neg a := ⟨-a.count⟩
  beq a b := a.count == b.count
  whole n := ofInt n
  lt a b := a.count < b.count
  le a b := a.count ≤ b.count
  isFinite _ := true
  magnitude a := ⟨a.count.natAbs⟩
  nearest a := ofInt ((a.count + a.count.sign * 50).tdiv 100)
  sqrt a := ⟨Nat.sqrt (a.count.toNat * 100)⟩
  power a b := a.powerNat (b.count / 100).toNat
  floorNat a := (a.count / 100).toNat
  tailProbability _ _ := ofInt 1

/-- The numeral of a number has as few places as will do. -/
def numeral (x : Hundredths) : Numeral :=
  let size := x.count.natAbs
  if size % 100 = 0 then ⟨x.count < 0, size / 100, 0⟩
  else if size % 10 = 0 then ⟨x.count < 0, size / 10, 1⟩
  else ⟨x.count < 0, size, 2⟩

/-- The number of a numeral, cut off after the second place. -/
def ofNumeral (n : Numeral) : Hundredths :=
  let size : Int := (n.coefficient * 100 / Nat.pow 10 n.places : Nat)
  ⟨if n.negative then -size else size⟩

instance : Legible Hundredths where
  ofNumeral := ofNumeral
  toNumeral? x := some x.numeral
  word _ := ""

theorem ofNumeral_numeral (x : Hundredths) : ofNumeral x.numeral = x := by
  obtain ⟨count⟩ := x
  simp only [numeral]
  by_cases whole : count.natAbs % 100 = 0
  · simp only [if_pos whole, ofNumeral, decide_eq_true_eq, Nat.pow_eq, mk.injEq]
    omega
  · by_cases tenths : count.natAbs % 10 = 0
    · simp only [if_neg whole, if_pos tenths, ofNumeral, decide_eq_true_eq, Nat.pow_eq, mk.injEq]
      omega
    · simp only [if_neg whole, if_neg tenths, ofNumeral, decide_eq_true_eq, Nat.pow_eq, mk.injEq]
      omega

theorem readsBack : ReadsBack Hundredths :=
  fun x _ => ⟨x.numeral, rfl, x.ofNumeral_numeral⟩

/-- A day on which the price, in units, does not change, and on which no indicator is defined. -/
def flatDay (date : Date) (price : Int) : PanelRow Hundredths :=
  ⟨date, ofInt price, ofInt price, ofInt price, ofInt price, ofInt 1000, none, none, none, none, none, none, none,
    none, none, none, none, none⟩

end Hundredths

end PaperTrading
