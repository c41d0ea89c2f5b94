/-
Module: PaperTrading.Proofs.Arithmetic.Saturated
Purpose: Amounts in hundredths below a limit, a small arithmetic with infinities that can be evaluated.
Main exports: Saturated, Saturated.spelledOut
-/
import PaperTrading.Proofs.Arithmetic.Hundredths
import PaperTrading.Proofs.Rule.Unreadable

namespace PaperTrading

/-- A number with two decimal places.  At the limit, on either side, it stands for an infinity. -/
structure Saturated where
  amount : Hundredths
deriving DecidableEq, Repr

namespace Saturated

/-- As many hundredths as ten million units have. -/
def limit : Int := 1000000000

/-- The number of an amount, moved to the limit if the amount is beyond it. -/
def ofAmount (x : Hundredths) : Saturated :=
  ⟨⟨max (-limit) (min x.count limit)⟩⟩

instance : Arithmetic Saturated where
  add a b := ofAmount (a.amount + b.amount)
  sub a b := ofAmount (a.amount - b.amount)
  mul a b := ofAmount (a.amount * b.amount)
  div a b := ofAmount (a.amount / b.amount)
  neg a := ofAmount (-a.amount)
  beq a b := a.amount == b.amount
  whole n := ofAmount (Arithmetic.whole n)
  lt a b := Arithmetic.lt a.amount b.amount
  le a b := Arithmetic.le a.amount b.amount
  isFinite a := -limit < a.amount.count && a.amount.count < limit
  magnitude a := ofAmount (Arithmetic.magnitude a.amount)
  nearest a := ofAmount (Arithmetic.nearest a.amount)
  sqrt a := ofAmount (Arithmetic.sqrt a.amount)
  power a b := ofAmount (Arithmetic.power a.amount b.amount)
  floorNat a := Arithmetic.floorNat a.amount
  tailProbability n a := ofAmount (Arithmetic.tailProbability n a.amount)

instance : Legible Saturated where
  ofNumeral n := ofAmount (Hundredths.ofNumeral n)
  toNumeral? x := if Arithmetic.isFinite x then some x.amount.numeral else none
  word x := if x.amount.count < 0 then "-inf" else "inf"

theorem isFinite_iff {x : Saturated} :
    Arithmetic.isFinite x = true ↔ -limit < x.amount.count ∧ x.amount.count < limit := by
  show (decide _ && decide _) = true ↔ _
  rw [Bool.and_eq_true, decide_eq_true_iff, decide_eq_true_iff]

/-- A finite number keeps its amount. -/
theorem ofAmount_of_isFinite {x : Saturated} (finite : Arithmetic.isFinite x = true) : ofAmount x.amount = x := by
  obtain ⟨low, high⟩ := isFinite_iff.1 finite
  have within : max (-limit) (min x.amount.count limit) = x.amount.count := by
    omega
  rw [ofAmount, within]

theorem spelledOut : SpelledOut Saturated where
  readsBack := by
    intro x finite
    refine ⟨x.amount.numeral, if_pos finite, ?_⟩
    show ofAmount (Hundredths.ofNumeral x.amount.numeral) = x
    rw [Hundredths.ofNumeral_numeral, ofAmount_of_isFinite finite]
  special := by
    intro x unbounded
    refine ⟨if_neg (by rw [unbounded]; exact Bool.false_ne_true), ?_⟩
    show (if _ then _ else _) ∈ specialWords
    split
    · decide
    · decide

end Saturated

end PaperTrading
