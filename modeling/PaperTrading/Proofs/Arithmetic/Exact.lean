/-
Module: PaperTrading.Proofs.Arithmetic.Exact
Purpose: Arithmetic without rounding, and that of the rational numbers.
Main exports: ExactArithmetic
-/
import Mathlib.Algebra.Order.Field.Rat
import Mathlib.Data.Rat.Floor
import Mathlib.Data.Rat.Sqrt
import PaperTrading.Arithmetic.Basic

namespace PaperTrading

/-- Arithmetic whose operations and comparisons are those of an ordered field, all of whose numbers are finite.
Roots, powers and probabilities, which a field need not have, may be anything. -/
class ExactArithmetic (K : Type) [LinearOrder K] extends Field K, Arithmetic K where
  whole_eq : ∀ n : Nat, Arithmetic.whole n = (n : K)
  lt_eq : ∀ a b : K, Arithmetic.lt a b = decide (a < b)
  le_eq : ∀ a b : K, Arithmetic.le a b = decide (a ≤ b)
  beq_eq : ∀ a b : K, (a == b) = decide (a = b)
  isFinite_eq : ∀ a : K, Arithmetic.isFinite a = true

namespace ExactArithmetic

variable {K : Type} [LinearOrder K] [ExactArithmetic K]

-- The fields of the class are about its parts; these are about the operations that are used everywhere.

theorem whole_eq_cast (n : Nat) : (Arithmetic.whole n : K) = n :=
  whole_eq n

theorem lt_iff {a b : K} : Arithmetic.lt a b = true ↔ a < b := by
  have same : Arithmetic.lt a b = decide (a < b) := lt_eq a b
  rw [same, decide_eq_true_iff]

end ExactArithmetic

/-- The rational numbers.  There is no t distribution here, so nothing is ever significant. -/
instance : ExactArithmetic ℚ where
  __ := (inferInstance : Field ℚ)
  beq a b := decide (a = b)
  whole n := n
  lt a b := decide (a < b)
  le a b := decide (a ≤ b)
  isFinite _ := true
  magnitude a := |a|
  nearest a := if 0 ≤ a then ⌊a + 1 / 2⌋ else ⌈a - 1 / 2⌉
  sqrt := Rat.sqrt
  power a b := a ^ b.num
  floorNat a := ⌊a⌋₊
  tailProbability _ _ := 1
  whole_eq _ := rfl
  lt_eq _ _ := rfl
  le_eq _ _ := rfl
  beq_eq _ _ := rfl
  isFinite_eq _ := rfl

end PaperTrading
