/-
Module: PaperTrading.Proofs.Arithmetic.Scaling
Purpose: What a positive factor on all numbers changes in exact arithmetic, and what it leaves alone.
Main exports: ExactMagnitude, RootsScale, lt_scaled, le_scaled, greater_scaled, lesser_scaled, total_eq_sum,
  magnitude_scaled
-/
import Mathlib.Algebra.BigOperators.Group.List.Basic
import Mathlib.Algebra.Order.Field.Basic
import Mathlib.Algebra.Order.Group.MinMax
import PaperTrading.Proofs.Arithmetic.Exact

namespace PaperTrading

/-- The magnitude of a number is its absolute value. -/
def ExactMagnitude (K : Type) [LinearOrder K] [ExactArithmetic K] : Prop :=
  ∀ a : K, Arithmetic.magnitude a = |a|

/-- A square comes out of a root. -/
def RootsScale (K : Type) [LinearOrder K] [ExactArithmetic K] : Prop :=
  ∀ c x : K, 0 ≤ c → 0 ≤ x → Arithmetic.sqrt (c * c * x) = c * Arithmetic.sqrt x

namespace ExactArithmetic

variable {K : Type} [LinearOrder K] [ExactArithmetic K]

section Operations

theorem le_iff {a b : K} : Arithmetic.le a b = true ↔ a ≤ b := by
  have same : Arithmetic.le a b = decide (a ≤ b) := le_eq a b
  rw [same, decide_eq_true_iff]

theorem beq_iff {a b : K} : (a == b) = true ↔ a = b := by
  have same : (a == b) = decide (a = b) := beq_eq a b
  rw [same, decide_eq_true_iff]

theorem isFinite_all (a : K) : Arithmetic.isFinite a = true :=
  isFinite_eq a

@[simp] theorem whole_zero : (Arithmetic.whole 0 : K) = 0 := by
  rw [whole_eq_cast, Nat.cast_zero]

theorem finite?_eq (a : K) : Arithmetic.finite? a = some a :=
  if_pos (isFinite_all a)

theorem finiteOrZero_eq (a : K) : Arithmetic.finiteOrZero a = a :=
  if_pos (isFinite_all a)

theorem greater_eq_max (a b : K) : Arithmetic.greater a b = max a b := by
  simp only [Arithmetic.greater, le_iff, beq_iff]
  split
  case isTrue smaller => rw [max_eq_left smaller]
  case isFalse larger => rw [if_pos trivial, max_eq_right (le_of_not_ge larger)]

theorem lesser_eq_min (a b : K) : Arithmetic.lesser a b = min a b := by
  simp only [Arithmetic.lesser, le_iff, beq_iff]
  split
  case isTrue smaller => rw [min_eq_left smaller]
  case isFalse larger => rw [if_pos trivial, min_eq_right (le_of_not_ge larger)]

theorem total_eq_sum (xs : List K) : Arithmetic.total xs = xs.sum := by
  have start : -(Arithmetic.whole 0 : K) = 0 := by
    rw [whole_zero]
    exact neg_zero
  rw [Arithmetic.total, start, List.sum_eq_foldl]

end Operations

section Scaling

variable [IsStrictOrderedRing K] {c : K} (positive : 0 < c) (a b : K)
include positive

theorem lt_scaled : Arithmetic.lt (c * a) (c * b) = Arithmetic.lt a b := by
  rw [Bool.eq_iff_iff, lt_iff, lt_iff]
  exact mul_lt_mul_iff_right₀ positive

theorem le_scaled : Arithmetic.le (c * a) (c * b) = Arithmetic.le a b := by
  rw [Bool.eq_iff_iff, le_iff, le_iff]
  exact mul_le_mul_iff_right₀ positive

omit [IsStrictOrderedRing K] in
theorem beq_scaled : (c * a == c * b) = (a == b) := by
  rw [Bool.eq_iff_iff, beq_iff, beq_iff]
  exact mul_right_inj' positive.ne'

theorem greater_scaled : Arithmetic.greater (c * a) (c * b) = c * Arithmetic.greater a b := by
  rw [greater_eq_max, greater_eq_max, mul_max_of_nonneg _ _ positive.le]

theorem lesser_scaled : Arithmetic.lesser (c * a) (c * b) = c * Arithmetic.lesser a b := by
  rw [lesser_eq_min, lesser_eq_min, mul_min_of_nonneg _ _ positive.le]

theorem magnitude_scaled (absolute : ExactMagnitude K) :
    Arithmetic.magnitude (c * a) = c * Arithmetic.magnitude a := by
  rw [absolute, absolute, abs_mul, abs_of_pos positive]

end Scaling

end ExactArithmetic

end PaperTrading
