/-
Module: PaperTrading.Proofs.Arithmetic.RationalRoots
Purpose: The rational numbers with the roots that they have, an exact arithmetic that can be evaluated.
Main exports: RootedRational, RootedRational.rootsScale
-/
import Mathlib.Data.Rat.Sqrt
import PaperTrading.Proofs.Arithmetic.Hundredths
import PaperTrading.Proofs.Arithmetic.Scaling

namespace PaperTrading

/-- The root of a rational number that is a square, and zero for any other. -/
def rationalRoot (x : ℚ) : ℚ :=
  if Rat.sqrt x * Rat.sqrt x = x then Rat.sqrt x else 0

/-- The root of a square that is not negative comes out of a root. -/
theorem rationalRoot_square_mul {c : ℚ} (sign : 0 ≤ c) (x : ℚ) :
    rationalRoot (c * c * x) = c * rationalRoot x := by
  obtain rfl | nonzero := eq_or_ne c 0
  · simp [rationalRoot]
  · by_cases square : Rat.sqrt x * Rat.sqrt x = x
    · have root : c * c * x = c * Rat.sqrt x * (c * Rat.sqrt x) := by
        rw [mul_mul_mul_comm, square]
      have same : Rat.sqrt (c * c * x) = c * Rat.sqrt x := by
        rw [root, Rat.sqrt_eq, abs_of_nonneg (mul_nonneg sign (Rat.sqrt_nonneg x))]
      rw [rationalRoot, rationalRoot, same, if_pos root.symm, if_pos square]
    · have scaled : ¬ Rat.sqrt (c * c * x) * Rat.sqrt (c * c * x) = c * c * x := by
        intro root
        apply square
        rw [← Rat.exists_mul_self]
        refine ⟨Rat.sqrt (c * c * x) / c, ?_⟩
        rw [div_mul_div_comm, root, mul_div_cancel_left₀ x (mul_ne_zero nonzero nonzero)]
      rw [rationalRoot, rationalRoot, if_neg scaled, if_neg square, mul_zero]

/-- The rational numbers, whose only roots are those of squares. -/
def RootedRational : Type := ℚ

namespace RootedRational

instance : LinearOrder RootedRational := inferInstanceAs (LinearOrder ℚ)

instance : ExactArithmetic RootedRational where
  __ := (inferInstance : ExactArithmetic ℚ)
  sqrt := rationalRoot

instance : IsStrictOrderedRing RootedRational := inferInstanceAs (IsStrictOrderedRing ℚ)

theorem rootsScale : RootsScale RootedRational :=
  fun _ x sign _ => rationalRoot_square_mul sign x

/-- An amount in hundredths, exactly. -/
def ofHundredths (x : Hundredths) : RootedRational :=
  (mkRat x.count 100 : ℚ)

end RootedRational

end PaperTrading
