/-
Module: PaperTrading.Proofs.Doubles.Operations
Purpose: Sums, products and quotients of doubles are those of the numbers they stand for, rounded.
Main exports: isRounding_add, isRounding_mul, isRounding_div
-/
import PaperTrading.Proofs.Doubles.Cutting

namespace PaperTrading

open Float.Model

section Sums

variable {x y : UnpackedFloat} {m : Nat} {e : Int}

/-- What is on the grid of doubles is not changed by rounding. -/
theorem IsPlaced.roundsTo (placed : IsPlaced m e) (positive : 0 < m) : RoundsTo (m * 2 ^ e) (m * 2 ^ e) := by
  have grid : gridExponent (m * 2 ^ e) = e := by
    rw [gridExponent_eq positive le_rfl (lt_add_one _)]
    show max ((m.log2 : ℤ) + 1 + e - 53) (-1074) = e
    have short := log2_le_of_short placed.short
    have fine := placed.fine
    obtain full | same := placed.full
    · have long := (Nat.le_log2 positive.ne').2 full
      omega
    · omega
  refine roundsTo_of_onGrid (n := m) ?_
  rw [grid, Int.cast_natCast]

theorem isRounding_of_isStorable (storable : IsStorable x) (finite : x.isFinite = true) :
    IsRounding (quantity x) x := by
  cases x with
  | notANumber | infinity => cases finite
  | zero sign => exact isRounding_zero sign
  | finite sign m e positive => exact ⟨rfl, storable.1, (storable.1.roundsTo positive).signed sign⟩

/-- A mantissa with its sign, on a finer grid. -/
theorem signed_decreaseExponent (sign : UnpackedFloat.Sign) (m : Nat) {e f : Int} (finer : f ≤ e) :
    signed sign (m * 2 ^ e) = (sign.apply (UnpackedFloat.decreaseExponent m e f).1 : ℤ) * 2 ^ f := by
  let added := (e - f).toNat
  have reached : added + f = e := by omega
  have same : ((m <<< added : ℕ) : ℚ) * 2 ^ f = m * 2 ^ e := by rw [shiftLeft_mul_zpow, reached]
  cases sign with
  | positive =>
      show (m : ℚ) * 2 ^ e = (((m <<< added : ℕ) : ℤ) : ℚ) * 2 ^ f
      rw [Int.cast_natCast, same]
  | negative =>
      show -((m : ℚ) * 2 ^ e) = ((-((m <<< added : ℕ) : ℤ) : ℤ) : ℚ) * 2 ^ f
      rw [Int.cast_neg, Int.cast_natCast, neg_mul, same]

/-- A sum of doubles is the sum of the two numbers, rounded. -/
theorem isRounding_add (one : IsStorable x) (other : IsStorable y) (finite : x.isFinite = true)
    (finite' : y.isFinite = true) : IsRounding (quantity x + quantity y) (UnpackedFloat.add .binary64 x y) := by
  cases x with
  | notANumber | infinity => cases finite
  | zero sign =>
      have start : quantity (.zero sign) + quantity y = quantity y := zero_add _
      rw [start]
      cases y with
      | notANumber | infinity => cases finite'
      | zero sign' => cases sign <;> cases sign' <;> exact isRounding_zero _
      | finite => exact isRounding_of_isStorable other finite'
  | finite sign m e positive =>
      cases y with
      | notANumber | infinity => cases finite'
      | zero sign' =>
          have same : quantity (.finite sign m e positive) + quantity (.zero sign') =
              quantity (.finite sign m e positive) := add_zero _
          rw [same]
          exact isRounding_of_isStorable one finite
      | finite sign' n f positive' =>
          have common : quantity (.finite sign m e positive) + quantity (.finite sign' n f positive') =
              (sign.apply (UnpackedFloat.decreaseExponent m e (min e f)).1 +
                sign'.apply (UnpackedFloat.decreaseExponent n f (min e f)).1 : ℤ) * 2 ^ min e f := by
            rw [Int.cast_add, add_mul, ← signed_decreaseExponent sign m (min_le_left e f),
              ← signed_decreaseExponent sign' n (min_le_right e f)]
            rfl
          rw [common]
          exact isRounding_normalize _ _ _

end Sums

section Products

variable {x y : UnpackedFloat} {m n : Nat} {e f : Int} (sign sign' : UnpackedFloat.Sign) {positive : 0 < m}
  {positive' : 0 < n}

theorem signed_mul (a b : ℚ) :
    signed sign a * signed sign' b = signed (sign * sign') (a * b) := by
  cases sign with
  | positive =>
      cases sign' with
      | positive => rfl
      | negative => exact mul_neg a b
  | negative =>
      cases sign' with
      | positive => exact neg_mul a b
      | negative => exact neg_mul_neg a b

theorem signed_div (a b : ℚ) :
    signed sign a / signed sign' b = signed (sign / sign') (a / b) := by
  cases sign with
  | positive =>
      cases sign' with
      | positive => rfl
      | negative => exact div_neg a
  | negative =>
      cases sign' with
      | positive => exact neg_div b a
      | negative => exact neg_div_neg_eq a b

/-- With enough digits a mantissa is on a grid that is fine enough. -/
theorem le_gridExponent (positive : 0 < m) (enough : 2 ^ 52 ≤ m ∨ e ≤ -1074) :
    e ≤ gridExponent (m * 2 ^ e) := by
  rw [gridExponent_eq positive le_rfl (lt_add_one _)]
  show e ≤ max ((m.log2 : ℤ) + 1 + e - 53) (-1074)
  obtain full | fine := enough
  · have long := (Nat.le_log2 positive.ne').2 full
    omega
  · omega

/-- The product of two mantissas with enough digits is rounded. -/
theorem isRounding_mul_finite (enough : 2 ^ 52 ≤ m * n ∨ e + f ≤ -1074) :
    IsRounding (signed sign (m * 2 ^ e) * signed sign' (n * 2 ^ f))
      (UnpackedFloat.mul .binary64 (.finite sign m e positive) (.finite sign' n f positive')) := by
  have product : 0 < m * n := Nat.mul_pos positive positive'
  have value : (m : ℚ) * 2 ^ e * (n * 2 ^ f) = (m * n : ℕ) * 2 ^ (e + f) := by
    rw [zpow_add₀ two_ne_zero, Nat.cast_mul, mul_mul_mul_comm]
  rw [signed_mul, value]
  exact isRounding_roundWithAccuracy _ (cuts_exact (m * n)) (Nat.cast_pos.2 product) (le_gridExponent product enough)

/-- A product of doubles is the product of the two numbers, rounded. -/
theorem isRounding_mul (one : IsStorable x) (other : IsStorable y) (finite : x.isFinite = true)
    (finite' : y.isFinite = true) : IsRounding (quantity x * quantity y) (UnpackedFloat.mul .binary64 x y) := by
  cases x with
  | notANumber | infinity => cases finite
  | zero sign =>
      have nothing : quantity (.zero sign) * quantity y = 0 := zero_mul _
      rw [nothing]
      cases y with
      | notANumber | infinity => cases finite'
      | zero | finite => exact isRounding_zero _
  | finite sign m e positive =>
      cases y with
      | notANumber | infinity => cases finite'
      | zero sign' =>
          have nothing : quantity (.finite sign m e positive) * quantity (.zero sign') = 0 := mul_zero _
          rw [nothing]
          exact isRounding_zero _
      | finite sign' n f positive' =>
          refine isRounding_mul_finite sign sign' ?_
          have fine := other.1.fine
          obtain full | least := one.1.full
          · exact .inl (full.trans (Nat.le_mul_of_pos_right m positive'))
          · obtain full' | least' := other.1.full
            · exact .inl (full'.trans (Nat.le_mul_of_pos_left n positive))
            · exact .inr (by omega)

/-- The digits of two numbers tell how large their quotient is, but for one digit. -/
theorem zpow_le_div (positive : 0 < m) (positive' : 0 < n) :
    (2 : ℚ) ^ (totalExponent m e - totalExponent n f - 1) ≤ m * 2 ^ e / (n * 2 ^ f) := by
  have divisor : (n : ℚ) * 2 ^ f ≤ 2 ^ ((n.log2 : ℤ) + 1 + f) :=
    (mul_le_mul_of_nonneg_right (lt_add_one (n : ℚ)).le (zpow_two_pos f).le).trans (succ_mul_zpow_le n f)
  have exponents : totalExponent m e - totalExponent n f - 1 = (m.log2 : ℤ) + e - ((n.log2 : ℤ) + 1 + f) := by
    show (m.log2 : ℤ) + 1 + e - ((n.log2 : ℤ) + 1 + f) - 1 = _
    omega
  rw [exponents, zpow_sub₀ two_ne_zero]
  exact div_le_div₀ (finite_pos positive e).le (zpow_log2_le positive e) (finite_pos positive' f) divisor

/-- A quotient of two mantissas with their exponents is rounded. -/
theorem isRounding_div_finite : IsRounding (signed sign (m * 2 ^ e) / signed sign' (n * 2 ^ f))
    (UnpackedFloat.div .binary64 (.finite sign m e positive) (.finite sign' n f positive')) := by
  let digits := totalExponent m e - totalExponent n f
  let target := min (e - f) (Format.binary64.targetExponent digits)
  let added := (e - f - target).toNat
  have reached : e - f = added + target := by omega
  have divisor : (0 : ℚ) < n := Nat.cast_pos.2 positive'
  have value : (m : ℚ) * 2 ^ e / (n * 2 ^ f) = (m <<< added : ℕ) / n * 2 ^ target := by
    rw [div_mul_eq_mul_div, shiftLeft_mul_zpow, ← reached, zpow_sub₀ two_ne_zero, div_mul_eq_div_div_swap,
      mul_div_assoc]
  have number : (0 : ℚ) < (m <<< added : ℕ) / n := div_pos (Nat.cast_pos.2 (shiftLeft_pos positive added)) divisor
  have quotient : (0 : ℚ) < m * 2 ^ e / (n * 2 ^ f) := div_pos (finite_pos positive e) (finite_pos positive' f)
  have fine : target ≤ gridExponent (m * 2 ^ e / (n * 2 ^ f)) := by
    have large := (Int.zpow_le_iff_le_log one_lt_two quotient).1 (zpow_le_div positive positive')
    refine (min_le_right _ _).trans ?_
    rw [gridExponent, abs_of_pos quotient]
    show max (digits - 53) (-1074) ≤ _
    omega
  rw [signed_div, value]
  rw [value] at fine
  exact isRounding_roundWithAccuracy _ (cuts_div (m <<< added) positive') number fine

/-- A quotient of doubles is the quotient of the two numbers, rounded. -/
theorem isRounding_div (finite : x.isFinite = true) (finite' : y.isFinite = true) (nonzero : quantity y ≠ 0) :
    IsRounding (quantity x / quantity y) (UnpackedFloat.div .binary64 x y) := by
  cases y with
  | notANumber | infinity => cases finite'
  | zero => exact absurd rfl nonzero
  | finite sign' n f positive' =>
      cases x with
      | notANumber | infinity => cases finite
      | zero sign =>
          have nothing : quantity (.zero sign) / quantity (.finite sign' n f positive') = 0 := zero_div _
          rw [nothing]
          exact isRounding_zero _
      | finite sign m e positive => exact isRounding_div_finite sign sign'

end Products

end PaperTrading
