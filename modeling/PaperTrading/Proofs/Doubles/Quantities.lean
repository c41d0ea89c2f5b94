/-
Module: PaperTrading.Proofs.Doubles.Quantities
Purpose: The numbers that doubles stand for, and their order.
Main exports: quantity, compare_eq_compare_quantity, quantity_stored

An infinity counts as the first power of two that is too large for a double.  So the doubles that are numbers are
ordered as the numbers they stand for, and what is too large is cut off where it is stored.
-/
import PaperTrading.Proofs.Doubles.Rounding
import PaperTrading.Proofs.Doubles.Storage

namespace PaperTrading

open Float.Model

/-- A number with a sign. -/
def signed : UnpackedFloat.Sign → ℚ → ℚ
  | .positive, x => x
  | .negative, x => -x

/-- The first power of two that is too large for a double. -/
def beyond : ℚ := 2 ^ (1024 : ℤ)

/-- The number that a double stands for, if an infinity stands for the first power of two that is too large, and what is
undefined for zero. -/
def quantity : UnpackedFloat → ℚ
  | .finite sign mantissa exponent _ => signed sign (mantissa * 2 ^ exponent)
  | .infinity sign => signed sign beyond
  | .zero _ | .notANumber => 0

section Placed

variable {m n : Nat} {e f : Int}

theorem IsPlaced.lt_of_exponent (one : IsPlaced m e) (other : IsPlaced n f) (less : e < f) :
    (m : ℚ) * 2 ^ e < n * 2 ^ f := by
  have coarse : -1074 < f := one.fine.trans_lt less
  have full : 2 ^ 52 ≤ n := other.full.resolve_right coarse.ne'
  calc (m : ℚ) * 2 ^ e
    _ < 2 ^ 53 * 2 ^ e := mul_lt_mul_of_pos_right (by exact_mod_cast one.short) (zpow_two_pos e)
    _ = 2 ^ (53 + e) := (zpow_add₀ two_ne_zero 53 _).symm
    _ ≤ 2 ^ (52 + f) := zpow_le_zpow_right₀ one_le_two (by omega)
    _ = 2 ^ 52 * 2 ^ f := zpow_add₀ two_ne_zero 52 _
    _ ≤ n * 2 ^ f := mul_le_mul_of_nonneg_right (by exact_mod_cast full) (zpow_two_pos f).le

/-- The exponent decides first, and then the mantissa. -/
theorem IsPlaced.compare_eq (one : IsPlaced m e) (other : IsPlaced n f) :
    (compare e f).then (compare m n) = compare ((m : ℚ) * 2 ^ e) (n * 2 ^ f) := by
  obtain less | rfl | greater := lt_trichotomy e f
  · rw [compare_lt_iff_lt.2 less, compare_lt_iff_lt.2 (one.lt_of_exponent other less)]
    rfl
  · rw [compare_eq_iff_eq.2 rfl, Ordering.then]
    obtain less | rfl | greater := lt_trichotomy m n
    · rw [compare_lt_iff_lt.2 less, compare_lt_iff_lt.2]
      exact mul_lt_mul_of_pos_right (Nat.cast_lt.2 less) (zpow_two_pos e)
    · rw [compare_eq_iff_eq.2 rfl, compare_eq_iff_eq.2 rfl]
    · rw [compare_gt_iff_gt.2 greater, compare_gt_iff_gt.2]
      exact mul_lt_mul_of_pos_right (Nat.cast_lt.2 greater) (zpow_two_pos e)
  · rw [compare_gt_iff_gt.2 greater, compare_gt_iff_gt.2 (other.lt_of_exponent one greater)]
    rfl

theorem IsPlaced.lt_beyond (placed : IsPlaced m e) (small : e ≤ 971) : (m : ℚ) * 2 ^ e < beyond := by
  calc (m : ℚ) * 2 ^ e
    _ < 2 ^ 53 * 2 ^ e := mul_lt_mul_of_pos_right (by exact_mod_cast placed.short) (zpow_two_pos e)
    _ = 2 ^ (53 + e) := (zpow_add₀ two_ne_zero 53 _).symm
    _ ≤ beyond := zpow_le_zpow_right₀ one_le_two (by omega)

theorem IsPlaced.beyond_le (placed : IsPlaced m e) (large : 971 < e) : beyond ≤ m * 2 ^ e := by
  have full : 2 ^ 52 ≤ m := placed.full.resolve_right (by omega)
  calc beyond
    _ ≤ 2 ^ (52 + e) := zpow_le_zpow_right₀ one_le_two (by omega)
    _ = 2 ^ 52 * 2 ^ e := zpow_add₀ two_ne_zero 52 _
    _ ≤ m * 2 ^ e := mul_le_mul_of_nonneg_right (by exact_mod_cast full) (zpow_two_pos e).le

end Placed

section Order

variable {x y : UnpackedFloat} {a b : ℚ} {m : Nat}

theorem finite_pos (positive : 0 < m) (e : Int) : (0 : ℚ) < m * 2 ^ e :=
  mul_pos (Nat.cast_pos.2 positive) (zpow_two_pos e)

theorem beyond_pos : 0 < beyond :=
  zpow_two_pos 1024

/-- A finite double is smaller than what is too large. -/
theorem abs_quantity_lt (storable : IsStorable x) (finite : x.isFinite = true) : |quantity x| < beyond := by
  cases x with
  | notANumber | infinity => cases finite
  | zero => exact abs_zero.trans_lt beyond_pos
  | finite sign m e positive =>
      have size : |signed sign (m * 2 ^ e)| = m * 2 ^ e := by
        cases sign with
        | positive => exact abs_of_pos (finite_pos positive e)
        | negative => exact (abs_neg _).trans (abs_of_pos (finite_pos positive e))
      exact size.trans_lt (storable.1.lt_beyond storable.2)

theorem compare_of_lt (less : a < b) : some Ordering.lt = some (compare a b) :=
  congrArg some (compare_lt_iff_lt.2 less).symm

theorem compare_of_gt (greater : b < a) : some Ordering.gt = some (compare a b) :=
  congrArg some (compare_gt_iff_gt.2 greater).symm

theorem compare_neg (a b : ℚ) : compare (-a) (-b) = (compare a b).swap := by
  obtain less | rfl | greater := lt_trichotomy a b
  · rw [compare_lt_iff_lt.2 less, compare_gt_iff_gt.2 (neg_lt_neg less), Ordering.swap]
  · rw [compare_eq_iff_eq.2 rfl, compare_eq_iff_eq.2 rfl, Ordering.swap]
  · rw [compare_gt_iff_gt.2 greater, compare_lt_iff_lt.2 (neg_lt_neg greater), Ordering.swap]

/-- Doubles that are numbers are in the order of what they stand for. -/
theorem compare_eq_compare_quantity (one : IsStorable x) (other : IsStorable y) (number : x.isNaN = false)
    (number' : y.isNaN = false) : x.compare y = some (compare (quantity x) (quantity y)) := by
  cases x with
  | notANumber => cases number
  | infinity sign =>
      cases y with
      | notANumber => cases number'
      | infinity sign' =>
          have below : -beyond < beyond := neg_lt_self beyond_pos
          cases sign with
          | negative =>
              cases sign' with
              | negative => exact congrArg some (compare_eq_iff_eq.2 rfl).symm
              | positive => exact compare_of_lt below
          | positive =>
              cases sign' with
              | negative => exact compare_of_gt below
              | positive => exact congrArg some (compare_eq_iff_eq.2 rfl).symm
      | zero | finite =>
          obtain ⟨low, high⟩ := abs_lt.1 (abs_quantity_lt other rfl)
          cases sign with
          | negative => exact compare_of_lt low
          | positive => exact compare_of_gt high
  | zero =>
      cases y with
      | notANumber => cases number'
      | infinity sign' =>
          cases sign' with
          | negative => exact compare_of_gt (neg_lt_zero.2 beyond_pos)
          | positive => exact compare_of_lt beyond_pos
      | zero => exact congrArg some (compare_eq_iff_eq.2 rfl).symm
      | finite sign' n f positive =>
          cases sign' with
          | negative => exact compare_of_gt (neg_lt_zero.2 (finite_pos positive f))
          | positive => exact compare_of_lt (finite_pos positive f)
  | finite sign m e positive =>
      cases y with
      | notANumber => cases number'
      | infinity sign' =>
          obtain ⟨low, high⟩ := abs_lt.1 (abs_quantity_lt one rfl)
          cases sign' with
          | negative => exact (by cases sign <;> rfl : _ = some Ordering.gt).trans (compare_of_gt low)
          | positive => exact (by cases sign <;> rfl : _ = some Ordering.lt).trans (compare_of_lt high)
      | zero =>
          cases sign with
          | negative => exact compare_of_lt (neg_lt_zero.2 (finite_pos positive e))
          | positive => exact compare_of_gt (finite_pos positive e)
      | finite sign' n f positive' =>
          have sizes := one.1.compare_eq other.1
          have first := finite_pos positive e
          have second := finite_pos positive' f
          cases sign with
          | negative =>
              cases sign' with
              | negative =>
                  show some ((compare e f).then (compare m n)).swap = some (compare (-(m * 2 ^ e : ℚ)) (-(n * 2 ^ f)))
                  rw [sizes, compare_neg]
              | positive => exact compare_of_lt ((neg_lt_zero.2 first).trans second)
          | positive =>
              cases sign' with
              | negative => exact compare_of_gt ((neg_lt_zero.2 second).trans first)
              | positive => exact congrArg some sizes

/-- Doubles on one grid that have one size have one mantissa and one exponent. -/
theorem IsPlaced.eq_of_eq {m n : Nat} {e f : Int} (one : IsPlaced m e) (other : IsPlaced n f)
    (same : (m : ℚ) * 2 ^ e = n * 2 ^ f) : m = n ∧ e = f := by
  have order := one.compare_eq other
  rw [compare_eq_iff_eq.2 same, Ordering.then_eq_eq, compare_eq_iff_eq, compare_eq_iff_eq] at order
  exact order.symm

/-- Finite doubles that stand for one number, which is not zero, are the same. -/
theorem eq_of_quantity (one : IsStorable x) (other : IsStorable y) (finite : x.isFinite = true)
    (finite' : y.isFinite = true) (same : quantity x = quantity y) (nonzero : quantity x ≠ 0) : x = y := by
  cases x with
  | notANumber | infinity => cases finite
  | zero => exact absurd rfl nonzero
  | finite sign m e positive =>
      cases y with
      | notANumber | infinity => cases finite'
      | zero => exact absurd same nonzero
      | finite sign' n f positive' =>
          have first := finite_pos positive e
          have second := finite_pos positive' f
          have opposite : -((m : ℚ) * 2 ^ e) ≠ n * 2 ^ f := ((neg_lt_zero.2 first).trans second).ne
          have opposite' : (m : ℚ) * 2 ^ e ≠ -(n * 2 ^ f) := ((neg_lt_zero.2 second).trans first).ne'
          cases sign with
          | negative =>
              cases sign' with
              | negative =>
                  obtain ⟨rfl, rfl⟩ := one.1.eq_of_eq other.1 (neg_inj.1 same)
                  rfl
              | positive => exact absurd same opposite
          | positive =>
              cases sign' with
              | negative => exact absurd same opposite'
              | positive =>
                  obtain ⟨rfl, rfl⟩ := one.1.eq_of_eq other.1 same
                  rfl

end Order

section Storing

variable {x y : UnpackedFloat} {a b : ℚ}

/-- The number nearest to a number among those that are not beyond the doubles. -/
def cutOff (x : ℚ) : ℚ :=
  max (-beyond) (min beyond x)

theorem cutOff_le_cutOff (ordered : a ≤ b) : cutOff a ≤ cutOff b :=
  max_le_max_left _ (min_le_min_left _ ordered)

theorem cutOff_of_abs_lt (small : |a| < beyond) : cutOff a = a := by
  obtain ⟨low, high⟩ := abs_lt.1 small
  rw [cutOff, min_eq_right high.le, max_eq_right low.le]

theorem cutOff_of_le (large : beyond ≤ a) : cutOff a = beyond := by
  rw [cutOff, min_eq_left large, max_eq_right (neg_le_self beyond_pos.le)]

theorem cutOff_of_le_neg (large : a ≤ -beyond) : cutOff a = -beyond := by
  rw [cutOff, max_eq_left ((min_le_right _ _).trans large)]

/-- What is found where a double was stored. -/
def stored (x : UnpackedFloat) : UnpackedFloat :=
  UnpackedFloat.unpack .binary64 (UnpackedFloat.pack .binary64 x)

theorem stored_of_isStorable (storable : IsStorable x) : stored x = x :=
  unpack_pack storable

theorem cutOff_signed_of_le (sign : UnpackedFloat.Sign) (large : beyond ≤ a) :
    cutOff (signed sign a) = signed sign beyond := by
  cases sign with
  | positive => exact cutOff_of_le large
  | negative => exact cutOff_of_le_neg (neg_le_neg large)

/-- What is stored stands for the same number, unless this is too large for a double. -/
theorem quantity_stored (rounded : IsRounded x) : quantity (stored x) = cutOff (quantity x) := by
  by_cases storable : IsStorable x
  · rw [stored_of_isStorable storable]
    cases x with
    | infinity sign => exact (cutOff_signed_of_le sign le_rfl).symm
    | notANumber => exact (cutOff_of_abs_lt (abs_zero.trans_lt beyond_pos)).symm
    | zero | finite => exact (cutOff_of_abs_lt (abs_quantity_lt storable rfl)).symm
  · cases x with
    | notANumber | infinity | zero => exact absurd trivial storable
    | finite sign m e positive =>
        have large : 971 < e := not_le.1 fun small => storable ⟨rounded, small⟩
        have infinite : stored (.finite sign m e positive) = .infinity sign := unpack_pack_of_large large
        rw [infinite]
        exact (cutOff_signed_of_le sign (IsPlaced.beyond_le rounded large)).symm

/-- What is stored of a number is a number, infinite if it is too large. -/
theorem isNaN_stored (rounded : IsRounded x) (finite : x.isFinite = true) : (stored x).isNaN = false := by
  cases x with
  | notANumber | infinity => cases finite
  | zero sign =>
      have same : stored (.zero sign) = .zero sign := stored_of_isStorable trivial
      rw [same]
      rfl
  | finite sign m e positive =>
      obtain small | large := le_or_gt e 971
      · have same : stored (.finite sign m e positive) = .finite sign m e positive :=
          stored_of_isStorable ⟨rounded, small⟩
        rw [same]
        rfl
      · have infinite : stored (.finite sign m e positive) = .infinity sign := unpack_pack_of_large large
        rw [infinite]
        rfl

end Storing

end PaperTrading
