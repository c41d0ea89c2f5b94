/-
Module: PaperTrading.Proofs.Doubles.Interval
Purpose: The shortest decimal of a double is among the numbers that are rounded to it.
Main exports: BinaryValue.Surrounds, BinaryValue.Surrounds.roundsTo, BinaryValue.surrounds_shortest

The numbers that are rounded to a double reach half a unit up and down, and only a quarter down where the doubles below
are twice as dense.  The ends belong to them if the mantissa is even.
-/
import PaperTrading.Decimal.Shortest
import PaperTrading.Proofs.Doubles.Cutting

namespace PaperTrading

open Float.Model

namespace BinaryValue

variable {v : BinaryValue} {y : ℚ}

/-- The size of a quarter of a unit of the mantissa. -/
def quarter (v : BinaryValue) : ℚ :=
  2 ^ v.exponent / 4

/-- A number is in the interval of a double, at its ends only if the mantissa is even. -/
structure Surrounds (v : BinaryValue) (y : ℚ) : Prop where
  low : (4 * v.mantissa - v.lowerGap) * v.quarter ≤ y
  high : y ≤ (4 * v.mantissa + 2) * v.quarter
  lowEnd : (4 * v.mantissa - v.lowerGap) * v.quarter = y → Even v.mantissa
  highEnd : y = (4 * v.mantissa + 2) * v.quarter → Even v.mantissa

theorem quarter_pos (v : BinaryValue) : 0 < v.quarter :=
  div_pos (zpow_two_pos _) (by norm_num)

theorem lowerGap_pos (v : BinaryValue) : 0 < v.lowerGap := by
  rw [lowerGap]
  split <;> decide

theorem lowerGap_le (v : BinaryValue) : v.lowerGap ≤ 2 := by
  rw [lowerGap]
  split <;> decide

/-- The interval in units of the mantissa. -/
theorem Surrounds.units {x : ℚ} (surrounds : v.Surrounds (x * 2 ^ v.exponent)) :
    (v.mantissa - v.lowerGap / 4 ≤ x ∧ x ≤ v.mantissa + 1 / 2) ∧
      (v.mantissa - v.lowerGap / 4 = x → Even v.mantissa) ∧ (x = v.mantissa + 1 / 2 → Even v.mantissa) := by
  have unit := zpow_two_pos v.exponent
  have lowest : (4 * v.mantissa - v.lowerGap) * v.quarter = (v.mantissa - v.lowerGap / 4) * 2 ^ v.exponent := by
    rw [quarter]
    ring
  have highest : (4 * v.mantissa + 2) * v.quarter = (v.mantissa + 1 / 2) * 2 ^ v.exponent := by
    rw [quarter]
    ring
  obtain ⟨low, high, lowEnd, highEnd⟩ := surrounds
  rw [lowest] at low lowEnd
  rw [highest] at high highEnd
  refine ⟨⟨le_of_mul_le_mul_right low unit, le_of_mul_le_mul_right high unit⟩, ?_, ?_⟩
  · exact fun same => lowEnd (congrArg (· * (2 : ℚ) ^ v.exponent) same)
  · exact fun same => highEnd (congrArg (· * (2 : ℚ) ^ v.exponent) same)

variable (placed : IsPlaced v.mantissa v.exponent)
include placed

/-- From the power of two on that begins the grid of the double, the numbers of the interval are on that grid. -/
theorem Surrounds.roundsTo_of_le (positive : 0 < v.mantissa) (surrounds : v.Surrounds y)
    (same : 2 ^ (52 + v.exponent) ≤ y ∨ v.exponent = -1074) :
    RoundsTo y (v.mantissa * 2 ^ v.exponent) := by
  have unit := zpow_two_pos v.exponent
  obtain ⟨x, rfl⟩ : ∃ x, y = x * 2 ^ v.exponent := ⟨y / 2 ^ v.exponent, (div_mul_cancel₀ _ unit.ne').symm⟩
  obtain ⟨⟨low, high⟩, lowEnd, highEnd⟩ := surrounds.units
  have gap : (v.lowerGap : ℚ) ≤ 2 := by exact_mod_cast v.lowerGap_le
  have least : (1 : ℚ) ≤ v.mantissa := by exact_mod_cast positive
  have most : (v.mantissa : ℚ) + 1 ≤ 2 ^ 53 := by exact_mod_cast placed.short
  have grid : gridExponent (x * 2 ^ v.exponent) = v.exponent := by
    refine gridExponent_of_lt (mul_pos (by linarith) unit) placed.fine same ?_
    rw [zpow_add₀ two_ne_zero]
    exact mul_lt_mul_of_pos_right (by exact_mod_cast (by linarith : x < 2 ^ 53)) unit
  refine ⟨v.mantissa, ?_, by rw [grid, Int.cast_natCast]⟩
  rw [grid, mul_div_cancel_right₀ _ unit.ne']
  refine ⟨?_, fun half => ?_⟩
  · rw [Int.cast_natCast]
    exact abs_le.2 ⟨by linarith, by linarith⟩
  · rw [Int.cast_natCast] at half
    rw [Int.even_coe_nat]
    obtain above | below := eq_or_eq_neg_of_abs_eq half
    · exact highEnd (by linarith)
    · exact lowEnd (by linarith)

/-- Below it they are on a finer grid, and so is the double. -/
theorem Surrounds.roundsTo_of_lt (surrounds : v.Surrounds y) (less : y < 2 ^ (52 + v.exponent))
    (coarse : -1074 < v.exponent) : RoundsTo y (v.mantissa * 2 ^ v.exponent) := by
  have unit := zpow_two_pos v.exponent
  obtain ⟨x, rfl⟩ : ∃ x, y = x * 2 ^ v.exponent := ⟨y / 2 ^ v.exponent, (div_mul_cancel₀ _ unit.ne').symm⟩
  obtain ⟨⟨low, -⟩, -, -⟩ := surrounds.units
  have power : (2 : ℚ) ^ (52 + v.exponent) = 2 ^ 52 * 2 ^ v.exponent := zpow_add₀ two_ne_zero 52 _
  have small : x < 2 ^ 52 := by
    rw [power] at less
    exact lt_of_mul_lt_mul_right less unit.le
  have mantissa : v.mantissa = 2 ^ 52 := by
    have full : 2 ^ 52 ≤ v.mantissa := placed.full.resolve_right coarse.ne'
    have gap : (v.lowerGap : ℚ) ≤ 2 := by exact_mod_cast v.lowerGap_le
    have next : (v.mantissa : ℚ) < 2 ^ 52 + 1 := by linarith
    have nextNat : v.mantissa < 2 ^ 52 + 1 := by exact_mod_cast next
    omega
  have gap : v.lowerGap = 1 := if_pos ⟨mantissa, coarse⟩
  rw [gap, mantissa] at low
  push_cast at low
  have doubled : x * 2 ^ v.exponent / 2 ^ (v.exponent - 1) = 2 * x := by
    rw [zpow_sub_one₀ two_ne_zero]
    field_simp
  have grid : gridExponent (x * 2 ^ v.exponent) = v.exponent - 1 := by
    refine gridExponent_of_lt (mul_pos (by linarith) unit) (by omega) (.inl ?_) ?_
    · have lower : (2 : ℚ) ^ (52 + (v.exponent - 1)) = 2 ^ 51 * 2 ^ v.exponent := by
        rw [← zpow_natCast, ← zpow_add₀ two_ne_zero]
        congr 1
        push_cast
        ring
      rw [lower]
      exact mul_le_mul_of_nonneg_right (by linarith) unit.le
    · have upper : 53 + (v.exponent - 1) = 52 + v.exponent := by omega
      rw [upper]
      exact less
  refine ⟨2 ^ 53, ?_, ?_⟩
  · rw [grid, doubled]
    refine ⟨?_, fun _ => ⟨2 ^ 52, by norm_num⟩⟩
    push_cast
    exact abs_le.2 ⟨by linarith, by linarith⟩
  · rw [grid, mantissa, zpow_sub_one₀ two_ne_zero]
    push_cast
    ring

/-- The numbers of the interval are rounded to the double. -/
theorem Surrounds.roundsTo (positive : 0 < v.mantissa) (surrounds : v.Surrounds y) :
    RoundsTo y (v.mantissa * 2 ^ v.exponent) := by
  obtain same | less := le_or_gt (2 ^ (52 + v.exponent)) y
  · exact surrounds.roundsTo_of_le placed positive (.inl same)
  · obtain coarse | finest := placed.fine.lt_or_eq
    · exact surrounds.roundsTo_of_lt placed less coarse
    · exact surrounds.roundsTo_of_le placed positive (.inr finest.symm)

omit placed

section Grids

variable {scale : ℤ} {coefficient : Nat}

/-- A quarter of a unit of the mantissa, scaled to a whole number. -/
def gridQuarter (v : BinaryValue) (scale : ℤ) : Nat :=
  Nat.pow 10 (-scale).toNat * Nat.pow 2 v.exponent.toNat

/-- The step of the grid, scaled likewise. -/
def gridStep (v : BinaryValue) (scale : ℤ) : Nat :=
  4 * Nat.pow 10 scale.toNat * Nat.pow 2 (-v.exponent).toNat

theorem gridQuarter_pos (v : BinaryValue) (scale : ℤ) : 0 < v.gridQuarter scale :=
  Nat.mul_pos (Nat.pow_pos (by decide)) (Nat.pow_pos (by decide))

theorem gridStep_pos (v : BinaryValue) (scale : ℤ) : 0 < v.gridStep scale :=
  Nat.mul_pos (Nat.mul_pos (by decide) (Nat.pow_pos (by decide))) (Nat.pow_pos (by decide))

theorem zpow_mul_pow_toNat (base : ℚ) (nonzero : base ≠ 0) (e : ℤ) :
    base ^ e * base ^ (-e).toNat = base ^ e.toNat := by
  rw [← zpow_natCast, ← zpow_natCast, ← zpow_add₀ nonzero]
  congr 1
  omega

theorem exists_gridFactor (v : BinaryValue) (scale : ℤ) :
    ∃ factor : ℚ, 0 < factor ∧ v.gridQuarter scale = v.quarter * factor ∧
      v.gridStep scale = 10 ^ scale * factor := by
  have two := zpow_mul_pow_toNat 2 two_ne_zero v.exponent
  have ten := zpow_mul_pow_toNat 10 (by norm_num) scale
  refine ⟨4 * 10 ^ (-scale).toNat * 2 ^ (-v.exponent).toNat, by positivity, ?_, ?_⟩
  · show ((10 ^ (-scale).toNat * 2 ^ v.exponent.toNat : ℕ) : ℚ) = _
    push_cast
    rw [← two, quarter]
    ring
  · show ((4 * 10 ^ scale.toNat * 2 ^ (-v.exponent).toNat : ℕ) : ℚ) = _
    push_cast
    rw [← ten]
    ring

/-- What is found on a grid is the last point below the double or the first above it, and not outside its interval on
that side. -/
theorem onGrid?_cases (found : v.onGrid? scale = some coefficient) :
    let quarter := v.gridQuarter scale
    let step := v.gridStep scale
    let below := 4 * v.mantissa * quarter / step
    (coefficient = below ∧ ((4 * v.mantissa - v.lowerGap) * quarter < below * step ∨
      v.mantissa % 2 = 0 ∧ (4 * v.mantissa - v.lowerGap) * quarter = below * step)) ∨
    (coefficient = below + 1 ∧ ((below + 1) * step < (4 * v.mantissa + 2) * quarter ∨
      v.mantissa % 2 = 0 ∧ (below + 1) * step = (4 * v.mantissa + 2) * quarter)) := by
  intro quarter step below
  rw [onGrid?] at found
  split at found
  case h_1 => cases found
  case h_2 hitsBelow _ =>
    rw [Bool.or_eq_true, decide_eq_true_iff, Bool.and_eq_true, beq_iff_eq, beq_iff_eq] at hitsBelow
    exact .inl ⟨(Option.some.inj found).symm, hitsBelow⟩
  case h_3 _ hitsAbove =>
    rw [Bool.or_eq_true, decide_eq_true_iff, Bool.and_eq_true, beq_iff_eq, beq_iff_eq] at hitsAbove
    exact .inr ⟨(Option.some.inj found).symm, hitsAbove⟩
  case h_4 hitsBelow hitsAbove =>
    rw [Bool.or_eq_true, decide_eq_true_iff, Bool.and_eq_true, beq_iff_eq, beq_iff_eq] at hitsBelow hitsAbove
    split at found
    case isTrue => exact .inl ⟨(Option.some.inj found).symm, hitsBelow⟩
    case isFalse => exact .inr ⟨(Option.some.inj found).symm, hitsAbove⟩

theorem onGrid?_bounds (positive : 0 < v.mantissa) (found : v.onGrid? scale = some coefficient) :
    let lowest := (4 * v.mantissa - v.lowerGap) * v.gridQuarter scale
    let highest := (4 * v.mantissa + 2) * v.gridQuarter scale
    let place := coefficient * v.gridStep scale
    (lowest ≤ place ∧ place ≤ highest) ∧ (lowest = place → v.mantissa % 2 = 0) ∧
      (place = highest → v.mantissa % 2 = 0) := by
  intro lowest highest place
  let middle := 4 * v.mantissa * v.gridQuarter scale
  have quarter := v.gridQuarter_pos scale
  have start : lowest < middle := Nat.mul_lt_mul_of_pos_right (Nat.sub_lt (by omega) v.lowerGap_pos) quarter
  have stop : middle < highest := Nat.mul_lt_mul_of_pos_right (Nat.lt_add_of_pos_right (by decide)) quarter
  have below : middle / v.gridStep scale * v.gridStep scale ≤ middle := Nat.div_mul_le_self _ _
  have above : middle < (middle / v.gridStep scale + 1) * v.gridStep scale := by
    rw [Nat.mul_comm]
    exact Nat.lt_mul_div_succ _ (v.gridStep_pos scale)
  obtain ⟨rfl, hits⟩ | ⟨rfl, hits⟩ := onGrid?_cases found
  · have inside : place ≤ middle := below
    obtain within | ⟨even, same⟩ := hits
    · have within : lowest < place := within
      omega
    · have same : lowest = place := same
      omega
  · have inside : middle < place := above
    obtain within | ⟨even, same⟩ := hits
    · have within : place < highest := within
      omega
    · have same : place = highest := same
      omega

/-- A grid point that is found is in the interval of the double. -/
theorem surrounds_of_onGrid? (positive : 0 < v.mantissa) (found : v.onGrid? scale = some coefficient) :
    v.Surrounds (coefficient * (10 : ℚ) ^ scale) := by
  obtain ⟨⟨low, high⟩, lowEnd, highEnd⟩ := onGrid?_bounds positive found
  obtain ⟨factor, factorPositive, quarter, step⟩ := v.exists_gridFactor scale
  have lowest : (((4 * v.mantissa - v.lowerGap) * v.gridQuarter scale : ℕ) : ℚ) =
      (4 * v.mantissa - v.lowerGap) * v.quarter * factor := by
    rw [Nat.cast_mul, quarter, Nat.cast_sub (v.lowerGap_le.trans (by omega))]
    push_cast
    ring
  have highest : (((4 * v.mantissa + 2) * v.gridQuarter scale : ℕ) : ℚ) =
      (4 * v.mantissa + 2) * v.quarter * factor := by
    rw [Nat.cast_mul, quarter]
    push_cast
    ring
  have place : ((coefficient * v.gridStep scale : ℕ) : ℚ) = coefficient * 10 ^ scale * factor := by
    rw [Nat.cast_mul, step]
    ring
  refine ⟨?_, ?_, fun same => Nat.even_iff.2 (lowEnd ?_), fun same => Nat.even_iff.2 (highEnd ?_)⟩
  · refine le_of_mul_le_mul_right ?_ factorPositive
    rw [← lowest, ← place]
    exact_mod_cast low
  · refine le_of_mul_le_mul_right ?_ factorPositive
    rw [← highest, ← place]
    exact_mod_cast high
  · have cast := congrArg (· * factor) same
    rw [← lowest, ← place] at cast
    exact_mod_cast cast
  · have cast := congrArg (· * factor) same
    rw [← highest, ← place] at cast
    exact_mod_cast cast

end Grids

section Finest

theorem roundDiv_eq_ite (a b : Nat) : roundDiv a b =
    if b < 2 * (a % b) ∨ b = 2 * (a % b) ∧ a / b % 2 = 1 then a / b + 1 else a / b := by
  rw [roundDiv]
  simp only [Bool.or_eq_true, decide_eq_true_eq, Bool.and_eq_true, beq_iff_eq]

/-- A quotient is rounded as the mantissa of a double is. -/
theorem roundDiv_eq (a : Nat) {b : Nat} (positive : 0 < b) : roundDiv a b =
    UnpackedFloat.ExtendedMantissa.roundedMantissa
      (.ofMantissaAndAccuracy (a / b) (UnpackedFloat.accuracyOfFraction (a % b) b)) := by
  show roundDiv a b = UnpackedFloat.ExtendedMantissa.roundedMantissa
    (.ofMantissaAndAccuracy (a / b) (if a % b = 0 then .exact else .inexact (compare (2 * (a % b)) b)))
  rw [roundDiv_eq_ite]
  by_cases whole : a % b = 0
  · rw [if_pos whole, whole, if_neg (by omega)]
    rfl
  · rw [if_neg whole]
    obtain less | same | more := lt_trichotomy (2 * (a % b)) b
    · rw [compare_lt_iff_lt.2 less, if_neg (by omega)]
      rfl
    · rw [compare_eq_iff_eq.2 same]
      show _ = a / b + a / b % 2
      obtain even | odd := Nat.mod_two_eq_zero_or_one (a / b)
      · rw [if_neg (by omega), even, Nat.add_zero]
      · rw [if_pos (by omega), odd]
    · rw [compare_gt_iff_gt.2 more, if_pos (by omega)]
      rfl

/-- Less than a quarter of a unit away a number is in the interval. -/
theorem surrounds_of_near (near : |y - v.mantissa * 2 ^ v.exponent| < v.quarter) : v.Surrounds y := by
  have value : (v.mantissa : ℚ) * 2 ^ v.exponent = 4 * v.mantissa * v.quarter := by
    rw [quarter]
    ring
  have gap : (1 : ℚ) ≤ v.lowerGap := by exact_mod_cast v.lowerGap_pos
  rw [value] at near
  obtain ⟨low, high⟩ := abs_lt.1 near
  have start : (4 * v.mantissa - v.lowerGap) * v.quarter < y := by
    calc (4 * v.mantissa - v.lowerGap) * v.quarter
      _ ≤ (4 * v.mantissa - 1) * v.quarter := mul_le_mul_of_nonneg_right (by linarith) v.quarter_pos.le
      _ < y := by linarith
  have stop : y < (4 * v.mantissa + 2) * v.quarter := by
    have quarter := v.quarter_pos
    linarith
  exact ⟨start.le, stop.le, fun same => absurd same start.ne, fun same => absurd same stop.ne⟩

/-- The logarithm of two is near enough to `30103 / 100000` for the powers of ten that doubles reach. -/
theorem zpow_ten_le {power digits : ℤ} (bound : 100000 * power ≤ 30103 * digits) (low : -1100 ≤ digits)
    (high : digits ≤ 1100) : (10 : ℚ) ^ power ≤ 2 ^ (digits + 8) := by
  have ten : (0 : ℚ) < 10 ^ power := zpow_pos (by norm_num) power
  obtain ⟨k, rfl | rfl⟩ := power.eq_nat_or_neg
  · -- A thousand is less than the tenth power of two.
    refine (pow_le_pow_iff_left₀ ten.le (zpow_two_pos _).le three_ne_zero).1 ?_
    calc ((10 : ℚ) ^ (k : ℤ)) ^ 3
      _ = (10 ^ 3) ^ k := by rw [zpow_natCast, pow_right_comm]
      _ ≤ (2 ^ 10) ^ k := pow_le_pow_left₀ (by norm_num) (by norm_num) k
      _ = 2 ^ ((10 * k : ℕ) : ℤ) := by rw [zpow_natCast, pow_mul]
      _ ≤ 2 ^ ((digits + 8) * 3) := zpow_le_zpow_right₀ one_le_two (by omega)
      _ = (2 ^ (digits + 8)) ^ 3 := by rw [zpow_mul, ← zpow_natCast]; rfl
  · -- The ninety-third power of two is less than the twenty-eighth of ten.
    refine (pow_le_pow_iff_left₀ ten.le (zpow_two_pos _).le (by decide : 28 ≠ 0)).1 ?_
    calc ((10 : ℚ) ^ (-(k : ℤ))) ^ 28
      _ = ((10 ^ 28) ^ k)⁻¹ := by rw [zpow_neg, zpow_natCast, inv_pow, pow_right_comm]
      _ ≤ ((2 ^ 93) ^ k)⁻¹ := inv_anti₀ (by positivity) (pow_le_pow_left₀ (by norm_num) (by norm_num) k)
      _ = 2 ^ (-((93 * k : ℕ) : ℤ)) := by rw [zpow_neg, zpow_natCast, pow_mul]
      _ ≤ 2 ^ ((digits + 8) * 28) := zpow_le_zpow_right₀ one_le_two (by omega)
      _ = (2 ^ (digits + 8)) ^ 28 := by rw [zpow_mul, ← zpow_natCast]; rfl

/-- The steps of the finest grid are shorter than half a unit of the mantissa. -/
theorem zpow_finest_lt (placed : IsPlaced v.mantissa v.exponent) (small : v.exponent ≤ 971) :
    (10 : ℚ) ^ (v.coarsestScale - gridCount) < 2 ^ (v.exponent - 1) := by
  let digits := v.exponent + (v.mantissa.log2 : ℤ) + 1
  let power := Int.fdiv (digits * 30103) 100000
  have few := log2_le_of_short placed.short
  have fine := placed.fine
  have bound : 100000 * power ≤ 30103 * digits := by
    show 100000 * Int.fdiv (digits * 30103) 100000 ≤ 30103 * digits
    rw [Int.fdiv_eq_ediv_of_nonneg _ (by decide)]
    omega
  have scale : v.coarsestScale - gridCount = power - 19 := by
    show power + 1 - 20 = power - 19
    omega
  rw [scale, zpow_sub₀ (by norm_num), div_lt_iff₀ (zpow_pos (by norm_num) _)]
  calc (10 : ℚ) ^ power
    _ ≤ 2 ^ (digits + 8) := zpow_ten_le bound (by omega) (by omega)
    _ ≤ 2 ^ (v.exponent - 1 + 62) := zpow_le_zpow_right₀ one_le_two (by omega)
    _ = 2 ^ (v.exponent - 1) * 2 ^ (62 : ℤ) := zpow_add₀ two_ne_zero _ _
    _ < 2 ^ (v.exponent - 1) * 10 ^ (19 : ℤ) := mul_lt_mul_of_pos_left (by norm_num) (zpow_two_pos _)

/-- The value in units of a power of ten is the nearest whole number. -/
theorem abs_sub_inUnits_le (v : BinaryValue) (scale : ℤ) :
    |(v.mantissa : ℚ) * 2 ^ v.exponent / 10 ^ scale - v.inUnits scale| ≤ 1 / 2 := by
  have two := zpow_mul_pow_toNat 2 two_ne_zero v.exponent
  have ten := zpow_mul_pow_toNat 10 (by norm_num) scale
  have quotient : (v.mantissa : ℚ) * 2 ^ v.exponent / 10 ^ scale =
      ((v.numerator * Nat.pow 10 (-scale).toNat : ℕ) : ℚ) / (v.denominator * Nat.pow 10 scale.toNat : ℕ) := by
    show _ = ((v.mantissa * 2 ^ v.exponent.toNat * 10 ^ (-scale).toNat : ℕ) : ℚ) /
      (2 ^ (-v.exponent).toNat * 10 ^ scale.toNat : ℕ)
    push_cast
    rw [← two, ← ten]
    field_simp
  have positive : 0 < v.denominator * Nat.pow 10 scale.toNat :=
    Nat.mul_pos (Nat.pow_pos (by decide)) (Nat.pow_pos (by decide))
  rw [quotient, inUnits, roundDiv_eq _ positive]
  exact_mod_cast (cuts_div _ positive).isNearest.near

/-- On the finest grid the nearest point is in the interval. -/
theorem surrounds_inUnits (placed : IsPlaced v.mantissa v.exponent) (small : v.exponent ≤ 971) :
    v.Surrounds (v.inUnits (v.coarsestScale - gridCount) * (10 : ℚ) ^ (v.coarsestScale - gridCount)) := by
  have finest := zpow_finest_lt placed small
  generalize v.coarsestScale - gridCount = scale at finest ⊢
  have step : (0 : ℚ) < 10 ^ scale := zpow_pos (by norm_num) scale
  have parts : v.inUnits scale * (10 : ℚ) ^ scale - v.mantissa * 2 ^ v.exponent =
      -(((v.mantissa : ℚ) * 2 ^ v.exponent / 10 ^ scale - v.inUnits scale) * 10 ^ scale) := by
    field_simp
    ring
  have half : (2 : ℚ) ^ (v.exponent - 1) / 2 = v.quarter := by
    rw [quarter, zpow_sub_one₀ two_ne_zero]
    ring
  refine surrounds_of_near ?_
  rw [parts, abs_neg, abs_mul, abs_of_pos step]
  calc |(v.mantissa : ℚ) * 2 ^ v.exponent / 10 ^ scale - v.inUnits scale| * 10 ^ scale
    _ ≤ 1 / 2 * 10 ^ scale := mul_le_mul_of_nonneg_right (v.abs_sub_inUnits_le scale) step.le
    _ < 1 / 2 * 2 ^ (v.exponent - 1) := mul_lt_mul_of_pos_left finest one_half_pos
    _ = v.quarter := by rw [← half]; ring

end Finest

section Shortest

variable (placed : IsPlaced v.mantissa v.exponent) (small : v.exponent ≤ 971) (positive : 0 < v.mantissa)

include positive in
/-- The shortest decimal is found on one of the grids, or is the nearest point of the finest one. -/
theorem shortest_cases :
    (v.onGrid? v.shortest.2 = some v.shortest.1 ∧ v.coarsestScale - gridCount ≤ v.shortest.2) ∨
      v.shortest = (v.inUnits (v.coarsestScale - gridCount), v.coarsestScale - gridCount) := by
  rw [shortest, if_neg positive.ne']
  dsimp only
  split
  case h_1 found result =>
    left
    obtain ⟨scale, member, hit⟩ := List.exists_of_findSome?_eq_some result
    obtain ⟨coefficient, onGrid, rfl⟩ := Option.map_eq_some_iff.1 hit
    obtain ⟨step, few, rfl⟩ := List.mem_map.1 member
    have bound := List.mem_range.1 few
    exact ⟨onGrid, Int.sub_le_sub_left (Int.ofNat_le.2 bound.le) _⟩
  case h_2 => exact .inr rfl

include placed small positive

/-- The shortest decimal is in the interval of the double. -/
theorem surrounds_shortest : v.Surrounds (v.shortest.1 * (10 : ℚ) ^ v.shortest.2) := by
  obtain ⟨found, -⟩ | finest := shortest_cases positive
  · exact surrounds_of_onGrid? positive found
  · rw [finest]
    exact surrounds_inUnits placed small

end Shortest

end BinaryValue

end PaperTrading
