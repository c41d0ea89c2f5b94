/-
Module: PaperTrading.Proofs.Doubles.Rounding
Purpose: Rounding to doubles, as a relation between rational numbers.
Main exports: IsNearest, gridExponent, RoundsTo, exists_roundsTo, RoundsTo.le, RoundsTo.eq

A number between two powers of two is rounded to a grid of fifty-three binary digits, and a small one to the finest grid
that doubles have.  Nothing here is about how doubles are stored, and nothing about numbers that are too large for them.
-/
import Mathlib.Algebra.Order.Group.Int
import Mathlib.Data.Int.Log
import Mathlib.Data.Rat.Floor
import Mathlib.Tactic.Linarith
import Mathlib.Tactic.Positivity

namespace PaperTrading

section Nearest

/-- No whole number is nearer, and of two that are equally near this is the even one. -/
structure IsNearest (n : ℤ) (x : ℚ) : Prop where
  near : |x - n| ≤ 1 / 2
  even : |x - n| = 1 / 2 → Even n

variable {m n : ℤ} {x y : ℚ}

theorem isNearest_of_lt (near : |x - n| < 1 / 2) : IsNearest n x :=
  ⟨near.le, fun half => absurd half near.ne⟩

theorem isNearest_of_eq (half : |x - n| = 1 / 2) (even : Even n) : IsNearest n x :=
  ⟨half.le, fun _ => even⟩

theorem IsNearest.cast (n : ℤ) : IsNearest n n := by
  refine isNearest_of_lt ?_
  rw [sub_self, abs_zero]
  exact one_half_pos

theorem IsNearest.neg (nearest : IsNearest n x) : IsNearest (-n) (-x) := by
  have same : |-x - ((-n : ℤ) : ℚ)| = |x - n| := by
    rw [Int.cast_neg, ← abs_neg, neg_sub, neg_sub_neg]
  exact ⟨same ▸ nearest.near, fun half => (nearest.even (same ▸ half)).neg⟩

/-- The nearest whole number of a larger number is not smaller. -/
theorem IsNearest.le (one : IsNearest m x) (other : IsNearest n y) (ordered : x ≤ y) : m ≤ n := by
  by_contra! less
  have next : (n : ℚ) + 1 ≤ m := by exact_mod_cast less
  obtain ⟨low, -⟩ := abs_le.1 one.near
  obtain ⟨-, high⟩ := abs_le.1 other.near
  -- Both numbers lie halfway between the two, so the two are even, and they are neighbours.
  have halfway : x - m = -(1 / 2) := by linarith
  have halfway' : y - n = 1 / 2 := by linarith
  have neighbour : m = n + 1 := by
    have cast : (m : ℚ) = n + 1 := by linarith
    exact_mod_cast cast
  have evenM := one.even (by rw [halfway, abs_neg, abs_of_pos one_half_pos])
  have evenN := other.even (by rw [halfway', abs_of_pos one_half_pos])
  rw [neighbour, Int.even_add_one] at evenM
  exact evenM evenN

theorem exists_isNearest (x : ℚ) : ∃ n, IsNearest n x := by
  have floor := Int.floor_le x
  have next := Int.lt_floor_add_one x
  obtain below | half | above := lt_trichotomy x (⌊x⌋ + 1 / 2)
  · exact ⟨⌊x⌋, isNearest_of_lt (abs_lt.2 ⟨by linarith, by linarith⟩)⟩
  · obtain even | odd := Int.even_or_odd ⌊x⌋
    · have distance : x - ⌊x⌋ = 1 / 2 := by linarith
      exact ⟨⌊x⌋, isNearest_of_eq (by rw [distance, abs_of_pos one_half_pos]) even⟩
    · have distance : x - (⌊x⌋ + 1 : ℤ) = -(1 / 2) := by
        push_cast
        linarith
      exact ⟨⌊x⌋ + 1, isNearest_of_eq (by rw [distance, abs_neg, abs_of_pos one_half_pos]) odd.add_one⟩
  · refine ⟨⌊x⌋ + 1, isNearest_of_lt ?_⟩
    push_cast
    exact abs_lt.2 ⟨by linarith, by linarith⟩

end Nearest

section Grid

/-- A number is rounded to a multiple of two to this power. -/
def gridExponent (x : ℚ) : ℤ :=
  max (Int.log 2 |x| - 52) (-1074)

/-- The number of the grid that a number is rounded to. -/
def RoundsTo (x value : ℚ) : Prop :=
  ∃ n : ℤ, IsNearest n (x / 2 ^ gridExponent x) ∧ value = n * 2 ^ gridExponent x

variable {x y value other : ℚ}

theorem gridExponent_neg (x : ℚ) : gridExponent (-x) = gridExponent x := by
  rw [gridExponent, abs_neg, gridExponent]

/-- A number of fifty-three binary digits, or of fewer on the finest grid, is on the grid of its last digit. -/
theorem gridExponent_of_lt {e : ℤ} (positive : 0 < x) (fine : -1074 ≤ e) (low : 2 ^ (52 + e) ≤ x ∨ e = -1074)
    (high : x < 2 ^ (53 + e)) : gridExponent x = e := by
  have below := (Int.lt_zpow_iff_log_lt one_lt_two positive).1 high
  rw [gridExponent, abs_of_pos positive]
  obtain long | rfl := low
  · have above := (Int.zpow_le_iff_le_log one_lt_two positive).1 long
    omega
  · omega

theorem zpow_two_pos (e : ℤ) : (0 : ℚ) < 2 ^ e :=
  zpow_pos two_pos e

/-- On its grid a number has fifty-three binary digits at most. -/
theorem div_grid_lt (x : ℚ) : |x| / 2 ^ gridExponent x < 2 ^ 53 := by
  have fine : Int.log 2 |x| - 52 ≤ gridExponent x := le_max_left _ _
  rw [div_lt_iff₀ (zpow_two_pos _)]
  calc |x|
    _ < 2 ^ (Int.log 2 |x| + 1) := Int.lt_zpow_succ_log_self one_lt_two |x|
    _ ≤ 2 ^ (53 + gridExponent x) := zpow_le_zpow_right₀ one_le_two (by omega)
    _ = 2 ^ 53 * 2 ^ gridExponent x := zpow_add₀ two_ne_zero 53 _

/-- It has as many, unless its grid is the finest. -/
theorem le_div_grid (coarse : -1074 < gridExponent x) (nonzero : x ≠ 0) : 2 ^ 52 ≤ |x| / 2 ^ gridExponent x := by
  have exponent : gridExponent x = Int.log 2 |x| - 52 := by
    rw [gridExponent] at coarse ⊢
    omega
  rw [le_div_iff₀ (zpow_two_pos _)]
  calc 2 ^ 52 * 2 ^ gridExponent x
    _ = (2 : ℚ) ^ (52 + gridExponent x) := (zpow_add₀ two_ne_zero 52 _).symm
    _ = 2 ^ Int.log 2 |x| := by rw [exponent, add_sub_cancel]
    _ ≤ |x| := Int.zpow_log_le_self one_lt_two (abs_pos.2 nonzero)

/-- So there are powers of two that it is not rounded beyond. -/
theorem IsNearest.le_of_pos {n : ℤ} (nearest : IsNearest n (x / 2 ^ gridExponent x)) (positive : 0 < x) :
    n ≤ 2 ^ 53 := by
  refine nearest.le (IsNearest.cast _) ?_
  have few := (div_grid_lt x).le
  rw [abs_of_pos positive] at few
  exact_mod_cast few

theorem IsNearest.ge_of_pos {n : ℤ} (nearest : IsNearest n (x / 2 ^ gridExponent x)) (positive : 0 < x)
    (coarse : -1074 < gridExponent x) : 2 ^ 52 ≤ n := by
  refine (IsNearest.cast _).le nearest ?_
  have many := le_div_grid coarse positive.ne'
  rw [abs_of_pos positive] at many
  exact_mod_cast many

theorem exists_roundsTo (x : ℚ) : ∃ value, RoundsTo x value := by
  obtain ⟨n, nearest⟩ := exists_isNearest (x / 2 ^ gridExponent x)
  exact ⟨_, n, nearest, rfl⟩

theorem RoundsTo.neg (rounds : RoundsTo x value) : RoundsTo (-x) (-value) := by
  obtain ⟨n, nearest, rfl⟩ := rounds
  refine ⟨-n, ?_, ?_⟩
  · rw [gridExponent_neg, neg_div]
    exact nearest.neg
  · rw [gridExponent_neg, Int.cast_neg, neg_mul]

/-- A number of the grid is not changed. -/
theorem roundsTo_of_onGrid {n : ℤ} (onGrid : x = n * 2 ^ gridExponent x) : RoundsTo x x := by
  refine ⟨n, ?_, onGrid⟩
  have quotient : x / 2 ^ gridExponent x = n := (div_eq_iff (zpow_two_pos _).ne').2 onGrid
  rw [quotient]
  exact IsNearest.cast n

theorem roundsTo_zero : RoundsTo 0 0 :=
  roundsTo_of_onGrid (n := 0) (by rw [Int.cast_zero, zero_mul])

/-- Whole numbers of fifty-three binary digits are on the grid. -/
theorem roundsTo_natCast {n : ℕ} (short : n < 2 ^ 53) : RoundsTo n n := by
  obtain rfl | positive := n.eq_zero_or_pos
  · rw [Nat.cast_zero]
    exact roundsTo_zero
  · have fine : gridExponent n ≤ 0 := by
      have size : (n : ℚ) < 2 ^ (53 : ℤ) := by exact_mod_cast short
      have digits := (Int.lt_zpow_iff_log_lt one_lt_two (Nat.cast_pos.2 positive)).1 size
      rw [gridExponent, Nat.abs_cast]
      omega
    refine roundsTo_of_onGrid (n := n * 2 ^ (-gridExponent n).toNat) ?_
    have places : ((-gridExponent n).toNat : ℤ) = -gridExponent n := Int.toNat_of_nonneg (by omega)
    rw [Int.cast_mul, Int.cast_pow, Int.cast_natCast, Int.cast_ofNat, ← zpow_natCast, places, mul_assoc,
      ← zpow_add₀ two_ne_zero, neg_add_cancel, zpow_zero, mul_one]

/-- Half of the least double and less is rounded to zero. -/
theorem roundsTo_zero_of_le (small : |x| ≤ 2 ^ (-1075 : ℤ)) : RoundsTo x 0 := by
  obtain rfl | nonzero := eq_or_ne x 0
  · exact roundsTo_zero
  · have half : (2 : ℚ) ^ (-1075 : ℤ) = 1 / 2 * 2 ^ (-1074 : ℤ) := by
      rw [one_div, ← zpow_neg_one, ← zpow_add₀ two_ne_zero]
      norm_num
    have grid : gridExponent x = -1074 := by
      have less : |x| < 2 ^ (-1074 : ℤ) :=
        small.trans_lt (zpow_lt_zpow_right₀ one_lt_two (by decide))
      have digits := (Int.lt_zpow_iff_log_lt one_lt_two (abs_pos.2 nonzero)).1 less
      rw [gridExponent]
      omega
    refine ⟨0, ⟨?_, fun _ => Even.zero⟩, by rw [Int.cast_zero, zero_mul]⟩
    rw [grid, Int.cast_zero, sub_zero, abs_div, abs_of_pos (zpow_two_pos _), div_le_iff₀ (zpow_two_pos _), ← half]
    exact small

theorem RoundsTo.nonneg (rounds : RoundsTo x value) (nonneg : 0 ≤ x) : 0 ≤ value := by
  obtain ⟨n, nearest, rfl⟩ := rounds
  have least : (0 : ℤ) ≤ n := by
    refine (IsNearest.cast 0).le nearest ?_
    rw [Int.cast_zero]
    exact div_nonneg nonneg (zpow_two_pos _).le
  exact mul_nonneg (Int.cast_nonneg least) (zpow_two_pos _).le

theorem RoundsTo.eq_zero (rounds : RoundsTo 0 value) : value = 0 := by
  have negated := rounds.neg
  rw [neg_zero] at negated
  exact le_antisymm (neg_nonneg.1 (negated.nonneg le_rfl)) (rounds.nonneg le_rfl)

theorem RoundsTo.le_of_pos (one : RoundsTo x value) (two : RoundsTo y other) (positive : 0 < x) (ordered : x ≤ y) :
    value ≤ other := by
  obtain ⟨m, nearest, rfl⟩ := one
  obtain ⟨n, nearest', rfl⟩ := two
  have larger : 0 < y := positive.trans_le ordered
  have sizes : |x| ≤ |y| := by rwa [abs_of_pos positive, abs_of_pos larger]
  have finer : gridExponent x ≤ gridExponent y :=
    max_le_max_right _ (Int.sub_le_sub_right (Int.log_mono_right (abs_pos.2 positive.ne') sizes) 52)
  obtain same | less := finer.eq_or_lt
  · rw [← same] at nearest' ⊢
    have whole := nearest.le nearest' (div_le_div_of_nonneg_right ordered (zpow_two_pos _).le)
    exact mul_le_mul_of_nonneg_right (Int.cast_le.2 whole) (zpow_two_pos _).le
  · -- A power of two lies between the two.
    have most := nearest.le_of_pos positive
    have least := nearest'.ge_of_pos larger ((le_max_right _ _).trans_lt less)
    calc (m : ℚ) * 2 ^ gridExponent x
      _ ≤ 2 ^ 53 * 2 ^ gridExponent x :=
        mul_le_mul_of_nonneg_right (by exact_mod_cast most) (zpow_two_pos _).le
      _ = 2 ^ (53 + gridExponent x) := (zpow_add₀ two_ne_zero 53 _).symm
      _ ≤ 2 ^ (52 + gridExponent y) := zpow_le_zpow_right₀ one_le_two (by omega)
      _ = 2 ^ 52 * 2 ^ gridExponent y := zpow_add₀ two_ne_zero 52 _
      _ ≤ n * 2 ^ gridExponent y := mul_le_mul_of_nonneg_right (by exact_mod_cast least) (zpow_two_pos _).le

/-- Rounding keeps the order of numbers. -/
theorem RoundsTo.le (one : RoundsTo x value) (two : RoundsTo y other) (ordered : x ≤ y) : value ≤ other := by
  obtain positive | rfl | negative := lt_trichotomy 0 x
  · exact one.le_of_pos two positive ordered
  · rw [one.eq_zero]
    exact two.nonneg ordered
  · obtain low | high := lt_or_ge y 0
    · exact neg_le_neg_iff.1 (two.neg.le_of_pos one.neg (neg_pos.2 low) (neg_le_neg ordered))
    · exact (neg_nonneg.1 (one.neg.nonneg (neg_nonneg.2 negative.le))).trans (two.nonneg high)

/-- A number is rounded to one number only. -/
theorem RoundsTo.eq (one : RoundsTo x value) (two : RoundsTo x other) : value = other :=
  le_antisymm (one.le two le_rfl) (two.le one le_rfl)

end Grid

end PaperTrading
