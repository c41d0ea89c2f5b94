/-
Module: PaperTrading.Proofs.Doubles.Cutting
Purpose: A mantissa that is cut off on a grid and rounded stands for the nearest number of the grid.
Main exports: Cuts, IsRounding, isRounding_roundWithAccuracy, isRounding_round, isRounding_normalize

A result is cut off after some digits.  Two bits tell whether the rest is less than half a unit, a half, or more, and
they are enough to round to the nearest number.
-/
import PaperTrading.Proofs.Doubles.Quantities

namespace PaperTrading

open Float.Model
open UnpackedFloat (ExtendedMantissa)

section Cutting

variable {em : ExtendedMantissa} {x : ℚ}

/-- A mantissa is the whole part of a number, and its bits tell where the rest is from a half. -/
structure Cuts (em : ExtendedMantissa) (x : ℚ) : Prop where
  low : em.mantissa ≤ x
  high : x < em.mantissa + 1
  round : em.roundBit = true ↔ em.mantissa + 1 / 2 ≤ x
  sticky : em.stickyBit = true ↔ x ≠ em.mantissa ∧ x ≠ em.mantissa + 1 / 2

theorem cuts_exact (m : Nat) : Cuts (.ofMantissaAndAccuracy m .exact) m where
  low := le_rfl
  high := lt_add_one _
  round := iff_of_false Bool.false_ne_true (not_le.2 (lt_add_of_pos_right _ one_half_pos))
  sticky := iff_of_false Bool.false_ne_true fun neither => neither.1 rfl

/-- A whole number and the order of the rest and a half are enough, for a number that is not whole. -/
theorem cuts_inexact {rest : ℚ} (m : Nat) (positive : 0 < rest) (short : rest < 1) :
    Cuts (.ofMantissaAndAccuracy m (.inexact (compare rest (1 / 2)))) (m + rest) := by
  have low : (m : ℚ) < m + rest := lt_add_of_pos_right _ positive
  have high : m + rest < (m : ℚ) + 1 := add_lt_add_right short _
  obtain less | rfl | more := lt_trichotomy rest (1 / 2)
  · have below : m + rest < (m : ℚ) + 1 / 2 := add_lt_add_right less _
    rw [compare_lt_iff_lt.2 less]
    exact ⟨low.le, high, iff_of_false Bool.false_ne_true (not_le.2 below), iff_of_true rfl ⟨low.ne', below.ne⟩⟩
  · rw [compare_eq_iff_eq.2 rfl]
    exact ⟨low.le, high, iff_of_true rfl le_rfl, iff_of_false Bool.false_ne_true fun neither => neither.2 rfl⟩
  · have above : (m : ℚ) + 1 / 2 < m + rest := add_lt_add_right more _
    rw [compare_gt_iff_gt.2 more]
    exact ⟨low.le, high, iff_of_true rfl above.le, iff_of_true rfl ⟨low.ne', above.ne'⟩⟩

theorem compare_two_mul {n : Nat} (k : Nat) (positive : 0 < n) :
    compare (2 * k) n = compare ((k : ℚ) / n) (1 / 2) := by
  have divisor : (0 : ℚ) < n := Nat.cast_pos.2 positive
  obtain less | same | more := lt_trichotomy (2 * k) n
  · rw [compare_lt_iff_lt.2 less, compare_lt_iff_lt.2]
    rw [div_lt_div_iff₀ divisor two_pos, mul_comm, one_mul]
    exact_mod_cast less
  · rw [compare_eq_iff_eq.2 same, compare_eq_iff_eq.2]
    rw [div_eq_div_iff divisor.ne' two_ne_zero, mul_comm, one_mul]
    exact_mod_cast same
  · rw [compare_gt_iff_gt.2 more, compare_gt_iff_gt.2]
    rw [div_lt_div_iff₀ two_pos divisor, one_mul, mul_comm]
    exact_mod_cast more

/-- A quotient of whole numbers is cut at its whole part, and the remainder tells how much is cut off. -/
theorem cuts_div {n : Nat} (k : Nat) (positive : 0 < n) :
    Cuts (.ofMantissaAndAccuracy (k / n) (UnpackedFloat.accuracyOfFraction (k % n) n)) ((k : ℚ) / n) := by
  have divisor : (0 : ℚ) < n := Nat.cast_pos.2 positive
  have parts : (k : ℚ) / n = (k / n : ℕ) + (k % n : ℕ) / n := by
    rw [div_eq_iff divisor.ne', add_mul, div_mul_cancel₀ _ divisor.ne']
    exact_mod_cast (Nat.div_add_mod' k n).symm
  show Cuts (.ofMantissaAndAccuracy (k / n) (if k % n = 0 then .exact else .inexact (compare (2 * (k % n)) n))) _
  rw [parts]
  by_cases whole : k % n = 0
  · rw [if_pos whole, whole, Nat.cast_zero, zero_div, add_zero]
    exact cuts_exact _
  · rw [if_neg whole, compare_two_mul _ positive]
    refine cuts_inexact _ (div_pos (Nat.cast_pos.2 (Nat.pos_of_ne_zero whole)) divisor) ?_
    exact (div_lt_one divisor).2 (Nat.cast_lt.2 (Nat.mod_lt k positive))

/-- With one bit or the other the mantissa is not all of the number. -/
theorem Cuts.inexact (cuts : Cuts em x) : (em.roundBit || em.stickyBit) = true ↔ x ≠ em.mantissa := by
  rw [Bool.or_eq_true, cuts.round, cuts.sticky]
  constructor
  · rintro (half | ⟨other, -⟩)
    · exact ((lt_add_of_pos_right _ one_half_pos).trans_le half).ne'
    · exact other
  · intro other
    by_cases half : x = em.mantissa + 1 / 2
    · exact .inl half.ge
    · exact .inr ⟨other, half⟩

/-- The number halved is cut after half of an even mantissa, before its middle. -/
theorem cuts_half_of_even {half : Nat} {inexact : Bool} (low : 2 * half ≤ x) (high : x < 2 * half + 1)
    (rest : inexact = true ↔ x ≠ 2 * half) : Cuts ⟨half, false, inexact⟩ (x / 2) := by
  have start : (half : ℚ) ≤ x / 2 := by linarith
  have stop : x / 2 < half + 1 / 2 := by linarith
  refine ⟨start, stop.trans (by show (half : ℚ) + 1 / 2 < half + 1; linarith), ?_, rest.trans ?_⟩
  · exact iff_of_false Bool.false_ne_true (not_le.2 stop)
  · show x ≠ 2 * half ↔ x / 2 ≠ half ∧ x / 2 ≠ half + 1 / 2
    constructor
    · exact fun other => ⟨fun same => other (by linarith), fun same => by linarith⟩
    · exact fun neither same => neither.1 (by linarith)

/-- It is cut after half of an odd mantissa at its middle or later. -/
theorem cuts_half_of_odd {half : Nat} {inexact : Bool} (low : 2 * half + 1 ≤ x) (high : x < 2 * half + 2)
    (rest : inexact = true ↔ x ≠ 2 * half + 1) : Cuts ⟨half, true, inexact⟩ (x / 2) := by
  have start : (half : ℚ) + 1 / 2 ≤ x / 2 := by linarith
  have stop : x / 2 < half + 1 := by linarith
  refine ⟨le_trans (by show (half : ℚ) ≤ half + 1 / 2; linarith) start, stop, ?_, rest.trans ?_⟩
  · exact iff_of_true rfl start
  · show x ≠ 2 * half + 1 ↔ x / 2 ≠ half ∧ x / 2 ≠ half + 1 / 2
    constructor
    · exact fun other => ⟨fun same => by linarith, fun same => other (by linarith)⟩
    · exact fun neither same => neither.2 (by linarith)

/-- Without its last digit the mantissa cuts half the number. -/
theorem Cuts.shiftRightOne (cuts : Cuts em x) : Cuts em.shiftRightOne (x / 2) := by
  have rest := cuts.inexact
  obtain ⟨m, roundBit, stickyBit⟩ := em
  obtain ⟨low, high, -, -⟩ := cuts
  show Cuts ⟨m / 2, m % 2 != 0, roundBit || stickyBit⟩ (x / 2)
  obtain ⟨half, rfl | rfl⟩ : ∃ half, m = 2 * half ∨ m = 2 * half + 1 := ⟨m / 2, by omega⟩
  · have quotient : 2 * half / 2 = half := by omega
    have digit : (2 * half % 2 != 0) = false := by rw [Nat.mul_mod_right]; rfl
    push_cast at low high rest
    rw [quotient, digit]
    exact cuts_half_of_even low high rest
  · have quotient : (2 * half + 1) / 2 = half := by omega
    have digit : ((2 * half + 1) % 2 != 0) = true := by rw [Nat.mul_add_mod]; rfl
    push_cast at low high rest
    rw [quotient, digit]
    exact cuts_half_of_odd low (by linarith) rest

/-- Without more digits it cuts the number divided by a power of two. -/
theorem Cuts.shiftRight (cuts : Cuts em x) (k : Nat) : Cuts (em >>> k) (x / 2 ^ k) := by
  induction k with
  | zero =>
      rw [pow_zero, div_one]
      exact cuts
  | succ k ih =>
      rw [pow_succ, ← div_div]
      exact ih.shiftRightOne

/-- The mantissa is rounded to the nearest whole number. -/
theorem Cuts.isNearest (cuts : Cuts em x) : IsNearest em.roundedMantissa x := by
  obtain ⟨m, roundBit, stickyBit⟩ := em
  obtain ⟨low, high, round, sticky⟩ := cuts
  dsimp only at low high round sticky
  cases roundBit with
  | false =>
      have small : x < m + 1 / 2 := lt_of_not_ge fun half => Bool.false_ne_true (round.2 half)
      -- Exact or not, the mantissa itself is nearer than any other number.
      have rounded : ExtendedMantissa.roundedMantissa ⟨m, false, stickyBit⟩ = m := by
        cases stickyBit <;> rfl
      rw [rounded]
      refine isNearest_of_lt ?_
      rw [Int.cast_natCast]
      exact abs_lt.2 ⟨by linarith, by linarith⟩
  | true =>
      have large : m + 1 / 2 ≤ x := round.1 rfl
      cases stickyBit with
      | false =>
          have half : x = m + 1 / 2 := by
            by_contra other
            have neither : x ≠ m ∧ x ≠ m + 1 / 2 := ⟨(by linarith : (m : ℚ) < x).ne', other⟩
            exact Bool.false_ne_true (sticky.2 neither)
          show IsNearest ((m + m % 2 : ℕ) : ℤ) x
          obtain even | odd := Nat.mod_two_eq_zero_or_one m
          · rw [even, Nat.add_zero]
            refine isNearest_of_eq ?_ (by exact_mod_cast Nat.even_iff.2 even)
            rw [Int.cast_natCast, half, add_sub_cancel_left, abs_of_pos one_half_pos]
          · have next : Even (m + 1) := Nat.even_iff.2 (by omega)
            have distance : x - ((m + 1 : ℕ) : ℤ) = -(1 / 2) := by
              push_cast
              linarith
            rw [odd]
            exact isNearest_of_eq (by rw [distance, abs_neg, abs_of_pos one_half_pos]) (by exact_mod_cast next)
      | true =>
          have more : m + 1 / 2 < x := lt_of_le_of_ne large (sticky.1 rfl).2.symm
          show IsNearest ((m + 1 : ℕ) : ℤ) x
          refine isNearest_of_lt ?_
          push_cast
          exact abs_lt.2 ⟨by linarith, by linarith⟩

end Cutting

section Rounding

variable {m n : Nat} {e f : Int} {x : ℚ} {sign : UnpackedFloat.Sign} {result : UnpackedFloat}

/-- What a calculation comes to when it is rounded: a finite number on the grid, if not one that can be stored. -/
structure IsRounding (x : ℚ) (result : UnpackedFloat) : Prop where
  finite : result.isFinite = true
  rounded : IsRounded result
  rounds : RoundsTo x (quantity result)

theorem signed_zero (sign : UnpackedFloat.Sign) : signed sign 0 = 0 := by
  cases sign with
  | positive => rfl
  | negative => exact neg_zero

theorem RoundsTo.signed {value : ℚ} (rounds : RoundsTo x value) (sign : UnpackedFloat.Sign) :
    RoundsTo (signed sign x) (signed sign value) := by
  cases sign with
  | positive => exact rounds
  | negative => exact rounds.neg

theorem zpow_log2_le (positive : 0 < m) (e : Int) : (2 : ℚ) ^ ((m.log2 : ℤ) + e) ≤ m * 2 ^ e := by
  have digits : (2 : ℚ) ^ m.log2 ≤ m := by exact_mod_cast Nat.log2_self_le positive.ne'
  rw [zpow_add₀ two_ne_zero, zpow_natCast]
  exact mul_le_mul_of_nonneg_right digits (zpow_two_pos e).le

theorem succ_mul_zpow_le (m : Nat) (e : Int) : ((m : ℚ) + 1) * 2 ^ e ≤ 2 ^ ((m.log2 : ℤ) + 1 + e) := by
  have digits : (m : ℚ) + 1 ≤ 2 ^ (m.log2 + 1) := by exact_mod_cast Nat.succ_le_of_lt Nat.lt_log2_self
  rw [zpow_add₀ two_ne_zero]
  exact mul_le_mul_of_nonneg_right (by exact_mod_cast digits) (zpow_two_pos e).le

/-- The mantissa and the exponent of a number decide on its grid. -/
theorem gridExponent_eq (positive : 0 < m) (low : m ≤ x) (high : x < m + 1) :
    gridExponent (x * 2 ^ e) = Format.binary64.targetExponent (totalExponent m e) := by
  have unit := zpow_two_pos e
  have number : 0 < x * 2 ^ e := mul_pos ((Nat.cast_pos.2 positive).trans_le low) unit
  have least := (zpow_log2_le positive e).trans (mul_le_mul_of_nonneg_right low unit.le)
  have most := (mul_lt_mul_of_pos_right high unit).trans_le (succ_mul_zpow_le m e)
  have above := (Int.zpow_le_iff_le_log one_lt_two number).1 least
  have below := (Int.lt_zpow_iff_log_lt one_lt_two number).1 most
  rw [gridExponent, abs_of_pos number]
  show max (Int.log 2 (x * 2 ^ e) - 52) (-1074) = max ((m.log2 : ℤ) + 1 + e - 53) (-1074)
  omega

/-- A mantissa that was rounded up to a power of two loses a digit, and any other stays. -/
theorem isPlaced_shiftToTargetExponent (short : n ≤ 2 ^ 53) (fine : -1074 ≤ f) (full : 2 ^ 52 ≤ n ∨ f = -1074) :
    IsPlaced (UnpackedFloat.shiftToTargetExponent .binary64 n f .exact).1.mantissa
        (UnpackedFloat.shiftToTargetExponent .binary64 n f .exact).2 ∧
      ((UnpackedFloat.shiftToTargetExponent .binary64 n f .exact).1.mantissa : ℚ) *
        2 ^ (UnpackedFloat.shiftToTargetExponent .binary64 n f .exact).2 = n * 2 ^ f := by
  let target := max ((n.log2 : ℤ) + 1 + f - 53) (-1074)
  have shifted : UnpackedFloat.shiftToTargetExponent .binary64 n f .exact =
      (ExtendedMantissa.ofMantissaAndAccuracy n .exact >>> (target - f).toNat, f + (target - f).toNat) := rfl
  rw [shifted]
  obtain rfl | less := short.eq_or_lt
  · have places : (2 ^ 53 : ℕ).log2 = 53 := Nat.log2_two_pow
    have amount : (target - f).toNat = 1 := by omega
    rw [amount]
    refine ⟨⟨show 2 ^ 52 < 2 ^ 53 by decide, by omega, .inl le_rfl⟩, ?_⟩
    show ((2 ^ 52 : ℕ) : ℚ) * 2 ^ (f + 1) = _
    rw [zpow_add_one₀ two_ne_zero]
    push_cast
    ring
  · have places : n.log2 ≤ 52 := log2_le_of_short less
    have amount : (target - f).toNat = 0 := by omega
    have last : f + ((0 : ℕ) : ℤ) = f := add_zero f
    rw [amount, last]
    exact ⟨⟨less, fine, full⟩, rfl⟩

theorem isRounding_dite (placed : IsPlaced n f) (rounds : RoundsTo x (n * 2 ^ f)) :
    IsRounding (signed sign x) (if zero : n = 0 then .zero sign else .finite sign n f (Nat.pos_of_ne_zero zero)) := by
  by_cases zero : n = 0
  · rw [dif_pos zero]
    refine ⟨rfl, trivial, ?_⟩
    have value := rounds.signed sign
    rw [zero, Nat.cast_zero, zero_mul, signed_zero] at value
    exact value
  · rw [dif_neg zero]
    exact ⟨rfl, placed, rounds.signed sign⟩

/-- The end of rounding: a mantissa is rounded, and moved once more if it was rounded up to a power of two. -/
def settled (sign : UnpackedFloat.Sign) (cut : ExtendedMantissa × Int) : UnpackedFloat :=
  let last := UnpackedFloat.shiftToTargetExponent .binary64 cut.1.roundedMantissa cut.2 .exact
  if zero : last.1.mantissa = 0 then .zero sign else .finite sign last.1.mantissa last.2 (Nat.pos_of_ne_zero zero)

theorem isRounding_settled {em : ExtendedMantissa} (cuts : Cuts em (x / 2 ^ gridExponent x)) (positive : 0 < x) :
    IsRounding (signed sign x) (settled sign (em, gridExponent x)) := by
  have nearest := cuts.isNearest
  have short : em.roundedMantissa ≤ 2 ^ 53 := by exact_mod_cast nearest.le_of_pos positive
  have fine : -1074 ≤ gridExponent x := le_max_right _ _
  have full : 2 ^ 52 ≤ em.roundedMantissa ∨ gridExponent x = -1074 := by
    obtain same | coarse := fine.eq_or_lt
    · exact .inr same.symm
    · exact .inl (by exact_mod_cast nearest.ge_of_pos positive coarse)
  obtain ⟨placed, value⟩ := isPlaced_shiftToTargetExponent short fine full
  exact isRounding_dite placed ⟨_, nearest, by exact_mod_cast value⟩

theorem mantissa_ofMantissaAndAccuracy (m : Nat) (accuracy : UnpackedFloat.Accuracy) :
    (ExtendedMantissa.ofMantissaAndAccuracy m accuracy).mantissa = m := by
  cases accuracy with
  | exact => rfl
  | inexact order => cases order <;> rfl

/-- A number is cut without losing its first digit on a grid that is fine enough, if it is not below the finest. -/
theorem targetExponent_eq (number : 0 < x) (low : m ≤ x) (high : x < m + 1) (fine : e ≤ gridExponent (x * 2 ^ e)) :
    Format.binary64.targetExponent (totalExponent m e) = gridExponent (x * 2 ^ e) := by
  obtain rfl | positive := Nat.eq_zero_or_pos m
  · have small : x * 2 ^ e / 2 ^ gridExponent (x * 2 ^ e) < 2 ^ 52 := by
      rw [Nat.cast_zero, zero_add] at high
      have coarser : (2 : ℚ) ^ e ≤ 2 ^ gridExponent (x * 2 ^ e) := zpow_le_zpow_right₀ one_le_two fine
      rw [div_lt_iff₀ (zpow_two_pos _)]
      calc x * 2 ^ e
        _ ≤ 1 * 2 ^ gridExponent (x * 2 ^ e) := mul_le_mul high.le coarser (zpow_two_pos e).le zero_le_one
        _ < 2 ^ 52 * 2 ^ gridExponent (x * 2 ^ e) := mul_lt_mul_of_pos_right (by norm_num) (zpow_two_pos _)
    have product : 0 < x * 2 ^ e := mul_pos number (zpow_two_pos e)
    have finest : gridExponent (x * 2 ^ e) = -1074 := by
      refine le_antisymm (not_lt.1 fun coarse => ?_) (le_max_right _ _)
      have many := le_div_grid coarse product.ne'
      rw [abs_of_pos product] at many
      exact absurd small (not_lt.2 many)
    rw [finest] at fine ⊢
    show max (((0 : ℕ).log2 : ℤ) + 1 + e - 53) (-1074) = -1074
    have none : (0 : ℕ).log2 = 0 := rfl
    omega
  · exact (gridExponent_eq positive low high).symm

/-- A number that is cut on a grid that is fine enough is rounded. -/
theorem isRounding_roundWithAccuracy (sign : UnpackedFloat.Sign) {accuracy : UnpackedFloat.Accuracy}
    (cuts : Cuts (.ofMantissaAndAccuracy m accuracy) x) (number : 0 < x) (fine : e ≤ gridExponent (x * 2 ^ e)) :
    IsRounding (signed sign (x * 2 ^ e)) (UnpackedFloat.roundWithAccuracy .binary64 sign m e accuracy) := by
  have low := cuts.low
  have high := cuts.high
  rw [mantissa_ofMantissaAndAccuracy] at low high
  let dropped := (gridExponent (x * 2 ^ e) - e).toNat
  have reached : e + dropped = gridExponent (x * 2 ^ e) := by omega
  have cut : UnpackedFloat.shiftToTargetExponent .binary64 m e accuracy =
      (ExtendedMantissa.ofMantissaAndAccuracy m accuracy >>> dropped, gridExponent (x * 2 ^ e)) := by
    let amount := (Format.binary64.targetExponent (totalExponent m e) - e).toNat
    have same : amount = dropped :=
      congrArg (fun place : ℤ => (place - e).toNat) (targetExponent_eq number low high fine)
    show (ExtendedMantissa.ofMantissaAndAccuracy m accuracy >>> amount, e + (amount : ℤ)) = _
    rw [same, reached]
  have quotient : x * 2 ^ e / 2 ^ gridExponent (x * 2 ^ e) = x / 2 ^ dropped := by
    rw [← reached, zpow_add₀ two_ne_zero, zpow_natCast, mul_comm ((2 : ℚ) ^ e),
      mul_div_mul_right _ _ (zpow_two_pos e).ne']
  show IsRounding _ (settled sign (UnpackedFloat.shiftToTargetExponent .binary64 m e accuracy))
  rw [cut]
  exact isRounding_settled (quotient ▸ cuts.shiftRight dropped) (mul_pos number (zpow_two_pos e))

theorem shiftLeft_mul_zpow (m k : Nat) (e : Int) : ((m <<< k : ℕ) : ℚ) * 2 ^ e = m * 2 ^ (k + e) := by
  rw [Nat.shiftLeft_eq, Nat.cast_mul, Nat.cast_pow, Nat.cast_ofNat, zpow_add₀ two_ne_zero, zpow_natCast, mul_assoc]

theorem shiftLeft_pos (positive : 0 < m) (k : Nat) : 0 < m <<< k := by
  rw [Nat.shiftLeft_eq]
  exact Nat.mul_pos positive (Nat.two_pow_pos k)

/-- A mantissa with an exponent is rounded. -/
theorem isRounding_round (positive : 0 < m) (e : Int) (sign : UnpackedFloat.Sign) :
    IsRounding (signed sign (m * 2 ^ e)) (UnpackedFloat.round .binary64 sign m e) := by
  let target := Format.binary64.targetExponent (totalExponent m e)
  have grid : gridExponent (m * 2 ^ e) = target := gridExponent_eq positive le_rfl (lt_add_one _)
  let added := (e - target).toNat
  have same : ((m <<< added : ℕ) : ℚ) * 2 ^ (e - added) = m * 2 ^ e := by
    rw [shiftLeft_mul_zpow, add_sub_cancel]
  have fine : e - added ≤ gridExponent ((m <<< added : ℕ) * 2 ^ (e - added)) := by
    rw [same, grid]
    omega
  have rounding := isRounding_roundWithAccuracy sign (cuts_exact _) (Nat.cast_pos.2 (shiftLeft_pos positive added)) fine
  rw [same] at rounding
  exact rounding

theorem isRounding_zero (sign : UnpackedFloat.Sign) : IsRounding 0 (.zero sign) :=
  ⟨rfl, trivial, roundsTo_zero⟩

/-- A whole number with an exponent is rounded. -/
theorem isRounding_normalize (k : ℤ) (e : Int) (zeroSign : UnpackedFloat.Sign) :
    IsRounding (k * 2 ^ e) (UnpackedFloat.normalize .binary64 k e zeroSign) := by
  show IsRounding _ (match compare k 0 with
    | .lt => UnpackedFloat.round .binary64 .negative (-k).toNat e
    | .eq => .zero zeroSign
    | .gt => UnpackedFloat.round .binary64 .positive k.toNat e)
  obtain negative | rfl | positive := lt_trichotomy k 0
  · rw [compare_lt_iff_lt.2 negative]
    have rounding := isRounding_round (m := (-k).toNat) (by omega) e .negative
    have size : (((-k).toNat : ℕ) : ℚ) = -k := by
      have cast : (((-k).toNat : ℕ) : ℤ) = -k := Int.toNat_of_nonneg (by omega)
      exact_mod_cast cast
    rw [size, neg_mul] at rounding
    exact (neg_neg ((k : ℚ) * 2 ^ e)) ▸ rounding
  · rw [Int.cast_zero, zero_mul]
    exact isRounding_zero zeroSign
  · rw [compare_gt_iff_gt.2 positive]
    have rounding := isRounding_round (m := k.toNat) (by omega) e .positive
    have size : ((k.toNat : ℕ) : ℚ) = k := by
      have cast : ((k.toNat : ℕ) : ℤ) = k := Int.toNat_of_nonneg positive.le
      exact_mod_cast cast
    rw [size] at rounding
    exact rounding

end Rounding

end PaperTrading
