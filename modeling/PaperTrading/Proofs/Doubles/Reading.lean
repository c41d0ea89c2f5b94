/-
Module: PaperTrading.Proofs.Doubles.Reading
Purpose: A decimal is read as the double nearest to it.
Main exports: hasRounding_floatOfDecimal, doubles_whole, doubles_whole_add

Small decimals are read with one multiplication or division of two doubles that are exact, and the others with mantissas
that are as long as it takes.
-/
import PaperTrading.Proofs.Doubles.Values

namespace PaperTrading

open Arithmetic (whole isFinite lt le)
open Float.Model

section Exact

variable {n : Nat}

theorem hasRounding_toFloat (short : n < 2 ^ 53) : HasRounding n n.toUInt64.toFloat := by
  have kept : n.toUInt64.toNat = n := UInt64.toNat_ofNat_of_lt' (by show n < 2 ^ 64; omega)
  have rounding := isRounding_normalize (n : ℤ) 0 .positive
  rw [zpow_zero, mul_one, Int.cast_natCast] at rounding
  refine rounding.hasRounding ?_
  show stored (UnpackedFloat.normalize .binary64 (n.toUInt64.toNat : ℤ) 0 .positive) = _
  rw [kept]

theorem abs_natCast_lt_beyond (short : n < 2 ^ 53) : |(n : ℚ)| < beyond := by
  rw [Nat.abs_cast]
  calc (n : ℚ)
    _ < 2 ^ (53 : ℤ) := by exact_mod_cast short
    _ ≤ beyond := zpow_le_zpow_right₀ one_le_two (by decide)

theorem standsFor_toFloat (short : n < 2 ^ 53) :
    isFinite n.toUInt64.toFloat = true ∧ standsFor n.toUInt64.toFloat = n :=
  (hasRounding_toFloat short).exact (roundsTo_natCast short) (abs_natCast_lt_beyond short)

/-- A positive double is a power of ten. -/
def isPowerOfTen (power : Nat) : UnpackedFloat → Bool
  | .finite .positive m e _ => m * 2 ^ e.toNat == 10 ^ power * 2 ^ (-e).toNat
  | _ => false

/-- The powers of ten that small numerals are computed with are exact. -/
theorem isPowerOfTen_exactly : ∀ power : Fin 23,
    isPowerOfTen power Float.exactlyRepresentablePowersOfTen[power].toModel.unpack = true := by
  decide

theorem standsFor_powerOfTen {x : Float} {power : Nat} (exactly : isPowerOfTen power x.toModel.unpack = true) :
    isFinite x = true ∧ standsFor x = 10 ^ power := by
  show x.toModel.unpack.isFinite = true ∧ quantity x.toModel.unpack = 10 ^ power
  cases unpacked : x.toModel.unpack with
  | notANumber | infinity | zero =>
      rw [unpacked] at exactly
      cases exactly
  | finite sign m e positive =>
      rw [unpacked] at exactly
      cases sign with
      | negative => cases exactly
      | positive =>
          refine ⟨rfl, ?_⟩
          have whole : m * 2 ^ e.toNat = 10 ^ power * 2 ^ (-e).toNat := of_decide_eq_true exactly
          have cast : (m : ℚ) * 2 ^ e.toNat = 10 ^ power * 2 ^ (-e).toNat := by exact_mod_cast whole
          show (m : ℚ) * 2 ^ e = 10 ^ power
          have places : e = e.toNat - (-e).toNat := by omega
          rw [places, zpow_sub₀ two_ne_zero, zpow_natCast, zpow_natCast, ← mul_div_assoc, cast,
            mul_div_cancel_right₀ _ (pow_ne_zero _ two_ne_zero)]

end Exact

section Decimals

/-- The power of ten of a number of decimal places, or of a number of zeros. -/
def scaleOf (below : Bool) (places : Nat) : ℤ :=
  if below then Int.negOfNat places else places

variable {coefficient places : Nat} {below : Bool}

/-- Few digits are read by one multiplication or one division of doubles that are exact. -/
theorem hasRounding_ofScientific_of_short (short : coefficient < 2 ^ 53) (few : places ≤ 22) :
    HasRounding (coefficient * 10 ^ scaleOf below places) (Float.ofScientific coefficient below places) := by
  obtain ⟨finite, whole⟩ := standsFor_toFloat short
  obtain ⟨finite', power⟩ := standsFor_powerOfTen (isPowerOfTen_exactly ⟨places, Nat.lt_succ_of_le few⟩)
  have chosen : Float.ofScientific coefficient below places =
      if below = true then coefficient.toUInt64.toFloat / getElem Float.exactlyRepresentablePowersOfTen places _
      else coefficient.toUInt64.toFloat * getElem Float.exactlyRepresentablePowersOfTen places _ :=
    dif_pos ⟨short, few⟩
  rw [chosen]
  cases below with
  | true =>
      have quotient := hasRounding_div finite finite' (by rw [power]; exact pow_ne_zero _ (by decide))
      have scale : scaleOf true places = -places := Int.negOfNat_eq
      rw [whole, power, div_eq_mul_inv, ← zpow_natCast, ← zpow_neg, ← scale] at quotient
      exact quotient
  | false =>
      have product := hasRounding_mul finite finite'
      rw [whole, power, ← zpow_natCast] at product
      exact product

/-- More digits are read by a multiplication or a division of numbers that are as long as it takes. -/
theorem isRounding_ofScientific {scale : ℤ} (positive : 0 < coefficient) (large : scale ≤ 2048)
    (small : -(2048 + (coefficient.log2 : ℤ)) ≤ scale) :
    IsRounding (coefficient * 10 ^ scale) (UnpackedFloat.ofScientific .binary64 coefficient scale) := by
  have chosen : UnpackedFloat.ofScientific .binary64 coefficient scale =
      if 0 ≤ scale then
        UnpackedFloat.mul .binary64 (.finite .positive (coefficient <<< 53) (-53) _)
          (.finite .positive (10 ^ scale.toNat) 0 _)
      else
        UnpackedFloat.div .binary64 (.finite .positive coefficient 0 positive)
          (.finite .positive (10 ^ (-scale).toNat) 0 _) :=
    (dif_neg positive.ne').trans ((if_neg (not_lt.2 large)).trans (if_neg (not_lt.2 small)))
  rw [chosen]
  by_cases whole : 0 ≤ scale
  · rw [if_pos whole]
    have enough : 2 ^ 52 ≤ coefficient <<< 53 * 10 ^ scale.toNat := by
      rw [Nat.shiftLeft_eq]
      calc 2 ^ 52
        _ ≤ 1 * 2 ^ 53 * 1 := by decide
        _ ≤ coefficient * 2 ^ 53 * 10 ^ scale.toNat :=
          Nat.mul_le_mul (Nat.mul_le_mul_right _ positive) (Nat.pow_pos (by decide))
    have factor : ((coefficient <<< 53 : ℕ) : ℚ) * 2 ^ (-53 : ℤ) = coefficient := by
      rw [shiftLeft_mul_zpow, Nat.cast_ofNat, add_neg_cancel, zpow_zero, mul_one]
    have power : ((10 ^ scale.toNat : ℕ) : ℚ) * 2 ^ (0 : ℤ) = 10 ^ scale := by
      rw [zpow_zero, mul_one, Nat.cast_pow, Nat.cast_ofNat, ← zpow_natCast, Int.toNat_of_nonneg whole]
    rw [← factor, ← power]
    exact isRounding_mul_finite .positive .positive (.inl enough)
  · rw [if_neg whole]
    have factor : (coefficient : ℚ) * 2 ^ (0 : ℤ) = coefficient := by rw [zpow_zero, mul_one]
    have power : (((10 ^ (-scale).toNat : ℕ) : ℚ) * 2 ^ (0 : ℤ))⁻¹ = 10 ^ scale := by
      rw [zpow_zero, mul_one, Nat.cast_pow, Nat.cast_ofNat, ← zpow_natCast, Int.toNat_of_nonneg (by omega), zpow_neg,
        inv_inv]
    rw [← factor, ← power, ← div_eq_mul_inv]
    exact isRounding_div_finite .positive .positive

/-- Of a coefficient with a power of ten the nearest double is found. -/
theorem hasRounding_ofScientific (below : Bool) (places : Nat) (positive : 0 < coefficient)
    (large : scaleOf below places ≤ 2048) (small : -(2048 + (coefficient.log2 : ℤ)) ≤ scaleOf below places) :
    HasRounding (coefficient * 10 ^ scaleOf below places) (Float.ofScientific coefficient below places) := by
  by_cases short : coefficient < 2 ^ 53 ∧ places ≤ 22
  · exact hasRounding_ofScientific_of_short short.1 short.2
  · have chosen : Float.ofScientific coefficient below places =
        .ofModel (Float.Model.ofScientific coefficient (scaleOf below places)) := dif_neg short
    rw [chosen]
    exact (isRounding_ofScientific positive large small).hasRounding rfl

/-- A number has as many digits as the power of ten after it has zeros. -/
theorem lt_pow_length_toDigits (n : Nat) : n < 10 ^ (Nat.toDigits 10 n).length :=
  (Nat.length_toDigits_le_iff (by decide) Nat.length_toDigits_pos).1 (Nat.le_refl _)

theorem pow_le_of_length_toDigits {n places : Nat} (positive : 0 < n) (length : places < (Nat.toDigits 10 n).length) :
    10 ^ places ≤ n := by
  obtain rfl | some := places.eq_zero_or_pos
  · exact positive
  · exact Nat.le_of_not_lt fun less => Nat.not_le.2 length ((Nat.length_toDigits_le_iff (by decide) some).2 less)

/-- Below the first power of ten that is no more than half of the least double, a number is rounded to zero. -/
theorem roundsTo_zero_of_lt_pow {x : ℚ} (nonneg : 0 ≤ x) (small : x < 10 ^ (-325 : ℤ)) : RoundsTo x 0 := by
  refine roundsTo_zero_of_le ?_
  rw [abs_of_nonneg nonneg]
  have powers : (2 : ℚ) ^ 1075 ≤ 10 ^ 325 := by
    calc (2 : ℚ) ^ 1075
      _ = (2 ^ 43) ^ 25 := pow_mul 2 43 25
      _ ≤ (10 ^ 13) ^ 25 := pow_le_pow_left₀ (by norm_num) (by norm_num) 25
      _ = 10 ^ 325 := (pow_mul 10 13 25).symm
  refine small.le.trans ?_
  rw [zpow_neg, zpow_neg]
  exact inv_anti₀ (zpow_two_pos 1075) (by exact_mod_cast powers)

theorem beyond_le : beyond ≤ 10 ^ (309 : ℤ) := by
  calc beyond
    _ = 2 ^ 1024 := zpow_natCast 2 1024
    _ = 2 * (2 ^ 93) ^ 11 := by rw [← pow_mul, ← pow_succ']
    _ ≤ 10 * (10 ^ 28) ^ 11 := by
      refine mul_le_mul (by norm_num) (pow_le_pow_left₀ (by norm_num) (by norm_num) 11) ?_ ?_ <;> positivity
    _ = 10 ^ 309 := by rw [← pow_mul, ← pow_succ']
    _ = 10 ^ (309 : ℤ) := (zpow_natCast 10 309).symm

/-- From that power of ten on a number is too large. -/
theorem cutOff_of_pow_le {x value : ℚ} (large : 10 ^ (309 : ℤ) ≤ x) (rounds : RoundsTo x value) :
    cutOff value = beyond := by
  have placed : IsPlaced (2 ^ 52) 972 := ⟨by decide, by decide, .inl (Nat.le_refl _)⟩
  have same : ((2 ^ 52 : ℕ) : ℚ) * 2 ^ (972 : ℤ) = beyond := by
    rw [beyond, Nat.cast_pow, Nat.cast_ofNat, ← zpow_natCast, ← zpow_add₀ two_ne_zero]
    rfl
  have onGrid := placed.roundsTo (by decide)
  rw [same] at onGrid
  exact cutOff_of_le (onGrid.le rounds (beyond_le.trans large))

theorem hasRounding_zero {a : ℚ} (rounds : RoundsTo a 0) : HasRounding a 0.0 :=
  ⟨rfl, 0, rounds, (cutOff_of_abs_lt (abs_zero.trans_lt beyond_pos)).symm⟩

theorem floatOfDecimal_zero (scale : ℤ) : floatOfDecimal 0 scale = 0.0 :=
  rfl

/-- A coefficient with a power of ten is read as the nearest double. -/
theorem hasRounding_floatOfDecimal (coefficient : Nat) (scale : ℤ) :
    HasRounding (coefficient * (10 : ℚ) ^ scale) (floatOfDecimal coefficient scale) := by
  let digits := (Nat.toDigits 10 coefficient).length
  have chosen : floatOfDecimal coefficient scale =
      if coefficient = 0 ∨ scale + digits < -325 then 0.0
      else if 310 < scale + digits then 1.0 / 0.0
      else if scale < 0 then Float.ofScientific coefficient true scale.natAbs
      else Float.ofScientific coefficient false scale.natAbs := rfl
  rw [chosen]
  have power (e : ℤ) : (0 : ℚ) < 10 ^ e := zpow_pos (by norm_num) e
  have nonneg : 0 ≤ (coefficient : ℚ) * 10 ^ scale := mul_nonneg (Nat.cast_nonneg _) (power scale).le
  by_cases zero : coefficient = 0
  · rw [if_pos (.inl zero), zero, Nat.cast_zero, zero_mul]
    exact hasRounding_zero roundsTo_zero
  · by_cases tiny : scale + digits < -325
    · rw [if_pos (.inr tiny)]
      refine hasRounding_zero (roundsTo_zero_of_lt_pow nonneg ?_)
      have short : (coefficient : ℚ) < 10 ^ (digits : ℤ) := by exact_mod_cast lt_pow_length_toDigits coefficient
      calc (coefficient : ℚ) * 10 ^ scale
        _ < 10 ^ (digits : ℤ) * 10 ^ scale := mul_lt_mul_of_pos_right short (power scale)
        _ = 10 ^ (digits + scale) := (zpow_add₀ (by norm_num) _ _).symm
        _ ≤ 10 ^ (-325 : ℤ) := zpow_le_zpow_right₀ (by norm_num) (by omega)
    · rw [if_neg (not_or.2 ⟨zero, tiny⟩)]
      have positive : 0 < coefficient := Nat.pos_of_ne_zero zero
      have some : 0 < digits := Nat.length_toDigits_pos
      have leastNat : 10 ^ (digits - 1) ≤ coefficient :=
        pow_le_of_length_toDigits positive (Nat.sub_one_lt_of_lt some)
      have least : (10 : ℚ) ^ (digits - 1) ≤ coefficient := by exact_mod_cast leastNat
      by_cases huge : 310 < scale + digits
      · rw [if_pos huge]
        obtain ⟨value, rounds⟩ := exists_roundsTo ((coefficient : ℚ) * 10 ^ scale)
        refine ⟨rfl, value, rounds, (cutOff_of_pow_le ?_ rounds).symm⟩
        calc (10 : ℚ) ^ (309 : ℤ)
          _ ≤ 10 ^ ((digits - 1 : ℕ) + scale) := zpow_le_zpow_right₀ (by norm_num) (by omega)
          _ = 10 ^ (digits - 1) * 10 ^ scale := by rw [zpow_add₀ (by norm_num), zpow_natCast]
          _ ≤ coefficient * 10 ^ scale := mul_le_mul_of_nonneg_right least (power scale).le
      · rw [if_neg huge]
        have few : digits - 1 ≤ coefficient.log2 :=
          (Nat.le_log2 zero).2 ((Nat.pow_le_pow_left (by decide) _).trans leastNat)
        by_cases below : scale < 0
        · have same : scaleOf true scale.natAbs = scale := by
            rw [scaleOf, if_pos rfl, Int.negOfNat_eq, Int.ofNat_eq_natCast]
            omega
          have read := hasRounding_ofScientific true scale.natAbs positive (by omega) (by omega)
          rw [same] at read
          rw [if_pos below]
          exact read
        · have same : scaleOf false scale.natAbs = scale := by
            rw [scaleOf, if_neg Bool.false_ne_true]
            omega
          have read := hasRounding_ofScientific false scale.natAbs positive (by omega) (by omega)
          rw [same] at read
          rw [if_neg below]
          exact read

end Decimals

section Whole

variable {m n : Nat}

/-- Whole numbers of fifty-three binary digits are doubles. -/
theorem doubles_whole (short : n < 2 ^ 53) : isFinite (whole n : Float) = true ∧ standsFor (whole n) = n := by
  have rounding : HasRounding (n * 10 ^ scaleOf false 0) (whole n) :=
    hasRounding_ofScientific_of_short short (Nat.zero_le _)
  have one : scaleOf false 0 = 0 := rfl
  rw [one, zpow_zero, mul_one] at rounding
  exact rounding.exact (roundsTo_natCast short) (abs_natCast_lt_beyond short)

/-- Their sums are exact. -/
theorem doubles_whole_add (short : m + n < 2 ^ 53) : (whole m + whole n : Float) = whole (m + n) := by
  obtain none | some := (m + n).eq_zero_or_pos
  · obtain ⟨rfl, rfl⟩ := Nat.add_eq_zero_iff.1 none
    decide
  · obtain ⟨finite, value⟩ := doubles_whole (n := m) (by omega)
    obtain ⟨finite', value'⟩ := doubles_whole (n := n) (by omega)
    obtain ⟨finiteSum, sum⟩ := doubles_whole short
    have rounding := hasRounding_add finite finite'
    rw [value, value', ← Nat.cast_add] at rounding
    obtain ⟨isFinite, stands⟩ := rounding.exact (roundsTo_natCast short) (abs_natCast_lt_beyond short)
    refine doubles_eq_of_standsFor isFinite finiteSum (stands.trans sum.symm) ?_
    rw [stands]
    exact Nat.cast_ne_zero.2 some.ne'

end Whole

end PaperTrading
