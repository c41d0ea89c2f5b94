/-
Module: PaperTrading.Proofs.Doubles.Writing
Purpose: The shortest numeral of a double is read as the same double, and it is not long.
Main exports: ofFloat?_cases, doubles_readsBack, doubles_length_chars_le
-/
import PaperTrading.Proofs.Decimal.ReadBack
import PaperTrading.Proofs.Doubles.Interval
import PaperTrading.Proofs.Doubles.Reading

namespace PaperTrading

open Arithmetic (isFinite)
open Float.Model

section Fields

variable (bits : BitVec Format.binary64.numBits)

theorem toNat_unpackMantissa : (UnpackedFloat.unpackMantissa bits).toNat = bits.toNat % 2 ^ 52 := by
  show (bits.extractLsb 51 0).toNat = _
  rw [BitVec.extractLsb_toNat, Nat.shiftRight_zero]

theorem toNat_unpackExponent : (UnpackedFloat.unpackExponent bits).toNat = bits.toNat / 2 ^ 52 % 2 ^ 11 := by
  show (bits.extractLsb 62 52).toNat = _
  rw [BitVec.extractLsb_toNat, Nat.shiftRight_eq_div_pow]

/-- The sign of a number. -/
def signOf (negative : Bool) : UnpackedFloat.Sign :=
  if negative then .negative else .positive

theorem ofBitVec_unpackSign :
    UnpackedFloat.Sign.ofBitVec (UnpackedFloat.unpackSign bits) = signOf (decide (2 ^ 63 ≤ bits.toNat)) := by
  have width : bits.toNat < 2 ^ 64 := bits.isLt
  have field : (UnpackedFloat.unpackSign bits).toNat = bits.toNat / 2 ^ 63 := by
    show (bits.extractLsb 63 63).toNat = _
    rw [BitVec.extractLsb_toNat, Nat.shiftRight_eq_div_pow]
    omega
  by_cases negative : 2 ^ 63 ≤ bits.toNat
  · have set : UnpackedFloat.unpackSign bits ≠ 0#1 := by
      intro unset
      rw [unset] at field
      have none : 0 = bits.toNat / 2 ^ 63 := field
      omega
    rw [decide_eq_true negative]
    exact if_neg set
  · have unset : UnpackedFloat.unpackSign bits = 0#1 := BitVec.eq_of_toNat_eq (field.trans (by
      show bits.toNat / 2 ^ 63 = 0
      omega))
    rw [decide_eq_false negative]
    exact if_pos unset

/-- The exact value of a finite double has its mantissa and its exponent. -/
theorem ofFloat?_cases (x : Float) :
    (isFinite x = false ∧ BinaryValue.ofFloat? x = none) ∨
      ∃ v, BinaryValue.ofFloat? x = some v ∧ IsPlaced v.mantissa v.exponent ∧ v.exponent ≤ 971 ∧
        ((v.mantissa = 0 ∧ x.toModel.unpack = .zero (signOf v.negative)) ∨
          ∃ positive, x.toModel.unpack = .finite (signOf v.negative) v.mantissa v.exponent positive) := by
  let bits : BitVec Format.binary64.numBits := x.toModel.toBits.toBitVec
  let exponent := bits.toNat / 2 ^ 52 % 2 ^ 11
  let fraction := bits.toNat % 2 ^ 52
  let negative := decide (2 ^ 63 ≤ bits.toNat)
  have value : BinaryValue.ofFloat? x =
      if exponent = 2047 then none
      else if exponent = 0 then some ⟨negative, fraction, -1074⟩
      else some ⟨negative, 2 ^ 52 + fraction, -1074 + (exponent - 1 : Nat)⟩ := rfl
  have mantissaField := toNat_unpackMantissa bits
  have exponentField := toNat_unpackExponent bits
  have sign := ofBitVec_unpackSign bits
  have short : fraction < 2 ^ 52 := Nat.mod_lt _ (by decide)
  have range : exponent < 2048 := Nat.mod_lt _ (by decide)
  rw [value]
  by_cases special : exponent = 2047
  · left
    rw [if_pos special]
    exact ⟨isFinite_unpack_of_special (BitVec.eq_of_toNat_eq (exponentField.trans special)), rfl⟩
  · right
    have finite : UnpackedFloat.unpackExponent bits ≠ -1#11 := fun all =>
      special (exponentField.symm.trans (congrArg BitVec.toNat all))
    rw [if_neg special]
    by_cases small : exponent = 0
    · have smallField : UnpackedFloat.unpackExponent bits = 0#11 := BitVec.eq_of_toNat_eq (exponentField.trans small)
      rw [if_pos small]
      have narrow : fraction < 2 ^ 53 := by omega
      refine ⟨_, rfl, ⟨narrow, le_rfl, .inr rfl⟩, (by decide : (-1074 : ℤ) ≤ 971), ?_⟩
      obtain zero | positive := fraction.eq_zero_or_pos
      · exact .inl ⟨zero, (unpack_of_zero smallField (BitVec.eq_of_toNat_eq (mantissaField.trans zero))).trans
          (congrArg _ sign)⟩
      · exact .inr ⟨positive, (unpack_of_small smallField (mantissaField.symm ▸ positive)).trans
          (finite_congr sign mantissaField rfl)⟩
    · have largeField : UnpackedFloat.unpackExponent bits ≠ 0#11 := fun none =>
        small (exponentField.symm.trans (congrArg BitVec.toNat none))
      rw [if_neg small]
      have narrow : 2 ^ 52 + fraction < 2 ^ 53 := by omega
      refine ⟨_, rfl, ⟨narrow, ?_, .inl (Nat.le_add_right _ _)⟩, ?_, ?_⟩
      · show -1074 ≤ -1074 + ((exponent - 1 : Nat) : ℤ)
        omega
      · show -1074 + ((exponent - 1 : Nat) : ℤ) ≤ 971
        omega
      · have unpacked := unpack_of_full finite largeField (by omega)
        refine .inr ⟨Nat.add_pos_left (by decide) _, unpacked.trans (finite_congr sign ?_ ?_)⟩
        · rw [mantissaField]
        · rw [exponentField]
          show (exponent : ℤ) - 1075 = -1074 + ((exponent - 1 : Nat) : ℤ)
          omega

theorem ofFloat?_eq_none {x : Float} (infinite : isFinite x = false) : BinaryValue.ofFloat? x = none := by
  obtain ⟨-, none⟩ | ⟨v, -, -, -, parts⟩ := ofFloat?_cases x
  · exact none
  · have finite : x.toModel.unpack.isFinite = true := by
      obtain ⟨-, unpacked⟩ | ⟨positive, unpacked⟩ := parts
      · rw [unpacked]
        rfl
      · rw [unpacked]
        rfl
    have unpackedInfinite : x.toModel.unpack.isFinite = false := infinite
    rw [finite] at unpackedInfinite
    cases unpackedInfinite

end Fields

section Text

variable {x : Float} {v : BinaryValue}

theorem standsFor_withSign (negative : Bool) (x : Float) :
    standsFor (withSign negative x) = signed (signOf negative) (standsFor x) := by
  cases negative with
  | false => rfl
  | true => exact standsFor_neg x

theorem isFinite_withSign (negative : Bool) (finite : isFinite x = true) : isFinite (withSign negative x) = true := by
  cases negative with
  | false => exact finite
  | true => exact isFinite_neg finite

/-- The numeral that a double is written as. -/
def BinaryValue.numeral (v : BinaryValue) : Numeral where
  negative := v.negative
  coefficient := v.shortest.1 * Nat.pow 10 v.shortest.2.toNat
  places := (-v.shortest.2).toNat

theorem shortestNumeral?_eq (found : BinaryValue.ofFloat? x = some v) : shortestNumeral? x = some v.numeral := by
  rw [shortestNumeral?, found]
  rfl

theorem BinaryValue.numeral_of_zero (zero : v.mantissa = 0) : v.numeral = ⟨v.negative, 0, 0⟩ := by
  have shortest : v.shortest = (0, 0) := if_pos zero
  rw [numeral, shortest]
  rfl

/-- It stands for the shortest decimal. -/
theorem BinaryValue.numeral_value (v : BinaryValue) :
    (v.numeral.coefficient : ℚ) * 10 ^ (-(v.numeral.places : ℤ)) = v.shortest.1 * 10 ^ v.shortest.2 := by
  show ((v.shortest.1 * 10 ^ v.shortest.2.toNat : ℕ) : ℚ) * 10 ^ (-((-v.shortest.2).toNat : ℤ)) = _
  have places : v.shortest.2 = v.shortest.2.toNat + -((-v.shortest.2).toNat : ℤ) := by omega
  conv_rhs => rw [places]
  rw [zpow_add₀ (by norm_num), zpow_natCast]
  push_cast
  ring

/-- A finite double is written as a numeral that is read as the same double. -/
theorem doubles_readsBack : ReadsBack Float := by
  intro x finite
  obtain ⟨infinite, -⟩ | ⟨v, found, placed, small, parts⟩ := ofFloat?_cases x
  · rw [infinite] at finite
    cases finite
  · refine ⟨v.numeral, shortestNumeral?_eq found, ?_⟩
    show withSign v.negative (floatOfDecimal v.numeral.coefficient (-(v.numeral.places : ℤ))) = x
    obtain ⟨zero, unpacked⟩ | ⟨positive, unpacked⟩ := parts
    · rw [BinaryValue.numeral_of_zero zero, floatOfDecimal_zero]
      refine doubles_eq_of_unpack (isFinite_withSign _ rfl) ?_
      rw [unpacked]
      cases v.negative <;> rfl
    · let f := floatOfDecimal v.numeral.coefficient (-(v.numeral.places : ℤ))
      have rounding : HasRounding (v.shortest.1 * 10 ^ v.shortest.2) f :=
        v.numeral_value ▸ hasRounding_floatOfDecimal v.numeral.coefficient (-(v.numeral.places : ℤ))
      have size : 0 < (v.mantissa : ℚ) * 2 ^ v.exponent := finite_pos positive _
      have inRange : |(v.mantissa : ℚ) * 2 ^ v.exponent| < beyond := by
        rw [abs_of_pos size]
        exact placed.lt_beyond small
      have value : standsFor f = v.mantissa * 2 ^ v.exponent := by
        rw [rounding.standsFor_eq ((BinaryValue.surrounds_shortest placed small positive).roundsTo placed positive)]
        exact cutOff_of_abs_lt inRange
      have stands : standsFor x = signed (signOf v.negative) (v.mantissa * 2 ^ v.exponent) := by
        rw [standsFor, unpacked]
        rfl
      have same : standsFor (withSign v.negative f) = standsFor x := by
        rw [standsFor_withSign, value, stands]
      have finiteF : isFinite f = true := isFinite_of_abs_standsFor_lt rounding.isNaN (value ▸ inRange)
      refine doubles_eq_of_standsFor (isFinite_withSign _ finiteF) finite same ?_
      rw [same, stands]
      cases v.negative with
      | false => exact size.ne'
      | true => exact (neg_lt_zero.2 size).ne

section Length

variable (placed : IsPlaced v.mantissa v.exponent) (small : v.exponent ≤ 971) (positive : 0 < v.mantissa)
include placed small positive

/-- The numeral of a double has three hundred and nine digits at most before the point. -/
theorem BinaryValue.numeral_coefficient_lt : v.numeral.coefficient < 10 ^ (309 + v.numeral.places) := by
  have surrounds := BinaryValue.surrounds_shortest placed small positive
  have short : (v.mantissa : ℚ) + 1 ≤ 2 ^ 53 := by exact_mod_cast placed.short
  have size : v.numeral.coefficient * 10 ^ (-(v.numeral.places : ℤ)) < (10 : ℚ) ^ (309 : ℤ) := by
    rw [v.numeral_value]
    calc (v.shortest.1 : ℚ) * 10 ^ v.shortest.2
      _ ≤ (4 * v.mantissa + 2) * v.quarter := surrounds.high
      _ = (v.mantissa + 1 / 2) * 2 ^ v.exponent := by
        rw [quarter]
        ring
      _ < 2 ^ 53 * 2 ^ v.exponent := mul_lt_mul_of_pos_right (by linarith) (zpow_two_pos _)
      _ = 2 ^ (53 + v.exponent) := (zpow_add₀ two_ne_zero 53 _).symm
      _ ≤ beyond := zpow_le_zpow_right₀ one_le_two (by omega)
      _ ≤ 10 ^ (309 : ℤ) := beyond_le
  have places : (0 : ℚ) < 10 ^ (v.numeral.places : ℤ) := zpow_pos (by norm_num) _
  rw [zpow_neg, ← div_eq_mul_inv, div_lt_iff₀ places, ← zpow_add₀ (by norm_num)] at size
  exact_mod_cast size

/-- It has three hundred and forty-three at most after the point. -/
theorem BinaryValue.numeral_places_le : v.numeral.places ≤ 343 := by
  have finest : v.coarsestScale - gridCount ≤ v.shortest.2 := by
    obtain ⟨-, coarser⟩ | finest := v.shortest_cases positive
    · exact coarser
    · exact (congrArg Prod.snd finest).ge
  have scale : v.coarsestScale - gridCount =
      Int.fdiv ((v.exponent + (v.mantissa.log2 : ℤ) + 1) * 30103) 100000 + 1 - 20 := rfl
  have floor : -324 ≤ Int.fdiv ((v.exponent + (v.mantissa.log2 : ℤ) + 1) * 30103) 100000 := by
    have fine := placed.fine
    rw [Int.fdiv_eq_ediv_of_nonneg _ (by decide)]
    omega
  show (-v.shortest.2).toNat ≤ 343
  omega

end Length

/-- A finite double is written with a thousand characters at most. -/
theorem doubles_length_chars_le (finite : isFinite x = true) : (Legible.chars x).length ≤ 1000 := by
  obtain ⟨infinite, -⟩ | ⟨v, found, placed, small, parts⟩ := ofFloat?_cases x
  · rw [infinite] at finite
    cases finite
  · have chars : Legible.chars x = v.numeral.chars := by
      rw [Legible.chars, show Legible.toNumeral? x = some v.numeral from shortestNumeral?_eq found]
    have length := v.numeral.length_chars_le
    obtain zero | positive := v.mantissa.eq_zero_or_pos
    · have few := Numeral.length_chars_le ⟨v.negative, 0, 0⟩
      dsimp only at few
      have digit : (Nat.toDigits 10 0).length = 1 := rfl
      rw [chars, BinaryValue.numeral_of_zero zero]
      omega
    · have digits : (Nat.toDigits 10 v.numeral.coefficient).length ≤ 309 + v.numeral.places :=
        (Nat.length_toDigits_le_iff (by decide) (by omega)).2 (BinaryValue.numeral_coefficient_lt placed small positive)
      have places := BinaryValue.numeral_places_le placed small positive
      rw [chars]
      omega

end Text

end PaperTrading
