/-
Module: PaperTrading.Proofs.Arithmetic.Doubles
Purpose: The order of doubles, and the sign of the doubles that numerals stand for.
Main exports: doubles_lt_iff, doubles_zero_le_of_not_refused, doubles_lt_asymm, doubles_beq_comm, doubles_zero_le_ofNumeral

Two finite doubles are always in some order, and the order the other way round is the opposite one.  With a number that
is not finite nothing of the kind is claimed: what is undefined compares with nothing.
-/
import PaperTrading.Arithmetic.Binary64
import PaperTrading.Decimal.Reading

namespace PaperTrading

open Arithmetic (whole isFinite lt le)
open Float.Model

section Order

/-- Two unpacked doubles the other way round are in the opposite order. -/
theorem compare_unpacked_swap (x y : UnpackedFloat) : y.compare x = (x.compare y).map Ordering.swap := by
  cases x with
  | notANumber =>
      cases y with
      | notANumber | infinity | zero | finite => rfl
  | infinity sign =>
      cases y with
      | notANumber | zero | finite => cases sign <;> rfl
      | infinity other => cases sign <;> cases other <;> rfl
  | zero =>
      cases y with
      | notANumber | zero => rfl
      | infinity other | finite other => cases other <;> rfl
  | finite sign m e =>
      cases y with
      | notANumber | zero => cases sign <;> rfl
      | infinity other => cases sign <;> cases other <;> rfl
      | finite other n f =>
          have exponents : compare f e = (compare e f).swap := Std.OrientedOrd.eq_swap
          have mantissas : compare n m = (compare m n).swap := Std.OrientedOrd.eq_swap
          have turned : (compare f e).then (compare n m) = ((compare e f).then (compare m n)).swap := by
            rw [Ordering.swap_then, exponents, mantissas]
          cases sign with
          | negative =>
              cases other with
              | negative => exact congrArg (fun order => some (Ordering.swap order)) turned
              | positive => rfl
          | positive =>
              cases other with
              | negative => rfl
              | positive => exact congrArg some turned

theorem exists_compare_unpacked {x y : UnpackedFloat} (one : x.isFinite = true) (other : y.isFinite = true) :
    ∃ order, x.compare y = some order := by
  cases x with
  | notANumber | infinity => cases one
  | zero =>
      cases y with
      | notANumber | infinity => cases other
      | zero => exact ⟨_, rfl⟩
      | finite sign => cases sign <;> exact ⟨_, rfl⟩
  | finite sign =>
      cases y with
      | notANumber | infinity => cases other
      | zero => cases sign <;> exact ⟨_, rfl⟩
      | finite sign' => cases sign <;> cases sign' <;> exact ⟨_, rfl⟩

variable {x y : Float}

theorem doubles_lt_iff_compare : lt x y = true ↔ x.toModel.unpack.compare y.toModel.unpack = some .lt :=
  decide_eq_true_iff.trans beq_iff_eq

theorem doubles_le_iff_compare :
    le x y = true ↔ (x.toModel.unpack.compare y.toModel.unpack).any (·.isLE) = true :=
  decide_eq_true_iff

/-- Of two finite doubles the first is less, or the second is less or equal. -/
theorem doubles_lt_iff (one : isFinite x = true) (other : isFinite y = true) :
    lt x y = true ↔ le y x = false := by
  obtain ⟨order, compared⟩ := exists_compare_unpacked one other
  rw [← Bool.not_eq_true, doubles_lt_iff_compare, doubles_le_iff_compare, compare_unpacked_swap x.toModel.unpack,
    compared]
  cases order <;> decide

/-- A number that is not refused for being undefined, infinite or negative is finite and not negative. -/
theorem doubles_zero_le_of_not_refused (allowed : ¬ (!x.isFinite || decide (x < 0.0)) = true) :
    isFinite x = true ∧ le (whole 0) x = true := by
  rw [Bool.or_eq_true, Bool.not_eq_true', not_or, Bool.not_eq_false, decide_eq_true_iff] at allowed
  obtain ⟨finite, notBelow⟩ := allowed
  have notLess : ¬ lt x (whole 0) = true := notBelow
  rw [doubles_lt_iff finite rfl, Bool.not_eq_false] at notLess
  exact ⟨finite, notLess⟩

theorem doubles_lt_asymm (less : lt x y = true) : lt y x = false := by
  rw [doubles_lt_iff_compare] at less
  rw [← Bool.not_eq_true, doubles_lt_iff_compare, compare_unpacked_swap x.toModel.unpack, less]
  decide

theorem doubles_beq_comm : (x == y) = (y == x) := by
  have same (x y : Float) : (x == y) = (x.toModel.unpack.compare y.toModel.unpack == some .eq) := rfl
  rw [same, same, compare_unpacked_swap x.toModel.unpack]
  cases x.toModel.unpack.compare y.toModel.unpack with
  | none => rfl
  | some order => cases order <;> rfl

end Order

section Signs

/-- A positive number, infinity included, or the zero whose sign is not set. -/
def IsUnsigned : UnpackedFloat → Prop
  | .zero sign | .infinity sign | .finite sign .. => sign = .positive
  | .notANumber => False

/-- A positive finite number. -/
def isPositive : UnpackedFloat → Bool
  | .finite .positive .. => true
  | _ => false

section Packing

section Choices

variable {p : Prop} [Decidable p]

theorem isUnsigned_dite {one : p → UnpackedFloat} {other : ¬ p → UnpackedFloat}
    (first : ∀ holds, IsUnsigned (one holds)) (second : ∀ fails, IsUnsigned (other fails)) :
    IsUnsigned (if holds : p then one holds else other holds) := by
  split
  case isTrue holds => exact first holds
  case isFalse fails => exact second fails

theorem isUnsigned_ite {one other : UnpackedFloat} (first : IsUnsigned one) (second : IsUnsigned other) :
    IsUnsigned (if p then one else other) :=
  isUnsigned_dite (fun _ => first) fun _ => second

end Choices

variable {format : Format}

theorem unpackSign_packComponents (sign : UnpackedFloat.Sign) (exponent : BitVec format.exponentBits)
    (mantissa : BitVec format.mantissaBitsWithoutImplicit) :
    UnpackedFloat.unpackSign (UnpackedFloat.packComponents format sign exponent mantissa) = sign.toBitVec := by
  let place := format.mantissaBitsWithoutImplicit + format.exponentBits
  show BitVec.cast _ (BitVec.extractLsb place place (sign.toBitVec ++ exponent ++ mantissa)) = sign.toBitVec
  refine BitVec.eq_of_getLsbD_eq fun bit inside => ?_
  obtain rfl : bit = 0 := by omega
  simp [place, BitVec.getLsbD_append, BitVec.getElem_append]

/-- Bits without the sign bit are those of an unsigned number, unless they are those of what is not a number. -/
theorem isUnsigned_unpack {bits : BitVec format.numBits} (sign : UnpackedFloat.unpackSign bits = 0#1)
    (number : UnpackedFloat.unpackExponent bits = -1#_ → UnpackedFloat.unpackMantissa bits = 0#_) :
    IsUnsigned (UnpackedFloat.unpack format bits) := by
  have positive : UnpackedFloat.Sign.ofBitVec (UnpackedFloat.unpackSign bits) = .positive := if_pos sign
  show IsUnsigned
    (if UnpackedFloat.unpackExponent bits = -1#_ then
      if UnpackedFloat.unpackMantissa bits = 0#_ then .infinity _ else .notANumber
    else if UnpackedFloat.unpackExponent bits = 0#_ then
      if mantissa : UnpackedFloat.unpackMantissa bits = 0#_ then .zero _ else .finite _ _ _ _
    else .finite _ _ _ _)
  by_cases special : UnpackedFloat.unpackExponent bits = -1#_
  · rw [if_pos special, if_pos (number special)]
    exact positive
  · rw [if_neg special]
    by_cases small : UnpackedFloat.unpackExponent bits = 0#_
    · rw [if_pos small]
      exact isUnsigned_dite (fun _ => positive) fun _ => positive
    · rw [if_neg small]
      exact positive

theorem isUnsigned_unpack_packComponents {exponent : BitVec format.exponentBits}
    {mantissa : BitVec format.mantissaBitsWithoutImplicit} (number : exponent = -1#_ → mantissa = 0#_) :
    IsUnsigned (UnpackedFloat.unpack format (UnpackedFloat.packComponents format .positive exponent mantissa)) := by
  refine isUnsigned_unpack (unpackSign_packComponents .positive exponent mantissa) ?_
  rw [UnpackedFloat.unpackExponent_packComponents, UnpackedFloat.unpackMantissa_packComponents]
  exact number

/-- What is unsigned is stored, and found again, as what is unsigned. -/
theorem isUnsigned_unpack_pack {x : UnpackedFloat} (unsigned : IsUnsigned x) :
    IsUnsigned (UnpackedFloat.unpack .binary64 (UnpackedFloat.pack .binary64 x)) := by
  cases x with
  | notANumber => exact unsigned.elim
  | infinity | zero =>
      obtain rfl := unsigned
      exact isUnsigned_unpack_packComponents fun _ => rfl
  | finite sign mantissa exponent =>
      obtain rfl := unsigned
      let biased := (exponent + Format.binary64.exponentBias + Format.binary64.mantissaBitsWithoutImplicit).toNat
      show IsUnsigned (UnpackedFloat.unpack .binary64
        (if 2 ^ 11 ≤ biased + 1 then UnpackedFloat.packComponents .binary64 .positive (-1#_) 0
        else if mantissa.log2 + 1 = Format.binary64.mantissaBits then
          UnpackedFloat.packComponents .binary64 .positive (BitVec.ofNat _ biased) _
        else UnpackedFloat.packComponents .binary64 .positive 0#_ _))
      split
      case isTrue => exact isUnsigned_unpack_packComponents fun _ => rfl
      case isFalse inRange =>
        split
        case isTrue =>
          -- The exponent of a finite number is below that of an infinity.
          refine isUnsigned_unpack_packComponents fun special => ?_
          have small : biased < 2047 := by omega
          have large : biased % 2048 = 2047 := congrArg BitVec.toNat special
          omega
        case isFalse => exact isUnsigned_unpack_packComponents nofun

end Packing

section Operations

theorem isUnsigned_roundWithAccuracy (mantissa : Nat) (exponent : Int) (accuracy : UnpackedFloat.Accuracy) :
    IsUnsigned (UnpackedFloat.roundWithAccuracy .binary64 .positive mantissa exponent accuracy) := by
  show IsUnsigned (if zero : _ = 0 then .zero .positive else .finite .positive _ _ (Nat.pos_of_ne_zero zero))
  exact isUnsigned_dite (fun _ => rfl) fun _ => rfl

theorem isUnsigned_mul_and_div {x y : UnpackedFloat} (one : IsUnsigned x) (other : isPositive y = true) :
    IsUnsigned (UnpackedFloat.mul .binary64 x y) ∧ IsUnsigned (UnpackedFloat.div .binary64 x y) := by
  cases y with
  | notANumber | infinity | zero => cases other
  | finite sign =>
      cases sign with
      | negative => cases other
      | positive =>
          cases x with
          | notANumber => exact one.elim
          | infinity | zero =>
              obtain rfl := one
              exact ⟨rfl, rfl⟩
          | finite =>
              obtain rfl := one
              exact ⟨isUnsigned_roundWithAccuracy _ _ _, isUnsigned_roundWithAccuracy _ _ _⟩

theorem isUnsigned_ofNat (n : Nat) : IsUnsigned (UnpackedFloat.ofNat .binary64 n) := by
  rcases Nat.eq_zero_or_pos n with rfl | positive
  · rfl
  · have above : compare (n : Int) 0 = .gt := Int.compare_eq_gt.2 (by omega)
    show IsUnsigned (match compare (n : Int) 0 with
      | .lt => UnpackedFloat.round .binary64 .negative _ _
      | .eq => .zero .positive
      | .gt => UnpackedFloat.round .binary64 .positive _ _)
    rw [above]
    exact isUnsigned_roundWithAccuracy _ _ _

theorem isUnsigned_ofScientific (coefficient : Nat) (scale : Int) :
    IsUnsigned (UnpackedFloat.ofScientific .binary64 coefficient scale) := by
  show IsUnsigned (if zero : coefficient = 0 then .zero .positive
    else if scale > 2 ^ 11 then .infinity .positive
    else if scale < -(2 ^ 11 + coefficient.log2) then .zero .positive
    else if 0 ≤ scale then UnpackedFloat.mul _ _ _ else UnpackedFloat.div _ _ _)
  have factor {m : Nat} {e : Int} {positive : 0 < m} : IsUnsigned (.finite .positive m e positive) := rfl
  refine isUnsigned_dite (fun _ => rfl) fun _ => isUnsigned_ite rfl (isUnsigned_ite rfl (isUnsigned_ite ?_ ?_))
  · exact (isUnsigned_mul_and_div factor rfl).1
  · exact (isUnsigned_mul_and_div factor rfl).2

end Operations

section Numerals

/-- The powers of ten that small numerals are computed with. -/
theorem powersOfTen_positive :
    ∀ power : Fin 23, isPositive Float.exactlyRepresentablePowersOfTen[power].toModel.unpack = true := by
  decide

theorem isUnsigned_float_ofScientific (coefficient : Nat) (below : Bool) (places : Nat) :
    IsUnsigned (Float.ofScientific coefficient below places).toModel.unpack := by
  show IsUnsigned (Float.toModel (if small : coefficient < 2 ^ 53 ∧ places ≤ 22 then
      if below = true then coefficient.toUInt64.toFloat / getElem Float.exactlyRepresentablePowersOfTen places _
      else coefficient.toUInt64.toFloat * getElem Float.exactlyRepresentablePowersOfTen places _
    else Float.ofModel _)).unpack
  split
  case isTrue small =>
    have whole : IsUnsigned coefficient.toUInt64.toFloat.toModel.unpack := isUnsigned_unpack_pack (isUnsigned_ofNat _)
    have power := powersOfTen_positive ⟨places, Nat.lt_succ_of_le small.2⟩
    obtain ⟨product, quotient⟩ := isUnsigned_mul_and_div whole power
    split
    case isTrue => exact isUnsigned_unpack_pack quotient
    case isFalse => exact isUnsigned_unpack_pack product
  case isFalse => exact isUnsigned_unpack_pack (isUnsigned_ofScientific _ _)

theorem isUnsigned_floatOfDecimal (coefficient : Nat) (scale : Int) :
    IsUnsigned (floatOfDecimal coefficient scale).toModel.unpack := by
  rw [floatOfDecimal]
  split
  case isTrue => exact isUnsigned_float_ofScientific _ _ _
  case isFalse =>
    split
    case isTrue => exact (rfl : UnpackedFloat.Sign.positive = .positive)
    case isFalse =>
      split
      case isTrue => exact isUnsigned_float_ofScientific _ _ _
      case isFalse => exact isUnsigned_float_ofScientific _ _ _

theorem doubles_zero_le_of_isUnsigned {x : Float} (unsigned : IsUnsigned x.toModel.unpack) : le (whole 0) x = true := by
  have zero : (whole 0 : Float).toModel.unpack = .zero .positive := rfl
  rw [doubles_le_iff_compare, zero]
  cases unpacked : x.toModel.unpack with
  | notANumber =>
      rw [unpacked] at unsigned
      exact unsigned.elim
  | zero => rfl
  | infinity | finite =>
      rw [unpacked] at unsigned
      obtain rfl := unsigned
      rfl

/-- A numeral without a sign stands for a double that is zero or more. -/
theorem doubles_zero_le_ofNumeral {n : Numeral} (unsigned : n.negative = false) :
    le (whole 0) (Legible.ofNumeral n : Float) = true := by
  have value : (Legible.ofNumeral n : Float) = floatOfDecimal n.coefficient (-(n.places : Int)) := by
    show withSign n.negative _ = _
    rw [unsigned]
    rfl
  rw [value]
  exact doubles_zero_le_of_isUnsigned (isUnsigned_floatOfDecimal _ _)

end Numerals

end Signs

end PaperTrading
