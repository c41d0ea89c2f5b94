/-
Module: PaperTrading.Proofs.Arithmetic.NotFinite
Purpose: A calculation that begins with an infinite or undefined number does not come to a finite one.
Main exports: FiniteFromFinite, doubles_finiteFromFinite
-/
import PaperTrading.Arithmetic.Binary64

namespace PaperTrading

open Arithmetic (isFinite)

/-- What is assumed of an arithmetic: differences, quotients and products that begin with a number that is not finite
are not finite either. -/
structure FiniteFromFinite (α : Type) [Arithmetic α] : Prop where
  sub : ∀ x y : α, isFinite x = false → isFinite (x - y) = false
  div : ∀ x y : α, isFinite x = false → isFinite (x / y) = false
  mul : ∀ x y : α, isFinite x = false → isFinite (x * y) = false

section Doubles

open Float.Model

variable {format : Format}

/-- Bits whose exponent is all ones are those of an infinity, or of what is not a number. -/
theorem isFinite_unpack_packComponents (sign : UnpackedFloat.Sign)
    (mantissa : BitVec format.mantissaBitsWithoutImplicit) :
    (UnpackedFloat.unpack format (UnpackedFloat.packComponents format sign (-1#_) mantissa)).isFinite = false := by
  let bits := UnpackedFloat.packComponents format sign (-1#_) mantissa
  have special : UnpackedFloat.unpack format bits =
      if UnpackedFloat.unpackMantissa bits = 0#_ then
        .infinity (UnpackedFloat.Sign.ofBitVec (UnpackedFloat.unpackSign bits))
      else .notANumber :=
    if_pos (UnpackedFloat.unpackExponent_packComponents ..)
  rw [special]
  split
  case isTrue => rfl
  case isFalse => rfl

variable {x : UnpackedFloat} (notFinite : x.isFinite = false)
include notFinite

/-- What is not finite is stored, and found again, as what is not finite. -/
theorem isFinite_unpack_pack : (UnpackedFloat.unpack format (UnpackedFloat.pack format x)).isFinite = false := by
  cases x with
  | notANumber => exact isFinite_unpack_packComponents _ _
  | infinity sign => exact isFinite_unpack_packComponents sign _
  | zero | finite => cases notFinite

theorem isFinite_unpacked_sub (y : UnpackedFloat) : (UnpackedFloat.sub format x y).isFinite = false := by
  cases x with
  | notANumber => rfl
  | infinity sign =>
      cases y with
      | notANumber | zero | finite => rfl
      | infinity other =>
          -- Infinities of one sign leave nothing that is a number, those of different signs an infinity.
          have difference : UnpackedFloat.sub format (.infinity sign) (.infinity other) =
              if sign == -other then .infinity sign else .notANumber := rfl
          rw [difference]
          split
          case isTrue => rfl
          case isFalse => rfl
  | zero | finite => cases notFinite

theorem isFinite_unpacked_div (y : UnpackedFloat) : (UnpackedFloat.div format x y).isFinite = false := by
  cases x with
  | notANumber => rfl
  | infinity sign =>
      cases y with
      | notANumber | infinity | zero | finite => rfl
  | zero | finite => cases notFinite

theorem isFinite_unpacked_mul (y : UnpackedFloat) : (UnpackedFloat.mul format x y).isFinite = false := by
  cases x with
  | notANumber => rfl
  | infinity sign =>
      cases y with
      | notANumber | infinity | zero | finite => rfl
  | zero | finite => cases notFinite

end Doubles

/-- So it is with doubles: an infinity stays one or becomes undefined, and what is undefined stays so. -/
theorem doubles_finiteFromFinite : FiniteFromFinite Float where
  sub _ y notFinite := isFinite_unpack_pack (isFinite_unpacked_sub notFinite y.toModel.unpack)
  div _ y notFinite := isFinite_unpack_pack (isFinite_unpacked_div notFinite y.toModel.unpack)
  mul _ y notFinite := isFinite_unpack_pack (isFinite_unpacked_mul notFinite y.toModel.unpack)

end PaperTrading
