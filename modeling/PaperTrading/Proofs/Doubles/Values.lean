/-
Module: PaperTrading.Proofs.Doubles.Values
Purpose: Doubles are compared and added as the numbers they stand for.
Main exports: standsFor, doubles_le_iff_standsFor, HasRounding, hasRounding_add, hasRounding_mul, hasRounding_div,
  doubles_eq_of_standsFor
-/
import PaperTrading.Proofs.Doubles.Operations

namespace PaperTrading

open Arithmetic (whole isFinite lt le)
open Float.Model

variable {x y : Float} {a b value : ℚ}

section Order

/-- The number that a double stands for. -/
def standsFor (x : Float) : ℚ :=
  quantity x.toModel.unpack

theorem isStorable_unpacked (x : Float) : IsStorable x.toModel.unpack :=
  isStorable_unpack _

theorem isNaN_of_isFinite (finite : isFinite x = true) : x.isNaN = false := by
  show x.toModel.unpack.isNaN = false
  have unpacked : x.toModel.unpack.isFinite = true := finite
  cases h : x.toModel.unpack with
  | notANumber =>
      rw [h] at unpacked
      cases unpacked
  | infinity | zero | finite => rfl

theorem abs_standsFor_lt (finite : isFinite x = true) : |standsFor x| < beyond :=
  abs_quantity_lt (isStorable_unpacked x) finite

/-- A double that is a number is finite if it is not too large. -/
theorem isFinite_of_abs_standsFor_lt (number : x.isNaN = false) (small : |standsFor x| < beyond) :
    isFinite x = true := by
  show x.toModel.unpack.isFinite = true
  have unpacked : x.toModel.unpack.isNaN = false := number
  rw [standsFor] at small
  cases h : x.toModel.unpack with
  | notANumber =>
      rw [h] at unpacked
      cases unpacked
  | infinity sign =>
      rw [h] at small
      have size : |signed sign beyond| = beyond := by
        cases sign with
        | positive => exact abs_of_pos beyond_pos
        | negative => exact (abs_neg beyond).trans (abs_of_pos beyond_pos)
      exact absurd size small.ne
  | zero | finite => rfl

variable (number : x.isNaN = false) (number' : y.isNaN = false)
include number number'

theorem doubles_compare : x.toModel.unpack.compare y.toModel.unpack = some (compare (standsFor x) (standsFor y)) :=
  compare_eq_compare_quantity (isStorable_unpacked x) (isStorable_unpacked y) number number'

/-- Doubles that are numbers are in the order of what they stand for. -/
theorem doubles_le_iff_standsFor : le x y = true ↔ standsFor x ≤ standsFor y := by
  rw [doubles_le_iff_compare, doubles_compare number number', Option.any_some]
  exact Ordering.isLE_iff_ne_gt.trans compare_le_iff_le

theorem doubles_lt_iff_standsFor : lt x y = true ↔ standsFor x < standsFor y := by
  rw [doubles_lt_iff_compare, doubles_compare number number', Option.some_inj]
  exact compare_lt_iff_lt

omit number number'

theorem isNaN_of_le (ordered : le x y = true) : x.isNaN = false ∧ y.isNaN = false := by
  rw [doubles_le_iff_compare] at ordered
  show x.toModel.unpack.isNaN = false ∧ y.toModel.unpack.isNaN = false
  cases one : x.toModel.unpack with
  | notANumber =>
      rw [one] at ordered
      cases ordered
  | infinity | zero | finite =>
      refine ⟨rfl, ?_⟩
      cases other : y.toModel.unpack with
      | notANumber =>
          rw [one, other] at ordered
          cases ordered
      | infinity | zero | finite => rfl

theorem doubles_lt_eq_false_of_le (ordered : le x y = true) : lt y x = false := by
  obtain ⟨number, number'⟩ := isNaN_of_le ordered
  rw [doubles_le_iff_standsFor number number'] at ordered
  rw [← Bool.not_eq_true, doubles_lt_iff_standsFor number' number]
  exact not_lt.2 ordered

theorem doubles_le_of_lt (less : lt x y = true) : le x y = true := by
  rw [doubles_lt_iff_compare] at less
  rw [doubles_le_iff_compare, less]
  rfl

end Order

section Results

/-- A double is a number, and the rounding of another if that is not too large. -/
structure HasRounding (a : ℚ) (x : Float) : Prop where
  isNaN : x.isNaN = false
  value : ∃ value, RoundsTo a value ∧ standsFor x = cutOff value

theorem HasRounding.standsFor_eq (rounding : HasRounding a x) (rounds : RoundsTo a value) :
    standsFor x = cutOff value := by
  obtain ⟨other, rounds', stands⟩ := rounding.value
  rw [stands, rounds'.eq rounds]

/-- What is stored of a result is its rounding. -/
theorem IsRounding.hasRounding {result : UnpackedFloat} (rounding : IsRounding a result)
    (found : x.toModel.unpack = stored result) : HasRounding a x := by
  refine ⟨?_, _, rounding.rounds, ?_⟩
  · show x.toModel.unpack.isNaN = false
    rw [found]
    exact isNaN_stored rounding.rounded rounding.finite
  · rw [standsFor, found, quantity_stored rounding.rounded]

/-- Numbers in order are stored as doubles in order. -/
theorem HasRounding.le (one : HasRounding a x) (other : HasRounding b y) (ordered : a ≤ b) : le x y = true := by
  obtain ⟨value, rounds, stands⟩ := one.value
  obtain ⟨value', rounds', stands'⟩ := other.value
  rw [doubles_le_iff_standsFor one.isNaN other.isNaN, stands, stands']
  exact cutOff_le_cutOff (rounds.le rounds' ordered)

/-- A number that is on the grid of doubles is stored as it is. -/
theorem HasRounding.exact (rounding : HasRounding a x) (onGrid : RoundsTo a a) (small : |a| < beyond) :
    isFinite x = true ∧ standsFor x = a := by
  have same : standsFor x = a := (rounding.standsFor_eq onGrid).trans (cutOff_of_abs_lt small)
  exact ⟨isFinite_of_abs_standsFor_lt rounding.isNaN (same.symm ▸ small), same⟩

variable (finite : isFinite x = true) (finite' : isFinite y = true)
include finite finite'

/-- A sum of doubles is the sum of the numbers they stand for, rounded. -/
theorem hasRounding_add : HasRounding (standsFor x + standsFor y) (x + y) :=
  (isRounding_add (isStorable_unpacked x) (isStorable_unpacked y) finite finite').hasRounding rfl

/-- A product of doubles is the product of the numbers they stand for, rounded. -/
theorem hasRounding_mul : HasRounding (standsFor x * standsFor y) (x * y) :=
  (isRounding_mul (isStorable_unpacked x) (isStorable_unpacked y) finite finite').hasRounding rfl

/-- A quotient of doubles is the quotient of the numbers they stand for, rounded. -/
theorem hasRounding_div (nonzero : standsFor y ≠ 0) : HasRounding (standsFor x / standsFor y) (x / y) :=
  (isRounding_div finite finite' nonzero).hasRounding rfl

end Results

section Signs

theorem unpack_neg (x : Float) : (-x).toModel.unpack = x.toModel.unpack.neg := by
  have negated : (-x).toModel.unpack = stored x.toModel.unpack.neg := rfl
  rw [negated]
  refine stored_of_isStorable ?_
  have storable := isStorable_unpacked x
  cases unpacked : x.toModel.unpack with
  | notANumber | infinity | zero => trivial
  | finite =>
      rw [unpacked] at storable
      exact storable

theorem isFinite_neg (finite : isFinite x = true) : isFinite (-x) = true := by
  show (-x).toModel.unpack.isFinite = true
  rw [unpack_neg]
  have unpackedFinite : x.toModel.unpack.isFinite = true := finite
  cases unpacked : x.toModel.unpack with
  | notANumber | infinity =>
      rw [unpacked] at unpackedFinite
      cases unpackedFinite
  | zero | finite => rfl

theorem standsFor_neg (x : Float) : standsFor (-x) = -standsFor x := by
  rw [standsFor, unpack_neg, standsFor]
  cases unpacked : x.toModel.unpack with
  | notANumber | zero => exact neg_zero.symm
  | infinity sign | finite sign =>
      cases sign with
      | positive => rfl
      | negative => exact (neg_neg _).symm

end Signs

section Equality

/-- Finite doubles are the same if they are unpacked to the same. -/
theorem doubles_eq_of_unpack (finite : isFinite x = true) (same : x.toModel.unpack = y.toModel.unpack) : x = y := by
  have one := pack_unpack x.toModel.toBits.toBitVec finite
  have other := pack_unpack y.toModel.toBits.toBitVec ((congrArg UnpackedFloat.isFinite same).symm.trans finite)
  obtain ⟨⟨bits, valid⟩⟩ := x
  obtain ⟨⟨bits', valid'⟩⟩ := y
  obtain rfl : bits = bits' :=
    UInt64.eq_of_toBitVec_eq (one.symm.trans ((congrArg (UnpackedFloat.pack .binary64) same).trans other))
  rfl

/-- Finite doubles that stand for one number, which is not zero, are the same. -/
theorem doubles_eq_of_standsFor (finite : isFinite x = true) (finite' : isFinite y = true)
    (same : standsFor x = standsFor y) (nonzero : standsFor x ≠ 0) : x = y :=
  doubles_eq_of_unpack finite
    (eq_of_quantity (isStorable_unpacked x) (isStorable_unpacked y) finite finite' same nonzero)

end Equality

end PaperTrading
