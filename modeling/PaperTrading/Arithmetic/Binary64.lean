/-
Module: PaperTrading.Arithmetic.Binary64
Purpose: Calculation with doubles.
Main exports: the instance `Arithmetic Float`
-/
import PaperTrading.Arithmetic.Basic
import PaperTrading.Arithmetic.StudentT

namespace PaperTrading

instance : Arithmetic Float where
  add := Float.add
  sub := Float.sub
  mul := Float.mul
  div := Float.div
  neg := Float.neg
  beq := Float.beq
  whole := Nat.toFloat
  lt := Float.lt
  le := Float.le
  isFinite := Float.isFinite
  magnitude := Float.abs
  nearest := Float.round
  sqrt := Float.sqrt
  power := Float.pow
  floorNat := fun x => x.toUInt64.toNat
  tailProbability := StudentT.tail

end PaperTrading
