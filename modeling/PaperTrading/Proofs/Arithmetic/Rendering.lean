/-
Module: PaperTrading.Proofs.Arithmetic.Rendering
Purpose: The numbers of exact arithmetic written as those of another arithmetic, or in another unit.
Main exports: Rendering, Quantity, Quantity.total, Rendering.mean, Rendering.deviation?, Rendering.fifthPercentile

A calculation commutes with a rendering if it divides by nothing that is zero.  That is shown here for the operations
that every calculation is composed of, and beside each calculation for itself.
-/
import Mathlib.Algebra.Order.Field.Basic
import PaperTrading.Arithmetic.Statistics
import PaperTrading.Proofs.Arithmetic.Scaling

namespace PaperTrading

open Arithmetic (whole)

variable {K : Type} [LinearOrder K] [ExactArithmetic K] {β : Type} [Arithmetic β]

/-- Numbers without a unit, written in another arithmetic.  Every operation and every comparison of the other arithmetic
says of them what exact arithmetic says.  Nothing is known of quotients by zero. -/
structure Rendering (plain : K → β) : Prop where
  whole : ∀ n : Nat, whole n = plain (whole n)
  add : ∀ x y, plain x + plain y = plain (x + y)
  sub : ∀ x y, plain x - plain y = plain (x - y)
  mul : ∀ x y, plain x * plain y = plain (x * y)
  neg : ∀ x, -plain x = plain (-x)
  div : ∀ x {y}, y ≠ 0 → plain x / plain y = plain (x / y)
  lt : ∀ x y, Arithmetic.lt (plain x) (plain y) = Arithmetic.lt x y
  le : ∀ x y, Arithmetic.le (plain x) (plain y) = Arithmetic.le x y
  beq : ∀ x y, (plain x == plain y) = (x == y)
  isFinite : ∀ x, Arithmetic.isFinite (plain x) = true
  magnitude : ∀ x, Arithmetic.magnitude (plain x) = plain (Arithmetic.magnitude x)
  nearest : ∀ x, Arithmetic.nearest (plain x) = plain (Arithmetic.nearest x)
  sqrt : ∀ x, Arithmetic.sqrt (plain x) = plain (Arithmetic.sqrt x)
  power : ∀ x y, Arithmetic.power (plain x) (plain y) = plain (Arithmetic.power x y)
  floorNat : ∀ x, Arithmetic.floorNat (plain x) = Arithmetic.floorNat x
  tailProbability : ∀ n x, Arithmetic.tailProbability n (plain x) = plain (Arithmetic.tailProbability n x)

/-- Numbers with a unit, written in another arithmetic and perhaps in another unit.  They can be added and compared, and
multiplied with plain numbers; the ratio of two of them is plain. -/
structure Quantity (plain quantity : K → β) : Prop where
  zero : (whole 0 : β) = quantity 0
  add : ∀ x y, quantity x + quantity y = quantity (x + y)
  sub : ∀ x y, quantity x - quantity y = quantity (x - y)
  neg : ∀ x, -quantity x = quantity (-x)
  mul : ∀ x y, quantity x * plain y = quantity (x * y)
  smul : ∀ x y, plain x * quantity y = quantity (x * y)
  div : ∀ x {y}, y ≠ 0 → quantity x / plain y = quantity (x / y)
  ratio : ∀ x {y}, y ≠ 0 → quantity x / quantity y = plain (x / y)
  lt : ∀ x y, Arithmetic.lt (quantity x) (quantity y) = Arithmetic.lt x y
  le : ∀ x y, Arithmetic.le (quantity x) (quantity y) = Arithmetic.le x y
  beq : ∀ x y, (quantity x == quantity y) = (x == y)
  isFinite : ∀ x, Arithmetic.isFinite (quantity x) = true

/-- Plain numbers are a quantity. -/
theorem Rendering.quantity {plain : K → β} (rendered : Rendering plain) : Quantity plain plain where
  zero := (rendered.whole 0).trans (congrArg plain ExactArithmetic.whole_zero)
  add := rendered.add
  sub := rendered.sub
  neg := rendered.neg
  mul := rendered.mul
  smul := rendered.mul
  div := rendered.div
  ratio := rendered.div
  lt := rendered.lt
  le := rendered.le
  beq := rendered.beq
  isFinite := rendered.isFinite

/-- Exact arithmetic is a rendering of itself. -/
theorem Rendering.refl : Rendering (id : K → K) where
  whole _ := rfl
  add _ _ := rfl
  sub _ _ := rfl
  mul _ _ := rfl
  neg _ := rfl
  div _ _ _ := rfl
  lt _ _ := rfl
  le _ _ := rfl
  beq _ _ := rfl
  isFinite := ExactArithmetic.isFinite_all
  magnitude _ := rfl
  nearest _ := rfl
  sqrt _ := rfl
  power _ _ := rfl
  floorNat _ := rfl
  tailProbability _ _ := rfl

/-- A factor makes another unit. -/
theorem Quantity.scaled [IsStrictOrderedRing K] {c : K} (positive : 0 < c) : Quantity id fun x : K => c * x where
  zero := by rw [mul_zero, ExactArithmetic.whole_zero]
  add _ _ := (mul_add ..).symm
  sub _ _ := (mul_sub ..).symm
  neg _ := (mul_neg ..).symm
  mul _ _ := mul_assoc ..
  smul _ _ := mul_left_comm ..
  div _ _ _ := mul_div_assoc ..
  ratio _ _ _ := mul_div_mul_left _ _ positive.ne'
  lt := ExactArithmetic.lt_scaled positive
  le := ExactArithmetic.le_scaled positive
  beq := ExactArithmetic.beq_scaled positive
  isFinite _ := ExactArithmetic.isFinite_all _

theorem ExactArithmetic.whole_ne_zero [IsStrictOrderedRing K] {n : Nat} (positive : 0 < n) :
    (Arithmetic.whole n : K) ≠ 0 := by
  rw [whole_eq_cast]
  exact Nat.cast_ne_zero.2 positive.ne'

namespace Quantity

variable {plain quantity : K → β} (measured : Quantity plain quantity)
include measured

section Comparisons

variable (x y : K)

theorem lt_zero : Arithmetic.lt (quantity x) (whole 0) = Arithmetic.lt x (whole 0) := by
  rw [measured.zero, measured.lt, ExactArithmetic.whole_zero]

theorem zero_lt : Arithmetic.lt (whole 0) (quantity x) = Arithmetic.lt (whole 0) x := by
  rw [measured.zero, measured.lt, ExactArithmetic.whole_zero]

theorem le_zero : Arithmetic.le (quantity x) (whole 0) = Arithmetic.le x (whole 0) := by
  rw [measured.zero, measured.le, ExactArithmetic.whole_zero]

theorem beq_zero : (quantity x == whole 0) = (x == whole 0) := by
  rw [measured.zero, measured.beq, ExactArithmetic.whole_zero]

theorem greater : Arithmetic.greater (quantity x) (quantity y) = quantity (Arithmetic.greater x y) := by
  simp only [Arithmetic.greater, measured.le, measured.beq, ← apply_ite quantity]

theorem lesser : Arithmetic.lesser (quantity x) (quantity y) = quantity (Arithmetic.lesser x y) := by
  simp only [Arithmetic.lesser, measured.le, measured.beq, ← apply_ite quantity]

theorem greater_zero : Arithmetic.greater (quantity x) (whole 0) = quantity (Arithmetic.greater x (whole 0)) := by
  rw [measured.zero, measured.greater, ExactArithmetic.whole_zero]

theorem finite? : Arithmetic.finite? (quantity x) = (Arithmetic.finite? x).map quantity := by
  rw [ExactArithmetic.finite?_eq, Arithmetic.finite?, if_pos (measured.isFinite x), Option.map_some]

theorem finiteOrZero : Arithmetic.finiteOrZero (quantity x) = quantity (Arithmetic.finiteOrZero x) := by
  rw [ExactArithmetic.finiteOrZero_eq, Arithmetic.finiteOrZero, if_pos (measured.isFinite x)]

end Comparisons

section Sums

theorem foldl_add (start : K) (xs : List K) :
    (xs.map quantity).foldl (· + ·) (quantity start) = quantity (xs.foldl (· + ·) start) := by
  induction xs generalizing start with
  | nil => rfl
  | cons x rest ih => rw [List.map_cons, List.foldl_cons, List.foldl_cons, measured.add, ih]

theorem total (xs : List K) : Arithmetic.total (xs.map quantity) = quantity (Arithmetic.total xs) := by
  rw [Arithmetic.total, Arithmetic.total, measured.zero, measured.neg, measured.foldl_add,
    ExactArithmetic.whole_zero]

end Sums

end Quantity

namespace Rendering

variable {plain : K → β} (rendered : Rendering plain)
include rendered

section Intervals

variable (low high x : K)

theorem clamp : Arithmetic.clamp (plain low) (plain high) (plain x) = plain (Arithmetic.clamp low high x) := by
  simp only [Arithmetic.clamp, rendered.lt, ← apply_ite plain]

theorem finite? : Arithmetic.finite? (plain x) = (Arithmetic.finite? x).map plain :=
  rendered.quantity.finite? x

theorem finiteOrZero : Arithmetic.finiteOrZero (plain x) = plain (Arithmetic.finiteOrZero x) :=
  rendered.quantity.finiteOrZero x

end Intervals

section Statistics

variable [IsStrictOrderedRing K]

theorem meanFrom (count : Nat) (mean : K) (xs : List K) :
    Arithmetic.meanFrom count (plain mean) (xs.map plain) = plain (Arithmetic.meanFrom count mean xs) := by
  induction xs generalizing count mean with
  | nil => rfl
  | cons x rest ih =>
      rw [List.map_cons, Arithmetic.meanFrom, Arithmetic.meanFrom, rendered.sub, rendered.whole,
        rendered.div _ (ExactArithmetic.whole_ne_zero count.succ_pos), rendered.add, ih]

theorem mean (xs : List K) : Arithmetic.mean (xs.map plain) = plain (Arithmetic.mean xs) := by
  rw [Arithmetic.mean, rendered.whole, rendered.meanFrom, Arithmetic.mean]

/-- There are two values at least, so one less than their number is not zero. -/
theorem varianceFrom {count : Nat} (some : 0 < count) (sum spread : K) (xs : List K) (two : 1 < count + xs.length) :
    Arithmetic.varianceFrom count (plain sum) (plain spread) (xs.map plain) =
      plain (Arithmetic.varianceFrom count sum spread xs) := by
  have less : ∀ {n : Nat}, 1 < n → (Arithmetic.whole n - Arithmetic.whole 1 : K) ≠ 0 := by
    intro n large
    rw [ExactArithmetic.whole_eq_cast, ExactArithmetic.whole_eq_cast, Nat.cast_one, sub_ne_zero]
    exact Nat.cast_ne_one.2 large.ne'
  induction xs generalizing count sum spread with
  | nil =>
      rw [List.map_nil, Arithmetic.varianceFrom, Arithmetic.varianceFrom, rendered.whole, rendered.whole,
        rendered.sub, rendered.div _ (less (n := count) two)]
  | cons x rest ih =>
      have later : 1 < count + 1 := Nat.succ_lt_succ some
      have product := mul_ne_zero (ExactArithmetic.whole_ne_zero (K := K) count.succ_pos) (less later)
      simp only [List.map_cons, Arithmetic.varianceFrom, rendered.whole, rendered.add, rendered.mul, rendered.sub,
        rendered.div _ product]
      exact ih count.succ_pos _ _ (Nat.lt_add_right _ later)

theorem deviation? (xs : List K) : Arithmetic.deviation? (xs.map plain) = (Arithmetic.deviation? xs).map plain := by
  match xs with
  | [] | [_] => rfl
  | first :: second :: rest =>
      have two : 1 < 1 + (second :: rest).length := Nat.lt_add_of_pos_right (Nat.succ_pos _)
      have variance := rendered.varianceFrom Nat.one_pos first (Arithmetic.whole 0) (second :: rest) two
      rw [List.map_cons] at variance
      rw [List.map_cons, List.map_cons, Arithmetic.deviation?, Arithmetic.deviation?, Option.map_some,
        rendered.whole, variance, rendered.sqrt]

theorem average (xs : List K) : Arithmetic.average (xs.map plain) = plain (Arithmetic.average xs) := by
  cases xs with
  | nil => exact rendered.whole 0
  | cons x rest =>
      have sum := rendered.quantity.foldl_add (Arithmetic.whole 0) (x :: rest)
      have number := ExactArithmetic.whole_ne_zero (K := K) (n := (x :: rest).length) (Nat.succ_pos _)
      rw [← rendered.whole] at sum
      rw [Arithmetic.average, Arithmetic.average, List.isEmpty_map, sum, List.length_map, List.isEmpty_cons]
      exact (congrArg _ (rendered.whole _)).trans (rendered.div _ number)

omit [IsStrictOrderedRing K] in
theorem lowest (first : K) (rest : List K) :
    Arithmetic.lowest (plain first) (rest.map plain) = plain (Arithmetic.lowest first rest) := by
  rw [Arithmetic.lowest, Arithmetic.lowest]
  induction rest generalizing first with
  | nil => rfl
  | cons x rest ih =>
      simp only [List.map_cons, List.foldl_cons, rendered.lt, rendered.beq, ← apply_ite plain, ih]

omit [IsStrictOrderedRing K] in
theorem mergeSort (xs : List K) :
    (xs.map plain).mergeSort (fun a b => !Arithmetic.lt b a) =
      (xs.mergeSort fun a b => !Arithmetic.lt b a).map plain := by
  refine (List.map_mergeSort ?_).symm
  intro a _ b _
  rw [rendered.lt]

theorem fifthPercentile (first : K) (rest : List K) :
    Arithmetic.fifthPercentile (plain first) (rest.map plain) = plain (Arithmetic.fifthPercentile first rest) := by
  have third := rendered.div (Arithmetic.whole 1) (ExactArithmetic.whole_ne_zero (K := K) (n := 3) (by decide))
  have twentieth := rendered.div (Arithmetic.whole 5) (ExactArithmetic.whole_ne_zero (K := K) (n := 100) (by decide))
  simp only [Arithmetic.fifthPercentile, List.length_map, rendered.whole, third, twentieth, rendered.add, rendered.mul,
    rendered.floorNat, ← List.map_cons, rendered.mergeSort, ← List.map_drop]
  split
  case isTrue => exact rendered.lowest first rest
  case isFalse =>
    generalize List.drop _ _ = above
    match above with
    | [] | [_] => exact rendered.lowest first rest
    | below :: above :: _ => simp only [List.map_cons, rendered.sub, rendered.mul, rendered.add]

end Statistics

end Rendering

end PaperTrading
