/-
Module: PaperTrading.Proofs.Study.WeightedAverage
Purpose: In exact arithmetic the exponential average is a weighted average of all values seen.
Main exports: newestWeight, weightedAverage, weightedAverage_succ, exponentialAverage_eq_weighted,
  weightedAverage_mem_Icc, exponentialAverage_of_history

The first values count alike, with the weight that is left to their mean; every later value starts with the same weight
and loses the same part of it with each value that follows.
-/
import Mathlib.Algebra.BigOperators.Intervals
import Mathlib.Algebra.Order.BigOperators.Group.List
import Mathlib.Analysis.Convex.Basic
import Mathlib.Data.Finset.Max
import PaperTrading.Proofs.Arithmetic.Scaling
import PaperTrading.Proofs.Study.WarmUp

namespace PaperTrading

open Arithmetic (whole)

variable {K : Type} [LinearOrder K] [ExactArithmetic K]

/-- The weight of a value when it is the newest. -/
def newestWeight (K : Type) [LinearOrder K] [ExactArithmetic K] (period : Nat) : K :=
  2 / (period + 1)

/-- The weighted average of the values up to an index.  Those after the first `period` values have weights that
fall off geometrically, and the mean of the first ones has what is left. -/
def weightedAverage (period : Nat) (values : List K) (index : Nat) : K :=
  (1 - newestWeight K period) ^ (index + 1 - period) * ((values.take period).sum / period) +
    ∑ j ∈ Finset.Icc period index,
      newestWeight K period * (1 - newestWeight K period) ^ (index - j) * values.getD j 0

section Recursion

variable {period index : Nat}

/-- It starts as the plain mean. -/
theorem weightedAverage_first (first : index + 1 = period) (values : List K) :
    weightedAverage period values index = (values.take period).sum / period := by
  have none : Finset.Icc period index = ∅ := Finset.Icc_eq_empty (by omega)
  rw [weightedAverage, none, Finset.sum_empty, first, Nat.sub_self, pow_zero, one_mul, add_zero]

/-- Each further value takes its weight from all before it alike. -/
theorem weightedAverage_succ (full : period ≤ index + 1) (values : List K) :
    weightedAverage period values (index + 1) =
      values.getD (index + 1) 0 * newestWeight K period +
        weightedAverage period values index * (1 - newestWeight K period) := by
  have faded : ∑ j ∈ Finset.Icc period index,
        newestWeight K period * (1 - newestWeight K period) ^ (index + 1 - j) * values.getD j 0 =
      (∑ j ∈ Finset.Icc period index,
        newestWeight K period * (1 - newestWeight K period) ^ (index - j) * values.getD j 0) *
          (1 - newestWeight K period) := by
    rw [Finset.sum_mul]
    refine Finset.sum_congr rfl fun j member => ?_
    rw [Nat.succ_sub (Finset.mem_Icc.1 member).2, pow_succ]
    ring
  rw [weightedAverage, weightedAverage, Finset.sum_Icc_succ_top full, faded, Nat.sub_self, pow_zero,
    Nat.succ_sub full, pow_succ]
  ring

/-- What the pass keeps after some values: their sum at first, and the weighted average from then on. -/
def levelAfter (period : Nat) (values : List K) (seen : Nat) : K :=
  if seen < period then (values.take seen).sum else weightedAverage period values (seen - 1)

theorem levelAfter_of_short {seen : Nat} (short : seen < period) (values : List K) :
    levelAfter period values seen = (values.take seen).sum :=
  if_pos short

theorem levelAfter_of_full (full : period ≤ index + 1) (values : List K) :
    levelAfter period values (index + 1) = weightedAverage period values index :=
  if_neg full.not_gt

/-- What the pass does with one value more. -/
theorem levelAfter_succ (positive : 0 < period) {seen : Nat} {value : K} {values : List K}
    (newest : values[seen]? = some value) :
    levelAfter period values (seen + 1) =
      if seen + 1 < period then levelAfter period values seen + value
      else if seen + 1 = period then (levelAfter period values seen + value) / whole period
      else value * newestWeight K period + levelAfter period values seen * (whole 1 - newestWeight K period) := by
  have sum : (values.take (seen + 1)).sum = (values.take seen).sum + value := by
    rw [List.take_add_one, newest, Option.toList_some, List.sum_append, List.sum_singleton]
  obtain early | first | full : seen + 1 < period ∨ seen + 1 = period ∨ period < seen + 1 := by
    omega
  · rw [if_pos early, levelAfter_of_short early, levelAfter_of_short (Nat.lt_of_succ_lt early), sum]
  · rw [if_neg first.not_lt, if_pos first, levelAfter_of_full first.ge, weightedAverage_first first,
      levelAfter_of_short (Nat.lt_of_succ_le first.le), ← first, sum, ExactArithmetic.whole_eq_cast]
  · obtain ⟨index, rfl⟩ := Nat.exists_eq_add_of_lt (Nat.lt_of_lt_of_le positive (Nat.le_of_lt_succ full))
    rw [Nat.zero_add] at newest full ⊢
    have value_eq : values.getD (index + 1) 0 = value := by
      rw [List.getD_eq_getElem?_getD, newest, Option.getD_some]
    rw [if_neg full.not_gt, if_neg full.ne', levelAfter_of_full full.le, levelAfter_of_full (Nat.le_of_lt_succ full),
      weightedAverage_succ (Nat.le_of_lt_succ full), value_eq, ExactArithmetic.whole_eq_cast, Nat.cast_one]

/-- From any point of a series on, the readings are the weighted averages of the whole series up to them. -/
theorem exponentialFrom_weighted (positive : 0 < period) (past values : List K) :
    exponentialFrom period (newestWeight K period) past.length (levelAfter period (past ++ values) past.length)
        values =
      (List.range' past.length values.length).map fun index =>
        if period ≤ index + 1 then some (weightedAverage period (past ++ values) index) else none := by
  induction values generalizing past with
  | nil => rfl
  | cons value rest ih =>
      have later := ih (past ++ [value])
      rw [List.append_assoc, List.singleton_append, List.length_append, List.length_singleton] at later
      have newest : (past ++ value :: rest)[past.length]? = some value := by
        simp
      have step := levelAfter_succ positive newest
      rw [exponentialFrom, List.length_cons, List.range'_succ, List.map_cons, ← later]
      split
      case isTrue early =>
        rw [if_pos early] at step
        rw [if_neg (Nat.not_le_of_lt early), step]
      case isFalse full =>
        rw [if_neg full] at step
        rw [if_pos (Nat.le_of_not_lt full), ← step, levelAfter_of_full (Nat.le_of_not_lt full)]

/-- The exponential average is the weighted average, from the first full window on. -/
theorem exponentialAverage_eq_weighted (positive : 0 < period) (values : List K) :
    exponentialAverage period values =
      (List.range values.length).map fun index =>
        if period ≤ index + 1 then some (weightedAverage period values index) else none := by
  have weight : (whole 2 / (whole period + whole 1) : K) = newestWeight K period := by
    simp only [ExactArithmetic.whole_eq_cast, newestWeight, Nat.cast_ofNat, Nat.cast_one]
  have start : levelAfter period values 0 = 0 := by
    rw [levelAfter_of_short positive, List.take_zero, List.sum_nil]
  have readings := exponentialFrom_weighted positive [] values
  rw [List.nil_append, List.length_nil, start] at readings
  rw [exponentialAverage, if_neg positive.ne', weight, ExactArithmetic.whole_zero, readings, List.range_eq_range']

end Recursion

section Bounds

variable [IsStrictOrderedRing K] {period index : Nat} {low high : K}

/-- A weight is a proper share. -/
theorem newestWeight_mem_Icc (positive : 0 < period) : newestWeight K period ∈ Set.Icc 0 1 := by
  have count : (1 : K) ≤ period := Nat.one_le_cast.2 positive
  have divisor : (0 : K) < period + 1 := by
    linarith only [count]
  constructor
  · exact div_nonneg zero_le_two divisor.le
  · rw [newestWeight, div_le_one divisor]
    linarith only [count]

/-- The mean of values between two bounds is between them. -/
theorem mean_mem_Icc {values : List K} (some : values ≠ []) (bounded : ∀ value ∈ values, value ∈ Set.Icc low high) :
    values.sum / values.length ∈ Set.Icc low high := by
  have count : (0 : K) < values.length := Nat.cast_pos.2 (List.length_pos_of_ne_nil some)
  have above := List.card_nsmul_le_sum values low fun value member => (bounded value member).1
  have below := List.sum_le_card_nsmul values high fun value member => (bounded value member).2
  rw [nsmul_eq_mul] at above below
  exact ⟨(le_div_iff₀' count).2 above, (div_le_iff₀' count).2 below⟩

/-- A weighted average is between any bounds of the values seen. -/
theorem weightedAverage_mem_Icc (positive : 0 < period) (full : period ≤ index + 1) {values : List K}
    (inside : index < values.length) (bounded : ∀ value ∈ values.take (index + 1), value ∈ Set.Icc low high) :
    weightedAverage period values index ∈ Set.Icc low high := by
  obtain ⟨first, rfl⟩ := Nat.exists_eq_succ_of_ne_zero positive.ne'
  -- From the mean of the first values on, every step takes a share of a new value and the rest of what there was.
  induction index, Nat.le_of_succ_le_succ full using Nat.le_induction with
  | base =>
      have length : (values.take (first + 1)).length = first + 1 := by
        rw [List.length_take, Nat.min_eq_left inside]
      have some : values.take (first + 1) ≠ [] := List.ne_nil_of_length_pos (length.symm ▸ first.succ_pos)
      have mean := mean_mem_Icc some bounded
      rw [length] at mean
      rwa [weightedAverage_first rfl]
  | succ index reached ih =>
      have known : values[index + 1]? = some values[index + 1] := List.getElem?_eq_getElem inside
      have seen : values.take (index + 2) = values.take (index + 1) ++ [values[index + 1]] := by
        rw [List.take_add_one, known, Option.toList_some]
      rw [seen, List.forall_mem_append, List.forall_mem_singleton] at bounded
      have older := ih (Nat.lt_of_succ_lt inside) bounded.1 (Nat.succ_le_succ reached)
      have newest : values.getD (index + 1) 0 ∈ Set.Icc low high := by
        rw [List.getD_eq_getElem?_getD, known]
        exact bounded.2
      have share := newestWeight_mem_Icc (K := K) positive
      rw [weightedAverage_succ (Nat.succ_le_succ reached), mul_comm, mul_comm (weightedAverage _ _ _)]
      exact convex_Icc low high newest older share.1 (sub_nonneg.2 share.2) (add_sub_cancel _ _)

end Bounds

section History

variable [IsStrictOrderedRing K]

/-- A reading is missing only without a period or before the first window is full.  Every other one is the weighted
average of all values up to its own: after the mean of the first `period` values, a value has the weight
`2 / (period + 1)` at first and loses that part of its weight with every value that follows.  So no reading is below the
least of the values seen, or above the greatest. -/
theorem exponentialAverage_of_history (period : Nat) (values : List K) {index : Nat} (inside : index < values.length) :
    let k : K := 2 / (period + 1)
    ((exponentialAverage period values)[index]? = some none ↔ period = 0 ∨ index + 1 < period) ∧
      (1 ≤ period → period ≤ index + 1 →
        ∃ average, (exponentialAverage period values)[index]? = some (some average) ∧
          average = (1 - k) ^ (index + 1 - period) * ((values.take period).sum / period) +
            ∑ j ∈ Finset.Icc period index, k * (1 - k) ^ (index - j) * values.getD j 0 ∧
          ∃ least greatest, IsLeast {value | value ∈ values.take (index + 1)} least ∧
            IsGreatest {value | value ∈ values.take (index + 1)} greatest ∧ least ≤ average ∧ average ≤ greatest) := by
  intro k
  constructor
  · rw [getElem?_eq_some_none_iff (by rwa [length_exponentialAverage]), exponentialAverage_definedAt]
    omega
  · intro positive full
    have reading : (exponentialAverage period values)[index]? = some (some (weightedAverage period values index)) := by
      rw [exponentialAverage_eq_weighted positive, List.getElem?_map, List.getElem?_range inside, Option.map_some,
        if_pos full]
    refine ⟨weightedAverage period values index, reading, rfl, ?_⟩
    have some : (values.take (index + 1)).toFinset.Nonempty := by
      rw [List.toFinset_nonempty_iff]
      exact List.ne_nil_of_length_pos (by rw [List.length_take]; omega)
    have least := Finset.isLeast_min' _ some
    have greatest := Finset.isGreatest_max' _ some
    rw [List.coe_toFinset] at least greatest
    have within := weightedAverage_mem_Icc positive full inside fun value member =>
      ⟨least.2 member, greatest.2 member⟩
    exact ⟨_, _, least, greatest, within.1, within.2⟩

/-- A series of four values, from which the average over two is two readings past its start. -/
theorem exponentialAverage_of_four_values :
    let values : List ℚ := [1, 4, 7, 1]
    (exponentialAverage 2 values)[0]? = some none ∧
      (exponentialAverage 2 values)[3]? = some (some (5 / 2)) ∧
      ∃ least greatest, IsLeast {value | value ∈ values.take 4} least ∧
        IsGreatest {value | value ∈ values.take 4} greatest ∧ least ≤ 5 / 2 ∧ 5 / 2 ≤ greatest := by
  intro values
  obtain ⟨missing, -⟩ := exponentialAverage_of_history 2 values (by decide : 0 < values.length)
  obtain ⟨-, defined⟩ := exponentialAverage_of_history 2 values (by decide : 3 < values.length)
  obtain ⟨average, reading, weighted, within⟩ := defined (by decide) (by decide)
  have value : average = 5 / 2 := by
    rw [weighted]
    norm_num [Finset.sum_Icc_succ_top, values]
  rw [value] at reading within
  exact ⟨missing.2 (.inr (by decide)), reading, within⟩

end History

end PaperTrading
