/-
Module: PaperTrading.Proofs.Study.WindowMean
Purpose: In exact arithmetic the running mean is the mean of its window, calculated from the window alone.
Main exports: windowMean, windowMeans, rollingMean_eq_windowMeans, middle_of_bands

The running sum is that of the last values seen.  A value that is added goes into the window; once the window is full,
the oldest value in it is taken off.
-/
import Mathlib.Data.List.DropRight
import PaperTrading.Proofs.Arithmetic.Scaling
import PaperTrading.Proofs.Study.WarmUp

namespace PaperTrading

open Arithmetic (whole)

section Windows

variable {β : Type}

/-- Until a window is full, all values are in it. -/
theorem rtake_of_length_le {past : List β} {count : Nat} (short : past.length ≤ count) : past.rtake count = past := by
  rw [List.rtake, Nat.sub_eq_zero_of_le short, List.drop_zero]

/-- A full window begins with a value that the next smaller one does not have. -/
theorem exists_rtake_succ_eq_cons {past : List β} {count : Nat} (full : count < past.length) :
    ∃ oldest, past.rtake (count + 1) = oldest :: past.rtake count := by
  have first : past.length - (count + 1) < past.length := by
    omega
  have next : past.length - (count + 1) + 1 = past.length - count := by
    omega
  refine ⟨past[past.length - (count + 1)], ?_⟩
  rw [List.rtake, List.rtake, List.drop_eq_getElem_cons first, next]

/-- A window that ends at an index, cut out of the series or taken from the end of what was seen. -/
theorem take_drop_eq_rtake_take {values : List β} {index period : Nat} (inside : index < values.length)
    (full : period ≤ index + 1) :
    (values.drop (index + 1 - period)).take period = (values.take (index + 1)).rtake period := by
  have seen : (values.take (index + 1)).length = index + 1 := by
    rw [List.length_take, Nat.min_eq_left inside]
  have count : index + 1 - (index + 1 - period) = period := by
    omega
  rw [List.rtake, seen, List.drop_take, count]

end Windows

section Steps

variable {α : Type} [Arithmetic α]

/-- Before the window is full nothing leaves the sum. -/
theorem rollingMeanFrom_of_short {period seen : Nat} (short : seen < period) (sum : α) (leaving : List α) (value : α)
    (rest : List α) :
    rollingMeanFrom period seen sum leaving (value :: rest) =
      (if period = seen + 1 then some ((sum + value) / whole period) else none) ::
        rollingMeanFrom period (seen + 1) (sum + value) leaving rest := by
  have stays : ¬ (0 < period && period ≤ seen : Bool) = true := by
    simpa using fun _ => short
  have reading : (0 < period && period ≤ seen + 1 : Bool) = true ↔ period = seen + 1 := by
    simp only [Bool.and_eq_true, decide_eq_true_eq]
    omega
  cases leaving with
  | nil => simp only [rollingMeanFrom, reading]
  | cons oldest later => simp only [rollingMeanFrom, if_neg stays, reading]

/-- In a full window the oldest value makes room for the new one. -/
theorem rollingMeanFrom_of_full {period seen : Nat} (positive : 0 < period) (full : period ≤ seen) (sum oldest : α)
    (later : List α) (value : α) (rest : List α) :
    rollingMeanFrom period seen sum (oldest :: later) (value :: rest) =
      some ((sum + value - oldest) / whole period) ::
        rollingMeanFrom period (seen + 1) (sum + value - oldest) later rest := by
  have leaves : (0 < period && period ≤ seen : Bool) = true := by
    simp [positive, full]
  have reading : (0 < period && period ≤ seen + 1 : Bool) = true := by
    simp [positive, Nat.le_succ_of_le full]
  simp only [rollingMeanFrom, if_pos leaves, if_pos reading]

/-- Without a period there are no readings. -/
theorem rollingMeanFrom_zero (seen : Nat) (sum : α) (leaving values : List α) :
    rollingMeanFrom 0 seen sum leaving values = values.map fun _ => none := by
  induction values generalizing seen sum leaving with
  | nil => rfl
  | cons value rest ih =>
      -- The comparison with the period fails at once, so the entry is missing whatever the sum is.
      exact congrArg (List.cons none) (ih (seen + 1) _ _)

end Steps

variable {K : Type} [LinearOrder K] [ExactArithmetic K]

/-- The mean of the last values up to an index. -/
def windowMean (period : Nat) (values : List K) (index : Nat) : K :=
  ((values.take (index + 1)).rtake period).sum / period

/-- The means of all full windows, each calculated from its own values. -/
def windowMeans (period : Nat) (values : List K) : List (Option K) :=
  (List.range values.length).map fun index =>
    if 0 < period ∧ period ≤ index + 1 then some (windowMean period values index) else none

section RunningSum

/-- The mean at the end of what was seen is that of the last values of it. -/
theorem windowMean_at_end (period : Nat) (past : List K) (value : K) (rest : List K) :
    windowMean period (past ++ value :: rest) past.length = ((past ++ [value]).rtake period).sum / period := by
  rw [windowMean, List.take_length_add_append, List.take_succ_cons, List.take_zero]

/-- With one value more, the running sum is again that of the last values, and the next value to leave is again the
oldest of them. -/
theorem rollingMeanFrom_step (count : Nat) (past : List K) (value : K) (rest : List K) :
    rollingMeanFrom (count + 1) past.length (past.rtake (count + 1)).sum (past.rtake (count + 1) ++ value :: rest)
        (value :: rest) =
      (if count ≤ past.length then some (((past ++ [value]).rtake (count + 1)).sum / whole (count + 1)) else none) ::
        rollingMeanFrom (count + 1) (past.length + 1) ((past ++ [value]).rtake (count + 1)).sum
          ((past ++ [value]).rtake (count + 1) ++ rest) rest := by
  have window : (past ++ [value]).rtake (count + 1) = past.rtake count ++ [value] := List.rtake_concat_succ ..
  by_cases full : count < past.length
  · obtain ⟨oldest, first⟩ := exists_rtake_succ_eq_cons full
    have sum : oldest + (past.rtake count).sum + value - oldest = (past.rtake count ++ [value]).sum := by
      rw [List.sum_append, List.sum_singleton]
      ring
    rw [window, first, List.sum_cons, List.cons_append, rollingMeanFrom_of_full count.succ_pos full, sum,
      if_pos full.le, List.append_assoc, List.singleton_append]
  · have short : past.length ≤ count := Nat.le_of_not_lt full
    have same : count + 1 = past.length + 1 ↔ count ≤ past.length := by
      omega
    rw [window, rtake_of_length_le short, rtake_of_length_le (Nat.le_succ_of_le short),
      rollingMeanFrom_of_short (Nat.lt_succ_of_le short), List.append_assoc, List.singleton_append,
      List.sum_append, List.sum_singleton]
    simp only [same]

/-- From any point of a series on, the readings are the means of the windows of the whole series. -/
theorem rollingMeanFrom_windows (count : Nat) (past values : List K) :
    rollingMeanFrom (count + 1) past.length (past.rtake (count + 1)).sum (past.rtake (count + 1) ++ values) values =
      (List.range' past.length values.length).map fun index =>
        if count ≤ index then some (windowMean (count + 1) (past ++ values) index) else none := by
  induction values generalizing past with
  | nil => rfl
  | cons value rest ih =>
      have later := ih (past ++ [value])
      rw [List.append_assoc, List.singleton_append, List.length_append, List.length_singleton] at later
      rw [rollingMeanFrom_step, later, List.length_cons, List.range'_succ, List.map_cons, windowMean_at_end,
        ExactArithmetic.whole_eq_cast]

/-- A running mean is the mean of its window, from the first full window on. -/
theorem rollingMean_eq_windowMeans (period : Nat) (values : List K) :
    rollingMean period values = windowMeans period values := by
  rw [rollingMean, windowMeans, ExactArithmetic.whole_zero]
  cases period with
  | zero => simp [rollingMeanFrom_zero]
  | succ count =>
      have readings := rollingMeanFrom_windows count [] values
      simp only [List.rtake_nil, List.sum_nil, List.nil_append, List.length_nil] at readings
      simp only [readings, List.range_eq_range', Nat.succ_pos, true_and, Nat.add_le_add_iff_right]

end RunningSum

section Bands

/-- The middle of the bands is the mean of the window, calculated from the window. -/
theorem middle_of_bands (period hundredths : Nat) (closes : List K) :
    (bands period hundredths closes).map (Option.map (·.middle)) = windowMeans period closes := by
  rw [bands, windowMeans, List.map_map]
  refine List.map_congr_left fun index member => ?_
  have inside := List.mem_range.1 member
  rw [Function.comp_apply]
  by_cases full : 0 < period ∧ period ≤ index + 1
  · have same : (0 < period && period ≤ index + 1 : Bool) = true := by
      simpa using full
    rw [if_pos same, if_pos full, Option.map_some, windowBands, windowMean, take_drop_eq_rtake_take inside full.2,
      ExactArithmetic.total_eq_sum, ExactArithmetic.whole_eq_cast]
  · have other : ¬ (0 < period && period ≤ index + 1 : Bool) = true := by
      simpa using full
    rw [if_neg other, if_neg full, Option.map_none]

end Bands

end PaperTrading
