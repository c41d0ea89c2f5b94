/-
Module: PaperTrading.Proofs.Study.Causality
Purpose: No reading of a study depends on a later value of its series.
Main exports: Causal, rollingMean_causal, exponentialAverage_causal, relativeStrength_causal,
  averageOfDefined_causal, convergence_causal, bands_causal
-/
import PaperTrading.Study.Bands
import PaperTrading.Study.Convergence
import PaperTrading.Study.RelativeStrength

namespace PaperTrading

/-- The readings on the first values of a series are the first readings on all of it. -/
def Causal {β γ : Type} (study : List β → List γ) : Prop :=
  ∀ values count, study (values.take count) = (study values).take count

namespace Causal

variable {β γ δ : Type}

theorem map (f : β → γ) : Causal (List.map f) := by
  intro values count
  exact List.map_take

theorem comp {second : List γ → List δ} {first : List β → List γ} (later : Causal second)
    (earlier : Causal first) : Causal fun values => second (first values) := by
  intro values count
  simp only [earlier values count, later _ count]

theorem zipWith {first : List β → List γ} {second : List β → List γ} (f : γ → γ → δ) (one : Causal first)
    (two : Causal second) : Causal fun values => List.zipWith f (first values) (second values) := by
  intro values count
  simp only [one values count, two values count, List.take_zipWith]

/-- A reading on the first values is one on all of them. -/
theorem getElem?_take {study : List β → List γ} (causal : Causal study) (values : List β) {index count : Nat}
    (early : index < count) : (study (values.take count))[index]? = (study values)[index]? := by
  rw [causal values count, List.getElem?_take_of_lt early]

end Causal

variable {α : Type} [Arithmetic α]

section RollingMean

/-- The values that leave the window are those in it, then those to come.  Cutting the series short cuts only the
latter. -/
theorem rollingMeanFrom_take (period seen : Nat) (sum : α) (inside values : List α) (count : Nat) :
    rollingMeanFrom period seen sum (inside ++ values.take count) (values.take count) =
      (rollingMeanFrom period seen sum (inside ++ values) values).take count := by
  induction values generalizing seen sum inside count with
  | nil => simp [rollingMeanFrom]
  | cons value rest ih =>
      cases count with
      | zero => simp [rollingMeanFrom]
      | succ count =>
          have nonempty : inside ++ [value] ≠ [] := by
            apply List.append_ne_nil_of_right_ne_nil
            exact List.cons_ne_nil value []
          obtain ⟨oldest, later, window⟩ := List.exists_cons_of_ne_nil nonempty
          have cut : inside ++ value :: rest.take count = oldest :: (later ++ rest.take count) := by
            rw [← List.cons_append, ← window, List.append_assoc, List.singleton_append]
          have whole : inside ++ value :: rest = oldest :: (later ++ rest) := by
            rw [← List.cons_append, ← window, List.append_assoc, List.singleton_append]
          simp only [List.take_succ_cons, rollingMeanFrom, cut, whole]
          by_cases full : (0 < period && period ≤ seen) = true
          · simp only [if_pos full, ih]
          · simp only [if_neg full, ← List.cons_append, ih]

theorem rollingMean_causal (period : Nat) : Causal (rollingMean (α := α) period) := by
  intro values count
  exact rollingMeanFrom_take period 0 (Arithmetic.whole 0) [] values count

end RollingMean

section ExponentialAverage

theorem exponentialFrom_take (period : Nat) (weight : α) (seen : Nat) (level : α) (values : List α) (count : Nat) :
    exponentialFrom period weight seen level (values.take count) =
      (exponentialFrom period weight seen level values).take count := by
  induction values generalizing seen level count with
  | nil => simp [exponentialFrom]
  | cons value rest ih =>
      cases count with
      | zero => simp [exponentialFrom]
      | succ count =>
          simp only [List.take_succ_cons, exponentialFrom]
          by_cases early : seen + 1 < period
          · simp only [if_pos early, List.take_succ_cons, ih]
          · simp only [if_neg early, List.take_succ_cons, ih]

theorem exponentialAverage_causal (period : Nat) : Causal (exponentialAverage (α := α) period) := by
  intro values count
  rw [exponentialAverage, exponentialAverage]
  by_cases none : period = 0
  · rw [if_pos none, if_pos none, List.map_take]
  · rw [if_neg none, if_neg none, exponentialFrom_take]

end ExponentialAverage

section RelativeStrength

theorem strengthFrom_take (period changes : Nat) (gain loss previous : α) (closes : List α) (count : Nat) :
    strengthFrom period changes gain loss previous (closes.take count) =
      (strengthFrom period changes gain loss previous closes).take count := by
  induction closes generalizing changes gain loss previous count with
  | nil => simp [strengthFrom]
  | cons close rest ih =>
      cases count with
      | zero => simp [strengthFrom]
      | succ count =>
          simp only [List.take_succ_cons, strengthFrom]
          by_cases early : changes + 1 < period
          · simp only [if_pos early, List.take_succ_cons, ih]
          · simp only [if_neg early, List.take_succ_cons, ih]

theorem relativeStrength_causal (period : Nat) : Causal (relativeStrength (α := α) period) := by
  intro closes count
  cases closes with
  | nil => simp [relativeStrength]
  | cons first rest =>
      cases count with
      | zero => simp [relativeStrength]
      | succ count =>
          simp only [List.take_succ_cons, relativeStrength]
          by_cases none : period = 0
          · simp only [if_pos none, List.map_cons, List.take_succ_cons, List.map_take]
          · simp only [if_neg none, List.take_succ_cons, strengthFrom_take]

end RelativeStrength

section Convergence

theorem exponentialAverage_nil (period : Nat) : exponentialAverage period ([] : List α) = [] := by
  rw [exponentialAverage]
  split <;> rfl

/-- Undefined values at the start of a series are passed on. -/
theorem averageOfDefined_none_cons (period : Nat) (line : List (Option α)) :
    averageOfDefined period (none :: line) = none :: averageOfDefined period line := by
  simp [averageOfDefined]

/-- From its first defined value on, the whole series is averaged. -/
theorem averageOfDefined_some_cons (period : Nat) (value : α) (line : List (Option α)) :
    averageOfDefined period (some value :: line) =
      exponentialAverage period (value :: line.map fun x => x.getD (Arithmetic.whole 0)) := by
  simp [averageOfDefined]

theorem averageOfDefined_causal (period : Nat) : Causal (averageOfDefined (α := α) period) := by
  intro line count
  induction line generalizing count with
  | nil => simp [averageOfDefined, exponentialAverage_nil]
  | cons entry rest ih =>
      cases count with
      | zero => simp [averageOfDefined, exponentialAverage_nil]
      | succ count =>
          cases entry with
          | none => simp only [List.take_succ_cons, averageOfDefined_none_cons, ih]
          | some value =>
              rw [List.take_succ_cons, averageOfDefined_some_cons, averageOfDefined_some_cons, List.map_take,
                ← List.take_succ_cons, exponentialAverage_causal]

theorem convergence_causal (fast slow signal : Nat) : Causal (convergence (α := α) fast slow signal) := by
  have line : Causal fun closes : List α =>
      List.zipWith averageGap (exponentialAverage fast closes) (exponentialAverage slow closes) :=
    (exponentialAverage_causal fast).zipWith averageGap (exponentialAverage_causal slow)
  exact line.zipWith _ ((averageOfDefined_causal signal).comp line)

end Convergence

section Bands

/-- A window that ends within the first values is a window of the whole series. -/
theorem window_take {β : Type} (values : List β) {first period count : Nat} (inside : first + period ≤ count) :
    ((values.take count).drop first).take period = (values.drop first).take period := by
  rw [List.drop_take, List.take_take, Nat.min_eq_left (Nat.le_sub_of_add_le' inside)]

theorem bands_causal (period hundredths : Nat) : Causal (bands (α := α) period hundredths) := by
  intro closes count
  rw [bands, bands, List.length_take, ← List.take_range, ← List.map_take]
  refine List.map_congr_left ?_
  intro index member
  have early : index < count := by
    rw [List.take_range, List.mem_range] at member
    exact Nat.lt_of_lt_of_le member (Nat.min_le_left count closes.length)
  by_cases full : (0 < period && period ≤ index + 1) = true
  · have within : index + 1 - period + period ≤ count := by
      simp only [Bool.and_eq_true, decide_eq_true_eq] at full
      omega
    rw [if_pos full, if_pos full, window_take closes within]
  · rw [if_neg full, if_neg full]

end Bands

end PaperTrading
