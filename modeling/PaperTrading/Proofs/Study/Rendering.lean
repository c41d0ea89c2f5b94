/-
Module: PaperTrading.Proofs.Study.Rendering
Purpose: The readings of the studies, for series in another arithmetic or in another unit.
Main exports: rollingMean_rendered, exponentialAverage_rendered, convergence_rendered, bands_rendered,
  divisors_of_mem_relativeStrength, relativeStrength_rendered

Averages, their convergence and the bands are in the unit of the series, the strength index is plain.  The studies
divide by their periods, by the average loss where there is one, and by what exceeds one.
-/
import Mathlib.Algebra.Order.BigOperators.Group.List
import PaperTrading.Proofs.Arithmetic.Rendering
import PaperTrading.Proofs.Study.Causality

namespace PaperTrading

open Arithmetic (whole)

variable {K : Type} [LinearOrder K] [ExactArithmetic K] [IsStrictOrderedRing K] {β : Type} [Arithmetic β]
  {plain quantity : K → β} (rendered : Rendering plain) (measured : Quantity plain quantity)

section Averages

variable (period : Nat)
include rendered measured

theorem Quantity.part {count : Nat} (positive : 0 < count) (x : K) :
    quantity x / whole count = quantity (x / whole count) := by
  rw [rendered.whole, measured.div x (ExactArithmetic.whole_ne_zero positive)]

theorem rollingMeanFrom_rendered (seen : Nat) (sum : K) (leaving values : List K) :
    rollingMeanFrom period seen (quantity sum) (leaving.map quantity) (values.map quantity) =
      (rollingMeanFrom period seen sum leaving values).map (Option.map quantity) := by
  induction values generalizing seen sum leaving with
  | nil => rfl
  | cons value rest ih =>
      have reading : ∀ sum : K,
          (if (0 < period && period ≤ seen + 1) = true then some (quantity sum / whole period) else none) =
            (if (0 < period && period ≤ seen + 1) = true then some (sum / whole period) else none).map quantity := by
        intro sum
        split
        case isTrue full =>
          have positive : 0 < period := of_decide_eq_true (Bool.and_eq_true_iff.1 full).1
          rw [Quantity.part rendered measured positive, Option.map_some]
        case isFalse => rfl
      cases leaving with
      | nil =>
          have later := ih (seen + 1) (sum + value) []
          simp only [List.map_nil] at later
          simp only [List.map_cons, List.map_nil, rollingMeanFrom, measured.add, reading, later]
      | cons oldest later =>
          -- The oldest value leaves the sum once the window is full.
          by_cases full : (0 < period && period ≤ seen) = true
          · have rest := ih (seen + 1) (sum + value - oldest) later
            simp only [List.map_cons, rollingMeanFrom, if_pos full, measured.add, measured.sub, reading, rest]
          · have rest := ih (seen + 1) (sum + value) (oldest :: later)
            simp only [List.map_cons] at rest
            simp only [List.map_cons, rollingMeanFrom, if_neg full, measured.add, reading, rest]

theorem rollingMean_rendered (values : List K) :
    rollingMean period (values.map quantity) = (rollingMean period values).map (Option.map quantity) := by
  rw [rollingMean, measured.zero, rollingMeanFrom_rendered rendered measured, rollingMean,
    ExactArithmetic.whole_zero]

theorem exponentialFrom_rendered (weight : K) (seen : Nat) (level : K) (values : List K) :
    exponentialFrom period (plain weight) seen (quantity level) (values.map quantity) =
      (exponentialFrom period weight seen level values).map (Option.map quantity) := by
  induction values generalizing seen level with
  | nil => rfl
  | cons value rest ih =>
      by_cases early : seen + 1 < period
      · simp only [List.map_cons, exponentialFrom, if_pos early, measured.add, ih, Option.map_none]
      · have average : (if seen + 1 = period then (quantity level + quantity value) / whole period
              else quantity value * plain weight + quantity level * (whole 1 - plain weight)) =
            quantity (if seen + 1 = period then (level + value) / whole period
              else value * weight + level * (whole 1 - weight)) := by
          split
          case isTrue full =>
            rw [measured.add, Quantity.part rendered measured (full ▸ seen.succ_pos)]
          case isFalse => rw [rendered.whole, rendered.sub, measured.mul, measured.mul, measured.add]
        simp only [List.map_cons, exponentialFrom, if_neg early, average, ih, Option.map_some]

theorem exponentialAverage_rendered (values : List K) :
    exponentialAverage period (values.map quantity) =
      (exponentialAverage period values).map (Option.map quantity) := by
  have positive : (whole period + whole 1 : K) ≠ 0 := by
    rw [ExactArithmetic.whole_eq_cast, ExactArithmetic.whole_eq_cast, ← Nat.cast_add]
    exact Nat.cast_ne_zero.2 period.succ_ne_zero
  rw [exponentialAverage, exponentialAverage]
  split
  case isTrue =>
    rw [List.map_map, List.map_map]
    rfl
  case isFalse =>
    rw [rendered.whole 2, rendered.whole period, rendered.whole 1, rendered.add, rendered.div _ positive,
      measured.zero, exponentialFrom_rendered rendered measured, ExactArithmetic.whole_zero]

end Averages

section Convergence

/-- A reading of the convergence with its numbers written in another way. -/
def Convergence.map {α γ : Type} (f : α → γ) (reading : Convergence α) : Convergence γ :=
  ⟨f reading.line, f reading.signal, f reading.histogram⟩

/-- Where both are defined, a gap and an average make a reading. -/
def Convergence.ofGap? {α : Type} [Arithmetic α] (gap average : Option α) : Option (Convergence α) :=
  gap.bind fun l => average.map fun s => ⟨l, s, l - s⟩

/-- The readings from a line of gaps. -/
def convergenceOf {α : Type} [Arithmetic α] (signal : Nat) (line : List (Option α)) : List (Option (Convergence α)) :=
  List.zipWith Convergence.ofGap? line (averageOfDefined signal line)

section Gaps

omit [IsStrictOrderedRing K]
include measured

theorem averageGap_rendered (fast slow : Option K) :
    averageGap (fast.map quantity) (slow.map quantity) = (averageGap fast slow).map quantity := by
  cases fast with
  | none => rfl
  | some f =>
      cases slow with
      | none => rfl
      | some s => exact congrArg some (measured.sub f s)

theorem Convergence.ofGap?_rendered (gap average : Option K) :
    ofGap? (gap.map quantity) (average.map quantity) = (ofGap? gap average).map (map quantity) := by
  cases gap with
  | none => rfl
  | some l =>
      cases average with
      | none => rfl
      | some s => simp [ofGap?, map, measured.sub]

end Gaps

include rendered measured

theorem averageOfDefined_rendered (period : Nat) (line : List (Option K)) :
    averageOfDefined period (line.map (Option.map quantity)) =
      (averageOfDefined period line).map (Option.map quantity) := by
  induction line with
  | nil => simp [averageOfDefined, exponentialAverage_nil]
  | cons entry rest ih =>
      cases entry with
      | none => simp only [List.map_cons, Option.map_none, averageOfDefined_none_cons, ih]
      | some value =>
          have defaults : (rest.map (Option.map quantity)).map (fun x => x.getD (whole 0)) =
              (rest.map fun x => x.getD (whole 0)).map quantity := by
            rw [List.map_map, List.map_map]
            refine List.map_congr_left fun x _ => ?_
            cases x with
            | none => simp [measured.zero]
            | some x => rfl
          rw [List.map_cons, Option.map_some, averageOfDefined_some_cons, averageOfDefined_some_cons, defaults,
            ← List.map_cons, exponentialAverage_rendered rendered measured]

theorem convergence_rendered (fast slow signal : Nat) (closes : List K) :
    convergence fast slow signal (closes.map quantity) =
      (convergence fast slow signal closes).map (Option.map (Convergence.map quantity)) := by
  have line : List.zipWith averageGap (exponentialAverage fast (closes.map quantity))
        (exponentialAverage slow (closes.map quantity)) =
      (List.zipWith averageGap (exponentialAverage fast closes) (exponentialAverage slow closes)).map
        (Option.map quantity) := by
    simp only [exponentialAverage_rendered rendered measured, List.zipWith_map, averageGap_rendered measured,
      List.map_zipWith]
  have readings : ∀ line : List (Option K), convergenceOf signal (line.map (Option.map quantity)) =
      (convergenceOf signal line).map (Option.map (Convergence.map quantity)) := by
    intro line
    rw [convergenceOf, convergenceOf, averageOfDefined_rendered rendered measured, List.zipWith_map,
      List.map_zipWith]
    simp only [Convergence.ofGap?_rendered measured]
  exact (congrArg (convergenceOf signal) line).trans (readings _)

end Convergence

section Bands

/-- A reading of the bands with its numbers written in another way. -/
def Bands.map {α γ : Type} (f : α → γ) (reading : Bands α) : Bands γ :=
  ⟨f reading.upper, f reading.middle, f reading.lower⟩

/-- A quantity together with its squares, out of which roots lead back to it. -/
structure Squares (plain quantity square : K → β) : Prop where
  squares : Quantity plain square
  mul : ∀ x y, quantity x * quantity y = square (x * y)
  sqrt : ∀ x, 0 ≤ x → Arithmetic.sqrt (square x) = quantity (Arithmetic.sqrt x)

omit [IsStrictOrderedRing K] in
/-- The squares of plain numbers are plain. -/
theorem Rendering.squares (rendered : Rendering plain) : Squares plain plain plain where
  squares := rendered.quantity
  mul := rendered.mul
  sqrt x _ := rendered.sqrt x

theorem variance_nonneg (period : Nat) (middle : K) (window : List K) :
    0 ≤ Arithmetic.total (window.map fun close => (close - middle) * (close - middle)) / whole period := by
  rw [ExactArithmetic.total_eq_sum, ExactArithmetic.whole_eq_cast]
  refine div_nonneg (List.sum_nonneg ?_) (Nat.cast_nonneg period)
  intro square member
  obtain ⟨close, -, rfl⟩ := List.mem_map.1 member
  exact mul_self_nonneg _

variable {square : K → β} (squared : Squares plain quantity square) (period hundredths : Nat)
include rendered measured squared

theorem windowBands_rendered (positive : 0 < period) (window : List K) :
    windowBands period hundredths (window.map quantity) = (windowBands period hundredths window).map quantity := by
  have variance : ∀ middle : K,
      Arithmetic.total ((window.map quantity).map fun close =>
          (close - quantity middle) * (close - quantity middle)) / whole period =
        square (Arithmetic.total (window.map fun close => (close - middle) * (close - middle)) / whole period) := by
    intro middle
    rw [← Quantity.part rendered squared.squares positive, ← squared.squares.total, List.map_map, List.map_map]
    refine congrArg (Arithmetic.total · / _) (List.map_congr_left fun close _ => ?_)
    simp only [Function.comp_apply, measured.sub, squared.mul]
  have share := rendered.div (whole hundredths) (ExactArithmetic.whole_ne_zero (K := K) (n := 100) (by decide))
  simp only [windowBands, Bands.map, measured.total, Quantity.part rendered measured positive, variance,
    squared.sqrt _ (variance_nonneg period _ window), rendered.whole hundredths, rendered.whole 100, share,
    measured.smul, measured.add, measured.sub]

theorem bands_rendered (closes : List K) :
    bands period hundredths (closes.map quantity) =
      (bands period hundredths closes).map (Option.map (Bands.map quantity)) := by
  rw [bands, bands, List.length_map, List.map_map]
  refine List.map_congr_left fun index _ => ?_
  rw [← List.map_drop, ← List.map_take, Function.comp_apply]
  split
  case isTrue full =>
    have positive : 0 < period := of_decide_eq_true (Bool.and_eq_true_iff.1 full).1
    rw [windowBands_rendered rendered measured squared period hundredths positive, Option.map_some]
  case isFalse => rfl

end Bands

section RelativeStrength

/-- What is added to one is not negative, so the sum is not zero. -/
theorem one_add_strength_pos {gain loss : K} (rises : 0 ≤ gain) (falls : 0 ≤ loss) :
    0 < (whole 1 + gain / loss : K) := by
  rw [ExactArithmetic.whole_eq_cast, Nat.cast_one]
  exact add_pos_of_pos_of_nonneg one_pos (div_nonneg rises falls)

omit [IsStrictOrderedRing K] in
/-- The part of a change that goes in one direction. -/
theorem part_of_change_nonneg (change : K) : 0 ≤ Arithmetic.greater change (whole 0) := by
  rw [ExactArithmetic.greater_eq_max, ExactArithmetic.whole_zero]
  exact le_max_right change 0

/-- The averages of gains and of losses never become negative. -/
theorem average_of_changes_nonneg (period number : Nat) {level change : K} (sign : 0 ≤ level) (grows : 0 ≤ change) :
    0 ≤ (if number = period then (level + change) / whole period
      else (level * whole (period - 1) + change) / whole period : K) := by
  have count : ∀ n : Nat, (0 : K) ≤ whole n := by
    intro n
    rw [ExactArithmetic.whole_eq_cast]
    exact Nat.cast_nonneg n
  split
  · exact div_nonneg (add_nonneg sign grows) (count period)
  · exact div_nonneg (add_nonneg (mul_nonneg sign (count _)) grows) (count period)

/-- Every reading is the index of two averages that are not negative. -/
theorem averages_of_mem_strengthFrom (period changes : Nat) {gain loss : K} (rises : 0 ≤ gain) (falls : 0 ≤ loss)
    (previous : K) (closes : List K) {reading : Option K}
    (member : reading ∈ strengthFrom period changes gain loss previous closes) (defined : reading ≠ none) :
    ∃ gain loss : K, 0 ≤ gain ∧ 0 ≤ loss ∧ reading = strengthIndex gain loss := by
  induction closes generalizing changes gain loss previous with
  | nil => cases member
  | cons close rest ih =>
      have rise := part_of_change_nonneg (close - previous)
      have fall := part_of_change_nonneg (-(close - previous))
      have gains := average_of_changes_nonneg period (changes + 1) rises rise
      have losses := average_of_changes_nonneg period (changes + 1) falls fall
      rw [strengthFrom] at member
      split at member
      · obtain rfl | later := List.mem_cons.1 member
        · exact absurd rfl defined
        · exact ih (changes + 1) (add_nonneg rises rise) (add_nonneg falls fall) close later
      · obtain rfl | later := List.mem_cons.1 member
        · exact ⟨_, _, gains, losses, rfl⟩
        · exact ih (changes + 1) gains losses close later

/-- What the index divides by is positive. -/
theorem divisors_of_mem_relativeStrength (period : Nat) (closes : List K) {reading : K}
    (member : some reading ∈ relativeStrength period closes) :
    ∃ gain loss : K, 0 < loss ∧ 0 < whole 1 + gain / loss ∧
      reading = whole 100 - whole 100 / (whole 1 + gain / loss) := by
  cases closes with
  | nil => cases member
  | cons first rest =>
      rw [relativeStrength] at member
      split at member
      case isTrue => simp at member
      case isFalse =>
        have later : some reading ∈ strengthFrom period 0 (0 : K) 0 first rest := by
          simpa [ExactArithmetic.whole_zero] using member
        obtain ⟨gain, loss, rises, falls, index⟩ :=
          averages_of_mem_strengthFrom period 0 le_rfl le_rfl first rest later (Option.some_ne_none reading)
        rw [strengthIndex] at index
        split at index
        case isTrue => cases index
        case isFalse some =>
          rw [ExactArithmetic.beq_iff, ExactArithmetic.whole_zero] at some
          exact ⟨gain, loss, lt_of_le_of_ne falls (Ne.symm some), one_add_strength_pos rises falls,
            Option.some.inj index⟩

include rendered measured

theorem strengthIndex_rendered {gain loss : K} (rises : 0 ≤ gain) (falls : 0 ≤ loss) :
    strengthIndex (quantity gain) (quantity loss) = (strengthIndex gain loss).map plain := by
  rw [strengthIndex, strengthIndex, measured.beq_zero]
  split
  case isTrue => rfl
  case isFalse some =>
    rw [ExactArithmetic.beq_iff, ExactArithmetic.whole_zero] at some
    have positive := (one_add_strength_pos rises falls).ne'
    rw [measured.ratio _ some, rendered.whole 1, rendered.add, rendered.whole 100, rendered.div _ positive,
      rendered.sub, Option.map_some]

theorem strengthFrom_rendered {period : Nat} (positive : 0 < period) (changes : Nat) {gain loss : K}
    (rises : 0 ≤ gain) (falls : 0 ≤ loss) (previous : K) (closes : List K) :
    strengthFrom period changes (quantity gain) (quantity loss) (quantity previous) (closes.map quantity) =
      (strengthFrom period changes gain loss previous closes).map (Option.map plain) := by
  induction closes generalizing changes gain loss previous with
  | nil => rfl
  | cons close rest ih =>
      have rise := part_of_change_nonneg (close - previous)
      have fall := part_of_change_nonneg (-(close - previous))
      have average : ∀ level change : K,
          (if changes + 1 = period then (quantity level + quantity change) / whole period
            else (quantity level * whole (period - 1) + quantity change) / whole period) =
          quantity (if changes + 1 = period then (level + change) / whole period
            else (level * whole (period - 1) + change) / whole period) := by
        intro level change
        split
        · rw [measured.add, Quantity.part rendered measured positive]
        · rw [rendered.whole (period - 1), measured.mul, measured.add, Quantity.part rendered measured positive]
      simp only [List.map_cons, strengthFrom, measured.sub, measured.neg, measured.greater_zero, average]
      by_cases early : changes + 1 < period
      · simp only [if_pos early, measured.add, ih (changes + 1) (add_nonneg rises rise) (add_nonneg falls fall),
          List.map_cons, Option.map_none]
      · have gains := average_of_changes_nonneg period (changes + 1) rises rise
        have losses := average_of_changes_nonneg period (changes + 1) falls fall
        simp only [if_neg early, strengthIndex_rendered rendered measured gains losses,
          ih (changes + 1) gains losses, List.map_cons]

theorem relativeStrength_rendered (period : Nat) (closes : List K) :
    relativeStrength period (closes.map quantity) = (relativeStrength period closes).map (Option.map plain) := by
  cases closes with
  | nil => rfl
  | cons first rest =>
      rw [List.map_cons, relativeStrength, relativeStrength]
      split
      case isTrue =>
        rw [List.map_map, ← List.map_cons, List.map_map]
        rfl
      case isFalse positive =>
        rw [measured.zero, strengthFrom_rendered rendered measured (Nat.pos_of_ne_zero positive) 0 le_rfl le_rfl,
          List.map_cons, Option.map_none, ExactArithmetic.whole_zero]

end RelativeStrength

end PaperTrading
