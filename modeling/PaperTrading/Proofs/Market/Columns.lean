/-
Module: PaperTrading.Proofs.Market.Columns
Purpose: From which row on each column of the panel has an entry, and two columns that always have the same one.
Main exports: Column.firstRow?, PanelReadings.entry_isSome_iff, columns_defined_on_schedule, sliding_means_of_windows
-/
import PaperTrading.Proofs.Market.Rendering
import PaperTrading.Proofs.Study.WarmUp
import PaperTrading.Proofs.Study.WindowMean

namespace PaperTrading

open Arithmetic (finite?)

/-- The first row in which a column has an entry, on any series.  The strength index has none: when it starts depends
on the closes. -/
def Column.firstRow? : Column → Option Nat
  | .openPrice | .highPrice | .lowPrice | .closePrice | .volume => some 0
  | .sma20 | .bandUpper | .bandMiddle | .bandLower | .volumeSma20 => some 19
  | .sma50 => some 49
  | .sma200 => some 199
  | .ema12 => some 11
  | .ema26 => some 25
  | .macd | .macdSignal => some 33
  | .rsi14 => none

theorem Column.exists_firstRow? {column : Column} (other : column ≠ .rsi14) :
    ∃ first, column.firstRow? = some first ∧ first ≤ 199 := by
  cases column <;> simp_all [firstRow?]

variable {K : Type} [LinearOrder K] [ExactArithmetic K]

section Rows

/-- In exact arithmetic every reading is finite. -/
theorem bind_finite?_eq (reading : Option K) : reading.bind finite? = reading := by
  cases reading with
  | none => rfl
  | some value => exact ExactArithmetic.finite?_eq value

/-- What is read from a column is its entry. -/
theorem PanelRow.get_eq_entry (row : PanelRow K) (column : Column) : row.get column = row.entry column :=
  bind_finite?_eq (row.entry column)

/-- Each bar has a row, made of the readings at its index. -/
theorem exists_row (bars : List (PriceBar K)) {index : Nat} (inside : index < bars.length) :
    ∃ bar, bars[index]? = some bar ∧ (augment bars)[index]? = some ((PanelReadings.ofBars bars).row index bar) := by
  refine ⟨bars[index], List.getElem?_eq_getElem inside, ?_⟩
  rw [augment, List.getElem?_mapIdx, List.getElem?_eq_getElem inside, Option.map_some]

theorem isSome_reading_iff {β : Type} (readings : List (Option β)) (index : Nat) :
    readings.toArray[index]?.join.isSome = true ↔ DefinedAt readings index := by
  rw [List.getElem?_toArray, definedAt_iff_isSome_join]

/-- A column has an entry from its first row on. -/
theorem PanelReadings.entry_isSome_iff {bars : List (PriceBar K)} {index : Nat} (inside : index < bars.length)
    (bar : PriceBar K) {column : Column} {first : Nat} (scheduled : column.firstRow? = some first) :
    (((ofBars bars).row index bar).entry column).isSome = true ↔ first ≤ index := by
  cases column with
  | rsi14 => exact nomatch scheduled
  | _ =>
      obtain rfl := Option.some.inj scheduled
      simp only [PanelRow.entry, row, ofBars, bind_finite?_eq, Option.isSome_map, Option.isSome_some,
        isSome_reading_iff, rollingMean_definedAt, exponentialAverage_definedAt, convergence_definedAt,
        bands_definedAt, List.length_map, inside, true_and, true_iff]
      omega

/-- The moving average and the middle of the bands are the same mean, calculated in two ways. -/
theorem PanelReadings.sma20_eq_bandMiddle (bars : List (PriceBar K)) (index : Nat) (bar : PriceBar K) :
    ((ofBars bars).row index bar).sma20 = ((ofBars bars).row index bar).bandMiddle := by
  have same : rollingMean 20 (bars.map (·.closePrice)) =
      (PaperTrading.bands 20 200 (bars.map (·.closePrice))).map (Option.map (·.middle)) :=
    (rollingMean_eq_windowMeans 20 _).trans (middle_of_bands 20 200 _).symm
  simp only [row, ofBars, bind_finite?_eq]
  rw [same, getElem?_join_map]

end Rows

/-- Every column but the strength index has an entry from a fixed row on, on every series, and none before; so from row
200 on only the strength index may be missing.  A convergence, over any periods, has readings from where the slower
average has as many as its own average needs, and none if a period is zero. -/
theorem columns_defined_on_schedule :
    (∀ (bars : List (PriceBar K)) (index : Nat), index < bars.length →
      ∃ row, (augment bars)[index]? = some row ∧
        (∀ column first, column.firstRow? = some first → ((row.entry column).isSome = true ↔ first ≤ index)) ∧
        (200 ≤ index → ∀ column, column ≠ .rsi14 → (row.get column).isSome = true)) ∧
      ∀ (fast slow signal : Nat) (closes : List K) (index : Nat), index < closes.length →
        (DefinedAt (convergence fast slow signal closes) index ↔
          (1 ≤ fast ∧ 1 ≤ slow ∧ 1 ≤ signal) ∧ max fast slow - 1 + signal - 1 ≤ index) := by
  constructor
  · intro bars index inside
    obtain ⟨bar, -, here⟩ := exists_row bars inside
    refine ⟨_, here, fun _ _ scheduled => PanelReadings.entry_isSome_iff inside bar scheduled, ?_⟩
    intro late column other
    obtain ⟨first, scheduled, early⟩ := Column.exists_firstRow? other
    rw [PanelRow.get_eq_entry, PanelReadings.entry_isSome_iff inside bar scheduled]
    omega
  · intro fast slow signal closes index inside
    rw [convergence_definedAt, and_iff_right inside, and_assoc, and_assoc]
    rfl

/-- Closes that rise by one each day, until the longest average is defined. -/
def evenlyRisingBars : List (PriceBar ℚ) :=
  (List.range 201).map fun (day : Nat) =>
    ⟨"TEST", Date.next^[day] ⟨2010, 1, 4, by decide⟩, day, day + 1, day - 1, day, 1000⟩

/-- On the last day every column but the strength index has an entry; on the last day without one the convergence has
none.  With a fast average slower than the slow one, a convergence starts with the slower of the two. -/
theorem evenlyRisingBars_columns :
    (∃ row, (augment evenlyRisingBars)[200]? = some row ∧ ∀ column, column ≠ .rsi14 → (row.get column).isSome = true) ∧
      (∃ row, (augment evenlyRisingBars)[32]? = some row ∧ (row.entry .ema26).isSome = true ∧
        row.entry .macdSignal = none) ∧
      DefinedAt (convergence 4 2 2 [3, 1, 4, 1, (5 : ℚ)]) 4 ∧
      ¬ DefinedAt (convergence 4 2 2 [3, 1, 4, 1, (5 : ℚ)]) 3 := by
  obtain ⟨panel, gaps⟩ := columns_defined_on_schedule (K := ℚ)
  have length : evenlyRisingBars.length = 201 := by
    simp [evenlyRisingBars]
  refine ⟨?last, ?before, ?_, ?_⟩
  case last =>
    obtain ⟨row, here, -, complete⟩ := panel evenlyRisingBars 200 (by omega)
    exact ⟨row, here, complete le_rfl⟩
  case before =>
    obtain ⟨row, here, entries, -⟩ := panel evenlyRisingBars 32 (by omega)
    refine ⟨row, here, (entries .ema26 25 rfl).2 (by decide), ?_⟩
    rw [← Option.not_isSome_iff_eq_none, entries .macdSignal 33 rfl]
    decide
  · exact (gaps 4 2 2 _ 4 (by decide)).2 (by decide)
  · rw [gaps 4 2 2 _ 3 (by decide)]
    decide

/-- The running mean over any period is the mean of the last values, as many as the period has, from the first window
that is full; so the moving average of the panel is the middle of its bands in every row. -/
theorem sliding_means_of_windows :
    (∀ (period : Nat) (values : List K), rollingMean period values = windowMeans period values) ∧
      ∀ (bars : List (PriceBar K)), ∀ row ∈ augment bars, row.sma20 = row.bandMiddle := by
  refine ⟨rollingMean_eq_windowMeans, fun bars row member => ?_⟩
  obtain ⟨index, inside, rfl⟩ := List.mem_mapIdx.1 member
  exact PanelReadings.sma20_eq_bandMiddle bars index bars[index]

/-- On the twentieth day both columns hold the mean of the first twenty closes. -/
theorem evenlyRisingBars_means :
    ∃ row ∈ augment evenlyRisingBars, row.sma20 = some (19 / 2) ∧ row.bandMiddle = some (19 / 2) := by
  obtain ⟨-, same⟩ := sliding_means_of_windows (K := ℚ)
  have evaluated : (augment evenlyRisingBars)[19]?.map (·.sma20) = some (some (19 / 2)) := by
    decide +kernel
  obtain ⟨row, here, mean⟩ := Option.map_eq_some_iff.1 evaluated
  have member := List.mem_of_getElem? here
  exact ⟨row, member, mean, (same evenlyRisingBars row member).symm.trans mean⟩

end PaperTrading
