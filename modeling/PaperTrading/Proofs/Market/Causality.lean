/-
Module: PaperTrading.Proofs.Market.Causality
Purpose: No entry of the panel depends on a later bar.
Main exports: PanelReadings.row_take, augment_causal
-/
import PaperTrading.Market.Panel
import PaperTrading.Proofs.Study.Causality

namespace PaperTrading

variable {α : Type} [Arithmetic α]

/-- The row of a bar is the same whether or not the series goes on after it. -/
theorem PanelReadings.row_take (bars : List (PriceBar α)) {index count : Nat} (early : index < count)
    (bar : PriceBar α) : (ofBars (bars.take count)).row index bar = (ofBars bars).row index bar := by
  have closes : Causal fun bars : List (PriceBar α) => bars.map (·.closePrice) := Causal.map _
  have volumes : Causal fun bars : List (PriceBar α) => bars.map (·.volume) := Causal.map _
  have simple (period : Nat) := ((rollingMean_causal period).comp closes).getElem?_take bars early
  have exponential (period : Nat) := ((exponentialAverage_causal period).comp closes).getElem?_take bars early
  have strength := ((relativeStrength_causal 14).comp closes).getElem?_take bars early
  have gap := ((convergence_causal 12 26 9).comp closes).getElem?_take bars early
  have band := ((bands_causal 20 200).comp closes).getElem?_take bars early
  have volume := ((rollingMean_causal 20).comp volumes).getElem?_take bars early
  simp only [row, ofBars, List.getElem?_toArray, simple, exponential, strength, gap, band, volume]

/-- The panel of the first bars is the beginning of the panel of all of them, in every column; so a row depends on no
bar after its own. -/
theorem augment_causal (bars : List (PriceBar α)) :
    (∀ count, augment (bars.take count) = (augment bars).take count) ∧
      ∀ index, (augment (bars.take (index + 1)))[index]? = (augment bars)[index]? := by
  have cut : Causal (augment (α := α)) := by
    intro bars count
    refine List.ext_getElem? fun index => ?_
    by_cases early : index < count
    · have rows : (PanelReadings.ofBars (bars.take count)).row index = (PanelReadings.ofBars bars).row index :=
        funext (PanelReadings.row_take bars early)
      rw [List.getElem?_take_of_lt early, augment, augment, List.getElem?_mapIdx, List.getElem?_mapIdx, rows,
        List.getElem?_take_of_lt early]
    · have late : count ≤ index := Nat.le_of_not_lt early
      rw [List.getElem?_take_eq_none late, augment, List.getElem?_mapIdx, List.getElem?_take_eq_none late]
      rfl
  exact ⟨cut bars, fun index => cut.getElem?_take bars (Nat.lt_succ_self index)⟩

end PaperTrading
