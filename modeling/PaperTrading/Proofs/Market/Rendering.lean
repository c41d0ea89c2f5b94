/-
Module: PaperTrading.Proofs.Market.Rendering
Purpose: Bars and rows of the panel with their numbers written in another arithmetic or in another unit.
Main exports: PriceBar.map, PanelRow.map, augment_rendered
-/
import Mathlib.Algebra.Order.Field.Basic
import PaperTrading.Market.Panel
import PaperTrading.Proofs.Study.Rendering

namespace PaperTrading

section Numbers

variable {α γ : Type} (price plain : α → γ)

/-- A bar with its prices and its volume written in another way. -/
def PriceBar.map (bar : PriceBar α) : PriceBar γ :=
  { symbol := bar.symbol
    date := bar.date
    openPrice := price bar.openPrice
    highPrice := price bar.highPrice
    lowPrice := price bar.lowPrice
    closePrice := price bar.closePrice
    volume := plain bar.volume }

/-- A row with its prices, and the indicators in their unit, written in another way.  The strength index and the volumes
are plain numbers. -/
def PanelRow.map (row : PanelRow α) : PanelRow γ :=
  { date := row.date
    openPrice := price row.openPrice
    highPrice := price row.highPrice
    lowPrice := price row.lowPrice
    closePrice := price row.closePrice
    volume := plain row.volume
    sma20 := row.sma20.map price
    sma50 := row.sma50.map price
    sma200 := row.sma200.map price
    ema12 := row.ema12.map price
    ema26 := row.ema26.map price
    rsi14 := row.rsi14.map plain
    macd := row.macd.map price
    macdSignal := row.macdSignal.map price
    bandUpper := row.bandUpper.map price
    bandMiddle := row.bandMiddle.map price
    bandLower := row.bandLower.map price
    volumeSma20 := row.volumeSma20.map plain }

/-- What is read at an index of readings that were written in another way. -/
theorem getElem?_join_map {δ ε : Type} (f : δ → ε) (readings : List (Option δ)) (index : Nat) :
    (readings.map (Option.map f)).toArray[index]?.join = readings.toArray[index]?.join.map f := by
  rw [List.getElem?_toArray, List.getElem?_toArray, List.getElem?_map]
  cases readings[index]? with
  | none => rfl
  | some reading => rfl

end Numbers

section Panels

variable {K : Type} [LinearOrder K] [ExactArithmetic K] {β : Type} [Arithmetic β] {plain price square : K → β}

theorem Quantity.bind_finite? (measured : Quantity plain price) (reading : Option K) :
    (reading.map price).bind Arithmetic.finite? = (reading.bind Arithmetic.finite?).map price := by
  cases reading with
  | none => rfl
  | some x => exact measured.finite? x

variable [IsStrictOrderedRing K] (rendered : Rendering plain) (priced : Quantity plain price)
  (squared : Squares plain price square)
include rendered priced squared

theorem PanelReadings.row_rendered (bars : List (PriceBar K)) (index : Nat) (bar : PriceBar K) :
    (ofBars (bars.map (·.map price plain))).row index (bar.map price plain) =
      ((ofBars bars).row index bar).map price plain := by
  have closes : (bars.map (·.map price plain)).map (·.closePrice) = (bars.map (·.closePrice)).map price := by
    rw [List.map_map, List.map_map]
    rfl
  have volumes : (bars.map (·.map price plain)).map (·.volume) = (bars.map (·.volume)).map plain := by
    rw [List.map_map, List.map_map]
    rfl
  simp only [row, ofBars, closes, volumes, rollingMean_rendered rendered priced,
    rollingMean_rendered rendered rendered.quantity, exponentialAverage_rendered rendered priced,
    relativeStrength_rendered rendered priced, convergence_rendered rendered priced,
    bands_rendered rendered priced squared, getElem?_join_map, priced.bind_finite?, rendered.quantity.bind_finite?]
  simp only [PanelRow.map, PriceBar.map, Option.map_map]
  rfl

/-- The panel of bars in other numbers is the panel in those numbers. -/
theorem augment_rendered (bars : List (PriceBar K)) :
    augment (bars.map (·.map price plain)) = (augment bars).map (·.map price plain) := by
  refine List.ext_getElem? fun index => ?_
  rw [augment, augment, List.getElem?_map, List.getElem?_mapIdx, List.getElem?_mapIdx, List.getElem?_map]
  cases bars[index]? with
  | none => rfl
  | some bar => exact congrArg some (PanelReadings.row_rendered rendered priced squared bars index bar)

end Panels

end PaperTrading
