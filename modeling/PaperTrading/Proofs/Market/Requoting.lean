/-
Module: PaperTrading.Proofs.Market.Requoting
Purpose: Bars and rows of the panel with their prices in another unit.
Main exports: PriceBar.requote, PanelRow.requote, augment_requote
-/
import Mathlib.Algebra.Order.Field.Basic
import PaperTrading.Proofs.Market.Rendering

namespace PaperTrading

section Units

variable {α : Type} [Arithmetic α]

/-- A bar with every price multiplied by a factor. -/
def PriceBar.requote (factor : α) (bar : PriceBar α) : PriceBar α :=
  { bar with
    openPrice := factor * bar.openPrice
    highPrice := factor * bar.highPrice
    lowPrice := factor * bar.lowPrice
    closePrice := factor * bar.closePrice }

/-- A row with every price, and every indicator in the unit of prices, multiplied by a factor.  The strength index and
the volumes do not have that unit. -/
def PanelRow.requote (factor : α) (row : PanelRow α) : PanelRow α :=
  { row with
    openPrice := factor * row.openPrice
    highPrice := factor * row.highPrice
    lowPrice := factor * row.lowPrice
    closePrice := factor * row.closePrice
    sma20 := row.sma20.map (factor * ·)
    sma50 := row.sma50.map (factor * ·)
    sma200 := row.sma200.map (factor * ·)
    ema12 := row.ema12.map (factor * ·)
    ema26 := row.ema26.map (factor * ·)
    macd := row.macd.map (factor * ·)
    macdSignal := row.macdSignal.map (factor * ·)
    bandUpper := row.bandUpper.map (factor * ·)
    bandMiddle := row.bandMiddle.map (factor * ·)
    bandLower := row.bandLower.map (factor * ·) }

end Units

section Panels

variable {K : Type} [LinearOrder K] [ExactArithmetic K] {c : K}

theorem PriceBar.map_scaled (bar : PriceBar K) : bar.map (c * ·) id = bar.requote c :=
  rfl

theorem PanelRow.map_scaled (row : PanelRow K) : row.map (c * ·) id = row.requote c := by
  simp only [map, requote, Option.map_id, id]

variable [IsStrictOrderedRing K] (positive : 0 < c) (roots : RootsScale K)
include positive roots

/-- Squares of prices have the square of the unit. -/
theorem Squares.scaled : Squares id (fun x : K => c * x) fun x => c * c * x where
  squares := .scaled (mul_pos positive positive)
  mul x y := mul_mul_mul_comm c x c y
  sqrt x sign := roots c x positive.le sign

/-- The panel of requoted bars is the requoted panel. -/
theorem augment_requote (bars : List (PriceBar K)) :
    augment (bars.map (·.requote c)) = (augment bars).map (·.requote c) := by
  have rendered := augment_rendered .refl (.scaled positive) (.scaled positive roots) bars
  simp only [PriceBar.map_scaled, PanelRow.map_scaled] at rendered
  exact rendered

end Panels

end PaperTrading
