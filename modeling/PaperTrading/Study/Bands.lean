/-
Module: PaperTrading.Study.Bands
Purpose: Bands around the moving average, a multiple of the deviation away from it.
Main exports: Bands, bands
-/
import PaperTrading.Arithmetic.Basic

namespace PaperTrading

open Arithmetic (whole total)

variable {α : Type} [Arithmetic α]

/-- A reading: the average and the band on either side of it. -/
structure Bands (α : Type) where
  upper : α
  middle : α
  lower : α

/-- The bands of one window of closes, `hundredths / 100` deviations wide on each side.  The deviation is that of
the window itself, not an estimate from a sample. -/
def windowBands (period hundredths : Nat) (window : List α) : Bands α :=
  let middle := total window / whole period
  let variance := total (window.map fun close => (close - middle) * (close - middle)) / whole period
  let width := whole hundredths / whole 100 * Arithmetic.sqrt variance
  ⟨middle + width, middle, middle - width⟩

/-- The bands of the last `period` closes; a period of 0 gives no readings. -/
def bands (period hundredths : Nat) (closes : List α) : List (Option (Bands α)) :=
  (List.range closes.length).map fun index =>
    if 0 < period && period ≤ index + 1 then
      some (windowBands period hundredths ((closes.drop (index + 1 - period)).take period))
    else
      none

end PaperTrading
