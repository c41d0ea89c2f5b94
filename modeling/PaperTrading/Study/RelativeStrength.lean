/-
Module: PaperTrading.Study.RelativeStrength
Purpose: The relative strength index: recent gains set against recent losses.
Main exports: relativeStrength
-/
import PaperTrading.Arithmetic.Basic

namespace PaperTrading

open Arithmetic (whole greater)

variable {α : Type} [Arithmetic α]

/-- The index from an average gain and an average loss.  Without a loss the ratio of the two is undefined, and so
is the index. -/
def strengthIndex (gain loss : α) : Option α :=
  if loss == whole 0 then none
  else some (whole 100 - whole 100 / (whole 1 + gain / loss))

/-- Readings after the close `previous`, the last of `changes + 1` closes.  The averages start as the mean of the
first `period` gains and losses, and then keep all but one part in `period` of themselves; until then `gain` and
`loss` are sums. -/
def strengthFrom (period changes : Nat) (gain loss previous : α) : List α → List (Option α)
  | [] => []
  | close :: rest =>
    let change := close - previous
    let rise := greater change (whole 0)
    let fall := greater (-change) (whole 0)
    let number := changes + 1
    if number < period then
      none :: strengthFrom period number (gain + rise) (loss + fall) close rest
    else
      let kept : α := whole (period - 1)
      let gain := if number = period then (gain + rise) / whole period
        else (gain * kept + rise) / whole period
      let loss := if number = period then (loss + fall) / whole period
        else (loss * kept + fall) / whole period
      strengthIndex gain loss :: strengthFrom period number gain loss close rest

/-- The relative strength index over a period; a period of 0 gives no readings. -/
def relativeStrength (period : Nat) (closes : List α) : List (Option α) :=
  match closes with
  | [] => []
  | first :: rest =>
    if period = 0 then
      closes.map fun _ => none
    else
      none :: strengthFrom period 0 (whole 0) (whole 0) first rest

end PaperTrading
