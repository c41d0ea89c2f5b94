/-
Module: PaperTrading.Study.MovingAverage
Purpose: Simple and exponential moving averages of a series.
Main exports: rollingMean, exponentialAverage

A study gives one reading per value of its series, `none` until enough values have been seen.
-/
import PaperTrading.Arithmetic.Basic

namespace PaperTrading

open Arithmetic (whole)

variable {α : Type} [Arithmetic α]

/-- Means of the last `period` values, for the values after the first `seen`.  The running sum takes each value
in as it comes and lets it go `period` values later; `leaving` starts with the value that goes next. -/
def rollingMeanFrom (period seen : Nat) (sum : α) (leaving : List α) : List α → List (Option α)
  | [] => []
  | value :: rest =>
    let sum := sum + value
    let (sum, leaving) := match leaving with
      | oldest :: later => if 0 < period && period ≤ seen then (sum - oldest, later) else (sum, leaving)
      | [] => (sum, [])
    let reading := if 0 < period && period ≤ seen + 1 then some (sum / whole period) else none
    reading :: rollingMeanFrom period (seen + 1) sum leaving rest

/-- The mean of the last `period` values; a period of 0 gives no readings. -/
def rollingMean (period : Nat) (values : List α) : List (Option α) :=
  rollingMeanFrom period 0 (whole 0) values values

/-- Exponential averages for the values after the first `seen`.  `level` is the sum of the values while there are
fewer than `period`, and the average from then on. -/
def exponentialFrom (period : Nat) (weight : α) (seen : Nat) (level : α) : List α → List (Option α)
  | [] => []
  | value :: rest =>
    if seen + 1 < period then
      none :: exponentialFrom period weight (seen + 1) (level + value) rest
    else
      let average := if seen + 1 = period then (level + value) / whole period
        else value * weight + level * (whole 1 - weight)
      some average :: exponentialFrom period weight (seen + 1) average rest

/-- The exponential average with weight `2 / (period + 1)` on each new value.  It starts as the mean of the first
`period` values; a period of 0 gives no readings. -/
def exponentialAverage (period : Nat) (values : List α) : List (Option α) :=
  if period = 0 then
    values.map fun _ => none
  else
    exponentialFrom period (whole 2 / (whole period + whole 1)) 0 (whole 0) values

end PaperTrading
