/-
Module: PaperTrading.Arithmetic.Statistics
Purpose: Means, deviations and a low quantile of a list of numbers.
Main exports: mean, deviation?, average, lowest, fifthPercentile
-/
import PaperTrading.Arithmetic.Basic

namespace PaperTrading.Arithmetic

variable {α : Type} [Arithmetic α]

/-- Folds further values into the mean of `count` values. -/
def meanFrom (count : Nat) (mean : α) : List α → α
  | [] => mean
  | x :: rest => meanFrom (count + 1) (mean + (x - mean) / whole (count + 1)) rest

/-- The mean, moved value by value; 0 for no values. -/
def mean (xs : List α) : α :=
  meanFrom 0 (whole 0) xs

/-- Folds further values into the sum of squared differences of `count` values whose sum is `sum`, and divides it
by one less than the number of all values. -/
def varianceFrom (count : Nat) (sum spread : α) : List α → α
  | [] => spread / (whole count - whole 1)
  | x :: rest =>
    let number : α := whole (count + 1)
    let sum := sum + x
    let gap := number * x - sum
    varianceFrom (count + 1) sum (spread + gap * gap / (number * (number - whole 1))) rest

/-- The sample standard deviation, which two values at least have. -/
def deviation? : List α → Option α
  | first :: second :: rest => some (sqrt (varianceFrom 1 first (whole 0) (second :: rest)))
  | _ => none

/-- The plain sum divided by the number of values; 0 for no values. -/
def average (xs : List α) : α :=
  if xs.isEmpty then whole 0 else xs.foldl (· + ·) (whole 0) / whole xs.length

/-- The lowest value; an undefined one counts as the lowest. -/
def lowest (first : α) (rest : List α) : α :=
  rest.foldl (fun low x => if lt x low || !(x == x) then x else low) first

/-- The value below which five in a hundred values lie, between two values by their distance. -/
def fifthPercentile (first : α) (rest : List α) : α :=
  let third : α := whole 1 / whole 3
  let place := (whole (rest.length + 1) + third) * (whole 5 / whole 100) + third
  let rank := floorNat place
  if rank = 0 then
    lowest first rest
  else
    let sorted := (first :: rest).mergeSort fun a b => !lt b a
    match sorted.drop (rank - 1) with
    | below :: above :: _ => below + (place - whole rank) * (above - below)
    | _ => lowest first rest

end PaperTrading.Arithmetic
