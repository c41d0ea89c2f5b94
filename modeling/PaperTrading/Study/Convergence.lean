/-
Module: PaperTrading.Study.Convergence
Purpose: The distance between a fast and a slow exponential average, and its own average.
Main exports: Convergence, convergence
-/
import PaperTrading.Study.MovingAverage

namespace PaperTrading

variable {α : Type} [Arithmetic α]

/-- A reading: the distance of the two averages, the average of that distance, and their difference. -/
structure Convergence (α : Type) where
  line : α
  signal : α
  histogram : α

/-- The distance between two averages, where both are defined. -/
def averageGap (fast slow : Option α) : Option α :=
  fast.bind fun f => slow.map fun s => f - s

/-- The average of a series that begins with undefined values.  It starts where the series does. -/
def averageOfDefined (period : Nat) (line : List (Option α)) : List (Option α) :=
  let undefinedPart := line.takeWhile Option.isNone
  let definedPart := line.dropWhile Option.isNone
  undefinedPart ++ exponentialAverage period (definedPart.map fun x => x.getD (Arithmetic.whole 0))

/-- Readings where the line and its average are both defined. -/
def convergence (fast slow signal : Nat) (closes : List α) : List (Option (Convergence α)) :=
  let line := List.zipWith averageGap (exponentialAverage fast closes) (exponentialAverage slow closes)
  List.zipWith
    (fun gap average => gap.bind fun l => average.map fun s => ⟨l, s, l - s⟩)
    line (averageOfDefined signal line)

end PaperTrading
