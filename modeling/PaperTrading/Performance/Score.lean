/-
Module: PaperTrading.Performance.Score
Purpose: The score of a run, from bounded parts, and its grade.
Main exports: Grade, Grade.ofScore, ScoreParts, ScoreParts.total, boundedScore
-/
import PaperTrading.Arithmetic.Basic

namespace PaperTrading

open Arithmetic (whole le)

variable {α : Type} [Arithmetic α]

/-- Grades, the best first. -/
inductive Grade where
  | aPlus
  | a
  | b
  | c
  | d
  | f
deriving DecidableEq, Repr

/-- The letter of a grade. -/
def Grade.letter : Grade → String
  | .aPlus => "A+"
  | .a => "A"
  | .b => "B"
  | .c => "C"
  | .d => "D"
  | .f => "F"

/-- The grade of a score: one for every ten points from 50 on. -/
def Grade.ofScore (score : α) : Grade :=
  if le (whole 90) score then .aPlus
  else if le (whole 80) score then .a
  else if le (whole 70) score then .b
  else if le (whole 60) score then .c
  else if le (whole 50) score then .d
  else .f

/-- A part of the score: the value between 0 and its most, 0 for one that is not finite. -/
def boundedScore (value : α) (most : Nat) : α :=
  Arithmetic.clamp (whole 0) (whole most) (Arithmetic.finiteOrZero value)

/-- The parts of the score. -/
structure ScoreParts (α : Type) where
  returns : α
  sharpe : α
  sortino : α
  winRate : α
  drawdown : α
  consistency : α
  tradeCount : α

namespace ScoreParts

/-- No points in any part. -/
def none : ScoreParts α :=
  ⟨whole 0, whole 0, whole 0, whole 0, whole 0, whole 0, whole 0⟩

/-- The sum of the parts. -/
def total (parts : ScoreParts α) : α :=
  parts.returns + parts.sharpe + parts.sortino + parts.winRate + parts.drawdown + parts.consistency +
    parts.tradeCount

end ScoreParts

end PaperTrading
