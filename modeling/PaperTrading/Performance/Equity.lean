/-
Module: PaperTrading.Performance.Equity
Purpose: What an equity curve says about returns and risk.
Main exports: barReturns, drawdowns, maxDrawdown, ulcerIndex, annualizedReturn, annualRatio, omegaRatio, valueAtRisk,
  Significance, significance
-/
import PaperTrading.Arithmetic.Statistics

namespace PaperTrading

open Arithmetic (whole lt le isFinite finiteOrZero total lesser greater mean deviation?)

variable {α : Type} [Arithmetic α]

/-- Trading days in a year. -/
def tradingDays : Nat := 252

/-- The change from each point of a curve to the next, as a part of the former; 0 where that is not positive. -/
def barReturns : List α → List α
  | first :: second :: rest =>
    (if lt (whole 0) first then (second - first) / first else whole 0) :: barReturns (second :: rest)
  | _ => []

/-- Drawdowns of further points below the highest point so far. -/
def drawdownsFrom (peak : Option α) : List α → List α
  | [] => []
  | point :: rest =>
    let peak := match peak with
      | some highest => greater highest point
      | none => point
    (if lt (whole 0) peak then (point - peak) / peak else whole 0) :: drawdownsFrom (some peak) rest

/-- The distance of each point below the highest point up to it, as a part of that; 0 while that is not
positive. -/
def drawdowns (curve : List α) : List α :=
  drawdownsFrom none curve

/-- The deepest drawdown in percent, not above 0. -/
def maxDrawdown (drawdowns : List α) : α :=
  drawdowns.foldl lesser (whole 0) * whole 100

/-- The root mean square of the drawdowns in percent. -/
def ulcerIndex (drawdowns : List α) : α :=
  if drawdowns.isEmpty then whole 0
  else
    Arithmetic.sqrt (total (drawdowns.map fun depth => depth * depth) / whole drawdowns.length) * whole 100

/-- The yearly return in percent that would have led from one amount to the other in so many days. -/
def annualizedReturn (initial final : α) (days : Nat) : α :=
  if days = 0 || le initial (whole 0) then whole 0
  else if le final (whole 0) then -whole 100
  else
    (Arithmetic.power (final / initial) (whole tradingDays / whole days) - whole 1) * whole 100

/-- A mean in units of a deviation, for a year; 0 where the deviation is zero or undefined. -/
def annualRatio (mean : α) (deviation : Option α) : α :=
  match deviation with
  | some spread =>
    if isFinite spread && lt (whole 0) spread then
      finiteOrZero (mean / spread * Arithmetic.sqrt (whole tradingDays))
    else whole 0
  | none => whole 0

/-- The sum of the gains over the sum of the losses; 0 without losses. -/
def omegaRatio (returns : List α) : α :=
  let gains := total (returns.filter fun r => lt (whole 0) r)
  let losses := Arithmetic.magnitude (total (returns.filter fun r => lt r (whole 0)))
  if lt (whole 0) losses then gains / losses else whole 0

/-- The fifth percentile of the returns, and the mean of the returns down to it, in percent. -/
def valueAtRisk (returns : List α) : α × α :=
  match returns with
  | [] => (whole 0, whole 0)
  | first :: rest =>
    let threshold := Arithmetic.fifthPercentile first rest
    let tail := returns.filter fun r => le r threshold
    let expected := if tail.isEmpty then threshold else mean tail
    (finiteOrZero (threshold * whole 100), finiteOrZero (expected * whole 100))

/-- The outcome of a test of the mean against zero. -/
structure Significance (α : Type) where
  statistic : α
  probability : α

/-- The outcome where no test is possible. -/
def Significance.untested : Significance α :=
  ⟨whole 0, whole 1⟩

/-- Tests the mean of the returns against zero with the t distribution, on both sides. -/
def significance (returns : List α) : Significance α :=
  match deviation? returns with
  | none => .untested
  | some spread =>
    if isFinite spread && lt (whole 0) spread then
      let statistic := mean returns / (spread / Arithmetic.sqrt (whole returns.length))
      if isFinite statistic then
        let tail := Arithmetic.tailProbability (returns.length - 1) (Arithmetic.magnitude statistic)
        ⟨statistic, Arithmetic.clamp (whole 0) (whole 1) tail⟩
      else .untested
    else .untested

end PaperTrading
