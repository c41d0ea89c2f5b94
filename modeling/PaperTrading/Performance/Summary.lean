/-
Module: PaperTrading.Performance.Summary
Purpose: The performance of a finished run.
Main exports: Performance, Performance.withoutTrades, Performance.compute

Returns, drawdowns, rates, averages, the value at risk and the Kelly fraction are in percent; ratios are plain
numbers.
-/
import PaperTrading.Performance.Equity
import PaperTrading.Performance.Score
import PaperTrading.Performance.TradeStatistics

namespace PaperTrading

open Arithmetic (whole lt finiteOrZero magnitude mean deviation?)

variable {α : Type} [Arithmetic α]

/-- Everything that is reported about a run. -/
structure Performance (α : Type) where
  totalReturn : α
  annualizedReturn : α
  sharpeRatio : α
  sortinoRatio : α
  maxDrawdown : α
  calmarRatio : α
  omegaRatio : α
  recoveryFactor : α
  ulcerIndex : α
  valueAtRisk : α
  expectedShortfall : α
  trades : TradeStatistics α
  significance : Significance α
  isSignificant : Bool
  finalEquity : α
  parts : ScoreParts α
  score : α
  grade : Grade

namespace Performance

/-- The performance of a run without trades: nothing, and the worst grade. -/
def withoutTrades (finalEquity : α) : Performance α :=
  let zero : α := whole 0
  { totalReturn := zero
    annualizedReturn := zero
    sharpeRatio := zero
    sortinoRatio := zero
    maxDrawdown := zero
    calmarRatio := zero
    omegaRatio := zero
    recoveryFactor := zero
    ulcerIndex := zero
    valueAtRisk := zero
    expectedShortfall := zero
    trades := ⟨0, 0, 0, zero, zero, zero, zero, zero, zero, zero, zero, zero, 0, 0⟩
    significance := .untested
    isSignificant := false
    finalEquity
    parts := .none
    score := zero
    grade := .f }

/-- The parts of the score: what earns full points in each, and how many points that is. -/
def scoreParts (annualized sharpe sortino winRate drawdown expectancy : α) (trades : Nat) : ScoreParts α :=
  { returns := boundedScore (annualized / whole 30 * whole 20) 20
    sharpe := boundedScore (sharpe / whole 2 * whole 15) 15
    sortino := boundedScore (sortino / whole 3 * whole 10) 10
    winRate := boundedScore (winRate / whole 70 * whole 15) 15
    drawdown := boundedScore (whole 20 * (whole 1 - magnitude drawdown / whole 50)) 20
    consistency := boundedScore (expectancy / whole 2 * whole 10) 10
    tradeCount := boundedScore (whole trades / whole 30 * whole 10) 10 }

/-- The performance of a run with these trades and this equity curve. -/
def compute (trades : List (Trade α)) (curve : List α) (initialCapital : α) : Performance α :=
  let finalEquity := curve.getLast?.getD initialCapital
  if trades.isEmpty then
    withoutTrades finalEquity
  else
    let returns := barReturns curve
    let hasCapital := lt (whole 0) initialCapital
    let totalReturn := if hasCapital then (finalEquity / initialCapital - whole 1) * whole 100 else whole 0
    let annualized := finiteOrZero (PaperTrading.annualizedReturn initialCapital finalEquity returns.length)
    let meanReturn := mean returns
    let sharpe := annualRatio meanReturn (deviation? returns)
    let sortino := annualRatio meanReturn (deviation? (returns.filter fun r => lt r (whole 0)))
    let depths := drawdowns curve
    let deepest := PaperTrading.maxDrawdown depths
    let hasDrawdown := lt deepest (whole 0)
    let calmar := if hasDrawdown then finiteOrZero (annualized / magnitude deepest) else whole 0
    let risk := PaperTrading.valueAtRisk returns
    let statistics := TradeStatistics.ofTrades trades
    let recovery := if hasDrawdown && hasCapital then
        finiteOrZero (statistics.netProfit / (magnitude deepest * initialCapital / whole 100))
      else whole 0
    let test := PaperTrading.significance returns
    let parts := scoreParts annualized sharpe sortino statistics.winRate deepest statistics.expectancy
      statistics.total
    let score := Arithmetic.clamp (whole 0) (whole 100) parts.total
    { totalReturn
      annualizedReturn := annualized
      sharpeRatio := sharpe
      sortinoRatio := sortino
      maxDrawdown := deepest
      calmarRatio := calmar
      omegaRatio := PaperTrading.omegaRatio returns
      recoveryFactor := recovery
      ulcerIndex := PaperTrading.ulcerIndex depths
      valueAtRisk := risk.1
      expectedShortfall := risk.2
      trades := statistics
      significance := test
      isSignificant := lt test.probability (whole 5 / whole 100)
      finalEquity
      parts
      score
      grade := Grade.ofScore score }

end Performance

end PaperTrading
