/-
Module: PaperTrading.Performance.TradeStatistics
Purpose: What a list of trades says about winning and losing.
Main exports: TradeStatistics, TradeStatistics.ofTrades, longestStreaks, kellyFraction
-/
import PaperTrading.Arithmetic.Statistics
import PaperTrading.Ledger.Position

namespace PaperTrading

open Arithmetic (whole lt total average finiteOrZero clamp)

variable {α : Type} [Arithmetic α]

/-- The longest streaks after further outcomes, from the streaks that end here and the longest so far, wins
first. -/
def streaksFrom (wins losses longestWins longestLosses : Nat) : List Bool → Nat × Nat
  | [] => (longestWins, longestLosses)
  | true :: rest => streaksFrom (wins + 1) 0 (max longestWins (wins + 1)) longestLosses rest
  | false :: rest => streaksFrom 0 (losses + 1) longestWins (max longestLosses (losses + 1)) rest

/-- The lengths of the longest streak of wins and of the longest streak of others. -/
def longestStreaks (outcomes : List Bool) : Nat × Nat :=
  streaksFrom 0 0 0 0 outcomes

/-- The part of the capital, in percent, that a bet with these chances and averages is worth; 0 where there is no
average win or no average loss. -/
def kellyFraction (winChance lossChance averageWin averageLoss : α) : α :=
  if averageWin == whole 0 || averageLoss == whole 0 then whole 0
  else
    let ratio := Arithmetic.magnitude (averageWin / averageLoss)
    clamp (whole 0) (whole 100) (finiteOrZero ((winChance - lossChance / ratio) * whole 100))

/-- Counts, sums and averages over a list of trades.  Trades that are not won count as lost. -/
structure TradeStatistics (α : Type) where
  total : Nat
  winning : Nat
  losing : Nat
  winRate : α
  averageWin : α
  averageLoss : α
  grossProfit : α
  grossLoss : α
  netProfit : α
  profitFactor : α
  expectancy : α
  kelly : α
  longestWins : Nat
  longestLosses : Nat

/-- The statistics of a list of trades that is not empty. -/
def TradeStatistics.ofTrades (trades : List (Trade α)) : TradeStatistics α :=
  let winners := trades.filter (·.isWin)
  let losers := trades.filter (!·.isWin)
  let winChance : α := whole winners.length / whole trades.length
  let lossChance : α := whole losers.length / whole trades.length
  let averageWin := average (winners.map (·.returnPercent))
  let averageLoss := average (losers.map (·.returnPercent))
  let grossProfit := Arithmetic.total (winners.map (·.profit))
  let grossLoss := Arithmetic.magnitude (Arithmetic.total (losers.map (·.profit)))
  let streaks := longestStreaks (trades.map (·.isWin))
  { total := trades.length
    winning := winners.length
    losing := losers.length
    winRate := winChance * whole 100
    averageWin
    averageLoss
    grossProfit
    grossLoss
    netProfit := Arithmetic.total (trades.map (·.profit))
    profitFactor := if lt (whole 0) grossLoss then grossProfit / grossLoss else whole 0
    expectancy := winChance * averageWin + lossChance * averageLoss
    kelly := kellyFraction winChance lossChance averageWin averageLoss
    longestWins := streaks.1
    longestLosses := streaks.2 }

end PaperTrading
