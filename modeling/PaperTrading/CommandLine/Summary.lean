/-
Module: PaperTrading.CommandLine.Summary
Purpose: Reports, intents and failures as lines for a reader.
Main exports: linesText, IntentSummary.lines, Report.lines, Failure.lines

Amounts, returns and ratios have two places, rates, depths and scores one, probabilities four.
-/
import PaperTrading.Backtest

namespace PaperTrading

/-- Lines as text. -/
def linesText (lines : List String) : String :=
  String.join (lines.map (· ++ "\n"))

/-- What an intent asks for, a line for each part. -/
def IntentSummary.lines (summary : IntentSummary Float) : List String :=
  ["Indicators: " ++ ", ".intercalate summary.indicators] ++
    summary.entryPhrases.map ("  entry: " ++ ·) ++
    summary.exitPhrases.map ("  exit:  " ++ ·) ++
    summary.stopLoss.toList.map (fun percent => s!"  stop loss:   {Legible.text percent}%") ++
    summary.takeProfit.toList.map (fun percent => s!"  take profit: {Legible.text percent}%")

/-- The line for a trade.  A gain carries a plus sign. -/
def Trade.line (trade : Trade Float) : String :=
  let sign := if 0.0 ≤ trade.profit then "+" else ""
  s!"  {trade.entryDate} -> {trade.exitDate}  {fixedText 2 trade.entryPrice} -> {fixedText 2 trade.exitPrice}  " ++
    s!"{sign}{fixedText 2 trade.returnPercent}%  {sign}${fixedText 0 trade.profit}  ({trade.exitReason.name})"

/-- The performance of a run, a line for each figure. -/
def Performance.lines (performance : Performance Float) : List String :=
  [s!"Final Equity:     ${fixedText 2 performance.finalEquity}",
    s!"Total Return:     {fixedText 2 performance.totalReturn}%",
    s!"Annualized:       {fixedText 2 performance.annualizedReturn}%",
    s!"Sharpe Ratio:     {fixedText 2 performance.sharpeRatio}",
    s!"Sortino Ratio:    {fixedText 2 performance.sortinoRatio}",
    s!"Max Drawdown:     {fixedText 1 performance.maxDrawdown}%",
    s!"Total Trades:     {performance.trades.total}",
    s!"Win Rate:         {fixedText 1 performance.trades.winRate}%",
    s!"Profit Factor:    {fixedText 2 performance.trades.profitFactor}",
    s!"p-value:          {fixedText 4 performance.significance.probability}",
    s!"Score:            {fixedText 1 performance.score} ({performance.grade.letter})"]

/-- A report for a reader. -/
def Report.lines (report : Report Float) : List String :=
  [s!"Backtest: {report.symbol} ({report.category}), {report.startDate} to {report.endDate}, {report.bars} bars"] ++
    report.intent.lines ++
    ["", "=== Results ===", s!"Initial Capital:  ${fixedText 2 report.initialCapital}"] ++
    report.performance.lines ++
    (if report.trades.isEmpty then [] else ["", "=== Trades ==="] ++ report.trades.map (·.line)) ++
    (if report.failures = 0 then []
      else ["", s!"warning: {report.failures} condition evaluations failed and were treated as no signal"]) ++
    (if report.cancelled then ["", "warning: run was cancelled before the end of data"] else [])

/-- A failure for a reader.  Open questions are listed. -/
def Failure.lines : Failure → List String
  | .clarification prompts => "The strategy needs more detail:" :: prompts.map ("  - " ++ ·)
  | failure => ["error: " ++ failure.message]

end PaperTrading
