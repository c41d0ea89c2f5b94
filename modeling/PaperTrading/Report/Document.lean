/-
Module: PaperTrading.Report.Document
Purpose: Reports as JSON documents.
Main exports: Trade.document, Performance.document, IntentSummary.document, Report.document
-/
import PaperTrading.Backtest
import PaperTrading.Json.Value

namespace PaperTrading

/-- A list of texts. -/
def Json.texts (items : List String) : Json :=
  .list (items.map .text)

/-- A whole number that is not negative. -/
def Json.count (value : Nat) : Json :=
  .whole value

/-- A number that may be missing. -/
def Json.numberOrNull (value : Option Float) : Json :=
  match value with
  | some x => .number x
  | none => .null

/-- A date in its written form. -/
def Json.date (value : Date) : Json :=
  .text value.written

/-- The document of a trade. -/
def Trade.document (trade : Trade Float) : Json :=
  .object
    [("entry_date", .date trade.entryDate),
      ("exit_date", .date trade.exitDate),
      ("entry_price", .number trade.entryPrice),
      ("exit_price", .number trade.exitPrice),
      ("shares", .number trade.shares),
      ("return_pct", .number trade.returnPercent),
      ("profit", .number trade.profit),
      ("exit_reason", .text trade.exitReason.name),
      ("bars_held", .count trade.barsHeld)]

/-- The document of the parts of a score. -/
def ScoreParts.document (parts : ScoreParts Float) : Json :=
  .object
    [("returns", .number parts.returns),
      ("sharpe", .number parts.sharpe),
      ("sortino", .number parts.sortino),
      ("win_rate", .number parts.winRate),
      ("drawdown", .number parts.drawdown),
      ("consistency", .number parts.consistency),
      ("trade_count", .number parts.tradeCount)]

/-- The document of the performance of a run. -/
def Performance.document (performance : Performance Float) : Json :=
  .object
    [("total_return", .number performance.totalReturn),
      ("annualized_return", .number performance.annualizedReturn),
      ("sharpe_ratio", .number performance.sharpeRatio),
      ("sortino_ratio", .number performance.sortinoRatio),
      ("max_drawdown", .number performance.maxDrawdown),
      ("calmar_ratio", .number performance.calmarRatio),
      ("omega_ratio", .number performance.omegaRatio),
      ("recovery_factor", .number performance.recoveryFactor),
      ("ulcer_index", .number performance.ulcerIndex),
      ("var_95", .number performance.valueAtRisk),
      ("cvar_95", .number performance.expectedShortfall),
      ("total_trades", .count performance.trades.total),
      ("winning_trades", .count performance.trades.winning),
      ("losing_trades", .count performance.trades.losing),
      ("win_rate", .number performance.trades.winRate),
      ("avg_win", .number performance.trades.averageWin),
      ("avg_loss", .number performance.trades.averageLoss),
      ("gross_profit", .number performance.trades.grossProfit),
      ("gross_loss", .number performance.trades.grossLoss),
      ("net_profit", .number performance.trades.netProfit),
      ("profit_factor", .number performance.trades.profitFactor),
      ("expectancy", .number performance.trades.expectancy),
      ("kelly_criterion", .number performance.trades.kelly),
      ("max_consecutive_wins", .count performance.trades.longestWins),
      ("max_consecutive_losses", .count performance.trades.longestLosses),
      ("t_statistic", .number performance.significance.statistic),
      ("p_value", .number performance.significance.probability),
      ("is_significant", .bool performance.isSignificant),
      ("final_equity", .number performance.finalEquity),
      ("score_breakdown", performance.parts.document),
      ("composite_score", .number performance.score),
      ("quality_grade", .text performance.grade.letter)]

/-- The document of an intent in words. -/
def IntentSummary.document (summary : IntentSummary Float) : Json :=
  .object
    [("category", .text summary.category),
      ("indicators", .texts summary.indicators),
      ("entry_conditions", .texts summary.entryPhrases),
      ("exit_conditions", .texts summary.exitPhrases),
      ("stop_loss_pct", .numberOrNull summary.stopLoss),
      ("take_profit_pct", .numberOrNull summary.takeProfit),
      ("understood", .bool summary.understood),
      ("clarifications_needed", .texts summary.clarifications)]

/-- The document of a report. -/
def Report.document (report : Report Float) : Json :=
  .object
    [("symbol", .text report.symbol),
      ("category", .text report.category),
      ("start_date", .date report.startDate),
      ("end_date", .date report.endDate),
      ("initial_capital", .number report.initialCapital),
      ("bars", .count report.bars),
      ("intent", report.intent.document),
      ("generated_source", .text report.source),
      ("trades", .list (report.trades.map (·.document))),
      ("equity_curve", .list (report.equity.map .number)),
      ("metrics", report.performance.document),
      ("evaluation_failures", .count report.failures),
      ("cancelled", .bool report.cancelled)]

end PaperTrading
