import PaperTrading.Arithmetic.Basic
import PaperTrading.Arithmetic.Binary64
import PaperTrading.Arithmetic.Statistics
import PaperTrading.Arithmetic.StudentT
import PaperTrading.Backtest
import PaperTrading.Calendar.Date
import PaperTrading.Calendar.Written
import PaperTrading.CommandLine.Answer
import PaperTrading.CommandLine.Invocation
import PaperTrading.CommandLine.Summary
import PaperTrading.CommandLine.Words
import PaperTrading.Decimal.Binary
import PaperTrading.Decimal.Numeral
import PaperTrading.Decimal.Reading
import PaperTrading.Decimal.Rounded
import PaperTrading.Decimal.Shortest
import PaperTrading.Failure
import PaperTrading.Json.Printed
import PaperTrading.Json.Value
import PaperTrading.Ledger.Position
import PaperTrading.Ledger.Simulation
import PaperTrading.Main
import PaperTrading.Market.Column
import PaperTrading.Market.Panel
import PaperTrading.Market.PriceBar
import PaperTrading.Performance.Equity
import PaperTrading.Performance.Score
import PaperTrading.Performance.Summary
import PaperTrading.Performance.TradeStatistics
import PaperTrading.Ports
import PaperTrading.PriceFile.Bars
import PaperTrading.PriceFile.Problem
import PaperTrading.PriceFile.Record
import PaperTrading.Report.Document
import PaperTrading.Rule.Basic
import PaperTrading.Rule.Misreading
import PaperTrading.Rule.Printed
import PaperTrading.Rule.Reader
import PaperTrading.Rule.Rulebook
import PaperTrading.Rule.Verdict
import PaperTrading.Settings.RunSettings
import PaperTrading.Settings.Sections
import PaperTrading.Storage.Access
import PaperTrading.Storage.Tree
import PaperTrading.Strategy.Draft
import PaperTrading.Strategy.Intent
import PaperTrading.Strategy.Interpretation
import PaperTrading.Strategy.Phrases
import PaperTrading.Study.Bands
import PaperTrading.Study.Convergence
import PaperTrading.Study.Label
import PaperTrading.Study.MovingAverage
import PaperTrading.Study.RelativeStrength
import PaperTrading.Text.Blank
import PaperTrading.Text.CaseTables
import PaperTrading.Text.Casing
import PaperTrading.Text.Pattern
import PaperTrading.Text.Span
import PaperTrading.Text.WordCharacter
import PaperTrading.Proofs.Decimal.ReadBack
import PaperTrading.Proofs.Rule.Shape
import PaperTrading.Proofs.Rule.Tokens
import PaperTrading.Proofs.Rule.OperandText
import PaperTrading.Proofs.Rule.ProgramText
import PaperTrading.Proofs.Rule.PlainText
import PaperTrading.Proofs.Arithmetic.Hundredths
import PaperTrading.Proofs.Rule.Compilation
import PaperTrading.Proofs.Rule.Verdict
import PaperTrading.Proofs.Strategy.Clauses
import PaperTrading.Proofs.Strategy.Conditions
import PaperTrading.Proofs.Strategy.Meaning
import PaperTrading.Proofs.Ledger.Days
import PaperTrading.Proofs.Ledger.Foresight
import PaperTrading.Proofs.Market.Causality
import PaperTrading.Proofs.Ledger.Day
import PaperTrading.Proofs.Ledger.Course
import PaperTrading.Proofs.Ledger.Schedule
import PaperTrading.Proofs.Ledger.EquityCurve
import PaperTrading.Proofs.Arithmetic.Exact
import PaperTrading.Proofs.Ledger.Reconciliation
import PaperTrading.Proofs.Report.WellFormed
import PaperTrading.Proofs.Ledger.Cancellation
import PaperTrading.Proofs.Rule.Unreadable
import PaperTrading.Proofs.Strategy.Limits
import PaperTrading.Proofs.Text.Matching
import PaperTrading.Proofs.Strategy.Numbers
import PaperTrading.Proofs.Strategy.Mentions
import PaperTrading.Proofs.Strategy.Admission
import PaperTrading.Proofs.Grammar.Language
import PaperTrading.Proofs.Grammar.Tokens
import PaperTrading.Proofs.Grammar.Operands
import PaperTrading.Proofs.Grammar.Rules
import PaperTrading.Proofs.Grammar.Programs
import PaperTrading.Proofs.Arithmetic.Saturated
import PaperTrading.Proofs.Rule.Rereading
import PaperTrading.Proofs.Rule.Numbers
import PaperTrading.Proofs.Rule.Units
import PaperTrading.Proofs.Strategy.PriceUnit
import PaperTrading.Proofs.Arithmetic.Scaling
import PaperTrading.Proofs.Market.Requoting
import PaperTrading.Proofs.Ledger.Rendering
import PaperTrading.Proofs.Performance.Rendering
import PaperTrading.Proofs.Rule.Rendering
import PaperTrading.Proofs.Arithmetic.Guarded
import PaperTrading.Proofs.Performance.MoneyUnit
import PaperTrading.Proofs.Arithmetic.Rendering
import PaperTrading.Proofs.Study.Rendering
import PaperTrading.Proofs.Market.Rendering
import PaperTrading.Proofs.Arithmetic.RationalRoots
import PaperTrading.Proofs.Report.Divisors
import PaperTrading.Proofs.Performance.ScoreBounds
import PaperTrading.Proofs.Report.Warmup
import PaperTrading.Proofs.Text.Search
import PaperTrading.Proofs.Strategy.Percentages
import PaperTrading.Proofs.Strategy.Thresholds
import PaperTrading.Proofs.Strategy.Phrasing
import PaperTrading.Proofs.Strategy.Understanding
import PaperTrading.Proofs.Strategy.Roles
import PaperTrading.Proofs.Arithmetic.NotFinite
import PaperTrading.Proofs.Rule.Definedness
import PaperTrading.Proofs.Ledger.Choices
import PaperTrading.Proofs.PriceFile.Listing
import PaperTrading.Proofs.Settings.Misspelled
import PaperTrading.Proofs.Arithmetic.Doubles
import PaperTrading.Proofs.Rule.Crossing
import PaperTrading.Proofs.Ledger.Questions
import PaperTrading.Proofs.Strategy.WellFormed
import PaperTrading.Proofs.Text.Lines
import PaperTrading.Proofs.Rule.ErrorPlaces
import PaperTrading.Proofs.Performance.Drawdown
import PaperTrading.Proofs.Performance.TradeStatistics
import PaperTrading.Proofs.Ledger.Gains
import PaperTrading.Proofs.Rule.Height
import PaperTrading.Proofs.Stages
import PaperTrading.Proofs.Performance.Streaks
import PaperTrading.Proofs.Ledger.Solvency
import PaperTrading.Proofs.PriceFile.Narrowing
import PaperTrading.Proofs.PriceFile.Confinement
import PaperTrading.Proofs.Settings.Accepted
import PaperTrading.Proofs.Study.WarmUp
import PaperTrading.Proofs.Study.WindowMean
import PaperTrading.Proofs.Study.WeightedAverage
import PaperTrading.Proofs.Study.StrengthHistory
import PaperTrading.Proofs.Market.Columns
import PaperTrading.Proofs.Rule.Locality
import PaperTrading.Proofs.Doubles.Rounding
import PaperTrading.Proofs.Doubles.Storage
import PaperTrading.Proofs.Doubles.Quantities
import PaperTrading.Proofs.Doubles.Cutting
import PaperTrading.Proofs.Doubles.Operations
import PaperTrading.Proofs.Doubles.Values
import PaperTrading.Proofs.Doubles.Reading
import PaperTrading.Proofs.Doubles.Interval
import PaperTrading.Proofs.Doubles.Writing
import PaperTrading.Proofs.Doubles.Laws
import PaperTrading.Proofs.Doubles.Strategies
