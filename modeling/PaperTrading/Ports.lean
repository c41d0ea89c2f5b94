/-
Module: PaperTrading.Ports
Purpose: A run with checked settings on the prices of a port.
Main exports: PricePort, Feed.port, RunSettings.request, RunSettings.pipeline
-/
import PaperTrading.Arithmetic.Binary64
import PaperTrading.Backtest
import PaperTrading.Settings.RunSettings

namespace PaperTrading

/-- A source of prices that may fail in any way: the bars of a symbol for days within a range. -/
abbrev PricePort (α : Type) := (symbol : String) → (first last : Date) → Except Failure (List (PriceBar α))

/-- A feed as a source of prices, which fails with problems of data alone. -/
def Feed.port {α : Type} (feed : Feed α) : PricePort α := fun symbol first last =>
  match feed symbol first last with
  | .error problem => .error (.data problem)
  | .ok bars => .ok bars

namespace RunSettings

variable (settings : RunSettings)

/-- The request to test a strategy with checked settings. -/
def request (description category : String) : Request Float where
  description := description
  category := category
  symbol := settings.symbol
  startDate := settings.startDate
  endDate := settings.endDate
  initialCapital := settings.initialCapital

/-- Tests a strategy with checked settings on the prices of a source. -/
def pipeline (prices : PricePort Float) (description category : String) (budget : Budget) (stopBefore : Progress → Bool) :
    Except Failure (Report Float) := do
  let request := settings.request description category
  let prepared ← request.ready
  let bars ← prices request.symbol request.startDate request.endDate
  request.report ⟨settings.commission, budget⟩ stopBefore prepared bars

end RunSettings

end PaperTrading
