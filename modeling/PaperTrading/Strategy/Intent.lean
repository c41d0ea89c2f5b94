/-
Module: PaperTrading.Strategy.Intent
Purpose: What a strategy description asks for.
Main exports: Indicator, Condition, Condition.phrase, Intent, Intent.summary
-/
import PaperTrading.Arithmetic.Basic
import PaperTrading.Decimal.Numeral

namespace PaperTrading

open Arithmetic (whole)

/-- An indicator that a description can name. -/
inductive Indicator where
  | rsi
  | macd
  | movingAverage
  | bollinger
  | volume
deriving DecidableEq, Repr

namespace Indicator

/-- Every indicator, in the order in which they are listed. -/
def every : List Indicator :=
  [rsi, macd, movingAverage, bollinger, volume]

/-- The heading of an indicator. -/
def heading : Indicator → String
  | rsi => "RSI"
  | macd => "MACD"
  | movingAverage => "MA"
  | bollinger => "BOLLINGER"
  | volume => "VOLUME"

/-- The indicators of a list, each once and in the common order. -/
def listed (indicators : List Indicator) : List Indicator :=
  every.filter fun indicator => indicators.contains indicator

end Indicator

/-- A condition that a description can name. -/
inductive Condition (α : Type) where
  | rsiBelow (threshold : α)
  | rsiAbove (threshold : α)
  | macdBullishCross
  | macdBearishCross
  | goldenCross
  | deathCross
  | priceCrossAboveAverage (period : Nat)
  | bollingerLowerTouch
  | bollingerUpperTouch
  | volumeSpike
deriving BEq, DecidableEq, Repr

namespace Condition

/-- The indicator that a condition is about. -/
def indicator {α : Type} : Condition α → Indicator
  | rsiBelow _ | rsiAbove _ => .rsi
  | macdBullishCross | macdBearishCross => .macd
  | goldenCross | deathCross | priceCrossAboveAverage _ => .movingAverage
  | bollingerLowerTouch | bollingerUpperTouch => .bollinger
  | volumeSpike => .volume

/-- A condition in words. -/
def phrase {α : Type} [Legible α] : Condition α → String
  | rsiBelow threshold => s!"RSI below {Legible.text threshold} (oversold)"
  | rsiAbove threshold => s!"RSI above {Legible.text threshold} (overbought)"
  | macdBullishCross => "MACD crosses above signal line (bullish)"
  | macdBearishCross => "MACD crosses below signal line (bearish)"
  | goldenCross => "Golden Cross: 50-day MA crosses above 200-day MA"
  | deathCross => "Death Cross: 50-day MA crosses below 200-day MA"
  | priceCrossAboveAverage period => s!"Price crosses above {period}-day MA"
  | bollingerLowerTouch => "Price touches lower Bollinger Band"
  | bollingerUpperTouch => "Price touches upper Bollinger Band"
  | volumeSpike => "High volume confirmation"

end Condition

/-- What a description asks for, as far as it was understood. -/
structure Intent (α : Type) where
  category : String
  indicators : List Indicator
  entryConditions : List (Condition α)
  exitConditions : List (Condition α)
  stopLoss : Option α
  takeProfit : Option α
  understood : Bool
  clarifications : List String

/-- An intent in words. -/
structure IntentSummary (α : Type) where
  category : String
  indicators : List String
  entryPhrases : List String
  exitPhrases : List String
  stopLoss : Option α
  takeProfit : Option α
  understood : Bool
  clarifications : List String

/-- The words for each part of an intent. -/
def Intent.summary {α : Type} [Legible α] (intent : Intent α) : IntentSummary α :=
  { category := intent.category
    indicators := intent.indicators.map (·.heading)
    entryPhrases := intent.entryConditions.map (·.phrase)
    exitPhrases := intent.exitConditions.map (·.phrase)
    stopLoss := intent.stopLoss
    takeProfit := intent.takeProfit
    understood := intent.understood
    clarifications := intent.clarifications }

section Defaults

variable {α : Type} [Arithmetic α]

/-- The stop loss in percent where none is asked for. -/
def defaultStopLoss : α := whole 5

/-- The take profit in percent where none is asked for. -/
def defaultTakeProfit : α := whole 10

/-- How many times its average the volume must exceed to be a spike. -/
def volumeSpikeFactor : α := whole 3 / whole 2

end Defaults

end PaperTrading
