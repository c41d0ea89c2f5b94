/-
Module: PaperTrading.Strategy.Draft
Purpose: Rule text for what a strategy description asks for.
Main exports: Condition.rule, Intent.entryRule, Intent.exitRule, Intent.draft

Entry conditions must all hold, after a warm-up that fills every column of the panel.  Of the exit conditions one
is enough; the stop loss and the take profit come first among them.
-/
import PaperTrading.Rule.Printed
import PaperTrading.Strategy.Intent

namespace PaperTrading

variable {α : Type} [Arithmetic α]

/-- No purchase before this day, so that every indicator of the panel has had its readings. -/
def draftWarmup : Nat := 200

/-- The rule for a condition. -/
def Condition.rule : Condition α → Rule α
  | .rsiBelow threshold => .compare .below (.column .rsi14) (.constant threshold)
  | .rsiAbove threshold => .compare .above (.column .rsi14) (.constant threshold)
  | .macdBullishCross => .compare .crossAbove (.column .macd) (.column .macdSignal)
  | .macdBearishCross => .compare .crossBelow (.column .macd) (.column .macdSignal)
  | .goldenCross => .compare .crossAbove (.column .sma50) (.column .sma200)
  | .deathCross => .compare .crossBelow (.column .sma50) (.column .sma200)
  | .priceCrossAboveAverage period =>
    .compare .crossAbove (.column .closePrice) (.column ((Column.movingAverage? period).getD .sma20))
  | .bollingerLowerTouch => .compare .atOrBelow (.column .closePrice) (.column .bandLower)
  | .bollingerUpperTouch => .compare .atOrAbove (.column .closePrice) (.column .bandUpper)
  | .volumeSpike => .compare .above (.column .volume) (.scaled (.column .volumeSma20) volumeSpikeFactor)

namespace Intent

/-- The rule for buying. -/
def entryRule (intent : Intent α) : Rule α :=
  .all (.warmup draftWarmup :: intent.entryConditions.map (·.rule))

/-- The rule for selling. -/
def exitRule (intent : Intent α) : Rule α :=
  .any
    (.stopLoss (intent.stopLoss.getD defaultStopLoss) ::
      .takeProfit (intent.takeProfit.getD defaultTakeProfit) ::
      intent.exitConditions.map (·.rule))

/-- Whether there is enough in an intent to write rules for it. -/
def isComplete {β : Type} (intent : Intent β) : Bool :=
  intent.understood && !intent.entryConditions.isEmpty && !intent.exitConditions.isEmpty

/-- The rule text for an intent, with a heading that names its indicators. -/
def sourceText [Legible α] (intent : Intent α) : String :=
  let indicators := if intent.indicators.isEmpty then "none"
    else ", ".intercalate (intent.indicators.map (·.heading))
  "# strategy rules\n" ++ "# indicators: " ++ indicators ++ "\n" ++
    Rule.assignment .entry intent.entryRule ++ Rule.assignment .exit intent.exitRule

/-- The rule text for a complete intent; otherwise what has to be asked first. -/
def draft [Legible α] (intent : Intent α) : Except (List String) String :=
  if intent.isComplete then .ok intent.sourceText else .error intent.clarifications

end Intent

end PaperTrading
