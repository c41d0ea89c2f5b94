/-
Module: PaperTrading.Study.Label
Purpose: The studies by name and parameters.
Main exports: Study, Study.label
-/
import PaperTrading.Decimal.Reading

namespace PaperTrading

/-- A study and its parameters. -/
inductive Study where
  | simpleAverage (period : Nat)
  | volumeAverage (period : Nat)
  | exponentialAverage (period : Nat)
  | relativeStrength (period : Nat)
  | convergence (fast slow signal : Nat)
  | bands (period hundredths : Nat)
deriving DecidableEq, Repr

/-- The short name of a study with its parameters; the width of bands is given in deviations. -/
def Study.label : Study → String
  | .simpleAverage period => s!"SMA({period})"
  | .volumeAverage period => s!"VOLUME_SMA({period})"
  | .exponentialAverage period => s!"EMA({period})"
  | .relativeStrength period => s!"RSI({period})"
  | .convergence fast slow signal => s!"MACD({fast},{slow},{signal})"
  | .bands period hundredths =>
    let width := Legible.text (hundredths.toFloat / 100.0)
    s!"BOLLINGER({period},{width})"

end PaperTrading
