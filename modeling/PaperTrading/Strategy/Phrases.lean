/-
Module: PaperTrading.Strategy.Phrases
Purpose: The phrases that are recognized in a strategy description.
Main exports: rsiMention, rsiThreshold, averageMention, averagePeriod, fifty, twoHundred, crossAbovePhrase,
  stopLossPhrase, takeProfitPhrase

The patterns are matched against text in lower case.  Each one that reads a number keeps that number.
-/
import PaperTrading.Text.Blank
import PaperTrading.Text.Pattern
import PaperTrading.Text.WordCharacter

namespace PaperTrading.Phrases

open Text Pattern

/-- The edge of a word. -/
def edge : Pattern := wordEdge isWordCharacter

/-- Blanks, if any. -/
def blanks : Pattern := repeated isBlank 0 none false

/-- One blank at least. -/
def someBlanks : Pattern := repeated isBlank 1 none false

/-- Blanks and hyphens, if any. -/
def joints : Pattern := repeated (fun c => isBlank c || c == '-') 0 none false

/-- One digit at least. -/
def digits : Pattern := repeated isDecimalDigit 1 none false

/-- Digits, perhaps with a point and further digits; kept. -/
def amount : Pattern :=
  kept (sequence digits (optional (sequence (word ".") digits)))

/-- Characters within a clause other than digits, as few as possible. -/
def clauseGap : Pattern :=
  repeated (fun c => !(c == ',' || c == ';' || c == '.' || isDecimalDigit c)) 0 none true

/-- The index by its name. -/
def rsiMention : Pattern := inOrder [edge, word "rsi", edge]

/-- The number that follows the name of the index, up to forty characters later.  A period that comes first, in
parentheses or by itself, is passed over when a threshold follows it. -/
def rsiThreshold : Pattern :=
  inOrder
    [optional
      (either (inOrder [blanks, word "(", blanks, digits, blanks, word ")"]) (inOrder [blanks, digits, someBlanks])),
      repeated (fun c => !isDecimalDigit c) 0 (some 40) true,
      amount]

/-- The short names of a moving average. -/
def averageName : Pattern :=
  anyOf (word "sma") [word "ema", word "ma", word "moving average"]

/-- A moving average by any of its names. -/
def averageMention : Pattern :=
  inOrder
    [edge,
      anyOf (word "sma")
        [word "ema", word "ma", sequence (word "moving average") (optional (word "s")), word "golden cross",
          word "death cross"],
      edge]

/-- A number before or after the name of a moving average. -/
def averagePeriod : Pattern :=
  either
    (inOrder
      [kept digits, joints, optional (anyOf (word "day") [word "period", word "bar"]), joints, averageName, edge])
    (inOrder [edge, averageName, blanks, optional (word "("), blanks, kept digits])

/-- The number 50 by itself. -/
def fifty : Pattern := inOrder [edge, word "50", edge]

/-- The number 200 by itself. -/
def twoHundred : Pattern := inOrder [edge, word "200", edge]

/-- A cross above something. -/
def crossAbovePhrase : Pattern :=
  inOrder [word "cross", optional (either (word "es") (word "ing")), someBlanks, word "above"]

/-- A percentage whose number is kept. -/
def percentage : Pattern := inOrder [amount, blanks, word "%"]

/-- A stop loss with a percentage after it in the same clause, or right before it. -/
def stopLossPhrase : Pattern :=
  either
    (inOrder [edge, word "stop", edge, clauseGap, edge, word "loss", edge, clauseGap, percentage])
    (inOrder [percentage, blanks, word "stop", joints, word "loss"])

/-- The words for a profit target. -/
def profitTarget : Pattern := inOrder [word "profit", joints, word "target"]

/-- A take profit with a percentage after it in the same clause, or right before it. -/
def takeProfitPhrase : Pattern :=
  either
    (inOrder
      [either
        (inOrder [edge, word "take", edge, clauseGap, edge, word "profit", optional (word "s")])
        (sequence edge profitTarget),
        edge, clauseGap, percentage])
    (inOrder [percentage, blanks, either (inOrder [word "take", joints, word "profit"]) profitTarget])

end PaperTrading.Phrases
