/-
Module: PaperTrading.Strategy.Interpretation
Purpose: What a strategy description in plain words asks for.
Main exports: rsiNumerals, stopLossNumeral?, takeProfitNumeral?, interpret

Nothing is guessed: a description without an entry signal or without an exit signal is not understood, and the
intent says what to ask for.
-/
import PaperTrading.Market.Column
import PaperTrading.Strategy.Intent
import PaperTrading.Strategy.Phrases
import PaperTrading.Text.Casing
import PaperTrading.Text.Span

namespace PaperTrading

open Arithmetic (whole lt)
open Text (Excerpt)

/-- What to ask when there is no entry signal. -/
def buyPrompt : String :=
  "What should trigger a BUY? Describe an entry signal, " ++
    "e.g. 'RSI below 30' or 'MACD crosses above the signal line'."

/-- What to ask when there is no exit signal. -/
def sellPrompt : String :=
  "What should trigger a SELL? Describe an exit signal, " ++
    "e.g. 'RSI above 70' or 'price touches the upper Bollinger Band'."

/-- Whether a word occurs in a text. -/
def mentions (word : String) (text : List Char) : Bool :=
  Text.occursIn word.toList text

/-- The number that follows each mention of the index, read from the clause up to the next mention.  `stops` are
the ends of the mentions from this one on, and `starts` the starts of the ones after it. -/
def thresholdNumerals (text : List Char) : (mentions : List Text.Pattern.Found) → List Excerpt
  | [] => []
  | mention :: later =>
    let clause := text.drop mention.stop
    let clause := match later with
      | next :: _ => clause.take (next.start - mention.stop)
      | [] => clause
    let found := Phrases.rsiThreshold.matchAt? ⟨none, mention.stop, clause, none⟩
    (found.bind (·.excerpt)).toList ++ thresholdNumerals text later

/-- The numbers in a text that are read as thresholds of the index. -/
def rsiNumerals (text : List Char) : List Excerpt :=
  thresholdNumerals text (Phrases.rsiMention.findAll text)

/-- The number in a text that is read as the stop loss. -/
def stopLossNumeral? (text : List Char) : Option Excerpt :=
  (Phrases.stopLossPhrase.find? text).bind (·.excerpt)

/-- The number in a text that is read as the take profit. -/
def takeProfitNumeral? (text : List Char) : Option Excerpt :=
  (Phrases.takeProfitPhrase.find? text).bind (·.excerpt)

/-- The periods of the averages that the panel has. -/
def panelPeriods : List Nat := [20, 50, 200]

/-- The distance between two whole numbers. -/
def distance (a b : Nat) : Nat := (a - b) + (b - a)

/-- The panel period nearest to a period; the smaller of two that are equally near. -/
def nearestPeriod (period : Nat) : Nat :=
  panelPeriods.foldl
    (fun best candidate => if distance candidate period < distance best period then candidate else best) 20

/-- A period that a text can hold is below this bound. -/
def periodBound : Nat := Nat.pow 2 64

/-- The panel period of the moving average that a text names; 20 if it names none. -/
def namedPeriod (text : List Char) : Nat :=
  match (Phrases.averagePeriod.find? text).bind (·.excerpt) with
  | none => 20
  | some excerpt =>
    let value := Numeral.digitsValue excerpt.chars
    if excerpt.chars.all Char.isDigit && value < periodBound then nearestPeriod value else 20

section Conditions

variable {α : Type} [Arithmetic α] [Legible α]

/-- The number an excerpt spells in plain digits. -/
def Text.Excerpt.number? (excerpt : Excerpt) : Option α :=
  (Numeral.read? excerpt.chars).map Legible.ofNumeral

/-- What a description says about one indicator. -/
structure Mention (α : Type) where
  indicator : Indicator
  entries : List (Condition α)
  exits : List (Condition α)

/-- Thresholds below 40 are for entries, those above 60 for exits, and those between for neither. -/
def rsiMentioned (text : List Char) : Mention α :=
  let thresholds : List α := (rsiNumerals text).filterMap Text.Excerpt.number?
  ⟨.rsi,
    (thresholds.filter fun t => lt t (whole 40)).map .rsiBelow,
    (thresholds.filter fun t => !lt t (whole 40) && lt (whole 60) t).map .rsiAbove⟩

/-- A cross of the convergence line means both crosses. -/
def macdMentioned (text : List Char) : Mention α :=
  if mentions "cross" text then ⟨.macd, [.macdBullishCross], [.macdBearishCross]⟩ else ⟨.macd, [], []⟩

/-- The numbers 50 and 200 mean the two crosses of these averages; otherwise a cross above is one of the price. -/
def averageMentioned (text : List Char) : Mention α :=
  if Phrases.fifty.occursIn text && Phrases.twoHundred.occursIn text then
    ⟨.movingAverage, [.goldenCross], [.deathCross]⟩
  else if Phrases.crossAbovePhrase.occursIn text then
    ⟨.movingAverage, [.priceCrossAboveAverage (namedPeriod text)], []⟩
  else
    ⟨.movingAverage, [], []⟩

/-- The bands mean both touches. -/
def bollingerMentioned : Mention α :=
  ⟨.bollinger, [.bollingerLowerTouch], [.bollingerUpperTouch]⟩

/-- High volume, or a spike, confirms an entry. -/
def volumeMentioned (text : List Char) : Mention α :=
  if mentions "spike" text || mentions "high" text then ⟨.volume, [.volumeSpike], []⟩ else ⟨.volume, [], []⟩

/-- What a description in lower case says about each indicator that it names. -/
def mentionedIn (text : List Char) : List (Mention α) :=
  (if Phrases.rsiMention.occursIn text then [rsiMentioned text] else []) ++
    (if mentions "macd" text then [macdMentioned text] else []) ++
    (if Phrases.averageMention.occursIn text then [averageMentioned text] else []) ++
    (if mentions "bollinger" text then [bollingerMentioned] else []) ++
    (if mentions "volume" text then [volumeMentioned text] else [])

/-- The conditions of a list, each where it occurs first. -/
def distinctFrom (seen : List (Condition α)) : List (Condition α) → List (Condition α)
  | [] => []
  | condition :: rest =>
    if seen.contains condition then distinctFrom seen rest
    else condition :: distinctFrom (condition :: seen) rest

/-- What a strategy description asks for.  The category is only passed on. -/
def interpret (description category : String) : Intent α :=
  let text := Text.lowerCase description.toList
  let mentioned : List (Mention α) := mentionedIn text
  let entries := distinctFrom [] (mentioned.flatMap (·.entries))
  let exits := distinctFrom [] (mentioned.flatMap (·.exits))
  { category
    indicators := mentioned.map (·.indicator)
    entryConditions := entries
    exitConditions := exits
    stopLoss := some (((stopLossNumeral? text).bind Text.Excerpt.number?).getD defaultStopLoss)
    takeProfit := some (((takeProfitNumeral? text).bind Text.Excerpt.number?).getD defaultTakeProfit)
    understood := !entries.isEmpty && !exits.isEmpty
    clarifications :=
      (if entries.isEmpty then [buyPrompt] else []) ++ (if exits.isEmpty then [sellPrompt] else []) }

end Conditions

end PaperTrading
