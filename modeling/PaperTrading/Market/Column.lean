/-
Module: PaperTrading.Market.Column
Purpose: The columns of the panel that rules refer to by name.
Main exports: Column, Column.all, Column.name, Column.ofName?, Column.movingAverage?
-/

namespace PaperTrading

/-- A column of the panel: the five raw ones, then the indicators. -/
inductive Column where
  | openPrice
  | highPrice
  | lowPrice
  | closePrice
  | volume
  | sma20
  | sma50
  | sma200
  | ema12
  | ema26
  | rsi14
  | macd
  | macdSignal
  | bandUpper
  | bandMiddle
  | bandLower
  | volumeSma20
deriving DecidableEq, Repr

namespace Column

/-- Every column, in panel order. -/
def all : List Column :=
  [openPrice, highPrice, lowPrice, closePrice, volume, sma20, sma50, sma200, ema12, ema26, rsi14, macd,
    macdSignal, bandUpper, bandMiddle, bandLower, volumeSma20]

/-- The name of a column in rule text. -/
def name : Column → String
  | openPrice => "open"
  | highPrice => "high"
  | lowPrice => "low"
  | closePrice => "close"
  | volume => "volume"
  | sma20 => "sma_20"
  | sma50 => "sma_50"
  | sma200 => "sma_200"
  | ema12 => "ema_12"
  | ema26 => "ema_26"
  | rsi14 => "rsi_14"
  | macd => "macd"
  | macdSignal => "macd_signal"
  | bandUpper => "bb_upper"
  | bandMiddle => "bb_middle"
  | bandLower => "bb_lower"
  | volumeSma20 => "volume_sma_20"

/-- The column with a name. -/
def ofName? (word : String) : Option Column :=
  all.find? fun column => column.name == word

/-- The column that holds the simple moving average over a period, if the panel has one. -/
def movingAverage? : Nat → Option Column
  | 20 => some sma20
  | 50 => some sma50
  | 200 => some sma200
  | _ => none

theorem mem_all (column : Column) : column ∈ all := by
  cases column <;> decide

theorem name_of_ofName? {word : String} {column : Column} (h : ofName? word = some column) :
    column.name = word := by
  have := List.find?_some h
  simpa using this

end Column

end PaperTrading
