/-
Module: PaperTrading.Market.Panel
Purpose: Price bars together with the indicators that rules refer to.
Main exports: PanelRow, PanelRow.get, augment
-/
import PaperTrading.Market.Column
import PaperTrading.Market.PriceBar
import PaperTrading.Study.Bands
import PaperTrading.Study.Convergence
import PaperTrading.Study.RelativeStrength

namespace PaperTrading

open Arithmetic (finite?)

variable {α : Type} [Arithmetic α]

/-- One day of the panel.  An indicator is `none` until its study has seen enough days. -/
structure PanelRow (α : Type) where
  date : Date
  openPrice : α
  highPrice : α
  lowPrice : α
  closePrice : α
  volume : α
  sma20 : Option α
  sma50 : Option α
  sma200 : Option α
  ema12 : Option α
  ema26 : Option α
  rsi14 : Option α
  macd : Option α
  macdSignal : Option α
  bandUpper : Option α
  bandMiddle : Option α
  bandLower : Option α
  volumeSma20 : Option α

namespace PanelRow

/-- The entry of a column, finite or not. -/
def entry (row : PanelRow α) : Column → Option α
  | .openPrice => some row.openPrice
  | .highPrice => some row.highPrice
  | .lowPrice => some row.lowPrice
  | .closePrice => some row.closePrice
  | .volume => some row.volume
  | .sma20 => row.sma20
  | .sma50 => row.sma50
  | .sma200 => row.sma200
  | .ema12 => row.ema12
  | .ema26 => row.ema26
  | .rsi14 => row.rsi14
  | .macd => row.macd
  | .macdSignal => row.macdSignal
  | .bandUpper => row.bandUpper
  | .bandMiddle => row.bandMiddle
  | .bandLower => row.bandLower
  | .volumeSma20 => row.volumeSma20

/-- What a rule reads from a column: its entry, where there is one and it is finite. -/
def get (row : PanelRow α) (column : Column) : Option α :=
  (row.entry column).bind finite?

end PanelRow

/-- The readings of the studies that make up the panel, one per bar. -/
structure PanelReadings (α : Type) where
  sma20 : Array (Option α)
  sma50 : Array (Option α)
  sma200 : Array (Option α)
  ema12 : Array (Option α)
  ema26 : Array (Option α)
  rsi14 : Array (Option α)
  convergence : Array (Option (Convergence α))
  bands : Array (Option (Bands α))
  volumeSma20 : Array (Option α)

namespace PanelReadings

/-- The readings of each study of the panel on a series of bars. -/
def ofBars (bars : List (PriceBar α)) : PanelReadings α :=
  let closes := bars.map (·.closePrice)
  { sma20 := (rollingMean 20 closes).toArray
    sma50 := (rollingMean 50 closes).toArray
    sma200 := (rollingMean 200 closes).toArray
    ema12 := (exponentialAverage 12 closes).toArray
    ema26 := (exponentialAverage 26 closes).toArray
    rsi14 := (relativeStrength 14 closes).toArray
    convergence := (PaperTrading.convergence 12 26 9 closes).toArray
    bands := (PaperTrading.bands 20 200 closes).toArray
    volumeSma20 := (rollingMean 20 (bars.map (·.volume))).toArray }

/-- The row of the bar at an index.  Averages and the strength index are kept only where they are finite; the
convergence and the bands are kept as they are. -/
def row (readings : PanelReadings α) (index : Nat) (bar : PriceBar α) : PanelRow α :=
  let gap := readings.convergence[index]?.join
  let band := readings.bands[index]?.join
  { date := bar.date
    openPrice := bar.openPrice
    highPrice := bar.highPrice
    lowPrice := bar.lowPrice
    closePrice := bar.closePrice
    volume := bar.volume
    sma20 := readings.sma20[index]?.join.bind finite?
    sma50 := readings.sma50[index]?.join.bind finite?
    sma200 := readings.sma200[index]?.join.bind finite?
    ema12 := readings.ema12[index]?.join.bind finite?
    ema26 := readings.ema26[index]?.join.bind finite?
    rsi14 := readings.rsi14[index]?.join.bind finite?
    macd := gap.map (·.line)
    macdSignal := gap.map (·.signal)
    bandUpper := band.map (·.upper)
    bandMiddle := band.map (·.middle)
    bandLower := band.map (·.lower)
    volumeSma20 := readings.volumeSma20[index]?.join.bind finite? }

end PanelReadings

/-- The panel of a series of bars. -/
def augment (bars : List (PriceBar α)) : List (PanelRow α) :=
  let readings := PanelReadings.ofBars bars
  bars.mapIdx readings.row

end PaperTrading
