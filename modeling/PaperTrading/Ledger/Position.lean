/-
Module: PaperTrading.Ledger.Position
Purpose: Positions, from the purchase to the trade that closes them.
Main exports: Position, Position.openAllIn, Position.close, Trade, ExitReason
-/
import PaperTrading.Arithmetic.Basic
import PaperTrading.Calendar.Date

namespace PaperTrading

open Arithmetic (whole)

variable {α : Type} [Arithmetic α]

/-- Why a position was closed. -/
inductive ExitReason where
  /-- The exit rule held. -/
  | signal
  /-- The last day was reached. -/
  | endOfData
  /-- The run was cancelled. -/
  | cancelled
deriving DecidableEq, Repr

/-- The word for each reason. -/
def ExitReason.name : ExitReason → String
  | .signal => "Signal"
  | .endOfData => "EndOfData"
  | .cancelled => "Cancelled"

/-- Shares that were bought and not sold yet. -/
structure Position (α : Type) where
  entryIndex : Nat
  entryDate : Date
  entryPrice : α
  shares : α
  entryFee : α

/-- A position that was closed. -/
structure Trade (α : Type) where
  entryDate : Date
  exitDate : Date
  entryPrice : α
  exitPrice : α
  shares : α
  /-- The move of the price in percent, without fees. -/
  returnPercent : α
  /-- What the sale brought in less what the purchase cost, with both fees. -/
  profit : α
  exitReason : ExitReason
  barsHeld : Nat

/-- A trade is won if it made money after fees. -/
def Trade.isWin (trade : Trade α) : Bool :=
  Arithmetic.lt (whole 0) trade.profit

namespace Position

/-- Spends all cash but the fee on shares.  There is no position if the price is no price to buy at, or if the
cash does not exceed the fee. -/
def openAllIn (index : Nat) (date : Date) (price cash fee : α) : Option (Position α) :=
  if !(Arithmetic.isFinite price && Arithmetic.lt (whole 0) price) || Arithmetic.le cash fee then none
  else some ⟨index, date, price, (cash - fee) / price, fee⟩

/-- What the purchase cost, with its fee. -/
def cost (position : Position α) : α :=
  position.shares * position.entryPrice + position.entryFee

/-- What the shares are worth at a price. -/
def marketValue (position : Position α) (price : α) : α :=
  position.shares * price

/-- What a sale at a price brings in after its fee. -/
def proceeds (position : Position α) (price fee : α) : α :=
  position.marketValue price - fee

/-- The trade that a sale at a price completes. -/
def close (position : Position α) (index : Nat) (date : Date) (price fee : α) (reason : ExitReason) : Trade α :=
  { entryDate := position.entryDate
    exitDate := date
    entryPrice := position.entryPrice
    exitPrice := price
    shares := position.shares
    returnPercent := (price - position.entryPrice) / position.entryPrice * whole 100
    profit := position.proceeds price fee - position.cost
    exitReason := reason
    barsHeld := index - position.entryIndex }

end Position

end PaperTrading
