/-
Module: PaperTrading.Ledger.Simulation
Purpose: A run of a strategy over a panel, one day after the other, with one position at most.
Main exports: Signals, Terms, Book, Book.events, Book.step, RunResult, run, simulate

The decisions of a strategy enter a run only through `Signals`, as an outcome per day.  A day without an outcome
counts as a day without a signal.  Whether to go on is asked before each day, of a function that sees the day and
how much has happened so far.
-/
import PaperTrading.Ledger.Position
import PaperTrading.Rule.Rulebook

namespace PaperTrading

variable {α : Type}

/-- The decisions of a strategy: no purchase before the warm-up, and an outcome for each question after it. -/
structure Signals (α : Type) where
  warmup : Nat
  enter : (index : Nat) → Except EvalProblem Bool
  leave : (index : Nat) → EntryPoint α → Except EvalProblem Bool

/-- The money a run starts with, and the fee on each purchase and each sale. -/
structure Terms (α : Type) where
  capital : α
  fee : α

/-- The accounts of a run after some days. -/
structure Book (α : Type) where
  cash : α
  held : Option (Position α)
  trades : Array (Trade α)
  /-- The capital, then what the book was worth after each day. -/
  equity : Array α
  /-- Questions to the strategy that had no outcome. -/
  failures : Nat

/-- What is known before a day when it is asked whether to go on: the index of the day, and how many purchases,
sales and failures there have been. -/
structure Progress where
  index : Nat
  events : Nat

namespace Book

variable [Arithmetic α]

/-- The book before the first day. -/
def start (terms : Terms α) : Book α :=
  ⟨terms.capital, none, #[], #[terms.capital], 0⟩

/-- The purchases, sales and failures so far. -/
def events {β : Type} (book : Book β) : Nat :=
  2 * book.trades.size + (if book.held.isSome then 1 else 0) + book.failures

/-- The book after the sale of its position. -/
def sell (book : Book α) (terms : Terms α) (index : Nat) (row : PanelRow α) (position : Position α)
    (reason : ExitReason) : Book α :=
  { book with
    cash := position.proceeds row.closePrice terms.fee
    held := none
    trades := book.trades.push (position.close index row.date row.closePrice terms.fee reason) }

/-- The book after a purchase for all its cash, where one is possible. -/
def buy (book : Book α) (terms : Terms α) (index : Nat) (row : PanelRow α) : Book α :=
  match Position.openAllIn index row.date row.closePrice book.cash terms.fee with
  | some position => { book with cash := Arithmetic.whole 0, held := some position }
  | none => book

/-- The book after a question that had no outcome. -/
def fail {β : Type} (book : Book β) : Book β :=
  { book with failures := book.failures + 1 }

/-- The book after the decision of a day.  A purchase needs a day after the warm-up that is not the last; a sale
needs a day after the purchase. -/
def decide (signals : Signals α) (terms : Terms α) (index : Nat) (row : PanelRow α) (isLast : Bool)
    (book : Book α) : Book α :=
  match book.held with
  | none =>
    if signals.warmup ≤ index && !isLast then
      match signals.enter index with
      | .ok true => book.buy terms index row
      | .ok false => book
      | .error _ => book.fail
    else
      book
  | some position =>
    if position.entryIndex < index then
      match signals.leave index ⟨position.entryPrice, position.entryIndex⟩ with
      | .ok true => book.sell terms index row position .signal
      | .ok false => book
      | .error _ => book.fail
    else
      book

/-- The book after its position is closed, if it has one. -/
def settle (terms : Terms α) (index : Nat) (row : PanelRow α) (reason : ExitReason) (book : Book α) : Book α :=
  match book.held with
  | some position => book.sell terms index row position reason
  | none => book

/-- What the book is worth at the close of a day. -/
def worth (book : Book α) (row : PanelRow α) : α :=
  match book.held with
  | some position => position.marketValue row.closePrice
  | none => book.cash

/-- The book with the worth of a day written down. -/
def record (row : PanelRow α) (book : Book α) : Book α :=
  { book with equity := book.equity.push (book.worth row) }

/-- The book after a day: its decision, the forced sale if it is the last, and the worth at its close. -/
def step (signals : Signals α) (terms : Terms α) (index : Nat) (row : PanelRow α) (isLast : Bool)
    (book : Book α) : Book α :=
  let decided := book.decide signals terms index row isLast
  let settled := if isLast then decided.settle terms index row .endOfData else decided
  settled.record row

end Book

/-- What a run leaves behind. -/
structure RunResult (α : Type) where
  trades : List (Trade α)
  equity : List α
  barsProcessed : Nat
  failures : Nat
  cancelled : Bool

/-- The last point of the equity curve. -/
def RunResult.finalEquity [Arithmetic α] (result : RunResult α) : α :=
  result.equity.getLast?.getD (Arithmetic.whole 0)

/-- The result of a run that ends with this book. -/
def Book.finish (book : Book α) (barsProcessed : Nat) (cancelled : Bool) : RunResult α :=
  ⟨book.trades.toList, book.equity.toList, barsProcessed, book.failures, cancelled⟩

section Run

variable [Arithmetic α]

/-- Runs the days from an index on.  A run that is stopped with a position closes it on the day it was stopped
before, which then counts as processed. -/
def runFrom (signals : Signals α) (terms : Terms α) (stopBefore : Progress → Bool) (index : Nat) (book : Book α) :
    List (PanelRow α) → RunResult α
  | [] => book.finish index false
  | row :: later =>
    if stopBefore ⟨index, book.events⟩ then
      match book.held with
      | some _ => ((book.settle terms index row .cancelled).record row).finish (index + 1) true
      | none => book.finish index true
    else
      runFrom signals terms stopBefore (index + 1) (book.step signals terms index row later.isEmpty) later

/-- Runs a strategy over a panel. -/
def run (signals : Signals α) (terms : Terms α) (stopBefore : Progress → Bool) (panel : List (PanelRow α)) :
    RunResult α :=
  runFrom signals terms stopBefore 0 (Book.start terms) panel

/-- The decisions of a rulebook on a panel. -/
def Rulebook.signals (rulebook : Rulebook α) (panel : List (PanelRow α)) (budget : Budget) : Signals α :=
  let rows := panel.toArray
  { warmup := rulebook.warmupBars
    enter := fun index => rulebook.enters rows index budget
    leave := fun index entered => rulebook.leaves rows index entered budget }

/-- Runs a rulebook over a panel. -/
def simulate (rulebook : Rulebook α) (panel : List (PanelRow α)) (terms : Terms α) (budget : Budget)
    (stopBefore : Progress → Bool) : RunResult α :=
  run (rulebook.signals panel budget) terms stopBefore panel

end Run

end PaperTrading
