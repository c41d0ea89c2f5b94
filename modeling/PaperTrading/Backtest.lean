/-
Module: PaperTrading.Backtest
Purpose: The test of a strategy, from its description to a report.
Main exports: Request, prepare, Request.ready, Request.report, backtest, Report

The stages run in a fixed order and stop at the first failure: the request is checked, the description is
interpreted, drafted as rules and admitted, and only then are prices asked for.
-/
import PaperTrading.Failure
import PaperTrading.Ledger.Simulation
import PaperTrading.Performance.Summary
import PaperTrading.Strategy.Draft
import PaperTrading.Strategy.Interpretation

namespace PaperTrading

open Arithmetic (whole)

variable {α : Type} [Arithmetic α] [Legible α]

/-- A request to test a strategy. -/
structure Request (α : Type) where
  description : String
  category : String
  symbol : String
  startDate : Date
  endDate : Date
  initialCapital : α

/-- The terms of a test that are no part of a request. -/
structure TestTerms (α : Type) where
  commission : α
  budget : Budget

/-- A source of prices: the bars of a symbol for days within a range. -/
abbrev Feed (α : Type) := (symbol : String) → (first last : Date) → Except DataProblem (List (PriceBar α))

/-- A strategy that is ready to be run: what was asked for, and the rules for it. -/
structure Prepared (α : Type) where
  intent : Intent α
  rulebook : Rulebook α

/-- The rules for a description. -/
def prepare (description category : String) : Except Failure (Prepared α) :=
  let intent : Intent α := interpret description category
  match intent.draft with
  | .error prompts => .error (.clarification prompts)
  | .ok source =>
    match Rulebook.ofSource source with
    | .error refusal => .error (.refused refusal)
    | .ok rulebook => .ok ⟨intent, rulebook⟩

/-- The outcome of a test. -/
structure Report (α : Type) where
  symbol : String
  category : String
  startDate : Date
  endDate : Date
  initialCapital : α
  bars : Nat
  intent : IntentSummary α
  source : String
  trades : List (Trade α)
  equity : List α
  performance : Performance α
  failures : Nat
  cancelled : Bool

namespace Request

/-- Checks the parts of a request that prices do not decide. -/
def validate (request : Request α) : Except Failure Unit :=
  if Text.allBlank request.symbol then .error (.invalidSetting .symbolEmpty)
  else if !Arithmetic.isFinite request.initialCapital || Arithmetic.le request.initialCapital (whole 0) then
    .error (.invalidSetting .capitalNotPositive)
  else if request.endDate ≤ request.startDate then .error (.invalidSetting .startNotBeforeEnd)
  else .ok ()

/-- The rules for a valid request. -/
def ready (request : Request α) : Except Failure (Prepared α) := do
  request.validate
  prepare request.description request.category

/-- The report on a run of prepared rules over bars. -/
def report (request : Request α) (terms : TestTerms α) (stopBefore : Progress → Bool)
    (prepared : Prepared α) (bars : List (PriceBar α)) : Except Failure (Report α) :=
  if bars.isEmpty then .error (.noHistory request.symbol request.startDate request.endDate)
  else if !isAscending (bars.map (·.date)) then .error (.data (.notAscending request.symbol))
  else
    let panel := augment bars
    let result := simulate prepared.rulebook panel ⟨request.initialCapital, terms.commission⟩
      terms.budget stopBefore
    .ok
      { symbol := request.symbol
        category := request.category
        startDate := request.startDate
        endDate := request.endDate
        initialCapital := request.initialCapital
        bars := panel.length
        intent := prepared.intent.summary
        source := prepared.rulebook.source
        trades := result.trades
        equity := result.equity
        performance := Performance.compute result.trades result.equity request.initialCapital
        failures := result.failures
        cancelled := result.cancelled }

end Request

/-- Tests the strategy of a request on the prices of a feed. -/
def backtest (feed : Feed α) (request : Request α) (terms : TestTerms α) (stopBefore : Progress → Bool) :
    Except Failure (Report α) := do
  let prepared ← request.ready
  match feed request.symbol request.startDate request.endDate with
  | .error problem => .error (.data problem)
  | .ok bars => request.report terms stopBefore prepared bars

end PaperTrading
