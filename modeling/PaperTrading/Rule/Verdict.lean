/-
Module: PaperTrading.Rule.Verdict
Purpose: Whether a rule holds on a day.
Main exports: Operand.value?, EntryPoint, movePercent?, Rule.holds, Budget, Budget.exceeded?, EvalProblem, Rule.evaluate

A rule reads its own day, the day before it, and the entry of the position it is asked about, if any.  An operand
whose value is undefined or not finite makes its comparison false.
-/
import PaperTrading.Market.Panel
import PaperTrading.Rule.Basic

namespace PaperTrading

open Arithmetic (whole finite? greater lesser)

variable {α : Type} [Arithmetic α]

/-- The value of an operand on a day, where every part of it is defined and finite. -/
def Operand.value? (row : PanelRow α) : Operand α → Option α
  | .column source => row.get source
  | .constant value => finite? value
  | .abs inner => (inner.value? row).bind fun x => finite? (Arithmetic.magnitude x)
  | .round inner => (inner.value? row).bind fun x => finite? (Arithmetic.nearest x)
  | .min first second =>
    (first.value? row).bind fun x => (second.value? row).bind fun y => finite? (lesser x y)
  | .max first second =>
    (first.value? row).bind fun x => (second.value? row).bind fun y => finite? (greater x y)
  | .scaled inner factor => (inner.value? row).bind fun x => finite? (x * factor)

/-- The order that a comparison looks for. -/
def Comparison.test (comparison : Comparison) (a b : α) : Bool :=
  match comparison with
  | .crossAbove | .above => Arithmetic.lt b a
  | .crossBelow | .below => Arithmetic.lt a b
  | .atOrAbove => Arithmetic.le b a
  | .atOrBelow => Arithmetic.le a b

/-- Whether a comparison looks at the day before as well. -/
def Comparison.isCross : Comparison → Bool
  | .crossAbove | .crossBelow => true
  | _ => false

/-- Whether both operands have values on a day, in the order a comparison looks for. -/
def Comparison.holdsOn (comparison : Comparison) (left right : Operand α) (row : PanelRow α) : Bool :=
  match left.value? row, right.value? row with
  | some a, some b => comparison.test a b
  | _, _ => false

/-- Whether both operands have values on a day, not in the order a comparison looks for. -/
def Comparison.failsOn (comparison : Comparison) (left right : Operand α) (row : PanelRow α) : Bool :=
  match left.value? row, right.value? row with
  | some a, some b => !comparison.test a b
  | _, _ => false

/-- A cross holds on the first day of the order it looks for: the order holds now, and did not the day before. -/
def Comparison.holds (comparison : Comparison) (left right : Operand α) (before : Option (PanelRow α))
    (now : PanelRow α) : Bool :=
  if comparison.isCross then
    comparison.holdsOn left right now && before.any fun row => comparison.failsOn left right row
  else
    comparison.holdsOn left right now

/-- What an exit rule knows of the position it may close. -/
structure EntryPoint (α : Type) where
  price : α
  index : Nat

/-- The move from the entry price in percent, for a price that can be divided by. -/
def movePercent? (price close : α) : Option α :=
  if !Arithmetic.isFinite price || Arithmetic.le price (whole 0) then none
  else finite? ((close - price) / price * whole 100)

mutual

/-- Whether a rule holds on the day `now`, which has the given index. -/
def Rule.holds (before : Option (PanelRow α)) (now : PanelRow α) (index : Nat)
    (entered : Option (EntryPoint α)) : Rule α → Bool
  | .compare comparison left right => comparison.holds left right before now
  | .all rules => Rule.allHold before now index entered rules
  | .any rules => Rule.anyHolds before now index entered rules
  | .warmup days => days ≤ index
  | .stopLoss percent =>
    (entered.bind fun e => movePercent? e.price now.closePrice).any fun move => Arithmetic.le move (-percent)
  | .takeProfit percent =>
    (entered.bind fun e => movePercent? e.price now.closePrice).any fun move => Arithmetic.le percent move

/-- Whether all rules of a list hold. -/
def Rule.allHold (before : Option (PanelRow α)) (now : PanelRow α) (index : Nat)
    (entered : Option (EntryPoint α)) : List (Rule α) → Bool
  | [] => true
  | rule :: rest =>
    Rule.holds before now index entered rule && Rule.allHold before now index entered rest

/-- Whether one rule of a list holds. -/
def Rule.anyHolds (before : Option (PanelRow α)) (now : PanelRow α) (index : Nat)
    (entered : Option (EntryPoint α)) : List (Rule α) → Bool
  | [] => false
  | rule :: rest =>
    Rule.holds before now index entered rule || Rule.anyHolds before now index entered rest

end

/-- The time that one decision may take. -/
inductive Budget where
  /-- More than any decision needs. -/
  | ample
  /-- Used up before the decision starts, out of so many milliseconds. -/
  | spent (milliseconds : Nat)
  /-- So many milliseconds, which run out on some days before the decision is reached. -/
  | scarce (milliseconds : Nat) (runsOut : (index : Nat) → Bool)

/-- The milliseconds that the decision of a day exceeds, if it does exceed them. -/
def Budget.exceeded? (budget : Budget) (index : Nat) : Option Nat :=
  match budget with
  | .ample => none
  | .spent milliseconds => some milliseconds
  | .scarce milliseconds runsOut => if runsOut index then some milliseconds else none

/-- Why a decision was not reached. -/
inductive EvalProblem where
  | timeout (milliseconds : Nat)
  | indexOutOfRange (index size : Nat)
deriving DecidableEq, Repr

/-- The wording of each problem. -/
def EvalProblem.message : EvalProblem → String
  | .timeout milliseconds => s!"condition evaluation exceeded its {milliseconds} ms budget"
  | .indexOutOfRange index size => s!"bar index {index} out of range for {size} bars"

/-- Whether a rule holds on the day with an index.  A missing day is noticed before a spent budget. -/
def Rule.evaluate (rule : Rule α) (panel : Array (PanelRow α)) (index : Nat) (entered : Option (EntryPoint α))
    (budget : Budget) : Except EvalProblem Bool :=
  match panel[index]? with
  | none => .error (.indexOutOfRange index panel.size)
  | some now =>
    match budget.exceeded? index with
    | some milliseconds => .error (.timeout milliseconds)
    | none => .ok (rule.holds (if index = 0 then none else panel[index - 1]?) now index entered)

end PaperTrading
