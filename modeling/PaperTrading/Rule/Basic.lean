/-
Module: PaperTrading.Rule.Basic
Purpose: Trading rules as trees, and the pair of rules that a strategy is.
Main exports: Operand, Comparison, Rule, Rule.same, Rule.warmupBars, Side, Program
-/
import PaperTrading.Market.Column

namespace PaperTrading

/-- A number that a rule computes from one day of the panel. -/
inductive Operand (α : Type) where
  | column (source : Column)
  | constant (value : α)
  | abs (inner : Operand α)
  | round (inner : Operand α)
  | min (first second : Operand α)
  | max (first second : Operand α)
  | scaled (inner : Operand α) (factor : α)
deriving BEq, Repr

/-- The ways a rule compares two operands: on one day, or from one day to the next. -/
inductive Comparison where
  | crossAbove
  | crossBelow
  | above
  | below
  | atOrAbove
  | atOrBelow
deriving DecidableEq, Repr

/-- A condition on a day of the panel, and on the position held. -/
inductive Rule (α : Type) where
  | compare (comparison : Comparison) (left right : Operand α)
  /-- All of the rules hold. -/
  | all (rules : List (Rule α))
  /-- One of the rules holds. -/
  | any (rules : List (Rule α))
  /-- So many days have passed. -/
  | warmup (days : Nat)
  /-- The price is this many percent below the entry. -/
  | stopLoss (percent : α)
  /-- The price is this many percent above the entry. -/
  | takeProfit (percent : α)


namespace Comparison

/-- Every comparison. -/
def every : List Comparison :=
  [crossAbove, crossBelow, above, below, atOrAbove, atOrBelow]

/-- The word for a comparison in rule text. -/
def keyword : Comparison → String
  | crossAbove => "CROSS_ABOVE"
  | crossBelow => "CROSS_BELOW"
  | above => "ABOVE"
  | below => "BELOW"
  | atOrAbove => "AT_OR_ABOVE"
  | atOrBelow => "AT_OR_BELOW"

/-- The comparison that a word stands for. -/
def ofKeyword? (word : String) : Option Comparison :=
  every.find? fun comparison => comparison.keyword == word

theorem ofKeyword?_keyword (comparison : Comparison) : ofKeyword? comparison.keyword = some comparison := by
  cases comparison <;> decide

theorem keyword_of_ofKeyword? {word : String} {comparison : Comparison}
    (h : ofKeyword? word = some comparison) : comparison.keyword = word := by
  have := List.find?_some h
  simpa using this

end Comparison

mutual

/-- Whether two rules are the same, tree and numbers. -/
def Rule.same {α : Type} [BEq α] : Rule α → Rule α → Bool
  | .compare comparison left right, .compare comparison' left' right' =>
    comparison == comparison' && left == left' && right == right'
  | .all rules, .all rules' => Rule.sameList rules rules'
  | .any rules, .any rules' => Rule.sameList rules rules'
  | .warmup days, .warmup days' => days == days'
  | .stopLoss percent, .stopLoss percent' => percent == percent'
  | .takeProfit percent, .takeProfit percent' => percent == percent'
  | _, _ => false

/-- Whether two lists of rules are the same. -/
def Rule.sameList {α : Type} [BEq α] : List (Rule α) → List (Rule α) → Bool
  | [], [] => true
  | rule :: rest, rule' :: rest' => rule.same rule' && Rule.sameList rest rest'
  | _, _ => false

end

instance {α : Type} [BEq α] : BEq (Rule α) := ⟨Rule.same⟩

mutual

/-- The longest warm-up that a rule demands by itself or through rules that must all hold. -/
def Rule.warmupBars {α : Type} : Rule α → Nat
  | .warmup days => days
  | .all rules => Rule.longestWarmup rules
  | _ => 0

/-- The longest warm-up among some rules. -/
def Rule.longestWarmup {α : Type} : List (Rule α) → Nat
  | [] => 0
  | rule :: rest => max rule.warmupBars (Rule.longestWarmup rest)

end

/-- The two decisions that a strategy makes. -/
inductive Side where
  | entry
  | exit
deriving DecidableEq, Repr

/-- The name that rule text gives to a decision. -/
def Side.name : Side → String
  | .entry => "entry_condition"
  | .exit => "exit_condition"

/-- The rules that a text assigns to the two decisions. -/
structure Program (α : Type) where
  entry : Option (Rule α)
  exit : Option (Rule α)

/-- The rule assigned to a decision. -/
def Program.get {α : Type} (program : Program α) : Side → Option (Rule α)
  | .entry => program.entry
  | .exit => program.exit

/-- The program with a rule assigned to a decision. -/
def Program.set {α : Type} (program : Program α) (rule : Rule α) : Side → Program α
  | .entry => { program with entry := some rule }
  | .exit => { program with exit := some rule }

end PaperTrading
