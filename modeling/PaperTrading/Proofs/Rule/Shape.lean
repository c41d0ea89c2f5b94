/-
Module: PaperTrading.Proofs.Rule.Shape
Purpose: Which rules have a text, how deep they are nested, and what their operands are without factors.
Main exports: Operand.isWritable, Operand.nesting, Rule.isWritable, Rule.nesting, Operand.core, Operand.factorCount
-/
import PaperTrading.Rule.Reader

namespace PaperTrading

section Writable

variable {α : Type} [Arithmetic α]

/-- Whether every number of an operand is finite. -/
def Operand.isWritable : Operand α → Bool
  | .column _ => true
  | .constant value => Arithmetic.isFinite value
  | .abs inner | .round inner => inner.isWritable
  | .min first second | .max first second => first.isWritable && second.isWritable
  | .scaled inner factor => inner.isWritable && Arithmetic.isFinite factor

mutual

/-- Whether every number of a rule is finite or a whole number of 64 bits, no percentage is negative,
and every combination joins two rules at least. -/
def Rule.isWritable : Rule α → Bool
  | .compare _ left right => left.isWritable && right.isWritable
  | .all rules | .any rules => 2 ≤ rules.length && Rule.areWritable rules
  | .warmup days => days ≤ largestInteger
  | .stopLoss percent | .takeProfit percent =>
    Arithmetic.isFinite percent && !Arithmetic.lt percent (Arithmetic.whole 0)

/-- Whether every rule of a list is writable. -/
def Rule.areWritable : List (Rule α) → Bool
  | [] => true
  | rule :: rest => rule.isWritable && Rule.areWritable rest

end

theorem Rule.areWritable_iff (rules : List (Rule α)) :
    Rule.areWritable rules = true ↔ ∀ rule ∈ rules, rule.isWritable = true := by
  induction rules with
  | nil => simp [areWritable]
  | cons rule rest ih => simp [areWritable, ih]

end Writable

section Nesting

variable {β : Type}

/-- The levels of an operand.  Each one counts, but a factor counts with what it scales. -/
def Operand.nesting : Operand β → Nat
  | .column _ | .constant _ => 1
  | .abs inner | .round inner => inner.nesting + 1
  | .min first second | .max first second => Max.max first.nesting second.nesting + 1
  | .scaled inner _ => inner.nesting

mutual

/-- The levels of a rule, those of its operands included. -/
def Rule.nesting : Rule β → Nat
  | .compare _ left right => max left.nesting right.nesting + 1
  | .all rules | .any rules => Rule.deepest rules + 1
  | .warmup _ | .stopLoss _ | .takeProfit _ => 1

/-- The levels of the deepest rule of a list. -/
def Rule.deepest : List (Rule β) → Nat
  | [] => 0
  | rule :: rest => max rule.nesting (Rule.deepest rest)

end

theorem Rule.deepest_le_iff (rules : List (Rule β)) (levels : Nat) :
    Rule.deepest rules ≤ levels ↔ ∀ rule ∈ rules, rule.nesting ≤ levels := by
  induction rules with
  | nil => simp [deepest]
  | cons rule rest ih => rw [deepest, Nat.max_le, ih, List.forall_mem_cons]

theorem Rule.lt_deepest_iff (rules : List (Rule β)) (levels : Nat) :
    levels < Rule.deepest rules ↔ ∃ rule ∈ rules, levels < rule.nesting := by
  induction rules with
  | nil => simp [deepest]
  | cons rule rest ih =>
      simp only [deepest, List.mem_cons, exists_eq_or_imp, ← ih]
      omega

theorem Operand.nesting_pos (operand : Operand β) : 0 < operand.nesting := by
  induction operand with
  | scaled inner factor ih => exact ih
  | _ => simp [nesting]

theorem Rule.nesting_pos (rule : Rule β) : 0 < rule.nesting := by
  cases rule <;> simp [nesting]

end Nesting

section Factors

variable {β : Type}

/-- The operand without the factors at its root. -/
def Operand.core : Operand β → Operand β
  | .scaled inner _ => inner.core
  | other => other

/-- The number of factors at the root. -/
def Operand.factorCount : Operand β → Nat
  | .scaled inner _ => inner.factorCount + 1
  | _ => 0

end Factors

end PaperTrading
