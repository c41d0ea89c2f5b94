/-
Module: PaperTrading.Proofs.Rule.Numbers
Purpose: Rules whose numbers are read in another arithmetic.
Main exports: Operand.map, Rule.map, Rulebook.map, Rule.warmupBars_map

The numbers of a rule are read from its text in one arithmetic.  Questions about a run in another arithmetic, such as
one without rounding, are asked of the same rule with its numbers taken over.
-/
import PaperTrading.Rule.Rulebook

namespace PaperTrading

variable {α β : Type} (f : α → β)

/-- An operand with its numbers taken over into another arithmetic. -/
def Operand.map : Operand α → Operand β
  | .column source => .column source
  | .constant value => .constant (f value)
  | .abs inner => .abs inner.map
  | .round inner => .round inner.map
  | .min first second => .min first.map second.map
  | .max first second => .max first.map second.map
  | .scaled inner factor => .scaled inner.map (f factor)

mutual

/-- A rule with its numbers taken over into another arithmetic. -/
def Rule.map : Rule α → Rule β
  | .compare comparison left right => .compare comparison (left.map f) (right.map f)
  | .all rules => .all (Rule.mapEach rules)
  | .any rules => .any (Rule.mapEach rules)
  | .warmup days => .warmup days
  | .stopLoss percent => .stopLoss (f percent)
  | .takeProfit percent => .takeProfit (f percent)

/-- Some rules with their numbers taken over into another arithmetic. -/
def Rule.mapEach : List (Rule α) → List (Rule β)
  | [] => []
  | rule :: rest => Rule.map rule :: Rule.mapEach rest

end

/-- A rulebook with its numbers taken over into another arithmetic. -/
def Rulebook.map (rulebook : Rulebook α) : Rulebook β :=
  ⟨rulebook.source, rulebook.entry.map f, rulebook.exit.map f⟩

mutual

/-- No number of a rule has a say in its warm-up. -/
@[simp] theorem Rule.warmupBars_map : ∀ rule : Rule α, (rule.map f).warmupBars = rule.warmupBars
  | .compare _ _ _ | .any _ | .warmup _ | .stopLoss _ | .takeProfit _ => by
      simp only [map, warmupBars]
  | .all rules => by
      simp only [map, warmupBars]
      exact longestWarmup_mapEach rules

theorem Rule.longestWarmup_mapEach : ∀ rules : List (Rule α),
    Rule.longestWarmup (Rule.mapEach f rules) = Rule.longestWarmup rules
  | [] => by
      simp only [mapEach, longestWarmup]
  | rule :: rest => by
      simp only [mapEach, longestWarmup, warmupBars_map rule, longestWarmup_mapEach rest]

end

end PaperTrading
