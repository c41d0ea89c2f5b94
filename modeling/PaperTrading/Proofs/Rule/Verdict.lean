/-
Module: PaperTrading.Proofs.Rule.Verdict
Purpose: What the verdict on a rule says, and when it is reached.
Main exports: Comparison.holdsOn_iff, Rule.stopLoss_holds_iff, Rule.takeProfit_holds_iff, Rule.allHold_iff,
  Rule.anyHolds_iff, Rule.holds_of_lt_warmupBars, dayBefore, Rule.evaluate_eq, Rule.evaluate_ample
-/
import PaperTrading.Rule.Verdict

namespace PaperTrading

open Arithmetic (whole finite?)

variable {α : Type} [Arithmetic α]

section Comparisons

variable (comparison : Comparison) (left right : Operand α)

theorem Comparison.holdsOn_iff (row : PanelRow α) :
    comparison.holdsOn left right row = true ↔
      ∃ a b, left.value? row = some a ∧ right.value? row = some b ∧ comparison.test a b = true := by
  rw [holdsOn]
  cases left.value? row <;> cases right.value? row <;> simp

theorem Comparison.failsOn_iff (row : PanelRow α) :
    comparison.failsOn left right row = true ↔
      ∃ a b, left.value? row = some a ∧ right.value? row = some b ∧ comparison.test a b = false := by
  rw [failsOn]
  cases left.value? row <;> cases right.value? row <;> simp

end Comparisons

section Operands

theorem finite?_eq_some_iff {x y : α} : finite? x = some y ↔ x = y ∧ Arithmetic.isFinite x = true := by
  rw [finite?]
  split <;> simp_all

end Operands

section Moves

variable {price close : α} (finite : Arithmetic.isFinite price = true)
  (positive : Arithmetic.le price (whole 0) = false)
include finite positive

theorem movePercent?_any_iff (test : α → Bool) :
    (movePercent? price close).any test = true ↔
      Arithmetic.isFinite ((close - price) / price * whole 100) = true ∧
        test ((close - price) / price * whole 100) = true := by
  simp only [movePercent?, finite, positive, Bool.not_true, Bool.or_self, Option.any_eq_true]
  constructor
  · rintro ⟨move, same, passed⟩
    obtain ⟨rfl, bounded⟩ := finite?_eq_some_iff.1 same
    exact ⟨bounded, passed⟩
  · rintro ⟨bounded, passed⟩
    exact ⟨_, finite?_eq_some_iff.2 ⟨rfl, bounded⟩, passed⟩

variable (before : Option (PanelRow α)) (now : PanelRow α) (index entryIndex : Nat) (percent : α)

/-- A stop loss holds when the price has moved down by its percentage since the entry. -/
theorem Rule.stopLoss_holds_iff :
    (Rule.stopLoss percent).holds before now index (some ⟨price, entryIndex⟩) = true ↔
      Arithmetic.isFinite ((now.closePrice - price) / price * whole 100) = true ∧
        Arithmetic.le ((now.closePrice - price) / price * whole 100) (-percent) = true := by
  rw [Rule.holds]
  exact movePercent?_any_iff finite positive fun move => Arithmetic.le move (-percent)

/-- A take profit holds when the price has moved up by its percentage since the entry. -/
theorem Rule.takeProfit_holds_iff :
    (Rule.takeProfit percent).holds before now index (some ⟨price, entryIndex⟩) = true ↔
      Arithmetic.isFinite ((now.closePrice - price) / price * whole 100) = true ∧
        Arithmetic.le percent ((now.closePrice - price) / price * whole 100) = true := by
  rw [Rule.holds]
  exact movePercent?_any_iff finite positive fun move => Arithmetic.le percent move

end Moves

section Lists

variable (before : Option (PanelRow α)) (now : PanelRow α) (index : Nat) (entered : Option (EntryPoint α))

theorem Rule.allHold_iff (rules : List (Rule α)) :
    Rule.allHold before now index entered rules = true ↔
      ∀ rule ∈ rules, rule.holds before now index entered = true := by
  induction rules with
  | nil => simp [allHold]
  | cons rule rest ih => simp [allHold, ih]

theorem Rule.anyHolds_iff (rules : List (Rule α)) :
    Rule.anyHolds before now index entered rules = true ↔
      ∃ rule ∈ rules, rule.holds before now index entered = true := by
  induction rules with
  | nil => simp [anyHolds]
  | cons rule rest ih => simp [anyHolds, ih]

end Lists

section Warmup

variable (before : Option (PanelRow α)) (now : PanelRow α) (entered : Option (EntryPoint α)) {index : Nat}

mutual

/-- A rule does not hold before the warm-up that it demands. -/
theorem Rule.holds_of_lt_warmupBars : ∀ {rule : Rule α}, index < rule.warmupBars →
    rule.holds before now index entered = false
  | .all rules, early => by
      rw [warmupBars] at early
      rw [holds]
      exact allHold_of_lt_longestWarmup early
  | .warmup days, early => by
      rw [warmupBars] at early
      rw [holds]
      exact decide_eq_false (Nat.not_le_of_lt early)
  -- Every other rule demands no warm-up, so there is no day before it.
  | .compare _ _ _, early | .any _, early | .stopLoss _, early | .takeProfit _, early => by
      simp only [warmupBars, Nat.not_lt_zero] at early

/-- Rules do not all hold before the longest warm-up among them. -/
theorem Rule.allHold_of_lt_longestWarmup : ∀ {rules : List (Rule α)}, index < Rule.longestWarmup rules →
    Rule.allHold before now index entered rules = false
  | [], early => by
      simp only [longestWarmup, Nat.not_lt_zero] at early
  | rule :: rest, early => by
      rw [longestWarmup] at early
      rw [allHold]
      rcases Nat.lt_or_ge index rule.warmupBars with here | passed
      · rw [holds_of_lt_warmupBars here, Bool.false_and]
      · have later : index < Rule.longestWarmup rest := by omega
        rw [allHold_of_lt_longestWarmup later, Bool.and_false]

end

end Warmup

section Days

/-- The day before a day of a panel, if there is one. -/
def dayBefore {β : Type} (panel : Array (PanelRow β)) (index : Nat) : Option (PanelRow β) :=
  if index = 0 then none else panel[index - 1]?

theorem dayBefore_eq_some_iff {β : Type} {panel : Array (PanelRow β)} {index : Nat} {row : PanelRow β} :
    dayBefore panel index = some row ↔ ∃ day, index = day + 1 ∧ panel[day]? = some row := by
  cases index with
  | zero => simp [dayBefore]
  | succ day => simp [dayBefore]

variable (rule : Rule α) (entered : Option (EntryPoint α))

section Reached

variable {panel : Array (PanelRow α)} {index : Nat} {now : PanelRow α} (day : panel[index]? = some now)
include day

/-- A day of the panel has its verdict, unless the budget is exceeded first. -/
theorem Rule.evaluate_eq (budget : Budget) :
    rule.evaluate panel index entered budget =
      match budget.exceeded? index with
      | some milliseconds => .error (.timeout milliseconds)
      | none => .ok (rule.holds (dayBefore panel index) now index entered) := by
  simp only [evaluate, day]
  rfl

/-- In time a day of the panel has its verdict. -/
theorem Rule.evaluate_inTime {budget : Budget} (inTime : budget.exceeded? index = none) :
    rule.evaluate panel index entered budget = .ok (rule.holds (dayBefore panel index) now index entered) := by
  rw [rule.evaluate_eq entered day, inTime]

/-- With enough time every day of the panel has a verdict. -/
theorem Rule.evaluate_ample :
    rule.evaluate panel index entered .ample = .ok (rule.holds (dayBefore panel index) now index entered) :=
  rule.evaluate_inTime entered day rfl

end Reached

end Days

end PaperTrading
