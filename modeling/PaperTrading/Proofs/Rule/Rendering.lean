/-
Module: PaperTrading.Proofs.Rule.Rendering
Purpose: Rules give the same verdicts on a panel whose numbers are written in another arithmetic.
Main exports: EntryPoint.map, Rule.evaluate_map, Operand.value?_rendered, movePercent?_rendered,
  Rule.evaluate_rendered

The only division of a rule is by the entry price of the position that it is asked about, and only where that is
positive.
-/
import Mathlib.Algebra.Order.Field.Basic
import PaperTrading.Proofs.Market.Rendering
import PaperTrading.Proofs.Rule.Numbers
import PaperTrading.Rule.Verdict

namespace PaperTrading

open Arithmetic (whole)

/-- The entry of a position with its price written in another way. -/
def EntryPoint.map {α γ : Type} (f : α → γ) (entered : EntryPoint α) : EntryPoint γ :=
  ⟨f entered.price, entered.index⟩

section Days

variable {α γ : Type} [Arithmetic α] [Arithmetic γ] (f : PanelRow α → PanelRow γ) {rule : Rule α} {other : Rule γ}
  {index : Nat} {entered : Option (EntryPoint α)} {otherEntered : Option (EntryPoint γ)}

/-- A rule that holds on changed rows just where another holds on the rows has the same verdict on every day. -/
theorem Rule.evaluate_map
    (alike : ∀ before now, other.holds (before.map f) (f now) index otherEntered = rule.holds before now index entered)
    (panel : List (PanelRow α)) (budget : Budget) :
    other.evaluate (panel.map f).toArray index otherEntered budget =
      rule.evaluate panel.toArray index entered budget := by
  have rows : ∀ day : Nat, (panel.map f).toArray[day]? = panel.toArray[day]?.map f := by
    intro day
    rw [List.getElem?_toArray, List.getElem?_toArray, List.getElem?_map]
  rw [evaluate, evaluate, rows, rows]
  cases panel.toArray[index]? with
  | none => simp
  | some now =>
      have before : (if index = 0 then none else panel.toArray[index - 1]?.map f) =
          (if index = 0 then none else panel.toArray[index - 1]?).map f := by
        split
        · rfl
        · rfl
      simp only [Option.map_some, before, alike]

end Days

variable {K : Type} [LinearOrder K] [ExactArithmetic K] {β : Type} [Arithmetic β] {plain : K → β}
  (rendered : Rendering plain)

section Moves

variable {quantity : K → β} (measured : Quantity plain quantity)
include rendered measured

/-- A move is measured from a price that is above zero. -/
theorem movePercent?_rendered (price close : K) :
    movePercent? (quantity price) (quantity close) = (movePercent? price close).map plain := by
  rw [movePercent?, movePercent?, measured.isFinite, ExactArithmetic.isFinite_all, measured.le_zero]
  split
  case isTrue => rfl
  case isFalse above =>
    simp only [Bool.not_true, Bool.false_or, ExactArithmetic.le_iff, ExactArithmetic.whole_zero] at above
    rw [measured.sub, measured.ratio _ (lt_of_not_ge above).ne', rendered.whole, rendered.mul, rendered.finite?]

end Moves

section Values

include rendered

theorem PanelRow.get_rendered (row : PanelRow K) (column : Column) :
    (row.map plain plain).get column = (row.get column).map plain := by
  have entry : (row.map plain plain).entry column = (row.entry column).map plain := by
    cases column with
    | _ => rfl
  rw [get, get, entry, rendered.quantity.bind_finite?]

theorem Operand.value?_rendered (row : PanelRow K) (operand : Operand K) :
    (operand.map plain).value? (row.map plain plain) = (operand.value? row).map plain := by
  induction operand with
  | column source => exact row.get_rendered rendered source
  | constant value => exact rendered.finite? value
  | abs inner ih | round inner ih =>
      rw [map, value?, value?, ih]
      cases inner.value? row with
      | none => rfl
      | some x => simp only [Option.map_some, Option.bind_some, rendered.magnitude, rendered.nearest, rendered.finite?]
  | min first second ihFirst ihSecond | max first second ihFirst ihSecond =>
      rw [map, value?, value?, ihFirst, ihSecond]
      cases first.value? row with
      | none => rfl
      | some x =>
          cases second.value? row with
          | none => rfl
          | some y =>
              simp only [Option.map_some, Option.bind_some, rendered.quantity.lesser, rendered.quantity.greater,
                rendered.finite?]
  | scaled inner factor ih =>
      rw [map, value?, value?, ih]
      cases inner.value? row with
      | none => rfl
      | some x => simp only [Option.map_some, Option.bind_some, rendered.mul, rendered.finite?]

end Values

section Verdicts

section Comparisons

variable (comparison : Comparison) (left right : Operand K) (row : PanelRow K)
include rendered

theorem Comparison.test_rendered (a b : K) : comparison.test (plain a) (plain b) = comparison.test a b := by
  cases comparison with
  | crossAbove | above => exact rendered.lt b a
  | crossBelow | below => exact rendered.lt a b
  | atOrAbove => exact rendered.le b a
  | atOrBelow => exact rendered.le a b

theorem Comparison.holdsOn_rendered :
    comparison.holdsOn (left.map plain) (right.map plain) (row.map plain plain) =
      comparison.holdsOn left right row := by
  rw [holdsOn, holdsOn, left.value?_rendered rendered, right.value?_rendered rendered]
  cases left.value? row with
  | none => rfl
  | some a =>
      cases right.value? row with
      | none => rfl
      | some b => exact comparison.test_rendered rendered a b

theorem Comparison.failsOn_rendered :
    comparison.failsOn (left.map plain) (right.map plain) (row.map plain plain) =
      comparison.failsOn left right row := by
  rw [failsOn, failsOn, left.value?_rendered rendered, right.value?_rendered rendered]
  cases left.value? row with
  | none => rfl
  | some a =>
      cases right.value? row with
      | none => rfl
      | some b => exact congrArg (!·) (comparison.test_rendered rendered a b)

end Comparisons

variable (before : Option (PanelRow K)) (now : PanelRow K) (index : Nat) (entered : Option (EntryPoint K))

section Moves

include rendered

/-- A question about the move from the entry price. -/
theorem move_any_rendered (asks : β → Bool) :
    ((entered.map (·.map plain)).bind fun e => movePercent? e.price (now.map plain plain).closePrice).any asks =
      (entered.bind fun e => movePercent? e.price now.closePrice).any fun move => asks (plain move) := by
  cases entered with
  | none => rfl
  | some entered =>
      have move := movePercent?_rendered rendered rendered.quantity entered.price now.closePrice
      rw [Option.map_some, Option.bind_some, Option.bind_some]
      exact (congrArg (Option.any asks) move).trans Option.any_map

end Moves

include rendered

-- The theorems about lists use the rendering only through the one about rules.
set_option linter.unusedSectionVars false

mutual

theorem Rule.holds_rendered : ∀ rule : Rule K,
    (rule.map plain).holds (before.map (·.map plain plain)) (now.map plain plain) index
        (entered.map (·.map plain)) =
      rule.holds before now index entered
  | .compare comparison left right => by
      rw [map, holds, holds, Comparison.holds, Comparison.holds, comparison.holdsOn_rendered rendered,
        Option.any_map]
      simp only [comparison.failsOn_rendered rendered]
  | .all rules => by
      rw [map, holds, holds]
      exact allHold_rendered rules
  | .any rules => by
      rw [map, holds, holds]
      exact anyHolds_rendered rules
  | .warmup days => by
      rw [map, holds, holds]
  | .stopLoss percent => by
      rw [map, holds, holds, move_any_rendered rendered]
      simp only [rendered.neg, rendered.le]
  | .takeProfit percent => by
      rw [map, holds, holds, move_any_rendered rendered]
      simp only [rendered.le]

theorem Rule.allHold_rendered : ∀ rules : List (Rule K),
    Rule.allHold (before.map (·.map plain plain)) (now.map plain plain) index (entered.map (·.map plain))
        (Rule.mapEach plain rules) =
      Rule.allHold before now index entered rules
  | [] => by
      rw [mapEach, allHold, allHold]
  | rule :: rest => by
      rw [mapEach, allHold, allHold, holds_rendered rule, allHold_rendered rest]

theorem Rule.anyHolds_rendered : ∀ rules : List (Rule K),
    Rule.anyHolds (before.map (·.map plain plain)) (now.map plain plain) index (entered.map (·.map plain))
        (Rule.mapEach plain rules) =
      Rule.anyHolds before now index entered rules
  | [] => by
      rw [mapEach, anyHolds, anyHolds]
  | rule :: rest => by
      rw [mapEach, anyHolds, anyHolds, holds_rendered rule, anyHolds_rendered rest]

end

/-- The verdict on a day is the same on the panel in other numbers. -/
theorem Rule.evaluate_rendered (rule : Rule K) (panel : List (PanelRow K)) (budget : Budget) :
    (rule.map plain).evaluate (panel.map (·.map plain plain)).toArray index (entered.map (·.map plain)) budget =
      rule.evaluate panel.toArray index entered budget :=
  evaluate_map _ (fun before now => holds_rendered rendered before now index entered rule) panel budget

end Verdicts

end PaperTrading
