/-
Module: PaperTrading.Proofs.Rule.Units
Purpose: In exact arithmetic a rule that compares prices with prices only gives the same verdicts in another unit.
Main exports: Dimension, Operand.dimension?, Rule.isCommensurate, Operand.value?_requote, Rule.evaluate_requote,
  Denomination.ofPrices, Rulebook.agree_ofPrices
-/
import Mathlib.Algebra.Order.Field.Basic
import PaperTrading.Proofs.Ledger.Rendering
import PaperTrading.Proofs.Market.Requoting
import PaperTrading.Proofs.Rule.Rendering

namespace PaperTrading

open Arithmetic (whole finite?)

section Dimensions

variable {α : Type}

/-- What a number measures, as far as the unit of prices goes. -/
inductive Dimension where
  /-- Something in the unit of prices. -/
  | price
  /-- Something that does not have that unit. -/
  | plain
deriving DecidableEq

/-- What a column measures. -/
def Column.dimension : Column → Dimension
  | .volume | .volumeSma20 | .rsi14 => .plain
  | _ => .price

/-- What an operand measures.  Prices that are rounded, and numbers of different dimensions put together, measure
nothing that would follow the unit. -/
def Operand.dimension? : Operand α → Option Dimension
  | .column source => some source.dimension
  | .constant _ => some .plain
  | .abs inner | .round inner => inner.dimension?.filter fun dimension => dimension == .plain
  | .min first second | .max first second => first.dimension?.filter fun dimension => second.dimension? == some dimension
  | .scaled inner _ => inner.dimension?

mutual

/-- Whether every comparison of a rule is between operands of one dimension. -/
def Rule.isCommensurate : Rule α → Bool
  | .compare _ left right => left.dimension?.any fun dimension => right.dimension? == some dimension
  | .all rules | .any rules => Rule.areCommensurate rules
  | .warmup _ | .stopLoss _ | .takeProfit _ => true

/-- Whether every comparison of some rules is between operands of one dimension. -/
def Rule.areCommensurate : List (Rule α) → Bool
  | [] => true
  | rule :: rest => rule.isCommensurate && Rule.areCommensurate rest

end

theorem Rule.areCommensurate_iff (rules : List (Rule α)) :
    Rule.areCommensurate rules = true ↔ ∀ rule ∈ rules, rule.isCommensurate = true := by
  induction rules with
  | nil => simp [areCommensurate]
  | cons rule rest ih => simp [areCommensurate, ih]

section Numbers

variable {β : Type} (f : α → β)

@[simp] theorem Operand.dimension?_map (operand : Operand α) : (operand.map f).dimension? = operand.dimension? := by
  induction operand with
  | column source => rfl
  | constant value => rfl
  | abs inner ih | round inner ih | scaled inner factor ih => simp only [map, dimension?, ih]
  | min first second ihFirst ihSecond | max first second ihFirst ihSecond =>
      simp only [map, dimension?, ihFirst, ihSecond]

mutual

/-- Only the columns of a rule decide whether it is commensurate. -/
@[simp] theorem Rule.isCommensurate_map : ∀ rule : Rule α, (rule.map f).isCommensurate = rule.isCommensurate
  | .compare _ _ _ => by
      simp only [map, isCommensurate, Operand.dimension?_map]
  | .all rules | .any rules => by
      simp only [map, isCommensurate]
      exact areCommensurate_mapEach rules
  | .warmup _ | .stopLoss _ | .takeProfit _ => by
      simp only [map, isCommensurate]

theorem Rule.areCommensurate_mapEach : ∀ rules : List (Rule α),
    Rule.areCommensurate (Rule.mapEach f rules) = Rule.areCommensurate rules
  | [] => by
      simp only [mapEach, areCommensurate]
  | rule :: rest => by
      simp only [mapEach, areCommensurate, isCommensurate_map rule, areCommensurate_mapEach rest]

end

end Numbers

end Dimensions

section Values

variable {K : Type} [LinearOrder K] [ExactArithmetic K]

/-- A number in another unit of prices. -/
def Dimension.rescale (c : K) : Dimension → K → K
  | .price, x => c * x
  | .plain, x => x

/-- The entry of a position in another unit of prices. -/
def EntryPoint.requote (c : K) (entered : EntryPoint K) : EntryPoint K :=
  ⟨c * entered.price, entered.index⟩

theorem PanelRow.get_requote (c : K) (row : PanelRow K) (column : Column) :
    (row.requote c).get column = (row.get column).map (column.dimension.rescale c) := by
  have finite : ∀ entry : Option K, entry.bind Arithmetic.finite? = entry := by
    intro entry
    cases entry with
    | none => rfl
    | some x => exact ExactArithmetic.finite?_eq x
  rw [get, get, finite, finite]
  cases column with
  | volume => rfl
  | rsi14 => exact (congrFun Option.map_id row.rsi14).symm
  | volumeSma20 => exact (congrFun Option.map_id row.volumeSma20).symm
  | _ => rfl

variable [IsStrictOrderedRing K] {c : K} (positive : 0 < c)
include positive

theorem Dimension.lt_rescale (dimension : Dimension) (a b : K) :
    Arithmetic.lt (dimension.rescale c a) (dimension.rescale c b) = Arithmetic.lt a b := by
  cases dimension with
  | price => exact ExactArithmetic.lt_scaled positive a b
  | plain => rfl

theorem Dimension.le_rescale (dimension : Dimension) (a b : K) :
    Arithmetic.le (dimension.rescale c a) (dimension.rescale c b) = Arithmetic.le a b := by
  cases dimension with
  | price => exact ExactArithmetic.le_scaled positive a b
  | plain => rfl

theorem Dimension.lesser_rescale (dimension : Dimension) (a b : K) :
    Arithmetic.lesser (dimension.rescale c a) (dimension.rescale c b) =
      dimension.rescale c (Arithmetic.lesser a b) := by
  cases dimension with
  | price => exact ExactArithmetic.lesser_scaled positive a b
  | plain => rfl

theorem Dimension.greater_rescale (dimension : Dimension) (a b : K) :
    Arithmetic.greater (dimension.rescale c a) (dimension.rescale c b) =
      dimension.rescale c (Arithmetic.greater a b) := by
  cases dimension with
  | price => exact ExactArithmetic.greater_scaled positive a b
  | plain => rfl

theorem Comparison.test_rescale (comparison : Comparison) (dimension : Dimension) (a b : K) :
    comparison.test (dimension.rescale c a) (dimension.rescale c b) = comparison.test a b := by
  cases comparison with
  | crossAbove | above => exact dimension.lt_rescale positive b a
  | crossBelow | below => exact dimension.lt_rescale positive a b
  | atOrAbove => exact dimension.le_rescale positive b a
  | atOrBelow => exact dimension.le_rescale positive a b

/-- The value of an operand follows the unit as its dimension says. -/
theorem Operand.value?_requote (row : PanelRow K) {operand : Operand K} {dimension : Dimension}
    (measures : operand.dimension? = some dimension) :
    operand.value? (row.requote c) = (operand.value? row).map (dimension.rescale c) := by
  induction operand generalizing dimension with
  | column source =>
      obtain rfl := Option.some.inj measures
      exact row.get_requote c source
  | constant value =>
      obtain rfl := Option.some.inj measures
      exact (congrFun Option.map_id (finite? value)).symm
  | abs inner ih | round inner ih =>
      obtain ⟨inside, plain⟩ := Option.filter_eq_some_iff.1 measures
      obtain rfl := beq_iff_eq.1 plain
      have same : (Dimension.plain.rescale c : K → K) = id := rfl
      rw [value?, value?, ih inside, same, Option.map_id]
      rfl
  | min first second ihFirst ihSecond | max first second ihFirst ihSecond =>
      obtain ⟨one, other⟩ := Option.filter_eq_some_iff.1 measures
      rw [value?, value?, ihFirst one, ihSecond (beq_iff_eq.1 other)]
      cases first.value? row with
      | none => rfl
      | some x =>
          cases second.value? row with
          | none => rfl
          | some y =>
              simp [ExactArithmetic.finite?_eq, dimension.lesser_rescale positive, dimension.greater_rescale positive]
  | scaled inner factor ih =>
      rw [value?, value?, ih measures]
      cases inner.value? row with
      | none => rfl
      | some x =>
          cases dimension with
          | price => simp [ExactArithmetic.finite?_eq, Dimension.rescale, mul_assoc]
          | plain => simp [ExactArithmetic.finite?_eq, Dimension.rescale]

end Values

section Verdicts

variable {K : Type} [LinearOrder K] [ExactArithmetic K] [IsStrictOrderedRing K] {c : K} (positive : 0 < c)
include positive

section Comparisons

variable {left right : Operand K} {dimension : Dimension} (one : left.dimension? = some dimension)
  (other : right.dimension? = some dimension) (comparison : Comparison)
include one other

theorem Comparison.holdsOn_requote (row : PanelRow K) :
    comparison.holdsOn left right (row.requote c) = comparison.holdsOn left right row := by
  rw [holdsOn, holdsOn, left.value?_requote positive row one, right.value?_requote positive row other]
  cases left.value? row with
  | none => rfl
  | some a =>
      cases right.value? row with
      | none => rfl
      | some b => exact comparison.test_rescale positive dimension a b

theorem Comparison.failsOn_requote (row : PanelRow K) :
    comparison.failsOn left right (row.requote c) = comparison.failsOn left right row := by
  rw [failsOn, failsOn, left.value?_requote positive row one, right.value?_requote positive row other]
  cases left.value? row with
  | none => rfl
  | some a =>
      cases right.value? row with
      | none => rfl
      | some b => exact congrArg (!·) (comparison.test_rescale positive dimension a b)

end Comparisons

/-- A move in percent has no unit. -/
theorem movePercent?_requote (price close : K) : movePercent? (c * price) (c * close) = movePercent? price close := by
  have move := movePercent?_rendered .refl (.scaled positive) price close
  rwa [Option.map_id] at move

variable (before : Option (PanelRow K)) (now : PanelRow K) (index : Nat) (entered : Option (EntryPoint K))

-- The theorems about lists use the order only through the one about rules.
set_option linter.unusedSectionVars false

mutual

/-- A commensurate rule gives the same verdict in another unit of prices. -/
theorem Rule.holds_requote : ∀ {rule : Rule K}, rule.isCommensurate = true →
    rule.holds (before.map (·.requote c)) (now.requote c) index (entered.map (·.requote c)) =
      rule.holds before now index entered
  | .compare comparison left right, commensurate => by
      obtain ⟨dimension, one, same⟩ := (Option.any_eq_true _ _).1 commensurate
      have other := beq_iff_eq.1 same
      rw [holds, holds, Comparison.holds, Comparison.holds, comparison.holdsOn_requote positive one other,
        Option.any_map]
      simp only [comparison.failsOn_requote positive one other]
  | .all rules, commensurate => by
      rw [holds, holds]
      exact allHold_requote commensurate
  | .any rules, commensurate => by
      rw [holds, holds]
      exact anyHolds_requote commensurate
  | .warmup days, _ => by
      rw [holds, holds]
  | .stopLoss percent, _ => by
      cases entered with
      | none => rw [holds, holds, Option.map_none]; rfl
      | some entered =>
          rw [holds, holds, Option.map_some, Option.bind_some, Option.bind_some]
          exact congrArg (Option.any _) (movePercent?_requote positive entered.price now.closePrice)
  | .takeProfit percent, _ => by
      cases entered with
      | none => rw [holds, holds, Option.map_none]; rfl
      | some entered =>
          rw [holds, holds, Option.map_some, Option.bind_some, Option.bind_some]
          exact congrArg (Option.any _) (movePercent?_requote positive entered.price now.closePrice)

theorem Rule.allHold_requote : ∀ {rules : List (Rule K)}, Rule.areCommensurate rules = true →
    Rule.allHold (before.map (·.requote c)) (now.requote c) index (entered.map (·.requote c)) rules =
      Rule.allHold before now index entered rules
  | [], _ => by
      rw [allHold, allHold]
  | rule :: rest, commensurate => by
      rw [areCommensurate, Bool.and_eq_true] at commensurate
      rw [allHold, allHold, holds_requote commensurate.1, allHold_requote commensurate.2]

theorem Rule.anyHolds_requote : ∀ {rules : List (Rule K)}, Rule.areCommensurate rules = true →
    Rule.anyHolds (before.map (·.requote c)) (now.requote c) index (entered.map (·.requote c)) rules =
      Rule.anyHolds before now index entered rules
  | [], _ => by
      rw [anyHolds, anyHolds]
  | rule :: rest, commensurate => by
      rw [areCommensurate, Bool.and_eq_true] at commensurate
      rw [anyHolds, anyHolds, holds_requote commensurate.1, anyHolds_requote commensurate.2]

end

/-- The verdict on a day is the same on the requoted panel. -/
theorem Rule.evaluate_requote {rule : Rule K} (commensurate : rule.isCommensurate = true)
    (panel : List (PanelRow K)) (budget : Budget) :
    rule.evaluate (panel.map (·.requote c)).toArray index (entered.map (·.requote c)) budget =
      rule.evaluate panel.toArray index entered budget :=
  evaluate_map _ (fun before now => holds_requote positive before now index entered commensurate) panel budget

end Verdicts

section Strategies

variable {K : Type} [LinearOrder K] [ExactArithmetic K] [IsStrictOrderedRing K] {c : K}

/-- Another unit of prices, and the same money. -/
def Denomination.ofPrices (c : K) : Denomination K K :=
  { plain := id
    price := (c * ·)
    money := id
    share := (· / c) }

variable (positive : 0 < c)
include positive

theorem Denomination.faithful_ofPrices : (ofPrices c).Faithful where
  rendered := .refl
  prices := .scaled positive
  money := Rendering.refl.quantity
  bought x p _ := div_mul_eq_div_div_swap x c p
  worth s p := by
    show s / c * (c * p) = s * p
    rw [← mul_assoc, div_mul_cancel₀ s positive.ne']

/-- Commensurate rules decide alike in any unit of prices. -/
theorem Rulebook.agree_ofPrices {rulebook : Rulebook K} (entry : rulebook.entry.isCommensurate = true)
    (exit : rulebook.exit.isCommensurate = true) (panel : List (PanelRow K)) (budget : Budget) :
    (rulebook.signals panel budget).Agree (.ofPrices c)
      (rulebook.signals (panel.map (·.requote c)) budget) where
  warmup := rfl
  enter index := Rule.evaluate_requote positive index none entry panel budget
  leave index price entryIndex := Rule.evaluate_requote positive index (some ⟨price, entryIndex⟩) exit panel budget

end Strategies

end PaperTrading
