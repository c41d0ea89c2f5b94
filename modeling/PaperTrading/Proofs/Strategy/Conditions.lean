/-
Module: PaperTrading.Proofs.Strategy.Conditions
Purpose: What the conditions of a strategy say about a panel, and that their rules say the same.
Main exports: Defines, Related, Crossing, Condition.HoldsAt, Condition.rule_holds_iff

The meaning of a condition is given on the entries of the panel alone, without operands, rules or text.
-/
import PaperTrading.Proofs.Rule.Verdict
import PaperTrading.Strategy.Draft

namespace PaperTrading

variable {α : Type} [Arithmetic α]

section Meaning

/-- A column has a finite entry on a day of the panel. -/
def Defines (panel : Array (PanelRow α)) (index : Nat) (column : Column) (value : α) : Prop :=
  ∃ row, panel[index]? = some row ∧ row.entry column = some value ∧ Arithmetic.isFinite value = true

/-- Two columns have finite entries on a day, and these are related. -/
def Related (relation : α → α → Prop) (panel : Array (PanelRow α)) (index : Nat) (left right : Column) :
    Prop :=
  ∃ a b, Defines panel index left a ∧ Defines panel index right b ∧ relation a b

/-- Two columns have finite entries on a day and on the day before, and are in order on the day only. -/
def Crossing (order : α → α → Bool) (panel : Array (PanelRow α)) (index : Nat) (left right : Column) : Prop :=
  Related (fun a b => order a b = true) panel index left right ∧
    ∃ day, index = day + 1 ∧ Related (fun a b => order a b = false) panel day left right

/-- The column for the moving average over a period.  The panel has three of them, and the shortest stands in
for all others. -/
def averageColumn : Nat → Column
  | 50 => .sma50
  | 200 => .sma200
  | _ => .sma20

/-- A value is above another. -/
def isAbove (a b : α) : Bool := Arithmetic.lt b a

/-- A value is below another. -/
def isBelow (a b : α) : Bool := Arithmetic.lt a b

/-- What a condition says about a day of the panel. -/
def Condition.HoldsAt (panel : Array (PanelRow α)) (index : Nat) : Condition α → Prop
  | rsiBelow threshold => ∃ strength, Defines panel index .rsi14 strength ∧ isBelow strength threshold = true
  | rsiAbove threshold => ∃ strength, Defines panel index .rsi14 strength ∧ isAbove strength threshold = true
  | macdBullishCross => Crossing isAbove panel index .macd .macdSignal
  | macdBearishCross => Crossing isBelow panel index .macd .macdSignal
  | goldenCross => Crossing isAbove panel index .sma50 .sma200
  | deathCross => Crossing isBelow panel index .sma50 .sma200
  | priceCrossAboveAverage period => Crossing isAbove panel index .closePrice (averageColumn period)
  | bollingerLowerTouch =>
    Related (fun close band => Arithmetic.le close band = true) panel index .closePrice .bandLower
  | bollingerUpperTouch =>
    Related (fun close band => Arithmetic.le band close = true) panel index .closePrice .bandUpper
  | volumeSpike =>
    Related
      (fun volume average =>
        Arithmetic.isFinite (average * volumeSpikeFactor) = true ∧
          isAbove volume (average * volumeSpikeFactor) = true)
      panel index .volume .volumeSma20

end Meaning

section Operands

variable {panel : Array (PanelRow α)} {index : Nat} {row : PanelRow α}

theorem value?_column_iff (day : panel[index]? = some row) (column : Column) (value : α) :
    (Operand.column column).value? row = some value ↔ Defines panel index column value := by
  simp only [Operand.value?, PanelRow.get, Option.bind_eq_some_iff, finite?_eq_some_iff, Defines, day]
  constructor
  · rintro ⟨entry, there, rfl, finite⟩
    exact ⟨row, rfl, there, finite⟩
  · rintro ⟨same, found, there, finite⟩
    cases found
    exact ⟨value, there, rfl, finite⟩

theorem averageColumn_eq (period : Nat) : (Column.movingAverage? period).getD .sma20 = averageColumn period := by
  unfold Column.movingAverage? averageColumn
  split <;> simp_all

end Operands

section Rules

variable {panel : Array (PanelRow α)} {index : Nat} {now : PanelRow α} (day : panel[index]? = some now)
  (entered : Option (EntryPoint α))
include day

/-- Two columns compared on a day. -/
theorem holds_columns_iff {comparison : Comparison} (steady : comparison.isCross = false)
    (left right : Column) :
    (Rule.compare comparison (.column left) (.column right)).holds (dayBefore panel index) now index entered =
        true ↔
      Related (fun a b => comparison.test a b = true) panel index left right := by
  rw [Rule.holds, Comparison.holds, steady, if_neg Bool.false_ne_true, Comparison.holdsOn_iff]
  simp only [value?_column_iff day, Related]

/-- Two columns compared on a day and the day before. -/
theorem holds_cross_iff {comparison : Comparison} (cross : comparison.isCross = true) (left right : Column) :
    (Rule.compare comparison (.column left) (.column right)).holds (dayBefore panel index) now index entered =
        true ↔
      Crossing comparison.test panel index left right := by
  rw [Rule.holds, Comparison.holds, if_pos cross, Bool.and_eq_true, Comparison.holdsOn_iff, Option.any_eq_true]
  simp only [value?_column_iff day, dayBefore_eq_some_iff, Comparison.failsOn_iff]
  constructor
  · rintro ⟨ordered, row, ⟨previous, rfl, there⟩, unordered⟩
    simp only [value?_column_iff there] at unordered
    exact ⟨ordered, previous, rfl, unordered⟩
  · rintro ⟨ordered, previous, rfl, unordered⟩
    obtain ⟨-, -, ⟨row, there, -⟩, -⟩ := id unordered
    refine ⟨ordered, row, ⟨previous, rfl, there⟩, ?_⟩
    simp only [value?_column_iff there]
    exact unordered

/-- A column compared with a finite number. -/
theorem holds_threshold_iff {comparison : Comparison} (steady : comparison.isCross = false) (column : Column)
    {threshold : α} (finite : Arithmetic.isFinite threshold = true) :
    (Rule.compare comparison (.column column) (.constant threshold)).holds (dayBefore panel index) now index
        entered = true ↔
      ∃ value, Defines panel index column value ∧ comparison.test value threshold = true := by
  have constant : ∀ value, (Operand.constant threshold).value? now = some value ↔ threshold = value := by
    intro value
    rw [Operand.value?, finite?_eq_some_iff, and_iff_left finite]
  rw [Rule.holds, Comparison.holds, steady, if_neg Bool.false_ne_true, Comparison.holdsOn_iff]
  simp only [value?_column_iff day, constant]
  constructor
  · rintro ⟨value, b, there, rfl, ordered⟩
    exact ⟨value, there, ordered⟩
  · rintro ⟨value, there, ordered⟩
    exact ⟨value, threshold, there, rfl, ordered⟩

/-- A column compared with a multiple of another. -/
theorem holds_scaled_iff {comparison : Comparison} (steady : comparison.isCross = false) (left right : Column)
    (factor : α) :
    (Rule.compare comparison (.column left) (.scaled (.column right) factor)).holds (dayBefore panel index) now
        index entered = true ↔
      Related (fun a b => Arithmetic.isFinite (b * factor) = true ∧ comparison.test a (b * factor) = true)
        panel index left right := by
  have product : ∀ value, (Operand.scaled (.column right) factor).value? now = some value ↔
      ∃ b, Defines panel index right b ∧ b * factor = value ∧ Arithmetic.isFinite (b * factor) = true := by
    intro value
    rw [Operand.value?, Option.bind_eq_some_iff]
    simp only [value?_column_iff day, finite?_eq_some_iff]
  rw [Rule.holds, Comparison.holds, steady, if_neg Bool.false_ne_true, Comparison.holdsOn_iff]
  simp only [value?_column_iff day, product, Related]
  constructor
  · rintro ⟨a, value, left, ⟨b, right, rfl, finite⟩, ordered⟩
    exact ⟨a, b, left, right, finite, ordered⟩
  · rintro ⟨a, b, left, right, finite, ordered⟩
    exact ⟨a, b * factor, left, ⟨b, right, rfl, finite⟩, ordered⟩

end Rules

/-- The numbers of a condition are finite. -/
def Condition.IsFinite : Condition α → Prop
  | rsiBelow threshold | rsiAbove threshold => Arithmetic.isFinite threshold = true
  | _ => True

/-- The rule for a condition holds where the condition does. -/
theorem Condition.rule_holds_iff {condition : Condition α} (finite : condition.IsFinite)
    {panel : Array (PanelRow α)} {index : Nat} {now : PanelRow α} (day : panel[index]? = some now)
    (entered : Option (EntryPoint α)) :
    condition.rule.holds (dayBefore panel index) now index entered = true ↔ condition.HoldsAt panel index := by
  cases condition with
  | rsiBelow threshold => exact holds_threshold_iff day entered rfl .rsi14 finite
  | rsiAbove threshold => exact holds_threshold_iff day entered rfl .rsi14 finite
  | macdBullishCross => exact holds_cross_iff day entered rfl .macd .macdSignal
  | macdBearishCross => exact holds_cross_iff day entered rfl .macd .macdSignal
  | goldenCross => exact holds_cross_iff day entered rfl .sma50 .sma200
  | deathCross => exact holds_cross_iff day entered rfl .sma50 .sma200
  | priceCrossAboveAverage period =>
      rw [rule, averageColumn_eq]
      exact holds_cross_iff day entered rfl .closePrice (averageColumn period)
  | bollingerLowerTouch => exact holds_columns_iff day entered rfl .closePrice .bandLower
  | bollingerUpperTouch => exact holds_columns_iff day entered rfl .closePrice .bandUpper
  | volumeSpike => exact holds_scaled_iff day entered rfl .volume .volumeSma20 volumeSpikeFactor

end PaperTrading
