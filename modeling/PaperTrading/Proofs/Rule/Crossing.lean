/-
Module: PaperTrading.Proofs.Rule.Crossing
Purpose: A cross holds on exactly the days on which one operand comes to exceed another.
Main exports: Operand.AreDefined, Operand.IsAtMost, Operand.Exceeds, crossAbove_iff, Operand.exists_crossing,
  crossings_complete

A cross looks for the strict order on its day, and for its negation on the day before.  Where both operands have values
the negation is the order the other way round, equality included, so nothing is lost between the two days.
-/
import PaperTrading.Proofs.Arithmetic.Doubles
import PaperTrading.Proofs.Rule.Verdict

namespace PaperTrading

open Arithmetic (isFinite finite? lt le)

section Values

variable {α : Type} [Arithmetic α] (left right : Operand α) (panel : Array (PanelRow α)) (day : Nat)

/-- The values of two operands on a day of a panel. -/
def Operand.HaveValues (a b : α) : Prop :=
  ∃ row, panel[day]? = some row ∧ left.value? row = some a ∧ right.value? row = some b

/-- Both operands have values on a day. -/
def Operand.AreDefined : Prop :=
  ∃ a b, left.HaveValues right panel day a b

/-- On a day both operands have values, and the first is less than or equal to the second. -/
def Operand.IsAtMost : Prop :=
  ∃ a b, left.HaveValues right panel day a b ∧ le a b = true

/-- On a day both operands have values, and the first is greater than the second. -/
def Operand.Exceeds : Prop :=
  ∃ a b, left.HaveValues right panel day a b ∧ lt b a = true

variable {left right panel day}

theorem Operand.isFinite_of_value? {operand : Operand α} {row : PanelRow α} {a : α}
    (known : operand.value? row = some a) : isFinite a = true := by
  have read {x : α} (same : finite? x = some a) : isFinite a = true := by
    obtain ⟨rfl, finite⟩ := finite?_eq_some_iff.1 same
    exact finite
  cases operand with
  | column source =>
      obtain ⟨entry, -, same⟩ := Option.bind_eq_some_iff.1 known
      exact read same
  | constant => exact read known
  | abs | round | scaled =>
      obtain ⟨x, -, same⟩ := Option.bind_eq_some_iff.1 known
      exact read same
  | min | max =>
      obtain ⟨x, -, known⟩ := Option.bind_eq_some_iff.1 known
      obtain ⟨y, -, same⟩ := Option.bind_eq_some_iff.1 known
      exact read same

/-- The values on a day are the only ones. -/
theorem Operand.HaveValues.unique {a b a' b' : α} (values : left.HaveValues right panel day a b)
    (others : left.HaveValues right panel day a' b') : a = a' ∧ b = b' := by
  obtain ⟨row, here, one, two⟩ := values
  obtain ⟨row', here', one', two'⟩ := others
  obtain rfl := Option.some.inj (here.symm.trans here')
  exact ⟨Option.some.inj (one.symm.trans one'), Option.some.inj (two.symm.trans two')⟩

theorem Operand.HaveValues.swap {a b : α} (values : left.HaveValues right panel day a b) :
    right.HaveValues left panel day b a := by
  obtain ⟨row, here, one, two⟩ := values
  exact ⟨row, here, two, one⟩

theorem Operand.AreDefined.swap (defined : left.AreDefined right panel day) : right.AreDefined left panel day := by
  obtain ⟨a, b, values⟩ := defined
  exact ⟨b, a, values.swap⟩

end Values

section Mirror

variable {α : Type} [Arithmetic α] (left right : Operand α)

theorem Comparison.holds_of_isCross {comparison : Comparison} (cross : comparison.isCross = true)
    (before : Option (PanelRow α)) (now : PanelRow α) :
    comparison.holds left right before now =
      (comparison.holdsOn left right now && before.any fun row => comparison.failsOn left right row) :=
  if_pos cross

theorem Comparison.holdsOn_mirror (row : PanelRow α) :
    crossAbove.holdsOn left right row = crossBelow.holdsOn right left row := by
  rw [holdsOn, holdsOn]
  cases left.value? row <;> cases right.value? row <;> rfl

theorem Comparison.failsOn_mirror (row : PanelRow α) :
    crossAbove.failsOn left right row = crossBelow.failsOn right left row := by
  rw [failsOn, failsOn]
  cases left.value? row <;> cases right.value? row <;> rfl

/-- One operand crosses above another on the days on which the other crosses below it. -/
theorem Rule.evaluate_cross_mirror (panel : Array (PanelRow α)) (index : Nat) (entered : Option (EntryPoint α))
    (budget : Budget) :
    (Rule.compare .crossAbove left right).evaluate panel index entered budget =
      (Rule.compare .crossBelow right left).evaluate panel index entered budget := by
  have same (before : Option (PanelRow α)) (now : PanelRow α) :
      Comparison.holds .crossAbove left right before now = Comparison.holds .crossBelow right left before now := by
    rw [Comparison.holds_of_isCross left right rfl, Comparison.holds_of_isCross right left rfl,
      Comparison.holdsOn_mirror, funext (Comparison.failsOn_mirror left right)]
  simp only [evaluate, holds, same]

/-- A verdict that was reached in time is the verdict. -/
theorem Rule.evaluate_ample_of_ok {rule : Rule α} {panel : Array (PanelRow α)} {index : Nat}
    {entered : Option (EntryPoint α)} {budget : Budget} {verdict : Bool}
    (decided : rule.evaluate panel index entered budget = .ok verdict) :
    rule.evaluate panel index entered .ample = .ok verdict := by
  cases here : panel[index]? with
  | none =>
      simp only [evaluate, here] at decided
      cases decided
  | some now =>
      rw [rule.evaluate_ample entered here]
      rw [rule.evaluate_eq entered here] at decided
      cases exceeded : budget.exceeded? index with
      | none =>
          rw [exceeded] at decided
          exact decided
      | some milliseconds =>
          rw [exceeded] at decided
          cases decided

end Mirror

section Crossings

variable {left right : Operand Float} {panel : Array (PanelRow Float)} {day first last : Nat}

theorem Operand.HaveValues.lt_iff {a b : Float} (values : left.HaveValues right panel day a b) :
    lt b a = true ↔ le a b = false := by
  obtain ⟨row, -, one, two⟩ := values
  exact doubles_lt_iff (isFinite_of_value? two) (isFinite_of_value? one)

/-- Two operands with values are in one order or in the other. -/
theorem Operand.AreDefined.isAtMost_or_exceeds (defined : left.AreDefined right panel day) :
    left.IsAtMost right panel day ∨ left.Exceeds right panel day := by
  obtain ⟨a, b, values⟩ := defined
  cases ordered : le a b with
  | true => exact .inl ⟨a, b, values, ordered⟩
  | false => exact .inr ⟨a, b, values, values.lt_iff.2 ordered⟩

theorem Operand.IsAtMost.not_exceeds (atMost : left.IsAtMost right panel day) : ¬ left.Exceeds right panel day := by
  rintro ⟨a, b, values, greater⟩
  obtain ⟨a', b', same, ordered⟩ := atMost
  obtain ⟨rfl, rfl⟩ := values.unique same
  rw [values.lt_iff.1 greater] at ordered
  cases ordered

theorem Operand.Exceeds.asymm (exceeds : left.Exceeds right panel day) : ¬ right.Exceeds left panel day := by
  rintro ⟨b, a, values, less⟩
  obtain ⟨a', b', same, greater⟩ := exceeds
  obtain ⟨rfl, rfl⟩ := values.swap.unique same
  rw [doubles_lt_asymm greater] at less
  cases less

/-- One operand crosses above another on a day if it exceeds it then, and did not on the day before. -/
theorem crossAbove_iff (entered : Option (EntryPoint Float)) :
    (Rule.compare .crossAbove left right).evaluate panel day entered .ample = .ok true ↔
      ∃ before, day = before + 1 ∧ left.IsAtMost right panel before ∧ left.Exceeds right panel day := by
  constructor
  · intro held
    cases here : panel[day]? with
    | none =>
        simp only [Rule.evaluate, here] at held
        cases held
    | some now =>
        rw [Rule.evaluate_ample _ entered here, Except.ok.injEq, Rule.holds, Comparison.holds_of_isCross _ _ rfl,
          Bool.and_eq_true, Comparison.holdsOn_iff, Option.any_eq_true] at held
        obtain ⟨⟨a, b, one, two, greater⟩, row, yesterday, failed⟩ := held
        obtain ⟨before, rfl, there⟩ := dayBefore_eq_some_iff.1 yesterday
        obtain ⟨c, d, three, four, notGreater⟩ := (Comparison.failsOn_iff _ _ _ _).1 failed
        have values : left.HaveValues right panel before c d := ⟨row, there, three, four⟩
        have atMost : le c d = true := by
          rw [← Bool.not_eq_false, ← values.lt_iff]
          exact Bool.eq_false_iff.1 notGreater
        exact ⟨before, rfl, ⟨c, d, values, atMost⟩, a, b, ⟨now, here, one, two⟩, greater⟩
  · rintro ⟨before, rfl, ⟨c, d, values, atMost⟩, a, b, ⟨now, here, one, two⟩, greater⟩
    have notGreater : lt d c = false := by
      rw [← Bool.not_eq_true, values.lt_iff, atMost]
      exact Bool.noConfusion
    obtain ⟨row, there, three, four⟩ := values
    rw [Rule.evaluate_ample _ entered here, Except.ok.injEq, Rule.holds, Comparison.holds_of_isCross _ _ rfl,
      Bool.and_eq_true, Comparison.holdsOn_iff, Option.any_eq_true]
    exact ⟨⟨a, b, one, two, greater⟩, row, dayBefore_eq_some_iff.2 ⟨before, rfl, there⟩,
      (Comparison.failsOn_iff _ _ _ _).2 ⟨c, d, three, four, notGreater⟩⟩

/-- An operand that comes to exceed another, with values on all the days between, does so from one day to the next. -/
theorem Operand.exists_crossing (later : first ≤ last)
    (defined : ∀ day, first ≤ day → day ≤ last → left.AreDefined right panel day)
    (start : left.IsAtMost right panel first) (stop : left.Exceeds right panel last) :
    ∃ day, first ≤ day ∧ day < last ∧ left.IsAtMost right panel day ∧ left.Exceeds right panel (day + 1) := by
  -- By induction on the last day: the day before it ends the search, or is a day to search up to.
  induction later with
  | refl => exact absurd stop start.not_exceeds
  | @step yesterday later ih =>
      obtain atMost | exceeds := (defined yesterday later (Nat.le_succ yesterday)).isAtMost_or_exceeds
      · exact ⟨yesterday, later, Nat.lt_succ_self yesterday, atMost, stop⟩
      · have known (day : Nat) (after : first ≤ day) (before : day ≤ yesterday) : left.AreDefined right panel day :=
          defined day after (Nat.le_succ_of_le before)
        obtain ⟨day, after, before, crossing⟩ := ih known exceeds
        exact ⟨day, after, Nat.lt_succ_of_lt before, crossing⟩

theorem exists_crossAbove (later : first < last)
    (defined : ∀ day, first ≤ day → day ≤ last → left.AreDefined right panel day)
    (start : left.IsAtMost right panel first) (stop : left.Exceeds right panel last)
    (entered : Option (EntryPoint Float)) :
    ∃ day, first < day ∧ day ≤ last ∧
      (Rule.compare .crossAbove left right).evaluate panel day entered .ample = .ok true := by
  obtain ⟨day, after, before, atMost, exceeds⟩ := Operand.exists_crossing (Nat.le_of_lt later) defined start stop
  exact ⟨day + 1, Nat.lt_succ_of_le after, before, (crossAbove_iff entered).2 ⟨day, rfl, atMost, exceeds⟩⟩

/-- No crossing is missed, and none contradicts another.  Between a day on which one operand is at most the other and a
later one on which it exceeds it, with values on all the days between, there is a day on which it crosses above; the
same holds below.  Crosses above are the crosses below of the operands the other way round, no day has both, and between
two crosses above there is a day on which the operand is at most the other. -/
theorem crossings_complete (left right : Operand Float) (panel : Array (PanelRow Float))
    (entered : Option (EntryPoint Float)) :
    let above : Rule Float := .compare .crossAbove left right
    let below : Rule Float := .compare .crossBelow left right
    (∀ first last, first < last → (∀ day, first ≤ day → day ≤ last → left.AreDefined right panel day) →
        (left.IsAtMost right panel first → left.Exceeds right panel last →
            ∃ day, first < day ∧ day ≤ last ∧ above.evaluate panel day entered .ample = .ok true) ∧
          (right.IsAtMost left panel first → right.Exceeds left panel last →
            ∃ day, first < day ∧ day ≤ last ∧ below.evaluate panel day entered .ample = .ok true)) ∧
      (∀ day budget, above.evaluate panel day entered budget =
        (Rule.compare .crossBelow right left).evaluate panel day entered budget) ∧
      (∀ day budget, ¬ (above.evaluate panel day entered budget = .ok true ∧
        below.evaluate panel day entered budget = .ok true)) ∧
      ∀ first last, first < last → above.evaluate panel first entered .ample = .ok true →
        above.evaluate panel last entered .ample = .ok true →
          ∃ day, first < day ∧ day < last ∧ left.IsAtMost right panel day := by
  intro above below
  have mirror (day : Nat) (budget : Budget) : below.evaluate panel day entered budget =
      (Rule.compare .crossAbove right left).evaluate panel day entered budget :=
    (Rule.evaluate_cross_mirror right left panel day entered budget).symm
  refine ⟨?found, fun day budget => Rule.evaluate_cross_mirror left right panel day entered budget, ?apart, ?between⟩
  case found =>
    intro first last later defined
    constructor
    · intro start stop
      exact exists_crossAbove later defined start stop entered
    · intro start stop
      obtain ⟨day, after, before, held⟩ :=
        exists_crossAbove later (fun day after before => (defined day after before).swap) start stop entered
      exact ⟨day, after, before, (mirror day .ample).trans held⟩
  case apart =>
    rintro day budget ⟨one, other⟩
    rw [mirror] at other
    obtain ⟨-, -, -, exceeds⟩ := (crossAbove_iff entered).1 (Rule.evaluate_ample_of_ok one)
    obtain ⟨-, -, -, exceeded⟩ := (crossAbove_iff entered).1 (Rule.evaluate_ample_of_ok other)
    exact exceeds.asymm exceeded
  case between =>
    intro first last later one other
    obtain ⟨-, -, -, exceeds⟩ := (crossAbove_iff entered).1 one
    obtain ⟨day, rfl, atMost, -⟩ := (crossAbove_iff entered).1 other
    -- The operand exceeds the other on the first day, so that day is not the one before the last.
    have different : first ≠ day := by
      rintro rfl
      exact atMost.not_exceeds exceeds
    exact ⟨day, by omega, Nat.lt_succ_self day, atMost⟩

/-- A day with a price and without indicators. -/
def plainDay (date : Date) (price : Float) : PanelRow Float :=
  { date, openPrice := price, highPrice := price, lowPrice := price, closePrice := price, volume := 1000.0
    sma20 := none, sma50 := none, sma200 := none, ema12 := none, ema26 := none, rsi14 := none, macd := none
    macdSignal := none, bandUpper := none, bandMiddle := none, bandLower := none, volumeSma20 := none }

/-- Prices that rise from 9 over 10 to 11, fall to 10 and rise to 12. -/
def daysAround10 : Array (PanelRow Float) :=
  #[plainDay ⟨2015, 1, 2, by decide⟩ 9.0, plainDay ⟨2015, 1, 5, by decide⟩ 10.0, plainDay ⟨2015, 1, 6, by decide⟩ 11.0,
    plainDay ⟨2015, 1, 7, by decide⟩ 10.0, plainDay ⟨2015, 1, 8, by decide⟩ 12.0]

/-- The price crosses above 10 after it was equal to it, on the third day and on the fifth; on a day between it is at
most 10. -/
theorem daysAround10_crossings :
    let price : Operand Float := .column .closePrice
    let ten : Operand Float := .constant 10.0
    let above : Rule Float := .compare .crossAbove price ten
    (∃ day, 0 < day ∧ day ≤ 2 ∧ above.evaluate daysAround10 day none .ample = .ok true) ∧
      (Rule.compare .crossBelow ten price).evaluate daysAround10 4 none .ample = .ok true ∧
      ∃ day, 2 < day ∧ day < 4 ∧ price.IsAtMost ten daysAround10 day := by
  intro price ten above
  obtain ⟨found, mirror, -, between⟩ := crossings_complete price ten daysAround10 none
  have defined (day : Nat) (inside : day ≤ 2) : price.AreDefined ten daysAround10 day := by
    match day, inside with
    | 0, _ | 1, _ | 2, _ => exact ⟨_, _, _, rfl, rfl, rfl⟩
  have start : price.IsAtMost ten daysAround10 0 := ⟨9.0, 10.0, ⟨_, rfl, rfl, rfl⟩, rfl⟩
  have stop : price.Exceeds ten daysAround10 2 := ⟨11.0, 10.0, ⟨_, rfl, rfl, rfl⟩, rfl⟩
  exact ⟨(found 0 2 (by decide) fun day _ before => defined day before).1 start stop, (mirror 4 .ample).symm.trans rfl,
    between 2 4 (by decide) rfl rfl⟩

end Crossings

end PaperTrading
