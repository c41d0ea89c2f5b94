/-
Module: PaperTrading.Proofs.Rule.Definedness
Purpose: What is undefined on a day may keep a rule from holding, and never makes one hold.
Main exports: PanelRow.Completes, PanelRow.Lacks, Operand.columns, Operand.value?_of_completes, Rule.holds_of_completes,
  undefined_only_suppresses

A row completes another if it has all that can be read from the other, and perhaps more.  The value of an operand, the order
of two operands and the verdict on a rule are kept when rows are completed, one after the other.
-/
import PaperTrading.Arithmetic.Binary64
import PaperTrading.Proofs.Arithmetic.NotFinite
import PaperTrading.Proofs.Rule.Verdict

namespace PaperTrading

open Arithmetic (whole isFinite finite?)

variable {α : Type} [Arithmetic α]

section Rows

/-- What is read from a column of one row is read from the same column of a fuller one. -/
def PanelRow.Completes (fuller row : PanelRow α) : Prop :=
  ∀ column value, row.get column = some value → fuller.get column = some value

/-- A column has no entry in a row, or one that is not finite. -/
def PanelRow.Lacks (row : PanelRow α) (column : Column) : Prop :=
  ∀ value, row.entry column = some value → isFinite value = false

theorem PanelRow.get_eq_none_of_lacks {row : PanelRow α} {column : Column} (lacks : row.Lacks column) :
    row.get column = none := by
  rw [get, Option.bind_eq_none_iff]
  intro value entered
  rw [finite?, lacks value entered]
  rfl

/-- The close of a row is read where it is finite. -/
theorem PanelRow.get_closePrice {row : PanelRow α} (finite : isFinite row.closePrice = true) :
    row.get .closePrice = some row.closePrice :=
  finite?_eq_some_iff.2 ⟨rfl, finite⟩

theorem PanelRow.Completes.closePrice_eq {fuller row : PanelRow α} (completes : fuller.Completes row)
    (finite : isFinite row.closePrice = true) : fuller.closePrice = row.closePrice := by
  have read := completes .closePrice _ (get_closePrice finite)
  exact (finite?_eq_some_iff.1 read).1

end Rows

section Operands

/-- The columns that an operand reads. -/
def Operand.columns {β : Type} : Operand β → List Column
  | .column source => [source]
  | .constant _ => []
  | .abs inner | .round inner | .scaled inner _ => inner.columns
  | .min first second | .max first second => first.columns ++ second.columns

/-- An operand keeps its value in a fuller row. -/
theorem Operand.value?_of_completes {fuller row : PanelRow α} (completes : fuller.Completes row) (operand : Operand α)
    {value : α} (known : operand.value? row = some value) : operand.value? fuller = some value := by
  induction operand generalizing value with
  | column source => exact completes source value known
  | constant => exact known
  | abs inner ih | round inner ih | scaled inner _ ih =>
      simp only [value?, Option.bind_eq_some_iff] at known ⊢
      obtain ⟨x, inside, known⟩ := known
      exact ⟨x, ih inside, known⟩
  | min first second ihFirst ihSecond | max first second ihFirst ihSecond =>
      simp only [value?, Option.bind_eq_some_iff] at known ⊢
      obtain ⟨x, one, y, other, known⟩ := known
      exact ⟨x, ihFirst one, y, ihSecond other, known⟩

/-- An operand with a value reads nothing that the row lacks. -/
theorem Operand.value?_eq_none_of_lacks {row : PanelRow α} {column : Column} (lacks : row.Lacks column)
    (operand : Operand α) (reads : column ∈ operand.columns) : operand.value? row = none := by
  induction operand with
  | column source =>
      obtain rfl := List.mem_singleton.1 reads
      exact PanelRow.get_eq_none_of_lacks lacks
  | constant => cases reads
  | abs inner ih | round inner ih | scaled inner _ ih =>
      rw [value?, ih reads]
      rfl
  | min first second ihFirst ihSecond | max first second ihFirst ihSecond =>
      rw [value?]
      rcases List.mem_append.1 reads with one | other
      · rw [ihFirst one]
        rfl
      · rw [ihSecond other]
        cases first.value? row with
        | none => rfl
        | some => rfl

end Operands

section Comparisons

variable (comparison : Comparison) (left right : Operand α)

section Fuller

variable {fuller row : PanelRow α} (completes : fuller.Completes row)
include completes

theorem Comparison.holdsOn_of_completes (ordered : comparison.holdsOn left right row = true) :
    comparison.holdsOn left right fuller = true := by
  obtain ⟨a, b, one, other, ordered⟩ := (comparison.holdsOn_iff left right row).1 ordered
  exact (comparison.holdsOn_iff left right fuller).2
    ⟨a, b, left.value?_of_completes completes one, right.value?_of_completes completes other, ordered⟩

theorem Comparison.failsOn_of_completes (unordered : comparison.failsOn left right row = true) :
    comparison.failsOn left right fuller = true := by
  obtain ⟨a, b, one, other, unordered⟩ := (comparison.failsOn_iff left right row).1 unordered
  exact (comparison.failsOn_iff left right fuller).2
    ⟨a, b, left.value?_of_completes completes one, right.value?_of_completes completes other, unordered⟩

end Fuller

section Lacking

variable {row : PanelRow α} {column : Column} (lacks : row.Lacks column)
  (reads : column ∈ left.columns ++ right.columns)
include lacks reads

/-- Of two operands one has no value where a column of theirs is lacking. -/
theorem Operand.not_both_of_lacks {a b : α} (one : left.value? row = some a) (other : right.value? row = some b) :
    False := by
  rcases List.mem_append.1 reads with onLeft | onRight
  · rw [left.value?_eq_none_of_lacks lacks onLeft] at one
    cases one
  · rw [right.value?_eq_none_of_lacks lacks onRight] at other
    cases other

theorem Comparison.holdsOn_of_lacks : comparison.holdsOn left right row = false := by
  rw [← Bool.not_eq_true, comparison.holdsOn_iff]
  rintro ⟨a, b, one, other, -⟩
  exact Operand.not_both_of_lacks left right lacks reads one other

theorem Comparison.failsOn_of_lacks : comparison.failsOn left right row = false := by
  rw [← Bool.not_eq_true, comparison.failsOn_iff]
  rintro ⟨a, b, one, other, -⟩
  exact Operand.not_both_of_lacks left right lacks reads one other

end Lacking

end Comparisons

section Verdicts

variable {before fullerBefore : Option (PanelRow α)} {now fullerNow : PanelRow α}
  (earlier : ∀ row, before = some row → ∃ fuller, fullerBefore = some fuller ∧ fuller.Completes row)
  (completes : fullerNow.Completes now)

section Comparisons

include earlier completes

theorem Comparison.holds_of_completes (comparison : Comparison) (left right : Operand α)
    (held : comparison.holds left right before now = true) :
    comparison.holds left right fullerBefore fullerNow = true := by
  rw [holds] at held ⊢
  split at held
  case isTrue cross =>
    rw [if_pos cross]
    obtain ⟨ordered, unordered⟩ := Bool.and_eq_true_iff.1 held
    obtain ⟨row, there, unordered⟩ := (Option.any_eq_true _ _).1 unordered
    obtain ⟨fuller, here, more⟩ := earlier row there
    rw [comparison.holdsOn_of_completes left right completes ordered, Bool.true_and]
    exact (Option.any_eq_true _ _).2 ⟨fuller, here, comparison.failsOn_of_completes left right more unordered⟩
  case isFalse plain =>
    rw [if_neg plain]
    exact comparison.holdsOn_of_completes left right completes held

end Comparisons

section Moves

include completes

/-- A stop or a profit target reads the close as it is; but a finite move is the move of a finite close. -/
theorem movePercent?_of_completes (spread : FiniteFromFinite α) {price move : α}
    (moved : movePercent? price now.closePrice = some move) :
    movePercent? price fullerNow.closePrice = some move := by
  have finite : isFinite now.closePrice = true := by
    rw [movePercent?] at moved
    split at moved
    case isTrue => cases moved
    case isFalse =>
      obtain ⟨rfl, finite⟩ := finite?_eq_some_iff.1 moved
      rw [← Bool.not_eq_false] at finite ⊢
      intro notFinite
      exact finite (spread.mul _ _ (spread.div _ _ (spread.sub _ _ notFinite)))
  rw [completes.closePrice_eq finite]
  exact moved

/-- A question about the move from the entry price that was answered with yes. -/
theorem move_any_of_completes (spread : FiniteFromFinite α) (entered : Option (EntryPoint α)) (asks : α → Bool)
    (held : (entered.bind fun e => movePercent? e.price now.closePrice).any asks = true) :
    (entered.bind fun e => movePercent? e.price fullerNow.closePrice).any asks = true := by
  obtain ⟨move, moved, answer⟩ := (Option.any_eq_true _ _).1 held
  obtain ⟨entry, there, moved⟩ := Option.bind_eq_some_iff.1 moved
  exact (Option.any_eq_true _ _).2
    ⟨move, Option.bind_eq_some_iff.2 ⟨entry, there, movePercent?_of_completes completes spread moved⟩, answer⟩

end Moves

variable (spread : FiniteFromFinite α) (index : Nat) (entered : Option (EntryPoint α))
include earlier completes spread

-- The theorems about lists use the rows only through the one about rules.
set_option linter.unusedSectionVars false

mutual

/-- A rule that holds on a day holds on that day in fuller rows. -/
theorem Rule.holds_of_completes : ∀ rule : Rule α,
    rule.holds before now index entered = true → rule.holds fullerBefore fullerNow index entered = true
  | .compare comparison left right, held => by
      rw [holds] at held ⊢
      exact comparison.holds_of_completes earlier completes left right held
  | .all rules, held => by
      rw [holds] at held ⊢
      exact allHold_of_completes rules held
  | .any rules, held => by
      rw [holds] at held ⊢
      exact anyHolds_of_completes rules held
  | .warmup days, held => by
      rw [holds] at held ⊢
      exact held
  | .stopLoss percent, held => by
      rw [holds] at held ⊢
      exact move_any_of_completes completes spread entered _ held
  | .takeProfit percent, held => by
      rw [holds] at held ⊢
      exact move_any_of_completes completes spread entered _ held

theorem Rule.allHold_of_completes : ∀ rules : List (Rule α),
    Rule.allHold before now index entered rules = true →
      Rule.allHold fullerBefore fullerNow index entered rules = true
  | [], _ => by
      rw [allHold]
  | rule :: rest, held => by
      rw [allHold, Bool.and_eq_true_iff] at held ⊢
      exact ⟨holds_of_completes rule held.1, allHold_of_completes rest held.2⟩

theorem Rule.anyHolds_of_completes : ∀ rules : List (Rule α),
    Rule.anyHolds before now index entered rules = true →
      Rule.anyHolds fullerBefore fullerNow index entered rules = true
  | [], held => by
      rw [anyHolds] at held
      cases held
  | rule :: rest, held => by
      rw [anyHolds, Bool.or_eq_true_iff] at held ⊢
      exact held.imp (holds_of_completes rule) (anyHolds_of_completes rest)

end

end Verdicts

section Panels

/-- The days of a panel complete those of another, which is as long. -/
structure PanelCompletes (fuller panel : Array (PanelRow α)) : Prop where
  size : fuller.size = panel.size
  row : ∀ (day : Nat) (row full : PanelRow α), panel[day]? = some row → fuller[day]? = some full → full.Completes row

/-- A comparison reads the day it is asked about, and a cross the day before that as well. -/
def Comparison.Reads (comparison : Comparison) (index day : Nat) : Prop :=
  day = index ∨ comparison.isCross = true ∧ day + 1 = index

theorem PanelCompletes.exists_row {fuller panel : Array (PanelRow α)} (more : PanelCompletes fuller panel) {day : Nat}
    {row : PanelRow α} (there : panel[day]? = some row) : ∃ full, fuller[day]? = some full ∧ full.Completes row := by
  have inside : day < fuller.size := more.size ▸ (Array.getElem?_eq_some_iff.1 there).1
  have here : fuller[day]? = some fuller[day] := Array.getElem?_eq_getElem inside
  exact ⟨_, here, more.row day row _ there here⟩

/-- A verdict that a rule holds stays in a fuller panel. -/
theorem Rule.evaluate_of_completes (spread : FiniteFromFinite α) {fuller panel : Array (PanelRow α)}
    (more : PanelCompletes fuller panel) (rule : Rule α) (index : Nat) (entered : Option (EntryPoint α))
    (held : rule.evaluate panel index entered .ample = .ok true) :
    rule.evaluate fuller index entered .ample = .ok true := by
  cases there : panel[index]? with
  | none =>
      simp only [evaluate, there] at held
      cases held
  | some now =>
      obtain ⟨fullerNow, here, completes⟩ := more.exists_row there
      rw [rule.evaluate_ample entered there, Except.ok.injEq] at held
      rw [rule.evaluate_ample entered here, Except.ok.injEq]
      refine Rule.holds_of_completes ?earlier completes spread index entered rule held
      case earlier =>
        intro row yesterday
        obtain ⟨day, rfl, yesterday⟩ := dayBefore_eq_some_iff.1 yesterday
        obtain ⟨full, known, completes⟩ := more.exists_row yesterday
        exact ⟨full, dayBefore_eq_some_iff.2 ⟨day, rfl, known⟩, completes⟩

/-- A comparison does not hold where a column of its operands is lacking on a day that it reads. -/
theorem Comparison.evaluate_of_lacks (comparison : Comparison) (left right : Operand α)
    {panel : Array (PanelRow α)} {index day : Nat} {row : PanelRow α} {column : Column}
    (used : column ∈ left.columns ++ right.columns) (reads : comparison.Reads index day)
    (there : panel[day]? = some row) (lacks : row.Lacks column) (inside : index < panel.size)
    (entered : Option (EntryPoint α)) :
    (Rule.compare comparison left right).evaluate panel index entered .ample = .ok false := by
  have now : panel[index]? = some panel[index] := Array.getElem?_eq_getElem inside
  rw [Rule.evaluate_ample _ entered now, Except.ok.injEq, Rule.holds, Comparison.holds]
  rcases reads with rfl | ⟨cross, rfl⟩
  · rw [there, Option.some.injEq] at now
    rw [← now, comparison.holdsOn_of_lacks left right lacks used, Bool.false_and, ite_self]
  · have yesterday : dayBefore panel (day + 1) = some row := dayBefore_eq_some_iff.2 ⟨day, rfl, there⟩
    rw [if_pos cross, yesterday, Option.any_some, comparison.failsOn_of_lacks left right lacks used, Bool.and_false]

/-- A rule that holds on a panel holds on every panel that completes it: what is undefined can only keep a rule from
holding.  A comparison, or a cross, never holds where a column of its operands is undefined or not finite on a day that it
reads. -/
theorem undefined_only_suppresses (panel : Array (PanelRow Float)) (index : Nat)
    (entered : Option (EntryPoint Float)) :
    (∀ (fuller : Array (PanelRow Float)) (rule : Rule Float), PanelCompletes fuller panel →
        rule.evaluate panel index entered .ample = .ok true → rule.evaluate fuller index entered .ample = .ok true) ∧
      ∀ (comparison : Comparison) (left right : Operand Float) (column : Column) (day : Nat) (row : PanelRow Float),
        column ∈ left.columns ++ right.columns → comparison.Reads index day → panel[day]? = some row →
          row.Lacks column → index < panel.size →
            (Rule.compare comparison left right).evaluate panel index entered .ample = .ok false := by
  constructor
  · intro fuller rule more held
    exact rule.evaluate_of_completes doubles_finiteFromFinite more index entered held
  · intro comparison left right column day row used reads there lacks inside
    exact comparison.evaluate_of_lacks left right used reads there lacks inside entered

/-- A day at 90 whose strength index and average are given, or not. -/
def dayAt90 (date : Date) (rsi14 sma20 : Option Float) : PanelRow Float :=
  { date, rsi14, sma20
    openPrice := 90.0, highPrice := 91.0, lowPrice := 89.0, closePrice := 90.0, volume := 1000.0
    sma50 := none, sma200 := none, ema12 := none, ema26 := none, macd := none, macdSignal := none
    bandUpper := none, bandMiddle := none, bandLower := none, volumeSma20 := none }

/-- Two days whose strength index crosses 30; the average is known on both of them or on neither. -/
def daysAt90 (sma20 : Option Float) : Array (PanelRow Float) :=
  #[dayAt90 ⟨2018, 1, 2, by decide⟩ (some 25.0) sma20, dayAt90 ⟨2018, 1, 3, by decide⟩ (some 35.0) sma20]

theorem daysAt90_completes (average : Float) : PanelCompletes (daysAt90 (some average)) (daysAt90 none) where
  size := rfl
  row
    | 0, _, _, there, here | 1, _, _, there, here => by
        obtain rfl := Option.some.inj there
        obtain rfl := Option.some.inj here
        intro column value read
        cases column with
        | sma20 => cases read
        | _ => exact read
    | day + 2, _, _, there, _ => by
        simp [daysAt90] at there

/-- The cross and the stop of a position bought at 100 hold with and without the average.  Without it the greater of the
average and the close is not above 50, though the close is. -/
theorem daysAt90_suppress :
    let rule : Rule Float := .all [.compare .crossAbove (.column .rsi14) (.constant 30.0), .stopLoss 5.0]
    let high : Rule Float := .compare .above (.max (.column .sma20) (.column .closePrice)) (.constant 50.0)
    rule.evaluate (daysAt90 (some 80.0)) 1 (some ⟨100.0, 0⟩) .ample = .ok true ∧
      high.evaluate (daysAt90 none) 1 none .ample = .ok false ∧
      high.evaluate (daysAt90 (some 80.0)) 1 none .ample = .ok true := by
  intro rule high
  obtain ⟨kept, -⟩ := undefined_only_suppresses (daysAt90 none) 1 (some ⟨100.0, 0⟩)
  obtain ⟨-, silent⟩ := undefined_only_suppresses (daysAt90 none) 1 none
  refine ⟨kept _ rule (daysAt90_completes 80.0) rfl, ?_, rfl⟩
  exact silent .above _ _ .sma20 1 _ (by decide) (.inl rfl) rfl (by intro value entered; cases entered) (by decide)

end Panels

end PaperTrading
