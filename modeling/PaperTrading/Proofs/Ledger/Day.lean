/-
Module: PaperTrading.Proofs.Ledger.Day
Purpose: The five things that a day of a run can do to the accounts, and what decides between them.
Main exports: Signals.buys, Signals.sells, Position.allIn, Book.Day, Book.step_day
-/
import PaperTrading.Ledger.Simulation

namespace PaperTrading

open Arithmetic (whole)

variable {α : Type} [Arithmetic α]

section Decisions

/-- Whether a question to a strategy was answered with yes. -/
def saysYes : Except EvalProblem Bool → Bool
  | .ok answer => answer
  | .error _ => false

theorem saysYes_iff {answer : Except EvalProblem Bool} : saysYes answer = true ↔ answer = .ok true := by
  cases answer with
  | ok answer => simp [saysYes]
  | error problem => simp [saysYes]

/-- Whether cash can be spent at the close of a day: the price is one to buy at, and the cash exceeds the fee. -/
def PanelRow.isAffordable (row : PanelRow α) (cash fee : α) : Bool :=
  Arithmetic.isFinite row.closePrice && Arithmetic.lt (whole 0) row.closePrice && !Arithmetic.le cash fee

/-- Whether a book without a position buys on a day: the warm-up is over, the day is not the last, the strategy says
so, and the cash can be spent. -/
def Signals.buys (signals : Signals α) (terms : Terms α) (index : Nat) (row : PanelRow α) (isLast : Bool)
    (cash : α) : Bool :=
  decide (signals.warmup ≤ index) && !isLast && saysYes (signals.enter index) && row.isAffordable cash terms.fee

/-- Whether a strategy sells a position on a day, which is after the purchase. -/
def Signals.sells {β : Type} (signals : Signals β) (position : Position β) (index : Nat) : Bool :=
  decide (position.entryIndex < index) &&
    saysYes (signals.leave index ⟨position.entryPrice, position.entryIndex⟩)

/-- The position that all cash but the fee buys on a day. -/
def Position.allIn (index : Nat) (row : PanelRow α) (cash fee : α) : Position α :=
  ⟨index, row.date, row.closePrice, (cash - fee) / row.closePrice, fee⟩

theorem Position.openAllIn_eq (index : Nat) (row : PanelRow α) (cash fee : α) :
    openAllIn index row.date row.closePrice cash fee =
      if row.isAffordable cash fee then some (allIn index row cash fee) else none := by
  rw [openAllIn, PanelRow.isAffordable]
  cases Arithmetic.isFinite row.closePrice && Arithmetic.lt (whole 0) row.closePrice with
  | false => rfl
  | true =>
      cases Arithmetic.le cash fee with
      | false => rfl
      | true => rfl

namespace Book

/-- The book after some number of failures. -/
def withFailures {β : Type} (book : Book β) (failures : Nat) : Book β :=
  { book with failures }

/-- The book after all its cash was spent on a position. -/
def spend (book : Book α) (terms : Terms α) (index : Nat) (row : PanelRow α) : Book α :=
  { book with cash := whole 0, held := some (.allIn index row book.cash terms.fee) }

variable {signals : Signals α} {terms : Terms α} {index : Nat} {row : PanelRow α} {isLast : Bool}
  {book : Book α} {position : Position α}

theorem buy_eq : book.buy terms index row =
    if row.isAffordable book.cash terms.fee then book.spend terms index row else book := by
  rw [buy, Position.openAllIn_eq]
  cases row.isAffordable book.cash terms.fee with
  | false => rfl
  | true => rfl

theorem decide_of_buys (flat : book.held = none)
    (bought : signals.buys terms index row isLast book.cash = true) :
    book.decide signals terms index row isLast = book.spend terms index row := by
  simp only [Signals.buys, Bool.and_eq_true, decide_eq_true_eq, saysYes_iff, Bool.not_eq_true'] at bought
  obtain ⟨⟨⟨warm, notLast⟩, signal⟩, affordable⟩ := bought
  simp [decide, flat, warm, notLast, signal, buy_eq, affordable]

/-- A book that does not buy has at most one more failure. -/
theorem decide_of_not_buys (flat : book.held = none)
    (quiet : signals.buys terms index row isLast book.cash = false) :
    ∃ failures, book.decide signals terms index row isLast = book.withFailures failures := by
  simp only [decide, flat]
  split
  case isTrue asked =>
    split
    case h_1 signal =>
      have refused : row.isAffordable book.cash terms.fee = false := by
        simpa only [Signals.buys, asked, signal, saysYes, Bool.true_and] using quiet
      rw [buy_eq, refused]
      exact ⟨book.failures, rfl⟩
    case h_2 => exact ⟨book.failures, rfl⟩
    case h_3 => exact ⟨book.failures + 1, rfl⟩
  case isFalse => exact ⟨book.failures, rfl⟩

theorem decide_of_sells (held : book.held = some position) (sold : signals.sells position index = true) :
    book.decide signals terms index row isLast = book.sell terms index row position .signal := by
  simp only [Signals.sells, Bool.and_eq_true, decide_eq_true_eq, saysYes_iff] at sold
  simp [decide, held, sold.1, sold.2]

variable (terms row isLast) in
/-- A book that does not sell has at most one more failure. -/
theorem decide_of_not_sells (held : book.held = some position) (quiet : signals.sells position index = false) :
    ∃ failures, book.decide signals terms index row isLast = book.withFailures failures := by
  simp only [decide, held]
  split
  case isTrue after =>
    split
    case h_1 signal => simp [Signals.sells, after, signal, saysYes] at quiet
    case h_2 => exact ⟨book.failures, rfl⟩
    case h_3 => exact ⟨book.failures + 1, rfl⟩
  case isFalse => exact ⟨book.failures, rfl⟩

theorem settle_of_flat {reason : ExitReason} (flat : book.held = none) :
    book.settle terms index row reason = book := by
  rw [settle, flat]

theorem settle_of_held {reason : ExitReason} (held : book.held = some position) :
    book.settle terms index row reason = book.sell terms index row position reason := by
  rw [settle, held]

end Book

end Decisions

section Days

variable (signals : Signals α) (terms : Terms α) (index : Nat) (row : PanelRow α) (isLast : Bool)

/-- What a day does to the accounts.  One question to the strategy may fail on it. -/
inductive Book.Day : Book α → Book α → Prop
  /-- Without a position nothing is bought. -/
  | idle {book : Book α} (failures : Nat) (flat : book.held = none)
      (quiet : signals.buys terms index row isLast book.cash = false) :
      Day book ((book.withFailures failures).record row)
  /-- All cash is spent. -/
  | purchase {book : Book α} (flat : book.held = none)
      (bought : signals.buys terms index row isLast book.cash = true) :
      Day book ((book.spend terms index row).record row)
  /-- A position is kept. -/
  | holding {book : Book α} {position : Position α} (failures : Nat) (held : book.held = some position)
      (quiet : signals.sells position index = false) (more : isLast = false) :
      Day book ((book.withFailures failures).record row)
  /-- A position is sold on a signal. -/
  | sale {book : Book α} {position : Position α} (held : book.held = some position)
      (sold : signals.sells position index = true) :
      Day book ((book.sell terms index row position .signal).record row)
  /-- A position is sold because there are no more days. -/
  | closing {book : Book α} {position : Position α} (failures : Nat) (held : book.held = some position)
      (quiet : signals.sells position index = false) (last : isLast = true) :
      Day book (((book.withFailures failures).sell terms index row position .endOfData).record row)

variable {signals terms index row isLast}

/-- No purchase is made on the last day. -/
theorem Signals.not_last_of_buys {cash : α} (bought : signals.buys terms index row isLast cash = true) :
    isLast = false := by
  cases isLast with
  | false => rfl
  | true => simp [buys] at bought

/-- A step of a run is such a day. -/
theorem Book.step_day (book : Book α) :
    Day signals terms index row isLast book (book.step signals terms index row isLast) := by
  cases held : book.held with
  | none =>
      cases bought : signals.buys terms index row isLast book.cash with
      | true =>
          have notLast := Signals.not_last_of_buys bought
          subst notLast
          rw [step, decide_of_buys held bought]
          exact .purchase held bought
      | false =>
          obtain ⟨failures, decided⟩ := decide_of_not_buys held bought
          have flat : (book.withFailures failures).held = none := held
          simp only [step, decided, settle_of_flat flat, ite_self]
          exact .idle failures held bought
  | some position =>
      cases sold : signals.sells position index with
      | true =>
          have flat : (book.sell terms index row position .signal).held = none := rfl
          simp only [step, decide_of_sells held sold, settle_of_flat flat, ite_self]
          exact .sale held sold
      | false =>
          obtain ⟨failures, decided⟩ := decide_of_not_sells terms row isLast held sold
          have still : (book.withFailures failures).held = some position := held
          cases isLast with
          | false =>
              rw [step, decided]
              exact .holding failures held sold rfl
          | true =>
              rw [step, decided, settle_of_held still]
              exact .closing failures held sold rfl

namespace Book.Day

variable {book next : Book α} {position : Position α}

/-- A day writes down one worth, that of the accounts it ends with. -/
theorem equity (day : Day signals terms index row isLast book next) :
    next.equity = book.equity.push (next.worth row) := by
  cases day with
  | idle | purchase | holding | sale | closing => rfl

/-- What is written down stays. -/
theorem equity_kept (day : Day signals terms index row isLast book next) :
    book.equity.toList <+: next.equity.toList := by
  rw [day.equity, Array.toList_push]
  exact List.prefix_append _ _

/-- A day that begins without a position completes no trade. -/
theorem trades_of_flat (day : Day signals terms index row isLast book next) (flat : book.held = none) :
    next.trades = book.trades := by
  cases day with
  | idle | purchase => rfl
  | holding failures held | sale held | closing failures held => exact nomatch flat.symm.trans held

/-- A day that begins with a position completes its trade, or keeps it and is not the last. -/
theorem trades_of_held (day : Day signals terms index row isLast book next) (held : book.held = some position) :
    (∃ reason, next.trades = book.trades.push (position.close index row.date row.closePrice terms.fee reason)) ∨
      (isLast = false ∧ next.held = some position ∧ next.trades = book.trades) := by
  cases day with
  | idle failures flat | purchase flat => exact nomatch flat.symm.trans held
  | holding failures same quiet more => exact .inr ⟨more, held, rfl⟩
  | sale same | closing failures same =>
      rw [held, Option.some.injEq] at same
      subst same
      exact .inl ⟨_, rfl⟩

end Book.Day

end Days

section Rows

/-- The first of the rows that are left is that of the day. -/
theorem day_of_drop {β : Type} {panel later : List β} {index : Nat} {row : β}
    (rest : panel.drop index = row :: later) :
    panel[index]? = some row ∧ panel.drop (index + 1) = later ∧ later.isEmpty = (index + 1 == panel.length) := by
  have inside : index < panel.length := by
    rw [← Nat.not_le, ← List.drop_eq_nil_iff, rest]
    exact List.cons_ne_nil row later
  rw [List.drop_eq_getElem_cons inside, List.cons.injEq] at rest
  obtain ⟨rfl, rfl⟩ := rest
  refine ⟨List.getElem?_eq_getElem inside, rfl, ?_⟩
  rw [Bool.eq_iff_iff, List.isEmpty_iff, List.drop_eq_nil_iff, beq_iff_eq]
  omega

end Rows

end PaperTrading
