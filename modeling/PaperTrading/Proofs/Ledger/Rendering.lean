/-
Module: PaperTrading.Proofs.Ledger.Rendering
Purpose: A run does the same when prices, money and shares are written in other arithmetic or in other units.
Main exports: Denomination, Denomination.Faithful, Signals.Agree, Book.step_rendered, run_rendered

The divisions of a run are by the prices that positions are bought at, and those are above zero.
-/
import Mathlib.Algebra.Order.Field.Basic
import PaperTrading.Ledger.Simulation
import PaperTrading.Proofs.Market.Rendering

namespace PaperTrading

open Arithmetic (whole)

/-- Ways to write the numbers of a run: those without a unit, prices, amounts of money and numbers of shares. -/
structure Denomination (α γ : Type) where
  plain : α → γ
  price : α → γ
  money : α → γ
  share : α → γ

section Accounts

variable {α γ : Type} (d : Denomination α γ)

/-- All numbers written in one way. -/
def Denomination.uniform (f : α → γ) : Denomination α γ :=
  ⟨f, f, f, f⟩

/-- The terms of a run in other numbers. -/
def Terms.map (terms : Terms α) : Terms γ :=
  ⟨d.money terms.capital, d.money terms.fee⟩

/-- A position in other numbers. -/
def Position.map (position : Position α) : Position γ :=
  { entryIndex := position.entryIndex
    entryDate := position.entryDate
    entryPrice := d.price position.entryPrice
    shares := d.share position.shares
    entryFee := d.money position.entryFee }

/-- A trade in other numbers. -/
def Trade.map (trade : Trade α) : Trade γ :=
  { entryDate := trade.entryDate
    exitDate := trade.exitDate
    entryPrice := d.price trade.entryPrice
    exitPrice := d.price trade.exitPrice
    shares := d.share trade.shares
    returnPercent := d.plain trade.returnPercent
    profit := d.money trade.profit
    exitReason := trade.exitReason
    barsHeld := trade.barsHeld }

/-- The accounts of a run in other numbers. -/
def Book.map (book : Book α) : Book γ :=
  { cash := d.money book.cash
    held := book.held.map (·.map d)
    trades := book.trades.map (·.map d)
    equity := book.equity.map d.money
    failures := book.failures }

/-- The result of a run in other numbers. -/
def RunResult.map (result : RunResult α) : RunResult γ :=
  { trades := result.trades.map (·.map d)
    equity := result.equity.map d.money
    barsProcessed := result.barsProcessed
    failures := result.failures
    cancelled := result.cancelled }

/-- The second strategy decides on the other numbers as the first one does. -/
structure Signals.Agree (first : Signals α) (second : Signals γ) : Prop where
  warmup : second.warmup = first.warmup
  enter : ∀ index, second.enter index = first.enter index
  leave : ∀ index price entryIndex,
    second.leave index ⟨d.price price, entryIndex⟩ = first.leave index ⟨price, entryIndex⟩

namespace Book

variable (book : Book α)

theorem held_map : (book.map d).held = book.held.map (·.map d) :=
  rfl

theorem events_map : (book.map d).events = book.events := by
  simp [events, map]

theorem finish_map (barsProcessed : Nat) (cancelled : Bool) :
    (book.map d).finish barsProcessed cancelled = (book.finish barsProcessed cancelled).map d := by
  simp [finish, map, RunResult.map]

theorem start_map (terms : Terms α) : start (terms.map d) = (start terms).map d := by
  simp [start, map, Terms.map]

end Book

end Accounts

variable {K : Type} [LinearOrder K] [ExactArithmetic K] {β : Type} [Arithmetic β]

/-- Money buys shares at a price other than zero, and shares are worth money at any price. -/
structure Denomination.Faithful (d : Denomination K β) : Prop where
  rendered : Rendering d.plain
  prices : Quantity d.plain d.price
  money : Quantity d.plain d.money
  bought : ∀ x {p}, p ≠ 0 → d.money x / d.price p = d.share (x / p)
  worth : ∀ s p, d.share s * d.price p = d.money (s * p)

/-- Everything can be written in plain numbers. -/
theorem Rendering.faithful {plain : K → β} (rendered : Rendering plain) : (Denomination.uniform plain).Faithful where
  rendered := rendered
  prices := rendered.quantity
  money := rendered.quantity
  bought := rendered.div
  worth := rendered.mul

/-- A price that a position can be bought at is above zero. -/
theorem Position.entryPrice_pos {index : Nat} {date : Date} {price cash fee : K} {position : Position K}
    (opened : openAllIn index date price cash fee = some position) : 0 < position.entryPrice := by
  rw [openAllIn] at opened
  split at opened
  case isTrue => cases opened
  case isFalse buyable =>
    cases opened
    simp only [Bool.or_eq_true, Bool.not_eq_true', Bool.and_eq_false_iff, not_or, Bool.not_eq_false] at buyable
    have above := ExactArithmetic.lt_iff.1 buyable.1.2
    rwa [ExactArithmetic.whole_zero] at above

section Positions

variable {d : Denomination K β} (faithful : d.Faithful) (position : Position K) (index : Nat) (date : Date)
  (price cash fee : K)
include faithful

theorem Position.openAllIn_rendered :
    openAllIn index date (d.price price) (d.money cash) (d.money fee) =
      (openAllIn index date price cash fee).map (·.map d) := by
  rw [openAllIn, openAllIn, faithful.prices.isFinite, ExactArithmetic.isFinite_all, faithful.prices.zero_lt,
    faithful.money.le]
  split
  case isTrue => rfl
  case isFalse buyable =>
    simp only [Bool.true_and, Bool.or_eq_true, Bool.not_eq_true', not_or, Bool.not_eq_false,
      ExactArithmetic.lt_iff, ExactArithmetic.whole_zero] at buyable
    rw [faithful.money.sub, faithful.bought _ buyable.1.ne', Option.map_some]
    rfl

theorem Position.marketValue_rendered :
    (position.map d).marketValue (d.price price) = d.money (position.marketValue price) :=
  faithful.worth position.shares price

theorem Position.proceeds_rendered :
    (position.map d).proceeds (d.price price) (d.money fee) = d.money (position.proceeds price fee) := by
  rw [proceeds, proceeds, marketValue_rendered faithful, faithful.money.sub]

theorem Position.cost_rendered : (position.map d).cost = d.money position.cost := by
  simp only [cost, map, faithful.worth, faithful.money.add]

theorem Position.close_rendered (positive : 0 < position.entryPrice) (reason : ExitReason) :
    (position.map d).close index date (d.price price) (d.money fee) reason =
      (position.close index date price fee reason).map d := by
  have move := faithful.prices.ratio (price - position.entryPrice) positive.ne'
  rw [← faithful.prices.sub] at move
  simp only [close, proceeds_rendered faithful, cost_rendered faithful, faithful.money.sub]
  simp only [map, Trade.map, move, faithful.rendered.whole 100, faithful.rendered.mul]

end Positions

/-- The position of a book, if there is one, was bought at a price above zero. -/
def Book.BoughtAbove (book : Book K) : Prop :=
  ∀ position ∈ book.held, 0 < position.entryPrice

namespace Book

section Invariant

variable {book : Book K} (signals : Signals K) (terms : Terms K) (index : Nat) (row : PanelRow K)

theorem boughtAbove_of_flat (flat : book.held = none) : book.BoughtAbove := by
  intro position held
  rw [flat] at held
  cases held

theorem boughtAbove_buy (above : book.BoughtAbove) : (book.buy terms index row).BoughtAbove := by
  rw [buy]
  split
  case h_1 position opened =>
    intro other held
    obtain rfl := Option.some.inj held
    exact Position.entryPrice_pos opened
  case h_2 => exact above

/-- A decision leaves no position that was bought at another price. -/
theorem boughtAbove_decide (above : book.BoughtAbove) (isLast : Bool) :
    (book.decide signals terms index row isLast).BoughtAbove := by
  rw [decide]
  split
  case h_1 =>
    split
    · split
      · exact boughtAbove_buy terms index row above
      · exact above
      · exact above
    · exact above
  case h_2 =>
    split
    · split
      · exact boughtAbove_of_flat rfl
      · exact above
      · exact above
    · exact above

theorem boughtAbove_settle (above : book.BoughtAbove) (reason : ExitReason) :
    (book.settle terms index row reason).BoughtAbove := by
  rw [settle]
  split
  · exact boughtAbove_of_flat rfl
  · exact above

theorem boughtAbove_step (above : book.BoughtAbove) (isLast : Bool) :
    (book.step signals terms index row isLast).BoughtAbove := by
  have decided := boughtAbove_decide signals terms index row above isLast
  cases isLast with
  | false => exact decided
  | true => exact boughtAbove_settle terms index row decided .endOfData

end Invariant

variable {d : Denomination K β} (faithful : d.Faithful) {book : Book K} (terms : Terms K) (index : Nat)
  (row : PanelRow K)

include faithful

theorem sell_rendered {position : Position K} (positive : 0 < position.entryPrice) (reason : ExitReason) :
    (book.map d).sell (terms.map d) index (row.map d.price d.plain) (position.map d) reason =
      (book.sell terms index row position reason).map d := by
  have proceeds := position.proceeds_rendered faithful row.closePrice terms.fee
  have close := position.close_rendered faithful index row.date row.closePrice terms.fee positive reason
  simp only [sell, map, Terms.map, PanelRow.map, Array.map_push, Option.map_none, proceeds, close]

theorem buy_rendered :
    (book.map d).buy (terms.map d) index (row.map d.price d.plain) = (book.buy terms index row).map d := by
  have opened := Position.openAllIn_rendered faithful index row.date row.closePrice book.cash terms.fee
  simp only [buy, Terms.map, PanelRow.map]
  rw [show (book.map d).cash = d.money book.cash from rfl, opened]
  cases Position.openAllIn index row.date row.closePrice book.cash terms.fee with
  | none => rfl
  | some position => simp only [Option.map_some, map, faithful.money.zero, ExactArithmetic.whole_zero]

/-- A decision that is the same on both numbers has the same effect on both. -/
theorem decide_rendered (above : book.BoughtAbove) {first : Signals K} {second : Signals β}
    (agree : first.Agree d second) (isLast : Bool) :
    (book.map d).decide second (terms.map d) index (row.map d.price d.plain) isLast =
      (book.decide first terms index row isLast).map d := by
  cases held : book.held with
  | none =>
      simp only [decide, held_map, held, Option.map_none, agree.warmup, agree.enter]
      split
      · split
        · exact buy_rendered faithful terms index row
        · rfl
        · rfl
      · rfl
  | some position =>
      have asked := agree.leave index position.entryPrice position.entryIndex
      simp only [decide, held_map, held, Option.map_some]
      simp only [Position.map, asked]
      split
      · split
        · exact sell_rendered faithful terms index row (above position held) .signal
        · rfl
        · rfl
      · rfl

theorem settle_rendered (above : book.BoughtAbove) (reason : ExitReason) :
    (book.map d).settle (terms.map d) index (row.map d.price d.plain) reason =
      (book.settle terms index row reason).map d := by
  cases held : book.held with
  | none => simp only [settle, held_map, held, Option.map_none]
  | some position =>
      simp only [settle, held_map, held, Option.map_some]
      exact sell_rendered faithful terms index row (above position held) reason

theorem record_rendered :
    (book.map d).record (row.map d.price d.plain) = (book.record row).map d := by
  have worth : (book.map d).worth (row.map d.price d.plain) = d.money (book.worth row) := by
    cases held : book.held with
    | none => simp only [Book.worth, held, Option.map_none, map]
    | some position =>
        simp only [Book.worth, held_map, held, Option.map_some]
        exact position.marketValue_rendered faithful row.closePrice
  simp only [record, worth]
  simp only [map, Array.map_push]

/-- A day does the same on other numbers. -/
theorem step_rendered (above : book.BoughtAbove) {first : Signals K} {second : Signals β}
    (agree : first.Agree d second) (isLast : Bool) :
    (book.map d).step second (terms.map d) index (row.map d.price d.plain) isLast =
      (book.step first terms index row isLast).map d := by
  have decided := boughtAbove_decide first terms index row above isLast
  simp only [step, decide_rendered faithful terms index row above agree,
    settle_rendered faithful terms index row decided, ← apply_ite (map d), record_rendered faithful]

end Book

section Runs

variable {d : Denomination K β} (faithful : d.Faithful) {first : Signals K} {second : Signals β} (terms : Terms K)
  (stopBefore : Progress → Bool)
include faithful

theorem runFrom_rendered (agree : first.Agree d second) (index : Nat) {book : Book K} (above : book.BoughtAbove)
    (rows : List (PanelRow K)) :
    runFrom second (terms.map d) stopBefore index (book.map d) (rows.map (·.map d.price d.plain)) =
      (runFrom first terms stopBefore index book rows).map d := by
  induction rows generalizing index book with
  | nil => exact Book.finish_map d book index false
  | cons row later ih =>
      simp only [List.map_cons, runFrom, Book.events_map]
      split
      · cases held : book.held with
        | none => simp only [Book.held_map, held, Option.map_none, Book.finish_map]
        | some position =>
            simp only [Book.held_map, held, Option.map_some, Book.settle_rendered faithful terms index row above,
              Book.record_rendered faithful, Book.finish_map]
      · rw [List.isEmpty_map, Book.step_rendered faithful terms index row above agree,
          ih _ (Book.boughtAbove_step first terms index row above _)]

/-- A run on other numbers is the run in those numbers, if the strategy decides alike on both. -/
theorem run_rendered (agree : first.Agree d second) (panel : List (PanelRow K)) :
    run second (terms.map d) stopBefore (panel.map (·.map d.price d.plain)) =
      (run first terms stopBefore panel).map d := by
  rw [run, Book.start_map]
  exact runFrom_rendered faithful terms stopBefore agree 0 (Book.boughtAbove_of_flat rfl) panel

end Runs

end PaperTrading
