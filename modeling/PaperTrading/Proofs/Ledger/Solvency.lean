/-
Module: PaperTrading.Proofs.Ledger.Solvency
Purpose: In exact arithmetic the accounts of a run are never further below zero than one fee, and a book without cash for a
  fee does nothing more.
Main exports: Book.IsSolvent, Book.Day.isSolvent, runFrom_equity_of_isSolvent, Book.IsSpent, Book.step_of_isSpent,
  runFrom_of_isSpent, ReachesDay, simulate_solvent

A purchase leaves no cash and shares that are worth something.  A sale charges its fee whether or not the shares pay for it,
so what is left may be negative, but it is at least what shares without worth leave.
-/
import Mathlib.Algebra.Order.Field.Basic
import PaperTrading.Proofs.Ledger.Cancellation
import PaperTrading.Proofs.Ledger.Gains

namespace PaperTrading

open Arithmetic (whole)

variable {K : Type} [LinearOrder K] [ExactArithmetic K]

/-- The accounts are nowhere further below zero than a fee, and no shares are owed. -/
structure Book.IsSolvent (fee : K) (book : Book K) : Prop where
  cash : -fee ≤ book.cash
  shares : ∀ position, book.held = some position → 0 ≤ position.shares
  equity : ∀ point ∈ book.equity, -fee ≤ point

/-- A book without a position has no cash for a purchase. -/
structure Book.IsSpent {β : Type} [LE β] (fee : β) (book : Book β) : Prop where
  flat : book.held = none
  cash : book.cash ≤ fee

/-- From some accounts before a day on, a run makes no more trades, and every point of its equity is the cash. -/
structure RunResult.RestsFrom {β : Type} (result : RunResult β) (index : Nat) (book : Book β) : Prop where
  reached : index ≤ result.barsProcessed
  trades : result.trades = book.trades.toList
  equity : result.equity = book.equity.toList ++ List.replicate (result.barsProcessed - index) book.cash

section Days

variable {signals : Signals K} {terms : Terms K} {index : Nat} {row : PanelRow K} {isLast : Bool} {book next : Book K}
  {position : Position K} {cash fee : K}

/-- Cash is spent at a positive price, and only if it exceeds the fee. -/
theorem PanelRow.isAffordable_iff : row.isAffordable cash fee = true ↔ 0 < row.closePrice ∧ fee < cash := by
  simp only [isAffordable, Bool.and_eq_true, Bool.not_eq_true', ← Bool.not_eq_true, ExactArithmetic.isFinite_all,
    ExactArithmetic.lt_iff, ExactArithmetic.le_iff, ExactArithmetic.whole_zero, not_le, true_and]

theorem Signals.isAffordable_of_buys (bought : signals.buys terms index row isLast cash = true) :
    row.isAffordable cash terms.fee = true := by
  rw [buys, Bool.and_eq_true] at bought
  exact bought.2

namespace Book

theorem start_isSolvent (owed : -terms.fee ≤ terms.capital) :
    (start terms).IsSolvent terms.fee where
  cash := owed
  shares := by
    intro position held
    exact nomatch held
  equity := by
    intro point listed
    have capital : point = terms.capital := by
      simpa [start] using listed
    exact capital ▸ owed

theorem IsSolvent.withFailures (solvent : book.IsSolvent fee) (failures : Nat) :
    (book.withFailures failures).IsSolvent fee :=
  ⟨solvent.cash, solvent.shares, solvent.equity⟩

/-- A day leaves a book that is spent as it is, but for the failures and one more point, its cash. -/
theorem Day.of_isSpent (day : Day signals terms index row isLast book next) (spent : book.IsSpent terms.fee) :
    ∃ failures, next = (book.withFailures failures).record row := by
  cases day with
  | idle failures => exact ⟨failures, rfl⟩
  | purchase flat bought =>
      have exceeding := (PanelRow.isAffordable_iff.1 (Signals.isAffordable_of_buys bought)).2
      exact absurd spent.cash (not_le.2 exceeding)
  | holding _ held | sale held | closing _ held => exact nomatch spent.flat.symm.trans held

variable [IsStrictOrderedRing K]

theorem IsSolvent.worth (solvent : book.IsSolvent fee) (charged : 0 ≤ fee) (close : 0 ≤ row.closePrice) :
    -fee ≤ book.worth row := by
  rw [Book.worth]
  split
  case h_1 position held =>
    calc -fee ≤ 0 := neg_nonpos.2 charged
      _ ≤ position.marketValue row.closePrice := mul_nonneg (solvent.shares position held) close
  case h_2 => exact solvent.cash

theorem IsSolvent.record (solvent : book.IsSolvent fee) (charged : 0 ≤ fee) (close : 0 ≤ row.closePrice) :
    (book.record row).IsSolvent fee where
  cash := solvent.cash
  shares := solvent.shares
  equity := by
    intro point listed
    obtain before | rfl := Array.mem_push.1 listed
    · exact solvent.equity point before
    · exact solvent.worth charged close

/-- All cash that exceeds the fee becomes shares. -/
theorem IsSolvent.spend (solvent : book.IsSolvent terms.fee) (charged : 0 ≤ terms.fee)
    (affordable : row.isAffordable book.cash terms.fee = true) :
    (book.spend terms index row).IsSolvent terms.fee where
  cash := by
    rw [Book.spend, ExactArithmetic.whole_zero]
    exact neg_nonpos.2 charged
  shares := by
    obtain ⟨price, exceeding⟩ := PanelRow.isAffordable_iff.1 affordable
    rintro _ ⟨⟩
    exact div_nonneg (sub_nonneg.2 exceeding.le) price.le
  equity := solvent.equity

/-- A sale takes no more than its fee from what the shares are worth. -/
theorem IsSolvent.sell (solvent : book.IsSolvent terms.fee) (held : book.held = some position)
    (close : 0 ≤ row.closePrice) (index : Nat) (reason : ExitReason) :
    (book.sell terms index row position reason).IsSolvent terms.fee where
  cash := by
    have worth : 0 ≤ position.marketValue row.closePrice := mul_nonneg (solvent.shares position held) close
    show -terms.fee ≤ position.marketValue row.closePrice - terms.fee
    rwa [neg_le_sub_iff_le_add, le_add_iff_nonneg_left]
  shares := by
    intro other sold
    exact nomatch sold
  equity := solvent.equity

/-- A day keeps the accounts solvent, whatever it does. -/
theorem Day.isSolvent (day : Day signals terms index row isLast book next) (charged : 0 ≤ terms.fee)
    (close : 0 ≤ row.closePrice) (solvent : book.IsSolvent terms.fee) : next.IsSolvent terms.fee := by
  cases day with
  | idle failures => exact (solvent.withFailures failures).record charged close
  | purchase flat bought =>
      exact (solvent.spend charged (Signals.isAffordable_of_buys bought)).record charged close
  | holding failures => exact (solvent.withFailures failures).record charged close
  | sale held => exact (solvent.sell held close index .signal).record charged close
  | closing failures held =>
      exact ((solvent.withFailures failures).sell held close index .endOfData).record charged close

end Book

end Days

section Runs

variable {signals : Signals K} {terms : Terms K} {stopBefore : Progress → Bool}

/-- A run that goes on from solvent accounts writes down nothing further below zero than a fee. -/
theorem runFrom_equity_of_isSolvent [IsStrictOrderedRing K] (charged : 0 ≤ terms.fee) (rows : List (PanelRow K))
    (closes : ∀ row ∈ rows, 0 ≤ row.closePrice) (index : Nat) {book : Book K} (solvent : book.IsSolvent terms.fee) :
    ∀ point ∈ (runFrom signals terms stopBefore index book rows).equity, -terms.fee ≤ point := by
  -- What a run leaves behind is the equity of accounts that are solvent in turn.
  have finished {final : Book K} (solvent : final.IsSolvent terms.fee) (days : Nat) (cancelled : Bool) :
      ∀ point ∈ (final.finish days cancelled).equity, -terms.fee ≤ point :=
    fun point listed => solvent.equity point (Array.mem_toList_iff.1 listed)
  induction rows generalizing index book with
  | nil => exact finished solvent index false
  | cons row later ih =>
      obtain ⟨close, closes⟩ := List.forall_mem_cons.1 closes
      rw [runFrom]
      split
      case isTrue stopped =>
        cases held : book.held with
        | none => exact finished solvent index true
        | some position =>
            rw [Book.settle_of_held held]
            exact finished ((solvent.sell held close index .cancelled).record charged close) (index + 1) true
      case isFalse going => exact ih closes (index + 1) (book.step_day.isSolvent charged close solvent)

omit [LinearOrder K] [ExactArithmetic K] in
theorem Book.finish_restsFrom (book : Book K) (index : Nat) (cancelled : Bool) :
    (book.finish index cancelled).RestsFrom index book where
  reached := Nat.le_refl index
  trades := rfl
  equity := by
    rw [Book.finish, Nat.sub_self, List.replicate_zero, List.append_nil]

/-- A day on which only its point was written down comes first. -/
theorem RunResult.RestsFrom.cons {result : RunResult K} {index failures : Nat} {row : PanelRow K} {book : Book K}
    (flat : book.held = none) (rests : result.RestsFrom (index + 1) ((book.withFailures failures).record row)) :
    result.RestsFrom index book where
  reached := Nat.le_of_succ_le rests.reached
  trades := rests.trades
  equity := by
    have worth : (book.withFailures failures).worth row = book.cash := by
      rw [Book.worth, Book.withFailures, flat]
    have left : result.barsProcessed - index = result.barsProcessed - (index + 1) + 1 := by
      have reached := rests.reached
      omega
    rw [rests.equity, Book.record, worth, Array.toList_push, left, List.replicate_succ, List.append_assoc,
      List.singleton_append]
    rfl

/-- A run that goes on from a book that is spent rests. -/
theorem runFrom_of_isSpent (rows : List (PanelRow K)) (index : Nat) {book : Book K} (spent : book.IsSpent terms.fee) :
    (runFrom signals terms stopBefore index book rows).RestsFrom index book := by
  induction rows generalizing index book with
  | nil => exact book.finish_restsFrom index false
  | cons row later ih =>
      rw [runFrom]
      split
      case isTrue stopped =>
        rw [spent.flat]
        exact book.finish_restsFrom index true
      case isFalse going =>
        have day : Book.Day signals terms index row later.isEmpty book _ := book.step_day
        obtain ⟨failures, same⟩ := day.of_isSpent spent
        rw [same]
        exact .cons spent.flat (ih (index + 1) ⟨spent.flat, spent.cash⟩)

variable (signals terms stopBefore) in
/-- A run reaches a day if it is not told to stop before any day ahead of it. -/
structure ReachesDay (panel : List (PanelRow K)) (day : Nat) : Prop where
  known : day ≤ panel.length
  goesOn : ∀ earlier < day, stopBefore (progressBefore signals terms panel earlier) = false

/-- In exact arithmetic, with a capital, a fee and prices that are not negative, no point of the equity curve is further below
zero than the fee.  And on whatever day a run has no position and no more cash than the fee, that is the end of it: no
position is bought any more, since every position that is bought becomes a trade, and every later point of the equity curve
is that cash.  This holds whatever the rules decide or fail to decide, and whenever the run is cancelled. -/
theorem simulate_solvent [IsStrictOrderedRing K] (rulebook : Rulebook K) (terms : Terms K) (budget : Budget)
    (stopBefore : Progress → Bool) {panel : List (PanelRow K)} (capital : 0 < terms.capital) (charged : 0 ≤ terms.fee)
    (closes : ∀ row ∈ panel, 0 ≤ row.closePrice) :
    let signals := rulebook.signals panel budget
    let result := simulate rulebook panel terms budget stopBefore
    (∀ point ∈ result.equity, -terms.fee ≤ point) ∧
      ∀ day, ReachesDay signals terms stopBefore panel day →
        (Book.after signals terms panel day).held = none → (Book.after signals terms panel day).cash ≤ terms.fee →
          result.RestsFrom day (Book.after signals terms panel day) := by
  intro signals result
  constructor
  case left =>
    have owed : -terms.fee ≤ terms.capital := (neg_nonpos.2 charged).trans capital.le
    exact runFrom_equity_of_isSolvent charged panel closes 0 (Book.start_isSolvent owed)
  case right =>
    intro day reaches flat spent
    have onwards : result = runFrom signals terms stopBefore day (Book.after signals terms panel day) (panel.drop day) :=
      runFrom_of_goesOn signals terms panel stopBefore (Nat.zero_le day) reaches.known reaches.goesOn
    rw [onwards]
    exact runFrom_of_isSpent (panel.drop day) day ⟨flat, spent⟩

end Runs

section Trial

/-- Buys at any price, and sells below 50. -/
def timidRulebook : Rulebook ℚ where
  source := ""
  entry := .compare .above (.column .closePrice) (.constant 0)
  exit := .compare .below (.column .closePrice) (.constant 50)

/-- Days on which the price falls to nothing and recovers. -/
def crashDays : List (PanelRow ℚ) :=
  rationalPanel ⟨2012, 3, 5, by decide⟩ [100, 0, 50, 60, 55]

/-- After the crash, minus one fee is left.  The book would buy on the two days that follow, and it rests. -/
theorem crashDays_solvent :
    let signals := timidRulebook.signals crashDays .ample
    let result := simulate timidRulebook crashDays ⟨1000, 10⟩ .ample fun _ => false
    let book := Book.after signals ⟨1000, 10⟩ crashDays 2
    ((0 : ℚ) < 1000 ∧ (0 : ℚ) ≤ 10 ∧ ∀ row ∈ crashDays, 0 ≤ row.closePrice) ∧
      (book.held.isNone = true ∧ book.cash = -10 ∧ signals.enter 2 = .ok true) ∧
      result.equity = [1000, 990, -10, -10, -10, -10] ∧
      (∀ point ∈ result.equity, -10 ≤ point) ∧ result.RestsFrom 2 book := by
  intro signals result book
  have closes : ∀ row ∈ crashDays, 0 ≤ row.closePrice := by
    decide +kernel
  have capital : (0 : ℚ) < 1000 := by
    norm_num
  have charged : (0 : ℚ) ≤ 10 := by
    norm_num
  have flat : book.held.isNone = true := by
    decide +kernel
  have cash : book.cash = -10 := by
    decide +kernel
  have reaches : ReachesDay signals ⟨1000, 10⟩ (fun _ => false) crashDays 2 := ⟨by decide, fun _ _ => rfl⟩
  obtain ⟨above, rests⟩ := simulate_solvent timidRulebook ⟨1000, 10⟩ .ample (fun _ => false) capital charged closes
  refine ⟨⟨capital, charged, closes⟩, ⟨flat, cash, by decide +kernel⟩, by decide +kernel, above, ?_⟩
  exact rests 2 reaches (Option.isNone_iff_eq_none.1 flat) (cash.trans_le (by norm_num))

end Trial

end PaperTrading
