/-
Module: PaperTrading.Proofs.Ledger.Reconciliation
Purpose: In exact arithmetic the profits, the returns and the equity curve of a run give the same account of it.
Main exports: Course.sum_profit, Course.foldl_return, run_reconciles
-/
import Mathlib.Algebra.BigOperators.Group.List.Basic
import Mathlib.Tactic.FieldSimp
import Mathlib.Tactic.Ring
import PaperTrading.Proofs.Arithmetic.Scaling
import PaperTrading.Proofs.Ledger.EquityCurve

namespace PaperTrading

open Arithmetic (whole)

variable {K : Type} [LinearOrder K] [ExactArithmetic K]

section Trips

variable {signals : Signals K} {terms : Terms K} {panel : List (PanelRow K)} {result : RunResult K} {first : Nat}
  {cash : K} {trip : RoundTrip K} {trips : List (RoundTrip K)}

/-- A position is bought with all cash, which exceeds the fee, and not for nothing. -/
theorem RoundTrip.Bought.exists_row (bought : trip.Bought signals terms panel cash) :
    ∃ row, trip.position = .allIn trip.entry row cash terms.fee ∧ 0 < row.closePrice ∧ terms.fee < cash := by
  obtain ⟨row, here, position⟩ := bought.position
  have signal := bought.signal
  rw [buysOn, here, Option.any_some, Signals.buys, PanelRow.isAffordable] at signal
  simp only [Bool.and_eq_true, Bool.not_eq_true', ← Bool.not_eq_true, ExactArithmetic.lt_iff, ExactArithmetic.le_iff,
    ExactArithmetic.whole_zero, not_le] at signal
  exact ⟨row, position, signal.2.1.2, signal.2.2⟩

/-- A position costs the cash that it is bought with. -/
theorem RoundTrip.Bought.cost (bought : trip.Bought signals terms panel cash) : trip.position.cost = cash := by
  obtain ⟨row, position, price, -⟩ := bought.exists_row
  rw [position]
  calc (cash - terms.fee) / row.closePrice * row.closePrice + terms.fee
    _ = cash - terms.fee + terms.fee := by rw [div_mul_cancel₀ _ price.ne']
    _ = cash := sub_add_cancel cash terms.fee

/-- The profit of a trade is what the cash grows by. -/
theorem RoundTrip.Bought.profit (bought : trip.Bought signals terms panel cash) :
    (trip.trade terms).profit = trip.proceeds terms - cash := by
  rw [RoundTrip.trade, Position.close, bought.cost, RoundTrip.proceeds]

/-- The cash but the fee grows by the return of a trade. -/
theorem RoundTrip.Bought.growth [IsStrictOrderedRing K] (bought : trip.Bought signals terms panel cash) :
    (cash - terms.fee) * (1 + (trip.trade terms).returnPercent / 100) - terms.fee = trip.proceeds terms := by
  obtain ⟨row, position, price, -⟩ := bought.exists_row
  have hundred : (whole 100 : K) = 100 := ExactArithmetic.whole_eq_cast 100
  rw [RoundTrip.trade, RoundTrip.proceeds, position]
  simp only [Position.close, Position.proceeds, Position.marketValue, Position.allIn, hundred]
  field_simp
  ring

/-- The profits of the trades add up to what the cash has grown by. -/
theorem Course.sum_profit (course : Course signals terms panel result first cash trips) :
    ((trips.map (·.trade terms)).map (·.profit)).sum = terms.cashAfter cash (trips.map (·.trade terms)) - cash := by
  induction course with
  | @rest first cash idle => exact (sub_self cash).symm
  | @trip first cash trip trips idle bought kept sold later ih =>
      rw [List.map_cons, List.map_cons, List.sum_cons, ih, bought.profit, Terms.cashAfter_cons, trip.proceeds_trade]
      ring

/-- The returns of the trades, with a fee before each and after it, lead to the cash after them. -/
theorem Course.foldl_return [IsStrictOrderedRing K] (course : Course signals terms panel result first cash trips) :
    (trips.map (·.trade terms)).foldl
        (fun cash trade => (cash - terms.fee) * (1 + trade.returnPercent / 100) - terms.fee) cash =
      terms.cashAfter cash (trips.map (·.trade terms)) := by
  induction course with
  | rest idle => rfl
  | trip idle bought kept sold later ih =>
      rw [List.map_cons, List.foldl_cons, bought.growth, ih, Terms.cashAfter_cons, RoundTrip.proceeds_trade]

end Trips

section Runs

variable [IsStrictOrderedRing K] (signals : Signals K) (terms : Terms K) (panel : List (PanelRow K))
  (stopBefore : Progress → Bool)

/-- In exact arithmetic, the profits of a run add up to the change of its equity, and its returns, with the fees, lead
from the capital to the final equity.  This does not depend on what the strategy decides, on which of its answers are
missing, or on when the run is stopped. -/
theorem run_reconciles :
    let result : RunResult K := run signals terms stopBefore panel
    (result.trades.map (·.profit)).sum = result.finalEquity - terms.capital ∧
      result.finalEquity = result.trades.foldl
        (fun cash trade => (cash - terms.fee) * (1 + trade.returnPercent / 100) - terms.fee) terms.capital := by
  intro result
  obtain ⟨trips, course, trades⟩ := run_course signals terms panel stopBefore
  have equity : result.finalEquity = _ := course.finalEquity (run_counts signals terms panel stopBefore)
  rw [equity, show result.trades = _ from trades]
  exact ⟨course.sum_profit, course.foldl_return.symm⟩

end Runs

section Trial

/-- A day on which the price does not change, and on which no indicator is defined. -/
def rationalDay (date : Date) (price : ℚ) : PanelRow ℚ :=
  ⟨date, price, price, price, price, 1000, none, none, none, none, none, none, none, none, none, none, none, none⟩

/-- Six days; the prices of some are no whole numbers. -/
def rationalDays : List (PanelRow ℚ) :=
  [rationalDay ⟨2022, 1, 2, by decide⟩ 30, rationalDay ⟨2022, 1, 3, by decide⟩ (100 / 3),
    rationalDay ⟨2022, 1, 4, by decide⟩ 40, rationalDay ⟨2022, 1, 5, by decide⟩ 45,
    rationalDay ⟨2022, 1, 8, by decide⟩ (99 / 2), rationalDay ⟨2022, 1, 9, by decide⟩ 50]

/-- Buys on any day after the first, sells on the fourth and no later, and has no answer on the third. -/
def rationalSignals : Signals ℚ where
  warmup := 1
  enter index := if index = 2 then .error (.timeout 50) else .ok true
  leave index _ := if index = 2 then .error (.timeout 50) else .ok (index = 3)

/-- A run with a sale on a signal and one because it is cancelled, which reconciles. -/
theorem rationalDays_reconcile :
    let result := run rationalSignals ⟨1000, 1⟩ (fun progress => progress.index = 5) rationalDays
    result.trades.map (fun trade => (trade.profit, trade.exitReason)) =
        [(6953 / 20, .signal), (22973 / 1980, .cancelled)] ∧
      (result.trades.map (·.profit)).sum = result.finalEquity - 1000 ∧
      result.finalEquity = result.trades.foldl
        (fun cash trade => (cash - 1) * (1 + trade.returnPercent / 100) - 1) 1000 := by
  intro result
  have reconciled := run_reconciles rationalSignals ⟨1000, 1⟩ rationalDays fun progress => progress.index = 5
  exact ⟨by decide +kernel, reconciled⟩

end Trial

end PaperTrading
