/-
Module: PaperTrading.Proofs.Ledger.Gains
Purpose: In exact arithmetic a trade of a run is won exactly if the move of the price pays for both fees.
Main exports: Trade.gain, Trade.IsCharged, run_trades_isCharged, simulate_averages_signed, gainBelowFees_averageLoss_pos

Whether a trade is won is decided by its profit, after fees, and its return is the move of the price, before fees.  The two
have the same sign for every trade that is won, but not for every trade that is lost.
-/
import PaperTrading.Proofs.Ledger.Reconciliation
import PaperTrading.Proofs.Performance.TradeStatistics

namespace PaperTrading

open Arithmetic (whole)

variable {K : Type} [LinearOrder K] [ExactArithmetic K]

/-- What the move of the price makes of the shares of a trade, before fees. -/
def Trade.gain (trade : Trade K) : K :=
  trade.shares * (trade.exitPrice - trade.entryPrice)

/-- A trade pays a fee twice out of its gain, and its gain is its return on what was spent on shares. -/
structure Trade.IsCharged (fee : K) (trade : Trade K) : Prop where
  profit : trade.profit = trade.gain - 2 * fee
  returned : ∃ spent, 0 < spent ∧ trade.gain = spent * (trade.returnPercent / 100)

namespace Trade.IsCharged

variable {fee : K} {trade : Trade K} [IsStrictOrderedRing K] (charged : trade.IsCharged fee)
include charged

theorem isWin_iff : trade.isWin = true ↔ 2 * fee < trade.gain := by
  rw [isWin, ExactArithmetic.lt_iff, ExactArithmetic.whole_zero, charged.profit, sub_pos]

theorem isWin_eq_false_iff : trade.isWin = false ↔ trade.gain ≤ 2 * fee := by
  rw [← Bool.not_eq_true, charged.isWin_iff, not_lt]

theorem returnPercent_pos_iff : 0 < trade.returnPercent ↔ 0 < trade.gain := by
  obtain ⟨spent, positive, gain⟩ := charged.returned
  rw [gain, mul_pos_iff_of_pos_left positive, div_pos_iff_of_pos_right (by norm_num)]

/-- A trade that is won has a positive return. -/
theorem returnPercent_pos_of_isWin (nonneg : 0 ≤ fee) (won : trade.isWin = true) : 0 < trade.returnPercent := by
  rw [charged.returnPercent_pos_iff]
  calc 0 ≤ 2 * fee := mul_nonneg (by norm_num) nonneg
    _ < trade.gain := charged.isWin_iff.1 won

/-- Without fees, a trade that is lost has no positive return. -/
theorem returnPercent_nonpos_of_lost (free : fee = 0) (lost : trade.isWin = false) : trade.returnPercent ≤ 0 := by
  rw [charged.isWin_eq_false_iff, free, mul_zero] at lost
  rw [← not_lt, charged.returnPercent_pos_iff]
  exact not_lt.2 lost

end Trade.IsCharged

section Runs

variable {signals : Signals K} {terms : Terms K} {panel : List (PanelRow K)} {cash : K} {trip : RoundTrip K}

/-- The trade of a position that was bought with some cash. -/
theorem RoundTrip.Bought.isCharged [IsStrictOrderedRing K] (bought : trip.Bought signals terms panel cash) :
    (trip.trade terms).IsCharged terms.fee := by
  obtain ⟨row, position, price, affordable⟩ := bought.exists_row
  have hundred : (whole 100 : K) = 100 := ExactArithmetic.whole_eq_cast 100
  rw [RoundTrip.trade, position]
  constructor
  case profit =>
    simp only [Position.close, Position.proceeds, Position.marketValue, Position.cost, Position.allIn, Trade.gain]
    ring
  case returned =>
    refine ⟨cash - terms.fee, sub_pos.2 affordable, ?_⟩
    simp only [Position.close, Position.allIn, Trade.gain, hundred]
    field_simp

variable [IsStrictOrderedRing K] (signals terms panel) (stopBefore : Progress → Bool)

theorem run_trades_isCharged :
    ∀ trade ∈ (run signals terms stopBefore panel).trades, trade.IsCharged terms.fee := by
  obtain ⟨trips, course, trades⟩ := run_course signals terms panel stopBefore
  intro trade listed
  rw [trades] at listed
  obtain ⟨trip, member, rfl⟩ := List.mem_map.1 listed
  obtain ⟨cash, bought⟩ := (course.completed member).bought
  exact bought.isCharged

end Runs

section Averages

variable [IsStrictOrderedRing K] {trades : List (Trade K)} (curve : List K) (initialCapital : K)

theorem Performance.averageWin_nonneg (gained : ∀ trade ∈ trades, trade.isWin = true → 0 < trade.returnPercent) :
    0 ≤ (compute trades curve initialCapital).trades.averageWin := by
  by_cases traded : trades = []
  · subst traded
    exact (ExactArithmetic.whole_zero (K := K)).ge
  · rw [trades_compute traded]
    apply average_nonneg
    intro x listed
    obtain ⟨trade, won, rfl⟩ := List.mem_map.1 listed
    obtain ⟨member, wins⟩ := List.mem_filter.1 won
    exact (gained trade member wins).le

theorem Performance.averageLoss_nonpos (fell : ∀ trade ∈ trades, trade.isWin = false → trade.returnPercent ≤ 0) :
    (compute trades curve initialCapital).trades.averageLoss ≤ 0 := by
  by_cases traded : trades = []
  · subst traded
    exact (ExactArithmetic.whole_zero (K := K)).le
  · rw [trades_compute traded]
    apply average_nonpos
    intro x listed
    obtain ⟨trade, lost, rfl⟩ := List.mem_map.1 listed
    obtain ⟨member, loses⟩ := List.mem_filter.1 lost
    exact fell trade member (Bool.not_eq_true' _ ▸ loses)

end Averages

section Simulations

variable [IsStrictOrderedRing K] (rulebook : Rulebook K) (panel : List (PanelRow K)) (budget : Budget)
  (stopBefore : Progress → Bool)

/-- In exact arithmetic and with a fee that is not negative, every trade of a run that is won has a positive return, so the
average win is not negative.  A trade is lost in spite of a positive return exactly if it has a gain and the two fees use
it up.  Without a fee no trade that is lost has a positive return, and the average loss is not positive. -/
theorem simulate_averages_signed (terms : Terms K) (nonneg : 0 ≤ terms.fee) :
    let result := simulate rulebook panel terms budget stopBefore
    let statistics := (Performance.compute result.trades result.equity terms.capital).trades
    ((∀ trade ∈ result.trades, trade.isWin = true → 0 < trade.returnPercent) ∧ 0 ≤ statistics.averageWin) ∧
      (∀ trade ∈ result.trades, (trade.isWin = false ∧ 0 < trade.returnPercent ↔
        0 < trade.gain ∧ trade.gain ≤ 2 * terms.fee)) ∧
      (terms.fee = 0 → (∀ trade ∈ result.trades, trade.isWin = false → trade.returnPercent ≤ 0) ∧
        statistics.averageLoss ≤ 0) := by
  intro result statistics
  have charged : ∀ trade ∈ result.trades, trade.IsCharged terms.fee :=
    run_trades_isCharged (rulebook.signals panel budget) terms panel stopBefore
  have gained : ∀ trade ∈ result.trades, trade.isWin = true → 0 < trade.returnPercent :=
    fun trade listed => (charged trade listed).returnPercent_pos_of_isWin nonneg
  refine ⟨⟨gained, Performance.averageWin_nonneg _ _ gained⟩, ?lost, ?free⟩
  case lost =>
    intro trade listed
    rw [(charged trade listed).isWin_eq_false_iff, (charged trade listed).returnPercent_pos_iff, and_comm]
  case free =>
    intro free
    have fell : ∀ trade ∈ result.trades, trade.isWin = false → trade.returnPercent ≤ 0 :=
      fun trade listed => (charged trade listed).returnPercent_nonpos_of_lost free
    exact ⟨fell, Performance.averageLoss_nonpos _ _ fell⟩

end Simulations

section Trial

/-- Days in a row with some prices. -/
def rationalPanel (date : Date) : List ℚ → List (PanelRow ℚ)
  | [] => []
  | price :: later => rationalDay date price :: rationalPanel date.next later

/-- Buys and sells whenever it can. -/
def restlessRulebook : Rulebook ℚ where
  source := ""
  entry := .compare .above (.column .closePrice) (.constant 0)
  exit := .compare .above (.column .closePrice) (.constant 0)

/-- Days whose price rises by a hundredth, then by a fifth, and then falls by a tenth. -/
def restlessDays : List (PanelRow ℚ) :=
  rationalPanel ⟨2013, 7, 1, by decide⟩ [100, 101, 100, 120, 100, 90]

/-- With a fee of 10, only the second of three trades is won, and the first is lost with a gain; without a fee the average
loss is not positive. -/
theorem restlessDays_averages_signed :
    let result := simulate restlessRulebook restlessDays ⟨1000, 10⟩ .ample fun _ => false
    let statistics := (Performance.compute result.trades result.equity 1000).trades
    let free := simulate restlessRulebook restlessDays ⟨1000, 0⟩ .ample fun _ => false
    (result.trades.map fun trade => (trade.isWin, trade.returnPercent)) = [(false, 1), (true, 20), (false, -10)] ∧
      (0 : ℚ) ≤ 10 ∧ 0 ≤ statistics.averageWin ∧
      (∀ trade ∈ result.trades, (trade.isWin = false ∧ 0 < trade.returnPercent ↔
        0 < trade.gain ∧ trade.gain ≤ 2 * 10)) ∧
      (Performance.compute free.trades free.equity 1000).trades.averageLoss ≤ 0 := by
  intro result statistics free
  have nonneg : (0 : ℚ) ≤ 10 := by
    norm_num
  obtain ⟨⟨-, averageWin⟩, lost, -⟩ := simulate_averages_signed restlessRulebook restlessDays .ample (fun _ => false)
    ⟨1000, 10⟩ nonneg
  obtain ⟨-, -, withoutFee⟩ := simulate_averages_signed restlessRulebook restlessDays .ample (fun _ => false)
    ⟨1000, 0⟩ le_rfl
  exact ⟨by decide +kernel, nonneg, averageWin, lost, (withoutFee rfl).2⟩

/-- The price rises by a hundredth, which does not pay for the fees: the one trade is lost with a positive return, and the
average loss is positive. -/
theorem gainBelowFees_averageLoss_pos :
    let panel := restlessDays.take 3
    let result := simulate restlessRulebook panel ⟨1000, 10⟩ .ample fun _ => false
    let statistics := (Performance.compute result.trades result.equity 1000).trades
    ((0 : ℚ) < 1000 ∧ (0 : ℚ) ≤ 10 ∧ ∀ row ∈ panel, 0 < row.closePrice) ∧
      (∃ trade ∈ result.trades, trade.isWin = false ∧ 0 < trade.returnPercent) ∧ 0 < statistics.averageLoss := by
  decide +kernel

end Trial

end PaperTrading
