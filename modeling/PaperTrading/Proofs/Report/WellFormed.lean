/-
Module: PaperTrading.Proofs.Report.WellFormed
Purpose: Every report that a test returns is well formed.
Main exports: augment_dates, Report.IsWellFormed, Request.report_isWellFormed, backtest_stages, backtest_isWellFormed
-/
import PaperTrading.Backtest
import PaperTrading.Proofs.Arithmetic.Hundredths
import PaperTrading.Proofs.Ledger.EquityCurve
import PaperTrading.Proofs.Stages

namespace PaperTrading

section Dates

variable {α : Type}

/-- The rows of a panel have the dates of the bars. -/
theorem augment_dates [Arithmetic α] (bars : List (PriceBar α)) :
    (augment bars).map (·.date) = bars.map (·.date) := by
  refine List.ext_getElem? fun index => ?_
  rw [augment, List.getElem?_map, List.getElem?_map, List.getElem?_mapIdx, Option.map_map]
  rfl

/-- The date of the last row is that of the last bar. -/
theorem date_getLast?_of_augment [Arithmetic α] {bars : List (PriceBar α)} {index : Nat} {row : PanelRow α}
    (here : (augment bars)[index]? = some row) (last : index + 1 = (augment bars).length) :
    bars.getLast?.map (·.date) = some row.date := by
  rw [← List.getLast?_map, ← augment_dates, List.getLast?_map, List.getLast?_eq_getElem?, ← last, Nat.add_sub_cancel,
    here, Option.map_some]

variable {panel : List (PanelRow α)} {made next : DatedTrade α}

theorem PanelRow.date_lt_of_lt (ascending : (panel.map (·.date)).Pairwise (· < ·)) {index later : Nat}
    {row other : PanelRow α} (here : panel[index]? = some row) (there : panel[later]? = some other)
    (before : index < later) : row.date < other.date := by
  obtain ⟨inside, rfl⟩ := List.getElem?_eq_some_iff.1 here
  obtain ⟨within, rfl⟩ := List.getElem?_eq_some_iff.1 there
  exact List.pairwise_iff_getElem.1 (List.pairwise_map.1 ascending) index later inside within before

/-- A trade is sold on a later date than it was bought on. -/
theorem DatedTrade.IsMadeIn.entryDate_lt (here : made.IsMadeIn panel)
    (ascending : (panel.map (·.date)).Pairwise (· < ·)) : made.trade.entryDate < made.trade.exitDate := by
  obtain ⟨bought, entry, entryDate, -⟩ := here.bought
  obtain ⟨sold, exit, exitDate, -⟩ := here.sold
  rw [entryDate, exitDate]
  exact PanelRow.date_lt_of_lt ascending entry exit here.later

/-- A trade that begins after the end of another does so on a later date. -/
theorem DatedTrade.IsMadeIn.exitDate_lt (here : made.IsMadeIn panel) (there : next.IsMadeIn panel)
    (ascending : (panel.map (·.date)).Pairwise (· < ·)) (apart : made.exit < next.entry) :
    made.trade.exitDate < next.trade.entryDate := by
  obtain ⟨sold, exit, exitDate, -⟩ := here.sold
  obtain ⟨bought, entry, entryDate, -⟩ := there.bought
  rw [exitDate, entryDate]
  exact PanelRow.date_lt_of_lt ascending exit entry apart

end Dates

section Reports

/-- What holds of a report on some bars. -/
structure Report.IsWellFormed {α : Type} (report : Report α) (bars : List (PriceBar α)) : Prop where
  barCount : report.bars = bars.length
  start : report.equity.head? = some report.initialCapital
  points : report.equity.length ≤ report.bars + 1
  complete : report.cancelled = false → report.equity.length = report.bars + 1
  later : ∀ trade ∈ report.trades, trade.entryDate < trade.exitDate ∧ 1 ≤ trade.barsHeld
  apart : report.trades.IsChain fun trade next => trade.exitDate < next.entryDate
  signal : ∀ trade ∈ report.trades.dropLast, trade.exitReason = .signal
  endOfData : ∀ trade ∈ report.trades, trade.exitReason = .endOfData →
    report.cancelled = false ∧ bars.getLast?.map (·.date) = some trade.exitDate
  cancelled : ∀ trade ∈ report.trades, trade.exitReason = .cancelled → report.cancelled = true

variable {α : Type} [Arithmetic α] [Legible α] {feed : Feed α} {request : Request α} {terms : TestTerms α}
  {stopBefore : Progress → Bool} {prepared : Prepared α} {bars : List (PriceBar α)} {report : Report α}

/-- A report is only made on ascending days, and shows the result of a run over their panel. -/
theorem Request.result_of_report (made : request.report terms stopBefore prepared bars = .ok report) :
    let result := simulate prepared.rulebook (augment bars) ⟨request.initialCapital, terms.commission⟩ terms.budget
      stopBefore
    (bars.map (·.date)).Pairwise (· < ·) ∧ report.initialCapital = request.initialCapital ∧
      report.bars = (augment bars).length ∧ report.trades = result.trades ∧ report.equity = result.equity ∧
      report.cancelled = result.cancelled ∧
      report.performance = Performance.compute report.trades report.equity request.initialCapital ∧
      report.intent = prepared.intent.summary := by
  obtain ⟨-, made⟩ := guard_eq_ok.1 made
  obtain ⟨ordered, made⟩ := guard_eq_ok.1 made
  rw [Bool.not_eq_true, Bool.not_eq_false', isAscending_iff_pairwise] at ordered
  obtain rfl := Except.ok.inj made
  exact ⟨ordered, rfl, rfl, rfl, rfl, rfl, rfl, rfl⟩

/-- A report on bars is well formed. -/
theorem Request.report_isWellFormed (made : request.report terms stopBefore prepared bars = .ok report) :
    report.IsWellFormed bars := by
  obtain ⟨ascending, capital, barCount, trades, equity, cancelled, -⟩ := Request.result_of_report made
  rw [← augment_dates] at ascending
  rw [simulate] at trades equity cancelled
  obtain ⟨trips, course, tripTrades⟩ := run_course (prepared.rulebook.signals (augment bars) terms.budget)
    ⟨request.initialCapital, terms.commission⟩ (augment bars) stopBefore
  have counts := run_counts (prepared.rulebook.signals (augment bars) terms.budget)
    ⟨request.initialCapital, terms.commission⟩ (augment bars) stopBefore
  have curve := course.isCurveOf counts tripTrades
  exact
    { barCount := barCount.trans List.length_mapIdx
      start := by
        rw [equity, capital, List.head?_eq_getElem?]
        exact curve.start
      points := by
        rw [equity, barCount, curve.points]
        exact Nat.succ_le_succ curve.known
      complete := by
        intro completed
        rw [cancelled] at completed
        rw [equity, barCount, curve.points, counts.completed completed]
      later := by
        intro trade listed
        rw [trades, curve.trades] at listed
        obtain ⟨made, member, rfl⟩ := List.mem_map.1 listed
        have here := (curve.days made member).1
        refine ⟨here.entryDate_lt ascending, ?_⟩
        rw [here.barsHeld]
        exact Nat.sub_pos_of_lt here.later
      apart := by
        rw [trades, curve.trades, List.isChain_map]
        refine curve.ordered.imp_of_mem_imp ?_
        intro made next member nextMember apart
        exact (curve.days made member).1.exitDate_lt (curve.days next nextMember).1 ascending apart
      signal := by
        intro trade listed
        rw [trades, tripTrades, ← List.map_dropLast] at listed
        obtain ⟨trip, member, rfl⟩ := List.mem_map.1 listed
        exact course.reason_of_mem_dropLast member
      endOfData := by
        intro trade listed reason
        rw [trades, tripTrades] at listed
        obtain ⟨trip, member, rfl⟩ := List.mem_map.1 listed
        have sold := (course.completed member).sold
        obtain ⟨-, last, completed⟩ := sold.of_endOfData reason
        exact ⟨cancelled.trans completed, date_getLast?_of_augment sold.row last⟩
      cancelled := by
        intro trade listed reason
        rw [trades, tripTrades] at listed
        obtain ⟨trip, member, rfl⟩ := List.mem_map.1 listed
        exact cancelled.trans ((course.completed member).sold.of_cancelled reason).2 }

/-- The stages of a test that returns a report. -/
theorem backtest_stages (answered : backtest feed request terms stopBefore = .ok report) :
    ∃ prepared bars, request.ready = .ok prepared ∧
      feed request.symbol request.startDate request.endDate = .ok bars ∧
      request.report terms stopBefore prepared bars = .ok report := by
  obtain ⟨prepared, ready, answered⟩ := bind_eq_ok.1 answered
  cases fetched : feed request.symbol request.startDate request.endDate with
  | error problem =>
      simp only [fetched] at answered
      exact nomatch answered
  | ok bars =>
      simp only [fetched] at answered
      exact ⟨prepared, bars, ready, rfl, answered⟩

/-- Every report that a test returns is well formed. -/
theorem backtest_isWellFormed (answered : backtest feed request terms stopBefore = .ok report) :
    ∃ bars, feed request.symbol request.startDate request.endDate = .ok bars ∧
      report.initialCapital = request.initialCapital ∧ report.IsWellFormed bars := by
  obtain ⟨prepared, bars, -, fetched, made⟩ := backtest_stages answered
  obtain ⟨-, capital, -⟩ := Request.result_of_report made
  exact ⟨bars, fetched, capital, Request.report_isWellFormed made⟩

/-- Bars with some closing prices, on as many days in a row. -/
def closingBars (date : Date) : List Int → List (PriceBar Hundredths)
  | [] => []
  | price :: later =>
    ⟨"TEST", date, .ofInt price, .ofInt price, .ofInt price, .ofInt price, .ofInt 1000⟩ :: closingBars date.next later

/-- Prices that fall evenly until the warm-up is over, and then faster. -/
def fallingBars : List (PriceBar Hundredths) :=
  closingBars ⟨2023, 1, 2, by decide⟩
    ((List.range 201).map (fun day => 500 - (day : Int)) ++ [280, 260, 255, 250, 245])

/-- A request whose strategy buys on falling prices. -/
def fallingRequest : Request Hundredths :=
  ⟨"RSI below 30, RSI above 70", "", "TEST", ⟨2023, 1, 1, by decide⟩, ⟨2023, 12, 31, by decide⟩, .ofInt 10000⟩

/-- A cancelled test with a position that was stopped out and one that was open when it was cancelled. -/
theorem fallingBars_report_isWellFormed :
    ∃ report, backtest (fun _ _ _ => .ok fallingBars) fallingRequest ⟨.ofInt 1, .ample⟩
        (fun progress => progress.index = 204) = .ok report ∧
      report.trades.map (·.exitReason) = [.signal, .cancelled] ∧ report.IsWellFormed fallingBars := by
  have evaluated : (backtest (fun _ _ _ => .ok fallingBars) fallingRequest ⟨.ofInt 1, .ample⟩
      (fun progress => progress.index = 204)).toOption.map (fun report => report.trades.map (·.exitReason)) =
      some [.signal, .cancelled] := by
    decide +kernel
  cases answered : backtest (fun _ _ _ => .ok fallingBars) fallingRequest ⟨.ofInt 1, .ample⟩
      (fun progress => progress.index = 204) with
  | error failure =>
      rw [answered] at evaluated
      exact nomatch evaluated
  | ok report =>
      rw [answered] at evaluated
      obtain ⟨bars, fetched, -, wellFormed⟩ := backtest_isWellFormed answered
      obtain rfl := Except.ok.inj fetched
      exact ⟨report, rfl, Option.some.inj evaluated, wellFormed⟩

end Reports

end PaperTrading
