/-
Module: PaperTrading.Proofs.Report.Warmup
Purpose: No test trades before its warm-up is over, and on a short history it does not trade at all.
Main exports: Intent.warmupBars_entryRule, run_trades_after_warmup, run_of_short, backtest_trades_after_warmup
-/
import PaperTrading.Proofs.Report.WellFormed
import PaperTrading.Proofs.Strategy.Preparation

namespace PaperTrading

open Arithmetic (whole)

section Runs

variable {α : Type} [Arithmetic α] (signals : Signals α) (terms : Terms α) (panel : List (PanelRow α))
  (stopBefore : Progress → Bool)

/-- Every trade is bought after the warm-up and before the last day. -/
theorem run_trades_after_warmup {trade : Trade α} (made : trade ∈ (run signals terms stopBefore panel).trades) :
    ∃ day row, signals.warmup ≤ day ∧ day + 1 < panel.length ∧ panel[day]? = some row ∧ trade.entryDate = row.date := by
  obtain ⟨trips, course, trades⟩ := run_course signals terms panel stopBefore
  rw [trades] at made
  obtain ⟨trip, member, rfl⟩ := List.mem_map.1 made
  obtain ⟨cash, bought⟩ := (course.completed member).bought
  obtain ⟨row, here, position⟩ := bought.position
  refine ⟨trip.entry, row, bought.warm, bought.inside, here, ?_⟩
  rw [RoundTrip.trade, position]
  rfl

/-- With no day between the warm-up and the last day nothing is bought, and the capital stays as it is. -/
theorem run_of_short (short : panel.length ≤ signals.warmup + 1) :
    let result := run signals terms stopBefore panel
    result.trades = [] ∧ ∀ point ∈ result.equity, point = terms.capital := by
  intro result
  obtain ⟨trips, course, trades⟩ := run_course signals terms panel stopBefore
  have counts := run_counts signals terms panel stopBefore
  cases course with
  | trip idle bought kept sold later =>
      have warm := bought.warm
      have inside := bought.inside
      omega
  | rest idle =>
      refine ⟨trades, ?_⟩
      intro point listed
      obtain ⟨day, inside, rfl⟩ := List.mem_iff_getElem.1 listed
      have known : day ≤ result.barsProcessed := by
        have points : result.equity.length = result.barsProcessed + 1 := counts.points
        omega
      have worth := idle.worth day (Nat.zero_le day) known
      exact Option.some.inj ((List.getElem?_eq_getElem inside).symm.trans worth)

end Runs

section Strategies

variable {α : Type} [Arithmetic α]

/-- A drafted rule waits for its warm-up, whatever its conditions are. -/
theorem Intent.warmupBars_entryRule (intent : Intent α) : draftWarmup ≤ intent.entryRule.warmupBars := by
  rw [entryRule, Rule.warmupBars, Rule.longestWarmup, Rule.warmupBars]
  exact Nat.le_max_left _ _

variable [Legible α]

/-- A prepared strategy waits for the warm-up of the drafts. -/
theorem Prepared.draftWarmup_le (spelled : SpelledOut α) (constants : DraftConstants α) {description category : String}
    {prepared : Prepared α} (ready : prepare description category = .ok prepared) :
    draftWarmup ≤ prepared.rulebook.entry.warmupBars := by
  obtain ⟨-, -, rules⟩ := prepare_eq_ok spelled constants ready
  rw [rules]
  exact prepared.intent.warmupBars_entryRule

variable {feed : Feed α} {request : Request α} {terms : TestTerms α} {stopBefore : Progress → Bool}
  {prepared : Prepared α} {bars : List (PriceBar α)} {report : Report α}

/-- A request that is ready is prepared from its description. -/
theorem Request.prepare_of_ready (ready : request.ready = .ok prepared) :
    prepare request.description request.category = .ok prepared := by
  obtain ⟨-, -, prepared⟩ := bind_eq_ok.1 ready
  exact prepared

omit [Legible α] in
/-- The row of a day has the date of its bar. -/
theorem exists_bar_of_row {day : Nat} {row : PanelRow α} (here : (augment bars)[day]? = some row) :
    ∃ bar, bars[day]? = some bar ∧ row.date = bar.date := by
  have date := congrArg (Option.map (·.date)) here
  rw [← List.getElem?_map, augment_dates, List.getElem?_map] at date
  obtain ⟨bar, there, same⟩ := Option.map_eq_some_iff.1 date
  exact ⟨bar, there, same.symm⟩

/-- Every trade of a test is entered at least two hundred days after the first bar and before the last one.  So on a
history of at most two hundred and one bars there are no trades, no point of the equity curve differs from the capital,
and there are no points for the worst grade. -/
theorem backtest_trades_after_warmup (spelled : SpelledOut α) (constants : DraftConstants α)
    (answered : backtest feed request terms stopBefore = .ok report) :
    ∃ bars, feed request.symbol request.startDate request.endDate = .ok bars ∧
      (∀ trade ∈ report.trades, ∃ index bar, 200 ≤ index ∧ index + 2 ≤ bars.length ∧ bars[index]? = some bar ∧
        trade.entryDate = bar.date) ∧
      (bars.length ≤ 201 →
        report.trades = [] ∧ (∀ point ∈ report.equity, point = request.initialCapital) ∧
          report.performance.score = whole 0 ∧ report.performance.grade = .f) := by
  obtain ⟨prepared, bars, ready, fetched, made⟩ := backtest_stages answered
  obtain ⟨-, -, -, trades, equity, -, performance, -⟩ := Request.result_of_report made
  have length : (augment bars).length = bars.length := List.length_mapIdx
  let signals := prepared.rulebook.signals (augment bars) terms.budget
  have warmup : 200 ≤ signals.warmup :=
    Prepared.draftWarmup_le spelled constants (Request.prepare_of_ready ready)
  refine ⟨bars, fetched, ?late, ?short⟩
  case late =>
    intro trade listed
    rw [trades] at listed
    obtain ⟨day, row, warm, inside, here, entered⟩ := run_trades_after_warmup signals _ _ _ listed
    rw [length] at inside
    obtain ⟨bar, there, date⟩ := exists_bar_of_row here
    exact ⟨day, bar, Nat.le_trans warmup warm, inside, there, entered.trans date⟩
  case short =>
    intro few
    have short : (augment bars).length ≤ signals.warmup + 1 := by
      omega
    obtain ⟨noTrades, flat⟩ := run_of_short signals ⟨request.initialCapital, terms.commission⟩ (augment bars)
      stopBefore short
    have empty : report.trades = [] := trades.trans noTrades
    rw [empty] at performance
    refine ⟨empty, ?_, ?_, ?_⟩
    · rw [equity]
      exact flat
    · rw [performance]
      rfl
    · rw [performance]
      rfl

end Strategies

section Trial

/-- A test on enough days, whose first trade is entered on the first day it may be, and one on a day too few. -/
theorem fallingBars_trades_after_warmup :
    (∃ report, backtest (fun _ _ _ => .ok fallingBars) fallingRequest ⟨.ofInt 1, .ample⟩ (fun _ => false) =
        .ok report ∧
      report.trades.map (fun trade => (trade.entryDate.month, trade.entryDate.day)) = [(7, 21), (7, 23)] ∧
      ∀ trade ∈ report.trades, ∃ index bar, 200 ≤ index ∧ index + 2 ≤ fallingBars.length ∧
        fallingBars[index]? = some bar ∧ trade.entryDate = bar.date) ∧
      ∃ report, backtest (fun _ _ _ => .ok (fallingBars.take 201)) fallingRequest ⟨.ofInt 1, .ample⟩ (fun _ => false) =
          .ok report ∧
        (∀ point ∈ report.equity, point = .ofInt 10000) ∧ report.performance.grade = .f := by
  constructor
  · have evaluated : (backtest (fun _ _ _ => .ok fallingBars) fallingRequest ⟨.ofInt 1, .ample⟩
        (fun _ => false)).toOption.map (fun report =>
          report.trades.map (fun trade => (trade.entryDate.month, trade.entryDate.day))) =
        some [(7, 21), (7, 23)] := by
      decide +kernel
    cases answered : backtest (fun _ _ _ => .ok fallingBars) fallingRequest ⟨.ofInt 1, .ample⟩ (fun _ => false) with
    | error failure =>
        rw [answered] at evaluated
        exact nomatch evaluated
    | ok report =>
        rw [answered] at evaluated
        obtain ⟨bars, fetched, late, -⟩ :=
          backtest_trades_after_warmup Hundredths.spelledOut Hundredths.draftConstants answered
        obtain rfl := Except.ok.inj fetched
        exact ⟨report, rfl, Option.some.inj evaluated, late⟩
  · have evaluated : (backtest (fun _ _ _ => .ok (fallingBars.take 201)) fallingRequest ⟨.ofInt 1, .ample⟩
        (fun _ => false)).toOption.isSome = true := by
      decide +kernel
    cases answered : backtest (fun _ _ _ => .ok (fallingBars.take 201)) fallingRequest ⟨.ofInt 1, .ample⟩
        (fun _ => false) with
    | error failure =>
        rw [answered] at evaluated
        exact nomatch evaluated
    | ok report =>
        obtain ⟨bars, fetched, -, short⟩ :=
          backtest_trades_after_warmup Hundredths.spelledOut Hundredths.draftConstants answered
        obtain rfl := Except.ok.inj fetched
        have few : (fallingBars.take 201).length ≤ 201 := by
          rw [List.length_take]
          exact Nat.min_le_left _ _
        obtain ⟨-, flat, -, worst⟩ := short few
        exact ⟨report, rfl, flat, worst⟩

end Trial

end PaperTrading
