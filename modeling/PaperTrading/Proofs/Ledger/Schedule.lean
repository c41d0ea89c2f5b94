/-
Module: PaperTrading.Proofs.Ledger.Schedule
Purpose: A run trades what a search for the next purchase and the next sale finds, no more and no less.
Main exports: firstDay?, schedule, Course.trades_eq_schedule, simulate_trades_eq_schedule
-/
import PaperTrading.Proofs.Ledger.Course
import PaperTrading.Proofs.Ledger.Foresight

namespace PaperTrading

open Arithmetic (whole)

section Search

/-- The first day with a property, from one day on and before another. -/
def firstDay? (first bound : Nat) (property : Nat → Bool) : Option Nat :=
  (List.range' first (bound - first)).find? property

variable {first bound day : Nat} {property : Nat → Bool}

theorem firstDay?_eq_some_iff :
    firstDay? first bound property = some day ↔
      (first ≤ day ∧ day < bound) ∧ property day = true ∧
        ∀ earlier, first ≤ earlier → earlier < day → property earlier = false := by
  rw [firstDay?, List.find?_range'_eq_some, List.mem_range'_1]
  constructor
  · rintro ⟨holds, ⟨low, high⟩, before⟩
    refine ⟨⟨low, by omega⟩, holds, ?_⟩
    intro earlier after within
    simpa using before earlier after within
  · rintro ⟨⟨low, high⟩, holds, before⟩
    refine ⟨holds, ⟨low, by omega⟩, ?_⟩
    intro earlier after within
    simpa using before earlier after within

theorem firstDay?_eq_none_iff :
    firstDay? first bound property = none ↔ ∀ day, first ≤ day → day < bound → property day = false := by
  rw [firstDay?, List.find?_range'_eq_none]
  constructor
  · intro none day low high
    simpa using none day low (by omega)
  · intro none day low high
    simpa using none day low (by omega)

end Search

variable {α : Type} [Arithmetic α]

section Reference

variable (signals : Signals α) (terms : Terms α) (panel : List (PanelRow α))

/-- The trade for all of some cash that is bought on one day and sold on another. -/
def tradeBetween (cash : α) (entry exit : Nat) (bought sold : PanelRow α) (reason : ExitReason) : Trade α :=
  let shares := (cash - terms.fee) / bought.closePrice
  { entryDate := bought.date
    exitDate := sold.date
    entryPrice := bought.closePrice
    exitPrice := sold.closePrice
    shares
    returnPercent := (sold.closePrice - bought.closePrice) / bought.closePrice * whole 100
    profit := shares * sold.closePrice - terms.fee - (shares * bought.closePrice + terms.fee)
    exitReason := reason
    barsHeld := exit - entry }

/-- The trades from a day on, of a book with some cash.  The purchase is on the first day that asks for one and allows
it; the sale is on the first day after it that asks for one, or else on the last day; and the search goes on after the
sale, with the cash that it brought in. -/
def schedule (first : Nat) (cash : α) : List (Trade α) :=
  match buys : firstDay? first panel.length (buysOn signals terms panel cash) with
  | none => []
  | some entry =>
    have inside := (firstDay?_eq_some_iff.1 buys).1
    let bought := panel[entry]
    let asks day := saysYes (signals.leave day ⟨bought.closePrice, entry⟩)
    match sells : firstDay? (entry + 1) panel.length asks with
    | some exit =>
      have after := (firstDay?_eq_some_iff.1 sells).1
      let sold := panel[exit]
      let cashAfter := (cash - terms.fee) / bought.closePrice * sold.closePrice - terms.fee
      tradeBetween terms cash entry exit bought sold .signal :: schedule (exit + 1) cashAfter
    | none =>
      [tradeBetween terms cash entry (panel.length - 1) bought panel[panel.length - 1] .endOfData]
termination_by panel.length - first
decreasing_by omega

variable {signals terms panel} {first entry exit : Nat} {cash : α} {bought sold : PanelRow α}

theorem schedule_of_none (buys : firstDay? first panel.length (buysOn signals terms panel cash) = none) :
    schedule signals terms panel first cash = [] := by
  rw [schedule]
  split
  · rfl
  · next day found => exact nomatch buys.symm.trans found

section Purchase

variable (buys : firstDay? first panel.length (buysOn signals terms panel cash) = some entry)
  (here : panel[entry]? = some bought) (there : panel[exit]? = some sold)
include buys here there

theorem schedule_of_sale (sells : firstDay? (entry + 1) panel.length
      (fun day => saysYes (signals.leave day ⟨bought.closePrice, entry⟩)) = some exit) :
    schedule signals terms panel first cash =
      tradeBetween terms cash entry exit bought sold .signal ::
        schedule signals terms panel (exit + 1)
          ((cash - terms.fee) / bought.closePrice * sold.closePrice - terms.fee) := by
  obtain ⟨inside, rfl⟩ := List.getElem?_eq_some_iff.1 here
  obtain ⟨within, rfl⟩ := List.getElem?_eq_some_iff.1 there
  rw [schedule]
  split
  · next none => exact nomatch buys.symm.trans none
  · next day found =>
      obtain rfl := Option.some.inj (buys.symm.trans found)
      dsimp only
      split
      · next last found =>
          obtain rfl := Option.some.inj (sells.symm.trans found)
          rfl
      · next none => exact nomatch sells.symm.trans none

theorem schedule_of_end (last : exit + 1 = panel.length) (sells : firstDay? (entry + 1) panel.length
      (fun day => saysYes (signals.leave day ⟨bought.closePrice, entry⟩)) = none) :
    schedule signals terms panel first cash = [tradeBetween terms cash entry exit bought sold .endOfData] := by
  obtain ⟨inside, rfl⟩ := List.getElem?_eq_some_iff.1 here
  obtain ⟨within, rfl⟩ := List.getElem?_eq_some_iff.1 there
  obtain rfl : exit = panel.length - 1 := Nat.eq_sub_of_add_eq last
  rw [schedule]
  split
  · next none => exact nomatch buys.symm.trans none
  · next day found =>
      obtain rfl := Option.some.inj (buys.symm.trans found)
      dsimp only
      split
      · next day found => exact nomatch sells.symm.trans found
      · rfl

end Purchase

end Reference

section Runs

variable {signals : Signals α} {terms : Terms α} {panel : List (PanelRow α)} {result : RunResult α}
  {first : Nat} {cash : α} {trip : RoundTrip α} {trips : List (RoundTrip α)}

theorem IdleBetween.firstDay?_eq_none (idle : IdleBetween signals terms panel result first panel.length cash) :
    firstDay? first panel.length (buysOn signals terms panel cash) = none :=
  firstDay?_eq_none_iff.2 idle.quiet

/-- A position is bought on the first day that it can be. -/
theorem RoundTrip.Bought.firstDay? (bought : trip.Bought signals terms panel cash)
    (idle : IdleBetween signals terms panel result first trip.entry cash) :
    firstDay? first panel.length (buysOn signals terms panel cash) = some trip.entry :=
  firstDay?_eq_some_iff.2
    ⟨⟨idle.ordered, Nat.lt_of_succ_lt bought.inside⟩, bought.signal, idle.quiet⟩

section Purchase

variable {row : PanelRow α} (position : trip.position = .allIn trip.entry row cash terms.fee)
include position

theorem RoundTrip.trade_eq_tradeBetween :
    trip.trade terms = tradeBetween terms cash trip.entry trip.exit row trip.sold trip.reason := by
  rw [RoundTrip.trade, position]
  rfl

theorem RoundTrip.proceeds_eq :
    trip.proceeds terms = (cash - terms.fee) / row.closePrice * trip.sold.closePrice - terms.fee := by
  rw [RoundTrip.proceeds, position]
  rfl

/-- After the purchase, the strategy is asked about the sale every day. -/
theorem RoundTrip.sells_eq {day : Nat} (after : trip.entry < day) :
    signals.sells trip.position day = saysYes (signals.leave day ⟨row.closePrice, trip.entry⟩) := by
  rw [RoundTrip.entry] at after
  rw [Signals.sells, decide_eq_true after, Bool.true_and, RoundTrip.entry, position]
  rfl

variable (kept : HeldBetween signals panel result trip.position trip.entry trip.exit)
  (sold : trip.Sold signals panel result)
include kept

theorem RoundTrip.saysYes_leave_eq_false {day : Nat} (after : trip.entry < day) (before : day < trip.exit) :
    saysYes (signals.leave day ⟨row.closePrice, trip.entry⟩) = false := by
  rw [← RoundTrip.sells_eq position after]
  exact kept.quiet day (Nat.le_of_lt after) before

include sold

/-- A sale on a signal is on the first day that asks for it. -/
theorem RoundTrip.firstDay?_of_signal (reason : trip.reason = .signal) :
    firstDay? (trip.entry + 1) panel.length
      (fun day => saysYes (signals.leave day ⟨row.closePrice, trip.entry⟩)) = some trip.exit := by
  have signal := sold.of_signal reason
  rw [RoundTrip.sells_eq position sold.later] at signal
  have inside : trip.exit < panel.length := (List.getElem?_eq_some_iff.1 sold.row).1
  refine firstDay?_eq_some_iff.2 ⟨⟨sold.later, inside⟩, signal, ?_⟩
  intro day after before
  exact RoundTrip.saysYes_leave_eq_false position kept after before

/-- A position that the end closes has no day that asks for its sale. -/
theorem RoundTrip.firstDay?_of_endOfData (reason : trip.reason = .endOfData) :
    firstDay? (trip.entry + 1) panel.length
      (fun day => saysYes (signals.leave day ⟨row.closePrice, trip.entry⟩)) = none := by
  obtain ⟨quiet, last, -⟩ := sold.of_endOfData reason
  rw [RoundTrip.sells_eq position sold.later] at quiet
  refine firstDay?_eq_none_iff.2 ?_
  intro day after inside
  rcases Nat.lt_or_ge day trip.exit with before | late
  · exact RoundTrip.saysYes_leave_eq_false position kept after before
  · obtain rfl : day = trip.exit := by omega
    exact quiet

end Purchase

/-- A course of a run that is not cancelled makes the trades of the schedule. -/
theorem Course.trades_eq_schedule (course : Course signals terms panel result first cash trips)
    (completed : result.cancelled = false) (all : result.barsProcessed = panel.length) :
    trips.map (·.trade terms) = schedule signals terms panel first cash := by
  induction course with
  | rest idle =>
      rw [all] at idle
      rw [schedule_of_none idle.firstDay?_eq_none]
      rfl
  | @trip first cash trip trips idle bought kept sold later ih =>
      have buys := bought.firstDay? idle
      obtain ⟨row, here, position⟩ := bought.position
      rw [List.map_cons, RoundTrip.trade_eq_tradeBetween position, ih]
      cases reason : trip.reason with
      | signal =>
          have sells := RoundTrip.firstDay?_of_signal position kept sold reason
          rw [schedule_of_sale buys here sold.row sells, RoundTrip.proceeds_eq position]
      | endOfData =>
          have sells := RoundTrip.firstDay?_of_endOfData position kept sold reason
          have last := (sold.of_endOfData reason).2.1
          -- The search that goes on after the last day finds nothing.
          have none : firstDay? (trip.exit + 1) panel.length
              (buysOn signals terms panel (trip.proceeds terms)) = none := by
            refine firstDay?_eq_none_iff.2 ?_
            intro day after inside
            omega
          rw [schedule_of_end buys here sold.row last sells, schedule_of_none none]
      | cancelled =>
          exact absurd (completed.symm.trans (sold.of_cancelled reason).2) Bool.false_ne_true

end Runs

section Simulation

variable (rulebook : Rulebook α) (panel : List (PanelRow α)) (terms : Terms α) (budget : Budget)
  {stopBefore : Progress → Bool}

/-- A run that is not cancelled trades exactly the schedule: it misses no day to buy or to sell on, and invents none. -/
theorem simulate_trades_eq_schedule
    (completed : (simulate rulebook panel terms budget stopBefore).cancelled = false) :
    (simulate rulebook panel terms budget stopBefore).trades =
      schedule (rulebook.signals panel budget) terms panel 0 terms.capital := by
  rw [simulate] at completed ⊢
  obtain ⟨trips, course, trades⟩ := run_course (rulebook.signals panel budget) terms panel stopBefore
  rw [trades]
  exact course.trades_eq_schedule completed ((run_counts _ _ _ _).completed completed)

/-- Five days with a fall between two rises. -/
def swingDays : List (PanelRow Hundredths) :=
  [Hundredths.flatDay ⟨2021, 1, 2, by decide⟩ 110, Hundredths.flatDay ⟨2021, 1, 3, by decide⟩ 90,
    Hundredths.flatDay ⟨2021, 1, 4, by decide⟩ 120, Hundredths.flatDay ⟨2021, 1, 5, by decide⟩ 100,
    Hundredths.flatDay ⟨2021, 1, 8, by decide⟩ 130]

/-- The schedule of these days has a trade that is sold on a signal, and one that the end closes. -/
theorem swingDays_trades_eq_schedule :
    let terms : Terms Hundredths := ⟨.ofInt 1000, .ofInt 1⟩
    let result := simulate trialRulebook swingDays terms .ample fun _ => false
    result.cancelled = false ∧
      result.trades = schedule (trialRulebook.signals swingDays .ample) terms swingDays 0 terms.capital ∧
      result.trades.map (fun trade => (trade.entryPrice, trade.exitPrice, trade.exitReason, trade.barsHeld)) =
        [(.ofInt 110, .ofInt 90, .signal, 1), (.ofInt 120, .ofInt 130, .endOfData, 2)] := by
  intro terms result
  have completed : result.cancelled = false := rfl
  exact ⟨completed, simulate_trades_eq_schedule trialRulebook swingDays terms .ample completed, by decide +kernel⟩

end Simulation

end PaperTrading
