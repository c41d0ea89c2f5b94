/-
Module: PaperTrading.Proofs.Ledger.Foresight
Purpose: A run over the first days of a panel begins a run over all of them, but for the sale that its end forces.
Main exports: Signals.AgreeBefore, Book.after_take, simulate_without_foresight
-/
import PaperTrading.Proofs.Arithmetic.Hundredths
import PaperTrading.Proofs.Ledger.Days
import PaperTrading.Proofs.Rule.Locality

namespace PaperTrading

variable {α : Type} [Arithmetic α]

section Agreement

/-- Two strategies decide alike before a day. -/
structure Signals.AgreeBefore (first second : Signals α) (days : Nat) : Prop where
  warmup : first.warmup = second.warmup
  enter : ∀ index < days, first.enter index = second.enter index
  leave : ∀ index < days, ∀ entered, first.leave index entered = second.leave index entered

variable {first second : Signals α} {terms : Terms α} {days : Nat}

/-- A day goes alike where the strategies decide alike. -/
theorem Book.step_congr (agree : first.AgreeBefore second days) {index : Nat} (early : index < days)
    (row : PanelRow α) (isLast : Bool) (book : Book α) :
    book.step first terms index row isLast = book.step second terms index row isLast := by
  simp only [step, decide, agree.warmup, agree.enter index early, agree.leave index early]

/-- Before the last of the first days, the accounts are those of the run over all days. -/
theorem Book.after_take {panel : List (PanelRow α)} (agree : first.AgreeBefore second days)
    (known : days ≤ panel.length) {day : Nat} (early : day < days) :
    after first terms (panel.take days) day = after second terms panel day := by
  induction day with
  | zero => rfl
  | succ day ih =>
      have before : day < days := Nat.lt_of_succ_lt early
      have length : (panel.take days).length = days := List.length_take_of_le known
      have notLast : (day + 1 == (panel.take days).length) = false :=
        beq_eq_false_iff_ne.2 (length.symm ▸ Nat.ne_of_lt early)
      have notEnd : (day + 1 == panel.length) = false :=
        beq_eq_false_iff_ne.2 (Nat.ne_of_lt (Nat.lt_of_lt_of_le early known))
      rw [← after_succ (Nat.lt_of_lt_of_le before known), ← after_succ (length.symm ▸ before), ih before,
        List.getElem_take, notLast, notEnd]
      exact step_congr agree before _ false _

/-- A rulebook decides alike on the first days of a panel and on all of it. -/
theorem Rulebook.signals_take (rulebook : Rulebook α) (panel : List (PanelRow α)) (known : days ≤ panel.length)
    (budget : Budget) :
    (rulebook.signals (panel.take days) budget).AgreeBefore (rulebook.signals panel budget) days where
  warmup := rfl
  enter := by
    intro index early
    exact rulebook.entry.evaluate_take none panel early (Nat.lt_of_lt_of_le early known) budget
  leave := by
    intro index early entered
    exact rulebook.exit.evaluate_take (some entered) panel early (Nat.lt_of_lt_of_le early known) budget

end Agreement

section Foresight

variable {first second : Signals α} {terms : Terms α} {panel : List (PanelRow α)} {days : Nat}

/-- The points of the equity curve before the last of the first days are the same. -/
theorem Book.equity_without_foresight (agree : first.AgreeBefore second days) (nonempty : 1 ≤ days)
    (known : days ≤ panel.length) :
    (after first terms (panel.take days) days).equity.toList.take days =
      (after second terms panel panel.length).equity.toList.take days := by
  have within : days ≤ (panel.take days).length := Nat.le_of_eq (List.length_take_of_le known).symm
  have points : days - 1 + 1 = days := Nat.sub_add_cancel nonempty
  calc (after first terms (panel.take days) days).equity.toList.take days
    _ = (after first terms (panel.take days) days).equity.toList.take (days - 1 + 1) := by rw [points]
    _ = (after first terms (panel.take days) (days - 1)).equity.toList :=
        take_equity_after (Nat.sub_le days 1) within
    _ = (after second terms panel (days - 1)).equity.toList := by
        rw [after_take agree known (Nat.sub_one_lt_of_lt nonempty)]
    _ = (after second terms panel panel.length).equity.toList.take (days - 1 + 1) :=
        (take_equity_after (Nat.le_trans (Nat.sub_le days 1) known) Nat.le.refl).symm
    _ = (after second terms panel panel.length).equity.toList.take days := by rw [points]

/-- Every trade of a run over the first days is closed on one of them, for its date. -/
theorem Book.exists_closing_day (known : days ≤ panel.length) {place : Nat} {trade : Trade α}
    (made : (after first terms (panel.take days) days).trades.toList[place]? = some trade) :
    ∃ day < days, ClosedOn first terms (panel.take days) place day ∧
      panel[day]?.map (·.date) = some trade.exitDate := by
  have within : days ≤ (panel.take days).length := Nat.le_of_eq (List.length_take_of_le known).symm
  obtain ⟨day, before, closed⟩ := exists_closedOn (List.getElem?_eq_some_iff.1 made).1
  have inside : day < (panel.take days).length := closed.lt_length
  obtain ⟨position, reason, -, -, -, sold⟩ := closed.exists_position inside
  have same := getElem?_trades_after before within sold
  rw [made, Option.some.injEq] at same
  have there : panel[day]? = some (panel.take days)[day] := by
    rw [List.getElem_take, List.getElem?_eq_getElem]
  refine ⟨day, before, closed, ?_⟩
  rw [same, there]
  rfl

/-- The trades that are closed before the last of the first days are the same. -/
theorem Book.trade_without_foresight (agree : first.AgreeBefore second days) (known : days ≤ panel.length)
    {place day : Nat} (closed : ClosedOn first terms (panel.take days) place day) (before : day + 1 < days) :
    ∃ trade, (after first terms (panel.take days) days).trades.toList[place]? = some trade ∧
      (after second terms panel panel.length).trades.toList[place]? = some trade := by
  have within : days ≤ (panel.take days).length := Nat.le_of_eq (List.length_take_of_le known).symm
  obtain ⟨position, reason, -, -, -, sold⟩ := closed.exists_position closed.lt_length
  refine ⟨_, getElem?_trades_after (Nat.le_of_lt before) within sold, ?_⟩
  rw [after_take agree known before] at sold
  exact getElem?_trades_after (Nat.le_trans (Nat.le_of_lt before) known) Nat.le.refl sold

/-- A trade that is closed on the last of the first days is the last trade there, and closes a position that the run
over all days holds too. -/
theorem Book.last_trade_without_foresight (agree : first.AgreeBefore second days) (nonempty : 1 ≤ days)
    (known : days ≤ panel.length) {place : Nat}
    (closed : ClosedOn first terms (panel.take days) place (days - 1)) :
    place + 1 = (after first terms (panel.take days) days).trades.size ∧
      ∃ trade later, (after first terms (panel.take days) days).trades.toList[place]? = some trade ∧
        (after second terms panel panel.length).trades.toList[place]? = some later ∧
        later.entryDate = trade.entryDate ∧ later.entryPrice = trade.entryPrice ∧ later.shares = trade.shares := by
  have last : days - 1 < days := Nat.sub_one_lt_of_lt nonempty
  obtain ⟨position, reason, held, size, grown, sold⟩ := closed.exists_position closed.lt_length
  rw [Nat.sub_add_cancel nonempty] at grown sold
  rw [after_take agree known last] at held size
  obtain ⟨date, price, index, why, found⟩ := trade_of_held (Nat.lt_of_lt_of_le last known) held
  rw [size] at found
  exact ⟨grown.symm, _, _, sold, found, rfl, rfl, rfl⟩

end Foresight

section Simulation

variable (rulebook : Rulebook α) (panel : List (PanelRow α)) (terms : Terms α) {days : Nat}
  {stopBefore stopEarlyBefore : Progress → Bool}

/-- A run over the first days does what the run over all days does, but for its last day: the points of the equity
curve before that day are the same, the trades closed before it are the same, and a trade that is closed on it is one
more at most, of a position that the run over all days holds too. -/
theorem simulate_without_foresight (nonempty : 1 ≤ days) (known : days ≤ panel.length)
    (completed : (simulate rulebook panel terms .ample stopBefore).cancelled = false)
    (earlyCompleted : (simulate rulebook (panel.take days) terms .ample stopEarlyBefore).cancelled = false) :
    let whole := simulate rulebook panel terms .ample stopBefore
    let early := simulate rulebook (panel.take days) terms .ample stopEarlyBefore
    let ClosedOn := Book.ClosedOn (rulebook.signals (panel.take days) .ample) terms (panel.take days)
    (early.equity.length = days + 1 ∧ early.equity.take days = whole.equity.take days) ∧
      (∀ place trade, early.trades[place]? = some trade →
        ∃ day < days, ClosedOn place day ∧ panel[day]?.map (·.date) = some trade.exitDate) ∧
      (∀ place day, ClosedOn place day → day + 1 < days →
        ∃ trade, early.trades[place]? = some trade ∧ whole.trades[place]? = some trade) ∧
      (∀ place, ClosedOn place (days - 1) → place + 1 = early.trades.length ∧
        ∃ trade later, early.trades[place]? = some trade ∧ whole.trades[place]? = some later ∧
          later.entryDate = trade.entryDate ∧ later.entryPrice = trade.entryPrice ∧
          later.shares = trade.shares) := by
  intro whole early ClosedOn
  have agree := rulebook.signals_take panel known .ample
  have length : (panel.take days).length = days := List.length_take_of_le known
  have wholeEnd := run_of_not_cancelled completed
  have earlyEnd := run_of_not_cancelled earlyCompleted
  rw [length] at earlyEnd
  have wholeRun : whole = _ := wholeEnd
  have earlyRun : early = _ := earlyEnd
  rw [wholeRun, earlyRun]
  refine ⟨⟨?size, ?curve⟩, ?closing, ?settled, ?last⟩
  case size => exact Book.size_equity_after (Nat.le_of_eq length.symm)
  case curve => exact Book.equity_without_foresight agree nonempty known
  case closing =>
    intro place trade made
    exact Book.exists_closing_day known made
  case settled =>
    intro place day closed before
    exact Book.trade_without_foresight agree known closed before
  case last =>
    intro place closed
    exact Book.last_trade_without_foresight agree nonempty known closed

end Simulation

section Trial

/-- Buys above 105 and sells below 95. -/
def trialRulebook : Rulebook Hundredths where
  source := ""
  entry := .compare .above (.column .closePrice) (.constant (.ofInt 105))
  exit := .compare .below (.column .closePrice) (.constant (.ofInt 95))

/-- Four days with a rise and a fall. -/
def trialDays : List (PanelRow Hundredths) :=
  [Hundredths.flatDay ⟨2024, 1, 2, by decide⟩ 100, Hundredths.flatDay ⟨2024, 1, 3, by decide⟩ 110,
    Hundredths.flatDay ⟨2024, 1, 4, by decide⟩ 120, Hundredths.flatDay ⟨2024, 1, 5, by decide⟩ 90]

/-- On the first three days the position is closed by the end; on all four it is closed a day later. -/
theorem trialDays_without_foresight :
    let terms : Terms Hundredths := ⟨.ofInt 1000, .ofInt 1⟩
    let whole := simulate trialRulebook trialDays terms .ample fun _ => false
    let early := simulate trialRulebook (trialDays.take 3) terms .ample fun _ => false
    early.equity.take 3 = whole.equity.take 3 ∧
      ∃ trade later, early.trades = [trade] ∧ whole.trades[0]? = some later ∧
        later.entryPrice = trade.entryPrice ∧ later.shares = trade.shares := by
  intro terms whole early
  obtain ⟨⟨-, curve⟩, -, -, last⟩ := simulate_without_foresight trialRulebook trialDays terms (by decide)
    (by decide) (by rfl : whole.cancelled = false) (by rfl : early.cancelled = false)
  obtain ⟨only, trade, later, made, found, -, price, shares⟩ := last 0 ⟨by decide +kernel, by decide +kernel⟩
  obtain ⟨first, alone⟩ := List.length_eq_one_iff.1 only.symm
  refine ⟨curve, trade, later, ?_, found, price, shares⟩
  rw [alone] at made ⊢
  cases made
  rfl

end Trial

end PaperTrading
