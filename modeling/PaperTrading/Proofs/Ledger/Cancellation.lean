/-
Module: PaperTrading.Proofs.Ledger.Cancellation
Purpose: A run that is stopped before a day does what a run does whose panel ends there.
Main exports: StopsFirstBefore, Book.Day.sold_of_last, Book.Day.last_of_flat, simulate_stopped_eq_truncated

A position that is open when the run is stopped is sold on that day, so the panel that ends with the day is the one to
compare with.  Without a position the day is not begun, and the panel ends with the day before.
-/
import PaperTrading.Proofs.Ledger.Foresight
import PaperTrading.Proofs.Ledger.Schedule

namespace PaperTrading

variable {α : Type} [Arithmetic α]

section Stopping

variable (signals : Signals α) (terms : Terms α) (panel : List (PanelRow α)) (stopBefore : Progress → Bool)

/-- What is known before a day of a run that was not stopped so far. -/
def progressBefore (day : Nat) : Progress :=
  ⟨day, (Book.after signals terms panel day).events⟩

/-- A run is told to stop before a day, and not before any day ahead of it. -/
structure StopsFirstBefore (day : Nat) : Prop where
  goesOn : ∀ earlier < day, stopBefore (progressBefore signals terms panel earlier) = false
  stops : stopBefore (progressBefore signals terms panel day) = true

variable {day : Nat}

/-- A run that is not stopped before some days reaches the last of them. -/
theorem runFrom_of_goesOn {index : Nat} (reached : index ≤ day) (known : day ≤ panel.length)
    (goesOn : ∀ earlier < day, stopBefore (progressBefore signals terms panel earlier) = false) :
    runFrom signals terms stopBefore index (Book.after signals terms panel index) (panel.drop index) =
      runFrom signals terms stopBefore day (Book.after signals terms panel day) (panel.drop day) := by
  induction left : day - index generalizing index with
  | zero =>
      obtain rfl : index = day := by omega
      rfl
  | succ left ih =>
      have inside : index < panel.length := by omega
      obtain ⟨-, -, isLast⟩ := day_of_drop (List.drop_eq_getElem_cons inside)
      have going : ¬ stopBefore ⟨index, (Book.after signals terms panel index).events⟩ = true :=
        Bool.eq_false_iff.1 (goesOn index (by omega))
      rw [List.drop_eq_getElem_cons inside, runFrom, if_neg going, isLast, Book.after_succ inside]
      apply ih
      · omega
      · omega

/-- A run that is never told to stop is not cancelled. -/
theorem run_never_cancelled : (run signals terms (fun _ => false) panel).cancelled = false := by
  have finished := runFrom_of_goesOn signals terms panel (fun _ => false) (Nat.zero_le _) (Nat.le_refl panel.length)
    fun _ _ => rfl
  rw [List.drop_length, runFrom] at finished
  have whole : run signals terms (fun _ => false) panel = _ := finished
  rw [whole]
  rfl

section Stopped

variable {signals terms panel stopBefore}
variable (stopped : StopsFirstBefore signals terms panel stopBefore day) (inside : day < panel.length)
include stopped inside

theorem run_of_stopped :
    run signals terms stopBefore panel =
      match (Book.after signals terms panel day).held with
      | some _ =>
        (((Book.after signals terms panel day).settle terms day panel[day] .cancelled).record panel[day]).finish
          (day + 1) true
      | none => (Book.after signals terms panel day).finish day true := by
  have reached := runFrom_of_goesOn signals terms panel stopBefore (Nat.zero_le day) (Nat.le_of_lt inside)
    stopped.goesOn
  have told : stopBefore ⟨day, (Book.after signals terms panel day).events⟩ = true := stopped.stops
  rw [List.drop_eq_getElem_cons inside, runFrom, if_pos told] at reached
  exact reached

/-- A run that is stopped with a position sells it on the day it was stopped before. -/
theorem run_of_stopped_held {position : Position α} (held : (Book.after signals terms panel day).held = some position) :
    run signals terms stopBefore panel =
      (((Book.after signals terms panel day).sell terms day panel[day] position .cancelled).record panel[day]).finish
        (day + 1) true := by
  rw [run_of_stopped stopped inside, Book.settle_of_held held]
  simp only [held]

/-- A run that is stopped without a position leaves the accounts as they are. -/
theorem run_of_stopped_flat (flat : (Book.after signals terms panel day).held = none) :
    run signals terms stopBefore panel = (Book.after signals terms panel day).finish day true := by
  rw [run_of_stopped stopped inside]
  simp only [flat]

end Stopped

end Stopping

section Ends

variable {signals : Signals α} {terms : Terms α} {index : Nat} {row : PanelRow α} {isLast : Bool}
  {book next final : Book α} {position : Position α}

/-- The last day sells what is held, for one reason or another. -/
theorem Book.Day.sold_of_last (day : Day signals terms index row true book next) (held : book.held = some position) :
    ∃ reason failures,
      next = ((book.sell terms index row position reason).record row).withFailures failures := by
  cases day with
  | idle failures flat | purchase flat => exact nomatch flat.symm.trans held
  | holding failures same quiet more => exact nomatch more
  | sale same =>
      obtain rfl := Option.some.inj (same.symm.trans held)
      exact ⟨.signal, book.failures, rfl⟩
  | closing failures same =>
      obtain rfl := Option.some.inj (same.symm.trans held)
      exact ⟨.endOfData, failures, rfl⟩

/-- A day that ends without a position goes alike if it is the last. -/
theorem Book.Day.last_of_flat (day : Day signals terms index row isLast book next) (flat : next.held = none)
    (last : Day signals terms index row true book final) : ∃ failures, final = next.withFailures failures := by
  cases last with
  | idle failures wasFlat =>
      cases day with
      | idle => exact ⟨failures, rfl⟩
      | purchase => exact nomatch flat
      | holding _ held | sale held | closing _ held => exact nomatch wasFlat.symm.trans held
  | purchase _ bought => exact nomatch Signals.not_last_of_buys bought
  | holding _ _ _ more => exact nomatch more
  | sale held sold =>
      cases day with
      | idle _ wasFlat | purchase wasFlat => exact nomatch wasFlat.symm.trans held
      | holding _ same => exact nomatch flat.symm.trans same
      | sale same =>
          obtain rfl := Option.some.inj (held.symm.trans same)
          exact ⟨book.failures, rfl⟩
      | closing _ same quiet =>
          obtain rfl := Option.some.inj (held.symm.trans same)
          exact nomatch sold.symm.trans quiet
  | closing failures held quiet =>
      cases day with
      | idle _ wasFlat | purchase wasFlat => exact nomatch wasFlat.symm.trans held
      | holding _ same => exact nomatch flat.symm.trans same
      | sale same sold =>
          obtain rfl := Option.some.inj (held.symm.trans same)
          exact nomatch sold.symm.trans quiet
      | closing _ same =>
          obtain rfl := Option.some.inj (held.symm.trans same)
          exact ⟨failures, rfl⟩

end Ends

section Truncation

variable {first second : Signals α} {terms : Terms α} {panel : List (PanelRow α)} {day : Nat}

/-- A run over the first days ends with the accounts after them. -/
theorem run_take_of_never (signals : Signals α) (terms : Terms α) {days : Nat} (known : days ≤ panel.length) :
    run signals terms (fun _ => false) (panel.take days) =
      (Book.after signals terms (panel.take days) days).finish days false := by
  have finished := run_of_not_cancelled (run_never_cancelled signals terms (panel.take days))
  rwa [List.length_take_of_le known] at finished

/-- If the panel ends with a day, the day goes as the last one, from the accounts that all days lead to. -/
theorem Book.day_of_take (agree : first.AgreeBefore second (day + 1)) (inside : day < panel.length) :
    Day second terms day panel[day] true (after second terms panel day)
      (after first terms (panel.take (day + 1)) (day + 1)) := by
  have length : (panel.take (day + 1)).length = day + 1 := List.length_take_of_le inside
  have within : day < (panel.take (day + 1)).length := length.symm ▸ Nat.lt_succ_self day
  have isLast : (day + 1 == (panel.take (day + 1)).length) = true := beq_iff_eq.2 length.symm
  rw [← after_succ within, after_take agree inside (Nat.lt_succ_self day), List.getElem_take, isLast,
    step_congr agree (Nat.lt_succ_self day)]
  exact step_day _

/-- A position that is held before a day is sold on it if the panel ends there. -/
theorem Book.after_take_of_held (agree : first.AgreeBefore second (day + 1)) (inside : day < panel.length)
    {position : Position α} (held : (after second terms panel day).held = some position) :
    ∃ reason failures, after first terms (panel.take (day + 1)) (day + 1) =
      (((after second terms panel day).sell terms day panel[day] position reason).record panel[day]).withFailures
        failures :=
  (day_of_take agree inside).sold_of_last held

/-- If no position is held before a day, it makes no difference to the accounts that the panel ends there, but for
failures. -/
theorem Book.after_take_of_flat (agree : first.AgreeBefore second day) (known : day ≤ panel.length)
    (flat : (after second terms panel day).held = none) :
    ∃ failures, after first terms (panel.take day) day = (after second terms panel day).withFailures failures := by
  cases day with
  | zero => exact ⟨0, rfl⟩
  | succ day => exact (after_day known).last_of_flat flat (day_of_take agree known)

end Truncation

section Simulation

/-- A trade with another reason for its sale. -/
def Trade.withReason {β : Type} (trade : Trade β) (reason : ExitReason) : Trade β :=
  { trade with exitReason := reason }

variable (rulebook : Rulebook α) (panel : List (PanelRow α)) (terms : Terms α) (budget : Budget)
  {stopBefore : Progress → Bool} {day : Nat}

/-- A run that is stopped before a day with a position does what the run over the days up to this one does, but for the
reason of the last sale; stopped without a position, it does what the run over the days before this one does. -/
theorem simulate_stopped_eq_truncated (inside : day < panel.length)
    (stopped : StopsFirstBefore (rulebook.signals panel budget) terms panel stopBefore day) :
    let result := simulate rulebook panel terms budget stopBefore
    let truncated days := simulate rulebook (panel.take days) terms budget fun _ => false
    let before := Book.after (rulebook.signals panel budget) terms panel day
    result.cancelled = true ∧
      (∀ position, before.held = some position →
        result.equity = (truncated (day + 1)).equity ∧
          result.barsProcessed = day + 1 ∧ (truncated (day + 1)).barsProcessed = day + 1 ∧
          ∃ trades last, (truncated (day + 1)).trades = trades ++ [last] ∧
            result.trades = trades ++ [last.withReason .cancelled]) ∧
      (before.held = none →
        result.equity = (truncated day).equity ∧
          result.barsProcessed = day ∧ (truncated day).barsProcessed = day ∧
          result.trades = (truncated day).trades) := by
  intro result truncated before
  have resultRun : result = run (rulebook.signals panel budget) terms stopBefore panel := rfl
  refine ⟨?cancelled, ?held, ?flat⟩
  case cancelled =>
    rw [resultRun, run_of_stopped stopped inside]
    split
    · rfl
    · rfl
  case held =>
    intro position held
    have agree := rulebook.signals_take panel (Nat.succ_le_of_lt inside) budget
    obtain ⟨reason, failures, same⟩ := Book.after_take_of_held agree inside held
    have truncatedRun : truncated (day + 1) = _ := run_take_of_never _ terms (Nat.succ_le_of_lt inside)
    rw [same] at truncatedRun
    rw [resultRun, run_of_stopped_held stopped inside held, truncatedRun]
    refine ⟨rfl, rfl, rfl, before.trades.toList,
      position.close day panel[day].date panel[day].closePrice terms.fee reason, ?_, ?_⟩
    · exact Array.toList_push
    · exact Array.toList_push
  case flat =>
    intro flat
    have agree := rulebook.signals_take panel (Nat.le_of_lt inside) budget
    obtain ⟨failures, same⟩ := Book.after_take_of_flat agree (Nat.le_of_lt inside) flat
    have truncatedRun : truncated day = _ := run_take_of_never _ terms (Nat.le_of_lt inside)
    rw [same] at truncatedRun
    rw [resultRun, run_of_stopped_flat stopped inside flat, truncatedRun]
    exact ⟨rfl, rfl, rfl, rfl⟩

/-- Five days with a fall between two rises, in a run that is stopped before the fourth, with a position. -/
theorem swingDays_stopped_eq_truncated :
    let terms : Terms Hundredths := ⟨.ofInt 1000, .ofInt 1⟩
    let result := simulate trialRulebook swingDays terms .ample fun progress => progress.index == 3
    let truncated := simulate trialRulebook (swingDays.take 4) terms .ample fun _ => false
    StopsFirstBefore (trialRulebook.signals swingDays .ample) terms swingDays (fun progress => progress.index == 3) 3 ∧
      result.equity = truncated.equity ∧
      ∃ trades last, truncated.trades = trades ++ [last] ∧ result.trades = trades ++ [last.withReason .cancelled] := by
  intro terms result truncated
  have stopped : StopsFirstBefore (trialRulebook.signals swingDays .ample) terms swingDays
      (fun progress => progress.index == 3) 3 :=
    ⟨fun earlier before => beq_eq_false_iff_ne.2 (Nat.ne_of_lt before), rfl⟩
  obtain ⟨-, sold, -⟩ := simulate_stopped_eq_truncated trialRulebook swingDays terms .ample (by decide) stopped
  obtain ⟨equity, -, -, trades⟩ := sold _ rfl
  exact ⟨stopped, equity, trades⟩

end Simulation

end PaperTrading
