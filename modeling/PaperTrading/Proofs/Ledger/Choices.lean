/-
Module: PaperTrading.Proofs.Ledger.Choices
Purpose: Runs of strategies that make the same choices, and what the warm-up of a rulebook changes in a run.
Main exports: Signals.wants, Signals.ChooseAlike, run_alike, Signals.ungated, simulate_ungated

An answer of a strategy moves the accounts only if it is yes.  So strategies that say yes on the same questions lead to the
same trades, and no answer differs from a missing one but in the count of failures.
-/
import PaperTrading.Proofs.Ledger.Foresight

namespace PaperTrading

variable {α : Type}

section Choices

/-- Whether a strategy that is asked on a day, without a position, wants to buy. -/
def Signals.wants (signals : Signals α) (index : Nat) : Bool :=
  decide (signals.warmup ≤ index) && saysYes (signals.enter index)

/-- Two strategies want to buy and to sell on the same of the first days. -/
structure Signals.ChooseAlike (first second : Signals α) (days : Nat) : Prop where
  wants : ∀ index < days, first.wants index = second.wants index
  leave : ∀ index < days, ∀ entered, saysYes (first.leave index entered) = saysYes (second.leave index entered)

/-- The result of a run, with another number of failures. -/
def RunResult.withFailures (result : RunResult α) (failures : Nat) : RunResult α :=
  { result with failures }

variable [Arithmetic α]

theorem Signals.buys_eq (signals : Signals α) (terms : Terms α) (index : Nat) (row : PanelRow α) (isLast : Bool)
    (cash : α) :
    signals.buys terms index row isLast cash =
      (signals.wants index && (!isLast && row.isAffordable cash terms.fee)) := by
  rw [buys, wants]
  cases isLast with
  | true => simp only [Bool.not_true, Bool.and_false, Bool.false_and]
  | false => simp only [Bool.not_false, Bool.and_true, Bool.true_and]

variable {first second : Signals α} {days : Nat} (alike : first.ChooseAlike second days) (terms : Terms α)
include alike

/-- A decision goes alike, but for failures. -/
theorem Book.decide_alike {index : Nat} (early : index < days) (row : PanelRow α) (isLast : Bool) (book : Book α)
    (failures : Nat) :
    ∃ more, (book.withFailures failures).decide second terms index row isLast =
      (book.decide first terms index row isLast).withFailures more := by
  cases held : book.held with
  | none =>
      have heldToo : (book.withFailures failures).held = none := held
      have buysToo : second.buys terms index row isLast book.cash = first.buys terms index row isLast book.cash := by
        rw [first.buys_eq, second.buys_eq, alike.wants index early]
      cases bought : first.buys terms index row isLast book.cash with
      | true =>
          rw [decide_of_buys held bought, decide_of_buys heldToo (buysToo.trans bought)]
          exact ⟨failures, rfl⟩
      | false =>
          obtain ⟨one, here⟩ := decide_of_not_buys held bought
          obtain ⟨other, there⟩ := decide_of_not_buys heldToo (buysToo.trans bought)
          rw [here, there]
          exact ⟨other, rfl⟩
  | some position =>
      have heldToo : (book.withFailures failures).held = some position := held
      have sellsToo : second.sells position index = first.sells position index := by
        rw [Signals.sells, Signals.sells, alike.leave index early]
      cases sold : first.sells position index with
      | true =>
          rw [decide_of_sells held sold, decide_of_sells heldToo (sellsToo.trans sold)]
          exact ⟨failures, rfl⟩
      | false =>
          obtain ⟨one, here⟩ := decide_of_not_sells terms row isLast held sold
          obtain ⟨other, there⟩ := decide_of_not_sells terms row isLast heldToo (sellsToo.trans sold)
          rw [here, there]
          exact ⟨other, rfl⟩

omit alike in
theorem Book.settle_withFailures (index : Nat) (row : PanelRow α) (reason : ExitReason) (book : Book α)
    (failures : Nat) :
    (book.withFailures failures).settle terms index row reason =
      (book.settle terms index row reason).withFailures failures := by
  obtain ⟨cash, held, trades, equity, _⟩ := book
  cases held with
  | none => rfl
  | some position => rfl

/-- A day goes alike, but for failures. -/
theorem Book.step_alike {index : Nat} (early : index < days) (row : PanelRow α) (isLast : Bool) (book : Book α)
    (failures : Nat) :
    ∃ more, (book.withFailures failures).step second terms index row isLast =
      (book.step first terms index row isLast).withFailures more := by
  obtain ⟨more, decided⟩ := decide_alike alike terms early row isLast book failures
  refine ⟨more, ?_⟩
  rw [step, step, decided]
  cases isLast with
  | false => rfl
  | true => exact congrArg (record row) (settle_withFailures terms index row .endOfData _ more)

/-- Runs of strategies that make the same choices, and that are stopped before the same day, go alike but for failures. -/
theorem runFrom_alike (stop : Nat → Bool) (later : List (PanelRow α)) {index : Nat}
    (known : index + later.length ≤ days) (book : Book α) (failures : Nat) :
    ∃ more, runFrom second terms (fun progress => stop progress.index) index (book.withFailures failures) later =
      (runFrom first terms (fun progress => stop progress.index) index book later).withFailures more := by
  induction later generalizing index book failures with
  | nil => exact ⟨failures, rfl⟩
  | cons row later ih =>
      rw [List.length_cons] at known
      rw [runFrom, runFrom]
      split
      case isTrue =>
        rw [Book.settle_withFailures]
        cases held : book.held with
        | none =>
            have heldToo : (book.withFailures failures).held = none := held
            rw [heldToo]
            exact ⟨failures, rfl⟩
        | some position =>
            have heldToo : (book.withFailures failures).held = some position := held
            rw [heldToo]
            exact ⟨failures, rfl⟩
      case isFalse =>
        have early : index < days := by omega
        obtain ⟨next, same⟩ := Book.step_alike alike terms early row later.isEmpty book failures
        rw [same]
        exact ih (by omega) _ next

theorem run_alike (stop : Nat → Bool) {panel : List (PanelRow α)} (known : panel.length ≤ days) :
    ∃ failures, run second terms (fun progress => stop progress.index) panel =
      (run first terms (fun progress => stop progress.index) panel).withFailures failures :=
  runFrom_alike alike terms stop panel (by omega) (Book.start terms) 0

end Choices

section Gate

/-- The same strategy, asked for a purchase on every day without a position: the days of the warm-up are no exception. -/
def Signals.ungated (signals : Signals α) : Signals α :=
  { signals with warmup := 0 }

/-- A strategy that has no purchase to offer before its warm-up is over: it is not asked, or it does not say yes. -/
theorem Signals.chooseAlike_ungated {signals : Signals α} {days : Nat}
    (quiet : ∀ index < days, index < signals.warmup → saysYes (signals.enter index) = false) :
    signals.ChooseAlike signals.ungated days where
  wants := by
    intro index early
    rw [wants, wants, ungated, decide_eq_true (Nat.zero_le index), Bool.true_and]
    rcases Nat.lt_or_ge index signals.warmup with before | after
    · rw [quiet index early before, Bool.and_false]
    · rw [decide_eq_true after, Bool.true_and]
  leave := fun _ _ _ => rfl

variable [Arithmetic α]

/-- Where the answer before the warm-up is no, a day goes alike whether or not the question is asked. -/
theorem Book.step_ungated {signals : Signals α} {index : Nat}
    (refused : index < signals.warmup → signals.enter index = .ok false) (terms : Terms α) (row : PanelRow α)
    (isLast : Bool) (book : Book α) :
    book.step signals.ungated terms index row isLast = book.step signals terms index row isLast := by
  have decided : book.decide signals.ungated terms index row isLast = book.decide signals terms index row isLast := by
    rw [decide, decide, Signals.ungated]
    cases book.held with
    | some position => rfl
    | none =>
        rcases Nat.lt_or_ge index signals.warmup with before | after
        · simp only [refused before, Nat.not_le_of_lt before, Nat.zero_le, decide_true, decide_false, Bool.true_and,
            Bool.false_and, ite_self, Bool.false_eq_true]
        · simp only [after, Nat.zero_le]
  rw [step, step, decided]

theorem runFrom_ungated {signals : Signals α} {days : Nat}
    (refused : ∀ index < days, index < signals.warmup → signals.enter index = .ok false) (terms : Terms α)
    (stopBefore : Progress → Bool) (later : List (PanelRow α)) {index : Nat} (known : index + later.length ≤ days)
    (book : Book α) :
    runFrom signals.ungated terms stopBefore index book later = runFrom signals terms stopBefore index book later := by
  induction later generalizing index book with
  | nil => rfl
  | cons row later ih =>
      rw [List.length_cons] at known
      have early : index < days := by omega
      rw [runFrom, runFrom, Book.step_ungated (refused index early), ih (by omega)]

end Gate

section Simulation

variable [Arithmetic α] (rulebook : Rulebook α) (panel : List (PanelRow α)) {index : Nat}

/-- A rule that is decided at all does not hold before the warm-up that it demands. -/
theorem Rule.evaluate_of_lt_warmupBars {rule : Rule α} (early : index < rule.warmupBars) (inside : index < panel.length)
    (entered : Option (EntryPoint α)) : rule.evaluate panel.toArray index entered .ample = .ok false := by
  have day : panel.toArray[index]? = some panel[index] := by
    rw [List.getElem?_toArray, List.getElem?_eq_getElem inside]
  rw [rule.evaluate_ample entered day, Rule.holds_of_lt_warmupBars _ _ entered early]

/-- Before the warm-up of a rulebook the entry rule does not hold, or there was no time to decide it. -/
theorem Rulebook.quiet_before_warmup (budget : Budget) (early : index < rulebook.warmupBars)
    (inside : index < panel.length) : saysYes ((rulebook.signals panel budget).enter index) = false := by
  have day : panel.toArray[index]? = some panel[index] := by
    rw [List.getElem?_toArray, List.getElem?_eq_getElem inside]
  have asked : (rulebook.signals panel budget).enter index = rulebook.entry.evaluate panel.toArray index none budget := rfl
  rw [asked, rulebook.entry.evaluate_eq none day]
  cases budget.exceeded? index with
  | some milliseconds => rfl
  | none => exact Rule.holds_of_lt_warmupBars _ _ none early

/-- The test that a day is after the warm-up only saves work.  A rule that has the time to be decided does not hold before
the warm-up it demands, and a run that asks for purchases on those days too has the same result.  Where the time may run
out, such a run can count other failures, and nothing else is different. -/
theorem simulate_ungated (terms : Terms α) :
    (∀ (rule : Rule α) (index : Nat) (entered : Option (EntryPoint α)), index < panel.length →
        index < rule.warmupBars → rule.evaluate panel.toArray index entered .ample = .ok false) ∧
      (∀ stopBefore : Progress → Bool,
        run (rulebook.signals panel .ample).ungated terms stopBefore panel =
          simulate rulebook panel terms .ample stopBefore) ∧
      ∀ (budget : Budget) (stop : Nat → Bool), ∃ failures,
        run (rulebook.signals panel budget).ungated terms (fun progress => stop progress.index) panel =
          (simulate rulebook panel terms budget fun progress => stop progress.index).withFailures failures := by
  refine ⟨?silent, ?ample, ?scarce⟩
  case silent =>
    intro rule index entered inside early
    exact Rule.evaluate_of_lt_warmupBars panel early inside entered
  case ample =>
    intro stopBefore
    have refused : ∀ index < panel.length, index < (rulebook.signals panel .ample).warmup →
        (rulebook.signals panel .ample).enter index = .ok false := by
      intro index inside early
      exact Rule.evaluate_of_lt_warmupBars panel early inside none
    exact runFrom_ungated refused terms stopBefore panel (by omega) (Book.start terms)
  case scarce =>
    intro budget stop
    have alike : (rulebook.signals panel budget).ChooseAlike (rulebook.signals panel budget).ungated panel.length :=
      Signals.chooseAlike_ungated fun index inside early => rulebook.quiet_before_warmup panel budget early inside
    exact run_alike alike terms stop (Nat.le_refl _)

/-- The trial rulebook, after a warm-up of two days. -/
def patientRulebook : Rulebook Hundredths :=
  { trialRulebook with entry := .all [.warmup 2, trialRulebook.entry] }

/-- The price rises above 105 on a day of the warm-up, and stays there: the purchase is made on the day after, also if it is
asked for every day. -/
theorem trialDays_ungated :
    let terms : Terms Hundredths := ⟨.ofInt 1000, .ofInt 1⟩
    let scarce : Budget := .scarce 50 fun index => index == 1
    let gated := simulate patientRulebook trialDays terms .ample fun _ => false
    (trialRulebook.entry.evaluate trialDays.toArray 1 none .ample = .ok true ∧
        patientRulebook.entry.evaluate trialDays.toArray 1 none .ample = .ok false) ∧
      run (patientRulebook.signals trialDays .ample).ungated terms (fun _ => false) trialDays = gated ∧
      gated.trades.map (·.entryPrice) = [.ofInt 120] ∧
      ∃ failures, run (patientRulebook.signals trialDays scarce).ungated terms (fun _ => false) trialDays =
        (simulate patientRulebook trialDays terms scarce fun _ => false).withFailures failures := by
  intro terms scarce gated
  obtain ⟨silent, ample, other⟩ := simulate_ungated patientRulebook trialDays terms
  exact ⟨⟨rfl, silent patientRulebook.entry 1 none (by decide) (by decide)⟩, ample fun _ => false, by decide +kernel,
    other scarce fun _ => false⟩

end Simulation

end PaperTrading
