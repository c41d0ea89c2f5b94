/-
Module: PaperTrading.Proofs.Ledger.Questions
Purpose: The questions that a run puts to its strategy, and what becomes of those without an outcome.
Main exports: Question, Signals.answer, questions, Book.decide_eq, run_failures, runFrom_congr, Signals.resolved,
  Book.after_of_unanswered, failure_is_no_signal

A day puts one question at most, and knows of the strategy only the answer to it.  A question without an outcome is
counted, and otherwise taken for a no: the accounts, with the position that the question was about, stay as they are.
-/
import PaperTrading.Proofs.Ledger.Choices

namespace PaperTrading

variable {α : Type}

section Questions

/-- A question to a strategy: whether to buy on a day, or whether to sell on a day what was bought at a point. -/
inductive Question (α : Type) where
  | enter (index : Nat)
  | leave (index : Nat) (entered : EntryPoint α)

/-- The day of a question. -/
def Question.index : Question α → Nat
  | .enter index | .leave index _ => index

/-- The answer of a strategy to a question. -/
def Signals.answer (signals : Signals α) : Question α → Except EvalProblem Bool
  | .enter index => signals.enter index
  | .leave index entered => signals.leave index entered

/-- Whether a question has no outcome. -/
def hasFailed : Except EvalProblem Bool → Bool
  | .ok _ => false
  | .error _ => true

/-- The question of a day.  Without a position there is none before the warm-up is over, nor on the last day; with one
there is none on the day of the purchase. -/
def Book.question? (warmup index : Nat) (isLast : Bool) (book : Book α) : Option (Question α) :=
  match book.held with
  | none => if warmup ≤ index && !isLast then some (.enter index) else none
  | some position =>
    if position.entryIndex < index then some (.leave index ⟨position.entryPrice, position.entryIndex⟩) else none

theorem Book.question?_index {warmup index : Nat} {isLast : Bool} {book : Book α} {question : Question α}
    (asked : book.question? warmup index isLast = some question) : question.index = index := by
  rw [question?] at asked
  split at asked
  all_goals
    split at asked
    case isTrue =>
      obtain rfl := Option.some.inj asked
      rfl
    case isFalse => cases asked

variable [Arithmetic α]

/-- The book after a day whose question is answered with yes. -/
def Book.follow (terms : Terms α) (index : Nat) (row : PanelRow α) (book : Book α) : Book α :=
  match book.held with
  | none => book.buy terms index row
  | some position => book.sell terms index row position .signal

/-- The book after the answer of a day. -/
def Book.heed (terms : Terms α) (index : Nat) (row : PanelRow α) (answer : Except EvalProblem Bool) (book : Book α) :
    Book α :=
  match answer with
  | .ok true => book.follow terms index row
  | .ok false => book
  | .error _ => book.fail

/-- The questions that the days from an index on put to a strategy, up to the day a run is stopped before. -/
def questionsFrom (signals : Signals α) (terms : Terms α) (stopBefore : Progress → Bool) (index : Nat)
    (book : Book α) : List (PanelRow α) → List (Question α)
  | [] => []
  | row :: later =>
    if stopBefore ⟨index, book.events⟩ then []
    else
      (book.question? signals.warmup index later.isEmpty).toList ++
        questionsFrom signals terms stopBefore (index + 1) (book.step signals terms index row later.isEmpty) later

/-- The questions that a run puts to its strategy, in their order. -/
def questions (signals : Signals α) (terms : Terms α) (stopBefore : Progress → Bool) (panel : List (PanelRow α)) :
    List (Question α) :=
  questionsFrom signals terms stopBefore 0 (Book.start terms) panel

end Questions

variable [Arithmetic α] {signals other : Signals α} {terms : Terms α} {stopBefore : Progress → Bool}

namespace Book

variable (signals terms)

/-- A decision is the answer to the question of the day, if there is one. -/
theorem decide_eq (index : Nat) (row : PanelRow α) (isLast : Bool) (book : Book α) :
    book.decide signals terms index row isLast =
      match book.question? signals.warmup index isLast with
      | some question => book.heed terms index row (signals.answer question)
      | none => book := by
  obtain ⟨cash, held, trades, equity, failures⟩ := book
  cases held with
  | none =>
      simp only [decide, question?]
      split
      case isTrue => rfl
      case isFalse => rfl
  | some position =>
      simp only [decide, question?]
      split
      case isTrue => rfl
      case isFalse => rfl

variable {signals terms} {index : Nat} {row : PanelRow α} {isLast : Bool} {book : Book α}

theorem decide_of_question {question : Question α}
    (asked : book.question? signals.warmup index isLast = some question) :
    book.decide signals terms index row isLast = book.heed terms index row (signals.answer question) := by
  rw [decide_eq, asked]

theorem decide_of_no_question (silent : book.question? signals.warmup index isLast = none) :
    book.decide signals terms index row isLast = book := by
  rw [decide_eq, silent]

theorem failures_follow : (book.follow terms index row).failures = book.failures := by
  rw [follow]
  split
  case h_1 =>
    rw [buy_eq]
    split
    case isTrue => rfl
    case isFalse => rfl
  case h_2 => rfl

theorem failures_heed (answer : Except EvalProblem Bool) :
    (book.heed terms index row answer).failures = book.failures + if hasFailed answer then 1 else 0 := by
  match answer with
  | .ok true => exact failures_follow
  | .ok false | .error _ => rfl

theorem failures_settle (reason : ExitReason) : (book.settle terms index row reason).failures = book.failures := by
  rw [settle]
  split
  case h_1 => rfl
  case h_2 => rfl

/-- A day adds a failure if its question has no outcome. -/
theorem failures_step : (book.step signals terms index row isLast).failures = book.failures +
    (book.question? signals.warmup index isLast).toList.countP fun question => hasFailed (signals.answer question) := by
  have settled : (book.step signals terms index row isLast).failures =
      (book.decide signals terms index row isLast).failures := by
    rw [step]
    cases isLast with
    | false => rfl
    | true => exact failures_settle .endOfData
  rw [settled]
  cases asked : book.question? signals.warmup index isLast with
  | none => rw [decide_of_no_question asked, Option.toList_none, List.countP_nil, Nat.add_zero]
  | some question => rw [decide_of_question asked, failures_heed, Option.toList_some, List.countP_singleton]

/-- Of a strategy a day depends on the warm-up and on the answer to its question. -/
theorem step_congr_of_answer (warmup : other.warmup = signals.warmup)
    (agree : ∀ question ∈ book.question? signals.warmup index isLast, other.answer question = signals.answer question) :
    book.step other terms index row isLast = book.step signals terms index row isLast := by
  have decided : book.decide other terms index row isLast = book.decide signals terms index row isLast := by
    rw [decide_eq, decide_eq, warmup]
    cases asked : book.question? signals.warmup index isLast with
    | none => rfl
    | some question =>
        have same := agree question asked
        dsimp only
        rw [same]
  rw [step, step, decided]

end Book

section Runs

variable (signals terms stopBefore)

/-- The failures of a run are the questions without an outcome. -/
theorem runFrom_failures (index : Nat) (book : Book α) (rows : List (PanelRow α)) :
    (runFrom signals terms stopBefore index book rows).failures = book.failures +
      (questionsFrom signals terms stopBefore index book rows).countP fun question =>
        hasFailed (signals.answer question) := by
  induction rows generalizing index book with
  | nil => rfl
  | cons row later ih =>
      rw [runFrom, questionsFrom]
      split
      case isTrue =>
        cases held : book.held with
        | none => rfl
        | some position => exact Book.failures_settle .cancelled
      case isFalse => rw [ih, Book.failures_step, List.countP_append, Nat.add_assoc]

variable {signals terms stopBefore}

/-- Of a strategy a run depends on the warm-up and on the answers to its questions. -/
theorem runFrom_congr (warmup : other.warmup = signals.warmup) {index : Nat} {book : Book α} {rows : List (PanelRow α)}
    (agree : ∀ question ∈ questionsFrom signals terms stopBefore index book rows,
      other.answer question = signals.answer question) :
    runFrom other terms stopBefore index book rows = runFrom signals terms stopBefore index book rows := by
  induction rows generalizing index book with
  | nil => rfl
  | cons row later ih =>
      rw [questionsFrom] at agree
      rw [runFrom, runFrom]
      split
      case isTrue => rfl
      case isFalse going =>
        rw [if_neg going] at agree
        have today : book.step other terms index row later.isEmpty = book.step signals terms index row later.isEmpty :=
          Book.step_congr_of_answer warmup fun question asked =>
            agree question (List.mem_append_left _ (Option.mem_toList.2 asked))
        rw [today]
        exact ih fun question asked => agree question (List.mem_append_right _ asked)

/-- The questions of a run are about its days. -/
theorem index_of_mem_questionsFrom {index : Nat} {book : Book α} {rows : List (PanelRow α)} {question : Question α}
    (asked : question ∈ questionsFrom signals terms stopBefore index book rows) :
    question.index < index + rows.length := by
  induction rows generalizing index book with
  | nil => cases asked
  | cons row later ih =>
      rw [questionsFrom] at asked
      rw [List.length_cons]
      split at asked
      case isTrue => cases asked
      case isFalse =>
        rcases List.mem_append.1 asked with today | after
        · rw [Book.question?_index (Option.mem_toList.1 today)]
          omega
        · have later := ih after
          omega

/-- The failures of a whole run are those of its questions that have no outcome. -/
theorem run_failures (signals : Signals α) (terms : Terms α) (stopBefore : Progress → Bool)
    (panel : List (PanelRow α)) :
    (run signals terms stopBefore panel).failures =
      (questions signals terms stopBefore panel).countP fun question => hasFailed (signals.answer question) :=
  (runFrom_failures signals terms stopBefore 0 (Book.start terms) panel).trans (Nat.zero_add _)

theorem index_of_mem_questions {panel : List (PanelRow α)} {question : Question α}
    (asked : question ∈ questions signals terms stopBefore panel) : question.index < panel.length := by
  have early := index_of_mem_questionsFrom asked
  rwa [Nat.zero_add] at early

end Runs

section Resolved

/-- The answer, or no where there is none. -/
def orNo : Except EvalProblem Bool → Except EvalProblem Bool
  | .ok answer => .ok answer
  | .error _ => .ok false

/-- The strategy that says no to every question to which another has no answer, and else what the other says. -/
def Signals.resolved (signals : Signals α) : Signals α where
  warmup := signals.warmup
  enter := fun index => orNo (signals.enter index)
  leave := fun index entered => orNo (signals.leave index entered)

omit [Arithmetic α] in
theorem Signals.chooseAlike_resolved (signals : Signals α) (days : Nat) :
    signals.ChooseAlike signals.resolved days := by
  have same (answer : Except EvalProblem Bool) : saysYes (orNo answer) = saysYes answer := by
    cases answer with
    | ok answer => rfl
    | error problem => rfl
  refine ⟨fun index _ => ?_, fun index _ entered => (same _).symm⟩
  rw [wants, wants, resolved, same]

omit [Arithmetic α] in
theorem Signals.hasFailed_resolved (signals : Signals α) (question : Question α) :
    hasFailed (signals.resolved.answer question) = false := by
  have answered (answer : Except EvalProblem Bool) : hasFailed (orNo answer) = false := by
    cases answer with
    | ok answer => rfl
    | error problem => rfl
  cases question with
  | enter | leave => exact answered _

/-- A run goes as if every question without an outcome had been answered with no. -/
theorem run_resolved (signals : Signals α) (terms : Terms α) (stop : Nat → Bool) (panel : List (PanelRow α)) :
    run signals.resolved terms (fun progress => stop progress.index) panel =
      (run signals terms (fun progress => stop progress.index) panel).withFailures 0 := by
  obtain ⟨failures, alike⟩ := run_alike (signals.chooseAlike_resolved panel.length) terms stop (Nat.le_refl _)
  have none := run_failures signals.resolved terms (fun progress => stop progress.index) panel
  rw [List.countP_eq_zero.2 fun question _ => Bool.eq_false_iff.1 (signals.hasFailed_resolved question)] at none
  have same : failures = 0 := (congrArg RunResult.failures alike).symm.trans none
  rw [alike, same]

end Resolved

section Unanswered

variable {index : Nat} {row : PanelRow α} {isLast : Bool} {book : Book α} {panel : List (PanelRow α)}

/-- A day without a position, on which there is no answer, adds a failure where there is a question, and is recorded. -/
theorem Book.step_of_unanswered (flat : book.held = none) (unanswered : hasFailed (signals.enter index) = true) :
    book.step signals terms index row isLast =
      (book.withFailures (book.failures + if signals.warmup ≤ index ∧ isLast = false then 1 else 0)).record row := by
  have decided : book.decide signals terms index row isLast =
      book.withFailures (book.failures + if signals.warmup ≤ index ∧ isLast = false then 1 else 0) := by
    simp only [decide, flat, Bool.and_eq_true, decide_eq_true_eq, Bool.not_eq_true']
    split
    case isTrue =>
      cases answer : signals.enter index with
      | ok answer =>
          rw [answer] at unanswered
          cases unanswered
      | error problem => rfl
    case isFalse => rfl
  have still : (book.withFailures (book.failures + if signals.warmup ≤ index ∧ isLast = false then 1 else 0)).held =
      none := flat
  rw [step, decided, settle_of_flat still, ite_self]

/-- A strategy that never says whether to buy leaves the accounts as they were, but for the failures: one for each day
after the warm-up, and none on the last day. -/
theorem Book.after_of_unanswered (unanswered : ∀ index < panel.length, hasFailed (signals.enter index) = true)
    {days : Nat} (known : days ≤ panel.length) :
    after signals terms panel days = ⟨terms.capital, none, #[], Array.replicate (days + 1) terms.capital,
      min days (panel.length - 1) - signals.warmup⟩ := by
  induction days with
  | zero =>
      rw [Nat.zero_min, Nat.zero_sub]
      rfl
  | succ days ih =>
      have inside : days < panel.length := known
      have failures : min (days + 1) (panel.length - 1) - signals.warmup =
          min days (panel.length - 1) - signals.warmup +
            if signals.warmup ≤ days ∧ (days + 1 == panel.length) = false then 1 else 0 := by
        split
        case isTrue asked =>
          have notLast := beq_eq_false_iff_ne.1 asked.2
          omega
        case isFalse silent =>
          rcases Nat.lt_or_ge days signals.warmup with early | late
          · omega
          · have last : days + 1 = panel.length := by
              by_contra notLast
              exact silent ⟨late, beq_eq_false_iff_ne.2 notLast⟩
            omega
      have recorded : Array.replicate (days + 1 + 1) terms.capital =
          (Array.replicate (days + 1) terms.capital).push terms.capital := Array.replicate_succ
      rw [← after_succ inside, ih (Nat.le_of_lt inside), step_of_unanswered rfl (unanswered days inside), failures,
        recorded]
      rfl

end Unanswered

section Rulebooks

variable (rulebook : Rulebook α) {panel : List (PanelRow α)} (budget : Budget) (question : Question α)

/-- A rulebook has the outcome of a question about a day of the panel if there is the time to decide it, and no other
reason to have none. -/
theorem Rulebook.answer_eq (inside : question.index < panel.length) :
    (budget.exceeded? question.index = none →
        hasFailed ((rulebook.signals panel budget).answer question) = false) ∧
      ∀ milliseconds, budget.exceeded? question.index = some milliseconds →
        (rulebook.signals panel budget).answer question = .error (.timeout milliseconds) := by
  have decided (rule : Rule α) (entered : Option (EntryPoint α)) :
      (budget.exceeded? question.index = none →
          hasFailed (rule.evaluate panel.toArray question.index entered budget) = false) ∧
        ∀ milliseconds, budget.exceeded? question.index = some milliseconds →
          rule.evaluate panel.toArray question.index entered budget = .error (.timeout milliseconds) := by
    have day : panel.toArray[question.index]? = some panel[question.index] := by
      rw [List.getElem?_toArray, List.getElem?_eq_getElem inside]
    constructor
    · intro inTime
      rw [rule.evaluate_inTime entered day inTime]
      rfl
    · intro milliseconds late
      rw [rule.evaluate_eq entered day, late]
  cases question with
  | enter index => exact decided rulebook.entry none
  | leave index entered => exact decided rulebook.exit (some entered)

end Rulebooks

section Failures

variable (panel : List (PanelRow α)) (terms : Terms α) (stop : Nat → Bool)

/-- A question without an outcome is a day without a signal.  Trades, equity curve, days and cancellation of a run are
those of the run in which each such question is answered with no, and the failures are the questions without an outcome
among those that were put, which are all that a run knows of a strategy.  To a rulebook only the time can be missing:
with the time for each decision there are no failures, and with the time for none there are no trades, a flat equity
curve and a failure on each day after the warm-up but the last. -/
theorem failure_is_no_signal :
    let stopBefore (progress : Progress) : Bool := stop progress.index
    (∀ signals : Signals α,
        run signals.resolved terms stopBefore panel = (run signals terms stopBefore panel).withFailures 0 ∧
        (run signals terms stopBefore panel).failures =
          (questions signals terms stopBefore panel).countP (fun question => hasFailed (signals.answer question)) ∧
        ∀ other : Signals α, other.warmup = signals.warmup →
          (∀ question ∈ questions signals terms stopBefore panel, other.answer question = signals.answer question) →
          run other terms stopBefore panel = run signals terms stopBefore panel) ∧
      ∀ (rulebook : Rulebook α) (budget : Budget),
        let signals := rulebook.signals panel budget
        let result := simulate rulebook panel terms budget stopBefore
        (∀ question ∈ questions signals terms stopBefore panel, hasFailed (signals.answer question) = true →
          ∃ milliseconds, signals.answer question = .error (.timeout milliseconds)) ∧
        ((∀ index < panel.length, budget.exceeded? index = none) → result.failures = 0) ∧
        ((∀ index < panel.length, budget.exceeded? index ≠ none) → result.cancelled = false →
          result.trades = [] ∧ result.equity = List.replicate (panel.length + 1) terms.capital ∧
            result.failures = panel.length - 1 - rulebook.warmupBars) := by
  intro stopBefore
  refine ⟨fun signals => ⟨?resolved, ?failures, ?determined⟩, fun rulebook budget => ⟨?timeouts, ?ample, ?spent⟩⟩
  case resolved => exact run_resolved signals terms stop panel
  case failures => exact run_failures signals terms stopBefore panel
  case determined =>
    intro other warmup agree
    exact runFrom_congr warmup agree
  case timeouts =>
    intro question asked failed
    obtain ⟨decided, late⟩ := rulebook.answer_eq budget question (index_of_mem_questions asked)
    cases exceeded : budget.exceeded? question.index with
    | none =>
        rw [decided exceeded] at failed
        cases failed
    | some milliseconds => exact ⟨milliseconds, late milliseconds exceeded⟩
  case ample =>
    intro inTime
    have none : ∀ question ∈ questions (rulebook.signals panel budget) terms stopBefore panel,
        ¬ hasFailed ((rulebook.signals panel budget).answer question) = true := by
      intro question asked
      have inside := index_of_mem_questions asked
      exact Bool.eq_false_iff.1 ((rulebook.answer_eq budget question inside).1 (inTime question.index inside))
    exact (run_failures _ terms stopBefore panel).trans (List.countP_eq_zero.2 none)
  case spent =>
    intro late completed
    have unanswered : ∀ index < panel.length,
        hasFailed ((rulebook.signals panel budget).enter index) = true := by
      intro index inside
      obtain ⟨milliseconds, exceeded⟩ := Option.ne_none_iff_exists'.1 (late index inside)
      have answer := (rulebook.answer_eq budget (.enter index) inside).2 milliseconds exceeded
      exact congrArg hasFailed answer
    have ended := run_of_not_cancelled completed
    rw [Book.after_of_unanswered unanswered (Nat.le_refl _), Nat.min_eq_right (Nat.sub_le _ _)] at ended
    have result : simulate rulebook panel terms budget stopBefore = _ := ended
    rw [result]
    exact ⟨rfl, Array.toList_replicate, rfl⟩

/-- On the trial days the question of the second day fails if the time runs out then, and that of the last day is never
put.  All three questions before the last day fail if there is no time. -/
theorem trialDays_failures :
    let terms : Terms Hundredths := ⟨.ofInt 1000, .ofInt 1⟩
    let stopBefore (_ : Progress) : Bool := false
    let scarce := trialRulebook.signals trialDays (.scarce 50 fun index => index == 1)
    let bolder := { scarce with enter := fun index => if index = 3 then .ok true else scarce.enter index }
    let late := simulate trialRulebook trialDays terms (.spent 50) stopBefore
    (run scarce terms stopBefore trialDays).failures = 1 ∧
      run scarce.resolved terms stopBefore trialDays = (run scarce terms stopBefore trialDays).withFailures 0 ∧
      run bolder terms stopBefore trialDays = run scarce terms stopBefore trialDays ∧
      (simulate trialRulebook trialDays terms .ample stopBefore).failures = 0 ∧
      late.cancelled = false ∧ late.trades = [] ∧ late.failures = 3 := by
  intro terms stopBefore scarce bolder late
  obtain ⟨any, ruled⟩ := failure_is_no_signal trialDays terms fun _ => false
  obtain ⟨resolved, failures, determined⟩ := any scarce
  obtain ⟨-, ample, -⟩ := ruled trialRulebook .ample
  obtain ⟨-, -, spent⟩ := ruled trialRulebook (.spent 50)
  have completed : late.cancelled = false := rfl
  obtain ⟨trades, -, counted⟩ := spent (fun _ _ => nofun) completed
  have same : ∀ question ∈ questions scarce terms stopBefore trialDays, bolder.answer question =
      scarce.answer question := by
    have put : questions scarce terms stopBefore trialDays =
        [.enter 0, .enter 1, .enter 2, .leave 3 ⟨.ofInt 120, 2⟩] := by rfl
    rw [put]
    simp only [List.forall_mem_cons]
    exact ⟨rfl, rfl, rfl, rfl, nofun⟩
  exact ⟨failures.trans (by decide +kernel), resolved, determined bolder rfl same, ample fun _ _ => rfl, completed,
    trades, counted⟩

end Failures

end PaperTrading
