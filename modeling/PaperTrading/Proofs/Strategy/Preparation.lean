/-
Module: PaperTrading.Proofs.Strategy.Preparation
Purpose: A strategy is prepared only if its numbers are in range, and its rules are then those that were drafted.
Main exports: prepare_cases, Intent.isDraftable_of_read, prepare_eq_ok
-/
import PaperTrading.Backtest
import PaperTrading.Proofs.Rule.Unreadable
import PaperTrading.Proofs.Strategy.Meaning

namespace PaperTrading

open Arithmetic (whole)

section Conditions

variable {α : Type} [Arithmetic α]

/-- The rule for a condition has a text just if the numbers of the condition are finite. -/
theorem Condition.isFinite_of_writable {condition : Condition α} (writable : condition.rule.isWritable = true) :
    condition.IsFinite := by
  cases condition with
  | rsiBelow threshold | rsiAbove threshold => exact writable
  | _ => exact trivial

theorem Condition.isFinite_of_rules_writable {conditions : List (Condition α)}
    (writable : Rule.areWritable (conditions.map (·.rule)) = true) :
    ∀ condition ∈ conditions, condition.IsFinite := by
  rw [Rule.areWritable_iff, List.forall_mem_map] at writable
  intro condition member
  exact isFinite_of_writable (writable condition member)

variable {intent : Intent α}

theorem Intent.entriesFinite_of_writable (writable : intent.entryRule.isWritable = true) :
    ∀ condition ∈ intent.entryConditions, condition.IsFinite := by
  simp only [entryRule, Rule.isWritable, Rule.areWritable, Bool.and_eq_true] at writable
  exact Condition.isFinite_of_rules_writable writable.2.2

/-- The conditions and the limits of a drafted exit rule are in range if it has a text. -/
theorem Intent.exitsInRange_of_writable (writable : intent.exitRule.isWritable = true) :
    (∀ condition ∈ intent.exitConditions, condition.IsFinite) ∧
      IsPercentage (intent.stopLoss.getD defaultStopLoss) ∧
      IsPercentage (intent.takeProfit.getD defaultTakeProfit) := by
  simp only [exitRule, Rule.isWritable, Rule.areWritable, Bool.and_eq_true, Bool.not_eq_true'] at writable
  obtain ⟨-, stopLoss, takeProfit, conditions⟩ := writable
  exact ⟨Condition.isFinite_of_rules_writable conditions, stopLoss, takeProfit⟩

end Conditions

section Drafts

variable {α : Type} [Arithmetic α] [Legible α] (spelled : SpelledOut α) (constants : DraftConstants α)
  {intent : Intent α}
include spelled constants

theorem Condition.failsUnlessWritable_rule (condition : Condition α) (levels : Nat) :
    condition.rule.FailsUnlessWritable (levels + 2) := by
  cases condition with
  | rsiBelow threshold => exact .compare spelled .below (Nat.le_add_left 1 levels)
  | rsiAbove threshold => exact .compare spelled .above (Nat.le_add_left 1 levels)
  | volumeSpike => exact .of_writable constants.spikeFactor (Nat.le_add_left 2 levels)
  | _ => exact .of_writable rfl (Nat.le_add_left 2 levels)

theorem Intent.failsUnlessWritable_entryRule (someEntry : intent.entryConditions ≠ []) :
    intent.entryRule.FailsUnlessWritable deepestNesting := by
  have one := List.length_pos_iff.2 someEntry
  apply Rule.FailsUnlessWritable.all spelled
  · rw [List.length_cons, List.length_map]
    exact Nat.succ_le_succ one
  · rw [List.forall_mem_cons, List.forall_mem_map]
    constructor
    · have small : (Rule.warmup draftWarmup : Rule α).isWritable = true := by
        simp [Rule.isWritable, draftWarmup, largestInteger]
      exact .of_writable small (Nat.le_add_left 1 30)
    · intro condition _
      exact condition.failsUnlessWritable_rule spelled constants 29

theorem Intent.failsUnlessWritable_exitRule : intent.exitRule.FailsUnlessWritable deepestNesting := by
  apply Rule.FailsUnlessWritable.any spelled
  · exact Nat.le_add_left 2 _
  · rw [List.forall_mem_cons, List.forall_mem_cons, List.forall_mem_map]
    refine ⟨.stopLoss spelled _, .takeProfit spelled _, ?_⟩
    intro condition _
    exact condition.failsUnlessWritable_rule spelled constants 29

end Drafts

section Preparation

variable {α : Type} [Arithmetic α] [Legible α]

/-- An intent is prepared if it is complete and its text is admitted. -/
theorem prepare_cases {description category : String} {prepared : Prepared α}
    (ready : prepare description category = .ok prepared) :
    prepared.intent = interpret description category ∧ prepared.intent.isComplete = true ∧
      Rulebook.ofSource prepared.intent.sourceText = .ok prepared.rulebook := by
  simp only [prepare, Intent.draft] at ready
  split at ready
  case h_1 => cases ready
  case h_2 source drafted =>
    split at drafted
    case isFalse => cases drafted
    case isTrue complete =>
      cases drafted
      split at ready
      case h_1 => cases ready
      case h_2 rulebook admitted =>
        cases ready
        exact ⟨rfl, complete, admitted⟩

variable (spelled : SpelledOut α) (constants : DraftConstants α)
include spelled constants

/-- An intent is draftable if it is complete and its text is read at all. -/
theorem Intent.isDraftable_of_read {intent : Intent α} (complete : intent.isComplete = true) {program : Program α}
    (read : Program.read intent.sourceText = .ok program) : intent.IsDraftable := by
  simp only [isComplete, Bool.and_eq_true, Bool.not_eq_true', List.isEmpty_eq_false_iff] at complete
  obtain ⟨⟨understood, someEntry⟩, someExit⟩ := complete
  obtain ⟨entryWritable, exitWritable⟩ := Program.writable_of_read spelled intent.trivia_heading
    (failsUnlessWritable_entryRule spelled constants someEntry) (failsUnlessWritable_exitRule spelled constants) read
  obtain ⟨exitsFinite, stopLoss, takeProfit⟩ := exitsInRange_of_writable exitWritable
  refine ⟨understood, someEntry, someExit, entriesFinite_of_writable entryWritable, exitsFinite, ?_, ?_⟩
  · intro percent asked
    rwa [asked] at stopLoss
  · intro percent asked
    rwa [asked] at takeProfit

/-- A strategy that is prepared is decided by the rules that were drafted for its intent, whose numbers are all in
range. -/
theorem prepare_eq_ok {description category : String} {prepared : Prepared α}
    (ready : prepare description category = .ok prepared) :
    prepared.intent = interpret description category ∧ prepared.intent.IsDraftable ∧
      prepared.rulebook = ⟨prepared.intent.sourceText, prepared.intent.entryRule, prepared.intent.exitRule⟩ := by
  obtain ⟨interpreted, complete, admitted⟩ := prepare_cases ready
  obtain ⟨short, -, read, -⟩ := Rulebook.ofSource_eq_ok admitted
  have draftable := Intent.isDraftable_of_read spelled constants complete read
  obtain ⟨-, -, compiled⟩ := draftable.compiled spelled.readsBack constants
  exact ⟨interpreted, draftable, Except.ok.inj (admitted.symm.trans (compiled short))⟩

end Preparation

section Trial

namespace Hundredths

theorem spelledOut : SpelledOut Hundredths where
  readsBack := readsBack
  special := fun _ unbounded => nomatch unbounded

theorem draftConstants : DraftConstants Hundredths :=
  ⟨by decide, ⟨by decide, by decide⟩, ⟨by decide, by decide⟩⟩

end Hundredths

end Trial

end PaperTrading
