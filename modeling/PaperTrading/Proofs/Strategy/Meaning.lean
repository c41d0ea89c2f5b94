/-
Module: PaperTrading.Proofs.Strategy.Meaning
Purpose: The text that is drafted for a strategy is admitted, and it decides as the strategy says.
Main exports: DraftConstants, Intent.IsDraftable, Intent.IsDraftable.compiled, Decides, draft_preserves_meaning
-/
import PaperTrading.Proofs.Rule.Compilation
import PaperTrading.Proofs.Strategy.Conditions

namespace PaperTrading

open Arithmetic (whole)

section Range

variable {α : Type} [Arithmetic α]

/-- A percentage that a rule may have: finite and not negative. -/
def IsPercentage (percent : α) : Prop :=
  Arithmetic.isFinite percent = true ∧ Arithmetic.lt percent (whole 0) = false

/-- The numbers that a draft adds of its own, 1.5, 5 and 10, are in range, as they are for doubles:
`doubles_draftConstants`. -/
structure DraftConstants (α : Type) [Arithmetic α] : Prop where
  spikeFactor : Arithmetic.isFinite (volumeSpikeFactor : α) = true
  stopLoss : IsPercentage (defaultStopLoss : α)
  takeProfit : IsPercentage (defaultTakeProfit : α)

/-- An intent with something to draft, and with its numbers in range. -/
structure Intent.IsDraftable (intent : Intent α) : Prop where
  understood : intent.understood = true
  someEntry : intent.entryConditions ≠ []
  someExit : intent.exitConditions ≠ []
  entriesFinite : ∀ condition ∈ intent.entryConditions, condition.IsFinite
  exitsFinite : ∀ condition ∈ intent.exitConditions, condition.IsFinite
  stopLoss : ∀ percent ∈ intent.stopLoss, IsPercentage percent
  takeProfit : ∀ percent ∈ intent.takeProfit, IsPercentage percent

theorem IsPercentage.getD {asked : Option α} {otherwise : α} (given : ∀ percent ∈ asked, IsPercentage percent)
    (default : IsPercentage otherwise) : IsPercentage (asked.getD otherwise) := by
  cases asked with
  | none => exact default
  | some percent => exact given percent rfl

end Range

section Rules

variable {α : Type} [Arithmetic α]

theorem Condition.nesting_rule (condition : Condition α) : condition.rule.nesting = 2 := by
  cases condition <;> rfl

theorem Condition.isWritable_rule (constants : DraftConstants α) {condition : Condition α}
    (finite : condition.IsFinite) : condition.rule.isWritable = true := by
  cases condition with
  | rsiBelow threshold | rsiAbove threshold =>
      exact finite
  | volumeSpike => exact constants.spikeFactor
  | _ => rfl

theorem Condition.rules_writable (constants : DraftConstants α) {conditions : List (Condition α)}
    (finite : ∀ condition ∈ conditions, condition.IsFinite) :
    Rule.areWritable (conditions.map (·.rule)) = true := by
  rw [Rule.areWritable_iff, List.forall_mem_map]
  intro condition member
  exact isWritable_rule constants (finite condition member)

theorem Condition.deepest_rules (conditions : List (Condition α)) :
    Rule.deepest (conditions.map (·.rule)) ≤ 2 := by
  rw [Rule.deepest_le_iff, List.forall_mem_map]
  intro condition _
  exact condition.nesting_rule.le

variable {intent : Intent α}

theorem Intent.IsDraftable.entryRule_writable (draftable : intent.IsDraftable) (constants : DraftConstants α) :
    intent.entryRule.isWritable = true := by
  have two := List.length_pos_iff.2 draftable.someEntry
  have written := Condition.rules_writable constants draftable.entriesFinite
  have small : draftWarmup ≤ largestInteger := by
    decide
  simp [Intent.entryRule, Rule.isWritable, Rule.areWritable, written, small]
  omega

theorem Intent.IsDraftable.exitRule_writable (draftable : intent.IsDraftable) (constants : DraftConstants α) :
    intent.exitRule.isWritable = true := by
  have stop := IsPercentage.getD draftable.stopLoss constants.stopLoss
  have take := IsPercentage.getD draftable.takeProfit constants.takeProfit
  have written := Condition.rules_writable constants draftable.exitsFinite
  simp [Intent.exitRule, Rule.isWritable, Rule.areWritable, stop.1, stop.2, take.1, take.2, written]

theorem Intent.nesting_entryRule (intent : Intent α) : intent.entryRule.nesting ≤ deepestNesting := by
  have deepest := Condition.deepest_rules intent.entryConditions
  simp only [entryRule, Rule.nesting, Rule.deepest, deepestNesting]
  omega

theorem Intent.nesting_exitRule (intent : Intent α) : intent.exitRule.nesting ≤ deepestNesting := by
  have deepest := Condition.deepest_rules intent.exitConditions
  simp only [exitRule, Rule.nesting, Rule.deepest, deepestNesting]
  omega

end Rules

section Heading

/-- Plain text on one line. -/
structure PlainLine (text : List Char) : Prop where
  plain : Plain text
  oneLine : '\n' ∉ text

/-- Plain pieces with separators between them make a plain line. -/
theorem PlainLine.intercalate {pieces : List (List Char)} (each : ∀ piece ∈ pieces, PlainLine piece) :
    PlainLine (separator.intercalate pieces) := by
  induction pieces with
  | nil => exact ⟨by decide, List.not_mem_nil⟩
  | cons first rest ih =>
      obtain ⟨head, later⟩ := List.forall_mem_cons.1 each
      cases rest with
      | nil => simpa using head
      | cons second rest =>
          have tail := ih later
          have comma : '\n' ∉ separator := by
            decide
          have front : '\n' ∉ first ++ separator := List.not_mem_append head.oneLine comma
          rw [List.intercalate_cons_cons]
          exact ⟨plain_separated head.plain tail.plain, List.not_mem_append front tail.oneLine⟩

theorem Indicator.plainLine_heading (indicator : Indicator) : PlainLine indicator.heading.toList := by
  cases indicator <;> exact ⟨by decide +kernel, by decide⟩

variable {β : Type} (intent : Intent β)

/-- The indicators of an intent as its heading names them. -/
def Intent.indicatorLine : String :=
  if intent.indicators.isEmpty then "none" else ", ".intercalate (intent.indicators.map (·.heading))

theorem Intent.plainLine_indicatorLine : PlainLine intent.indicatorLine.toList := by
  unfold indicatorLine
  split
  · exact ⟨by decide +kernel, by decide⟩
  · rw [String.toList_intercalate, List.map_map]
    refine PlainLine.intercalate (List.forall_mem_map.2 ?_)
    intro indicator _
    exact indicator.plainLine_heading

/-- The heading of every draft up to the names of the indicators. -/
def headingStart : String :=
  "# strategy rules\n" ++ "# indicators: "

/-- The comments at the head of the text for an intent. -/
def Intent.heading : String :=
  headingStart ++ intent.indicatorLine ++ "\n"

theorem Intent.toList_heading :
    intent.heading.toList = headingStart.toList ++ (intent.indicatorLine.toList ++ ['\n']) := by
  simp [heading]

theorem toList_headingStart :
    headingStart.toList = '#' :: (" strategy rules".toList ++ ['\n']) ++ '#' :: " indicators: ".toList := by
  decide +kernel

theorem Intent.trivia_heading : Trivia intent.heading.toList := by
  have first : '\n' ∉ " strategy rules".toList := by
    decide +kernel
  have start : '\n' ∉ " indicators: ".toList := by
    decide +kernel
  have second : '\n' ∉ " indicators: ".toList ++ intent.indicatorLine.toList :=
    List.not_mem_append start intent.plainLine_indicatorLine.oneLine
  have skipped := (Trivia.comment first).append (Trivia.comment second)
  rw [toList_heading, toList_headingStart]
  simpa only [List.append_assoc, List.cons_append] using skipped

theorem Intent.endsLoosely_heading : EndsLoosely intent.heading.toList := by
  rw [toList_heading, ← List.append_assoc]
  exact endsLoosely_line _

theorem Intent.plain_heading : Plain intent.heading.toList := by
  have start : Plain headingStart.toList := by
    decide +kernel
  have loose : EndsLoosely headingStart.toList := by
    decide +kernel
  rw [toList_heading]
  exact start.append_of_loose loose (plain_line intent.plainLine_indicatorLine.plain)

end Heading

section Verdicts

/-- A decision is reached, and it is to act just where a statement is true. -/
def Decides (outcome : Except EvalProblem Bool) (statement : Prop) : Prop :=
  ∃ verdict, outcome = .ok verdict ∧ (verdict = true ↔ statement)

variable {α : Type} [Arithmetic α]

theorem Condition.all_hold_iff {conditions : List (Condition α)}
    (finite : ∀ condition ∈ conditions, condition.IsFinite) {panel : Array (PanelRow α)} {index : Nat}
    {now : PanelRow α} (day : panel[index]? = some now) (entered : Option (EntryPoint α)) :
    Rule.allHold (dayBefore panel index) now index entered (conditions.map (·.rule)) = true ↔
      ∀ condition ∈ conditions, condition.HoldsAt panel index := by
  rw [Rule.allHold_iff, List.forall_mem_map]
  constructor
  · intro hold condition member
    exact (rule_holds_iff (finite condition member) day entered).1 (hold condition member)
  · intro hold condition member
    exact (rule_holds_iff (finite condition member) day entered).2 (hold condition member)

theorem Condition.any_holds_iff {conditions : List (Condition α)}
    (finite : ∀ condition ∈ conditions, condition.IsFinite) {panel : Array (PanelRow α)} {index : Nat}
    {now : PanelRow α} (day : panel[index]? = some now) (entered : Option (EntryPoint α)) :
    Rule.anyHolds (dayBefore panel index) now index entered (conditions.map (·.rule)) = true ↔
      ∃ condition ∈ conditions, condition.HoldsAt panel index := by
  rw [Rule.anyHolds_iff]
  constructor
  · rintro ⟨rule, drafted, holds⟩
    obtain ⟨condition, member, rfl⟩ := List.mem_map.1 drafted
    exact ⟨condition, member, (rule_holds_iff (finite condition member) day entered).1 holds⟩
  · rintro ⟨condition, member, holds⟩
    have drafted := List.mem_map_of_mem (f := (·.rule)) member
    exact ⟨condition.rule, drafted, (rule_holds_iff (finite condition member) day entered).2 holds⟩

variable {intent : Intent α} {panel : Array (PanelRow α)} {index : Nat}

/-- The drafted rule for buying asks for the warm-up and for every entry condition. -/
theorem Intent.IsDraftable.entryRule_decides (draftable : intent.IsDraftable) (inside : index < panel.size) :
    Decides (intent.entryRule.evaluate panel index none .ample)
      (draftWarmup ≤ index ∧ ∀ condition ∈ intent.entryConditions, condition.HoldsAt panel index) := by
  have day : panel[index]? = some panel[index] := Array.getElem?_eq_getElem inside
  refine ⟨_, Rule.evaluate_ample intent.entryRule none day, ?_⟩
  rw [Intent.entryRule, Rule.holds, Rule.allHold, Bool.and_eq_true,
    Condition.all_hold_iff draftable.entriesFinite day none, Rule.holds, decide_eq_true_iff]

/-- The drafted rule for selling asks for a move from the entry price or for an exit condition. -/
theorem Intent.IsDraftable.exitRule_decides (draftable : intent.IsDraftable) (inside : index < panel.size)
    {price : α} (finite : Arithmetic.isFinite price = true) (positive : Arithmetic.le price (whole 0) = false)
    (entryIndex : Nat) :
    let move := (panel[index].closePrice - price) / price * whole 100
    Decides (intent.exitRule.evaluate panel index (some ⟨price, entryIndex⟩) .ample)
      ((Arithmetic.isFinite move = true ∧
          (Arithmetic.le move (-(intent.stopLoss.getD defaultStopLoss)) = true ∨
            Arithmetic.le (intent.takeProfit.getD defaultTakeProfit) move = true)) ∨
        ∃ condition ∈ intent.exitConditions, condition.HoldsAt panel index) := by
  intro move
  have day : panel[index]? = some panel[index] := Array.getElem?_eq_getElem inside
  refine ⟨_, Rule.evaluate_ample intent.exitRule (some ⟨price, entryIndex⟩) day, ?_⟩
  rw [Intent.exitRule, Rule.holds, Rule.anyHolds, Rule.anyHolds, Bool.or_eq_true, Bool.or_eq_true,
    Condition.any_holds_iff draftable.exitsFinite day, Rule.stopLoss_holds_iff finite positive,
    Rule.takeProfit_holds_iff finite positive, ← or_assoc, ← and_or_left]

end Verdicts

section Drafts

variable {α : Type} [Arithmetic α] [Legible α] {intent : Intent α}

theorem Intent.sourceText_eq (intent : Intent α) :
    intent.sourceText = intent.heading ++ Rule.assignment .entry intent.entryRule ++
      Rule.assignment .exit intent.exitRule :=
  rfl

theorem Intent.IsDraftable.drafted (draftable : intent.IsDraftable) : intent.draft = .ok intent.sourceText := by
  simp [draft, isComplete, draftable.understood, draftable.someEntry, draftable.someExit]

/-- The text for an intent is read as the rules it was drafted from, and admitted if it is short enough. -/
theorem Intent.IsDraftable.compiled (draftable : intent.IsDraftable) (legible : ReadsBack α)
    (constants : DraftConstants α) :
    scanText intent.sourceText = .ok () ∧
      Program.read intent.sourceText = .ok ⟨some intent.entryRule, some intent.exitRule⟩ ∧
      (intent.sourceText.utf8ByteSize ≤ longestSource →
        Rulebook.ofSource intent.sourceText = .ok ⟨intent.sourceText, intent.entryRule, intent.exitRule⟩) := by
  obtain ⟨scanned, compiled, -⟩ := compilation_behind_heading legible intent.trivia_heading intent.plain_heading
    intent.endsLoosely_heading (draftable.entryRule_writable constants) (draftable.exitRule_writable constants)
  exact ⟨scanned, compiled intent.nesting_entryRule intent.nesting_exitRule⟩

/-- The text that is drafted for a strategy is admitted, and its decisions are those of the strategy: to buy after
the warm-up where every entry condition holds, and to sell where the price has moved far enough or where an exit
condition holds. -/
theorem draft_preserves_meaning (legible : ReadsBack α) (constants : DraftConstants α)
    (draftable : intent.IsDraftable) (short : intent.sourceText.utf8ByteSize ≤ longestSource) :
    ∃ source rulebook, intent.draft = .ok source ∧ Rulebook.ofSource source = .ok rulebook ∧
      ∀ (panel : Array (PanelRow α)) (index : Nat) (inside : index < panel.size),
        Decides (rulebook.enters panel index .ample)
          (200 ≤ index ∧ ∀ condition ∈ intent.entryConditions, condition.HoldsAt panel index) ∧
        ∀ (price : α) (entryIndex : Nat), Arithmetic.isFinite price = true →
          Arithmetic.le price (whole 0) = false →
          let move := (panel[index].closePrice - price) / price * whole 100
          Decides (rulebook.leaves panel index ⟨price, entryIndex⟩ .ample)
            ((Arithmetic.isFinite move = true ∧
                (Arithmetic.le move (-(intent.stopLoss.getD (whole 5))) = true ∨
                  Arithmetic.le (intent.takeProfit.getD (whole 10)) move = true)) ∨
              ∃ condition ∈ intent.exitConditions, condition.HoldsAt panel index) := by
  obtain ⟨-, -, admitted⟩ := draftable.compiled legible constants
  refine ⟨_, _, draftable.drafted, admitted short, ?_⟩
  intro panel index inside
  refine ⟨draftable.entryRule_decides inside, ?_⟩
  intro price entryIndex finite positive
  exact draftable.exitRule_decides inside finite positive entryIndex

end Drafts

section Trial

/-- An intent with a default stop loss and a condition of each shape. -/
def trialIntent : Intent Hundredths where
  category := "swing"
  indicators := [.rsi, .volume]
  entryConditions := [.rsiBelow ⟨3050⟩, .volumeSpike]
  exitConditions := [.goldenCross, .bollingerUpperTouch]
  stopLoss := none
  takeProfit := some ⟨1200⟩
  understood := true
  clarifications := []

theorem trialIntent_isDraftable : trialIntent.IsDraftable where
  understood := rfl
  someEntry := by decide
  someExit := by decide
  entriesFinite := by simp [trialIntent, Condition.IsFinite, Arithmetic.isFinite]
  exitsFinite := by simp [trialIntent, Condition.IsFinite]
  stopLoss := by simp [trialIntent]
  takeProfit := by
    intro percent asked
    cases asked
    exact ⟨rfl, by decide⟩

/-- Nothing is bought on the first day, and a position is sold when the price has fallen by a tenth. -/
theorem draft_of_trialIntent :
    ∃ source rulebook, trialIntent.draft = .ok source ∧ Rulebook.ofSource source = .ok rulebook ∧
      let panel := #[Hundredths.flatDay ⟨2024, 1, 2, by decide⟩ 90]
      rulebook.enters panel 0 .ample = .ok false ∧
        rulebook.leaves panel 0 ⟨Hundredths.ofInt 100, 0⟩ .ample = .ok true := by
  have constants : DraftConstants Hundredths := ⟨by decide, ⟨by decide, by decide⟩, ⟨by decide, by decide⟩⟩
  obtain ⟨source, rulebook, drafted, admitted, decides⟩ := draft_preserves_meaning Hundredths.readsBack constants
    trialIntent_isDraftable (by decide +kernel)
  refine ⟨source, rulebook, drafted, admitted, ?_⟩
  intro panel
  obtain ⟨⟨buys, bought, buying⟩, selling⟩ := decides panel 0 (by decide)
  obtain ⟨sells, sold, fallen⟩ := selling (Hundredths.ofInt 100) 0 (by decide) (by decide)
  constructor
  · cases buys with
    | false => exact bought
    | true => exact absurd (buying.1 rfl).1 (by decide)
  · rw [sold, fallen.2 (.inl ⟨by decide, .inl (by decide)⟩)]

end Trial

end PaperTrading
