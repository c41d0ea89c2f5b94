/-
Module: PaperTrading.Proofs.Strategy.Admission
Purpose: What becomes of a description: questions, rules, or a text that is too long.
Main exports: Intent.NumbersFinite, prepare_eq_ok_iff, prepare_outcome
-/
import PaperTrading.Proofs.Strategy.Mentions
import PaperTrading.Proofs.Strategy.Numbers
import PaperTrading.Proofs.Strategy.Preparation
import PaperTrading.Proofs.Text.Lines

namespace PaperTrading

open Arithmetic (whole isFinite lt)

section Lengths

variable {α : Type} [Arithmetic α] [Legible α]

/-- The shortest rule for a condition compares the index with a number. -/
theorem Condition.length_rule (condition : Condition α) : 15 ≤ condition.rule.chars.length := by
  cases condition with
  | priceCrossAboveAverage period =>
      simp [rule, Rule.chars, Operand.chars, opening, Comparison.keyword, separator]
      omega
  | _ => simp [rule, Rule.chars, Operand.chars, opening, Comparison.keyword, separator, Column.name, factorSign]

theorem Condition.length_moreChars (conditions : List (Condition α)) :
    17 * conditions.length ≤ (Rule.moreChars (conditions.map (·.rule))).length := by
  induction conditions with
  | nil => exact Nat.le_refl 0
  | cons condition later ih =>
      have one := condition.length_rule
      have two : separator.length = 2 := rfl
      simp only [List.map_cons, Rule.moreChars, List.length_append, List.length_cons]
      omega

/-- Each exit condition adds to the text for an intent. -/
theorem Intent.length_sourceText (intent : Intent α) :
    17 * intent.exitConditions.length ≤ intent.sourceText.utf8ByteSize := by
  have conditions := Condition.length_moreChars intent.exitConditions
  have exit : (Rule.moreChars (intent.exitConditions.map (·.rule))).length ≤ intent.exitRule.chars.length := by
    simp only [exitRule, Rule.chars, Rule.listChars_cons, Rule.moreChars, List.length_append]
    omega
  have whole : intent.exitRule.chars.length ≤ intent.sourceText.toList.length := by
    simp only [Intent.sourceText_eq, String.toList_append, Rule.toList_assignment, assignmentChars, List.length_append,
      List.length_cons]
    omega
  have bytes := Text.length_le_utf8ByteSize intent.sourceText
  omega

end Lengths

section Outcome

variable {α : Type} [Arithmetic α]

/-- Every number that an intent asks for is finite. -/
structure Intent.NumbersFinite (intent : Intent α) : Prop where
  entries : ∀ condition ∈ intent.entryConditions, condition.IsFinite
  exits : ∀ condition ∈ intent.exitConditions, condition.IsFinite
  stopLoss : ∀ percent ∈ intent.stopLoss, isFinite percent = true
  takeProfit : ∀ percent ∈ intent.takeProfit, isFinite percent = true

/-- The numbers of what can be drafted are finite. -/
theorem Intent.IsDraftable.numbersFinite {intent : Intent α} (draftable : intent.IsDraftable) : intent.NumbersFinite where
  entries := draftable.entriesFinite
  exits := draftable.exitsFinite
  stopLoss := fun percent asked => (draftable.stopLoss percent asked).1
  takeProfit := fun percent asked => (draftable.takeProfit percent asked).1

variable [Legible α] {description category : String}

/-- An intent is understood if it has conditions of both kinds. -/
theorem understood_interpret_iff :
    (interpret description category : Intent α).understood = true ↔
      (interpret description category : Intent α).entryConditions ≠ [] ∧
        (interpret description category : Intent α).exitConditions ≠ [] := by
  have understood : (interpret description category : Intent α).understood =
      (!(interpret description category : Intent α).entryConditions.isEmpty &&
        !(interpret description category : Intent α).exitConditions.isEmpty) := by
    simp only [interpret]
  rw [understood, Bool.and_eq_true, Bool.not_eq_true', Bool.not_eq_true', List.isEmpty_eq_false_iff,
    List.isEmpty_eq_false_iff]

theorem isComplete_interpret :
    (interpret description category : Intent α).isComplete = (interpret description category : Intent α).understood := by
  rw [Bool.eq_iff_iff, Intent.isComplete, Bool.and_eq_true, Bool.and_eq_true, Bool.not_eq_true', Bool.not_eq_true',
    List.isEmpty_eq_false_iff, List.isEmpty_eq_false_iff, and_assoc, and_iff_left_iff_imp]
  exact understood_interpret_iff.1

theorem interpret_isDraftable (constants : DraftConstants α) (unsigned : UnsignedNotNegative α)
    (understood : (interpret description category : Intent α).understood = true)
    (finite : (interpret description category : Intent α).NumbersFinite) :
    (interpret description category : Intent α).IsDraftable := by
  obtain ⟨someEntry, someExit⟩ := understood_interpret_iff.1 understood
  refine ⟨understood, someEntry, someExit, finite.entries, finite.exits, ?stopLoss, ?takeProfit⟩
  case stopLoss =>
    intro percent asked
    obtain rfl := Option.some.inj asked
    exact ⟨finite.stopLoss _ rfl, stopLoss_not_negative unsigned constants _⟩
  case takeProfit =>
    intro percent asked
    obtain rfl := Option.some.inj asked
    exact ⟨finite.takeProfit _ rfl, takeProfit_not_negative unsigned constants _⟩

section Understood

variable (understood : (interpret description category : Intent α).understood = true)
include understood

theorem prepare_of_admitted {rulebook : Rulebook α}
    (admitted : Rulebook.ofSource (interpret description category : Intent α).sourceText = .ok rulebook) :
    prepare description category = .ok ⟨interpret description category, rulebook⟩ := by
  simp only [prepare, Intent.draft, isComplete_interpret, if_pos understood, admitted]

theorem prepare_of_refused {refusal : Refusal}
    (refused : Rulebook.ofSource (α := α) (interpret description category : Intent α).sourceText = .error refusal) :
    prepare (α := α) description category = .error (.refused refusal) := by
  simp only [prepare, Intent.draft, isComplete_interpret, if_pos understood, refused]

end Understood

theorem Rulebook.ofSource_tooLong {source : String} (long : longestSource < source.utf8ByteSize) :
    Rulebook.ofSource (α := α) source = .error (.tooLong source.utf8ByteSize) := by
  simp only [ofSource, if_pos long]

/-- A description is prepared just if it is understood, its numbers are finite and its text is not too long; what is
prepared is then what was drafted for it. -/
theorem prepare_eq_ok_iff (spelled : SpelledOut α) (constants : DraftConstants α) (unsigned : UnsignedNotNegative α)
    {prepared : Prepared α} :
    let intent : Intent α := interpret description category
    prepare description category = .ok prepared ↔
      intent.understood = true ∧ intent.NumbersFinite ∧ intent.sourceText.utf8ByteSize ≤ longestSource ∧
        prepared = ⟨intent, ⟨intent.sourceText, intent.entryRule, intent.exitRule⟩⟩ := by
  intro intent
  constructor
  · intro ready
    obtain ⟨same, draftable, rules⟩ := prepare_eq_ok spelled constants ready
    obtain ⟨-, -, admitted⟩ := prepare_cases ready
    obtain ⟨short, -⟩ := Rulebook.ofSource_eq_ok admitted
    obtain ⟨interpreted, rulebook⟩ := prepared
    obtain rfl : interpreted = intent := same
    exact ⟨draftable.understood, draftable.numbersFinite, short, rules ▸ rfl⟩
  · rintro ⟨understood, finite, short, rfl⟩
    have draftable : intent.IsDraftable := interpret_isDraftable constants unsigned understood finite
    obtain ⟨-, -, admitted⟩ := draftable.compiled spelled.readsBack constants
    exact prepare_of_admitted understood (admitted short)

/-- What becomes of a description.  If it is not understood, the questions of its intent are asked.  If it is, and its
numbers are finite, the text for it is never refused for a denied word or for its grammar: it is read as the rules that
it was drafted from, and these are prepared unless the text is too long. -/
theorem prepare_outcome (legible : ReadsBack α) (constants : DraftConstants α) (unsigned : UnsignedNotNegative α)
    (description category : String) :
    let intent : Intent α := interpret description category
    (intent.understood = false → prepare (α := α) description category = .error (.clarification intent.clarifications)) ∧
      (intent.understood = true → intent.NumbersFinite →
        scanText intent.sourceText = .ok () ∧
          Program.read intent.sourceText = .ok ⟨some intent.entryRule, some intent.exitRule⟩ ∧
          (intent.sourceText.utf8ByteSize ≤ longestSource →
            prepare description category = .ok ⟨intent, ⟨intent.sourceText, intent.entryRule, intent.exitRule⟩⟩) ∧
          (longestSource < intent.sourceText.utf8ByteSize →
            prepare (α := α) description category =
              .error (.refused (.tooLong intent.sourceText.utf8ByteSize)))) := by
  intro intent
  constructor
  · intro unclear
    simp only [prepare, Intent.draft, isComplete_interpret]
    rw [unclear]
    rfl
  · intro understood finite
    have draftable : intent.IsDraftable := interpret_isDraftable constants unsigned understood finite
    obtain ⟨scanned, read, admitted⟩ := draftable.compiled legible constants
    refine ⟨scanned, read, ?_, ?_⟩
    · intro short
      exact prepare_of_admitted understood (admitted short)
    · intro long
      exact prepare_of_refused understood (Rulebook.ofSource_tooLong long)

end Outcome

section Trial

namespace Hundredths

theorem unsignedNotNegative : UnsignedNotNegative Hundredths := by
  intro n unsigned
  have size : (0 : Int) ≤ (n.coefficient * 100 / Nat.pow 10 n.places : Nat) := Int.natCast_nonneg _
  have count : (ofNumeral n).count = (n.coefficient * 100 / Nat.pow 10 n.places : Nat) := by
    simp [ofNumeral, unsigned]
  rw [← count] at size
  exact decide_eq_false (Int.not_lt.2 size)

theorem isFinite_condition (condition : Condition Hundredths) : condition.IsFinite := by
  cases condition with
  | rsiBelow | rsiAbove => rfl
  | _ => exact trivial

theorem numbersFinite (intent : Intent Hundredths) : intent.NumbersFinite where
  entries := fun condition _ => isFinite_condition condition
  exits := fun condition _ => isFinite_condition condition
  stopLoss := fun _ _ => rfl
  takeProfit := fun _ _ => rfl

end Hundredths

/-- One description is prepared with the rules for it, and the other has neither a signal to buy nor one to sell. -/
theorem prepare_outcome_of_clear_and_vague :
    let clear : Intent Hundredths := interpret "Buy when RSI below 30, sell when RSI above 70, stop loss 3%" "day"
    prepare "Buy when RSI below 30, sell when RSI above 70, stop loss 3%" "day" =
        .ok ⟨clear, ⟨clear.sourceText, clear.entryRule, clear.exitRule⟩⟩ ∧
      prepare (α := Hundredths) "buy low, sell high" "day" = .error (.clarification [buyPrompt, sellPrompt]) := by
  intro clear
  obtain ⟨-, drafted⟩ := prepare_outcome Hundredths.readsBack Hundredths.draftConstants
    Hundredths.unsignedNotNegative "Buy when RSI below 30, sell when RSI above 70, stop loss 3%" "day"
  obtain ⟨-, -, short, -⟩ := drafted (by decide +kernel) (Hundredths.numbersFinite _)
  obtain ⟨asked, -⟩ := prepare_outcome Hundredths.readsBack Hundredths.draftConstants
    Hundredths.unsignedNotNegative "buy low, sell high" "day"
  exact ⟨short (by decide +kernel), asked (by decide +kernel)⟩

/-- A mention of the index with a sign and a number. -/
def compared (sign : Char) (compares : sign = '<' ∨ sign = '>') (n : Nat) : ThresholdMention :=
  ⟨sign, Nat.toDigits 10 n, compares, Nat.toDigits_ne_nil, fun _ => Numeral.isDigit_of_mem_toDigits⟩

theorem threshold_compared {sign : Char} (compares : sign = '<' ∨ sign = '>') (n : Nat) :
    (compared sign compares n).threshold = Hundredths.ofInt n := by
  simp [ThresholdMention.threshold, compared, Numeral.digitsValue_toDigits, Legible.ofNumeral, Hundredths.ofNumeral,
    Hundredths.ofInt]

/-- The index below 30, and above each of a thousand numbers. -/
def manyThresholds : String :=
  String.ofList (mentionsChars
    (compared '<' (.inl rfl) 30 :: (List.range' 101 1000).map (compared '>' (.inr rfl))))

theorem thresholds_compared {sign : Char} (compares : sign = '<' ∨ sign = '>') (numbers : List Nat) :
    (numbers.map (compared sign compares)).map (·.threshold) = numbers.map fun (n : Nat) => Hundredths.ofInt n := by
  rw [List.map_map]
  exact List.map_congr_left fun n _ => threshold_compared compares n

/-- Numbers above 60 are thresholds for exits. -/
theorem overboughtConditions_above {numbers : List Nat} (above : ∀ n ∈ numbers, 60 < n) :
    overboughtConditions (Hundredths.ofInt (30 : Nat) :: numbers.map fun (n : Nat) => Hundredths.ofInt n) =
      numbers.map fun (n : Nat) => Condition.rsiAbove (Hundredths.ofInt n) := by
  have high : ∀ t ∈ numbers.map fun (n : Nat) => Hundredths.ofInt n,
      (!lt t (whole 40) && lt (whole 60) t) = true := by
    rw [List.forall_mem_map]
    intro n member
    have large := above n member
    have notBelow : ¬ (n : Int) * 100 < 40 * 100 := by
      omega
    have beyond : (60 : Int) * 100 < n * 100 := by
      omega
    rw [Bool.and_eq_true, Bool.not_eq_true']
    exact ⟨decide_eq_false notBelow, decide_eq_true beyond⟩
  rw [overboughtConditions, List.filter_cons_of_neg (by decide), List.filter_eq_self.2 high, List.map_map]
  rfl

/-- Different numbers are different thresholds. -/
theorem pairwise_rsiAbove {numbers : List Nat} (ascending : numbers.Pairwise (· < ·)) :
    (numbers.map fun (n : Nat) => Condition.rsiAbove (Hundredths.ofInt n)).Pairwise
      fun a b => (b == a) = false := by
  refine List.pairwise_map.2 (ascending.imp ?_)
  intro a b smaller
  have different : (b : Int) * 100 ≠ (a : Int) * 100 := by
    omega
  show ((b : Int) * 100 == (a : Int) * 100) = false
  exact beq_eq_false_iff_ne.2 different

/-- A description with so many thresholds is understood, but the text for it is too long. -/
theorem manyThresholds_refused :
    (interpret manyThresholds "" : Intent Hundredths).understood = true ∧
      ∃ length, prepare (α := Hundredths) manyThresholds "" = .error (.refused (.tooLong length)) := by
  let numbers := List.range' 101 1000
  have above : ∀ n ∈ numbers, 60 < n := by
    intro n member
    have range := (List.mem_range'_1.1 member).1
    omega
  obtain ⟨moreEntries, moreExits, entries, exits⟩ := interpret_mentions (α := Hundredths)
    (compared '<' (.inl rfl) 30) (numbers.map (compared '>' (.inr rfl))) ""
  rw [List.map_cons, thresholds_compared, threshold_compared] at entries exits
  rw [overboughtConditions_above above] at exits
  have someEntry : (interpret manyThresholds "" : Intent Hundredths).entryConditions ≠ [] := by
    rw [manyThresholds, entries, oversoldConditions, List.filter_cons_of_pos (by decide)]
    exact List.cons_ne_nil _ _
  have manyExits : 1000 ≤ (interpret manyThresholds "" : Intent Hundredths).exitConditions.length := by
    have fresh : ∀ condition ∈ numbers.map fun (n : Nat) => Condition.rsiAbove (Hundredths.ofInt n),
        ([] : List (Condition Hundredths)).contains condition = false := fun _ _ => rfl
    obtain ⟨others, same⟩ := distinctFrom_append (pairwise_rsiAbove List.pairwise_lt_range') fresh
    rw [manyThresholds, exits, same, List.length_append, List.length_map, List.length_range']
    exact Nat.le_add_right _ _
  have someExit : (interpret manyThresholds "" : Intent Hundredths).exitConditions ≠ [] := by
    rw [← List.length_pos_iff]
    exact Nat.lt_of_lt_of_le (by decide) manyExits
  have understood := understood_interpret_iff.2 ⟨someEntry, someExit⟩
  have size := (interpret manyThresholds "" : Intent Hundredths).length_sourceText
  have long : longestSource < (interpret manyThresholds "" : Intent Hundredths).sourceText.utf8ByteSize := by
    have limit : longestSource = 16384 := rfl
    omega
  exact ⟨understood, _, prepare_of_refused understood (Rulebook.ofSource_tooLong long)⟩

end Trial

end PaperTrading
