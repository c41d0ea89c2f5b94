/-
Module: PaperTrading.Proofs.Strategy.Roles
Purpose: What the numerals of a description are read as, and which words ask for it.
Main exports: IsPercentageIn.unique, Role, readNumerals, Role.AsksFor, Role.asksFor_of_mem, ReadOnce, Role.Meet,
  readNumerals_apart, interpret_reads_what_is_asked
-/
import PaperTrading.Proofs.Strategy.WellFormed

namespace PaperTrading

open Arithmetic (whole)
open Text (Excerpt)

section Percentages

variable {text before gap after before' gap' after' : List Char} {numeral numeral' : Excerpt}

/-- A text has no more than one percentage at a place. -/
theorem IsPercentageIn.unique (one : IsPercentageIn text before gap after numeral)
    (other : IsPercentageIn text before' gap' after' numeral') (same : numeral.start = numeral'.start) :
    before = before' ∧ after = after' := by
  have length : before.length = before'.length := by
    rw [← one.start, ← other.start, same]
  have whole := one.split.symm.trans other.split
  obtain ⟨front, further⟩ := List.append_inj whole length
  have noSign : '%' ∉ numeral'.chars ++ gap' := by
    rw [List.mem_append, not_or]
    exact ⟨fun member => absurd (other.isNumeral.inside _ member) (by decide),
      fun member => absurd (other.blank _ member) (by decide)⟩
  rw [← List.append_assoc numeral'.chars] at further
  rcases percentage_split one.isNumeral one.blank noSign further with ⟨-, -, rest⟩ | inside | blank
  · exact ⟨front, rest⟩
  · exact absurd inside (by decide)
  · exact absurd blank (by decide)

/-- The first character of a text that is not blank. -/
def firstVisible? (text : List Char) : Option Char :=
  (text.dropWhile Text.isBlank).head?

theorem firstVisible?_append {blanks rest : List Char} {c : Char} (blank : ∀ d ∈ blanks, Text.isBlank d = true)
    (visible : Text.isBlank c = false) : firstVisible? (blanks ++ c :: rest) = some c := by
  rw [firstVisible?, Text.dropWhile_run blank ((Text.stopsBefore_cons _ _ _).2 visible)]
  rfl

theorem stopLossAsking_firstVisible? (follows : stopLossAsking.Follows after) : firstVisible? after = some 's' := by
  obtain ⟨words, later, rfl, blanks, joints, rfl, blank, -⟩ := follows
  rw [List.append_assoc]
  exact firstVisible?_append blank (by decide)

theorem takeProfitAsking_firstVisible? (follows : takeProfitAsking.Follows after) :
    firstVisible? after = some 't' ∨ firstVisible? after = some 'p' := by
  obtain ⟨words, later, rfl, blanks, target, rfl, blank, ⟨joints, rfl, -⟩ | ⟨joints, rfl, -⟩⟩ := follows
  · rw [List.append_assoc]
    exact .inl (firstVisible?_append blank (by decide))
  · rw [List.append_assoc]
    exact .inr (firstVisible?_append blank (by decide))

/-- No words after a sign ask for both a stop loss and a take profit. -/
theorem not_follows_both (stop : stopLossAsking.Follows after) : ¬ takeProfitAsking.Follows after := by
  intro take
  have first := stopLossAsking_firstVisible? stop
  rcases takeProfitAsking_firstVisible? take with other | other
  all_goals exact absurd (first.symm.trans other) (by decide)

end Percentages

section Roles

/-- What a numeral of a description is read as. -/
inductive Role where
  | threshold
  | stopLoss
  | takeProfit
deriving DecidableEq, Repr

/-- The words that ask for a number in a role. -/
def Role.asking : Role → Asking
  | threshold => thresholdAsking
  | stopLoss => stopLossAsking
  | takeProfit => takeProfitAsking

/-- The numerals of a text that are read in a role. -/
def Role.numerals (text : List Char) : Role → List Excerpt
  | threshold => rsiNumerals text
  | stopLoss => (stopLossNumeral? text).toList
  | takeProfit => (takeProfitNumeral? text).toList

/-- The numerals of a text that are read, each with its role. -/
def readNumerals (text : List Char) : List (Role × Excerpt) :=
  (Role.threshold.numerals text).map (.threshold, ·) ++
    ((Role.stopLoss.numerals text).map (.stopLoss, ·) ++ (Role.takeProfit.numerals text).map (.takeProfit, ·))

section Numbers

variable {α : Type} [Arithmetic α] [Legible α] (text : List Char)

/-- The numbers that are read from a text in one role. -/
def Role.numbers (role : Role) : List α :=
  ((readNumerals text).filter fun read => read.1 == role).filterMap fun read => read.2.number?

omit [Arithmetic α] in
theorem Role.numbers_eq (role : Role) :
    (role.numbers text : List α) = (role.numerals text).filterMap Text.Excerpt.number? := by
  have inRole (one : Role) (numerals : List Excerpt) :
      ((numerals.map (one, ·)).filter fun read => read.1 == role).filterMap
          (fun read : Role × Excerpt => (read.2.number? : Option α)) =
        if one == role then numerals.filterMap Text.Excerpt.number? else [] := by
    rw [List.filter_map]
    cases same : one == role with
    | true => simp [Function.comp_def, same, List.filterMap_map]
    | false => simp [Function.comp_def, same]
  simp only [numbers, readNumerals, List.filter_append, List.filterMap_append, inRole]
  cases role <;> simp

/-- The percentages of an intent are those that are read, or the defaults. -/
theorem interpret_percentages (description category : String) :
    let text := Text.lowerCase description.toList
    let intent : Intent α := interpret description category
    intent.stopLoss = some ((Role.stopLoss.numbers text).head?.getD defaultStopLoss) ∧
      intent.takeProfit = some ((Role.takeProfit.numbers text).head?.getD defaultTakeProfit) := by
  intro text intent
  have first (numeral? : Option Excerpt) :
      (numeral?.toList.filterMap Text.Excerpt.number?).head? = (numeral?.bind Text.Excerpt.number? : Option α) := by
    cases numeral? with
    | none => rfl
    | some numeral => cases read : (numeral.number? : Option α) <;> simp [read]
  constructor
  · rw [Role.numbers_eq, Role.numerals, first]
    rfl
  · rw [Role.numbers_eq, Role.numerals, first]
    rfl

variable {text}

/-- What is said about the index is said where the text mentions the index. -/
theorem rsiMentioned_of_said {mention : Mention α} {condition : Condition α} (said : mention ∈ mentionedIn text)
    (about : condition.indicator = .rsi) (member : condition ∈ mention.entries ∨ condition ∈ mention.exits) :
    mention = rsiMentioned text := by
  rw [eq_mentionOf said] at member ⊢
  by_cases named : mention.indicator = .rsi
  · rw [named]
    rfl
  · have matched : AreMatched [mention.indicator] (mentionOf text mention.indicator : Mention α).entries _ :=
      mentionOf_areMatched named
    have same : condition.indicator ∈ [mention.indicator] :=
      member.elim (fun entry => (matched.entry condition entry).2) fun exit => (matched.exit condition exit).2
    exact absurd ((List.mem_singleton.1 same).symm.trans about) named

/-- The thresholds of an intent are among the numbers that are read as thresholds. -/
theorem interpret_thresholds (description category : String) (threshold : α) :
    let text := Text.lowerCase description.toList
    let intent : Intent α := interpret description category
    .rsiBelow threshold ∈ intent.entryConditions ∨ .rsiAbove threshold ∈ intent.exitConditions →
      threshold ∈ (Role.threshold.numbers text : List α) := by
  intro text intent said
  rw [Role.numbers_eq]
  rcases said with buy | sell
  · obtain ⟨mention, said, member⟩ := List.mem_flatMap.1 (mem_of_mem_distinctFrom buy)
    rw [rsiMentioned_of_said said rfl (.inl member)] at member
    obtain ⟨read, low, same⟩ := List.mem_map.1 member
    exact Condition.rsiBelow.inj same ▸ (List.mem_filter.1 low).1
  · obtain ⟨mention, said, member⟩ := List.mem_flatMap.1 (mem_of_mem_distinctFrom sell)
    rw [rsiMentioned_of_said said rfl (.inr member)] at member
    obtain ⟨read, high, same⟩ := List.mem_map.1 member
    exact Condition.rsiAbove.inj same ▸ (List.mem_filter.1 high).1

end Numbers

/-- A numeral of the text that its words ask for in a role. -/
def Role.AsksFor (text : List Char) (numeral : Excerpt) : Role → Prop
  | threshold => ∃ before rest, text = before ++ (numeral.chars ++ rest) ∧ numeral.start = before.length ∧
      IsNumeral numeral.chars ∧ thresholdAsking.Leads before
  | stopLoss => stopLossAsking.At text numeral
  | takeProfit => takeProfitAsking.At text numeral

section Asked

variable {text : List Char}

/-- No numeral is read in a role that the words around it do not ask for. -/
theorem Role.asksFor_of_mem {role : Role} {numeral : Excerpt} (member : numeral ∈ role.numerals text) :
    role.AsksFor text numeral := by
  cases role with
  | threshold => exact rsiNumerals_led member
  | stopLoss => exact stopLossNumeral?_at (Option.mem_toList.1 member)
  | takeProfit => exact takeProfitNumeral?_at (Option.mem_toList.1 member)

theorem mem_readNumerals {read : Role × Excerpt} (member : read ∈ readNumerals text) :
    read.2 ∈ read.1.numerals text := by
  rw [readNumerals, List.mem_append, List.mem_append] at member
  rcases member with threshold | stop | take
  · obtain ⟨numeral, among, rfl⟩ := List.mem_map.1 threshold
    exact among
  · obtain ⟨numeral, among, rfl⟩ := List.mem_map.1 stop
    exact among
  · obtain ⟨numeral, among, rfl⟩ := List.mem_map.1 take
    exact among

end Asked

/-- Every numeral that is read from a text is read in one role, once. -/
def ReadOnce (text : List Char) : Prop :=
  (readNumerals text).Pairwise fun one other => one.2.start ≠ other.2.start

instance (text : List Char) : Decidable (ReadOnce text) :=
  inferInstanceAs (Decidable ((readNumerals text).Pairwise fun one other => one.2.start ≠ other.2.start))

/-- Two roles meet at the numeral of a percentage: words for one of them lead up to it, and it is asked for in the
other as well.  The searches for the roles do not know of one another, so that nothing keeps them apart there. -/
def Role.Meet (one other : Role) (text : List Char) (numeral : Excerpt) : Prop :=
  one ≠ other ∧ ∃ before gap after, IsPercentageIn text before gap after numeral ∧
    ((one.asking.Leads before ∧ other.asking.Asks before after) ∨
      (other.asking.Leads before ∧ one.asking.Asks before after))

variable {text : List Char} {numeral numeral' : Excerpt}

/-- A threshold is the numeral of a percentage only where words for the threshold lead up to the percentage. -/
theorem threshold_meets {role : Role} (other : role ≠ .threshold) (threshold : numeral ∈ rsiNumerals text)
    (asked : role.asking.At text numeral') (same : numeral.start = numeral'.start) :
    Role.threshold.Meet role text numeral' := by
  obtain ⟨before, rest, split, start, -, leads⟩ := rsiNumerals_led threshold
  obtain ⟨before', gap, after, percentage, asks⟩ := asked
  have length : before.length = before'.length := by
    rw [← start, ← percentage.start, same]
  obtain ⟨rfl, -⟩ := List.append_inj (split.symm.trans percentage.split) length
  exact ⟨other.symm, before, gap, after, percentage, .inl ⟨leads, asks⟩⟩

/-- A stop loss is also read as the take profit only where the words for one of them lead up to it. -/
theorem stopLoss_meets (stop : stopLossAsking.At text numeral) (take : takeProfitAsking.At text numeral')
    (same : numeral.start = numeral'.start) : Role.stopLoss.Meet .takeProfit text numeral' := by
  obtain ⟨before, gap, after, percentage, asks⟩ := stop
  obtain ⟨before', gap', after', percentage', asks'⟩ := take
  obtain ⟨rfl, rfl⟩ := percentage.unique percentage' same
  refine ⟨nofun, before, gap', after, percentage', ?_⟩
  -- Only what follows the sign cannot ask for both.
  rcases asks with leads | follows
  · exact .inl ⟨leads, asks'⟩
  · rcases asks' with leads' | follows'
    · exact .inr ⟨leads', .inr follows⟩
    · exact absurd follows' (not_follows_both follows)

/-- The numerals that are read from a text stand at different places, except where two roles meet. -/
theorem readNumerals_apart (text : List Char) :
    (readNumerals text).Pairwise fun one other =>
      one.2.start = other.2.start → one.1.Meet other.1 text other.2 := by
  rw [readNumerals, List.pairwise_append, List.pairwise_append]
  refine ⟨?thresholds, ⟨?stopLoss, ?takeProfit, ?percentages⟩, ?further⟩
  case thresholds =>
    refine List.pairwise_map.2 ((rsiNumerals_ordered text).imp ?_)
    intro one other before same
    exact absurd same (Nat.ne_of_lt before)
  case stopLoss => cases read : stopLossNumeral? text <;> simp [Role.numerals, read]
  case takeProfit => cases read : takeProfitNumeral? text <;> simp [Role.numerals, read]
  case percentages =>
    intro one stop other take same
    obtain ⟨numeral, read, rfl⟩ := List.mem_map.1 stop
    obtain ⟨numeral', read', rfl⟩ := List.mem_map.1 take
    exact stopLoss_meets (Role.asksFor_of_mem read) (Role.asksFor_of_mem read') same
  case further =>
    intro one threshold other percentage same
    obtain ⟨numeral, read, rfl⟩ := List.mem_map.1 threshold
    rcases List.mem_append.1 percentage with stop | take
    · obtain ⟨numeral', read', rfl⟩ := List.mem_map.1 stop
      exact threshold_meets nofun read (Role.asksFor_of_mem read') same
    · obtain ⟨numeral', read', rfl⟩ := List.mem_map.1 take
      exact threshold_meets nofun read (Role.asksFor_of_mem read') same

/-- Every threshold for the index in an intent is the number of a numeral that is read as one, and so are its stop loss
and its take profit unless they are the defaults.  A numeral is read in a role only if the words around it ask for it in
that very role, and a place has numerals of two roles only where they meet. -/
theorem interpret_reads_what_is_asked {α : Type} [Arithmetic α] [Legible α] (description category : String) :
    let text := Text.lowerCase description.toList
    let intent : Intent α := interpret description category
    (∀ threshold, .rsiBelow threshold ∈ intent.entryConditions ∨ .rsiAbove threshold ∈ intent.exitConditions →
        threshold ∈ Role.threshold.numbers text) ∧
      intent.stopLoss = some ((Role.stopLoss.numbers text).head?.getD defaultStopLoss) ∧
      intent.takeProfit = some ((Role.takeProfit.numbers text).head?.getD defaultTakeProfit) ∧
      (∀ read ∈ readNumerals text, read.1.AsksFor text read.2) ∧
      (readNumerals text).Pairwise fun one other =>
        one.2.start = other.2.start → one.1.Meet other.1 text other.2 := by
  intro text intent
  obtain ⟨stopLoss, takeProfit⟩ := interpret_percentages (α := α) description category
  exact ⟨interpret_thresholds description category, stopLoss, takeProfit, fun _ read => Role.asksFor_of_mem (mem_readNumerals read),
    readNumerals_apart text⟩

/-- A stop loss right before the words for a take profit is read as both, and the percentage that follows those words
is lost.  A stop loss that is the first number after the name of the index makes a condition that nothing asks for. -/
theorem one_percentage_in_two_roles :
    let stopThenTake := "RSI below 30 buy, RSI above 70 sell, stop loss 5% take profit 10%"
    let indexThenStop := "MACD cross and RSI, stop loss 25%"
    ¬ ReadOnce (Text.lowerCase stopThenTake.toList) ∧
      (interpret stopThenTake "swing" : Intent Float).takeProfit == some (whole 5) ∧
      ¬ ReadOnce (Text.lowerCase indexThenStop.toList) ∧
      (interpret indexThenStop "swing" : Intent Float).entryConditions.contains (.rsiBelow (whole 25)) := by
  dsimp only
  decide +kernel

/-- In clauses of their own a stop loss and a take profit are told apart. -/
example : ReadOnce (Text.lowerCase "RSI below 30, RSI above 70, stop loss 5%, take profit 10%".toList) := by
  decide +kernel

end Roles

end PaperTrading
