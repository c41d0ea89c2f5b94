/-
Module: PaperTrading.Proofs.Rule.Unreadable
Purpose: Rules with numbers that are out of range have a text, but it is not read back.
Main exports: SpelledOut, TextProblem.IsAboutNumber, Rule.FailsUnlessWritable, Program.writable_of_read
-/
import PaperTrading.Proofs.Rule.ProgramText

namespace PaperTrading

open Grammar

/-- The words for numbers that are not finite. -/
def specialWords : List String := ["NaN", "inf", "-inf"]

/-- Every finite number is written as a numeral that is read as the same number, and any other is written as a word: of
doubles `doubles_spelledOut`. -/
structure SpelledOut (α : Type) [Arithmetic α] [Legible α] : Prop where
  readsBack : ReadsBack α
  special : ∀ x : α, Arithmetic.isFinite x = false → Legible.toNumeral? x = none ∧ Legible.word x ∈ specialWords

/-- A number was expected, or a number that is not negative. -/
def TextProblem.IsAboutNumber : TextProblem → Prop
  | .expectedNumber | .expectedOperand _ | .negativePercent _ => True
  | _ => False

section Operands

variable {α : Type} [Legible α]

/-- The reader fails on the text of an operand, whatever ends it. -/
def Operand.FailsWithin (levels : Nat) (kind : TextProblem → Prop) (operand : Operand α) : Prop :=
  ∀ rest : List Char, EndsToken rest → Fails kind (operandReader (α := α) levels (operand.chars ++ rest))

variable {kind : TextProblem → Prop} {levels : Nat} {operand first second : Operand α}

theorem Operand.FailsWithin.of_primary
    (primary : ∀ rest, EndsToken rest → Fails kind (readPrimary (operandReader (α := α) levels) (operand.chars ++ rest))) :
    operand.FailsWithin (levels + 1) kind :=
  fun rest ends => (primary rest ends).bind _

theorem operandReader_fails_space {text : List Char} (failed : Fails kind (operandReader (α := α) levels text)) :
    Fails kind (operandReader (α := α) levels (' ' :: text)) := by
  cases levels with
  | zero =>
      obtain ⟨problem, rest, of_kind, refused⟩ := failed
      cases refused
      exact ⟨.tooDeep, _, of_kind, rfl⟩
  | succ levels => rwa [operandReader_space (Nat.succ_pos levels)]

/-- An operand that is taken apart fails at the factor behind it, if that is no number. -/
theorem Grammar.TakenApart.operandReader_fails {text factor : List Char}
    (apart : TakenApart levels operand text (factorSign ++ factor))
    (failed : Fails kind (readNumber (α := α) factor)) : Fails kind (operandReader (α := α) (levels + 1) text) := by
  obtain ⟨middle, primary, long, factors⟩ := apart
  have star : Text.trimStart (factorSign ++ factor) = '*' :: ' ' :: factor :=
    Mark.iff_trimStart.1 (mark_factorSign factor)
  have failedHere : Fails kind (readNumber (α := α) (' ' :: factor)) := by
    rwa [← readNumber_trimStart, Text.trimStart_cons_space, readNumber_trimStart]
  obtain ⟨rounds, enough⟩ : ∃ rounds, middle.length = rounds + 1 + operand.factorCount := by
    have : 0 < (factorSign ++ factor).length := Nat.succ_pos _
    exact ⟨middle.length - operand.factorCount - 1, by omega⟩
  simp only [operandReader, primary, bind, Except.bind]
  rw [enough, factors, readFactors, star]
  exact failedHere.bind _

end Operands

variable {α : Type} [Arithmetic α] [Legible α]

section Numbers

variable {x : α}

theorem SpelledOut.exists_word (spelled : SpelledOut α) (unbounded : Arithmetic.isFinite x = false) :
    ∃ word ∈ specialWords, Legible.chars x = word.toList := by
  obtain ⟨noNumeral, listed⟩ := spelled.special x unbounded
  exact ⟨_, listed, by rw [Legible.chars, noNumeral]⟩

theorem readNumber_fails (spelled : SpelledOut α) (unbounded : Arithmetic.isFinite x = false) (rest : List Char) :
    Fails TextProblem.IsAboutNumber (readNumber (α := α) (Legible.chars x ++ rest)) := by
  obtain ⟨word, listed, chars⟩ := spelled.exists_word unbounded
  rw [chars]
  simp only [specialWords, List.mem_cons, List.not_mem_nil, or_false] at listed
  rcases listed with rfl | rfl | rfl
  · exact ⟨.expectedNumber, _, trivial, rfl⟩
  · exact ⟨.expectedNumber, _, trivial, rfl⟩
  · exact ⟨.expectedNumber, _, trivial, rfl⟩

end Numbers

section UnwritableOperands

variable {levels : Nat} (spelled : SpelledOut α)
include spelled

/-- The words for special numbers are neither columns nor functions. -/
theorem readPrimary_special {x : α} (unbounded : Arithmetic.isFinite x = false) (inner : Reader (Operand α))
    {rest : List Char} (ends : EndsToken rest) :
    Fails TextProblem.IsAboutNumber (readPrimary inner (Legible.chars x ++ rest)) := by
  obtain ⟨word, listed, chars⟩ := spelled.exists_word unbounded
  have unknown : ∀ {word : String}, IsName word → word ∈ specialWords →
      Fails TextProblem.IsAboutNumber (readPrimary inner (word.toList ++ rest)) := by
    intro word isName listed
    have found : Grammar.Word word (word.toList ++ rest) rest := ⟨Blanks.refl _, ends.stops_word⟩
    simp only [readPrimary, found.starts_no_number isName, found.splitWord_eq isName]
    simp only [specialWords, List.mem_cons, List.not_mem_nil, or_false] at listed
    rcases listed with rfl | rfl | rfl
    all_goals exact ⟨.expectedOperand _, _, trivial, rfl⟩
  have all := listed
  simp only [specialWords, List.mem_cons, List.not_mem_nil, or_false] at listed
  rw [chars]
  rcases listed with rfl | rfl | rfl
  · exact unknown (by decide) all
  · exact unknown (by decide) all
  · exact ⟨.expectedNumber, _, trivial, rfl⟩

/-- Two operands are misread at the first that has a number that is not finite. -/
theorem readTwo_unwritable {first second : Operand α}
    (firstFails : first.isWritable = false → first.FailsWithin levels TextProblem.IsAboutNumber)
    (secondFails : second.isWritable = false → second.FailsWithin levels TextProblem.IsAboutNumber)
    (shallow : first.nesting ≤ levels) (unwritable : (first.isWritable && second.isWritable) = false)
    (rest : List Char) :
    Fails TextProblem.IsAboutNumber (readTwo (operandReader (α := α) levels)
      ('(' :: (first.chars ++ (separator ++ (second.chars ++ ')' :: rest))))) := by
  cases writable : first.isWritable with
  | false => exact readTwo_fails_first (firstFails writable _ (Punctuation.comma.endsToken _))
  | true =>
      rw [writable, Bool.true_and] at unwritable
      have taken := operandReader_chars spelled.readsBack first writable levels _ shallow
        (closes_comma (' ' :: (second.chars ++ ')' :: rest)))
      have failed := secondFails unwritable (')' :: rest) (Punctuation.closing.endsToken rest)
      exact readTwo_fails_second taken (operandReader_fails_space failed)

/-- An operand with a number that is not finite is misread. -/
theorem Operand.failsWithin_of_unwritable (operand : Operand α) (unwritable : operand.isWritable = false)
    (shallow : operand.nesting ≤ levels) : operand.FailsWithin levels TextProblem.IsAboutNumber := by
  induction operand generalizing levels with
  | column source => cases unwritable
  | constant value =>
      obtain ⟨fewer, rfl⟩ := Nat.exists_eq_add_of_lt shallow
      exact .of_primary fun _ ends => readPrimary_special spelled unwritable _ ends
  | abs inner ih
  | round inner ih =>
      obtain ⟨fewer, rfl⟩ := Nat.exists_eq_add_of_lt (Nat.lt_of_lt_of_le (Nat.succ_pos _) shallow)
      apply FailsWithin.of_primary
      intro rest _
      have failed := ih unwritable (Nat.le_of_succ_le_succ shallow) (')' :: rest) (Punctuation.closing.endsToken rest)
      simp only [chars, List.append_assoc, List.singleton_append, readPrimary_abs, readPrimary_round]
      exact (readOne_fails failed).map _
  | min first second ihFirst ihSecond
  | max first second ihFirst ihSecond =>
      obtain ⟨fewer, rfl⟩ := Nat.exists_eq_add_of_lt (Nat.lt_of_lt_of_le (Nat.succ_pos _) shallow)
      obtain ⟨firstShallow, secondShallow⟩ := Nat.max_le.1 (Nat.le_of_succ_le_succ shallow)
      apply FailsWithin.of_primary
      intro rest _
      have failed := readTwo_unwritable spelled (fun outside => ihFirst outside firstShallow)
        (fun outside => ihSecond outside secondShallow) firstShallow unwritable rest
      simp only [chars, List.append_assoc, List.singleton_append, readPrimary_min, readPrimary_max]
      exact failed.map _
  | scaled inner factor ih =>
      intro rest ends
      have star := mark_factorSign (Legible.chars factor ++ rest)
      rw [chars, List.append_assoc, List.append_assoc]
      cases writable : inner.isWritable with
      | false => exact ih writable shallow _ star.endsToken
      | true =>
          simp only [isWritable, writable, Bool.true_and] at unwritable
          obtain ⟨fewer, rfl⟩ := Nat.exists_eq_add_of_lt (Nat.lt_of_lt_of_le inner.nesting_pos shallow)
          rw [Nat.zero_add] at shallow ⊢
          have apart := (inner.spelled_chars spelled.readsBack writable star.endsToken).takenApart shallow star.endsToken
          exact apart.operandReader_fails (readNumber_fails spelled unwritable rest)

end UnwritableOperands

section Rules

theorem readPercent_fails (spelled : SpelledOut α) (keyword : String) {percent : α}
    (outside : Arithmetic.isFinite percent = false ∨ Arithmetic.lt percent (Arithmetic.whole 0) = true)
    (rest : List Char) :
    Fails TextProblem.IsAboutNumber (readPercent (α := α) keyword ('(' :: (Legible.chars percent ++ ')' :: rest))) := by
  rw [readPercent, skipCharacter_open]
  cases finite : Arithmetic.isFinite percent with
  | false => exact (readNumber_fails spelled finite (')' :: rest)).bind _
  | true =>
      have negative := outside.resolve_left (by simp [finite])
      have stops : Text.StopsBefore Numeral.continues (')' :: rest) := by
        simp
        decide
      have number := spelled.readsBack.readNumber_chars finite stops
      refine ⟨.negativePercent keyword, Legible.chars percent ++ ')' :: rest, trivial, ?_⟩
      simp only [bind, Except.bind, number, negative, if_pos]
      rfl

/-- Reading a rule that is not writable within enough levels fails at a number. -/
structure Rule.FailsUnlessWritable (levels : Nat) (rule : Rule α) : Prop where
  shallow : rule.nesting ≤ levels
  fails : rule.isWritable = false → rule.FailsWithin levels TextProblem.IsAboutNumber

namespace Rule.FailsUnlessWritable

variable {levels : Nat}

theorem of_writable {rule : Rule α} (writable : rule.isWritable = true) (shallow : rule.nesting ≤ levels) :
    rule.FailsUnlessWritable levels where
  shallow := shallow
  fails := fun unwritable => absurd writable (Bool.eq_false_iff.1 unwritable)

variable (spelled : SpelledOut α)
include spelled

theorem compare (comparison : Comparison) {left right : Operand α} (shallow : max left.nesting right.nesting ≤ levels) :
    (Rule.compare comparison left right).FailsUnlessWritable (levels + 1) where
  shallow := Nat.succ_le_succ shallow
  fails := by
    obtain ⟨leftShallow, rightShallow⟩ := Nat.max_le.1 shallow
    intro unwritable rest
    simp only [Rule.chars, List.append_assoc, List.singleton_append, ruleReader_compare]
    apply Fails.map
    exact readTwo_unwritable spelled (fun outside => left.failsWithin_of_unwritable spelled outside leftShallow)
      (fun outside => right.failsWithin_of_unwritable spelled outside rightShallow) leftShallow unwritable rest

theorem stopLoss (percent : α) : (Rule.stopLoss percent).FailsUnlessWritable (levels + 1) where
  shallow := Nat.le_add_left 1 levels
  fails := by
    intro outside rest
    simp only [isWritable, Bool.and_eq_false_iff, Bool.not_eq_false'] at outside
    rw [Rule.chars, List.append_assoc, List.append_assoc, List.singleton_append, ruleReader_stopLoss]
    exact (readPercent_fails spelled "STOP_LOSS" outside rest).map _

theorem takeProfit (percent : α) : (Rule.takeProfit percent).FailsUnlessWritable (levels + 1) where
  shallow := Nat.le_add_left 1 levels
  fails := by
    intro outside rest
    simp only [isWritable, Bool.and_eq_false_iff, Bool.not_eq_false'] at outside
    rw [Rule.chars, List.append_assoc, List.append_assoc, List.singleton_append, ruleReader_takeProfit]
    exact (readPercent_fails spelled "TAKE_PROFIT" outside rest).map _

section Combinations

variable {rules : List (Rule α)} (two : 2 ≤ rules.length) (each : ∀ rule ∈ rules, rule.FailsUnlessWritable levels)
include each

omit spelled in
theorem deepest_le : Rule.deepest rules ≤ levels :=
  (Rule.deepest_le_iff rules levels).2 fun rule member => (each rule member).shallow

theorem taken_or_fails (rule : Rule α) (member : rule ∈ rules) :
    (rule.ReadBack ∧ rule.nesting ≤ levels) ∨ rule.FailsWithin levels TextProblem.IsAboutNumber := by
  cases writable : rule.isWritable with
  | true => exact .inl ⟨ruleReader_chars spelled.readsBack rule writable, (each rule member).shallow⟩
  | false => exact .inr ((each rule member).fails writable)

include two

omit spelled in
/-- A list of two rules at least is not writable because one of them is not. -/
theorem exists_fails (unwritable : (decide (2 ≤ rules.length) && Rule.areWritable rules) = false) :
    ∃ rule ∈ rules, rule.FailsWithin levels TextProblem.IsAboutNumber := by
  have notAll : ¬ ∀ rule ∈ rules, rule.isWritable = true := by
    intro all
    simp [two, (Rule.areWritable_iff rules).2 all] at unwritable
  simp only [Classical.not_forall, Bool.not_eq_true] at notAll
  obtain ⟨rule, member, unwritable⟩ := notAll
  exact ⟨rule, member, (each rule member).fails unwritable⟩

theorem all : (Rule.all rules).FailsUnlessWritable (levels + 1) where
  shallow := Nat.succ_le_succ (deepest_le each)
  fails := by
    intro unwritable rest
    rw [Rule.chars, List.append_assoc, List.append_assoc, ruleReader_all, ← List.append_assoc]
    exact (readRules_fails "AND" (taken_or_fails spelled each) (exists_fails two each unwritable) rest).map _

theorem any : (Rule.any rules).FailsUnlessWritable (levels + 1) where
  shallow := Nat.succ_le_succ (deepest_le each)
  fails := by
    intro unwritable rest
    rw [Rule.chars, List.append_assoc, List.append_assoc, ruleReader_any, ← List.append_assoc]
    exact (readRules_fails "OR" (taken_or_fails spelled each) (exists_fails two each unwritable) rest).map _

end Combinations

end Rule.FailsUnlessWritable

end Rules

section Programs

variable {heading : String} {entry exit : Rule α}

/-- If the text of two assignments is read at all, both rules are writable. -/
theorem Program.writable_of_read (spelled : SpelledOut α) (skipped : Trivia heading.toList)
    (entryFails : entry.FailsUnlessWritable deepestNesting) (exitFails : exit.FailsUnlessWritable deepestNesting)
    {program : Program α}
    (read : Program.read (heading ++ Rule.assignment .entry entry ++ Rule.assignment .exit exit) = .ok program) :
    entry.isWritable = true ∧ exit.isWritable = true := by
  rw [Program.read, toList_assignments] at read
  have readable : ¬ Fails TextProblem.IsAboutNumber (readProgram (α := α) (programChars heading.toList entry exit)) := by
    rintro ⟨problem, rest, -, failed⟩
    rw [failed] at read
    cases read
  have entryWritable : entry.isWritable = true := by
    rw [← Bool.not_eq_false]
    intro unwritable
    exact readable (readProgram_fails skipped (.inl (entryFails.fails unwritable)))
  have entryTaken := ruleReader_chars spelled.readsBack entry entryWritable
  refine ⟨entryWritable, ?_⟩
  rw [← Bool.not_eq_false]
  intro unwritable
  exact readable (readProgram_fails skipped (.inr ⟨⟨entryTaken, entryFails.shallow⟩, exitFails.fails unwritable⟩))

end Programs

end PaperTrading
