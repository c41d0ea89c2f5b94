/-
Module: PaperTrading.Proofs.Rule.RuleText
Purpose: Rules are read back from their text, exactly when they are nested within the levels given.
Main exports: Rule.spelled_chars, Rule.ReadBack, Rule.Refused, Rule.FailsWithin, ruleReader_chars, ruleReader_tooDeep
-/
import PaperTrading.Proofs.Grammar.Rules
import PaperTrading.Proofs.Rule.OperandText

namespace PaperTrading

open Grammar

section Lists

variable {α : Type} {inner : Reader (Rule α)} {text middle rest : List Char}
variable {rounds : Nat} {rule : Rule α} {rules : List (Rule α)}

theorem readMoreRules_comma :
    readMoreRules inner (rounds + 1) (',' :: text) =
      inner text >>= fun (rule, middle) =>
        readMoreRules inner rounds middle >>= fun (rules, rest) => .ok (rule :: rules, rest) := by
  have start : Text.trimStart (',' :: text) = ',' :: text :=
    Text.trimStart_cons_of_not_blank (by decide) text
  simp [readMoreRules, start, bind, Except.bind]

variable {kind : TextProblem → Prop}

theorem readMoreRules_fails_first (failed : Fails kind (inner text)) :
    Fails kind (readMoreRules inner (rounds + 1) (',' :: text)) := by
  rw [readMoreRules_comma]
  exact failed.bind _

theorem readMoreRules_fails_later (one : inner text = .ok (rule, middle))
    (failed : Fails kind (readMoreRules inner rounds middle)) :
    Fails kind (readMoreRules inner (rounds + 1) (',' :: text)) := by
  rw [readMoreRules_comma, one]
  exact failed.bind _

variable {keyword : String}

theorem readRules_fails_first (failed : Fails kind (inner text)) :
    Fails kind (readRules keyword inner ('(' :: text)) := by
  rw [readRules, skipCharacter_open]
  exact failed.bind _

theorem readRules_fails_later (one : inner text = .ok (rule, middle))
    (failed : Fails kind (readMoreRules inner (middle.length + 1) middle)) :
    Fails kind (readRules keyword inner ('(' :: text)) := by
  simp only [readRules, skipCharacter_open, bind, Except.bind, one]
  exact failed.bind _

end Lists

section Texts

variable {α : Type} [Legible α]

/-- The text of the rules after the first of a list, each behind a comma. -/
def Rule.moreChars : List (Rule α) → List Char
  | [] => []
  | rule :: rest => separator ++ rule.chars ++ Rule.moreChars rest

theorem Rule.listChars_cons (rule : Rule α) (rest : List (Rule α)) :
    Rule.listChars (rule :: rest) = rule.chars ++ Rule.moreChars rest := by
  induction rest generalizing rule with
  | nil => simp [Rule.listChars, Rule.moreChars]
  | cons next rest ih => simp [Rule.listChars, Rule.moreChars, ih]

/-- Reading a list, there are more rounds than rules behind the first one. -/
theorem Rule.length_lt_rounds (rules : List (Rule α)) (rest : List Char) :
    rules.length < (Rule.moreChars rules ++ rest).length + 1 := by
  induction rules with
  | nil => simp
  | cons rule others ih =>
      have : separator.length = 2 := rfl
      simp only [Rule.moreChars, List.length_append, List.length_cons] at ih ⊢
      omega

end Texts

section Spelled

variable {α : Type} [Arithmetic α] [Legible α]

/-- The text of a rule is one that the grammar has for it, whatever follows. -/
def Rule.Spelled (rule : Rule α) : Prop :=
  ∀ rest : List Char, RuleText rule (rule.chars ++ rest) rest

theorem percentText_chars (legible : ReadsBack α) {percent : α} (finite : Arithmetic.isFinite percent = true)
    (notNegative : Arithmetic.lt percent (Arithmetic.whole 0) = false) (rest : List Char) :
    PercentText percent ('(' :: (Legible.chars percent ++ ')' :: rest)) rest := by
  obtain ⟨n, number, value⟩ := legible.exists_number (')' :: rest) finite
  exact ⟨n, _, _, Blanks.refl _, number, Blanks.refl _, value, notNegative⟩

theorem daysText_chars {days : Nat} (small : days ≤ largestInteger) (rest : List Char) :
    DaysText days ('(' :: (Nat.toDigits 10 days ++ ')' :: rest)) rest := by
  have integer : Integer days (Nat.toDigits 10 days ++ ')' :: rest) (')' :: rest) :=
    ⟨Nat.toDigits 10 days, fun _ => Numeral.isDigit_of_mem_toDigits, Nat.toDigits_ne_nil, Blanks.refl _,
      Numeral.digitsValue_toDigits days, Nat.lt_of_le_of_lt small (by decide)⟩
  exact ⟨_, _, Blanks.refl _, integer, Blanks.refl _⟩

variable {rules : List (Rule α)}

theorem moreRulesText_chars (each : ∀ rule ∈ rules, rule.Spelled) (rest : List Char) :
    MoreRulesText rules (Rule.moreChars rules ++ ')' :: rest) rest := by
  induction rules with
  | nil => exact .close (Blanks.refl _)
  | cons rule others ih =>
      obtain ⟨one, more⟩ := List.forall_mem_cons.1 each
      rw [Rule.moreChars, List.append_assoc, List.append_assoc]
      exact .comma (mark_separator _) ((one _).of_blanks (blanks_space _)) (ih more)

theorem rulesText_chars (each : ∀ rule ∈ rules, rule.Spelled) (two : 2 ≤ rules.length) (rest : List Char) :
    RulesText rules ('(' :: (Rule.listChars rules ++ ')' :: rest)) rest := by
  match rules with
  | first :: second :: others =>
      obtain ⟨one, more⟩ := List.forall_mem_cons.1 each
      rw [Rule.listChars_cons, List.append_assoc]
      exact .mk (Blanks.refl _) (one _) (moreRulesText_chars more rest)

mutual

/-- The text of a rule is one that the grammar has for it. -/
theorem Rule.spelled_chars (legible : ReadsBack α) :
    ∀ rule : Rule α, rule.isWritable = true → rule.Spelled
  | .compare comparison left right, writable, rest => by
      simp only [isWritable, Bool.and_eq_true] at writable
      simp only [chars, List.append_assoc, List.singleton_append]
      exact .compare (word_opening _ _) (twoOperands_chars rest (left.spelled_chars legible writable.1)
        (right.spelled_chars legible writable.2))
  | .all rules, writable, rest
  | .any rules, writable, rest => by
      simp only [isWritable, Bool.and_eq_true, decide_eq_true_eq] at writable
      simp only [chars, List.append_assoc, List.singleton_append]
      constructor
      · exact word_opening _ _
      · exact rulesText_chars (Rule.spelled_listChars legible rules writable.2) writable.1 rest
  | .warmup days, writable, rest => by
      simp only [isWritable, decide_eq_true_eq] at writable
      simp only [chars, List.append_assoc, List.singleton_append]
      exact .warmup (word_opening _ _) (daysText_chars writable rest)
  | .stopLoss percent, writable, rest
  | .takeProfit percent, writable, rest => by
      simp only [isWritable, Bool.and_eq_true, Bool.not_eq_true'] at writable
      simp only [chars, List.append_assoc, List.singleton_append]
      constructor
      · exact word_opening _ _
      · exact percentText_chars legible writable.1 writable.2 rest

theorem Rule.spelled_listChars (legible : ReadsBack α) :
    ∀ rules : List (Rule α), Rule.areWritable rules = true → ∀ rule ∈ rules, rule.Spelled
  | [], _, _, member => absurd member List.not_mem_nil
  | first :: others, writable, rule, member => by
      simp only [areWritable, Bool.and_eq_true] at writable
      rcases List.mem_cons.1 member with same | later
      · rw [same]
        exact Rule.spelled_chars legible first writable.1
      · exact Rule.spelled_listChars legible others writable.2 rule later

end

end Spelled

section Rules

variable {α : Type} [Arithmetic α] [Legible α]

/-- The reader takes a rule from its text whenever it has levels enough, whatever follows. -/
def Rule.ReadBack (rule : Rule α) : Prop :=
  ∀ (levels : Nat) (rest : List Char), rule.nesting ≤ levels →
    ruleReader levels (rule.chars ++ rest) = .ok (rule, rest)

/-- The reader refuses a rule with more levels than it has. -/
def Rule.Refused (rule : Rule α) : Prop :=
  ∀ (levels : Nat) (rest : List Char), levels < rule.nesting →
    TooDeep (ruleReader (α := α) levels (rule.chars ++ rest))

theorem ruleReader_space {levels : Nat} (some_level : 0 < levels) (text : List Char) :
    ruleReader (α := α) levels (' ' :: text) = ruleReader levels text := by
  obtain ⟨fewer, rfl⟩ := Nat.exists_eq_add_of_lt some_level
  simp only [ruleReader, Text.trimStart_cons_space]

/-- The reader fails on the text of a rule, whatever follows it. -/
def Rule.FailsWithin (levels : Nat) (kind : TextProblem → Prop) (rule : Rule α) : Prop :=
  ∀ rest : List Char, Fails kind (ruleReader (α := α) levels (rule.chars ++ rest))

theorem Rule.Refused.failsWithin {rule : Rule α} (refused : rule.Refused) {levels : Nat}
    (deep : levels < rule.nesting) : rule.FailsWithin levels (· = .tooDeep) := by
  intro rest
  exact tooDeep_iff_fails.1 (refused levels rest deep)

theorem ruleReader_fails_space {levels : Nat} {kind : TextProblem → Prop} {text : List Char}
    (failed : Fails kind (ruleReader (α := α) levels text)) :
    Fails kind (ruleReader (α := α) levels (' ' :: text)) := by
  cases levels with
  | zero =>
      obtain ⟨problem, rest, of_kind, refused⟩ := failed
      cases refused
      exact ⟨.tooDeep, _, of_kind, rfl⟩
  | succ levels => rwa [ruleReader_space (Nat.succ_pos levels)]

section Keywords

variable (levels : Nat) (rest : List Char)

theorem ruleReader_compare (comparison : Comparison) :
    ruleReader (α := α) (levels + 1) (opening comparison.keyword ++ rest) =
      (readTwo (operandReader levels) ('(' :: rest)).map fun ((left, right), rest) =>
        (.compare comparison left right, rest) :=
  (word_opening rest comparison.keyword).ruleReader_compare levels

theorem ruleReader_all :
    ruleReader (α := α) (levels + 1) (opening "AND" ++ rest) =
      (readRules "AND" (ruleReader levels) ('(' :: rest)).map fun (rules, rest) => (.all rules, rest) :=
  (word_opening rest "AND").ruleReader_all levels

theorem ruleReader_any :
    ruleReader (α := α) (levels + 1) (opening "OR" ++ rest) =
      (readRules "OR" (ruleReader levels) ('(' :: rest)).map fun (rules, rest) => (.any rules, rest) :=
  (word_opening rest "OR").ruleReader_any levels

theorem ruleReader_stopLoss :
    ruleReader (α := α) (levels + 1) (opening "STOP_LOSS" ++ rest) =
      (readPercent "STOP_LOSS" ('(' :: rest)).map fun (percent, rest) => (.stopLoss percent, rest) :=
  (word_opening rest "STOP_LOSS").ruleReader_stopLoss levels

theorem ruleReader_takeProfit :
    ruleReader (α := α) (levels + 1) (opening "TAKE_PROFIT" ++ rest) =
      (readPercent "TAKE_PROFIT" ('(' :: rest)).map fun (percent, rest) => (.takeProfit percent, rest) :=
  (word_opening rest "TAKE_PROFIT").ruleReader_takeProfit levels

end Keywords

section Combinations

variable {levels : Nat} {first : Rule α} {rules : List (Rule α)}

/-- A list of which every rule is read back or fails, and one fails, is misread at the first that does. -/
theorem readMoreRules_fails {kind : TextProblem → Prop}
    (each : ∀ rule ∈ rules, (rule.ReadBack ∧ rule.nesting ≤ levels) ∨ rule.FailsWithin levels kind)
    (one : ∃ rule ∈ rules, rule.FailsWithin levels kind) {rounds : Nat} (enough : rules.length < rounds)
    (rest : List Char) :
    Fails kind (readMoreRules (ruleReader (α := α) levels) rounds (Rule.moreChars rules ++ ')' :: rest)) := by
  induction rules generalizing rounds with
  | nil =>
      obtain ⟨rule, member, -⟩ := one
      exact absurd member List.not_mem_nil
  | cons rule others ih =>
      obtain ⟨fewer, rfl⟩ := Nat.exists_eq_add_of_lt enough
      obtain ⟨here, later⟩ := List.forall_mem_cons.1 each
      rw [Rule.moreChars, List.append_assoc, List.append_assoc]
      by_cases failed : rule.FailsWithin levels kind
      · apply readMoreRules_fails_first
        apply ruleReader_fails_space
        exact failed _
      · obtain ⟨taken, shallow⟩ := here.resolve_right failed
        simp only [List.mem_cons, exists_eq_or_imp] at one
        have some_level : 0 < levels := Nat.lt_of_lt_of_le rule.nesting_pos shallow
        have fewerEnough : others.length < (rule :: others).length + fewer := by
          rw [List.length_cons]
          omega
        have read := taken levels (Rule.moreChars others ++ ')' :: rest) shallow
        rw [← ruleReader_space some_level] at read
        exact readMoreRules_fails_later read (ih later (one.resolve_left failed) fewerEnough)

theorem readRules_fails {kind : TextProblem → Prop} (keyword : String)
    (each : ∀ rule ∈ rules, (rule.ReadBack ∧ rule.nesting ≤ levels) ∨ rule.FailsWithin levels kind)
    (one : ∃ rule ∈ rules, rule.FailsWithin levels kind) (rest : List Char) :
    Fails kind (readRules keyword (ruleReader (α := α) levels)
      ('(' :: (Rule.listChars rules ++ [')'] ++ rest))) := by
  cases rules with
  | nil =>
      obtain ⟨rule, member, -⟩ := one
      exact absurd member List.not_mem_nil
  | cons first others =>
      obtain ⟨here, later⟩ := List.forall_mem_cons.1 each
      simp only [Rule.listChars_cons, List.append_assoc, List.singleton_append]
      by_cases failed : first.FailsWithin levels kind
      · exact readRules_fails_first (failed _)
      · obtain ⟨taken, shallow⟩ := here.resolve_right failed
        simp only [List.mem_cons, exists_eq_or_imp] at one
        have read := taken levels (Rule.moreChars others ++ ')' :: rest) shallow
        exact readRules_fails_later read
          (readMoreRules_fails later (one.resolve_left failed) (Rule.length_lt_rounds others (')' :: rest)) rest)

/-- A list with a rule that is nested too deep is refused for that. -/
theorem readRules_tooDeep (keyword : String) (taken : ∀ rule ∈ rules, rule.ReadBack)
    (refused : ∀ rule ∈ rules, rule.Refused) (deep : levels < Rule.deepest rules)
    (rest : List Char) :
    TooDeep (readRules keyword (ruleReader (α := α) levels)
      ('(' :: (Rule.listChars rules ++ [')'] ++ rest))) := by
  rw [tooDeep_iff_fails]
  apply readRules_fails
  · intro rule member
    rcases Nat.lt_or_ge levels rule.nesting with ruleDeep | shallow
    · exact .inr ((refused rule member).failsWithin ruleDeep)
    · exact .inl ⟨taken rule member, shallow⟩
  · obtain ⟨rule, member, ruleDeep⟩ := (Rule.lt_deepest_iff rules levels).1 deep
    exact ⟨rule, member, (refused rule member).failsWithin ruleDeep⟩

end Combinations

/-- A rule is read back from its text within as many levels as it has. -/
theorem ruleReader_chars (legible : ReadsBack α) (rule : Rule α) (writable : rule.isWritable = true) :
    rule.ReadBack :=
  fun _ rest shallow => (rule.spelled_chars legible writable rest).ruleReader_eq shallow

theorem ruleReader_listChars (legible : ReadsBack α) (rules : List (Rule α)) (writable : Rule.areWritable rules = true) :
    ∀ rule ∈ rules, rule.ReadBack :=
  fun rule member => ruleReader_chars legible rule ((Rule.areWritable_iff rules).1 writable rule member)

mutual

/-- A rule with more levels than the reader has is refused for its nesting. -/
theorem ruleReader_tooDeep (legible : ReadsBack α) :
    ∀ rule : Rule α, rule.isWritable = true → rule.Refused
  | _, _, 0, _, _ => ⟨_, rfl⟩
  | .compare comparison left right, writable, levels + 1, rest, deep => by
      simp only [Rule.isWritable, Bool.and_eq_true] at writable
      have failed := readTwo_operands_tooDeep (operandReader_chars legible left writable.1)
        (operandReader_tooDeep legible left writable.1)
        (operandReader_tooDeep legible right writable.2) (Nat.lt_of_succ_lt_succ deep) rest
      simp only [Rule.chars, List.append_assoc, ruleReader_compare] at failed ⊢
      exact failed.map _
  | .all rules, writable, levels + 1, rest, deep => by
      simp only [Rule.isWritable, Bool.and_eq_true] at writable
      have failed := readRules_tooDeep "AND" (ruleReader_listChars legible rules writable.2)
        (ruleReader_tooDeep_list legible rules writable.2) (Nat.lt_of_succ_lt_succ deep) rest
      simp only [Rule.chars, List.append_assoc, ruleReader_all] at failed ⊢
      exact failed.map _
  | .any rules, writable, levels + 1, rest, deep => by
      simp only [Rule.isWritable, Bool.and_eq_true] at writable
      have failed := readRules_tooDeep "OR" (ruleReader_listChars legible rules writable.2)
        (ruleReader_tooDeep_list legible rules writable.2) (Nat.lt_of_succ_lt_succ deep) rest
      simp only [Rule.chars, List.append_assoc, ruleReader_any] at failed ⊢
      exact failed.map _
  | .warmup _, _, _ + 1, _, deep
  | .stopLoss _, _, _ + 1, _, deep
  | .takeProfit _, _, _ + 1, _, deep => by
      simp [Rule.nesting] at deep

theorem ruleReader_tooDeep_list (legible : ReadsBack α) :
    ∀ rules : List (Rule α), Rule.areWritable rules = true → ∀ rule ∈ rules, rule.Refused
  | [], _, _, member => absurd member List.not_mem_nil
  | first :: others, writable, rule, member => by
      simp only [Rule.areWritable, Bool.and_eq_true] at writable
      rcases List.mem_cons.1 member with same | later
      · rw [same]
        exact ruleReader_tooDeep legible first writable.1
      · exact ruleReader_tooDeep_list legible others writable.2 rule later

end

end Rules

end PaperTrading
