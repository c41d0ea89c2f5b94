/-
Module: PaperTrading.Proofs.Grammar.Rules
Purpose: The reader of rules takes exactly the rules of the grammar that are nested within its levels.
Main exports: ruleText_of_ruleReader, RuleText.ruleReader_eq, RuleText.unique
-/
import PaperTrading.Proofs.Grammar.Operands

namespace PaperTrading.Grammar

section Suffixes

variable {α : Type} [Legible α]

mutual

/-- What is left behind an operand is left of the whole text. -/
theorem OperandText.isSuffix : ∀ {operand : Operand α} {text rest : List Char}, OperandText operand text rest →
    rest <:+ text
  | _, _, _, .column name => name.isSuffix
  | _, _, _, .constant number => number.isSuffix
  | _, _, _, .abs keyword inside | _, _, _, .round keyword inside => inside.isSuffix.trans keyword.isSuffix
  | _, _, _, .min keyword inside | _, _, _, .max keyword inside => inside.isSuffix.trans keyword.isSuffix
  | _, _, _, .scaled operand star number => number.isSuffix.trans (star.isSuffix.trans operand.isSuffix)

theorem OneOperand.isSuffix : ∀ {operand : Operand α} {text rest : List Char}, OneOperand operand text rest →
    rest <:+ text
  | _, _, _, .mk opening inside closing => closing.isSuffix.trans (inside.isSuffix.trans opening.isSuffix)

theorem TwoOperands.isSuffix : ∀ {first second : Operand α} {text rest : List Char},
    TwoOperands first second text rest → rest <:+ text
  | _, _, _, _, .mk opening one comma two closing =>
      closing.isSuffix.trans (two.isSuffix.trans (comma.isSuffix.trans (one.isSuffix.trans opening.isSuffix)))

end

variable [Arithmetic α]

theorem PercentText.isSuffix {percent : α} {text rest : List Char} (found : PercentText percent text rest) :
    rest <:+ text := by
  obtain ⟨n, start, stop, opening, number, closing, -, -⟩ := found
  exact closing.isSuffix.trans (number.isSuffix.trans opening.isSuffix)

theorem DaysText.isSuffix {days : Nat} {text rest : List Char} (found : DaysText days text rest) :
    rest <:+ text := by
  obtain ⟨start, stop, opening, integer, closing⟩ := found
  exact closing.isSuffix.trans (integer.isSuffix.trans opening.isSuffix)

mutual

/-- What is left behind a rule is left of the whole text. -/
theorem RuleText.isSuffix : ∀ {rule : Rule α} {text rest : List Char}, RuleText rule text rest → rest <:+ text
  | _, _, _, .compare keyword inside => inside.isSuffix.trans keyword.isSuffix
  | _, _, _, .all keyword inside | _, _, _, .any keyword inside => inside.isSuffix.trans keyword.isSuffix
  | _, _, _, .warmup keyword inside => inside.isSuffix.trans keyword.isSuffix
  | _, _, _, .stopLoss keyword inside | _, _, _, .takeProfit keyword inside =>
      inside.isSuffix.trans keyword.isSuffix

theorem RulesText.isSuffix : ∀ {rules : List (Rule α)} {text rest : List Char}, RulesText rules text rest →
    rest <:+ text
  | _, _, _, .mk opening one more => more.isSuffix.trans (one.isSuffix.trans opening.isSuffix)

theorem MoreRulesText.isSuffix : ∀ {rules : List (Rule α)} {text rest : List Char},
    MoreRulesText rules text rest → rest <:+ text
  | _, _, _, .close closing => closing.isSuffix
  | _, _, _, .comma comma one more => more.isSuffix.trans (one.isSuffix.trans comma.isSuffix)

end

/-- Every rule of a list has its comma. -/
theorem MoreRulesText.length_add_le : ∀ {rules : List (Rule α)} {text rest : List Char},
    MoreRulesText rules text rest → rules.length + rest.length ≤ text.length
  | _, _, _, .close closing => by
      have := closing.length_lt
      simp only [List.length_nil]
      omega
  | _, _, _, .comma divided one more => by
      have := divided.length_lt
      have := one.isSuffix.length_le
      have := more.length_add_le
      simp only [List.length_cons]
      omega

end Suffixes

variable {α : Type} [Legible α] [Arithmetic α] {text rest : List Char}

section Arguments

variable {percent : α} {days : Nat} {keyword : String}

theorem percentText_of_readPercent (read : readPercent keyword text = .ok (percent, rest)) :
    PercentText percent text rest := by
  obtain ⟨start, opening, read⟩ := bind_eq_ok.1 read
  obtain ⟨⟨value, stop⟩, number, read⟩ := bind_eq_ok.1 read
  simp only at read
  split at read
  case isTrue => cases read
  case isFalse notNegative =>
    obtain ⟨closed, closing, result⟩ := bind_eq_ok.1 read
    cases result
    obtain ⟨n, rfl, spelled⟩ := number_of_readNumber number
    exact ⟨n, start, stop, skipCharacter_eq_ok.1 opening, spelled,
      skipCharacter_eq_ok.1 closing, rfl, Bool.eq_false_iff.2 notNegative⟩

theorem PercentText.readPercent_eq (found : PercentText percent text rest) (keyword : String) :
    readPercent keyword text = .ok (percent, rest) := by
  obtain ⟨n, start, stop, opening, number, closing, rfl, notNegative⟩ := found
  apply bind_eq_ok.2 ⟨start, skipCharacter_eq_ok.2 opening, ?_⟩
  apply bind_eq_ok.2 ⟨(Legible.ofNumeral n, stop), number.readNumber_eq closing.endsToken, ?_⟩
  simp only [notNegative, Bool.false_eq_true, if_false]
  exact bind_eq_ok.2 ⟨rest, skipCharacter_eq_ok.2 closing, rfl⟩

end Arguments

section Soundness

/-- A reader takes nothing but rules of the grammar. -/
def TakesRules (levels : Nat) (reader : Reader (Rule α)) : Prop :=
  ∀ {text rule rest}, reader text = .ok (rule, rest) → RuleText rule text rest ∧ rule.nesting ≤ levels

variable {levels : Nat} {inner : Reader (Rule α)} {rules : List (Rule α)}

theorem moreRulesText_of_readMoreRules (takes : TakesRules levels inner) {rounds : Nat}
    (read : readMoreRules inner rounds text = .ok (rules, rest)) :
    MoreRulesText rules text rest ∧ Rule.deepest rules ≤ levels := by
  induction rounds generalizing text rules with
  | zero => cases read
  | succ rounds ih =>
      rw [readMoreRules] at read
      split at read
      case h_1 others closing =>
        cases read
        exact ⟨.close (Mark.iff_trimStart.2 closing), Nat.zero_le levels⟩
      case h_2 =>
        obtain ⟨next, comma, read⟩ := bind_eq_ok.1 read
        obtain ⟨⟨rule, middle⟩, one, read⟩ := bind_eq_ok.1 read
        obtain ⟨⟨others, stop⟩, more, result⟩ := bind_eq_ok.1 read
        cases result
        obtain ⟨spelled, shallow⟩ := takes one
        obtain ⟨othersSpelled, othersShallow⟩ := ih more
        have divided : Mark .comma text next :=
          .of_blanks (Blanks.trimStart text) (skipCharacter_eq_ok.1 comma)
        exact ⟨.comma divided spelled othersSpelled, Nat.max_le.2 ⟨shallow, othersShallow⟩⟩

theorem rulesText_of_readRules {keyword : String} (takes : TakesRules levels inner)
    (read : readRules keyword inner text = .ok (rules, rest)) :
    RulesText rules text rest ∧ Rule.deepest rules ≤ levels := by
  obtain ⟨start, opening, read⟩ := bind_eq_ok.1 read
  obtain ⟨⟨first, middle⟩, one, read⟩ := bind_eq_ok.1 read
  obtain ⟨⟨others, stop⟩, more, read⟩ := bind_eq_ok.1 read
  simp only at read
  split at read
  case isTrue => cases read
  case isFalse nonempty =>
    cases read
    obtain ⟨spelled, shallow⟩ := takes one
    obtain ⟨othersSpelled, othersShallow⟩ := moreRulesText_of_readMoreRules takes more
    have opened : Mark .opening text start := skipCharacter_eq_ok.1 opening
    cases others with
    | nil => exact absurd rfl nonempty
    | cons second others => exact ⟨.mk opened spelled othersSpelled, Nat.max_le.2 ⟨shallow, othersShallow⟩⟩

/-- What is read as a rule is one, and its levels are within those given. -/
theorem ruleText_of_ruleReader (levels : Nat) : TakesRules levels (ruleReader (α := α) levels) := by
  induction levels with
  | zero => exact fun read => nomatch read
  | succ levels ih =>
      intro text rule rest read
      simp only [ruleReader] at read
      generalize taken : splitWord (Text.trimStart text) = parts at read
      obtain ⟨word, argument⟩ := parts
      have keyword : Word word text argument := .of_blanks (Blanks.trimStart text) (.of_splitWord taken)
      simp only at read
      split at read
      case h_1 comparison named =>
        obtain ⟨⟨⟨left, right⟩, next⟩, two, result⟩ := map_eq_ok.1 read
        cases result
        obtain ⟨spelled, shallow⟩ := twoOperands_of_readTwo (operandText_of_operandReader levels) two
        rw [← Comparison.keyword_of_ofKeyword? named] at keyword
        exact ⟨.compare keyword spelled, Nat.succ_le_succ shallow⟩
      case h_2 =>
        split at read
        case h_1 | h_2 =>
          obtain ⟨⟨rules, next⟩, list, result⟩ := map_eq_ok.1 read
          cases result
          obtain ⟨spelled, shallow⟩ := rulesText_of_readRules ih list
          refine ⟨?_, Nat.succ_le_succ shallow⟩
          constructor
          · exact keyword
          · exact spelled
        case h_3 | h_4 =>
          obtain ⟨⟨percent, next⟩, percentage, result⟩ := map_eq_ok.1 read
          cases result
          refine ⟨?_, Nat.le_add_left 1 levels⟩
          constructor
          · exact keyword
          · exact percentText_of_readPercent percentage
        case h_5 =>
          obtain ⟨start, opening, read⟩ := bind_eq_ok.1 read
          obtain ⟨⟨days, stop⟩, integer, read⟩ := bind_eq_ok.1 read
          obtain ⟨closed, closing, result⟩ := bind_eq_ok.1 read
          cases result
          refine ⟨.warmup keyword ?_, Nat.le_add_left 1 levels⟩
          exact ⟨start, stop, skipCharacter_eq_ok.1 opening, integer_of_readInteger integer,
            skipCharacter_eq_ok.1 closing⟩
        case h_6 => cases read

end Soundness

theorem RuleText.of_blanks {rule : Rule α} {middle : List Char} (blanks : Blanks text middle)
    (spelled : RuleText rule middle rest) : RuleText rule text rest := by
  cases spelled with
  | compare keyword inside => exact .compare (keyword.of_blanks blanks) inside
  | all keyword inside => exact .all (keyword.of_blanks blanks) inside
  | any keyword inside => exact .any (keyword.of_blanks blanks) inside
  | warmup keyword inside => exact .warmup (keyword.of_blanks blanks) inside
  | stopLoss keyword inside => exact .stopLoss (keyword.of_blanks blanks) inside
  | takeProfit keyword inside => exact .takeProfit (keyword.of_blanks blanks) inside

section Completeness

namespace Word

variable {argument : List Char} (levels : Nat)

theorem ruleReader_compare {comparison : Comparison} (found : Word comparison.keyword text argument) :
    ruleReader (α := α) (levels + 1) text =
      (readTwo (operandReader levels) argument).map fun ((left, right), rest) =>
        (.compare comparison left right, rest) := by
  have isName : IsName comparison.keyword := by
    cases comparison <;> decide
  simp only [ruleReader, found.splitWord_eq isName, Comparison.ofKeyword?_keyword]

theorem ruleReader_all (found : Word "AND" text argument) :
    ruleReader (α := α) (levels + 1) text =
      (readRules "AND" (ruleReader levels) argument).map fun (rules, rest) => (.all rules, rest) := by
  have isName : IsName "AND" := by decide
  simp only [ruleReader, found.splitWord_eq isName]
  rfl

theorem ruleReader_any (found : Word "OR" text argument) :
    ruleReader (α := α) (levels + 1) text =
      (readRules "OR" (ruleReader levels) argument).map fun (rules, rest) => (.any rules, rest) := by
  have isName : IsName "OR" := by decide
  simp only [ruleReader, found.splitWord_eq isName]
  rfl

theorem ruleReader_stopLoss (found : Word "STOP_LOSS" text argument) :
    ruleReader (α := α) (levels + 1) text =
      (readPercent "STOP_LOSS" argument).map fun (percent, rest) => (.stopLoss percent, rest) := by
  have isName : IsName "STOP_LOSS" := by decide
  simp only [ruleReader, found.splitWord_eq isName]
  rfl

theorem ruleReader_takeProfit (found : Word "TAKE_PROFIT" text argument) :
    ruleReader (α := α) (levels + 1) text =
      (readPercent "TAKE_PROFIT" argument).map fun (percent, rest) => (.takeProfit percent, rest) := by
  have isName : IsName "TAKE_PROFIT" := by decide
  simp only [ruleReader, found.splitWord_eq isName]
  rfl

theorem ruleReader_warmup (found : Word "WARMUP" text argument) {days : Nat} (inside : DaysText days argument rest) :
    ruleReader (α := α) (levels + 1) text = .ok (.warmup days, rest) := by
  have isName : IsName "WARMUP" := by decide
  obtain ⟨start, stop, opening, integer, closing⟩ := inside
  simp only [ruleReader, found.splitWord_eq isName]
  apply bind_eq_ok.2 ⟨start, skipCharacter_eq_ok.2 opening, ?_⟩
  apply bind_eq_ok.2 ⟨(days, stop), integer.readInteger_eq closing.endsToken, ?_⟩
  exact bind_eq_ok.2 ⟨rest, skipCharacter_eq_ok.2 closing, rfl⟩

end Word

mutual

/-- A rule of the grammar is read within as many levels as it has. -/
theorem RuleText.ruleReader_eq : ∀ {rule : Rule α} {text rest : List Char}, RuleText rule text rest →
    ∀ {levels : Nat}, rule.nesting ≤ levels → ruleReader levels text = .ok (rule, rest)
  | rule, _, _, _, 0, shallow => absurd shallow (Nat.not_le_of_gt rule.nesting_pos)
  | _, _, _, .compare keyword inside, levels + 1, shallow => by
      rw [keyword.ruleReader_compare, inside.readTwo_eq (Nat.le_of_succ_le_succ shallow)]
      rfl
  | _, _, _, .all keyword inside, levels + 1, shallow => by
      rw [keyword.ruleReader_all, inside.readRules_eq _ (Nat.le_of_succ_le_succ shallow)]
      rfl
  | _, _, _, .any keyword inside, levels + 1, shallow => by
      rw [keyword.ruleReader_any, inside.readRules_eq _ (Nat.le_of_succ_le_succ shallow)]
      rfl
  | _, _, _, .warmup keyword inside, levels + 1, _ => keyword.ruleReader_warmup levels inside
  | _, _, _, .stopLoss keyword inside, levels + 1, _ => by
      rw [keyword.ruleReader_stopLoss, inside.readPercent_eq]
      rfl
  | _, _, _, .takeProfit keyword inside, levels + 1, _ => by
      rw [keyword.ruleReader_takeProfit, inside.readPercent_eq]
      rfl

theorem RulesText.readRules_eq : ∀ {rules : List (Rule α)} {text rest : List Char}, RulesText rules text rest →
    ∀ (keyword : String) {levels : Nat}, Rule.deepest rules ≤ levels →
      readRules keyword (ruleReader levels) text = .ok (rules, rest)
  | _, _, _, .mk opening one more, keyword, levels, shallow => by
      obtain ⟨firstShallow, othersShallow⟩ := Nat.max_le.1 shallow
      have first := one.ruleReader_eq firstShallow
      have others := more.readMoreRules_eq othersShallow
        (Nat.lt_succ_of_le (Nat.le_of_add_right_le more.length_add_le))
      apply bind_eq_ok.2 ⟨_, skipCharacter_eq_ok.2 opening, ?_⟩
      apply bind_eq_ok.2 ⟨_, first, ?_⟩
      exact bind_eq_ok.2 ⟨_, others, rfl⟩

theorem MoreRulesText.readMoreRules_eq : ∀ {rules : List (Rule α)} {text rest : List Char},
    MoreRulesText rules text rest → ∀ {levels rounds : Nat}, Rule.deepest rules ≤ levels → rules.length < rounds →
      readMoreRules (ruleReader levels) rounds text = .ok (rules, rest)
  | _, _, _, .close closing, levels, rounds + 1, _, _ => by
      simp [readMoreRules, Mark.iff_trimStart.1 closing, Punctuation.char]
  | _, _, _, .comma comma one more, levels, rounds + 1, shallow, enough => by
      obtain ⟨ruleShallow, othersShallow⟩ := Nat.max_le.1 shallow
      have start := Mark.iff_trimStart.1 comma
      have rule := one.ruleReader_eq ruleShallow
      have others := more.readMoreRules_eq othersShallow (Nat.lt_of_succ_lt_succ enough)
      simp [readMoreRules, start, Punctuation.char, rule, others, bind, Except.bind]

end

/-- A text begins with one rule at most. -/
theorem RuleText.unique {first second : Rule α} {other : List Char} (one : RuleText first text rest)
    (two : RuleText second text other) : first = second ∧ rest = other := by
  have firstRead := one.ruleReader_eq (Nat.le_max_left first.nesting second.nesting)
  have secondRead := two.ruleReader_eq (Nat.le_max_right first.nesting second.nesting)
  rw [firstRead] at secondRead
  exact Prod.mk.inj (Except.ok.inj secondRead)

end Completeness

end PaperTrading.Grammar
