/-
Module: PaperTrading.Proofs.Rule.Rereading
Purpose: A rule that was read from a text is printed and read again, just if its numbers are finite.
Main exports: Rule.numbers, RuleText.isWritable_iff, RuleText.failsUnlessWritable, Program.rule_reread
-/
import PaperTrading.Proofs.Arithmetic.Saturated
import PaperTrading.Proofs.Grammar.Programs

namespace PaperTrading

open Grammar

section Numbers

variable {β : Type}

/-- The numbers of an operand, from left to right. -/
def Operand.numbers : Operand β → List β
  | .column _ => []
  | .constant value => [value]
  | .abs inner | .round inner => inner.numbers
  | .min first second | .max first second => first.numbers ++ second.numbers
  | .scaled inner factor => inner.numbers ++ [factor]

mutual

/-- The numbers of a rule, from left to right, without the days of warm-ups. -/
def Rule.numbers : Rule β → List β
  | .compare _ left right => left.numbers ++ right.numbers
  | .all rules | .any rules => Rule.numbersOfAll rules
  | .warmup _ => []
  | .stopLoss percent | .takeProfit percent => [percent]

/-- The numbers of some rules. -/
def Rule.numbersOfAll : List (Rule β) → List β
  | [] => []
  | rule :: rest => rule.numbers ++ Rule.numbersOfAll rest

end

end Numbers

section Writable

variable {α : Type} [Arithmetic α]

theorem Operand.isWritable_iff (operand : Operand α) :
    operand.isWritable = true ↔ ∀ x ∈ operand.numbers, Arithmetic.isFinite x = true := by
  induction operand with
  | column source => simp [isWritable, numbers]
  | constant value => simp [isWritable, numbers]
  | abs inner ih | round inner ih => simpa only [isWritable, numbers] using ih
  | min first second ihFirst ihSecond | max first second ihFirst ihSecond =>
      simp only [isWritable, numbers, Bool.and_eq_true, List.forall_mem_append, ihFirst, ihSecond]
  | scaled inner factor ih =>
      simp only [isWritable, numbers, Bool.and_eq_true, List.forall_mem_append, List.forall_mem_singleton, ih]

end Writable

namespace Grammar

variable {α : Type} [Arithmetic α] [Legible α]

theorem RulesText.two_le_length {rules : List (Rule α)} {text rest : List Char} (found : RulesText rules text rest) :
    2 ≤ rules.length := by
  cases found
  simp

section Writable

mutual

/-- A rule of the grammar is writable if its numbers are finite: its percentages are not negative, its warm-ups have
64 bits and its combinations join two rules at least in any case. -/
theorem RuleText.isWritable_iff : ∀ {rule : Rule α} {text rest : List Char}, RuleText rule text rest →
    (rule.isWritable = true ↔ ∀ x ∈ rule.numbers, Arithmetic.isFinite x = true)
  | .compare _ left right, _, _, .compare _ _ => by
      simp only [Rule.isWritable, Rule.numbers, Bool.and_eq_true, List.forall_mem_append, Operand.isWritable_iff]
  | .all rules, _, _, .all _ inside | .any rules, _, _, .any _ inside => by
      simp only [Rule.isWritable, Rule.numbers, Bool.and_eq_true, decide_eq_true_eq, inside.two_le_length, true_and,
        inside.areWritable_iff]
  | .warmup days, _, _, .warmup _ inside => by
      obtain ⟨_, _, _, ⟨_, _, _, _, _, small⟩, _⟩ := inside
      simp [Rule.isWritable, Rule.numbers, Nat.le_sub_one_of_lt small, largestInteger]
  | .stopLoss percent, _, _, .stopLoss _ inside | .takeProfit percent, _, _, .takeProfit _ inside => by
      obtain ⟨_, _, _, _, _, _, _, notNegative⟩ := inside
      simp [Rule.isWritable, Rule.numbers, notNegative]

theorem RulesText.areWritable_iff : ∀ {rules : List (Rule α)} {text rest : List Char}, RulesText rules text rest →
    (Rule.areWritable rules = true ↔ ∀ x ∈ Rule.numbersOfAll rules, Arithmetic.isFinite x = true)
  | _, _, _, .mk _ one more => by
      rw [Rule.areWritable, Rule.numbersOfAll, Bool.and_eq_true, List.forall_mem_append, one.isWritable_iff,
        more.areWritable_iff]

theorem MoreRulesText.areWritable_iff : ∀ {rules : List (Rule α)} {text rest : List Char},
    MoreRulesText rules text rest →
    (Rule.areWritable rules = true ↔ ∀ x ∈ Rule.numbersOfAll rules, Arithmetic.isFinite x = true)
  | _, _, _, .close _ => by
      simp [Rule.areWritable, Rule.numbersOfAll]
  | _, _, _, .comma _ one more => by
      rw [Rule.areWritable, Rule.numbersOfAll, Bool.and_eq_true, List.forall_mem_append, one.isWritable_iff,
        more.areWritable_iff]

end

end Writable

section Failures

mutual

/-- A rule of the grammar that has a number out of range is misread at one. -/
theorem RuleText.failsUnlessWritable (spelled : SpelledOut α) : ∀ {rule : Rule α} {text rest : List Char},
    RuleText rule text rest → ∀ {levels : Nat}, rule.nesting ≤ levels → rule.FailsUnlessWritable levels
  | rule, _, _, _, 0, shallow => absurd rule.nesting_pos (Nat.not_lt_of_le shallow)
  | .compare comparison _ _, _, _, .compare _ _, _ + 1, shallow =>
      .compare spelled comparison (Nat.le_of_succ_le_succ shallow)
  | .all _, _, _, .all _ inside, _ + 1, shallow =>
      .all spelled inside.two_le_length (inside.failsUnlessWritable spelled (Nat.le_of_succ_le_succ shallow))
  | .any _, _, _, .any _ inside, _ + 1, shallow =>
      .any spelled inside.two_le_length (inside.failsUnlessWritable spelled (Nat.le_of_succ_le_succ shallow))
  | .warmup _, _, _, found@(.warmup _ _), _ + 1, shallow =>
      .of_writable (found.isWritable_iff.2 fun _ member => absurd member List.not_mem_nil) shallow
  | .stopLoss percent, _, _, .stopLoss _ _, _ + 1, _ => .stopLoss spelled percent
  | .takeProfit percent, _, _, .takeProfit _ _, _ + 1, _ => .takeProfit spelled percent

theorem RulesText.failsUnlessWritable (spelled : SpelledOut α) : ∀ {rules : List (Rule α)} {text rest : List Char},
    RulesText rules text rest → ∀ {levels : Nat}, Rule.deepest rules ≤ levels →
      ∀ rule ∈ rules, rule.FailsUnlessWritable levels
  | _, _, _, .mk _ one more, _, shallow => by
      obtain ⟨here, later⟩ := Nat.max_le.1 shallow
      exact List.forall_mem_cons.2 ⟨one.failsUnlessWritable spelled here, more.failsUnlessWritable spelled later⟩

theorem MoreRulesText.failsUnlessWritable (spelled : SpelledOut α) : ∀ {rules : List (Rule α)} {text rest : List Char},
    MoreRulesText rules text rest → ∀ {levels : Nat}, Rule.deepest rules ≤ levels →
      ∀ rule ∈ rules, rule.FailsUnlessWritable levels
  | _, _, _, .close _, _, _ => fun _ member => absurd member List.not_mem_nil
  | _, _, _, .comma _ one more, _, shallow => by
      obtain ⟨here, later⟩ := Nat.max_le.1 shallow
      exact List.forall_mem_cons.2 ⟨one.failsUnlessWritable spelled here, more.failsUnlessWritable spelled later⟩

end

end Failures

end Grammar

section Programs

variable {α : Type} [Arithmetic α] [Legible α] {side : Side} {rule : Rule α}

theorem readProgram_assignment :
    readProgram (Rule.assignment side rule).toList =
      readAssignment (⟨none, none⟩ : Program α) (assignmentChars side rule ++ ['\n']) >>= fun (program, rest) =>
        readAssignments 2 program rest := by
  rw [Rule.toList_assignment, readProgram]
  exact readAssignments_step 2 ⟨none, none⟩ side rule Trivia.nil ['\n']

/-- A rule that is read back from its text is read from its assignment. -/
theorem Program.read_assignment (taken : rule.ReadBack) (shallow : rule.nesting ≤ deepestNesting) :
    Program.read (Rule.assignment side rule) = .ok ((⟨none, none⟩ : Program α).set rule side) := by
  have assigned := readAssignment_chars ⟨none, none⟩ side (Program.get_none side) taken shallow []
  rw [Program.read, readProgram_assignment, assigned]
  rfl

theorem Program.read_assignment_fails {kind : TextProblem → Prop} (failed : rule.FailsWithin deepestNesting kind) :
    ∃ problem position, kind problem ∧
      Program.read (α := α) (Rule.assignment side rule) = .error ⟨problem, position⟩ := by
  have misread := readAssignment_fails ⟨none, none⟩ side (Program.get_none side) failed ['\n']
  obtain ⟨problem, rest, of_kind, stopped⟩ := misread
  rw [Program.read, readProgram_assignment, stopped]
  exact ⟨problem, _, of_kind, rfl⟩

/-- A rule of the grammar with finite numbers is read from its own text. -/
theorem Program.reread (legible : ReadsBack α) {text rest : List Char} (found : RuleText rule text rest)
    (shallow : rule.nesting ≤ deepestNesting) (finite : ∀ x ∈ rule.numbers, Arithmetic.isFinite x = true) :
    Program.read (Rule.assignment side rule) = .ok ((⟨none, none⟩ : Program α).set rule side) :=
  Program.read_assignment (ruleReader_chars legible rule (found.isWritable_iff.2 finite)) shallow

variable (side) in
/-- If one of its numbers is not finite, its own text is refused at a number. -/
theorem Program.reread_fails (spelled : SpelledOut α) {text rest : List Char} (found : RuleText rule text rest)
    (shallow : rule.nesting ≤ deepestNesting) (unbounded : ∃ x ∈ rule.numbers, Arithmetic.isFinite x = false) :
    ∃ problem position, problem.IsAboutNumber ∧
      Program.read (α := α) (Rule.assignment side rule) = .error ⟨problem, position⟩ := by
  obtain ⟨x, member, unbounded⟩ := unbounded
  apply Program.read_assignment_fails
  apply (found.failsUnlessWritable spelled shallow).fails
  rw [← Bool.not_eq_true, found.isWritable_iff]
  intro finite
  rw [finite x member] at unbounded
  cases unbounded

/-- A rule that was read from a text is read again from its own text, as the same rule, if its numbers are finite.
If one is not, the text of the rule is refused at a number. -/
theorem Program.rule_reread (spelled : SpelledOut α) {source : String} {program : Program α}
    (read : Program.read source = .ok program) (assigned : program.get side = some rule) :
    ((∀ x ∈ rule.numbers, Arithmetic.isFinite x = true) →
      Program.read (Rule.assignment side rule) = .ok ((⟨none, none⟩ : Program α).set rule side)) ∧
    ((∃ x ∈ rule.numbers, Arithmetic.isFinite x = false) →
      ∃ problem position, problem.IsAboutNumber ∧
        Program.read (α := α) (Rule.assignment side rule) = .error ⟨problem, position⟩) := by
  obtain ⟨shallow, start, stop, -, found⟩ := Program.ruleText_of_read read assigned
  exact ⟨Program.reread spelled.readsBack found shallow, Program.reread_fails side spelled found shallow⟩

end Programs

section Trial

namespace Saturated

/-- A text with a threshold of ten million, which is out of range. -/
def outOfRange : String :=
  "entry_condition = ABOVE(rsi_14, 10000000)\nexit_condition = STOP_LOSS(7.5)\n"

/-- The rule for its entries. -/
def outOfRangeEntry : Rule Saturated :=
  .compare .above (.column .rsi14) (.constant ⟨⟨limit⟩⟩)

/-- The rule for its exits. -/
def outOfRangeExit : Rule Saturated :=
  .stopLoss ⟨⟨750⟩⟩

/-- Whether the two rules, and no others, are what was read. -/
def isOutOfRangeRead : Except ParseError (Program Saturated) → Bool
  | .ok ⟨some (.compare .above (.column .rsi14) (.constant threshold)), some (.stopLoss percent)⟩ =>
    threshold = ⟨⟨limit⟩⟩ && percent = ⟨⟨750⟩⟩
  | _ => false

theorem eq_of_isOutOfRangeRead {result : Except ParseError (Program Saturated)} (same : isOutOfRangeRead result = true) :
    result = .ok ⟨some outOfRangeEntry, some outOfRangeExit⟩ := by
  unfold isOutOfRangeRead at same
  split at same
  case h_1 threshold percent =>
    rw [Bool.and_eq_true, decide_eq_true_iff, decide_eq_true_iff] at same
    rw [same.1, same.2]
    rfl
  case h_2 => cases same

theorem read_outOfRange : Program.read outOfRange = .ok ⟨some outOfRangeEntry, some outOfRangeExit⟩ :=
  eq_of_isOutOfRangeRead (by decide +kernel)

/-- The one rule is read again, the other is not. -/
theorem outOfRange_reread :
    Program.read (Rule.assignment .exit outOfRangeExit) = .ok ⟨none, some outOfRangeExit⟩ ∧
      ∃ problem position, problem.IsAboutNumber ∧
        Program.read (α := Saturated) (Rule.assignment .entry outOfRangeEntry) = .error ⟨problem, position⟩ := by
  have exit : (⟨some outOfRangeEntry, some outOfRangeExit⟩ : Program Saturated).get .exit = some outOfRangeExit := rfl
  have entry : (⟨some outOfRangeEntry, some outOfRangeExit⟩ : Program Saturated).get .entry = some outOfRangeEntry := rfl
  exact ⟨(Program.rule_reread spelledOut read_outOfRange exit).1 (by decide),
    (Program.rule_reread spelledOut read_outOfRange entry).2 (by decide)⟩

/-- A text is read as a rule whose own text is not read. -/
theorem outOfRangeEntry_not_reread :
    ∃ program : Program Saturated, Program.read outOfRange = .ok program ∧
      program.get .entry = some outOfRangeEntry ∧
      ∀ other : Program Saturated, Program.read (Rule.assignment .entry outOfRangeEntry) ≠ .ok other := by
  refine ⟨_, read_outOfRange, rfl, ?_⟩
  intro other same
  have printed : Rule.assignment .entry outOfRangeEntry = "entry_condition = ABOVE(rsi_14, inf)\n" := by
    decide +kernel
  have refused : (Program.read (α := Saturated) "entry_condition = ABOVE(rsi_14, inf)\n").isOk = false := by
    decide +kernel
  rw [printed] at same
  rw [same] at refused
  cases refused

end Saturated

end Trial

end PaperTrading
