/-
Module: PaperTrading.Proofs.Grammar.Programs
Purpose: Rule text is read exactly if it is a program of the grammar within the deepest nesting, and as that program.
Main exports: Program.IsShallow, programText_of_readAssignments, ProgramText.readAssignments_eq,
  Program.programText_of_read, Program.read_iff_programText, Program.ruleText_of_read
-/
import PaperTrading.Proofs.Grammar.Rules
import PaperTrading.Proofs.Rule.ProgramText

namespace PaperTrading

/-- No rule of the program is nested deeper than rules may be. -/
def Program.IsShallow {α : Type} (program : Program α) : Prop :=
  ∀ side, ∀ rule ∈ program.get side, rule.nesting ≤ deepestNesting

/-- The number of decisions that have no rule yet. -/
def Program.openDecisions {α : Type} (program : Program α) : Nat :=
  [Side.entry, Side.exit].countP fun side => (program.get side).isNone

namespace Program

variable {α : Type} {program : Program α} {side : Side} {rule : Rule α}

theorem get_set_self (program : Program α) (side : Side) (rule : Rule α) :
    (program.set rule side).get side = some rule := by
  cases side <;> rfl

theorem get_none (side : Side) : (⟨none, none⟩ : Program α).get side = none := by
  cases side <;> rfl

theorem get_set_of_ne {other : Side} (differ : other ≠ side) :
    (program.set rule side).get other = program.get other := by
  cases side <;> cases other <;> first | rfl | exact absurd rfl differ

theorem openDecisions_set (rule : Rule α) (free : program.get side = none) :
    (program.set rule side).openDecisions + 1 = program.openDecisions := by
  cases side with
  | entry =>
      have other : (program.set rule .entry).get .exit = program.get .exit := rfl
      simp [openDecisions, List.countP_cons, get_set_self, free, other]
  | exit =>
      have other : (program.set rule .exit).get .entry = program.get .entry := rfl
      simp [openDecisions, List.countP_cons, get_set_self, free, other, Nat.add_comm]

theorem IsShallow.set (shallow : program.IsShallow) (ruleShallow : rule.nesting ≤ deepestNesting) :
    (program.set rule side).IsShallow := by
  intro other assigned found
  by_cases same : other = side
  · subst same
    rw [get_set_self, Option.mem_some_iff] at found
    exact found ▸ ruleShallow
  · rw [get_set_of_ne same] at found
    exact shallow other assigned found

end Program

theorem name_of_sideOfName? {word : String} {side : Side} (named : sideOfName? word = some side) :
    side.name = word := by
  simp only [sideOfName?] at named
  split at named
  case isTrue entry =>
    cases named
    exact entry.symm
  case isFalse =>
    split at named
    case isTrue exit =>
      cases named
      exact exit.symm
    case isFalse => cases named

namespace Grammar

open Text (StopsBefore)

variable {text rest : List Char}

namespace Gap

theorem of_blanks (blanks : Blanks text rest) : Gap text rest := by
  obtain ⟨run, blank, rfl⟩ := blanks
  induction run with
  | nil => exact .none
  | cons c run ih =>
      obtain ⟨here, later⟩ := List.forall_mem_cons.1 blank
      exact .blank here (ih later)

theorem isSuffix (gap : Gap text rest) : rest <:+ text := by
  induction gap with
  | none => exact List.suffix_refl _
  | @blank c text rest blank gap ih => exact ih.trans (List.suffix_cons c text)
  | @comment comment text rest oneLine ended gap ih =>
      exact (ih.trans (List.suffix_append comment text)).trans (List.suffix_cons '#' _)

theorem skipTrivia_eq (gap : Gap text rest) : skipTrivia false text = skipTrivia false rest := by
  induction gap with
  | none => rfl
  | @blank c text rest blank gap ih =>
      have noComment : c ≠ '#' := by
        rintro rfl
        exact absurd blank (by decide)
      simp [skipTrivia, noComment, blank, ih]
  | @comment comment text rest oneLine ended gap ih =>
      show skipTrivia true (comment ++ text) = _
      rw [Trivia.skipTrivia_comment oneLine ended, ih]

/-- What is skipped is a gap; within a comment, it is the rest of the comment and a gap. -/
theorem of_skipTrivia (text : List Char) :
    Gap text (skipTrivia false text) ∧ ∃ comment after, text = comment ++ after ∧ '\n' ∉ comment ∧
      StopsBefore (· != '\n') after ∧ Gap after (skipTrivia true text) := by
  induction text with
  | nil => exact ⟨.none, [], [], rfl, List.not_mem_nil, Text.stopsBefore_nil _, .none⟩
  | cons c text ih =>
      obtain ⟨gap, comment, after, parts, oneLine, ended, gapAfter⟩ := ih
      constructor
      · rw [skipTrivia, if_neg Bool.false_ne_true]
        by_cases hash : c = '#'
        · rw [if_pos hash, hash]
          subst parts
          exact .comment oneLine ended gapAfter
        · rw [if_neg hash]
          by_cases blank : Text.isBlank c = true
          · rw [if_pos blank]
            exact .blank blank gap
          · rw [if_neg blank]
            exact .none
      · rw [skipTrivia, if_pos rfl]
        by_cases lineEnd : c = '\n'
        · subst lineEnd
          exact ⟨[], '\n' :: text, rfl, List.not_mem_nil, by simp, .blank (by decide) gap⟩
        · have within : (c != '\n') = true := bne_iff_ne.2 lineEnd
          rw [within]
          refine ⟨c :: comment, after, by rw [parts, List.cons_append], ?_, ended, gapAfter⟩
          exact List.not_mem_cons_of_ne_of_not_mem (Ne.symm lineEnd) oneLine

end Gap

theorem lineEnd_iff :
    LineEnd text rest ↔ text.dropWhile Text.isInlineBlank = rest ∧ endsAssignment rest = true := by
  have inline : ∀ c, Text.isInlineBlank c = true ↔ c = ' ' ∨ c = '\t' := by
    simp [Text.isInlineBlank]
  have ends : endsAssignment rest = true ↔ ∀ c ∈ rest.head?, c = '\n' ∨ c = '\r' ∨ c = '#' := by
    cases rest <;> simp [endsAssignment, or_assoc]
  rw [ends]
  constructor
  · rintro ⟨run, blank, rfl, ended⟩
    refine ⟨Text.dropWhile_run (fun c member => (inline c).2 (blank c member)) ?_, ended⟩
    intro c head
    rcases ended c head with rfl | rfl | rfl <;> rfl
  · rintro ⟨rfl, ended⟩
    refine ⟨text.takeWhile Text.isInlineBlank, ?_, List.takeWhile_append_dropWhile.symm, ended⟩
    intro c member
    exact (inline c).1 (Text.mem_takeWhile member)

theorem LineEnd.isSuffix (lineEnd : LineEnd text rest) : rest <:+ text := by
  obtain ⟨run, -, rfl, -⟩ := lineEnd
  exact List.suffix_append run rest

theorem Word.skipTrivia_eq {side : Side} (found : Word side.name text rest) :
    skipTrivia false text = side.name.toList ++ rest := by
  rw [(Gap.of_blanks found.1).skipTrivia_eq]
  cases side <;> rfl

section Assignments

variable {α : Type} [Legible α] [Arithmetic α] {program result : Program α} {side : Side} {rule : Rule α}

/-- What is read as an assignment is one, to a decision that has no rule. -/
theorem assignmentText_of_readAssignment (read : readAssignment program text = .ok (result, rest)) :
    ∃ side rule, AssignmentText side rule text rest ∧ program.get side = none ∧ rule.nesting ≤ deepestNesting ∧
      result = program.set rule side := by
  simp only [readAssignment] at read
  generalize taken : splitWord text = parts at read
  obtain ⟨word, name⟩ := parts
  have found : Word word text name := .of_splitWord taken
  simp only at read
  split at read
  case h_1 => cases read
  case h_2 side named =>
    split at read
    case isTrue => cases read
    case isFalse free =>
      obtain ⟨start, equals, read⟩ := bind_eq_ok.1 read
      obtain ⟨⟨rule, stop⟩, value, read⟩ := bind_eq_ok.1 read
      simp only at read
      split at read
      case isFalse => cases read
      case isTrue ended =>
        cases read
        obtain ⟨spelled, shallow⟩ := ruleText_of_ruleReader deepestNesting value
        rw [← name_of_sideOfName? named] at found
        refine ⟨side, rule, ?_, by simpa using free, shallow, rfl⟩
        exact .mk found (skipCharacter_eq_ok.1 equals) spelled (lineEnd_iff.2 ⟨rfl, ended⟩)

theorem AssignmentText.readAssignment_eq (assignment : AssignmentText side rule text rest)
    (free : program.get side = none) (shallow : rule.nesting ≤ deepestNesting) :
    readAssignment program (skipTrivia false text) = .ok (program.set rule side, rest) := by
  obtain ⟨word, equals, value, lineEnd⟩ := assignment
  obtain ⟨dropped, ended⟩ := lineEnd_iff.1 lineEnd
  have inside : side.name.toList.all isNameCharacter = true := by
    cases side <;> decide
  have sign : skipCharacter '=' _ = .ok _ := skipCharacter_eq_ok.2 equals
  rw [word.skipTrivia_eq]
  simp [readAssignment, splitWord_append inside word.2, sideOfName?_name, free, sign, value.ruleReader_eq shallow,
    dropped, ended, bind, Except.bind]

/-- The rule of an assignment is spelled within its text, and what is left of that is left of it. -/
theorem AssignmentText.exists_ruleText (assignment : AssignmentText side rule text rest) :
    rest <:+ text ∧ ∃ start stop, start <:+ text ∧ RuleText rule start stop := by
  obtain ⟨word, equals, value, lineEnd⟩ := assignment
  have start := equals.isSuffix.trans word.isSuffix
  exact ⟨lineEnd.isSuffix.trans (value.isSuffix.trans start), _, _, start, value⟩

end Assignments

section Programs

variable {α : Type} [Legible α] [Arithmetic α] {program result : Program α}

/-- What is read as assignments is a program, if a round is left when every decision has its rule. -/
theorem programText_of_readAssignments {rounds : Nat} (enough : program.openDecisions < rounds)
    (shallow : program.IsShallow) (read : readAssignments rounds program text = .ok result) :
    ProgramText program text result ∧ result.IsShallow := by
  -- Without rounds any text would do, but each assignment fills a decision, so they do not run out.
  induction rounds generalizing program text with
  | zero => exact absurd enough (Nat.not_lt_zero _)
  | succ rounds ih =>
      have gap := (Gap.of_skipTrivia text).1
      rw [readAssignments] at read
      split at read
      case h_1 nothing =>
        cases read
        exact ⟨.done (nothing ▸ gap), shallow⟩
      case h_2 =>
        obtain ⟨⟨next, rest⟩, assigned, more⟩ := bind_eq_ok.1 read
        obtain ⟨side, rule, assignment, free, ruleShallow, rfl⟩ := assignmentText_of_readAssignment assigned
        have fewer := Program.openDecisions_set rule free
        obtain ⟨spelled, resultShallow⟩ := ih (by omega) (shallow.set ruleShallow) more
        exact ⟨.assign gap assignment free spelled, resultShallow⟩

namespace ProgramText

/-- A decision keeps its rule. -/
theorem get_eq {side : Side} {rule : Rule α} (spelled : ProgramText program text result)
    (assigned : program.get side = some rule) : result.get side = some rule := by
  induction spelled with
  | done gap => exact assigned
  | @assign program result other otherRule text start rest gap assignment free more ih =>
      apply ih
      have differ : side ≠ other := by
        rintro rfl
        rw [free] at assigned
        cases assigned
      rw [Program.get_set_of_ne differ, assigned]

/-- A program of the grammar is read, if it is not nested too deep. -/
theorem readAssignments_eq (spelled : ProgramText program text result) (shallow : result.IsShallow) {rounds : Nat}
    (enough : program.openDecisions < rounds) : readAssignments rounds program text = .ok result := by
  induction spelled generalizing rounds with
  | @done program text gap =>
      obtain ⟨fewer, rfl⟩ := Nat.exists_eq_add_of_lt enough
      rw [readAssignments, gap.skipTrivia_eq]
      rfl
  | @assign program result side rule text start rest gap assignment free more ih =>
      obtain ⟨fewer, rfl⟩ := Nat.exists_eq_add_of_lt enough
      have ruleShallow := shallow side rule (more.get_eq (program.get_set_self side rule))
      have assigned := assignment.readAssignment_eq free ruleShallow
      have remaining := Program.openDecisions_set rule free
      have tail := @ih shallow (program.openDecisions + fewer) (by omega)
      rw [readAssignments, gap.skipTrivia_eq]
      cases skipped : skipTrivia false start with
      | nil =>
          rw [skipped] at assigned
          cases assigned
      | cons c more =>
          rw [skipped] at assigned
          simp [assigned, tail, bind, Except.bind]

/-- The rules of a program are those that it began with and those that its text spells. -/
theorem get_cases {side : Side} {rule : Rule α} (spelled : ProgramText program text result)
    (assigned : result.get side = some rule) :
    program.get side = some rule ∨ ∃ start stop, start <:+ text ∧ RuleText rule start stop := by
  induction spelled with
  | done gap => exact .inl assigned
  | @assign program result other otherRule text start rest gap assignment free more ih =>
      obtain ⟨left, first, stop, inside, value⟩ := assignment.exists_ruleText
      rcases ih assigned with before | ⟨_, _, within, found⟩
      · by_cases same : side = other
        · subst same
          rw [Program.get_set_self, Option.some.injEq] at before
          exact .inr ⟨first, stop, inside.trans gap.isSuffix, before ▸ value⟩
        · rw [Program.get_set_of_ne same] at before
          exact .inl before
      · exact .inr ⟨_, _, within.trans (left.trans gap.isSuffix), found⟩

end ProgramText

end Programs

end Grammar

section Texts

variable {α : Type} [Legible α] [Arithmetic α] {source : String}

theorem Program.read_eq_ok_iff {program : Program α} :
    Program.read source = .ok program ↔ readProgram source.toList = .ok program := by
  simp only [Program.read]
  split <;> simp_all

/-- What is read as a program is one, and no rule or operand of it is nested deeper than allowed. -/
theorem Program.programText_of_read {program : Program α} (read : Program.read source = .ok program) :
    Grammar.ProgramText ⟨none, none⟩ source.toList program ∧ program.IsShallow := by
  have shallow : (⟨none, none⟩ : Program α).IsShallow := by
    intro side rule assigned
    rw [Program.get_none] at assigned
    cases assigned
  exact Grammar.programText_of_readAssignments (Nat.lt_succ_self 2) shallow (read_eq_ok_iff.1 read)

/-- A rule of a program that was read is spelled somewhere in the text. -/
theorem Program.ruleText_of_read {program : Program α} {side : Side} {rule : Rule α}
    (read : Program.read source = .ok program) (assigned : program.get side = some rule) :
    rule.nesting ≤ deepestNesting ∧ ∃ start stop, start <:+ source.toList ∧ Grammar.RuleText rule start stop := by
  obtain ⟨spelled, shallow⟩ := programText_of_read read
  refine ⟨shallow side rule assigned, ?_⟩
  rcases spelled.get_cases assigned with nothing | found
  · rw [get_none] at nothing
    cases nothing
  · exact found

end Texts

/-- A text is read as a program exactly if the grammar spells that program with it and no rule or operand is nested
deeper than allowed. -/
theorem Program.read_iff_programText {α : Type} [Legible α] [Arithmetic α] (source : String) (program : Program α) :
    Program.read source = .ok program ↔
      Grammar.ProgramText ⟨none, none⟩ source.toList program ∧ program.IsShallow := by
  constructor
  · exact programText_of_read
  · rintro ⟨spelled, shallow⟩
    exact read_eq_ok_iff.2 (spelled.readAssignments_eq shallow (Nat.lt_succ_self 2))

end PaperTrading
