/-
Module: PaperTrading.Proofs.Rule.ProgramText
Purpose: A pair of assignments is read back from its text, with or without a heading of comments.
Main exports: Trivia, readAssignment_chars, readProgram_fails, Program.read_assignments, Program.read_tooDeep
-/
import PaperTrading.Proofs.Rule.RuleText

namespace PaperTrading

/-- Nothing but blanks and comments, the last of them complete. -/
def Trivia (heading : List Char) : Prop :=
  ∀ text, skipTrivia false (heading ++ text) = skipTrivia false text

namespace Trivia

theorem nil : Trivia [] := by
  intro text
  rfl

theorem append {first second : List Char} (one : Trivia first) (two : Trivia second) :
    Trivia (first ++ second) := by
  intro text
  rw [List.append_assoc, one, two]

theorem newline : Trivia ['\n'] := by
  intro text
  rfl

/-- A comment is skipped up to the end of its line, or of the text. -/
theorem skipTrivia_comment {comment text : List Char} (oneLine : '\n' ∉ comment)
    (ended : Text.StopsBefore (· != '\n') text) :
    skipTrivia true (comment ++ text) = skipTrivia false text := by
  induction comment with
  | nil =>
      cases text with
      | nil => rfl
      | cons c rest =>
          have lineEnd : c = '\n' := by simpa using ended
          rw [lineEnd]
          rfl
  | cons c rest ih =>
      simp only [List.mem_cons, not_or] at oneLine
      have within : (c != '\n') = true := bne_iff_ne.2 (Ne.symm oneLine.1)
      rw [List.cons_append, skipTrivia, if_pos rfl, within]
      exact ih oneLine.2

theorem comment {comment : List Char} (oneLine : '\n' ∉ comment) :
    Trivia ('#' :: (comment ++ ['\n'])) := by
  intro text
  have hash : skipTrivia false ('#' :: (comment ++ '\n' :: text)) =
      skipTrivia true (comment ++ '\n' :: text) := rfl
  have ended : Text.StopsBefore (· != '\n') ('\n' :: text) := by
    simp
  rw [List.cons_append, List.append_assoc, List.singleton_append, hash,
    skipTrivia_comment oneLine ended]
  rfl

end Trivia

section Assignments

variable {α : Type} [Legible α]

/-- The text of an assignment up to its line end. -/
def assignmentChars (side : Side) (rule : Rule α) : List Char :=
  side.name.toList ++ (' ' :: '=' :: ' ' :: rule.chars)

theorem Rule.toList_assignment (side : Side) (rule : Rule α) :
    (Rule.assignment side rule).toList = assignmentChars side rule ++ ['\n'] := by
  have sign : " = ".toList = [' ', '=', ' '] := rfl
  have newline : "\n".toList = ['\n'] := rfl
  simp [Rule.assignment, Rule.text, assignmentChars, sign, newline]

theorem skipTrivia_assignment (side : Side) (rule : Rule α) (rest : List Char) :
    skipTrivia false (assignmentChars side rule ++ rest) = assignmentChars side rule ++ rest := by
  cases side <;> rfl

theorem sideOfName?_name (side : Side) : sideOfName? side.name = some side := by
  cases side <;> decide

theorem splitWord_assignment (side : Side) (rule : Rule α) (rest : List Char) :
    splitWord (assignmentChars side rule ++ rest) =
      (side.name, ' ' :: '=' :: ' ' :: (rule.chars ++ rest)) := by
  have inside : side.name.toList.all isNameCharacter = true := by
    cases side <;> decide
  have stops : Text.StopsBefore isNameCharacter (' ' :: '=' :: ' ' :: (rule.chars ++ rest)) := by
    simp
    decide
  rw [assignmentChars, List.append_assoc]
  exact splitWord_append inside stops

theorem skipCharacter_equals (text : List Char) :
    skipCharacter '=' (' ' :: '=' :: text) = .ok text := by
  rw [skipCharacter_space, skipCharacter_cons (by decide)]

variable [Arithmetic α] (program : Program α) (side : Side) {rule : Rule α}

/-- A decision without a rule takes the rule of its assignment. -/
theorem readAssignment_chars (free : program.get side = none) (taken : rule.ReadBack)
    (shallow : rule.nesting ≤ deepestNesting) (rest : List Char) :
    readAssignment program (assignmentChars side rule ++ '\n' :: rest) =
      .ok (program.set rule side, '\n' :: rest) := by
  have read := taken deepestNesting ('\n' :: rest) shallow
  rw [← ruleReader_space (by decide)] at read
  have lineEnd : ('\n' :: rest).dropWhile Text.isInlineBlank = '\n' :: rest := rfl
  simp only [readAssignment, splitWord_assignment, sideOfName?_name, free, Option.isSome_none,
    skipCharacter_equals, read, bind, Except.bind, lineEnd]
  rfl

theorem readAssignment_fails {kind : TextProblem → Prop} (free : program.get side = none)
    (failed : rule.FailsWithin deepestNesting kind) (rest : List Char) :
    Fails kind (readAssignment program (assignmentChars side rule ++ rest)) := by
  have failedHere := ruleReader_fails_space (failed rest)
  simp only [readAssignment, splitWord_assignment, sideOfName?_name, free, Option.isSome_none,
    skipCharacter_equals]
  exact failedHere.bind _

end Assignments

section Programs

variable {α : Type} [Legible α]

/-- The text of two assignments behind a heading. -/
def programChars (heading : List Char) (entry exit : Rule α) : List Char :=
  heading ++ (assignmentChars .entry entry ++ '\n' :: (assignmentChars .exit exit ++ ['\n']))

theorem toList_assignments (heading : String) (entry exit : Rule α) :
    (heading ++ Rule.assignment .entry entry ++ Rule.assignment .exit exit).toList =
      programChars heading.toList entry exit := by
  simp [Rule.toList_assignment, programChars]

variable [Arithmetic α] {heading : List Char} {entry exit : Rule α}

theorem readAssignments_step (rounds : Nat) (program : Program α) (side : Side) (rule : Rule α)
    (skipped : Trivia heading) (rest : List Char) :
    readAssignments (rounds + 1) program (heading ++ (assignmentChars side rule ++ rest)) =
      readAssignment program (assignmentChars side rule ++ rest) >>= fun (program, rest) =>
        readAssignments rounds program rest := by
  rw [readAssignments, skipped, skipTrivia_assignment]
  cases side <;> rfl

/-- Both rules are read back from the text of their assignments. -/
theorem readProgram_chars (skipped : Trivia heading)
    (entryTaken : entry.ReadBack) (entryShallow : entry.nesting ≤ deepestNesting)
    (exitTaken : exit.ReadBack) (exitShallow : exit.nesting ≤ deepestNesting) :
    readProgram (programChars heading entry exit) = .ok ⟨some entry, some exit⟩ := by
  have entryRead := readAssignment_chars ⟨none, none⟩ .entry rfl entryTaken entryShallow
    (assignmentChars .exit exit ++ ['\n'])
  have exitRead := readAssignment_chars ⟨some entry, none⟩ .exit rfl exitTaken exitShallow []
  have exitStep := readAssignments_step 1 ⟨some entry, none⟩ .exit exit Trivia.newline ['\n']
  rw [exitRead] at exitStep
  rw [readProgram, programChars, readAssignments_step 2 _ .entry entry skipped, entryRead]
  exact exitStep

/-- A text is misread if its first rule is, or if that is read back and its second rule is misread. -/
theorem readProgram_fails {kind : TextProblem → Prop} (skipped : Trivia heading)
    (failed : entry.FailsWithin deepestNesting kind ∨
      (entry.ReadBack ∧ entry.nesting ≤ deepestNesting) ∧ exit.FailsWithin deepestNesting kind) :
    Fails kind (readProgram (α := α) (programChars heading entry exit)) := by
  rw [readProgram, programChars, readAssignments_step 2 _ .entry entry skipped]
  rcases failed with entryFailed | ⟨⟨entryTaken, entryShallow⟩, exitFailed⟩
  · exact (readAssignment_fails ⟨none, none⟩ .entry rfl entryFailed _).bind _
  · have entryRead := readAssignment_chars ⟨none, none⟩ .entry rfl entryTaken entryShallow
      (assignmentChars .exit exit ++ ['\n'])
    have exitStep := readAssignments_step 1 ⟨some entry, none⟩ .exit exit Trivia.newline ['\n']
    rw [entryRead]
    show Fails kind (readAssignments 2 ⟨some entry, none⟩ (['\n'] ++ (assignmentChars .exit exit ++ ['\n'])))
    rw [exitStep]
    exact (readAssignment_fails ⟨some entry, none⟩ .exit rfl exitFailed ['\n']).bind _

/-- A text with a rule that is nested too deep is refused for that. -/
theorem readProgram_tooDeep (skipped : Trivia heading)
    (entryTaken : entry.ReadBack) (entryRefused : entry.Refused) (exitRefused : exit.Refused)
    (deep : deepestNesting < entry.nesting ∨ deepestNesting < exit.nesting) :
    TooDeep (readProgram (α := α) (programChars heading entry exit)) := by
  rw [tooDeep_iff_fails]
  apply readProgram_fails skipped
  by_cases entryDeep : deepestNesting < entry.nesting
  · exact .inl (entryRefused.failsWithin entryDeep)
  · exact .inr ⟨⟨entryTaken, Nat.le_of_not_lt entryDeep⟩, exitRefused.failsWithin (deep.resolve_left entryDeep)⟩

end Programs

section Sources

variable {α : Type} [Legible α] [Arithmetic α] {heading : String} {entry exit : Rule α}

/-- Two writable rules within the deepest nesting are read back from the text of their assignments. -/
theorem Program.read_assignments (legible : ReadsBack α) (skipped : Trivia heading.toList)
    (entryWritable : entry.isWritable = true) (exitWritable : exit.isWritable = true)
    (entryShallow : entry.nesting ≤ deepestNesting) (exitShallow : exit.nesting ≤ deepestNesting) :
    Program.read (heading ++ Rule.assignment .entry entry ++ Rule.assignment .exit exit) =
      .ok ⟨some entry, some exit⟩ := by
  rw [Program.read, toList_assignments, readProgram_chars skipped
    (ruleReader_chars legible entry entryWritable) entryShallow
    (ruleReader_chars legible exit exitWritable) exitShallow]

/-- If one of them is nested deeper, the text is refused for that. -/
theorem Program.read_tooDeep (legible : ReadsBack α) (skipped : Trivia heading.toList)
    (entryWritable : entry.isWritable = true) (exitWritable : exit.isWritable = true)
    (deep : deepestNesting < entry.nesting ∨ deepestNesting < exit.nesting) :
    ∃ position,
      Program.read (α := α) (heading ++ Rule.assignment .entry entry ++ Rule.assignment .exit exit) =
        .error ⟨.tooDeep, position⟩ := by
  obtain ⟨rest, failed⟩ := readProgram_tooDeep skipped (ruleReader_chars legible entry entryWritable)
    (ruleReader_tooDeep legible entry entryWritable) (ruleReader_tooDeep legible exit exitWritable) deep
  rw [Program.read, toList_assignments, failed]
  exact ⟨_, rfl⟩

end Sources

end PaperTrading
