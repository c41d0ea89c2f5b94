/-
Module: PaperTrading.Proofs.Rule.PlainText
Purpose: The text of writable rules and of their assignments is plain.
Main exports: Operand.plain_chars, Rule.plain_chars, Rule.plain_assignment, plain_assignments
-/
import PaperTrading.Proofs.Rule.ProgramText
import PaperTrading.Proofs.Rule.Wording

namespace PaperTrading

section Words

/-- The words that open parts in parentheses. -/
def openingWords : List String :=
  Comparison.every.map Comparison.keyword ++
    ["AND", "OR", "WARMUP", "STOP_LOSS", "TAKE_PROFIT", "ABS", "ROUND", "MIN", "MAX"]

theorem plain_opening : ∀ word ∈ openingWords, Plain (opening word) := by
  decide +kernel

theorem keyword_mem_openingWords (comparison : Comparison) : comparison.keyword ∈ openingWords := by
  cases comparison <;> decide

theorem plain_column (column : Column) : Plain column.name.toList := by
  have every : ∀ column ∈ Column.all, Plain column.name.toList := by
    decide +kernel
  exact every column column.mem_all

end Words

section Numbers

theorem toNat_lt_of_startsNumber {c : Char} (starts : startsNumber c = true) : c.toNat < 128 := by
  simp only [startsNumber, Bool.or_eq_true, beq_iff_eq] at starts
  rcases starts with (digit | rfl) | rfl
  · exact Nat.lt_of_le_of_lt (Char.isDigit_iff_toNat.1 digit).2 (by decide)
  · decide
  · decide

theorem isLetter_of_startsNumber {c : Char} (starts : startsNumber c = true) : isLetter c = false :=
  Text.forall_ascii (fun c => startsNumber c = true → isLetter c = false) (by decide +kernel)
    (toNat_lt_of_startsNumber starts) starts

theorem Numeral.startsNumber_of_mem_chars {n : Numeral} {c : Char} (member : c ∈ n.chars) :
    startsNumber c = true :=
  n.spelling_chars.startsNumber_of_mem member

variable {α : Type} [Arithmetic α] [Legible α]

theorem ReadsBack.plain_chars (legible : ReadsBack α) {x : α} (finite : Arithmetic.isFinite x = true) :
    Plain (Legible.chars x) := by
  obtain ⟨n, chars, -⟩ := legible.exists_numeral finite
  rw [chars]
  exact .of_no_letters
    (fun _ member => toNat_lt_of_startsNumber (Numeral.startsNumber_of_mem_chars member))
    (fun _ member => isLetter_of_startsNumber (Numeral.startsNumber_of_mem_chars member))

end Numbers

section Pieces

variable {first second : List Char}

theorem plain_closed (parts : Plain first) : Plain (first ++ [')']) :=
  parts.append_of_closing (by decide) (by decide)

theorem endsLoosely_line (line : List Char) : EndsLoosely (line ++ ['\n']) := by
  have lineEnd : EndsLoosely ['\n'] := by
    decide
  exact lineEnd.append line (List.cons_ne_nil _ _)

theorem plain_line (line : Plain first) : Plain (first ++ ['\n']) :=
  line.append_of_closing (by decide) (by decide)

theorem plain_parenthesized {word : String} (opens : word ∈ openingWords) (parts : Plain first) :
    Plain (opening word ++ first ++ [')']) := by
  have bracket : EndsLoosely ['('] := by
    decide
  have loose : EndsLoosely (opening word) := bracket.append word.toList (List.cons_ne_nil _ _)
  exact plain_closed ((plain_opening word opens).append_of_loose loose parts)

/-- Two pieces with punctuation between them. -/
theorem plain_joined {sign : List Char} (plain : Plain sign) (closing : StartsClosing sign)
    (loose : EndsLoosely sign) (nonempty : sign ≠ []) (one : Plain first) (two : Plain second) :
    Plain (first ++ sign ++ second) :=
  (one.append_of_closing plain closing).append_of_loose (loose.append first nonempty) two

theorem plain_separated (one : Plain first) (two : Plain second) : Plain (first ++ separator ++ second) :=
  plain_joined (by decide) (by decide) (by decide) (by decide) one two

theorem plain_multiplied (one : Plain first) (two : Plain second) : Plain (first ++ factorSign ++ second) :=
  plain_joined (by decide) (by decide) (by decide) (by decide) one two

end Pieces

section Rules

variable {α : Type} [Arithmetic α] [Legible α]

theorem Operand.plain_chars (legible : ReadsBack α) (operand : Operand α)
    (writable : operand.isWritable = true) : Plain operand.chars := by
  induction operand with
  | column source => exact plain_column source
  | constant value => exact legible.plain_chars writable
  | abs inner ih => exact plain_parenthesized (by decide) (ih writable)
  | round inner ih => exact plain_parenthesized (by decide) (ih writable)
  | min first second ihFirst ihSecond
  | max first second ihFirst ihSecond =>
      simp only [isWritable, Bool.and_eq_true] at writable
      have parts := plain_separated (ihFirst writable.1) (ihSecond writable.2)
      simpa [chars] using plain_parenthesized (by decide) parts
  | scaled inner factor ih =>
      simp only [isWritable, Bool.and_eq_true] at writable
      exact plain_multiplied (ih writable.1) (legible.plain_chars writable.2)

theorem plain_toDigits (n : Nat) : Plain (Nat.toDigits 10 n) := by
  have starts : ∀ c ∈ Nat.toDigits 10 n, startsNumber c = true := by
    intro c member
    simp [startsNumber, Numeral.isDigit_of_mem_toDigits member]
  exact .of_no_letters (fun c member => toNat_lt_of_startsNumber (starts c member))
    (fun c member => isLetter_of_startsNumber (starts c member))

mutual

theorem Rule.plain_chars (legible : ReadsBack α) :
    ∀ rule : Rule α, rule.isWritable = true → Plain rule.chars
  | .compare comparison left right, writable => by
      simp only [isWritable, Bool.and_eq_true] at writable
      have parts := plain_separated (left.plain_chars legible writable.1)
        (right.plain_chars legible writable.2)
      simpa [chars] using plain_parenthesized (keyword_mem_openingWords comparison) parts
  | .all rules, writable
  | .any rules, writable => by
      simp only [isWritable, Bool.and_eq_true] at writable
      exact plain_parenthesized (by decide) (Rule.plain_listChars legible rules writable.2)
  | .warmup days, _ => plain_parenthesized (by decide) (plain_toDigits days)
  | .stopLoss percent, writable
  | .takeProfit percent, writable => by
      simp only [isWritable, Bool.and_eq_true] at writable
      exact plain_parenthesized (by decide) (legible.plain_chars writable.1)

theorem Rule.plain_listChars (legible : ReadsBack α) :
    ∀ rules : List (Rule α), Rule.areWritable rules = true → Plain (Rule.listChars rules)
  | [], _ => .of_no_letters (by simp [listChars]) (by simp [listChars])
  | [rule], writable => by
      simp only [areWritable, Bool.and_eq_true] at writable
      exact rule.plain_chars legible writable.1
  | rule :: next :: rest, writable => by
      rw [areWritable, Bool.and_eq_true] at writable
      exact plain_separated (rule.plain_chars legible writable.1)
        (Rule.plain_listChars legible (next :: rest) writable.2)

end

/-- An assignment is plain, and so is its line end. -/
theorem Rule.plain_assignment (legible : ReadsBack α) (side : Side) {rule : Rule α}
    (writable : rule.isWritable = true) : Plain (Rule.assignment side rule).toList := by
  have sign : EndsLoosely [' ', '=', ' '] := by
    decide
  have name : Plain (side.name.toList ++ [' ', '=', ' ']) := by
    cases side <;> decide +kernel
  have loose : EndsLoosely (side.name.toList ++ [' ', '=', ' ']) := sign.append _ (List.cons_ne_nil _ _)
  have line := plain_line (name.append_of_loose loose (rule.plain_chars legible writable))
  simpa [Rule.toList_assignment, assignmentChars] using line

/-- The text of two assignments is plain if the heading is, which ends with a line. -/
theorem plain_assignments (legible : ReadsBack α) {heading : String} (plain : Plain heading.toList)
    (loose : EndsLoosely heading.toList) {entry exit : Rule α} (entryWritable : entry.isWritable = true)
    (exitWritable : exit.isWritable = true) :
    Plain (heading ++ Rule.assignment .entry entry ++ Rule.assignment .exit exit).toList := by
  have first := Rule.plain_assignment legible .entry entryWritable
  have second := Rule.plain_assignment legible .exit exitWritable
  have lineEnd : EndsLoosely (heading.toList ++ (Rule.assignment .entry entry).toList) := by
    rw [Rule.toList_assignment, ← List.append_assoc]
    exact endsLoosely_line _
  rw [String.toList_append, String.toList_append]
  exact (plain.append_of_loose loose first).append_of_loose lineEnd second

end Rules

end PaperTrading
