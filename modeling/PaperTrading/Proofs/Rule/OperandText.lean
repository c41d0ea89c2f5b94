/-
Module: PaperTrading.Proofs.Rule.OperandText
Purpose: Operands are read back from their text, exactly when they are nested within the levels given.
Main exports: Operand.spelled_chars, operandReader_chars, operandReader_tooDeep

The text of an operand is one that the grammar has for it, so it is read back as any other such text.
-/
import PaperTrading.Proofs.Grammar.Operands
import PaperTrading.Rule.Printed

namespace PaperTrading

open Grammar
open Text (StopsBefore)

/-- A comma or a closing parenthesis comes next. -/
def Closes : List Char → Prop
  | [] => False
  | c :: _ => c = ',' ∨ c = ')'

namespace Closes

variable {rest : List Char}

theorem exists_mark (closes : Closes rest) :
    ∃ mark more, rest = Punctuation.char mark :: more ∧ (mark = .comma ∨ mark = .closing) := by
  cases rest with
  | nil => exact closes.elim
  | cons c more =>
      rcases closes with rfl | rfl
      · exact ⟨.comma, more, rfl, .inl rfl⟩
      · exact ⟨.closing, more, rfl, .inr rfl⟩

theorem closesNext (closes : Closes rest) : ClosesNext rest := by
  obtain ⟨mark, more, rfl, rfl | rfl⟩ := closes.exists_mark
  · exact ⟨more, .inl (Blanks.refl _)⟩
  · exact ⟨more, .inr (Blanks.refl _)⟩

theorem endsToken (closes : Closes rest) : EndsToken rest :=
  closes.closesNext.endsToken

theorem trimStart_eq (closes : Closes rest) : Text.trimStart rest = rest := by
  obtain ⟨mark, more, rfl, -⟩ := closes.exists_mark
  exact Text.trimStart_cons_of_not_blank mark.visible more

end Closes

theorem closes_comma (rest : List Char) : Closes (',' :: rest) :=
  Or.inl rfl

section Pieces

variable (rest : List Char)

theorem blanks_space : Blanks (' ' :: rest) rest := by
  refine ⟨[' '], ?_, rfl⟩
  intro c member
  rw [List.mem_singleton.1 member]
  rfl

theorem word_opening (word : String) : Grammar.Word word (opening word ++ rest) ('(' :: rest) := by
  rw [opening, List.append_assoc]
  exact ⟨Blanks.refl _, (Punctuation.opening.endsToken rest).stops_word⟩

theorem mark_separator : Mark .comma (separator ++ rest) (' ' :: rest) :=
  Blanks.refl _

theorem mark_factorSign : Mark .times (factorSign ++ rest) (' ' :: rest) :=
  blanks_space _

variable {α : Type} [Arithmetic α] [Legible α]

/-- The text of a finite number is a number of the grammar. -/
theorem ReadsBack.exists_number (legible : ReadsBack α) {x : α} (finite : Arithmetic.isFinite x = true) :
    ∃ n, Number n (Legible.chars x ++ rest) rest ∧ Legible.ofNumeral n = x := by
  obtain ⟨n, chars, value⟩ := legible.exists_numeral finite
  exact ⟨n, ⟨n.chars, n.spelling_chars, chars ▸ Blanks.refl _⟩, value⟩

end Pieces

section Texts

variable {α : Type} [Legible α]

/-- The text of an operand is one that the grammar has for it, if the text that follows ends its last token. -/
def Operand.Spelled (operand : Operand α) : Prop :=
  ∀ {rest : List Char}, EndsToken rest → OperandText operand (operand.chars ++ rest) rest

variable {first second : Operand α} (rest : List Char)

theorem oneOperand_chars (one : first.Spelled) :
    OneOperand first ('(' :: (first.chars ++ ')' :: rest)) rest :=
  .mk (Blanks.refl _) (one (Punctuation.closing.endsToken rest)) (Blanks.refl _)

theorem twoOperands_chars (one : first.Spelled) (two : second.Spelled) :
    TwoOperands first second ('(' :: (first.chars ++ (separator ++ (second.chars ++ ')' :: rest)))) rest := by
  have divided : EndsToken (separator ++ (second.chars ++ ')' :: rest)) := Punctuation.comma.endsToken _
  have spelled := two (Punctuation.closing.endsToken rest)
  exact .mk (Blanks.refl _) (one divided) (mark_separator _) (spelled.of_blanks (blanks_space _)) (Blanks.refl _)

variable [Arithmetic α]

/-- The text of an operand is one that the grammar has for it. -/
theorem Operand.spelled_chars (legible : ReadsBack α) (operand : Operand α) (writable : operand.isWritable = true) :
    operand.Spelled := by
  intro rest ends
  induction operand generalizing rest with
  | column source => exact .column ⟨Blanks.refl _, ends.stops_word⟩
  | constant value =>
      obtain ⟨n, number, rfl⟩ := legible.exists_number rest writable
      exact .constant number
  | abs inner ih
  | round inner ih =>
      simp only [chars, List.append_assoc, List.singleton_append]
      constructor
      · exact word_opening _ _
      · exact oneOperand_chars rest (ih writable)
  | min first second ihFirst ihSecond
  | max first second ihFirst ihSecond =>
      simp only [isWritable, Bool.and_eq_true] at writable
      simp only [chars, List.append_assoc, List.singleton_append]
      constructor
      · exact word_opening _ _
      · exact twoOperands_chars rest (ihFirst writable.1) (ihSecond writable.2)
  | scaled inner factor ih =>
      simp only [isWritable, Bool.and_eq_true] at writable
      obtain ⟨n, number, rfl⟩ := legible.exists_number rest writable.2
      rw [chars, List.append_assoc, List.append_assoc]
      have star := mark_factorSign (Legible.chars (Legible.ofNumeral n : α) ++ rest)
      exact .scaled (ih writable.1 star.endsToken) star (number.of_blanks (blanks_space _))

/-- The reader takes an operand from its text whenever it has levels enough. -/
def Operand.ReadBack (operand : Operand α) : Prop :=
  ∀ (levels : Nat) (rest : List Char), operand.nesting ≤ levels → Closes rest →
    operandReader levels (operand.chars ++ rest) = .ok (operand, rest)

/-- An operand is read back from its text within as many levels as it has. -/
theorem operandReader_chars (legible : ReadsBack α) (operand : Operand α)
    (writable : operand.isWritable = true) : operand.ReadBack := by
  intro levels rest shallow closes
  obtain ⟨fewer, rfl⟩ := Nat.exists_eq_add_of_lt (Nat.lt_of_lt_of_le operand.nesting_pos shallow)
  rw [Nat.zero_add] at shallow ⊢
  have spelled := operand.spelled_chars legible writable closes.endsToken
  have read := (spelled.takenApart shallow closes.endsToken).operandReader_eq closes.closesNext
  rwa [closes.trimStart_eq] at read

end Texts

section Refusals

variable {α : Type} [Legible α]

theorem operandReader_space {levels : Nat} (some_level : 0 < levels) (text : List Char) :
    operandReader (α := α) levels (' ' :: text) = operandReader levels text := by
  obtain ⟨fewer, rfl⟩ := Nat.exists_eq_add_of_lt some_level
  simp only [operandReader, readPrimary, Text.trimStart_cons_space]

section Keywords

variable (inner : Reader (Operand α)) (rest : List Char)

theorem readPrimary_abs :
    readPrimary inner (opening "ABS" ++ rest) =
      (readOne inner ('(' :: rest)).map fun (operand, rest) => (.abs operand, rest) :=
  (word_opening rest "ABS").readPrimary_abs inner

theorem readPrimary_round :
    readPrimary inner (opening "ROUND" ++ rest) =
      (readOne inner ('(' :: rest)).map fun (operand, rest) => (.round operand, rest) :=
  (word_opening rest "ROUND").readPrimary_round inner

theorem readPrimary_min :
    readPrimary inner (opening "MIN" ++ rest) =
      (readTwo inner ('(' :: rest)).map fun ((first, second), rest) => (.min first second, rest) :=
  (word_opening rest "MIN").readPrimary_min inner

theorem readPrimary_max :
    readPrimary inner (opening "MAX" ++ rest) =
      (readTwo inner ('(' :: rest)).map fun ((first, second), rest) => (.max first second, rest) :=
  (word_opening rest "MAX").readPrimary_max inner

end Keywords

/-- The reader refuses an operand with more levels than it has. -/
def Operand.Refused (operand : Operand α) : Prop :=
  ∀ (levels : Nat) (rest : List Char), levels < operand.nesting →
    TooDeep (operandReader (α := α) levels (operand.chars ++ rest))

theorem operandReader_tooDeep_space {levels : Nat} {text : List Char}
    (deep : TooDeep (operandReader (α := α) levels text)) :
    TooDeep (operandReader (α := α) levels (' ' :: text)) := by
  cases levels with
  | zero => exact ⟨_, rfl⟩
  | succ levels => rwa [operandReader_space (Nat.succ_pos levels)]

theorem Operand.Refused.of_primary {operand : Operand α}
    (primary : ∀ {levels : Nat} {rest : List Char}, levels + 1 < operand.nesting →
      TooDeep (readPrimary (operandReader (α := α) levels) (operand.chars ++ rest))) :
    operand.Refused := by
  intro levels rest deep
  cases levels with
  | zero => exact ⟨_, rfl⟩
  | succ levels => exact (primary deep).bind _

theorem readTwo_operands_tooDeep {first second : Operand α} {levels : Nat} (one : first.ReadBack)
    (firstRefused : first.Refused) (secondRefused : second.Refused)
    (deep : levels < max first.nesting second.nesting) (rest : List Char) :
    TooDeep (readTwo (operandReader (α := α) levels)
      ('(' :: (first.chars ++ separator ++ second.chars ++ [')'] ++ rest))) := by
  simp only [List.append_assoc]
  by_cases firstDeep : levels < first.nesting
  · exact readTwo_tooDeep_first (firstRefused levels _ firstDeep)
  · have firstShallow : first.nesting ≤ levels := Nat.le_of_not_lt firstDeep
    have secondDeep : levels < second.nesting := by
      omega
    refine readTwo_tooDeep_second (one levels _ firstShallow (closes_comma _)) ?_
    exact operandReader_tooDeep_space (secondRefused levels _ secondDeep)

variable [Arithmetic α]

theorem readPrimary_tooDeep (legible : ReadsBack α) (operand : Operand α)
    (writable : operand.isWritable = true) {levels : Nat} {rest : List Char}
    (deep : levels + 1 < operand.nesting) :
    TooDeep (readPrimary (operandReader (α := α) levels) (operand.chars ++ rest)) := by
  induction operand generalizing levels rest with
  | column source => exact absurd deep (by simp [Operand.nesting])
  | constant value => exact absurd deep (by simp [Operand.nesting])
  | abs inner ih
  | round inner ih =>
      have refused : inner.Refused := .of_primary (ih writable)
      have failed := readOne_tooDeep (refused levels ([')'] ++ rest) (Nat.lt_of_succ_lt_succ deep))
      simp only [Operand.chars, List.append_assoc, readPrimary_abs, readPrimary_round]
      exact failed.map _
  | min first second ihFirst ihSecond
  | max first second ihFirst ihSecond =>
      simp only [Operand.isWritable, Bool.and_eq_true] at writable
      have failed := readTwo_operands_tooDeep (operandReader_chars legible first writable.1)
        (.of_primary (ihFirst writable.1)) (.of_primary (ihSecond writable.2))
        (Nat.lt_of_succ_lt_succ deep) rest
      simp only [Operand.chars, List.append_assoc, readPrimary_min, readPrimary_max] at failed ⊢
      exact failed.map _
  | scaled inner factor ih =>
      simp only [Operand.isWritable, Bool.and_eq_true] at writable
      rw [Operand.chars, List.append_assoc, List.append_assoc]
      exact ih writable.1 deep

/-- An operand with more levels than the reader has is refused for its nesting. -/
theorem operandReader_tooDeep (legible : ReadsBack α) (operand : Operand α)
    (writable : operand.isWritable = true) : operand.Refused :=
  .of_primary (readPrimary_tooDeep legible operand writable)

end Refusals

end PaperTrading
