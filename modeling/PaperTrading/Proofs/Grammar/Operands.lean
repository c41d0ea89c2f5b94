/-
Module: PaperTrading.Proofs.Grammar.Operands
Purpose: The reader of operands takes exactly the operands of the grammar that are nested within its levels.
Main exports: operandText_of_operandReader, TakenApart, OneOperand.readOne_eq, TwoOperands.readTwo_eq

The reader takes the part that is scaled first and then its factors one by one, while an operand has its last
factor at its root.  The text of an operand is therefore taken apart as the reader does it: into the core and the
factors.
-/
import PaperTrading.Proofs.Grammar.Tokens
import PaperTrading.Proofs.Rule.Shape

namespace PaperTrading.Grammar

section Parentheses

variable {α : Type} {inner : Reader (Operand α)} {text rest : List Char} {first second : Operand α}

theorem readOne_eq_ok :
    readOne inner text = .ok (first, rest) ↔
      ∃ start stop, Mark .opening text start ∧ inner start = .ok (first, stop) ∧ Mark .closing stop rest := by
  constructor
  · intro read
    obtain ⟨start, opening, read⟩ := bind_eq_ok.1 read
    obtain ⟨⟨operand, stop⟩, taken, read⟩ := bind_eq_ok.1 read
    obtain ⟨closed, closing, result⟩ := bind_eq_ok.1 read
    cases result
    exact ⟨start, stop, skipCharacter_eq_ok.1 opening, taken, skipCharacter_eq_ok.1 closing⟩
  · rintro ⟨start, stop, opening, taken, closing⟩
    apply bind_eq_ok.2 ⟨start, skipCharacter_eq_ok.2 opening, ?_⟩
    apply bind_eq_ok.2 ⟨(first, stop), taken, ?_⟩
    exact bind_eq_ok.2 ⟨rest, skipCharacter_eq_ok.2 closing, rfl⟩

theorem readTwo_eq_ok :
    readTwo inner text = .ok ((first, second), rest) ↔
      ∃ start middle next stop, Mark .opening text start ∧ inner start = .ok (first, middle) ∧
        Mark .comma middle next ∧ inner next = .ok (second, stop) ∧ Mark .closing stop rest := by
  constructor
  · intro read
    obtain ⟨start, opening, read⟩ := bind_eq_ok.1 read
    obtain ⟨⟨one, middle⟩, taken, read⟩ := bind_eq_ok.1 read
    obtain ⟨next, comma, read⟩ := bind_eq_ok.1 read
    obtain ⟨⟨two, stop⟩, takenNext, read⟩ := bind_eq_ok.1 read
    obtain ⟨closed, closing, result⟩ := bind_eq_ok.1 read
    cases result
    exact ⟨start, middle, next, stop, skipCharacter_eq_ok.1 opening, taken, skipCharacter_eq_ok.1 comma, takenNext,
      skipCharacter_eq_ok.1 closing⟩
  · rintro ⟨start, middle, next, stop, opening, taken, comma, takenNext, closing⟩
    apply bind_eq_ok.2 ⟨start, skipCharacter_eq_ok.2 opening, ?_⟩
    apply bind_eq_ok.2 ⟨(first, middle), taken, ?_⟩
    apply bind_eq_ok.2 ⟨next, skipCharacter_eq_ok.2 comma, ?_⟩
    apply bind_eq_ok.2 ⟨(second, stop), takenNext, ?_⟩
    exact bind_eq_ok.2 ⟨rest, skipCharacter_eq_ok.2 closing, rfl⟩

end Parentheses

variable {α : Type} [Legible α] {text rest : List Char} {operand : Operand α}

section Soundness

/-- A reader takes nothing but operands of the grammar, and the blanks behind them. -/
def TakesOperands (levels : Nat) (reader : Reader (Operand α)) : Prop :=
  ∀ {text operand rest}, reader text = .ok (operand, rest) →
    ∃ stop, OperandText operand text stop ∧ Blanks stop rest ∧ operand.nesting ≤ levels

theorem factors_of_readFactors {rounds : Nat} {start : Operand α} {middle : List Char}
    (begun : OperandText start text middle) (read : readFactors rounds start middle = .ok (operand, rest)) :
    ∃ stop, OperandText operand text stop ∧ Blanks stop rest ∧ operand.nesting = start.nesting := by
  induction rounds generalizing start middle with
  | zero =>
      cases read
      exact ⟨rest, begun, Blanks.refl rest, rfl⟩
  | succ rounds ih =>
      rw [readFactors] at read
      split at read
      case h_1 factor star =>
        -- The operand so far becomes what the next factor scales, so the invariant is about a growing operand.
        obtain ⟨⟨value, next⟩, number, read⟩ := bind_eq_ok.1 read
        obtain ⟨n, rfl, spelled⟩ := number_of_readNumber number
        obtain ⟨stop, whole, blanks, levels⟩ :=
          ih (.scaled begun (Mark.iff_trimStart.2 star) spelled) read
        exact ⟨stop, whole, blanks, levels⟩
      case h_2 =>
        cases read
        exact ⟨middle, begun, Blanks.trimStart middle, rfl⟩

variable {levels : Nat} {inner : Reader (Operand α)}

theorem oneOperand_of_readOne (takes : TakesOperands levels inner) (read : readOne inner text = .ok (operand, rest)) :
    OneOperand operand text rest ∧ operand.nesting ≤ levels := by
  obtain ⟨start, stop, opening, taken, closing⟩ := readOne_eq_ok.1 read
  obtain ⟨close, spelled, blanks, shallow⟩ := takes taken
  exact ⟨.mk opening spelled (closing.of_blanks blanks), shallow⟩

theorem twoOperands_of_readTwo {first second : Operand α} (takes : TakesOperands levels inner)
    (read : readTwo inner text = .ok ((first, second), rest)) :
    TwoOperands first second text rest ∧ max first.nesting second.nesting ≤ levels := by
  obtain ⟨start, middle, next, stop, opening, one, comma, two, closing⟩ := readTwo_eq_ok.1 read
  obtain ⟨divide, firstSpelled, firstBlanks, firstShallow⟩ := takes one
  obtain ⟨close, secondSpelled, secondBlanks, secondShallow⟩ := takes two
  exact ⟨.mk opening firstSpelled (comma.of_blanks firstBlanks) secondSpelled (closing.of_blanks secondBlanks),
    Nat.max_le.2 ⟨firstShallow, secondShallow⟩⟩

theorem operandText_of_readPrimary (takes : TakesOperands levels inner)
    (read : readPrimary inner text = .ok (operand, rest)) :
    OperandText operand text rest ∧ operand.nesting ≤ levels + 1 := by
  simp only [readPrimary] at read
  split at read
  case isTrue =>
    obtain ⟨⟨value, next⟩, number, result⟩ := bind_eq_ok.1 read
    cases result
    obtain ⟨n, rfl, spelled⟩ := number_of_readNumber number
    exact ⟨.constant (spelled.of_blanks (Blanks.trimStart text)), Nat.le_add_left 1 levels⟩
  case isFalse =>
    generalize taken : splitWord (Text.trimStart text) = parts at read
    obtain ⟨word, argument⟩ := parts
    have keyword : Word word text argument := .of_blanks (Blanks.trimStart text) (.of_splitWord taken)
    simp only at read
    split at read
    case h_1 | h_2 =>
      obtain ⟨⟨inside, next⟩, one, result⟩ := map_eq_ok.1 read
      cases result
      obtain ⟨spelled, shallow⟩ := oneOperand_of_readOne takes one
      refine ⟨?_, Nat.succ_le_succ shallow⟩
      constructor
      · exact keyword
      · exact spelled
    case h_3 | h_4 =>
      obtain ⟨⟨⟨first, second⟩, next⟩, two, result⟩ := map_eq_ok.1 read
      cases result
      obtain ⟨spelled, shallow⟩ := twoOperands_of_readTwo takes two
      refine ⟨?_, Nat.succ_le_succ shallow⟩
      constructor
      · exact keyword
      · exact spelled
    case h_5 =>
      split at read
      case h_2 => cases read
      case h_1 column named =>
        cases read
        rw [← Column.name_of_ofName? named] at keyword
        exact ⟨.column keyword, Nat.le_add_left 1 levels⟩

/-- What is read as an operand is one, and its levels are within those given. -/
theorem operandText_of_operandReader (levels : Nat) :
    TakesOperands levels (operandReader (α := α) levels) := by
  induction levels with
  | zero => exact fun read => nomatch read
  | succ levels ih =>
      intro text operand rest read
      obtain ⟨⟨primary, middle⟩, start, factors⟩ := bind_eq_ok.1 read
      obtain ⟨begun, shallow⟩ := operandText_of_readPrimary ih start
      obtain ⟨stop, spelled, blanks, nesting⟩ := factors_of_readFactors begun factors
      exact ⟨stop, spelled, blanks, nesting ▸ shallow⟩

end Soundness

theorem OperandText.of_blanks : ∀ {operand : Operand α} {text middle rest : List Char}, Blanks text middle →
    OperandText operand middle rest → OperandText operand text rest
  | _, _, _, _, blanks, .column name => .column (name.of_blanks blanks)
  | _, _, _, _, blanks, .constant number => .constant (number.of_blanks blanks)
  | _, _, _, _, blanks, .abs keyword inside => .abs (keyword.of_blanks blanks) inside
  | _, _, _, _, blanks, .round keyword inside => .round (keyword.of_blanks blanks) inside
  | _, _, _, _, blanks, .min keyword inside => .min (keyword.of_blanks blanks) inside
  | _, _, _, _, blanks, .max keyword inside => .max (keyword.of_blanks blanks) inside
  | _, _, _, _, blanks, .scaled operand star number => .scaled (operand.of_blanks blanks) star number

section Completeness

/-- A comma or a closing parenthesis comes next, after any blanks. -/
def ClosesNext (rest : List Char) : Prop :=
  ∃ more, Mark .comma rest more ∨ Mark .closing rest more

namespace ClosesNext

theorem endsToken (closes : ClosesNext rest) : EndsToken rest := by
  obtain ⟨more, comma | closing⟩ := closes
  · exact comma.endsToken
  · exact closing.endsToken

theorem readFactors_eq (closes : ClosesNext rest) {rounds : Nat} (enough : 0 < rounds) (operand : Operand α) :
    readFactors rounds operand rest = .ok (operand, Text.trimStart rest) := by
  obtain ⟨fewer, rfl⟩ := Nat.exists_eq_add_of_lt enough
  obtain ⟨more, comma | closing⟩ := closes
  · simp [readFactors, Mark.iff_trimStart.1 comma, Punctuation.char]
  · simp [readFactors, Mark.iff_trimStart.1 closing, Punctuation.char]

theorem length_pos (closes : ClosesNext rest) : 0 < rest.length := by
  obtain ⟨more, comma | closing⟩ := closes
  · exact Nat.zero_lt_of_lt comma.length_lt
  · exact Nat.zero_lt_of_lt closing.length_lt

end ClosesNext

/-- The reader takes the core of an operand from a text, and after its factors it is where the operand ends. -/
def TakenApart (levels : Nat) (operand : Operand α) (text rest : List Char) : Prop :=
  ∃ middle, readPrimary (operandReader levels) text = .ok (operand.core, middle) ∧
    operand.factorCount + rest.length ≤ middle.length ∧
    ∀ rounds, readFactors (rounds + operand.factorCount) operand.core middle = readFactors rounds operand rest

namespace TakenApart

variable {levels : Nat}

theorem of_core (core : operand.core = operand) (noFactor : operand.factorCount = 0)
    (read : readPrimary (operandReader levels) text = .ok (operand, rest)) :
    TakenApart levels operand text rest := by
  refine ⟨rest, ?_, ?_, ?_⟩
  · rw [core, read]
  · exact Nat.le_of_eq (by rw [noFactor, Nat.zero_add])
  · intro rounds
    rw [core, noFactor, Nat.add_zero]

theorem scaled {n : Numeral} {times factor : List Char} (apart : TakenApart levels operand text times)
    (star : Mark .times times factor) (number : Number n factor rest) (ends : EndsToken rest) :
    TakenApart levels (.scaled operand (Legible.ofNumeral n)) text rest := by
  obtain ⟨middle, primary, long, factors⟩ := apart
  refine ⟨middle, primary, ?_, ?_⟩
  · have := star.length_lt
    have := number.isSuffix.length_le
    simp only [Operand.factorCount]
    omega
  · intro rounds
    have step : readFactors (rounds + 1) operand times =
        readFactors rounds (.scaled operand (Legible.ofNumeral n)) rest := by
      simp [readFactors, Mark.iff_trimStart.1 star, Punctuation.char, number.readNumber_eq ends, bind, Except.bind]
    rw [← step, ← factors (rounds + 1), Operand.factorCount, Operand.core, Nat.add_assoc, Nat.add_comm 1]

theorem operandReader_eq (apart : TakenApart levels operand text rest) (closes : ClosesNext rest) :
    operandReader (levels + 1) text = .ok (operand, Text.trimStart rest) := by
  obtain ⟨middle, primary, long, factors⟩ := apart
  have some_left := closes.length_pos
  have enough : 0 < middle.length - operand.factorCount := by
    omega
  have rounds : middle.length = middle.length - operand.factorCount + operand.factorCount := by
    omega
  simp only [operandReader, primary, bind, Except.bind]
  rw [rounds, factors, closes.readFactors_eq enough]

end TakenApart

namespace Word

variable (inner : Reader (Operand α)) {argument : List Char}

theorem readPrimary_column {column : Column} (found : Word column.name text rest) :
    readPrimary inner text = .ok (.column column, rest) := by
  have isName : IsName column.name := by
    cases column <;> decide
  simp only [readPrimary, found.starts_no_number isName, found.splitWord_eq isName]
  cases column <;> rfl

theorem readPrimary_abs (found : Word "ABS" text argument) :
    readPrimary inner text = (readOne inner argument).map fun (operand, rest) => (.abs operand, rest) := by
  have isName : IsName "ABS" := by decide
  simp only [readPrimary, found.starts_no_number isName, found.splitWord_eq isName]
  rfl

theorem readPrimary_round (found : Word "ROUND" text argument) :
    readPrimary inner text = (readOne inner argument).map fun (operand, rest) => (.round operand, rest) := by
  have isName : IsName "ROUND" := by decide
  simp only [readPrimary, found.starts_no_number isName, found.splitWord_eq isName]
  rfl

theorem readPrimary_min (found : Word "MIN" text argument) :
    readPrimary inner text =
      (readTwo inner argument).map fun ((first, second), rest) => (.min first second, rest) := by
  have isName : IsName "MIN" := by decide
  simp only [readPrimary, found.starts_no_number isName, found.splitWord_eq isName]
  rfl

theorem readPrimary_max (found : Word "MAX" text argument) :
    readPrimary inner text =
      (readTwo inner argument).map fun ((first, second), rest) => (.max first second, rest) := by
  have isName : IsName "MAX" := by decide
  simp only [readPrimary, found.starts_no_number isName, found.splitWord_eq isName]
  rfl

end Word

theorem Number.readPrimary_eq (inner : Reader (Operand α)) {n : Numeral} (number : Number n text rest)
    (ends : EndsToken rest) : readPrimary inner text = .ok (.constant (Legible.ofNumeral n), rest) := by
  obtain ⟨c, others, start, starts, -⟩ := number.trimStart_eq
  have headed : (Text.trimStart text).head?.any startsNumber = true := by
    simp [start, starts]
  simp [readPrimary, headed, readNumber_trimStart, number.readNumber_eq ends, bind, Except.bind]

mutual

/-- An operand of the grammar is taken apart within as many levels as it has. -/
theorem OperandText.takenApart : ∀ {operand : Operand α} {text rest : List Char}, OperandText operand text rest →
    ∀ {levels : Nat}, operand.nesting ≤ levels + 1 → EndsToken rest → TakenApart levels operand text rest
  | _, _, _, .column name, _, _, _ => .of_core rfl rfl (name.readPrimary_column _)
  | _, _, _, .constant number, _, _, ends => .of_core rfl rfl (number.readPrimary_eq _ ends)
  | _, _, _, .abs keyword inside, _, shallow, _ => by
      apply TakenApart.of_core rfl rfl
      rw [keyword.readPrimary_abs, inside.readOne_eq (Nat.le_of_succ_le_succ shallow)]
      rfl
  | _, _, _, .round keyword inside, _, shallow, _ => by
      apply TakenApart.of_core rfl rfl
      rw [keyword.readPrimary_round, inside.readOne_eq (Nat.le_of_succ_le_succ shallow)]
      rfl
  | _, _, _, .min keyword inside, _, shallow, _ => by
      apply TakenApart.of_core rfl rfl
      rw [keyword.readPrimary_min, inside.readTwo_eq (Nat.le_of_succ_le_succ shallow)]
      rfl
  | _, _, _, .max keyword inside, _, shallow, _ => by
      apply TakenApart.of_core rfl rfl
      rw [keyword.readPrimary_max, inside.readTwo_eq (Nat.le_of_succ_le_succ shallow)]
      rfl
  | _, _, _, .scaled operand star number, _, shallow, ends =>
      (operand.takenApart shallow (star.endsToken)).scaled star number ends

theorem OneOperand.readOne_eq : ∀ {operand : Operand α} {text rest : List Char}, OneOperand operand text rest →
    ∀ {levels : Nat}, operand.nesting ≤ levels → readOne (operandReader levels) text = .ok (operand, rest)
  | operand, _, _, .mk opening inside closing, levels, shallow => by
      obtain ⟨fewer, rfl⟩ := Nat.exists_eq_add_of_lt (Nat.lt_of_lt_of_le operand.nesting_pos shallow)
      rw [Nat.zero_add] at shallow ⊢
      have closes : ClosesNext _ := ⟨_, .inr closing⟩
      have taken := (inside.takenApart shallow closes.endsToken).operandReader_eq closes
      exact readOne_eq_ok.2 ⟨_, _, opening, taken, closing.after_trimStart⟩

theorem TwoOperands.readTwo_eq : ∀ {first second : Operand α} {text rest : List Char},
    TwoOperands first second text rest → ∀ {levels : Nat}, max first.nesting second.nesting ≤ levels →
      readTwo (operandReader levels) text = .ok ((first, second), rest)
  | first, second, _, _, .mk opening one comma two closing, levels, shallow => by
      obtain ⟨firstShallow, secondShallow⟩ := Nat.max_le.1 shallow
      obtain ⟨fewer, rfl⟩ := Nat.exists_eq_add_of_lt (Nat.lt_of_lt_of_le first.nesting_pos firstShallow)
      rw [Nat.zero_add] at firstShallow secondShallow ⊢
      have divides : ClosesNext _ := ⟨_, .inl comma⟩
      have closes : ClosesNext _ := ⟨_, .inr closing⟩
      have firstTaken := (one.takenApart firstShallow divides.endsToken).operandReader_eq divides
      have secondTaken := (two.takenApart secondShallow closes.endsToken).operandReader_eq closes
      exact readTwo_eq_ok.2 ⟨_, _, _, _, opening, firstTaken, comma.after_trimStart, secondTaken,
        closing.after_trimStart⟩

end

end Completeness

end PaperTrading.Grammar
