/-
Module: PaperTrading.Proofs.Grammar.Language
Purpose: The grammar of rule text, without a reader.
Main exports: Mark, Word, Number, Integer, OperandText, RuleText, Gap, LineEnd, AssignmentText, ProgramText

Every phrase of the grammar relates a text to what is left of it behind the phrase.  Within an assignment, blanks of
any kind may stand before each token; between assignments there may be comments, too.
-/
import PaperTrading.Proofs.Decimal.Spelling

namespace PaperTrading.Grammar

open Text (StopsBefore)

section Tokens

/-- Any number of blanks. -/
def Blanks (text rest : List Char) : Prop :=
  ∃ run, (∀ c ∈ run, Text.isBlank c = true) ∧ text = run ++ rest

/-- The punctuation marks. -/
inductive Punctuation where
  | opening
  | closing
  | comma
  | times
  | equals

/-- The character of a mark. -/
def Punctuation.char : Punctuation → Char
  | opening => '('
  | closing => ')'
  | comma => ','
  | times => '*'
  | equals => '='

/-- A punctuation mark. -/
def Mark (mark : Punctuation) (text rest : List Char) : Prop :=
  Blanks text (mark.char :: rest)

/-- A name or keyword.  No letter, digit or underscore follows it. -/
def Word (word : String) (text rest : List Char) : Prop :=
  Blanks text (word.toList ++ rest) ∧ StopsBefore isNameCharacter rest

/-- A number. -/
def Number (n : Numeral) (text rest : List Char) : Prop :=
  ∃ chars, Numeral.Spelling n chars ∧ Blanks text (chars ++ rest)

/-- A whole number of 64 bits, without a sign. -/
def Integer (value : Nat) (text rest : List Char) : Prop :=
  ∃ digits, (∀ c ∈ digits, c.isDigit = true) ∧ digits ≠ [] ∧ Blanks text (digits ++ rest) ∧
    Numeral.digitsValue digits = value ∧ value < Nat.pow 2 64

end Tokens

section Operands

variable {α : Type} [Legible α]

mutual

/-- An operand.  Any number of factors may follow one. -/
inductive OperandText : Operand α → List Char → List Char → Prop
  | column {column : Column} {text rest : List Char} (name : Word column.name text rest) :
      OperandText (.column column) text rest
  | constant {n : Numeral} {text rest : List Char} (number : Number n text rest) :
      OperandText (.constant (Legible.ofNumeral n)) text rest
  | abs {inner : Operand α} {text argument rest : List Char} (keyword : Word "ABS" text argument)
      (inside : OneOperand inner argument rest) : OperandText (.abs inner) text rest
  | round {inner : Operand α} {text argument rest : List Char} (keyword : Word "ROUND" text argument)
      (inside : OneOperand inner argument rest) : OperandText (.round inner) text rest
  | min {first second : Operand α} {text arguments rest : List Char} (keyword : Word "MIN" text arguments)
      (inside : TwoOperands first second arguments rest) : OperandText (.min first second) text rest
  | max {first second : Operand α} {text arguments rest : List Char} (keyword : Word "MAX" text arguments)
      (inside : TwoOperands first second arguments rest) : OperandText (.max first second) text rest
  | scaled {inner : Operand α} {n : Numeral} {text times factor rest : List Char}
      (operand : OperandText inner text times) (star : Mark .times times factor) (number : Number n factor rest) :
      OperandText (.scaled inner (Legible.ofNumeral n)) text rest

/-- An operand in parentheses. -/
inductive OneOperand : Operand α → List Char → List Char → Prop
  | mk {operand : Operand α} {text start stop rest : List Char} (opening : Mark .opening text start)
      (inside : OperandText operand start stop) (closing : Mark .closing stop rest) : OneOperand operand text rest

/-- Two operands in parentheses, with a comma between them. -/
inductive TwoOperands : Operand α → Operand α → List Char → List Char → Prop
  | mk {first second : Operand α} {text start middle next stop rest : List Char} (opening : Mark .opening text start)
      (one : OperandText first start middle) (comma : Mark .comma middle next)
      (two : OperandText second next stop) (closing : Mark .closing stop rest) : TwoOperands first second text rest

end

end Operands

section Rules

variable {α : Type} [Legible α] [Arithmetic α]

/-- A percentage in parentheses, which is not negative. -/
def PercentText (percent : α) (text rest : List Char) : Prop :=
  ∃ n start stop, Mark .opening text start ∧ Number n start stop ∧ Mark .closing stop rest ∧
    Legible.ofNumeral n = percent ∧ Arithmetic.lt percent (Arithmetic.whole 0) = false

/-- A number of days in parentheses. -/
def DaysText (days : Nat) (text rest : List Char) : Prop :=
  ∃ start stop, Mark .opening text start ∧ Integer days start stop ∧ Mark .closing stop rest

mutual

/-- A rule. -/
inductive RuleText : Rule α → List Char → List Char → Prop
  | compare {comparison : Comparison} {left right : Operand α} {text arguments rest : List Char}
      (keyword : Word comparison.keyword text arguments) (inside : TwoOperands left right arguments rest) :
      RuleText (.compare comparison left right) text rest
  | all {rules : List (Rule α)} {text arguments rest : List Char} (keyword : Word "AND" text arguments)
      (inside : RulesText rules arguments rest) : RuleText (.all rules) text rest
  | any {rules : List (Rule α)} {text arguments rest : List Char} (keyword : Word "OR" text arguments)
      (inside : RulesText rules arguments rest) : RuleText (.any rules) text rest
  | warmup {days : Nat} {text argument rest : List Char} (keyword : Word "WARMUP" text argument)
      (inside : DaysText days argument rest) : RuleText (.warmup days) text rest
  | stopLoss {percent : α} {text argument rest : List Char} (keyword : Word "STOP_LOSS" text argument)
      (inside : PercentText percent argument rest) : RuleText (.stopLoss percent) text rest
  | takeProfit {percent : α} {text argument rest : List Char} (keyword : Word "TAKE_PROFIT" text argument)
      (inside : PercentText percent argument rest) : RuleText (.takeProfit percent) text rest

/-- Two rules at least in parentheses, with commas between them. -/
inductive RulesText : List (Rule α) → List Char → List Char → Prop
  | mk {first second : Rule α} {others : List (Rule α)} {text start middle rest : List Char}
      (opening : Mark .opening text start) (one : RuleText first start middle)
      (more : MoreRulesText (second :: others) middle rest) : RulesText (first :: second :: others) text rest

/-- The rules of a list from a comma on, and the parenthesis that closes the list. -/
inductive MoreRulesText : List (Rule α) → List Char → List Char → Prop
  | close {text rest : List Char} (closing : Mark .closing text rest) : MoreRulesText [] text rest
  | comma {rule : Rule α} {others : List (Rule α)} {text next middle rest : List Char} (comma : Mark .comma text next)
      (one : RuleText rule next middle) (more : MoreRulesText others middle rest) :
      MoreRulesText (rule :: others) text rest

end

end Rules

section Programs

/-- Blanks and comments.  A comment goes from a number sign to the end of its line, or of the text. -/
inductive Gap : List Char → List Char → Prop
  | none {text : List Char} : Gap text text
  | blank {c : Char} {text rest : List Char} (blank : Text.isBlank c = true) (gap : Gap text rest) :
      Gap (c :: text) rest
  | comment {comment text rest : List Char} (oneLine : '\n' ∉ comment) (ended : StopsBefore (· != '\n') text)
      (gap : Gap text rest) : Gap ('#' :: (comment ++ text)) rest

/-- Spaces and tabs, and then the end of a line or of the text, or a comment. -/
def LineEnd (text rest : List Char) : Prop :=
  ∃ run, (∀ c ∈ run, c = ' ' ∨ c = '\t') ∧ text = run ++ rest ∧
    ∀ c ∈ rest.head?, c = '\n' ∨ c = '\r' ∨ c = '#'

variable {α : Type} [Legible α] [Arithmetic α]

/-- The assignment of a rule to a decision. -/
inductive AssignmentText : Side → Rule α → List Char → List Char → Prop
  | mk {side : Side} {rule : Rule α} {text name start stop rest : List Char} (word : Word side.name text name)
      (equals : Mark .equals name start) (value : RuleText rule start stop) (lineEnd : LineEnd stop rest) :
      AssignmentText side rule text rest

/-- Assignments to the end of a text, with gaps around them.  They turn the one program into the other: each one
gives a rule to a decision that has none. -/
inductive ProgramText : Program α → List Char → Program α → Prop
  | done {program : Program α} {text : List Char} (gap : Gap text []) : ProgramText program text program
  | assign {program result : Program α} {side : Side} {rule : Rule α} {text start rest : List Char}
      (gap : Gap text start) (assignment : AssignmentText side rule start rest)
      (free : program.get side = none) (more : ProgramText (program.set rule side) rest result) :
      ProgramText program text result

end Programs

end PaperTrading.Grammar
