/-
Module: PaperTrading.Rule.Reader
Purpose: Rules from text.
Main exports: readNumber, operandReader, ruleReader, readProgram, Program.read

A reader takes a value from the head of a text and returns the rest, or a misreading with the rest at the place
of the problem.  Blanks of any kind, line ends included, may stand before every token within an assignment.
-/
import PaperTrading.Arithmetic.Basic
import PaperTrading.Decimal.Numeral
import PaperTrading.Rule.Misreading
import PaperTrading.Text.Blank

namespace PaperTrading

open Text (trimStart)

/-- Takes a value from the head of a text. -/
abbrev Reader (β : Type) := List Char → Except Misreading (β × List Char)

/-- The problem, at the head of a text. -/
def misread {β : Type} (problem : TextProblem) (rest : List Char) : Except Misreading β :=
  .error ⟨problem, rest⟩

/-- The characters of names and keywords. -/
def isNameCharacter (c : Char) : Bool :=
  c.isAlphanum || c == '_'

/-- The name or keyword at the head of a text, and what follows it. -/
def splitWord (text : List Char) : String × List Char :=
  (String.ofList (text.takeWhile isNameCharacter), text.dropWhile isNameCharacter)

/-- What an error message calls the head of a text: its word, else its first character. -/
def describeHead (text : List Char) : String :=
  match text with
  | [] => "end of input"
  | c :: _ =>
    match text.takeWhile isNameCharacter with
    | [] => c.toString
    | word => String.ofList word

/-- The text after one expected character. -/
def skipCharacter (expected : Char) (text : List Char) : Except Misreading (List Char) :=
  match trimStart text with
  | [] => misread (.expectedCharacter expected none) []
  | c :: rest => if c = expected then .ok rest else misread (.expectedCharacter expected (some c)) (c :: rest)

/-- Skips blanks and comments.  A comment runs from a number sign to the end of its line; `inComment` says whether
the text starts within one. -/
def skipTrivia (inComment : Bool) : List Char → List Char
  | [] => []
  | c :: rest =>
    if inComment then skipTrivia (c != '\n') rest
    else if c = '#' then skipTrivia true rest
    else if Text.isBlank c then skipTrivia false rest
    else c :: rest

/-- The largest whole number that rule text may hold. -/
def largestInteger : Nat := Nat.pow 2 64 - 1

/-- An unsigned whole number. -/
def readInteger : Reader Nat := fun text =>
  let start := trimStart text
  match start.takeWhile Char.isDigit with
  | [] => misread .expectedInteger start
  | digits =>
    let value := Numeral.digitsValue digits
    if value ≤ largestInteger then .ok (value, start.dropWhile Char.isDigit)
    else misread (.integerTooLarge (String.ofList digits)) start

section Numbers

variable {α : Type} [Legible α]

/-- A number. -/
def readNumber : Reader α := fun text =>
  let start := trimStart text
  match Numeral.scan start with
  | some (n, rest) => .ok (Legible.ofNumeral n, rest)
  | none => misread .expectedNumber start

/-- The operand times every factor that follows it.  Each round takes a character at least, so as many rounds as
the text has characters are enough. -/
def readFactors : (rounds : Nat) → Operand α → Reader (Operand α)
  | 0, operand, text => .ok (operand, text)
  | rounds + 1, operand, text =>
    match trimStart text with
    | '*' :: rest => do
      let (factor, rest) ← readNumber rest
      readFactors rounds (.scaled operand factor) rest
    | rest => .ok (operand, rest)

/-- Whether an operand that begins with this character is a number. -/
def startsNumber (c : Char) : Bool :=
  c.isDigit || c == '-' || c == '.'

/-- The operand in parentheses. -/
def readOne (inner : Reader (Operand α)) : Reader (Operand α) := fun text => do
  let text ← skipCharacter '(' text
  let (operand, text) ← inner text
  let text ← skipCharacter ')' text
  .ok (operand, text)

/-- The two operands in parentheses. -/
def readTwo (inner : Reader (Operand α)) : Reader (Operand α × Operand α) := fun text => do
  let text ← skipCharacter '(' text
  let (first, text) ← inner text
  let text ← skipCharacter ',' text
  let (second, text) ← inner text
  let text ← skipCharacter ')' text
  .ok ((first, second), text)

/-- An operand without factors; `inner` reads the operands it is built from. -/
def readPrimary (inner : Reader (Operand α)) : Reader (Operand α) := fun text =>
  let start := trimStart text
  if start.head?.any startsNumber then do
    let (value, rest) ← readNumber start
    .ok (.constant value, rest)
  else
    let (word, rest) := splitWord start
    match word with
    | "ABS" => (readOne inner rest).map fun (operand, rest) => (.abs operand, rest)
    | "ROUND" => (readOne inner rest).map fun (operand, rest) => (.round operand, rest)
    | "MIN" => (readTwo inner rest).map fun ((first, second), rest) => (.min first second, rest)
    | "MAX" => (readTwo inner rest).map fun ((first, second), rest) => (.max first second, rest)
    | _ =>
      match Column.ofName? word with
      | some column => .ok (.column column, rest)
      | none => misread (.expectedOperand (describeHead start)) start

/-- An operand nested at most `levels` deep. -/
def operandReader : (levels : Nat) → Reader (Operand α)
  | 0 => misread .tooDeep
  | levels + 1 => fun text => do
    let (operand, rest) ← readPrimary (operandReader levels) text
    readFactors rest.length operand rest

/-- The rules up to a closing parenthesis, each after a comma.  Each round takes a character at least, so as many
rounds as the text has characters are enough. -/
def readMoreRules (inner : Reader (Rule α)) : (rounds : Nat) → Reader (List (Rule α))
  | 0, text => misread (.expectedCharacter ',' none) text
  | rounds + 1, text =>
    match trimStart text with
    | ')' :: rest => .ok ([], rest)
    | rest => do
      let rest ← skipCharacter ',' rest
      let (rule, rest) ← inner rest
      let (rules, rest) ← readMoreRules inner rounds rest
      .ok (rule :: rules, rest)

/-- Two rules at least in parentheses. -/
def readRules (keyword : String) (inner : Reader (Rule α)) : Reader (List (Rule α)) := fun text => do
  let text ← skipCharacter '(' text
  let (first, text) ← inner text
  let (others, text) ← readMoreRules inner (text.length + 1) text
  if others.isEmpty then misread (.tooFewRules keyword) text else .ok (first :: others, text)

variable [Arithmetic α]

/-- A percentage in parentheses, which is not negative. -/
def readPercent (keyword : String) : Reader α := fun text => do
  let text ← skipCharacter '(' text
  let (percent, rest) ← readNumber text
  if Arithmetic.lt percent (Arithmetic.whole 0) then misread (.negativePercent keyword) text
  else
    let rest ← skipCharacter ')' rest
    .ok (percent, rest)

/-- A rule nested at most `levels` deep. -/
def ruleReader : (levels : Nat) → Reader (Rule α)
  | 0 => misread .tooDeep
  | levels + 1 => fun text =>
    let start := trimStart text
    let (word, rest) := splitWord start
    match Comparison.ofKeyword? word with
    | some comparison =>
      (readTwo (operandReader levels) rest).map fun ((left, right), rest) =>
        (.compare comparison left right, rest)
    | none =>
      match word with
      | "AND" => (readRules word (ruleReader levels) rest).map fun (rules, rest) => (.all rules, rest)
      | "OR" => (readRules word (ruleReader levels) rest).map fun (rules, rest) => (.any rules, rest)
      | "STOP_LOSS" => (readPercent word rest).map fun (percent, rest) => (.stopLoss percent, rest)
      | "TAKE_PROFIT" => (readPercent word rest).map fun (percent, rest) => (.takeProfit percent, rest)
      | "WARMUP" => do
        let rest ← skipCharacter '(' rest
        let (days, rest) ← readInteger rest
        let rest ← skipCharacter ')' rest
        .ok (.warmup days, rest)
      | _ => misread (.expectedRule (describeHead start)) start

/-- The decision that a name stands for. -/
def sideOfName? (word : String) : Option Side :=
  if word = Side.entry.name then some .entry
  else if word = Side.exit.name then some .exit
  else none

/-- Whether an assignment may end before this text: at the end, a line end or a comment. -/
def endsAssignment (text : List Char) : Bool :=
  match text with
  | [] => true
  | c :: _ => c == '\n' || c == '\r' || c == '#'

/-- One assignment, for a decision that the program does not have yet. -/
def readAssignment (program : Program α) : Reader (Program α) := fun start =>
  let (word, rest) := splitWord start
  match sideOfName? word with
  | none => misread (.expectedName (describeHead start)) start
  | some side =>
    if (program.get side).isSome then misread (.assignedTwice side) start
    else do
      let rest ← skipCharacter '=' rest
      let (rule, rest) ← ruleReader deepestNesting rest
      let rest := rest.dropWhile Text.isInlineBlank
      if endsAssignment rest then .ok (program.set rule side, rest)
      else misread (.expectedLineEnd (describeHead rest)) rest

/-- Reads assignments to the end of the text.  Each one fills a decision, so the third round finds the end or
fails. -/
def readAssignments : (rounds : Nat) → Program α → List Char → Except Misreading (Program α)
  | 0, program, _ => .ok program
  | rounds + 1, program, text =>
    match skipTrivia false text with
    | [] => .ok program
    | start => do
      let (program, rest) ← readAssignment program start
      readAssignments rounds program rest

/-- The program that a text spells. -/
def readProgram (text : List Char) : Except Misreading (Program α) :=
  readAssignments 3 ⟨none, none⟩ text

/-- The program that a string spells. -/
def Program.read (source : String) : Except ParseError (Program α) :=
  match readProgram source.toList with
  | .ok program => .ok program
  | .error misreading => .error (misreading.inText source.toList)

end Numbers

end PaperTrading
