/-
Module: PaperTrading.Rule.Misreading
Purpose: What can be wrong with rule text, and where.
Main exports: TextProblem, TextProblem.message, Misreading, ParseError, ParseError.message, showAt
-/
import PaperTrading.Rule.Basic
import PaperTrading.Text.Span

namespace PaperTrading

/-- How deep rules and operands may be nested. -/
def deepestNesting : Nat := 32

/-- What is wrong at a place of a rule text. -/
inductive TextProblem where
  | expectedCharacter (expected : Char) (found : Option Char)
  | tooDeep
  | expectedNumber
  | expectedInteger
  | integerTooLarge (digits : String)
  | expectedOperand (found : String)
  | expectedRule (found : String)
  | tooFewRules (keyword : String)
  | negativePercent (keyword : String)
  | assignedTwice (side : Side)
  | expectedName (found : String)
  | expectedLineEnd (found : String)
deriving DecidableEq, Repr

/-- The wording of each problem. -/
def TextProblem.message : TextProblem → String
  | .expectedCharacter expected (some found) => s!"expected '{expected}', found '{found}'"
  | .expectedCharacter expected none => s!"expected '{expected}', found end of input"
  | .tooDeep => s!"nesting deeper than {deepestNesting} levels"
  | .expectedNumber => "expected number"
  | .expectedInteger => "expected integer"
  | .integerTooLarge digits => s!"invalid integer: {digits}"
  | .expectedOperand found => s!"expected column, number or builtin, found '{found}'"
  | .expectedRule found => s!"expected rule, found '{found}'"
  | .tooFewRules keyword => s!"{keyword} requires at least 2 rules"
  | .negativePercent keyword => s!"{keyword} percentage must not be negative"
  | .assignedTwice side => s!"{side.name} assigned more than once"
  | .expectedName found => s!"expected '{Side.entry.name}' or '{Side.exit.name}', found '{found}'"
  | .expectedLineEnd found => s!"expected end of line, found '{found}'"

/-- A problem, and the part of the text from the place where it was met. -/
structure Misreading where
  problem : TextProblem
  rest : List Char

/-- A problem, and the byte offset of its place in the text. -/
structure ParseError where
  problem : TextProblem
  position : Nat
deriving DecidableEq, Repr

/-- The place of a misreading within the text that was read. -/
def Misreading.inText (source : List Char) (m : Misreading) : ParseError :=
  ⟨m.problem, Text.byteLength source - Text.byteLength m.rest⟩

/-- A message with the byte offset it is about. -/
def messageAt (position : Nat) (message : String) : String :=
  s!"parse error at position {position}: {message}"

/-- A message under the line of the text that it is about, with a mark below the place: as many spaces before the
mark as there are bytes before the place. -/
def showAt (position : Nat) (message : String) (source : String) : String :=
  let (line, start) := Text.lineAround source.toList position
  String.ofList line ++ "\n" ++ String.ofList (List.replicate (position - start) ' ') ++ "^\n" ++
    messageAt position message

namespace ParseError

/-- The wording of an error. -/
def message (e : ParseError) : String :=
  messageAt e.position e.problem.message

/-- The wording of an error, with the line it is about. -/
def shown (e : ParseError) (source : String) : String :=
  showAt e.position e.problem.message source

end ParseError

end PaperTrading
