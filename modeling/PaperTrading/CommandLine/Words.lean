/-
Module: PaperTrading.CommandLine.Words
Purpose: The words of a command line, matched with the parameters of a command.
Main exports: UsageProblem, Parameter, CommandForm, Gathered, CommandForm.gather

A value that follows its parameter as a word of its own is checked only when the next parameter, the next operand
or the end of the line is reached.  So a line with several faults is refused for the one that comes to light
first.
-/
import PaperTrading.Decimal.Reading

namespace PaperTrading

/-- Why a command line is not carried out.  A request for help is one of the reasons. -/
inductive UsageProblem where
  | helpRequested
  | helpForMissingCommand
  | unknownCommand
  | unknownArgument
  | missingArgument
  | missingValue
  | malformedValue
  | repeatedArgument
  | surplusValue
deriving DecidableEq, Repr

/-- The exit code for a line that is not carried out. -/
def UsageProblem.exitCode : UsageProblem → Nat
  | .helpRequested => 0
  | _ => 2

/-- The values that a parameter takes. -/
inductive ValueKind where
  | text
  /-- A path is not empty. -/
  | path
  | number
deriving DecidableEq, Repr

/-- What is wrong with the value of a parameter. -/
def ValueKind.fault? (kind : ValueKind) (value : String) : Option UsageProblem :=
  match kind with
  | .text => none
  | .path => if value.isEmpty then some .missingValue else none
  | .number => if (readFloat value.toList).toOption.isNone then some .malformedValue else none

/-- What a parameter asks for. -/
inductive Demand where
  | value (kind : ValueKind)
  | switch
  | help
deriving DecidableEq, Repr

/-- A parameter of a command, with its long name and its short one. -/
structure Parameter where
  name : String
  letter : Option Char
  demand : Demand
deriving DecidableEq, Repr

/-- The parameter that every command has. -/
def helpParameter : Parameter :=
  ⟨"help", some 'h', .help⟩

/-- A command: its named parameters, and the one that stands without its name, if there is one. -/
structure CommandForm where
  name : String
  named : List Parameter
  operand : Option Parameter

namespace CommandForm

/-- The parameter with a long name. -/
def byName? (form : CommandForm) (name : String) : Option Parameter :=
  (helpParameter :: form.named).find? fun parameter => parameter.name == name

/-- The parameter with a short name. -/
def byLetter? (form : CommandForm) (letter : Char) : Option Parameter :=
  (helpParameter :: form.named).find? fun parameter => parameter.letter == some letter

end CommandForm

/-- What a word is by its shape. -/
inductive Word where
  /-- Two dashes: all that follows is operands. -/
  | escape
  | long (name : String) (value : Option String)
  | short (letters : List Char)
  | plain (value : String)
deriving DecidableEq, Repr

/-- The shape of a word.  A single dash is a plain word. -/
def Word.ofString (word : String) : Word :=
  match word.toList with
  | ['-', '-'] => .escape
  | '-' :: '-' :: rest =>
    let name := String.ofList (rest.takeWhile (· != '='))
    match rest.dropWhile (· != '=') with
    | [] => .long name none
    | _ :: value => .long name (some (String.ofList value))
  | '-' :: letter :: rest => .short (letter :: rest)
  | _ => .plain word

/-- What has been read of a command line. -/
structure Gathered where
  /-- Parameters with values that passed their checks. -/
  settled : List (String × String)
  /-- The last parameter, if its value has not been checked or has not been met yet. -/
  pending : Option (Parameter × Option String)
  /-- The parameter that the next operand is for. -/
  operand : Option Parameter

namespace Gathered

/-- Adds a checked value.  No parameter is given twice. -/
def add (state : Gathered) (name value : String) : Except UsageProblem Gathered :=
  if (state.settled.lookup name).isSome then .error .repeatedArgument
  else .ok { state with settled := (name, value) :: state.settled }

/-- Adds a value after its check. -/
def accept (state : Gathered) (parameter : Parameter) (value : String) : Except UsageProblem Gathered := do
  let state ← state.add parameter.name value
  match parameter.demand with
  | .value kind =>
    match kind.fault? value with
    | some problem => throw problem
    | none => return state
  | _ => return state

/-- Settles the parameter that is pending. -/
def settle (state : Gathered) : Except UsageProblem Gathered :=
  match state.pending with
  | none => .ok state
  | some (_, none) => .error .missingValue
  | some (parameter, some value) => { state with pending := none }.accept parameter value

/-- Takes a named parameter; its value is attached to it, or else is due in the next word. -/
def take (state : Gathered) (parameter : Parameter) (attached : Option String) : Except UsageProblem Gathered :=
  match parameter.demand, attached with
  | .value _, some value => do (← state.settle).accept parameter value
  | .value _, none => do return { (← state.settle) with pending := some (parameter, none) }
  | _, some _ => .error .surplusValue
  | .switch, none => do (← state.settle).add parameter.name ""
  | .help, none => do
    let _ ← state.settle
    throw .helpRequested

/-- Takes a word as the operand. -/
def takeOperand (state : Gathered) (word : String) : Except UsageProblem Gathered :=
  match state.operand with
  | none => .error .unknownArgument
  | some parameter => do
    return { (← state.settle) with pending := some (parameter, some word), operand := none }

/-- Takes a plain word, as the value that is due or as the operand. -/
def takePlain (state : Gathered) (word : String) : Except UsageProblem Gathered :=
  match state.pending with
  | some (parameter, none) => .ok { state with pending := some (parameter, some word) }
  | _ => state.takeOperand word

end Gathered

namespace CommandForm

/-- Takes short names in a row.  What follows a name that asks for a value is its value, without an equals sign in
front. -/
def takeLetters (form : CommandForm) (state : Gathered) : List Char → Except UsageProblem Gathered
  | [] => .ok state
  | letter :: rest =>
    match form.byLetter? letter with
    | none => .error .unknownArgument
    | some parameter =>
      match parameter.demand, rest with
      | .value _, [] => state.take parameter none
      | .value _, '=' :: value => state.take parameter (some (String.ofList value))
      | .value _, value => state.take parameter (some (String.ofList value))
      | _, _ => do form.takeLetters (← state.take parameter none) rest

/-- Matches the words of a line with the parameters of a command. -/
def gatherFrom (form : CommandForm) (state : Gathered) : List String → Except UsageProblem Gathered
  | [] => state.settle
  | word :: rest =>
    match Word.ofString word with
    | .escape => do (← rest.foldlM Gathered.takeOperand state).settle
    | .long name value =>
      match form.byName? name with
      | none => .error .unknownArgument
      | some parameter => do form.gatherFrom (← state.take parameter value) rest
    | .short letters => do form.gatherFrom (← form.takeLetters state letters) rest
    | .plain value => do form.gatherFrom (← state.takePlain value) rest

/-- The values that a line gives to the parameters of a command, by name. -/
def gather (form : CommandForm) (words : List String) : Except UsageProblem (List (String × String)) :=
  (form.gatherFrom ⟨[], none, form.operand⟩ words).map (·.settled)

end CommandForm

end PaperTrading
