/-
Module: PaperTrading.CommandLine.Invocation
Purpose: Command lines as commands to carry out.
Main exports: Overrides, Invocation, Invocation.read
-/
import PaperTrading.CommandLine.Words

namespace PaperTrading

/-- Values that take the place of settings. -/
structure Overrides where
  symbol : Option String
  startDate : Option String
  endDate : Option String
  initialCapital : Option Float
  dataDirectory : Option String

/-- What a command line asks for. -/
inductive Invocation where
  /-- Test a strategy on historical prices. -/
  | backtest (settingsFile description category : String) (overrides : Overrides) (asDocument : Bool)
  /-- Show how a description is understood. -/
  | interpret (description category : String)
  /-- Check a file of rules. -/
  | check (path : String)
  /-- List the symbols with prices. -/
  | symbols (settingsFile : String)

/-- The category of a strategy where none is given. -/
def defaultCategory : String := "swing"

/-- The forms of the commands. -/
def commandForms : List CommandForm :=
  [{ name := "backtest"
     named :=
      [⟨"config", some 'c', .value .path⟩, ⟨"strategy", some 's', .value .text⟩,
        ⟨"category", none, .value .text⟩, ⟨"symbol", none, .value .text⟩,
        ⟨"start-date", none, .value .text⟩, ⟨"end-date", none, .value .text⟩,
        ⟨"initial-capital", none, .value .number⟩, ⟨"data-dir", none, .value .path⟩,
        ⟨"json", none, .switch⟩]
     operand := none },
    { name := "interpret"
      named := [⟨"category", none, .value .text⟩]
      operand := some ⟨"text", none, .value .text⟩ },
    { name := "check"
      named := []
      operand := some ⟨"file", none, .value .path⟩ },
    { name := "symbols"
      named := [⟨"config", some 'c', .value .path⟩]
      operand := none }]

/-- The word that asks for help on a command. -/
def helpCommand : String := "help"

/-- The form of a command. -/
def commandForm? (name : String) : Option CommandForm :=
  commandForms.find? fun form => form.name == name

/-- Whether a word names a command or asks for help. -/
def isCommandName (word : String) : Bool :=
  word == helpCommand || (commandForm? word).isSome

/-- The value of a parameter that must be given. -/
def requiredValue (values : List (String × String)) (name : String) : Except UsageProblem String :=
  match values.lookup name with
  | some value => .ok value
  | none => .error .missingArgument

namespace Invocation

/-- The command with a name, from the values of its parameters. -/
def ofValues (command : String) (values : List (String × String)) : Except UsageProblem Invocation := do
  let category := (values.lookup "category").getD defaultCategory
  match command with
  | "backtest" =>
    let settingsFile ← requiredValue values "config"
    let description ← requiredValue values "strategy"
    let overrides : Overrides :=
      { symbol := values.lookup "symbol"
        startDate := values.lookup "start-date"
        endDate := values.lookup "end-date"
        initialCapital := (values.lookup "initial-capital").bind fun text => (readFloat text.toList).toOption
        dataDirectory := values.lookup "data-dir" }
    return .backtest settingsFile description category overrides (values.lookup "json").isSome
  | "interpret" => return .interpret (← requiredValue values "text") category
  | "check" => return .check (← requiredValue values "file")
  | "symbols" => return .symbols (← requiredValue values "config")
  | _ => throw .unknownCommand

/-- The problem of a line that asks for help, possibly on a command. -/
def helpProblem (words : List String) : UsageProblem :=
  match words with
  | [] => .helpRequested
  | [word] => if isCommandName word then .helpRequested else .unknownCommand
  | _ => .unknownCommand

/-- The problem of a line that does not begin with the name of a command. -/
def problemWithoutCommand (word : String) (rest : List String) : UsageProblem :=
  match Word.ofString word, rest with
  | .escape, [] => .helpForMissingCommand
  | .escape, next :: _ => if isCommandName next then .unknownArgument else .unknownCommand
  | .long "help" none, _ => .helpRequested
  | .long "help" (some _), _ => .surplusValue
  | .long _ _, _ => .unknownArgument
  | .short ('h' :: _), _ => .helpRequested
  | .short _, _ => .unknownArgument
  | .plain _, _ => .unknownCommand

/-- The command that a line asks for, from its words after the name of the program. -/
def read (words : List String) : Except UsageProblem Invocation :=
  match words with
  | [] => .error .helpForMissingCommand
  | word :: rest =>
    if word == helpCommand then .error (helpProblem rest)
    else
      match commandForm? word with
      | some form => do ofValues form.name (← form.gather rest)
      | none => .error (problemWithoutCommand word rest)

end Invocation

end PaperTrading
