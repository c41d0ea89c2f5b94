/-
Module: PaperTrading.CommandLine.Answer
Purpose: What each command answers.
Main exports: Output, Answer, settingsFrom, Overrides.apply, Invocation.answer

Results that another program may read go to the output, everything said to a person goes to the diagnostics.
-/
import PaperTrading.Arithmetic.Binary64
import PaperTrading.CommandLine.Invocation
import PaperTrading.CommandLine.Summary
import PaperTrading.Json.Printed
import PaperTrading.PriceFile.Bars
import PaperTrading.Report.Document
import PaperTrading.Settings.RunSettings

namespace PaperTrading

/-- What a command writes to its output. -/
inductive Output where
  | text (content : String)
  | report (content : Report Float)

/-- Output as text. -/
def Output.content : Output → String
  | .text content => content
  | .report content => content.document.indented ++ "\n"

/-- The answer of a command. -/
structure Answer where
  exitCode : Nat
  output : Output
  diagnostics : String

namespace Answer

/-- The answer of a command that did its work. -/
def success (output : Output) (diagnostics : List String) : Answer :=
  ⟨0, output, linesText diagnostics⟩

/-- The answer of a command that failed. -/
def failure (cause : Failure) : Answer :=
  ⟨cause.exitCode, .text "", linesText cause.lines⟩

/-- The answer to the outcome of a command. -/
def ofOutcome (outcome : Except Failure Answer) : Answer :=
  match outcome with
  | .ok answer => answer
  | .error cause => failure cause

end Answer

/-- The settings with some values put in their place. -/
def Overrides.apply (overrides : Overrides) (settings : Settings) : Settings :=
  let replacements :=
    [("symbol", overrides.symbol), ("start_date", overrides.startDate), ("end_date", overrides.endDate),
      ("initial_capital", overrides.initialCapital.map Legible.text), ("data_dir", overrides.dataDirectory)]
  replacements.foldl
    (fun settings (key, value) => if value.isSome then settings.set runHeading key value else settings) settings

section Commands

variable {m : Type → Type} [Monad m]

/-- The settings in a file. -/
def settingsFrom (access : FileAccess m) (path : String) : m (Except Failure Settings) := do
  match ← access.readText path with
  | .error cause => return .error (.settings (.unreadable path cause))
  | .ok text =>
    match Settings.read text with
    | .error cause => return .error (.settings (.file path cause))
    | .ok settings => return .ok settings

/-- Tests a strategy with checked settings.  Prices are read only for a strategy that is understood.  A decision is a
walk over one rule tree of bounded depth, far below any budget that settings can give, so the run has an ample one. -/
def backtestWith (access : FileAccess m) (description category : String) (settings : RunSettings) :
    m (Except Failure (Report Float)) := do
  let request : Request Float :=
    { description, category
      symbol := settings.symbol
      startDate := settings.startDate
      endDate := settings.endDate
      initialCapital := settings.initialCapital }
  match request.ready with
  | .error cause => return .error cause
  | .ok prepared =>
    let directory : PriceDirectory := ⟨settings.dataDirectory⟩
    match ← directory.fetch access request.symbol request.startDate request.endDate with
    | .error problem => return .error (.data problem)
    | .ok bars => return request.report ⟨settings.commission, .ample⟩ (fun _ => false) prepared bars

/-- The answer to a report: a document, or lines for a reader. -/
def reportAnswer (asDocument : Bool) (report : Report Float) : Answer :=
  if asDocument then .success (.report report) [] else .success (.text "") report.lines

/-- The answer to a description: its rules, and how it was understood. -/
def interpretAnswer (description category : String) : Except Failure Answer :=
  let intent : Intent Float := interpret description category
  match intent.draft with
  | .error prompts => .error (.clarification prompts)
  | .ok source => .ok (.success (.text (source ++ "\n")) intent.summary.lines)

/-- The answer to a text of rules. -/
def checkAnswer (source : String) : Answer :=
  let compiled : Except Refusal (Rulebook Float) := Rulebook.ofSource source
  match compiled with
  | .ok rulebook =>
    .success
      (.text (Rule.assignment .entry rulebook.entry ++ Rule.assignment .exit rulebook.exit ++
        s!"warmup: {rulebook.warmupBars} bars\n"))
      []
  | .error refusal =>
    ⟨(Failure.refused refusal).exitCode, .text "",
      linesText ["error: generated rules rejected:", refusal.shown source]⟩

/-- The answer to a command. -/
def Invocation.answer (access : FileAccess m) (invocation : Invocation) : m Answer := do
  match invocation with
  | .backtest settingsFile description category overrides asDocument =>
    match ← settingsFrom access settingsFile with
    | .error cause => return .failure cause
    | .ok settings =>
      match RunSettings.ofSettings (overrides.apply settings) with
      | .error cause => return .failure cause
      | .ok settings =>
        let outcome ← backtestWith access description category settings
        return .ofOutcome (outcome.map (reportAnswer asDocument))
  | .interpret description category => return .ofOutcome (interpretAnswer description category)
  | .check path =>
    match ← access.readText path with
    | .error cause => return .failure (.file cause)
    | .ok source => return checkAnswer source
  | .symbols settingsFile =>
    match ← settingsFrom access settingsFile with
    | .error cause => return .failure cause
    | .ok settings =>
      let directory : PriceDirectory := ⟨settings.dataDirectory⟩
      match ← directory.symbols access with
      | .error problem => return .failure (.data problem)
      | .ok listed => return .success (.text (linesText listed)) []

end Commands

end PaperTrading
