/-
Module: PaperTrading.Main
Purpose: The program: files on disk, standard output and standard error.
Main exports: main
-/
import PaperTrading.CommandLine.Answer

namespace PaperTrading

/-- The problem that an error of the file system stands for. -/
def fileProblem : IO.Error → FileProblem
  | .noFileOrDirectory .. | .noSuchThing .. => .notFound
  | .inappropriateType _ 21 _ => .isDirectory
  | .inappropriateType .. => .notDirectory
  | error => .other (toString error)

/-- What text must be. -/
def notText : FileProblem := .other "stream did not contain valid UTF-8"

/-- Files on disk. -/
def diskAccess : FileAccess IO where
  readText path := do
    match ← (IO.FS.readBinFile path).toBaseIO with
    | .error error => return .error (fileProblem error)
    | .ok bytes =>
      match String.fromUTF8? bytes with
      | some text => return .ok text
      | none => return .error notText
  names path := do
    match ← (do (← IO.FS.realPath path).readDir : IO (Array IO.FS.DirEntry)).toBaseIO with
    | .error error => return .error (fileProblem error)
    | .ok entries => return .ok (entries.toList.map (·.fileName))

/-- How the commands are written. -/
def usageLines : List String :=
  ["Usage:",
    "  backtest --config <file> --strategy <text> [--category <text>] [--symbol <name>] [--start-date <date>]",
    "           [--end-date <date>] [--initial-capital <number>] [--data-dir <directory>] [--json]",
    "  interpret <text> [--category <text>]",
    "  check <file>",
    "  symbols --config <file>"]

end PaperTrading

open PaperTrading in
/-- Carries out the command of a command line. -/
def main (words : List String) : IO UInt32 := do
  match Invocation.read words with
  | .error problem =>
    let out ← if problem = .helpRequested then IO.getStdout else IO.getStderr
    out.putStr (linesText usageLines)
    return UInt32.ofNat problem.exitCode
  | .ok invocation =>
    let answer ← invocation.answer diskAccess
    (← IO.getStderr).putStr answer.diagnostics
    (← IO.getStdout).putStr answer.output.content
    return UInt32.ofNat answer.exitCode
