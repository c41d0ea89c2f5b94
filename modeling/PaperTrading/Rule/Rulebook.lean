/-
Module: PaperTrading.Rule.Rulebook
Purpose: Rule text that is admitted to decide trades, and why text is refused.
Main exports: Refusal, Refusal.message, scanText, Rulebook, Rulebook.ofSource

Nothing in rule text is ever run.  The scan for telling words only keeps out text that was meant for another
interpreter.
-/
import PaperTrading.Rule.Reader
import PaperTrading.Rule.Verdict
import PaperTrading.Text.Casing

namespace PaperTrading

/-- The length in bytes that rule text may have. -/
def longestSource : Nat := 16 * 1024

/-- Words that rule text must not contain, in any case.  The first of the list that occurs is reported. -/
def deniedWords : List String :=
  ["import", "__", "exec", "eval", "compile", "open(", "file(", "os.", "sys.", "subprocess", "socket", "system(",
    "popen", "globals", "locals", "getattr", "setattr", "lambda", "input(", "shutil", "pickle", "urllib",
    "requests", "http", "std::", "unsafe"]

/-- Why rule text is refused. -/
inductive Refusal where
  | denied (word : String)
  | tooLong (length : Nat)
  | missing (side : Side)
  | misread (cause : ParseError)
deriving DecidableEq, Repr

/-- The wording of each refusal. -/
def Refusal.message : Refusal → String
  | .denied word => s!"denylisted token '{word}' in generated source"
  | .tooLong length => s!"generated source is {length} bytes, limit is {longestSource}"
  | .missing side => s!"generated source does not define {side.name}"
  | .misread cause => cause.message

/-- The wording of a refusal; text that was misread is quoted. -/
def Refusal.shown (refusal : Refusal) (source : String) : String :=
  match refusal with
  | .misread cause => cause.shown source
  | other => other.message

/-- The first denied word that a text contains. -/
def deniedWord? (source : String) : Option String :=
  let text := Text.lowerCase source.toList
  deniedWords.find? fun word => Text.occursIn word.toList text

/-- Refuses text with a denied word. -/
def scanText (source : String) : Except Refusal Unit :=
  match deniedWord? source with
  | some word => .error (.denied word)
  | none => .ok ()

/-- The rules for both decisions, and the text they were read from. -/
structure Rulebook (α : Type) where
  source : String
  entry : Rule α
  exit : Rule α

namespace Rulebook

variable {α : Type} [Arithmetic α]

/-- The rulebook that a text spells.  Its length is checked first, then its words, then its rules; a missing entry
rule is reported before a missing exit rule. -/
def ofSource [Legible α] (source : String) : Except Refusal (Rulebook α) :=
  let length := source.utf8ByteSize
  if longestSource < length then .error (.tooLong length)
  else
    match scanText source with
    | .error refusal => .error refusal
    | .ok () =>
      match Program.read source with
      | .error cause => .error (.misread cause)
      | .ok ⟨none, _⟩ => .error (.missing .entry)
      | .ok ⟨some _, none⟩ => .error (.missing .exit)
      | .ok ⟨some entry, some exit⟩ => .ok ⟨source, entry, exit⟩

/-- The number of days on which the entry rule cannot hold. -/
def warmupBars {β : Type} (rulebook : Rulebook β) : Nat :=
  rulebook.entry.warmupBars

/-- Whether to buy on a day, without a position. -/
def enters (rulebook : Rulebook α) (panel : Array (PanelRow α)) (index : Nat) (budget : Budget) :
    Except EvalProblem Bool :=
  rulebook.entry.evaluate panel index none budget

/-- Whether to sell on a day the position that was entered at a point. -/
def leaves (rulebook : Rulebook α) (panel : Array (PanelRow α)) (index : Nat) (entered : EntryPoint α)
    (budget : Budget) : Except EvalProblem Bool :=
  rulebook.exit.evaluate panel index (some entered) budget

end Rulebook

end PaperTrading
