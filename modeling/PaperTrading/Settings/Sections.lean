/-
Module: PaperTrading.Settings.Sections
Purpose: Settings in sections, as a text of keys and values.
Main exports: Settings, SettingsProblem, Settings.read, Settings.get?, Settings.set, Settings.double, Settings.int,
  Settings.bool, Settings.textOr

Names of sections and keys are kept in lower case.  What follows a semicolon or a number sign on a line is a
comment.  Keys before the first heading belong to the section `default`.
-/
import PaperTrading.Decimal.Reading
import PaperTrading.Text.Blank
import PaperTrading.Text.Casing

namespace PaperTrading

/-- A setting: its section, its key, and its value if it has one. -/
structure Setting where
  heading : String
  key : String
  value : Option String
deriving DecidableEq, Repr

/-- Settings, the latest first.  A later setting takes the place of an earlier one with the same names. -/
structure Settings where
  entries : List Setting

/-- Why a text is not a text of settings; lines are counted from 1. -/
inductive SettingsProblem where
  | unclosedHeading (line : Nat)
  | emptyKey (line : Nat)
deriving DecidableEq, Repr

/-- The wording of each problem. -/
def SettingsProblem.message : SettingsProblem → String
  | .unclosedHeading line =>
    s!"line {line}: Found opening bracket for section name but no closing bracket"
  | .emptyKey line => s!"line {line}:0: Key cannot be empty"

namespace Settings

/-- No settings. -/
def empty : Settings := ⟨[]⟩

/-- The value of a setting, if it is there and has one.  The case of the names does not matter. -/
def get? (settings : Settings) (heading key : String) : Option String :=
  let heading := Text.lowered heading
  let key := Text.lowered key
  (settings.entries.find? fun entry => entry.heading == heading && entry.key == key).bind (·.value)

/-- The settings with one set to a value, which is kept as it is. -/
def set (settings : Settings) (heading key : String) (value : Option String) : Settings :=
  ⟨⟨Text.lowered heading, Text.lowered key, value⟩ :: settings.entries⟩

/-- Whether a setting is there and has a value. -/
def has (settings : Settings) (heading key : String) : Bool :=
  (settings.get? heading key).isSome

/-- The value of a setting, or another text if it has none or a blank one. -/
def textOr (settings : Settings) (heading key default : String) : String :=
  ((settings.get? heading key).filter fun value => !Text.allBlank value).getD default

/-- The value of a setting as a whole number, or another one if it is none. -/
def int (settings : Settings) (heading key : String) (default : Int) : Int :=
  ((settings.get? heading key).bind fun value => readInt64? value.toList).getD default

/-- The value of a setting as a double, or another one if it is none. -/
def double (settings : Settings) (heading key : String) (default : Float) : Float :=
  ((settings.get? heading key).bind fun value => (readFloat value.toList).toOption).getD default

/-- The truth value that a word stands for, in any case. -/
def readBool? (text : String) : Option Bool :=
  let word := Text.lowered (Text.trimmed text)
  if ["true", "yes", "on", "1"].contains word then some true
  else if ["false", "no", "off", "0"].contains word then some false
  else none

/-- The value of a setting as a truth value, or another one if it is none. -/
def bool (settings : Settings) (heading key : String) (default : Bool) : Bool :=
  ((settings.get? heading key).bind readBool?).getD default

/-- Whether a character begins a comment. -/
def beginsComment (c : Char) : Bool :=
  c == ';' || c == '#'

/-- Whether a character stands between a key and its value. -/
def isDelimiter (c : Char) : Bool :=
  c == '=' || c == ':'

/-- What a line means. -/
inductive Line where
  | blank
  | heading (name : String)
  | setting (key : String) (value : Option String)

/-- The text between the opening bracket of a heading and the last closing one. -/
def headingName? (text : List Char) : Option (List Char) :=
  match text.reverse.dropWhile (· != ']') with
  | ']' :: reversed => some reversed.reverse
  | _ => none

/-- Reads a line with a number. -/
def readLine (number : Nat) (line : List Char) : Except SettingsProblem Line :=
  match Text.trim ((Text.trim line).takeWhile fun c => !beginsComment c) with
  | [] => .ok .blank
  | '[' :: rest =>
    match headingName? rest with
    | some name => .ok (.heading (String.ofList (Text.lowerCase (Text.trim name))))
    | none => .error (.unclosedHeading number)
  | text =>
    let key := String.ofList (Text.lowerCase (Text.trim (text.takeWhile fun c => !isDelimiter c)))
    let value := match text.dropWhile fun c => !isDelimiter c with
      | [] => none
      | _ :: value => some (String.ofList (Text.trim value))
    if key.isEmpty then .error (.emptyKey number) else .ok (.setting key value)

/-- Reads the lines from a number on into a section. -/
def readLines (heading : String) (settings : Settings) (number : Nat) :
    List (List Char) → Except SettingsProblem Settings
  | [] => .ok settings
  | line :: rest =>
    match readLine number line with
    | .error problem => .error problem
    | .ok .blank => readLines heading settings (number + 1) rest
    | .ok (.heading name) => readLines name settings (number + 1) rest
    | .ok (.setting key value) =>
      readLines heading ⟨⟨heading, key, value⟩ :: settings.entries⟩ (number + 1) rest

/-- The section of keys that come before the first heading. -/
def defaultSection : String := "default"

/-- The settings that a text holds. -/
def read (text : String) : Except SettingsProblem Settings :=
  readLines defaultSection .empty 1 ((text.splitOn "\n").map (·.toList))

end Settings

end PaperTrading
