/-
Module: PaperTrading.Text.Casing
Purpose: Lower and upper case of whole texts, sequences and the final sigma included.
Main exports: lowerCase, upperCase, lowered, raised
-/
import PaperTrading.Text.CaseTables
import PaperTrading.Text.WordCharacter

namespace PaperTrading.Text

/-- Whether a character has a case. -/
def isCased (c : Char) : Bool :=
  if c.toNat < 128 then c.isAlpha else inRanges casedRanges c.toNat

/-- Whether a character is skipped when the end of a word is sought. -/
def isCaseIgnorable (c : Char) : Bool :=
  if c.toNat < 128 then c == '\'' || c == '.' || c == ':' || c == '^' || c.toNat == 96
  else inRanges caseIgnorableRanges c.toNat

/-- Whether the first character that is not skipped has a case. -/
def meetsCased (text : List Char) : Bool :=
  match text.dropWhile isCaseIgnorable with
  | [] => false
  | c :: _ => isCased c

/-- The other case of a character that is not a 7-bit one: a listed sequence, else the run that covers it,
else the character itself. -/
def mapCase (sequences : Array (Nat × List Nat)) (runs : Array CaseRun) (c : Char) : List Char :=
  match sequences.find? fun entry => entry.1 == c.toNat with
  | some entry => entry.2.map Char.ofNat
  | none =>
    match runs.findSome? fun run => run.apply? c.toNat with
    | some code => [Char.ofNat code]
    | none => [c]

/-- The lower case of one character, taken by itself. -/
def lowerOne (c : Char) : List Char :=
  if c.toNat < 128 then [c.toLower] else mapCase lowerSequences lowerRuns c

/-- The upper case of one character. -/
def upperOne (c : Char) : List Char :=
  if c.toNat < 128 then [c.toUpper] else mapCase upperSequences upperRuns c

/-- The lower case of a text; `before` holds the characters already passed, the nearest first.  A capital
sigma at the end of a word takes its final form. -/
def lowerFrom (before : List Char) : List Char → List Char
  | [] => []
  | c :: rest =>
    let image :=
      if c == 'Σ' then
        if meetsCased before && !meetsCased rest then ['ς'] else ['σ']
      else
        lowerOne c
    image ++ lowerFrom (c :: before) rest

/-- The lower case of a text. -/
def lowerCase (text : List Char) : List Char :=
  lowerFrom [] text

/-- The upper case of a text. -/
def upperCase (text : List Char) : List Char :=
  text.flatMap upperOne

/-- The lower case of a string. -/
def lowered (text : String) : String :=
  String.ofList (lowerCase text.toList)

/-- The upper case of a string. -/
def raised (text : String) : String :=
  String.ofList (upperCase text.toList)

end PaperTrading.Text
