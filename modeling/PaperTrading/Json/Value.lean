/-
Module: PaperTrading.Json.Value
Purpose: JSON documents as trees, and the text of their leaves.
Main exports: Json, Json.numberText, Json.quoted

Whole numbers and doubles are kept apart: a double is always written with a point or an exponent.
-/
import PaperTrading.Decimal.Shortest

namespace PaperTrading

/-- A document.  The entries of an object keep their order. -/
inductive Json where
  | null
  | bool (value : Bool)
  | whole (value : Int)
  | number (value : Float)
  | text (value : String)
  | list (items : List Json)
  | object (entries : List (String × Json))
deriving Inhabited

namespace Json

/-- Doubles are written out if their point stands at most so many digits after the first one. -/
def widestWhole : Int := 16

/-- Doubles are written out if fewer than this many zeros stand between the point and their first digit. -/
def mostLeadingZeros : Int := 5

/-- The shortest text that reads back as a double: digits with a point, or with an exponent where they would run
long.  What is not a number of the real line is null. -/
def numberText (x : Float) : String :=
  match BinaryValue.ofFloat? x with
  | none => "null"
  | some v =>
    let (coefficient, scale) := v.shortest
    let width := (Nat.toDigits 10 coefficient).length
    let point := (width : Int) + scale
    if -mostLeadingZeros < point && point ≤ widestWhole then
      if 0 ≤ scale then
        String.ofList (Numeral.mk v.negative (coefficient * Nat.pow 10 scale.toNat) 0).chars ++ ".0"
      else
        String.ofList (Numeral.mk v.negative coefficient (-scale).toNat).chars
    else
      String.ofList (Numeral.mk v.negative coefficient (width - 1)).chars ++ "e" ++ toString (point - 1)

/-- A digit of the hexadecimal system. -/
def hexDigit (value : Nat) : Char :=
  (Nat.toDigits 16 (value % 16)).headD '0'

/-- A character within quotation marks.  Quotation marks, backslashes and control characters are escaped. -/
def escaped (c : Char) : List Char :=
  if c == '"' then ['\\', '"']
  else if c == '\\' then ['\\', '\\']
  else if c == '\n' then ['\\', 'n']
  else if c == '\r' then ['\\', 'r']
  else if c == '\t' then ['\\', 't']
  else if c.toNat == 8 then ['\\', 'b']
  else if c.toNat == 12 then ['\\', 'f']
  else if c.toNat < 32 then ['\\', 'u', '0', '0', hexDigit (c.toNat / 16), hexDigit c.toNat]
  else [c]

/-- A text in quotation marks. -/
def quoted (text : String) : String :=
  "\"" ++ String.ofList (text.toList.flatMap escaped) ++ "\""

end Json

end PaperTrading
