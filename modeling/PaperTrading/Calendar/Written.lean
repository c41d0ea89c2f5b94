/-
Module: PaperTrading.Calendar.Written
Purpose: Dates as text, year first.
Main exports: DateProblem, DateProblem.message, Date.read, Date.written

Reading is lenient where writing is strict: blanks may stand before each number, a month or a day may have one
digit, and a year may carry a sign and then any number of digits.
-/
import PaperTrading.Calendar.Date
import PaperTrading.Text.Blank

namespace PaperTrading

/-- Why a text is not a date. -/
inductive DateProblem where
  /-- The text ends where a number or a dash is due. -/
  | ended
  /-- Another character stands where a number or a dash is due. -/
  | unexpected
  /-- A number is too large, or the day does not exist. -/
  | outOfRange
  /-- Text follows the day. -/
  | trailing
deriving DecidableEq, Repr

/-- The wording of each problem. -/
def DateProblem.message : DateProblem → String
  | .ended => "premature end of input"
  | .unexpected => "input contains invalid characters"
  | .outOfRange => "input is out of range"
  | .trailing => "trailing input"

namespace Date

/-- The value of a run of decimal digits. -/
def digitsValue (digits : List Char) : Nat :=
  digits.foldl (fun value digit => value * 10 + (digit.toNat - 48)) 0

/-- The largest value that a number is read up to, and the largest year among them. -/
def largestNumber : Nat := Nat.pow 2 63 - 1

@[inherit_doc largestNumber]
def largestYear : Nat := Nat.pow 2 31 - 1

/-- An unsigned number of at most `width` digits (any number of them for `none`) at the head of a text. -/
def takeNumber (width : Option Nat) (text : List Char) : Except DateProblem (Nat × List Char) :=
  let digits := text.takeWhile Char.isDigit
  let digits := match width with
    | some most => digits.take most
    | none => digits
  match text, digits with
  | [], _ => .error .ended
  | _, [] => .error .unexpected
  | _, _ =>
    let value := digitsValue digits
    if value ≤ largestNumber then .ok (value, text.drop digits.length) else .error .outOfRange

/-- A year: four digits at most, or a sign and then any number of them. -/
def takeYear (text : List Char) : Except DateProblem (Int × List Char) := do
  let (year, rest) ← match Text.trimStart text with
    | '-' :: digits =>
      let (value, rest) ← takeNumber none digits
      pure (-(value : Int), rest)
    | '+' :: digits =>
      let (value, rest) ← takeNumber none digits
      pure ((value : Int), rest)
    | digits =>
      let (value, rest) ← takeNumber (some 4) digits
      pure ((value : Int), rest)
  if -(largestYear : Int) - 1 ≤ year && year ≤ largestYear then .ok (year, rest) else .error .outOfRange

/-- A month or a day: one or two digits, between 1 and `most`. -/
def takePart (most : Nat) (text : List Char) : Except DateProblem (Nat × List Char) := do
  let (value, rest) ← takeNumber (some 2) (Text.trimStart text)
  if 1 ≤ value && value ≤ most then .ok (value, rest) else .error .outOfRange

/-- The dash between two parts. -/
def takeDash : List Char → Except DateProblem (List Char)
  | [] => .error .ended
  | '-' :: rest => .ok rest
  | _ => .error .unexpected

/-- The date that a text spells. -/
def readChars (text : List Char) : Except DateProblem Date := do
  let (year, text) ← takeYear text
  let text ← takeDash text
  let (month, text) ← takePart 12 text
  let text ← takeDash text
  let (day, text) ← takePart 31 text
  match text, Date.of? year month day with
  | _ :: _, _ => .error .trailing
  | [], some date => .ok date
  | [], none => .error .outOfRange

@[inherit_doc readChars]
def read (text : String) : Except DateProblem Date :=
  readChars text.toList

/-- Decimal digits, with zeros in front up to a width. -/
def paddedDigits (width value : Nat) : String :=
  let digits := Nat.toDigits 10 value
  String.ofList (List.replicate (width - digits.length) '0' ++ digits)

/-- Year, month and day with dashes between them.  Years have four digits at least, and a sign unless they are
between 0 and 9999. -/
def written (d : Date) : String :=
  let sign := if d.year < 0 then "-" else if 9999 < d.year then "+" else ""
  sign ++ paddedDigits 4 d.year.natAbs ++ "-" ++ paddedDigits 2 d.month ++ "-" ++ paddedDigits 2 d.day

instance : ToString Date := ⟨written⟩

end Date

end PaperTrading
