/-
Module: PaperTrading.Decimal.Numeral
Purpose: Positional decimal numerals, their text, and the number types that can be written with them.
Main exports: Numeral, Numeral.chars, Numeral.scan, Numeral.read?, Legible, Legible.text

A numeral is kept apart from the number it stands for.  Text and numeral determine each other, for every number
type; only the step between numeral and number depends on the type.
-/

namespace PaperTrading

/-- The decimal numeral `coefficient / 10 ^ places`, with its sign. -/
structure Numeral where
  negative : Bool
  coefficient : Nat
  places : Nat
deriving DecidableEq, Repr

namespace Numeral

/-- The digits of the coefficient, with zeros in front so that one stands before the point. -/
def digits (n : Numeral) : List Char :=
  let digits := Nat.toDigits 10 n.coefficient
  List.replicate (n.places + 1 - digits.length) '0' ++ digits

/-- The text of a numeral: a minus sign for a negative one, digits, and a point before the last `places`. -/
def chars (n : Numeral) : List Char :=
  let whole := n.digits.take (n.digits.length - n.places)
  let fraction := n.digits.drop (n.digits.length - n.places)
  (if n.negative then ['-'] else []) ++ whole ++ (if n.places = 0 then [] else '.' :: fraction)

/-- The value of a run of decimal digits. -/
def digitsValue (digits : List Char) : Nat :=
  digits.foldl (fun value digit => value * 10 + (digit.toNat - 48)) 0

/-- The sign at the head of a text, and the rest. -/
def takeSign : List Char → Bool × List Char
  | '-' :: rest => (true, rest)
  | text => (false, text)

/-- The digits at the head of a text before a point and after it, and the rest.  A point may stand first or
last. -/
def takeDigits (text : List Char) : (List Char × List Char) × List Char :=
  let whole := text.takeWhile Char.isDigit
  match text.dropWhile Char.isDigit with
  | '.' :: rest => ((whole, rest.takeWhile Char.isDigit), rest.dropWhile Char.isDigit)
  | rest => ((whole, []), rest)

/-- The longest numeral at the head of a text, and the rest; none without a digit. -/
def scan (text : List Char) : Option (Numeral × List Char) :=
  let (negative, text) := takeSign text
  let ((whole, fraction), rest) := takeDigits text
  match whole ++ fraction with
  | [] => none
  | all => some (⟨negative, digitsValue all, fraction.length⟩, rest)

/-- The numeral that a whole text spells. -/
def read? (text : List Char) : Option Numeral :=
  match scan text with
  | some (n, []) => some n
  | _ => none

end Numeral

/-- Number types that can be read from numerals and written as numerals. -/
class Legible (α : Type) where
  /-- The number a numeral stands for. -/
  ofNumeral : Numeral → α
  /-- The numeral a number is written as, if it has one. -/
  toNumeral? : α → Option Numeral
  /-- The word that stands for a number without a numeral. -/
  word : α → String

/-- The text of a number. -/
def Legible.chars {α : Type} [Legible α] (x : α) : List Char :=
  match toNumeral? x with
  | some n => n.chars
  | none => (word x).toList

/-- The text of a number as a string. -/
def Legible.text {α : Type} [Legible α] (x : α) : String :=
  String.ofList (chars x)

end PaperTrading
