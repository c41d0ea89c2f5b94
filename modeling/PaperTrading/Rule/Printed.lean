/-
Module: PaperTrading.Rule.Printed
Purpose: Rules as text.
Main exports: Operand.chars, Rule.chars, Rule.keyword, Rule.text
-/
import PaperTrading.Decimal.Numeral
import PaperTrading.Rule.Basic

namespace PaperTrading

variable {α : Type} [Legible α]

/-- A word and the parenthesis that opens its parts. -/
def opening (word : String) : List Char :=
  word.toList ++ ['(']

/-- What stands between two parts. -/
def separator : List Char := [',', ' ']

/-- What stands before a factor. -/
def factorSign : List Char := [' ', '*', ' ']

/-- The text of an operand. -/
def Operand.chars : Operand α → List Char
  | .column source => source.name.toList
  | .constant value => Legible.chars value
  | .abs inner => opening "ABS" ++ inner.chars ++ [')']
  | .round inner => opening "ROUND" ++ inner.chars ++ [')']
  | .min first second => opening "MIN" ++ first.chars ++ separator ++ second.chars ++ [')']
  | .max first second => opening "MAX" ++ first.chars ++ separator ++ second.chars ++ [')']
  | .scaled inner factor => inner.chars ++ factorSign ++ Legible.chars factor

/-- The word that a rule begins with. -/
def Rule.keyword {β : Type} : Rule β → String
  | .compare comparison _ _ => comparison.keyword
  | .all _ => "AND"
  | .any _ => "OR"
  | .warmup _ => "WARMUP"
  | .stopLoss _ => "STOP_LOSS"
  | .takeProfit _ => "TAKE_PROFIT"

mutual

/-- The text of a rule: its word, then its parts in parentheses. -/
def Rule.chars : Rule α → List Char
  | .compare comparison left right =>
    opening comparison.keyword ++ left.chars ++ separator ++ right.chars ++ [')']
  | .all rules => opening "AND" ++ Rule.listChars rules ++ [')']
  | .any rules => opening "OR" ++ Rule.listChars rules ++ [')']
  | .warmup days => opening "WARMUP" ++ Nat.toDigits 10 days ++ [')']
  | .stopLoss percent => opening "STOP_LOSS" ++ Legible.chars percent ++ [')']
  | .takeProfit percent => opening "TAKE_PROFIT" ++ Legible.chars percent ++ [')']

/-- The texts of some rules, with commas between them. -/
def Rule.listChars : List (Rule α) → List Char
  | [] => []
  | [rule] => rule.chars
  | rule :: next :: rest => rule.chars ++ separator ++ Rule.listChars (next :: rest)

end

/-- The text of a rule as a string. -/
def Rule.text (rule : Rule α) : String :=
  String.ofList rule.chars

/-- A line of rule text that assigns a rule to a decision. -/
def Rule.assignment (side : Side) (rule : Rule α) : String :=
  side.name ++ " = " ++ rule.text ++ "\n"

end PaperTrading
