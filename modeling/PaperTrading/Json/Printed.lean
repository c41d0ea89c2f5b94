/-
Module: PaperTrading.Json.Printed
Purpose: JSON documents as text, on one line or with an entry per line.
Main exports: Json.onOneLine, Json.indented
-/
import PaperTrading.Json.Value

namespace PaperTrading

namespace Json

mutual

/-- A document without blanks. -/
def onOneLine : Json → String
  | null => "null"
  | bool value => if value then "true" else "false"
  | whole value => toString value
  | number value => numberText value
  | text value => quoted value
  | list items => "[" ++ ",".intercalate (itemsOnOneLine items) ++ "]"
  | object entries => "\x7b" ++ ",".intercalate (entriesOnOneLine entries) ++ "\x7d"

/-- The items of a list without blanks. -/
def itemsOnOneLine : List Json → List String
  | [] => []
  | item :: rest => item.onOneLine :: itemsOnOneLine rest

/-- The entries of an object without blanks. -/
def entriesOnOneLine : List (String × Json) → List String
  | [] => []
  | (key, value) :: rest => (quoted key ++ ":" ++ value.onOneLine) :: entriesOnOneLine rest

end

/-- Two blanks for each level of a document. -/
def margin (depth : Nat) : String :=
  String.ofList (List.replicate (2 * depth) ' ')

/-- Parts between brackets, one on a line, a level deeper than the brackets; nothing between brackets that hold
nothing. -/
def bracketed (depth : Nat) (opening closing : String) (parts : List String) : String :=
  if parts.isEmpty then opening ++ closing
  else
    let line := "\n" ++ margin (depth + 1)
    opening ++ line ++ ("," ++ line).intercalate parts ++ "\n" ++ margin depth ++ closing

mutual

/-- A document with an entry per line, at a level. -/
def indentedAt (depth : Nat) : Json → String
  | list items => bracketed depth "[" "]" (indentedItems depth items)
  | object entries => bracketed depth "\x7b" "\x7d" (indentedEntries depth entries)
  | leaf => leaf.onOneLine

/-- The items of a list at a level. -/
def indentedItems (depth : Nat) : List Json → List String
  | [] => []
  | item :: rest => item.indentedAt (depth + 1) :: indentedItems depth rest

/-- The entries of an object at a level. -/
def indentedEntries (depth : Nat) : List (String × Json) → List String
  | [] => []
  | (key, value) :: rest => (quoted key ++ ": " ++ value.indentedAt (depth + 1)) :: indentedEntries depth rest

end

/-- A document with an entry per line. -/
def indented (document : Json) : String :=
  document.indentedAt 0

end Json

end PaperTrading
