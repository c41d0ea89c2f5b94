/-
Module: PaperTrading.Text.Blank
Purpose: Blank characters, and text without the blanks at its ends.
Main exports: isBlank, isInlineBlank, trimStart, trim, trimmed, allBlank
-/

namespace PaperTrading.Text

/-- White space of any script: the six control characters, the space, and the wider spaces. -/
def isBlank (c : Char) : Bool :=
  c == ' ' || (9 ≤ c.toNat && c.toNat ≤ 13) || c.toNat == 0x85 || c.toNat == 0xA0 || c.toNat == 0x1680 ||
    (0x2000 ≤ c.toNat && c.toNat ≤ 0x200A) || c.toNat == 0x2028 || c.toNat == 0x2029 ||
    c.toNat == 0x202F || c.toNat == 0x205F || c.toNat == 0x3000

/-- The blanks that do not end a line of rule text: space and tab. -/
def isInlineBlank (c : Char) : Bool :=
  c == ' ' || c == '\t'

/-- The text from its first character that is not blank. -/
def trimStart (text : List Char) : List Char :=
  text.dropWhile isBlank

/-- The text without the blanks at either end. -/
def trim (text : List Char) : List Char :=
  (trimStart (trimStart text).reverse).reverse

/-- A string without the blanks at either end. -/
def trimmed (text : String) : String :=
  String.ofList (trim text.toList)

/-- Whether nothing but blanks is in the string. -/
def allBlank (text : String) : Bool :=
  text.toList.all isBlank

end PaperTrading.Text
