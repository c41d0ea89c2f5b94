/-
Module: PaperTrading.Text.Span
Purpose: Lengths and places in text, counted in UTF-8 bytes, and the search for a word.
Main exports: byteLength, occursIn, lineAround
-/

namespace PaperTrading.Text

/-- The length of a text in UTF-8 bytes. -/
def byteLength (text : List Char) : Nat :=
  text.foldr (fun c length => c.utf8Size + length) 0

@[simp] theorem byteLength_nil : byteLength [] = 0 := rfl

@[simp] theorem byteLength_cons (c : Char) (text : List Char) :
    byteLength (c :: text) = c.utf8Size + byteLength text := rfl

@[simp] theorem byteLength_append (first second : List Char) :
    byteLength (first ++ second) = byteLength first + byteLength second := by
  induction first with
  | nil => simp
  | cons c rest ih => simp [ih, Nat.add_assoc]

/-- Whether `word` occurs somewhere in `text`. -/
def occursIn (word : List Char) : List Char → Bool
  | [] => word.isEmpty
  | c :: rest => word.isPrefixOf (c :: rest) || occursIn word rest

/-- The characters that start before the given byte offset, and the rest. -/
def splitAtByte : Nat → List Char → List Char × List Char
  | _, [] => ([], [])
  | 0, text => ([], text)
  | offset + 1, c :: rest =>
    let parts := splitAtByte (offset + 1 - c.utf8Size) rest
    (c :: parts.1, parts.2)

/-- The line of a text that holds a byte offset, without its newline, and the offset at which it starts.  An
offset past the end counts as the end. -/
def lineAround (text : List Char) (offset : Nat) : List Char × Nat :=
  let parts := splitAtByte offset text
  let head := (parts.1.reverse.takeWhile (· != '\n')).reverse
  (head ++ parts.2.takeWhile (· != '\n'), byteLength parts.1 - byteLength head)

end PaperTrading.Text
