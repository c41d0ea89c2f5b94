/-
Module: PaperTrading.PriceFile.Record
Purpose: Text as records of comma-separated fields.
Main exports: RecordPlace, Record, Record.readAll

A record ends at a line end of either kind, and empty lines are passed over.  A field that begins with a quotation
mark runs to the next one; in it commas and line ends are plain characters, and a doubled mark stands for one.
What follows the closing mark belongs to the field as well.
-/
import PaperTrading.Text.Span

namespace PaperTrading

/-- Where the reader stood when it turned to a record, right after the character that ended the one before: the
line counts newlines only, and a byte order mark is among the bytes. -/
structure RecordPlace where
  line : Nat
  byte : Nat
deriving DecidableEq, Repr

/-- The fields of a record, and where it was found. -/
structure Record where
  place : RecordPlace
  fields : List String
deriving DecidableEq, Repr

namespace Record

/-- Where the reader is within a record. -/
inductive Mode where
  | between
  | fieldStart
  | inField
  | inQuotes
  | afterQuote
deriving DecidableEq, Repr

/-- The record being read: its finished fields and the current one, both backwards. -/
structure Draft where
  mode : Mode
  place : RecordPlace
  fields : List String
  field : List Char

/-- A record not begun, at a place. -/
def Draft.fresh (place : RecordPlace) : Draft :=
  ⟨.between, place, [], []⟩

/-- The draft with one more character in its field. -/
def Draft.add (draft : Draft) (mode : Mode) (c : Char) : Draft :=
  { draft with mode := mode, field := c :: draft.field }

/-- The draft with its field finished. -/
def Draft.endField (draft : Draft) : Draft :=
  { draft with mode := .fieldStart, fields := String.ofList draft.field.reverse :: draft.fields, field := [] }

/-- The record of a draft. -/
def Draft.finish (draft : Draft) : Record :=
  ⟨draft.place, draft.endField.fields.reverse⟩

/-- Whether a character ends a record. -/
def isRecordEnd (c : Char) : Bool :=
  c == '\n' || c == '\r'

/-- The effect of a character outside quotation marks that does not begin them: it ends the record, ends the field
or belongs to it.  `none` stands for the end of the record. -/
def plainStep (draft : Draft) (c : Char) : Option Draft :=
  if c == ',' then some draft.endField
  else if isRecordEnd c then none
  else some (draft.add .inField c)

/-- The effect of a character on a draft. -/
def step (draft : Draft) (c : Char) : Option Draft :=
  match draft.mode with
  | .between =>
    if isRecordEnd c then some draft
    else if c == '"' then some { draft with mode := .inQuotes }
    else plainStep draft c
  | .fieldStart => if c == '"' then some { draft with mode := .inQuotes } else plainStep draft c
  | .inField => plainStep draft c
  | .inQuotes => if c == '"' then some { draft with mode := .afterQuote } else some (draft.add .inQuotes c)
  | .afterQuote => if c == '"' then some (draft.add .inQuotes c) else plainStep draft c

/-- The place after a character. -/
def placeAfter (place : RecordPlace) (c : Char) : RecordPlace :=
  ⟨if c == '\n' then place.line + 1 else place.line, place.byte + c.utf8Size⟩

/-- Reads the records of a text from a place on. -/
def readFrom (draft : Draft) (place : RecordPlace) : List Char → List Record
  | [] => if draft.mode == .between then [] else [draft.finish]
  | c :: rest =>
    let next := placeAfter place c
    match step draft c with
    | some draft => readFrom draft next rest
    | none => draft.finish :: readFrom (.fresh next) next rest

/-- The records of a text, without a byte order mark at its start. -/
def readAll (text : String) : List Record :=
  let place : RecordPlace := ⟨1, 0⟩
  match text.toList with
  | '\uFEFF' :: rest => readFrom (.fresh place) (placeAfter place '\uFEFF') rest
  | chars => readFrom (.fresh place) place chars

end Record

end PaperTrading
