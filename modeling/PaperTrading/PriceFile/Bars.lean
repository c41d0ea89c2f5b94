/-
Module: PaperTrading.PriceFile.Bars
Purpose: Price bars from files: one file per symbol, a heading and a record per day.
Main exports: barsOfRecords, barsOfText, PriceDirectory, PriceDirectory.fetch, PriceDirectory.symbols
-/
import PaperTrading.Market.PriceBar
import PaperTrading.PriceFile.Problem
import PaperTrading.PriceFile.Record
import PaperTrading.Text.Blank
import PaperTrading.Text.Casing

namespace PaperTrading

/-- A number of a record: blanks around it are ignored, and it must be finite and not negative. -/
def Record.number (record : Record) (field : PriceField) : Except DataProblem Float :=
  match record.fields[field.position]? with
  | none => .error (.missingField record.place.line field)
  | some text =>
    match readFloat (Text.trim text.toList) with
    | .error cause => .error (.invalidField record.place.line field text cause)
    | .ok value =>
      if !value.isFinite || value < 0.0 then .error (.negativeField record.place.line field) else .ok value

/-- The date of a record: blanks around it are ignored. -/
def Record.date (record : Record) : Except DataProblem Date :=
  match record.fields[0]? with
  | none => .error (.missingDate record.place.line)
  | some text =>
    match Date.readChars (Text.trim text.toList) with
    | .error cause => .error (.invalidDate record.place.line text cause)
    | .ok date => .ok date

/-- The bar of a record, if its date is within the range.  The numbers of other records are not looked at. -/
def Record.bar? (symbol : String) (first last : Date) (record : Record) :
    Except DataProblem (Option (PriceBar Float)) := do
  let date ← record.date
  if date < first || last < date then
    return none
  let openPrice ← record.number .openPrice
  let highPrice ← record.number .highPrice
  let lowPrice ← record.number .lowPrice
  let closePrice ← record.number .closePrice
  let volume ← record.number .volume
  return some { symbol, date, openPrice, highPrice, lowPrice, closePrice, volume }

/-- The bars of records that are each as wide as the heading, in file order.  `number` is the number of the first
of them. -/
def barsFrom (symbol : String) (first last : Date) (width number : Nat) :
    List Record → Except DataProblem (List (PriceBar Float))
  | [] => .ok []
  | record :: rest => do
    if record.fields.length ≠ width then
      throw (.unevenRecord number record.place.line record.place.byte record.fields.length width)
    let bar ← record.bar? symbol first last
    let later ← barsFrom symbol first last width (number + 1) rest
    return bar.toList ++ later

/-- The bars of the records after the heading, by date.  Records with the same date stay in file order. -/
def barsOfRecords (symbol : String) (first last : Date) (records : List Record) :
    Except DataProblem (List (PriceBar Float)) :=
  match records with
  | [] => .ok []
  | heading :: rest => do
    let bars ← barsFrom symbol first last heading.fields.length 1 rest
    return bars.mergeSort fun a b => a.date ≤ b.date

/-- The bars of a file, for days within a range. -/
def barsOfText (symbol : String) (first last : Date) (text : String) :
    Except DataProblem (List (PriceBar Float)) :=
  barsOfRecords symbol first last (Record.readAll text)

/-- A directory of price files. -/
structure PriceDirectory where
  path : String

namespace PriceDirectory

/-- The path of the file for a symbol, whose name is in upper case. -/
def fileOf (directory : PriceDirectory) (symbol : String) : String :=
  joinPath directory.path (Text.raised symbol ++ ".csv")

variable {m : Type → Type} [Monad m]

/-- The bars of a symbol, for days within a range. -/
def fetch (directory : PriceDirectory) (access : FileAccess m) (symbol : String) (first last : Date) :
    m (Except DataProblem (List (PriceBar Float))) := do
  let path := directory.fileOf symbol
  match ← access.readText path with
  | .error cause => return .error (.unreadableFile path cause)
  | .ok text => return barsOfText (Text.raised symbol) first last text

/-- The symbols with a file in the directory, in alphabetical order. -/
def symbols (directory : PriceDirectory) (access : FileAccess m) : m (Except DataProblem (List String)) := do
  match ← access.names directory.path with
  | .error cause => return .error (.unreadableDirectory directory.path cause)
  | .ok names => return .ok ((names.filterMap (stemWithExtension? "csv")).mergeSort fun a b => a ≤ b)

end PriceDirectory

end PaperTrading
