/-
Module: PaperTrading.PriceFile.Problem
Purpose: What can be wrong with historical prices.
Main exports: PriceField, DataProblem, DataProblem.message
-/
import PaperTrading.Calendar.Written
import PaperTrading.Decimal.Reading
import PaperTrading.Storage.Access

namespace PaperTrading

/-- The numbers of a price record, in file order after the date. -/
inductive PriceField where
  | openPrice
  | highPrice
  | lowPrice
  | closePrice
  | volume
deriving DecidableEq, Repr

/-- The name of a field in messages. -/
def PriceField.name : PriceField → String
  | .openPrice => "open"
  | .highPrice => "high"
  | .lowPrice => "low"
  | .closePrice => "close"
  | .volume => "volume"

/-- The position of a field in a record. -/
def PriceField.position : PriceField → Nat
  | .openPrice => 1
  | .highPrice => 2
  | .lowPrice => 3
  | .closePrice => 4
  | .volume => 5

/-- Why there are no prices to work with. -/
inductive DataProblem where
  | unreadableFile (path : String) (cause : FileProblem)
  | unreadableDirectory (path : String) (cause : FileProblem)
  /-- A record with another number of fields than the heading; the heading is record 0. -/
  | unevenRecord (number line byte found expected : Nat)
  | missingDate (line : Nat)
  | invalidDate (line : Nat) (text : String) (cause : DateProblem)
  | missingField (line : Nat) (field : PriceField)
  | invalidField (line : Nat) (field : PriceField) (text : String) (cause : RealProblem)
  | negativeField (line : Nat) (field : PriceField)
  | notAscending (symbol : String)
  /-- A problem in the words of another source of prices. -/
  | reported (reason : String)
deriving DecidableEq, Repr

/-- The wording of each problem. -/
def DataProblem.message : DataProblem → String
  | .unreadableFile path cause => s!"failed to read {path}: {cause.message}"
  | .unreadableDirectory path cause => s!"failed to read directory {path}: {cause.message}"
  | .unevenRecord number line byte found expected =>
    s!"CSV parse error: CSV error: record {number} (line: {line}, byte: {byte}): found record with {found} fields, " ++
      s!"but the previous record has {expected} fields"
  | .missingDate line => s!"line {line}: missing date column"
  | .invalidDate line text cause => s!"line {line}: invalid date '{text}': {cause.message}"
  | .missingField line field => s!"line {line}: missing {field.name} column"
  | .invalidField line field text cause => s!"line {line}: invalid {field.name} value '{text}': {cause.message}"
  | .negativeField line field => s!"line {line}: {field.name} must be a non-negative number"
  | .notAscending symbol => s!"bars for {symbol} are not in strictly ascending date order"
  | .reported reason => reason

end PaperTrading
