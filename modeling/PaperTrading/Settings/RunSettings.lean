/-
Module: PaperTrading.Settings.RunSettings
Purpose: The settings of a run, checked.
Main exports: RunSettings, readDateSetting, SettingsPort, RunSettings.ofPort, Settings.port, RunSettings.ofSettings

The checks run in a fixed order, and the first fault is reported: symbol, capital, commission, dates, time budget.
They ask a port; settings that were read from a text are one.
-/
import PaperTrading.Failure

namespace PaperTrading

/-- The settings that a run needs. -/
structure RunSettings where
  symbol : String
  startDate : Date
  endDate : Date
  initialCapital : Float
  commission : Float
  budgetMilliseconds : Int
  dataDirectory : String

/-- The section with the settings of a run. -/
def runHeading : String := "backtest"

/-- The initial capital where none is set. -/
def defaultCapital : Float := 100000.0

/-- The time budget of a decision, in milliseconds, where none is set. -/
def defaultBudget : Int := 50

/-- The directory of price files where none is set. -/
def defaultDataDirectory : String := "data"

/-- A date from the value of a setting. -/
def readDateSetting (value : Option String) (key : String) : Except Failure Date :=
  match value with
  | none => .error (.missingSetting runHeading key)
  | some text =>
    match Date.readChars (Text.trim text.toList) with
    | .ok date => .ok date
    | .error _ => .error (.invalidSetting (.dateFormat key))

/-- The characters that a symbol may consist of. -/
def isSymbolCharacter (c : Char) : Bool :=
  c.isAlphanum || c == '.' || c == '-' || c == '_'

/-- A place that settings are asked for, by section and key.  For a number or a text there may be a default, to be given
where there is none.  Whether a setting is there, its text and its number need not agree with each other. -/
structure SettingsPort where
  get? : (heading key : String) → Option String
  has : (heading key : String) → Bool
  int : (heading key : String) → (default : Int) → Int
  double : (heading key : String) → (default : Float) → Float
  textOr : (heading key default : String) → String

namespace SettingsPort

variable (port : SettingsPort)

/-- The symbol, without blanks around it. -/
def symbol : Except Failure String :=
  match port.get? runHeading "symbol" with
  | none => .error (.missingSetting runHeading "symbol")
  | some value =>
    let symbol := Text.trimmed value
    if symbol.isEmpty then .error (.missingSetting runHeading "symbol")
    else if symbol.toList.all isSymbolCharacter then .ok symbol
    else .error (.invalidSetting .symbolCharacters)

/-- The initial capital: finite and positive. -/
def initialCapital : Except Failure Float :=
  let unreadable := (port.double runHeading "initial_capital" (0.0 / 0.0)).isNaN
  if port.has runHeading "initial_capital" && unreadable then .error (.invalidSetting .capitalNotNumber)
  else
    let capital := port.double runHeading "initial_capital" defaultCapital
    if !capital.isFinite || capital ≤ 0.0 then .error (.invalidSetting .capitalNotPositive) else .ok capital

/-- The fee per trade: finite and not negative. -/
def commission : Except Failure Float :=
  let fee := port.double runHeading "commission_per_trade" 0.0
  if !fee.isFinite || fee < 0.0 then .error (.invalidSetting .commissionNegative) else .ok fee

/-- The first and the last day, in this order. -/
def dates : Except Failure (Date × Date) := do
  let startDate ← readDateSetting (port.get? runHeading "start_date") "start_date"
  let endDate ← readDateSetting (port.get? runHeading "end_date") "end_date"
  if endDate ≤ startDate then .error (.invalidSetting .startNotBeforeEnd) else .ok (startDate, endDate)

/-- The time budget of a decision in milliseconds, which is positive. -/
def budget : Except Failure Int :=
  let milliseconds := port.int "sandbox" "call_budget_ms" defaultBudget
  if milliseconds ≤ 0 then .error (.invalidSetting .budgetNotPositive) else .ok milliseconds

/-- The directory of the price files. -/
def dataDirectory : String :=
  port.textOr runHeading "data_dir" defaultDataDirectory

/-- How much is logged. -/
def logLevel : String :=
  port.textOr "logging" "level" "info"

end SettingsPort

/-- The checked settings of a run, from a port. -/
def RunSettings.ofPort (port : SettingsPort) : Except Failure RunSettings := do
  let symbol ← port.symbol
  let initialCapital ← port.initialCapital
  let commission ← port.commission
  let (startDate, endDate) ← port.dates
  let budgetMilliseconds ← port.budget
  return { symbol, startDate, endDate, initialCapital, commission, budgetMilliseconds
           dataDirectory := port.dataDirectory }

namespace Settings

variable (settings : Settings)

/-- Settings as a port. -/
def port : SettingsPort :=
  ⟨settings.get?, settings.has, settings.int, settings.double, settings.textOr⟩

/-- The symbol of settings. -/
def symbol : Except Failure String :=
  settings.port.symbol

/-- The fee per trade of settings. -/
def commission : Except Failure Float :=
  settings.port.commission

/-- The time budget of settings. -/
def budget : Except Failure Int :=
  settings.port.budget

/-- The directory of price files of settings. -/
def dataDirectory : String :=
  settings.port.dataDirectory

/-- How much is logged with settings. -/
def logLevel : String :=
  settings.port.logLevel

end Settings

/-- The checked settings of a run. -/
def RunSettings.ofSettings (settings : Settings) : Except Failure RunSettings :=
  ofPort settings.port

end PaperTrading
