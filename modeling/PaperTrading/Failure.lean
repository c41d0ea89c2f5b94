/-
Module: PaperTrading.Failure
Purpose: Everything that can keep a strategy from being tested.
Main exports: SettingFault, Failure, Failure.message, Failure.exitCode
-/
import PaperTrading.PriceFile.Problem
import PaperTrading.Rule.Rulebook
import PaperTrading.Settings.Sections

namespace PaperTrading

/-- What is wrong with the value of a setting. -/
inductive SettingFault where
  | symbolCharacters
  | symbolEmpty
  | capitalNotNumber
  | capitalNotPositive
  | commissionNegative
  | dateFormat (key : String)
  | startNotBeforeEnd
  | budgetNotPositive
deriving DecidableEq, Repr

namespace SettingFault

/-- The section of the setting. -/
def heading : SettingFault → String
  | budgetNotPositive => "sandbox"
  | _ => "backtest"

/-- The key of the setting. -/
def key : SettingFault → String
  | symbolCharacters | symbolEmpty => "symbol"
  | capitalNotNumber | capitalNotPositive => "initial_capital"
  | commissionNegative => "commission_per_trade"
  | dateFormat key => key
  | startNotBeforeEnd => "start_date"
  | budgetNotPositive => "call_budget_ms"

/-- The wording of each fault. -/
def reason : SettingFault → String
  | symbolCharacters => "symbol may only contain letters, digits, '.', '-' and '_'"
  | symbolEmpty => "symbol must not be empty"
  | capitalNotNumber => "initial_capital must be a number"
  | capitalNotPositive => "initial_capital must be positive"
  | commissionNegative => "commission_per_trade must be non-negative"
  | dateFormat key => s!"invalid {key} format, expected YYYY-MM-DD"
  | startNotBeforeEnd => "start_date must be before end_date"
  | budgetNotPositive => "call_budget_ms must be positive"

end SettingFault

/-- Why settings cannot be read. -/
inductive SettingsFailure where
  /-- A text without a file. -/
  | text (cause : SettingsProblem)
  | file (path : String) (cause : SettingsProblem)
  | unreadable (path : String) (cause : FileProblem)
deriving DecidableEq, Repr

namespace SettingsFailure

/-- The name of the file. -/
def origin : SettingsFailure → String
  | text _ => "<string>"
  | file path _ | unreadable path _ => path

/-- The wording of each failure. -/
def reason : SettingsFailure → String
  | text cause => cause.message
  | file path cause => s!"couldn't read {path}: {cause.message}"
  | unreadable path cause => s!"couldn't read {path}: {cause.message}"

end SettingsFailure

/-- Why a strategy was not tested. -/
inductive Failure where
  /-- The description leaves these questions open. -/
  | clarification (prompts : List String)
  | refused (refusal : Refusal)
  | noHistory (symbol : String) (first last : Date)
  | data (problem : DataProblem)
  | settings (cause : SettingsFailure)
  | missingSetting (heading key : String)
  | invalidSetting (fault : SettingFault)
  | file (problem : FileProblem)
deriving DecidableEq

namespace Failure

/-- The wording of each failure. -/
def message : Failure → String
  | clarification prompts => "strategy needs clarification: " ++ " ".intercalate prompts
  | refused refusal => "generated rules rejected: " ++ refusal.message
  | noHistory symbol first last => s!"no historical data for {symbol} between {first} and {last}"
  | data problem => "data error: " ++ problem.message
  | settings cause => s!"config parse error in {cause.origin}: {cause.reason}"
  | missingSetting heading key => s!"missing config key [{heading}] {key}"
  | invalidSetting fault => s!"invalid config value [{fault.heading}] {fault.key}: {fault.reason}"
  | file problem => problem.message

/-- The exit code of a program that stops at a failure. -/
def exitCode : Failure → Nat
  | file _ => 1
  | settings _ | missingSetting .. | invalidSetting _ => 2
  | data _ => 3
  | clarification _ => 4
  | refused _ => 5
  | noHistory .. => 6

end Failure

end PaperTrading
