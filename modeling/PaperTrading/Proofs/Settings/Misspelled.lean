/-
Module: PaperTrading.Proofs.Settings.Misspelled
Purpose: What becomes of a setting that should be a number and is not spelled as one.
Main exports: SettingsPort.AgreesAt, Settings.get?_set, Settings.port_set_agrees, Settings.MisspellsReal,
  Settings.MisspellsWhole, misspelled_numbers, misspelled_fee_and_budget_accepted

The capital is checked for this before its value is looked at.  The fee and the time budget are not: where they are
misspelled, they are passed over as if they had not been set.
-/
import PaperTrading.Proofs.Stages
import PaperTrading.Settings.RunSettings

namespace PaperTrading

section Agreement

/-- Two ports answer alike about a setting. -/
structure SettingsPort.AgreesAt (port other : SettingsPort) (heading key : String) : Prop where
  get? : other.get? heading key = port.get? heading key
  has : other.has heading key = port.has heading key
  int : other.int heading key = port.int heading key
  double : other.double heading key = port.double heading key
  textOr : other.textOr heading key = port.textOr heading key

namespace SettingsPort

variable {port other : SettingsPort}

theorem symbol_congr (agrees : port.AgreesAt other runHeading "symbol") : other.symbol = port.symbol := by
  rw [symbol, symbol, agrees.get?]

theorem initialCapital_congr (agrees : port.AgreesAt other runHeading "initial_capital") :
    other.initialCapital = port.initialCapital := by
  rw [initialCapital, initialCapital, agrees.has, agrees.double]

theorem commission_congr (agrees : port.AgreesAt other runHeading "commission_per_trade") :
    other.commission = port.commission := by
  rw [commission, commission, agrees.double]

theorem dates_congr (start : port.AgreesAt other runHeading "start_date")
    (stop : port.AgreesAt other runHeading "end_date") : other.dates = port.dates := by
  rw [dates, dates, start.get?, stop.get?]

theorem budget_congr (agrees : port.AgreesAt other "sandbox" "call_budget_ms") : other.budget = port.budget := by
  rw [budget, budget, agrees.int]

theorem dataDirectory_congr (agrees : port.AgreesAt other runHeading "data_dir") :
    other.dataDirectory = port.dataDirectory := by
  rw [dataDirectory, dataDirectory, agrees.textOr]

end SettingsPort

/-- Ports that pass the same checks in the same way have the settings of the same run. -/
theorem RunSettings.ofPort_congr {port other : SettingsPort} (symbol : other.symbol = port.symbol)
    (capital : other.initialCapital = port.initialCapital) (fee : other.commission = port.commission)
    (dates : other.dates = port.dates) (budget : other.budget = port.budget)
    (directory : other.dataDirectory = port.dataDirectory) : ofPort other = ofPort port := by
  rw [ofPort, ofPort, symbol, capital, fee, dates, budget, directory]

end Agreement

namespace Settings

section Changes

variable (settings : Settings) {heading key : String} (value : Option String)

/-- A setting has the value that it was set to, and every other one has the value that it had. -/
theorem get?_set (otherHeading otherKey : String) :
    (settings.set heading key value).get? otherHeading otherKey =
      if Text.lowered heading = Text.lowered otherHeading ∧ Text.lowered key = Text.lowered otherKey then value
      else settings.get? otherHeading otherKey := by
  simp only [get?, set, List.find?_cons]
  by_cases same : Text.lowered heading = Text.lowered otherHeading ∧ Text.lowered key = Text.lowered otherKey
  · rw [if_pos same, beq_iff_eq.2 same.1, beq_iff_eq.2 same.2]
    rfl
  · have apart : (Text.lowered heading == Text.lowered otherHeading && Text.lowered key == Text.lowered otherKey) =
        false := by
      rw [← Bool.not_eq_true, Bool.and_eq_true, beq_iff_eq, beq_iff_eq]
      exact same
    rw [if_neg same, apart]

/-- Two keys, or the sections that they are in, have different names. -/
def Differ (heading key otherHeading otherKey : String) : Prop :=
  ¬(Text.lowered heading = Text.lowered otherHeading ∧ Text.lowered key = Text.lowered otherKey)

instance (heading key otherHeading otherKey : String) : Decidable (Differ heading key otherHeading otherKey) :=
  inferInstanceAs (Decidable ¬_)

/-- A setting without a value falls back to the default, as a number of either kind. -/
theorem double_set_none (heading key : String) (default : Float) :
    (settings.set heading key none).double heading key default = default := by
  rw [double, get?_set, if_pos ⟨rfl, rfl⟩]
  rfl

theorem int_set_none (heading key : String) (default : Int) :
    (settings.set heading key none).int heading key default = default := by
  rw [int, get?_set, if_pos ⟨rfl, rfl⟩]
  rfl

/-- About other settings than the one that changes, the port of settings answers as before. -/
theorem port_set_agrees {otherHeading otherKey : String} (differ : Differ heading key otherHeading otherKey) :
    settings.port.AgreesAt (settings.set heading key value).port otherHeading otherKey := by
  have same : (settings.set heading key value).get? otherHeading otherKey = settings.get? otherHeading otherKey := by
    rw [get?_set, if_neg differ]
  refine ⟨same, ?has, funext fun default => ?int, funext fun default => ?double, funext fun default => ?textOr⟩
  case has => simp only [port, has, same]
  case int => simp only [port, int, same]
  case double => simp only [port, double, same]
  case textOr => simp only [port, textOr, same]

end Changes

section Misspelling

variable {settings : Settings} {heading key : String}

/-- A setting has a value, and the value spells no real number. -/
def MisspellsReal (settings : Settings) (heading key : String) : Prop :=
  ∃ text problem, settings.get? heading key = some text ∧ readFloat text.toList = .error problem

/-- A setting has a value, and the value spells no whole number of 64 bits. -/
def MisspellsWhole (settings : Settings) (heading key : String) : Prop :=
  ∃ text, settings.get? heading key = some text ∧ readInt64? text.toList = none

theorem MisspellsReal.has (misspells : settings.MisspellsReal heading key) : settings.has heading key = true := by
  obtain ⟨text, problem, given, -⟩ := misspells
  rw [Settings.has, given]
  rfl

theorem MisspellsReal.double (misspells : settings.MisspellsReal heading key) (default : Float) :
    settings.double heading key default = default := by
  obtain ⟨text, problem, given, unreadable⟩ := misspells
  rw [Settings.double, given, Option.bind_some, unreadable]
  rfl

theorem MisspellsWhole.int (misspells : settings.MisspellsWhole heading key) (default : Int) :
    settings.int heading key default = default := by
  obtain ⟨text, given, unreadable⟩ := misspells
  rw [Settings.int, given, Option.bind_some, unreadable]
  rfl

/-- A misspelled capital is noticed. -/
theorem initialCapital_of_misspelled (misspells : settings.MisspellsReal runHeading "initial_capital") :
    settings.port.initialCapital = .error (.invalidSetting .capitalNotNumber) := by
  have undefined : (0.0 / 0.0 : Float).isNaN = true := by decide
  simp only [SettingsPort.initialCapital, port, misspells.has, misspells.double, undefined, Bool.and_self, if_true]

/-- Where the fee falls back to its default there is none. -/
theorem commission_of_default (fallsBack : settings.double runHeading "commission_per_trade" 0.0 = 0.0) :
    settings.commission = .ok 0.0 := by
  have free : (!(0.0 : Float).isFinite || decide ((0.0 : Float) < 0.0)) = false := by decide
  simp only [commission, SettingsPort.commission, port, fallsBack, free, Bool.false_eq_true, if_false]

/-- Where the time budget falls back to its default it is the usual one. -/
theorem budget_of_default (fallsBack : settings.int "sandbox" "call_budget_ms" defaultBudget = defaultBudget) :
    settings.budget = .ok defaultBudget := by
  simp only [budget, SettingsPort.budget, port, fallsBack]
  rfl

end Misspelling

end Settings

section Runs

variable (settings : Settings)

/-- What becomes of numbers that are misspelled.  A misspelled capital is refused, with its section and its key, if the
symbol is in order.  A misspelled fee and a misspelled time budget are not noticed: the run is settled as it is without
them, for no fee and for the usual budget. -/
theorem misspelled_numbers :
    (settings.MisspellsReal runHeading "initial_capital" → ∀ symbol, settings.symbol = .ok symbol →
        ∃ fault, RunSettings.ofSettings settings = .error (.invalidSetting fault) ∧ fault.heading = runHeading ∧
          fault.key = "initial_capital") ∧
      (settings.MisspellsReal runHeading "commission_per_trade" →
        settings.commission = .ok 0.0 ∧
          RunSettings.ofSettings settings =
            RunSettings.ofSettings (settings.set runHeading "commission_per_trade" none)) ∧
      (settings.MisspellsWhole "sandbox" "call_budget_ms" →
        settings.budget = .ok defaultBudget ∧
          RunSettings.ofSettings settings = RunSettings.ofSettings (settings.set "sandbox" "call_budget_ms" none)) := by
  refine ⟨?capital, ?fee, ?budget⟩
  case capital =>
    intro misspells symbol inOrder
    have refused := settings.initialCapital_of_misspelled misspells
    refine ⟨.capitalNotNumber, ?_, rfl, rfl⟩
    exact bind_eq_error.2 (.inr ⟨symbol, inOrder, bind_eq_error.2 (.inl refused)⟩)
  case fee =>
    intro misspells
    have free := Settings.commission_of_default (misspells.double 0.0)
    have unset := Settings.commission_of_default (settings.double_set_none runHeading "commission_per_trade" 0.0)
    have kept {heading key : String} (differ : Settings.Differ runHeading "commission_per_trade" heading key) :=
      settings.port_set_agrees none differ
    refine ⟨free, (RunSettings.ofPort_congr ?_ ?_ (unset.trans free.symm) ?_ ?_ ?_).symm⟩
    · exact SettingsPort.symbol_congr (kept (by decide))
    · exact SettingsPort.initialCapital_congr (kept (by decide))
    · exact SettingsPort.dates_congr (kept (by decide)) (kept (by decide))
    · exact SettingsPort.budget_congr (kept (by decide))
    · exact SettingsPort.dataDirectory_congr (kept (by decide))
  case budget =>
    intro misspells
    have usual := Settings.budget_of_default (misspells.int defaultBudget)
    have unset := Settings.budget_of_default (settings.int_set_none "sandbox" "call_budget_ms" defaultBudget)
    have kept {heading key : String} (differ : Settings.Differ "sandbox" "call_budget_ms" heading key) :=
      settings.port_set_agrees none differ
    refine ⟨usual, (RunSettings.ofPort_congr ?_ ?_ ?_ ?_ (unset.trans usual.symm) ?_).symm⟩
    · exact SettingsPort.symbol_congr (kept (by decide))
    · exact SettingsPort.initialCapital_congr (kept (by decide))
    · exact SettingsPort.commission_congr (kept (by decide))
    · exact SettingsPort.dates_congr (kept (by decide)) (kept (by decide))
    · exact SettingsPort.dataDirectory_congr (kept (by decide))

/-- The settings of a run of which nothing is wrong. -/
def soundSettings : Settings :=
  (((Settings.empty.set runHeading "symbol" (some "AAPL")).set runHeading "start_date" (some "2022-01-03")).set
    runHeading "end_date" (some "2023-12-29"))

/-- A capital of `lots` is refused; a fee of `two` is none; a budget of `soon` is the usual one. -/
theorem soundSettings_misspelled_numbers :
    let capital := soundSettings.set runHeading "initial_capital" (some "lots")
    let fee := soundSettings.set runHeading "commission_per_trade" (some "two")
    let budget := soundSettings.set "sandbox" "call_budget_ms" (some "soon")
    (∃ fault, RunSettings.ofSettings capital = .error (.invalidSetting fault) ∧ fault.key = "initial_capital") ∧
      RunSettings.ofSettings fee = RunSettings.ofSettings (fee.set runHeading "commission_per_trade" none) ∧
      RunSettings.ofSettings budget = RunSettings.ofSettings (budget.set "sandbox" "call_budget_ms" none) := by
  intro capital fee budget
  obtain ⟨refused, -, -⟩ := misspelled_numbers capital
  obtain ⟨-, unnoticed, -⟩ := misspelled_numbers fee
  obtain ⟨-, -, passedOver⟩ := misspelled_numbers budget
  obtain ⟨fault, error, -, key⟩ := refused ⟨"lots", .malformed, rfl, rfl⟩ "AAPL" rfl
  exact ⟨⟨fault, error, key⟩, (unnoticed ⟨"two", .malformed, rfl, rfl⟩).2, (passedOver ⟨"soon", rfl, rfl⟩).2⟩

/-- Settings with a fee, or a time budget, that spells no number are accepted. -/
theorem misspelled_fee_and_budget_accepted :
    let fee := soundSettings.set runHeading "commission_per_trade" (some "two")
    let budget := soundSettings.set "sandbox" "call_budget_ms" (some "soon")
    (fee.MisspellsReal runHeading "commission_per_trade" ∧
        ∃ result, RunSettings.ofSettings fee = .ok result ∧ result.commission = 0.0) ∧
      budget.MisspellsWhole "sandbox" "call_budget_ms" ∧
        ∃ result, RunSettings.ofSettings budget = .ok result ∧ result.budgetMilliseconds = 50 :=
  ⟨⟨⟨"two", .malformed, rfl, rfl⟩, _, rfl, rfl⟩, ⟨"soon", rfl, rfl⟩, _, rfl, rfl⟩

end Runs

end PaperTrading
