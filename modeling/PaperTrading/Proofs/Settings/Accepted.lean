/-
Module: PaperTrading.Proofs.Settings.Accepted
Purpose: What the checks of the settings promise, and that a run with accepted settings asks for nothing more of them.
Main exports: RunSettings.IsSound, RunSettings.isSound_of_ofPort, Failure.IsOfSettings, RunSettings.IsSound.validate,
  RunSettings.pipeline_problem, backtest_eq_pipeline, backtestWith_eq_pipeline, accepted_settings_safe

A request is checked once more before it is run, and by checks of its own: they ask whether its symbol is more than blanks,
and they look at its capital and its dates again, but not at the fee or the time budget.
-/
import PaperTrading.CommandLine.Answer
import PaperTrading.Ports
import PaperTrading.Proofs.Arithmetic.Doubles
import PaperTrading.Proofs.PriceFile.Confinement
import PaperTrading.Proofs.Stages

namespace PaperTrading

open Arithmetic (isFinite le lt whole)

/-- Settings that a run is safe with. -/
structure RunSettings.IsSound (settings : RunSettings) : Prop where
  named : settings.symbol ≠ ""
  symbol : ∀ c ∈ settings.symbol.toList, isSymbolCharacter c = true
  capitalFinite : isFinite settings.initialCapital = true
  capitalPositive : lt (whole 0) settings.initialCapital = true
  feeFinite : isFinite settings.commission = true
  feeNotNegative : le (whole 0) settings.commission = true
  inOrder : settings.startDate < settings.endDate
  budget : 0 < settings.budgetMilliseconds

namespace SettingsPort

variable {port : SettingsPort}

theorem symbol_eq_ok {symbol : String} (accepted : port.symbol = .ok symbol) :
    symbol ≠ "" ∧ ∀ c ∈ symbol.toList, isSymbolCharacter c = true := by
  unfold SettingsPort.symbol at accepted
  split at accepted
  case h_1 => cases accepted
  case h_2 =>
    obtain ⟨named, accepted⟩ := guard_eq_ok.1 accepted
    split at accepted
    case isFalse => cases accepted
    case isTrue characters =>
      cases accepted
      exact ⟨fun empty => named (String.isEmpty_iff.2 empty), List.all_eq_true.1 characters⟩

theorem initialCapital_eq_ok {capital : Float} (accepted : port.initialCapital = .ok capital) :
    isFinite capital = true ∧ lt (whole 0) capital = true := by
  obtain ⟨-, accepted⟩ := guard_eq_ok.1 accepted
  obtain ⟨allowed, same⟩ := guard_eq_ok.1 accepted
  rw [Except.ok.inj same, Bool.or_eq_true, Bool.not_eq_true', not_or, Bool.not_eq_false, decide_eq_true_iff] at allowed
  obtain ⟨finite, above⟩ := allowed
  have notLess : ¬ le capital (whole 0) = true := above
  exact ⟨finite, (doubles_lt_iff rfl finite).2 (Bool.eq_false_iff.2 notLess)⟩

theorem commission_eq_ok {fee : Float} (accepted : port.commission = .ok fee) :
    isFinite fee = true ∧ le (whole 0) fee = true := by
  obtain ⟨allowed, same⟩ := guard_eq_ok.1 accepted
  exact Except.ok.inj same ▸ doubles_zero_le_of_not_refused allowed

theorem dates_eq_ok {startDate endDate : Date} (accepted : port.dates = .ok (startDate, endDate)) :
    startDate < endDate := by
  obtain ⟨start, -, accepted⟩ := bind_eq_ok.1 accepted
  obtain ⟨stop, -, accepted⟩ := bind_eq_ok.1 accepted
  obtain ⟨inOrder, ⟨⟩⟩ := guard_eq_ok.1 accepted
  exact Int.not_le.1 inOrder

theorem budget_eq_ok {milliseconds : Int} (accepted : port.budget = .ok milliseconds) : 0 < milliseconds := by
  obtain ⟨positive, ⟨⟩⟩ := guard_eq_ok.1 accepted
  exact Int.not_le.1 positive

end SettingsPort

/-- Settings that are accepted are sound. -/
theorem RunSettings.isSound_of_ofPort {port : SettingsPort} {settings : RunSettings}
    (accepted : ofPort port = .ok settings) : settings.IsSound := by
  obtain ⟨symbol, symbolAccepted, accepted⟩ := bind_eq_ok.1 accepted
  obtain ⟨capital, capitalAccepted, accepted⟩ := bind_eq_ok.1 accepted
  obtain ⟨fee, feeAccepted, accepted⟩ := bind_eq_ok.1 accepted
  obtain ⟨⟨startDate, endDate⟩, datesAccepted, accepted⟩ := bind_eq_ok.1 accepted
  obtain ⟨milliseconds, budgetAccepted, accepted⟩ := bind_eq_ok.1 accepted
  cases accepted
  obtain ⟨named, characters⟩ := SettingsPort.symbol_eq_ok symbolAccepted
  obtain ⟨capitalFinite, capitalPositive⟩ := SettingsPort.initialCapital_eq_ok capitalAccepted
  obtain ⟨feeFinite, feeNotNegative⟩ := SettingsPort.commission_eq_ok feeAccepted
  exact
    { named := named
      symbol := characters
      capitalFinite := capitalFinite
      capitalPositive := capitalPositive
      feeFinite := feeFinite
      feeNotNegative := feeNotNegative
      inOrder := SettingsPort.dates_eq_ok datesAccepted
      budget := SettingsPort.budget_eq_ok budgetAccepted }

/-- Whether a failure is that a setting is missing or invalid. -/
def Failure.IsOfSettings : Failure → Prop
  | .missingSetting .. | .invalidSetting _ => True
  | .clarification _ | .refused _ | .noHistory .. | .data _ | .settings _ | .file _ => False

section Requests

variable {settings : RunSettings} {description category : String}

/-- The request for a run with sound settings passes its checks. -/
theorem RunSettings.IsSound.validate (sound : settings.IsSound) :
    (settings.request description category).validate = .ok () := by
  have visible : Text.allBlank settings.symbol = false := by
    obtain ⟨first, rest, spelled⟩ := List.exists_cons_of_ne_nil (String.toList_eq_nil_iff.not.2 sound.named)
    have allowed := sound.symbol first (spelled ▸ List.mem_cons_self)
    obtain ⟨low, high⟩ := toNat_of_isSymbolCharacter allowed
    rw [Text.allBlank, spelled, List.all_cons, Text.isBlank_of_visible low high, Bool.false_and]
  have positive : le settings.initialCapital (whole 0) = false :=
    (doubles_lt_iff rfl sound.capitalFinite).1 sound.capitalPositive
  have inOrder : ¬ settings.endDate ≤ settings.startDate := Int.not_le.2 sound.inOrder
  simp only [Request.validate, request, visible, positive, sound.capitalFinite, inOrder, Bool.not_true, Bool.or_self,
    Bool.false_eq_true, if_false]

theorem prepare_problem {failure : Failure}
    (failed : (prepare description category : Except Failure (Prepared Float)) = .error failure) :
    ¬ failure.IsOfSettings := by
  unfold prepare at failed
  dsimp only at failed
  split at failed
  case h_1 =>
    cases failed
    exact not_false
  case h_2 =>
    split at failed
    case h_1 =>
      cases failed
      exact not_false
    case h_2 => cases failed

theorem Request.report_problem {request : Request Float} {terms : TestTerms Float} {stopBefore : Progress → Bool}
    {prepared : Prepared Float} {bars : List (PriceBar Float)} {failure : Failure}
    (failed : request.report terms stopBefore prepared bars = .error failure) : ¬ failure.IsOfSettings := by
  unfold Request.report at failed
  split at failed
  case isTrue =>
    cases failed
    exact not_false
  case isFalse =>
    split at failed
    case isTrue =>
      cases failed
      exact not_false
    case isFalse => cases failed

/-- If a run with sound settings fails because of a setting, then the source of its prices did. -/
theorem RunSettings.pipeline_problem (sound : settings.IsSound) {prices : PricePort Float} {budget : Budget}
    {stopBefore : Progress → Bool} {failure : Failure} (ofSettings : failure.IsOfSettings)
    (failed : settings.pipeline prices description category budget stopBefore = .error failure) :
    prices settings.symbol settings.startDate settings.endDate = .error failure := by
  obtain unready | ⟨prepared, -, failed⟩ := bind_eq_error.1 failed
  · obtain invalid | ⟨_, -, unprepared⟩ := bind_eq_error.1 unready
    · rw [sound.validate] at invalid
      cases invalid
    · exact absurd ofSettings (prepare_problem unprepared)
  · obtain unavailable | ⟨bars, -, unreported⟩ := bind_eq_error.1 failed
    · exact unavailable
    · exact absurd ofSettings (Request.report_problem unreported)

/-- A feed is tested as the source of prices that it is. -/
theorem backtest_eq_pipeline (feed : Feed Float) (budget : Budget) (stopBefore : Progress → Bool) :
    backtest feed (settings.request description category) ⟨settings.commission, budget⟩ stopBefore =
      settings.pipeline feed.port description category budget stopBefore := by
  unfold backtest RunSettings.pipeline Feed.port
  dsimp only
  cases (settings.request description category).ready with
  | error failure => rfl
  | ok prepared =>
      dsimp only [bind, Except.bind, RunSettings.request]
      cases feed settings.symbol settings.startDate settings.endDate with
      | error problem => rfl
      | ok bars => rfl

/-- A command tests a strategy on the price files of the directory that is set. -/
theorem backtestWith_eq_pipeline (access : FileAccess Id) :
    backtestWith access description category settings =
      settings.pipeline (Feed.port ((⟨settings.dataDirectory⟩ : PriceDirectory).fetch access)) description category
        .ample fun _ => false := by
  rw [← backtest_eq_pipeline]
  unfold backtestWith backtest RunSettings.request
  dsimp only
  generalize Request.mk description category settings.symbol settings.startDate settings.endDate
    settings.initialCapital = request
  cases request.ready with
  | error failure => rfl
  | ok prepared =>
      dsimp only [bind, Except.bind]
      cases PriceDirectory.fetch _ access settings.symbol settings.startDate settings.endDate with
      | error problem => rfl
      | ok bars => rfl

end Requests

/-- Settings that are accepted, from whatever port, are safe to run with.  They are sound, every request for a run with them
passes its checks, and such a run fails because of a setting only if the source of its prices does.  The price file of the
symbol is an entry of the directory of price files, and no other file is read for its prices. -/
theorem accepted_settings_safe {port : SettingsPort} {settings : RunSettings}
    (accepted : RunSettings.ofPort port = .ok settings) :
    settings.IsSound ∧
      (∀ description category, (settings.request description category).validate = .ok ()) ∧
      (∀ (prices : PricePort Float) description category budget stopBefore,
        (∀ failure, prices settings.symbol settings.startDate settings.endDate = .error failure →
          ¬ failure.IsOfSettings) →
        ∀ failure, settings.pipeline prices description category budget stopBefore = .error failure →
          ¬ failure.IsOfSettings) ∧
      ∀ directory : PriceDirectory,
        IsEntryOf (directory.fileOf settings.symbol) directory.path (Text.raised settings.symbol ++ ".csv") ∧
          ∀ (access other : FileAccess Id) (first last : Date),
            other.readText (directory.fileOf settings.symbol) = access.readText (directory.fileOf settings.symbol) →
              directory.fetch other settings.symbol first last = directory.fetch access settings.symbol first last := by
  have sound := RunSettings.isSound_of_ofPort accepted
  refine ⟨sound, fun _ _ => sound.validate, ?_, fun directory => ⟨directory.fileOf_isEntryOf sound.symbol, ?_⟩⟩
  · intro prices description category budget stopBefore honest failure failed ofSettings
    exact honest failure (RunSettings.pipeline_problem sound ofSettings failed) ofSettings
  · intro access other first last same
    exact PriceDirectory.fetch_congr same

/-- Settings whose symbol is two points, with blanks around them. -/
def dottedSettings : Settings :=
  (((Settings.empty.set runHeading "symbol" (some " .. ")).set runHeading "start_date" (some "2010-03-01")).set
    runHeading "end_date" (some "2010-03-31"))

theorem dottedSettings_safe :
    let unavailable : PricePort Float := fun symbol first last => .error (.noHistory symbol first last)
    let description := "Buy when RSI below 30, sell when RSI above 70"
    ∃ settings, RunSettings.ofPort dottedSettings.port = .ok settings ∧ settings.symbol = ".." ∧
      settings.IsSound ∧ (settings.request description "swing").validate = .ok () ∧
      (∀ failure, settings.pipeline unavailable description "swing" .ample (fun _ => false) = .error failure →
        ¬ failure.IsOfSettings) ∧
      IsEntryOf ((⟨"data"⟩ : PriceDirectory).fileOf settings.symbol) "data" "...csv" := by
  intro unavailable description
  obtain ⟨settings, accepted, symbol⟩ :
      ∃ settings, RunSettings.ofPort dottedSettings.port = .ok settings ∧ settings.symbol = ".." := ⟨_, rfl, rfl⟩
  obtain ⟨sound, valid, unfailing, confined⟩ := accepted_settings_safe accepted
  have upper : Text.raised ".." ++ ".csv" = "...csv" := by decide +kernel
  have entry := (confined ⟨"data"⟩).1
  rw [symbol, upper] at entry
  refine ⟨settings, accepted, symbol, sound, valid description "swing", ?_, symbol ▸ entry⟩
  refine unfailing unavailable description "swing" .ample (fun _ => false) fun failure failed => ?_
  cases failed
  exact not_false

end PaperTrading
