/-
Module: PaperTrading.Proofs.PriceFile.Listing
Purpose: Which files the symbols of a price directory are listed from, and which files they are fetched from.
Main exports: stemWithExtension?_eq_some_iff, joinPath_inj, Text.eq_slash_of_mem_upperOne, DataProblem.InText,
  FromText, barsOfText_fromText, PriceDirectory.Holds, PriceDirectory.symbols_eq, PriceDirectory.fetch_problem,
  PriceDirectory.fileOf_eq_iff, listed_symbols_fetched

A symbol is listed as the name of its file is spelled, and it is fetched from the file whose name is in upper case.
-/
import Mathlib.Data.List.Basic
import PaperTrading.PriceFile.Bars
import PaperTrading.Proofs.Text.Runs
import PaperTrading.Storage.Tree

namespace PaperTrading

section Names

variable {extension name stem directory first second : String}

/-- A name with an extension is its stem, a point and the extension. -/
theorem stemWithExtension?_eq_some_iff (extended : extension ≠ "") (plain : '.' ∉ extension.toList) :
    stemWithExtension? extension name = some stem ↔ stem ≠ "" ∧ name = stem ++ "." ++ extension := by
  have inside : ∀ c ∈ extension.toList.reverse, (c != '.') = true := by
    intro c member
    have point : c ≠ '.' := fun same => plain (same ▸ List.mem_reverse.1 member)
    simpa using point
  have spelled : name = stem ++ "." ++ extension ↔
      name.toList.reverse = extension.toList.reverse ++ '.' :: stem.toList.reverse := by
    rw [← String.toList_inj, ← List.reverse_inj]
    simp
  have outside : ('.' != '.') = false := rfl
  rw [spelled, Text.eq_run_append_iff inside outside]
  simp only [stemWithExtension?]
  constructor
  · intro found
    split at found
    case h_2 => cases found
    case h_1 reversed tail =>
      split at found
      case isTrue => cases found
      case isFalse kept =>
        cases found
        simp only [Bool.or_eq_true, List.isEmpty_iff, beq_iff_eq, bne_iff_ne, not_or, not_not] at kept
        obtain ⟨⟨named, -⟩, last⟩ := kept
        simp [tail, ← last, named]
  · rintro ⟨named, start, tail⟩
    have twoPoints : name ≠ ".." := by
      rintro rfl
      have unextended : extension = "" := by simpa using start
      exact extended unextended
    simp [tail, start, named, twoPoints]

/-- A name without a slash is no path from the root. -/
theorem startsWith_slash_eq_false (below : '/' ∉ name.toList) : name.startsWith "/" = false := by
  rw [String.startsWith_string_eq_false_iff]
  intro slash
  exact below (slash.subset (List.mem_singleton.2 rfl))

/-- Two names without slashes stand for one path in a directory only if they are one name. -/
theorem joinPath_inj (firstBelow : '/' ∉ first.toList) (secondBelow : '/' ∉ second.toList) :
    joinPath directory first = joinPath directory second ↔ first = second := by
  simp only [joinPath, startsWith_slash_eq_false firstBelow, startsWith_slash_eq_false secondBelow, Bool.false_or]
  split
  · rfl
  · split <;> exact String.append_right_inj _

end Names

namespace Text

theorem ofNat_ne_slash {code : Nat} (beyond : 47 < code) : Char.ofNat code ≠ '/' := by
  intro same
  by_cases valid : code.isValidChar
  case pos =>
      have known : Char.ofNat code = Char.ofNatAux code valid := dif_pos valid
      have value : code = 47 := congrArg Char.toNat (known.symm.trans same)
      omega
  case neg =>
      have unknown : Char.ofNat code = Char.ofNat 0 := dif_neg valid
      exact absurd (unknown.symm.trans same) (by decide)

theorem CaseRun.lt_of_apply? {run : CaseRun} {bound code image : Nat} (start : bound < run.first + run.shift)
    (applied : run.apply? code = some image) : bound < image := by
  unfold CaseRun.apply? at applied
  split at applied
  case isTrue covered =>
      simp only [Bool.and_eq_true, decide_eq_true_eq] at covered
      cases applied
      omega
  case isFalse => cases applied

/-- No character but the slash has a slash in its upper case. -/
theorem eq_slash_of_mem_upperOne {c : Char} (slash : '/' ∈ upperOne c) : c = '/' := by
  unfold upperOne at slash
  split at slash
  case isTrue ascii =>
      exact forall_ascii (fun c => '/' ∈ [c.toUpper] → c = '/') (by decide +kernel) ascii slash
  case isFalse =>
      -- Beyond the 7-bit characters no sequence of the tables has a slash, and every run leads past it.
      have sequences : ∀ entry ∈ upperSequences, '/' ∉ entry.2.map Char.ofNat := by decide +kernel
      have runs : ∀ run ∈ upperRuns, 47 < run.first + run.shift := by decide +kernel
      unfold mapCase at slash
      split at slash
      case h_1 entry found =>
          exact absurd slash (sequences entry (Array.mem_of_find?_eq_some found))
      case h_2 =>
          split at slash
          case h_1 code found =>
              obtain ⟨run, listed, applied⟩ := Array.exists_of_findSome?_eq_some found
              have beyond := CaseRun.lt_of_apply? (runs run listed) applied
              exact absurd (List.mem_singleton.1 slash).symm (ofNat_ne_slash beyond)
          case h_2 => exact (List.mem_singleton.1 slash).symm

theorem slash_notMem_raised {text : String} (below : '/' ∉ text.toList) : '/' ∉ (raised text).toList := by
  intro slash
  rw [raised, String.toList_ofList, upperCase, List.mem_flatMap] at slash
  obtain ⟨c, member, image⟩ := slash
  exact below (eq_slash_of_mem_upperOne image ▸ member)

end Text

/-- Whether a problem is with what a file says, and not with reading files. -/
def DataProblem.InText : DataProblem → Prop
  | .unevenRecord .. | .missingDate _ | .invalidDate .. | .missingField .. | .invalidField .. | .negativeField .. => True
  | .unreadableFile .. | .unreadableDirectory .. | .notAscending _ | .reported _ => False

/-- A computation whose problems are all with what a file says. -/
def FromText {α : Type} (answer : Except DataProblem α) : Prop :=
  ∀ problem, answer = .error problem → problem.InText

namespace FromText

variable {α β : Type}

theorem ok (value : α) : FromText (.ok value) := by
  intro problem failed
  cases failed

theorem error {problem : DataProblem} (inText : problem.InText) : FromText (.error problem : Except DataProblem α) := by
  rintro _ ⟨⟩
  exact inText

theorem bind {answer : Except DataProblem α} {next : α → Except DataProblem β} (start : FromText answer)
    (later : ∀ value, FromText (next value)) : FromText (answer >>= next) := by
  cases answer with
  | error problem => exact error (start problem rfl)
  | ok value => exact later value

end FromText

section Reading

variable (symbol : String) (first last : Date)

theorem Record.number_fromText (record : Record) (field : PriceField) : FromText (record.number field) := by
  unfold Record.number
  split
  · exact .error trivial
  · split
    · exact .error trivial
    · split
      · exact .error trivial
      · exact .ok _

theorem Record.date_fromText (record : Record) : FromText record.date := by
  unfold Record.date
  split
  · exact .error trivial
  · split
    · exact .error trivial
    · exact .ok _

theorem Record.bar?_fromText (record : Record) : FromText (record.bar? symbol first last) := by
  unfold Record.bar?
  refine record.date_fromText.bind fun date => ?_
  split
  · exact .ok _
  · exact (record.number_fromText _).bind fun _ => (record.number_fromText _).bind fun _ =>
      (record.number_fromText _).bind fun _ => (record.number_fromText _).bind fun _ =>
      (record.number_fromText _).bind fun _ => .ok _

theorem barsFrom_fromText (width : Nat) (records : List Record) (number : Nat) :
    FromText (barsFrom symbol first last width number records) := by
  induction records generalizing number with
  | nil => exact .ok _
  | cons record rest later =>
      unfold barsFrom
      split
      · exact .error trivial
      · exact (record.bar?_fromText symbol first last).bind fun _ => (later _).bind fun _ => .ok _

/-- Reading bars from a text finds problems with that text only. -/
theorem barsOfText_fromText (text : String) : FromText (barsOfText symbol first last text) := by
  unfold barsOfText barsOfRecords
  split
  · exact .ok _
  · exact (barsFrom_fromText symbol first last _ _ _).bind fun _ => .ok _

end Reading

namespace PriceDirectory

/-- A directory holds entries of these names: it lists them, no name leads elsewhere, and there is something at the path
of each. -/
structure Holds (directory : PriceDirectory) (access : FileAccess Id) (names : List String) : Prop where
  listed : access.names directory.path = .ok names
  below : ∀ name ∈ names, '/' ∉ name.toList
  present : ∀ name ∈ names, access.readText (joinPath directory.path name) ≠ .error .notFound

variable {directory : PriceDirectory} {access : FileAccess Id} {names : List String} {symbol : String} {first last : Date}

theorem symbols_of_listed (listed : access.names directory.path = .ok names) :
    directory.symbols access = .ok ((names.filterMap (stemWithExtension? "csv")).mergeSort fun a b => a ≤ b) := by
  simp only [symbols, listed]
  rfl

/-- The symbols of a directory are the stems of its price files. -/
theorem symbols_eq (listed : access.names directory.path = .ok names) :
    ∃ symbols, directory.symbols access = .ok symbols ∧
      ∀ symbol, symbol ∈ symbols ↔ symbol ≠ "" ∧ symbol ++ ".csv" ∈ names := by
  refine ⟨_, symbols_of_listed listed, fun symbol => ?_⟩
  have whole : symbol ++ "." ++ "csv" = symbol ++ ".csv" := String.append_assoc
  rw [List.mem_mergeSort, List.mem_filterMap]
  constructor
  · rintro ⟨name, member, stem⟩
    obtain ⟨named, rfl⟩ := (stemWithExtension?_eq_some_iff (by decide) (by decide)).1 stem
    exact ⟨named, whole ▸ member⟩
  · rintro ⟨named, member⟩
    exact ⟨_, member, (stemWithExtension?_eq_some_iff (by decide) (by decide)).2 ⟨named, whole.symm⟩⟩

/-- A symbol is fetched from the file it was listed from exactly if it is in upper case. -/
theorem fileOf_eq_iff (below : '/' ∉ symbol.toList) :
    directory.fileOf symbol = joinPath directory.path (symbol ++ ".csv") ↔ Text.raised symbol = symbol := by
  -- With a slash at its head a name would be a path of its own, whatever the directory.
  have plain : ∀ text : String, '/' ∉ text.toList → '/' ∉ (text ++ ".csv").toList := by
    intro text below
    rw [String.toList_append, List.mem_append, not_or]
    exact ⟨below, by decide⟩
  rw [fileOf, joinPath_inj (plain _ (Text.slash_notMem_raised below)) (plain _ below)]
  exact String.append_left_inj _

/-- Of all files only that of the symbol is looked at. -/
theorem fetch_congr {other : FileAccess Id}
    (same : other.readText (directory.fileOf symbol) = access.readText (directory.fileOf symbol)) :
    directory.fetch other symbol first last = directory.fetch access symbol first last := by
  simp only [fetch, same]

theorem fetch_of_error {cause : FileProblem} (unreadable : access.readText (directory.fileOf symbol) = .error cause) :
    directory.fetch access symbol first last = .error (.unreadableFile (directory.fileOf symbol) cause) := by
  simp only [fetch, unreadable]
  rfl

theorem fetch_of_ok {text : String} (readable : access.readText (directory.fileOf symbol) = .ok text) :
    directory.fetch access symbol first last = barsOfText (Text.raised symbol) first last text := by
  simp only [fetch, readable]
  rfl

/-- A fetch fails with what the file says or with reading that file. -/
theorem fetch_problem {problem : DataProblem} (failed : directory.fetch access symbol first last = .error problem) :
    problem.InText ∨ ∃ cause, problem = .unreadableFile (directory.fileOf symbol) cause ∧
      access.readText (directory.fileOf symbol) = .error cause := by
  cases read : access.readText (directory.fileOf symbol) with
  | error cause =>
      rw [fetch_of_error read] at failed
      cases failed
      exact .inr ⟨cause, rfl, rfl⟩
  | ok text =>
      rw [fetch_of_ok read] at failed
      exact .inl (barsOfText_fromText _ _ _ _ _ failed)

theorem fetch_unreadable_iff {cause : FileProblem} :
    directory.fetch access symbol first last = .error (.unreadableFile (directory.fileOf symbol) cause) ↔
      access.readText (directory.fileOf symbol) = .error cause := by
  constructor
  · intro failed
    obtain inText | ⟨_, same, unreadable⟩ := fetch_problem failed
    · exact inText.elim
    · cases same
      exact unreadable
  · exact fetch_of_error

end PriceDirectory

/-- A directory lists the stems of its price files as they are spelled.  A symbol is fetched from one file only, which is
the file it was listed from exactly if the symbol is in upper case, and it cannot be fetched at all exactly if that file
cannot be read.  So a symbol in upper case is never missing: its fetch fails with the content of its file alone, or with
a file that is there and cannot be read. -/
theorem listed_symbols_fetched {directory : PriceDirectory} {access : FileAccess Id} {names : List String}
    (holds : directory.Holds access names) (first last : Date) :
    ∃ symbols, directory.symbols access = .ok symbols ∧
      (∀ symbol, symbol ∈ symbols ↔ symbol ≠ "" ∧ symbol ++ ".csv" ∈ names) ∧
      ∀ symbol ∈ symbols,
        (∀ other : FileAccess Id, other.readText (directory.fileOf symbol) = access.readText (directory.fileOf symbol) →
          directory.fetch other symbol first last = directory.fetch access symbol first last) ∧
        (∀ cause, directory.fetch access symbol first last = .error (.unreadableFile (directory.fileOf symbol) cause) ↔
          access.readText (directory.fileOf symbol) = .error cause) ∧
        (directory.fileOf symbol = joinPath directory.path (symbol ++ ".csv") ↔ Text.raised symbol = symbol) ∧
        (Text.raised symbol = symbol → ∀ problem, directory.fetch access symbol first last = .error problem →
          problem.InText ∨ ∃ cause, cause ≠ .notFound ∧
            problem = .unreadableFile (joinPath directory.path (symbol ++ ".csv")) cause) := by
  obtain ⟨symbols, answered, members⟩ := PriceDirectory.symbols_eq holds.listed
  refine ⟨symbols, answered, members, fun symbol listed => ?_⟩
  obtain ⟨-, entry⟩ := (members symbol).1 listed
  have below : '/' ∉ symbol.toList := by
    have whole := holds.below _ entry
    rw [String.toList_append, List.mem_append, not_or] at whole
    exact whole.1
  have own : directory.fileOf symbol = joinPath directory.path (symbol ++ ".csv") ↔ Text.raised symbol = symbol :=
    PriceDirectory.fileOf_eq_iff below
  refine ⟨fun other same => PriceDirectory.fetch_congr same, fun cause => PriceDirectory.fetch_unreadable_iff, own, ?_⟩
  intro upper problem failed
  obtain inText | ⟨cause, rfl, unreadable⟩ := PriceDirectory.fetch_problem failed
  · exact .inl inText
  · rw [own.2 upper] at unreadable ⊢
    refine .inr ⟨cause, ?_, rfl⟩
    rintro rfl
    exact holds.present _ entry unreadable

/-- A directory of one price file, whose name is given. -/
def dataHolding (name : String) : FileTree :=
  .ofList [("data/" ++ name, "date,open,high,low,close,volume\n")]

theorem upper_case_file_fetched :
    let access := (dataHolding "BHP.csv").access
    let directory : PriceDirectory := ⟨"data"⟩
    directory.Holds access ["BHP.csv"] ∧
      ∃ symbols, directory.symbols access = .ok symbols ∧ "BHP" ∈ symbols ∧
        directory.fileOf "BHP" = joinPath "data" "BHP.csv" ∧
        directory.fetch access "BHP" ⟨2017, 1, 3, by decide⟩ ⟨2017, 1, 31, by decide⟩ ≠
          .error (.unreadableFile (directory.fileOf "BHP") .notFound) := by
  intro access directory
  have listed : (dataHolding "BHP.csv").names "data" = .ok ["BHP.csv"] := by decide +kernel
  have present : ∀ name ∈ ["BHP.csv"], (dataHolding "BHP.csv").readText (joinPath "data" name) ≠ .error .notFound := by
    decide +kernel
  have holds : directory.Holds access ["BHP.csv"] := ⟨listed, by decide, present⟩
  obtain ⟨symbols, answered, members, each⟩ :=
    listed_symbols_fetched holds ⟨2017, 1, 3, by decide⟩ ⟨2017, 1, 31, by decide⟩
  have member : "BHP" ∈ symbols := (members "BHP").2 ⟨by decide, by decide⟩
  obtain ⟨-, unreadable, own, -⟩ := each "BHP" member
  have upper : Text.raised "BHP" = "BHP" := by decide
  have path := own.2 upper
  refine ⟨holds, symbols, answered, member, path, fun failed => ?_⟩
  have missing := (unreadable .notFound).1 failed
  rw [path] at missing
  exact present "BHP.csv" (List.mem_singleton.2 rfl) missing

/-- A price file whose name is in lower case is listed, and its symbol cannot be fetched: there is no file of the name in
upper case. -/
theorem lower_case_file_listed_not_fetched :
    let access := (dataHolding "bhp.csv").access
    let directory : PriceDirectory := ⟨"data"⟩
    directory.Holds access ["bhp.csv"] ∧ directory.symbols access = .ok ["bhp"] ∧
      directory.fetch access "bhp" ⟨2017, 1, 3, by decide⟩ ⟨2017, 1, 31, by decide⟩ =
        .error (.unreadableFile "data/BHP.csv" .notFound) := by
  intro access directory
  have listed : (dataHolding "bhp.csv").names "data" = .ok ["bhp.csv"] := by decide +kernel
  have present : ∀ name ∈ ["bhp.csv"], (dataHolding "bhp.csv").readText (joinPath "data" name) ≠ .error .notFound := by
    decide +kernel
  have path : directory.fileOf "bhp" = "data/BHP.csv" := by decide +kernel
  have missing : (dataHolding "bhp.csv").readText "data/BHP.csv" = .error .notFound := by decide +kernel
  refine ⟨⟨listed, by decide, present⟩, ?_, ?_⟩
  · have names : access.names directory.path = .ok ["bhp.csv"] := listed
    have stem : stemWithExtension? "csv" "bhp.csv" = some "bhp" := by decide
    rw [PriceDirectory.symbols_of_listed names, List.filterMap_cons_some stem, List.filterMap_nil,
      List.mergeSort_singleton]
  · rw [← path] at missing ⊢
    exact PriceDirectory.fetch_of_error missing

end PaperTrading
