/-
Module: PaperTrading.Proofs.PriceFile.Narrowing
Purpose: The bars of a price file for a range of days, and what a narrower range leaves of them.
Main exports: Date.isWithin, PriceBar.onDay_mergeSort, PriceBar.eq_of_onDay, PriceBar.filter_mergeSort, Record.Spells,
  Record.bar?_narrowed, IsPriceSeries, IsPriceSeries.unique, barsFrom_spelled, barsFrom_narrowed, fetch_narrowed

Records outside the range are passed over before their numbers are read, and the bars are sorted after that.  The sort keeps
bars with the same date in file order, so it does not matter whether bars are left out before it or after it.
-/
import Mathlib.Data.List.Forall2
import PaperTrading.Proofs.Arithmetic.Doubles
import PaperTrading.Proofs.PriceFile.Listing
import PaperTrading.Proofs.Stages

namespace PaperTrading

namespace Date

/-- Whether a day is within a range, both ends included. -/
def isWithin (date first last : Date) : Bool :=
  first ≤ date && date ≤ last

variable {first last wideFirst wideLast date : Date}

theorem isWithin_iff : date.isWithin first last = true ↔ first ≤ date ∧ date ≤ last := by
  rw [isWithin, Bool.and_eq_true, decide_eq_true_iff, decide_eq_true_iff]

theorem not_lt {first second : Date} : ¬ first < second ↔ second ≤ first :=
  Int.not_lt

theorem outside_eq_not_isWithin : (decide (date < first) || decide (last < date)) = !date.isWithin first last := by
  rw [Bool.eq_iff_iff, Bool.not_eq_true', ← Bool.not_eq_true, isWithin_iff, ← not_lt, ← not_lt, Bool.or_eq_true,
    decide_eq_true_iff, decide_eq_true_iff, not_and_or, not_not, not_not]

theorem isWithin_of_narrower (start : wideFirst ≤ first) (stop : last ≤ wideLast)
    (inside : date.isWithin first last = true) : date.isWithin wideFirst wideLast = true := by
  obtain ⟨low, high⟩ := isWithin_iff.1 inside
  exact isWithin_iff.2 ⟨Int.le_trans start low, Int.le_trans high stop⟩

theorem le_antisymm {first second : Date} (one : first ≤ second) (other : second ≤ first) : first = second :=
  eq_of_ordinal_eq (Int.le_antisymm one other)

end Date

namespace PriceBar

variable {α : Type} {bars others : List (PriceBar α)}

/-- Whether one bar may stand before another in a series. -/
def mayPrecede (earlier later : PriceBar α) : Bool :=
  earlier.date ≤ later.date

/-- The bars of one day. -/
def onDay (date : Date) (bars : List (PriceBar α)) : List (PriceBar α) :=
  bars.filter fun bar => bar.date = date

theorem mayPrecede_trans (a b c : PriceBar α) (one : mayPrecede a b = true) (two : mayPrecede b c = true) :
    mayPrecede a c = true :=
  decide_eq_true (Int.le_trans (of_decide_eq_true one) (of_decide_eq_true two))

theorem mayPrecede_total (a b : PriceBar α) : (mayPrecede a b || mayPrecede b a) = true := by
  rw [Bool.or_eq_true]
  exact (Int.le_total a.date.ordinal b.date.ordinal).imp decide_eq_true decide_eq_true

variable (bars) in
theorem pairwise_mergeSort : (bars.mergeSort mayPrecede).Pairwise fun a b => a.date ≤ b.date :=
  (List.pairwise_mergeSort mayPrecede_trans mayPrecede_total bars).imp of_decide_eq_true

theorem mem_onDay {date : Date} {bar : PriceBar α} : bar ∈ onDay date bars ↔ bar ∈ bars ∧ bar.date = date := by
  rw [onDay, List.mem_filter, decide_eq_true_iff]

theorem onDay_cons (date : Date) (first : PriceBar α) (bars : List (PriceBar α)) :
    onDay date (first :: bars) = if first.date = date then first :: onDay date bars else onDay date bars := by
  simp only [onDay, List.filter_cons, decide_eq_true_iff]

variable (bars) in
/-- Sorting keeps the bars of one day in their order. -/
theorem onDay_mergeSort (date : Date) : onDay date (bars.mergeSort mayPrecede) = onDay date bars := by
  have same : (onDay date bars).Pairwise fun a b => mayPrecede a b = true := by
    refine List.pairwise_of_forall_mem_list fun a first b second => decide_eq_true ?_
    rw [(mem_onDay.1 first).2, (mem_onDay.1 second).2]
    exact Int.le_refl date.ordinal
  have kept : (onDay date bars).Sublist (bars.mergeSort mayPrecede) :=
    List.sublist_mergeSort mayPrecede_trans mayPrecede_total same List.filter_sublist
  have onTheDay : onDay date (onDay date bars) = onDay date bars :=
    List.filter_eq_self.2 fun bar member => decide_eq_true (mem_onDay.1 member).2
  have within : (onDay date bars).Sublist (onDay date (bars.mergeSort mayPrecede)) := onTheDay ▸ kept.filter _
  exact (within.eq_of_length ((List.mergeSort_perm bars _).filter _).length_eq.symm).symm

theorem date_le_of_mem_cons {first bar : PriceBar α} (sorted : (first :: bars).Pairwise fun a b => a.date ≤ b.date)
    (member : bar ∈ first :: bars) : first.date ≤ bar.date := by
  obtain rfl | later := List.mem_cons.1 member
  · exact Int.le_refl _
  · exact List.rel_of_pairwise_cons sorted later

theorem mem_of_onDay {bar : PriceBar α} (same : ∀ date, onDay date bars = onDay date others) (member : bar ∈ bars) :
    bar ∈ others := by
  have onItsDay : bar ∈ onDay bar.date bars := mem_onDay.2 ⟨member, rfl⟩
  exact (mem_onDay.1 (same bar.date ▸ onItsDay)).1

/-- Series in order are the same if they have the same bars on each day. -/
theorem eq_of_onDay (sorted : bars.Pairwise fun a b => a.date ≤ b.date)
    (ordered : others.Pairwise fun a b => a.date ≤ b.date)
    (same : ∀ date, onDay date bars = onDay date others) : bars = others := by
  induction bars generalizing others with
  | nil =>
      refine (List.eq_nil_iff_forall_not_mem.2 fun bar member => ?_).symm
      exact List.not_mem_nil (mem_of_onDay (fun date => (same date).symm) member)
  | cons first bars ih =>
      cases others with
      | nil => exact absurd (mem_of_onDay same List.mem_cons_self) List.not_mem_nil
      | cons other others =>
          -- Each head is a bar of both series, so neither comes before the other.
          have together : first.date = other.date := by
            apply Date.le_antisymm
            · exact date_le_of_mem_cons sorted (mem_of_onDay (fun date => (same date).symm) List.mem_cons_self)
            · exact date_le_of_mem_cons ordered (mem_of_onDay same List.mem_cons_self)
          have heads := same first.date
          rw [onDay_cons, onDay_cons, if_pos rfl, if_pos together.symm, List.cons.injEq] at heads
          obtain ⟨rfl, here⟩ := heads
          congr 1
          refine ih sorted.of_cons ordered.of_cons fun date => ?_
          by_cases today : first.date = date
          · exact today ▸ here
          · have elsewhere := same date
            rwa [onDay_cons, onDay_cons, if_neg today, if_neg today] at elsewhere

variable (bars) in
/-- Bars may be left out before sorting or after it. -/
theorem filter_mergeSort (kept : PriceBar α → Bool) :
    (bars.mergeSort mayPrecede).filter kept = (bars.filter kept).mergeSort mayPrecede := by
  apply eq_of_onDay
  · exact (pairwise_mergeSort bars).filter kept
  · exact pairwise_mergeSort _
  · intro date
    calc onDay date ((bars.mergeSort mayPrecede).filter kept)
      _ = (onDay date (bars.mergeSort mayPrecede)).filter kept := List.filter_comm _ _ _
      _ = (onDay date bars).filter kept := by rw [onDay_mergeSort]
      _ = onDay date (bars.filter kept) := List.filter_comm _ _ _
      _ = onDay date ((bars.filter kept).mergeSort mayPrecede) := (onDay_mergeSort _ date).symm

end PriceBar

section Records

variable {symbol : String} {first last wideFirst wideLast : Date} {record : Record}

/-- The numbers of a bar, in file order. -/
def PriceBar.numbers {α : Type} (bar : PriceBar α) : List α :=
  [bar.openPrice, bar.highPrice, bar.lowPrice, bar.closePrice, bar.volume]

namespace Record

/-- A record spells a bar of a symbol: its date, and each of its numbers. -/
structure Spells (symbol : String) (record : Record) (bar : PriceBar Float) : Prop where
  symbol : bar.symbol = symbol
  date : record.date = .ok bar.date
  openPrice : record.number .openPrice = .ok bar.openPrice
  highPrice : record.number .highPrice = .ok bar.highPrice
  lowPrice : record.number .lowPrice = .ok bar.lowPrice
  closePrice : record.number .closePrice = .ok bar.closePrice
  volume : record.number .volume = .ok bar.volume

/-- Whether a record is of a day within a range. -/
def isOfDays (first last : Date) (record : Record) : Bool :=
  match record.date with
  | .ok date => date.isWithin first last
  | .error _ => false

/-- A number that is read is finite and not negative. -/
theorem number_eq_ok {field : PriceField} {value : Float} (read : record.number field = .ok value) :
    Arithmetic.isFinite value = true ∧ Arithmetic.le (Arithmetic.whole 0) value = true := by
  unfold number at read
  split at read
  case h_1 => cases read
  case h_2 =>
    split at read
    case h_1 => cases read
    case h_2 =>
      obtain ⟨allowed, same⟩ := guard_eq_ok.1 read
      exact Except.ok.inj same ▸ doubles_zero_le_of_not_refused allowed

theorem Spells.numbers {bar : PriceBar Float} (spells : record.Spells symbol bar) :
    ∀ value ∈ bar.numbers, Arithmetic.isFinite value = true ∧ Arithmetic.le (Arithmetic.whole 0) value = true := by
  simp only [PriceBar.numbers, List.forall_mem_cons, List.not_mem_nil, false_imp_iff, implies_true, and_true]
  exact ⟨number_eq_ok spells.openPrice, number_eq_ok spells.highPrice, number_eq_ok spells.lowPrice,
    number_eq_ok spells.closePrice, number_eq_ok spells.volume⟩

theorem isOfDays_of_date {date : Date} (dated : record.date = .ok date) :
    record.isOfDays first last = date.isWithin first last := by
  rw [isOfDays, dated]

/-- The numbers of a record of another day are not looked at. -/
theorem bar?_of_outside {date : Date} (dated : record.date = .ok date) (outside : date.isWithin first last = false) :
    record.bar? symbol first last = .ok none := by
  apply bind_eq_ok.2 ⟨date, dated, ?_⟩
  rw [Date.outside_eq_not_isWithin, outside]
  rfl

theorem Spells.bar?_eq {bar : PriceBar Float} (spells : record.Spells symbol bar)
    (within : bar.date.isWithin first last = true) : record.bar? symbol first last = .ok (some bar) := by
  apply bind_eq_ok.2 ⟨bar.date, spells.date, ?_⟩
  rw [Date.outside_eq_not_isWithin, within]
  apply bind_eq_ok.2 ⟨bar.openPrice, spells.openPrice, ?_⟩
  apply bind_eq_ok.2 ⟨bar.highPrice, spells.highPrice, ?_⟩
  apply bind_eq_ok.2 ⟨bar.lowPrice, spells.lowPrice, ?_⟩
  apply bind_eq_ok.2 ⟨bar.closePrice, spells.closePrice, ?_⟩
  apply bind_eq_ok.2 ⟨bar.volume, spells.volume, ?_⟩
  obtain rfl := spells.symbol
  rfl

/-- A record gives no bar if it is of a day outside the range, and the bar that it spells if it is of one within. -/
theorem bar?_cases {bar? : Option (PriceBar Float)} (read : record.bar? symbol first last = .ok bar?) :
    (∃ date, record.date = .ok date ∧ date.isWithin first last = false ∧ bar? = none) ∨
      ∃ bar, record.Spells symbol bar ∧ bar.date.isWithin first last = true ∧ bar? = some bar := by
  obtain ⟨date, dated, read⟩ := bind_eq_ok.1 read
  rw [Date.outside_eq_not_isWithin] at read
  cases within : date.isWithin first last with
  | false =>
      rw [within] at read
      cases read
      exact .inl ⟨date, dated, within, rfl⟩
  | true =>
      rw [within] at read
      obtain ⟨openPrice, opens, read⟩ := bind_eq_ok.1 read
      obtain ⟨highPrice, high, read⟩ := bind_eq_ok.1 read
      obtain ⟨lowPrice, low, read⟩ := bind_eq_ok.1 read
      obtain ⟨closePrice, closes, read⟩ := bind_eq_ok.1 read
      obtain ⟨volume, traded, read⟩ := bind_eq_ok.1 read
      cases read
      have spells : record.Spells symbol ⟨symbol, date, openPrice, highPrice, lowPrice, closePrice, volume⟩ :=
        ⟨rfl, dated, opens, high, low, closes, traded⟩
      exact .inr ⟨_, spells, within, rfl⟩

/-- A narrower range leaves the bar of a record, or takes it away. -/
theorem bar?_narrowed {bar? : Option (PriceBar Float)}
    (inside : ∀ date : Date, date.isWithin first last = true → date.isWithin wideFirst wideLast = true)
    (read : record.bar? symbol wideFirst wideLast = .ok bar?) :
    record.bar? symbol first last = .ok (bar?.filter fun bar => bar.date.isWithin first last) := by
  obtain ⟨date, dated, outside, rfl⟩ | ⟨bar, spells, -, rfl⟩ := bar?_cases read
  · refine bar?_of_outside dated (Bool.eq_false_iff.2 fun within => ?_)
    exact Bool.eq_false_iff.1 outside (inside date within)
  · cases within : bar.date.isWithin first last with
    | true =>
        have kept : (some bar).filter (fun bar => bar.date.isWithin first last) = some bar := by
          simp [Option.filter, within]
        rw [kept, spells.bar?_eq within]
    | false =>
        have left : (some bar).filter (fun bar => bar.date.isWithin first last) = none := by
          simp [Option.filter, within]
        rw [left, bar?_of_outside spells.date within]

end Record

/-- The bars that records spell for the days of a range, by date: one bar for each record of such a day and no other.  Bars
with the same date are in the order of their records, and their numbers are finite and not negative. -/
structure IsPriceSeries (symbol : String) (first last : Date) (records : List Record) (bars : List (PriceBar Float)) :
    Prop where
  sorted : bars.Pairwise fun earlier later => earlier.date ≤ later.date
  spelled : ∃ inFileOrder,
    List.Forall₂ (Record.Spells symbol) (records.filter (·.isOfDays first last)) inFileOrder ∧
      bars.Perm inFileOrder ∧ ∀ date, PriceBar.onDay date bars = PriceBar.onDay date inFileOrder
  within : ∀ bar ∈ bars, first ≤ bar.date ∧ bar.date ≤ last
  numbers : ∀ bar ∈ bars, ∀ value ∈ bar.numbers,
    Arithmetic.isFinite value = true ∧ Arithmetic.le (Arithmetic.whole 0) value = true

theorem Record.Spells.unique {bar other : PriceBar Float} (spells : record.Spells symbol bar)
    (also : record.Spells symbol other) : bar = other := by
  cases bar
  cases other
  simp only [PriceBar.mk.injEq]
  exact ⟨spells.symbol.trans also.symbol.symm, Except.ok.inj (spells.date.symm.trans also.date),
    Except.ok.inj (spells.openPrice.symm.trans also.openPrice), Except.ok.inj (spells.highPrice.symm.trans also.highPrice),
    Except.ok.inj (spells.lowPrice.symm.trans also.lowPrice), Except.ok.inj (spells.closePrice.symm.trans also.closePrice),
    Except.ok.inj (spells.volume.symm.trans also.volume)⟩

/-- Records have one series of bars for a range at most. -/
theorem IsPriceSeries.unique {records : List Record} {bars others : List (PriceBar Float)}
    (one : IsPriceSeries symbol first last records bars) (other : IsPriceSeries symbol first last records others) :
    bars = others := by
  obtain ⟨inFileOrder, spelled, -, onDays⟩ := one.spelled
  obtain ⟨inFileOrder', spelled', -, onDays'⟩ := other.spelled
  have determined : Relator.RightUnique (Record.Spells symbol) := fun _ _ _ spells also => spells.unique also
  have same : inFileOrder = inFileOrder' := List.right_unique_forall₂' determined spelled spelled'
  exact PriceBar.eq_of_onDay one.sorted other.sorted fun date => (onDays date).trans (same ▸ (onDays' date).symm)

variable {width number : Nat} {records : List Record} {bars wide : List (PriceBar Float)}

theorem barsFrom_cons_eq_ok {rest : List Record} :
    barsFrom symbol first last width number (record :: rest) = .ok bars ↔
      record.fields.length = width ∧ ∃ bar? later, record.bar? symbol first last = .ok bar? ∧
        barsFrom symbol first last width (number + 1) rest = .ok later ∧ bar?.toList ++ later = bars := by
  rw [barsFrom]
  refine guard_eq_ok.trans (and_congr not_not ?_)
  constructor
  · intro read
    obtain ⟨bar?, one, read⟩ := bind_eq_ok.1 read
    obtain ⟨later, more, read⟩ := bind_eq_ok.1 read
    exact ⟨bar?, later, one, more, Except.ok.inj read⟩
  · rintro ⟨bar?, later, one, more, rfl⟩
    exact bind_eq_ok.2 ⟨bar?, one, bind_eq_ok.2 ⟨later, more, rfl⟩⟩

/-- In file order there is one bar for each record of a day of the range. -/
theorem barsFrom_spelled (read : barsFrom symbol first last width number records = .ok bars) :
    List.Forall₂ (Record.Spells symbol) (records.filter (·.isOfDays first last)) bars := by
  induction records generalizing number bars with
  | nil =>
      cases read
      exact .nil
  | cons record rest ih =>
      obtain ⟨-, bar?, later, one, more, rfl⟩ := barsFrom_cons_eq_ok.1 read
      obtain ⟨date, dated, outside, rfl⟩ | ⟨bar, spells, within, rfl⟩ := Record.bar?_cases one
      · rw [List.filter_cons_of_neg (by simp [Record.isOfDays_of_date dated, outside])]
        exact ih more
      · rw [List.filter_cons_of_pos (by rw [Record.isOfDays_of_date spells.date, within])]
        exact .cons spells (ih more)

theorem barsFrom_within (read : barsFrom symbol first last width number records = .ok bars) :
    ∀ bar ∈ bars, first ≤ bar.date ∧ bar.date ≤ last := by
  induction records generalizing number bars with
  | nil =>
      cases read
      exact List.forall_mem_nil _
  | cons record rest ih =>
      obtain ⟨-, bar?, later, one, more, rfl⟩ := barsFrom_cons_eq_ok.1 read
      obtain ⟨date, dated, outside, rfl⟩ | ⟨bar, spells, within, rfl⟩ := Record.bar?_cases one
      · exact ih more
      · exact List.forall_mem_cons.2 ⟨Date.isWithin_iff.1 within, ih more⟩

/-- Record by record, a narrower range leaves those bars that are within it. -/
theorem barsFrom_narrowed
    (inside : ∀ date : Date, date.isWithin first last = true → date.isWithin wideFirst wideLast = true)
    (read : barsFrom symbol wideFirst wideLast width number records = .ok wide) :
    barsFrom symbol first last width number records = .ok (wide.filter fun bar => bar.date.isWithin first last) := by
  induction records generalizing number wide with
  | nil =>
      cases read
      rfl
  | cons record rest ih =>
      obtain ⟨even, bar?, later, one, more, rfl⟩ := barsFrom_cons_eq_ok.1 read
      refine barsFrom_cons_eq_ok.2 ⟨even, _, _, Record.bar?_narrowed inside one, ih more, ?_⟩
      rw [List.filter_append, Option.toList_filter]

theorem numbers_of_spelled (spelled : List.Forall₂ (Record.Spells symbol) records bars) :
    ∀ bar ∈ bars, ∀ value ∈ bar.numbers,
      Arithmetic.isFinite value = true ∧ Arithmetic.le (Arithmetic.whole 0) value = true := by
  induction spelled with
  | nil => exact List.forall_mem_nil _
  | cons spells _ ih => exact List.forall_mem_cons.2 ⟨spells.numbers, ih⟩

theorem barsOfRecords_cons_eq_ok {heading : Record} :
    barsOfRecords symbol first last (heading :: records) = .ok bars ↔
      ∃ inFileOrder, barsFrom symbol first last heading.fields.length 1 records = .ok inFileOrder ∧
        inFileOrder.mergeSort PriceBar.mayPrecede = bars := by
  constructor
  · intro read
    obtain ⟨inFileOrder, read, sorted⟩ := bind_eq_ok.1 read
    exact ⟨inFileOrder, read, Except.ok.inj sorted⟩
  · rintro ⟨inFileOrder, read, rfl⟩
    exact bind_eq_ok.2 ⟨inFileOrder, read, rfl⟩

theorem barsOfRecords_isPriceSeries (read : barsOfRecords symbol first last records = .ok bars) :
    IsPriceSeries symbol first last records.tail bars := by
  cases records with
  | nil =>
      cases read
      exact ⟨.nil, ⟨[], .nil, .nil, fun _ => rfl⟩, List.forall_mem_nil _, List.forall_mem_nil _⟩
  | cons heading rest =>
      obtain ⟨inFileOrder, inOrder, rfl⟩ := barsOfRecords_cons_eq_ok.1 read
      have spelled := barsFrom_spelled inOrder
      refine ⟨PriceBar.pairwise_mergeSort _, ⟨inFileOrder, spelled, List.mergeSort_perm _ _, ?_⟩, ?_, ?_⟩
      · exact PriceBar.onDay_mergeSort inFileOrder
      · exact fun bar member => barsFrom_within inOrder bar (List.mem_mergeSort.1 member)
      · exact fun bar member => numbers_of_spelled spelled bar (List.mem_mergeSort.1 member)

theorem barsOfRecords_narrowed
    (inside : ∀ date : Date, date.isWithin first last = true → date.isWithin wideFirst wideLast = true)
    (read : barsOfRecords symbol wideFirst wideLast records = .ok wide) :
    barsOfRecords symbol first last records = .ok (wide.filter fun bar => bar.date.isWithin first last) := by
  cases records with
  | nil =>
      cases read
      rfl
  | cons heading rest =>
      obtain ⟨inFileOrder, inOrder, rfl⟩ := barsOfRecords_cons_eq_ok.1 read
      exact barsOfRecords_cons_eq_ok.2 ⟨_, barsFrom_narrowed inside inOrder, (PriceBar.filter_mergeSort _ _).symm⟩

end Records

/-- A file that can be read for a range of days can be read for every range inside it, and then gives the bars of the wider
range that are within the narrower one, in the same order.  What is read for a range is the series of bars that the records
after the heading spell for its days. -/
theorem fetch_narrowed {first last wideFirst wideLast : Date}
    (inside : ∀ date : Date, date.isWithin first last = true → date.isWithin wideFirst wideLast = true)
    (symbol : String) :
    (∀ records wide, barsOfRecords symbol wideFirst wideLast records = .ok wide →
      barsOfRecords symbol first last records = .ok (wide.filter fun bar => bar.date.isWithin first last)) ∧
    (∀ records bars, barsOfRecords symbol first last records = .ok bars →
      IsPriceSeries symbol first last records.tail bars) ∧
    ∀ (directory : PriceDirectory) (access : FileAccess Id),
      (∀ wide, directory.fetch access symbol wideFirst wideLast = .ok wide →
        directory.fetch access symbol first last = .ok (wide.filter fun bar => bar.date.isWithin first last)) ∧
      ∀ bars, directory.fetch access symbol first last = .ok bars →
        ∃ text, access.readText (directory.fileOf symbol) = .ok text ∧
          IsPriceSeries (Text.raised symbol) first last (Record.readAll text).tail bars := by
  refine ⟨fun _ _ read => barsOfRecords_narrowed inside read, fun _ _ read => barsOfRecords_isPriceSeries read, ?_⟩
  intro directory access
  cases readable : access.readText (directory.fileOf symbol) with
  | error cause =>
      rw [PriceDirectory.fetch_of_error readable, PriceDirectory.fetch_of_error readable]
      constructor
      · intro wide read
        cases read
      · intro bars read
        cases read
  | ok text =>
      rw [PriceDirectory.fetch_of_ok readable, PriceDirectory.fetch_of_ok readable]
      exact ⟨fun wide read => barsOfRecords_narrowed inside read,
        fun bars read => ⟨text, rfl, barsOfRecords_isPriceSeries read⟩⟩

/-- Days out of order, one of them twice, and at the end a day without prices. -/
def shuffledDays : String :=
  "date,open,high,low,close,volume\n2011-03-09,4,4,4,4,9\n2011-03-07,2,2,2,2,7\n2011-03-08,3,3,3,3,8\n" ++
    "2011-03-07,1,1,1,1,6\n2011-05-02,closed,,,,\n"

theorem shuffledDays_narrowed :
    let directory : PriceDirectory := ⟨"data"⟩
    let access := (FileTree.ofList [("data/BHP.csv", shuffledDays)]).access
    let first : Date := ⟨2011, 3, 7, by decide⟩
    let last : Date := ⟨2011, 3, 8, by decide⟩
    ∃ wide, directory.fetch access "bhp" ⟨2011, 3, 1, by decide⟩ ⟨2011, 3, 31, by decide⟩ = .ok wide ∧
      wide.length = 4 ∧
      directory.fetch access "bhp" first last = .ok (wide.filter fun bar => bar.date.isWithin first last) := by
  intro directory access first last
  have inside : ∀ date : Date, date.isWithin first last = true →
      date.isWithin ⟨2011, 3, 1, by decide⟩ ⟨2011, 3, 31, by decide⟩ = true :=
    fun date => Date.isWithin_of_narrower (by decide) (by decide)
  have path : directory.fileOf "bhp" = "data/BHP.csv" := by decide +kernel
  have upper : Text.raised "bhp" = "BHP" := by decide +kernel
  have present : (FileTree.ofList [("data/BHP.csv", shuffledDays)]).readText "data/BHP.csv" = .ok shuffledDays := by
    decide +kernel
  have stored : access.readText (directory.fileOf "bhp") = .ok shuffledDays :=
    (congrArg access.readText path).trans present
  obtain ⟨days, spelled, four⟩ : ∃ days,
      Record.readAll shuffledDays = ⟨⟨1, 0⟩, ["date", "open", "high", "low", "close", "volume"]⟩ :: days ∧
        ((barsFrom "BHP" ⟨2011, 3, 1, by decide⟩ ⟨2011, 3, 31, by decide⟩ 6 1 days).map List.length).toOption =
          some 4 :=
    ⟨(Record.readAll shuffledDays).tail, by decide +kernel, by decide +kernel⟩
  cases read : barsFrom "BHP" ⟨2011, 3, 1, by decide⟩ ⟨2011, 3, 31, by decide⟩ 6 1 days with
  | error problem =>
      rw [read] at four
      cases four
  | ok bars =>
      rw [read] at four
      have wide : directory.fetch access "bhp" ⟨2011, 3, 1, by decide⟩ ⟨2011, 3, 31, by decide⟩ =
          .ok (bars.mergeSort PriceBar.mayPrecede) := by
        rw [PriceDirectory.fetch_of_ok stored, upper, barsOfText, spelled]
        exact barsOfRecords_cons_eq_ok.2 ⟨bars, read, rfl⟩
      obtain ⟨-, -, fetched⟩ := fetch_narrowed inside "bhp"
      refine ⟨_, wide, ?_, (fetched directory access).1 _ wide⟩
      rw [List.length_mergeSort]
      exact Option.some.inj four

end PaperTrading
