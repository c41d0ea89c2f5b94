/-
Module: PaperTrading.Proofs.Ledger.Course
Purpose: The course of a run: purchases and sales by turns, with what was decided and written down between them.
Main exports: RoundTrip, buysOn, IdleBetween, HeldBetween, Course, run_course

A run goes day by day.  Its course is told sale by sale: the book waits with its cash, buys, keeps what it bought and
sells it, and then waits again with what the sale brought in.  Every run has such a course, however it ends.
-/
import Mathlib.Data.List.Chain
import PaperTrading.Proofs.Ledger.Day

namespace PaperTrading

variable {α : Type} [Arithmetic α]

/-- A position and its sale. -/
structure RoundTrip (α : Type) where
  position : Position α
  /-- The index of the day of the sale. -/
  exit : Nat
  /-- The day of the sale. -/
  sold : PanelRow α
  reason : ExitReason

namespace RoundTrip

/-- The index of the day of the purchase. -/
def entry {β : Type} (trip : RoundTrip β) : Nat :=
  trip.position.entryIndex

/-- The trade that is completed. -/
def trade (trip : RoundTrip α) (terms : Terms α) : Trade α :=
  trip.position.close trip.exit trip.sold.date trip.sold.closePrice terms.fee trip.reason

/-- The cash that the sale brings in. -/
def proceeds (trip : RoundTrip α) (terms : Terms α) : α :=
  trip.position.proceeds trip.sold.closePrice terms.fee

end RoundTrip

section Course

variable (signals : Signals α) (terms : Terms α) (panel : List (PanelRow α)) (result : RunResult α)

/-- Whether a book with some cash and no position buys on a day of the panel. -/
def buysOn (cash : α) (day : Nat) : Bool :=
  panel[day]?.any fun row => signals.buys terms day row (day + 1 == panel.length) cash

/-- The book waits with its cash on the days from the first up to the last, without the last. -/
structure IdleBetween (first last : Nat) (cash : α) : Prop where
  ordered : first ≤ last
  worth : ∀ day, first ≤ day → day ≤ last → result.equity[day]? = some cash
  quiet : ∀ day, first ≤ day → day < last → buysOn signals terms panel cash day = false

/-- The book keeps a position on the days from the first up to the last, without the last. -/
structure HeldBetween (position : Position α) (first last : Nat) : Prop where
  ordered : first ≤ last
  worth : ∀ day row, first ≤ day → day < last → panel[day]? = some row →
    result.equity[day + 1]? = some (position.marketValue row.closePrice)
  quiet : ∀ day, first ≤ day → day < last → signals.sells position day = false

namespace RoundTrip

/-- All cash is spent on the position, on a day that asks for it. -/
structure Bought (cash : α) (trip : RoundTrip α) : Prop where
  signal : buysOn signals terms panel cash trip.entry = true
  position : ∃ row, panel[trip.entry]? = some row ∧ trip.position = .allIn trip.entry row cash terms.fee

/-- The reason of a sale is the first that applies: the run was cancelled before the day, the strategy sells on it,
or it is the last. -/
def HasReason {β : Type} (signals : Signals β) (panel : List (PanelRow β)) (result : RunResult β)
    (trip : RoundTrip β) : Prop :=
  match trip.reason with
  | .signal => signals.sells trip.position trip.exit = true
  | .endOfData =>
    signals.sells trip.position trip.exit = false ∧ trip.exit + 1 = panel.length ∧ result.cancelled = false
  | .cancelled => trip.exit + 1 = result.barsProcessed ∧ result.cancelled = true

/-- The position is sold after the day it was bought on, for a reason. -/
structure Sold {β : Type} (signals : Signals β) (panel : List (PanelRow β)) (result : RunResult β)
    (trip : RoundTrip β) : Prop where
  later : trip.entry < trip.exit
  row : panel[trip.exit]? = some trip.sold
  reason : trip.HasReason signals panel result

/-- The position is bought, kept and sold on days that were processed. -/
structure Completed (trip : RoundTrip α) : Prop where
  bought : ∃ cash, trip.Bought signals terms panel cash
  kept : HeldBetween signals panel result trip.position trip.entry trip.exit
  sold : trip.Sold signals panel result
  processed : trip.exit < result.barsProcessed

end RoundTrip

/-- The course of a run from a day on which the book has some cash and no position. -/
inductive Course : (first : Nat) → (cash : α) → List (RoundTrip α) → Prop
  /-- Nothing more is bought. -/
  | rest {first : Nat} {cash : α} (idle : IdleBetween signals terms panel result first result.barsProcessed cash) :
      Course first cash []
  /-- A position is bought and sold. -/
  | trip {first : Nat} {cash : α} {trip : RoundTrip α} {trips : List (RoundTrip α)}
      (idle : IdleBetween signals terms panel result first trip.entry cash)
      (bought : trip.Bought signals terms panel cash)
      (kept : HeldBetween signals panel result trip.position trip.entry trip.exit)
      (sold : trip.Sold signals panel result)
      (later : Course (trip.exit + 1) (trip.proceeds terms) trips) :
      Course first cash (trip :: trips)

/-- The run goes on from a book before a day, with a position or without. -/
inductive Book.Continues (index : Nat) (book : Book α) : Prop
  | flat {trips : List (RoundTrip α)} (flat : book.held = none)
      (course : Course signals terms panel result index book.cash trips)
      (trades : result.trades = book.trades.toList ++ trips.map (·.trade terms))
  | held {trip : RoundTrip α} {trips : List (RoundTrip α)} (held : book.held = some trip.position)
      (kept : HeldBetween signals panel result trip.position index trip.exit)
      (sold : trip.Sold signals panel result)
      (course : Course signals terms panel result (trip.exit + 1) (trip.proceeds terms) trips)
      (trades : result.trades = book.trades.toList ++ (trip :: trips).map (·.trade terms))

end Course

section Stretches

variable {signals : Signals α} {terms : Terms α} {panel : List (PanelRow α)} {result : RunResult α}
  {index last : Nat} {cash : α}

theorem IdleBetween.refl (worth : result.equity[index]? = some cash) :
    IdleBetween signals terms panel result index index cash where
  ordered := Nat.le_refl index
  worth := by
    intro day low high
    rwa [Nat.le_antisymm high low]
  quiet := by
    intro day low high
    exact absurd low (Nat.not_le.2 high)

/-- One more day of waiting comes first. -/
theorem IdleBetween.cons (worth : result.equity[index]? = some cash)
    (quiet : buysOn signals terms panel cash index = false)
    (idle : IdleBetween signals terms panel result (index + 1) last cash) :
    IdleBetween signals terms panel result index last cash where
  ordered := Nat.le_of_succ_le idle.ordered
  worth := by
    intro day low high
    obtain rfl | after := Nat.eq_or_lt_of_le low
    · exact worth
    · exact idle.worth day after high
  quiet := by
    intro day low high
    obtain rfl | after := Nat.eq_or_lt_of_le low
    · exact quiet
    · exact idle.quiet day after high

theorem HeldBetween.refl (position : Position α) :
    HeldBetween signals panel result position index index where
  ordered := Nat.le_refl index
  worth := by
    intro day row low high
    exact absurd low (Nat.not_le.2 high)
  quiet := by
    intro day low high
    exact absurd low (Nat.not_le.2 high)

/-- One more day of holding comes first. -/
theorem HeldBetween.cons {position : Position α} {row : PanelRow α} (here : panel[index]? = some row)
    (worth : result.equity[index + 1]? = some (position.marketValue row.closePrice))
    (quiet : signals.sells position index = false)
    (held : HeldBetween signals panel result position (index + 1) last) :
    HeldBetween signals panel result position index last where
  ordered := Nat.le_of_succ_le held.ordered
  worth := by
    intro day other low high there
    obtain rfl | after := Nat.eq_or_lt_of_le low
    · rw [here, Option.some.injEq] at there
      rwa [← there]
    · exact held.worth day other after high there
  quiet := by
    intro day low high
    obtain rfl | after := Nat.eq_or_lt_of_le low
    · exact quiet
    · exact held.quiet day after high

/-- One more day of waiting comes before a course. -/
theorem Course.cons {trips : List (RoundTrip α)} (worth : result.equity[index]? = some cash)
    (quiet : buysOn signals terms panel cash index = false)
    (course : Course signals terms panel result (index + 1) cash trips) :
    Course signals terms panel result index cash trips := by
  cases course with
  | rest idle => exact .rest (idle.cons worth quiet)
  | trip idle bought kept sold later => exact .trip (idle.cons worth quiet) bought kept sold later

end Stretches

section Reasons

variable {β : Type} {signals : Signals β} {panel : List (PanelRow β)} {result : RunResult β} {trip : RoundTrip β}
  (sold : trip.Sold signals panel result)
include sold

theorem RoundTrip.Sold.of_signal (reason : trip.reason = .signal) : signals.sells trip.position trip.exit = true := by
  have why := sold.reason
  rwa [HasReason, reason] at why

theorem RoundTrip.Sold.of_endOfData (reason : trip.reason = .endOfData) :
    signals.sells trip.position trip.exit = false ∧ trip.exit + 1 = panel.length ∧ result.cancelled = false := by
  have why := sold.reason
  rwa [HasReason, reason] at why

theorem RoundTrip.Sold.of_cancelled (reason : trip.reason = .cancelled) :
    trip.exit + 1 = result.barsProcessed ∧ result.cancelled = true := by
  have why := sold.reason
  rwa [HasReason, reason] at why

end Reasons

section Trips

variable {signals : Signals α} {terms : Terms α} {panel : List (PanelRow α)} {result : RunResult α}
  {first : Nat} {cash : α} {trip : RoundTrip α} {trips : List (RoundTrip α)}

theorem RoundTrip.Bought.inside (bought : trip.Bought signals terms panel cash) : trip.entry + 1 < panel.length := by
  obtain ⟨row, here, -⟩ := bought.position
  have signal := bought.signal
  have inside : trip.entry < panel.length := (List.getElem?_eq_some_iff.1 here).1
  rw [buysOn, here, Option.any_some] at signal
  have more : trip.entry + 1 ≠ panel.length := beq_eq_false_iff_ne.1 (Signals.not_last_of_buys signal)
  exact Nat.lt_of_le_of_ne inside more

/-- A position is not bought before the warm-up is over. -/
theorem RoundTrip.Bought.warm (bought : trip.Bought signals terms panel cash) : signals.warmup ≤ trip.entry := by
  obtain ⟨row, here, -⟩ := bought.position
  have signal := bought.signal
  simp only [buysOn, here, Option.any_some, Signals.buys, Bool.and_eq_true, decide_eq_true_eq] at signal
  exact signal.1.1.1

/-- A position is only bought at a finite price above zero. -/
theorem RoundTrip.Bought.price (bought : trip.Bought signals terms panel cash) :
    Arithmetic.isFinite trip.position.entryPrice = true ∧
      Arithmetic.lt (Arithmetic.whole 0) trip.position.entryPrice = true := by
  obtain ⟨row, here, position⟩ := bought.position
  have signal := bought.signal
  simp only [buysOn, here, Option.any_some, Signals.buys, PanelRow.isAffordable, Bool.and_eq_true] at signal
  rw [position]
  exact signal.2.1

namespace Course

theorem first_le (course : Course signals terms panel result first cash trips) : first ≤ result.barsProcessed := by
  induction course with
  | rest idle => exact idle.ordered
  | @trip first cash trip trips idle bought kept sold later ih =>
      calc first ≤ trip.entry := idle.ordered
        _ ≤ trip.exit := kept.ordered
        _ ≤ trip.exit + 1 := Nat.le_succ trip.exit
        _ ≤ result.barsProcessed := ih

theorem worth_first (course : Course signals terms panel result first cash trips) :
    result.equity[first]? = some cash := by
  cases course with
  | rest idle => exact idle.worth first (Nat.le_refl first) idle.ordered
  | trip idle => exact idle.worth first (Nat.le_refl first) idle.ordered

/-- Each trip is completed on days that were processed. -/
theorem completed (course : Course signals terms panel result first cash trips) (member : trip ∈ trips) :
    trip.Completed signals terms panel result := by
  induction course with
  | rest idle => exact absurd member List.not_mem_nil
  | trip idle bought kept sold later ih =>
      obtain rfl | member := List.mem_cons.1 member
      · exact ⟨⟨_, bought⟩, kept, sold, later.first_le⟩
      · exact ih member

theorem first_le_entry (course : Course signals terms panel result first cash trips) (member : trip ∈ trips) :
    first ≤ trip.entry := by
  induction course with
  | rest idle => exact absurd member List.not_mem_nil
  | @trip first cash here trips idle bought kept sold later ih =>
      obtain rfl | member := List.mem_cons.1 member
      · exact idle.ordered
      · calc first ≤ here.entry := idle.ordered
          _ ≤ here.exit := kept.ordered
          _ ≤ here.exit + 1 := Nat.le_succ here.exit
          _ ≤ trip.entry := ih member

/-- Each trip begins after the one before it has ended. -/
theorem isChain (course : Course signals terms panel result first cash trips) :
    trips.IsChain fun trip next => trip.exit < next.entry := by
  induction course with
  | rest idle => exact .nil
  | trip idle bought kept sold later ih =>
      rw [List.isChain_cons]
      refine ⟨?_, ih⟩
      intro next head
      exact later.first_le_entry (List.mem_of_mem_head? head)

/-- Only the last position is sold for another reason than a signal: after any other a purchase follows, so the run
was neither at its end nor cancelled. -/
theorem reason_of_mem_dropLast (course : Course signals terms panel result first cash trips)
    (member : trip ∈ trips.dropLast) : trip.reason = .signal := by
  induction course with
  | rest idle => exact absurd member List.not_mem_nil
  | @trip first cash here trips idle bought kept sold later ih =>
      cases trips with
      | nil => exact absurd member List.not_mem_nil
      | cons next others =>
          rw [List.dropLast_cons_cons] at member
          obtain rfl | member := List.mem_cons.1 member
          · have after := later.first_le_entry List.mem_cons_self
            obtain ⟨-, between, selling, processed⟩ := later.completed List.mem_cons_self
            have ordered := between.ordered
            have inside : next.exit < panel.length := (List.getElem?_eq_some_iff.1 selling.row).1
            cases reason : trip.reason with
            | signal => rfl
            | endOfData =>
                have last := (sold.of_endOfData reason).2.1
                omega
            | cancelled =>
                have last := (sold.of_cancelled reason).1
                omega
          · exact ih member

end Course

end Trips

section Runs

variable {signals : Signals α} {terms : Terms α} {panel : List (PanelRow α)} {result : RunResult α}
  {stopBefore : Progress → Bool} {index : Nat} {row : PanelRow α} {book next : Book α}

/-- The accounts before a day: there is a point for each day so far, the last of them the cash if there is no position,
and a position was bought before and has a day left for its sale. -/
structure Book.Current {β : Type} (panel : List (PanelRow β)) (index : Nat) (book : Book β) : Prop where
  points : book.equity.size = index + 1
  flat : book.held = none → book.equity[index]? = some book.cash
  held : ∀ position, book.held = some position → position.entryIndex < index ∧ index < panel.length

theorem Book.current_start {β : Type} (panel : List (PanelRow β)) (terms : Terms β) :
    (start terms).Current panel 0 where
  points := rfl
  flat := fun _ => rfl
  held := fun _ held => nomatch held

theorem Book.Current.next_point {β : Type} {panel : List (PanelRow β)} {book next : Book β}
    (current : book.Current panel index) {worth : β} (grown : next.equity = book.equity.push worth) :
    next.equity[index + 1]? = some worth := by
  rw [grown, ← current.points]
  exact Array.getElem?_push_size

/-- A day keeps the accounts current. -/
theorem Book.Day.current (day : Day signals terms index row (index + 1 == panel.length) book next)
    (inside : index < panel.length) (current : book.Current panel index) : next.Current panel (index + 1) where
  points := by
    rw [day.equity, Array.size_push, current.points]
  flat := by
    intro flat
    have worth : next.worth row = next.cash := by
      rw [worth, flat]
    rw [current.next_point day.equity, worth]
  held := by
    intro position held
    cases day with
    | idle failures flat => exact nomatch flat.symm.trans held
    | purchase flat bought =>
        have more : index + 1 ≠ panel.length := beq_eq_false_iff_ne.1 (Signals.not_last_of_buys bought)
        obtain rfl : Position.allIn index row book.cash terms.fee = position := Option.some.inj held
        exact ⟨Nat.lt_succ_self index, Nat.lt_of_le_of_ne inside more⟩
    | holding failures same quiet more =>
        have before := (current.held position held).1
        exact ⟨Nat.lt_succ_of_lt before, Nat.lt_of_le_of_ne inside (beq_eq_false_iff_ne.1 more)⟩
    | sale | closing => exact nomatch held

theorem Book.equity_kept_finish {β : Type} (book : Book β) (barsProcessed : Nat) (cancelled : Bool) :
    book.equity.toList <+: (book.finish barsProcessed cancelled).equity :=
  List.prefix_rfl

variable (signals terms stopBefore) in
/-- What is written down stays. -/
theorem runFrom_equity_kept (rows : List (PanelRow α)) (index : Nat) (book : Book α) :
    book.equity.toList <+: (runFrom signals terms stopBefore index book rows).equity := by
  induction rows generalizing index book with
  | nil => exact book.equity_kept_finish index false
  | cons row later ih =>
      rw [runFrom]
      split
      · split
        case h_1 position held =>
          rw [Book.settle_of_held held, Book.finish, Book.record, Array.toList_push]
          exact List.prefix_append _ _
        case h_2 => exact book.equity_kept_finish index true
      · have day : Book.Day signals terms index row later.isEmpty book _ := book.step_day
        exact day.equity_kept.trans (ih (index + 1) _)

/-- What is written down in a book is so in the result. -/
theorem getElem?_of_equity_kept {β : Type} {book : Book β} {result : RunResult β} {point : β}
    (kept : book.equity.toList <+: result.equity) (here : book.equity[index]? = some point) :
    result.equity[index]? = some point := by
  obtain ⟨rest, same⟩ := kept
  rw [← Array.getElem?_toList] at here
  rw [← same, List.getElem?_append_left (List.getElem?_eq_some_iff.1 here).1, here]

/-- A run that sells its position on a day goes on from before it. -/
theorem Book.Continues.of_sale {position : Position α} {trips : List (RoundTrip α)} (reason : ExitReason)
    (here : panel[index]? = some row) (held : book.held = some position) (entered : position.entryIndex < index)
    (fitting : RoundTrip.HasReason signals panel result ⟨position, index, row, reason⟩)
    (course : Course signals terms panel result (index + 1) (position.proceeds row.closePrice terms.fee) trips)
    (trades : result.trades = (book.sell terms index row position reason).trades.toList ++
      trips.map (·.trade terms)) :
    book.Continues signals terms panel result index := by
  let trip : RoundTrip α := ⟨position, index, row, reason⟩
  have sold : trip.Sold signals panel result := ⟨entered, here, fitting⟩
  have selling : book.held = some trip.position := held
  refine .held selling (.refl position) sold course ?_
  rw [trades, sell, Array.toList_push, List.append_assoc, List.map_cons]
  rfl

/-- A run that buys on a day goes on from before it. -/
theorem Book.Continues.of_purchase (here : panel[index]? = some row) (flat : book.held = none)
    (bought : buysOn signals terms panel book.cash index = true) (cash : result.equity[index]? = some book.cash)
    (worth : result.equity[index + 1]? = some (next.worth row))
    (spent : next.held = some (.allIn index row book.cash terms.fee)) (same : next.trades = book.trades)
    (later : next.Continues signals terms panel result (index + 1)) :
    book.Continues signals terms panel result index := by
  cases later with
  | flat empty => exact nomatch spent.symm.trans empty
  | @held trip trips held kept sold course trades =>
      have position : trip.position = .allIn index row book.cash terms.fee := Option.some.inj (held.symm.trans spent)
      have entry : index = trip.entry := by
        rw [RoundTrip.entry, position]
        rfl
      -- On the day of the purchase the strategy is not asked about a sale.
      have quiet : signals.sells trip.position index = false := by
        rw [Signals.sells, show trip.position.entryIndex = index from entry.symm]
        simp
      rw [Book.worth, held] at worth
      have kept := kept.cons here worth quiet
      have bought : trip.Bought signals terms panel book.cash := ⟨entry ▸ bought, row, entry ▸ here, entry ▸ position⟩
      rw [same] at trades
      refine .flat flat (.trip (entry ▸ .refl cash) bought (entry ▸ kept) sold course) trades

/-- A run that goes on after a day goes on from before it. -/
theorem Book.Day.continues (day : Day signals terms index row (index + 1 == panel.length) book next)
    (here : panel[index]? = some row) (current : book.Current panel index)
    (written : next.equity.toList <+: result.equity) (completed : index + 1 = panel.length → result.cancelled = false)
    (later : next.Continues signals terms panel result (index + 1)) :
    book.Continues signals terms panel result index := by
  have worth : result.equity[index + 1]? = some (next.worth row) :=
    getElem?_of_equity_kept written (current.next_point day.equity)
  have cash (flat : book.held = none) : result.equity[index]? = some book.cash :=
    getElem?_of_equity_kept (day.equity_kept.trans written) (current.flat flat)
  have buysHere : buysOn signals terms panel book.cash index =
      signals.buys terms index row (index + 1 == panel.length) book.cash := by
    rw [buysOn, here, Option.any_some]
  cases day with
  | idle failures flat quiet =>
      cases later with
      | flat _ course trades => exact .flat flat (course.cons (cash flat) (buysHere.trans quiet)) trades
      | held held => exact nomatch flat.symm.trans held
  | purchase flat bought =>
      exact .of_purchase here flat (buysHere.trans bought) (cash flat) worth rfl rfl later
  | holding failures held quiet =>
      cases later with
      | flat empty => exact nomatch held.symm.trans empty
      | @held trip trips still kept sold course trades =>
          rw [Book.worth, still] at worth
          obtain rfl := Option.some.inj (held.symm.trans still)
          exact .held held (kept.cons here worth quiet) sold course trades
  | sale held signal =>
      cases later with
      | flat _ course trades => exact .of_sale .signal here held (current.held _ held).1 signal course trades
      | held still => exact nomatch still
  | closing failures held quiet last =>
      have finished : index + 1 = panel.length := beq_iff_eq.1 last
      cases later with
      | flat _ course trades =>
          exact .of_sale .endOfData here held (current.held _ held).1 ⟨quiet, finished, completed finished⟩ course
            trades
      | held still => exact nomatch still

/-- A run goes on from each of its days. -/
theorem runFrom_continues (rows : List (PanelRow α)) (rest : panel.drop index = rows)
    (current : book.Current panel index) :
    book.Continues signals terms panel (runFrom signals terms stopBefore index book rows) index := by
  induction rows generalizing index book with
  | nil =>
      -- Only a book without a position can have no days left.
      cases held : book.held with
      | none =>
          have cash := getElem?_of_equity_kept (book.equity_kept_finish index false) (current.flat held)
          exact .flat held (.rest (.refl cash)) (List.append_nil _).symm
      | some position =>
          have more := (current.held position held).2
          exact absurd (List.drop_eq_nil_iff.1 rest) (Nat.not_le.2 more)
  | cons row later ih =>
      obtain ⟨here, rest, isLast⟩ := day_of_drop rest
      have inside : index < panel.length := (List.getElem?_eq_some_iff.1 here).1
      rw [runFrom, isLast]
      split
      case isTrue stopped =>
        cases held : book.held with
        | none =>
            have cash := getElem?_of_equity_kept (book.equity_kept_finish index true) (current.flat held)
            exact .flat held (.rest (.refl cash)) (List.append_nil _).symm
        | some position =>
            have entered := (current.held position held).1
            let closed := (book.sell terms index row position .cancelled).record row
            have point : closed.equity[index + 1]? = some (position.proceeds row.closePrice terms.fee) :=
              current.next_point rfl
            have cash := getElem?_of_equity_kept (closed.equity_kept_finish (index + 1) true) point
            simp only [Book.settle_of_held held]
            exact .of_sale .cancelled here held entered ⟨rfl, rfl⟩ (.rest (.refl cash)) (List.append_nil _).symm
      case isFalse going =>
        have day : Book.Day signals terms index row (index + 1 == panel.length) book _ := book.step_day
        have after := runFrom_equity_kept signals terms stopBefore later (index + 1)
          (book.step signals terms index row (index + 1 == panel.length))
        refine day.continues here current after ?completed (ih rest (day.current inside current))
        intro last
        rw [last, List.drop_length] at rest
        subst rest
        rfl

/-- A result counts the days that were processed. -/
structure RunResult.Counts {β : Type} (panel : List (PanelRow β)) (result : RunResult β) : Prop where
  points : result.equity.length = result.barsProcessed + 1
  known : result.barsProcessed ≤ panel.length
  completed : result.cancelled = false → result.barsProcessed = panel.length

theorem runFrom_counts (rows : List (PanelRow α)) (rest : panel.drop index = rows) (known : index ≤ panel.length)
    (points : book.equity.size = index + 1) :
    (runFrom signals terms stopBefore index book rows).Counts panel := by
  induction rows generalizing index book with
  | nil =>
      have all : index = panel.length := Nat.le_antisymm known (List.drop_eq_nil_iff.1 rest)
      exact ⟨points, known, fun _ => all⟩
  | cons row later ih =>
      obtain ⟨here, rest, -⟩ := day_of_drop rest
      have inside : index < panel.length := (List.getElem?_eq_some_iff.1 here).1
      rw [runFrom]
      split
      case isTrue stopped =>
        split
        case h_1 position held =>
          have grown : ((book.settle terms index row .cancelled).record row).equity.size = index + 1 + 1 := by
            rw [Book.settle_of_held held, Book.record, Array.size_push]
            exact congrArg (· + 1) points
          exact ⟨grown, inside, fun completed => nomatch completed⟩
        case h_2 => exact ⟨points, known, fun completed => nomatch completed⟩
      case isFalse going =>
        have day : Book.Day signals terms index row later.isEmpty book _ := book.step_day
        refine ih rest inside ?_
        rw [day.equity, Array.size_push, points]

variable (signals terms stopBefore panel)

theorem run_counts : (run signals terms stopBefore panel).Counts panel :=
  runFrom_counts panel rfl (Nat.zero_le _) rfl

/-- Every run has a course, which makes its trades. -/
theorem run_course :
    ∃ trips, Course signals terms panel (run signals terms stopBefore panel) 0 terms.capital trips ∧
      (run signals terms stopBefore panel).trades = trips.map (·.trade terms) := by
  cases runFrom_continues panel rfl (Book.current_start panel terms) with
  | flat _ course trades => exact ⟨_, course, trades⟩
  | held held => exact nomatch held

end Runs

end PaperTrading
