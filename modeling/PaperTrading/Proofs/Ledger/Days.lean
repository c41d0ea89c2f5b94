/-
Module: PaperTrading.Proofs.Ledger.Days
Purpose: The accounts after some days of a run that is not stopped, and the days of the trades.
Main exports: Book.after, Book.after_day, Book.ClosedOn, Book.trade_of_held, run_of_not_cancelled
-/
import PaperTrading.Proofs.Ledger.Day

namespace PaperTrading

variable {α : Type} [Arithmetic α]

namespace Book

/-- A trade that is added takes the next place. -/
theorem getElem?_of_push {β : Type} {book next : Book β} {trade : Trade β}
    (pushed : next.trades = book.trades.push trade) :
    next.trades.toList[book.trades.size]? = some trade := by
  rw [pushed, Array.toList_push, ← Array.length_toList]
  exact List.getElem?_concat_length

section Days

variable (signals : Signals α) (terms : Terms α) (panel : List (PanelRow α))

/-- The accounts after the first days of a panel, in a run that is not stopped. -/
def after : Nat → Book α
  | 0 => start terms
  | days + 1 =>
    match panel[days]? with
    | some row => (after days).step signals terms days row (days + 1 == panel.length)
    | none => after days

variable {signals terms panel} {days : Nat}

theorem after_succ (inside : days < panel.length) :
    (after signals terms panel days).step signals terms days panel[days] (days + 1 == panel.length) =
      after signals terms panel (days + 1) := by
  simp only [after, List.getElem?_eq_getElem inside]

theorem after_day (inside : days < panel.length) :
    Day signals terms days panel[days] (days + 1 == panel.length) (after signals terms panel days)
      (after signals terms panel (days + 1)) := by
  rw [← after_succ inside]
  exact step_day _

/-- The equity curve has the capital and a point for each day. -/
theorem size_equity_after (known : days ≤ panel.length) :
    (after signals terms panel days).equity.size = days + 1 := by
  induction days with
  | zero => rfl
  | succ days ih =>
      rw [(after_day known).equity, Array.size_push, ih (Nat.le_of_lt known)]

variable (signals terms) in
/-- The equity curve of the first days begins that of more days. -/
theorem equity_after_prefix {more : Nat} (later : days ≤ more) (known : more ≤ panel.length) :
    (after signals terms panel days).equity.toList <+: (after signals terms panel more).equity.toList := by
  induction later with
  | refl => exact List.prefix_rfl
  | step later ih =>
      exact (ih (Nat.le_of_lt known)).trans (after_day known).equity_kept

/-- The points of the equity curve up to a day are those of the run up to it. -/
theorem take_equity_after {more : Nat} (later : days ≤ more) (known : more ≤ panel.length) :
    (after signals terms panel more).equity.toList.take (days + 1) =
      (after signals terms panel days).equity.toList := by
  have grown := equity_after_prefix signals terms later known
  rw [List.prefix_iff_eq_take, Array.length_toList, size_equity_after (Nat.le_trans later known)] at grown
  exact grown.symm

variable (signals terms) in
/-- A day adds one trade at most. -/
theorem trades_after_succ (inside : days < panel.length) :
    (after signals terms panel (days + 1)).trades = (after signals terms panel days).trades ∨
      ∃ trade, (after signals terms panel (days + 1)).trades =
        (after signals terms panel days).trades.push trade := by
  cases held : (after signals terms panel days).held with
  | none => exact .inl ((after_day inside).trades_of_flat held)
  | some position =>
      obtain ⟨reason, closed⟩ | ⟨-, -, kept⟩ := (after_day inside).trades_of_held held
      · exact .inr ⟨_, closed⟩
      · exact .inl kept

variable (signals terms) in
/-- The trades of the first days begin those of more days. -/
theorem trades_after_prefix {more : Nat} (later : days ≤ more) (known : more ≤ panel.length) :
    (after signals terms panel days).trades.toList <+: (after signals terms panel more).trades.toList := by
  induction later with
  | refl => exact List.prefix_rfl
  | step later ih =>
      have grown := ih (Nat.le_of_lt known)
      obtain same | ⟨trade, pushed⟩ := trades_after_succ signals terms known
      · rwa [same]
      · rw [pushed, Array.toList_push]
        exact grown.trans (List.prefix_append _ _)

end Days

section Closing

variable {signals : Signals α} {terms : Terms α} {panel : List (PanelRow α)} {place day days : Nat}

/-- The trade at a place of the list of trades is made on a day. -/
def ClosedOn (signals : Signals α) (terms : Terms α) (panel : List (PanelRow α)) (place day : Nat) : Prop :=
  (after signals terms panel day).trades.size ≤ place ∧
    place < (after signals terms panel (day + 1)).trades.size

/-- Every trade is made on some day. -/
theorem exists_closedOn (made : place < (after signals terms panel days).trades.size) :
    ∃ day < days, ClosedOn signals terms panel place day := by
  induction days with
  | zero => exact absurd made (Nat.not_lt_zero place)
  | succ days ih =>
      by_cases earlier : place < (after signals terms panel days).trades.size
      · obtain ⟨day, before, closed⟩ := ih earlier
        exact ⟨day, Nat.lt_succ_of_lt before, closed⟩
      · exact ⟨days, Nat.lt_succ_self days, Nat.le_of_not_lt earlier, made⟩

theorem ClosedOn.lt_length (closed : ClosedOn signals terms panel place day) : day < panel.length := by
  refine Nat.lt_of_not_le fun outside => ?_
  have nothing : panel[day]? = none := List.getElem?_eq_none outside
  obtain ⟨low, high⟩ := closed
  simp only [after, nothing] at high
  exact Nat.not_lt.2 low high

/-- What is closed on a day was held before it, and takes the next place in the list. -/
theorem ClosedOn.exists_position (closed : ClosedOn signals terms panel place day) (inside : day < panel.length) :
    ∃ position reason, (after signals terms panel day).held = some position ∧
      (after signals terms panel day).trades.size = place ∧
      (after signals terms panel (day + 1)).trades.size = place + 1 ∧
      (after signals terms panel (day + 1)).trades.toList[place]? =
        some (position.close day panel[day].date panel[day].closePrice terms.fee reason) := by
  obtain ⟨low, high⟩ := closed
  cases held : (after signals terms panel day).held with
  | none =>
      rw [(after_day inside).trades_of_flat held] at high
      exact absurd high (Nat.not_lt.2 low)
  | some position =>
      obtain ⟨reason, pushed⟩ | ⟨-, -, kept⟩ := (after_day inside).trades_of_held held
      · rw [pushed, Array.size_push] at high
        obtain rfl := Nat.le_antisymm (Nat.le_of_lt_succ high) low
        refine ⟨position, reason, rfl, rfl, ?_, getElem?_of_push pushed⟩
        rw [pushed, Array.size_push]
      · rw [kept] at high
        exact absurd high (Nat.not_lt.2 low)

/-- A trade keeps its place. -/
theorem getElem?_trades_after {more : Nat} {trade : Trade α} (later : days ≤ more) (known : more ≤ panel.length)
    (there : (after signals terms panel days).trades.toList[place]? = some trade) :
    (after signals terms panel more).trades.toList[place]? = some trade := by
  obtain ⟨rest, same⟩ := trades_after_prefix signals terms later known
  have within := (List.getElem?_eq_some_iff.1 there).1
  rwa [← same, List.getElem?_append_left within]

/-- A position that is held before a day is closed on that day or on a later one, at the next place. -/
theorem trade_of_held {position : Position α} (inside : day < panel.length)
    (held : (after signals terms panel day).held = some position) :
    ∃ date price index reason,
      (after signals terms panel panel.length).trades.toList[(after signals terms panel day).trades.size]? =
        some (position.close index date price terms.fee reason) := by
  induction left : panel.length - day generalizing day with
  | zero => exact absurd inside (Nat.not_lt.2 (Nat.sub_eq_zero_iff_le.1 left))
  | succ left ih =>
      obtain ⟨reason, pushed⟩ | ⟨going, still, kept⟩ := (after_day inside).trades_of_held held
      · have made := getElem?_trades_after inside Nat.le.refl (getElem?_of_push pushed)
        exact ⟨panel[day].date, panel[day].closePrice, day, reason, made⟩
      · have notLast : day + 1 ≠ panel.length := beq_eq_false_iff_ne.1 going
        have found := ih (Nat.lt_of_le_of_ne inside notLast) still (by omega)
        rwa [kept] at found

end Closing

end Book

section Runs

variable {signals : Signals α} {terms : Terms α} {panel : List (PanelRow α)} {stopBefore : Progress → Bool}

theorem runFrom_of_not_cancelled (index : Nat) {rows : List (PanelRow α)} (rest : panel.drop index = rows)
    (known : index ≤ panel.length)
    (completed : (runFrom signals terms stopBefore index (Book.after signals terms panel index) rows).cancelled =
      false) :
    runFrom signals terms stopBefore index (Book.after signals terms panel index) rows =
      (Book.after signals terms panel panel.length).finish panel.length false := by
  induction rows generalizing index with
  | nil =>
      have all : index = panel.length := Nat.le_antisymm known (List.drop_eq_nil_iff.1 rest)
      rw [runFrom, all]
  | cons row later ih =>
      obtain ⟨here, left, isLast⟩ := day_of_drop rest
      obtain ⟨inside, rfl⟩ := List.getElem?_eq_some_iff.1 here
      rw [runFrom] at completed ⊢
      split at completed
      · split at completed
        · exact Bool.noConfusion completed
        · exact Bool.noConfusion completed
      · rename_i going
        rw [if_neg going]
        rw [isLast, Book.after_succ inside] at completed ⊢
        exact ih (index + 1) left inside completed

/-- A run that is not cancelled ends with the accounts after all days. -/
theorem run_of_not_cancelled (completed : (run signals terms stopBefore panel).cancelled = false) :
    run signals terms stopBefore panel =
      (Book.after signals terms panel panel.length).finish panel.length false :=
  runFrom_of_not_cancelled 0 rfl (Nat.zero_le _) completed

end Runs

end PaperTrading
