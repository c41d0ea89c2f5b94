/-
Module: PaperTrading.Proofs.Ledger.EquityCurve
Purpose: The trades of a run, with the days they were made on, give every point of its equity curve.
Main exports: DatedTrade, Terms.cashAfter, RunResult.IsCurveOf, Course.isCurveOf, run_equity_of_trades
-/
import PaperTrading.Proofs.Ledger.Course

namespace PaperTrading

variable {α : Type} [Arithmetic α]

section Statement

/-- What the sale of a trade brought in after its fee. -/
def Trade.proceeds (trade : Trade α) (fee : α) : α :=
  trade.shares * trade.exitPrice - fee

/-- The cash after some trades, one after the other: what the last of them brought in, or what there was before. -/
def Terms.cashAfter (terms : Terms α) (cash : α) (trades : List (Trade α)) : α :=
  match trades.getLast? with
  | none => cash
  | some trade => trade.proceeds terms.fee

/-- A trade, with the indices of its two days. -/
structure DatedTrade (α : Type) where
  entry : Nat
  exit : Nat
  trade : Trade α

/-- The indices are those of two days of the panel, which the trade has its dates and prices from. -/
structure DatedTrade.IsMadeIn {β : Type} (panel : List (PanelRow β)) (made : DatedTrade β) : Prop where
  later : made.entry < made.exit
  barsHeld : made.trade.barsHeld = made.exit - made.entry
  bought : ∃ row, panel[made.entry]? = some row ∧
    made.trade.entryDate = row.date ∧ made.trade.entryPrice = row.closePrice
  sold : ∃ row, panel[made.exit]? = some row ∧
    made.trade.exitDate = row.date ∧ made.trade.exitPrice = row.closePrice

/-- The equity curve of a result is the one that its trades give: while a position is held, what its shares are worth;
otherwise the cash after the trades so far, which is also what the next shares are bought with. -/
structure RunResult.IsCurveOf (result : RunResult α) (terms : Terms α) (panel : List (PanelRow α))
    (dated : List (DatedTrade α)) : Prop where
  trades : result.trades = dated.map (·.trade)
  days : ∀ made ∈ dated, made.IsMadeIn panel ∧ made.exit < result.barsProcessed
  ordered : dated.IsChain fun made next => made.exit < next.entry
  shares : ∀ place made, dated[place]? = some made →
    made.trade.shares = (terms.cashAfter terms.capital (result.trades.take place) - terms.fee) / made.trade.entryPrice
  points : result.equity.length = result.barsProcessed + 1
  known : result.barsProcessed ≤ panel.length
  start : result.equity[0]? = some terms.capital
  held : ∀ made ∈ dated, ∀ day row, made.entry ≤ day → day < made.exit → panel[day]? = some row →
    result.equity[day + 1]? = some (made.trade.shares * row.closePrice)
  settled : ∀ day < result.barsProcessed, (∀ made ∈ dated, day < made.entry ∨ made.exit ≤ day) →
    result.equity[day + 1]? = some (terms.cashAfter terms.capital
      ((dated.filter fun made => made.exit ≤ day).map (·.trade)))

end Statement

section Cash

theorem Terms.cashAfter_cons (terms : Terms α) (cash : α) (trade : Trade α) (trades : List (Trade α)) :
    terms.cashAfter cash (trade :: trades) = terms.cashAfter (trade.proceeds terms.fee) trades := by
  rw [cashAfter, cashAfter, List.getLast?_cons]
  cases trades.getLast? with
  | none => rfl
  | some last => rfl

end Cash

section Trips

/-- The trade of a trip, with the indices of its two days. -/
def RoundTrip.dated (trip : RoundTrip α) (terms : Terms α) : DatedTrade α :=
  ⟨trip.entry, trip.exit, trip.trade terms⟩

variable {signals : Signals α} {terms : Terms α} {panel : List (PanelRow α)} {result : RunResult α}
  {first : Nat} {cash : α} {trip : RoundTrip α} {trips : List (RoundTrip α)}

theorem RoundTrip.proceeds_trade (trip : RoundTrip α) (terms : Terms α) :
    (trip.trade terms).proceeds terms.fee = trip.proceeds terms :=
  rfl

/-- The shares are those that the cash but the fee buys. -/
theorem RoundTrip.Bought.shares (bought : trip.Bought signals terms panel cash) :
    (trip.trade terms).shares = (cash - terms.fee) / (trip.trade terms).entryPrice := by
  obtain ⟨row, -, position⟩ := bought.position
  rw [RoundTrip.trade, position]
  rfl

theorem RoundTrip.isMadeIn (bought : trip.Bought signals terms panel cash) (sold : trip.Sold signals panel result) :
    (trip.dated terms).IsMadeIn panel where
  later := sold.later
  barsHeld := rfl
  bought := by
    obtain ⟨row, here, position⟩ := bought.position
    refine ⟨row, here, ?_⟩
    rw [RoundTrip.dated, RoundTrip.trade, position]
    exact ⟨rfl, rfl⟩
  sold := ⟨trip.sold, sold.row, rfl, rfl⟩

namespace Course

/-- The shares of each trade are bought with the cash that the trades before it left. -/
theorem shares (course : Course signals terms panel result first cash trips) {place : Nat}
    (there : trips[place]? = some trip) :
    (trip.trade terms).shares =
      (terms.cashAfter cash ((trips.map (·.trade terms)).take place) - terms.fee) / (trip.trade terms).entryPrice := by
  induction course generalizing place with
  | rest idle => exact nomatch there
  | trip idle bought kept sold later ih =>
      cases place with
      | zero =>
          obtain rfl := Option.some.inj there
          exact bought.shares
      | succ place =>
          rw [List.map_cons, List.take_succ_cons, Terms.cashAfter_cons]
          exact ih there

/-- Where no position is held, the book is worth its cash: what the last sale before brought in. -/
theorem worth_settled (course : Course signals terms panel result first cash trips) {point : Nat}
    (low : first ≤ point) (high : point ≤ result.barsProcessed)
    (settled : ∀ trip ∈ trips, point ≤ trip.entry ∨ trip.exit < point) :
    result.equity[point]? =
      some (terms.cashAfter cash ((trips.filter fun trip => trip.exit < point).map (·.trade terms))) := by
  induction course with
  | rest idle => exact idle.worth point low high
  | @trip first cash trip trips idle bought kept sold later ih =>
      rw [List.forall_mem_cons] at settled
      obtain ⟨here, others⟩ := settled
      obtain before | after := here
      · -- The course goes on from the purchase that is still to come, so no trip has ended.
        have worth := idle.worth trip.entry idle.ordered (Nat.le_refl trip.entry)
        have onwards : Course signals terms panel result trip.entry cash (trip :: trips) :=
          .trip (.refl worth) bought kept sold later
        have ahead : ∀ other ∈ trip :: trips, ¬ other.exit < point := by
          intro other member
          rw [Nat.not_lt]
          calc point ≤ trip.entry := before
            _ ≤ other.entry := onwards.first_le_entry member
            _ ≤ other.exit := (onwards.completed member).kept.ordered
        have none : (trip :: trips).filter (fun trip => trip.exit < point) = [] := by
          rw [List.filter_eq_nil_iff]
          intro other member
          simpa using ahead other member
        rw [none]
        exact idle.worth point low before
      · rw [List.filter_cons_of_pos (by simpa using after), List.map_cons, Terms.cashAfter_cons]
        exact ih after others

/-- In the end no position is held. -/
theorem finalEquity (course : Course signals terms panel result first cash trips) (counts : result.Counts panel) :
    result.finalEquity = terms.cashAfter cash (trips.map (·.trade terms)) := by
  have ended : ∀ trip ∈ trips, trip.exit < result.barsProcessed :=
    fun trip member => (course.completed member).processed
  have all : trips.filter (fun trip => trip.exit < result.barsProcessed) = trips := by
    rw [List.filter_eq_self]
    intro trip member
    simpa using ended trip member
  have worth := course.worth_settled course.first_le (Nat.le_refl _) fun trip member => .inr (ended trip member)
  rw [all] at worth
  rw [RunResult.finalEquity, List.getLast?_eq_getElem?, counts.points, Nat.add_sub_cancel, worth, Option.getD_some]

/-- The course of a run gives its equity curve. -/
theorem isCurveOf (course : Course signals terms panel result 0 terms.capital trips) (counts : result.Counts panel)
    (trades : result.trades = trips.map (·.trade terms)) :
    result.IsCurveOf terms panel (trips.map (·.dated terms)) where
  trades := by
    rw [trades, List.map_map]
    rfl
  days := by
    intro made listed
    obtain ⟨trip, member, rfl⟩ := List.mem_map.1 listed
    obtain ⟨⟨_, bought⟩, -, sold, processed⟩ := course.completed member
    exact ⟨trip.isMadeIn bought sold, processed⟩
  ordered := (List.isChain_map _).2 course.isChain
  shares := by
    intro place made there
    rw [List.getElem?_map, Option.map_eq_some_iff] at there
    obtain ⟨trip, there, rfl⟩ := there
    rw [trades]
    exact course.shares there
  points := counts.points
  known := counts.known
  start := course.worth_first
  held := by
    intro made listed day row low high here
    obtain ⟨trip, member, rfl⟩ := List.mem_map.1 listed
    exact (course.completed member).kept.worth day row low high here
  settled := by
    intro day inside settled
    have between : ∀ trip ∈ trips, day + 1 ≤ trip.entry ∨ trip.exit < day + 1 := by
      intro trip member
      exact (settled _ (List.mem_map_of_mem member)).imp_right Nat.lt_succ_of_le
    rw [course.worth_settled (Nat.zero_le _) inside between, List.filter_map, List.map_map]
    simp only [Nat.lt_succ_iff]
    rfl

end Course

end Trips

section Runs

variable (signals : Signals α) (terms : Terms α) (panel : List (PanelRow α)) (stopBefore : Progress → Bool)

/-- The trades of a run, with the days they were made on, give its equity curve, whatever the strategy decides or fails
to decide, and whenever the run is stopped. -/
theorem run_equity_of_trades :
    ∃ dated, (run signals terms stopBefore panel).IsCurveOf terms panel dated := by
  obtain ⟨trips, course, trades⟩ := run_course signals terms panel stopBefore
  exact ⟨_, course.isCurveOf (run_counts signals terms panel stopBefore) trades⟩

end Runs

end PaperTrading
