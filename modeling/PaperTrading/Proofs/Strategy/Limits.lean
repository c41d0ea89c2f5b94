/-
Module: PaperTrading.Proofs.Strategy.Limits
Purpose: No position of a prepared strategy is kept past its stop loss or its take profit.
Main exports: OrderedWhereFinite, Trade.moveTo, Intent.IsDraftable.trip_within, prepared_moves_within_limits
-/
import PaperTrading.Proofs.Ledger.EquityCurve
import PaperTrading.Proofs.Strategy.Preparation

namespace PaperTrading

open Arithmetic (whole isFinite lt le)

section Order

/-- Zero is finite, so is the negative of a finite number, and of two finite numbers either the first is less or the
second is less or equal.  Of doubles this is `doubles_orderedWhereFinite`. -/
structure OrderedWhereFinite (α : Type) [Arithmetic α] : Prop where
  zero : isFinite (whole 0 : α) = true
  neg : ∀ a : α, isFinite a = true → isFinite (-a) = true
  lt_iff : ∀ a b : α, isFinite a = true → isFinite b = true → (lt a b = true ↔ le b a = false)

end Order

variable {α : Type} [Arithmetic α]

/-- The move to a price from the entry price of a trade, in percent. -/
def Trade.moveTo (trade : Trade α) (price : α) : α :=
  (price - trade.entryPrice) / trade.entryPrice * whole 100

section Trips

variable {signals : Signals α} {terms : Terms α} {panel : List (PanelRow α)} {result : RunResult α}
  {trip : RoundTrip α} {cash : α}

/-- After the day of the purchase, no day before that of the sale asks for a sale; neither does the day of the sale if
it is only the last. -/
theorem RoundTrip.Completed.quiet (completed : trip.Completed signals terms panel result) {day : Nat}
    (after : trip.entry < day) (held : day < trip.exit ∨ day = trip.exit ∧ trip.reason = .endOfData) :
    saysYes (signals.leave day ⟨trip.position.entryPrice, trip.entry⟩) = false := by
  have quiet : signals.sells trip.position day = false := by
    obtain before | ⟨rfl, last⟩ := held
    · exact completed.kept.quiet day (Nat.le_of_lt after) before
    · exact (completed.sold.of_endOfData last).1
  have asked : trip.position.entryIndex < day := after
  rwa [Signals.sells, decide_eq_true asked, Bool.true_and] at quiet

end Trips

section Limits

variable {intent : Intent α} {panel : List (PanelRow α)} {day : Nat} {row : PanelRow α} {price : α}

/-- Where the drafted rule does not ask for a sale, the move from the entry price is within the limits. -/
theorem Intent.IsDraftable.move_within (draftable : intent.IsDraftable) (constants : DraftConstants α)
    (ordered : OrderedWhereFinite α) (finite : isFinite price = true) (positive : lt (whole 0) price = true)
    (here : panel[day]? = some row) (entry : Nat)
    (quiet : saysYes (intent.exitRule.evaluate panel.toArray day (some ⟨price, entry⟩) .ample) = false)
    (bounded : isFinite ((row.closePrice - price) / price * whole 100) = true) :
    lt (-(intent.stopLoss.getD defaultStopLoss)) ((row.closePrice - price) / price * whole 100) = true ∧
      lt ((row.closePrice - price) / price * whole 100) (intent.takeProfit.getD defaultTakeProfit) = true := by
  have stop := (IsPercentage.getD draftable.stopLoss constants.stopLoss).1
  have take := (IsPercentage.getD draftable.takeProfit constants.takeProfit).1
  have above : le price (whole 0) = false := (ordered.lt_iff _ _ ordered.zero finite).1 positive
  obtain ⟨inside, rfl⟩ := List.getElem?_eq_some_iff.1 here
  have within : day < panel.toArray.size := inside
  obtain ⟨verdict, decided, sells⟩ := draftable.exitRule_decides within finite above entry
  rw [decided, saysYes] at quiet
  subst quiet
  simp only [Bool.false_eq_true, false_iff, not_or, not_and, Bool.not_eq_true, List.getElem_toArray] at sells
  obtain ⟨low, high⟩ := sells.1 bounded
  exact ⟨(ordered.lt_iff _ _ (ordered.neg _ stop) bounded).2 low, (ordered.lt_iff _ _ bounded take).2 high⟩

variable {signals : Signals α} {terms : Terms α} {result : RunResult α} {trip : RoundTrip α}

/-- While a position is kept, the moves from its entry price are within the limits of the intent that the exit rule was
drafted for. -/
theorem Intent.IsDraftable.trip_within (draftable : intent.IsDraftable) (constants : DraftConstants α)
    (ordered : OrderedWhereFinite α)
    (leaves : signals.leave = fun day entered => intent.exitRule.evaluate panel.toArray day (some entered) .ample)
    (completed : trip.Completed signals terms panel result) (after : trip.entry < day)
    (held : day < trip.exit ∨ day = trip.exit ∧ trip.reason = .endOfData) (here : panel[day]? = some row)
    (bounded : isFinite ((trip.trade terms).moveTo row.closePrice) = true) :
    lt (-(intent.stopLoss.getD defaultStopLoss)) ((trip.trade terms).moveTo row.closePrice) = true ∧
      lt ((trip.trade terms).moveTo row.closePrice) (intent.takeProfit.getD defaultTakeProfit) = true := by
  obtain ⟨cash, bought⟩ := completed.bought
  have quiet := completed.quiet after held
  rw [leaves] at quiet
  exact draftable.move_within constants ordered bought.price.1 bought.price.2 here trip.entry quiet bounded

end Limits

section Strategies

/-- The rule that was drafted for selling asks for the sales. -/
theorem Prepared.leave_signals {prepared : Prepared α} (panel : List (PanelRow α))
    (rules : prepared.rulebook.exit = prepared.intent.exitRule) :
    (prepared.rulebook.signals panel .ample).leave =
      fun day entered => prepared.intent.exitRule.evaluate panel.toArray day (some entered) .ample := by
  rw [← rules]
  rfl

variable [Legible α]

/-- An intent that was read from a description has both limits. -/
theorem Prepared.limits {description category : String} {prepared : Prepared α}
    (interpreted : prepared.intent = interpret description category) :
    prepared.intent.stopLoss = some (prepared.intent.stopLoss.getD defaultStopLoss) ∧
      prepared.intent.takeProfit = some (prepared.intent.takeProfit.getD defaultTakeProfit) := by
  rw [interpreted]
  exact ⟨rfl, rfl⟩

/-- A prepared strategy keeps no position past its stop loss or its take profit.  On every day between the purchase and
the sale, and also on the day of the sale if only the end of the panel sells the position, the move from the entry price
is strictly between the two limits where it is finite.  The move is computed as the return of the trade is. -/
theorem prepared_moves_within_limits (spelled : SpelledOut α) (constants : DraftConstants α)
    (ordered : OrderedWhereFinite α) {description category : String} {prepared : Prepared α}
    (ready : prepare description category = .ok prepared) (panel : List (PanelRow α)) (terms : Terms α)
    (stopBefore : Progress → Bool) :
    let result := simulate prepared.rulebook panel terms .ample stopBefore
    ∃ stop take dated, prepared.intent.stopLoss = some stop ∧ prepared.intent.takeProfit = some take ∧
      result.IsCurveOf terms panel dated ∧
      ∀ made ∈ dated, made.trade.returnPercent = made.trade.moveTo made.trade.exitPrice ∧
        ∀ day row, made.entry < day → (day < made.exit ∨ day = made.exit ∧ made.trade.exitReason = .endOfData) →
          panel[day]? = some row → isFinite (made.trade.moveTo row.closePrice) = true →
            lt (-stop) (made.trade.moveTo row.closePrice) = true ∧
              lt (made.trade.moveTo row.closePrice) take = true := by
  intro result
  obtain ⟨interpreted, draftable, rules⟩ := prepare_eq_ok spelled constants ready
  let signals := prepared.rulebook.signals panel .ample
  obtain ⟨trips, course, trades⟩ := run_course signals terms panel stopBefore
  have counts := run_counts signals terms panel stopBefore
  obtain ⟨stop, take⟩ := Prepared.limits interpreted
  refine ⟨_, _, _, stop, take, course.isCurveOf counts trades, ?_⟩
  intro made listed
  obtain ⟨trip, member, rfl⟩ := List.mem_map.1 listed
  have leaves := Prepared.leave_signals panel (congrArg Rulebook.exit rules)
  refine ⟨rfl, ?_⟩
  intro day row after held here bounded
  exact draftable.trip_within constants ordered leaves (course.completed member) after held here bounded

end Strategies

section Trial

theorem Hundredths.orderedWhereFinite : OrderedWhereFinite Hundredths where
  zero := rfl
  neg := fun _ finite => finite
  lt_iff := by
    intro a b _ _
    simp [Arithmetic.lt, Arithmetic.le]

/-- Days in a row with some prices, on all of which the index is low. -/
def oversoldDays (date : Date) : List Int → List (PanelRow Hundredths)
  | [] => []
  | price :: later =>
    { Hundredths.flatDay date price with rsi14 := some (.ofInt 20) } :: oversoldDays date.next later

/-- Prices that rise by a tenth after the warm-up and then fall by a twentieth. -/
def warmedDays : List (PanelRow Hundredths) :=
  oversoldDays ⟨2019, 1, 2, by decide⟩ (List.replicate 201 100 ++ [103, 106, 111, 110, 105])

/-- The first position is sold for its profit, and the second at the end of the panel. -/
theorem warmedDays_within_limits :
    ∃ prepared : Prepared Hundredths,
      prepare "RSI below 30, RSI above 70, stop loss 5%, take profit 8%" "" = .ok prepared ∧
        let result := simulate prepared.rulebook warmedDays ⟨.ofInt 1000, .ofInt 1⟩ .ample fun _ => false
        result.trades.map (·.exitReason) = [.signal, .endOfData] ∧
          ∃ dated, result.IsCurveOf ⟨.ofInt 1000, .ofInt 1⟩ warmedDays dated ∧
            ∀ made ∈ dated, ∀ day row, made.entry < day →
              (day < made.exit ∨ day = made.exit ∧ made.trade.exitReason = .endOfData) →
                warmedDays[day]? = some row →
                  lt (.ofInt (-5)) (made.trade.moveTo row.closePrice) = true ∧
                    lt (made.trade.moveTo row.closePrice) (.ofInt 8) = true := by
  have evaluated : (prepare (α := Hundredths) "RSI below 30, RSI above 70, stop loss 5%, take profit 8%"
      "").toOption.map (fun prepared => (prepared.intent.stopLoss, prepared.intent.takeProfit,
        (simulate prepared.rulebook warmedDays ⟨.ofInt 1000, .ofInt 1⟩ .ample fun _ => false).trades.map
          (·.exitReason))) = some (some (.ofInt 5), some (.ofInt 8), [.signal, .endOfData]) := by
    decide +kernel
  cases ready : prepare (α := Hundredths) "RSI below 30, RSI above 70, stop loss 5%, take profit 8%" "" with
  | error failure =>
      rw [ready] at evaluated
      exact nomatch evaluated
  | ok prepared =>
      rw [ready] at evaluated
      simp only [Except.toOption, Option.map_some, Option.some.injEq, Prod.mk.injEq] at evaluated
      obtain ⟨fivePercent, eightPercent, reasons⟩ := evaluated
      obtain ⟨stop, take, dated, stopped, taken, curve, within⟩ := prepared_moves_within_limits
        Hundredths.spelledOut Hundredths.draftConstants Hundredths.orderedWhereFinite ready warmedDays
        ⟨.ofInt 1000, .ofInt 1⟩ fun _ => false
      obtain rfl := Option.some.inj (fivePercent.symm.trans stopped)
      obtain rfl := Option.some.inj (eightPercent.symm.trans taken)
      refine ⟨prepared, rfl, reasons, dated, curve, ?_⟩
      intro made listed day row after held here
      exact (within made listed).2 day row after held here rfl

end Trial

end PaperTrading
