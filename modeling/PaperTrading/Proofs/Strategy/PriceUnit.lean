/-
Module: PaperTrading.Proofs.Strategy.PriceUnit
Purpose: A prepared strategy does not depend on the unit of prices.
Main exports: Condition.isCommensurate_rule, Trade.requote, simulate_requote, Prepared.isCommensurate, prepared_requote

Every condition that a description can name compares prices with prices, or numbers without that unit with each other.
-/
import Mathlib.Algebra.Order.Field.Basic
import PaperTrading.Proofs.Arithmetic.RationalRoots
import PaperTrading.Proofs.Report.WellFormed
import PaperTrading.Proofs.Rule.Units
import PaperTrading.Proofs.Strategy.Preparation

namespace PaperTrading

section Drafts

variable {α : Type} [Arithmetic α]

theorem Condition.isCommensurate_rule (condition : Condition α) : condition.rule.isCommensurate = true := by
  cases condition with
  | priceCrossAboveAverage period =>
      have average : (averageColumn period).dimension = .price := by
        unfold averageColumn
        split
        · rfl
        · rfl
        · rfl
      rw [rule, averageColumn_eq, Rule.isCommensurate, Operand.dimension?, Operand.dimension?, average]
      rfl
  | _ => rfl

theorem Condition.areCommensurate_rules (conditions : List (Condition α)) :
    Rule.areCommensurate (conditions.map (·.rule)) = true := by
  rw [Rule.areCommensurate_iff, List.forall_mem_map]
  exact fun condition _ => condition.isCommensurate_rule

theorem Intent.isCommensurate_entryRule (intent : Intent α) : intent.entryRule.isCommensurate = true :=
  Condition.areCommensurate_rules intent.entryConditions

theorem Intent.isCommensurate_exitRule (intent : Intent α) : intent.exitRule.isCommensurate = true :=
  Condition.areCommensurate_rules intent.exitConditions

end Drafts

section Runs

variable {K : Type} [LinearOrder K] [ExactArithmetic K]

/-- A trade with its prices multiplied by a factor, and for the same money.  Its return, its profit and its days are
unchanged. -/
def Trade.requote (c : K) (trade : Trade K) : Trade K :=
  { trade with
    entryPrice := c * trade.entryPrice
    exitPrice := c * trade.exitPrice
    shares := trade.shares / c }

theorem RunResult.map_ofPrices (c : K) (result : RunResult K) :
    result.map (.ofPrices c) = { result with trades := result.trades.map (·.requote c) } := by
  have equity : result.equity.map (Denomination.ofPrices c).money = result.equity := List.map_id result.equity
  rw [map, equity]
  rfl

variable [IsStrictOrderedRing K] {c : K} (positive : 0 < c)
include positive

/-- A run of commensurate rules over requoted bars. -/
theorem simulate_requote {rulebook : Rulebook K} (entry : rulebook.entry.isCommensurate = true)
    (exit : rulebook.exit.isCommensurate = true) (roots : RootsScale K) (bars : List (PriceBar K)) (terms : Terms K)
    (budget : Budget) (stopBefore : Progress → Bool) :
    let result := simulate rulebook (augment bars) terms budget stopBefore
    simulate rulebook (augment (bars.map (·.requote c))) terms budget stopBefore =
      { result with trades := result.trades.map (·.requote c) } := by
  intro result
  have agree := Rulebook.agree_ofPrices positive entry exit (augment bars) budget
  have changed := run_rendered (Denomination.faithful_ofPrices positive) terms stopBefore agree (augment bars)
  have rows : (augment bars).map (·.map (Denomination.ofPrices c).price (Denomination.ofPrices c).plain) =
      (augment bars).map (·.requote c) :=
    List.map_congr_left fun row _ => row.map_scaled
  rw [rows, RunResult.map_ofPrices] at changed
  rw [augment_requote positive roots]
  exact changed

end Runs

section Strategies

variable {α : Type} [Arithmetic α] [Legible α]

/-- The rules of a prepared strategy compare nothing but prices with prices, and other numbers with each other. -/
theorem Prepared.isCommensurate (spelled : SpelledOut α) (constants : DraftConstants α) {description category : String}
    {prepared : Prepared α} (ready : prepare description category = .ok prepared) {β : Type} (exact : α → β) :
    (prepared.rulebook.map exact).entry.isCommensurate = true ∧
      (prepared.rulebook.map exact).exit.isCommensurate = true := by
  obtain ⟨-, -, rules⟩ := prepare_eq_ok spelled constants ready
  rw [rules]
  exact ⟨(Rule.isCommensurate_map exact _).trans prepared.intent.isCommensurate_entryRule,
    (Rule.isCommensurate_map exact _).trans prepared.intent.isCommensurate_exitRule⟩

variable {K : Type} [LinearOrder K] [ExactArithmetic K] [IsStrictOrderedRing K]

/-- The rules of a prepared strategy, followed in exact arithmetic, trade alike on the same bars in another unit of
prices: on the same days, for the same reasons, with the same returns, profits and equity curve.  The prices of the trades
are in the new unit, and the shares make up for it. -/
theorem prepared_requote (spelled : SpelledOut α) (constants : DraftConstants α) {description category : String}
    {prepared : Prepared α} (ready : prepare description category = .ok prepared) (exact : α → K)
    (roots : RootsScale K) (bars : List (PriceBar K)) {c : K} (positive : 0 < c) (terms : Terms K) (budget : Budget)
    (stopBefore : Progress → Bool) :
    let rulebook := prepared.rulebook.map exact
    let result := simulate rulebook (augment bars) terms budget stopBefore
    simulate rulebook (augment (bars.map (·.requote c))) terms budget stopBefore =
      { result with trades := result.trades.map (·.requote c) } := by
  obtain ⟨entry, exit⟩ := Prepared.isCommensurate spelled constants ready exact
  exact simulate_requote positive entry exit roots bars terms budget stopBefore

end Strategies

section Trial

open RootedRational (ofHundredths)

/-- The falling bars without rounding. -/
def exactFallingBars : List (PriceBar RootedRational) :=
  fallingBars.map (·.map ofHundredths ofHundredths)

/-- A purchase at 300 that is stopped out at 280 and one at 260 that is held to the end, and the same in hundredths. -/
theorem exactFallingBars_requote :
    ∃ prepared : Prepared Hundredths, prepare "RSI below 30, RSI above 70" "" = .ok prepared ∧
      let rulebook := prepared.rulebook.map ofHundredths
      let terms : Terms RootedRational := ⟨10000, 1⟩
      let result := simulate rulebook (augment exactFallingBars) terms .ample fun _ => false
      let requoted := simulate rulebook (augment (exactFallingBars.map (·.requote 100))) terms .ample fun _ => false
      result.trades.map (fun trade => (trade.entryPrice, trade.exitPrice, trade.shares)) =
          [(300, 280, 3333 / 100), (260, 245, 11663 / 325)] ∧
        requoted = { result with trades := result.trades.map (·.requote 100) } := by
  have evaluated : (prepare (α := Hundredths) "RSI below 30, RSI above 70" "").toOption.map (fun prepared =>
      (simulate (prepared.rulebook.map ofHundredths) (augment exactFallingBars) ⟨10000, 1⟩ .ample
        fun _ => false).trades.map fun trade => (trade.entryPrice, trade.exitPrice, trade.shares)) =
      some [(300, 280, 3333 / 100), (260, 245, 11663 / 325)] := by
    decide +kernel
  cases ready : prepare (α := Hundredths) "RSI below 30, RSI above 70" "" with
  | error failure =>
      rw [ready] at evaluated
      exact nomatch evaluated
  | ok prepared =>
      rw [ready] at evaluated
      refine ⟨prepared, rfl, Option.some.inj evaluated, ?_⟩
      exact prepared_requote Hundredths.spelledOut Hundredths.draftConstants ready ofHundredths
        RootedRational.rootsScale exactFallingBars (c := 100) (by decide) ⟨10000, 1⟩ .ample fun _ => false

end Trial

end PaperTrading
