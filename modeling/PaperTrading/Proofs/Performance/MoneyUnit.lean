/-
Module: PaperTrading.Proofs.Performance.MoneyUnit
Purpose: In exact arithmetic the performance of a run does not depend on the unit of money.
Main exports: Trade.inMoney, Performance.inMoney, Denomination.ofMoney, Performance.compute_inMoney, simulate_inMoney
-/
import Mathlib.Algebra.Order.Field.Basic
import PaperTrading.Proofs.Ledger.Reconciliation
import PaperTrading.Proofs.Performance.Rendering

namespace PaperTrading

open Arithmetic (whole)

variable {K : Type} [LinearOrder K] [ExactArithmetic K]

/-- A trade with a factor on its amounts of money.  The price of a share stays, so there are as many times more
shares. -/
def Trade.inMoney (factor : K) (trade : Trade K) : Trade K :=
  { trade with
    shares := factor * trade.shares
    profit := factor * trade.profit }

/-- The result of a run with a factor on its amounts of money. -/
def RunResult.inMoney (factor : K) (result : RunResult K) : RunResult K :=
  { result with
    trades := result.trades.map (·.inMoney factor)
    equity := result.equity.map (factor * ·) }

/-- Statistics with a factor on their amounts of money. -/
def TradeStatistics.inMoney (factor : K) (statistics : TradeStatistics K) : TradeStatistics K :=
  { statistics with
    grossProfit := factor * statistics.grossProfit
    grossLoss := factor * statistics.grossLoss
    netProfit := factor * statistics.netProfit }

/-- A performance with a factor on its amounts of money. -/
def Performance.inMoney (factor : K) (performance : Performance K) : Performance K :=
  { performance with
    trades := performance.trades.inMoney factor
    finalEquity := factor * performance.finalEquity }

/-- Another unit of money, and the same prices. -/
def Denomination.ofMoney (c : K) : Denomination K K :=
  { plain := id
    price := id
    money := (c * ·)
    share := (c * ·) }

section Performances

variable [IsStrictOrderedRing K] {c : K} (positive : 0 < c)
include positive

theorem Denomination.faithful_ofMoney : (ofMoney c).Faithful where
  rendered := .refl
  prices := Rendering.refl.quantity
  money := .scaled positive
  bought x p _ := mul_div_assoc c x p
  worth s p := mul_assoc c s p

/-- Only the gross and the net amounts and the final equity depend on the unit of money. -/
theorem Performance.compute_inMoney (absolute : ExactMagnitude K) (trades : List (Trade K)) (curve : List K)
    (initialCapital : K) :
    compute (trades.map (·.inMoney c)) (curve.map (c * ·)) (c * initialCapital) =
      (compute trades curve initialCapital).inMoney c := by
  have tested : ∀ returns : List K,
      PaperTrading.significance (returns.map id) = (PaperTrading.significance returns).map id := by
    intro returns
    rw [List.map_id]
    rfl
  exact compute_rendered (Denomination.faithful_ofMoney positive) absolute
    (fun x => ExactArithmetic.magnitude_scaled positive x absolute) tested trades curve initialCapital

end Performances

section Runs

variable [IsStrictOrderedRing K] (rulebook : Rulebook K) (panel : List (PanelRow K)) (budget : Budget)
  (stopBefore : Progress → Bool)

/-- With a factor on the capital and the fee, a run does the same with that factor on all amounts of money. -/
theorem simulate_scaled {c : K} (positive : 0 < c) (terms : Terms K) :
    simulate rulebook panel ⟨c * terms.capital, c * terms.fee⟩ budget stopBefore =
      (simulate rulebook panel terms budget stopBefore).inMoney c := by
  -- The rules do not see money at all.
  have agree : (rulebook.signals panel budget).Agree (.ofMoney c) (rulebook.signals panel budget) :=
    ⟨rfl, fun _ => rfl, fun _ _ _ => rfl⟩
  have moved := run_rendered (Denomination.faithful_ofMoney positive) terms stopBefore agree panel
  have rows : panel.map (·.map (Denomination.ofMoney c).price (Denomination.ofMoney c).plain) = panel := by
    refine (List.map_congr_left fun row _ => ?_).trans (List.map_id panel)
    simp only [PanelRow.map, Denomination.ofMoney, Option.map_id, id]
  rw [rows] at moved
  exact moved

/-- The performance of a run. -/
def Rulebook.performance (terms : Terms K) : Performance K :=
  let result := simulate rulebook panel terms budget stopBefore
  Performance.compute result.trades result.equity terms.capital

variable (absolute : ExactMagnitude K)
include absolute

theorem Rulebook.performance_scaled {c : K} (positive : 0 < c) (terms : Terms K) :
    rulebook.performance panel budget stopBefore ⟨c * terms.capital, c * terms.fee⟩ =
      (rulebook.performance panel budget stopBefore terms).inMoney c := by
  rw [performance, simulate_scaled rulebook panel budget stopBefore positive terms]
  exact Performance.compute_inMoney positive absolute _ _ terms.capital

/-- In exact arithmetic, a run with a factor on the capital and the fee makes the same trades with that factor on their
shares and their profit, has the equity curve with that factor, and has the same performance but for the amounts of
money, which have that factor.  Without fees, the score and the grade do not depend on the capital. -/
theorem simulate_inMoney (terms : Terms K) {c : K} (positive : 0 < c) :
    let result := simulate rulebook panel terms budget stopBefore
    let scaled := simulate rulebook panel ⟨c * terms.capital, c * terms.fee⟩ budget stopBefore
    (scaled.trades = result.trades.map fun trade =>
        { trade with shares := c * trade.shares, profit := c * trade.profit }) ∧
      scaled.equity = result.equity.map (c * ·) ∧
      (scaled.barsProcessed = result.barsProcessed ∧ scaled.failures = result.failures ∧
        scaled.cancelled = result.cancelled) ∧
      Performance.compute scaled.trades scaled.equity (c * terms.capital) =
        (Performance.compute result.trades result.equity terms.capital).inMoney c ∧
      ∀ capital other : K, 0 < capital → 0 < other →
        let performance := rulebook.performance panel budget stopBefore ⟨capital, 0⟩
        let otherPerformance := rulebook.performance panel budget stopBefore ⟨other, 0⟩
        otherPerformance.score = performance.score ∧ otherPerformance.grade = performance.grade := by
  intro result scaled
  have same : scaled = result.inMoney c := simulate_scaled rulebook panel budget stopBefore positive terms
  have performance := rulebook.performance_scaled panel budget stopBefore absolute positive terms
  refine ⟨congrArg RunResult.trades same, congrArg RunResult.equity same, ?counts, performance, ?capital⟩
  case counts =>
    rw [same]
    exact ⟨rfl, rfl, rfl⟩
  case capital =>
    intro capital other capitalPositive otherPositive performance otherPerformance
    have factor := rulebook.performance_scaled panel budget stopBefore absolute
      (div_pos otherPositive capitalPositive) ⟨capital, 0⟩
    have scale : other / capital * capital = other := div_mul_cancel₀ other capitalPositive.ne'
    simp only [scale, mul_zero] at factor
    constructor
    · exact (congrArg Performance.score factor).trans rfl
    · exact (congrArg Performance.grade factor).trans rfl

end Runs

section Trial

/-- Buys at a price of 40 or more, and sells at 45 or more. -/
def rationalRulebook : Rulebook ℚ where
  source := ""
  entry := .compare .atOrAbove (.column .closePrice) (.constant 40)
  exit := .compare .atOrAbove (.column .closePrice) (.constant 45)

/-- Two trades with a capital of 1000 units, and with the same capital in hundredths of a unit. -/
theorem rationalDays_inMoney :
    let result := simulate rationalRulebook rationalDays ⟨1000, 1⟩ .ample fun _ => false
    let scaled := simulate rationalRulebook rationalDays ⟨100 * 1000, 100 * 1⟩ .ample fun _ => false
    result.trades.map (·.profit) = [983 / 8, 7391 / 792] ∧
      scaled.trades.map (·.profit) = [100 * (983 / 8), 100 * (7391 / 792)] ∧
      Performance.compute scaled.trades scaled.equity (100 * 1000) =
        (Performance.compute result.trades result.equity 1000).inMoney 100 := by
  intro result scaled
  have profits : result.trades.map (·.profit) = [983 / 8, 7391 / 792] := by
    decide +kernel
  obtain ⟨trades, -, -, performance, -⟩ := simulate_inMoney rationalRulebook rationalDays .ample (fun _ => false)
    (fun _ => rfl) ⟨1000, 1⟩ (c := 100) (by decide)
  refine ⟨profits, ?_, performance⟩
  have scaledProfits := congrArg (List.map (·.profit)) trades
  rw [List.map_map] at scaledProfits
  calc scaled.trades.map (·.profit)
    _ = result.trades.map (100 * ·.profit) := scaledProfits
    _ = (result.trades.map (·.profit)).map (100 * ·) := by rw [List.map_map]; rfl
    _ = [100 * (983 / 8), 100 * (7391 / 792)] := by rw [profits]; rfl

end Trial

end PaperTrading
