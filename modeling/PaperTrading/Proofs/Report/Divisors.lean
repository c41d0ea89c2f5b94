/-
Module: PaperTrading.Proofs.Report.Divisors
Purpose: In exact arithmetic nothing is ever divided by zero.
Main exports: RootsPositive, Rulebook.agree_rendered, no_quotient_by_zero

The same calculations are carried out in an arithmetic where a quotient by zero is no number and anything may be
answered about it.  They come out the same.
-/
import Mathlib.Algebra.Order.Field.Basic
import PaperTrading.Proofs.Arithmetic.Guarded
import PaperTrading.Proofs.Ledger.Course
import PaperTrading.Proofs.Performance.MoneyUnit
import PaperTrading.Proofs.Rule.Rendering

namespace PaperTrading

open Arithmetic (whole)

/-- The root of a positive number is positive. -/
def RootsPositive (K : Type) [LinearOrder K] [ExactArithmetic K] : Prop :=
  ∀ x : K, 0 < x → 0 < Arithmetic.sqrt x

variable {K : Type} [LinearOrder K] [ExactArithmetic K]

/-- A strategy decides on other numbers as it does on its own. -/
theorem Rulebook.agree_rendered {β : Type} [Arithmetic β] {plain : K → β} (rendered : Rendering plain)
    (rulebook : Rulebook K) (panel : List (PanelRow K)) (budget : Budget) :
    (rulebook.signals panel budget).Agree (.uniform plain)
      ((rulebook.map plain).signals (panel.map (·.map plain plain)) budget) where
  warmup := rulebook.entry.warmupBars_map plain
  enter index := Rule.evaluate_rendered rendered index none rulebook.entry panel budget
  leave index price entryIndex :=
    Rule.evaluate_rendered rendered index (some ⟨price, entryIndex⟩) rulebook.exit panel budget

/-- Every trade was bought at a price above zero. -/
theorem entryPrice_pos_of_run (signals : Signals K) (terms : Terms K) (stopBefore : Progress → Bool)
    (panel : List (PanelRow K)) :
    ∀ trade ∈ (run signals terms stopBefore panel).trades, 0 < trade.entryPrice := by
  obtain ⟨trips, course, trades⟩ := run_course signals terms panel stopBefore
  intro trade listed
  rw [trades] at listed
  obtain ⟨trip, member, rfl⟩ := List.mem_map.1 listed
  obtain ⟨cash, bought⟩ := (course.completed member).bought
  have above := ExactArithmetic.lt_iff.1 bought.price.2
  rwa [ExactArithmetic.whole_zero] at above

variable [IsStrictOrderedRing K]

/-- No quotient by zero is used in a panel, in the verdict of a rule for any position, in a run, or in the performance of
any trades and any curve.  With such quotients left undefined, and with any answers to questions about what is undefined,
all of these come out as they do in exact arithmetic.  The divisors whose sign matters are positive: the entry price of
every position, and in every reading of the strength index the average loss and what exceeds one. -/
theorem no_quotient_by_zero (absolute : ExactMagnitude K) (roots : RootsPositive K) (answers : Answers K) :
    let number : K → Guarded K answers := Guarded.of
    (∀ bars : List (PriceBar K),
        augment (bars.map (·.map number number)) = (augment bars).map (·.map number number)) ∧
      (∀ (rule : Rule K) (panel : List (PanelRow K)) (index : Nat) (entered : Option (EntryPoint K)) (budget : Budget),
        (rule.map number).evaluate (panel.map (·.map number number)).toArray index (entered.map (·.map number))
            budget =
          rule.evaluate panel.toArray index entered budget) ∧
      (∀ (rulebook : Rulebook K) (panel : List (PanelRow K)) (terms : Terms K) (budget : Budget)
        (stopBefore : Progress → Bool),
        let result := simulate rulebook panel terms budget stopBefore
        simulate (rulebook.map number) (panel.map (·.map number number)) (terms.map (.uniform number)) budget
            stopBefore =
          result.map (.uniform number) ∧ ∀ trade ∈ result.trades, 0 < trade.entryPrice) ∧
      (∀ (trades : List (Trade K)) (curve : List K) (initialCapital : K),
        Performance.compute (trades.map (·.map (.uniform number))) (curve.map number) (number initialCapital) =
          (Performance.compute trades curve initialCapital).map number number) ∧
      ∀ (period : Nat) (closes : List K) (reading : K), some reading ∈ relativeStrength period closes →
        ∃ gain loss : K, 0 < loss ∧ 0 < whole 1 + gain / loss ∧
          reading = whole 100 - whole 100 / (whole 1 + gain / loss) := by
  intro number
  have rendered : Rendering number := Guarded.rendering
  refine ⟨?panels, ?verdicts, ?runs, ?performances, ?strength⟩
  case panels => exact augment_rendered rendered rendered.quantity rendered.squares
  case verdicts =>
    intro rule panel index entered budget
    exact Rule.evaluate_rendered rendered index entered rule panel budget
  case runs =>
    intro rulebook panel terms budget stopBefore result
    have agree := rulebook.agree_rendered rendered panel budget
    exact ⟨run_rendered rendered.faithful terms stopBefore agree panel, entryPrice_pos_of_run _ terms stopBefore panel⟩
  case performances =>
    have tested := significance_rendered rendered fun x positive => (roots x positive).ne'
    exact Performance.compute_rendered rendered.faithful absolute rendered.magnitude tested
  case strength => exact fun period closes _ => divisors_of_mem_relativeStrength period closes

section Trial

/-- The root of a positive rational number is positive, also where it is rounded. -/
theorem rational_rootsPositive : RootsPositive ℚ := by
  intro x positive
  have numerator : 0 < Int.sqrt x.num := by
    obtain ⟨n, size⟩ := Int.eq_ofNat_of_zero_le (Rat.num_pos.2 positive).le
    have some : 0 < n := by
      have above := Rat.num_pos.2 positive
      omega
    rw [size, Int.sqrt, Int.toNat_natCast]
    exact Int.natCast_pos.2 (Nat.sqrt_pos.2 some)
  exact Rat.mkRat_pos numerator (Nat.sqrt_pos.2 x.den_pos).ne'

/-- A price that rises and then falls. -/
def risingAndFallingDays : List (PanelRow ℚ) :=
  [rationalDay ⟨2020, 3, 1, by decide⟩ 40, rationalDay ⟨2020, 3, 2, by decide⟩ 45,
    rationalDay ⟨2020, 3, 3, by decide⟩ 50, rationalDay ⟨2020, 3, 4, by decide⟩ 47]

/-- Every question about what is no number is answered so that a calculation goes on with it. -/
def eagerAnswers : Answers ℚ :=
  ⟨fun _ _ => true, fun _ _ => true, fun _ _ => false, true, 1⟩

/-- A trade that is won and one that is lost, and the ratios of the two. -/
theorem risingAndFallingDays_quotients :
    let number : ℚ → Guarded ℚ eagerAnswers := Guarded.of
    let result := simulate (rationalRulebook.map number) (risingAndFallingDays.map (·.map number number))
      ⟨number 1001, number 1⟩ .ample fun _ => false
    let performance := Performance.compute result.trades result.equity (number 1001)
    result.trades.map (·.profit) = [number 123, number (-3469 / 50)] ∧
      performance.trades.profitFactor = number (6150 / 3469) ∧ performance.trades.kelly = number 26 ∧
      performance.recoveryFactor = number (430492 / 496067) := by
  intro number result performance
  obtain ⟨-, -, runs, performances, -⟩ :=
    no_quotient_by_zero (fun _ => rfl) rational_rootsPositive eagerAnswers
  obtain ⟨same, -⟩ := runs rationalRulebook risingAndFallingDays ⟨1001, 1⟩ .ample fun _ => false
  let exact := simulate rationalRulebook risingAndFallingDays ⟨1001, 1⟩ .ample fun _ => false
  have resultEq : result = exact.map (.uniform number) := same
  have performanceEq : performance = (Performance.compute exact.trades exact.equity 1001).map number number := by
    show Performance.compute result.trades result.equity (number 1001) = _
    rw [resultEq]
    exact performances exact.trades exact.equity 1001
  have profits : exact.trades.map (·.profit) = [123, -3469 / 50] := by
    decide +kernel
  have ratios : ((Performance.compute exact.trades exact.equity 1001).trades.profitFactor,
      (Performance.compute exact.trades exact.equity 1001).trades.kelly,
      (Performance.compute exact.trades exact.equity 1001).recoveryFactor) =
        (6150 / 3469, 26, 430492 / 496067) := by
    decide +kernel
  simp only [Prod.mk.injEq] at ratios
  refine ⟨?_, ?_, ?_, ?_⟩
  · have guarded := congrArg (List.map number) profits
    rw [List.map_map] at guarded
    rw [resultEq, RunResult.map, List.map_map]
    exact guarded
  · rw [performanceEq]
    exact congrArg number ratios.1
  · rw [performanceEq]
    exact congrArg number ratios.2.1
  · rw [performanceEq]
    exact congrArg number ratios.2.2

end Trial

end PaperTrading
