/-
Module: PaperTrading.Proofs.Performance.Rendering
Purpose: The performance of a run whose numbers are written in another arithmetic or in another unit.
Main exports: barReturns_rendered, drawdowns_rendered, significance_rendered, TradeStatistics.ofTrades_rendered,
  Performance.compute_rendered

Every division here is by a count, by a constant, or by something that was found not to be zero before.
-/
import Mathlib.Algebra.Order.Field.Basic
import PaperTrading.Performance.Summary
import PaperTrading.Proofs.Ledger.Rendering

namespace PaperTrading

open Arithmetic (whole)

variable {K : Type} [LinearOrder K] [ExactArithmetic K] {β : Type} [Arithmetic β]

/-- A divisor that was found to be positive. -/
theorem ExactArithmetic.ne_zero_of_lt {x : K} (found : Arithmetic.lt (Arithmetic.whole 0) x = true) : x ≠ 0 := by
  rw [lt_iff, whole_zero] at found
  exact found.ne'

/-- A divisor that was found to be negative. -/
theorem ExactArithmetic.ne_zero_of_gt {x : K} (found : Arithmetic.lt x (Arithmetic.whole 0) = true) : x ≠ 0 := by
  rw [lt_iff, whole_zero] at found
  exact found.ne

section Curves

variable {plain money : K → β} (rendered : Rendering plain) (paid : Quantity plain money)
include rendered paid

theorem barReturns_rendered (curve : List K) : barReturns (curve.map money) = (barReturns curve).map plain := by
  induction curve with
  | nil => rfl
  | cons first rest ih =>
      cases rest with
      | nil => rfl
      | cons second rest =>
          simp only [List.map_cons] at ih
          simp only [List.map_cons, barReturns, paid.zero_lt, ih]
          split
          case isTrue found => rw [paid.sub, paid.ratio _ (ExactArithmetic.ne_zero_of_lt found)]
          case isFalse => rw [rendered.whole]

theorem drawdownsFrom_rendered (peak : Option K) (curve : List K) :
    drawdownsFrom (peak.map money) (curve.map money) = (drawdownsFrom peak curve).map plain := by
  induction curve generalizing peak with
  | nil => rfl
  | cons point rest ih =>
      have depth : ∀ highest : K,
          (if Arithmetic.lt (whole 0) (money highest) = true then (money point - money highest) / money highest
            else whole 0) =
          plain (if Arithmetic.lt (whole 0) highest = true then (point - highest) / highest else whole 0) := by
        intro highest
        rw [paid.zero_lt]
        split
        case isTrue found => rw [paid.sub, paid.ratio _ (ExactArithmetic.ne_zero_of_lt found)]
        case isFalse => rw [rendered.whole]
      -- The highest point so far is a point of the curve.
      cases peak with
      | none =>
          have below := ih (some point)
          rw [Option.map_some] at below
          simp only [List.map_cons, Option.map_none, drawdownsFrom, depth, below]
      | some top =>
          have below := ih (some (Arithmetic.greater top point))
          rw [Option.map_some] at below
          simp only [List.map_cons, Option.map_some, drawdownsFrom, paid.greater, depth, below]

theorem drawdowns_rendered (curve : List K) : drawdowns (curve.map money) = (drawdowns curve).map plain :=
  drawdownsFrom_rendered rendered paid none curve

theorem annualizedReturn_rendered [IsStrictOrderedRing K] (initial final : K) (days : Nat) :
    annualizedReturn (money initial) (money final) days = plain (annualizedReturn initial final days) := by
  simp only [annualizedReturn, paid.le_zero]
  split
  case isTrue => exact rendered.whole 0
  case isFalse found =>
    simp only [Bool.or_eq_true, decide_eq_true_eq, not_or, ExactArithmetic.le_iff, ExactArithmetic.whole_zero,
      not_le] at found
    have year := rendered.div (whole tradingDays)
      (ExactArithmetic.whole_ne_zero (K := K) (Nat.pos_of_ne_zero found.1))
    split
    case isTrue => rw [rendered.whole, rendered.neg]
    case isFalse =>
      simp only [paid.ratio _ found.2.ne', rendered.whole, year, rendered.power, rendered.sub, rendered.mul]

end Curves

section Risks

variable {plain : K → β} (rendered : Rendering plain)
include rendered

theorem maxDrawdown_rendered (depths : List K) : maxDrawdown (depths.map plain) = plain (maxDrawdown depths) := by
  have deepest : ∀ start : K, (depths.map plain).foldl Arithmetic.lesser (plain start) =
      plain (depths.foldl Arithmetic.lesser start) := by
    induction depths with
    | nil => exact fun _ => rfl
    | cons depth rest ih =>
        intro start
        rw [List.map_cons, List.foldl_cons, List.foldl_cons, rendered.quantity.lesser, ih]
  rw [maxDrawdown, rendered.whole, deepest, rendered.whole, rendered.mul, maxDrawdown]

section Means

variable [IsStrictOrderedRing K]

theorem ulcerIndex_rendered (depths : List K) : ulcerIndex (depths.map plain) = plain (ulcerIndex depths) := by
  cases depths with
  | nil => exact rendered.whole 0
  | cons depth rest =>
      have squares : ((depth :: rest).map plain).map (fun depth => depth * depth) =
          ((depth :: rest).map fun depth => depth * depth).map plain := by
        rw [List.map_map, List.map_map]
        exact List.map_congr_left fun depth _ => rendered.mul depth depth
      have number := ExactArithmetic.whole_ne_zero (K := K) (n := (depth :: rest).length) (Nat.succ_pos _)
      rw [ulcerIndex, ulcerIndex, List.isEmpty_map, squares, rendered.quantity.total, List.length_map,
        rendered.whole (depth :: rest).length, rendered.div _ number, rendered.sqrt, rendered.whole 100, rendered.mul]
      rfl

omit [IsStrictOrderedRing K] in
theorem annualRatio_rendered (mean : K) (deviation : Option K) :
    annualRatio (plain mean) (deviation.map plain) = plain (annualRatio mean deviation) := by
  cases deviation with
  | none => exact rendered.whole 0
  | some spread =>
      simp only [Option.map_some, annualRatio, rendered.isFinite, ExactArithmetic.isFinite_all, Bool.true_and,
        rendered.quantity.zero_lt]
      split
      case isTrue found =>
        rw [rendered.div _ (ExactArithmetic.ne_zero_of_lt found), rendered.whole, rendered.sqrt, rendered.mul,
          rendered.finiteOrZero]
      case isFalse => exact rendered.whole 0

omit [IsStrictOrderedRing K] in
theorem omegaRatio_rendered (returns : List K) : omegaRatio (returns.map plain) = plain (omegaRatio returns) := by
  simp only [omegaRatio, List.filter_map, Function.comp_def, rendered.quantity.zero_lt, rendered.quantity.lt_zero,
    rendered.quantity.total, rendered.magnitude]
  split
  case isTrue found => rw [rendered.div _ (ExactArithmetic.ne_zero_of_lt found)]
  case isFalse => exact rendered.whole 0

theorem valueAtRisk_rendered (returns : List K) :
    valueAtRisk (returns.map plain) = (valueAtRisk returns).map plain plain := by
  cases returns with
  | nil => exact congrArg₂ Prod.mk (rendered.whole 0) (rendered.whole 0)
  | cons first rest =>
      have tail : ((first :: rest).map plain).filter
            (fun r => Arithmetic.le r (plain (Arithmetic.fifthPercentile first rest))) =
          ((first :: rest).filter fun r => Arithmetic.le r (Arithmetic.fifthPercentile first rest)).map plain := by
        rw [List.filter_map]
        simp only [Function.comp_def, rendered.le]
      rw [List.map_cons] at tail
      simp only [List.map_cons, valueAtRisk, rendered.fifthPercentile, tail, List.isEmpty_map, rendered.mean,
        ← apply_ite plain, rendered.whole 100, rendered.mul, rendered.finiteOrZero, Prod.map]

/-- The outcome of a test in other numbers. -/
def Significance.map {α γ : Type} (f : α → γ) (test : Significance α) : Significance γ :=
  ⟨f test.statistic, f test.probability⟩

omit [IsStrictOrderedRing K] in
theorem Significance.untested_rendered : (untested : Significance β) = untested.map plain :=
  congrArg₂ Significance.mk (rendered.whole 0) (rendered.whole 1)

/-- The root of the number of returns is not zero, so the spread of their mean is not either. -/
theorem significance_rendered (roots : ∀ x : K, 0 < x → Arithmetic.sqrt x ≠ 0) (returns : List K) :
    significance (returns.map plain) = (significance returns).map plain := by
  rw [significance, significance, rendered.deviation?]
  cases deviation : Arithmetic.deviation? returns with
  | none => exact Significance.untested_rendered rendered
  | some spread =>
      have some : 0 < returns.length := by
        cases returns with
        | nil => cases deviation
        | cons first rest => exact Nat.succ_pos _
      have number : (0 : K) < whole returns.length := by
        rw [ExactArithmetic.whole_eq_cast]
        exact Nat.cast_pos.2 some
      simp only [Option.map_some, rendered.isFinite, ExactArithmetic.isFinite_all, Bool.true_and,
        rendered.quantity.zero_lt, List.length_map]
      split
      case isTrue found =>
        have root := roots _ number
        have error := div_ne_zero (ExactArithmetic.ne_zero_of_lt found) root
        simp only [rendered.whole, rendered.sqrt, rendered.div _ root, rendered.mean, rendered.div _ error,
          rendered.isFinite, rendered.magnitude, rendered.tailProbability, rendered.clamp]
        rfl
      case isFalse => exact Significance.untested_rendered rendered

end Means

end Risks

section Trades

/-- Statistics in other numbers. -/
def TradeStatistics.map {α γ : Type} (plain money : α → γ) (statistics : TradeStatistics α) : TradeStatistics γ :=
  { total := statistics.total
    winning := statistics.winning
    losing := statistics.losing
    winRate := plain statistics.winRate
    averageWin := plain statistics.averageWin
    averageLoss := plain statistics.averageLoss
    grossProfit := money statistics.grossProfit
    grossLoss := money statistics.grossLoss
    netProfit := money statistics.netProfit
    profitFactor := plain statistics.profitFactor
    expectancy := plain statistics.expectancy
    kelly := plain statistics.kelly
    longestWins := statistics.longestWins
    longestLosses := statistics.longestLosses }

variable {d : Denomination K β} (faithful : d.Faithful)
include faithful

/-- A trade that is won is won in any numbers. -/
theorem Trade.isWin_rendered (trade : Trade K) : (trade.map d).isWin = trade.isWin :=
  faithful.money.zero_lt trade.profit

theorem filter_isWin_rendered (keep : Bool → Bool) (trades : List (Trade K)) :
    (trades.map (·.map d)).filter (fun trade => keep trade.isWin) =
      (trades.filter fun trade => keep trade.isWin).map (·.map d) := by
  rw [List.filter_map]
  simp only [Function.comp_def, Trade.isWin_rendered faithful]

theorem total_profit_rendered (trades : List (Trade K)) :
    Arithmetic.total ((trades.map (·.map d)).map (·.profit)) = d.money (Arithmetic.total (trades.map (·.profit))) := by
  rw [← faithful.money.total, List.map_map, List.map_map]
  rfl

/-- The ratio of an average win to an average loss is not zero, for neither of them is. -/
theorem kellyFraction_rendered [IsStrictOrderedRing K] (absolute : ExactMagnitude K)
    (winChance lossChance averageWin averageLoss : K) :
    kellyFraction (d.plain winChance) (d.plain lossChance) (d.plain averageWin) (d.plain averageLoss) =
      d.plain (kellyFraction winChance lossChance averageWin averageLoss) := by
  have rendered := faithful.rendered
  simp only [kellyFraction, rendered.quantity.beq_zero]
  split
  case isTrue => exact rendered.whole 0
  case isFalse found =>
    simp only [Bool.or_eq_true, not_or, ExactArithmetic.beq_iff, ExactArithmetic.whole_zero] at found
    have ratio : Arithmetic.magnitude (averageWin / averageLoss) ≠ 0 := by
      rw [absolute, abs_ne_zero]
      exact div_ne_zero found.1 found.2
    rw [rendered.div _ found.2, rendered.magnitude, rendered.div _ ratio, rendered.sub, rendered.whole 100,
      rendered.mul, rendered.finiteOrZero, rendered.whole 0, rendered.clamp]

variable [IsStrictOrderedRing K] (absolute : ExactMagnitude K)
  (unsigned : ∀ x, Arithmetic.magnitude (d.money x) = d.money (Arithmetic.magnitude x))
include absolute unsigned

theorem TradeStatistics.ofTrades_rendered {trades : List (Trade K)} (some : trades ≠ []) :
    ofTrades (trades.map (·.map d)) = (ofTrades trades).map d.plain d.money := by
  have rendered := faithful.rendered
  have winners := filter_isWin_rendered faithful id trades
  have losers := filter_isWin_rendered faithful not trades
  have returns : ∀ kept : List (Trade K),
      (kept.map (·.map d)).map (·.returnPercent) = (kept.map (·.returnPercent)).map d.plain := by
    intro kept
    rw [List.map_map, List.map_map]
    rfl
  have outcomes : (trades.map (·.map d)).map (·.isWin) = trades.map (·.isWin) := by
    rw [List.map_map]
    exact List.map_congr_left fun trade _ => trade.isWin_rendered faithful
  have number := ExactArithmetic.whole_ne_zero (K := K) (List.length_pos_of_ne_nil some)
  have factor : ∀ profit loss : K,
      (if Arithmetic.lt (whole 0) loss = true then d.money profit / d.money loss else whole 0) =
        d.plain (if Arithmetic.lt (whole 0) loss = true then profit / loss else whole 0) := by
    intro profit loss
    split
    case isTrue found => rw [faithful.money.ratio _ (ExactArithmetic.ne_zero_of_lt found)]
    case isFalse => exact rendered.whole 0
  simp only [id] at winners
  simp only [ofTrades, winners, losers, total_profit_rendered faithful, unsigned, faithful.money.zero_lt, factor,
    List.length_map, returns, outcomes, rendered.average]
  simp only [rendered.whole, rendered.div _ number, kellyFraction_rendered faithful absolute, rendered.mul,
    rendered.add]
  rfl

end Trades

/-- The parts of the score in other numbers. -/
def ScoreParts.map {α γ : Type} (f : α → γ) (parts : ScoreParts α) : ScoreParts γ :=
  { returns := f parts.returns
    sharpe := f parts.sharpe
    sortino := f parts.sortino
    winRate := f parts.winRate
    drawdown := f parts.drawdown
    consistency := f parts.consistency
    tradeCount := f parts.tradeCount }

/-- A performance in other numbers. -/
def Performance.map {α γ : Type} (plain money : α → γ) (performance : Performance α) : Performance γ :=
  { totalReturn := plain performance.totalReturn
    annualizedReturn := plain performance.annualizedReturn
    sharpeRatio := plain performance.sharpeRatio
    sortinoRatio := plain performance.sortinoRatio
    maxDrawdown := plain performance.maxDrawdown
    calmarRatio := plain performance.calmarRatio
    omegaRatio := plain performance.omegaRatio
    recoveryFactor := plain performance.recoveryFactor
    ulcerIndex := plain performance.ulcerIndex
    valueAtRisk := plain performance.valueAtRisk
    expectedShortfall := plain performance.expectedShortfall
    trades := performance.trades.map plain money
    significance := performance.significance.map plain
    isSignificant := performance.isSignificant
    finalEquity := money performance.finalEquity
    parts := performance.parts.map plain
    score := plain performance.score
    grade := performance.grade }

section Scores

variable {plain : K → β} (rendered : Rendering plain)
include rendered

theorem boundedScore_rendered (value : K) (most : Nat) :
    boundedScore (plain value) most = plain (boundedScore value most) := by
  rw [boundedScore, rendered.finiteOrZero, rendered.whole, rendered.whole, rendered.clamp, boundedScore]

theorem ScoreParts.total_rendered (parts : ScoreParts K) : (parts.map plain).total = plain parts.total := by
  simp only [total, map, rendered.add]

theorem Grade.ofScore_rendered (score : K) : ofScore (plain score) = ofScore score := by
  simp only [ofScore, rendered.whole, rendered.le]

theorem Performance.scoreParts_rendered [IsStrictOrderedRing K]
    (annualized sharpe sortino winRate drawdown expectancy : K) (trades : Nat) :
    scoreParts (plain annualized) (plain sharpe) (plain sortino) (plain winRate) (plain drawdown) (plain expectancy)
        trades =
      (scoreParts annualized sharpe sortino winRate drawdown expectancy trades).map plain := by
  have part : ∀ (x : K) {n : Nat}, 0 < n → plain x / plain (whole n) = plain (x / whole n) :=
    fun x _ positive => rendered.div x (ExactArithmetic.whole_ne_zero positive)
  simp only [scoreParts, ScoreParts.map, rendered.whole, rendered.magnitude, rendered.mul, rendered.sub,
    boundedScore_rendered rendered, part _ (n := 30) (by decide), part _ (n := 2) (by decide),
    part _ (n := 3) (by decide), part _ (n := 70) (by decide), part _ (n := 50) (by decide)]

end Scores

namespace Performance

variable [IsStrictOrderedRing K] {d : Denomination K β} (faithful : d.Faithful)
include faithful

section Ratios

omit [IsStrictOrderedRing K] in
/-- The return on a capital that there is. -/
theorem totalReturn_rendered (initial final : K) :
    (if Arithmetic.lt (whole 0) (d.money initial) = true then
        (d.money final / d.money initial - whole 1) * whole 100
      else whole 0) =
      d.plain (if Arithmetic.lt (whole 0) initial = true then (final / initial - whole 1) * whole 100 else whole 0) := by
  have rendered := faithful.rendered
  rw [faithful.money.zero_lt]
  split
  case isTrue found =>
    rw [faithful.money.ratio _ (ExactArithmetic.ne_zero_of_lt found), rendered.whole 1, rendered.sub,
      rendered.whole 100, rendered.mul]
  case isFalse => exact rendered.whole 0

variable (absolute : ExactMagnitude K)
include absolute

/-- A return over a drawdown that there is. -/
theorem calmarRatio_rendered (annualized depth : K) :
    (if Arithmetic.lt (d.plain depth) (whole 0) = true then
        Arithmetic.finiteOrZero (d.plain annualized / Arithmetic.magnitude (d.plain depth))
      else whole 0) =
      d.plain (if Arithmetic.lt depth (whole 0) = true then
        Arithmetic.finiteOrZero (annualized / Arithmetic.magnitude depth) else whole 0) := by
  have rendered := faithful.rendered
  rw [rendered.quantity.lt_zero]
  split
  case isTrue found =>
    have deep : Arithmetic.magnitude depth ≠ 0 := by
      rw [absolute, abs_ne_zero]
      exact ExactArithmetic.ne_zero_of_gt found
    rw [rendered.magnitude, rendered.div _ deep, rendered.finiteOrZero]
  case isFalse => exact rendered.whole 0

/-- A profit over a drawdown and on a capital that there are. -/
theorem recoveryFactor_rendered (profit depth initial : K) :
    (if (Arithmetic.lt (d.plain depth) (whole 0) && Arithmetic.lt (whole 0) (d.money initial)) = true then
        Arithmetic.finiteOrZero
          (d.money profit / (Arithmetic.magnitude (d.plain depth) * d.money initial / whole 100))
      else whole 0) =
      d.plain (if (Arithmetic.lt depth (whole 0) && Arithmetic.lt (whole 0) initial) = true then
        Arithmetic.finiteOrZero (profit / (Arithmetic.magnitude depth * initial / whole 100)) else whole 0) := by
  have rendered := faithful.rendered
  rw [rendered.quantity.lt_zero, faithful.money.zero_lt]
  split
  case isTrue found =>
    rw [Bool.and_eq_true] at found
    have hundred := ExactArithmetic.whole_ne_zero (K := K) (n := 100) (by decide)
    have deep : Arithmetic.magnitude depth ≠ 0 := by
      rw [absolute, abs_ne_zero]
      exact ExactArithmetic.ne_zero_of_gt found.1
    have loss := div_ne_zero (mul_ne_zero deep (ExactArithmetic.ne_zero_of_lt found.2)) hundred
    rw [rendered.magnitude, faithful.money.smul, rendered.whole 100, faithful.money.div _ hundred,
      faithful.money.ratio _ loss, rendered.finiteOrZero]
  case isFalse => exact rendered.whole 0

end Ratios

variable (absolute : ExactMagnitude K)
  (unsigned : ∀ x, Arithmetic.magnitude (d.money x) = d.money (Arithmetic.magnitude x))
  (tested : ∀ returns : List K, PaperTrading.significance (returns.map d.plain) =
    (PaperTrading.significance returns).map d.plain)
include absolute unsigned tested

/-- The performance on other numbers is the performance in those numbers. -/
theorem compute_rendered (trades : List (Trade K)) (curve : List K) (initialCapital : K) :
    compute (trades.map (·.map d)) (curve.map d.money) (d.money initialCapital) =
      (compute trades curve initialCapital).map d.plain d.money := by
  have rendered := faithful.rendered
  have finalEquity : (curve.map d.money).getLast?.getD (d.money initialCapital) =
      d.money (curve.getLast?.getD initialCapital) := by
    rw [List.getLast?_map, Option.getD_map]
  cases trades with
  | nil =>
      have nothing : d.money (whole 0) = whole 0 := by
        rw [ExactArithmetic.whole_zero, faithful.money.zero]
      simp only [List.map_nil, compute, finalEquity, List.isEmpty_nil, if_true, withoutTrades, map, TradeStatistics.map,
        ScoreParts.map, ScoreParts.none, Significance.map, Significance.untested, nothing, ← rendered.whole]
  | cons first rest =>
      have statistics := TradeStatistics.ofTrades_rendered faithful absolute unsigned (List.cons_ne_nil first rest)
      have returns := barReturns_rendered rendered faithful.money curve
      have depths := drawdowns_rendered rendered faithful.money curve
      have annualized := annualizedReturn_rendered rendered faithful.money initialCapital
        (curve.getLast?.getD initialCapital) (barReturns curve).length
      have level := rendered.div (whole 5) (ExactArithmetic.whole_ne_zero (K := K) (n := 100) (by decide))
      have downside : ((barReturns curve).map d.plain).filter (fun r => Arithmetic.lt r (whole 0)) =
          ((barReturns curve).filter fun r => Arithmetic.lt r (whole 0)).map d.plain := by
        rw [List.filter_map]
        simp only [Function.comp_def, rendered.quantity.lt_zero]
      simp only [List.map_cons] at statistics
      simp only [List.map_cons, compute, List.isEmpty_cons, finalEquity, statistics, returns, depths, List.length_map,
        annualized, downside, rendered.mean, rendered.deviation?, rendered.finiteOrZero, maxDrawdown_rendered rendered,
        annualRatio_rendered rendered, omegaRatio_rendered rendered, ulcerIndex_rendered rendered,
        valueAtRisk_rendered rendered, tested, totalReturn_rendered faithful,
        calmarRatio_rendered faithful absolute]
      simp only [TradeStatistics.map, recoveryFactor_rendered faithful absolute, scoreParts_rendered rendered,
        ScoreParts.total_rendered rendered, Significance.map]
      simp only [rendered.whole, level, rendered.lt, rendered.clamp, Grade.ofScore_rendered rendered]
      rfl

end Performance

end PaperTrading
