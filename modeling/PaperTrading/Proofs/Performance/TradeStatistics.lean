/-
Module: PaperTrading.Proofs.Performance.TradeStatistics
Purpose: In exact arithmetic the statistics of a list of trades fit together, and the order of the trades does not matter.
Main exports: length_mul_average, winners, losers, TradeStatistics.IsConsistent, TradeStatistics.withoutStreaks,
  Performance.trades_consistent

Winners and losers are a partition of the trades, so a sum over the one and a sum over the other add up to a sum over all.
-/
import Mathlib.Algebra.Order.BigOperators.Group.List
import Mathlib.Tactic.FieldSimp
import Mathlib.Tactic.Ring
import PaperTrading.Performance.Summary
import PaperTrading.Proofs.Arithmetic.Scaling

namespace PaperTrading

open Arithmetic (whole average)

variable {K : Type} [LinearOrder K] [ExactArithmetic K]

namespace ExactArithmetic

theorem clamp_eq_max_min {low high : K} (ordered : low ≤ high) (x : K) :
    Arithmetic.clamp low high x = max low (min high x) := by
  simp only [Arithmetic.clamp, lt_iff]
  split
  case isTrue below => rw [max_eq_left (min_le_of_right_le below.le)]
  case isFalse above =>
    split
    case isTrue beyond => rw [min_eq_left beyond.le, max_eq_right ordered]
    case isFalse under => rw [min_eq_right (not_lt.1 under), max_eq_right (not_lt.1 above)]

end ExactArithmetic

section Averages

/-- The average of no values is 0, as is their sum over their number. -/
theorem average_eq_sum_div (xs : List K) : average xs = xs.sum / xs.length := by
  cases xs with
  | nil => simp [average]
  | cons x xs =>
      rw [average, if_neg (List.isEmpty_iff.not.2 (List.cons_ne_nil x xs)), ExactArithmetic.whole_zero,
        ExactArithmetic.whole_eq_cast, List.sum_eq_foldl]

theorem length_mul_average [IsStrictOrderedRing K] (xs : List K) : xs.length * average xs = xs.sum := by
  cases xs with
  | nil => simp
  | cons x xs =>
      have nonzero : ((x :: xs).length : K) ≠ 0 := Nat.cast_ne_zero.2 (Nat.succ_ne_zero _)
      rw [average_eq_sum_div, mul_div_cancel₀ _ nonzero]

theorem average_nonneg [IsStrictOrderedRing K] {xs : List K} (nonneg : ∀ x ∈ xs, 0 ≤ x) : 0 ≤ average xs := by
  rw [average_eq_sum_div]
  exact div_nonneg (List.sum_nonneg nonneg) (Nat.cast_nonneg _)

theorem sum_nonpos [IsStrictOrderedRing K] {xs : List K} (nonpos : ∀ x ∈ xs, x ≤ 0) : xs.sum ≤ 0 := by
  simpa using xs.sum_le_card_nsmul 0 nonpos

theorem average_nonpos [IsStrictOrderedRing K] {xs : List K} (nonpos : ∀ x ∈ xs, x ≤ 0) : average xs ≤ 0 := by
  rw [average_eq_sum_div]
  exact div_nonpos_of_nonpos_of_nonneg (sum_nonpos nonpos) (Nat.cast_nonneg _)

theorem average_perm {xs ys : List K} (same : xs.Perm ys) : average xs = average ys := by
  rw [average_eq_sum_div, average_eq_sum_div, same.sum_eq, same.length_eq]

end Averages

section Partition

/-- The trades that made money. -/
def winners (trades : List (Trade K)) : List (Trade K) :=
  trades.filter (·.isWin)

/-- The trades that did not. -/
def losers (trades : List (Trade K)) : List (Trade K) :=
  trades.filter (!·.isWin)

variable (trades : List (Trade K))

theorem winners_append_losers_perm : (winners trades ++ losers trades).Perm trades :=
  List.filter_append_perm _ _

theorem length_winners_add_length_losers : (winners trades).length + (losers trades).length = trades.length := by
  rw [← List.length_append, (winners_append_losers_perm trades).length_eq]

theorem sum_winners_add_sum_losers (f : Trade K → K) :
    ((winners trades).map f).sum + ((losers trades).map f).sum = (trades.map f).sum := by
  rw [← List.sum_append, ← List.map_append, ((winners_append_losers_perm trades).map f).sum_eq]

variable {trades}

theorem profit_nonpos_of_mem_losers {trade : Trade K} (lost : trade ∈ losers trades) : trade.profit ≤ 0 := by
  have noWin := (List.mem_filter.1 lost).2
  rw [Bool.not_eq_true', ← Bool.not_eq_true, Trade.isWin, ExactArithmetic.lt_iff, ExactArithmetic.whole_zero] at noWin
  exact not_lt.1 noWin

theorem sum_profit_losers_nonpos [IsStrictOrderedRing K] : ((losers trades).map (·.profit)).sum ≤ 0 := by
  apply sum_nonpos
  intro x listed
  obtain ⟨trade, lost, rfl⟩ := List.mem_map.1 listed
  exact profit_nonpos_of_mem_losers lost

end Partition

/-- The statistics of some trades fit together: the counts, the amounts, the mean return, and what is derived from them. -/
structure TradeStatistics.IsConsistent (statistics : TradeStatistics K) (trades : List (Trade K)) : Prop where
  total : statistics.total = trades.length
  counts : statistics.winning + statistics.losing = statistics.total
  netProfit : statistics.netProfit = (trades.map (·.profit)).sum
  amounts : statistics.netProfit = statistics.grossProfit - statistics.grossLoss
  expectancy : statistics.expectancy = (trades.map (·.returnPercent)).sum / trades.length
  profitFactor : 0 < statistics.grossLoss → (1 < statistics.profitFactor ↔ 0 < statistics.netProfit)
  kelly : 0 < statistics.averageWin → statistics.averageLoss < 0 →
    statistics.kelly = max 0 (min 100 (100 * statistics.expectancy / statistics.averageWin))

/-- The statistics but the lengths of streaks, which depend on the order of the trades. -/
def TradeStatistics.withoutStreaks (statistics : TradeStatistics K) : TradeStatistics K :=
  { statistics with longestWins := 0, longestLosses := 0 }

/-- The Kelly fraction is the expected return in units of the average win, within its bounds. -/
theorem kellyFraction_eq [IsStrictOrderedRing K] (absolute : ExactMagnitude K) {averageWin averageLoss : K}
    (won : 0 < averageWin) (lost : averageLoss < 0) (winChance lossChance : K) :
    kellyFraction winChance lossChance averageWin averageLoss =
      max 0 (min 100 (100 * (winChance * averageWin + lossChance * averageLoss) / averageWin)) := by
  have hundred : (whole 100 : K) = 100 := ExactArithmetic.whole_eq_cast 100
  have bothSides : ¬ (averageWin == whole 0 || averageLoss == whole 0) = true := by
    simp [ExactArithmetic.beq_iff, won.ne', lost.ne]
  have ratio : |averageWin / averageLoss| = averageWin / -averageLoss := by
    rw [abs_of_neg (div_neg_of_pos_of_neg won lost), div_neg]
  have fraction : (winChance - lossChance / (averageWin / -averageLoss)) * 100 =
      100 * (winChance * averageWin + lossChance * averageLoss) / averageWin := by
    field_simp [won.ne', lost.ne]
    ring
  rw [kellyFraction, if_neg bothSides]
  simp only [absolute _, ratio, hundred, fraction, ExactArithmetic.whole_zero,
    ExactArithmetic.finiteOrZero_eq, ExactArithmetic.clamp_eq_max_min (show (0 : K) ≤ 100 by norm_num)]

namespace TradeStatistics

variable {trades : List (Trade K)}

theorem grossProfit_ofTrades : (ofTrades trades).grossProfit = ((winners trades).map (·.profit)).sum :=
  ExactArithmetic.total_eq_sum _

theorem netProfit_ofTrades : (ofTrades trades).netProfit = (trades.map (·.profit)).sum :=
  ExactArithmetic.total_eq_sum _

theorem profitFactor_ofTrades (lost : 0 < (ofTrades trades).grossLoss) :
    (ofTrades trades).profitFactor = (ofTrades trades).grossProfit / (ofTrades trades).grossLoss := by
  rw [← ExactArithmetic.lt_iff, ← ExactArithmetic.whole_zero] at lost
  exact if_pos lost

theorem expectancy_ofTrades :
    (ofTrades trades).expectancy =
      (winners trades).length / trades.length * (ofTrades trades).averageWin +
        (losers trades).length / trades.length * (ofTrades trades).averageLoss := by
  simp only [← ExactArithmetic.whole_eq_cast]
  rfl

variable [IsStrictOrderedRing K]

/-- Each side counts with as many returns as it has. -/
theorem expectancy_eq_mean : (ofTrades trades).expectancy = (trades.map (·.returnPercent)).sum / trades.length := by
  have won := length_mul_average ((winners trades).map (·.returnPercent))
  have lost := length_mul_average ((losers trades).map (·.returnPercent))
  rw [List.length_map] at won lost
  calc (ofTrades trades).expectancy
    _ = ((winners trades).length * average ((winners trades).map (·.returnPercent)) +
          (losers trades).length * average ((losers trades).map (·.returnPercent))) / trades.length := by
        rw [expectancy_ofTrades, add_div, mul_div_right_comm, mul_div_right_comm]
        rfl
    _ = (trades.map (·.returnPercent)).sum / trades.length := by
        rw [won, lost, sum_winners_add_sum_losers]

variable (absolute : ExactMagnitude K)
include absolute

theorem grossLoss_ofTrades : (ofTrades trades).grossLoss = -((losers trades).map (·.profit)).sum := by
  have lost : (ofTrades trades).grossLoss = Arithmetic.magnitude (Arithmetic.total ((losers trades).map (·.profit))) :=
    rfl
  rw [lost, ExactArithmetic.total_eq_sum, absolute, abs_of_nonpos sum_profit_losers_nonpos]

theorem netProfit_eq_sub : (ofTrades trades).netProfit = (ofTrades trades).grossProfit - (ofTrades trades).grossLoss := by
  rw [netProfit_ofTrades, grossProfit_ofTrades, grossLoss_ofTrades absolute, sub_neg_eq_add, sum_winners_add_sum_losers]

theorem one_lt_profitFactor_iff (lost : 0 < (ofTrades trades).grossLoss) :
    1 < (ofTrades trades).profitFactor ↔ 0 < (ofTrades trades).netProfit := by
  rw [profitFactor_ofTrades lost, one_lt_div lost, netProfit_eq_sub absolute, sub_pos]

theorem kelly_ofTrades (won : 0 < (ofTrades trades).averageWin) (lost : (ofTrades trades).averageLoss < 0) :
    (ofTrades trades).kelly =
      max 0 (min 100 (100 * (ofTrades trades).expectancy / (ofTrades trades).averageWin)) :=
  kellyFraction_eq absolute won lost _ _

theorem ofTrades_isConsistent (trades : List (Trade K)) : (ofTrades trades).IsConsistent trades where
  total := rfl
  counts := length_winners_add_length_losers trades
  netProfit := netProfit_ofTrades
  amounts := netProfit_eq_sub absolute
  expectancy := expectancy_eq_mean
  profitFactor := one_lt_profitFactor_iff absolute
  kelly := kelly_ofTrades absolute

omit [IsStrictOrderedRing K] absolute in
/-- In another order, the same trades have the same statistics. -/
theorem withoutStreaks_perm {reordered : List (Trade K)} (same : reordered.Perm trades) :
    (ofTrades reordered).withoutStreaks = (ofTrades trades).withoutStreaks := by
  have won := same.filter (·.isWin)
  have lost := same.filter (!·.isWin)
  simp only [withoutStreaks, ofTrades, ExactArithmetic.total_eq_sum, same.length_eq, won.length_eq, lost.length_eq,
    average_perm (won.map _), average_perm (lost.map _), (same.map _).sum_eq, (won.map _).sum_eq, (lost.map _).sum_eq]

end TradeStatistics

namespace Performance

theorem trades_compute {trades : List (Trade K)} (traded : trades ≠ []) (curve : List K) (initialCapital : K) :
    (compute trades curve initialCapital).trades = .ofTrades trades := by
  rw [compute, if_neg (List.isEmpty_iff.not.2 traded)]

/-- In exact arithmetic, whatever the profits and the returns of the trades are, their statistics fit together, and all but
the lengths of streaks stay the same if the trades are put into another order. -/
theorem trades_consistent [IsStrictOrderedRing K] (absolute : ExactMagnitude K) {trades : List (Trade K)}
    (traded : trades ≠ []) (curve : List K) (initialCapital : K) :
    let statistics := (compute trades curve initialCapital).trades
    statistics.IsConsistent trades ∧
      ∀ reordered, reordered.Perm trades →
        (compute reordered curve initialCapital).trades.withoutStreaks = statistics.withoutStreaks := by
  intro statistics
  have computed : statistics = .ofTrades trades := trades_compute traded curve initialCapital
  rw [computed]
  refine ⟨TradeStatistics.ofTrades_isConsistent absolute trades, ?_⟩
  intro reordered same
  have still : reordered ≠ [] := fun nothing => traded (List.nil_perm.1 (nothing ▸ same))
  rw [trades_compute still, TradeStatistics.withoutStreaks_perm same]

end Performance

section Trial

/-- A trade with some return and some profit, which need not have the same sign. -/
def outcome (returnPercent profit : ℚ) : Trade ℚ :=
  ⟨⟨2014, 5, 5, by decide⟩, ⟨2014, 5, 6, by decide⟩, 100, 100 + returnPercent, 1, returnPercent, profit, .signal, 1⟩

/-- Two wins, one of them with a loss in price, and three losses, one of them with a gain in price. -/
def mixedOutcomes : List (Trade ℚ) :=
  [outcome 12 110, outcome (-5) (-60), outcome 1 (-1), outcome (-2) 3, outcome (-4) (-45)]

theorem mixedOutcomes_consistent :
    let statistics := (Performance.compute mixedOutcomes [] 1000).trades
    mixedOutcomes ≠ [] ∧ (statistics.averageWin, statistics.averageLoss, statistics.kelly) = (5, -8 / 3, 8) ∧
      statistics.IsConsistent mixedOutcomes ∧
      (Performance.compute mixedOutcomes.reverse [] 1000).trades.withoutStreaks = statistics.withoutStreaks := by
  intro statistics
  have traded : mixedOutcomes ≠ [] := List.cons_ne_nil _ _
  obtain ⟨consistent, reordered⟩ := Performance.trades_consistent (fun _ => rfl) traded [] 1000
  exact ⟨traded, by decide +kernel, consistent, reordered _ (List.reverse_perm _)⟩

end Trial

end PaperTrading
