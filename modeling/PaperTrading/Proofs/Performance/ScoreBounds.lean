/-
Module: PaperTrading.Proofs.Performance.ScoreBounds
Purpose: The score and each of its parts are within their bounds, whatever they are computed from.
Main exports: SumsInOrder, Within, boundedScore_within, ScoreParts.AreBounded, Performance.parts_areBounded,
  Performance.score_within, Performance.score_bounded

Of the numbers that the parts are computed from nothing is assumed: they may be undefined or infinite.  Each part is made
finite and moved into its interval, and the sum of the parts does not leave the sum of the intervals.
-/
import Mathlib.Algebra.Order.Field.Basic
import PaperTrading.Performance.Summary
import PaperTrading.Proofs.Arithmetic.Guarded

namespace PaperTrading

open Arithmetic (whole isFinite lt le)

/-- What is assumed of an arithmetic: of two finite numbers the first is less or the second is at most as large, what is
between finite numbers is finite, sums of finite numbers keep the order, and the numbers up to a hundred are exact.
All this is so of doubles: see `doubles_sumsInOrder`. -/
structure SumsInOrder (α : Type) [Arithmetic α] : Prop where
  lt_iff : ∀ a b : α, isFinite a = true → isFinite b = true → (lt a b = true ↔ le b a = false)
  between : ∀ a b c : α, isFinite a = true → isFinite c = true → le a b = true → le b c = true → isFinite b = true
  add_le : ∀ a b c d : α, isFinite a = true → isFinite b = true → isFinite c = true → isFinite d = true →
    le a c = true → le b d = true → le (a + b) (c + d) = true
  whole_finite : ∀ n ≤ 100, isFinite (whole n : α) = true
  whole_le : ∀ m n, m ≤ 100 → n ≤ 100 → (le (whole m : α) (whole n) = true ↔ m ≤ n)
  whole_add : ∀ m n, m + n ≤ 100 → (whole m + whole n : α) = whole (m + n)

/-- A number is between zero and a whole number. -/
def Within {α : Type} [Arithmetic α] (most : Nat) (x : α) : Prop :=
  le (whole 0) x = true ∧ le x (whole most) = true

/-- Every part of a score is between zero and its most. -/
structure ScoreParts.AreBounded {α : Type} [Arithmetic α] (parts : ScoreParts α) : Prop where
  returns : Within 20 parts.returns
  sharpe : Within 15 parts.sharpe
  sortino : Within 10 parts.sortino
  winRate : Within 15 parts.winRate
  drawdown : Within 20 parts.drawdown
  consistency : Within 10 parts.consistency
  tradeCount : Within 10 parts.tradeCount

section Bounds

variable {α : Type} [Arithmetic α] (sums : SumsInOrder α)
include sums

section Intervals

theorem Within.isFinite {most : Nat} (small : most ≤ 100) {x : α} (within : Within most x) : isFinite x = true :=
  sums.between _ x _ (sums.whole_finite 0 (Nat.zero_le 100)) (sums.whole_finite most small) within.1 within.2

theorem Within.zero {most : Nat} (small : most ≤ 100) : Within most (whole 0 : α) :=
  ⟨(sums.whole_le 0 0 (Nat.zero_le 100) (Nat.zero_le 100)).2 (Nat.le_refl 0),
    (sums.whole_le 0 most (Nat.zero_le 100) small).2 (Nat.zero_le most)⟩

/-- The sum of two parts is between zero and the most that they can be together. -/
theorem Within.add {m n : Nat} (small : m + n ≤ 100) {x y : α} (first : Within m x) (second : Within n y) :
    Within (m + n) (x + y) := by
  have low : m ≤ 100 := Nat.le_trans (Nat.le_add_right m n) small
  have high : n ≤ 100 := Nat.le_trans (Nat.le_add_left n m) small
  have zero := sums.whole_finite 0 (Nat.zero_le 100)
  have one := first.isFinite sums low
  have other := second.isFinite sums high
  constructor
  · rw [← sums.whole_add 0 0 (Nat.zero_le 100)]
    exact sums.add_le _ _ _ _ zero zero one other first.1 second.1
  · rw [← sums.whole_add m n small]
    exact sums.add_le _ _ _ _ one other (sums.whole_finite m low) (sums.whole_finite n high) first.2 second.2

/-- What is not less than a finite number is at least as large. -/
theorem SumsInOrder.le_of_not_lt {a b : α} (one : Arithmetic.isFinite a = true) (other : Arithmetic.isFinite b = true)
    (larger : lt a b = false) : le b a = true := by
  rw [← Bool.not_eq_false, ← sums.lt_iff a b one other, larger]
  exact Bool.false_ne_true

/-- A finite number is moved into an interval. -/
theorem clamp_within {most : Nat} (small : most ≤ 100) {x : α} (finite : isFinite x = true) :
    Within most (Arithmetic.clamp (whole 0) (whole most) x) := by
  have zero := sums.whole_finite 0 (Nat.zero_le 100)
  have top := sums.whole_finite most small
  rw [Arithmetic.clamp]
  split
  case isTrue => exact Within.zero sums small
  case isFalse above =>
    split
    case isTrue =>
      exact ⟨(Within.zero sums small).2, (sums.whole_le most most small small).2 (Nat.le_refl most)⟩
    case isFalse below =>
      exact ⟨sums.le_of_not_lt finite zero (Bool.not_eq_true _ ▸ above),
        sums.le_of_not_lt top finite (Bool.not_eq_true _ ▸ below)⟩

/-- A number within an interval is not moved. -/
theorem Within.clamp_eq {most : Nat} (small : most ≤ 100) {x : α} (within : Within most x) :
    Arithmetic.clamp (whole 0) (whole most) x = x := by
  have finite := within.isFinite sums small
  have zero := sums.whole_finite 0 (Nat.zero_le 100)
  have top := sums.whole_finite most small
  have above : ¬ lt x (whole 0) = true := by
    rw [sums.lt_iff x _ finite zero, within.1]
    exact Bool.noConfusion
  have below : ¬ lt (whole most) x = true := by
    rw [sums.lt_iff _ x top finite, within.2]
    exact Bool.noConfusion
  rw [Arithmetic.clamp, if_neg above, if_neg below]

/-- A part of the score is within its bounds, also where its value is undefined or infinite. -/
theorem boundedScore_within {most : Nat} (small : most ≤ 100) (value : α) : Within most (boundedScore value most) := by
  have finite : isFinite (Arithmetic.finiteOrZero value) = true := by
    rw [Arithmetic.finiteOrZero]
    split
    case isTrue finite => exact finite
    case isFalse => exact sums.whole_finite 0 (Nat.zero_le 100)
  exact clamp_within sums small finite

end Intervals

section Scores

theorem ScoreParts.none_areBounded : (none : ScoreParts α).AreBounded where
  returns := .zero sums (by decide)
  sharpe := .zero sums (by decide)
  sortino := .zero sums (by decide)
  winRate := .zero sums (by decide)
  drawdown := .zero sums (by decide)
  consistency := .zero sums (by decide)
  tradeCount := .zero sums (by decide)

theorem Performance.scoreParts_areBounded (annualized sharpe sortino winRate drawdown expectancy : α) (trades : Nat) :
    (scoreParts annualized sharpe sortino winRate drawdown expectancy trades).AreBounded where
  returns := boundedScore_within sums (by decide) _
  sharpe := boundedScore_within sums (by decide) _
  sortino := boundedScore_within sums (by decide) _
  winRate := boundedScore_within sums (by decide) _
  drawdown := boundedScore_within sums (by decide) _
  consistency := boundedScore_within sums (by decide) _
  tradeCount := boundedScore_within sums (by decide) _

/-- The most that the parts can be together is a hundred. -/
theorem ScoreParts.AreBounded.total {parts : ScoreParts α} (bounded : parts.AreBounded) : Within 100 parts.total := by
  have two := bounded.returns.add sums (by decide) bounded.sharpe
  have three := two.add sums (by decide) bounded.sortino
  have four := three.add sums (by decide) bounded.winRate
  have five := four.add sums (by decide) bounded.drawdown
  have six := five.add sums (by decide) bounded.consistency
  exact six.add sums (by decide) bounded.tradeCount

theorem ScoreParts.total_none : (none : ScoreParts α).total = whole 0 := by
  simp only [total, none, sums.whole_add 0 0 (Nat.zero_le 100)]

/-- No points are the worst grade. -/
theorem Grade.ofScore_zero : ofScore (whole 0 : α) = .f := by
  have below : ∀ n, 0 < n → n ≤ 100 → ¬ le (whole n : α) (whole 0) = true := by
    intro n positive small
    rw [sums.whole_le n 0 small (Nat.zero_le 100)]
    exact Nat.not_le_of_lt positive
  rw [ofScore, if_neg (below 90 (by decide) (by decide)), if_neg (below 80 (by decide) (by decide)),
    if_neg (below 70 (by decide) (by decide)), if_neg (below 60 (by decide) (by decide)),
    if_neg (below 50 (by decide) (by decide))]

section Computed

variable (trades : List (Trade α)) (curve : List α) (initialCapital : α)

theorem Performance.parts_areBounded : (compute trades curve initialCapital).parts.AreBounded := by
  cases trades with
  | nil => exact ScoreParts.none_areBounded sums
  | cons first rest => exact scoreParts_areBounded sums _ _ _ _ _ _ _

/-- The score is the sum of its parts, which is not moved: it is between zero and a hundred already. -/
theorem Performance.score_eq_total :
    (compute trades curve initialCapital).score = (compute trades curve initialCapital).parts.total := by
  have bounded := parts_areBounded sums trades curve initialCapital
  cases trades with
  | nil => exact (ScoreParts.total_none sums).symm
  | cons first rest => exact (bounded.total sums).clamp_eq sums (Nat.le_refl 100)

theorem Performance.score_within : Within 100 (compute trades curve initialCapital).score := by
  rw [score_eq_total sums]
  exact (parts_areBounded sums trades curve initialCapital).total sums

theorem Performance.grade_eq_ofScore :
    (compute trades curve initialCapital).grade = Grade.ofScore (compute trades curve initialCapital).score := by
  cases trades with
  | nil => exact (Grade.ofScore_zero sums).symm
  | cons first rest => rfl

end Computed

/-- Whatever the trades, the curve and the capital are, each part of the score is within its bounds, the score is their
sum and between zero and a hundred, and the grade is that of the score.  Without trades there are no points, and the grade
is the worst. -/
theorem Performance.score_bounded (trades : List (Trade α)) (curve : List α) (initialCapital : α) :
    let performance := compute trades curve initialCapital
    performance.parts.AreBounded ∧ Within 100 performance.score ∧ performance.score = performance.parts.total ∧
      performance.grade = Grade.ofScore performance.score ∧
      (trades = [] → performance.score = whole 0 ∧ performance.grade = .f) := by
  intro performance
  refine ⟨parts_areBounded sums _ _ _, score_within sums _ _ _, score_eq_total sums _ _ _, grade_eq_ofScore sums _ _ _, ?_⟩
  rintro rfl
  exact ⟨rfl, rfl⟩

end Scores

end Bounds

section Trial

/-- What is no number is neither finite nor less than anything, nor equal to anything. -/
def noAnswers : Answers ℚ :=
  ⟨fun _ _ => false, fun _ _ => false, fun _ _ => false, false, 0⟩

/-- Only numbers are finite. -/
theorem Guarded.exists_of_isFinite {a : Guarded ℚ noAnswers} (finite : isFinite a = true) : ∃ x, a = of x := by
  cases a with
  | none => cases finite
  | some x => exact ⟨x, rfl⟩

/-- Only numbers are between others. -/
theorem Guarded.isFinite_of_le {a b : Guarded ℚ noAnswers} (low : le a b = true) : isFinite b = true := by
  cases b with
  | none =>
      cases a with
      | none => cases low
      | some x => cases low
  | some y => rfl

theorem guarded_sumsInOrder : SumsInOrder (Guarded ℚ noAnswers) where
  lt_iff a b one other := by
    obtain ⟨x, rfl⟩ := Guarded.exists_of_isFinite one
    obtain ⟨y, rfl⟩ := Guarded.exists_of_isFinite other
    rw [Guarded.rendering.lt, Guarded.rendering.le, ExactArithmetic.lt_iff, ← Bool.not_eq_true,
      ExactArithmetic.le_iff, not_le]
  between a b c _ _ low _ := Guarded.isFinite_of_le low
  add_le a b c d finiteA finiteB finiteC finiteD one other := by
    obtain ⟨x, rfl⟩ := Guarded.exists_of_isFinite finiteA
    obtain ⟨y, rfl⟩ := Guarded.exists_of_isFinite finiteB
    obtain ⟨z, rfl⟩ := Guarded.exists_of_isFinite finiteC
    obtain ⟨w, rfl⟩ := Guarded.exists_of_isFinite finiteD
    rw [Guarded.rendering.le, ExactArithmetic.le_iff] at one other
    rw [Guarded.rendering.add, Guarded.rendering.add, Guarded.rendering.le, ExactArithmetic.le_iff]
    exact add_le_add one other
  whole_finite n _ := rfl
  whole_le m n _ _ := by
    rw [Guarded.rendering.whole, Guarded.rendering.whole, Guarded.rendering.le, ExactArithmetic.le_iff,
      ExactArithmetic.whole_eq_cast, ExactArithmetic.whole_eq_cast, Nat.cast_le]
  whole_add m n _ := by
    rw [Guarded.rendering.whole, Guarded.rendering.whole, Guarded.rendering.add, ExactArithmetic.whole_eq_cast,
      ExactArithmetic.whole_eq_cast, ← Nat.cast_add, Guarded.rendering.whole, ExactArithmetic.whole_eq_cast]

/-- A trade of one day with some return and some profit. -/
def tradeWith (returnPercent profit : Guarded ℚ noAnswers) : Trade (Guarded ℚ noAnswers) :=
  { entryDate := ⟨2021, 3, 1, by decide⟩
    exitDate := ⟨2021, 3, 2, by decide⟩
    entryPrice := .of 10
    exitPrice := .of 11
    shares := .of 1
    returnPercent, profit
    exitReason := .signal
    barsHeld := 1 }

/-- What is no number, as the last point of a curve, as a capital, or as the outcome of a trade. -/
def noNumber : Guarded ℚ noAnswers :=
  none

/-- A curve that falls below zero and then is undefined, an undefined capital, and a trade with an undefined outcome. -/
theorem undefined_score_bounded :
    let performance := Performance.compute [tradeWith (.of 3) (.of 5), tradeWith noNumber noNumber]
      [.of 0, .of (-3), noNumber] noNumber
    performance.trades.netProfit = noNumber ∧ performance.score = .of (659 / 21) ∧ performance.parts.AreBounded ∧
      Within 100 performance.score ∧ performance.grade = .f := by
  intro performance
  obtain ⟨bounded, within, -, grade, -⟩ := Performance.score_bounded guarded_sumsInOrder
    [tradeWith (.of 3) (.of 5), tradeWith noNumber noNumber] [.of 0, .of (-3), noNumber] noNumber
  have score : performance.score = .of (659 / 21) := by
    decide +kernel
  refine ⟨rfl, score, bounded, within, grade.trans ?_⟩
  rw [score]
  decide +kernel

end Trial

end PaperTrading
