/-
Module: PaperTrading.Proofs.Performance.Drawdown
Purpose: In exact arithmetic the deepest drawdown of a curve is its lowest change from any point to a later one.
Main exports: IsPeak, depthBelow, ChangesBy, getElem?_drawdowns, maxDrawdown_isLeast, Performance.maxDrawdown_pairwise

The drawdowns are found in one pass, from the highest point so far.  The changes are those between all pairs of points.
-/
import Mathlib.Algebra.Order.Field.Basic
import Mathlib.Order.Bounds.Basic
import Mathlib.Tactic.Linarith
import PaperTrading.Performance.Summary
import PaperTrading.Proofs.Arithmetic.Scaling

namespace PaperTrading

open Arithmetic (whole)

variable {K : Type} [LinearOrder K] [ExactArithmetic K]

section Peaks

/-- The highest of some points, if there are any. -/
def IsPeak (points : List K) : Option K → Prop
  | none => points = []
  | some highest => IsGreatest {x | x ∈ points} highest

/-- The highest point so far after one more point. -/
def higher : Option K → K → K
  | none, point => point
  | some highest, point => max highest point

omit [ExactArithmetic K] in
theorem IsPeak.append {seen : List K} {peak : Option K} (isPeak : IsPeak seen peak) (point : K) :
    IsPeak (seen ++ [point]) (some (higher peak point)) := by
  cases peak with
  | none =>
      obtain rfl : seen = [] := isPeak
      simp [IsPeak, higher, IsGreatest, upperBounds]
  | some highest =>
      obtain ⟨member, upper⟩ := isPeak
      constructor
      · rcases max_choice highest point with left | right
        · exact List.mem_append.2 (.inl (left.symm ▸ member : max highest point ∈ seen))
        · exact List.mem_append.2 (.inr (List.mem_singleton.2 right))
      · intro x listed
        rcases List.mem_append.1 listed with before | last
        · exact le_max_of_le_left (upper before)
        · exact le_max_of_le_right (List.mem_singleton.1 last).le

end Peaks

section Depths

/-- How far a point is below a peak, as a part of it. -/
def depthBelow (peak point : K) : K :=
  if 0 < peak then (point - peak) / peak else 0

theorem drawdownsFrom_cons (peak : Option K) (point : K) (rest : List K) :
    drawdownsFrom peak (point :: rest) =
      depthBelow (higher peak point) point :: drawdownsFrom (some (higher peak point)) rest := by
  have depth (peak : K) :
      (if Arithmetic.lt (whole 0) peak = true then (point - peak) / peak else whole 0) = depthBelow peak point :=
    if_congr (by rw [ExactArithmetic.whole_zero, ExactArithmetic.lt_iff]) rfl ExactArithmetic.whole_zero
  cases peak with
  | none => simp only [drawdownsFrom, depth, higher]
  | some highest => simp only [drawdownsFrom, depth, higher, ExactArithmetic.greater_eq_max]

theorem length_drawdownsFrom (peak : Option K) (points : List K) :
    (drawdownsFrom peak points).length = points.length := by
  induction points generalizing peak with
  | nil => rfl
  | cons point rest ih => rw [drawdownsFrom_cons, List.length_cons, List.length_cons, ih]

/-- Each drawdown is the depth of its point below the highest point up to it. -/
theorem getElem?_drawdownsFrom {seen points : List K} {peak : Option K} (isPeak : IsPeak seen peak) {index : Nat}
    {point : K} (here : points[index]? = some point) :
    ∃ highest, IsGreatest {x | x ∈ seen ++ points.take (index + 1)} highest ∧
      (drawdownsFrom peak points)[index]? = some (depthBelow highest point) := by
  induction points generalizing seen peak index with
  | nil => simp at here
  | cons first rest ih =>
      have next := isPeak.append first
      rw [drawdownsFrom_cons]
      cases index with
      | zero =>
          obtain rfl : first = point := Option.some.inj here
          exact ⟨higher peak first, next, rfl⟩
      | succ index =>
          obtain ⟨highest, greatest, depth⟩ := ih next here
          rw [List.append_assoc, List.singleton_append] at greatest
          exact ⟨highest, greatest, depth⟩

theorem getElem?_drawdowns {curve : List K} {index : Nat} {point : K} (here : curve[index]? = some point) :
    ∃ highest, IsGreatest {x | x ∈ curve.take (index + 1)} highest ∧
      (drawdowns curve)[index]? = some (depthBelow highest point) :=
  have nothing : IsPeak ([] : List K) none := rfl
  getElem?_drawdownsFrom nothing here

/-- The deepest drawdown is the least of the drawdowns and zero, in percent. -/
theorem maxDrawdown_eq (depths : List K) : maxDrawdown depths = 100 * depths.foldl min 0 := by
  have hundred : (whole 100 : K) = 100 := ExactArithmetic.whole_eq_cast 100
  have lesser : (Arithmetic.lesser : K → K → K) = min := funext₂ ExactArithmetic.lesser_eq_min
  rw [maxDrawdown, hundred, lesser, ExactArithmetic.whole_zero, mul_comm]

end Depths

omit [ExactArithmetic K] in
theorem isLeast_foldl_min (xs : List K) (start : K) :
    IsLeast (insert start {x | x ∈ xs}) (xs.foldl min start) := by
  induction xs generalizing start with
  | nil => simp [IsLeast, lowerBounds]
  | cons x xs ih =>
      obtain ⟨member, lower⟩ := ih (min start x)
      constructor
      · rcases member with first | later
        · rw [List.foldl_cons, first]
          rcases min_choice start x with left | right
          · exact .inl left
          · exact .inr (List.mem_cons.2 (.inl right))
        · exact .inr (List.mem_cons_of_mem x later)
      · have least : xs.foldl min (min start x) ≤ min start x := lower (.inl rfl)
        rintro y (rfl | listed)
        · exact le_trans least (min_le_left _ _)
        · rcases List.mem_cons.1 listed with rfl | later
          · exact le_trans least (min_le_right _ _)
          · exact lower (.inr later)

section Changes

/-- From some positive point of a curve to the same or a later one, the curve changes by this part of the former. -/
def ChangesBy (curve : List K) (change : K) : Prop :=
  ∃ (i j : Nat) (earlier later : K), i ≤ j ∧ curve[i]? = some earlier ∧ curve[j]? = some later ∧ 0 < earlier ∧
    change = (later - earlier) / earlier

variable {curve : List K}

/-- A drawdown is a change, the one from the peak, unless the peak is not positive. -/
theorem depth_cases {depth : K} (member : depth ∈ drawdowns curve) : depth = 0 ∨ ChangesBy curve depth := by
  obtain ⟨j, inside, rfl⟩ := List.mem_iff_getElem.1 member
  have within : j < curve.length := length_drawdownsFrom none curve ▸ inside
  obtain ⟨highest, ⟨listed, -⟩, depth⟩ := getElem?_drawdowns (List.getElem?_eq_getElem within)
  rw [List.getElem?_eq_getElem inside, Option.some.injEq] at depth
  rw [depth, depthBelow]
  split
  case isFalse => exact .inl rfl
  case isTrue positive =>
    obtain ⟨i, small, rfl⟩ := List.mem_take_iff_getElem.1 listed
    have before : i ≤ j := Nat.le_of_lt_succ (Nat.lt_of_lt_of_le small (Nat.min_le_left _ _))
    exact .inr ⟨i, j, _, _, before, List.getElem?_eq_getElem _, List.getElem?_eq_getElem within, positive, rfl⟩

variable [IsStrictOrderedRing K]

/-- The change to a point is lower from a higher one. -/
theorem change_le_change {earlier highest later : K} (positive : 0 < earlier) (above : earlier ≤ highest)
    (nonneg : 0 ≤ later) : (later - highest) / highest ≤ (later - earlier) / earlier := by
  have raised : 0 < highest := lt_of_lt_of_le positive above
  rw [sub_div, sub_div, div_self raised.ne', div_self positive.ne']
  exact sub_le_sub_right (div_le_div_of_nonneg_left nonneg positive above) 1

variable (nonneg : ∀ point ∈ curve, 0 ≤ point)
include nonneg

/-- No change is lower than every drawdown. -/
theorem exists_depth_le {change : K} (changes : ChangesBy curve change) : ∃ depth ∈ drawdowns curve, depth ≤ change := by
  obtain ⟨i, j, earlier, later, before, first, second, positive, rfl⟩ := changes
  obtain ⟨highest, ⟨-, upper⟩, depth⟩ := getElem?_drawdowns second
  have listed : earlier ∈ curve.take (j + 1) := by
    have taken : (curve.take (j + 1))[i]? = some earlier := by
      rw [List.getElem?_take_of_lt (Nat.lt_succ_of_le before), first]
    exact List.mem_of_getElem? taken
  have above : earlier ≤ highest := upper listed
  refine ⟨_, List.mem_of_getElem? depth, ?_⟩
  rw [depthBelow, if_pos (lt_of_lt_of_le positive above)]
  exact change_le_change positive above (nonneg later (List.mem_of_getElem? second))

/-- One pass finds the lowest change between any two points. -/
theorem foldl_min_drawdowns_isLeast :
    IsLeast (insert 0 {change | ChangesBy curve change}) ((drawdowns curve).foldl min 0) := by
  obtain ⟨member, lower⟩ := isLeast_foldl_min (drawdowns curve) 0
  constructor
  · rcases member with zero | listed
    · exact .inl zero
    · exact depth_cases listed
  · rintro change (rfl | changes)
    · exact lower (.inl rfl)
    · obtain ⟨depth, listed, below⟩ := exists_depth_le nonneg changes
      exact le_trans (lower (.inr listed)) below

/-- A point loses all of its worth at most. -/
theorem ChangesBy.neg_one_le {change : K} (changes : ChangesBy curve change) : -1 ≤ change := by
  obtain ⟨i, j, earlier, later, -, -, second, positive, rfl⟩ := changes
  have left : 0 ≤ later := nonneg later (List.mem_of_getElem? second)
  rw [sub_div, div_self positive.ne', le_sub_iff_add_le, neg_add_cancel]
  exact div_nonneg left positive.le

/-- No change is negative just if no point is below an earlier one. -/
theorem forall_changesBy_nonneg_iff : (∀ change, ChangesBy curve change → 0 ≤ change) ↔ curve.Pairwise (· ≤ ·) := by
  rw [List.pairwise_iff_getElem]
  constructor
  · intro rises i j inside within before
    rcases lt_or_eq_of_le (nonneg curve[i] (List.getElem_mem inside)) with positive | zero
    · have changes : ChangesBy curve ((curve[j] - curve[i]) / curve[i]) :=
        ⟨i, j, curve[i], curve[j], before.le, List.getElem?_eq_getElem inside, List.getElem?_eq_getElem within,
          positive, rfl⟩
      have change := rises _ changes
      rw [le_div_iff₀ positive, zero_mul] at change
      exact sub_nonneg.1 change
    · exact zero ▸ nonneg curve[j] (List.getElem_mem within)
  · rintro rises change ⟨i, j, earlier, later, before, first, second, positive, rfl⟩
    obtain ⟨inside, rfl⟩ := List.getElem?_eq_some_iff.1 first
    obtain ⟨within, rfl⟩ := List.getElem?_eq_some_iff.1 second
    apply div_nonneg _ positive.le
    rcases Nat.eq_or_lt_of_le before with rfl | earlier
    · exact sub_nonneg.2 le_rfl
    · exact sub_nonneg.2 (rises i j inside within earlier)

omit [IsStrictOrderedRing K] nonneg in
theorem Performance.maxDrawdown_compute {trades : List (Trade K)} (traded : trades ≠ []) (initialCapital : K) :
    (compute trades curve initialCapital).maxDrawdown = 100 * (drawdowns curve).foldl min 0 := by
  rw [← maxDrawdown_eq, compute, if_neg (List.isEmpty_iff.not.2 traded)]

/-- In exact arithmetic and on a curve that is nowhere negative, the deepest drawdown is a hundred times the least of zero
and of the changes from a positive point to the same or a later one.  It is between -100 and 0, and it is 0 exactly if the
curve never falls below an earlier point. -/
theorem Performance.maxDrawdown_pairwise {trades : List (Trade K)} (traded : trades ≠ []) (initialCapital : K) :
    let deepest := (compute trades curve initialCapital).maxDrawdown
    (∃ lowest, IsLeast (insert 0 {change | ChangesBy curve change}) lowest ∧ deepest = 100 * lowest) ∧
      (-100 ≤ deepest ∧ deepest ≤ 0) ∧ (deepest = 0 ↔ curve.Pairwise (· ≤ ·)) := by
  intro deepest
  have computed : deepest = 100 * (drawdowns curve).foldl min 0 := maxDrawdown_compute traded initialCapital
  have least := foldl_min_drawdowns_isLeast nonneg
  have lower : -1 ≤ (drawdowns curve).foldl min 0 := by
    rcases least.1 with zero | changes
    · rw [zero]
      exact neg_nonpos.2 zero_le_one
    · exact changes.neg_one_le nonneg
  have upper : (drawdowns curve).foldl min 0 ≤ 0 := least.2 (.inl rfl)
  refine ⟨⟨_, least, computed⟩, ⟨by linarith, by linarith⟩, ?_⟩
  rw [computed, mul_eq_zero_iff_left (by norm_num), ← forall_changesBy_nonneg_iff nonneg]
  constructor
  · intro zero change changes
    rw [← zero]
    exact least.2 (.inr changes)
  · intro rises
    rcases least.1 with zero | changes
    · exact zero
    · exact le_antisymm upper (rises _ changes)

end Changes

section Trial

/-- A curve that begins at zero, falls by a tenth, and later falls by an eleventh from a point that it reached twice. -/
def slumpingCurve : List ℚ :=
  [0, 100, 110, 99, 121, 121, 110]

/-- A trade that gained a tenth. -/
def tenthGained : Trade ℚ :=
  ⟨⟨2016, 2, 1, by decide⟩, ⟨2016, 2, 2, by decide⟩, 100, 110, 1, 10, 10, .signal, 1⟩

/-- The deeper fall comes before the higher peak. -/
theorem slumpingCurve_maxDrawdown :
    let deepest := (Performance.compute [tenthGained] slumpingCurve 100).maxDrawdown
    (∀ point ∈ slumpingCurve, 0 ≤ point) ∧ [tenthGained] ≠ [] ∧ deepest = -10 ∧
      (∃ lowest, IsLeast (insert 0 {change | ChangesBy slumpingCurve change}) lowest ∧ deepest = 100 * lowest) ∧
      (-100 ≤ deepest ∧ deepest ≤ 0) ∧ ¬ slumpingCurve.Pairwise (· ≤ ·) := by
  intro deepest
  have nonneg : ∀ point ∈ slumpingCurve, 0 ≤ point := by
    decide
  have traded : [tenthGained] ≠ [] := List.cons_ne_nil _ _
  have value : deepest = -10 := by
    decide +kernel
  obtain ⟨least, bounds, rises⟩ := Performance.maxDrawdown_pairwise nonneg traded 100
  refine ⟨nonneg, traded, value, least, bounds, ?_⟩
  rw [← rises, show (Performance.compute [tenthGained] slumpingCurve 100).maxDrawdown = -10 from value]
  decide

end Trial

end PaperTrading
