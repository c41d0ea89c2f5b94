/-
Module: PaperTrading.Proofs.Study.StrengthHistory
Purpose: In exact arithmetic the strength index says whether the closes of a series have ever fallen and ever risen.
Main exports: MovedOn, FellOn, RoseOn, Reflects, Reflects.average, strengthFrom_reflects, strengthIndex_of_reflects,
  relativeStrength_of_history

The averages of gains and of losses begin as sums and shrink by a factor with every day that follows.  The factor is not
zero for a period of two days or more, so an average that once was positive stays so.
-/
import PaperTrading.Proofs.Study.Rendering
import PaperTrading.Proofs.Study.WarmUp

namespace PaperTrading

open Arithmetic (whole greater)

section Moves

variable {β : Type} {direction : β → β → Prop}

/-- The close of a day, and that of the day before it, are in a relation. -/
def MovedOn (direction : β → β → Prop) (closes : List β) : Nat → Prop
  | 0 => False
  | day + 1 => ∃ before close, closes[day]? = some before ∧ closes[day + 1]? = some close ∧ direction before close

theorem movedOn_one {before close : β} {rest : List β} :
    MovedOn direction (before :: close :: rest) 1 ↔ direction before close := by
  simp [MovedOn]

theorem movedOn_cons_succ {before : β} {closes : List β} {day : Nat} (later : 0 < day) :
    MovedOn direction (before :: closes) (day + 1) ↔ MovedOn direction closes day := by
  obtain ⟨day, rfl⟩ := Nat.exists_eq_succ_of_ne_zero later.ne'
  simp [MovedOn]

/-- Nothing has moved by the first day. -/
theorem not_exists_movedOn_zero (closes : List β) : ¬ ∃ day ≤ 0, MovedOn direction closes day := by
  rintro ⟨day, first, moved⟩
  obtain rfl := Nat.le_zero.1 first
  exact moved

/-- The first move of a series, or one after it. -/
theorem exists_movedOn_cons {before close : β} {rest : List β} {last : Nat} :
    (∃ day ≤ last + 1, MovedOn direction (before :: close :: rest) day) ↔
      direction before close ∨ ∃ day ≤ last, MovedOn direction (close :: rest) day := by
  constructor
  · rintro ⟨day, within, moved⟩
    obtain rfl | rfl | ⟨day, rfl⟩ : day = 0 ∨ day = 1 ∨ ∃ earlier, day = earlier + 2 := by
      obtain _ | _ | day := day <;> simp
    · exact moved.elim
    · exact .inl (movedOn_one.1 moved)
    · exact .inr ⟨day + 1, Nat.le_of_succ_le_succ within, (movedOn_cons_succ day.succ_pos).1 moved⟩
  · rintro (first | ⟨day, within, moved⟩)
    · exact ⟨1, Nat.succ_le_succ (Nat.zero_le last), movedOn_one.2 first⟩
    · obtain rfl | positive := Nat.eq_zero_or_pos day
      · exact moved.elim
      · exact ⟨day + 1, Nat.succ_le_succ within, (movedOn_cons_succ positive).2 moved⟩

end Moves

variable {K : Type} [LinearOrder K] [ExactArithmetic K]

/-- The close of a day is below that of the day before. -/
def FellOn (closes : List K) (day : Nat) : Prop :=
  MovedOn (fun before close => close < before) closes day

/-- The close of a day is above that of the day before. -/
def RoseOn (closes : List K) (day : Nat) : Prop :=
  MovedOn (fun before close => before < close) closes day

/-- An amount that is never negative, and zero as long as something was not seen. -/
structure Reflects (seen : Prop) (amount : K) : Prop where
  nonneg : 0 ≤ amount
  eq_zero_iff : amount = 0 ↔ ¬ seen

namespace Reflects

variable {seen other : Prop} {amount change : K}

theorem pos_iff (reflects : Reflects seen amount) : 0 < amount ↔ seen := by
  rw [reflects.nonneg.lt_iff_ne', ne_eq, reflects.eq_zero_iff, not_not]

theorem nothing : Reflects False (0 : K) :=
  ⟨le_rfl, by simp⟩

variable [IsStrictOrderedRing K]

/-- The part of a change that goes in one direction. -/
theorem part (low high : K) : Reflects (low < high) (greater (high - low) (whole 0)) where
  nonneg := part_of_change_nonneg _
  eq_zero_iff := by
    rw [ExactArithmetic.greater_eq_max, ExactArithmetic.whole_zero, max_eq_right_iff, sub_nonpos, not_lt]

theorem add (one : Reflects seen amount) (two : Reflects other change) : Reflects (seen ∨ other) (amount + change) where
  nonneg := add_nonneg one.nonneg two.nonneg
  eq_zero_iff := by
    rw [add_eq_zero_iff_of_nonneg one.nonneg two.nonneg, one.eq_zero_iff, two.eq_zero_iff, not_or]

theorem mul {factor : K} (positive : 0 < factor) (reflects : Reflects seen amount) :
    Reflects seen (amount * factor) where
  nonneg := mul_nonneg reflects.nonneg positive.le
  eq_zero_iff := by
    rw [mul_eq_zero_iff_right positive.ne', reflects.eq_zero_iff]

theorem div {divisor : K} (positive : 0 < divisor) (reflects : Reflects seen amount) :
    Reflects seen (amount / divisor) where
  nonneg := div_nonneg reflects.nonneg positive.le
  eq_zero_iff := by
    rw [div_eq_zero_iff, or_iff_left positive.ne', reflects.eq_zero_iff]

/-- The first average and every later one keep what was seen before, and see what is new. -/
theorem average {period : Nat} (long : 2 ≤ period) (number : Nat) (before : Reflects seen amount)
    (now : Reflects other change) :
    Reflects (seen ∨ other)
      (if number = period then (amount + change) / whole period
        else (amount * whole (period - 1) + change) / whole period) := by
  have count : ∀ n : Nat, 0 < n → (0 : K) < whole n := by
    intro n positive
    rw [ExactArithmetic.whole_eq_cast]
    exact Nat.cast_pos.2 positive
  have all : (0 : K) < whole period := count period (by omega)
  split
  · exact (before.add now).div all
  · exact ((before.mul (count (period - 1) (by omega))).add now).div all

end Reflects

section Index

variable [IsStrictOrderedRing K] {risen fallen : Prop} {gain loss : K}

omit [IsStrictOrderedRing K] in
/-- Without a loss there is no index, with one there is. -/
theorem strengthIndex_isSome_iff (losses : Reflects fallen loss) :
    (strengthIndex gain loss).isSome = true ↔ fallen := by
  rw [← not_iff_not, ← losses.eq_zero_iff, strengthIndex]
  split
  case isTrue zero =>
    rw [ExactArithmetic.beq_iff, ExactArithmetic.whole_zero] at zero
    simp [zero]
  case isFalse some =>
    rw [ExactArithmetic.beq_iff, ExactArithmetic.whole_zero] at some
    simp [some]

/-- An index is at least zero, and zero only without a gain, and it is below one hundred. -/
theorem strengthIndex_range (gains : Reflects risen gain) (losses : Reflects fallen loss) {reading : K}
    (defined : strengthIndex gain loss = some reading) :
    0 ≤ reading ∧ reading < 100 ∧ (reading = 0 ↔ ¬ risen) := by
  have seen : fallen := (strengthIndex_isSome_iff losses).1 (Option.isSome_iff_exists.2 ⟨reading, defined⟩)
  have ratio : Reflects risen (gain / loss) := gains.div (losses.pos_iff.2 seen)
  have divisor : 0 < 1 + gain / loss := add_pos_of_pos_of_nonneg one_pos ratio.nonneg
  have index : reading = 100 * (gain / loss / (1 + gain / loss)) := by
    rw [strengthIndex] at defined
    split at defined
    case isTrue => cases defined
    case isFalse =>
      have value := (Option.some.inj defined).symm
      simp only [ExactArithmetic.whole_eq_cast, Nat.cast_ofNat, Nat.cast_one] at value
      rw [value, mul_div_assoc', eq_div_iff divisor.ne', sub_mul, div_mul_cancel₀ _ divisor.ne']
      ring
  have share : Reflects risen (gain / loss / (1 + gain / loss)) := ratio.div divisor
  have part : gain / loss / (1 + gain / loss) < 1 := (div_lt_one divisor).2 (lt_one_add _)
  have hundred : (0 : K) < 100 := by
    norm_num
  refine ⟨?_, ?_, ?_⟩
  · rw [index]
    exact mul_nonneg hundred.le share.nonneg
  · rw [index]
    exact mul_lt_of_lt_one_right hundred part
  · rw [index, mul_eq_zero_iff_left hundred.ne', share.eq_zero_iff]

end Index

section Readings

variable [IsStrictOrderedRing K] {period changes index : Nat} {risen fallen : Prop} {gain loss : K}

/-- A day makes two new amounts, of which one has seen what it gained and the other what it lost. -/
theorem strengthFrom_step (long : 2 ≤ period) (changes : Nat) (gains : Reflects risen gain)
    (losses : Reflects fallen loss) (previous close : K) (rest : List K) :
    ∃ nextGain nextLoss : K, Reflects (risen ∨ previous < close) nextGain ∧
      Reflects (fallen ∨ close < previous) nextLoss ∧
      strengthFrom period changes gain loss previous (close :: rest) =
        (if changes + 1 < period then none else strengthIndex nextGain nextLoss) ::
          strengthFrom period (changes + 1) nextGain nextLoss close rest := by
  have rise := Reflects.part previous close
  have fall := Reflects.part close previous
  rw [strengthFrom, neg_sub]
  by_cases early : changes + 1 < period
  · exact ⟨_, _, gains.add rise, losses.add fall, by rw [if_pos early, if_pos early]⟩
  · exact ⟨_, _, gains.average long (changes + 1) rise, losses.average long (changes + 1) fall,
      by rw [if_neg early, if_neg early]⟩

/-- Over a period of at least two days the two averages have seen every day up to their own. -/
theorem strengthFrom_reflects (long : 2 ≤ period) (changes : Nat) (gains : Reflects risen gain)
    (losses : Reflects fallen loss) (previous : K) (closes : List K) (inside : index < closes.length) :
    ∃ averageGain averageLoss : K,
      Reflects (risen ∨ ∃ day ≤ index + 1, RoseOn (previous :: closes) day) averageGain ∧
      Reflects (fallen ∨ ∃ day ≤ index + 1, FellOn (previous :: closes) day) averageLoss ∧
      (strengthFrom period changes gain loss previous closes)[index]? =
        some (if changes + index + 1 < period then none else strengthIndex averageGain averageLoss) := by
  induction closes generalizing changes risen fallen gain loss previous index with
  | nil => exact absurd inside (Nat.not_lt_zero index)
  | cons close rest ih =>
      obtain ⟨nextGain, nextLoss, nextGains, nextLosses, step⟩ :=
        strengthFrom_step long changes gains losses previous close rest
      simp only [step, RoseOn, FellOn, exists_movedOn_cons, ← or_assoc]
      cases index with
      | zero =>
          simp only [not_exists_movedOn_zero, or_false]
          exact ⟨nextGain, nextLoss, nextGains, nextLosses, rfl⟩
      | succ index =>
          obtain ⟨averageGain, averageLoss, averageGains, averageLosses, reading⟩ :=
            ih (changes + 1) nextGains nextLosses close (Nat.lt_of_succ_lt_succ inside)
          have number : changes + 1 + index + 1 = changes + (index + 1) + 1 := by
            omega
          rw [number] at reading
          exact ⟨averageGain, averageLoss, averageGains, averageLosses, reading⟩

omit [IsStrictOrderedRing K] in
/-- A period of one day forgets everything before. -/
theorem strengthFrom_one_step (fresh : changes = 0 → gain = 0 ∧ loss = 0) (previous close : K) (rest : List K) :
    strengthFrom 1 changes gain loss previous (close :: rest) =
      strengthIndex (greater (close - previous) (whole 0)) (greater (previous - close) (whole 0)) ::
        strengthFrom 1 (changes + 1) (greater (close - previous) (whole 0)) (greater (previous - close) (whole 0)) close
          rest := by
  have forgets : ∀ amount change : K, (changes = 0 → amount = 0) →
      (if changes + 1 = 1 then (amount + change) / whole 1
        else (amount * whole (1 - 1) + change) / whole 1) = change := by
    intro amount change start
    rw [ExactArithmetic.whole_eq_cast 1, Nat.cast_one, div_one, div_one, Nat.sub_self, ExactArithmetic.whole_zero,
      mul_zero, zero_add]
    split
    case isTrue first => rw [start (Nat.succ.inj first), zero_add]
    case isFalse => rfl
  have counted : ¬ changes + 1 < 1 := Nat.not_lt.2 (Nat.le_add_left 1 changes)
  rw [strengthFrom, neg_sub, if_neg counted]
  simp only [forgets _ _ fun first => (fresh first).1, forgets _ _ fun first => (fresh first).2]

/-- Over a period of one day the two averages have seen the last day only. -/
theorem strengthFrom_one_reflects (fresh : changes = 0 → gain = 0 ∧ loss = 0) (previous : K) (closes : List K)
    (inside : index < closes.length) :
    ∃ averageGain averageLoss : K, Reflects (RoseOn (previous :: closes) (index + 1)) averageGain ∧
      Reflects (FellOn (previous :: closes) (index + 1)) averageLoss ∧
      (strengthFrom 1 changes gain loss previous closes)[index]? = some (strengthIndex averageGain averageLoss) := by
  induction closes generalizing changes gain loss previous index with
  | nil => exact absurd inside (Nat.not_lt_zero index)
  | cons close rest ih =>
      rw [strengthFrom_one_step fresh]
      cases index with
      | zero =>
          simp only [RoseOn, FellOn, Nat.zero_add, movedOn_one]
          exact ⟨_, _, .part previous close, .part close previous, rfl⟩
      | succ index =>
          simp only [RoseOn, FellOn, movedOn_cons_succ index.succ_pos]
          exact ih (fun none => absurd none changes.succ_ne_zero) close (Nat.lt_of_succ_lt_succ inside)

end Readings

section History

variable [IsStrictOrderedRing K] {period index : Nat} {closes : List K}

/-- Every reading over a period of at least two days is the index of two amounts that have seen all days up to it. -/
theorem relativeStrength_reflects (long : 2 ≤ period) (inside : index < closes.length) :
    ∃ averageGain averageLoss : K, Reflects (∃ day ≤ index, RoseOn closes day) averageGain ∧
      Reflects (∃ day ≤ index, FellOn closes day) averageLoss ∧
      (relativeStrength period closes)[index]? =
        some (if index < period then none else strengthIndex averageGain averageLoss) := by
  have positive : period ≠ 0 := by
    omega
  obtain _ | ⟨first, rest⟩ := closes
  · exact absurd inside (Nat.not_lt_zero index)
  · rw [relativeStrength, if_neg positive, ExactArithmetic.whole_zero]
    cases index with
    | zero =>
        have early : 0 < period := Nat.pos_of_ne_zero positive
        simp only [RoseOn, FellOn, not_exists_movedOn_zero, if_pos early]
        exact ⟨0, 0, .nothing, .nothing, rfl⟩
    | succ index =>
        have seen := strengthFrom_reflects long 0 .nothing .nothing first rest (Nat.lt_of_succ_lt_succ inside)
        simpa only [false_or, Nat.zero_add, List.getElem?_cons_succ] using seen

/-- Every reading over a period of one day is the index of two amounts that have seen that day. -/
theorem relativeStrength_one_reflects (later : 0 < index) (inside : index < closes.length) :
    ∃ averageGain averageLoss : K, Reflects (RoseOn closes index) averageGain ∧
      Reflects (FellOn closes index) averageLoss ∧
      (relativeStrength 1 closes)[index]? = some (strengthIndex averageGain averageLoss) := by
  obtain _ | ⟨first, rest⟩ := closes
  · exact absurd inside (Nat.not_lt_zero index)
  · obtain ⟨index, rfl⟩ := Nat.exists_eq_succ_of_ne_zero later.ne'
    rw [relativeStrength, if_neg Nat.one_ne_zero, ExactArithmetic.whole_zero]
    exact strengthFrom_one_reflects (fun _ => ⟨rfl, rfl⟩) first rest (Nat.lt_of_succ_lt_succ inside)

/-- Over a period of at least two days, the index is defined on a day from the end of the period on exactly if the close
has fallen on that day or on one before it.  A reading is at least zero and below one hundred, and zero exactly if the
close has never risen up to that day.  Over a period of one day the index is defined where the close falls. -/
theorem relativeStrength_of_history (closes : List K) {index : Nat} (inside : index < closes.length) :
    (∀ period, 2 ≤ period →
      (DefinedAt (relativeStrength period closes) index ↔ period ≤ index ∧ ∃ day ≤ index, FellOn closes day) ∧
      ∀ reading, (relativeStrength period closes)[index]? = some (some reading) →
        0 ≤ reading ∧ reading < 100 ∧ (reading = 0 ↔ ¬ ∃ day ≤ index, RoseOn closes day)) ∧
    (DefinedAt (relativeStrength 1 closes) index ↔ 1 ≤ index ∧ FellOn closes index) := by
  constructor
  · intro period long
    obtain ⟨averageGain, averageLoss, gains, losses, known⟩ := relativeStrength_reflects long inside
    rw [definedAt_of_getElem? known]
    by_cases early : index < period
    · rw [if_pos early] at known ⊢
      refine ⟨⟨fun defined => (nomatch defined), fun late => absurd late.1 early.not_ge⟩, fun reading here => ?_⟩
      rw [known] at here
      exact nomatch here
    · rw [if_neg early] at known ⊢
      rw [strengthIndex_isSome_iff losses, and_iff_right (Nat.le_of_not_lt early)]
      refine ⟨Iff.rfl, fun reading here => ?_⟩
      rw [known] at here
      exact strengthIndex_range gains losses (Option.some.inj here)
  · obtain rfl | later := Nat.eq_zero_or_pos index
    · obtain _ | ⟨first, rest⟩ := closes
      · exact absurd inside (Nat.not_lt_zero 0)
      · simp [relativeStrength]
    · obtain ⟨averageGain, averageLoss, -, losses, known⟩ := relativeStrength_one_reflects later inside
      rw [definedAt_of_getElem? known, strengthIndex_isSome_iff losses]
      exact (and_iff_right later).symm

/-- Closes that rise, fall, stay and rise again.  Over two days the fall is seen from then on, over one day only where
it is. -/
theorem relativeStrength_of_five_closes :
    let closes : List ℚ := [10, 12, 11, 11, 15]
    DefinedAt (relativeStrength 2 closes) 3 ∧ (relativeStrength 2 closes)[4]? = some (some (1800 / 19)) ∧
      (∃ day ≤ 4, RoseOn closes day) ∧ DefinedAt (relativeStrength 1 closes) 2 ∧
      ¬ DefinedAt (relativeStrength 1 closes) 3 := by
  intro closes
  have fell : FellOn closes 2 := ⟨12, 11, rfl, rfl, by norm_num⟩
  have stayed : ¬ FellOn closes 3 := by
    rintro ⟨before, close, here, next, lower⟩
    obtain rfl := Option.some.inj here
    obtain rfl := Option.some.inj next
    exact lt_irrefl _ lower
  have value : (relativeStrength 2 closes)[4]? = some (some (1800 / 19)) := by
    decide +kernel
  obtain ⟨-, one⟩ := relativeStrength_of_history closes (by decide : 2 < closes.length)
  obtain ⟨two, other⟩ := relativeStrength_of_history closes (by decide : 3 < closes.length)
  obtain ⟨later, -⟩ := relativeStrength_of_history closes (by decide : 4 < closes.length)
  obtain ⟨-, -, zero⟩ := (later 2 le_rfl).2 _ value
  have risen : ∃ day ≤ 4, RoseOn closes day := by
    by_contra never
    exact absurd (zero.2 never) (by norm_num)
  exact ⟨(two 2 le_rfl).1.2 ⟨by decide, 2, by decide, fell⟩, value, risen, one.2 ⟨by decide, fell⟩,
    fun defined => stayed (other.1 defined).2⟩

end History

end PaperTrading
