/-
Module: PaperTrading.Proofs.Study.WarmUp
Purpose: From which value of its series on a study has readings, in any arithmetic.
Main exports: DefinedAt, CountsSeen, rollingMean_definedAt, exponentialAverage_definedAt, averageOfDefined_definedAt,
  convergence_definedAt, bands_definedAt

A study of one window has a reading wherever the window is full.  An average of a series that is itself undefined at
first counts its window from where that series begins.
-/
import PaperTrading.Proofs.Study.Causality

namespace PaperTrading

section Readings

variable {β γ δ : Type}

/-- There is a reading at an index. -/
def DefinedAt (readings : List (Option β)) (index : Nat) : Prop :=
  ∃ reading, readings[index]? = some (some reading)

theorem definedAt_iff_isSome_join {readings : List (Option β)} {index : Nat} :
    DefinedAt readings index ↔ readings[index]?.join.isSome = true := by
  rw [DefinedAt, Option.isSome_iff_exists]
  simp only [Option.join_eq_some_iff]

theorem definedAt_of_getElem? {readings : List (Option β)} {index : Nat} {entry : Option β}
    (here : readings[index]? = some entry) : DefinedAt readings index ↔ entry.isSome = true := by
  rw [definedAt_iff_isSome_join, here, Option.join_some]

/-- Within a study, what is not a reading is an undefined one. -/
theorem getElem?_eq_some_none_iff {readings : List (Option β)} {index : Nat} (inside : index < readings.length) :
    readings[index]? = some none ↔ ¬ DefinedAt readings index := by
  rw [DefinedAt, List.getElem?_eq_getElem inside]
  cases readings[index] with
  | none => simp
  | some reading => simp

@[simp] theorem not_definedAt_nil (index : Nat) : ¬ DefinedAt ([] : List (Option β)) index := by
  simp [DefinedAt]

@[simp] theorem definedAt_cons_zero (reading : Option β) (later : List (Option β)) :
    DefinedAt (reading :: later) 0 ↔ reading.isSome = true := by
  simp [DefinedAt, Option.isSome_iff_exists]

@[simp] theorem definedAt_cons_succ (reading : Option β) (later : List (Option β)) (index : Nat) :
    DefinedAt (reading :: later) (index + 1) ↔ DefinedAt later index := by
  simp [DefinedAt]

theorem not_definedAt_map_none (values : List β) (index : Nat) :
    ¬ DefinedAt (values.map fun _ => (none : Option γ)) index := by
  rintro ⟨reading, here⟩
  rw [List.getElem?_map] at here
  obtain ⟨value, -, defined⟩ := Option.map_eq_some_iff.1 here
  exact nomatch defined

/-- What needs both of two readings is defined where both are. -/
theorem definedAt_zipWith {f : Option β → Option γ → Option δ}
    (both : ∀ one two, (f one two).isSome = true ↔ one.isSome = true ∧ two.isSome = true)
    (first : List (Option β)) (second : List (Option γ)) (index : Nat) :
    DefinedAt (List.zipWith f first second) index ↔ DefinedAt first index ∧ DefinedAt second index := by
  simp only [definedAt_iff_isSome_join, List.getElem?_zipWith]
  cases first[index]? with
  | none => simp
  | some one =>
      cases second[index]? with
      | none => simp
      | some two => simpa using both one two

end Readings

section Passes

variable {β γ σ : Type}

/-- A pass over a series makes an entry for each value, and the entry is a reading if enough values have been seen by
then. -/
structure CountsSeen (run : Nat → σ → List β → List (Option γ)) (enough : Nat → Prop) : Prop where
  nil : ∀ seen state, run seen state [] = []
  cons : ∀ seen state value rest, ∃ entry next,
    run seen state (value :: rest) = entry :: run (seen + 1) next rest ∧ (entry.isSome = true ↔ enough (seen + 1))

namespace CountsSeen

variable {run : Nat → σ → List β → List (Option γ)} {enough : Nat → Prop}

theorem length_eq (counts : CountsSeen run enough) (seen : Nat) (state : σ) (values : List β) :
    (run seen state values).length = values.length := by
  induction values generalizing seen state with
  | nil => rw [counts.nil, List.length_nil, List.length_nil]
  | cons value rest ih =>
      obtain ⟨entry, next, step, -⟩ := counts.cons seen state value rest
      rw [step, List.length_cons, List.length_cons, ih]

theorem definedAt_iff (counts : CountsSeen run enough) (seen : Nat) (state : σ) (values : List β) (index : Nat) :
    DefinedAt (run seen state values) index ↔ index < values.length ∧ enough (seen + index + 1) := by
  induction values generalizing seen state index with
  | nil => simp [counts.nil]
  | cons value rest ih =>
      obtain ⟨entry, next, step, reading⟩ := counts.cons seen state value rest
      rw [step]
      cases index with
      | zero =>
          rw [definedAt_cons_zero, reading, Nat.add_zero, List.length_cons]
          exact (and_iff_right rest.length.succ_pos).symm
      | succ index =>
          rw [definedAt_cons_succ, ih, List.length_cons, Nat.succ_lt_succ_iff, Nat.add_right_comm seen 1 index,
            Nat.add_assoc seen index 1]

end CountsSeen

end Passes

variable {α : Type} [Arithmetic α]

section Averages

/-- A moving average has a reading as soon as its window is full; what its running sum is does not matter. -/
theorem rollingMeanFrom_countsSeen (period : Nat) :
    CountsSeen (fun seen (state : α × List α) => rollingMeanFrom period seen state.1 state.2)
      fun seen => 0 < period ∧ period ≤ seen where
  nil _ _ := rfl
  cons seen state value rest := by
    have step : ∃ sum leaving, rollingMeanFrom period seen state.1 state.2 (value :: rest) =
        (if (0 < period && period ≤ seen + 1) = true then some (sum / Arithmetic.whole period) else none) ::
          rollingMeanFrom period (seen + 1) sum leaving rest := ⟨_, _, rfl⟩
    obtain ⟨sum, leaving, step⟩ := step
    exact ⟨_, (sum, leaving), step, by simp⟩

theorem rollingMean_definedAt (period : Nat) (values : List α) (index : Nat) :
    DefinedAt (rollingMean period values) index ↔ index < values.length ∧ 0 < period ∧ period ≤ index + 1 := by
  have readings := (rollingMeanFrom_countsSeen (α := α) period).definedAt_iff 0 (Arithmetic.whole 0, values) values index
  rwa [Nat.zero_add] at readings

/-- An exponential average has a reading as soon as the window that it starts from is full. -/
theorem exponentialFrom_countsSeen (period : Nat) (weight : α) :
    CountsSeen (exponentialFrom period weight) fun seen => period ≤ seen where
  nil _ _ := rfl
  cons seen level value rest := by
    rw [exponentialFrom]
    split
    case isTrue early => exact ⟨none, _, rfl, by simpa using early⟩
    case isFalse full => exact ⟨some _, _, rfl, by simpa using full⟩

theorem exponentialAverage_definedAt (period : Nat) (values : List α) (index : Nat) :
    DefinedAt (exponentialAverage period values) index ↔
      index < values.length ∧ 0 < period ∧ period ≤ index + 1 := by
  rw [exponentialAverage]
  split
  case isTrue never =>
    exact iff_of_false (not_definedAt_map_none values index) fun full => absurd never (Nat.ne_of_gt full.2.1)
  case isFalse positive =>
    rw [(exponentialFrom_countsSeen period _).definedAt_iff, Nat.zero_add, and_iff_right (Nat.pos_of_ne_zero positive)]

theorem length_exponentialAverage (period : Nat) (values : List α) :
    (exponentialAverage period values).length = values.length := by
  rw [exponentialAverage]
  split
  · exact List.length_map _
  · exact (exponentialFrom_countsSeen period _).length_eq ..

end Averages

section Convergence

/-- The average of a series that is undefined up to some index counts its period from there. -/
theorem averageOfDefined_definedAt (period : Nat) {start : Nat} {line : List (Option α)}
    (defined : ∀ index, DefinedAt line index ↔ index < line.length ∧ start ≤ index) (index : Nat) :
    DefinedAt (averageOfDefined period line) index ↔
      index < line.length ∧ 0 < period ∧ start + period ≤ index + 1 := by
  induction line generalizing start index with
  | nil => simp [averageOfDefined, exponentialAverage_nil]
  | cons entry rest ih =>
      have now := defined 0
      have next := fun index => defined (index + 1)
      simp only [definedAt_cons_zero, List.length_cons] at now
      simp only [definedAt_cons_succ, List.length_cons] at next
      cases entry with
      | none =>
          have late : 0 < start := by
            simpa [Nat.pos_iff_ne_zero] using now
          have shifted : ∀ index, DefinedAt rest index ↔ index < rest.length ∧ start - 1 ≤ index := by
            intro index
            rw [next]
            omega
          rw [averageOfDefined_none_cons]
          cases index with
          | zero =>
              simp only [definedAt_cons_zero, Option.isSome_none, List.length_cons, Bool.false_eq_true, false_iff]
              omega
          | succ index =>
              rw [definedAt_cons_succ, ih shifted, List.length_cons]
              omega
      | some value =>
          have immediately : start = 0 := by
            simpa using now
          rw [averageOfDefined_some_cons, exponentialAverage_definedAt, List.length_cons, List.length_map,
            List.length_cons, immediately, Nat.zero_add]

/-- The line of gaps is defined where both averages are. -/
theorem averageGaps_definedAt (fast slow : Nat) (closes : List α) (index : Nat) :
    DefinedAt (List.zipWith averageGap (exponentialAverage fast closes) (exponentialAverage slow closes)) index ↔
      index < closes.length ∧ 0 < fast ∧ 0 < slow ∧ max fast slow ≤ index + 1 := by
  have both : ∀ one two : Option α, (averageGap one two).isSome = true ↔ one.isSome = true ∧ two.isSome = true := by
    intro one two
    cases one <;> cases two <;> simp [averageGap]
  rw [definedAt_zipWith both, exponentialAverage_definedAt, exponentialAverage_definedAt]
  omega

/-- The convergence has a reading once the slower of the two averages has as many readings as its own average needs. -/
theorem convergence_definedAt (fast slow signal : Nat) (closes : List α) (index : Nat) :
    DefinedAt (convergence fast slow signal closes) index ↔
      index < closes.length ∧ 0 < fast ∧ 0 < slow ∧ 0 < signal ∧ max fast slow - 1 + signal - 1 ≤ index := by
  have both : ∀ gap average : Option α,
      ((gap.bind fun l => average.map fun s => (⟨l, s, l - s⟩ : Convergence α)).isSome = true ↔
        gap.isSome = true ∧ average.isSome = true) := by
    intro gap average
    cases gap <;> cases average <;> simp
  have gaps := averageGaps_definedAt fast slow closes
  have length : (List.zipWith averageGap (exponentialAverage fast closes)
      (exponentialAverage slow closes)).length = closes.length := by
    rw [List.length_zipWith, length_exponentialAverage, length_exponentialAverage, Nat.min_self]
  rw [convergence, definedAt_zipWith both, gaps]
  generalize List.zipWith averageGap (exponentialAverage fast closes) (exponentialAverage slow closes) = line
    at gaps length ⊢
  -- Without a period of zero the gaps begin with the slower average; with one there are none, and no readings.
  by_cases positive : 0 < fast ∧ 0 < slow
  · have start : ∀ index, DefinedAt line index ↔ index < line.length ∧ max fast slow - 1 ≤ index := by
      intro index
      rw [gaps, length]
      omega
    rw [averageOfDefined_definedAt signal start, length]
    omega
  · constructor
    · rintro ⟨⟨-, one, two, -⟩, -⟩
      exact absurd ⟨one, two⟩ positive
    · rintro ⟨-, one, two, -⟩
      exact absurd ⟨one, two⟩ positive

end Convergence

section Bands

/-- Bands have a reading as soon as their window is full. -/
theorem bands_definedAt (period hundredths : Nat) (closes : List α) (index : Nat) :
    DefinedAt (bands period hundredths closes) index ↔ index < closes.length ∧ 0 < period ∧ period ≤ index + 1 := by
  rw [definedAt_iff_isSome_join, bands, List.getElem?_map]
  by_cases inside : index < closes.length
  · rw [List.getElem?_range inside]
    simp [inside]
  · rw [List.getElem?_eq_none (by simpa using inside)]
    simp [inside]

end Bands

end PaperTrading
