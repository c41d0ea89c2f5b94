/-
Module: PaperTrading.Proofs.Text.Runs
Purpose: Runs of characters of one class at the head of a text.
Main exports: StopsBefore, takeWhile_run, dropWhile_run, eq_run_append_iff, stopsBefore_dropWhile,
  trimStart_of_stops, isBlank_of_visible, forall_ascii
-/
import PaperTrading.Text.Blank

namespace PaperTrading.Text

/-- A run of characters of a class stops before this text: the text is empty or starts with another
character. -/
def StopsBefore (inClass : Char → Bool) (rest : List Char) : Prop :=
  ∀ c ∈ rest.head?, inClass c = false

@[simp] theorem stopsBefore_nil (inClass : Char → Bool) : StopsBefore inClass [] := by
  simp [StopsBefore]

@[simp] theorem stopsBefore_cons (inClass : Char → Bool) (c : Char) (rest : List Char) :
    StopsBefore inClass (c :: rest) ↔ inClass c = false := by
  simp [StopsBefore]

theorem StopsBefore.of_append {inClass : Char → Bool} {run rest : List Char} (stops : StopsBefore inClass (run ++ rest)) :
    StopsBefore inClass run := by
  intro c head
  refine stops c ?_
  rw [List.head?_append, Option.mem_def.1 head]
  rfl

section Decisions

variable {p : Char → Prop} [DecidablePred p] (text : List Char)

-- Of a text only its own characters are looked at, not every character there is.
instance decidableAllChars : Decidable (∀ c ∈ text, p c) :=
  List.decidableBAll p text

instance decidableAnyChar : Decidable (∃ c ∈ text, p c) :=
  List.decidableBEx p text

end Decisions

variable {inClass : Char → Bool} {run rest : List Char}

theorem takeWhile_of_stops (stops : StopsBefore inClass rest) : rest.takeWhile inClass = [] := by
  cases rest with
  | nil => rfl
  | cons c rest =>
      have outside := (stopsBefore_cons inClass c rest).1 stops
      simp [outside]

theorem dropWhile_of_stops (stops : StopsBefore inClass rest) : rest.dropWhile inClass = rest := by
  cases rest with
  | nil => rfl
  | cons c rest =>
      have outside := (stopsBefore_cons inClass c rest).1 stops
      simp [outside]

theorem takeWhile_run (inside : ∀ c ∈ run, inClass c = true) (stops : StopsBefore inClass rest) :
    (run ++ rest).takeWhile inClass = run := by
  rw [List.takeWhile_append_of_pos inside, takeWhile_of_stops stops, List.append_nil]

theorem dropWhile_run (inside : ∀ c ∈ run, inClass c = true) (stops : StopsBefore inClass rest) :
    (run ++ rest).dropWhile inClass = rest := by
  rw [List.dropWhile_append_of_pos inside, dropWhile_of_stops stops]

/-- A text that starts with a run of a class and then a character outside it. -/
theorem eq_run_append_iff {text : List Char} {c : Char} (inside : ∀ c ∈ run, inClass c = true)
    (outside : inClass c = false) :
    text = run ++ c :: rest ↔ text.takeWhile inClass = run ∧ text.dropWhile inClass = c :: rest := by
  constructor
  · rintro rfl
    have stops : StopsBefore inClass (c :: rest) := (stopsBefore_cons inClass c rest).2 outside
    exact ⟨takeWhile_run inside stops, dropWhile_run inside stops⟩
  · rintro ⟨start, later⟩
    rw [← start, ← later, List.takeWhile_append_dropWhile]

theorem mem_takeWhile {text : List Char} {c : Char} (member : c ∈ text.takeWhile inClass) : inClass c = true :=
  List.all_eq_true.1 List.all_takeWhile c member

theorem stopsBefore_dropWhile (inClass : Char → Bool) (text : List Char) :
    StopsBefore inClass (text.dropWhile inClass) := by
  intro c head
  have outside := List.head?_dropWhile_not inClass text
  rw [Option.mem_def.1 head] at outside
  exact outside

theorem trimStart_of_stops (stops : StopsBefore isBlank rest) : trimStart rest = rest :=
  dropWhile_of_stops stops

theorem trimStart_cons_of_not_blank {c : Char} (visible : isBlank c = false) (rest : List Char) :
    trimStart (c :: rest) = c :: rest :=
  trimStart_of_stops ((stopsBefore_cons isBlank c rest).2 visible)

theorem trimStart_cons_space (rest : List Char) : trimStart (' ' :: rest) = trimStart rest := by
  have blank : isBlank ' ' = true := by decide
  simp [trimStart, blank]

/-- No character of seven bits after the space is blank. -/
theorem isBlank_of_visible {c : Char} (low : 32 < c.toNat) (high : c.toNat < 128) : isBlank c = false := by
  have space : c ≠ ' ' := by
    rintro rfl
    simp at low
  simp [isBlank, space]
  omega

theorem isBlank_of_isDigit {c : Char} (digit : c.isDigit = true) : isBlank c = false := by
  obtain ⟨low, high⟩ := Char.isDigit_iff_toNat.1 digit
  exact isBlank_of_visible (Nat.lt_of_lt_of_le (by decide) low) (Nat.lt_of_le_of_lt high (by decide))

/-- What holds of the characters of seven bits one by one holds of each of them. -/
theorem forall_ascii (p : Char → Prop) (every : ∀ code < 128, p (Char.ofNat code)) {c : Char}
    (ascii : c.toNat < 128) : p c := by
  have found := every c.toNat ascii
  rwa [Char.ofNat_toNat] at found

end PaperTrading.Text
