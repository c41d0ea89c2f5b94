/-
Module: PaperTrading.Proofs.Decimal.ReadBack
Purpose: Numerals are read back from their text, and so are the numbers that have one.
Main exports: Numeral.spelling_chars, ReadsBack, readNumber_chars
-/
import PaperTrading.Proofs.Decimal.Spelling

namespace PaperTrading

open Text (StopsBefore)

namespace Numeral

theorem digitsValue_eq_ofDigitChars (digits : List Char) :
    digitsValue digits = Nat.ofDigitChars 10 digits 0 := by
  simp only [digitsValue, Nat.ofDigitChars]
  congr 1
  funext value digit
  rw [Nat.mul_comm]
  rfl

theorem digitsValue_toDigits (n : Nat) : digitsValue (Nat.toDigits 10 n) = n := by
  rw [digitsValue_eq_ofDigitChars, Nat.ofDigitChars_ten_toDigits]

theorem digitsValue_zeros_append (count : Nat) (digits : List Char) :
    digitsValue (List.replicate count '0' ++ digits) = digitsValue digits := by
  induction count with
  | zero => rfl
  | succ count ih => simpa [digitsValue, List.replicate_succ] using ih

theorem isDigit_of_mem_toDigits {n : Nat} {c : Char} (member : c ∈ Nat.toDigits 10 n) :
    c.isDigit = true :=
  Nat.isDigit_of_mem_toDigits (by decide) (by decide) member

theorem digitsValue_digits (n : Numeral) : digitsValue n.digits = n.coefficient := by
  rw [digits, digitsValue_zeros_append, digitsValue_toDigits]

theorem isDigit_of_mem_digits {n : Numeral} {c : Char} (member : c ∈ n.digits) :
    c.isDigit = true := by
  rcases List.mem_append.1 member with zero | digit
  · rw [List.eq_of_mem_replicate zero]
    decide
  · exact isDigit_of_mem_toDigits digit

/-- A digit stands before the point. -/
theorem places_lt_length_digits (n : Numeral) : n.places < n.digits.length := by
  have := @Nat.length_toDigits_pos 10 n.coefficient
  simp only [digits, List.length_append, List.length_replicate]
  omega

/-- The digits before the point. -/
def wholeDigits (n : Numeral) : List Char :=
  n.digits.take (n.digits.length - n.places)

/-- The digits after the point. -/
def fractionDigits (n : Numeral) : List Char :=
  n.digits.drop (n.digits.length - n.places)

theorem wholeDigits_append_fractionDigits (n : Numeral) :
    n.wholeDigits ++ n.fractionDigits = n.digits :=
  List.take_append_drop _ _

theorem length_fractionDigits (n : Numeral) : n.fractionDigits.length = n.places := by
  have := n.places_lt_length_digits
  simp only [fractionDigits, List.length_drop]
  omega

theorem wholeDigits_ne_nil (n : Numeral) : n.wholeDigits ≠ [] := by
  have := n.places_lt_length_digits
  rw [← List.length_pos_iff, wholeDigits, List.length_take]
  omega

theorem isDigit_of_mem_wholeDigits {n : Numeral} {c : Char} (member : c ∈ n.wholeDigits) :
    c.isDigit = true :=
  isDigit_of_mem_digits (List.mem_of_mem_take member)

theorem isDigit_of_mem_fractionDigits {n : Numeral} {c : Char} (member : c ∈ n.fractionDigits) :
    c.isDigit = true :=
  isDigit_of_mem_digits (List.mem_of_mem_drop member)

/-- The text of a numeral without its sign. -/
def unsignedChars (n : Numeral) : List Char :=
  n.wholeDigits ++ (if n.places = 0 then [] else '.' :: n.fractionDigits)

theorem chars_eq (n : Numeral) : n.chars = sign n.negative ++ n.unsignedChars := by
  rw [unsignedChars, ← List.append_assoc]
  rfl

/-- The text of a numeral has its digits, and a sign, a point and zeros besides. -/
theorem length_chars_le (n : Numeral) : n.chars.length ≤ (Nat.toDigits 10 n.coefficient).length + n.places + 3 := by
  have digits : n.digits.length ≤ (Nat.toDigits 10 n.coefficient).length + n.places + 1 := by
    simp only [Numeral.digits, List.length_append, List.length_replicate]
    omega
  have parts : n.wholeDigits.length + n.fractionDigits.length = n.digits.length := by
    rw [← List.length_append, wholeDigits_append_fractionDigits]
  have signed : (sign n.negative).length ≤ 1 := by
    cases n.negative <;> decide
  have unsigned : n.unsignedChars.length ≤ n.wholeDigits.length + n.fractionDigits.length + 1 := by
    unfold unsignedChars
    split <;> simp <;> omega
  rw [chars_eq, List.length_append]
  omega

/-- The text of a numeral is a spelling of it. -/
theorem spelling_chars (n : Numeral) : Spelling n n.chars := by
  have inWhole : ∀ c ∈ n.wholeDigits, c.isDigit = true := fun _ => isDigit_of_mem_wholeDigits
  have inFraction : ∀ c ∈ n.fractionDigits, c.isDigit = true := fun _ => isDigit_of_mem_fractionDigits
  have value : digitsValue (n.wholeDigits ++ n.fractionDigits) = n.coefficient := by
    rw [wholeDigits_append_fractionDigits, digitsValue_digits]
  rw [chars_eq, unsignedChars]
  by_cases places : n.places = 0
  · have noFraction : n.fractionDigits = [] := by
      rw [← List.length_eq_zero_iff, length_fractionDigits, places]
    have spelled := Spelling.whole n.negative inWhole n.wholeDigits_ne_nil
    rw [noFraction, List.append_nil] at value
    rw [value, ← places] at spelled
    rwa [if_pos places, List.append_nil]
  · have nonempty : n.wholeDigits ++ n.fractionDigits ≠ [] := by
      simp [n.wholeDigits_ne_nil]
    have spelled := Spelling.pointed n.negative inWhole inFraction nonempty
    rw [value, length_fractionDigits] at spelled
    rwa [if_neg places]

/-- A numeral is read back from its text, if the text that follows does not go on with it. -/
theorem scan_chars_append (n : Numeral) {rest : List Char} (stops : StopsBefore continues rest) :
    scan (n.chars ++ rest) = some (n, rest) :=
  n.spelling_chars.scan_eq stops

/-- The text of a numeral starts as a number does. -/
theorem exists_chars_eq_cons (n : Numeral) :
    ∃ c more, n.chars = c :: more ∧ startsNumber c = true :=
  n.spelling_chars.exists_cons

end Numeral

theorem isBlank_of_startsNumber {c : Char} (starts : startsNumber c = true) :
    Text.isBlank c = false := by
  simp only [startsNumber, Bool.or_eq_true, beq_iff_eq] at starts
  rcases starts with (digit | rfl) | rfl
  · exact Text.isBlank_of_isDigit digit
  · decide
  · decide

section Numbers

variable {α : Type} [Legible α]

theorem readNumber_numeral (n : Numeral) {rest : List Char}
    (stops : StopsBefore Numeral.continues rest) :
    readNumber (n.chars ++ rest) = .ok ((Legible.ofNumeral n : α), rest) := by
  have visible : StopsBefore Text.isBlank (n.chars ++ rest) := by
    obtain ⟨c, more, chars, starts⟩ := n.exists_chars_eq_cons
    rw [chars, List.cons_append, Text.stopsBefore_cons]
    exact isBlank_of_startsNumber starts
  simp only [readNumber, Text.trimStart_of_stops visible, Numeral.scan_chars_append n stops]

variable [Arithmetic α]

/-- Every finite number is written as a numeral, and that numeral is read as the same number: of doubles
`doubles_readsBack`. -/
def ReadsBack (α : Type) [Arithmetic α] [Legible α] : Prop :=
  ∀ x : α, Arithmetic.isFinite x = true →
    ∃ n, Legible.toNumeral? x = some n ∧ Legible.ofNumeral n = x

variable {x : α}

theorem ReadsBack.exists_numeral (legible : ReadsBack α) (finite : Arithmetic.isFinite x = true) :
    ∃ n : Numeral, Legible.chars x = n.chars ∧ Legible.ofNumeral n = x := by
  obtain ⟨n, numeral, value⟩ := legible x finite
  exact ⟨n, by rw [Legible.chars, numeral], value⟩

theorem ReadsBack.readNumber_chars (legible : ReadsBack α) (finite : Arithmetic.isFinite x = true)
    {rest : List Char} (stops : StopsBefore Numeral.continues rest) :
    readNumber (Legible.chars x ++ rest) = .ok (x, rest) := by
  obtain ⟨n, chars, rfl⟩ := legible.exists_numeral finite
  rw [chars, readNumber_numeral n stops]

end Numbers

end PaperTrading
