/-
Module: PaperTrading.Proofs.Decimal.Spelling
Purpose: How numerals are spelled, and that a scan takes what is spelled.
Main exports: Spelling, spelling_of_scan, Spelling.scan_eq, Spelling.startsNumber_of_mem
-/
import PaperTrading.Proofs.Text.Runs
import PaperTrading.Rule.Reader

namespace PaperTrading.Numeral

open Text (StopsBefore)

variable {text rest : List Char}

/-- The text of a sign. -/
def sign (negative : Bool) : List Char :=
  if negative then ['-'] else []

/-- How a numeral is spelled: a sign or none, and digits, one at least, with a point among them or none. -/
inductive Spelling : Numeral → List Char → Prop
  | whole {digits : List Char} (negative : Bool) (inside : ∀ c ∈ digits, c.isDigit = true)
      (nonempty : digits ≠ []) :
      Spelling ⟨negative, digitsValue digits, 0⟩ (sign negative ++ digits)
  | pointed {whole fraction : List Char} (negative : Bool) (inWhole : ∀ c ∈ whole, c.isDigit = true)
      (inFraction : ∀ c ∈ fraction, c.isDigit = true) (nonempty : whole ++ fraction ≠ []) :
      Spelling ⟨negative, digitsValue (whole ++ fraction), fraction.length⟩
        (sign negative ++ (whole ++ '.' :: fraction))

/-- The characters that a numeral could go on with. -/
def continues (c : Char) : Bool :=
  c.isDigit || c == '.'

theorem stopsBefore_isDigit (stops : StopsBefore continues rest) :
    StopsBefore Char.isDigit rest := by
  intro c head
  have outside := stops c head
  simp only [continues, Bool.or_eq_false_iff] at outside
  exact outside.1

theorem takeDigits_whole {whole : List Char} (inside : ∀ c ∈ whole, c.isDigit = true)
    (stops : StopsBefore continues rest) : takeDigits (whole ++ rest) = ((whole, []), rest) := by
  have noDigit := stopsBefore_isDigit stops
  rw [takeDigits, Text.takeWhile_run inside noDigit, Text.dropWhile_run inside noDigit]
  cases rest with
  | nil => rfl
  | cons c rest =>
      have outside := (Text.stopsBefore_cons continues c rest).1 stops
      simp only [continues, Bool.or_eq_false_iff, beq_eq_false_iff_ne] at outside
      split
      · rename_i later heads
        exact absurd (List.head_eq_of_cons_eq heads) outside.2
      · rfl

theorem takeDigits_point {whole fraction : List Char}
    (inWhole : ∀ c ∈ whole, c.isDigit = true) (inFraction : ∀ c ∈ fraction, c.isDigit = true)
    (stops : StopsBefore Char.isDigit rest) :
    takeDigits (whole ++ '.' :: (fraction ++ rest)) = ((whole, fraction), rest) := by
  have point : StopsBefore Char.isDigit ('.' :: (fraction ++ rest)) := by
    simp
  rw [takeDigits, Text.takeWhile_run inWhole point, Text.dropWhile_run inWhole point]
  simp only [Text.takeWhile_run inFraction stops, Text.dropWhile_run inFraction stops]

/-- A sign is told from what follows it. -/
theorem takeSign_sign (negative : Bool) {unsigned : List Char} (stops : StopsBefore (· == '-') unsigned) :
    takeSign (sign negative ++ unsigned) = (negative, unsigned) := by
  cases negative with
  | true => rfl
  | false =>
      simp only [sign, Bool.false_eq_true, if_false, List.nil_append, takeSign]
      split
      case h_1 others => simp at stops
      case h_2 => rfl

theorem sign_takeSign (text : List Char) :
    sign (takeSign text).1 ++ (takeSign text).2 = text := by
  simp only [takeSign]
  split
  case h_1 => rfl
  case h_2 => rfl

/-- The digits that are taken from a text, with the point among them, are its head. -/
theorem takeDigits_cases (text : List Char) :
    (∃ whole fraction rest, takeDigits text = ((whole, fraction), rest) ∧
      text = whole ++ '.' :: (fraction ++ rest) ∧ (∀ c ∈ whole, c.isDigit = true) ∧
      (∀ c ∈ fraction, c.isDigit = true)) ∨
    (∃ whole rest, takeDigits text = ((whole, []), rest) ∧ text = whole ++ rest ∧
      (∀ c ∈ whole, c.isDigit = true)) := by
  have inside : ∀ c ∈ text.takeWhile Char.isDigit, c.isDigit = true := fun _ => Text.mem_takeWhile
  have parts : text.takeWhile Char.isDigit ++ text.dropWhile Char.isDigit = text :=
    List.takeWhile_append_dropWhile
  simp only [takeDigits]
  split
  case h_1 others point =>
    left
    refine ⟨_, _, _, rfl, ?_, inside, fun _ => Text.mem_takeWhile⟩
    rw [List.takeWhile_append_dropWhile, ← point, parts]
  case h_2 =>
    right
    exact ⟨_, _, rfl, parts.symm, inside⟩

/-- What is scanned is spelled at the head of the text. -/
theorem spelling_of_scan {n : Numeral} (scanned : scan text = some (n, rest)) :
    ∃ chars, Spelling n chars ∧ text = chars ++ rest := by
  have signed := sign_takeSign text
  simp only [scan] at scanned
  generalize takeSign text = parts at signed scanned
  obtain ⟨negative, unsigned⟩ := parts
  subst signed
  rcases takeDigits_cases unsigned with
    ⟨whole, fraction, others, taken, rfl, inWhole, inFraction⟩ | ⟨digits, others, taken, rfl, inside⟩
  · simp only [taken] at scanned
    split at scanned
    case h_1 => cases scanned
    case h_2 nonempty =>
      cases scanned
      exact ⟨_, .pointed negative inWhole inFraction nonempty, by simp⟩
  · simp only [taken, List.append_nil] at scanned
    split at scanned
    case h_1 => cases scanned
    case h_2 nonempty =>
      cases scanned
      exact ⟨_, .whole negative inside nonempty, (List.append_assoc _ _ _).symm⟩

theorem noSign_of_isDigit {c : Char} (digit : c.isDigit = true) (others : List Char) :
    StopsBefore (· == '-') (c :: others) := by
  rw [Text.stopsBefore_cons, beq_eq_false_iff_ne]
  rintro rfl
  exact absurd digit (by decide)

namespace Spelling

variable {n : Numeral} {chars : List Char}

/-- A numeral is scanned from its spelling, if the text that follows does not go on with it. -/
theorem scan_eq (spelling : Spelling n chars) (stops : StopsBefore continues rest) :
    scan (chars ++ rest) = some (n, rest) := by
  cases spelling with
  | @whole digits negative inside nonempty =>
      have unsigned : StopsBefore (· == '-') (digits ++ rest) := by
        obtain ⟨c, others, rfl⟩ := List.exists_cons_of_ne_nil nonempty
        exact noSign_of_isDigit (inside c List.mem_cons_self) _
      rw [List.append_assoc, scan, takeSign_sign negative unsigned]
      simp only [takeDigits_whole inside stops, List.append_nil, List.length_nil]
  | @pointed whole fraction negative inWhole inFraction nonempty =>
      have unsigned : StopsBefore (· == '-') (whole ++ '.' :: (fraction ++ rest)) := by
        cases whole with
        | nil => exact (Text.stopsBefore_cons _ _ _).2 rfl
        | cons c others => exact noSign_of_isDigit (inWhole c List.mem_cons_self) _
      have noDigit := stopsBefore_isDigit stops
      rw [List.append_assoc, List.append_assoc, List.cons_append, scan, takeSign_sign negative unsigned]
      simp only [takeDigits_point inWhole inFraction noDigit]

theorem startsNumber_of_mem (spelling : Spelling n chars) {c : Char} (member : c ∈ chars) : startsNumber c = true := by
  have signs {negative : Bool} (here : c ∈ sign negative) : startsNumber c = true := by
    cases negative with
    | true => exact List.mem_singleton.1 here ▸ rfl
    | false => exact absurd here List.not_mem_nil
  have digits (isDigit : c.isDigit = true) : startsNumber c = true := by
    simp [startsNumber, isDigit]
  cases spelling with
  | whole negative inside _ =>
      rcases List.mem_append.1 member with here | digit
      · exact signs here
      · exact digits (inside c digit)
  | pointed negative inWhole inFraction _ =>
      rw [List.mem_append, List.mem_append, List.mem_cons] at member
      rcases member with here | digit | rfl | digit
      · exact signs here
      · exact digits (inWhole c digit)
      · rfl
      · exact digits (inFraction c digit)

theorem exists_cons (spelling : Spelling n chars) : ∃ c others, chars = c :: others ∧ startsNumber c = true := by
  have nonempty : chars ≠ [] := by
    cases spelling with
    | whole negative inside nonempty => simp [nonempty]
    | pointed => simp
  obtain ⟨c, others, rfl⟩ := List.exists_cons_of_ne_nil nonempty
  exact ⟨c, others, rfl, spelling.startsNumber_of_mem List.mem_cons_self⟩

end Spelling

end PaperTrading.Numeral
