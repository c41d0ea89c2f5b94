/-
Module: PaperTrading.Proofs.Strategy.Numbers
Purpose: The numbers that are read from a description.
Main exports: UnsignedNotNegative, exists_numeral_of_number?, holds_percentage, stopLoss_not_negative,
  takeProfit_not_negative
-/
import PaperTrading.Proofs.Strategy.Meaning
import PaperTrading.Proofs.Strategy.Percentages

namespace PaperTrading

open Arithmetic (whole isFinite lt)
open Text (Excerpt)

section Percentages

variable (α : Type) [Arithmetic α] [Legible α]

/-- A numeral without a sign is read as a number that is not less than zero: of doubles `doubles_unsignedNotNegative`. -/
def UnsignedNotNegative : Prop :=
  ∀ n : Numeral, n.negative = false → lt (Legible.ofNumeral n : α) (whole 0) = false

variable {α}

omit [Arithmetic α] [Legible α] in
/-- What begins with a digit is a numeral without a sign. -/
theorem negative_of_read? {digit : Char} {more : List Char} (isDigit : Text.isDecimalDigit digit = true) {n : Numeral}
    (read : Numeral.read? (digit :: more) = some n) : n.negative = false := by
  have noSign : digit ≠ '-' := by
    rintro rfl
    exact absurd isDigit (by decide)
  have sign : Numeral.takeSign (digit :: more) = (false, digit :: more) := by
    simp [Numeral.takeSign, noSign]
  rw [Numeral.read?] at read
  split at read
  case h_1 n' scanned =>
    obtain rfl := Option.some.inj read
    simp only [Numeral.scan, sign] at scanned
    split at scanned
    · cases scanned
    · rw [← (Prod.mk.inj (Option.some.inj scanned)).1]
  case h_2 => cases read

omit [Arithmetic α] in
/-- The number of an excerpt that begins with a digit has no sign. -/
theorem exists_numeral_of_number? {excerpt : Excerpt} (isNumeral : IsNumeral excerpt.chars) {x : α}
    (read : excerpt.number? = some x) : ∃ n : Numeral, n.negative = false ∧ Legible.ofNumeral n = x := by
  obtain ⟨digit, more, chars, isDigit⟩ := isNumeral.starts
  rw [Text.Excerpt.number?, chars, Option.map_eq_some_iff] at read
  obtain ⟨n, numeral, value⟩ := read
  exact ⟨n, negative_of_read? isDigit numeral, value⟩

theorem isNumeral_of_stopLossNumeral? {text : List Char} {excerpt : Excerpt}
    (there : stopLossNumeral? text = some excerpt) : IsNumeral excerpt.chars := by
  obtain ⟨before, gap, after, percentage, -⟩ := stopLossNumeral?_at there
  exact percentage.isNumeral

theorem isNumeral_of_takeProfitNumeral? {text : List Char} {excerpt : Excerpt}
    (there : takeProfitNumeral? text = some excerpt) : IsNumeral excerpt.chars := by
  obtain ⟨before, gap, after, percentage, -⟩ := takeProfitNumeral?_at there
  exact percentage.isNumeral

omit [Arithmetic α] in
/-- What holds of the default and of the numbers of all numerals without a sign holds of a percentage that is read. -/
theorem holds_percentage {motive : α → Prop} {otherwise : α} {numeral? : Option Excerpt} (default : motive otherwise)
    (number : ∀ n : Numeral, n.negative = false → motive (Legible.ofNumeral n))
    (isNumeral : ∀ {excerpt}, numeral? = some excerpt → IsNumeral excerpt.chars) :
    motive ((numeral?.bind Text.Excerpt.number?).getD otherwise) := by
  cases read : numeral?.bind (Text.Excerpt.number? (α := α)) with
  | none => exact default
  | some percent =>
      obtain ⟨excerpt, there, value⟩ := Option.bind_eq_some_iff.1 read
      obtain ⟨n, noSign, rfl⟩ := exists_numeral_of_number? (isNumeral there) value
      exact number n noSign

variable (unsigned : UnsignedNotNegative α) (constants : DraftConstants α) (text : List Char)
include unsigned constants

/-- The stop loss of a description is not negative. -/
theorem stopLoss_not_negative :
    lt (((stopLossNumeral? text).bind Text.Excerpt.number?).getD (defaultStopLoss : α)) (whole 0) = false :=
  holds_percentage (motive := fun percent => lt percent (whole 0) = false) constants.stopLoss.2 unsigned
    isNumeral_of_stopLossNumeral?

/-- The take profit of a description is not negative. -/
theorem takeProfit_not_negative :
    lt (((takeProfitNumeral? text).bind Text.Excerpt.number?).getD (defaultTakeProfit : α)) (whole 0) = false :=
  holds_percentage (motive := fun percent => lt percent (whole 0) = false) constants.takeProfit.2 unsigned
    isNumeral_of_takeProfitNumeral?

end Percentages

end PaperTrading
