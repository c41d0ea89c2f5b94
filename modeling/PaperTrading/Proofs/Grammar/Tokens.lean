/-
Module: PaperTrading.Proofs.Grammar.Tokens
Purpose: The readers of marks, words and numbers take the tokens of the grammar.
Main exports: Mark.iff_trimStart, skipCharacter_eq_ok, Word.of_splitWord, Word.splitWord_eq, number_of_readNumber,
  Number.readNumber_eq, integer_of_readInteger, Integer.readInteger_eq
-/
import PaperTrading.Proofs.Grammar.Language
import PaperTrading.Proofs.Rule.Tokens
import PaperTrading.Proofs.Stages

namespace PaperTrading.Grammar

open Text (StopsBefore)

variable {text middle rest : List Char}

namespace Blanks

theorem refl (text : List Char) : Blanks text text :=
  ⟨[], nofun, rfl⟩

theorem trans (one : Blanks text middle) (two : Blanks middle rest) : Blanks text rest := by
  obtain ⟨first, firstBlank, rfl⟩ := one
  obtain ⟨second, secondBlank, rfl⟩ := two
  refine ⟨first ++ second, ?_, (List.append_assoc _ _ _).symm⟩
  intro c member
  exact (List.mem_append.1 member).elim (firstBlank c) (secondBlank c)

theorem trimStart (text : List Char) : Blanks text (Text.trimStart text) :=
  ⟨text.takeWhile Text.isBlank, fun _ => Text.mem_takeWhile, List.takeWhile_append_dropWhile.symm⟩

theorem trimStart_eq (blanks : Blanks text rest) : Text.trimStart text = Text.trimStart rest := by
  obtain ⟨run, blank, rfl⟩ := blanks
  exact List.dropWhile_append_of_pos blank

/-- Blanks up to a text that does not start with one are all the blanks there are. -/
theorem iff_trimStart (stops : StopsBefore Text.isBlank rest) : Blanks text rest ↔ Text.trimStart text = rest := by
  constructor
  · intro blanks
    rw [blanks.trimStart_eq, Text.trimStart_of_stops stops]
  · rintro rfl
    exact Blanks.trimStart text

theorem isSuffix (blanks : Blanks text rest) : rest <:+ text := by
  obtain ⟨run, -, rfl⟩ := blanks
  exact List.suffix_append run rest

/-- What is left behind the characters after some blanks is left of the whole text. -/
theorem isSuffix_of_append {chars : List Char} (blanks : Blanks text (chars ++ rest)) : rest <:+ text :=
  (List.suffix_append chars rest).trans blanks.isSuffix

end Blanks

namespace Punctuation

theorem visible (mark : Punctuation) : Text.isBlank mark.char = false := by
  cases mark <;> decide

/-- A mark goes on with no word and no number. -/
theorem endsToken (mark : Punctuation) (rest : List Char) : EndsToken (mark.char :: rest) := by
  rw [endsToken_cons]
  cases mark <;> decide

end Punctuation

namespace Mark

variable {mark : Punctuation}

theorem iff_trimStart : Mark mark text rest ↔ Text.trimStart text = mark.char :: rest :=
  Blanks.iff_trimStart ((Text.stopsBefore_cons Text.isBlank mark.char rest).2 mark.visible)

theorem of_blanks (blanks : Blanks text middle) (found : Mark mark middle rest) : Mark mark text rest :=
  Blanks.trans blanks found

theorem after_trimStart (found : Mark mark text rest) : Mark mark (Text.trimStart text) rest := by
  rw [iff_trimStart.1 found]
  exact Blanks.refl _

theorem isSuffix (found : Mark mark text rest) : rest <:+ text :=
  (List.suffix_cons mark.char rest).trans (Blanks.isSuffix found)

theorem length_lt (found : Mark mark text rest) : rest.length < text.length :=
  (Blanks.isSuffix found).length_le

/-- The token before a mark ends there. -/
theorem endsToken (found : Mark mark text rest) : EndsToken text := by
  obtain ⟨run, blank, rfl⟩ := found
  cases run with
  | nil => exact mark.endsToken rest
  | cons c run =>
      have here : Text.isBlank c = true := blank c List.mem_cons_self
      rw [List.cons_append, endsToken_cons]
      constructor
      · rw [← Bool.not_eq_true]
        intro named
        rw [isBlank_of_isNameCharacter named] at here
        exact Bool.false_ne_true here
      · rintro rfl
        exact absurd here (by decide)

end Mark

theorem skipCharacter_eq_ok {mark : Punctuation} :
    skipCharacter mark.char text = .ok rest ↔ Mark mark text rest := by
  rw [Mark.iff_trimStart, skipCharacter]
  cases Text.trimStart text with
  | nil => simp [misread]
  | cons c others =>
      by_cases same : c = mark.char
      · simp [same]
      · simp [same, misread]

/-- A word that its first character tells from a number. -/
def IsName (word : String) : Prop :=
  word.toList.all isNameCharacter = true ∧ word.toList.head?.any (fun c => !startsNumber c) = true

instance (word : String) : Decidable (IsName word) :=
  inferInstanceAs (Decidable (_ ∧ _))

namespace IsName

variable {word : String}

theorem exists_cons (isName : IsName word) :
    ∃ c others, word.toList = c :: others ∧ isNameCharacter c = true ∧ startsNumber c = false := by
  obtain ⟨inside, noNumber⟩ := isName
  cases chars : word.toList with
  | nil => simp [chars] at noNumber
  | cons c others =>
      rw [chars] at inside noNumber
      refine ⟨c, others, rfl, List.all_eq_true.1 inside c List.mem_cons_self, ?_⟩
      simpa using noNumber

end IsName

namespace Word

variable {word : String}

theorem of_blanks (blanks : Blanks text middle) (found : Word word middle rest) : Word word text rest :=
  ⟨blanks.trans found.1, found.2⟩

/-- What is split off is a word of the grammar. -/
theorem of_splitWord {split : String × List Char} (taken : splitWord text = split) :
    Word split.1 text split.2 := by
  subst taken
  constructor
  · simp only [splitWord, String.toList_ofList, List.takeWhile_append_dropWhile]
    exact Blanks.refl text
  · exact Text.stopsBefore_dropWhile isNameCharacter text

theorem trimStart_eq (found : Word word text rest) (isName : IsName word) :
    Text.trimStart text = word.toList ++ rest := by
  obtain ⟨c, others, chars, named, -⟩ := isName.exists_cons
  apply (Blanks.iff_trimStart _).1 found.1
  rw [chars, List.cons_append, Text.stopsBefore_cons]
  exact isBlank_of_isNameCharacter named

theorem splitWord_eq (found : Word word text rest) (isName : IsName word) :
    splitWord (Text.trimStart text) = (word, rest) := by
  rw [found.trimStart_eq isName]
  exact splitWord_append isName.1 found.2

/-- A name is not taken for a number. -/
theorem starts_no_number (found : Word word text rest) (isName : IsName word) :
    (Text.trimStart text).head?.any startsNumber = false := by
  obtain ⟨c, others, chars, -, noNumber⟩ := isName.exists_cons
  simp [found.trimStart_eq isName, chars, noNumber]

theorem isSuffix (found : Word word text rest) : rest <:+ text :=
  found.1.isSuffix_of_append

end Word

namespace Number

variable {n : Numeral}

theorem trimStart_eq (number : Number n text rest) :
    ∃ c others, Text.trimStart text = c :: others ∧ startsNumber c = true ∧
      (StopsBefore Numeral.continues rest → Numeral.scan (c :: others) = some (n, rest)) := by
  obtain ⟨chars, spelling, blanks⟩ := number
  obtain ⟨c, others, rfl, starts⟩ := spelling.exists_cons
  refine ⟨c, others ++ rest, ?_, starts, spelling.scan_eq⟩
  apply (Blanks.iff_trimStart _).1 blanks
  rw [List.cons_append, Text.stopsBefore_cons]
  exact isBlank_of_startsNumber starts

theorem of_blanks (blanks : Blanks text middle) (number : Number n middle rest) : Number n text rest := by
  obtain ⟨chars, spelling, more⟩ := number
  exact ⟨chars, spelling, blanks.trans more⟩

theorem isSuffix (number : Number n text rest) : rest <:+ text := by
  obtain ⟨chars, -, blanks⟩ := number
  exact blanks.isSuffix_of_append

end Number

section Values

variable {α : Type} [Legible α] {value : α}

theorem number_of_readNumber (read : readNumber text = .ok (value, rest)) :
    ∃ n, value = Legible.ofNumeral n ∧ Number n text rest := by
  simp only [readNumber] at read
  split at read
  case h_2 => cases read
  case h_1 n others scanned =>
    cases read
    obtain ⟨chars, spelling, start⟩ := Numeral.spelling_of_scan scanned
    exact ⟨n, rfl, chars, spelling, start ▸ Blanks.trimStart text⟩

theorem readNumber_trimStart (text : List Char) :
    readNumber (α := α) (Text.trimStart text) = readNumber text := by
  simp only [readNumber, ← (Blanks.trimStart text).trimStart_eq]

theorem Number.readNumber_eq {n : Numeral} (number : Number n text rest) (ends : EndsToken rest) :
    readNumber text = .ok ((Legible.ofNumeral n : α), rest) := by
  obtain ⟨c, others, start, -, scanned⟩ := number.trimStart_eq
  simp only [readNumber, start, scanned ends.stops_numeral]

end Values

section Integers

variable {value : Nat}

theorem integer_of_readInteger (read : readInteger text = .ok (value, rest)) : Integer value text rest := by
  simp only [readInteger] at read
  split at read
  case h_1 => cases read
  case h_2 nonempty =>
    split at read
    case isFalse => cases read
    case isTrue small =>
      cases read
      refine ⟨(Text.trimStart text).takeWhile Char.isDigit, fun _ => Text.mem_takeWhile, nonempty, ?_, rfl,
        Nat.lt_of_le_of_lt small (by decide)⟩
      rw [List.takeWhile_append_dropWhile]
      exact Blanks.trimStart text

theorem Integer.readInteger_eq (integer : Integer value text rest) (ends : EndsToken rest) :
    readInteger text = .ok (value, rest) := by
  obtain ⟨digits, inside, nonempty, blanks, rfl, small⟩ := integer
  have stops := Numeral.stopsBefore_isDigit ends.stops_numeral
  have start : Text.trimStart text = digits ++ rest := by
    apply (Blanks.iff_trimStart _).1 blanks
    obtain ⟨c, others, rfl⟩ := List.exists_cons_of_ne_nil nonempty
    rw [List.cons_append, Text.stopsBefore_cons]
    exact Text.isBlank_of_isDigit (inside c List.mem_cons_self)
  have fits : Numeral.digitsValue digits ≤ largestInteger := Nat.le_sub_one_of_lt small
  simp only [readInteger, start, Text.takeWhile_run inside stops, Text.dropWhile_run inside stops, if_pos fits]

theorem Integer.isSuffix (integer : Integer value text rest) : rest <:+ text := by
  obtain ⟨digits, -, -, blanks, -, -⟩ := integer
  exact blanks.isSuffix_of_append

end Integers

end PaperTrading.Grammar
