/-
Module: PaperTrading.Proofs.Rule.ErrorPlaces
Purpose: Every misreading is at a place of the text that was read, and can be shown under its line.
Main exports: StaysIn, StaysIn.bind, Reader.Stays, operandReader_stays, ruleReader_stays, readAssignments_staysIn,
  ParseError.shownBySlices?, read_error_shown

A reader only ever takes characters from the head of its text.  So what it leaves is the end of the text, and so is
what a misreading has kept, whichever reader it comes from; that is stated once for results and follows for each reader
from the readers that it is made of.
-/
import PaperTrading.Proofs.Arithmetic.Hundredths
import PaperTrading.Proofs.Decimal.Spelling
import PaperTrading.Proofs.Text.Lines
import PaperTrading.Rule.Reader

namespace PaperTrading

open Text (trimStart byteLength LineAt slice? firstOffset? lastOffset?)

section Results

variable {β γ : Type}

/-- A result that is taken from a text stays in it: what is left, or what was met, is an end of the text. -/
def StaysIn (text : List Char) (left : β → List Char) : Except Misreading β → Prop
  | .ok value => left value <:+ text
  | .error misreading => misreading.rest <:+ text

variable {text rest : List Char} {left : β → List Char} {result : Except Misreading β}

theorem staysIn_misread {problem : TextProblem} (inside : rest <:+ text) :
    StaysIn text left (misread problem rest) :=
  inside

theorem StaysIn.mono (stays : StaysIn rest left result) (inside : rest <:+ text) : StaysIn text left result := by
  cases result with
  | error misreading => exact List.IsSuffix.trans stays inside
  | ok value => exact List.IsSuffix.trans stays inside

/-- What goes on after a result may also look back at the text. -/
theorem StaysIn.bind_within {leftAfter : γ → List Char} {next : β → Except Misreading γ}
    (stays : StaysIn text left result) (goesOn : ∀ value, left value <:+ text → StaysIn text leftAfter (next value)) :
    StaysIn text leftAfter (result >>= next) := by
  cases result with
  | error misreading => exact stays
  | ok value => exact goesOn value stays

/-- What goes on with what is left stays in the text. -/
theorem StaysIn.bind {leftAfter : γ → List Char} {next : β → Except Misreading γ} (stays : StaysIn text left result)
    (goesOn : ∀ value, StaysIn (left value) leftAfter (next value)) : StaysIn text leftAfter (result >>= next) :=
  stays.bind_within fun value inside => (goesOn value).mono inside

theorem StaysIn.map {leftAfter : γ → List Char} {f : β → γ} (stays : StaysIn text left result)
    (same : ∀ value, leftAfter (f value) = left value) : StaysIn text leftAfter (result.map f) := by
  cases result with
  | error misreading => exact stays
  | ok value =>
      show leftAfter (f value) <:+ text
      rw [same]
      exact stays

/-- A reader that leaves an end of its text, and that meets problems in it. -/
def Reader.Stays (reader : Reader β) : Prop :=
  ∀ text, StaysIn text Prod.snd (reader text)

end Results

section Tokens

theorem trimStart_isSuffix (text : List Char) : trimStart text <:+ text :=
  List.dropWhile_suffix _

theorem splitWord_isSuffix (text : List Char) : (splitWord text).2 <:+ text :=
  List.dropWhile_suffix _

theorem skipCharacter_staysIn (expected : Char) (text : List Char) :
    StaysIn text id (skipCharacter expected text) := by
  have start := trimStart_isSuffix text
  rw [skipCharacter]
  split
  case h_1 => exact staysIn_misread List.nil_suffix
  case h_2 c rest found =>
    rw [found] at start
    split
    case isTrue => exact (List.suffix_cons c rest).trans start
    case isFalse => exact staysIn_misread start

theorem skipTrivia_isSuffix (inComment : Bool) (text : List Char) : skipTrivia inComment text <:+ text := by
  induction text generalizing inComment with
  | nil => exact List.suffix_refl _
  | cons c rest ih =>
      have later (inComment : Bool) : skipTrivia inComment rest <:+ c :: rest :=
        (ih inComment).trans (List.suffix_cons c rest)
      rw [skipTrivia]
      split
      case isTrue => exact later _
      case isFalse =>
        split
        case isTrue => exact later _
        case isFalse =>
          split
          case isTrue => exact later _
          case isFalse => exact List.suffix_refl _

theorem readInteger_stays : Reader.Stays readInteger := by
  intro text
  have start := trimStart_isSuffix text
  simp only [readInteger]
  split
  case h_1 => exact staysIn_misread start
  case h_2 =>
    split
    case isTrue => exact (List.dropWhile_suffix _).trans start
    case isFalse => exact staysIn_misread start

variable {α : Type} [Legible α]

theorem readNumber_stays : Reader.Stays (readNumber (α := α)) := by
  intro text
  have start := trimStart_isSuffix text
  simp only [readNumber]
  split
  case h_1 n rest scanned =>
    obtain ⟨chars, -, parts⟩ := Numeral.spelling_of_scan scanned
    have scannedRest : rest <:+ trimStart text := ⟨chars, parts.symm⟩
    exact scannedRest.trans start
  case h_2 => exact staysIn_misread start

end Tokens

section Operands

variable {α : Type} {inner : Reader (Operand α)}

theorem readOne_stays (stays : inner.Stays) : Reader.Stays (readOne inner) := by
  intro text
  exact (skipCharacter_staysIn '(' text).bind fun text => (stays text).bind fun value =>
    (skipCharacter_staysIn ')' value.2).bind fun text => List.suffix_refl text

theorem readTwo_stays (stays : inner.Stays) : Reader.Stays (readTwo inner) := by
  intro text
  exact (skipCharacter_staysIn '(' text).bind fun text => (stays text).bind fun first =>
    (skipCharacter_staysIn ',' first.2).bind fun text => (stays text).bind fun second =>
      (skipCharacter_staysIn ')' second.2).bind fun text => List.suffix_refl text

variable [Legible α]

theorem readFactors_stays (rounds : Nat) (operand : Operand α) : Reader.Stays (readFactors rounds operand) := by
  induction rounds generalizing operand with
  | zero => exact fun text => List.suffix_refl text
  | succ rounds ih =>
      intro text
      have start := trimStart_isSuffix text
      rw [readFactors]
      split
      case h_1 rest found =>
        rw [found] at start
        exact ((readNumber_stays rest).bind fun value => ih _ value.2).mono ((List.suffix_cons _ rest).trans start)
      case h_2 => exact start

theorem readPrimary_stays (stays : inner.Stays) : Reader.Stays (readPrimary inner) := by
  intro text
  have start := trimStart_isSuffix text
  have word := (splitWord_isSuffix (trimStart text)).trans start
  simp only [readPrimary]
  split
  case isTrue =>
    refine StaysIn.mono (StaysIn.bind (readNumber_stays _) ?_) start
    exact fun value => List.suffix_refl value.2
  case isFalse =>
    split
    case h_1 | h_2 =>
      refine StaysIn.mono (StaysIn.map (readOne_stays stays _) ?_) word
      exact fun _ => rfl
    case h_3 | h_4 =>
      refine StaysIn.mono (StaysIn.map (readTwo_stays stays _) ?_) word
      exact fun _ => rfl
    case h_5 =>
      split
      case h_1 => exact word
      case h_2 => exact staysIn_misread start

theorem operandReader_stays (levels : Nat) : Reader.Stays (operandReader (α := α) levels) := by
  induction levels with
  | zero => exact fun text => staysIn_misread (List.suffix_refl text)
  | succ levels ih =>
      intro text
      exact (readPrimary_stays ih text).bind fun value => readFactors_stays _ _ value.2

end Operands

section Rules

variable {α : Type} {inner : Reader (Rule α)}

theorem readMoreRules_stays (stays : inner.Stays) (rounds : Nat) : Reader.Stays (readMoreRules inner rounds) := by
  induction rounds with
  | zero => exact fun text => staysIn_misread (List.suffix_refl text)
  | succ rounds ih =>
      intro text
      have start := trimStart_isSuffix text
      rw [readMoreRules]
      split
      case h_1 rest found =>
        rw [found] at start
        exact (List.suffix_cons _ rest).trans start
      case h_2 =>
        refine StaysIn.mono (StaysIn.bind (skipCharacter_staysIn ',' _) ?_) start
        exact fun text => (stays text).bind fun first => (ih first.2).bind fun others => List.suffix_refl others.2

theorem readRules_stays (keyword : String) (stays : inner.Stays) : Reader.Stays (readRules keyword inner) := by
  intro text
  refine (skipCharacter_staysIn '(' text).bind fun text => (stays text).bind fun first =>
    (readMoreRules_stays stays _ first.2).bind ?_
  rintro ⟨others, rest⟩
  dsimp only
  split
  case isTrue => exact staysIn_misread (List.suffix_refl rest)
  case isFalse => exact List.suffix_refl rest

variable [Legible α] [Arithmetic α]

theorem readPercent_stays (keyword : String) : Reader.Stays (readPercent (α := α) keyword) := by
  intro text
  refine (skipCharacter_staysIn '(' text).bind fun text => (readNumber_stays text).bind_within ?_
  rintro ⟨percent, rest⟩ inside
  dsimp only
  split
  -- A percentage below zero is reported where it begins.
  case isTrue => exact staysIn_misread (List.suffix_refl text)
  case isFalse =>
    refine StaysIn.mono (StaysIn.bind (skipCharacter_staysIn ')' rest) ?_) inside
    exact fun text => List.suffix_refl text

theorem ruleReader_stays (levels : Nat) : Reader.Stays (ruleReader (α := α) levels) := by
  induction levels with
  | zero => exact fun text => staysIn_misread (List.suffix_refl text)
  | succ levels ih =>
      intro text
      have start := trimStart_isSuffix text
      have word := (splitWord_isSuffix (trimStart text)).trans start
      simp only [ruleReader]
      split
      case h_1 =>
        refine StaysIn.mono (StaysIn.map (readTwo_stays (operandReader_stays levels) _) ?_) word
        exact fun _ => rfl
      case h_2 =>
        split
        case h_1 | h_2 =>
          refine StaysIn.mono (StaysIn.map (readRules_stays _ ih _) ?_) word
          exact fun _ => rfl
        case h_3 | h_4 =>
          refine StaysIn.mono (StaysIn.map (readPercent_stays _ _) ?_) word
          exact fun _ => rfl
        case h_5 =>
          refine StaysIn.mono (StaysIn.bind (skipCharacter_staysIn '(' _) ?_) word
          exact fun text => (readInteger_stays text).bind fun days =>
            (skipCharacter_staysIn ')' days.2).bind fun text => List.suffix_refl text
        case h_6 => exact staysIn_misread start

end Rules

section Programs

variable {α : Type} [Legible α] [Arithmetic α]

theorem readAssignment_stays (program : Program α) : Reader.Stays (readAssignment program) := by
  intro text
  have word := splitWord_isSuffix text
  simp only [readAssignment]
  split
  case h_1 => exact staysIn_misread (List.suffix_refl text)
  case h_2 side named =>
    split
    case isTrue => exact staysIn_misread (List.suffix_refl text)
    case isFalse =>
      refine StaysIn.mono (StaysIn.bind (skipCharacter_staysIn '=' _) ?_) word
      refine fun text => (ruleReader_stays deepestNesting text).bind fun value => ?_
      have line : value.2.dropWhile Text.isInlineBlank <:+ value.2 := List.dropWhile_suffix _
      split
      case isTrue => exact line
      case isFalse => exact staysIn_misread line

theorem readAssignments_staysIn (rounds : Nat) (program : Program α) (text : List Char) :
    StaysIn text (fun _ => []) (readAssignments rounds program text) := by
  induction rounds generalizing program text with
  | zero => exact List.nil_suffix
  | succ rounds ih =>
      have start := skipTrivia_isSuffix false text
      rw [readAssignments]
      split
      case h_1 => exact List.nil_suffix
      case h_2 =>
        refine StaysIn.mono (StaysIn.bind (readAssignment_stays program _) ?_) start
        exact fun value => ih value.1 value.2

/-- The position of an error is the length of what is before the place at which reading stopped. -/
theorem exists_place_of_read_error {source : String} {e : ParseError}
    (failed : (Program.read source : Except ParseError (Program α)) = .error e) :
    ∃ front rest, source.toList = front ++ rest ∧ e.position = byteLength front := by
  rw [Program.read] at failed
  cases result : (readProgram source.toList : Except Misreading (Program α)) with
  | ok program =>
      rw [result] at failed
      cases failed
  | error misreading =>
      have stays : StaysIn source.toList (fun _ => []) (readProgram source.toList : Except Misreading (Program α)) :=
        readAssignments_staysIn 3 ⟨none, none⟩ source.toList
      rw [result] at stays failed
      obtain ⟨front, parts⟩ := stays
      obtain rfl := Except.error.inj failed
      refine ⟨front, misreading.rest, parts.symm, ?_⟩
      rw [Misreading.inText, ← parts, Text.byteLength_append, Nat.add_sub_cancel]

end Programs

section Display

/-- The wording of an error with the line it is about, where the line is cut out of the text at byte offsets: its start
is sought back from the position, and its end on from there.  There is none if a cut is past the end of the text or
within a character. -/
def ParseError.shownBySlices? (e : ParseError) (source : String) : Option (List Char) := do
  let text := source.toList
  let front ← slice? text 0 (min e.position (byteLength text))
  let start := ((lastOffset? '\n' front).map (· + 1)).getD 0
  let rest ← slice? text start (byteLength text)
  let stop := ((firstOffset? '\n' rest).map (start + ·)).getD (byteLength text)
  let line ← slice? text start stop
  some (line ++ '\n' :: (List.replicate (e.position - start) ' ' ++ '^' :: '\n' :: e.message.toList))

variable {e : ParseError} {source : String} {earlier before after later : List Char}

/-- An error is shown under the line that its position is in. -/
theorem ParseError.toList_shown (line : LineAt source.toList earlier before after later)
    (place : e.position = byteLength earlier + byteLength before) :
    (e.shown source).toList = before ++ after ++
      '\n' :: (List.replicate (byteLength before) ' ' ++ '^' :: '\n' :: e.message.toList) := by
  have around := line.lineAround_eq
  rw [← place] at around
  have indent : e.position - byteLength earlier = byteLength before := by
    rw [place, Nat.add_sub_cancel_left]
  simp [shown, showAt, message, around, indent]

/-- No cut that showing an error takes fails. -/
theorem ParseError.shownBySlices?_eq (line : LineAt source.toList earlier before after later)
    (place : e.position = byteLength earlier + byteLength before) :
    e.shownBySlices? source = some (e.shown source).toList := by
  have whole : source.toList = earlier ++ (before ++ after ++ later) := by
    rw [line.whole, List.append_assoc]
  have front : slice? source.toList 0 (min e.position (byteLength source.toList)) = some (earlier ++ before) := by
    have parts : source.toList = earlier ++ before ++ (after ++ later) := by
      rw [line.whole, List.append_assoc]
    rw [parts, place, ← Text.byteLength_append, Text.byteLength_append (earlier ++ before),
      Nat.min_eq_left (Nat.le_add_right _ _)]
    exact Text.slice?_head
  have rest : slice? source.toList (byteLength earlier) (byteLength source.toList) =
      some (before ++ after ++ later) := by
    rw [whole]
    exact Text.slice?_tail
  have shown : slice? source.toList (byteLength earlier) (byteLength earlier + byteLength (before ++ after)) =
      some (before ++ after) := by
    rw [whole]
    exact Text.slice?_append
  have indent : e.position - byteLength earlier = byteLength before := by
    rw [place, Nat.add_sub_cancel_left]
  rw [ParseError.toList_shown line place, shownBySlices?]
  simp only [front, rest, shown, indent, Option.bind_eq_bind, Option.bind_some, line.after_lastOffset?,
    line.before_firstOffset?]

/-- Text that cannot be read is refused with a place in it.  The place is not past the end of the text nor within a
character, so no cut fails that is taken to show it; what is shown first is the line of the place, and below it a mark,
after as many spaces as there are bytes of the line before the place. -/
theorem read_error_shown {α : Type} [Legible α] [Arithmetic α]
    (failed : (Program.read source : Except ParseError (Program α)) = .error e) :
    (e.position ≤ source.utf8ByteSize ∧ String.Pos.Raw.IsValid source ⟨e.position⟩) ∧
      e.shownBySlices? source = some (e.shown source).toList ∧
      ∃ earlier before after later, LineAt source.toList earlier before after later ∧
        e.position = byteLength (earlier ++ before) ∧
        (e.shown source).toList = before ++ after ++
          '\n' :: (List.replicate (byteLength before) ' ' ++ '^' :: '\n' :: e.message.toList) := by
  obtain ⟨front, rest, parts, position⟩ := exists_place_of_read_error failed
  obtain ⟨earlier, before, after, later, line, rfl⟩ := Text.exists_lineAt front rest
  rw [← parts] at line
  have place : e.position = byteLength earlier + byteLength before := by
    rw [position, Text.byteLength_append]
  refine ⟨⟨?_, ?_⟩, ParseError.shownBySlices?_eq line place, earlier, before, after, later, line, position,
    ParseError.toList_shown line place⟩
  · rw [position, ← Text.byteLength_toList, parts, Text.byteLength_append _ rest]
    exact Nat.le_add_right _ _
  · rw [position]
    exact Text.isValid_of_append parts

/-- A word that is no rule, after a wide blank of three bytes and below a comment with a character of two. -/
def misspelledText : String :=
  "# \u00d6l\nentry_condition =\u3000ABOFE(1, 2)\nexit_condition = WARMUP(1)"

/-- The place is 20 bytes after the start of its line. -/
theorem misspelledText_shown :
    let e : ParseError := ⟨.expectedRule "ABOFE", 26⟩
    (Program.read misspelledText : Except ParseError (Program Hundredths)) = .error e ∧
      String.Pos.Raw.IsValid misspelledText ⟨26⟩ ∧
      e.shownBySlices? misspelledText = some ("entry_condition =\u3000ABOFE(1, 2)\n" ++
        "                    ^\n" ++ "parse error at position 26: expected rule, found 'ABOFE'").toList := by
  intro e
  have refused :
      (Program.read misspelledText : Except ParseError (Program Hundredths)).map (fun _ => ()) = .error e := by
    decide +kernel
  have failed : (Program.read misspelledText : Except ParseError (Program Hundredths)) = .error e := by
    cases read : (Program.read misspelledText : Except ParseError (Program Hundredths)) with
    | ok program =>
        rw [read] at refused
        cases refused
    | error found =>
        rw [read] at refused
        exact congrArg Except.error (Except.error.inj refused)
  obtain ⟨⟨-, valid⟩, cut, -⟩ := read_error_shown failed
  exact ⟨failed, valid, cut.trans (by decide +kernel)⟩

end Display

end PaperTrading
