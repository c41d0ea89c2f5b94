/-
Module: PaperTrading.Proofs.Text.Lines
Purpose: Lines of a text, and places in it that are counted in bytes.
Main exports: byteLength_toList, isValid_of_append, dropBytes?, takeBytes?, slice?, firstOffset?, lastOffset?, LineAt,
  LineAt.lineAround_eq, exists_lineAt

A byte offset is a place in a text if it is the length of the characters before it.  Only there can the text be cut.
-/
import PaperTrading.Proofs.Text.Runs
import PaperTrading.Text.Span

namespace PaperTrading.Text

section Places

theorem size_utf8Encode (text : List Char) : text.utf8Encode.size = byteLength text := by
  induction text with
  | nil => rfl
  | cons c text ih =>
      have one : ([c] : List Char).utf8Encode.size = c.utf8Size := by
        rw [List.utf8Encode_singleton, List.size_toByteArray, String.length_utf8EncodeChar]
      rw [List.utf8Encode_cons, ByteArray.size_append, one, ih, byteLength_cons]

theorem byteLength_toList (text : String) : byteLength text.toList = text.utf8ByteSize := by
  rw [← size_utf8Encode, String.utf8Encode_toList]
  rfl

theorem length_le_utf8ByteSize (text : String) : text.toList.length ≤ text.utf8ByteSize := by
  rw [← byteLength_toList]
  induction text.toList with
  | nil => exact Nat.le_refl 0
  | cons c rest ih =>
      have one := c.utf8Size_pos
      rw [byteLength_cons, List.length_cons]
      omega

/-- The length of what is before a part of a text is a place between two characters. -/
theorem isValid_of_append {text : String} {before after : List Char} (parts : text.toList = before ++ after) :
    String.Pos.Raw.IsValid text ⟨byteLength before⟩ := by
  rw [String.Pos.Raw.isValid_iff_exists_append]
  refine ⟨String.ofList before, String.ofList after, ?_, ?_⟩
  · rw [← String.ofList_append, ← parts, String.ofList_toList]
  · rw [String.rawEndPos, ← byteLength_toList, String.toList_ofList]

/-- A text with a character has a byte at least. -/
theorem exists_byteLength_cons (c : Char) (text : List Char) :
    ∃ offset, byteLength (c :: text) = offset + 1 ∧ c.utf8Size ≤ offset + 1 ∧
      offset + 1 - c.utf8Size = byteLength text := by
  have size := c.utf8Size_pos
  rw [byteLength_cons]
  exact ⟨c.utf8Size + byteLength text - 1, by omega, by omega, by omega⟩

theorem splitAtByte_append (before after : List Char) :
    splitAtByte (byteLength before) (before ++ after) = (before, after) := by
  induction before with
  | nil =>
      cases after with
      | nil => rfl
      | cons c after => rfl
  | cons c before ih =>
      obtain ⟨offset, length, -, rest⟩ := exists_byteLength_cons c before
      rw [length, List.cons_append, splitAtByte, rest, ih]

end Places

section Cuts

/-- The text from a byte offset on; none if the offset is past the end or within a character. -/
def dropBytes? : (offset : Nat) → List Char → Option (List Char)
  | 0, text => some text
  | _ + 1, [] => none
  | offset + 1, c :: text => if c.utf8Size ≤ offset + 1 then dropBytes? (offset + 1 - c.utf8Size) text else none

/-- The text up to a byte offset; none if the offset is past the end or within a character. -/
def takeBytes? : (offset : Nat) → List Char → Option (List Char)
  | 0, _ => some []
  | _ + 1, [] => none
  | offset + 1, c :: text =>
    if c.utf8Size ≤ offset + 1 then (takeBytes? (offset + 1 - c.utf8Size) text).map (c :: ·) else none

/-- The text from one byte offset up to another; none if they are in the wrong order, or if the text cannot be cut at
one of them. -/
def slice? (text : List Char) (start stop : Nat) : Option (List Char) :=
  if start ≤ stop then (dropBytes? start text).bind (takeBytes? (stop - start)) else none

/-- The byte offset of the first occurrence of a character. -/
def firstOffset? (sought : Char) : List Char → Option Nat
  | [] => none
  | c :: text => if c = sought then some 0 else (firstOffset? sought text).map (c.utf8Size + ·)

/-- The byte offset of the last occurrence of a character. -/
def lastOffset? (sought : Char) : List Char → Option Nat
  | [] => none
  | c :: text =>
    match lastOffset? sought text with
    | some offset => some (c.utf8Size + offset)
    | none => if c = sought then some 0 else none

variable {before middle after : List Char} {sought : Char}

theorem dropBytes?_append : dropBytes? (byteLength before) (before ++ after) = some after := by
  induction before with
  | nil => rw [byteLength_nil, dropBytes?, List.nil_append]
  | cons c before ih =>
      obtain ⟨offset, length, fits, rest⟩ := exists_byteLength_cons c before
      rw [length, List.cons_append, dropBytes?, if_pos fits, rest, ih]

theorem takeBytes?_append : takeBytes? (byteLength before) (before ++ after) = some before := by
  induction before with
  | nil => rw [byteLength_nil, takeBytes?]
  | cons c before ih =>
      obtain ⟨offset, length, fits, rest⟩ := exists_byteLength_cons c before
      rw [length, List.cons_append, takeBytes?, if_pos fits, rest, ih]
      rfl

/-- A part of a text is cut out at the places where it begins and ends. -/
theorem slice?_append :
    slice? (before ++ (middle ++ after)) (byteLength before) (byteLength before + byteLength middle) = some middle := by
  rw [slice?, if_pos (Nat.le_add_right _ _), dropBytes?_append, Option.bind_some, Nat.add_sub_cancel_left,
    takeBytes?_append]

theorem slice?_head : slice? (before ++ after) 0 (byteLength before) = some before := by
  rw [slice?, if_pos (Nat.zero_le _), dropBytes?, Option.bind_some, Nat.sub_zero, takeBytes?_append]

theorem slice?_tail : slice? (before ++ after) (byteLength before) (byteLength (before ++ after)) = some after := by
  have cut : slice? (before ++ (after ++ [])) (byteLength before) (byteLength before + byteLength after) = some after :=
    slice?_append
  rwa [List.append_nil, ← byteLength_append] at cut

theorem firstOffset?_of_not_mem (absent : sought ∉ before) : firstOffset? sought before = none := by
  induction before with
  | nil => rfl
  | cons c before ih =>
      rw [List.mem_cons, not_or] at absent
      rw [firstOffset?, if_neg (Ne.symm absent.1), ih absent.2]
      rfl

theorem firstOffset?_append (absent : sought ∉ before) :
    firstOffset? sought (before ++ sought :: after) = some (byteLength before) := by
  induction before with
  | nil => rw [List.nil_append, firstOffset?, if_pos rfl, byteLength_nil]
  | cons c before ih =>
      rw [List.mem_cons, not_or] at absent
      rw [List.cons_append, firstOffset?, if_neg (Ne.symm absent.1), ih absent.2]
      rfl

theorem lastOffset?_of_not_mem (absent : sought ∉ after) : lastOffset? sought after = none := by
  induction after with
  | nil => rfl
  | cons c after ih =>
      rw [List.mem_cons, not_or] at absent
      rw [lastOffset?, ih absent.2]
      exact if_neg (Ne.symm absent.1)

theorem lastOffset?_append (absent : sought ∉ after) :
    lastOffset? sought (before ++ sought :: after) = some (byteLength before) := by
  induction before with
  | nil =>
      rw [List.nil_append, lastOffset?, lastOffset?_of_not_mem absent]
      exact if_pos rfl
  | cons c before ih => rw [List.cons_append, lastOffset?, ih, byteLength_cons]

end Cuts

section Lines

/-- A text with a line in it: what is before the line, the line up to a place and from there on, and what is after the
line, with the line ends on both sides. -/
structure LineAt (text earlier before after later : List Char) : Prop where
  whole : text = earlier ++ (before ++ (after ++ later))
  begins : earlier = [] ∨ ∃ lines, earlier = lines ++ ['\n']
  ends : later = [] ∨ ∃ lines, later = '\n' :: lines
  oneLine : '\n' ∉ before ++ after

variable {text earlier before after later : List Char}

/-- What is before a place ends with the part of its line. -/
theorem exists_lineStart (front : List Char) : ∃ earlier before, front = earlier ++ before ∧
    (earlier = [] ∨ ∃ lines, earlier = lines ++ ['\n']) ∧ '\n' ∉ before := by
  by_cases ended : '\n' ∈ front.reverse
  · obtain ⟨line, lines, parts, oneLine⟩ := List.eq_append_cons_of_mem ended
    refine ⟨('\n' :: lines).reverse, line.reverse, ?_, .inr ⟨lines.reverse, List.reverse_cons⟩, ?_⟩
    · rw [← List.reverse_append, ← parts, List.reverse_reverse]
    · rwa [List.mem_reverse]
  · rw [List.mem_reverse] at ended
    exact ⟨[], front, rfl, .inl rfl, ended⟩

/-- What is after a place begins with the part of its line. -/
theorem exists_lineEnd (rest : List Char) : ∃ after later, rest = after ++ later ∧
    (later = [] ∨ ∃ lines, later = '\n' :: lines) ∧ '\n' ∉ after := by
  by_cases ended : '\n' ∈ rest
  · obtain ⟨line, lines, parts, oneLine⟩ := List.eq_append_cons_of_mem ended
    exact ⟨line, '\n' :: lines, parts, .inr ⟨lines, rfl⟩, oneLine⟩
  · exact ⟨rest, [], (List.append_nil rest).symm, .inl rfl, ended⟩

/-- Every place of a text is in a line. -/
theorem exists_lineAt (front rest : List Char) :
    ∃ earlier before after later, LineAt (front ++ rest) earlier before after later ∧ front = earlier ++ before := by
  obtain ⟨earlier, before, rfl, begins, inFront⟩ := exists_lineStart front
  obtain ⟨after, later, rfl, ends, inRest⟩ := exists_lineEnd rest
  exact ⟨earlier, before, after, later,
    ⟨List.append_assoc _ _ _, begins, ends, List.not_mem_append inFront inRest⟩, rfl⟩

/-- The line around a place is the line it is in. -/
theorem LineAt.lineAround_eq (line : LineAt text earlier before after later) :
    lineAround text (byteLength earlier + byteLength before) = (before ++ after, byteLength earlier) := by
  have within {part : List Char} (oneLine : '\n' ∉ part) : ∀ c ∈ part, (c != '\n') = true := by
    intro c member
    rw [bne_iff_ne]
    rintro rfl
    exact oneLine member
  have inFront : '\n' ∉ before.reverse := fun member =>
    line.oneLine (List.mem_append_left _ (List.mem_reverse.1 member))
  have inRest : '\n' ∉ after := fun member => line.oneLine (List.mem_append_right _ member)
  have start : StopsBefore (· != '\n') earlier.reverse := by
    rcases line.begins with rfl | ⟨lines, rfl⟩
    · exact stopsBefore_nil _
    · rw [List.reverse_append]
      exact (stopsBefore_cons _ _ _).2 rfl
  have stop : StopsBefore (· != '\n') later := by
    rcases line.ends with rfl | ⟨lines, rfl⟩
    · exact stopsBefore_nil _
    · exact (stopsBefore_cons _ _ _).2 rfl
  have parts : splitAtByte (byteLength earlier + byteLength before) text = (earlier ++ before, after ++ later) := by
    rw [line.whole, ← List.append_assoc, ← byteLength_append, splitAtByte_append]
  simp only [lineAround, parts, List.reverse_append, takeWhile_run (within inFront) start,
    takeWhile_run (within inRest) stop, List.reverse_reverse, byteLength_append, Nat.add_sub_cancel]

/-- A line begins after the last line end before it, or where the text does. -/
theorem LineAt.after_lastOffset? (line : LineAt text earlier before after later) :
    ((lastOffset? '\n' (earlier ++ before)).map (· + 1)).getD 0 = byteLength earlier := by
  have oneLine : '\n' ∉ before := fun member => line.oneLine (List.mem_append_left _ member)
  rcases line.begins with rfl | ⟨lines, rfl⟩
  · rw [List.nil_append, lastOffset?_of_not_mem oneLine]
    rfl
  · rw [List.append_assoc, List.singleton_append, lastOffset?_append oneLine, byteLength_append]
    rfl

/-- A line ends before the next line end, or where the text does. -/
theorem LineAt.before_firstOffset? (line : LineAt text earlier before after later) :
    ((firstOffset? '\n' (before ++ after ++ later)).map (byteLength earlier + ·)).getD (byteLength text) =
      byteLength earlier + byteLength (before ++ after) := by
  rcases line.ends with rfl | ⟨lines, rfl⟩
  · rw [List.append_nil, firstOffset?_of_not_mem line.oneLine, line.whole, List.append_nil, byteLength_append]
    rfl
  · rw [firstOffset?_append line.oneLine]
    rfl

end Lines

end PaperTrading.Text
