/-
Module: PaperTrading.Proofs.Rule.Tokens
Purpose: What the readers of words, punctuation and parentheses do with text that is written as rules are.
Main exports: EndsToken, splitWord_append, skipCharacter_cons, TooDeep, Fails
-/
import PaperTrading.Proofs.Decimal.ReadBack

namespace PaperTrading

open Text (StopsBefore)

/-- Neither a word nor a number goes on with this text. -/
def EndsToken (rest : List Char) : Prop :=
  StopsBefore (fun c => isNameCharacter c || c == '.') rest

@[simp] theorem endsToken_cons (c : Char) (rest : List Char) :
    EndsToken (c :: rest) ↔ isNameCharacter c = false ∧ c ≠ '.' := by
  simp [EndsToken]

namespace EndsToken

variable {rest : List Char}

theorem stops_word (ends : EndsToken rest) : StopsBefore isNameCharacter rest := by
  intro c head
  have outside := ends c head
  simp_all

theorem stops_numeral (ends : EndsToken rest) : StopsBefore Numeral.continues rest := by
  intro c head
  have outside := ends c head
  simp_all [Numeral.continues, isNameCharacter, Char.isAlphanum]

end EndsToken

/-- A whole word is split off, if it is made of the characters of words. -/
theorem splitWord_append {word : String} {rest : List Char}
    (inside : word.toList.all isNameCharacter = true) (stops : StopsBefore isNameCharacter rest) :
    splitWord (word.toList ++ rest) = (word, rest) := by
  have inside : ∀ c ∈ word.toList, isNameCharacter c = true := List.all_eq_true.1 inside
  rw [splitWord, Text.takeWhile_run inside stops, Text.dropWhile_run inside stops,
    String.ofList_toList]

/-- The characters of names have codes of seven bits above that of the space. -/
theorem toNat_of_isNameCharacter {c : Char} (named : isNameCharacter c = true) :
    32 < c.toNat ∧ c.toNat < 128 := by
  simp only [isNameCharacter, Bool.or_eq_true, beq_iff_eq] at named
  rcases named with alphanumeric | rfl
  · have kinds : (c.isUpper || c.isLower || c.isDigit) = true := alphanumeric
    simp only [Bool.or_eq_true] at kinds
    rcases kinds with (upper | lower) | digit
    · have range : 65 ≤ c.toNat ∧ c.toNat ≤ 90 := of_decide_eq_true upper
      omega
    · have range : (decide (97 ≤ c.toNat) && decide (c.toNat ≤ 122)) = true := lower
      simp only [Bool.and_eq_true, decide_eq_true_eq] at range
      omega
    · obtain ⟨low, high⟩ := Char.isDigit_iff_toNat.1 digit
      exact ⟨Nat.lt_of_lt_of_le (by decide) low, Nat.lt_of_le_of_lt high (by decide)⟩
  · decide

theorem isBlank_of_isNameCharacter {c : Char} (named : isNameCharacter c = true) : Text.isBlank c = false := by
  obtain ⟨low, high⟩ := toNat_of_isNameCharacter named
  exact Text.isBlank_of_visible low high

theorem skipCharacter_cons {c : Char} (visible : Text.isBlank c = false) (rest : List Char) :
    skipCharacter c (c :: rest) = .ok rest := by
  simp [skipCharacter, Text.trimStart_cons_of_not_blank visible]

theorem skipCharacter_space (c : Char) (rest : List Char) :
    skipCharacter c (' ' :: rest) = skipCharacter c rest := by
  simp only [skipCharacter, Text.trimStart_cons_space]

@[simp] theorem skipCharacter_open (rest : List Char) : skipCharacter '(' ('(' :: rest) = .ok rest :=
  skipCharacter_cons (by decide) rest

@[simp] theorem skipCharacter_comma (rest : List Char) : skipCharacter ',' (',' :: rest) = .ok rest :=
  skipCharacter_cons (by decide) rest

/-- The reading stopped because of too many levels. -/
def TooDeep {β : Type} (result : Except Misreading β) : Prop :=
  ∃ rest, result = .error ⟨.tooDeep, rest⟩

theorem TooDeep.map {β γ : Type} {result : Except Misreading β} (deep : TooDeep result) (f : β → γ) :
    TooDeep (result.map f) := by
  obtain ⟨rest, rfl⟩ := deep
  exact ⟨rest, rfl⟩

theorem TooDeep.bind {β γ : Type} {result : Except Misreading β} (deep : TooDeep result)
    (f : β → Except Misreading γ) : TooDeep (result >>= f) := by
  obtain ⟨rest, rfl⟩ := deep
  exact ⟨rest, rfl⟩

/-- The reading stopped at a problem of some kind. -/
def Fails {β : Type} (kind : TextProblem → Prop) (result : Except Misreading β) : Prop :=
  ∃ problem rest, kind problem ∧ result = .error ⟨problem, rest⟩

theorem tooDeep_iff_fails {β : Type} {result : Except Misreading β} :
    TooDeep result ↔ Fails (· = .tooDeep) result := by
  constructor
  · rintro ⟨rest, refused⟩
    exact ⟨.tooDeep, rest, rfl, refused⟩
  · rintro ⟨problem, rest, rfl, refused⟩
    exact ⟨rest, refused⟩

namespace Fails

variable {β γ : Type} {kind : TextProblem → Prop} {result : Except Misreading β}

theorem map (failed : Fails kind result) (f : β → γ) : Fails kind (result.map f) := by
  obtain ⟨problem, rest, of_kind, rfl⟩ := failed
  exact ⟨problem, rest, of_kind, rfl⟩

theorem bind (failed : Fails kind result) (f : β → Except Misreading γ) : Fails kind (result >>= f) := by
  obtain ⟨problem, rest, of_kind, rfl⟩ := failed
  exact ⟨problem, rest, of_kind, rfl⟩

end Fails

section Parentheses

variable {α : Type} {inner : Reader (Operand α)} {text middle rest : List Char}
variable {first second : Operand α}

theorem readOne_fails {kind : TextProblem → Prop} (failed : Fails kind (inner text)) :
    Fails kind (readOne inner ('(' :: text)) := by
  rw [readOne, skipCharacter_open]
  exact failed.bind _

theorem readOne_tooDeep (deep : TooDeep (inner text)) : TooDeep (readOne inner ('(' :: text)) :=
  tooDeep_iff_fails.2 (readOne_fails (tooDeep_iff_fails.1 deep))

theorem readTwo_fails_first {kind : TextProblem → Prop} (failed : Fails kind (inner text)) :
    Fails kind (readTwo inner ('(' :: text)) := by
  rw [readTwo, skipCharacter_open]
  exact failed.bind _

theorem readTwo_fails_second {kind : TextProblem → Prop} (one : inner text = .ok (first, ',' :: middle))
    (failed : Fails kind (inner middle)) : Fails kind (readTwo inner ('(' :: text)) := by
  simp only [readTwo, skipCharacter_open, skipCharacter_comma, bind, Except.bind, one]
  exact failed.bind _

theorem readTwo_tooDeep_first (deep : TooDeep (inner text)) : TooDeep (readTwo inner ('(' :: text)) :=
  tooDeep_iff_fails.2 (readTwo_fails_first (tooDeep_iff_fails.1 deep))

theorem readTwo_tooDeep_second (one : inner text = .ok (first, ',' :: middle))
    (deep : TooDeep (inner middle)) : TooDeep (readTwo inner ('(' :: text)) :=
  tooDeep_iff_fails.2 (readTwo_fails_second one (tooDeep_iff_fails.1 deep))

end Parentheses

end PaperTrading
