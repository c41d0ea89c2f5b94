/-
Module: PaperTrading.Proofs.Rule.Wording
Purpose: No denied word can occur in text that is made of the words of rules.
Main exports: Plain, Plain.deniedWord?_eq_none

Each denied word has two characters side by side that rule text never has.  That is kept by putting pieces of rule
text together at punctuation, so it is enough to look at the words one by one.
-/
import Mathlib.Data.List.Chain
import PaperTrading.Proofs.Text.Runs
import PaperTrading.Rule.Rulebook

namespace PaperTrading

namespace Text

theorem occursIn_eq_true_iff (word text : List Char) : occursIn word text = true ↔ word <:+: text := by
  induction text with
  | nil => simp [occursIn, List.isEmpty_iff]
  | cons c rest ih =>
      rw [occursIn, Bool.or_eq_true, List.isPrefixOf_iff_prefix, ih, List.infix_cons_iff]

/-- The characters of seven bits are lowered one by one. -/
theorem lowerFrom_of_ascii {text : List Char} (ascii : ∀ c ∈ text, c.toNat < 128) (before : List Char) :
    lowerFrom before text = text.map Char.toLower := by
  induction text generalizing before with
  | nil => rfl
  | cons c rest ih =>
      obtain ⟨small, later⟩ := List.forall_mem_cons.1 ascii
      have noSigma : (c == 'Σ') = false := by
        rw [beq_eq_false_iff_ne]
        rintro rfl
        exact absurd small (by decide)
      simp only [lowerFrom, noSigma, lowerOne, if_pos small, ih later, List.map_cons]
      rfl

end Text

/-- Pairs of characters that do not stand side by side in rule text, in any case. -/
def foreignPairs : List (Char × Char) :=
  [('m', 'p'), ('_', '_'), ('x', 'e'), ('e', 'v'), ('i', 'l'), ('s', '.'), ('b', 'p'), ('c', 'k'), ('y', 's'),
    ('p', 'o'), ('g', 'l'), ('o', 'c'), ('t', 't'), ('m', 'b'), ('n', 'p'), ('u', 'r'), ('e', 'q'), ('t', 'd'),
    ('n', 's')]

/-- Pairs that do not stand side by side in rule text in this case: a word before a parenthesis is in capitals, and
no word in capitals has the last of these pairs. -/
def foreignCasedPairs : List (Char × Char) :=
  [('n', '('), ('e', 'N'), ('E', 'N')]

/-- Whether the first of two characters may stand right before the second in rule text. -/
def adjoins (first second : Char) : Bool :=
  !foreignPairs.contains (first.toLower, second.toLower) && !foreignCasedPairs.contains (first, second)

/-- Text of seven-bit characters without a foreign pair. -/
structure Plain (text : List Char) : Prop where
  ascii : ∀ c ∈ text, c.toNat < 128
  chain : text.IsChain fun first second => adjoins first second = true

/-- Whether a text is plain, character by character. -/
def isPlain : List Char → Bool
  | [] => true
  | [c] => c.toNat < 128
  | first :: second :: rest => first.toNat < 128 && adjoins first second && isPlain (second :: rest)

theorem isPlain_iff (text : List Char) : isPlain text = true ↔ Plain text := by
  fun_induction isPlain text with
  | case1 =>
      constructor
      · intro _
        exact ⟨by simp, .nil⟩
      · intro _
        rfl
  | case2 c =>
      constructor
      · intro small
        exact ⟨by simpa using small, .singleton c⟩
      · intro plain
        simpa using plain.ascii
  | case3 first second rest ih =>
      rw [Bool.and_eq_true, Bool.and_eq_true, decide_eq_true_iff, ih]
      constructor
      · rintro ⟨⟨small, joined⟩, plain⟩
        exact ⟨List.forall_mem_cons.2 ⟨small, plain.ascii⟩, .cons_cons joined plain.chain⟩
      · rintro ⟨ascii, chain⟩
        obtain ⟨small, later⟩ := List.forall_mem_cons.1 ascii
        obtain ⟨joined, chain⟩ := List.isChain_cons_cons.1 chain
        exact ⟨⟨small, joined⟩, later, chain⟩

instance (text : List Char) : Decidable (Plain text) :=
  decidable_of_iff (isPlain text = true) (isPlain_iff text)

section Spelling

/-- The characters with a given lower case. -/
def casings (c : Char) : List Char :=
  if c.isLower then [c, c.toUpper] else [c]

/-- Whether plain text can go on in these letters, of any case, after one of the given characters. -/
def continuesPlainly (before : List Char) : List Char → Bool
  | [] => true
  | c :: rest =>
    let next := (casings c).filter fun d => before.any fun b => adjoins b d
    !next.isEmpty && continuesPlainly next rest

/-- Whether plain text can have these letters in a row, of any case. -/
def isSpelledPlainly : List Char → Bool
  | [] => true
  | c :: rest => continuesPlainly (casings c) rest

theorem mem_casings_toLower {c : Char} (ascii : c.toNat < 128) : c ∈ casings c.toLower :=
  Text.forall_ascii (fun c => c ∈ casings c.toLower) (by decide +kernel) ascii

theorem continuesPlainly_of_plain {text before : List Char} {c : Char} (member : c ∈ before)
    (plain : Plain (c :: text)) : continuesPlainly before (text.map Char.toLower) = true := by
  induction text generalizing before c with
  | nil => rfl
  | cons d rest ih =>
      obtain ⟨-, ascii⟩ := List.forall_mem_cons.1 plain.ascii
      obtain ⟨joined, chain⟩ := List.isChain_cons_cons.1 plain.chain
      have next : d ∈ (casings d.toLower).filter fun d => before.any fun b => adjoins b d := by
        refine List.mem_filter.2 ⟨mem_casings_toLower (ascii d List.mem_cons_self), ?_⟩
        exact List.any_eq_true.2 ⟨c, member, joined⟩
      have nonempty := List.isEmpty_eq_false_iff_exists_mem.2 ⟨d, next⟩
      simp only [List.map_cons, continuesPlainly, nonempty]
      exact ih next ⟨ascii, chain⟩

theorem isSpelledPlainly_of_plain {text : List Char} (plain : Plain text) :
    isSpelledPlainly (text.map Char.toLower) = true := by
  cases text with
  | nil => rfl
  | cons c rest =>
      have ascii := plain.ascii c List.mem_cons_self
      exact continuesPlainly_of_plain (mem_casings_toLower ascii) plain

theorem deniedWords_not_spelled : ∀ word ∈ deniedWords, isSpelledPlainly word.toList = false := by
  decide +kernel

end Spelling

theorem Plain.of_infix {piece text : List Char} (plain : Plain text) (within : piece <:+: text) : Plain piece :=
  ⟨fun c member => plain.ascii c (within.subset member), plain.chain.infix within⟩

/-- Plain text has no denied word. -/
theorem Plain.deniedWord?_eq_none {source : String} (plain : Plain source.toList) :
    deniedWord? source = none := by
  simp only [deniedWord?, List.find?_eq_none]
  intro word denied occurs
  rw [Text.occursIn_eq_true_iff, Text.lowerCase, Text.lowerFrom_of_ascii plain.ascii,
    List.infix_map_iff] at occurs
  obtain ⟨piece, within, lowered⟩ := occurs
  have spelled := isSpelledPlainly_of_plain (plain.of_infix within)
  rw [← lowered, deniedWords_not_spelled word denied] at spelled
  exact Bool.false_ne_true spelled

theorem Plain.scanText {source : String} (plain : Plain source.toList) : scanText source = .ok () := by
  rw [PaperTrading.scanText, plain.deniedWord?_eq_none]

section Joining

/-- The characters that foreign pairs start with, but for their case. -/
def isLetter (c : Char) : Bool :=
  c.isAlpha || c == '_'

/-- The punctuation that ends a piece of rule text. -/
def isClosing (c : Char) : Bool :=
  c == ' ' || c == ',' || c == ')' || c == '\n'

theorem toLower_of_not_letter {c : Char} (ascii : c.toNat < 128) (loose : isLetter c = false) : c.toLower = c :=
  Text.forall_ascii (fun c => isLetter c = false → c.toLower = c) (by decide +kernel) ascii loose

/-- What is no letter may stand before any character. -/
theorem adjoins_of_not_letter {first : Char} (ascii : first.toNat < 128) (loose : isLetter first = false)
    (second : Char) : adjoins first second = true := by
  have letters : ∀ pair ∈ foreignPairs ++ foreignCasedPairs, isLetter pair.1 = true := by
    decide
  have absent : ∀ next, (first, next) ∉ foreignPairs ++ foreignCasedPairs := by
    intro next member
    have letter := letters _ member
    rw [loose] at letter
    exact Bool.noConfusion letter
  simp only [List.mem_append, not_or] at absent
  simp [adjoins, toLower_of_not_letter ascii loose, absent]

theorem adjoins_of_closing {second : Char} (closing : isClosing second = true) (first : Char) :
    adjoins first second = true := by
  simp only [isClosing, Bool.or_eq_true, beq_iff_eq] at closing
  rcases closing with ((rfl | rfl) | rfl) | rfl
  · simp [adjoins, foreignPairs, foreignCasedPairs]
  · simp [adjoins, foreignPairs, foreignCasedPairs]
  · simp [adjoins, foreignPairs, foreignCasedPairs]
  · simp [adjoins, foreignPairs, foreignCasedPairs]

variable {front back : List Char}

theorem Plain.append (one : Plain front) (two : Plain back)
    (join : ∀ first ∈ front.getLast?, ∀ second ∈ back.head?, adjoins first second = true) :
    Plain (front ++ back) := by
  refine ⟨?_, List.isChain_append.2 ⟨one.chain, two.chain, join⟩⟩
  intro c member
  exact (List.mem_append.1 member).elim (one.ascii c) (two.ascii c)

/-- Text in which no letter stands last. -/
def EndsLoosely (text : List Char) : Prop :=
  ∀ c ∈ text.getLast?, isLetter c = false

instance (text : List Char) : Decidable (EndsLoosely text) :=
  Option.decidableForallMem text.getLast?

theorem EndsLoosely.append (front : List Char) (loose : EndsLoosely back) (nonempty : back ≠ []) :
    EndsLoosely (front ++ back) := by
  intro c last
  rw [List.getLast?_append_of_ne_nil front nonempty] at last
  exact loose c last

/-- Text in which no punctuation stands first but what closes a piece. -/
def StartsClosing (text : List Char) : Prop :=
  ∀ c ∈ text.head?, isClosing c = true

instance (text : List Char) : Decidable (StartsClosing text) :=
  Option.decidableForallMem text.head?

theorem Plain.append_of_loose (one : Plain front) (loose : EndsLoosely front) (two : Plain back) :
    Plain (front ++ back) :=
  one.append two fun first last second _ =>
    adjoins_of_not_letter (one.ascii first (List.mem_of_mem_getLast? last)) (loose first last) second

theorem Plain.append_of_closing (one : Plain front) (two : Plain back) (closing : StartsClosing back) :
    Plain (front ++ back) :=
  one.append two fun first _ second head => adjoins_of_closing (closing second head) first

/-- Text without letters is plain. -/
theorem Plain.of_no_letters {text : List Char} (ascii : ∀ c ∈ text, c.toNat < 128)
    (loose : ∀ c ∈ text, isLetter c = false) : Plain text := by
  induction text with
  | nil => exact ⟨ascii, List.IsChain.nil⟩
  | cons c rest ih =>
      obtain ⟨small, restSmall⟩ := List.forall_mem_cons.1 ascii
      obtain ⟨first, later⟩ := List.forall_mem_cons.1 loose
      have head : Plain [c] := ⟨by simpa using small, List.IsChain.singleton c⟩
      exact head.append_of_loose (by simpa [EndsLoosely] using first) (ih restSmall later)

end Joining

end PaperTrading
