/-
Module: PaperTrading.Proofs.Strategy.Mentions
Purpose: Every number that the index is compared with is read from a description as a threshold.
Main exports: ThresholdMention, mentionsChars, rsiNumerals_mentions
-/
import PaperTrading.Proofs.Rule.Wording
import PaperTrading.Proofs.Strategy.Thresholds

namespace PaperTrading

open Arithmetic (whole lt)
open Text (Pattern Place Excerpt StopsBefore)
open Text.Pattern (Found)

/-- The index, a sign that compares it, and the digits of a number. -/
structure ThresholdMention where
  sign : Char
  digits : List Char
  compares : sign = '<' ∨ sign = '>'
  someDigit : digits ≠ []
  areDigits : ∀ c ∈ digits, c.isDigit = true

/-- The text of a mention after the name of the index, with a blank at its end. -/
def ThresholdMention.clause (mention : ThresholdMention) : List Char :=
  mention.sign :: (mention.digits ++ [' '])

/-- The text of a mention. -/
def ThresholdMention.chars (mention : ThresholdMention) : List Char :=
  "rsi".toList ++ mention.clause

/-- The text of some mentions, one after the other. -/
def mentionsChars (mentions : List ThresholdMention) : List Char :=
  mentions.flatMap (·.chars)

/-- The numbers of some mentions, with their places. -/
def numeralsFrom (offset : Nat) : List ThresholdMention → List Excerpt
  | [] => []
  | mention :: later => ⟨offset + 4, mention.digits⟩ :: numeralsFrom (offset + 5 + mention.digits.length) later

/-- Where the index stands in the text of some mentions. -/
def namesFrom (offset : Nat) : List ThresholdMention → List Found
  | [] => []
  | mention :: later => ⟨offset, offset + 3, none⟩ :: namesFrom (offset + 5 + mention.digits.length) later

section Characters

theorem ThresholdMention.sign_outside (mention : ThresholdMention) :
    Text.isWordCharacter mention.sign = false ∧ Text.isBlank mention.sign = false ∧
      Text.isDecimalDigit mention.sign = false ∧ mention.sign ≠ '(' ∧ mention.sign ≠ 'r' := by
  rcases mention.compares with same | same
  all_goals
    rw [same]
    decide

end Characters

section Names

/-- A mention of the index is its name, between the edges of a word. -/
theorem rsiMention_reads {place last : Place} (way : Phrases.rsiMention.Matches place last) :
    place.Reads "rsi".toList last ∧ place.before.any Text.isWordCharacter = false ∧
      StopsBefore Text.isWordCharacter last.rest := by
  obtain ⟨first, edge, second, name, _, edgeAfter, rfl⟩ := way.steps
  obtain rfl := edge.edge_eq
  obtain rfl := edgeAfter.edge_eq
  have reads := name.reads_literal
  have ends := reads.before_any (by decide) Text.isWordCharacter
  exact ⟨reads, edge.edge_before (reads.head_any rfl), edgeAfter.edge_after (ends.trans rfl)⟩

/-- A mention of the index begins with its name. -/
theorem rsiMention_begins {place last : Place} (way : Phrases.rsiMention.Matches place last) :
    "rsi".toList <+: place.rest :=
  ⟨last.rest, (rsiMention_reads way).1.rest.symm⟩

/-- The index is not mentioned in text without the first letter of its name. -/
theorem rsiMention_passes {run : List Char} (other : 'r' ∉ run) (rest : List Char) :
    Phrases.rsiMention.Passes run rest :=
  Pattern.passes_of_absent [] rsiMention_begins other List.not_mem_nil

/-- The index is mentioned where its name stands between characters that are not part of words. -/
theorem matchAt?_rsiMention {before : Option Char} (outside : before.any Text.isWordCharacter = false) (offset : Nat)
    {sign : Char} (ends : Text.isWordCharacter sign = false) (rest : List Char) :
    Phrases.rsiMention.matchAt? ⟨before, offset, 'r' :: 's' :: 'i' :: sign :: rest, none⟩ =
      some ⟨offset, offset + 3, none⟩ := by
  have first : Text.isWordCharacter 'r' = true := by decide
  have last : Text.isWordCharacter 'i' = true := by decide
  simp [Pattern.matchAt?, Phrases.rsiMention, Pattern.inOrder, Phrases.edge, Pattern.run, Place.atWordEdge,
    Pattern.word, Place.afterWord?, Place.after, outside, ends, first, last]

theorem ThresholdMention.not_mem_clause (mention : ThresholdMention) : 'r' ∉ mention.clause := by
  simp only [clause, List.mem_cons, List.mem_append, List.not_mem_nil, or_false, not_or]
  refine ⟨mention.sign_outside.2.2.2.2.symm, ?_, by decide⟩
  intro member
  exact absurd (mention.areDigits 'r' member) (by decide)

theorem ThresholdMention.getLast?_clause (mention : ThresholdMention) : mention.clause.getLast? = some ' ' := by
  rw [clause, ← List.cons_append, List.getLast?_concat]

theorem ThresholdMention.length_clause (mention : ThresholdMention) :
    mention.clause.length = mention.digits.length + 2 := by
  rw [clause, List.length_cons, List.length_append]
  rfl

/-- The search for the index goes from a mention over the text that follows it. -/
theorem findAllFrom_rsiMention {before : Option Char} (outside : before.any Text.isWordCharacter = false) (offset : Nat)
    {sign : Char} {run : List Char} (ends : Text.isWordCharacter sign = false) (other : 'r' ∉ sign :: run)
    (rest : List Char) :
    Phrases.rsiMention.findAllFrom before offset 0 ("rsi".toList ++ (sign :: run ++ rest)) =
      ⟨offset, offset + 3, none⟩ ::
        Phrases.rsiMention.findAllFrom ((sign :: run).getLast?.or (some 'i')) (offset + 3 + (sign :: run).length) 0
          rest := by
  have here := matchAt?_rsiMention outside offset ends (run ++ rest)
  have later := Pattern.findAllFrom_passes (rsiMention_passes other rest) (some 'i') (offset + 3)
  have text : "rsi".toList ++ (sign :: run ++ rest) = 'r' :: 's' :: 'i' :: sign :: (run ++ rest) := rfl
  have stop : offset + 3 - offset - 1 = 2 := by
    omega
  rw [text, Pattern.findAllFrom, if_neg (Nat.lt_irrefl 0), here]
  -- The two letters after the first belong to the match.
  simp only [stop]
  rw [Pattern.findAllFrom, if_pos (by decide), Pattern.findAllFrom, if_pos (by decide)]
  exact congrArg _ later

/-- The search for the index goes from one mention to the next. -/
theorem findAllFrom_mention (mention : ThresholdMention) {before : Option Char}
    (outside : before.any Text.isWordCharacter = false) (offset : Nat) (rest : List Char) :
    Phrases.rsiMention.findAllFrom before offset 0 (mention.chars ++ rest) =
      ⟨offset, offset + 3, none⟩ ::
        Phrases.rsiMention.findAllFrom (some ' ') (offset + 5 + mention.digits.length) 0 rest := by
  have found := findAllFrom_rsiMention outside offset mention.sign_outside.1 mention.not_mem_clause rest
  have text : mention.chars ++ rest = "rsi".toList ++ (mention.clause ++ rest) := List.append_assoc _ _ _
  have length : offset + 3 + mention.clause.length = offset + 5 + mention.digits.length := by
    rw [mention.length_clause]
    omega
  have last : mention.clause.getLast?.or (some 'i') = some ' ' := by
    rw [mention.getLast?_clause]
    rfl
  rw [← length, ← last, text]
  exact found

/-- The index is found once for each mention. -/
theorem findAllFrom_mentions (mentions : List ThresholdMention) {before : Option Char}
    (outside : before.any Text.isWordCharacter = false) (offset : Nat) :
    Phrases.rsiMention.findAllFrom before offset 0 (mentionsChars mentions) = namesFrom offset mentions := by
  induction mentions generalizing before offset with
  | nil => rfl
  | cons mention later ih =>
      have blank : (some ' ').any Text.isWordCharacter = false := by
        decide
      have text : mentionsChars (mention :: later) = mention.chars ++ mentionsChars later := List.flatMap_cons
      rw [text, findAllFrom_mention mention outside, ih blank]
      rfl

end Names

section Numerals

variable (mention : ThresholdMention)

/-- The number of a mention. -/
def ThresholdMention.amount : Amount :=
  ⟨⟨mention.digits, mention.someDigit, mention.areDigits⟩, none⟩

theorem ThresholdMention.isGap_sign : IsGap [mention.sign] := by
  obtain ⟨-, notBlank, notDigit, notOpening, -⟩ := mention.sign_outside
  exact ⟨by simpa using notDigit, by simpa using notOpening.symm, ⟨mention.sign, List.mem_cons_self, notBlank⟩,
    by simp⟩

/-- The number after the name of the index is read. -/
theorem matchAt?_rsiThreshold (offset : Nat) :
    Phrases.rsiThreshold.matchAt? ⟨none, offset, mention.clause, none⟩ =
      some ⟨offset, offset + 1 + mention.digits.length, some ⟨offset + 1, mention.digits⟩⟩ := by
  have stops : StopsBefore inNumeral [' '] := by
    rw [Text.stopsBefore_cons]
    decide
  exact mention.isGap_sign.matchAt?_rsiThreshold mention.amount stops none offset

end Numerals

section Thresholds

variable (text : List Char)

/-- The number of each mention is read. -/
theorem thresholdNumerals_mentions (mentions : List ThresholdMention) (offset : Nat)
    (here : text.drop offset = mentionsChars mentions) :
    thresholdNumerals text (namesFrom offset mentions) = numeralsFrom offset mentions := by
  induction mentions generalizing offset with
  | nil => rfl
  | cons mention later ih =>
      have split : mentionsChars (mention :: later) = "rsi".toList ++ (mention.clause ++ mentionsChars later) := by
        rw [mentionsChars, List.flatMap_cons, ThresholdMention.chars, List.append_assoc]
        rfl
      have clause : text.drop (offset + 3) = mention.clause ++ mentionsChars later := by
        rw [← List.drop_drop, here, split]
        rfl
      have rest : text.drop (offset + 5 + mention.digits.length) = mentionsChars later := by
        have length : offset + 5 + mention.digits.length = offset + 3 + mention.clause.length := by
          rw [mention.length_clause]
          omega
        rw [length, ← List.drop_drop, clause, List.drop_left]
      rw [namesFrom, thresholdNumerals.eq_def]
      simp only [ih _ rest]
      cases later with
      | nil =>
          have alone : text.drop (offset + 3) = mention.clause := clause.trans (List.append_nil _)
          simp only [namesFrom, alone, matchAt?_rsiThreshold]
          rfl
      | cons next others =>
          have upTo : (text.drop (offset + 3)).take (offset + 5 + mention.digits.length - (offset + 3)) =
              mention.clause := by
            have length : offset + 5 + mention.digits.length - (offset + 3) = mention.clause.length := by
              rw [mention.length_clause]
              omega
            rw [clause, length, List.take_left]
          simp only [namesFrom, upTo, matchAt?_rsiThreshold]
          rfl

/-- From the text of some mentions the numbers are read in their order. -/
theorem rsiNumerals_mentions (mentions : List ThresholdMention) :
    rsiNumerals (mentionsChars mentions) = numeralsFrom 0 mentions := by
  rw [rsiNumerals, Pattern.findAll, findAllFrom_mentions mentions rfl 0]
  exact thresholdNumerals_mentions _ mentions 0 rfl

variable {α : Type} [Arithmetic α] [Legible α]

/-- The number that a mention compares the index with. -/
def ThresholdMention.threshold (mention : ThresholdMention) : α :=
  Legible.ofNumeral ⟨false, Numeral.digitsValue mention.digits, 0⟩

omit [Arithmetic α] in
theorem ThresholdMention.number? (mention : ThresholdMention) (offset : Nat) :
    Text.Excerpt.number? (α := α) ⟨offset, mention.digits⟩ = some mention.threshold := by
  have spelled := Numeral.Spelling.whole false mention.areDigits mention.someDigit
  have scanned : Numeral.scan mention.digits = some (⟨false, Numeral.digitsValue mention.digits, 0⟩, []) := by
    simpa [Numeral.sign] using spelled.scan_eq (Text.stopsBefore_nil _)
  simp [Text.Excerpt.number?, Numeral.read?, scanned, ThresholdMention.threshold]

/-- The entry conditions that thresholds stand for. -/
def oversoldConditions (thresholds : List α) : List (Condition α) :=
  (thresholds.filter fun t => lt t (whole 40)).map .rsiBelow

/-- The exit conditions that thresholds stand for. -/
def overboughtConditions (thresholds : List α) : List (Condition α) :=
  (thresholds.filter fun t => !lt t (whole 40) && lt (whole 60) t).map .rsiAbove

/-- What some mentions say about the index. -/
theorem rsiMentioned_mentions (mentions : List ThresholdMention) :
    (rsiMentioned (mentionsChars mentions) : Mention α) =
      ⟨.rsi, oversoldConditions (mentions.map (·.threshold)), overboughtConditions (mentions.map (·.threshold))⟩ := by
  have read (offset : Nat) : (numeralsFrom offset mentions).filterMap (Text.Excerpt.number? (α := α)) =
      mentions.map (·.threshold) := by
    induction mentions generalizing offset with
    | nil => rfl
    | cons mention later ih =>
        rw [numeralsFrom, List.filterMap_cons, mention.number?]
        exact congrArg (mention.threshold :: ·) (ih _)
  simp only [rsiMentioned, rsiNumerals_mentions, read]
  rfl

end Thresholds

section Descriptions

theorem isAscii_of_isDigit {c : Char} (digit : c.isDigit = true) : c.toNat < 128 ∧ c.toLower = c := by
  obtain ⟨low, high⟩ := Char.isDigit_iff_toNat.1 digit
  have small : c.toNat < 128 := Nat.lt_of_le_of_lt high (by decide)
  have every := Text.forall_ascii (fun c => c.isDigit = true → c.toLower = c) (by decide +kernel) small
  exact ⟨small, every digit⟩

/-- Mentions are written in lower case. -/
theorem lowerCase_mentions (mentions : List ThresholdMention) :
    Text.lowerCase (mentionsChars mentions) = mentionsChars mentions := by
  have lower : ∀ c ∈ mentionsChars mentions, c.toNat < 128 ∧ c.toLower = c := by
    intro c member
    obtain ⟨mention, -, within⟩ := List.mem_flatMap.1 member
    simp only [ThresholdMention.chars, ThresholdMention.clause, List.mem_append, List.mem_cons, List.not_mem_nil,
      or_false] at within
    rcases within with name | rfl | digit | rfl
    · have letters : c = 'r' ∨ c = 's' ∨ c = 'i' := by
        simpa using name
      rcases letters with rfl | rfl | rfl
      all_goals decide
    · rcases mention.compares with same | same
      all_goals
        rw [same]
        decide
    · exact isAscii_of_isDigit (mention.areDigits c digit)
    · decide
  rw [Text.lowerCase, Text.lowerFrom_of_ascii fun c member => (lower c member).1]
  calc (mentionsChars mentions).map Char.toLower = (mentionsChars mentions).map id :=
        List.map_congr_left fun c member => (lower c member).2
    _ = mentionsChars mentions := List.map_id _

variable {α : Type} [Arithmetic α] [Legible α]

/-- The index comes first among the indicators of a description that begins with a mention of it. -/
theorem mentionedIn_mentions (mention : ThresholdMention) (later : List ThresholdMention) :
    ∃ others : List (Mention α), mentionedIn (mentionsChars (mention :: later)) =
      rsiMentioned (mentionsChars (mention :: later)) :: others := by
  have found : Phrases.rsiMention.occursIn (mentionsChars (mention :: later)) = true := by
    have text : mentionsChars (mention :: later) =
        'r' :: 's' :: 'i' :: mention.sign :: (mention.digits ++ [' '] ++ mentionsChars later) := rfl
    have here : Phrases.rsiMention.matchAt? ⟨none, 0, _, none⟩ = _ :=
      matchAt?_rsiMention rfl 0 mention.sign_outside.1 (mention.digits ++ [' '] ++ mentionsChars later)
    rw [Pattern.occursIn, Pattern.find?, text, Pattern.findFrom?, here]
    rfl
  rw [mentionedIn, if_pos found]
  exact ⟨_, rfl⟩

omit [Legible α] in
/-- Conditions that are all different are kept. -/
theorem distinctFrom_append {conditions more seen : List (Condition α)}
    (different : conditions.Pairwise fun a b => (b == a) = false)
    (fresh : ∀ condition ∈ conditions, seen.contains condition = false) :
    ∃ others, distinctFrom seen (conditions ++ more) = conditions ++ others := by
  induction conditions generalizing seen with
  | nil => exact ⟨_, rfl⟩
  | cons condition later ih =>
      obtain ⟨here, differentLater⟩ := List.pairwise_cons.1 different
      obtain ⟨new, freshLater⟩ := List.forall_mem_cons.1 fresh
      have unseen : ∀ other ∈ later, (condition :: seen).contains other = false := by
        intro other member
        rw [List.contains_cons, here other member, freshLater other member]
        rfl
      obtain ⟨others, same⟩ := ih differentLater unseen
      refine ⟨others, ?_⟩
      rw [List.cons_append, distinctFrom, new, if_neg Bool.false_ne_true, same]
      rfl

/-- The conditions on the index come first among those of a description that begins with a mention of it. -/
theorem interpret_mentions (mention : ThresholdMention) (later : List ThresholdMention) (category : String) :
    let intent : Intent α := interpret (String.ofList (mentionsChars (mention :: later))) category
    let thresholds : List α := (mention :: later).map (·.threshold)
    ∃ moreEntries moreExits,
      intent.entryConditions = distinctFrom [] (oversoldConditions thresholds ++ moreEntries) ∧
        intent.exitConditions = distinctFrom [] (overboughtConditions thresholds ++ moreExits) := by
  obtain ⟨others, mentioned⟩ := mentionedIn_mentions (α := α) mention later
  have text : Text.lowerCase (String.ofList (mentionsChars (mention :: later))).toList =
      mentionsChars (mention :: later) := by
    rw [String.toList_ofList, lowerCase_mentions]
  rw [rsiMentioned_mentions] at mentioned
  refine ⟨others.flatMap (·.entries), others.flatMap (·.exits), ?_, ?_⟩
  · simp only [interpret, text, mentioned, List.flatMap_cons]
  · simp only [interpret, text, mentioned, List.flatMap_cons]

end Descriptions

end PaperTrading
