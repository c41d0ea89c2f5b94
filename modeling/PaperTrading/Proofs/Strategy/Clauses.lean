/-
Module: PaperTrading.Proofs.Strategy.Clauses
Purpose: Where the numerals stand that are read as thresholds of the index.
Main exports: LeadsToThreshold, thresholdAsking, thresholdClause, mem_thresholdNumerals, rsiNumerals_ordered,
  rsiNumerals_led
-/
import PaperTrading.Proofs.Strategy.Mentions

namespace PaperTrading

open Text (Pattern Excerpt StopsBefore)
open Text.Pattern (Found)

/-- What may stand between the name of the index and its threshold: perhaps its period, and up to forty characters
without a digit. -/
def LeadsToThreshold (words : List Char) : Prop :=
  ∃ period gap, words = period ++ gap ∧ IsPeriod period ∧ (∀ c ∈ gap, Text.isDecimalDigit c = false) ∧ gap.length ≤ 40

/-- The words that ask for a threshold: the name of the index, and what leads from there to the threshold. -/
def thresholdAsking : Asking where
  before := fun words => ∃ more, words = "rsi".toList ++ more ∧ StopsBefore Text.isWordCharacter more ∧
    LeadsToThreshold more
  after := fun _ => False

section Clauses

/-- The text in which the threshold of a mention is looked for: what follows it, up to the next mention. -/
def thresholdClause (text : List Char) (mention : Found) : (later : List Found) → List Char
  | next :: _ => (text.drop mention.stop).take (next.start - mention.stop)
  | [] => text.drop mention.stop

/-- The numeral that is read as a threshold in a clause. -/
def clauseNumeral? (offset : Nat) (clause : List Char) : Option Excerpt :=
  (Phrases.rsiThreshold.matchAt? ⟨none, offset, clause, none⟩).bind (·.excerpt)

theorem thresholdNumerals_cons (text : List Char) (mention : Found) (later : List Found) :
    thresholdNumerals text (mention :: later) =
      (clauseNumeral? mention.stop (thresholdClause text mention later)).toList ++ thresholdNumerals text later := by
  cases later with
  | nil => rfl
  | cons next others => rfl

variable {text clause : List Char} {excerpt : Excerpt} {mention : Found} {later mentions : List Found} {offset : Nat}

theorem thresholdClause_isPrefix : thresholdClause text mention later <+: text.drop mention.stop := by
  cases later with
  | nil => exact List.prefix_refl _
  | cons next others => exact List.take_prefix _ _

/-- A numeral is read as a threshold after text that leads to it. -/
theorem clauseNumeral?_sound (read : clauseNumeral? offset clause = some excerpt) :
    ∃ words rest, LeadsToThreshold words ∧ IsNumeral excerpt.chars ∧
      clause = words ++ (excerpt.chars ++ rest) ∧ excerpt.start = offset + words.length := by
  obtain ⟨found, there, kept⟩ := Option.bind_eq_some_iff.1 read
  obtain ⟨last, way, rfl⟩ := Pattern.matchAt?_sound there
  obtain ⟨period, gap, numeral, isPeriod, noDigit, short, isNumeral, reads, same⟩ := rsiThreshold_reads way
  obtain rfl := Option.some.inj (kept.symm.trans same)
  exact ⟨period ++ gap, last.rest, ⟨period, gap, rfl, isPeriod, noDigit, short⟩, isNumeral,
    reads.rest.trans (List.append_assoc _ _ _), rfl⟩

/-- The numeral of a mention begins before the next mention. -/
theorem clauseNumeral?_lt {next : Found} {others : List Found}
    (read : clauseNumeral? mention.stop (thresholdClause text mention (next :: others)) = some excerpt) :
    excerpt.start < next.start := by
  obtain ⟨words, rest, -, isNumeral, split, start⟩ := clauseNumeral?_sound read
  obtain ⟨digit, more, chars, -⟩ := isNumeral.starts
  have within : (thresholdClause text mention (next :: others)).length ≤ next.start - mention.stop :=
    List.length_take_le _ _
  rw [split, chars, List.length_append, List.length_append, List.length_cons] at within
  omega

/-- A numeral that is read as a threshold follows a mention, after text that leads from there to it. -/
theorem mem_thresholdNumerals (member : excerpt ∈ thresholdNumerals text mentions) :
    ∃ mention ∈ mentions, ∃ words rest, LeadsToThreshold words ∧ IsNumeral excerpt.chars ∧
      text.drop mention.stop = words ++ (excerpt.chars ++ rest) ∧ excerpt.start = mention.stop + words.length := by
  induction mentions with
  | nil => exact nomatch member
  | cons mention later ih =>
      rw [thresholdNumerals_cons, List.mem_append, Option.mem_toList] at member
      rcases member with here | there
      · obtain ⟨words, rest, leads, isNumeral, split, start⟩ := clauseNumeral?_sound here
        have starts : thresholdClause text mention later <+: text.drop mention.stop := thresholdClause_isPrefix
        obtain ⟨beyond, whole⟩ := starts
        refine ⟨mention, List.mem_cons_self, words, rest ++ beyond, leads, isNumeral, ?_, start⟩
        rw [← whole, split, List.append_assoc, List.append_assoc]
      · obtain ⟨mention, among, asked⟩ := ih there
        exact ⟨mention, List.mem_cons_of_mem _ among, asked⟩

/-- The thresholds of mentions that follow one another stand in the same order. -/
theorem thresholdNumerals_ordered (ordered : mentions.Pairwise fun one other => one.stop ≤ other.start)
    (forward : ∀ mention ∈ mentions, mention.start ≤ mention.stop) :
    (thresholdNumerals text mentions).Pairwise fun one other => one.start < other.start := by
  induction mentions with
  | nil => exact .nil
  | cons mention later ih =>
      obtain ⟨-, forwardLater⟩ := List.forall_mem_cons.1 forward
      rw [thresholdNumerals_cons]
      refine List.pairwise_append.2 ⟨?_, ih (List.pairwise_cons.1 ordered).2 forwardLater, ?_⟩
      · cases clauseNumeral? mention.stop (thresholdClause text mention later) with
        | none => exact .nil
        | some excerpt => exact List.pairwise_singleton _ _
      · intro one here other there
        cases later with
        | nil => exact nomatch there
        | cons next others =>
            have before := clauseNumeral?_lt (Option.mem_toList.1 here)
            obtain ⟨mention', among, words, rest, -, -, -, start⟩ := mem_thresholdNumerals there
            have after : next.start ≤ mention'.stop := by
              have forwardNext := forwardLater next List.mem_cons_self
              rcases List.mem_cons.1 among with rfl | beyond
              · exact forwardNext
              · have follows := (List.pairwise_cons.1 (List.pairwise_cons.1 ordered).2).1 mention' beyond
                exact forwardNext.trans (follows.trans (forwardLater mention' among))
            omega

/-- Where the index is mentioned its name stands by itself. -/
theorem mem_findAll_rsiMention (member : mention ∈ Phrases.rsiMention.findAll text) :
    ∃ front, text = front ++ ("rsi".toList ++ text.drop mention.stop) ∧ mention.start = front.length ∧
      mention.stop = (front ++ "rsi".toList).length ∧ front.getLast?.any Text.isWordCharacter = false ∧
      StopsBefore Text.isWordCharacter (text.drop mention.stop) := by
  obtain ⟨front, place, last, skips, -, way, rfl⟩ := Pattern.findAllFrom_sound member
  obtain ⟨reads, before, after⟩ := rsiMention_reads way
  have both := skips.trans reads
  have whole : text = front ++ "rsi".toList ++ last.rest := both.rest
  have stop : last.offset = (front ++ "rsi".toList).length := both.offset.trans (Nat.zero_add _)
  have start : place.offset = front.length := skips.offset.trans (Nat.zero_add _)
  have further : text.drop last.offset = last.rest := by
    rw [stop, whole, List.drop_left]
  rw [skips.before, Option.or_none] at before
  exact ⟨front, by rw [further, whole, List.append_assoc], start, stop, before, further.symm ▸ after⟩

/-- The thresholds of a text are read from left to right. -/
theorem rsiNumerals_ordered (text : List Char) :
    (rsiNumerals text).Pairwise fun one other => one.start < other.start := by
  refine thresholdNumerals_ordered (Pattern.findAllFrom_ordered _ _ _ _ _) ?_
  intro mention member
  obtain ⟨front, -, start, stop, -⟩ := mem_findAll_rsiMention member
  rw [start, stop, List.length_append]
  exact Nat.le_add_right _ _

/-- Words that ask for it lead up to a threshold. -/
theorem rsiNumerals_led (member : excerpt ∈ rsiNumerals text) :
    ∃ before rest, text = before ++ (excerpt.chars ++ rest) ∧ excerpt.start = before.length ∧
      IsNumeral excerpt.chars ∧ thresholdAsking.Leads before := by
  obtain ⟨mention, among, words, rest, leads, isNumeral, split, start⟩ := mem_thresholdNumerals member
  obtain ⟨front, whole, -, stop, edge, apart⟩ := mem_findAll_rsiMention among
  rw [split] at whole apart
  refine ⟨front ++ ("rsi".toList ++ words), rest, ?_, ?_, isNumeral, front, _, rfl, edge, words, rfl, apart.of_append,
    leads⟩
  · rw [whole, List.append_assoc, List.append_assoc]
  · rw [start, stop, ← List.append_assoc, ← List.length_append]

end Clauses

end PaperTrading
