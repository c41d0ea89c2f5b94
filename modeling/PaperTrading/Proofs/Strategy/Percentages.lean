/-
Module: PaperTrading.Proofs.Strategy.Percentages
Purpose: Which words ask for a percentage, and where they stand when one is read.
Main exports: IsNumeral, Asking, Asking.Reads, stopLossPhrase_reads, takeProfitPhrase_reads, IsPercentageIn,
  Asking.Asks, Asking.At, stopLossNumeral?_at, takeProfitNumeral?_at
-/
import PaperTrading.Proofs.Text.Search
import PaperTrading.Strategy.Interpretation

namespace PaperTrading

open Text (Pattern Place Excerpt IsRun StopsBefore)

section Numerals

/-- A character of a numeral. -/
def inNumeral (c : Char) : Bool :=
  Text.isDecimalDigit c || c == '.'

/-- A numeral begins with a digit and is made of digits and points. -/
structure IsNumeral (text : List Char) : Prop where
  starts : ∃ digit more, text = digit :: more ∧ Text.isDecimalDigit digit = true
  inside : ∀ c ∈ text, inNumeral c = true

variable {place last : Place}

theorem digits_reads (way : Phrases.digits.Matches place last) :
    ∃ run, IsNumeral run ∧ (∀ c ∈ run, Text.isDecimalDigit c = true) ∧ place.Reads run last := by
  obtain ⟨run, isRun, reads⟩ := way.reads_repeated
  have numeral : ∀ c ∈ run, inNumeral c = true := by
    intro c member
    rw [inNumeral, isRun.inClass c member, Bool.true_or]
  cases run with
  | nil => exact absurd isRun.enough (by decide)
  | cons digit more =>
      exact ⟨_, ⟨⟨digit, more, rfl, isRun.inClass digit List.mem_cons_self⟩, numeral⟩, isRun.inClass, reads⟩

theorem amount_reads (way : Phrases.amount.Matches place last) :
    ∃ numeral, IsNumeral numeral ∧ place.Reads numeral last ∧ last.excerpt = some ⟨place.offset, numeral⟩ := by
  obtain ⟨stop, numeral, inner, within, reads, kept⟩ := way.reads_kept
  refine ⟨numeral, ?_, reads, kept⟩
  cases inner with
  | @sequence _ _ _ between _ whole further =>
      obtain ⟨digits, ⟨⟨digit, more, rfl, isDigit⟩, inside⟩, -, first⟩ := digits_reads whole
      have later : ∃ run, (∀ c ∈ run, inNumeral c = true) ∧ between.Reads run stop := by
        cases further with
        | first way =>
            cases way with
            | sequence point fraction =>
                obtain ⟨run, isNumeral, -, second⟩ := digits_reads fraction
                have dot : ∀ c ∈ ".".toList, inNumeral c = true := by
                  decide
                exact ⟨_, List.forall_mem_append.2 ⟨dot, isNumeral.inside⟩, point.reads_literal.trans second⟩
        | second way =>
            cases way with
            | nothing => exact ⟨[], List.forall_mem_nil _, .refl _⟩
      obtain ⟨run, fits, second⟩ := later
      have same : numeral = digit :: more ++ run := within.unique (first.trans second)
      subst same
      exact ⟨⟨digit, more ++ run, rfl, isDigit⟩, List.forall_mem_append.2 ⟨inside, fits⟩⟩

/-- A percentage is a numeral, perhaps blanks, and the sign. -/
theorem percentage_reads (way : Phrases.percentage.Matches place last) :
    ∃ numeral gap, IsNumeral numeral ∧ (∀ c ∈ gap, Text.isBlank c = true) ∧
      place.Reads (numeral ++ (gap ++ ['%'])) last ∧ last.excerpt = some ⟨place.offset, numeral⟩ := by
  obtain ⟨first, amount, second, blanks, third, sign, rfl⟩ := way.steps
  obtain ⟨numeral, isNumeral, one, kept⟩ := amount_reads amount
  obtain ⟨gap, isRun, two⟩ := blanks.reads_repeated
  have keeps : third.excerpt = first.excerpt := (sign.keeps rfl).trans (blanks.keeps rfl)
  exact ⟨numeral, gap, isNumeral, isRun.inClass, one.trans (two.trans sign.reads_literal), keeps.trans kept⟩

/-- Where text goes on after a run without a percent sign, a percentage has its sign there or goes over that place. -/
theorem percentage_split {numeral gap tail run rest : List Char} {c : Char} (isNumeral : IsNumeral numeral)
    (blank : ∀ d ∈ gap, Text.isBlank d = true) (noSign : '%' ∉ run)
    (same : numeral ++ (gap ++ '%' :: tail) = run ++ c :: rest) :
    (numeral ++ gap = run ∧ '%' = c ∧ tail = rest) ∨ inNumeral c = true ∨ Text.isBlank c = true := by
  rw [← List.append_assoc] at same
  rcases List.append_eq_append_iff.1 same with ⟨further, rfl, next⟩ | ⟨further, inside, next⟩
  · cases further with
    | nil =>
        obtain ⟨sign, later⟩ := List.cons.inj next
        exact .inl ⟨(List.append_nil _).symm, sign, later⟩
    | cons d further =>
        obtain rfl := (List.cons.inj next).1
        exact absurd (List.mem_append_right _ List.mem_cons_self) noSign
  · cases further with
    | nil =>
        obtain ⟨sign, later⟩ := List.cons.inj next
        exact .inl ⟨inside.trans (List.append_nil _), sign.symm, later.symm⟩
    | cons d further =>
        obtain rfl := (List.cons.inj next).1
        have member : c ∈ numeral ++ gap := inside ▸ List.mem_append_right run List.mem_cons_self
        rcases List.mem_append.1 member with inNumber | inGap
        · exact .inr (.inl (isNumeral.inside c inNumber))
        · exact .inr (.inr (blank c inGap))

end Numerals

section Words

/-- A character within a clause other than a digit. -/
def inClause (c : Char) : Bool :=
  !(c == ',' || c == ';' || c == '.' || Text.isDecimalDigit c)

/-- A blank or a hyphen. -/
def isJoint (c : Char) : Bool :=
  Text.isBlank c || c == '-'

/-- Text between two words of a clause, and apart from them. -/
structure IsWordGap (gap : List Char) : Prop where
  inside : ∀ c ∈ gap, inClause c = true
  nonempty : gap ≠ []
  opens : StopsBefore Text.isWordCharacter gap
  closes : gap.getLast?.any Text.isWordCharacter = false

/-- Text of a clause after a word and apart from it. -/
structure IsApproach (text : List Char) : Prop where
  inside : ∀ c ∈ text, inClause c = true
  opens : StopsBefore Text.isWordCharacter text

/-- Words that ask for a percentage: those that may stand before its numeral, and those that may stand after its sign. -/
structure Asking where
  before : List Char → Prop
  after : List Char → Prop

/-- The words that ask for a stop loss. -/
def stopLossAsking : Asking where
  before := fun words => ∃ gap more, words = "stop".toList ++ (gap ++ "loss".toList) ++ more ∧ IsWordGap gap ∧
    IsApproach more
  after := fun words => ∃ blanks joints, words = blanks ++ ("stop".toList ++ (joints ++ "loss".toList)) ∧
    (∀ c ∈ blanks, Text.isBlank c = true) ∧ ∀ c ∈ joints, isJoint c = true

/-- The words for a profit target. -/
def TargetWords (words : List Char) : Prop :=
  ∃ joints, words = "profit".toList ++ (joints ++ "target".toList) ∧ ∀ c ∈ joints, isJoint c = true

/-- The words that ask for a take profit. -/
def takeProfitAsking : Asking where
  before := fun words => ∃ target more, words = target ++ more ∧ IsApproach more ∧
    ((∃ gap, (target = "take".toList ++ (gap ++ "profit".toList) ∨ target = "take".toList ++ (gap ++ "profits".toList)) ∧
        IsWordGap gap) ∨
      TargetWords target)
  after := fun words => ∃ blanks target, words = blanks ++ target ∧ (∀ c ∈ blanks, Text.isBlank c = true) ∧
    ((∃ joints, target = "take".toList ++ (joints ++ "profit".toList) ∧ ∀ c ∈ joints, isJoint c = true) ∨
      TargetWords target)

/-- What is read from one place to another is a percentage with words that ask for it, and its numeral is kept. -/
inductive Asking.Reads (asking : Asking) (place last : Place) : Prop
  | before {words numeral gap : List Char} (asks : asking.before words)
      (edge : place.before.any Text.isWordCharacter = false) (isNumeral : IsNumeral numeral)
      (blank : ∀ c ∈ gap, Text.isBlank c = true) (reads : place.Reads (words ++ (numeral ++ (gap ++ ['%']))) last)
      (kept : last.excerpt = some ⟨place.offset + words.length, numeral⟩)
  | after {words numeral gap : List Char} (asks : asking.after words) (isNumeral : IsNumeral numeral)
      (blank : ∀ c ∈ gap, Text.isBlank c = true) (reads : place.Reads (numeral ++ (gap ++ '%' :: words)) last)
      (kept : last.excerpt = some ⟨place.offset, numeral⟩)

variable {place between last : Place} {words : List Char} {asking : Asking}

theorem stopLossAsking_begins (asks : stopLossAsking.before words) : "stop".toList <+: words := by
  obtain ⟨gap, more, rfl, -⟩ := asks
  exact (List.prefix_append _ _).trans (List.prefix_append _ _)

theorem takeProfitAsking_begins (asks : takeProfitAsking.before words) :
    "take".toList <+: words ∨ "profit".toList <+: words := by
  obtain ⟨target, more, rfl, -, ⟨gap, rfl | rfl, -⟩ | ⟨joints, rfl, -⟩⟩ := asks
  · exact .inl ((List.prefix_append _ _).trans (List.prefix_append _ _))
  · exact .inl ((List.prefix_append _ _).trans (List.prefix_append _ _))
  · exact .inr ((List.prefix_append _ _).trans (List.prefix_append _ _))

/-- The words after a sign that ask for a take profit begin with blanks or with one of two letters. -/
theorem takeProfitAsking_head (asks : takeProfitAsking.after words) :
    ∃ c more, words = c :: more ∧ (Text.isBlank c = true ∨ c = 't' ∨ c = 'p') := by
  obtain ⟨blanks, target, rfl, blank, named⟩ := asks
  cases blanks with
  | nil =>
      obtain ⟨joints, rfl, -⟩ | ⟨joints, rfl, -⟩ := named
      · exact ⟨'t', _, rfl, .inr (.inl rfl)⟩
      · exact ⟨'p', _, rfl, .inr (.inr rfl)⟩
  | cons c blanks => exact ⟨c, _, rfl, .inl (blank c List.mem_cons_self)⟩

/-- Words, and then a percentage. -/
theorem Asking.Reads.of_before (asks : asking.before words) (edge : place.before.any Text.isWordCharacter = false)
    (reads : place.Reads words between)
    (way : Phrases.percentage.Matches between last) : asking.Reads place last := by
  obtain ⟨numeral, gap, isNumeral, blank, later, kept⟩ := percentage_reads way
  exact .before asks edge isNumeral blank (reads.trans later) (reads.offset ▸ kept)

/-- A percentage, and then words. -/
theorem Asking.Reads.of_after (way : Phrases.percentage.Matches place between) (asks : asking.after words)
    (reads : between.Reads words last) (keeps : last.excerpt = between.excerpt) : asking.Reads place last := by
  obtain ⟨numeral, gap, isNumeral, blank, first, kept⟩ := percentage_reads way
  have both := first.trans reads
  rw [List.append_assoc, List.append_assoc] at both
  exact .after asks isNumeral blank both (keeps.trans kept)

theorem clauseGap_reads (way : Phrases.clauseGap.Matches place last) :
    ∃ run, (∀ c ∈ run, inClause c = true) ∧ place.Reads run last := by
  obtain ⟨run, isRun, reads⟩ := way.reads_repeated
  exact ⟨run, isRun.inClass, reads⟩

theorem joints_reads (way : Phrases.joints.Matches place last) :
    ∃ run, (∀ c ∈ run, isJoint c = true) ∧ place.Reads run last := by
  obtain ⟨run, isRun, reads⟩ := way.reads_repeated
  exact ⟨run, isRun.inClass, reads⟩

/-- What is read between the edges of two words is apart from them. -/
theorem isWordGap_of_edges {gap : List Char} (inside : ∀ c ∈ gap, inClause c = true) (reads : place.Reads gap last)
    (after : StopsBefore Text.isWordCharacter place.rest) (next : last.rest.head?.any Text.isWordCharacter = true)
    (before : last.before.any Text.isWordCharacter = false) : IsWordGap gap := by
  have nonempty : gap ≠ [] := by
    rintro rfl
    obtain ⟨c, head, word⟩ := (Option.any_eq_true _ _).1 next
    have outside := after c (by rw [reads.rest]; exact head)
    exact Bool.noConfusion (word.symm.trans outside)
  rw [reads.before_any nonempty] at before
  exact ⟨inside, nonempty, (reads.rest ▸ after).of_append, before⟩

/-- Two words with others between them. -/
theorem wordGap_reads {first second : List Char} {later : List Pattern}
    (begins : first.head?.any Text.isWordCharacter = true) (ends : first.getLast?.any Text.isWordCharacter = true)
    (goesOn : second.head?.any Text.isWordCharacter = true)
    (way : Pattern.Steps (Phrases.edge :: .literal first :: Phrases.edge :: Phrases.clauseGap :: Phrases.edge ::
      .literal second :: later) place last) :
    ∃ gap next, IsWordGap gap ∧ place.before.any Text.isWordCharacter = false ∧
      place.Reads (first ++ (gap ++ second)) next ∧
      next.before.any Text.isWordCharacter = second.getLast?.any Text.isWordCharacter ∧
      Pattern.Steps later next last := by
  obtain ⟨_, edge, p, one, _, edgeAfter, q, gap, _, edgeBefore, next, two, rest⟩ := way
  obtain rfl := edge.edge_eq
  obtain rfl := edgeAfter.edge_eq
  obtain rfl := edgeBefore.edge_eq
  obtain ⟨run, inside, reads⟩ := clauseGap_reads gap
  have nonempty {word : List Char} (some : word.head?.any Text.isWordCharacter = true) : word ≠ [] := by
    rintro rfl
    exact nomatch some
  have goes := two.reads_literal.head_any goesOn
  have after := edgeAfter.edge_after ((one.reads_literal.before_any (nonempty begins) _).trans ends)
  exact ⟨run, next, isWordGap_of_edges inside reads after goes (edgeBefore.edge_before goes),
    edge.edge_before (one.reads_literal.head_any begins), one.reads_literal.trans (reads.trans two.reads_literal),
    two.reads_literal.before_any (nonempty goesOn) _, rest⟩

/-- What is read after the edge of a word is apart from the word. -/
theorem approach_reads {between : Place} (edge : Phrases.edge.Matches place between)
    (gap : Phrases.clauseGap.Matches between last) (previous : place.before.any Text.isWordCharacter = true) :
    ∃ run, IsApproach run ∧ place.Reads run last := by
  obtain rfl := edge.edge_eq
  obtain ⟨run, inside, reads⟩ := clauseGap_reads gap
  have after := edge.edge_after previous
  exact ⟨run, ⟨inside, (reads.rest ▸ after).of_append⟩, reads⟩

/-- A stop loss is read only where words ask for it. -/
theorem stopLossPhrase_reads (way : Phrases.stopLossPhrase.Matches place last) : stopLossAsking.Reads place last := by
  cases way with
  | first way =>
      obtain ⟨gap, p, isGap, edge, one, ends, q, edgeAfter, r, more, _, percentage, rfl⟩ :=
        wordGap_reads (by rfl) (by rfl) (by rfl) way.steps
      obtain ⟨run, isApproach, two⟩ := approach_reads edgeAfter more ends
      exact .of_before ⟨gap, run, rfl, isGap, isApproach⟩ edge (one.trans two) percentage
  | second way =>
      obtain ⟨p, percentage, q, blanks, r, stop, s, joints, _, loss, rfl⟩ := way.steps
      obtain ⟨run, isRun, one⟩ := blanks.reads_repeated
      obtain ⟨between, inside, three⟩ := joints_reads joints
      refine .of_after percentage ⟨run, between, rfl, isRun.inClass, inside⟩
        (one.trans (stop.reads_literal.trans (three.trans loss.reads_literal))) ?_
      rw [loss.keeps rfl, joints.keeps rfl, stop.keeps rfl, blanks.keeps rfl]

theorem profitTarget_reads (way : Phrases.profitTarget.Matches place last) :
    ∃ words, TargetWords words ∧ place.rest.head?.any Text.isWordCharacter = true ∧ place.Reads words last ∧
      last.before.any Text.isWordCharacter = true := by
  obtain ⟨p, profit, q, joints, _, target, rfl⟩ := way.steps
  obtain ⟨between, inside, two⟩ := joints_reads joints
  exact ⟨_, ⟨between, rfl, inside⟩, profit.reads_literal.head_any rfl,
    profit.reads_literal.trans (two.trans target.reads_literal), target.reads_literal.before_any (by decide) _⟩

/-- The words for taking a profit, or profits, with others in between. -/
theorem takenProfit_reads
    (way : (Pattern.inOrder [Phrases.edge, .word "take", Phrases.edge, Phrases.clauseGap, Phrases.edge, .word "profit",
      .optional (.word "s")]).Matches place last) :
    ∃ gap target, (target = "take".toList ++ (gap ++ "profit".toList) ∨
        target = "take".toList ++ (gap ++ "profits".toList)) ∧ IsWordGap gap ∧
      place.before.any Text.isWordCharacter = false ∧ place.Reads target last ∧
      last.before.any Text.isWordCharacter = true := by
  obtain ⟨gap, p, isGap, edge, one, ends, _, plural, rfl⟩ := wordGap_reads (by rfl) (by rfl) (by rfl) way.steps
  cases plural with
  | first way =>
      have two := way.reads_literal
      refine ⟨gap, _, .inr ?_, isGap, edge, one.trans two, two.before_any (by decide) _⟩
      simp
  | second way =>
      cases way with
      | nothing => exact ⟨gap, _, .inl rfl, isGap, edge, one, ends⟩

/-- A take profit is read only where words ask for it. -/
theorem takeProfitPhrase_reads (way : Phrases.takeProfitPhrase.Matches place last) :
    takeProfitAsking.Reads place last := by
  cases way with
  | first way =>
      obtain ⟨p, named, _, edgeAfter, q, more, _, percentage, rfl⟩ := way.steps
      cases named with
      | first named =>
          obtain ⟨gap, target, isTarget, isGap, edge, first, ends⟩ := takenProfit_reads named
          obtain ⟨later, isApproach, second⟩ := approach_reads edgeAfter more ends
          exact .of_before ⟨target, later, rfl, isApproach, .inl ⟨gap, isTarget, isGap⟩⟩ edge (first.trans second)
            percentage
      | second named =>
          cases named with
          | sequence edge target =>
              obtain rfl := edge.edge_eq
              obtain ⟨words, isTarget, begins, first, ends⟩ := profitTarget_reads target
              obtain ⟨later, isApproach, second⟩ := approach_reads edgeAfter more ends
              exact .of_before ⟨words, later, rfl, isApproach, .inr isTarget⟩ (edge.edge_before begins)
                (first.trans second) percentage
  | second way =>
      obtain ⟨p, percentage, q, blanks, _, named, rfl⟩ := way.steps
      obtain ⟨run, isRun, one⟩ := blanks.reads_repeated
      cases named with
      | first named =>
          obtain ⟨r, take, s, joints, _, profit, rfl⟩ := named.steps
          obtain ⟨between, inside, three⟩ := joints_reads joints
          refine .of_after percentage ⟨run, _, rfl, isRun.inClass, .inl ⟨between, rfl, inside⟩⟩
            (one.trans (take.reads_literal.trans (three.trans profit.reads_literal))) ?_
          rw [profit.keeps rfl, joints.keeps rfl, take.keeps rfl, blanks.keeps rfl]
      | second named =>
          obtain ⟨words, isTarget, -, two, -⟩ := profitTarget_reads named
          refine .of_after percentage ⟨run, words, rfl, isRun.inClass, .inr isTarget⟩ (one.trans two) ?_
          rw [named.keeps rfl, blanks.keeps rfl]

end Words

section Searches

variable {text : List Char} {excerpt : Excerpt}

/-- A text has a percentage in it: what stands before the numeral, between it and its sign, and after the sign. -/
structure IsPercentageIn (text before gap after : List Char) (excerpt : Excerpt) : Prop where
  split : text = before ++ (excerpt.chars ++ (gap ++ '%' :: after))
  start : excerpt.start = before.length
  isNumeral : IsNumeral excerpt.chars
  blank : ∀ c ∈ gap, Text.isBlank c = true

/-- Words that ask for a percentage lead up to its numeral, and begin where a word may begin. -/
def Asking.Leads (asking : Asking) (before : List Char) : Prop :=
  ∃ front words, before = front ++ words ∧ front.getLast?.any Text.isWordCharacter = false ∧ asking.before words

/-- Words that ask for a percentage follow its sign. -/
def Asking.Follows (asking : Asking) (after : List Char) : Prop :=
  ∃ words later, after = words ++ later ∧ asking.after words

/-- A percentage is asked for by the words right before its numeral, or by those right after its sign. -/
def Asking.Asks (asking : Asking) (before after : List Char) : Prop :=
  asking.Leads before ∨ asking.Follows after

/-- The excerpt is the numeral of a percentage that is asked for. -/
def Asking.At (asking : Asking) (text : List Char) (excerpt : Excerpt) : Prop :=
  ∃ before gap after, IsPercentageIn text before gap after excerpt ∧ asking.Asks before after

/-- What the search for a phrase keeps is the numeral of a percentage that is asked for. -/
theorem Asking.at_of_find? {asking : Asking} {phrase : Pattern}
    (reads : ∀ {place last}, phrase.Matches place last → asking.Reads place last)
    (there : (phrase.find? text).bind (·.excerpt) = some excerpt) : asking.At text excerpt := by
  obtain ⟨found, search, kept⟩ := Option.bind_eq_some_iff.1 there
  obtain ⟨front, place, last, skips, -, way, rfl⟩ := Pattern.findFrom?_sound search
  have split : text = front ++ place.rest := skips.rest
  have offset : place.offset = front.length := skips.offset.trans (Nat.zero_add _)
  cases reads way with
  | @before words numeral gap asks edge isNumeral blank read excerpted =>
      obtain rfl := Option.some.inj (kept.symm.trans excerpted)
      refine ⟨front ++ words, gap, last.rest, ⟨?_, ?_, isNumeral, blank⟩, .inl ⟨front, words, rfl, ?_, asks⟩⟩
      · rw [split, read.rest]
        simp
      · rw [offset, List.length_append]
      · rwa [skips.before, Option.or_none] at edge
  | @after words numeral gap asks isNumeral blank read excerpted =>
      obtain rfl := Option.some.inj (kept.symm.trans excerpted)
      refine ⟨front, gap, words ++ last.rest, ⟨?_, offset, isNumeral, blank⟩, .inr ⟨words, last.rest, rfl, asks⟩⟩
      rw [split, read.rest]
      simp

theorem stopLossNumeral?_at (there : stopLossNumeral? text = some excerpt) : stopLossAsking.At text excerpt :=
  Asking.at_of_find? stopLossPhrase_reads there

theorem takeProfitNumeral?_at (there : takeProfitNumeral? text = some excerpt) : takeProfitAsking.At text excerpt :=
  Asking.at_of_find? takeProfitPhrase_reads there

end Searches

end PaperTrading
