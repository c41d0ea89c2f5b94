/-
Module: PaperTrading.Proofs.Strategy.Phrasing
Purpose: The plainest wording of a strategy, and what the searches find in it.
Main exports: Naming, Phrasing, Phrasing.text, Phrasing.rsiNumerals_lowered, Phrasing.stopLossNumeral?_lowered,
  Phrasing.takeProfitNumeral?_lowered
-/
import PaperTrading.Proofs.Strategy.Mentions

namespace PaperTrading

open Text (Pattern Place Excerpt StopsBefore IsRun)
open Text.Pattern (Found)

/-- The ways of naming the index: by itself, and with a period in parentheses or after a blank. -/
inductive Naming where
  | plain
  | bracketed (period : Digits)
  | spaced (period : Digits)

/-- The text of the period. -/
def Naming.period : Naming → List Char
  | plain => []
  | bracketed period => '(' :: (period.chars ++ [')'])
  | spaced period => ' ' :: period.chars

/-- The index by its name, in capitals. -/
def Naming.text (naming : Naming) : String :=
  "RSI" ++ String.ofList naming.period

/-- The text of an amount. -/
def Amount.text (amount : Amount) : String :=
  String.ofList amount.chars

/-- What the plainest wording of a strategy is made of: how the index is named, its two thresholds, and the two limits. -/
structure Phrasing where
  naming : Naming
  low : Amount
  high : Amount
  stop : Amount
  take : Amount

namespace Phrasing

/-- The wording of a strategy. -/
def text (phrasing : Phrasing) : String :=
  "Buy when " ++ phrasing.naming.text ++ " below " ++ phrasing.low.text ++ ", sell when " ++ phrasing.naming.text ++
    " above " ++ phrasing.high.text ++ ", stop loss " ++ phrasing.stop.text ++ "%, take profit " ++ phrasing.take.text ++
    "%"

/-- What follows the name of the index where it is compared with an amount. -/
def comparison (phrasing : Phrasing) (word : String) (amount : Amount) : List Char :=
  phrasing.naming.period ++ (' ' :: (word.toList ++ ' ' :: amount.chars))

/-- The wording in lower case up to the limits. -/
def signals (phrasing : Phrasing) : List Char :=
  "buy when ".toList ++ ("rsi".toList ++ (phrasing.comparison "below" phrasing.low ++ (", sell when ".toList ++
    ("rsi".toList ++ (phrasing.comparison "above" phrasing.high ++ ", ".toList)))))

/-- The stop loss up to its sign. -/
def stopWords (phrasing : Phrasing) : List Char :=
  "stop".toList ++ ' ' :: ("loss".toList ++ ' ' :: phrasing.stop.chars)

/-- The take profit up to its sign. -/
def takeWords (phrasing : Phrasing) : List Char :=
  "take".toList ++ ' ' :: ("profit".toList ++ ' ' :: phrasing.take.chars)

/-- The wording in lower case. -/
def lowered (phrasing : Phrasing) : List Char :=
  phrasing.signals ++ (phrasing.stopWords ++ ("%, ".toList ++ (phrasing.takeWords ++ ['%'])))

end Phrasing

section Characters

/-- A text of seven-bit characters, and its lower case. -/
structure LowersTo (text lowered : List Char) : Prop where
  ascii : ∀ c ∈ text, c.toNat < 128
  lower : text.map Char.toLower = lowered

theorem LowersTo.append {first second lowered lowered' : List Char} (one : LowersTo first lowered)
    (two : LowersTo second lowered') : LowersTo (first ++ second) (lowered ++ lowered') where
  ascii := List.forall_mem_append.2 ⟨one.ascii, two.ascii⟩
  lower := by
    rw [List.map_append, one.lower, two.lower]

theorem LowersTo.lowerCase_eq {text lowered : List Char} (lowers : LowersTo text lowered) :
    Text.lowerCase text = lowered := by
  rw [Text.lowerCase, Text.lowerFrom_of_ascii lowers.ascii, lowers.lower]

theorem LowersTo.of_same {text : List Char} (same : ∀ c ∈ text, c.toNat < 128 ∧ c.toLower = c) : LowersTo text text where
  ascii := fun c member => (same c member).1
  lower := by
    rw [List.map_congr_left fun c member => (same c member).2]
    exact List.map_id _

/-- The characters of amounts and periods. -/
def inNumbers (c : Char) : Bool :=
  c.isDigit || ['.', '(', ')', ' '].contains c

theorem inNumbers_of_isDigit {c : Char} (digit : c.isDigit = true) : inNumbers c = true := by
  rw [inNumbers, digit, Bool.true_or]

theorem Amount.numeric (amount : Amount) : ∀ c ∈ amount.chars, inNumbers c = true := by
  obtain ⟨whole, fraction⟩ := amount
  have digits (some : Digits) : ∀ c ∈ some.chars, inNumbers c = true :=
    fun c member => inNumbers_of_isDigit (some.inside c member)
  cases fraction with
  | none => exact digits whole
  | some fraction => exact List.forall_mem_append.2 ⟨digits whole, List.forall_mem_cons.2 ⟨by decide, digits fraction⟩⟩

theorem Naming.numeric (naming : Naming) : ∀ c ∈ naming.period, inNumbers c = true := by
  have digits (some : Digits) : ∀ c ∈ some.chars, inNumbers c = true :=
    fun c member => inNumbers_of_isDigit (some.inside c member)
  cases naming with
  | plain => exact List.forall_mem_nil _
  | bracketed period =>
      exact List.forall_mem_cons.2 ⟨by decide, List.forall_mem_append.2 ⟨digits period, by decide⟩⟩
  | spaced period => exact List.forall_mem_cons.2 ⟨by decide, digits period⟩

theorem isAscii_of_inNumbers {c : Char} (numeric : inNumbers c = true) : c.toNat < 128 ∧ c.toLower = c := by
  rw [inNumbers, Bool.or_eq_true, List.contains_iff_mem] at numeric
  rcases numeric with digit | other
  · exact isAscii_of_isDigit digit
  · have every : ∀ c ∈ ['.', '(', ')', ' '], c.toNat < 128 ∧ c.toLower = c := by
      decide
    exact every c other

theorem Phrasing.lowerCase_text (phrasing : Phrasing) : Text.lowerCase phrasing.text.toList = phrasing.lowered := by
  have amount (amount : Amount) : LowersTo amount.text.toList amount.chars := by
    rw [Amount.text, String.toList_ofList]
    exact .of_same fun c member => isAscii_of_inNumbers (amount.numeric c member)
  have period : LowersTo (String.ofList phrasing.naming.period).toList phrasing.naming.period := by
    rw [String.toList_ofList]
    exact .of_same fun c member => isAscii_of_inNumbers (phrasing.naming.numeric c member)
  have rsi : LowersTo "RSI".toList "rsi".toList := ⟨by decide, by decide⟩
  have buyWhen : LowersTo "Buy when ".toList "buy when ".toList := ⟨by decide, by decide⟩
  have same (words : String) (lower : ∀ c ∈ words.toList, c.toNat < 128 ∧ c.toLower = c) :
      LowersTo words.toList words.toList := .of_same lower
  have name : LowersTo phrasing.naming.text.toList ("rsi".toList ++ phrasing.naming.period) := by
    rw [Naming.text, String.toList_append]
    exact rsi.append period
  have buy := (buyWhen.append name).append ((same " below " (by decide)).append (amount phrasing.low))
  have sell := ((same ", sell when " (by decide)).append name).append
    ((same " above " (by decide)).append (amount phrasing.high))
  have limits := ((same ", stop loss " (by decide)).append (amount phrasing.stop)).append
    (((same "%, take profit " (by decide)).append (amount phrasing.take)).append (same "%" (by decide)))
  have whole := (buy.append (sell.append limits)).lowerCase_eq
  have below : " below ".toList = ' ' :: ("below".toList ++ [' ']) := by decide
  have above : " above ".toList = ' ' :: ("above".toList ++ [' ']) := by decide
  have loss : ", stop loss ".toList = ", ".toList ++ ("stop".toList ++ ' ' :: ("loss".toList ++ [' '])) := by decide
  have profit : "%, take profit ".toList = "%, ".toList ++ ("take".toList ++ ' ' :: ("profit".toList ++ [' '])) := by
    decide
  have sign : "%".toList = ['%'] := by decide
  simp only [List.append_assoc] at whole
  unfold text lowered signals comparison stopWords takeWords
  simp only [String.toList_append, List.append_assoc]
  rw [whole]
  simp only [List.append_assoc, List.cons_append, List.nil_append, below, above, loss, profit, sign]

variable {c : Char} (outside : inNumbers c = false)
include outside

theorem Amount.not_mem (amount : Amount) : c ∉ amount.chars :=
  fun member => Bool.noConfusion (outside.symm.trans (amount.numeric c member))

theorem Naming.not_mem (naming : Naming) : c ∉ naming.period :=
  fun member => Bool.noConfusion (outside.symm.trans (naming.numeric c member))

theorem not_mem_spaced {text : List Char} (other : c ∉ text) : c ∉ ' ' :: text := by
  refine List.not_mem_cons_of_ne_of_not_mem ?_ other
  rintro rfl
  exact absurd outside (by decide)

variable (phrasing : Phrasing)

theorem Phrasing.not_mem_comparison {word : String} (other : c ∉ word.toList) (amount : Amount) :
    c ∉ phrasing.comparison word amount :=
  List.not_mem_append (phrasing.naming.not_mem outside)
    (not_mem_spaced outside (List.not_mem_append other (not_mem_spaced outside (amount.not_mem outside))))

theorem Phrasing.not_mem_signals (other : c ∉ "buy when rsi below , sell when rsi above , ".toList) :
    c ∉ phrasing.signals := by
  have words (text : String) (within : ∀ d ∈ text.toList, d ∈ "buy when rsi below , sell when rsi above , ".toList) :
      c ∉ text.toList :=
    fun member => other (within c member)
  have below := phrasing.not_mem_comparison outside (words "below" (by decide)) phrasing.low
  have above := phrasing.not_mem_comparison outside (words "above" (by decide)) phrasing.high
  exact List.not_mem_append (words "buy when " (by decide)) (List.not_mem_append (words "rsi" (by decide))
    (List.not_mem_append below (List.not_mem_append (words ", sell when " (by decide))
      (List.not_mem_append (words "rsi" (by decide)) (List.not_mem_append above (words ", " (by decide)))))))

theorem Phrasing.not_mem_stopWords (other : c ∉ "stoploss".toList) : c ∉ phrasing.stopWords := by
  have words (text : String) (within : ∀ d ∈ text.toList, d ∈ "stoploss".toList) : c ∉ text.toList :=
    fun member => other (within c member)
  exact List.not_mem_append (words "stop" (by decide)) (not_mem_spaced outside
    (List.not_mem_append (words "loss" (by decide)) (not_mem_spaced outside (phrasing.stop.not_mem outside))))

end Characters

section Comparisons

variable {β : Type} {accept : Place → Option β} {result : β} {place : Place} {word : String}

/-- The words that compare the index. -/
def IsComparing (word : String) : Prop :=
  word = "below" ∨ word = "above"

theorem IsComparing.isGap_after (comparing : IsComparing word) : IsGap (word.toList ++ [' ']) := by
  rcases comparing with rfl | rfl
  all_goals exact ⟨by decide, by decide, by decide, by decide⟩

theorem IsComparing.isGap (comparing : IsComparing word) : IsGap (' ' :: (word.toList ++ [' '])) := by
  rcases comparing with rfl | rfl
  all_goals exact ⟨by decide, by decide, by decide, by decide⟩

theorem IsComparing.stopsBlanks (comparing : IsComparing word) (rest : List Char) :
    StopsBefore Text.isBlank (word.toList ++ rest) := by
  rcases comparing with rfl | rfl
  all_goals exact (Text.stopsBefore_cons _ _ _).2 (by decide)

/-- Where no blank is next none are read. -/
theorem run_noBlanks (stops : StopsBefore Text.isBlank place.rest) (accepted : accept place = some result) :
    Phrases.blanks.run place accept = some result :=
  Pattern.run_longest (List.nil_append _).symm (List.forall_mem_nil _) stops (Nat.zero_le _) accepted

/-- A period in parentheses is read to its end. -/
theorem run_bracketedPeriod (period : Digits) {rest : List Char}
    (here : place.rest = '(' :: (period.chars ++ ')' :: rest))
    (accepted : accept (place.past ('(' :: (period.chars ++ [')'])) rest) = some result) :
    bracketedPeriod.run place accept = some result := by
  have noBlank (c : Char) (more : List Char) (visible : Text.isBlank c = false) : StopsBefore Text.isBlank (c :: more) :=
    (Text.stopsBefore_cons _ _ _).2 visible
  have noDigit : StopsBefore Text.isDecimalDigit (')' :: rest) :=
    (Text.stopsBefore_cons _ _ _).2 (by decide)
  have opening : StopsBefore Text.isBlank place.rest := here ▸ noBlank _ _ (by decide)
  refine run_noBlanks opening (Pattern.run_literal here ?_)
  refine run_noBlanks (period.stopsBlanks _) (run_digits period rfl noDigit ?_)
  refine run_noBlanks (noBlank _ _ (by decide)) (Pattern.run_literal rfl ?_)
  rw [Place.past_past, Place.past_past]
  exact accepted

/-- A period by itself is read up to the word after it. -/
theorem run_barePeriod (period : Digits) {rest : List Char}
    (here : place.rest = [' '] ++ (period.chars ++ ([' '] ++ rest))) (stops : StopsBefore Text.isBlank rest)
    (accepted : accept (place.past ([' '] ++ (period.chars ++ [' '])) rest) = some result) :
    barePeriod.run place accept = some result := by
  have blank : ∀ c ∈ [' '], Text.isBlank c = true := by
    decide
  have noDigit : StopsBefore Text.isDecimalDigit ([' '] ++ rest) :=
    (Text.stopsBefore_cons _ _ _).2 (by decide)
  refine Pattern.run_longest here blank (period.stopsBlanks _) (Nat.zero_le _) ?_
  refine run_digits period rfl noDigit ?_
  refine Pattern.run_longest rfl blank stops (Nat.le_refl 1) ?_
  rw [Place.past_past, Place.past_past]
  exact accepted

/-- A period by itself is not one in parentheses. -/
theorem not_bracketed_of_bare (period : Digits) {rest : List Char} {last : Place}
    (here : place.rest = [' '] ++ (period.chars ++ rest)) : ¬ bracketedPeriod.Matches place last := by
  have noBracket : '(' ∉ [' '] ++ period.chars := by
    refine List.not_mem_append (by decide) ?_
    intro member
    exact absurd (period.inside '(' member) (by decide)
  have visible : ∃ c ∈ [' '] ++ period.chars, Text.isBlank c = false := by
    obtain ⟨digit, more, chars⟩ := List.exists_cons_of_ne_nil period.nonempty
    have member : digit ∈ period.chars := chars ▸ List.mem_cons_self
    exact ⟨digit, List.mem_append_right _ member, Text.isBlank_of_isDigit (period.inside digit member)⟩
  exact no_bracketedPeriod (here.trans (List.append_assoc _ _ _).symm) noBracket visible

/-- After the name of the index its threshold is read, whether a period comes first or not. -/
theorem Phrasing.matchAt?_rsiThreshold (phrasing : Phrasing) (comparing : IsComparing word) (amount : Amount)
    {rest : List Char} (stops : StopsBefore inNumeral rest) (offset : Nat) :
    ∃ start stop, Phrases.rsiThreshold.matchAt? ⟨none, offset, phrasing.comparison word amount ++ rest, none⟩ =
      some ⟨offset, stop, some ⟨start, amount.chars⟩⟩ := by
  obtain ⟨naming, low, high, stop, take⟩ := phrasing
  unfold comparison
  cases naming with
  | plain =>
      have text : Naming.plain.period ++ (' ' :: (word.toList ++ ' ' :: amount.chars)) ++ rest =
          ' ' :: (word.toList ++ [' ']) ++ (amount.chars ++ rest) := by
        simp [Naming.period]
      rw [text]
      exact ⟨_, _, comparing.isGap.matchAt?_rsiThreshold amount stops none offset⟩
  | bracketed period =>
      have text : (Naming.bracketed period).period ++ (' ' :: (word.toList ++ ' ' :: amount.chars)) ++ rest =
          '(' :: (period.chars ++ ')' :: (' ' :: (word.toList ++ [' ']) ++ (amount.chars ++ rest))) := by
        simp [Naming.period]
      rw [text]
      let start := offset + ('(' :: (period.chars ++ [')'])).length + (' ' :: (word.toList ++ [' '])).length
      refine ⟨start, start + amount.chars.length, Pattern.run_first (Pattern.run_first ?_)⟩
      exact run_bracketedPeriod period rfl (comparing.isGap.run_amount amount rfl stops rfl)
  | spaced period =>
      have text : (Naming.spaced period).period ++ (' ' :: (word.toList ++ ' ' :: amount.chars)) ++ rest =
          [' '] ++ (period.chars ++ ([' '] ++ (word.toList ++ [' '] ++ (amount.chars ++ rest)))) := by
        simp [Naming.period]
      rw [text]
      let start := offset + ([' '] ++ (period.chars ++ [' '])).length + (word.toList ++ [' ']).length
      refine ⟨start, start + amount.chars.length, Pattern.run_first (Pattern.run_second ?notBracketed ?_)⟩
      case notBracketed => exact fun last => not_bracketed_of_bare period rfl
      have after := comparing.stopsBlanks ([' '] ++ (amount.chars ++ rest))
      rw [← List.append_assoc] at after
      exact run_barePeriod period rfl after (comparing.isGap_after.run_amount amount rfl stops rfl)

/-- What follows the name of the index does not begin as a word goes on. -/
theorem Phrasing.exists_comparison_eq_cons (phrasing : Phrasing) (word : String) (amount : Amount) :
    ∃ sign more, phrasing.comparison word amount = sign :: more ∧ Text.isWordCharacter sign = false := by
  obtain ⟨naming, low, high, stop, take⟩ := phrasing
  unfold comparison
  cases naming with
  | plain => exact ⟨' ', _, rfl, by decide⟩
  | bracketed period => exact ⟨'(', _, rfl, by decide⟩
  | spaced period => exact ⟨' ', _, rfl, by decide⟩

/-- The thresholds of a text with two mentions of the index are read from what follows each of them. -/
theorem thresholdNumerals_two (front : List Char) {first second : List Char} {one two : Found} {start stop : Nat}
    (starts : start = front.length + 3) (next : stop = start + first.length)
    (read : Phrases.rsiThreshold.matchAt? ⟨none, start, first, none⟩ = some one)
    (readNext : Phrases.rsiThreshold.matchAt? ⟨none, stop + 3, second, none⟩ = some two) :
    thresholdNumerals (front ++ ("rsi".toList ++ (first ++ ("rsi".toList ++ second))))
        [⟨front.length, start, none⟩, ⟨stop, stop + 3, none⟩] = one.excerpt.toList ++ two.excerpt.toList := by
  have name : "rsi".toList.length = 3 := by
    decide
  have clause : (front ++ ("rsi".toList ++ (first ++ ("rsi".toList ++ second)))).drop start =
      first ++ ("rsi".toList ++ second) := by
    rw [← List.append_assoc, starts, ← name, ← List.length_append, List.drop_left]
  have clauseNext : (front ++ ("rsi".toList ++ (first ++ ("rsi".toList ++ second)))).drop (stop + 3) = second := by
    rw [next, Nat.add_assoc, ← List.drop_drop, clause, ← List.append_assoc, ← name, ← List.length_append, List.drop_left]
  have upTo : (first ++ ("rsi".toList ++ second)).take (stop - start) = first := by
    rw [next, Nat.add_sub_cancel_left, List.take_left]
  simp only [thresholdNumerals, clause, clauseNext, upTo, read, readNext]
  simp

/-- The search for the index goes from one comparison over the text that follows it. -/
theorem Phrasing.findAllFrom_rsiMention (phrasing : Phrasing) {word : String} (amount : Amount) {more : List Char}
    (other : 'r' ∉ phrasing.comparison word amount ++ more) (offset : Nat) (rest : List Char) :
    Phrases.rsiMention.findAllFrom (some ' ') offset 0
        ("rsi".toList ++ (phrasing.comparison word amount ++ more ++ rest)) =
      ⟨offset, offset + 3, none⟩ ::
        Phrases.rsiMention.findAllFrom ((phrasing.comparison word amount ++ more).getLast?.or (some 'i'))
          (offset + 3 + (phrasing.comparison word amount ++ more).length) 0 rest := by
  obtain ⟨sign, run, text, ends⟩ := phrasing.exists_comparison_eq_cons word amount
  rw [text] at other ⊢
  exact PaperTrading.findAllFrom_rsiMention (by decide) offset ends other rest

/-- The index is found twice in the wording. -/
theorem Phrasing.findAll_rsiMention (phrasing : Phrasing) :
    let stop := 12 + (phrasing.comparison "below" phrasing.low ++ ", sell when ".toList).length
    Phrases.rsiMention.findAll phrasing.lowered = [⟨9, 12, none⟩, ⟨stop, stop + 3, none⟩] := by
  intro stop
  have numeric : inNumbers 'r' = false := by
    decide
  have inFirst : 'r' ∉ phrasing.comparison "below" phrasing.low ++ ", sell when ".toList :=
    List.not_mem_append (phrasing.not_mem_comparison numeric (by decide) _) (by decide)
  have inSecond : 'r' ∉ phrasing.comparison "above" phrasing.high ++
      (", ".toList ++ (phrasing.stopWords ++ "%, take p".toList)) :=
    List.not_mem_append (phrasing.not_mem_comparison numeric (by decide) _) (List.not_mem_append (by decide)
      (List.not_mem_append (phrasing.not_mem_stopWords numeric (by decide)) (by decide)))
  have inLast : 's' ∉ "rofit ".toList ++ (phrasing.take.chars ++ ['%']) :=
    List.not_mem_append (by decide) (List.not_mem_append (phrasing.take.not_mem (by decide)) (by decide))
  have last : (phrasing.comparison "below" phrasing.low ++ ", sell when ".toList).getLast?.or (some 'i') = some ' ' := by
    rw [List.getLast?_append]
    rfl
  have text : phrasing.lowered = "buy when ".toList ++ ("rsi".toList ++
      (phrasing.comparison "below" phrasing.low ++ ", sell when ".toList ++ ("rsi".toList ++
        (phrasing.comparison "above" phrasing.high ++ (", ".toList ++ (phrasing.stopWords ++ "%, take p".toList)) ++
          ("rofit ".toList ++ (phrasing.take.chars ++ ['%'])))))) := by
    have take : "%, take p".toList = "%, ".toList ++ ("take".toList ++ [' ', 'p']) := by decide
    have profit : "profit".toList = 'p' :: "rofit".toList := by decide
    have rofit : "rofit ".toList = "rofit".toList ++ [' '] := by decide
    unfold lowered signals takeWords
    simp only [take, profit, rofit, List.append_assoc, List.cons_append, List.nil_append]
  have nothing : Phrases.rsiMention.Passes ("rofit ".toList ++ (phrasing.take.chars ++ ['%'])) [] :=
    Pattern.passes_of_absent ['r'] rsiMention_begins inLast (by decide)
  rw [text, Pattern.findAll, Pattern.findAllFrom_passes (rsiMention_passes (by decide) _)]
  calc Phrases.rsiMention.findAllFrom (some ' ') 9 0 _
      = ⟨9, 12, none⟩ :: Phrases.rsiMention.findAllFrom (some ' ') stop 0 _ := by
        rw [phrasing.findAllFrom_rsiMention phrasing.low inFirst, last]
    _ = [⟨9, 12, none⟩, ⟨stop, stop + 3, none⟩] := by
        rw [phrasing.findAllFrom_rsiMention phrasing.high inSecond, Pattern.findAllFrom_eq_nil nothing]

theorem Phrasing.occursIn_rsiMention (phrasing : Phrasing) : Phrases.rsiMention.occursIn phrasing.lowered = true := by
  rw [Pattern.occursIn, Pattern.find?, Pattern.findFrom?_of_findAllFrom phrasing.findAll_rsiMention]
  rfl

/-- The thresholds of the wording are its two amounts. -/
theorem Phrasing.rsiNumerals_lowered (phrasing : Phrasing) :
    (rsiNumerals phrasing.lowered).map (·.chars) = [phrasing.low.chars, phrasing.high.chars] := by
  let more := ", ".toList ++ (phrasing.stopWords ++ ("%, ".toList ++ (phrasing.takeWords ++ ['%'])))
  have text : phrasing.lowered = "buy when ".toList ++ ("rsi".toList ++
      (phrasing.comparison "below" phrasing.low ++ ", sell when ".toList ++ ("rsi".toList ++
        (phrasing.comparison "above" phrasing.high ++ more)))) := by
    unfold lowered signals
    simp only [more, List.append_assoc]
  have comma (later : List Char) : StopsBefore inNumeral (',' :: later) := by
    rw [Text.stopsBefore_cons]
    decide
  have sell : StopsBefore inNumeral ", sell when ".toList := comma _
  have limits : StopsBefore inNumeral more := comma _
  obtain ⟨start, stop, low⟩ := phrasing.matchAt?_rsiThreshold (.inl rfl) phrasing.low sell 12
  obtain ⟨startNext, stopNext, high⟩ := phrasing.matchAt?_rsiThreshold (.inr rfl) phrasing.high limits
    (12 + (phrasing.comparison "below" phrasing.low ++ ", sell when ".toList).length + 3)
  have read := thresholdNumerals_two "buy when ".toList rfl rfl low high
  rw [rsiNumerals, findAll_rsiMention, text]
  exact congrArg (List.map (·.chars)) read

end Comparisons

section Limits

variable {β : Type} {accept : Place → Option β} {result : β} {place : Place} {run rest : List Char}

/-- A blank within a clause is passed over where nothing else is accepted. -/
theorem run_clauseGap_blank (here : place.rest = ' ' :: rest)
    (refused : ∀ other : Place, other.rest = ' ' :: rest → accept other = none)
    (accepted : accept (place.past [' '] rest) = some result) : Phrases.clauseGap.run place accept = some result := by
  have blank : IsRun inClause 0 none [' '] := ⟨by decide, Nat.zero_le _, fun _ limited => nomatch limited⟩
  refine Pattern.run_shortest here blank ?_ accepted
  intro later suffix some other next
  obtain rfl : later = [' '] := by
    rcases List.suffix_cons_iff.1 suffix with same | shorter
    · exact same
    · exact absurd (List.suffix_nil.1 shorter) some
  exact refused other next

/-- A percentage is read to its sign. -/
theorem run_percentage (amount : Amount) (here : place.rest = amount.chars ++ '%' :: rest)
    (accepted : accept { (place.past amount.chars ('%' :: rest)).past ['%'] rest with
      excerpt := some ⟨place.offset, amount.chars⟩ } = some result) :
    Phrases.percentage.run place accept = some result := by
  have stops : StopsBefore inNumeral ('%' :: rest) := (Text.stopsBefore_cons _ _ _).2 (by decide)
  have noBlank : StopsBefore Text.isBlank ('%' :: rest) := (Text.stopsBefore_cons _ _ _).2 (by decide)
  refine Pattern.run_sequence (run_amount amount here stops ?_)
  refine Pattern.run_sequence (run_noBlanks noBlank ?_)
  exact Pattern.run_literal rfl accepted

theorem percentage_refused (next : place.rest = ' ' :: rest) : Phrases.percentage.run place accept = none := by
  apply Pattern.run_eq_none
  intro last way
  obtain ⟨numeral, gap, ⟨⟨digit, more, rfl, isDigit⟩, -⟩, -, reads, -⟩ := percentage_reads way
  obtain rfl := (List.cons.inj (next.symm.trans reads.rest)).1
  exact absurd isDigit (by decide)

/-- No word begins with a blank. -/
theorem word_refused {c : Char} {word : List Char} (visible : c ≠ ' ') {later : Pattern}
    (next : place.rest = ' ' :: rest) :
    (Pattern.sequence Phrases.edge (.sequence (.literal (c :: word)) later)).run place accept = none := by
  apply Pattern.run_eq_none
  intro last way
  cases way with
  | sequence edge others =>
      obtain rfl := edge.edge_eq
      cases others with
      | sequence name =>
          exact absurd (List.cons.inj (next.symm.trans name.reads_literal.rest)).1.symm visible

/-- A stop loss is read where it is worded. -/
theorem matchAt?_stopLossPhrase {before : Option Char} (outside : before.any Text.isWordCharacter = false) (offset : Nat)
    (amount : Amount) (rest : List Char) :
    Phrases.stopLossPhrase.matchAt? ⟨before, offset,
        "stop".toList ++ ' ' :: ("loss".toList ++ ' ' :: (amount.chars ++ '%' :: rest)), none⟩ =
      some ⟨offset, offset + 10 + amount.chars.length + 1, some ⟨offset + 10, amount.chars⟩⟩ := by
  refine Pattern.run_first ?_
  refine Pattern.run_sequence (Pattern.run_wordEdge ?edge ?words)
  case edge =>
    rw [Place.atWordEdge, outside]
    rfl
  case words =>
    refine Pattern.run_sequence (Pattern.run_literal rfl ?_)
    refine Pattern.run_sequence (Pattern.run_wordEdge rfl ?_)
    refine Pattern.run_sequence (run_clauseGap_blank rfl (fun other next => word_refused (by decide) next) ?_)
    refine Pattern.run_sequence (Pattern.run_wordEdge rfl ?_)
    refine Pattern.run_sequence (Pattern.run_literal rfl ?_)
    refine Pattern.run_sequence (Pattern.run_wordEdge rfl ?_)
    refine Pattern.run_sequence (run_clauseGap_blank rfl (fun other next => percentage_refused next) ?_)
    exact run_percentage amount rfl rfl

/-- A take profit is read where it is worded. -/
theorem matchAt?_takeProfitPhrase {before : Option Char} (outside : before.any Text.isWordCharacter = false)
    (offset : Nat) (amount : Amount) (rest : List Char) :
    Phrases.takeProfitPhrase.matchAt? ⟨before, offset,
        "take".toList ++ ' ' :: ("profit".toList ++ ' ' :: (amount.chars ++ '%' :: rest)), none⟩ =
      some ⟨offset, offset + 12 + amount.chars.length + 1, some ⟨offset + 12, amount.chars⟩⟩ := by
  refine Pattern.run_first (Pattern.run_sequence (Pattern.run_first ?_))
  refine Pattern.run_sequence (Pattern.run_wordEdge ?edge ?words)
  case edge =>
    rw [Place.atWordEdge, outside]
    rfl
  case words =>
    refine Pattern.run_sequence (Pattern.run_literal rfl ?_)
    refine Pattern.run_sequence (Pattern.run_wordEdge rfl ?_)
    refine Pattern.run_sequence (run_clauseGap_blank rfl (fun other next => word_refused (by decide) next) ?_)
    refine Pattern.run_sequence (Pattern.run_wordEdge rfl ?_)
    refine Pattern.run_sequence (Pattern.run_literal rfl ?_)
    refine Pattern.run_second ?plural ?_
    case plural =>
      intro last way
      have next := way.reads_literal.rest
      exact absurd (List.cons.inj next).1 (by decide)
    refine Pattern.run_sequence (Pattern.run_wordEdge rfl ?_)
    refine Pattern.run_sequence (run_clauseGap_blank rfl (fun other next => percentage_refused next) ?_)
    exact run_percentage amount rfl rfl

theorem words_of_reads {words more : List Char} {last : Place} (reads : place.Reads (words ++ more) last) :
    words <+: place.rest := by
  rw [reads.rest, List.append_assoc]
  exact List.prefix_append _ _

variable (phrasing : Phrasing)

/-- No stop loss is read before it is worded. -/
theorem Phrasing.stopLossPhrase_passes (rest : List Char) :
    Phrases.stopLossPhrase.Passes phrasing.signals ("stop".toList ++ rest) := by
  have noLetter : 't' ∉ phrasing.signals := phrasing.not_mem_signals (by decide) (by decide)
  have noSign : '%' ∉ phrasing.signals := phrasing.not_mem_signals (by decide) (by decide)
  intro later suffix some place last next way
  cases stopLossPhrase_reads way with
  | before asks edge isNumeral blank reads kept =>
      have begins : ['s'] ++ 't' :: "op".toList <+: later ++ ("stop".toList ++ rest) :=
        next ▸ (stopLossAsking_begins asks).trans (words_of_reads reads)
      have head : 't' ∉ ("stop".toList ++ rest).take ['s'].length := by
        show 't' ∉ ['s']
        decide
      exact Pattern.not_prefix_of_absent ['s'] some (fun member => noLetter (suffix.subset member)) head begins
  | @after words numeral gap asks isNumeral blank reads kept =>
      have same : numeral ++ (gap ++ '%' :: (words ++ last.rest)) = later ++ 's' :: ("top".toList ++ rest) := by
        rw [show later ++ 's' :: ("top".toList ++ rest) = later ++ ("stop".toList ++ rest) from rfl, ← next, reads.rest]
        simp
      rcases percentage_split isNumeral blank (fun member => noSign (suffix.subset member)) same with
        ⟨-, sign, -⟩ | within
      · exact absurd sign (by decide)
      · exact absurd within (by decide)

/-- The stop loss of the wording is its first limit. -/
theorem Phrasing.stopLossNumeral?_lowered :
    ∃ start, stopLossNumeral? phrasing.lowered = some ⟨start, phrasing.stop.chars⟩ := by
  let rest := ", ".toList ++ (phrasing.takeWords ++ ['%'])
  have text : phrasing.lowered = phrasing.signals ++ ("stop".toList ++
      ' ' :: ("loss".toList ++ ' ' :: (phrasing.stop.chars ++ '%' :: rest))) := by
    have sign : "%, ".toList = '%' :: ", ".toList := by decide
    unfold lowered stopWords
    simp only [rest, sign, List.append_assoc, List.cons_append]
  have outside : (phrasing.signals.getLast?.or none).any Text.isWordCharacter = false := by
    have last : phrasing.signals.getLast? = some ' ' := by
      unfold signals
      simp only [List.getLast?_append]
      rfl
    rw [last]
    decide
  have here := matchAt?_stopLossPhrase outside (0 + phrasing.signals.length) phrasing.stop rest
  refine ⟨0 + phrasing.signals.length + 10, ?_⟩
  rw [stopLossNumeral?, text, Pattern.find?, Pattern.findFrom?_passes (phrasing.stopLossPhrase_passes _),
    Pattern.findFrom?_here here]
  rfl

/-- No take profit is read in text without two of the letters that ask for one, if no percentage in it is followed by
words that do. -/
theorem takeProfitPhrase_passes {run rest : List Char} (letters : 'k' ∉ run ∧ 'f' ∉ run)
    (next : 'k' ∉ rest.take 2 ∧ 'f' ∉ rest.take 3)
    (unasked : ∀ later, later <:+ run → later ≠ [] → ∀ words numeral gap tail, takeProfitAsking.after words →
      IsNumeral numeral → (∀ c ∈ gap, Text.isBlank c = true) →
      numeral ++ (gap ++ '%' :: (words ++ tail)) ≠ later ++ rest) :
    Phrases.takeProfitPhrase.Passes run rest := by
  intro later suffix some place last here way
  cases takeProfitPhrase_reads way with
  | before asks edge isNumeral blank reads kept =>
      have words := words_of_reads reads
      rw [here] at words
      rcases takeProfitAsking_begins asks with take | profit
      · have begins : ['t', 'a'] ++ 'k' :: ['e'] <+: later ++ rest := take.trans words
        exact Pattern.not_prefix_of_absent ['t', 'a'] some (fun member => letters.1 (suffix.subset member)) next.1 begins
      · have begins : ['p', 'r', 'o'] ++ 'f' :: ['i', 't'] <+: later ++ rest := profit.trans words
        exact Pattern.not_prefix_of_absent ['p', 'r', 'o'] some (fun member => letters.2 (suffix.subset member)) next.2
          begins
  | @after words numeral gap asks isNumeral blank reads kept =>
      refine unasked later suffix some words numeral gap last.rest asks isNumeral blank ?_
      rw [← here, reads.rest]
      simp

/-- No take profit is read before the sign of the stop loss: what follows that sign asks for none. -/
theorem Phrasing.takeProfitPhrase_passes_stopLoss (rest : List Char) :
    Phrases.takeProfitPhrase.Passes (phrasing.signals ++ phrasing.stopWords) ("%, ".toList ++ rest) := by
  have noSign : '%' ∉ phrasing.signals ++ phrasing.stopWords := List.not_mem_append
    (phrasing.not_mem_signals (by decide) (by decide)) (phrasing.not_mem_stopWords (by decide) (by decide))
  have absent {c : Char} (numeric : inNumbers c = false)
      (other : c ∉ "buy when rsi below , sell when rsi above , ".toList ∧ c ∉ "stoploss".toList) :
      c ∉ phrasing.signals ++ phrasing.stopWords :=
    List.not_mem_append (phrasing.not_mem_signals numeric other.1) (phrasing.not_mem_stopWords numeric other.2)
  refine takeProfitPhrase_passes ⟨absent (by decide) (by decide), absent (by decide) (by decide)⟩ ?letters ?unasked
  case letters =>
    show 'k' ∉ ['%', ','] ∧ 'f' ∉ ['%', ',', ' ']
    decide
  case unasked =>
    intro later suffix some words numeral gap tail asks isNumeral blank same
    have sign : numeral ++ (gap ++ '%' :: (words ++ tail)) = later ++ '%' :: (", ".toList ++ rest) := same
    rcases percentage_split isNumeral blank (fun member => noSign (suffix.subset member)) sign with
      ⟨-, -, after⟩ | within
    · obtain ⟨c, more, rfl, head⟩ := takeProfitAsking_head asks
      obtain rfl : c = ',' := (List.cons.inj after).1
      exact absurd head (by decide)
    · exact absurd within (by decide)

/-- No take profit is read between the two limits. -/
theorem takeProfitPhrase_passes_between (rest : List Char) :
    Phrases.takeProfitPhrase.Passes "%, ".toList ("take".toList ++ rest) := by
  refine takeProfitPhrase_passes (by decide) ?letters ?unasked
  case letters =>
    show 'k' ∉ ['t', 'a'] ∧ 'f' ∉ ['t', 'a', 'k']
    decide
  case unasked =>
    intro later suffix some words numeral gap tail asks isNumeral blank same
    obtain ⟨digit, more, rfl, isDigit⟩ := isNumeral.starts
    obtain ⟨c, others, rfl⟩ := List.exists_cons_of_ne_nil some
    obtain rfl : digit = c := (List.cons.inj same).1
    have noDigit : ∀ c ∈ "%, ".toList, Text.isDecimalDigit c = false := by
      decide
    exact Bool.noConfusion (isDigit.symm.trans (noDigit digit (suffix.subset List.mem_cons_self)))

/-- The take profit of the wording is its second limit. -/
theorem Phrasing.takeProfitNumeral?_lowered :
    ∃ start, takeProfitNumeral? phrasing.lowered = some ⟨start, phrasing.take.chars⟩ := by
  have text : phrasing.lowered = phrasing.signals ++ phrasing.stopWords ++ ("%, ".toList ++ ("take".toList ++
      ' ' :: ("profit".toList ++ ' ' :: (phrasing.take.chars ++ ['%'])))) := by
    unfold lowered takeWords
    simp only [List.append_assoc, List.cons_append]
  have outside : ("%, ".toList.getLast?.or ((phrasing.signals ++ phrasing.stopWords).getLast?.or none)).any
      Text.isWordCharacter = false := by
    show (some ' ').any Text.isWordCharacter = false
    decide
  have here := matchAt?_takeProfitPhrase outside
    (0 + (phrasing.signals ++ phrasing.stopWords).length + "%, ".toList.length) phrasing.take []
  refine ⟨0 + (phrasing.signals ++ phrasing.stopWords).length + "%, ".toList.length + 12, ?_⟩
  rw [takeProfitNumeral?, text, Pattern.find?, Pattern.findFrom?_passes (phrasing.takeProfitPhrase_passes_stopLoss _),
    Pattern.findFrom?_passes (takeProfitPhrase_passes_between _), Pattern.findFrom?_here here]
  rfl

end Limits

end PaperTrading
