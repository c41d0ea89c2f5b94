/-
Module: PaperTrading.Proofs.Strategy.Understanding
Purpose: The plainest wording of a strategy is understood number for number.
Main exports: WrittenBriefly, SixtyAboveForty, Phrasing.interpret_text, Phrasing.prepare_text
-/
import PaperTrading.Proofs.Arithmetic.Saturated
import PaperTrading.Proofs.Strategy.Admission
import PaperTrading.Proofs.Strategy.Phrasing

namespace PaperTrading

open Arithmetic (whole isFinite lt)

section Others

/-- A word is not mentioned in text without one of its letters. -/
theorem mentions_eq_false {word : String} {c : Char} {text : List Char} (letter : c ∈ word.toList) (absent : c ∉ text) :
    mentions word text = false := by
  rw [mentions, Bool.eq_false_iff, ne_eq, Text.occursIn_eq_true_iff]
  intro within
  exact absent (within.subset letter)

variable (phrasing : Phrasing)

theorem Phrasing.not_mem_lowered {c : Char} (outside : inNumbers c = false)
    (other : c ∉ "buy when rsi below , sell when rsi above , stop loss %, take profit %".toList) :
    c ∉ phrasing.lowered := by
  have words (text : List Char)
      (within : ∀ d ∈ text, d ∈ "buy when rsi below , sell when rsi above , stop loss %, take profit %".toList) :
      c ∉ text :=
    fun member => other (within c member)
  have take : c ∉ phrasing.takeWords :=
    List.not_mem_append (words _ (by decide)) (not_mem_spaced outside
      (List.not_mem_append (words _ (by decide)) (not_mem_spaced outside (phrasing.take.not_mem outside))))
  exact List.not_mem_append (phrasing.not_mem_signals outside (words _ (by decide)))
    (List.not_mem_append (phrasing.not_mem_stopWords outside (words _ (by decide)))
      (List.not_mem_append (words _ (by decide)) (List.not_mem_append take (words _ (by decide)))))

/-- No other indicator is mentioned in the wording. -/
theorem Phrasing.mentionedIn_lowered {α : Type} [Arithmetic α] [Legible α] :
    mentionedIn phrasing.lowered = [(rsiMentioned phrasing.lowered : Mention α)] := by
  have noM : 'm' ∉ phrasing.lowered := phrasing.not_mem_lowered (by decide) (by decide)
  have noD : 'd' ∉ phrasing.lowered := phrasing.not_mem_lowered (by decide) (by decide)
  have noG : 'g' ∉ phrasing.lowered := phrasing.not_mem_lowered (by decide) (by decide)
  have macd : mentions "macd" phrasing.lowered = false := mentions_eq_false (by decide) noM
  have bollinger : mentions "bollinger" phrasing.lowered = false := mentions_eq_false (by decide) noG
  have volume : mentions "volume" phrasing.lowered = false := mentions_eq_false (by decide) noM
  have average : Phrases.averageMention.occursIn phrasing.lowered = false := by
    refine Text.Pattern.occursIn_of_isBarred (fun c => c == 'm' || c == 'd') (by decide) ?_
    intro c member
    rw [Bool.or_eq_false_iff, beq_eq_false_iff_ne, beq_eq_false_iff_ne]
    exact ⟨fun same => noM (same ▸ member), fun same => noD (same ▸ member)⟩
  simp [mentionedIn, phrasing.occursIn_rsiMention, macd, bollinger, volume, average]

end Others

section Meaning

variable {α : Type} [Arithmetic α] [Legible α] (phrasing : Phrasing) (category : String)

/-- What the wording asks for. -/
def Phrasing.intent : Intent α where
  category := category
  indicators := [.rsi]
  entryConditions := [.rsiBelow phrasing.low.value]
  exitConditions := [.rsiAbove phrasing.high.value]
  stopLoss := some phrasing.stop.value
  takeProfit := some phrasing.take.value
  understood := true
  clarifications := []

omit [Arithmetic α] in
/-- The thresholds that are read are those of the wording. -/
theorem Phrasing.thresholds_lowered :
    (rsiNumerals phrasing.lowered).filterMap (Text.Excerpt.number? (α := α)) =
      [phrasing.low.value, phrasing.high.value] := by
  have read (excerpts : List Text.Excerpt) : excerpts.filterMap (Text.Excerpt.number? (α := α)) =
      (excerpts.map (·.chars)).filterMap fun chars => Text.Excerpt.number? ⟨0, chars⟩ := by
    rw [List.filterMap_map]
    rfl
  rw [read, phrasing.rsiNumerals_lowered, List.filterMap_cons, phrasing.low.number?, List.filterMap_cons,
    phrasing.high.number?]
  rfl

variable (low : lt (phrasing.low.value : α) (whole 40) = true)
  (high : lt (whole 60) (phrasing.high.value : α) = true ∧ lt (phrasing.high.value : α) (whole 40) = false)
include low high

theorem Phrasing.rsiMentioned_lowered : (rsiMentioned phrasing.lowered : Mention α) =
    ⟨.rsi, [.rsiBelow phrasing.low.value], [.rsiAbove phrasing.high.value]⟩ := by
  simp [rsiMentioned, thresholds_lowered, low, high]

/-- The wording is understood. -/
theorem Phrasing.interpret_text : (interpret phrasing.text category : Intent α) = phrasing.intent category := by
  obtain ⟨start, stop⟩ := phrasing.stopLossNumeral?_lowered
  obtain ⟨startNext, take⟩ := phrasing.takeProfitNumeral?_lowered
  simp [interpret, phrasing.lowerCase_text, phrasing.mentionedIn_lowered, phrasing.rsiMentioned_lowered low high, stop,
    take, Amount.number?, distinctFrom, intent]

end Meaning

section Length

/-- Text of seven-bit characters has a byte for each character. -/
theorem Text.utf8ByteSize_of_ascii {text : String} (ascii : ∀ c ∈ text.toList, c.toNat < 128) :
    text.utf8ByteSize = text.toList.length := by
  rw [← byteLength_toList]
  generalize text.toList = chars at ascii ⊢
  induction chars with
  | nil => rfl
  | cons c rest ih =>
      obtain ⟨here, later⟩ := List.forall_mem_cons.1 ascii
      have low : c.val.toNat ≤ 127 := Nat.le_of_lt_succ here
      have one : c.utf8Size = 1 := if_pos low
      rw [byteLength_cons, one, ih later, List.length_cons, Nat.add_comm]

variable (α : Type) [Arithmetic α] [Legible α]

/-- Every finite number is written with a thousand characters at most: of doubles `doubles_writtenBriefly`. -/
def WrittenBriefly : Prop :=
  ∀ x : α, isFinite x = true → (Legible.chars x).length ≤ 1000

variable {α}

variable (phrasing : Phrasing) (category : String)

theorem Phrasing.length_entry : (Rule.assignment .entry (phrasing.intent category : Intent α).entryRule).toList.length ≤
    100 + (Legible.chars (phrasing.low.value : α)).length := by
  have warmup : (Nat.toDigits 10 200).length = 3 := by
    decide
  simp [Rule.toList_assignment, assignmentChars, Phrasing.intent, Intent.entryRule, Rule.chars, Rule.listChars,
    Operand.chars, opening, separator, Condition.rule, Comparison.keyword, Side.name, Column.name, draftWarmup, warmup]
  omega

theorem Phrasing.length_exit : (Rule.assignment .exit (phrasing.intent category : Intent α).exitRule).toList.length ≤
    100 + (Legible.chars (phrasing.stop.value : α)).length + (Legible.chars (phrasing.take.value : α)).length +
      (Legible.chars (phrasing.high.value : α)).length := by
  simp [Rule.toList_assignment, assignmentChars, Phrasing.intent, Intent.exitRule, Rule.chars, Rule.listChars,
    Operand.chars, opening, separator, Condition.rule, Comparison.keyword, Side.name, Column.name]
  omega

variable (legible : ReadsBack α) (constants : DraftConstants α) (brief : WrittenBriefly α)
include legible constants brief

/-- The rule text for the wording is not too long. -/
theorem Phrasing.sourceText_short (draftable : (phrasing.intent category : Intent α).IsDraftable) :
    (phrasing.intent category : Intent α).sourceText.utf8ByteSize ≤ longestSource := by
  let intent : Intent α := phrasing.intent category
  have plain := plain_assignments legible intent.plain_heading intent.endsLoosely_heading
    (draftable.entryRule_writable constants) (draftable.exitRule_writable constants)
  rw [← Intent.sourceText_eq] at plain
  have low := brief phrasing.low.value (draftable.entriesFinite _ List.mem_cons_self)
  have high := brief phrasing.high.value (draftable.exitsFinite _ List.mem_cons_self)
  have stop := brief phrasing.stop.value (draftable.stopLoss _ rfl).1
  have take := brief phrasing.take.value (draftable.takeProfit _ rfl).1
  have heading : intent.heading.toList.length = 35 := by
    have start : headingStart.toList.length = 31 := by
      decide +kernel
    have line : intent.indicatorLine = "RSI" := rfl
    rw [intent.toList_heading, List.length_append, start, line]
    rfl
  have entry : (Rule.assignment .entry intent.entryRule).toList.length ≤ _ := phrasing.length_entry category
  have exit : (Rule.assignment .exit intent.exitRule).toList.length ≤ _ := phrasing.length_exit category
  have limit : longestSource = 16384 := rfl
  rw [Text.utf8ByteSize_of_ascii plain.ascii, Intent.sourceText_eq, String.toList_append, String.toList_append,
    List.length_append, List.length_append]
  omega

end Length

section Preparation

variable (α : Type) [Arithmetic α] [Legible α]

/-- No number is above sixty and below forty: of doubles `doubles_sixtyAboveForty`. -/
def SixtyAboveForty : Prop :=
  ∀ x : α, lt (whole 60) x = true → lt x (whole 40) = false

variable {α}

/-- An amount is not negative. -/
theorem Amount.value_not_negative (unsigned : UnsignedNotNegative α) (amount : Amount) :
    lt (amount.value : α) (Arithmetic.whole 0) = false := by
  refine unsigned amount.numeral ?_
  obtain ⟨digits, fraction⟩ := amount
  cases fraction <;> rfl

/-- The amounts of a wording stand for finite numbers. -/
structure Phrasing.IsFinite (α : Type) [Arithmetic α] [Legible α] (phrasing : Phrasing) : Prop where
  low : isFinite (phrasing.low.value : α) = true
  high : isFinite (phrasing.high.value : α) = true
  stop : isFinite (phrasing.stop.value : α) = true
  take : isFinite (phrasing.take.value : α) = true

theorem Phrasing.IsFinite.isDraftable (unsigned : UnsignedNotNegative α) {phrasing : Phrasing}
    (finite : phrasing.IsFinite α) (category : String) : (phrasing.intent category : Intent α).IsDraftable where
  understood := rfl
  someEntry := List.cons_ne_nil _ _
  someExit := List.cons_ne_nil _ _
  entriesFinite := List.forall_mem_singleton.2 finite.low
  exitsFinite := List.forall_mem_singleton.2 finite.high
  stopLoss := by
    intro percent asked
    obtain rfl := Option.some.inj asked
    exact ⟨finite.stop, phrasing.stop.value_not_negative unsigned⟩
  takeProfit := by
    intro percent asked
    obtain rfl := Option.some.inj asked
    exact ⟨finite.take, phrasing.take.value_not_negative unsigned⟩

/-- What is drafted for the wording is prepared. -/
theorem Phrasing.prepare_eq_ok (legible : ReadsBack α) (constants : DraftConstants α) (unsigned : UnsignedNotNegative α)
    (brief : WrittenBriefly α) (apart : SixtyAboveForty α) {phrasing : Phrasing} (finite : phrasing.IsFinite α)
    (low : lt (phrasing.low.value : α) (whole 40) = true) (high : lt (whole 60) (phrasing.high.value : α) = true)
    (category : String) :
    let intent : Intent α := phrasing.intent category
    prepare phrasing.text category = .ok ⟨intent, ⟨intent.sourceText, intent.entryRule, intent.exitRule⟩⟩ := by
  intro intent
  have read : interpret phrasing.text category = intent := phrasing.interpret_text category low ⟨high, apart _ high⟩
  have draftable : intent.IsDraftable := finite.isDraftable unsigned category
  have short := phrasing.sourceText_short category legible constants brief draftable
  obtain ⟨-, -, compiled⟩ := draftable.compiled legible constants
  have admitted := compiled short
  have understood := draftable.understood
  rw [← read] at admitted understood
  rw [prepare_of_admitted understood admitted, read]

/-- The plainest wording of a strategy is understood number for number.  However the index is named, and whatever the
amounts are, if they stand for finite numbers, the first below 40 and the second above 60, the strategy that is prepared
buys after the warm-up where the index is below the first amount, and sells at the stop loss, at the take profit, and
where the index is above the second. -/
theorem Phrasing.prepare_text (legible : ReadsBack α) (constants : DraftConstants α) (unsigned : UnsignedNotNegative α)
    (brief : WrittenBriefly α) (apart : SixtyAboveForty α) {phrasing : Phrasing} (finite : phrasing.IsFinite α)
    (low : lt (phrasing.low.value : α) (whole 40) = true) (high : lt (whole 60) (phrasing.high.value : α) = true)
    (category : String) :
    ∃ prepared : Prepared α, prepare phrasing.text category = .ok prepared ∧
      prepared.rulebook.entry =
        .all [.warmup 200, .compare .below (.column .rsi14) (.constant phrasing.low.value)] ∧
      prepared.rulebook.exit =
        .any [.stopLoss phrasing.stop.value, .takeProfit phrasing.take.value,
          .compare .above (.column .rsi14) (.constant phrasing.high.value)] := by
  have ready := Phrasing.prepare_eq_ok legible constants unsigned brief apart finite low high category
  exact ⟨_, ready, rfl, rfl⟩

end Preparation

section Trial

namespace Saturated

theorem draftConstants : DraftConstants Saturated :=
  ⟨by decide, ⟨by decide, by decide⟩, ⟨by decide, by decide⟩⟩

/-- A number is less than a whole number if its amount is. -/
theorem lt_whole_iff (x : Saturated) {n : Nat} (small : n ≤ 100) :
    lt x (whole n) = true ↔ x.amount.count < n * 100 := by
  have amount : (whole n : Saturated).amount.count = n * 100 := by
    show max (-limit) (min ((n : Int) * 100) limit) = _
    rw [limit]
    omega
  show decide (x.amount.count < (whole n : Saturated).amount.count) = true ↔ _
  rw [decide_eq_true_iff, amount]

theorem whole_lt_iff (x : Saturated) {n : Nat} (small : n ≤ 100) :
    lt (whole n) x = true ↔ n * 100 < x.amount.count := by
  have amount : (whole n : Saturated).amount.count = n * 100 := by
    show max (-limit) (min ((n : Int) * 100) limit) = _
    rw [limit]
    omega
  show decide ((whole n : Saturated).amount.count < x.amount.count) = true ↔ _
  rw [decide_eq_true_iff, amount]

theorem unsignedNotNegative : UnsignedNotNegative Saturated := by
  intro n unsigned
  have size : (0 : Int) ≤ (n.coefficient * 100 / Nat.pow 10 n.places : Nat) := Int.natCast_nonneg _
  have count : (Hundredths.ofNumeral n).count = (n.coefficient * 100 / Nat.pow 10 n.places : Nat) := by
    simp [Hundredths.ofNumeral, unsigned]
  have amount : (Legible.ofNumeral n : Saturated).amount.count =
      max (-limit) (min (Hundredths.ofNumeral n).count limit) := rfl
  rw [← Bool.not_eq_true, lt_whole_iff _ (Nat.zero_le 100), amount, count, limit]
  omega

theorem writtenBriefly : WrittenBriefly Saturated := by
  intro x finite
  obtain ⟨low, high⟩ := isFinite_iff.1 finite
  rw [limit] at low high
  have chars : Legible.chars x = x.amount.numeral.chars := by
    rw [Legible.chars, show Legible.toNumeral? x = some x.amount.numeral from if_pos finite]
  have size : x.amount.numeral.coefficient < 10 ^ 9 ∧ x.amount.numeral.places ≤ 2 := by
    simp only [Hundredths.numeral]
    split
    case isTrue =>
      dsimp only
      omega
    case isFalse =>
      split
      all_goals
        dsimp only
        omega
  have digits := (Nat.length_toDigits_le_iff (by decide) (by decide)).2 size.1
  have length := x.amount.numeral.length_chars_le
  rw [chars]
  omega

theorem sixtyAboveForty : SixtyAboveForty Saturated := by
  intro x above
  rw [whole_lt_iff x (by decide)] at above
  rw [← Bool.not_eq_true, lt_whole_iff x (by decide)]
  omega

end Saturated

/-- A wording with a period after a blank and with numerals of each kind. -/
def trialPhrasing : Phrasing where
  naming := .spaced ⟨['1', '4'], by decide, by decide⟩
  low := ⟨⟨['3', '0'], by decide, by decide⟩, some ⟨['5'], by decide, by decide⟩⟩
  high := ⟨⟨['7', '0'], by decide, by decide⟩, none⟩
  stop := ⟨⟨['5'], by decide, by decide⟩, none⟩
  take := ⟨⟨['1', '0'], by decide, by decide⟩, some ⟨['2', '5'], by decide, by decide⟩⟩

/-- A strategy is prepared from its wording with the amounts 30.5, 70, 5 and 10.25. -/
theorem trialPhrasing_prepare_text :
    trialPhrasing.text = "Buy when RSI 14 below 30.5, sell when RSI 14 above 70, stop loss 5%, take profit 10.25%" ∧
      ∃ prepared : Prepared Saturated,
        prepare "Buy when RSI 14 below 30.5, sell when RSI 14 above 70, stop loss 5%, take profit 10.25%" "swing" =
            .ok prepared ∧
          prepared.rulebook.entry = .all [.warmup 200, .compare .below (.column .rsi14) (.constant ⟨⟨3050⟩⟩)] ∧
          prepared.rulebook.exit =
            .any [.stopLoss ⟨⟨500⟩⟩, .takeProfit ⟨⟨1025⟩⟩, .compare .above (.column .rsi14) (.constant ⟨⟨7000⟩⟩)] := by
  have text : trialPhrasing.text =
      "Buy when RSI 14 below 30.5, sell when RSI 14 above 70, stop loss 5%, take profit 10.25%" := by
    decide +kernel
  have finite : trialPhrasing.IsFinite Saturated := ⟨by decide, by decide, by decide, by decide⟩
  have read := Phrasing.prepare_text Saturated.spelledOut.readsBack Saturated.draftConstants
    Saturated.unsignedNotNegative Saturated.writtenBriefly Saturated.sixtyAboveForty finite (by decide) (by decide)
    "swing"
  rw [text] at read
  exact ⟨text, read⟩

end Trial

end PaperTrading
