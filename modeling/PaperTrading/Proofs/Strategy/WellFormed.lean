/-
Module: PaperTrading.Proofs.Strategy.WellFormed
Purpose: How the parts of an intent that is read from a description belong together.
Main exports: Condition.IsEntry, Condition.IsExit, AreMatched, AreMatched.flatMap, AreMatched.distinct, mentionOf,
  rsiMentioned_areMatched, mentionedIn_areMatched, Intent.IsWellFormed, interpret_isWellFormed

Which conditions go together is stated once, of two lists of conditions and the indicators that they are about.  It
holds of what a description says about one indicator, of what it says about all that it names, and still after
conditions that were said before are left out.
-/
import PaperTrading.Proofs.Arithmetic.Doubles
import PaperTrading.Proofs.Strategy.Admission
import PaperTrading.Proofs.Strategy.Clauses

namespace PaperTrading

open Arithmetic (whole lt le)
open Text (Excerpt)
open Text.Pattern (Found)

section Kinds

variable {α : Type} [Arithmetic α]

/-- What an intent can have as a condition to buy.  A threshold is from zero up to 40, and an average is one that the
panel has. -/
def Condition.IsEntry : Condition α → Prop
  | .rsiBelow threshold => le (whole 0) threshold = true ∧ lt threshold (whole 40) = true
  | .macdBullishCross | .goldenCross | .bollingerLowerTouch | .volumeSpike => True
  | .priceCrossAboveAverage period => period = 20 ∨ period = 50 ∨ period = 200
  | .rsiAbove _ | .macdBearishCross | .deathCross | .bollingerUpperTouch => False

/-- What an intent can have as a condition to sell.  A threshold is above 60. -/
def Condition.IsExit : Condition α → Prop
  | .rsiAbove threshold => lt (whole 60) threshold = true
  | .macdBearishCross | .deathCross | .bollingerUpperTouch => True
  | .rsiBelow _ | .macdBullishCross | .goldenCross | .priceCrossAboveAverage _ | .bollingerLowerTouch
  | .volumeSpike => False

/-- A condition to buy, and the condition to sell that is said together with it. -/
inductive Condition.Mirrors : Condition α → Condition α → Prop
  | averages : Mirrors .goldenCross .deathCross
  | macd : Mirrors .macdBullishCross .macdBearishCross
  | bands : Mirrors .bollingerLowerTouch .bollingerUpperTouch

/-- Conditions to buy and to sell that are about some indicators, with no condition without its mirror, and with one
kind of cross of an average at most. -/
structure AreMatched (indicators : List Indicator) (entries exits : List (Condition α)) : Prop where
  entry : ∀ condition ∈ entries, condition.IsEntry ∧ condition.indicator ∈ indicators
  exit : ∀ condition ∈ exits, condition.IsExit ∧ condition.indicator ∈ indicators
  mirrored : ∀ buy sell, buy.Mirrors sell → (buy ∈ entries ↔ sell ∈ exits)
  oneCross : .goldenCross ∈ entries → ∀ period, .priceCrossAboveAverage period ∉ entries

end Kinds

section Distinct

variable {α : Type} [Arithmetic α] {condition : Condition α} {conditions seen : List (Condition α)}

theorem mem_of_mem_distinctFrom (kept : condition ∈ distinctFrom seen conditions) : condition ∈ conditions := by
  induction conditions generalizing seen with
  | nil => exact kept
  | cons first rest ih =>
      rw [distinctFrom] at kept
      split at kept
      case isTrue => exact List.mem_cons_of_mem _ (ih kept)
      case isFalse =>
        rcases List.mem_cons.1 kept with rfl | later
        · exact List.mem_cons_self
        · exact List.mem_cons_of_mem _ (ih later)

theorem not_contains_of_mem_distinctFrom (kept : condition ∈ distinctFrom seen conditions) :
    seen.contains condition = false := by
  induction conditions generalizing seen with
  | nil => cases kept
  | cons first rest ih =>
      rw [distinctFrom] at kept
      split at kept
      case isTrue => exact ih kept
      case isFalse new =>
        rcases List.mem_cons.1 kept with rfl | later
        · exact Bool.eq_false_iff.2 new
        · have fresh := ih later
          rw [List.contains_cons, Bool.or_eq_false_iff] at fresh
          exact fresh.2

/-- No condition is kept twice. -/
theorem distinctFrom_pairwise : (distinctFrom seen conditions).Pairwise fun one other => (other == one) = false := by
  induction conditions generalizing seen with
  | nil => exact .nil
  | cons first rest ih =>
      rw [distinctFrom]
      split
      case isTrue => exact ih
      case isFalse =>
        refine .cons ?_ ih
        intro other later
        have fresh := not_contains_of_mem_distinctFrom later
        rw [List.contains_cons, Bool.or_eq_false_iff] at fresh
        exact fresh.1

/-- A condition that equals no other is kept. -/
theorem mem_distinctFrom_of_alone (alone : ∀ other, (condition == other) = true → other = condition)
    (member : condition ∈ conditions) (new : condition ∉ seen) : condition ∈ distinctFrom seen conditions := by
  induction conditions generalizing seen with
  | nil => cases member
  | cons first rest ih =>
      rw [distinctFrom]
      split
      case isTrue old =>
        obtain ⟨other, before, same⟩ := List.contains_iff_exists_mem_beq.1 old
        rcases List.mem_cons.1 member with rfl | later
        · exact absurd (alone other same ▸ before) new
        · exact ih later new
      case isFalse =>
        rcases List.mem_cons.1 member with rfl | later
        · exact List.mem_cons_self
        · by_cases same : condition = first
          · exact List.mem_cons.2 (.inl same)
          · exact List.mem_cons_of_mem _ (ih later (List.not_mem_cons_of_ne_of_not_mem same new))

theorem mem_distinct_iff (alone : ∀ other, (condition == other) = true → other = condition) :
    condition ∈ distinctFrom [] conditions ↔ condition ∈ conditions :=
  ⟨mem_of_mem_distinctFrom, fun member => mem_distinctFrom_of_alone alone member List.not_mem_nil⟩

end Distinct

section Matching

variable {α : Type} [Arithmetic α] {indicators : List Indicator} {entries exits : List (Condition α)}

/-- The conditions that have a mirror equal no others. -/
theorem Condition.Mirrors.alone {buy sell : Condition α} (mirrors : buy.Mirrors sell) :
    (∀ other, (buy == other) = true → other = buy) ∧ ∀ other, (sell == other) = true → other = sell := by
  cases mirrors with
  | averages | macd | bands =>
      constructor
      all_goals
        intro other same
        cases other
        all_goals first | rfl | cases same

theorem AreMatched.of_mirrors {buy sell : Condition α} (mirrors : buy.Mirrors sell) :
    AreMatched [buy.indicator] [buy] [sell] := by
  cases mirrors with
  | averages | macd | bands =>
      refine ⟨?entry, ?exit, ?mirrored, ?oneCross⟩
      case entry =>
        rw [List.forall_mem_singleton]
        exact ⟨trivial, List.mem_singleton_self _⟩
      case exit =>
        rw [List.forall_mem_singleton]
        exact ⟨trivial, List.mem_singleton_self _⟩
      case mirrored =>
        intro other sell mirrors
        cases mirrors with
        | averages | macd | bands => simp
      case oneCross =>
        intro _ period
        simp

/-- Conditions without mirrors belong together. -/
theorem AreMatched.of_not_mirrors
    (entry : ∀ condition ∈ entries, condition.IsEntry ∧ condition.indicator ∈ indicators)
    (exit : ∀ condition ∈ exits, condition.IsExit ∧ condition.indicator ∈ indicators)
    (alone : ∀ buy sell, buy.Mirrors sell → buy ∉ entries ∧ sell ∉ exits) : AreMatched indicators entries exits where
  entry := entry
  exit := exit
  mirrored := fun buy sell mirrors => iff_of_false (alone buy sell mirrors).1 (alone buy sell mirrors).2
  oneCross := fun golden => absurd golden (alone _ _ .averages).1

theorem AreMatched.nil : AreMatched (α := α) indicators [] [] :=
  of_not_mirrors (List.forall_mem_nil _) (List.forall_mem_nil _) fun _ _ _ => ⟨List.not_mem_nil, List.not_mem_nil⟩

/-- A condition to buy without a mirror. -/
theorem AreMatched.single (buy : Condition α) (isEntry : buy.IsEntry) (alone : ∀ sell, ¬ buy.Mirrors sell) :
    AreMatched [buy.indicator] [buy] [] := by
  refine of_not_mirrors ?_ (List.forall_mem_nil _) ?_
  · rw [List.forall_mem_singleton]
    exact ⟨isEntry, List.mem_singleton_self _⟩
  · intro other sell mirrors
    refine ⟨?_, List.not_mem_nil⟩
    rw [List.mem_singleton]
    rintro rfl
    exact alone sell mirrors

/-- Conditions that belong together still do when each is kept once. -/
theorem AreMatched.distinct (matched : AreMatched indicators entries exits) :
    AreMatched indicators (distinctFrom [] entries) (distinctFrom [] exits) where
  entry := fun condition kept => matched.entry condition (mem_of_mem_distinctFrom kept)
  exit := fun condition kept => matched.exit condition (mem_of_mem_distinctFrom kept)
  mirrored := by
    intro buy sell mirrors
    rw [mem_distinct_iff mirrors.alone.1, mem_distinct_iff mirrors.alone.2]
    exact matched.mirrored buy sell mirrors
  oneCross := fun golden period price =>
    matched.oneCross (mem_of_mem_distinctFrom golden) period (mem_of_mem_distinctFrom price)

/-- What is said about different indicators belongs together. -/
theorem AreMatched.flatMap {mentions : List (Mention α)}
    (each : ∀ mention ∈ mentions, AreMatched [mention.indicator] mention.entries mention.exits)
    (once : ∀ one ∈ mentions, ∀ other ∈ mentions, one.indicator = other.indicator → one = other) :
    AreMatched (mentions.map (·.indicator)) (mentions.flatMap (·.entries)) (mentions.flatMap (·.exits)) where
  entry := by
    intro condition member
    obtain ⟨mention, said, member⟩ := List.mem_flatMap.1 member
    obtain ⟨isEntry, about⟩ := (each mention said).entry condition member
    exact ⟨isEntry, List.mem_map.2 ⟨mention, said, (List.mem_singleton.1 about).symm⟩⟩
  exit := by
    intro condition member
    obtain ⟨mention, said, member⟩ := List.mem_flatMap.1 member
    obtain ⟨isExit, about⟩ := (each mention said).exit condition member
    exact ⟨isExit, List.mem_map.2 ⟨mention, said, (List.mem_singleton.1 about).symm⟩⟩
  mirrored := by
    intro buy sell mirrors
    rw [List.mem_flatMap, List.mem_flatMap]
    exact exists_congr fun mention => and_congr_right fun said => (each mention said).mirrored buy sell mirrors
  oneCross := by
    intro golden period price
    obtain ⟨one, said, golden⟩ := List.mem_flatMap.1 golden
    obtain ⟨other, saidToo, price⟩ := List.mem_flatMap.1 price
    -- Both crosses are about the moving average, so they are said by one mention.
    have here := List.mem_singleton.1 ((each one said).entry _ golden).2
    have there := List.mem_singleton.1 ((each other saidToo).entry _ price).2
    obtain rfl := once one said other saidToo (here.symm.trans there)
    exact (each one said).oneCross golden period price

end Matching

section Mentions

variable {α : Type} [Arithmetic α] [Legible α]

/-- What a text says about an indicator, if it names it. -/
def mentionOf (text : List Char) : Indicator → Mention α
  | .rsi => rsiMentioned text
  | .macd => macdMentioned text
  | .movingAverage => averageMentioned text
  | .bollinger => bollingerMentioned
  | .volume => volumeMentioned text

variable {text : List Char}

theorem indicator_mentionOf (indicator : Indicator) : (mentionOf text indicator : Mention α).indicator = indicator := by
  cases indicator with
  | rsi | bollinger => rfl
  | macd =>
      rw [mentionOf, macdMentioned]
      split
      case isTrue => rfl
      case isFalse => rfl
  | movingAverage =>
      rw [mentionOf, averageMentioned]
      split
      case isTrue => rfl
      case isFalse =>
        split
        case isTrue => rfl
        case isFalse => rfl
  | volume =>
      rw [mentionOf, volumeMentioned]
      split
      case isTrue => rfl
      case isFalse => rfl

/-- A text says one thing about each indicator. -/
theorem eq_mentionOf {mention : Mention α} (said : mention ∈ mentionedIn text) :
    mention = mentionOf text mention.indicator := by
  have some : ∃ indicator, mention = mentionOf text indicator := by
    simp only [mentionedIn, List.mem_append, List.mem_ite_nil_right, List.mem_singleton] at said
    rcases said with (((⟨-, rfl⟩ | ⟨-, rfl⟩) | ⟨-, rfl⟩) | ⟨-, rfl⟩) | ⟨-, rfl⟩
    · exact ⟨.rsi, rfl⟩
    · exact ⟨.macd, rfl⟩
    · exact ⟨.movingAverage, rfl⟩
    · exact ⟨.bollinger, rfl⟩
    · exact ⟨.volume, rfl⟩
  obtain ⟨indicator, rfl⟩ := some
  rw [indicator_mentionOf]

theorem nearestPeriod_mem (period : Nat) :
    nearestPeriod period = 20 ∨ nearestPeriod period = 50 ∨ nearestPeriod period = 200 := by
  rw [nearestPeriod]
  refine List.foldlRecOn (motive := fun period => period = 20 ∨ period = 50 ∨ period = 200) panelPeriods _ (.inl rfl) ?_
  intro best one candidate member
  split
  case isTrue => simpa [panelPeriods] using member
  case isFalse => exact one

/-- The average that a text names is one that the panel has. -/
theorem namedPeriod_mem (text : List Char) :
    namedPeriod text = 20 ∨ namedPeriod text = 50 ∨ namedPeriod text = 200 := by
  rw [namedPeriod]
  split
  case h_1 => exact .inl rfl
  case h_2 =>
    dsimp only
    split
    case isTrue => exact nearestPeriod_mem _
    case isFalse => exact .inl rfl

theorem mentionOf_areMatched {indicator : Indicator} (other : indicator ≠ .rsi) :
    AreMatched [indicator] (mentionOf text indicator : Mention α).entries (mentionOf text indicator).exits := by
  cases indicator with
  | rsi => exact absurd rfl other
  | macd =>
      rw [mentionOf, macdMentioned]
      split
      case isTrue => exact .of_mirrors .macd
      case isFalse => exact .nil
  | movingAverage =>
      rw [mentionOf, averageMentioned]
      split
      case isTrue => exact .of_mirrors .averages
      case isFalse =>
        split
        case isTrue => exact .single (.priceCrossAboveAverage _) (namedPeriod_mem text) fun _ => nofun
        case isFalse => exact .nil
  | bollinger => exact .of_mirrors .bands
  | volume =>
      rw [mentionOf, volumeMentioned]
      split
      case isTrue => exact .single .volumeSpike trivial fun _ => nofun
      case isFalse => exact .nil

end Mentions

section Thresholds

variable {text : List Char} {excerpt : Excerpt}

/-- A numeral is read as a double that is zero or more. -/
theorem zero_le_of_number? (isNumeral : IsNumeral excerpt.chars) {x : Float} (read : excerpt.number? = some x) :
    le (whole 0) x = true := by
  obtain ⟨n, unsigned, rfl⟩ := exists_numeral_of_number? isNumeral read
  exact doubles_zero_le_ofNumeral unsigned

theorem rsiMentioned_areMatched :
    AreMatched [.rsi] (rsiMentioned text : Mention Float).entries (rsiMentioned text).exits := by
  refine .of_not_mirrors ?entry ?exit ?alone
  case entry =>
    intro condition member
    obtain ⟨threshold, low, rfl⟩ := List.mem_map.1 member
    obtain ⟨read, below⟩ := List.mem_filter.1 low
    obtain ⟨excerpt, numeral, number⟩ := List.mem_filterMap.1 read
    obtain ⟨-, -, -, -, -, isNumeral, -⟩ := mem_thresholdNumerals numeral
    exact ⟨⟨zero_le_of_number? isNumeral number, below⟩, List.mem_singleton_self _⟩
  case exit =>
    intro condition member
    obtain ⟨threshold, high, rfl⟩ := List.mem_map.1 member
    have above := (Bool.and_eq_true_iff.1 (List.mem_filter.1 high).2).2
    exact ⟨above, List.mem_singleton_self _⟩
  case alone =>
    intro buy sell mirrors
    cases mirrors with
    | averages | macd | bands => exact ⟨by simp [rsiMentioned], by simp [rsiMentioned]⟩

/-- What a description says about all the indicators that it names belongs together. -/
theorem mentionedIn_areMatched (text : List Char) :
    AreMatched ((mentionedIn text : List (Mention Float)).map (·.indicator))
      ((mentionedIn text : List (Mention Float)).flatMap (·.entries)) ((mentionedIn text).flatMap (·.exits)) := by
  refine .flatMap ?each ?once
  case each =>
    intro mention said
    rw [eq_mentionOf said, indicator_mentionOf]
    cases mention.indicator with
    | rsi => exact rsiMentioned_areMatched
    | macd | movingAverage | bollinger | volume => exact mentionOf_areMatched nofun
  case once =>
    intro one said other saidToo same
    rw [eq_mentionOf said, eq_mentionOf saidToo, same]

/-- A percentage of a description is zero or more if the default for it is. -/
theorem zero_le_percentage {numeral? : Option Excerpt} {otherwise : Float}
    (isNumeral : ∀ {excerpt}, numeral? = some excerpt → IsNumeral excerpt.chars)
    (default : le (whole 0) otherwise = true) :
    le (whole 0) ((numeral?.bind Text.Excerpt.number?).getD otherwise) = true :=
  holds_percentage (motive := fun percent => le (whole 0) percent = true) default
    (fun _ => doubles_zero_le_ofNumeral) isNumeral

/-- Whether two conditions on doubles are equal does not depend on their order. -/
theorem Condition.beq_comm (one other : Condition Float) : (one == other) = (other == one) := by
  cases one with
  | rsiBelow threshold =>
      cases other with
      | rsiBelow limit => exact doubles_beq_comm
      | _ => rfl
  | rsiAbove threshold =>
      cases other with
      | rsiAbove limit => exact doubles_beq_comm
      | _ => rfl
  | priceCrossAboveAverage period =>
      cases other with
      | priceCrossAboveAverage days =>
          show (period == days) = (days == period)
          exact BEq.comm
      | _ => rfl
  | _ => cases other with | _ => rfl

theorem distinctFrom_apart {conditions seen : List (Condition Float)} :
    (distinctFrom seen conditions).Pairwise fun one other => (one == other) = false :=
  distinctFrom_pairwise.imp fun apart => (Condition.beq_comm _ _).trans apart

end Thresholds

section Intents

/-- The parts of an intent belong together.  It is understood if there is something to buy on and something to sell on,
and then nothing is asked. -/
structure Intent.IsWellFormed {α : Type} [Arithmetic α] (intent : Intent α) : Prop where
  understood : intent.understood = true ↔ intent.entryConditions ≠ [] ∧ intent.exitConditions ≠ []
  settled : intent.understood = true ↔ intent.clarifications = []
  clarifications : intent.clarifications =
    (if intent.entryConditions.isEmpty then [buyPrompt] else []) ++
      (if intent.exitConditions.isEmpty then [sellPrompt] else [])
  entriesApart : intent.entryConditions.Pairwise fun one other => (one == other) = false
  exitsApart : intent.exitConditions.Pairwise fun one other => (one == other) = false
  matched : AreMatched intent.indicators intent.entryConditions intent.exitConditions
  stopLoss : ∃ percent, intent.stopLoss = some percent ∧ le (whole 0) percent = true
  takeProfit : ∃ percent, intent.takeProfit = some percent ∧ le (whole 0) percent = true

/-- Nothing is asked about a description just if it is understood. -/
theorem settled_interpret {α : Type} [Arithmetic α] [Legible α] {description category : String} :
    (interpret description category : Intent α).understood = true ↔
      (interpret description category : Intent α).clarifications = [] := by
  rw [understood_interpret_iff, interpret, List.append_eq_nil_iff]
  exact and_congr (by simp) (by simp)

/-- What a strategy description asks for is well formed, and there is a draft for it just if it is understood; if not,
the questions are the outcome. -/
theorem interpret_isWellFormed (description category : String) :
    let intent : Intent Float := interpret description category
    intent.IsWellFormed ∧ (intent.draft = .error intent.clarifications ↔ intent.understood = false) ∧
      ∀ asked, intent.draft = .error asked → asked = intent.clarifications := by
  intro intent
  refine ⟨?formed, ?drafted, ?asked⟩
  case formed =>
    exact
      { understood := understood_interpret_iff
        settled := settled_interpret
        clarifications := rfl
        entriesApart := distinctFrom_apart
        exitsApart := distinctFrom_apart
        matched := (mentionedIn_areMatched _).distinct
        stopLoss := ⟨_, rfl, zero_le_percentage isNumeral_of_stopLossNumeral? rfl⟩
        takeProfit := ⟨_, rfl, zero_le_percentage isNumeral_of_takeProfitNumeral? rfl⟩ }
  case drafted =>
    rw [Intent.draft, isComplete_interpret]
    cases intent.understood with
    | true =>
        constructor
        · intro drafted
          cases drafted
        · intro vague
          cases vague
    | false => exact iff_of_true rfl rfl
  case asked =>
    intro asked drafted
    rw [Intent.draft] at drafted
    split at drafted
    case isTrue => cases drafted
    case isFalse => exact (Except.error.inj drafted).symm

/-- A description with a condition to buy and none to sell: the question about selling is the outcome. -/
theorem buyingOnly_isWellFormed :
    let intent : Intent Float := interpret "Buy when RSI is below 30" "swing"
    intent.draft = .error [sellPrompt] ∧ (∀ asked, intent.draft = .error asked → asked = [sellPrompt]) ∧
      intent.entryConditions.length = 1 ∧
      ∀ condition ∈ intent.entryConditions, condition.IsEntry ∧ condition.indicator ∈ intent.indicators := by
  have vague : (interpret "Buy when RSI is below 30" "swing" : Intent Float).understood = false := by
    decide +kernel
  have prompts : (interpret "Buy when RSI is below 30" "swing" : Intent Float).clarifications = [sellPrompt] := by
    decide +kernel
  intro intent
  obtain ⟨formed, drafted, asked⟩ := interpret_isWellFormed "Buy when RSI is below 30" "swing"
  have outcome : intent.draft = .error [sellPrompt] := prompts ▸ drafted.2 vague
  exact ⟨outcome, fun questions failed => (asked questions failed).trans prompts, by decide +kernel,
    formed.matched.entry⟩

end Intents

end PaperTrading
