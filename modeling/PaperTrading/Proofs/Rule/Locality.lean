/-
Module: PaperTrading.Proofs.Rule.Locality
Purpose: A verdict rests on its own day, the day before it and the price of the entry, and on nothing else.
Main exports: Inquiry, Inquiry.answer?, Inquiry.Within, Inquiry.Within.answer?_congr, Rule.inquiry, Rule.answer?_inquiry,
  Rule.inquiry_within, PanelsAgreeAt, Rule.evaluate_congr, Rule.evaluate_take, verdict_local

The inquiry of a rule is its evaluation with every look-up of a day as a step of its own, which may find anything, and
which fails on a day that the panel does not have.  It comes to the verdict of the rule; and since it looks up two days at
most, whatever it finds there, panels with the same rows on these days lead it to the same verdict.
-/
import PaperTrading.Proofs.Arithmetic.Hundredths
import PaperTrading.Proofs.Rule.Verdict

namespace PaperTrading

variable {α : Type}

section Inquiries

/-- A verdict that is reached, or that depends on what is found on a day. -/
inductive Inquiry (α : Type) where
  | verdict (holds : Bool)
  | look (day : Nat) (found : PanelRow α → Inquiry α)

namespace Inquiry

/-- The inquiry that goes on with the verdict of another. -/
def andThen (next : Bool → Inquiry α) : Inquiry α → Inquiry α
  | verdict holds => next holds
  | look day found => look day fun row => (found row).andThen next

/-- What an inquiry comes to on a panel.  It comes to nothing if it looks up a day that the panel does not have. -/
def answer? (panel : Array (PanelRow α)) : Inquiry α → Option Bool
  | verdict holds => some holds
  | look day found => panel[day]?.bind fun row => (found row).answer? panel

/-- An inquiry looks up none but these days, whatever it finds on them. -/
inductive Within (days : Nat → Prop) : Inquiry α → Prop where
  | verdict (holds : Bool) : Within days (verdict holds)
  | look {day : Nat} {found : PanelRow α → Inquiry α} (known : days day) (rest : ∀ row, Within days (found row)) :
      Within days (look day found)

variable {panel first second : Array (PanelRow α)} {inquiry : Inquiry α} {next : Bool → Inquiry α}
  {days : Nat → Prop}

theorem answer?_look {day : Nat} {row : PanelRow α} (there : panel[day]? = some row)
    (found : PanelRow α → Inquiry α) : (look day found).answer? panel = (found row).answer? panel := by
  rw [answer?, there, Option.bind_some]

theorem answer?_andThen {holds : Bool} (reached : inquiry.answer? panel = some holds) :
    (inquiry.andThen next).answer? panel = (next holds).answer? panel := by
  induction inquiry with
  | verdict =>
      obtain rfl := Option.some.inj reached
      rfl
  | look day found ih =>
      obtain ⟨row, there, reached⟩ := Option.bind_eq_some_iff.1 reached
      rw [andThen, answer?_look there]
      exact ih row reached

namespace Within

theorem andThen (within : inquiry.Within days) (later : ∀ holds, (next holds).Within days) :
    (inquiry.andThen next).Within days := by
  induction within with
  | verdict holds => exact later holds
  | look known _ ih => exact .look known ih

theorem mono {more : Nat → Prop} (within : inquiry.Within days) (fewer : ∀ day, days day → more day) :
    inquiry.Within more := by
  induction within with
  | verdict holds => exact .verdict holds
  | look known _ ih => exact .look (fewer _ known) ih

/-- Panels with the same rows on the days that an inquiry looks up lead it to the same verdict. -/
theorem answer?_congr (within : inquiry.Within days) (same : ∀ day, days day → first[day]? = second[day]?) :
    inquiry.answer? first = inquiry.answer? second := by
  induction within with
  | verdict => rfl
  | look known _ ih =>
      rw [answer?, answer?, same _ known]
      exact congrArg _ (funext ih)

end Within

end Inquiry

end Inquiries

section Panels

/-- A day is the one with an index, or the day before it. -/
def IsNowOrBefore (index day : Nat) : Prop :=
  day = index ∨ day + 1 = index

/-- Two panels both have a day, and have the same row on it, and on the day before it where there is one. -/
structure PanelsAgreeAt (first second : Array (PanelRow α)) (index : Nat) : Prop where
  inFirst : index < first.size
  inSecond : index < second.size
  now : first[index] = second[index]
  before : 1 ≤ index → first[index - 1] = second[index - 1]

variable {first second : Array (PanelRow α)} {index : Nat}

theorem PanelsAgreeAt.getElem?_eq (agree : PanelsAgreeAt first second index) {day : Nat}
    (near : IsNowOrBefore index day) : first[day]? = second[day]? := by
  have inFirst := agree.inFirst
  have inSecond := agree.inSecond
  rcases near with rfl | rfl
  · rw [Array.getElem?_eq_getElem inFirst, Array.getElem?_eq_getElem inSecond, agree.now]
  · have same : first[day] = second[day] := agree.before (Nat.le_add_left 1 day)
    rw [Array.getElem?_eq_getElem (Nat.lt_of_succ_lt inFirst), Array.getElem?_eq_getElem (Nat.lt_of_succ_lt inSecond),
      same]

/-- The first days of a panel agree with it on each of them. -/
theorem panelsAgreeAt_take (panel : List (PanelRow α)) {days : Nat} (early : index < days)
    (known : index < panel.length) : PanelsAgreeAt (panel.take days).toArray panel.toArray index where
  inFirst := by
    rw [List.size_toArray, List.length_take]
    exact Nat.lt_min.2 ⟨early, known⟩
  inSecond := known
  now := List.getElem_take
  before _ := List.getElem_take

end Panels

variable [Arithmetic α]

section Rules

/-- The inquiry of a cross whose day is found.  It looks up the day before, where there is one. -/
def Comparison.inquiryOfCross (comparison : Comparison) (left right : Operand α) (now : PanelRow α) : Nat → Inquiry α
  | 0 => .verdict false
  | before + 1 =>
    .look before fun row => .verdict (comparison.holdsOn left right now && comparison.failsOn left right row)

/-- The inquiry of a comparison whose day is found. -/
def Comparison.inquiry (comparison : Comparison) (left right : Operand α) (index : Nat) (now : PanelRow α) :
    Inquiry α :=
  if comparison.isCross then comparison.inquiryOfCross left right now index
  else .verdict (comparison.holdsOn left right now)

mutual

/-- The inquiry of a rule.  Each rule of the tree looks up the day anew. -/
def Rule.inquiry (index : Nat) (entryPrice : Option α) : Rule α → Inquiry α
  | .compare comparison left right => .look index fun now => comparison.inquiry left right index now
  | .all rules => .look index fun _ => Rule.inquiryOfAll index entryPrice rules
  | .any rules => .look index fun _ => Rule.inquiryOfAny index entryPrice rules
  | .warmup days => .look index fun _ => .verdict (days ≤ index)
  | .stopLoss percent =>
    .look index fun now =>
      .verdict ((entryPrice.bind (movePercent? · now.closePrice)).any fun move => Arithmetic.le move (-percent))
  | .takeProfit percent =>
    .look index fun now =>
      .verdict ((entryPrice.bind (movePercent? · now.closePrice)).any fun move => Arithmetic.le percent move)

/-- The inquiry of rules that must all hold.  It ends at the first that does not. -/
def Rule.inquiryOfAll (index : Nat) (entryPrice : Option α) : List (Rule α) → Inquiry α
  | [] => .verdict true
  | rule :: rest =>
    (Rule.inquiry index entryPrice rule).andThen fun holds =>
      if holds then Rule.inquiryOfAll index entryPrice rest else .verdict false

/-- The inquiry of rules of which one must hold.  It ends at the first that does. -/
def Rule.inquiryOfAny (index : Nat) (entryPrice : Option α) : List (Rule α) → Inquiry α
  | [] => .verdict false
  | rule :: rest =>
    (Rule.inquiry index entryPrice rule).andThen fun holds =>
      if holds then .verdict true else Rule.inquiryOfAny index entryPrice rest

end

section Answers

variable {panel : Array (PanelRow α)} {index : Nat} {now : PanelRow α} (today : panel[index]? = some now)
include today

theorem Comparison.answer?_inquiry (comparison : Comparison) (left right : Operand α) :
    (comparison.inquiry left right index now).answer? panel =
      some (comparison.holds left right (dayBefore panel index) now) := by
  rw [inquiry, holds]
  split
  case isTrue cross =>
    cases index with
    | zero =>
        -- On the first day there is nothing to look up, and `dayBefore` has nothing to find.
        rw [inquiryOfCross, dayBefore, if_pos rfl, Option.any_none, Bool.and_false]
        rfl
    | succ before =>
        have inside : before < panel.size := Nat.lt_of_succ_lt (Array.getElem?_eq_some_iff.1 today).1
        have there : panel[before]? = some panel[before] := Array.getElem?_eq_getElem inside
        rw [inquiryOfCross, Inquiry.answer?_look there, dayBefore_eq_some_iff.2 ⟨before, rfl, there⟩, Option.any_some]
        rfl
  case isFalse plain => rfl

variable (entered : Option (EntryPoint α))

-- The theorems about lists use the row of the day only through the one about rules.
set_option linter.unusedSectionVars false

mutual

/-- On a day of the panel the inquiry of a rule comes to its verdict. -/
theorem Rule.answer?_inquiry : ∀ rule : Rule α,
    (rule.inquiry index (entered.map (·.price))).answer? panel =
      some (rule.holds (dayBefore panel index) now index entered)
  | .compare comparison left right => by
      rw [inquiry, holds, Inquiry.answer?_look today]
      exact comparison.answer?_inquiry today left right
  | .all rules => by
      rw [inquiry, holds, Inquiry.answer?_look today]
      exact answer?_inquiryOfAll rules
  | .any rules => by
      rw [inquiry, holds, Inquiry.answer?_look today]
      exact answer?_inquiryOfAny rules
  | .warmup days => by
      rw [inquiry, holds, Inquiry.answer?_look today, Inquiry.answer?]
  | .stopLoss percent | .takeProfit percent => by
      rw [inquiry, holds, Inquiry.answer?_look today, Inquiry.answer?, Option.bind_map]
      rfl

theorem Rule.answer?_inquiryOfAll : ∀ rules : List (Rule α),
    (Rule.inquiryOfAll index (entered.map (·.price)) rules).answer? panel =
      some (Rule.allHold (dayBefore panel index) now index entered rules)
  | [] => by
      rw [inquiryOfAll, allHold, Inquiry.answer?]
  | rule :: rest => by
      rw [inquiryOfAll, allHold, Inquiry.answer?_andThen (answer?_inquiry rule)]
      cases rule.holds (dayBefore panel index) now index entered with
      | true => exact answer?_inquiryOfAll rest
      | false => rfl

theorem Rule.answer?_inquiryOfAny : ∀ rules : List (Rule α),
    (Rule.inquiryOfAny index (entered.map (·.price)) rules).answer? panel =
      some (Rule.anyHolds (dayBefore panel index) now index entered rules)
  | [] => by
      rw [inquiryOfAny, anyHolds, Inquiry.answer?]
  | rule :: rest => by
      rw [inquiryOfAny, anyHolds, Inquiry.answer?_andThen (answer?_inquiry rule)]
      cases rule.holds (dayBefore panel index) now index entered with
      | true => rfl
      | false => exact answer?_inquiryOfAny rest

end

end Answers

section Footprint

variable (index : Nat)

theorem Comparison.inquiry_within (comparison : Comparison) (left right : Operand α) (now : PanelRow α) :
    (comparison.inquiry left right index now).Within (IsNowOrBefore index) := by
  rw [inquiry]
  split
  case isTrue cross =>
    cases index with
    | zero => exact .verdict false
    | succ before => exact .look (.inr rfl) fun row => .verdict _
  case isFalse plain => exact .verdict _

variable (entryPrice : Option α)

mutual

/-- The inquiry of a rule looks up no day but its own and the one before. -/
theorem Rule.inquiry_within : ∀ rule : Rule α, (rule.inquiry index entryPrice).Within (IsNowOrBefore index)
  | .compare comparison left right => by
      rw [inquiry]
      exact .look (.inl rfl) (comparison.inquiry_within index left right)
  | .all rules => by
      rw [inquiry]
      exact .look (.inl rfl) fun _ => inquiryOfAll_within rules
  | .any rules => by
      rw [inquiry]
      exact .look (.inl rfl) fun _ => inquiryOfAny_within rules
  | .warmup _ | .stopLoss _ | .takeProfit _ => by
      rw [inquiry]
      exact .look (.inl rfl) fun _ => .verdict _

theorem Rule.inquiryOfAll_within : ∀ rules : List (Rule α),
    (Rule.inquiryOfAll index entryPrice rules).Within (IsNowOrBefore index)
  | [] => by
      rw [inquiryOfAll]
      exact .verdict true
  | rule :: rest => by
      rw [inquiryOfAll]
      refine (inquiry_within rule).andThen fun holds => ?_
      cases holds with
      | true => exact inquiryOfAll_within rest
      | false => exact .verdict false

theorem Rule.inquiryOfAny_within : ∀ rules : List (Rule α),
    (Rule.inquiryOfAny index entryPrice rules).Within (IsNowOrBefore index)
  | [] => by
      rw [inquiryOfAny]
      exact .verdict false
  | rule :: rest => by
      rw [inquiryOfAny]
      refine (inquiry_within rule).andThen fun holds => ?_
      cases holds with
      | true => exact .verdict true
      | false => exact inquiryOfAny_within rest

end

end Footprint

end Rules

section Verdicts

variable {first second : Array (PanelRow α)} {index : Nat} (rule : Rule α) {entered other : Option (EntryPoint α)}

/-- A verdict depends on no other days than its own and the one before, and on no more than the price of an entry. -/
theorem Rule.evaluate_congr (agree : PanelsAgreeAt first second index)
    (samePrice : entered.map (·.price) = other.map (·.price)) (budget : Budget) :
    rule.evaluate first index entered budget = rule.evaluate second index other budget := by
  obtain ⟨now, today⟩ : ∃ now, first[index]? = some now := ⟨_, Array.getElem?_eq_getElem agree.inFirst⟩
  have today' : second[index]? = some now := by
    rw [← agree.getElem?_eq (.inl rfl), today]
  -- Both verdicts are what one inquiry comes to, and it looks up no day on which the panels differ.
  have same : some (rule.holds (dayBefore first index) now index entered) =
      some (rule.holds (dayBefore second index) now index other) :=
    calc some (rule.holds (dayBefore first index) now index entered)
      _ = (rule.inquiry index (entered.map (·.price))).answer? first := (rule.answer?_inquiry today entered).symm
      _ = (rule.inquiry index (entered.map (·.price))).answer? second :=
          (rule.inquiry_within index _).answer?_congr fun _ near => agree.getElem?_eq near
      _ = (rule.inquiry index (other.map (·.price))).answer? second := by rw [samePrice]
      _ = some (rule.holds (dayBefore second index) now index other) := rule.answer?_inquiry today' other
  rw [rule.evaluate_eq entered today, rule.evaluate_eq other today', Option.some.inj same]

/-- A verdict does not depend on later days. -/
theorem Rule.evaluate_take (entered : Option (EntryPoint α)) (panel : List (PanelRow α)) {days : Nat}
    (early : index < days) (known : index < panel.length) (budget : Budget) :
    rule.evaluate (panel.take days).toArray index entered budget =
      rule.evaluate panel.toArray index entered budget :=
  rule.evaluate_congr (panelsAgreeAt_take panel early known) rfl budget

/-- With time enough, the verdict on a rule is reached on every day of a panel, and the inquiry that reaches it looks up
no other day than this one and the one before, and no day that the panel does not have.  It is the same verdict on all
panels that agree on the two days, whatever their other days and however many, and for all positions with the same entry
price, whenever it was paid. -/
theorem verdict_local (index : Nat) (budget : Budget) (timely : ∀ day, budget.exceeded? day = none) :
    (∀ (panel : Array (PanelRow α)) (entered : Option (EntryPoint α)), index < panel.size →
        ∃ holds, rule.evaluate panel index entered budget = .ok holds ∧
          (rule.inquiry index (entered.map (·.price))).answer? panel = some holds ∧
          (rule.inquiry index (entered.map (·.price))).Within fun day =>
            (day = index ∨ day + 1 = index) ∧ day < panel.size) ∧
      ∀ (first second : Array (PanelRow α)) (entered other : Option (EntryPoint α)),
        PanelsAgreeAt first second index → entered.map (·.price) = other.map (·.price) →
          rule.evaluate first index entered budget = rule.evaluate second index other budget := by
  constructor
  · intro panel entered inside
    have today : panel[index]? = some panel[index] := Array.getElem?_eq_getElem inside
    refine ⟨_, rule.evaluate_inTime entered today (timely index), rule.answer?_inquiry today entered, ?_⟩
    refine (rule.inquiry_within index _).mono fun day near => ⟨near, ?_⟩
    rcases near with rfl | rfl
    · exact inside
    · exact Nat.lt_of_succ_lt inside
  · intro first second entered other agree samePrice
    exact rule.evaluate_congr agree samePrice budget

end Verdicts

section Trial

/-- A rise from 90 to 110, after a day that is at 70. -/
def riseAfterLow : Array (PanelRow Hundredths) :=
  #[Hundredths.flatDay ⟨2009, 1, 5, by decide⟩ 70, Hundredths.flatDay ⟨2009, 1, 6, by decide⟩ 90,
    Hundredths.flatDay ⟨2009, 1, 7, by decide⟩ 110]

/-- The same rise, after a day that is at 300 and before one that is at 5. -/
def riseAfterPeak : Array (PanelRow Hundredths) :=
  #[Hundredths.flatDay ⟨2009, 1, 2, by decide⟩ 300, Hundredths.flatDay ⟨2009, 1, 6, by decide⟩ 90,
    Hundredths.flatDay ⟨2009, 1, 7, by decide⟩ 110, Hundredths.flatDay ⟨2009, 1, 8, by decide⟩ 5]

theorem riseAfterLow_agrees : PanelsAgreeAt riseAfterLow riseAfterPeak 2 where
  inFirst := by decide
  inSecond := by decide
  now := rfl
  before _ := rfl

/-- On the second day of the rise its cross and its profit have the same verdict on both panels, wherever the position
was entered. -/
theorem riseAfterLow_local :
    let rule : Rule Hundredths :=
      .all [.compare .crossAbove (.column .closePrice) (.constant (.ofInt 100)),
        .any [.stopLoss (.ofInt 5), .takeProfit (.ofInt 10)]]
    rule.evaluate riseAfterLow 2 (some ⟨.ofInt 100, 0⟩) .ample = .ok true ∧
      rule.evaluate riseAfterPeak 2 (some ⟨.ofInt 100, 1⟩) .ample = .ok true ∧
      (rule.inquiry 2 (some (.ofInt 100))).Within fun day => (day = 2 ∨ day + 1 = 2) ∧ day < 3 := by
  intro rule
  obtain ⟨reached, same⟩ := verdict_local rule 2 .ample fun _ => rfl
  obtain ⟨holds, decided, answer, within⟩ := reached riseAfterLow (some ⟨.ofInt 100, 0⟩) (by decide)
  obtain rfl : true = holds := Option.some.inj answer
  have alike := same riseAfterLow riseAfterPeak (some ⟨.ofInt 100, 0⟩) (some ⟨.ofInt 100, 1⟩) riseAfterLow_agrees rfl
  exact ⟨decided, alike.symm.trans decided, within⟩

end Trial

end PaperTrading
