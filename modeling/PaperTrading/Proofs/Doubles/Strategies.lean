/-
Module: PaperTrading.Proofs.Doubles.Strategies
Purpose: What holds of strategies, and of the tests of strategies, on doubles.
Main exports: doubles_compilation_iff, doubles_reread_iff, doubles_prepare_eq_ok_iff, doubles_prepared_decides,
  doubles_prepare_phrasing, doubles_prepared_requote, doubles_trades_within_limits, doubles_score_within

Elsewhere these results are about any arithmetic that some laws hold of.  They hold of doubles, so here nothing is assumed.
-/
import PaperTrading.Proofs.Doubles.Laws
import PaperTrading.Proofs.Report.Warmup
import PaperTrading.Proofs.Rule.Rereading
import PaperTrading.Proofs.Strategy.PriceUnit

namespace PaperTrading

open Arithmetic (whole isFinite lt le)

section Rules

variable {heading : String} {entry exit : Rule Float}

/-- Behind a plain heading of comments, writable rules on doubles are compiled back from their text just if they are not
nested too deep and the text is not too long. -/
theorem doubles_compilation_iff (skipped : Trivia heading.toList) (plain : Plain heading.toList)
    (loose : EndsLoosely heading.toList) (entryWritable : entry.isWritable = true)
    (exitWritable : exit.isWritable = true) :
    let source := heading ++ Rule.assignment .entry entry ++ Rule.assignment .exit exit
    Rulebook.ofSource source = .ok ⟨source, entry, exit⟩ ↔
      entry.nesting ≤ deepestNesting ∧ exit.nesting ≤ deepestNesting ∧ source.utf8ByteSize ≤ longestSource := by
  intro source
  obtain ⟨-, compiled, refused⟩ :=
    compilation_behind_heading doubles_readsBack skipped plain loose entryWritable exitWritable
  constructor
  · intro admitted
    obtain ⟨short, -, read, -⟩ := Rulebook.ofSource_eq_ok admitted
    have shallow : ¬(deepestNesting < entry.nesting ∨ deepestNesting < exit.nesting) := by
      intro deep
      obtain ⟨position, tooDeep⟩ := refused deep
      exact nomatch read.symm.trans tooDeep
    rw [not_or, Nat.not_lt, Nat.not_lt] at shallow
    exact ⟨shallow.1, shallow.2, short⟩
  · rintro ⟨entryShallow, exitShallow, short⟩
    exact (compiled entryShallow exitShallow).2 short

/-- A rule that was read from a text is read again from its own text just if none of its numbers is out of the range of
doubles. -/
theorem doubles_reread_iff {source : String} {program : Program Float} {side : Side} {rule : Rule Float}
    (read : Program.read source = .ok program) (assigned : program.get side = some rule) :
    Program.read (Rule.assignment side rule) = .ok ((⟨none, none⟩ : Program Float).set rule side) ↔
      ∀ x ∈ rule.numbers, x.isFinite = true := by
  obtain ⟨shallow, start, stop, -, found⟩ := Program.ruleText_of_read read assigned
  refine ⟨?_, Program.reread doubles_readsBack found shallow⟩
  intro again x member
  by_contra unbounded
  obtain ⟨problem, position, -, refused⟩ :=
    Program.reread_fails side doubles_spelledOut found shallow ⟨x, member, Bool.eq_false_iff.2 unbounded⟩
  exact nomatch again.symm.trans refused

end Rules

section Preparation

variable {description category : String} {prepared : Prepared Float}

/-- A description is prepared on doubles just if it is understood, its numbers are in the range of doubles and its text is
not too long. -/
theorem doubles_prepare_eq_ok_iff :
    let intent : Intent Float := interpret description category
    prepare description category = .ok prepared ↔
      intent.understood = true ∧ intent.NumbersFinite ∧ intent.sourceText.utf8ByteSize ≤ longestSource ∧
        prepared = ⟨intent, ⟨intent.sourceText, intent.entryRule, intent.exitRule⟩⟩ :=
  prepare_eq_ok_iff doubles_spelledOut doubles_draftConstants doubles_unsignedNotNegative

/-- A prepared strategy decides on doubles what its description asks for: it buys after the warm-up where every entry
condition holds, and sells where the price has moved far enough or where an exit condition holds. -/
theorem doubles_prepared_decides (ready : prepare description category = .ok prepared)
    (panel : Array (PanelRow Float)) {index : Nat} (inside : index < panel.size) :
    Decides (prepared.rulebook.enters panel index .ample)
        (200 ≤ index ∧ ∀ condition ∈ prepared.intent.entryConditions, condition.HoldsAt panel index) ∧
      ∀ (price : Float) (entryIndex : Nat), isFinite price = true → lt (whole 0) price = true →
        let move := (panel[index].closePrice - price) / price * whole 100
        Decides (prepared.rulebook.leaves panel index ⟨price, entryIndex⟩ .ample)
          ((isFinite move = true ∧
              (le move (-(prepared.intent.stopLoss.getD (whole 5))) = true ∨
                le (prepared.intent.takeProfit.getD (whole 10)) move = true)) ∨
            ∃ condition ∈ prepared.intent.exitConditions, condition.HoldsAt panel index) := by
  obtain ⟨-, draftable, rules⟩ := prepare_eq_ok doubles_spelledOut doubles_draftConstants ready
  rw [rules]
  refine ⟨draftable.entryRule_decides inside, ?_⟩
  intro price entryIndex finite positive
  exact draftable.exitRule_decides inside finite ((doubles_lt_iff rfl finite).1 positive) entryIndex

/-- The plainest wording of a strategy is prepared number for number, on the doubles that its amounts stand for. -/
theorem doubles_prepare_phrasing {phrasing : Phrasing} (finite : phrasing.IsFinite Float)
    (low : lt (phrasing.low.value : Float) (whole 40) = true)
    (high : lt (whole 60) (phrasing.high.value : Float) = true) (category : String) :
    let intent : Intent Float := phrasing.intent category
    prepare phrasing.text category = .ok ⟨intent, ⟨intent.sourceText, intent.entryRule, intent.exitRule⟩⟩ :=
  Phrasing.prepare_eq_ok doubles_readsBack doubles_draftConstants doubles_unsignedNotNegative doubles_writtenBriefly
    doubles_sixtyAboveForty finite low high category

/-- Followed in exact arithmetic, the rules of a strategy that is prepared on doubles trade alike on the same bars in
another unit of prices. -/
theorem doubles_prepared_requote {K : Type} [LinearOrder K] [ExactArithmetic K] [IsStrictOrderedRing K]
    (ready : prepare description category = .ok prepared) (exact : Float → K) (roots : RootsScale K)
    (bars : List (PriceBar K)) {c : K} (positive : 0 < c) (terms : Terms K) (budget : Budget)
    (stopBefore : Progress → Bool) :
    let rulebook := prepared.rulebook.map exact
    let result := simulate rulebook (augment bars) terms budget stopBefore
    simulate rulebook (augment (bars.map (·.requote c))) terms budget stopBefore =
      { result with trades := result.trades.map (·.requote c) } := by
  obtain ⟨entry, exit⟩ := Prepared.isCommensurate doubles_spelledOut doubles_draftConstants ready exact
  exact simulate_requote positive entry exit roots bars terms budget stopBefore

end Preparation

section Tests

/-- A trade is entered after the warm-up and before the last day.  On the days on which its position is kept, the move
from its entry price is between a stop loss and a take profit, where it is finite. -/
structure DatedTrade.KeepsWithin (panel : List (PanelRow Float)) (stop take : Float) (made : DatedTrade Float) :
    Prop where
  isMadeIn : made.IsMadeIn panel
  warm : 200 ≤ made.entry
  inside : made.entry + 1 < panel.length
  within : ∀ day row, made.entry < day → (day < made.exit ∨ day = made.exit ∧ made.trade.exitReason = .endOfData) →
    panel[day]? = some row → isFinite (made.trade.moveTo row.closePrice) = true →
      lt (-stop) (made.trade.moveTo row.closePrice) = true ∧ lt (made.trade.moveTo row.closePrice) take = true

variable {feed : Feed Float} {request : Request Float} {terms : TestTerms Float} {stopBefore : Progress → Bool}
  {report : Report Float}

/-- In a test on doubles with time for every decision, the trades keep within the stop loss and the take profit that its
report names. -/
theorem doubles_trades_within_limits (ample : terms.budget = .ample)
    (answered : backtest feed request terms stopBefore = .ok report) :
    ∃ bars stop take, feed request.symbol request.startDate request.endDate = .ok bars ∧
      report.intent.stopLoss = some stop ∧ report.intent.takeProfit = some take ∧
      ∃ dated : List (DatedTrade Float), report.trades = dated.map (·.trade) ∧
        ∀ made ∈ dated, made.KeepsWithin (augment bars) stop take := by
  obtain ⟨prepared, bars, ready, fetched, made⟩ := backtest_stages answered
  have prepares := Request.prepare_of_ready ready
  obtain ⟨interpreted, draftable, rules⟩ := prepare_eq_ok doubles_spelledOut doubles_draftConstants prepares
  obtain ⟨-, -, -, trades, -, -, -, summary⟩ := Request.result_of_report made
  rw [ample] at trades
  obtain ⟨stop, take⟩ := Prepared.limits interpreted
  let signals := prepared.rulebook.signals (augment bars) .ample
  have warmup : 200 ≤ signals.warmup := Prepared.draftWarmup_le doubles_spelledOut doubles_draftConstants prepares
  have leaves := Prepared.leave_signals (augment bars) (congrArg Rulebook.exit rules)
  obtain ⟨trips, course, made⟩ := run_course signals ⟨request.initialCapital, terms.commission⟩ (augment bars) stopBefore
  rw [summary]
  refine ⟨bars, _, _, fetched, stop, take, trips.map (·.dated ⟨request.initialCapital, terms.commission⟩), ?_, ?_⟩
  · rw [List.map_map]
    exact trades.trans made
  · intro made listed
    obtain ⟨trip, member, rfl⟩ := List.mem_map.1 listed
    have completed := course.completed member
    obtain ⟨cash, bought⟩ := completed.bought
    exact
      { isMadeIn := trip.isMadeIn bought completed.sold
        warm := Nat.le_trans warmup bought.warm
        inside := bought.inside
        within := fun day row after held here bounded =>
          draftable.trip_within doubles_draftConstants doubles_orderedWhereFinite leaves completed after held here bounded }

/-- The score of a test on doubles is between zero and a hundred, and so are its parts within their bounds. -/
theorem doubles_score_within (answered : backtest feed request terms stopBefore = .ok report) :
    report.performance.parts.AreBounded ∧ report.performance.score = report.performance.parts.total ∧
      Within 100 report.performance.score := by
  obtain ⟨prepared, bars, -, -, made⟩ := backtest_stages answered
  obtain ⟨-, -, -, -, -, -, performance, -⟩ := Request.result_of_report made
  rw [performance]
  exact ⟨Performance.parts_areBounded doubles_sumsInOrder _ _ _, Performance.score_eq_total doubles_sumsInOrder _ _ _,
    Performance.score_within doubles_sumsInOrder _ _ _⟩

end Tests

end PaperTrading
