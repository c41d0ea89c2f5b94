/-
Module: PaperTrading.Proofs.Rule.Compilation
Purpose: Written rules are admitted as the rules they were written from.
Main exports: Rulebook.ofSource_eq_ok, compilation_behind_heading, compilation_of_written_rules
-/
import PaperTrading.Proofs.Arithmetic.Hundredths
import PaperTrading.Proofs.Rule.PlainText
import PaperTrading.Rule.Rulebook

namespace PaperTrading

section Sources

variable {α : Type} [Arithmetic α] [Legible α]

/-- A text is admitted if it is short enough, has no denied word and assigns both rules. -/
theorem Rulebook.ofSource_of_read {source : String} {entry exit : Rule α}
    (short : source.utf8ByteSize ≤ longestSource) (scanned : scanText source = .ok ())
    (read : Program.read source = .ok ⟨some entry, some exit⟩) :
    Rulebook.ofSource source = .ok ⟨source, entry, exit⟩ := by
  simp only [Rulebook.ofSource, if_neg (Nat.not_lt.2 short), scanned, read]

/-- What was checked of a text that is admitted. -/
theorem Rulebook.ofSource_eq_ok {source : String} {rulebook : Rulebook α}
    (admitted : Rulebook.ofSource source = .ok rulebook) :
    source.utf8ByteSize ≤ longestSource ∧ scanText source = .ok () ∧
      Program.read source = .ok ⟨some rulebook.entry, some rulebook.exit⟩ ∧ rulebook.source = source := by
  simp only [ofSource] at admitted
  split at admitted
  case isTrue => cases admitted
  case isFalse short =>
    split at admitted
    case h_1 => cases admitted
    case h_2 scanned =>
      split at admitted
      case h_4 entry exit read =>
        cases admitted
        exact ⟨Nat.le_of_not_lt short, scanned, read, rfl⟩
      all_goals cases admitted

variable {heading : String} {entry exit : Rule α}

/-- What becomes of the text of the assignments of two writable rules, behind a plain heading of comments. -/
theorem compilation_behind_heading (legible : ReadsBack α) (skipped : Trivia heading.toList)
    (plain : Plain heading.toList) (loose : EndsLoosely heading.toList)
    (entryWritable : entry.isWritable = true) (exitWritable : exit.isWritable = true) :
    let source := heading ++ Rule.assignment .entry entry ++ Rule.assignment .exit exit
    scanText source = .ok () ∧
      (entry.nesting ≤ deepestNesting → exit.nesting ≤ deepestNesting →
        Program.read source = .ok ⟨some entry, some exit⟩ ∧
          (source.utf8ByteSize ≤ longestSource → Rulebook.ofSource source = .ok ⟨source, entry, exit⟩)) ∧
      (deepestNesting < entry.nesting ∨ deepestNesting < exit.nesting →
        ∃ position, Program.read (α := α) source = .error ⟨.tooDeep, position⟩) := by
  intro source
  have scanned := (plain_assignments legible plain loose entryWritable exitWritable).scanText
  refine ⟨scanned, ?shallow, Program.read_tooDeep legible skipped entryWritable exitWritable⟩
  case shallow =>
    intro entryShallow exitShallow
    have read := Program.read_assignments legible skipped entryWritable exitWritable entryShallow exitShallow
    exact ⟨read, fun short => Rulebook.ofSource_of_read short scanned read⟩

variable (entry exit) in
/-- Rules that are written as a text and compiled are the same rules, if they are not nested too deep; if one of
them is, the text is refused for that.  The scan for denied words never refuses such a text. -/
theorem compilation_of_written_rules (legible : ReadsBack α)
    (entryWritable : entry.isWritable = true) (exitWritable : exit.isWritable = true) :
    let source := Rule.assignment .entry entry ++ Rule.assignment .exit exit
    scanText source = .ok () ∧
      (entry.nesting ≤ deepestNesting → exit.nesting ≤ deepestNesting →
        Program.read source = .ok ⟨some entry, some exit⟩ ∧
          (source.utf8ByteSize ≤ longestSource → Rulebook.ofSource source = .ok ⟨source, entry, exit⟩)) ∧
      (deepestNesting < entry.nesting ∨ deepestNesting < exit.nesting →
        ∃ position, Program.read (α := α) source = .error ⟨.tooDeep, position⟩) := by
  intro source
  have skipped : Trivia "".toList := Trivia.nil
  have plain : Plain "".toList := by
    decide
  have loose : EndsLoosely "".toList := by
    decide
  have same : "" ++ Rule.assignment .entry entry ++ Rule.assignment .exit exit = source := by
    rw [String.empty_append]
  have compiled := compilation_behind_heading legible skipped plain loose entryWritable exitWritable
  rwa [same] at compiled

end Sources

section Trial

/-- A rule with a comparison, a warm-up and a factor. -/
def trialEntry : Rule Hundredths :=
  .all [.warmup 200, .compare .above (.column .volume) (.scaled (.column .volumeSma20) ⟨150⟩)]

/-- A rule with percentages and a cross. -/
def trialExit : Rule Hundredths :=
  .any [.stopLoss ⟨500⟩, .takeProfit ⟨1050⟩, .compare .crossBelow (.abs (.column .macd)) (.constant ⟨-25⟩)]

/-- A comparison with so many magnitudes taken on its left side. -/
def trialTower (levels : Nat) : Rule Hundredths :=
  .compare .below (Nat.repeat .abs levels (.column .rsi14)) (.constant ⟨3000⟩)

theorem compilation_of_trial_rules :
    let source := Rule.assignment .entry trialEntry ++ Rule.assignment .exit trialExit
    Rulebook.ofSource source = .ok ⟨source, trialEntry, trialExit⟩ ∧
      ∃ position, Program.read (α := Hundredths)
        (Rule.assignment .entry trialEntry ++ Rule.assignment .exit (trialTower 31)) =
          .error ⟨.tooDeep, position⟩ := by
  have shallow := compilation_of_written_rules trialEntry trialExit Hundredths.readsBack (by decide) (by decide)
  have deep := compilation_of_written_rules trialEntry (trialTower 31) Hundredths.readsBack (by decide) (by decide)
  exact ⟨(shallow.2.1 (by decide) (by decide)).2 (by decide +kernel), deep.2.2 (.inr (by decide))⟩

end Trial

end PaperTrading
