/-
Module: PaperTrading.Proofs.Rule.Height
Purpose: How high the trees of admitted rules are.
Main exports: Operand.height, Rule.height, Operand.factors, Rule.factors, Rule.height_le, RuleText.factors_add_le,
  Rulebook.height_bounded, Rulebook.ofSource_scaledBy

The levels that a text may nest are not all the nodes of a tree.  The factors behind an operand are read in a loop, and
each puts a node on top of what was read before it, while the levels stay the same.  So it takes the asterisks of the
text, too, to bound the height.
-/
import PaperTrading.Proofs.Grammar.Programs
import PaperTrading.Proofs.Rule.Compilation
import PaperTrading.Proofs.Text.Lines

namespace PaperTrading

section Heights

variable {β : Type}

/-- The number of nodes on the longest way from the root of an operand to a leaf. -/
def Operand.height : Operand β → Nat
  | .column _ | .constant _ => 1
  | .abs inner | .round inner => inner.height + 1
  | .min first second | .max first second => Max.max first.height second.height + 1
  | .scaled inner _ => inner.height + 1

mutual

/-- The number of nodes on the longest way from the root of a rule to a leaf, through its operands. -/
def Rule.height : Rule β → Nat
  | .compare _ left right => max left.height right.height + 1
  | .all rules | .any rules => Rule.tallest rules + 1
  | .warmup _ | .stopLoss _ | .takeProfit _ => 1

/-- The height of the highest rule of a list. -/
def Rule.tallest : List (Rule β) → Nat
  | [] => 0
  | rule :: rest => max rule.height (Rule.tallest rest)

end

/-- The most factors on a way from the root of an operand to a leaf. -/
def Operand.factors : Operand β → Nat
  | .column _ | .constant _ => 0
  | .abs inner | .round inner => inner.factors
  | .min first second | .max first second => Max.max first.factors second.factors
  | .scaled inner _ => inner.factors + 1

mutual

/-- The most factors on a way from the root of a rule to a leaf. -/
def Rule.factors : Rule β → Nat
  | .compare _ left right => max left.factors right.factors
  | .all rules | .any rules => Rule.mostFactors rules
  | .warmup _ | .stopLoss _ | .takeProfit _ => 0

/-- The most factors on a way down one rule of a list. -/
def Rule.mostFactors : List (Rule β) → Nat
  | [] => 0
  | rule :: rest => max rule.factors (Rule.mostFactors rest)

end

theorem Operand.height_pos (operand : Operand β) : 0 < operand.height := by
  cases operand <;> simp [height]

theorem Operand.height_le (operand : Operand β) : operand.height ≤ operand.nesting + operand.factors := by
  induction operand with
  | column source => exact Nat.le_refl 1
  | constant value => exact Nat.le_refl 1
  | abs inner ih | round inner ih | scaled inner factor ih =>
      simp only [height, nesting, factors]
      omega
  | min first second ihFirst ihSecond | max first second ihFirst ihSecond =>
      simp only [height, nesting, factors]
      omega

mutual

/-- The nodes that are no levels are factors. -/
theorem Rule.height_le : ∀ rule : Rule β, rule.height ≤ rule.nesting + rule.factors
  | .compare _ left right => by
      have one := left.height_le
      have two := right.height_le
      simp only [Rule.height, Rule.nesting, Rule.factors]
      omega
  | .all rules | .any rules => by
      have within := Rule.tallest_le rules
      simp only [Rule.height, Rule.nesting, Rule.factors]
      omega
  | .warmup _ | .stopLoss _ | .takeProfit _ => Nat.le_refl 1

theorem Rule.tallest_le : ∀ rules : List (Rule β), Rule.tallest rules ≤ Rule.deepest rules + Rule.mostFactors rules
  | [] => Nat.le_refl 0
  | rule :: rest => by
      have here := rule.height_le
      have later := Rule.tallest_le rest
      simp only [Rule.tallest, Rule.deepest, Rule.mostFactors]
      omega

end

end Heights

namespace Grammar

section Asterisks

theorem Mark.count_times {text rest : List Char} (found : Mark .times text rest) :
    rest.count '*' + 1 ≤ text.count '*' := by
  have counted := (Blanks.isSuffix found).count_le '*'
  rwa [Punctuation.char, List.count_cons_self] at counted

variable {α : Type} [Legible α]

mutual

/-- Each factor has its asterisk in the text of the operand. -/
theorem OperandText.factors_add_le : ∀ {operand : Operand α} {text rest : List Char}, OperandText operand text rest →
    operand.factors + rest.count '*' ≤ text.count '*'
  | _, _, _, found@(.column _) | _, _, _, found@(.constant _) => by
      simpa only [Operand.factors, Nat.zero_add] using found.isSuffix.count_le '*'
  | _, _, _, .abs keyword inside | _, _, _, .round keyword inside =>
      Nat.le_trans inside.factors_add_le (keyword.isSuffix.count_le '*')
  | _, _, _, .min keyword inside | _, _, _, .max keyword inside =>
      Nat.le_trans inside.factors_add_le (keyword.isSuffix.count_le '*')
  | _, _, _, .scaled operand star number => by
      -- The asterisk stands between the operand and the number, where no other factor has been counted.
      have before := operand.factors_add_le
      have asterisk := star.count_times
      have behind := number.isSuffix.count_le '*'
      simp only [Operand.factors]
      omega

theorem OneOperand.factors_add_le : ∀ {operand : Operand α} {text rest : List Char}, OneOperand operand text rest →
    operand.factors + rest.count '*' ≤ text.count '*'
  | _, _, _, .mk opening inside closing => by
      have start := opening.isSuffix.count_le '*'
      have operand := inside.factors_add_le
      have stop := closing.isSuffix.count_le '*'
      omega

theorem TwoOperands.factors_add_le : ∀ {first second : Operand α} {text rest : List Char},
    TwoOperands first second text rest → max first.factors second.factors + rest.count '*' ≤ text.count '*'
  | _, _, _, _, .mk opening one comma two closing => by
      have start := opening.isSuffix.count_le '*'
      have left := one.factors_add_le
      have between := comma.isSuffix.count_le '*'
      have right := two.factors_add_le
      have stop := closing.isSuffix.count_le '*'
      omega

end

variable [Arithmetic α]

mutual

/-- Each factor has its asterisk in the text of the rule. -/
theorem RuleText.factors_add_le : ∀ {rule : Rule α} {text rest : List Char}, RuleText rule text rest →
    rule.factors + rest.count '*' ≤ text.count '*'
  | _, _, _, .compare keyword inside => Nat.le_trans inside.factors_add_le (keyword.isSuffix.count_le '*')
  | _, _, _, .all keyword inside | _, _, _, .any keyword inside =>
      Nat.le_trans inside.factors_add_le (keyword.isSuffix.count_le '*')
  | _, _, _, found@(.warmup _ _) | _, _, _, found@(.stopLoss _ _) | _, _, _, found@(.takeProfit _ _) => by
      simpa only [Rule.factors, Nat.zero_add] using found.isSuffix.count_le '*'

theorem RulesText.factors_add_le : ∀ {rules : List (Rule α)} {text rest : List Char}, RulesText rules text rest →
    Rule.mostFactors rules + rest.count '*' ≤ text.count '*'
  | _, _, _, .mk opening one more => by
      have start := opening.isSuffix.count_le '*'
      have first := one.factors_add_le
      have others := more.factors_add_le
      rw [Rule.mostFactors]
      omega

theorem MoreRulesText.factors_add_le : ∀ {rules : List (Rule α)} {text rest : List Char},
    MoreRulesText rules text rest → Rule.mostFactors rules + rest.count '*' ≤ text.count '*'
  | _, _, _, .close closing => by
      simpa only [Rule.mostFactors, Nat.zero_add] using closing.isSuffix.count_le '*'
  | _, _, _, .comma divided one more => by
      have start := divided.isSuffix.count_le '*'
      have first := one.factors_add_le
      have others := more.factors_add_le
      rw [Rule.mostFactors]
      omega

end

end Asterisks

end Grammar

section Bounds

variable {α : Type} [Arithmetic α] [Legible α]

theorem Program.factors_of_read {source : String} {program : Program α} {side : Side} {rule : Rule α}
    (read : Program.read source = .ok program) (assigned : program.get side = some rule) :
    rule.nesting ≤ deepestNesting ∧ rule.factors ≤ source.toList.count '*' := by
  obtain ⟨shallow, start, stop, inside, spelled⟩ := Program.ruleText_of_read read assigned
  have here := spelled.factors_add_le
  have whole := inside.count_le '*'
  exact ⟨shallow, by omega⟩

/-- The tree of a rule that is admitted is as high as rules may be nested, and higher by the factors on a way down it at
most.  Each of these has its asterisk in the text, which has a longest length. -/
theorem Rulebook.height_bounded {source : String} {rulebook : Rulebook α}
    (admitted : Rulebook.ofSource source = .ok rulebook) :
    ∀ rule ∈ [rulebook.entry, rulebook.exit],
      rule.height ≤ deepestNesting + rule.factors ∧ rule.factors ≤ source.toList.count '*' ∧
        rule.height ≤ deepestNesting + longestSource := by
  obtain ⟨short, -, read, -⟩ := Rulebook.ofSource_eq_ok admitted
  have asterisks : source.toList.count '*' ≤ source.toList.length := List.count_le_length
  have bytes := Text.length_le_utf8ByteSize source
  have bounded : ∀ side rule, (⟨some rulebook.entry, some rulebook.exit⟩ : Program α).get side = some rule →
      rule.height ≤ deepestNesting + rule.factors ∧ rule.factors ≤ source.toList.count '*' ∧
        rule.height ≤ deepestNesting + longestSource := by
    intro side rule assigned
    obtain ⟨shallow, few⟩ := Program.factors_of_read read assigned
    have height := rule.height_le
    exact ⟨by omega, few, by omega⟩
  intro rule member
  rcases List.mem_pair.1 member with rfl | rfl
  · exact bounded .entry rulebook.entry rfl
  · exact bounded .exit rulebook.exit rfl

end Bounds

section Towers

variable {β : Type}

/-- An operand with a factor behind it, so many times. -/
def Operand.scaledBy (operand : Operand β) (factor : β) (times : Nat) : Operand β :=
  Nat.repeat (fun inner => .scaled inner factor) times operand

namespace Operand

variable (operand : Operand β) (factor : β) (times : Nat)

theorem nesting_scaledBy : (operand.scaledBy factor times).nesting = operand.nesting := by
  induction times with
  | zero => rfl
  | succ times ih => exact ih

theorem height_scaledBy : (operand.scaledBy factor times).height = operand.height + times := by
  induction times with
  | zero => rfl
  | succ times ih => exact congrArg (· + 1) ih

variable {operand factor} in
theorem isWritable_scaledBy [Arithmetic β] (writable : operand.isWritable = true)
    (finite : Arithmetic.isFinite factor = true) : (operand.scaledBy factor times).isWritable = true := by
  induction times with
  | zero => exact writable
  | succ times ih => exact Bool.and_eq_true_iff.2 ⟨ih, finite⟩

end Operand

variable {α : Type} [Arithmetic α] [Legible α] (operand : Operand α) (factor level : α) (exit : Rule α)

/-- A comparison is admitted with any number of factors that the text has room for, and each adds to its height. -/
theorem Rulebook.ofSource_scaledBy (legible : ReadsBack α) (comparison : Comparison) (times : Nat)
    (writable : operand.isWritable = true) (shallow : operand.nesting < deepestNesting)
    (factorFinite : Arithmetic.isFinite factor = true) (levelFinite : Arithmetic.isFinite level = true)
    (exitWritable : exit.isWritable = true) (exitShallow : exit.nesting ≤ deepestNesting) :
    let entry : Rule α := .compare comparison (operand.scaledBy factor times) (.constant level)
    let source := Rule.assignment .entry entry ++ Rule.assignment .exit exit
    entry.height = operand.height + times + 1 ∧
      (source.utf8ByteSize ≤ longestSource → Rulebook.ofSource source = .ok ⟨source, entry, exit⟩) := by
  intro entry source
  have whole : "" ++ Rule.assignment .entry entry ++ Rule.assignment .exit exit = source := by
    rw [String.empty_append]
  have entryWritable : entry.isWritable = true :=
    Bool.and_eq_true_iff.2 ⟨Operand.isWritable_scaledBy times writable factorFinite, levelFinite⟩
  have entryShallow : entry.nesting ≤ deepestNesting := by
    have positive := operand.nesting_pos
    simp only [entry, Rule.nesting, Operand.nesting, Operand.nesting_scaledBy]
    omega
  constructor
  · have positive := operand.height_pos
    simp only [entry, Rule.height, Operand.height_scaledBy, Operand.height]
    omega
  · intro short
    have skipped : Trivia "".toList := Trivia.nil
    obtain ⟨-, compiled, -⟩ := compilation_behind_heading legible skipped (by decide) (by decide) entryWritable
      exitWritable
    obtain ⟨-, admitted⟩ := compiled entryShallow exitShallow
    rw [whole] at admitted
    exact admitted short

end Towers

section Trial

/-- A text that compares a close price with thirty-one factors behind it. -/
def factorTower : String :=
  "entry_condition = ABOVE(close" ++ String.join (List.replicate 31 " * 2") ++ ", 1)\nexit_condition = STOP_LOSS(5)\n"

/-- The rules of that text. -/
def factorTowerRulebook : Rulebook Hundredths where
  source := factorTower
  entry := .compare .above ((Operand.column .closePrice).scaledBy ⟨200⟩ 31) (.constant ⟨100⟩)
  exit := .stopLoss ⟨500⟩

theorem ofSource_factorTower : Rulebook.ofSource factorTower = .ok factorTowerRulebook := by
  have written : factorTower =
      Rule.assignment .entry factorTowerRulebook.entry ++ Rule.assignment .exit factorTowerRulebook.exit := by
    decide +kernel
  have short : factorTower.utf8ByteSize ≤ longestSource := by
    decide +kernel
  have admitted := Rulebook.ofSource_scaledBy (.column .closePrice) ⟨200⟩ ⟨100⟩ (.stopLoss ⟨500⟩) Hundredths.readsBack .above 31
    rfl (by decide) rfl rfl (by decide) (by decide)
  show Rulebook.ofSource factorTower = .ok ⟨factorTower, factorTowerRulebook.entry, factorTowerRulebook.exit⟩
  rw [written] at short ⊢
  exact admitted.2 short

/-- Its entry rule is as high as the text has asterisks and two nodes more. -/
theorem factorTower_height_bounded :
    factorTowerRulebook.entry.nesting = 2 ∧ factorTowerRulebook.entry.height = 33 ∧
      factorTower.toList.count '*' = 31 ∧
      factorTowerRulebook.entry.height ≤ deepestNesting + factorTowerRulebook.entry.factors ∧
      factorTowerRulebook.entry.factors ≤ factorTower.toList.count '*' := by
  have bounded := Rulebook.height_bounded ofSource_factorTower factorTowerRulebook.entry List.mem_cons_self
  exact ⟨by decide, by decide, by decide +kernel, bounded.1, bounded.2.1⟩

/-- A text is admitted whose rule is higher than rules may be nested. -/
theorem factorTower_exceeds_nesting :
    ∃ rulebook : Rulebook Hundredths, Rulebook.ofSource factorTower = .ok rulebook ∧
      rulebook.entry.nesting ≤ deepestNesting ∧ deepestNesting < rulebook.entry.height :=
  ⟨factorTowerRulebook, ofSource_factorTower, by decide, by decide⟩

end Trial

end PaperTrading
