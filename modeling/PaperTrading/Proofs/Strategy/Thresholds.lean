/-
Module: PaperTrading.Proofs.Strategy.Thresholds
Purpose: An amount is read from the place where it is written, and after the name of the index as its threshold.
Main exports: Digits, Amount, Amount.number?, run_amount, IsPeriod, rsiThreshold_reads, IsGap,
  IsGap.matchAt?_rsiThreshold
-/
import PaperTrading.Proofs.Decimal.Spelling
import PaperTrading.Proofs.Strategy.Percentages

namespace PaperTrading

open Text (Pattern Place Excerpt StopsBefore IsRun)
open Text.Pattern (Found)

/-- Digits, one at least. -/
structure Digits where
  chars : List Char
  nonempty : chars ≠ []
  inside : ∀ c ∈ chars, c.isDigit = true

/-- A decimal numeral: digits, perhaps with a point and further digits. -/
structure Amount where
  whole : Digits
  fraction : Option Digits

/-- The text of an amount. -/
def Amount.chars (amount : Amount) : List Char :=
  match amount.fraction with
  | none => amount.whole.chars
  | some fraction => amount.whole.chars ++ '.' :: fraction.chars

/-- The numeral that an amount spells. -/
def Amount.numeral (amount : Amount) : Numeral :=
  match amount.fraction with
  | none => ⟨false, Numeral.digitsValue amount.whole.chars, 0⟩
  | some fraction => ⟨false, Numeral.digitsValue (amount.whole.chars ++ fraction.chars), fraction.chars.length⟩

/-- The number that an amount stands for. -/
def Amount.value {α : Type} [Legible α] (amount : Amount) : α :=
  Legible.ofNumeral amount.numeral

section Characters

theorem isDecimalDigit_of_isDigit {c : Char} (digit : c.isDigit = true) : Text.isDecimalDigit c = true := by
  have small : c.toNat < 128 := Nat.lt_of_le_of_lt (Char.isDigit_iff_toNat.1 digit).2 (by decide)
  rw [Text.isDecimalDigit, if_pos small, digit]

variable (digits : Digits) (amount : Amount)

theorem Digits.isDecimalDigit : ∀ c ∈ digits.chars, Text.isDecimalDigit c = true :=
  fun c member => isDecimalDigit_of_isDigit (digits.inside c member)

theorem Digits.length_pos : 1 ≤ digits.chars.length :=
  List.length_pos_iff.2 digits.nonempty

/-- Digits are not blank. -/
theorem Digits.stopsBlanks (rest : List Char) : StopsBefore Text.isBlank (digits.chars ++ rest) := by
  obtain ⟨digit, more, chars⟩ := List.exists_cons_of_ne_nil digits.nonempty
  have isDigit := digits.inside digit (chars ▸ List.mem_cons_self)
  rw [chars, List.cons_append, Text.stopsBefore_cons]
  exact Text.isBlank_of_isDigit isDigit

theorem Amount.spelling : Numeral.Spelling amount.numeral amount.chars := by
  obtain ⟨whole, fraction⟩ := amount
  cases fraction with
  | none => exact .whole false whole.inside whole.nonempty
  | some fraction =>
      exact .pointed false whole.inside fraction.inside (List.append_ne_nil_of_left_ne_nil whole.nonempty _)

/-- The number of an amount is read from its text. -/
theorem Amount.number? {α : Type} [Legible α] (offset : Nat) :
    Text.Excerpt.number? ⟨offset, amount.chars⟩ = some (amount.value : α) := by
  have scanned : Numeral.scan amount.chars = some (amount.numeral, []) := by
    simpa using amount.spelling.scan_eq (Text.stopsBefore_nil _)
  simp [Text.Excerpt.number?, Numeral.read?, scanned, Amount.value]

end Characters

section Reading

variable {β : Type} {accept : Place → Option β} {result : β} {place : Place}

/-- Where no digit is next there is no amount. -/
theorem run_amount_eq_none (stops : StopsBefore Text.isDecimalDigit place.rest) :
    Phrases.amount.run place accept = none := by
  apply Pattern.run_eq_none
  intro last way
  obtain ⟨numeral, ⟨⟨digit, more, rfl, isDigit⟩, -⟩, reads, -⟩ := amount_reads way
  have outside := stops digit (by rw [reads.rest]; rfl)
  exact Bool.noConfusion (isDigit.symm.trans outside)

theorem stopsBefore_isDecimalDigit {rest : List Char} (stops : StopsBefore inNumeral rest) :
    StopsBefore Text.isDecimalDigit rest := by
  intro c head
  have outside := stops c head
  rw [inNumeral, Bool.or_eq_false_iff] at outside
  exact outside.1

theorem run_digits (digits : Digits) {rest : List Char} (here : place.rest = digits.chars ++ rest)
    (stops : StopsBefore Text.isDecimalDigit rest) (accepted : accept (place.past digits.chars rest) = some result) :
    Phrases.digits.run place accept = some result :=
  Pattern.run_longest here digits.isDecimalDigit stops digits.length_pos accepted

/-- An amount is read to its end. -/
theorem run_amount (amount : Amount) {rest : List Char} (here : place.rest = amount.chars ++ rest)
    (stops : StopsBefore inNumeral rest)
    (accepted : accept { place.past amount.chars rest with excerpt := some ⟨place.offset, amount.chars⟩ } =
      some result) :
    Phrases.amount.run place accept = some result := by
  refine Pattern.run_kept here ?_ accepted
  intro accept accepted
  obtain ⟨whole, fraction⟩ := amount
  have noDigit := stopsBefore_isDecimalDigit stops
  cases fraction with
  | none =>
      refine run_digits whole here noDigit (Pattern.run_second ?_ accepted)
      rintro last (_ | _ | _ | _ | ⟨point, -⟩)
      have dot := stops '.' (by rw [show rest = _ from point.reads_literal.rest]; rfl)
      exact absurd dot (by decide)
  | some fraction =>
      have point : StopsBefore Text.isDecimalDigit ('.' :: (fraction.chars ++ rest)) := by
        rw [Text.stopsBefore_cons]
        decide
      have text : place.rest = whole.chars ++ '.' :: (fraction.chars ++ rest) :=
        here.trans (List.append_assoc _ _ _)
      refine run_digits whole text point (Pattern.run_first ?_)
      refine Pattern.run_literal rfl ?_
      refine run_digits fraction rfl noDigit ?_
      rw [Place.past_past, Place.past_past]
      exact accepted

end Reading

section Thresholds

/-- A period in parentheses. -/
def bracketedPeriod : Pattern :=
  .inOrder [Phrases.blanks, .word "(", Phrases.blanks, Phrases.digits, Phrases.blanks, .word ")"]

/-- A period by itself. -/
def barePeriod : Pattern :=
  .inOrder [Phrases.blanks, Phrases.digits, Phrases.someBlanks]

/-- The characters between a period and a threshold. -/
def thresholdGap : Pattern :=
  .repeated (fun c => !Text.isDecimalDigit c) 0 (some 40) true

theorem rsiThreshold_eq : Phrases.rsiThreshold =
    .sequence (.optional (.either bracketedPeriod barePeriod)) (.sequence thresholdGap Phrases.amount) :=
  rfl

/-- Text that may come right after the name of the index: its period, in parentheses or by itself, or nothing. -/
inductive IsPeriod : List Char → Prop
  | absent : IsPeriod []
  | bracketed {first digits second third : List Char} (blank : ∀ c ∈ first ++ (second ++ third), Text.isBlank c = true)
      (isNumeral : IsNumeral digits) (whole : ∀ c ∈ digits, Text.isDecimalDigit c = true) :
      IsPeriod (first ++ ("(".toList ++ (second ++ (digits ++ (third ++ ")".toList)))))
  | bare {first digits second : List Char} (blank : ∀ c ∈ first ++ second, Text.isBlank c = true)
      (isNumeral : IsNumeral digits) (whole : ∀ c ∈ digits, Text.isDecimalDigit c = true) (apart : second ≠ []) :
      IsPeriod (first ++ (digits ++ second))

section Reads

variable {place last : Place}

theorem bracketedPeriod_reads (way : bracketedPeriod.Matches place last) :
    ∃ run, IsPeriod run ∧ place.Reads run last := by
  obtain ⟨p, blanks, q, opening, r, moreBlanks, s, number, t, lastBlanks, _, closing, rfl⟩ := way.steps
  obtain ⟨first, isFirst, one⟩ := blanks.reads_repeated
  obtain ⟨second, isSecond, three⟩ := moreBlanks.reads_repeated
  obtain ⟨digits, isNumeral, whole, four⟩ := digits_reads number
  obtain ⟨third, isThird, five⟩ := lastBlanks.reads_repeated
  have blank : ∀ c ∈ first ++ (second ++ third), Text.isBlank c = true :=
    List.forall_mem_append.2 ⟨isFirst.inClass, List.forall_mem_append.2 ⟨isSecond.inClass, isThird.inClass⟩⟩
  exact ⟨_, .bracketed blank isNumeral whole,
    one.trans (opening.reads_literal.trans (three.trans (four.trans (five.trans closing.reads_literal))))⟩

theorem barePeriod_reads (way : barePeriod.Matches place last) :
    ∃ run, IsPeriod run ∧ place.Reads run last := by
  obtain ⟨p, blanks, q, number, r, moreBlanks, rfl⟩ := way.steps
  obtain ⟨first, isFirst, one⟩ := blanks.reads_repeated
  obtain ⟨digits, isNumeral, whole, two⟩ := digits_reads number
  obtain ⟨second, isSecond, three⟩ := moreBlanks.reads_repeated
  have blank : ∀ c ∈ first ++ second, Text.isBlank c = true :=
    List.forall_mem_append.2 ⟨isFirst.inClass, isSecond.inClass⟩
  have apart : second ≠ [] := List.length_pos_iff.1 isSecond.enough
  exact ⟨_, .bare blank isNumeral whole apart, one.trans (two.trans three)⟩

/-- A threshold is read after a period, or right after the name, and text without digits. -/
theorem rsiThreshold_reads (way : Phrases.rsiThreshold.Matches place last) :
    ∃ period gap numeral, IsPeriod period ∧ (∀ c ∈ gap, Text.isDecimalDigit c = false) ∧ gap.length ≤ 40 ∧
      IsNumeral numeral ∧ place.Reads (period ++ gap ++ numeral) last ∧
      last.excerpt = some ⟨place.offset + (period ++ gap).length, numeral⟩ := by
  rw [rsiThreshold_eq] at way
  cases way with
  | @sequence _ _ _ between _ first further =>
      cases further with
      | sequence gapWay amount =>
          have begins : ∃ run, IsPeriod run ∧ place.Reads run between := by
            cases first with
            | first period =>
                cases period with
                | first way => exact bracketedPeriod_reads way
                | second way => exact barePeriod_reads way
            | second way =>
                cases way with
                | nothing => exact ⟨[], .absent, .refl _⟩
          obtain ⟨period, isPeriod, one⟩ := begins
          obtain ⟨gap, isRun, two⟩ := gapWay.reads_repeated
          obtain ⟨numeral, isNumeral, three, kept⟩ := amount_reads amount
          have both := one.trans two
          have noDigit : ∀ c ∈ gap, Text.isDecimalDigit c = false := by
            intro c member
            simpa using isRun.inClass c member
          exact ⟨period, gap, numeral, isPeriod, noDigit, isRun.few 40 rfl, isNumeral, both.trans three,
            both.offset ▸ kept⟩

end Reads

/-- Text that leads from the name of the index, or from its period, to the threshold. -/
structure IsGap (gap : List Char) : Prop where
  noDigit : ∀ c ∈ gap, Text.isDecimalDigit c = false
  noBracket : '(' ∉ gap
  visible : ∃ c ∈ gap, Text.isBlank c = false
  short : gap.length ≤ 40

variable {place between last : Place} {run rest more : List Char}

/-- Blanks do not go past a character that is not blank. -/
theorem blanks_before (way : Phrases.blanks.Matches place between) (here : place.rest = run ++ rest) {c : Char}
    (next : between.rest = c :: more) (other : c ∉ run) : ∀ d ∈ run, Text.isBlank d = true := by
  obtain ⟨blanks, isRun, reads⟩ := way.reads_repeated
  have same : blanks ++ c :: more = run ++ rest := by
    rw [← next, ← reads.rest, here]
  rcases List.append_eq_append_iff.1 same with ⟨further, rfl, others⟩ | ⟨further, rfl, -⟩
  · cases further with
    | nil =>
        rw [List.append_nil]
        exact isRun.inClass
    | cons d further =>
        obtain rfl := (List.cons.inj others).1
        exact absurd (List.mem_append_right blanks List.mem_cons_self) other
  · intro d member
    exact isRun.inClass d (List.mem_append_left further member)

/-- No parenthesis opens before a visible character. -/
theorem no_bracketedPeriod (here : place.rest = run ++ rest) (noBracket : '(' ∉ run)
    (visible : ∃ c ∈ run, Text.isBlank c = false) : ¬ bracketedPeriod.Matches place last := by
  intro way
  obtain ⟨first, blanks, second, opening, -⟩ := way.steps
  obtain ⟨c, member, isVisible⟩ := visible
  have blank := blanks_before blanks here opening.reads_literal.rest noBracket c member
  exact Bool.noConfusion (blank.symm.trans isVisible)

/-- A gap does not begin with a period. -/
theorem IsGap.no_period {gap : List Char} (isGap : IsGap gap) (here : place.rest = gap ++ rest) :
    ¬ (Pattern.either bracketedPeriod barePeriod).Matches place last := by
  intro way
  cases way with
  | first way => exact no_bracketedPeriod here isGap.noBracket isGap.visible way
  | second way =>
      obtain ⟨first, blanks, second, number, -⟩ := way.steps
      obtain ⟨digits, ⟨⟨digit, others, rfl, isDigit⟩, -⟩, -, reads⟩ := digits_reads number
      have other : digit ∉ gap := by
        intro member
        exact Bool.noConfusion (isDigit.symm.trans (isGap.noDigit digit member))
      obtain ⟨c, member, isVisible⟩ := isGap.visible
      have blank := blanks_before blanks here reads.rest other c member
      exact Bool.noConfusion (blank.symm.trans isVisible)

variable {β : Type} {accept : Place → Option β} {result : β}

/-- The amount after a gap is read. -/
theorem IsGap.run_amount {gap : List Char} (isGap : IsGap gap) (amount : Amount)
    (here : place.rest = gap ++ (amount.chars ++ rest)) (stops : StopsBefore inNumeral rest)
    (accepted : accept { (place.past gap (amount.chars ++ rest)).past amount.chars rest with
      excerpt := some ⟨place.offset + gap.length, amount.chars⟩ } = some result) :
    (Pattern.sequence thresholdGap Phrases.amount).run place accept = some result := by
  refine Pattern.run_shortest here ⟨?inClass, Nat.zero_le _, ?few⟩ ?refused
    (PaperTrading.run_amount amount rfl stops accepted)
  case inClass =>
    intro c member
    rw [isGap.noDigit c member]
    rfl
  case few =>
    intro bound limited
    obtain rfl := Option.some.inj limited
    exact isGap.short
  case refused =>
    intro later suffix some place next
    apply run_amount_eq_none
    obtain ⟨c, others, rfl⟩ := List.exists_cons_of_ne_nil some
    rw [next, List.cons_append, Text.stopsBefore_cons]
    exact isGap.noDigit c (suffix.subset List.mem_cons_self)

/-- The amount after a gap is the threshold. -/
theorem IsGap.matchAt?_rsiThreshold {gap : List Char} (isGap : IsGap gap) (amount : Amount)
    (stops : StopsBefore inNumeral rest) (before : Option Char) (offset : Nat) :
    Phrases.rsiThreshold.matchAt? ⟨before, offset, gap ++ (amount.chars ++ rest), none⟩ =
      some ⟨offset, offset + gap.length + amount.chars.length, some ⟨offset + gap.length, amount.chars⟩⟩ :=
  Pattern.run_second (fun _ => isGap.no_period rfl) (isGap.run_amount amount rfl stops rfl)

end Thresholds

end PaperTrading
