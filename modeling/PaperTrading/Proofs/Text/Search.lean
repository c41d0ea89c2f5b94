/-
Module: PaperTrading.Proofs.Text.Search
Purpose: What the search for a pattern passes over, and what a match has read.
Main exports: Pattern.Steps, Pattern.Passes, Pattern.findFrom?_passes, Pattern.findAllFrom_passes,
  Pattern.passes_of_absent, Pattern.isBarred, Pattern.occursIn_of_isBarred
-/
import PaperTrading.Proofs.Text.Matching

namespace PaperTrading.Text

namespace Pattern

section Parts

/-- Some patterns match one after the other. -/
def Steps : List Pattern → Place → Place → Prop
  | [], place, last => place = last
  | first :: later, place, last => ∃ between, first.Matches place between ∧ Steps later between last

variable {place last : Place}

theorem Matches.steps {patterns : List Pattern} (way : (inOrder patterns).Matches place last) :
    Steps patterns place last := by
  induction patterns generalizing place with
  | nil =>
      cases way with
      | nothing => rfl
  | cons first later ih =>
      cases later with
      | nil => exact ⟨last, way, rfl⟩
      | cons second others =>
          cases way with
          | sequence one two => exact ⟨_, one, ih two⟩

theorem Matches.edge_eq {isWord : Char → Bool} (way : (Pattern.wordEdge isWord).Matches place last) : place = last := by
  cases way with
  | wordEdge => rfl

/-- An edge before a character of a word comes after one that is not. -/
theorem Matches.edge_before {isWord : Char → Bool} (way : (Pattern.wordEdge isWord).Matches place last)
    (next : place.rest.head?.any isWord = true) : place.before.any isWord = false := by
  cases way with
  | wordEdge edge => simpa [Place.atWordEdge, next] using edge

/-- An edge after a character of a word comes before one that is not. -/
theorem Matches.edge_after {isWord : Char → Bool} (way : (Pattern.wordEdge isWord).Matches place last)
    (previous : place.before.any isWord = true) : StopsBefore isWord place.rest := by
  cases way with
  | wordEdge edge =>
      intro c head
      have outside : place.rest.head?.any isWord = false := by
        simpa [Place.atWordEdge, previous] using edge
      rw [Option.mem_def.1 head] at outside
      exact outside

theorem Matches.reads_literal {word : List Char} (way : (Pattern.literal word).Matches place last) :
    place.Reads word last := by
  cases way with
  | literal next => exact .past next

theorem Matches.reads_repeated {accepts : Char → Bool} {least : Nat} {most : Option Nat} {reluctant : Bool}
    (way : (Pattern.repeated accepts least most reluctant).Matches place last) :
    ∃ run, IsRun accepts least most run ∧ place.Reads run last := by
  cases way with
  | repeated next isRun => exact ⟨_, isRun, .past next⟩

/-- The text of a part that is kept is what the part has read. -/
theorem Matches.reads_kept {inner : Pattern} (way : (Pattern.kept inner).Matches place last) :
    ∃ stop run, inner.Matches place stop ∧ place.Reads run stop ∧ place.Reads run last ∧
      last.excerpt = some ⟨place.offset, run⟩ := by
  cases way with
  | @kept _ _ stop way =>
      obtain ⟨run, reads⟩ := way.reads
      exact ⟨stop, run, way, reads, ⟨reads.before, reads.rest, reads.offset⟩, congrArg some reads.upTo_eq⟩

end Parts

section Ways

variable {β : Type} {accept : Place → Option β} {result : β} {place : Place} {run rest : List Char}

/-- A word that is next is found. -/
theorem afterWord?_eq (here : place.rest = run ++ rest) : place.afterWord? run = some (place.past run rest) := by
  induction run generalizing place with
  | nil =>
      obtain ⟨before, offset, text, excerpt⟩ := place
      obtain rfl : text = rest := here
      rfl
  | cons c run ih =>
      have next : place.rest = c :: (run ++ rest) := here
      have later : (place.after c (run ++ rest)).rest = run ++ rest := rfl
      rw [place.past_cons c run rest (run ++ rest), Place.afterWord?, next, ← ih later]
      exact if_pos rfl

theorem run_literal (here : place.rest = run ++ rest) (accepted : accept (place.past run rest) = some result) :
    (literal run).run place accept = some result := by
  rw [Pattern.run, afterWord?_eq here]
  exact accepted

theorem run_wordEdge {isWord : Char → Bool} (edge : place.atWordEdge isWord = true)
    (accepted : accept place = some result) : (wordEdge isWord).run place accept = some result := by
  rw [Pattern.run, if_pos edge]
  exact accepted

/-- A repetition that takes as much as it can goes to the end of the run. -/
theorem run_longest {accepts : Char → Bool} {least : Nat} (here : place.rest = run ++ rest)
    (inClass : ∀ c ∈ run, accepts c = true) (stops : StopsBefore accepts rest) (enough : least ≤ run.length)
    (accepted : accept (place.past run rest) = some result) :
    (repeated accepts least none false).run place accept = some result := by
  obtain ⟨before, offset, text, excerpt⟩ := place
  obtain rfl : text = run ++ rest := here
  exact runRepeated_longest inClass stops enough accepted

/-- A reluctant repetition goes on until it may end. -/
theorem run_shortest {accepts : Char → Bool} {most : Option Nat} (here : place.rest = run ++ rest)
    (isRun : IsRun accepts 0 most run)
    (refused : ∀ later, later <:+ run → later ≠ [] → ∀ place : Place, place.rest = later ++ rest → accept place = none)
    (accepted : accept (place.past run rest) = some result) :
    (repeated accepts 0 most true).run place accept = some result := by
  obtain ⟨before, offset, text, excerpt⟩ := place
  obtain rfl : text = run ++ rest := here
  exact runRepeated_shortest isRun refused accepted

/-- After one pattern the other goes on. -/
theorem run_sequence {first second : Pattern}
    (ran : first.run place (fun between => second.run between accept) = some result) :
    (sequence first second).run place accept = some result :=
  ran

/-- The first of two patterns is taken if it is accepted. -/
theorem run_first {first second : Pattern} (taken : first.run place accept = some result) :
    (either first second).run place accept = some result := by
  rw [Pattern.run, taken]
  rfl

/-- The second of two patterns is taken if the first does not match. -/
theorem run_second {first second : Pattern} (refused : ∀ last, ¬ first.Matches place last)
    (taken : second.run place accept = some result) : (either first second).run place accept = some result := by
  have none : first.run place accept = none := run_eq_none fun last way => absurd way (refused last)
  rw [Pattern.run, none]
  exact taken

/-- What is read by a part that is kept is kept. -/
theorem run_kept {inner : Pattern} (here : place.rest = run ++ rest)
    (taken : ∀ accept : Place → Option β, accept (place.past run rest) = some result →
      inner.run place accept = some result)
    (accepted : accept { place.past run rest with excerpt := some ⟨place.offset, run⟩ } = some result) :
    (kept inner).run place accept = some result := by
  have reads : place.Reads run (place.past run rest) := .past here
  refine taken (fun last => accept { last with excerpt := some (place.upTo last) }) ?_
  rw [reads.upTo_eq]
  exact accepted

end Ways

section Passing

variable {pattern : Pattern} {run rest : List Char}

/-- A pattern matches nowhere within a run that is followed by some text. -/
def Passes (pattern : Pattern) (run rest : List Char) : Prop :=
  ∀ later, later <:+ run → later ≠ [] → ∀ place last, place.rest = later ++ rest → ¬ pattern.Matches place last

theorem Passes.tail {c : Char} (passes : pattern.Passes (c :: run) rest) : pattern.Passes run rest :=
  fun later suffix => passes later (suffix.trans (List.suffix_cons c run))

theorem Passes.matchAt?_eq_none {c : Char} (passes : pattern.Passes (c :: run) rest) {place : Place}
    (here : place.rest = c :: (run ++ rest)) : pattern.matchAt? place = none :=
  run_eq_none fun last way =>
    absurd way (passes (c :: run) (List.suffix_refl _) (List.cons_ne_nil c run) _ last here)

/-- A search goes over text in which the pattern matches nowhere. -/
theorem findFrom?_passes (passes : pattern.Passes run rest) (before : Option Char) (offset : Nat) :
    pattern.findFrom? before offset (run ++ rest) =
      pattern.findFrom? (run.getLast?.or before) (offset + run.length) rest := by
  induction run generalizing before offset with
  | nil => rfl
  | cons c run ih =>
      have none : pattern.matchAt? ⟨before, offset, c :: (run ++ rest), none⟩ = none := passes.matchAt?_eq_none rfl
      have length : offset + (c :: run).length = offset + 1 + run.length := by
        rw [List.length_cons]
        omega
      rw [List.cons_append, findFrom?, none, Place.getLast?_cons_or, length]
      exact ih passes.tail (some c) (offset + 1)

/-- A search for every match goes over text in which the pattern matches nowhere. -/
theorem findAllFrom_passes (passes : pattern.Passes run rest) (before : Option Char) (offset : Nat) :
    pattern.findAllFrom before offset 0 (run ++ rest) =
      pattern.findAllFrom (run.getLast?.or before) (offset + run.length) 0 rest := by
  induction run generalizing before offset with
  | nil => rfl
  | cons c run ih =>
      have none : pattern.matchAt? ⟨before, offset, c :: (run ++ rest), none⟩ = none := passes.matchAt?_eq_none rfl
      have length : offset + (c :: run).length = offset + 1 + run.length := by
        rw [List.length_cons]
        omega
      rw [List.cons_append, findAllFrom, if_neg (Nat.lt_irrefl 0), none, Place.getLast?_cons_or, length]
      exact ih passes.tail (some c) (offset + 1)

/-- What matches at a place is found there. -/
theorem findFrom?_here {found : Found} {before : Option Char} {offset : Nat} {text : List Char}
    (here : pattern.matchAt? ⟨before, offset, text, none⟩ = some found) :
    pattern.findFrom? before offset text = some found := by
  cases text with
  | nil => exact here
  | cons c rest => rw [findFrom?, here]

/-- Nothing is found in text in which the pattern matches nowhere. -/
theorem findAllFrom_eq_nil (passes : pattern.Passes run []) (before : Option Char) (offset : Nat) :
    pattern.findAllFrom before offset 0 run = [] := by
  have all := findAllFrom_passes passes before offset
  rwa [List.append_nil] at all

/-- The first of all matches is the one that is found first. -/
theorem findFrom?_of_findAllFrom {found : Found} {others : List Found} {before : Option Char} {offset : Nat}
    {text : List Char} (all : pattern.findAllFrom before offset 0 text = found :: others) :
    pattern.findFrom? before offset text = some found := by
  induction text generalizing before offset with
  | nil => exact nomatch all
  | cons c rest ih =>
      rw [findAllFrom, if_neg (Nat.lt_irrefl 0)] at all
      rw [findFrom?]
      cases here : pattern.matchAt? ⟨before, offset, c :: rest, none⟩ with
      | some first =>
          rw [here] at all
          exact congrArg some (List.cons.inj all).1
      | none =>
          rw [here] at all
          exact ih all

end Passing

section Absence

/-- A word does not begin where one of its characters cannot stand. -/
theorem not_prefix_of_absent (front : List Char) {back : List Char} {c : Char} {run rest : List Char} (some : run ≠ [])
    (absent : c ∉ run) (next : c ∉ rest.take front.length) : ¬ front ++ c :: back <+: run ++ rest := by
  rintro ⟨more, same⟩
  have here : (run ++ rest)[front.length]? = Option.some c := by
    rw [← same, List.append_assoc, List.getElem?_append_right (Nat.le_refl _), Nat.sub_self]
    rfl
  rcases Nat.lt_or_ge front.length run.length with inside | beyond
  · rw [List.getElem?_append_left inside] at here
    exact absent (List.mem_of_getElem? here)
  · rw [List.getElem?_append_right beyond] at here
    have positive : 0 < run.length := List.length_pos_iff.2 some
    have within : (rest.take front.length)[front.length - run.length]? = Option.some c := by
      rw [List.getElem?_take_of_lt (by omega)]
      exact here
    exact next (List.mem_of_getElem? within)

/-- A pattern that begins with a word matches nowhere in text without one of the characters of the word. -/
theorem passes_of_absent {pattern : Pattern} (front : List Char) {back : List Char} {c : Char} {run rest : List Char}
    (begins : ∀ {place last}, pattern.Matches place last → front ++ c :: back <+: place.rest) (absent : c ∉ run)
    (next : c ∉ rest.take front.length) : pattern.Passes run rest := by
  intro later suffix some place last here way
  exact not_prefix_of_absent front some (fun member => absent (suffix.subset member)) next (here ▸ begins way)

/-- Whether every match of a pattern has to read a character of a class. -/
def isBarred (barred : Char → Bool) : Pattern → Bool
  | literal word => word.any barred
  | sequence first second => first.isBarred barred || second.isBarred barred
  | either first second => first.isBarred barred && second.isBarred barred
  | kept inner => inner.isBarred barred
  | nothing | wordEdge _ | repeated _ _ _ _ => false

theorem Matches.mem_of_isBarred {barred : Char → Bool} {pattern : Pattern} {place last : Place}
    (way : pattern.Matches place last) (needs : pattern.isBarred barred = true) :
    ∃ c ∈ place.rest, barred c = true := by
  induction way with
  | nothing | wordEdge | repeated => exact nomatch needs
  | literal next =>
      obtain ⟨c, member, holds⟩ := List.any_eq_true.1 needs
      exact ⟨c, next ▸ List.mem_append_left _ member, holds⟩
  | sequence one two ihOne ihTwo =>
      rcases Bool.or_eq_true_iff.1 needs with inFirst | inSecond
      · exact ihOne inFirst
      · obtain ⟨c, member, holds⟩ := ihTwo inSecond
        obtain ⟨run, reads⟩ := one.reads
        exact ⟨c, reads.rest ▸ List.mem_append_right _ member, holds⟩
  | first way ih => exact ih (Bool.and_eq_true_iff.1 needs).1
  | second way ih => exact ih (Bool.and_eq_true_iff.1 needs).2
  | kept way ih => exact ih needs

/-- A pattern does not occur in a text without the characters that it needs. -/
theorem occursIn_of_isBarred (barred : Char → Bool) {pattern : Pattern} (needs : pattern.isBarred barred = true)
    {text : List Char} (absent : ∀ c ∈ text, barred c = false) : pattern.occursIn text = false := by
  rw [occursIn, Option.isSome_eq_false_iff, Option.isNone_iff_eq_none, Option.eq_none_iff_forall_ne_some]
  intro found there
  obtain ⟨front, place, last, reads, -, way, -⟩ := findFrom?_sound there
  obtain ⟨c, member, holds⟩ := way.mem_of_isBarred needs
  have whole : text = front ++ place.rest := reads.rest
  have outside := absent c (whole ▸ List.mem_append_right front member)
  exact Bool.false_ne_true (outside.symm.trans holds)

end Absence

end Pattern

end PaperTrading.Text
