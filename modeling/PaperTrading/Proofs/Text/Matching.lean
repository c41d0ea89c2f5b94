/-
Module: PaperTrading.Proofs.Text.Matching
Purpose: What a pattern matches, apart from the order in which its ways are tried, and what the search for it finds.
Main exports: Place.Reads, Pattern.Matches, Pattern.run_sound, Pattern.Matches.reads, Pattern.Matches.keeps,
  Pattern.findFrom?_sound, Pattern.findAllFrom_sound, Pattern.findAllFrom_ordered
-/
import PaperTrading.Proofs.Text.Runs
import PaperTrading.Text.Pattern

namespace PaperTrading.Text

namespace Place

/-- The place after some characters that are next in the text. -/
def past (place : Place) (run rest : List Char) : Place :=
  ⟨run.getLast?.or place.before, place.offset + run.length, rest, place.excerpt⟩

/-- The text from a place up to a later one. -/
def upTo (place last : Place) : Excerpt :=
  ⟨place.offset, place.rest.take (last.offset - place.offset)⟩

theorem getLast?_cons_or (c : Char) (run : List Char) (before : Option Char) :
    (c :: run).getLast?.or before = run.getLast?.or (some c) := by
  rw [List.getLast?_cons]
  cases run.getLast? <;> rfl

theorem past_cons (place : Place) (c : Char) (run rest : List Char) (text : List Char) :
    place.past (c :: run) rest = (place.after c text).past run rest := by
  have offset : place.offset + (c :: run).length = place.offset + 1 + run.length := by
    rw [List.length_cons]
    omega
  rw [past, past, getLast?_cons_or, offset]
  rfl

theorem past_past (place : Place) (run more rest text : List Char) :
    (place.past run text).past more rest = place.past (run ++ more) rest := by
  simp [past, List.getLast?_append, Option.or_assoc, Nat.add_assoc]

/-- A word that is found is next in the text. -/
theorem afterWord?_eq_some {word : List Char} {place last : Place} (found : place.afterWord? word = some last) :
    ∃ rest, place.rest = word ++ rest ∧ last = place.past word rest := by
  induction word generalizing place with
  | nil =>
      obtain rfl := Option.some.inj found
      exact ⟨place.rest, rfl, rfl⟩
  | cons expected word ih =>
      rw [afterWord?] at found
      split at found
      case h_1 => exact nomatch found
      case h_2 c rest next =>
        split at found
        case isFalse => exact nomatch found
        case isTrue same =>
          obtain ⟨rest, following, rfl⟩ := ih found
          have text : place.rest = expected :: word ++ rest := by
            rw [next, same]
            exact congrArg (expected :: ·) following
          exact ⟨rest, text, same ▸ (place.past_cons c word rest _).symm⟩

end Place

/-- From one place to a later one some characters are read. -/
structure Place.Reads (place : Place) (run : List Char) (last : Place) : Prop where
  before : last.before = run.getLast?.or place.before
  rest : place.rest = run ++ last.rest
  offset : last.offset = place.offset + run.length

namespace Place.Reads

variable {place between last : Place} {run more : List Char}

theorem refl (place : Place) : place.Reads [] place where
  before := rfl
  rest := rfl
  offset := rfl

theorem trans (one : place.Reads run between) (two : between.Reads more last) : place.Reads (run ++ more) last where
  before := by
    rw [two.before, one.before, List.getLast?_append, Option.or_assoc]
  rest := by
    rw [one.rest, two.rest, List.append_assoc]
  offset := by
    rw [two.offset, one.offset, List.length_append, Nat.add_assoc]

theorem past {rest : List Char} (next : place.rest = run ++ rest) : place.Reads run (place.past run rest) where
  before := rfl
  rest := next
  offset := rfl

theorem unique (one : place.Reads run last) (two : place.Reads more last) : run = more :=
  List.append_cancel_right (one.rest.symm.trans two.rest)

theorem upTo_eq (reads : place.Reads run last) : place.upTo last = ⟨place.offset, run⟩ := by
  rw [upTo, reads.rest, reads.offset, Nat.add_sub_cancel_left, List.take_left]

/-- What is read begins with what comes next. -/
theorem head_any {p : Char → Bool} (reads : place.Reads run last) (first : run.head?.any p = true) :
    place.rest.head?.any p = true := by
  rw [reads.rest]
  cases run with
  | nil => exact nomatch first
  | cons c run => exact first

/-- What is read ends with what comes before the next character. -/
theorem before_any (reads : place.Reads run last) (nonempty : run ≠ []) (p : Char → Bool) :
    last.before.any p = run.getLast?.any p := by
  rw [reads.before, List.getLast?_eq_some_getLast nonempty]
  rfl

end Place.Reads

/-- Characters of a class: so many of them at least, and no more than the bound. -/
structure IsRun (accepts : Char → Bool) (least : Nat) (most : Option Nat) (run : List Char) : Prop where
  inClass : ∀ c ∈ run, accepts c = true
  enough : least ≤ run.length
  few : ∀ bound ∈ most, run.length ≤ bound

namespace IsRun

variable {accepts : Char → Bool} {most : Option Nat}

theorem nil : IsRun accepts 0 most [] where
  inClass := fun _ member => nomatch member
  enough := Nat.zero_le 0
  few := fun _ _ => Nat.zero_le _

theorem cons {least : Nat} {c : Char} {run : List Char} (accepted : accepts c = true) (more : most ≠ some 0)
    (later : IsRun accepts (least - 1) (most.map (· - 1)) run) : IsRun accepts least most (c :: run) where
  inClass := List.forall_mem_cons.2 ⟨accepted, later.inClass⟩
  enough := by
    have enough := later.enough
    rw [List.length_cons]
    omega
  few := by
    intro bound limited
    obtain rfl := Option.mem_def.1 limited
    have positive : bound ≠ 0 := by
      rintro rfl
      exact more rfl
    have fewer := later.few (bound - 1) rfl
    rw [List.length_cons]
    omega

end IsRun

/-- A pattern matches from one place to another, in one of its ways. -/
inductive Pattern.Matches : Pattern → Place → Place → Prop
  | nothing (place : Place) : Matches nothing place place
  | wordEdge {isWord : Char → Bool} {place : Place} (edge : place.atWordEdge isWord = true) :
      Matches (wordEdge isWord) place place
  | literal {word rest : List Char} {place : Place} (next : place.rest = word ++ rest) :
      Matches (literal word) place (place.past word rest)
  | repeated {accepts : Char → Bool} {least : Nat} {most : Option Nat} {reluctant : Bool} {run rest : List Char}
      {place : Place} (next : place.rest = run ++ rest) (isRun : IsRun accepts least most run) :
      Matches (repeated accepts least most reluctant) place (place.past run rest)
  | sequence {first second : Pattern} {place between last : Place} (one : Matches first place between)
      (two : Matches second between last) : Matches (sequence first second) place last
  | first {first second : Pattern} {place last : Place} (way : Matches first place last) :
      Matches (either first second) place last
  | second {first second : Pattern} {place last : Place} (way : Matches second place last) :
      Matches (either first second) place last
  | kept {inner : Pattern} {place last : Place} (way : Matches inner place last) :
      Matches (kept inner) place { last with excerpt := some (place.upTo last) }

section Runs

variable {β : Type} {accept : Place → Option β} {result : β}

/-- A repetition ends after a run of its class. -/
theorem runRepeated_sound {accepts : Char → Bool} {reluctant : Bool} {excerpt : Option Excerpt} {least : Nat}
    {most : Option Nat} {before : Option Char} {offset : Nat} {text : List Char}
    (found : runRepeated accepts reluctant accept excerpt least most before offset text = some result) :
    ∃ run rest, text = run ++ rest ∧ IsRun accepts least most run ∧
      accept (Place.past ⟨before, offset, text, excerpt⟩ run rest) = some result := by
  induction text generalizing least most before offset with
  | nil =>
      rw [runRepeated] at found
      split at found
      case isFalse => exact nomatch found
      case isTrue none =>
        subst none
        exact ⟨[], [], rfl, .nil, found⟩
  | cons c rest ih =>
      -- Either the repetition ends here, or it takes one more character and goes on.
      have here (accepted : (if least = 0 then accept ⟨before, offset, c :: rest, excerpt⟩ else none) = some result) :
          ∃ run later, c :: rest = run ++ later ∧ IsRun accepts least most run ∧
            accept (Place.past ⟨before, offset, c :: rest, excerpt⟩ run later) = some result := by
        split at accepted
        case isFalse => exact nomatch accepted
        case isTrue none =>
          subst none
          exact ⟨[], c :: rest, rfl, .nil, accepted⟩
      have further (accepted : (if accepts c && most != some 0 then
            runRepeated accepts reluctant accept excerpt (least - 1) (most.map (· - 1)) (some c) (offset + 1) rest
          else none) = some result) :
          ∃ run later, c :: rest = run ++ later ∧ IsRun accepts least most run ∧
            accept (Place.past ⟨before, offset, c :: rest, excerpt⟩ run later) = some result := by
        split at accepted
        case isFalse => exact nomatch accepted
        case isTrue allowed =>
          rw [Bool.and_eq_true, bne_iff_ne] at allowed
          obtain ⟨run, later, rfl, isRun, last⟩ := ih accepted
          refine ⟨c :: run, later, rfl, isRun.cons allowed.1 allowed.2, ?_⟩
          rw [Place.past_cons _ c run later (run ++ later)]
          exact last
      rw [runRepeated] at found
      dsimp only at found
      split at found
      all_goals rw [Option.orElse_eq_or, Option.or_eq_some_iff] at found
      · exact found.elim here fun later => further later.2
      · exact found.elim further fun later => here later.2

/-- A repetition that takes as much as it can goes to the end of the run, if that is accepted. -/
theorem runRepeated_longest {accepts : Char → Bool} {excerpt : Option Excerpt} {least : Nat} {before : Option Char}
    {offset : Nat} {run rest : List Char} (inClass : ∀ c ∈ run, accepts c = true) (stops : StopsBefore accepts rest)
    (enough : least ≤ run.length)
    (accepted : accept (Place.past ⟨before, offset, run ++ rest, excerpt⟩ run rest) = some result) :
    runRepeated accepts false accept excerpt least none before offset (run ++ rest) = some result := by
  induction run generalizing least before offset with
  | nil =>
      have none : least = 0 := Nat.le_zero.1 enough
      cases rest with
      | nil => simpa [runRepeated, none, Place.past] using accepted
      | cons c rest =>
          have outside : accepts c = false := (stopsBefore_cons accepts c rest).1 stops
          simpa [runRepeated, none, outside, Place.past] using accepted
  | cons c run ih =>
      obtain ⟨here, later⟩ := List.forall_mem_cons.1 inClass
      rw [Place.past_cons _ c run rest (run ++ rest)] at accepted
      have further := ih later (Nat.sub_le_of_le_add enough) accepted
      simp [runRepeated, here, further]

/-- A reluctant repetition goes on until it may end. -/
theorem runRepeated_shortest {accepts : Char → Bool} {excerpt : Option Excerpt} {most : Option Nat}
    {before : Option Char} {offset : Nat} {run rest : List Char} (isRun : IsRun accepts 0 most run)
    (refused : ∀ later, later <:+ run → later ≠ [] → ∀ place : Place, place.rest = later ++ rest → accept place = none)
    (accepted : accept (Place.past ⟨before, offset, run ++ rest, excerpt⟩ run rest) = some result) :
    runRepeated accepts true accept excerpt 0 most before offset (run ++ rest) = some result := by
  induction run generalizing most before offset with
  | nil =>
      have here : accept ⟨before, offset, rest, excerpt⟩ = some result := accepted
      cases rest with
      | nil => simp [runRepeated, here]
      | cons c rest => simp [runRepeated, here]
  | cons c run ih =>
      have inside := isRun.inClass c List.mem_cons_self
      have more : most ≠ some 0 := by
        rintro rfl
        exact absurd (isRun.few 0 rfl) (Nat.not_succ_le_zero _)
      have later : IsRun accepts 0 (most.map (· - 1)) run := by
        refine ⟨fun d member => isRun.inClass d (List.mem_cons_of_mem c member), Nat.zero_le _, ?_⟩
        intro bound limited
        obtain ⟨previous, given, rfl⟩ := Option.map_eq_some_iff.1 limited
        exact Nat.le_sub_of_add_le (isRun.few previous given)
      have here : accept ⟨before, offset, c :: (run ++ rest), excerpt⟩ = none :=
        refused _ (List.suffix_refl _) (List.cons_ne_nil c run) _ rfl
      rw [Place.past_cons _ c run rest (run ++ rest)] at accepted
      have further := ih later (fun last suffix => refused last (suffix.trans (List.suffix_cons c run))) accepted
      simp [runRepeated, here, inside, more, further]

namespace Pattern

/-- Where a run of a pattern ends, the pattern matches up to there. -/
theorem run_sound {pattern : Pattern} {place : Place} (found : pattern.run place accept = some result) :
    ∃ last, pattern.Matches place last ∧ accept last = some result := by
  induction pattern generalizing place accept with
  | nothing => exact ⟨place, .nothing place, found⟩
  | wordEdge isWord =>
      rw [run] at found
      split at found
      case isFalse => exact nomatch found
      case isTrue edge => exact ⟨place, .wordEdge edge, found⟩
  | literal word =>
      rw [run, Option.bind_eq_some_iff] at found
      obtain ⟨last, there, accepted⟩ := found
      obtain ⟨rest, next, rfl⟩ := Place.afterWord?_eq_some there
      exact ⟨_, .literal next, accepted⟩
  | repeated accepts least most reluctant =>
      obtain ⟨run, rest, next, isRun, accepted⟩ := runRepeated_sound found
      exact ⟨_, .repeated next isRun, accepted⟩
  | sequence first second ihFirst ihSecond =>
      obtain ⟨between, one, later⟩ := ihFirst found
      obtain ⟨last, two, accepted⟩ := ihSecond later
      exact ⟨last, .sequence one two, accepted⟩
  | either first second ihFirst ihSecond =>
      rw [run, Option.orElse_eq_or, Option.or_eq_some_iff] at found
      rcases found with one | ⟨-, two⟩
      · obtain ⟨last, way, accepted⟩ := ihFirst one
        exact ⟨last, .first way, accepted⟩
      · obtain ⟨last, way, accepted⟩ := ihSecond two
        exact ⟨last, .second way, accepted⟩
  | kept inner ih =>
      obtain ⟨last, way, accepted⟩ := ih found
      exact ⟨_, .kept way, accepted⟩

/-- Nothing is found where no match is accepted. -/
theorem run_eq_none {pattern : Pattern} {place : Place}
    (refused : ∀ last, pattern.Matches place last → accept last = none) : pattern.run place accept = none := by
  rw [Option.eq_none_iff_forall_ne_some]
  intro result found
  obtain ⟨last, way, accepted⟩ := run_sound found
  exact nomatch (refused last way).symm.trans accepted

end Pattern

end Runs

section Excerpts

namespace Pattern

/-- A match reads what is next in the text. -/
theorem Matches.reads {pattern : Pattern} {place last : Place} (way : pattern.Matches place last) :
    ∃ run, place.Reads run last := by
  induction way with
  | nothing place | wordEdge => exact ⟨[], .refl _⟩
  | literal next | repeated next => exact ⟨_, .past next⟩
  | sequence one two ihOne ihTwo =>
      obtain ⟨run, reads⟩ := ihOne
      obtain ⟨more, later⟩ := ihTwo
      exact ⟨run ++ more, reads.trans later⟩
  | first way ih | second way ih => exact ih
  | kept way ih =>
      obtain ⟨run, reads⟩ := ih
      exact ⟨run, reads.before, reads.rest, reads.offset⟩

/-- Whether a pattern keeps no text. -/
def keepsNothing : Pattern → Bool
  | sequence first second | either first second => first.keepsNothing && second.keepsNothing
  | kept _ => false
  | nothing | wordEdge _ | literal _ | repeated _ _ _ _ => true

/-- A pattern that keeps nothing leaves what was kept before it. -/
theorem Matches.keeps {pattern : Pattern} {place last : Place} (way : pattern.Matches place last)
    (nothing : pattern.keepsNothing = true) : last.excerpt = place.excerpt := by
  induction way with
  | nothing | wordEdge | literal | repeated => rfl
  | sequence one two ihOne ihTwo =>
      obtain ⟨first, second⟩ := Bool.and_eq_true_iff.1 nothing
      exact (ihTwo second).trans (ihOne first)
  | first way ih => exact ih (Bool.and_eq_true_iff.1 nothing).1
  | second way ih => exact ih (Bool.and_eq_true_iff.1 nothing).2
  | kept way => exact nomatch nothing

variable {pattern : Pattern} {found : Found}

/-- A match that is found at a place ends where the pattern matches. -/
theorem matchAt?_sound {place : Place} (there : pattern.matchAt? place = some found) :
    ∃ last, pattern.Matches { place with excerpt := none } last ∧
      found = ⟨place.offset, last.offset, last.excerpt⟩ := by
  obtain ⟨last, way, same⟩ := run_sound there
  exact ⟨last, way, (Option.some.inj same).symm⟩

/-- A match that a search finds is one at some place in the text. -/
theorem findFrom?_sound {before : Option Char} {offset : Nat} {text : List Char}
    (there : pattern.findFrom? before offset text = some found) :
    ∃ front place last, (⟨before, offset, text, none⟩ : Place).Reads front place ∧ place.excerpt = none ∧
      pattern.Matches place last ∧ found = ⟨place.offset, last.offset, last.excerpt⟩ := by
  induction text generalizing before offset with
  | nil =>
      obtain ⟨last, way, same⟩ := matchAt?_sound there
      exact ⟨[], _, last, .refl _, rfl, way, same⟩
  | cons c rest ih =>
      rw [findFrom?] at there
      split at there
      case h_1 here =>
        obtain rfl := Option.some.inj there
        obtain ⟨last, way, same⟩ := matchAt?_sound here
        exact ⟨[], _, last, .refl _, rfl, way, same⟩
      case h_2 =>
        obtain ⟨front, place, last, reads, later⟩ := ih there
        have one : (⟨before, offset, c :: rest, none⟩ : Place).Reads [c] ⟨some c, offset + 1, rest, none⟩ := .past rfl
        exact ⟨c :: front, place, last, one.trans reads, later⟩

/-- Every match that a search finds is one at some place in the text, past the part that is skipped. -/
theorem findAllFrom_sound {before : Option Char} {offset skipped : Nat} {text : List Char}
    (member : found ∈ pattern.findAllFrom before offset skipped text) :
    ∃ front place last, (⟨before, offset, text, none⟩ : Place).Reads front place ∧ skipped ≤ front.length ∧
      pattern.Matches place last ∧ found = ⟨place.offset, last.offset, last.excerpt⟩ := by
  induction text generalizing before offset skipped with
  | nil => exact nomatch member
  | cons c rest ih =>
      have later {more : Nat} (enough : skipped ≤ more + 1)
          (there : found ∈ pattern.findAllFrom (some c) (offset + 1) more rest) :
          ∃ front place last, (⟨before, offset, c :: rest, none⟩ : Place).Reads front place ∧ skipped ≤ front.length ∧
            pattern.Matches place last ∧ found = ⟨place.offset, last.offset, last.excerpt⟩ := by
        obtain ⟨front, place, last, reads, beyond, way⟩ := ih there
        have one : (⟨before, offset, c :: rest, none⟩ : Place).Reads [c] ⟨some c, offset + 1, rest, none⟩ := .past rfl
        exact ⟨c :: front, place, last, one.trans reads, Nat.le_trans enough (Nat.succ_le_succ beyond), way⟩
      rw [findAllFrom] at member
      split at member
      case isTrue some => exact later (Nat.le_add_of_sub_le (Nat.le_refl _)) member
      case isFalse none =>
        have start (n : Nat) : skipped ≤ n := (Nat.eq_zero_of_not_pos none).symm ▸ Nat.zero_le n
        split at member
        case h_1 first here =>
          rcases List.mem_cons.1 member with rfl | there
          · obtain ⟨last, way, same⟩ := matchAt?_sound here
            exact ⟨[], _, last, .refl _, start 0, way, same⟩
          · exact later (start _) there
        case h_2 => exact later (start _) member

/-- The matches that a search finds follow one another. -/
theorem findAllFrom_ordered (pattern : Pattern) (before : Option Char) (offset skipped : Nat) (text : List Char) :
    (pattern.findAllFrom before offset skipped text).Pairwise fun one other => one.stop ≤ other.start := by
  induction text generalizing before offset skipped with
  | nil => exact .nil
  | cons c rest ih =>
      rw [findAllFrom]
      split
      case isTrue => exact ih _ _ _
      case isFalse =>
        split
        case h_1 first here =>
          refine List.pairwise_cons.2 ⟨?_, ih _ _ _⟩
          intro other member
          obtain ⟨last, -, rfl⟩ := matchAt?_sound here
          obtain ⟨front, place, last', reads, beyond, -, rfl⟩ := findAllFrom_sound member
          have there : place.offset = offset + 1 + front.length := reads.offset
          dsimp only at beyond ⊢
          omega
        case h_2 => exact ih _ _ _

end Pattern

end Excerpts

end PaperTrading.Text
