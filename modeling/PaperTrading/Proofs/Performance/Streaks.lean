/-
Module: PaperTrading.Proofs.Performance.Streaks
Purpose: The longest streaks of a list of trades, found in one pass, are its longest contiguous blocks of one outcome.
Main exports: IsLongestStreak, IsLastStreak, StreaksSeen, IsLongestStreak.reverse, streaksFrom_isLongestStreak,
  Performance.longestStreaks_of_trades

The pass keeps two lengths for each outcome: that of the streak which ends with the trade just seen, and that of the longest
so far.  A trade makes a streak of one outcome longer and breaks that of the other.  Read backwards, a list has the same
blocks.
-/
import Mathlib.Data.List.Infix
import Mathlib.Order.Bounds.Basic
import Mathlib.Order.MinMax
import PaperTrading.Performance.Summary

namespace PaperTrading

section Blocks

variable {β : Type} (ofKind : β → Prop)

/-- The length of the longest contiguous block of a list that is all of one kind. -/
def IsLongestStreak (list : List β) (length : Nat) : Prop :=
  IsGreatest {n | ∃ block, block <:+: list ∧ (∀ x ∈ block, ofKind x) ∧ block.length = n} length

/-- The length of the longest block of one kind that a list ends with. -/
def IsLastStreak (list : List β) (length : Nat) : Prop :=
  IsGreatest {n | ∃ block, block <:+ list ∧ (∀ x ∈ block, ofKind x) ∧ block.length = n} length

/-- The two lengths that the pass keeps for a kind, in the part of a list that was seen. -/
structure StreaksSeen (seen : List β) (current longest : Nat) : Prop where
  current : IsLastStreak ofKind seen current
  longest : IsLongestStreak ofKind seen longest

variable {ofKind} {seen list : List β} {current longest length : Nat} {x : β}

theorem StreaksSeen.nil : StreaksSeen ofKind [] 0 0 where
  current := by simp [IsLastStreak, IsGreatest, upperBounds]
  longest := by simp [IsLongestStreak, IsGreatest, upperBounds]

/-- An element of the kind makes the streak at the end longer. -/
theorem IsLastStreak.append (last : IsLastStreak ofKind seen current) (holds : ofKind x) :
    IsLastStreak ofKind (seen ++ [x]) (current + 1) := by
  obtain ⟨⟨block, ending, all, rfl⟩, upper⟩ := last
  constructor
  · refine ⟨block ++ [x], List.suffix_concat_iff.2 (.inr ⟨block, rfl, ending⟩), ?_, List.length_append⟩
    exact List.forall_mem_append.2 ⟨all, List.forall_mem_singleton.2 holds⟩
  · rintro _ ⟨other, ending, all, rfl⟩
    obtain rfl | ⟨start, rfl, before⟩ := List.suffix_concat_iff.1 ending
    · exact Nat.zero_le _
    · rw [List.length_append]
      exact Nat.succ_le_succ (upper ⟨start, before, (List.forall_mem_append.1 all).1, rfl⟩)

/-- An element of another kind ends every streak. -/
theorem IsLastStreak.append_of_not (fails : ¬ ofKind x) : IsLastStreak ofKind (seen ++ [x]) 0 := by
  constructor
  · exact ⟨[], List.nil_suffix, List.forall_mem_nil _, rfl⟩
  · rintro _ ⟨block, ending, all, rfl⟩
    obtain rfl | ⟨start, rfl, -⟩ := List.suffix_concat_iff.1 ending
    · exact Nat.le_refl 0
    · exact absurd (all x List.mem_concat_self) fails

/-- A block of a list with one more element ends with it, or is one of the list before. -/
theorem IsLongestStreak.append (longest : IsLongestStreak ofKind seen length)
    (last : IsLastStreak ofKind (seen ++ [x]) current) :
    IsLongestStreak ofKind (seen ++ [x]) (max length current) := by
  constructor
  · obtain within | ending := max_choice length current
    · obtain ⟨block, inside, all, found⟩ := longest.1
      exact ⟨block, inside.trans (List.prefix_append _ _).isInfix, all, found.trans within.symm⟩
    · obtain ⟨block, suffix, all, found⟩ := last.1
      exact ⟨block, suffix.isInfix, all, found.trans ending.symm⟩
  · rintro _ ⟨block, inside, all, rfl⟩
    obtain suffix | before := List.infix_concat_iff.1 inside
    · exact le_max_of_le_right (last.2 ⟨block, suffix, all, rfl⟩)
    · exact le_max_of_le_left (longest.2 ⟨block, before, all, rfl⟩)

theorem StreaksSeen.longer (streaks : StreaksSeen ofKind seen current longest) (holds : ofKind x) :
    StreaksSeen ofKind (seen ++ [x]) (current + 1) (max longest (current + 1)) where
  current := streaks.current.append holds
  longest := streaks.longest.append (streaks.current.append holds)

theorem StreaksSeen.broken (streaks : StreaksSeen ofKind seen current longest) (fails : ¬ ofKind x) :
    StreaksSeen ofKind (seen ++ [x]) 0 longest where
  current := .append_of_not fails
  longest := Nat.max_zero longest ▸ streaks.longest.append (.append_of_not fails)

/-- Read backwards, a list has the same streaks. -/
theorem IsLongestStreak.reverse (longest : IsLongestStreak ofKind list length) :
    IsLongestStreak ofKind list.reverse length := by
  obtain ⟨⟨block, inside, all, rfl⟩, upper⟩ := longest
  constructor
  · exact ⟨block.reverse, List.reverse_infix.2 inside, fun x member => all x (List.mem_reverse.1 member),
      List.length_reverse⟩
  · rintro _ ⟨other, within, same, rfl⟩
    have turned : other.reverse <:+: list := by
      rwa [← List.reverse_infix, List.reverse_reverse]
    rw [← List.length_reverse]
    exact upper ⟨other.reverse, turned, fun x member => same x (List.mem_reverse.1 member), rfl⟩

end Blocks

section Pass

variable {β : Type} {isWin : β → Bool}

/-- From the streaks of what was seen, the pass finds the longest streaks of the whole. -/
theorem streaksFrom_isLongestStreak (rest : List β) {seen : List β} {wins losses longestWins longestLosses : Nat}
    (won : StreaksSeen (isWin · = true) seen wins longestWins)
    (lost : StreaksSeen (isWin · = false) seen losses longestLosses) :
    IsLongestStreak (isWin · = true) (seen ++ rest)
        (streaksFrom wins losses longestWins longestLosses (rest.map isWin)).1 ∧
      IsLongestStreak (isWin · = false) (seen ++ rest)
        (streaksFrom wins losses longestWins longestLosses (rest.map isWin)).2 := by
  induction rest generalizing seen wins losses longestWins longestLosses with
  | nil =>
      rw [List.append_nil]
      exact ⟨won.longest, lost.longest⟩
  | cons x rest ih =>
      rw [List.map_cons, List.append_cons]
      cases outcome : isWin x with
      | true => exact ih (won.longer outcome) (lost.broken ((Bool.not_eq_false _).mpr outcome))
      | false => exact ih (won.broken ((Bool.not_eq_true _).mpr outcome)) (lost.longer outcome)

/-- The pass over a whole list. -/
theorem longestStreaks_isLongestStreak (isWin : β → Bool) (list : List β) :
    IsLongestStreak (isWin · = true) list (longestStreaks (list.map isWin)).1 ∧
      IsLongestStreak (isWin · = false) list (longestStreaks (list.map isWin)).2 :=
  streaksFrom_isLongestStreak list .nil .nil

theorem longestStreaks_reverse (isWin : β → Bool) (list : List β) :
    longestStreaks (list.reverse.map isWin) = longestStreaks (list.map isWin) := by
  obtain ⟨won, lost⟩ := longestStreaks_isLongestStreak isWin list
  obtain ⟨wonBackwards, lostBackwards⟩ := longestStreaks_isLongestStreak isWin list.reverse
  exact Prod.ext (wonBackwards.unique won.reverse) (lostBackwards.unique lost.reverse)

/-- Three wins in a row after two, and two losses at the end after one. -/
example : longestStreaks [true, true, false, true, true, true, false, false] = (3, 2) := by
  decide

end Pass

section Trades

variable {α : Type} [Arithmetic α]

/-- The streaks in the summary of a run are those of its trades, also if there are none. -/
theorem Performance.streaks_compute (trades : List (Trade α)) (curve : List α) (initialCapital : α) :
    let statistics := (compute trades curve initialCapital).trades
    (statistics.longestWins, statistics.longestLosses) = longestStreaks (trades.map (·.isWin)) := by
  cases trades with
  | nil => rfl
  | cons trade later => rfl

/-- In any arithmetic and for any trades, the first of the two streaks is the length of the longest contiguous block of
trades that all made a profit, and the second that of the longest block of trades none of which did.  The trades in reverse
have the same streaks.  They are those of the summary of a run. -/
theorem Performance.longestStreaks_of_trades (trades : List (Trade α)) :
    let streaks := longestStreaks (trades.map (·.isWin))
    IsLongestStreak (fun trade => Arithmetic.lt (Arithmetic.whole 0) trade.profit = true) trades streaks.1 ∧
      IsLongestStreak (fun trade => Arithmetic.lt (Arithmetic.whole 0) trade.profit = false) trades streaks.2 ∧
      longestStreaks (trades.reverse.map (·.isWin)) = streaks ∧
      ∀ (curve : List α) (initialCapital : α),
        (compute trades curve initialCapital).trades.longestWins = streaks.1 ∧
          (compute trades curve initialCapital).trades.longestLosses = streaks.2 := by
  intro streaks
  obtain ⟨won, lost⟩ := longestStreaks_isLongestStreak (·.isWin) trades
  refine ⟨won, lost, longestStreaks_reverse _ trades, fun curve initialCapital => ?_⟩
  exact Prod.ext_iff.1 (streaks_compute trades curve initialCapital)

end Trades

end PaperTrading
