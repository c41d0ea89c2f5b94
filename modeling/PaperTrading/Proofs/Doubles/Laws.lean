/-
Module: PaperTrading.Proofs.Doubles.Laws
Purpose: What is assumed of an arithmetic elsewhere holds of doubles.
Main exports: doubles_sumsInOrder, doubles_orderedWhereFinite, doubles_draftConstants, doubles_unsignedNotNegative,
  doubles_sixtyAboveForty, doubles_spelledOut, doubles_writtenBriefly
-/
import PaperTrading.Proofs.Doubles.Writing
import PaperTrading.Proofs.Performance.ScoreBounds
import PaperTrading.Proofs.Rule.Unreadable
import PaperTrading.Proofs.Strategy.Limits
import PaperTrading.Proofs.Strategy.Understanding

namespace PaperTrading

theorem doubles_sumsInOrder : SumsInOrder Float where
  lt_iff _ _ := doubles_lt_iff
  between x y z finite finite' first second := by
    obtain ⟨one, other⟩ := isNaN_of_le first
    have low := (doubles_le_iff_standsFor one other).1 first
    have high := (doubles_le_iff_standsFor other (isNaN_of_le second).2).1 second
    refine isFinite_of_abs_standsFor_lt other (abs_lt.2 ⟨?_, ?_⟩)
    · exact (abs_lt.1 (abs_standsFor_lt finite)).1.trans_le low
    · exact high.trans_lt (abs_lt.1 (abs_standsFor_lt finite')).2
  add_le x y z w finiteX finiteY finiteZ finiteW first second := by
    have left := (doubles_le_iff_standsFor (isNaN_of_isFinite finiteX) (isNaN_of_isFinite finiteZ)).1 first
    have right := (doubles_le_iff_standsFor (isNaN_of_isFinite finiteY) (isNaN_of_isFinite finiteW)).1 second
    exact (hasRounding_add finiteX finiteY).le (hasRounding_add finiteZ finiteW) (add_le_add left right)
  whole_finite n small := (doubles_whole (by omega)).1
  whole_le m n small small' := by
    obtain ⟨finite, value⟩ := doubles_whole (n := m) (by omega)
    obtain ⟨finite', value'⟩ := doubles_whole (n := n) (by omega)
    rw [doubles_le_iff_standsFor (isNaN_of_isFinite finite) (isNaN_of_isFinite finite'), value, value', Nat.cast_le]
  whole_add m n small := doubles_whole_add (by omega)

theorem doubles_orderedWhereFinite : OrderedWhereFinite Float where
  zero := rfl
  neg _ := isFinite_neg
  lt_iff _ _ := doubles_lt_iff

theorem doubles_draftConstants : DraftConstants Float where
  spikeFactor := by decide
  stopLoss := ⟨by decide, by decide⟩
  takeProfit := ⟨by decide, by decide⟩

theorem doubles_unsignedNotNegative : UnsignedNotNegative Float :=
  fun _ unsigned => doubles_lt_eq_false_of_le (doubles_zero_le_ofNumeral unsigned)

theorem doubles_sixtyAboveForty : SixtyAboveForty Float := by
  intro x above
  refine doubles_lt_eq_false_of_le ?_
  obtain ⟨sixtyFinite, sixty⟩ := doubles_whole (n := 60) (by decide)
  obtain ⟨fortyFinite, forty⟩ := doubles_whole (n := 40) (by decide)
  obtain ⟨-, number⟩ := isNaN_of_le (doubles_le_of_lt above)
  have larger := (doubles_lt_iff_standsFor (isNaN_of_isFinite sixtyFinite) number).1 above
  rw [sixty] at larger
  rw [doubles_le_iff_standsFor (isNaN_of_isFinite fortyFinite) number, forty]
  exact (Nat.cast_le.2 (by decide)).trans larger.le

/-- Every finite double is written as a numeral that is read as the same double, and any other as a word. -/
theorem doubles_spelledOut : SpelledOut Float where
  readsBack := doubles_readsBack
  special x infinite := by
    refine ⟨?_, ?_⟩
    · show shortestNumeral? x = none
      rw [shortestNumeral?, ofFloat?_eq_none infinite]
      rfl
    · show specialWord x ∈ specialWords
      rw [specialWord]
      split
      case isTrue => decide
      case isFalse => split <;> decide

theorem doubles_writtenBriefly : WrittenBriefly Float :=
  fun _ => doubles_length_chars_le

end PaperTrading
