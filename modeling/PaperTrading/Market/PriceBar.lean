/-
Module: PaperTrading.Market.PriceBar
Purpose: One day of prices of one symbol, and series of days.
Main exports: PriceBar, isAscending
-/
import PaperTrading.Calendar.Date

namespace PaperTrading

/-- The prices and the volume of one day. -/
structure PriceBar (α : Type) where
  symbol : String
  date : Date
  openPrice : α
  highPrice : α
  lowPrice : α
  closePrice : α
  volume : α

/-- Whether each day of a series is after the one before it. -/
def isAscending (dates : List Date) : Bool :=
  match dates with
  | first :: second :: rest => first < second && isAscending (second :: rest)
  | _ => true

theorem isAscending_iff_pairwise (dates : List Date) :
    isAscending dates = true ↔ dates.Pairwise (· < ·) := by
  induction dates with
  | nil => simp [isAscending]
  | cons first rest ih =>
    cases rest with
    | nil => simp [isAscending]
    | cons second rest =>
      simp only [isAscending, Bool.and_eq_true, decide_eq_true_eq, ih]
      constructor
      · rintro ⟨before, later⟩
        refine List.pairwise_cons.2 ⟨fun day member => ?_, later⟩
        rcases List.mem_cons.1 member with rfl | member
        · exact before
        · exact Int.lt_trans before (List.rel_of_pairwise_cons later member)
      · intro later
        exact ⟨List.rel_of_pairwise_cons later (List.mem_cons_self ..), (List.pairwise_cons.1 later).2⟩

end PaperTrading
