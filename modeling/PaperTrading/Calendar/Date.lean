/-
Module: PaperTrading.Calendar.Date
Purpose: Days of the proleptic Gregorian calendar, their order and their succession.
Main exports: Date, Date.of?, Date.ordinal, Date.next
-/

namespace PaperTrading

/-- Whether a year has a 29th of February. -/
def isLeapYear (year : Int) : Bool :=
  year % 4 == 0 && (year % 100 != 0 || year % 400 == 0)

/-- The number of days of a month; no day for a number that names no month. -/
def daysInMonth (year : Int) (month : Nat) : Nat :=
  match month with
  | 1 | 3 | 5 | 7 | 8 | 10 | 12 => 31
  | 4 | 6 | 9 | 11 => 30
  | 2 => if isLeapYear year then 29 else 28
  | _ => 0

/-- The calendar runs over these years, both ends included. -/
def firstYear : Int := -262143

@[inherit_doc firstYear]
def lastYear : Int := 262142

/-- The day exists and its year is within the calendar. -/
def IsDay (year : Int) (month day : Nat) : Prop :=
  firstYear ≤ year ∧ year ≤ lastYear ∧ 1 ≤ day ∧ day ≤ daysInMonth year month

instance (year : Int) (month day : Nat) : Decidable (IsDay year month day) :=
  inferInstanceAs (Decidable (_ ∧ _))

/-- A day of the calendar. -/
structure Date where
  year : Int
  month : Nat
  day : Nat
  isDay : IsDay year month day
deriving DecidableEq

namespace Date

/-- The date with these numbers, if there is one. -/
def of? (year : Int) (month day : Nat) : Option Date :=
  if h : IsDay year month day then some ⟨year, month, day, h⟩ else none

/-- A number that grows with the date: 16 months of 32 days leave room for every month. -/
def ordinal (d : Date) : Int :=
  (d.year * 16 + d.month) * 32 + d.day

instance : LT Date := ⟨fun first second => first.ordinal < second.ordinal⟩

instance : LE Date := ⟨fun first second => first.ordinal ≤ second.ordinal⟩

instance (first second : Date) : Decidable (first < second) :=
  inferInstanceAs (Decidable (first.ordinal < second.ordinal))

instance (first second : Date) : Decidable (first ≤ second) :=
  inferInstanceAs (Decidable (first.ordinal ≤ second.ordinal))

/-- The following day; the last day of the calendar is followed by itself. -/
def next (d : Date) : Date :=
  ((of? d.year d.month (d.day + 1)).or ((of? d.year (d.month + 1) 1).or (of? (d.year + 1) 1 1))).getD d

theorem daysInMonth_le (year : Int) (month : Nat) : daysInMonth year month ≤ 31 := by
  unfold daysInMonth
  split <;> (try split) <;> omega

theorem month_pos (d : Date) : 1 ≤ d.month := by
  rcases Nat.eq_zero_or_pos d.month with h | h
  · have := d.isDay.2.2
    simp [h, daysInMonth] at this
    omega
  · exact h

theorem month_le (d : Date) : d.month ≤ 12 := by
  have bounds := d.isDay.2.2
  revert bounds
  unfold daysInMonth
  split <;> omega

/-- Dates with the same ordinal are the same. -/
theorem eq_of_ordinal_eq {first second : Date} (h : first.ordinal = second.ordinal) : first = second := by
  have first_day := first.isDay.2.2
  have second_day := second.isDay.2.2
  have first_month := first.month_pos
  have second_month := second.month_pos
  have first_month_le := first.month_le
  have second_month_le := second.month_le
  have first_le := daysInMonth_le first.year first.month
  have second_le := daysInMonth_le second.year second.month
  simp only [ordinal] at h
  obtain ⟨year, month, day, isDay⟩ := first
  obtain ⟨year', month', day', isDay'⟩ := second
  simp only [mk.injEq] at *
  omega

end Date

end PaperTrading
