/-
Module: PaperTrading.Arithmetic.Basic
Purpose: The operations on numbers that prices, indicators, accounts and scores are computed with.
Main exports: Arithmetic, greater, lesser, clamp, finiteOrZero, total

Every calculation of the library is written over `Arithmetic`, in a fixed order of operations.  It runs on
doubles; what holds of it in exact arithmetic, or in any arithmetic at all, is stated over other instances.
-/

namespace PaperTrading

/-- A type of numbers to calculate with.  Nothing is assumed of the operations: comparisons may all fail, as they
do for a double that is not a number, and division is total. -/
class Arithmetic (α : Type) extends Add α, Sub α, Mul α, Div α, Neg α, BEq α where
  /-- A whole number. -/
  whole : Nat → α
  /-- Strictly less. -/
  lt : α → α → Bool
  /-- Less or equal. -/
  le : α → α → Bool
  /-- Neither infinite nor undefined. -/
  isFinite : α → Bool
  /-- The number without its sign. -/
  magnitude : α → α
  /-- The nearest whole number; a half goes away from zero. -/
  nearest : α → α
  /-- The square root. -/
  sqrt : α → α
  /-- The first number to the power of the second. -/
  power : α → α → α
  /-- The whole part of a number, 0 for a negative one. -/
  floorNat : α → Nat
  /-- The probability that a variable with a t distribution is at least this far from zero, on either side, for a
  number of degrees of freedom. -/
  tailProbability : Nat → α → α

namespace Arithmetic

variable {α : Type} [Arithmetic α]

/-- The greater of two numbers.  An undefined one gives way to the other. -/
def greater (a b : α) : α :=
  if le b a then a else if b == b then b else a

/-- The lesser of two numbers.  An undefined one gives way to the other. -/
def lesser (a b : α) : α :=
  if le a b then a else if b == b then b else a

/-- The number, moved into the interval from `low` to `high` if it is outside. -/
def clamp (low high x : α) : α :=
  if lt x low then low else if lt high x then high else x

/-- The number, or zero if it is not finite. -/
def finiteOrZero (x : α) : α :=
  if isFinite x then x else whole 0

/-- The number if it is finite. -/
def finite? (x : α) : Option α :=
  if isFinite x then some x else none

/-- The sum of a list.  It starts from minus zero, the one number that adds nothing to any other, so the sum of
nothing is minus zero. -/
def total (xs : List α) : α :=
  xs.foldl (· + ·) (-(whole 0))

end Arithmetic

end PaperTrading
