/-
Module: PaperTrading.Proofs.Arithmetic.Guarded
Purpose: Exact arithmetic in which a quotient by zero is no number.
Main exports: Answers, Guarded, Guarded.of, Guarded.rendering

A calculation that comes out in this arithmetic as it does in exact arithmetic, whatever is answered about what is no
number, has not used a quotient by zero anywhere.
-/
import Mathlib.Algebra.Order.Field.Basic
import PaperTrading.Proofs.Arithmetic.Rendering

namespace PaperTrading

/-- What is answered to questions about what may be no number. -/
structure Answers (K : Type) where
  lt : Option K → Option K → Bool
  le : Option K → Option K → Bool
  beq : Option K → Option K → Bool
  isFinite : Bool
  floorNat : Nat

/-- The numbers, and what is no number.  The answers are about the latter only. -/
def Guarded (K : Type) (_ : Answers K) : Type :=
  Option K

namespace Guarded

variable {K : Type} {answers : Answers K}

instance [DecidableEq K] : DecidableEq (Guarded K answers) :=
  inferInstanceAs (DecidableEq (Option K))

/-- A number. -/
def of (x : K) : Guarded K answers :=
  some x

/-- An operation on numbers.  What is calculated from what is no number is no number. -/
def operate (f : K → Option K) (a : Guarded K answers) : Guarded K answers :=
  Option.bind a f

/-- An operation on two numbers. -/
def combine (f : K → K → Option K) (a b : Guarded K answers) : Guarded K answers :=
  Option.bind a fun x => Option.bind b (f x)

/-- A question about two numbers. -/
def compare (numbers : K → K → Bool) (others : Option K → Option K → Bool) (a b : Guarded K answers) : Bool :=
  match a, b with
  | some x, some y => numbers x y
  | a, b => others a b

variable [LinearOrder K] [ExactArithmetic K]

/-- Only a quotient by zero makes numbers into what is no number. -/
instance : Arithmetic (Guarded K answers) where
  add := combine fun x y => some (x + y)
  sub := combine fun x y => some (x - y)
  mul := combine fun x y => some (x * y)
  div := combine fun x y => if y = 0 then none else some (x / y)
  neg := operate fun x => some (-x)
  beq := compare (· == ·) answers.beq
  whole n := of (Arithmetic.whole n)
  lt := compare Arithmetic.lt answers.lt
  le := compare Arithmetic.le answers.le
  isFinite a := Option.elim a answers.isFinite Arithmetic.isFinite
  magnitude := operate fun x => some (Arithmetic.magnitude x)
  nearest := operate fun x => some (Arithmetic.nearest x)
  sqrt := operate fun x => some (Arithmetic.sqrt x)
  power := combine fun x y => some (Arithmetic.power x y)
  floorNat a := Option.elim a answers.floorNat Arithmetic.floorNat
  tailProbability n := operate fun x => some (Arithmetic.tailProbability n x)

/-- The numbers are exact arithmetic, except for quotients by zero. -/
theorem rendering : Rendering (of : K → Guarded K answers) where
  whole _ := rfl
  add _ _ := rfl
  sub _ _ := rfl
  mul _ _ := rfl
  neg _ := rfl
  div _ _ nonzero := if_neg nonzero
  lt _ _ := rfl
  le _ _ := rfl
  beq _ _ := rfl
  isFinite := ExactArithmetic.isFinite_all
  magnitude _ := rfl
  nearest _ := rfl
  sqrt _ := rfl
  power _ _ := rfl
  floorNat _ := rfl
  tailProbability _ _ := rfl

end Guarded

end PaperTrading
