/-
Module: PaperTrading.Arithmetic.StudentT
Purpose: The two-sided tail of the t distribution, in doubles.
Main exports: StudentT.tail

For a whole number of degrees of freedom the distribution is a finite sum.  With `tan θ = t / √freedom`, the
probability of lying within `t` of zero is `sin θ` times a sum of even powers of `cos θ` when the number of
degrees is even, and `2 / π` times `θ` plus `sin θ` times a sum of odd powers when it is odd; each coefficient is
a ratio of consecutive numbers times the one before.
-/

namespace PaperTrading.StudentT

/-- Adds `count` terms of a sum to `sum`.  `term` is the latest one, and the next is it times `square` times
`step / (step + 1)`, where `step` grows by two. -/
def sumTerms (square : Float) : (count step : Nat) → (term sum : Float) → Float
  | 0, _, _, sum => sum
  | count + 1, step, term, sum =>
    let term := term * square * (step.toFloat / (step + 1).toFloat)
    sumTerms square count (step + 2) term (sum + term)

/-- The circle constant. -/
def pi : Float := 3.141592653589793

/-- The probability that the variable lies within `t` of zero. -/
def within (freedom : Nat) (t : Float) : Float :=
  let degrees := freedom.toFloat
  let square := degrees / (degrees + t * t)
  let sine := t / Float.sqrt (degrees + t * t)
  let angle := Float.atan (t / Float.sqrt degrees)
  if freedom % 2 = 0 then
    sine * sumTerms square (freedom / 2 - 1) 1 1.0 1.0
  else if freedom = 1 then
    2.0 / pi * angle
  else
    let cosine := Float.sqrt square
    2.0 / pi * (angle + sine * sumTerms square ((freedom - 1) / 2 - 1) 2 cosine cosine)

/-- The probability that the variable is at least `t` away from zero, for `t` not negative. -/
def tail (freedom : Nat) (t : Float) : Float :=
  1.0 - within freedom t

end PaperTrading.StudentT
