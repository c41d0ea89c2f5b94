/-
Module: PaperTrading.Decimal.Reading
Purpose: Doubles and whole numbers from text.
Main exports: floatOfDecimal, floatOfNumeral, RealProblem, readFloat, readInt?, readInt64?
-/
import PaperTrading.Decimal.Shortest

namespace PaperTrading

/-- Decimals from this power of ten on are infinite as doubles. -/
def infinitePower : Int := 310

/-- Decimals below this power of ten are zero as doubles. -/
def vanishingPower : Int := -325

/-- The double nearest to `coefficient * 10 ^ scale`. -/
def floatOfDecimal (coefficient : Nat) (scale : Int) : Float :=
  let power := scale + (Nat.toDigits 10 coefficient).length
  if coefficient = 0 ∨ power < vanishingPower then 0.0
  else if infinitePower < power then 1.0 / 0.0
  else if scale < 0 then Float.ofScientific coefficient true scale.natAbs
  else Float.ofScientific coefficient false scale.natAbs

/-- The double with a sign. -/
def withSign (negative : Bool) (x : Float) : Float :=
  if negative then -x else x

/-- The double nearest to a numeral. -/
def floatOfNumeral (n : Numeral) : Float :=
  withSign n.negative (floatOfDecimal n.coefficient (-(n.places : Int)))

instance : Legible Float where
  ofNumeral := floatOfNumeral
  toNumeral? := shortestNumeral?
  word := specialWord

/-- Why a text is not a real number. -/
inductive RealProblem where
  | empty
  | malformed
deriving DecidableEq, Repr

/-- The wording of each problem. -/
def RealProblem.message : RealProblem → String
  | .empty => "cannot parse float from empty string"
  | .malformed => "invalid float literal"

/-- An optional sign of either kind at the head of a text, and the rest. -/
def takeEitherSign : List Char → Bool × List Char
  | '-' :: rest => (true, rest)
  | '+' :: rest => (false, rest)
  | text => (false, text)

/-- The exponent after the digits: nothing, or a mark, an optional sign and digits up to the end. -/
def readExponent? : List Char → Option Int
  | [] => some 0
  | mark :: rest =>
    if mark == 'e' || mark == 'E' then
      let (negative, digits) := takeEitherSign rest
      if digits.isEmpty || !digits.all Char.isDigit then none
      else
        let value : Int := Numeral.digitsValue digits
        some (if negative then -value else value)
    else
      none

/-- The double that an unsigned text spells: a word for an infinity or for what is not a number, or digits with
an optional point and an optional exponent. -/
def readUnsigned? (text : List Char) : Option Float :=
  let word := text.map Char.toLower
  if word = "inf".toList ∨ word = "infinity".toList then some (1.0 / 0.0)
  else if word = "nan".toList then some (0.0 / 0.0)
  else
    let ((whole, fraction), rest) := Numeral.takeDigits text
    if whole.isEmpty && fraction.isEmpty then none
    else
      (readExponent? rest).map fun exponent =>
        floatOfDecimal (Numeral.digitsValue (whole ++ fraction)) (exponent - fraction.length)

/-- The double that a whole text spells. -/
def readFloat (text : List Char) : Except RealProblem Float :=
  if text.isEmpty then .error .empty
  else
    let (negative, rest) := takeEitherSign text
    match readUnsigned? rest with
    | some x => .ok (withSign negative x)
    | none => .error .malformed

/-- The whole number that a text spells, between two bounds: an optional sign and digits. -/
def readInt? (least most : Int) (text : List Char) : Option Int :=
  let (negative, digits) := takeEitherSign text
  if digits.isEmpty || !digits.all Char.isDigit then none
  else
    let value : Int := Numeral.digitsValue digits
    let value := if negative then -value else value
    if least ≤ value && value ≤ most then some value else none

/-- Sixty-four bit whole numbers have these bounds. -/
def readInt64? (text : List Char) : Option Int :=
  let bound : Int := Nat.pow 2 63
  readInt? (-bound) (bound - 1) text

end PaperTrading
