import PhraseGrammar.Text.Basic

/-!
# Numbers of double precision

The nonnegative finite numbers of the format binary64, as an integer times a power of two, with the
arithmetic that reading a decimal needs. Every operation takes the exact rational result and rounds
it once, to the nearest number of the format and to the even one of two that are equally near.
-/

namespace PhraseGrammar

/-- The number `significand * 2 ^ exponent`. In the results of `Binary64.round?` the significand is
below `2 ^ 53`, and at least `2 ^ 52` unless the exponent is the least one. -/
structure Binary64 where
  significand : Nat
  exponent : Int
  deriving DecidableEq, Repr

namespace Binary64

/-- The least exponent, at which the significand may be below `2 ^ 52`. -/
def leastExponent : Int := -1074

/-- The greatest exponent of a finite number. -/
def greatestExponent : Int := 971

/-- The number zero. -/
def zero : Binary64 := { significand := 0, exponent := leastExponent }

/-- The numerator of the number as a fraction. -/
def numerator (number : Binary64) : Nat := number.significand * Nat.pow 2 number.exponent.toNat

/-- The denominator of the number as a fraction. -/
def denominator (number : Binary64) : Nat := Nat.pow 2 (-number.exponent).toNat

/-- The integer nearest to a fraction, and the even one of two that are equally near. -/
def nearest (numerator denominator : Nat) : Nat :=
  let quotient := numerator / denominator
  let doubled := 2 * (numerator % denominator)
  if doubled < denominator then quotient
  else if denominator < doubled then quotient + 1
  else if quotient % 2 = 0 then quotient
  else quotient + 1

/-- The exponent at which the significand of a positive fraction has 53 bits, or the least exponent
if it has fewer there. -/
def exponentFor (numerator denominator : Nat) : Int :=
  let guess : Int := (numerator.log2 : Int) - (denominator.log2 : Int) - 52
  let tooGreat : Bool :=
    numerator * Nat.pow 2 (-guess).toNat < Nat.pow 2 52 * (denominator * Nat.pow 2 guess.toNat)
  max leastExponent (if tooGreat then guess - 1 else guess)

/-- The number of the format nearest to a fraction, unless the fraction is too great for it. -/
def round? (numerator denominator : Nat) : Option Binary64 :=
  if numerator = 0 then some zero
  else
    let exponent := exponentFor numerator denominator
    let significand :=
      nearest (numerator * Nat.pow 2 (-exponent).toNat) (denominator * Nat.pow 2 exponent.toNat)
    let rounded : Binary64 :=
      if significand = Nat.pow 2 53 then { significand := Nat.pow 2 52, exponent := exponent + 1 }
      else { significand, exponent }
    if greatestExponent < rounded.exponent then none else some rounded

/-- The rounded product. -/
def mul? (first second : Binary64) : Option Binary64 :=
  round? (first.numerator * second.numerator) (first.denominator * second.denominator)

/-- The rounded quotient. -/
def div? (first second : Binary64) : Option Binary64 :=
  round? (first.numerator * second.denominator) (first.denominator * second.numerator)

/-- The greatest power of ten in the format. -/
def greatestPower : Nat := 308

/-- Divide by the greatest power of ten the given number of times, or until nothing is left. -/
def scaleDown : (times : Nat) -> Binary64 -> Option Binary64
  | 0, number => some number
  | times + 1, number =>
      if number.significand = 0 then some number
      else do
        let divisor ← round? (Nat.pow 10 greatestPower) 1
        scaleDown times (← number.div? divisor)

/-- The number that `significand * 10 ^ exponent` is read as, unless it is too great. The
significand is rounded first, then its product with, or its quotient by, the rounded power of ten;
an exponent below the least power is brought into range by dividing by the greatest one. -/
def ofDecimal? (significand : Nat) (exponent : Int) : Option Binary64 := do
  let number ← round? significand 1
  if number.significand = 0 then return number
  else if 0 ≤ exponent then
    if greatestPower < exponent.toNat then none
    else number.mul? (← round? (Nat.pow 10 exponent.toNat) 1)
  else
    let size := (-exponent).toNat
    let times := (size - 1) / greatestPower
    let scaled ← scaleDown times number
    scaled.div? (← round? (Nat.pow 10 (size - greatestPower * times)) 1)

end Binary64
end PhraseGrammar
