import PhraseGrammar.Decimal.Binary64

/-!
# Shortest decimals

A number of double precision is shown by the fewest decimal digits that read back as it. All
fractions between the two midpoints to its neighbours read back as the number, the midpoints
included when its significand is even. Grids of one, two and more digits are tried in turn; on the
first that has a point in that range, the point nearest to the number is taken.
-/

namespace PhraseGrammar

/-- The decimal `d₁.d₂… * 10 ^ exponent`. -/
structure Decimal where
  digits : Text
  exponent : Int
  deriving DecidableEq, Repr

namespace Binary64

/-- The exponent of the leading decimal digit of a positive fraction that is not too small for the
format. -/
def decimalExponent (numerator denominator : Nat) : Int :=
  if denominator ≤ numerator then
    ((Nat.toDigits 10 (numerator / denominator)).length : Int) - 1
  else
    let zeros := (List.range 330).countP fun shift => numerator * Nat.pow 10 shift < denominator
    0 - (zeros : Int)

/-- Whether `point * 10 ^ exponent` reads back as the number. -/
def readsBack (number : Binary64) (point : Nat) (exponent : Int) : Bool :=
  let below :=
    if number.significand = Nat.pow 2 52 ∧ leastExponent < number.exponent then 1 else 2
  let place (quarters : Nat) : Nat :=
    quarters * Nat.pow 2 number.exponent.toNat * Nat.pow 10 (-exponent).toNat
  let least := place (4 * number.significand - below)
  let greatest := place (4 * number.significand + 2)
  let position := 4 * point * Nat.pow 10 exponent.toNat * number.denominator
  if number.significand % 2 = 0 then least ≤ position && position ≤ greatest
  else least < position && position < greatest

/-- The point nearest to the number that reads back as it, on the grid of the multiples of
`10 ^ exponent`. -/
def pointOn? (number : Binary64) (exponent : Int) : Option Nat :=
  let numerator := number.numerator * Nat.pow 10 (-exponent).toNat
  let denominator := number.denominator * Nat.pow 10 exponent.toNat
  let point := numerator / denominator
  match number.readsBack point exponent, number.readsBack (point + 1) exponent with
  | true, true => some (nearest numerator denominator)
  | true, false => some point
  | false, true => some (point + 1)
  | false, false => none

/-- The shortest decimal that reads back as a positive number. Seventeen digits always suffice. -/
def shortest (number : Binary64) : Decimal :=
  let exponent := decimalExponent number.numerator number.denominator
  let found := (List.range 17).findSome? fun (further : Nat) =>
    (number.pointOn? (exponent - further)).map fun point => (further, point)
  match found with
  | none => { digits := "0", exponent := 0 }
  | some (further, point) =>
      let digits := Nat.toDigits 10 point
      { digits := (digits.reverse.dropWhile (· == '0')).reverse
        exponent := exponent - further + ((digits.length : Int) - 1) }

end Binary64

namespace Decimal

/-- A decimal as text. Exponents from -5 to 15 are written out, always with a digit after the point;
others follow the digits with their sign. -/
def render (decimal : Decimal) : Text :=
  let digits := decimal.digits
  if -5 ≤ decimal.exponent ∧ decimal.exponent ≤ 15 then
    if decimal.exponent < 0 then
      "0." ++ List.replicate ((-decimal.exponent).toNat - 1) '0' ++ digits
    else
      let whole := decimal.exponent.toNat + 1
      let fraction : Text := if digits.length ≤ whole then "0" else digits.drop whole
      digits.take whole ++ List.replicate (whole - digits.length) '0' ++ "." ++ fraction
  else
    let sign : Text := if decimal.exponent < 0 then "-" else "+"
    let point : Text := if digits.length ≤ 1 then "" else "."
    digits.take 1 ++ point ++ digits.drop 1 ++ "e" ++ sign ++ Text.ofNat decimal.exponent.natAbs

end Decimal

/-- The text of a number of double precision. -/
def Binary64.render (number : Binary64) : Text :=
  if number.significand = 0 then "0.0" else number.shortest.render

end PhraseGrammar
