import PhraseGrammar.Decimal.Shortest

/-!
# Numbers of a document

A numeral without point and exponent is an integer if it fits 64 bits, with or without sign; every
other numeral, and minus zero, is a number of double precision. At most 64 bits of significand are
read: once another digit would not fit, further digits of the whole part only count towards the
exponent, and further digits of the fraction are passed over.
-/

namespace PhraseGrammar
namespace Json

/-- A number of a document. -/
inductive Number
  /-- An integer from 0 to `2 ^ 64 - 1`. -/
  | natural (value : Nat)
  /-- The negative of an integer from 1 to `2 ^ 63`. -/
  | negative (size : Nat)
  /-- A number of double precision. -/
  | real (isNegative : Bool) (size : Binary64)
  deriving DecidableEq, Repr

namespace Number

/-- The text of a number. -/
def render : Number -> Text
  | natural value => Text.ofNat value
  | negative size => "-" ++ Text.ofNat size
  | real isNegative size => (if isNegative then ['-'] else []) ++ size.render

end Number

/-- A number as it is written: sign, digits of the whole part, digits after the point, and the sign
and digits of the exponent. -/
structure Numeral where
  isNegative : Bool
  whole : Text
  fraction : Option Text
  exponent : Option (Bool × Text)
  deriving DecidableEq, Repr

namespace Numeral

/-- The value of a decimal digit. -/
def digitValue (c : Char) : Nat := c.toNat - '0'.toNat

/-- Read digits into `value` as long as it stays at most `bound`, and return it with the digits that
are left. -/
def absorb (bound : Nat) : (value : Nat) -> Text -> Nat × Text
  | value, [] => (value, [])
  | value, digit :: rest =>
      let next := value * 10 + digitValue digit
      if bound < next then (value, digit :: rest) else absorb bound next rest

/-- The greatest significand. -/
def significandBound : Nat := Nat.pow 2 64 - 1

/-- The greatest size of an exponent that is still computed with. -/
def exponentBound : Nat := Nat.pow 2 31 - 1

/-- The number of double precision that a numeral with the given significand and decimal exponent
denotes. If it is too great, the error is the number of digits at the end of the numeral that need
not be read to see this. -/
def real? (numeral : Numeral) (significand : Nat) (shift : Int) : Except Nat Number :=
  let scaled (exponent : Int) : Except Nat Number :=
    match Binary64.ofDecimal? significand exponent with
    | some size => .ok (.real numeral.isNegative size)
    | none => .error 0
  match numeral.exponent with
  | none => scaled shift
  | some (isNegative, digits) =>
      match absorb exponentBound 0 digits with
      | (size, []) => scaled (if isNegative then shift - size else shift + size)
      | (_, _ :: unread) =>
          if significand = 0 ∨ isNegative then .ok (.real numeral.isNegative .zero)
          else .error unread.length

/-- The number that a numeral denotes, with errors as for `Numeral.real?`. -/
def number? (numeral : Numeral) : Except Nat Number :=
  let (leading, dropped) := absorb significandBound 0 numeral.whole
  match numeral.fraction, numeral.exponent with
  | none, none =>
      if dropped ≠ [] then numeral.real? leading dropped.length
      else if !numeral.isNegative then .ok (.natural leading)
      else if 0 < leading ∧ leading ≤ Nat.pow 2 63 then .ok (.negative leading)
      else numeral.real? leading 0
  | fraction, _ =>
      let digits := fraction.getD []
      let (significand, passedOver) := absorb significandBound leading digits
      numeral.real? significand
        ((dropped.length : Int) - ((digits.length - passedOver.length : Nat) : Int))

end Numeral
end Json
end PhraseGrammar
