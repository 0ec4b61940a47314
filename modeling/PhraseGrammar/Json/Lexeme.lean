import PhraseGrammar.Json.Fault

/-!
# The smallest parts of a document

Readers for what stands between the punctuation of a document: blanks, words, numerals, and texts
between quotes. Each takes the text it is to read from and returns what it read with the rest.

A text between quotes can be read or skipped. Skipping finds its end and checks its escapes one by
one; reading also joins pairs of surrogates into one character, and so refuses surrogates that stand
alone. The two also differ in whether a control character counts as read when it is refused.
-/

namespace PhraseGrammar
namespace Json

/-- The characters that may stand between the parts of a document. -/
def isBlankChar (c : Char) : Bool := c = ' ' || c = '\n' || c = '\t' || c = '\r'

/-- The text without the blanks at its beginning. -/
def skipBlanks (text : Text) : Text := text.dropWhile isBlankChar

/-- Read the rest of a word whose first letter is read already. -/
def readWord : (letters : Text) -> Text -> Except Fault Text
  | [], rest => .ok rest
  | _ :: _, [] => .error (.atEnd .endInValue)
  | letter :: letters, c :: rest =>
      if c = letter then readWord letters rest
      else .error (.upon .expectedWord (c :: rest))

/-! ## Numerals -/

/-- A numeral that breaks off: the bytes left, and whether it broke off at the end of the text. -/
structure NumeralFault where
  left : Nat
  isAtEnd : Bool
  deriving DecidableEq, Repr

namespace NumeralFault

/-- A numeral that breaks off at the first character of `rest`. -/
def upon (rest : Text) : NumeralFault where
  left := Text.byteCount rest - 1
  isAtEnd := rest.isEmpty

/-- The fault as it is told when the numeral is read. -/
def reading (fault : NumeralFault) : Fault where
  complaint := if fault.isAtEnd then .endInValue else .invalidNumber
  left := fault.left

/-- The fault as it is told when the numeral is skipped. -/
def skipping (fault : NumeralFault) : Fault where
  complaint := .invalidNumber
  left := fault.left

end NumeralFault

namespace Numeral

/-- Read at least one digit. -/
def readDigits (text : Text) : Except NumeralFault (Text × Text) :=
  match text.takeWhile Char.isDigit with
  | [] => .error (.upon text)
  | digits => .ok (digits, text.dropWhile Char.isDigit)

/-- Read the digits of the whole part: a zero that no other digit follows, or digits of which the
first is no zero. -/
def readWhole : Text -> Except NumeralFault (Text × Text)
  | '0' :: rest =>
      match rest with
      | [] => .ok (['0'], rest)
      | c :: _ =>
          if c.isDigit then .error { left := Text.byteCount rest - 1, isAtEnd := false }
          else .ok (['0'], rest)
  | text => readDigits text

/-- Read a point and the digits after it, if there is a point. -/
def readFraction : Text -> Except NumeralFault (Option Text × Text)
  | '.' :: rest => do
      let (digits, rest) ← readDigits rest
      return (some digits, rest)
  | text => .ok (none, text)

/-- Read the exponent, if there is one. -/
def readExponent : Text -> Except NumeralFault (Option (Bool × Text) × Text)
  | [] => .ok (none, [])
  | c :: rest =>
      if c = 'e' ∨ c = 'E' then do
        let (isNegative, unsigned) :=
          match rest with
          | '-' :: rest => (true, rest)
          | '+' :: rest => (false, rest)
          | rest => (false, rest)
        let (digits, rest) ← readDigits unsigned
        return (some (isNegative, digits), rest)
      else .ok (none, c :: rest)

/-- Read a numeral. -/
def read (text : Text) : Except NumeralFault (Numeral × Text) := do
  let (isNegative, unsigned) :=
    match text with
    | '-' :: rest => (true, rest)
    | rest => (false, rest)
  let (whole, rest) ← readWhole unsigned
  let (fraction, rest) ← readFraction rest
  let (exponent, rest) ← readExponent rest
  return ({ isNegative, whole, fraction, exponent }, rest)

/-- The number that a numeral in front of `rest` denotes. -/
def evaluate (numeral : Numeral) (rest : Text) : Except Fault Number :=
  match numeral.number? with
  | .ok number => .ok number
  | .error unread =>
      .error { complaint := .numberOutOfRange, left := Text.byteCount rest + unread }

end Numeral

/-! ## Texts between quotes -/

/-- The character for which a letter after a backslash stands. -/
def simpleEscape? (letter : Char) : Option Char :=
  if letter = '"' ∨ letter = '\\' ∨ letter = '/' then some letter
  else if letter = 'b' then some (Char.ofNat 8)
  else if letter = 'f' then some (Char.ofNat 12)
  else if letter = 'n' then some '\n'
  else if letter = 'r' then some '\r'
  else if letter = 't' then some '\t'
  else none

/-- The value of a hexadecimal digit. -/
def hexValue? (c : Char) : Option Nat :=
  if '0' ≤ c ∧ c ≤ '9' then some (c.toNat - '0'.toNat)
  else if 'a' ≤ c ∧ c ≤ 'f' then some (c.toNat - 'a'.toNat + 10)
  else if 'A' ≤ c ∧ c ≤ 'F' then some (c.toNat - 'A'.toNat + 10)
  else none

/-- The value of four hexadecimal digits. -/
def unit? (a b c d : Char) : Option Nat := do
  let a ← hexValue? a
  let b ← hexValue? b
  let c ← hexValue? c
  let d ← hexValue? d
  return ((a * 16 + b) * 16 + c) * 16 + d

/-- The fault of a text that should begin with four hexadecimal digits. Four bytes are read before
they are judged. -/
def unitFault (text : Text) : Fault :=
  if Text.byteCount (text.take 4) < 4 then .atEnd .endInText
  else { complaint := .invalidEscape, left := Text.byteCount text - 4 }

/-- The first unit of a pair of surrogates. -/
def isHighSurrogate (unit : Nat) : Bool := 0xD800 ≤ unit && unit ≤ 0xDBFF

/-- The second unit of a pair of surrogates. -/
def isLowSurrogate (unit : Nat) : Bool := 0xDC00 ≤ unit && unit ≤ 0xDFFF

/-- The character for which a pair of surrogates stands. -/
def pairChar (high low : Nat) : Char :=
  Char.ofNat ((high - 0xD800) * 0x400 + (low - 0xDC00) + 0x10000)

/-- The fault of a text that should go on with the second escape of a pair of surrogates, and does
not have a well-formed one. -/
def pairFault : Text -> Fault
  | [] => .atEnd .endInText
  | '\\' :: [] => .atEnd .endInText
  | '\\' :: 'u' :: rest => unitFault rest
  | '\\' :: rest => .upon .cutSurrogatePair rest
  | text => .upon .cutSurrogatePair text

/-- Read a text up to and including its closing quote; the opening one is read already. -/
def readQuoted : Text -> Except Fault (Text × Text)
  | [] => .error (.atEnd .endInText)
  | c :: rest =>
      if c = '"' then .ok ([], rest)
      else if c = '\\' then
        match rest with
        | [] => .error (.atEnd .endInText)
        | letter :: body =>
            if letter = 'u' then
              match body with
              | h₁ :: h₂ :: h₃ :: h₄ :: tail =>
                  match unit? h₁ h₂ h₃ h₄ with
                  | none => .error (unitFault body)
                  | some unit =>
                      if isLowSurrogate unit then .error (.before .loneSurrogate tail)
                      else if isHighSurrogate unit then
                        match tail with
                        | '\\' :: 'u' :: l₁ :: l₂ :: l₃ :: l₄ :: tail' =>
                            match unit? l₁ l₂ l₃ l₄ with
                            | none => .error (pairFault tail)
                            | some low =>
                                if isLowSurrogate low then do
                                  let (text, rest) ← readQuoted tail'
                                  return (pairChar unit low :: text, rest)
                                else .error (.before .loneSurrogate tail')
                        | _ => .error (pairFault tail)
                      else do
                        let (text, rest) ← readQuoted tail
                        return (Char.ofNat unit :: text, rest)
              | _ => .error (unitFault body)
            else
              match simpleEscape? letter with
              | none => .error (.upon .invalidEscape rest)
              | some escaped => do
                  let (text, rest) ← readQuoted body
                  return (escaped :: text, rest)
      else if c.toNat < 0x20 then .error (.upon .controlCharacter (c :: rest))
      else do
        let (text, rest) ← readQuoted rest
        return (c :: text, rest)

/-- Skip a text up to and including its closing quote; the opening one is read already. -/
def skipQuoted : Text -> Except Fault Text
  | [] => .error (.atEnd .endInText)
  | c :: rest =>
      if c = '"' then .ok rest
      else if c = '\\' then
        match rest with
        | [] => .error (.atEnd .endInText)
        | letter :: body =>
            if letter = 'u' then
              match body with
              | h₁ :: h₂ :: h₃ :: h₄ :: tail =>
                  match unit? h₁ h₂ h₃ h₄ with
                  | none => .error (unitFault body)
                  | some _ => skipQuoted tail
              | _ => .error (unitFault body)
            else if (simpleEscape? letter).isNone then .error (.upon .invalidEscape rest)
            else skipQuoted body
      else if c.toNat < 0x20 then .error (.before .controlCharacter (c :: rest))
      else skipQuoted rest

end Json
end PhraseGrammar
