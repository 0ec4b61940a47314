import PhraseGrammar.Text.Hidden

/-!
# Quotations

A quotation shows a text between double quotes so that it stays on one line and nothing in it is
invisible: quotes and backslashes take a backslash, the common controls their letter, and any other
hidden character its code point in braces.
-/

namespace PhraseGrammar
namespace Text

/-- A number in hexadecimal digits, lower case, without leading zeros. -/
def ofNatHex (n : Nat) : Text := Nat.toDigits 16 n

/-- How a quotation writes one character. -/
def quotedChar (c : Char) : Text :=
  if c = '"' then "\\\""
  else if c = '\\' then "\\\\"
  else if c = '\n' then "\\n"
  else if c = '\r' then "\\r"
  else if c = '\t' then "\\t"
  else if c.toNat = 0 then "\\0"
  else if isHidden c then "\\u\x7b" ++ ofNatHex c.toNat ++ "\x7d"
  else [c]

/-- A text between double quotes. -/
def quoted (text : Text) : Text :=
  "\"" ++ text.flatMap quotedChar ++ "\""

end Text
end PhraseGrammar
