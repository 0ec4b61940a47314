import PhraseGrammar.Text.Basic

/-!
# Blank texts

A text is blank when every character of it has the Unicode property White_Space; the empty text is
blank. The property is given by its code points. It leaves out the separators U+001C to U+001F, the
Mongolian vowel separator, the zero-width space and the byte order mark.
-/

namespace PhraseGrammar
namespace Text

/-- The characters with the Unicode property White_Space. -/
def isWhiteSpace (c : Char) : Bool :=
  let code := c.toNat
  (0x09 ≤ code && code ≤ 0x0D) || code == 0x20 || code == 0x85 || code == 0xA0 ||
    code == 0x1680 || (0x2000 ≤ code && code ≤ 0x200A) || code == 0x2028 || code == 0x2029 ||
    code == 0x202F || code == 0x205F || code == 0x3000

/-- A text with nothing in it but white space. -/
def isBlank (text : Text) : Bool := text.all isWhiteSpace

@[simp] theorem isBlank_nil : isBlank [] = true := rfl

@[simp] theorem isBlank_cons (c : Char) (rest : Text) :
    isBlank (c :: rest) = (isWhiteSpace c && isBlank rest) := rfl

end Text
end PhraseGrammar
