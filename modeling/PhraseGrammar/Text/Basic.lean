/-!
# Texts

Words, sentential forms, identifiers, messages and documents are all texts: finite sequences of
characters, kept as lists so that they can be split and joined by the laws of lists. Lengths are
counted in characters; the size in bytes of the UTF-8 form is a separate measure, which positions in
a document use.
-/

namespace PhraseGrammar

/-- A text is the list of its characters. -/
abbrev Text := List Char

/-- A string literal stands for the text of its characters. -/
instance : Coe String Text := ⟨String.toList⟩

namespace Text

/-- The number of bytes of the UTF-8 form of a text. -/
def byteCount : Text -> Nat
  | [] => 0
  | c :: rest => c.utf8Size + byteCount rest

/-- A natural number in decimal digits, without leading zeros. -/
def ofNat (n : Nat) : Text := Nat.toDigits 10 n

theorem isDigit_of_mem_ofNat {n : Nat} {c : Char} (member : c ∈ ofNat n) : c.isDigit = true :=
  Nat.isDigit_of_mem_toDigits (by decide) (by decide) member

/-- The texts in order, with `separator` between neighbours. -/
def joined (separator : Text) (texts : List Text) : Text :=
  separator.intercalate texts

/-- Texts joined by a separator: the first, and the others behind separators. -/
theorem joined_cons (separator first : Text) (others : List Text) :
    joined separator (first :: others) = first ++ others.flatMap (separator ++ ·) := by
  induction others generalizing first with
  | nil => simp [joined, List.intercalate]
  | cons second others inductionHypothesis =>
      have unfolded : joined separator (first :: second :: others) =
          first ++ (separator ++ joined separator (second :: others)) := by
        simp [joined, List.intercalate]
      rw [unfolded, inductionHypothesis, List.flatMap_cons, List.append_assoc]

end Text

end PhraseGrammar
