import PhraseGrammar.Text.Basic

/-!
# First occurrences

`splitFirst?` cuts a text around the first place where a pattern occurs in it. Occurrence and
substitution are both read off this one cut, so they cannot disagree about the place. The empty
pattern occurs before the first character of every text.
-/

namespace PhraseGrammar
namespace Text

/-- What follows `front` in a text that begins with it. -/
def remainder? : (front text : Text) -> Option Text
  | [], text => some text
  | _ :: _, [] => none
  | f :: front, c :: text => if f = c then remainder? front text else none

/-- What stands before and after the first occurrence of `pattern`. -/
def splitFirst? (pattern : Text) : Text -> Option (Text × Text)
  | [] => (remainder? pattern []).map fun after => ([], after)
  | c :: rest =>
      match remainder? pattern (c :: rest) with
      | some after => some ([], after)
      | none =>
          (splitFirst? pattern rest).map fun (before, after) =>
            (c :: before, after)

/-- Whether `pattern` occurs in the text. -/
def contains (pattern text : Text) : Bool :=
  (splitFirst? pattern text).isSome

/-- The text with the first occurrence of `pattern` exchanged for `replacement`. -/
def replaceFirst? (pattern replacement text : Text) : Option Text :=
  (splitFirst? pattern text).map fun (before, after) =>
    before ++ replacement ++ after

/-- A text with a remainder is the front followed by the remainder, and only such a text has one. -/
theorem remainder?_eq_some_iff {front text after : Text} :
    remainder? front text = some after ↔ text = front ++ after := by
  induction front generalizing text with
  | nil => simp [remainder?]
  | cons f front inductionHypothesis =>
      cases text with
      | nil => simp [remainder?]
      | cons c text =>
          by_cases same : f = c
          · simp [remainder?, same, inductionHypothesis]
          · simp [remainder?, same, Ne.symm same]

/-- The cut loses nothing: around the pattern it puts the text together again. -/
theorem eq_append_of_splitFirst? {pattern text before after : Text}
    (found : splitFirst? pattern text = some (before, after)) :
    text = before ++ pattern ++ after := by
  induction text generalizing before with
  | nil =>
      simp only [splitFirst?, Option.map_eq_some_iff, Prod.mk.injEq] at found
      obtain ⟨rest, isRest, rfl, rfl⟩ := found
      simpa using remainder?_eq_some_iff.mp isRest
  | cons c text inductionHypothesis =>
      simp only [splitFirst?] at found
      split at found
      next rest isRest =>
        simp only [Option.some.injEq, Prod.mk.injEq] at found
        obtain ⟨rfl, rfl⟩ := found
        simpa using remainder?_eq_some_iff.mp isRest
      next =>
        simp only [Option.map_eq_some_iff, Prod.exists, Prod.mk.injEq] at found
        obtain ⟨front, back, isSplit, rfl, rfl⟩ := found
        rw [inductionHypothesis isSplit]
        simp

/-- A pattern occurs in a text exactly when the text can be cut around it somewhere. -/
theorem contains_eq_true_iff {pattern text : Text} :
    contains pattern text = true ↔ pattern <:+: text := by
  constructor
  · intro occurs
    obtain ⟨⟨before, after⟩, isSplit⟩ := Option.isSome_iff_exists.mp occurs
    exact ⟨before, after, (eq_append_of_splitFirst? isSplit).symm⟩
  · rintro ⟨before, after, rfl⟩
    unfold contains
    induction before with
    | nil =>
        have isFront : remainder? pattern (pattern ++ after) = some after :=
          remainder?_eq_some_iff.mpr rfl
        cases pattern with
        | nil => cases after <;> simp [splitFirst?, remainder?]
        | cons p pattern =>
            simp only [List.cons_append] at isFront
            simp [splitFirst?, isFront]
    | cons c before inductionHypothesis =>
        simp only [List.cons_append, splitFirst?]
        split
        · rfl
        · simpa using inductionHypothesis

end Text
end PhraseGrammar
