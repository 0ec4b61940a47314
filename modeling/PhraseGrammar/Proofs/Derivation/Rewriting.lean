import Mathlib.Data.List.Chain
import PhraseGrammar.Derivation.Step

/-!
# Rewriting

The relation that the engine follows one path of. A form is rewritten by exchanging any occurrence
of the left side of any production for its right side; a derivation is a sequence of rewrites,
counted by its length. Nothing is said here about which production or which occurrence comes first.

The main statements are that a step of the engine is a rewrite, and that the engine finds no step
exactly when there is no rewrite.
-/

namespace PhraseGrammar

/-- An occurrence of the left side, exchanged for the right side. -/
def Production.Rewrites (production : Production) (form next : Text) : Prop :=
  ∃ before after,
    form = before ++ production.left ++ after ∧ next = before ++ production.right ++ after

namespace Grammar

/-- Some production rewrites the form. -/
def Rewrites (grammar : Grammar) (form next : Text) : Prop :=
  ∃ production ∈ grammar.productions, production.Rewrites form next

/-- A derivation of `last` from a form, with its number of rewrites. -/
inductive DerivesIn (grammar : Grammar) : Nat → Text → Text → Prop
  | refl (form : Text) : DerivesIn grammar 0 form form
  | head {form next last : Text} {count : Nat} :
      grammar.Rewrites form next → DerivesIn grammar count next last →
      DerivesIn grammar (count + 1) form last

/-- No left side occurs in the form. -/
def IsFinal (grammar : Grammar) (form : Text) : Prop :=
  ∀ production ∈ grammar.productions, ¬production.left <:+: form

end Grammar

/-! ## Rewrites of one production -/

namespace Production

/-- The first occurrence is an occurrence. -/
theorem rewrites_of_applyFirst?
    {production : Production}
    {form next : Text}
    (applied : production.applyFirst? form = some next) :
    production.Rewrites form next := by
  unfold applyFirst? Text.replaceFirst? at applied
  obtain ⟨⟨before, after⟩, isSplit, rfl⟩ := Option.map_eq_some_iff.mp applied
  exact ⟨before, after, Text.eq_append_of_splitFirst? isSplit, rfl⟩

/-- A left side that occurs is found. -/
theorem applyFirst?_eq_none_iff
    (production : Production)
    (form : Text) :
    production.applyFirst? form = none ↔ ¬production.left <:+: form := by
  rw [applyFirst?, Text.replaceFirst?, Option.map_eq_none_iff,
    ← Text.contains_eq_true_iff, Text.contains, Option.isSome_iff_ne_none, not_not]

/-- Only a left side that occurs can be exchanged. -/
theorem Rewrites.isInfix
    {production : Production}
    {form next : Text}
    (rewrites : production.Rewrites form next) :
    production.left <:+: form := by
  obtain ⟨before, after, rfl, _⟩ := rewrites
  exact ⟨before, after, rfl⟩

end Production

/-! ## Rewrites of a grammar -/

namespace Grammar

/-- A step of the engine is a rewrite. -/
theorem rewrites_of_step?
    {grammar : Grammar}
    {form next : Text}
    (stepped : grammar.step? form = some next) :
    grammar.Rewrites form next := by
  obtain ⟨production, member, applied⟩ := List.exists_of_findSome?_eq_some stepped
  exact ⟨production, member, Production.rewrites_of_applyFirst? applied⟩

/-- The engine finds no step exactly when no left side occurs. -/
theorem step?_eq_none_iff
    (grammar : Grammar)
    (form : Text) :
    grammar.step? form = none ↔ grammar.IsFinal form := by
  rw [step?, List.findSome?_eq_none_iff]
  exact forall₂_congr fun production _ => production.applyFirst?_eq_none_iff form

/-- A form without occurrences of left sides has no rewrites. -/
theorem IsFinal.not_rewrites
    {grammar : Grammar}
    {form : Text}
    (final : grammar.IsFinal form)
    (next : Text) :
    ¬grammar.Rewrites form next := by
  rintro ⟨production, member, rewrites⟩
  exact final production member rewrites.isInfix

/-- A form that has a rewrite has a step. -/
theorem exists_step?_of_rewrites
    {grammar : Grammar}
    {form next : Text}
    (rewrites : grammar.Rewrites form next) :
    ∃ chosen, grammar.step? form = some chosen := by
  cases stepped : grammar.step? form with
  | some chosen => exact ⟨chosen, rfl⟩
  | none =>
      have final := (grammar.step?_eq_none_iff form).mp stepped
      exact absurd rewrites (final.not_rewrites next)

/-- A derivation along a list of forms, each a rewrite of the one before. -/
theorem derivesIn_of_isChain
    {grammar : Grammar}
    {form last : Text}
    {forms : List Text}
    (chain : (form :: forms).IsChain grammar.Rewrites)
    (isLast : (form :: forms).getLast? = some last) :
    grammar.DerivesIn forms.length form last := by
  induction forms generalizing form with
  | nil =>
      obtain rfl : form = last := by simpa using isLast
      exact .refl form
  | cons next forms inductionHypothesis =>
      rw [List.isChain_cons_cons] at chain
      rw [List.getLast?_cons_cons] at isLast
      exact .head chain.1 (inductionHypothesis chain.2 isLast)

end Grammar
end PhraseGrammar
