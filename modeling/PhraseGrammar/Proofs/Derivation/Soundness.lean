import PhraseGrammar.Proofs.Derivation.Rewriting
import PhraseGrammar.Proofs.Derivation.Verdict

/-!
# Verdicts are derivations

The forms that a verdict lists are a derivation in the sense of plain rewriting. An accepted word is
derivable, and a rejected one was given up for a reason: the last form is too long, or nothing can
be rewritten in it.
-/

namespace PhraseGrammar
namespace Derivation

/-- The forms of a run are a chain of rewrites. -/
theorem Run.Traces.isChain_rewrites
    {grammar : Grammar}
    {word start : Text}
    {rounds : Nat}
    {run : Run}
    (traces : run.Traces grammar word rounds start) :
    (start :: run.forms).IsChain grammar.Rewrites :=
  traces.chain.imp fun _ _ => Grammar.rewrites_of_step?

/-- A run that reaches the word derives it, by as many rewrites as it has forms. -/
theorem Run.Traces.derivesIn
    {grammar : Grammar}
    {word start : Text}
    {rounds : Nat}
    {run : Run}
    (traces : run.Traces grammar word rounds start)
    (isReached : run.ending = .reached) :
    1 ≤ run.forms.length ∧ grammar.DerivesIn run.forms.length start word := by
  have isLast : run.forms.getLast? = some word := by
    have described := traces.ending
    rwa [isReached] at described
  have nonempty : run.forms ≠ [] := by
    intro isEmpty
    simp [isEmpty] at isLast
  refine ⟨List.length_pos_iff.mpr nonempty, ?_⟩
  apply Grammar.derivesIn_of_isChain traces.isChain_rewrites
  rw [List.getLast?_cons, isLast, Option.getD_some]

/-- A run that ends in time without reaching the word ends with a form that is too long, or in which
nothing can be rewritten. -/
theorem Run.Traces.tooLong_or_isFinal
    {grammar : Grammar}
    {word start : Text}
    {rounds : Nat}
    {run : Run}
    (traces : run.Traces grammar word rounds start)
    (notReached : run.ending ≠ .reached)
    (notCutOff : run.ending ≠ .cutOff) :
    2 * word.length < (run.forms.getLastD start).length ∨
      grammar.IsFinal (run.forms.getLastD start) := by
  have described := traces.ending
  cases ending_eq : run.ending with
  | reached => exact absurd ending_eq notReached
  | cutOff => exact absurd ending_eq notCutOff
  | outgrown =>
      rw [ending_eq] at described
      obtain ⟨last, isLast, _, long⟩ := described
      left
      rwa [List.getLastD_eq_getLast?, isLast, Option.getD_some]
  | stuck =>
      rw [ending_eq] at described
      right
      exact (grammar.step?_eq_none_iff _).mp described.1

/-- A verdict lists a derivation from the start symbol. It accepts the word only if the word is
derivable by at least one rewrite, and rejects it only if the last form has more than twice as many
characters as the word or has no rewrite. -/
theorem validate_sound
    (grammar : Grammar)
    (word : Text)
    (given : Verdict)
    (validated : validate grammar word = .ok given) :
    (given.steps.map DerivationStep.form).IsChain grammar.Rewrites ∧
      (given.steps.map DerivationStep.form).head? = some grammar.startSymbol ∧
      (given.accepted = true →
        ∃ count, 1 ≤ count ∧ grammar.DerivesIn count grammar.startSymbol word) ∧
      (given.accepted = false →
        ∃ last, (given.steps.map DerivationStep.form).getLast? = some last ∧
          (2 * word.length < last.length ∨ ∀ next, ¬grammar.Rewrites last next)) := by
  obtain ⟨_, inTime, rfl⟩ := (validate_eq_ok_iff grammar word given).mp validated
  have traces := traces_search grammar word
  rw [forms_verdict, accepted_verdict, ← Bool.not_eq_true, accepted_verdict]
  refine ⟨traces.isChain_rewrites, rfl, ?_, ?_⟩
  · intro isReached
    exact ⟨_, traces.derivesIn isReached⟩
  · intro notReached
    refine ⟨_, getLast?_forms_verdict grammar.startSymbol (search grammar word), ?_⟩
    have cases := traces.tooLong_or_isFinal notReached (ending_ne_cutOff_of_inTime inTime)
    exact cases.imp_right fun final => final.not_rewrites

/-- An empty left side occurs before the first character of every form, so the last form is too
long. -/
theorem validate_sound_emptyLeft :
    let grammar : Grammar :=
      { terminals := [{ id := "t", value := "a" }]
        nonTerminals := [{ id := "n", value := "" }]
        startSymbol := ""
        productions := [{ id := "p", left := "", right := "aa" }] }
    let given : Verdict :=
      { accepted := false
        steps := [{ form := "", place := 0 }, { form := "aa", place := 1 },
          { form := "aaaa", place := 2 }]
        finalForm := "aaaa" }
    validate grammar "b" = .ok given ∧
      (given.steps.map DerivationStep.form).IsChain grammar.Rewrites ∧
      (given.steps.map DerivationStep.form).head? = some "".toList ∧
      ∃ last, (given.steps.map DerivationStep.form).getLast? = some last ∧
        (2 * 1 < last.length ∨ ∀ next, ¬grammar.Rewrites last next) := by
  intro grammar given
  have validated : validate grammar "b" = .ok given := by decide
  obtain ⟨chain, first, _, rejected⟩ := validate_sound grammar "b" given validated
  exact ⟨validated, chain, first, rejected rfl⟩

end Derivation
end PhraseGrammar
