import Mathlib.Order.Bounds.Basic
import PhraseGrammar.Proofs.Derivation.Soundness

/-!
# How long the forms get

A run stops at a form with more than twice as many characters as the word, so every form that it
goes on from, the start symbol apart, is at most so long. One more rewrite adds no more characters
than the longest right side has; how many it takes away does not matter. This bounds every form of a
verdict, the last one included, whatever the left sides are.
-/

namespace PhraseGrammar
namespace Grammar

/-- The number of characters of the longest right side, and 0 if there are no productions. -/
def longestRight (grammar : Grammar) : Nat :=
  (grammar.productions.map fun production => production.right.length).max?.getD 0

variable {grammar : Grammar}

/-- If there are productions, one of them has the longest right side. -/
theorem isGreatest_longestRight (nonempty : grammar.productions ≠ []) :
    IsGreatest { length | ∃ production ∈ grammar.productions, production.right.length = length }
      grammar.longestRight := by
  constructor
  · have someLength :
        grammar.productions.map (fun production => production.right.length) ≠ [] :=
      mt List.map_eq_nil_iff.mp nonempty
    obtain ⟨longest, isLongest⟩ :=
      Option.ne_none_iff_exists'.mp (mt List.max?_eq_none_iff.mp someLength)
    rw [longestRight, isLongest]
    exact List.mem_map.mp (List.max?_mem isLongest)
  · rintro _ ⟨production, member, rfl⟩
    exact List.le_max?_getD_of_mem (List.mem_map_of_mem member)

theorem length_right_le_longestRight
    {production : Production}
    (member : production ∈ grammar.productions) :
    production.right.length ≤ grammar.longestRight :=
  (isGreatest_longestRight (List.ne_nil_of_mem member)).2 ⟨production, member, rfl⟩

/-- A rewrite adds no more than the right side that it puts in. -/
theorem Rewrites.length_le
    {form next : Text}
    (rewrites : grammar.Rewrites form next) :
    next.length ≤ form.length + grammar.longestRight := by
  obtain ⟨production, member, before, after, rfl, rfl⟩ := rewrites
  have atMost := length_right_le_longestRight member
  simp only [List.length_append]
  omega

/-- Where every form of a derivation but the last is bounded, the last is not much longer. -/
theorem length_le_of_isChain
    {form : Text}
    {forms : List Text}
    {bound : Nat}
    (chain : (form :: forms).IsChain grammar.Rewrites)
    (first : form.length ≤ bound)
    (inner : ∀ between ∈ forms.dropLast, between.length ≤ bound) :
    ∀ any ∈ form :: forms, any.length ≤ bound + grammar.longestRight := by
  induction forms generalizing form with
  | nil => simpa using Nat.le_add_right_of_le first
  | cons next rest inductionHypothesis =>
      obtain ⟨rewrites, chain⟩ := List.isChain_cons_cons.mp chain
      have nextAtMost : next.length ≤ bound + grammar.longestRight :=
        Nat.le_trans rewrites.length_le (Nat.add_le_add_right first _)
      refine List.forall_mem_cons.mpr ⟨Nat.le_add_right_of_le first, ?_⟩
      -- Unless it is the last, the next form is among those that are bounded.
      cases rest with
      | nil => simpa using nextAtMost
      | cons second rest =>
          rw [List.dropLast_cons_cons, List.forall_mem_cons] at inner
          exact inductionHypothesis chain inner.1 inner.2

end Grammar

namespace Derivation

section Run

variable {grammar : Grammar} {word start : Text} {rounds : Nat} {run : Run}

/-- A run goes on only from forms that are at most twice as long as the word. -/
theorem Run.Traces.length_le_of_mem_dropLast
    (traces : run.Traces grammar word rounds start)
    {form : Text}
    (member : form ∈ run.forms.dropLast) :
    form.length ≤ 2 * word.length :=
  Nat.not_lt.mp (not_or.mp (traces.ongoing form member)).2

/-- No form of a run is longer than the start symbol or twice the word, and one right side. -/
theorem Run.Traces.length_le_of_mem
    (traces : run.Traces grammar word rounds start)
    {form : Text}
    (member : form ∈ start :: run.forms) :
    form.length ≤ max start.length (2 * word.length) + grammar.longestRight := by
  apply Grammar.length_le_of_isChain traces.isChain_rewrites (Nat.le_max_left ..) _ form member
  intro between isBetween
  exact Nat.le_trans (traces.length_le_of_mem_dropLast isBetween) (Nat.le_max_right ..)

end Run

/-- A verdict lists between 1 and 100 forms. Those between the first and the last have at most twice
as many characters as the word, and all have at most as many as the start symbol or twice the word,
whichever is more, and the longest right side together. -/
theorem validate_bounded
    (grammar : Grammar)
    (word : Text)
    (given : Verdict)
    (validated : validate grammar word = .ok given) :
    (1 ≤ given.steps.length ∧ given.steps.length ≤ 100) ∧
      (∀ step ∈ given.steps.tail.dropLast, step.form.length ≤ 2 * word.length) ∧
      ∀ step ∈ given.steps, step.form.length ≤
        max grammar.startSymbol.length (2 * word.length) + grammar.longestRight := by
  obtain ⟨_, inTime, rfl⟩ := (validate_eq_ok_iff grammar word given).mp validated
  have traces := traces_search grammar word
  have forms := forms_verdict grammar.startSymbol (search grammar word)
  refine ⟨⟨?_, ?_⟩, fun step member => ?_, fun step member => ?_⟩
  · exact Nat.le_trans (Nat.le_add_left 1 _) (length_steps_verdict ..).ge
  · have fewForms := Nat.lt_of_le_of_lt (search grammar word).length_forms_le_rounds inTime
    rw [length_steps_verdict]
    exact fewForms
  · apply traces.length_le_of_mem_dropLast
    have isForm := List.mem_map_of_mem (f := DerivationStep.form) member
    rwa [List.map_dropLast, List.map_tail, forms] at isForm
  · apply traces.length_le_of_mem
    rw [← forms]
    exact List.mem_map_of_mem member

/-- The bounds are attained: an empty left side takes nothing away. -/
theorem validate_bounded_attained :
    let grammar : Grammar :=
      { terminals := [{ id := "t", value := "a" }]
        nonTerminals := [{ id := "n", value := "" }]
        startSymbol := ""
        productions := [{ id := "p", left := "", right := "aa" }] }
    let given : Verdict :=
      { accepted := false, steps := [⟨"", 0⟩, ⟨"aa", 1⟩, ⟨"aaaa", 2⟩], finalForm := "aaaa" }
    validate grammar "b" = .ok given ∧ grammar.longestRight = 2 ∧ given.steps.length ≤ 100 ∧
      (∀ step ∈ given.steps.tail.dropLast, step.form.length ≤ 2) ∧
      (∀ step ∈ given.steps, step.form.length ≤ 2 + 2) ∧ given.finalForm.length = 2 + 2 := by
  intro grammar given
  have validated : validate grammar "b" = .ok given := by decide
  obtain ⟨⟨_, few⟩, inner, all⟩ := validate_bounded grammar "b" given validated
  exact ⟨validated, by decide, few, inner, all, rfl⟩

end Derivation
end PhraseGrammar
