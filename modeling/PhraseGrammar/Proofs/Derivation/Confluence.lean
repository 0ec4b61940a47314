import Mathlib.Data.List.Nodup
import PhraseGrammar.Proofs.Derivation.Rewriting
import PhraseGrammar.Proofs.Derivation.Verdict

/-!
# Deterministic grammars

A grammar is deterministic when every left side is a single character and no left side is declared
twice. Two rewrites of one form are then the same, or are made at different places and can both be
made, in either order. So all derivations of a form in which nothing can be rewritten have the same
length, whatever they rewrite first, and the engine, which makes rewrites of its own choice, derives
the form if anything does. Right sides are not blank, so no form on the way is longer than the last,
and the engine never gives up early.
-/

namespace PhraseGrammar
namespace Grammar

/-- Every left side is one character, and no two productions have the same left side. -/
structure Deterministic (grammar : Grammar) : Prop where
  singleCharacter : ∀ production ∈ grammar.productions, ∃ c, production.left = [c]
  distinctLefts : (grammar.productions.map Production.left).Nodup

section Diamond

variable {grammar : Grammar}

/-- A production is known by its left side. -/
theorem Deterministic.production_eq
    (deterministic : grammar.Deterministic)
    {first second : Production}
    (firstMember : first ∈ grammar.productions)
    (secondMember : second ∈ grammar.productions)
    (sameLeft : first.left = second.left) :
    first = second :=
  List.inj_on_of_nodup_map deterministic.distinctLefts firstMember secondMember sameLeft

/-- Two left sides next to each other can be exchanged in either order. -/
theorem rewrites_apart
    {first second : Production}
    (firstMember : first ∈ grammar.productions)
    (secondMember : second ∈ grammar.productions)
    (before middle after : Text) :
    ∃ joined,
      grammar.Rewrites (before ++ first.right ++ (middle ++ second.left ++ after)) joined ∧
      grammar.Rewrites (before ++ first.left ++ middle ++ second.right ++ after) joined := by
  refine ⟨before ++ first.right ++ middle ++ second.right ++ after, ?_, ?_⟩
  · exact ⟨second, secondMember, before ++ first.right ++ middle, after, by simp, by simp⟩
  · exact ⟨first, firstMember, before, middle ++ second.right ++ after, by simp, by simp⟩

/-- Two rewrites of one form, of which the second is not made before the place of the first, are the
same or can both be made. -/
theorem Deterministic.diamond_of_place_le
    (deterministic : grammar.Deterministic)
    {first second : Production}
    (firstMember : first ∈ grammar.productions)
    (secondMember : second ∈ grammar.productions)
    (before : Text)
    {middle after after' : Text}
    (same : first.left ++ after = middle ++ (second.left ++ after')) :
    before ++ first.right ++ after = before ++ middle ++ second.right ++ after' ∨
      ∃ joined, grammar.Rewrites (before ++ first.right ++ after) joined ∧
        grammar.Rewrites (before ++ middle ++ second.right ++ after') joined := by
  obtain ⟨c, firstLeft⟩ := deterministic.singleCharacter first firstMember
  obtain ⟨d, secondLeft⟩ := deterministic.singleCharacter second secondMember
  rw [firstLeft, secondLeft] at same
  cases middle with
  | nil =>
      obtain ⟨rfl, rfl⟩ : c = d ∧ after = after' := by simpa using same
      left
      rw [deterministic.production_eq firstMember secondMember
        (firstLeft.trans secondLeft.symm), List.append_nil]
  | cons e middle =>
      obtain ⟨rfl, rfl⟩ : c = e ∧ after = middle ++ [d] ++ after' := by simpa using same
      right
      rw [← secondLeft]
      simpa [firstLeft] using rewrites_apart firstMember secondMember before middle after'

/-- Two rewrites of one form are the same, or can be made one after the other. -/
theorem Deterministic.diamond
    (deterministic : grammar.Deterministic)
    {form next other : Text}
    (rewrites : grammar.Rewrites form next)
    (rewritesToo : grammar.Rewrites form other) :
    next = other ∨ ∃ joined, grammar.Rewrites next joined ∧ grammar.Rewrites other joined := by
  obtain ⟨first, firstMember, before, after, rfl, rfl⟩ := rewrites
  obtain ⟨second, secondMember, before', after', same, rfl⟩ := rewritesToo
  rw [List.append_assoc, List.append_assoc] at same
  -- The places are compared by what stands before them.
  rcases List.append_eq_append_iff.mp same with ⟨middle, rfl, rest⟩ | ⟨middle, rfl, rest⟩
  · exact deterministic.diamond_of_place_le firstMember secondMember before rest
  · rcases deterministic.diamond_of_place_le secondMember firstMember before' rest with
      sameForm | ⟨joined, left, right⟩
    · exact .inl sameForm.symm
    · exact .inr ⟨joined, right, left⟩

/-- A rewrite of any kind brings a derivation of a final form one step nearer to its end. -/
theorem Deterministic.derivesIn_of_rewrites
    (deterministic : grammar.Deterministic)
    {count : Nat}
    {form next last : Text}
    (final : grammar.IsFinal last)
    (derives : grammar.DerivesIn (count + 1) form last)
    (rewrites : grammar.Rewrites form next) :
    grammar.DerivesIn count next last := by
  induction count generalizing form next with
  | zero =>
      obtain _ | ⟨firstRewrite, rest⟩ := derives
      cases rest with
      | refl =>
          rcases deterministic.diamond rewrites firstRewrite with rfl | ⟨joined, _, beyond⟩
          · exact .refl next
          · exact absurd beyond (final.not_rewrites joined)
  | succ count inductionHypothesis =>
      obtain _ | ⟨firstRewrite, rest⟩ := derives
      rcases deterministic.diamond rewrites firstRewrite with rfl | ⟨joined, onward, meeting⟩
      · exact rest
      · exact .head onward (inductionHypothesis rest meeting)

end Diamond

/-! ## Lengths on the way -/

/-- Right sides of a well-formed grammar are not empty. -/
theorem WellFormed.length_right_pos
    {grammar : Grammar}
    (wellFormed : grammar.WellFormed)
    {production : Production}
    (member : production ∈ grammar.productions) :
    1 ≤ production.right.length := by
  have notBlank := (wellFormed.productionsSound production member).2
  apply List.length_pos_iff.mpr
  intro isEmpty
  simp [isEmpty] at notBlank

/-- A rewrite never makes a form shorter. -/
theorem Deterministic.length_le_of_rewrites
    {grammar : Grammar}
    (deterministic : grammar.Deterministic)
    (wellFormed : grammar.WellFormed)
    {form next : Text}
    (rewrites : grammar.Rewrites form next) :
    form.length ≤ next.length := by
  obtain ⟨production, member, before, after, rfl, rfl⟩ := rewrites
  obtain ⟨c, isLeft⟩ := deterministic.singleCharacter production member
  have positive := wellFormed.length_right_pos member
  simp only [isLeft, List.length_append, List.length_singleton]
  omega

/-- No form on the way to another is longer. -/
theorem Deterministic.length_le_of_derivesIn
    {grammar : Grammar}
    (deterministic : grammar.Deterministic)
    (wellFormed : grammar.WellFormed)
    {count : Nat}
    {form last : Text}
    (derives : grammar.DerivesIn count form last) :
    form.length ≤ last.length := by
  induction derives with
  | refl form => exact Nat.le_refl _
  | head rewrites _ inductionHypothesis =>
      exact Nat.le_trans (deterministic.length_le_of_rewrites wellFormed rewrites)
        inductionHypothesis

end Grammar

namespace Derivation

open Grammar

/-- The run towards a final form takes as many steps as any derivation of it, unless it is cut off
before. -/
theorem run_of_derivesIn
    {grammar : Grammar}
    (deterministic : grammar.Deterministic)
    (wellFormed : grammar.WellFormed)
    {word start : Text}
    (final : grammar.IsFinal word)
    {count : Nat}
    (derives : grammar.DerivesIn (count + 1) start word)
    (rounds : Nat) :
    if count + 1 ≤ rounds then
      (run grammar word rounds start).ending = .reached ∧
        (run grammar word rounds start).forms.length = count + 1
    else
      (run grammar word rounds start).ending = .cutOff ∧
        (run grammar word rounds start).forms.length = rounds := by
  induction rounds generalizing count start with
  | zero => simp [run]
  | succ rounds inductionHypothesis =>
      obtain ⟨next, stepped⟩ : ∃ next, grammar.step? start = some next := by
        obtain _ | ⟨firstRewrite, _⟩ := derives
        exact exists_step?_of_rewrites firstRewrite
      have rest := deterministic.derivesIn_of_rewrites final derives
        (rewrites_of_step? stepped)
      cases count with
      | zero =>
          cases rest with
          | refl => simp [run, stepped]
      | succ count =>
          have differs : next ≠ word := by
            rintro rfl
            obtain _ | ⟨onward, _⟩ := rest
            exact final.not_rewrites _ onward
          have short : outgrows next word = false := by
            have noLonger := deterministic.length_le_of_derivesIn wellFormed rest
            rw [Bool.eq_false_iff, Ne, outgrows_eq_true_iff]
            omega
          have further := inductionHypothesis rest
          simp only [run, stepped, if_neg differs, short, Bool.false_eq_true, if_false,
            Run.ending_after, Run.forms_after, List.length_cons, Nat.add_le_add_iff_right,
            Nat.add_right_cancel_iff]
          exact further

/-- For a deterministic grammar, a word in which no left side occurs and which some sequence of
rewrites derives from the start symbol, at any places and in any order, is accepted after exactly so
many steps, unless these are a hundred or more. -/
theorem validate_complete
    (grammar : Grammar)
    (word : Text)
    (wellFormed : grammar.WellFormed)
    (deterministic : grammar.Deterministic)
    (final : ∀ production ∈ grammar.productions, ¬production.left <:+: word)
    (count : Nat)
    (positive : 1 ≤ count)
    (derives : grammar.DerivesIn count grammar.startSymbol word) :
    (count ≤ 99 → ∃ given, validate grammar word = .ok given ∧ given.accepted = true ∧
        given.steps.length = count + 1) ∧
      (100 ≤ count → validate grammar word = .error .stepLimit) := by
  obtain ⟨fewer, rfl⟩ := Nat.exists_eq_add_of_le' positive
  have described := run_of_derivesIn deterministic wellFormed final derives roundLimit
  change if fewer + 1 ≤ 100 then
      (search grammar word).ending = .reached ∧
        (search grammar word).forms.length = fewer + 1
    else
      (search grammar word).ending = .cutOff ∧
        (search grammar word).forms.length = 100 at described
  rw [validate_of_wellFormed wellFormed]
  constructor
  · intro few
    rw [if_pos (by omega)] at described
    have rounds_eq : (search grammar word).rounds = fewer + 1 := by
      rw [Run.rounds, described.1, described.2]
    refine ⟨_, if_neg (by rw [rounds_eq, roundLimit]; omega), ?_, ?_⟩
    · exact (accepted_verdict _ _).mpr described.1
    · rw [length_steps_verdict, described.2]
  · intro many
    apply if_pos
    rw [roundLimit]
    refine Nat.le_trans ?_ (search grammar word).length_forms_le_rounds
    split at described <;> omega

/-- A derivation that rewrites `B` before `A`, where the engine rewrites `A` before `B`. -/
theorem validate_complete_otherOrder :
    let grammar : Grammar :=
      { terminals := [{ id := "t", value := "a" }]
        nonTerminals := [{ id := "n", value := "S" }, { id := "m", value := "A" },
          { id := "k", value := "B" }]
        startSymbol := "S"
        productions := [{ id := "p", left := "S", right := "BA" },
          { id := "q", left := "A", right := "a" }, { id := "r", left := "B", right := "ab" }] }
    (grammar.WellFormed ∧ grammar.Deterministic ∧
      (∀ production ∈ grammar.productions, ¬production.left <:+: "aba".toList) ∧
      grammar.DerivesIn 3 "S" "aba") ∧
    ∃ given, validate grammar "aba" = .ok given ∧ given.accepted = true ∧
      given.steps.length = 4 := by
  intro grammar
  have wellFormed : grammar.WellFormed := by decide
  have deterministic : grammar.Deterministic :=
    { singleCharacter := by simp [grammar]
      distinctLefts := by decide }
  have final : ∀ production ∈ grammar.productions, ¬production.left <:+: "aba".toList := by
    decide
  have rewrites (production : Production) (member : production ∈ grammar.productions)
      (before after : Text) :
      grammar.Rewrites (before ++ production.left ++ after)
        (before ++ production.right ++ after) :=
    ⟨production, member, before, after, rfl, rfl⟩
  have derives : grammar.DerivesIn 3 "S" "aba" :=
    .head (rewrites { id := "p", left := "S", right := "BA" } (by decide) [] [])
      (.head (rewrites { id := "r", left := "B", right := "ab" } (by decide) [] ['A'])
        (.head (rewrites { id := "q", left := "A", right := "a" } (by decide) ['a', 'b'] [])
          (.refl _)))
  refine ⟨⟨wellFormed, deterministic, final, derives⟩, ?_⟩
  exact (validate_complete grammar "aba" wellFormed deterministic final 3 (by decide)
    derives).1 (by decide)

end Derivation
end PhraseGrammar
