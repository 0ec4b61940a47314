import PhraseGrammar.Proofs.Derivation.Correspondence
import PhraseGrammar.Proofs.Derivation.Rewriting

/-!
# Shadowed productions

A production is shadowed by an earlier one whose left side occurs in its own: wherever the later
production could be applied, the earlier one can be, and comes first. So a shadowed production is
never applied, and without it every word is validated as before. In particular only the first of
several productions for one nonterminal is ever used.
-/

namespace PhraseGrammar

/-- An entry that answers only where one in front of it answers too does not matter. -/
theorem findSome?_append_cons_of_shadowed
    {front : List α}
    {entry : α}
    {answer : α → Option β}
    (shadowed : front.findSome? answer = none → answer entry = none)
    (back : List α) :
    (front ++ entry :: back).findSome? answer = (front ++ back).findSome? answer := by
  rw [List.findSome?_append, List.findSome?_append]
  cases answered : front.findSome? answer with
  | some result => rw [Option.some_or, Option.some_or]
  | none =>
      have isNone := Option.isNone_iff_eq_none.mpr (shadowed answered)
      rw [List.findSome?_cons_of_isNone isNone]

/-- A production cannot be applied where one whose left side occurs in its own cannot. -/
theorem Production.applyFirst?_eq_none_of_isInfix
    {shadowing shadowed : Production}
    (occurs : shadowing.left <:+: shadowed.left)
    {form : Text}
    (notApplied : shadowing.applyFirst? form = none) :
    shadowed.applyFirst? form = none := by
  rw [applyFirst?_eq_none_iff] at notApplied ⊢
  exact fun found => notApplied (occurs.trans found)

namespace Grammar

/-- The grammar without the production at an index. -/
def withoutProduction (grammar : Grammar) (index : Nat) : Grammar :=
  { grammar with productions := grammar.productions.eraseIdx index }

section Shadowed

variable {grammar : Grammar} {earlier later : Nat}
  (inOrder : earlier < later)
  (inRange : later < grammar.productions.length)

include inOrder inRange

/-- The steps of a grammar are the same without a shadowed production. -/
theorem step?_withoutProduction
    (occurs : grammar.productions[earlier].left <:+: grammar.productions[later].left) :
    (grammar.withoutProduction later).step? = grammar.step? := by
  funext form
  have isBefore : grammar.productions[earlier] ∈ grammar.productions.take later :=
    List.mem_take_iff_getElem.mpr ⟨earlier, by omega, rfl⟩
  have shadowed :
      (grammar.productions.take later).findSome? (·.applyFirst? form) = none →
        grammar.productions[later].applyFirst? form = none := by
    intro noneApplied
    have notApplied := List.findSome?_eq_none_iff.mp noneApplied _ isBefore
    exact Production.applyFirst?_eq_none_of_isInfix occurs notApplied
  rw [step?, step?, withoutProduction, List.eraseIdx_eq_take_drop_succ,
    ← findSome?_append_cons_of_shadowed shadowed, List.getElem_cons_drop, List.take_append_drop]

/-- With another production before it, a production can be removed. -/
theorem wellFormed_withoutProduction
    (wellFormed : grammar.WellFormed) :
    (grammar.withoutProduction later).WellFormed where
  terminalsNonempty := wellFormed.terminalsNonempty
  nonTerminalsNonempty := wellFormed.nonTerminalsNonempty
  startDeclared := wellFormed.startDeclared
  productionsNonempty := by
    rw [withoutProduction, ← List.length_pos_iff, List.length_eraseIdx_of_lt inRange]
    omega
  productionsSound production member :=
    wellFormed.productionsSound production (List.mem_of_mem_eraseIdx member)

end Shadowed
end Grammar

namespace Derivation

/-- A production with the left side of an earlier one in its own can be removed from a well-formed
grammar: every word is validated with the same result. -/
theorem validate_withoutProduction
    (grammar : Grammar)
    (wellFormed : grammar.WellFormed)
    (earlier later : Nat)
    (inOrder : earlier < later)
    (inRange : later < grammar.productions.length)
    (occurs : grammar.productions[earlier].left <:+: grammar.productions[later].left)
    (word : Text) :
    validate (grammar.withoutProduction later) word = validate grammar word := by
  have wellFormed' := Grammar.wellFormed_withoutProduction inOrder inRange wellFormed
  exact validate_congr (iff_of_true wellFormed' wellFormed) rfl
    (Grammar.step?_withoutProduction inOrder inRange occurs) word

/-- `BAB` occurs in `BABA` further to the left than `A`, but it is never exchanged, since `A` occurs
in it. -/
theorem validate_withoutProduction_overlapping :
    let grammar : Grammar :=
      { terminals := [{ id := "t", value := "a" }]
        nonTerminals := [{ id := "n", value := "S" }, { id := "m", value := "A" },
          { id := "k", value := "BAB" }]
        startSymbol := "S"
        productions := [{ id := "p", left := "S", right := "BABA" },
          { id := "q", left := "A", right := "a" }, { id := "r", left := "BAB", right := "b" }] }
    let given : Verdict :=
      { accepted := true
        steps := [⟨"S", 0⟩, ⟨"BABA", 1⟩, ⟨"BaBA", 2⟩, ⟨"BaBa", 3⟩]
        finalForm := "BaBa" }
    grammar.WellFormed ∧ "A".toList <:+: "BAB".toList ∧
      (grammar.withoutProduction 2).productions = grammar.productions.take 2 ∧
      validate grammar "BaBa" = .ok given ∧
      validate (grammar.withoutProduction 2) "BaBa" = .ok given := by
  intro grammar given
  have wellFormed : grammar.WellFormed := by decide
  have occurs : "A".toList <:+: "BAB".toList := ⟨['B'], ['B'], rfl⟩
  have validated : validate grammar "BaBa" = .ok given := by decide
  refine ⟨wellFormed, occurs, rfl, validated, ?_⟩
  rw [← validated]
  exact validate_withoutProduction grammar wellFormed 1 2 (by decide) (by decide) occurs "BaBa"

end Derivation
end PhraseGrammar
