import PhraseGrammar.Proofs.Derivation.Correspondence
import PhraseGrammar.Proofs.Grammar.Validity
import PhraseGrammar.Proofs.Tree.Expansion

/-!
# What the alphabet is for

The terminals and nonterminals decide whether a grammar is well formed. Beyond that they decide
nothing: the verdicts and the general tree of a well-formed grammar are given by its start symbol
and its productions. The expansion does ask of each character whether it is a nonterminal, but a
character that has productions always is, and one without has no expansion either way.

So an edit that only declares a symbol, or renames a terminal, changes no verdict and no tree, even
if right sides mention the name.
-/

namespace PhraseGrammar

/-- An edit that adds a terminal or a nonterminal, or renames a terminal. -/
inductive Edit.OfAlphabet : Edit → Prop
  | addTerminal (value : Text) : OfAlphabet (.addTerminal value)
  | addNonTerminal (value : Text) : OfAlphabet (.addNonTerminal value)
  | updateTerminal (index : Nat) (value : Text) : OfAlphabet (.updateTerminal index value)

/-- Such an edit leaves the start symbol and the productions alone. -/
theorem Edit.OfAlphabet.frame
    {edit : Edit}
    (ofAlphabet : edit.OfAlphabet)
    (id : Text)
    (grammar : Grammar) :
    (edit.perform id grammar).startSymbol = grammar.startSymbol ∧
      (edit.perform id grammar).productions = grammar.productions := by
  cases ofAlphabet with
  | addTerminal | addNonTerminal | updateTerminal => exact ⟨rfl, rfl⟩

namespace Grammar

variable {grammar other : Grammar}

/-- Steps are taken by the productions alone. -/
theorem step?_congr (sameProductions : other.productions = grammar.productions) :
    other.step? = grammar.step? := by
  funext form
  rw [step?, step?, sameProductions]

section WellFormed

variable (wellFormed : grammar.WellFormed) (wellFormed' : other.WellFormed)
  (sameProductions : other.productions = grammar.productions)

include wellFormed wellFormed' sameProductions

/-- Well-formed grammars with the same productions expand every symbol to the same trees. -/
theorem expand_congr (levels : Nat) (symbol : Text) :
    other.expand levels symbol = grammar.expand levels symbol := by
  induction levels generalizing symbol with
  | zero => rfl
  | succ levels inductionHypothesis =>
      rw [expand_succ wellFormed', expand_succ wellFormed, sameProductions]
      simp only [inductionHypothesis]

/-- Well-formed grammars with the same start symbol and productions have the same general tree. -/
theorem generalTree_congr (sameStart : other.startSymbol = grammar.startSymbol) :
    other.generalTree = grammar.generalTree := by
  rw [generalTree_of_wellFormed wellFormed', generalTree_of_wellFormed wellFormed, sameStart,
    expand_congr wellFormed wellFormed' sameProductions]

end WellFormed
end Grammar

namespace Edit

/-- Adding a terminal or a nonterminal to a well-formed grammar, or renaming a terminal, changes
neither the verdict on any word nor the general tree. -/
theorem analyses_eq_of_ofAlphabet
    (grammar edited : Grammar)
    (wellFormed : grammar.WellFormed)
    (edit : Edit)
    (ofAlphabet : edit.OfAlphabet)
    (id : Text)
    (succeeds : edit.apply id grammar = .ok edited) :
    (∀ word, Derivation.validate edited word = Derivation.validate grammar word) ∧
      edited.generalTree = grammar.generalTree := by
  obtain ⟨allowed, rfl⟩ := (apply_eq_ok_iff _ _ _ _).mp succeeds
  have wellFormed' := wellFormed_perform wellFormed allowed id
  obtain ⟨sameStart, sameProductions⟩ := ofAlphabet.frame id grammar
  constructor
  · exact Derivation.validate_congr (iff_of_true wellFormed' wellFormed) sameStart
      (Grammar.step?_congr sameProductions)
  · exact Grammar.generalTree_congr wellFormed wellFormed' sameProductions sameStart

/-- The character `b` stands in right sides of the initial grammar. Declared as a nonterminal, it is
looked up in the expansion, but there is nothing below it. -/
theorem analyses_eq_of_ofAlphabet_mentioned :
    let grammar := (Grammar.initial (.ofSeed 0)).1
    let edited := (addNonTerminal "b").perform "n" grammar
    let given : Verdict :=
      { accepted := true
        steps := [⟨"S", 0⟩, ⟨"aA", 1⟩, ⟨"abB", 2⟩, ⟨"abab", 3⟩]
        finalForm := "abab" }
    grammar.WellFormed ∧ (addNonTerminal "b").apply "n" grammar = .ok edited ∧
      grammar.isNonTerminal "b" = false ∧ edited.isNonTerminal "b" = true ∧
      Derivation.validate edited "abab" = .ok given ∧
      edited.generalTree = .ok (.node "S" [.node "aA" [.node "bB" [.node "ab" []]]]) := by
  intro grammar edited given
  have wellFormed : grammar.WellFormed := (Grammar.valid_initial _).toWellFormed
  have succeeds : (addNonTerminal "b").apply "n" grammar = .ok edited := rfl
  have validated : Derivation.validate grammar "abab" = .ok given := by decide
  obtain ⟨sameVerdict, sameTree⟩ :=
    analyses_eq_of_ofAlphabet grammar edited wellFormed (addNonTerminal "b") (.addNonTerminal "b")
      "n" succeeds
  exact ⟨wellFormed, succeeds, rfl, rfl, (sameVerdict "abab").trans validated, sameTree⟩

end Edit
end PhraseGrammar
