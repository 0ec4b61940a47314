import PhraseGrammar.Grammar.Basic
import PhraseGrammar.Grammar.Error
import PhraseGrammar.Text.Blank

/-!
# Well-formed grammars

A grammar is well formed when it has symbols of both classes, its start symbol is a nonterminal, it
has productions, and each of them leads from a nonterminal to a text that is not blank. Nothing is
asked of the names on right sides: a right side may mention symbols that were never declared.

`verify` is the gate in front of everything that works with a grammar as a whole.
-/

namespace PhraseGrammar

/-- A production that leads from a nonterminal of `grammar` to a text that is not blank. -/
def Production.Sound (grammar : Grammar) (production : Production) : Prop :=
  grammar.isNonTerminal production.left = true ∧ Text.isBlank production.right = false

instance (grammar : Grammar) (production : Production) :
    Decidable (production.Sound grammar) :=
  inferInstanceAs (Decidable (_ ∧ _))

namespace Grammar

/-- The structural requirements on a grammar. -/
structure WellFormed (grammar : Grammar) : Prop where
  terminalsNonempty : grammar.terminals ≠ []
  nonTerminalsNonempty : grammar.nonTerminals ≠ []
  startDeclared : grammar.isNonTerminal grammar.startSymbol = true
  productionsNonempty : grammar.productions ≠ []
  productionsSound : ∀ production ∈ grammar.productions, production.Sound grammar

theorem wellFormed_iff (grammar : Grammar) :
    grammar.WellFormed ↔
      grammar.terminals ≠ [] ∧ grammar.nonTerminals ≠ [] ∧
      grammar.isNonTerminal grammar.startSymbol = true ∧ grammar.productions ≠ [] ∧
      ∀ production ∈ grammar.productions, production.Sound grammar :=
  ⟨fun ⟨t, n, s, p, sound⟩ => ⟨t, n, s, p, sound⟩,
    fun ⟨t, n, s, p, sound⟩ => ⟨t, n, s, p, sound⟩⟩

instance (grammar : Grammar) : Decidable grammar.WellFormed :=
  decidable_of_iff' _ grammar.wellFormed_iff

/-- Refuse a grammar that is not well formed. -/
def verify (grammar : Grammar) : Except GrammarError Unit :=
  if grammar.WellFormed then .ok () else .error .notWellFormed

theorem verify_eq_ok_iff (grammar : Grammar) :
    grammar.verify = .ok () ↔ grammar.WellFormed := by
  unfold verify
  split <;> simp [*]

end Grammar
end PhraseGrammar
