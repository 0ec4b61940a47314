import PhraseGrammar.Grammar.WellFormed
import PhraseGrammar.Tree.Basic

/-!
# The general tree of a grammar

The general tree shows which right sides can follow from the start symbol, three levels deep. A
nonterminal in a right side gets no node of its own: the right sides of its productions hang
straight below the right side that mentions it, in the order in which it is mentioned. Only
nonterminals that are named by a single character can be mentioned in this sense.
-/

namespace PhraseGrammar
namespace Grammar

/-- The number of levels below the root of a general tree. -/
def expansionLevels : Nat := 3

/-- The right sides of the productions of `symbol`, each above the expansions of the nonterminals in
it, down to the given number of levels. -/
def expand (grammar : Grammar) : (levels : Nat) -> (symbol : Text) -> List (Tree Text)
  | 0, _ => []
  | levels + 1, symbol =>
      (grammar.productions.filter fun production => production.left == symbol).map
        fun production =>
          .node production.right <| production.right.flatMap fun c =>
            if grammar.isNonTerminal [c] then expand grammar levels [c] else []

/-- The general tree of a well-formed grammar. -/
def generalTree (grammar : Grammar) : Except GrammarError (Tree Text) := do
  grammar.verify
  return .node grammar.startSymbol (grammar.expand expansionLevels grammar.startSymbol)

end Grammar
end PhraseGrammar
