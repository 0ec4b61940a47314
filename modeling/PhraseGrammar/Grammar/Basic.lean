import PhraseGrammar.Ident

/-!
# Phrase-structure grammars

A grammar has terminals, nonterminals, a start symbol and an ordered list of productions. Symbols
are named by texts of any length, and nothing is required of a grammar by its type: a production may
have a left side that is no nonterminal, and names may be repeated or blank. `Grammar.WellFormed`
says when a grammar can be worked with.

Every entry carries an identifier, which stays with it through edits.
-/

namespace PhraseGrammar

/-- A terminal or a nonterminal; which of the two depends on the list it stands in. -/
structure Symbol where
  id : Text
  value : Text
  deriving DecidableEq, Repr

/-- A rule that allows an occurrence of `left` to be exchanged for `right`. -/
structure Production where
  id : Text
  left : Text
  right : Text
  deriving DecidableEq, Repr

/-- A grammar, with its entries in the order in which they were declared. -/
structure Grammar where
  terminals : List Symbol
  nonTerminals : List Symbol
  startSymbol : Text
  productions : List Production
  deriving DecidableEq, Repr

/-- A symbol with a new identifier. -/
def Symbol.create (value : Text) : Supply.Taking Symbol := do
  return { id := ← Supply.take, value }

/-- A production with a new identifier. -/
def Production.create (left right : Text) : Supply.Taking Production := do
  return { id := ← Supply.take, left, right }

namespace Grammar

/-- Whether `value` names a nonterminal of the grammar. -/
def isNonTerminal (grammar : Grammar) (value : Text) : Bool :=
  grammar.nonTerminals.any fun symbol => symbol.value == value

/-- The grammar to begin with: `S -> aA`, `A -> bB` and `B -> ab` over the terminals `a` and `b`,
with new identifiers throughout. -/
def initial : Supply.Taking Grammar := do
  let a ← Symbol.create "a"
  let b ← Symbol.create "b"
  let start ← Symbol.create "S"
  let first ← Symbol.create "A"
  let second ← Symbol.create "B"
  let fromStart ← Production.create "S" "aA"
  let fromFirst ← Production.create "A" "bB"
  let fromSecond ← Production.create "B" "ab"
  return {
    terminals := [a, b]
    nonTerminals := [start, first, second]
    startSymbol := "S"
    productions := [fromStart, fromFirst, fromSecond] }

/-- The line that shows a production with its number. -/
def renderProduction (index : Nat) (production : Production) : Text :=
  "  [" ++ Text.ofNat index ++ "] " ++ production.left ++ " -> " ++ production.right ++ "\n"

/-- A list of symbols between braces. -/
def renderSymbols (symbols : List Symbol) : Text :=
  "\x7b" ++ Text.joined ", " (symbols.map Symbol.value) ++ "\x7d"

/-- The grammar as it is shown: its symbols, its start symbol, and its productions by number. -/
def render (grammar : Grammar) : Text :=
  "T = " ++ renderSymbols grammar.terminals ++ "\n" ++
  "N = " ++ renderSymbols grammar.nonTerminals ++ "\n" ++
  "S = " ++ grammar.startSymbol ++ "\n" ++
  "P = \x7b\n" ++ (grammar.productions.mapIdx renderProduction).flatten ++ "\x7d"

end Grammar
end PhraseGrammar
