import PhraseGrammar.Text.Basic

/-!
# What can go wrong with a grammar

The errors of the operations on grammars, each with what it is about, and the sentence that reports
it. Errors of one kind count as alike whatever they are about, so that a caller can ask which kind
of error it has met.
-/

namespace PhraseGrammar

/-- The two classes of symbols. -/
inductive SymbolClass
  | terminal
  | nonTerminal
  deriving DecidableEq, Repr

namespace SymbolClass

/-- What a symbol of the class is called. -/
def noun : SymbolClass -> Text
  | terminal => "terminal"
  | nonTerminal => "nonterminal"

end SymbolClass

/-- A list of entries in a grammar, known by what an entry of it is called. -/
structure EntryClass where
  noun : Text
  deriving DecidableEq, Repr

namespace EntryClass

/-- The list of the symbols of a class. -/
def symbol (symbolClass : SymbolClass) : EntryClass := { noun := symbolClass.noun }

/-- The list of the productions. -/
def production : EntryClass := { noun := "production" }

end EntryClass

/-- Why an operation on a grammar fails. -/
inductive GrammarError
  /-- The grammar does not meet the structural requirements. -/
  | notWellFormed
  /-- A symbol was given a blank name. -/
  | blankSymbol (symbolClass : SymbolClass)
  /-- A symbol of the same class has the name already. -/
  | duplicateSymbol (value : Text)
  /-- The start symbol must be a nonterminal. -/
  | unknownStart (value : Text)
  /-- The left side of a production must be a nonterminal. -/
  | unknownLeft (value : Text)
  /-- The right side of a production must not be blank. -/
  | blankRight
  /-- The derivation ran out of steps. -/
  | stepLimit
  /-- No entry of the class has the index. -/
  | noEntry (entryClass : EntryClass) (index : Nat)
  deriving DecidableEq, Repr

namespace GrammarError

/-- The kinds by which errors are compared; both faults of a production are of one kind. -/
inductive Kind
  | notWellFormed
  | blankSymbol
  | duplicateSymbol
  | unknownStart
  | faultyProduction
  | stepLimit
  | noEntry
  deriving DecidableEq, Repr

/-- The kind of an error. -/
def kind : GrammarError -> Kind
  | notWellFormed => .notWellFormed
  | blankSymbol _ => .blankSymbol
  | duplicateSymbol _ => .duplicateSymbol
  | unknownStart _ => .unknownStart
  | unknownLeft _ => .faultyProduction
  | blankRight => .faultyProduction
  | stepLimit => .stepLimit
  | noEntry _ _ => .noEntry

/-- Whether two errors are of one kind. -/
def alike (first second : GrammarError) : Bool := first.kind == second.kind

/-- The sentence that reports an error. -/
def message : GrammarError -> Text
  | notWellFormed => "The grammar is not well formed"
  | blankSymbol symbolClass => "Empty " ++ symbolClass.noun ++ " symbols are not allowed"
  | duplicateSymbol value => "The symbol `" ++ value ++ "` already exists in the grammar"
  | unknownStart value => "The start symbol `" ++ value ++ "` is not a nonterminal"
  | unknownLeft value =>
      "The left side `" ++ value ++ "` of a production must be a nonterminal"
  | blankRight => "The right side of a production can not be empty"
  | stepLimit => "Exceeded the maximum number of derivation steps"
  | noEntry entryClass index => "No " ++ entryClass.noun ++ " at index " ++ Text.ofNat index

end GrammarError
end PhraseGrammar
