import PhraseGrammar.Grammar.Edit

/-!
# Commands

What the program can be told to do, and how each command is given: by the name of a subcommand,
followed by its operands.
-/

namespace PhraseGrammar
namespace CommandLine

/-- What the program is told to do. -/
inductive Command
  | overview
  | validate (word : Text)
  | trees
  | edit (edit : Edit)
  | reset
  | systemInfo
  deriving DecidableEq, Repr

/-- The kinds of operands. -/
inductive OperandKind
  | text
  | index
  | side
  deriving DecidableEq, Repr

/-- An operand that is of its kind. -/
inductive Operand
  | text (value : Text)
  | index (value : Nat)
  | side (value : Side)
  deriving DecidableEq, Repr

/-- The subcommands. -/
inductive Subcommand
  | overview
  | validate
  | trees
  | addTerminal
  | addNonTerminal
  | addProduction
  | updateTerminal
  | updateNonTerminal
  | updateProduction
  | updateStartSymbol
  | reset
  | systemInfo
  deriving DecidableEq, Repr

namespace Subcommand

/-- All subcommands. -/
def all : List Subcommand :=
  [overview, validate, trees, addTerminal, addNonTerminal, addProduction, updateTerminal,
    updateNonTerminal, updateProduction, updateStartSymbol, reset, systemInfo]

/-- The name of a subcommand. -/
def name : Subcommand -> Text
  | overview => "show"
  | validate => "validate"
  | trees => "trees"
  | addTerminal => "add-terminal"
  | addNonTerminal => "add-non-terminal"
  | addProduction => "add-production"
  | updateTerminal => "update-terminal"
  | updateNonTerminal => "update-non-terminal"
  | updateProduction => "update-production"
  | updateStartSymbol => "set-start"
  | reset => "reset"
  | systemInfo => "info"

/-- The subcommand of a name. -/
def named? (name : Text) : Option Subcommand :=
  all.find? fun subcommand => subcommand.name == name

/-- The operands that a subcommand requires. -/
def operands : Subcommand -> List OperandKind
  | overview | trees | reset | systemInfo => []
  | validate | addTerminal | addNonTerminal | updateStartSymbol => [.text]
  | addProduction => [.text, .text]
  | updateTerminal | updateNonTerminal => [.index, .text]
  | updateProduction => [.index, .side, .text]

/-- The command that a subcommand gives with its operands, if they are all there. -/
def command? : Subcommand -> List Operand -> Option Command
  | overview, [] => some .overview
  | validate, [.text word] => some (.validate word)
  | trees, [] => some .trees
  | addTerminal, [.text value] => some (.edit (.addTerminal value))
  | addNonTerminal, [.text value] => some (.edit (.addNonTerminal value))
  | addProduction, [.text left, .text right] => some (.edit (.addProduction left right))
  | updateTerminal, [.index index, .text value] =>
      some (.edit (.updateTerminal index value))
  | updateNonTerminal, [.index index, .text value] =>
      some (.edit (.updateNonTerminal index value))
  | updateProduction, [.index index, .side side, .text value] =>
      some (.edit (.updateProduction index side value))
  | updateStartSymbol, [.text value] => some (.edit (.updateStartSymbol value))
  | reset, [] => some .reset
  | systemInfo, [] => some .systemInfo
  | _, _ => none

end Subcommand
end CommandLine
end PhraseGrammar
