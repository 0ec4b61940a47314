import PhraseGrammar.Json.Fault

/-!
# Schemas

What the parts of a stored document look like. Records are of six kinds, each with a title for
messages and a list of named fields; the kind of trees refers to itself through the list of
children.
-/

namespace PhraseGrammar
namespace Document

/-- The kinds of records. -/
inductive RecordKind
  | symbol
  | production
  | grammar
  | step
  | verdict
  | tree
  deriving DecidableEq, Repr

/-- What a value has to be. -/
inductive Schema
  | text
  | flag
  | count
  | list (item : Schema)
  | record (kind : RecordKind)
  deriving DecidableEq, Repr

namespace RecordKind

/-- What messages call a record of the kind. -/
def title : RecordKind -> Text
  | symbol => "Symbol"
  | production => "Production"
  | grammar => "Grammar"
  | step => "DerivationStep"
  | verdict => "ValidationResult"
  | tree => "TreeNode"

/-- The fields of a record of the kind, in the order in which they are written. -/
def fields : RecordKind -> List (Text × Schema)
  | symbol => [("id", .text), ("value", .text)]
  | production => [("id", .text), ("left", .text), ("right", .text)]
  | grammar =>
      [("terminals", .list (.record symbol)), ("nonTerminals", .list (.record symbol)),
        ("startSymbol", .text), ("productions", .list (.record production))]
  | step => [("symbol", .text), ("step", .count)]
  | verdict =>
      [("isValid", .flag), ("steps", .list (.record step)), ("finalDerivation", .text)]
  | tree => [("id", .text), ("node", .text), ("children", .list (.record tree))]

end RecordKind

/-- How messages name what a schema asks for. -/
def Schema.wanted : Schema -> Json.Wanted
  | text => .text
  | flag => .flag
  | count => .count
  | list _ => .list
  | record kind => .record kind.title

end Document
end PhraseGrammar
