import PhraseGrammar.Derivation.Validate
import PhraseGrammar.Document.Read
import PhraseGrammar.Tree.Basic

/-!
# Stored records

How the things that are kept between runs are written as values, and got back from them. Values that
fit the schema are exactly those that something is written as; what is got from any other value is
of no account.
-/

namespace PhraseGrammar
namespace Document

open Json

/-- Things that are stored as values of a schema. -/
class Stored (α : Type) where
  schema : Schema
  toValue : α -> Value
  ofValue : Value -> α

/-- Things stored in order, as a list. -/
def listOf [Stored α] (items : List α) : Value := .list (items.map Stored.toValue)

/-- The things stored in a list. -/
def itemsOf [Stored α] : Value -> List α
  | .list items => items.map Stored.ofValue
  | _ => []

instance : Stored Symbol where
  schema := .record .symbol
  toValue symbol := .record [("id", .text symbol.id), ("value", .text symbol.value)]
  ofValue
    | .record [(_, .text id), (_, .text value)] => { id, value }
    | _ => { id := [], value := [] }

instance : Stored Production where
  schema := .record .production
  toValue production :=
    .record [("id", .text production.id), ("left", .text production.left),
      ("right", .text production.right)]
  ofValue
    | .record [(_, .text id), (_, .text left), (_, .text right)] => { id, left, right }
    | _ => { id := [], left := [], right := [] }

instance : Stored Grammar where
  schema := .record .grammar
  toValue grammar :=
    .record [("terminals", listOf grammar.terminals),
      ("nonTerminals", listOf grammar.nonTerminals),
      ("startSymbol", .text grammar.startSymbol),
      ("productions", listOf grammar.productions)]
  ofValue
    | .record [(_, terminals), (_, nonTerminals), (_, .text startSymbol), (_, productions)] =>
        { terminals := itemsOf terminals
          nonTerminals := itemsOf nonTerminals
          startSymbol
          productions := itemsOf productions }
    | _ => { terminals := [], nonTerminals := [], startSymbol := [], productions := [] }

instance : Stored DerivationStep where
  schema := .record .step
  toValue step :=
    .record [("symbol", .text step.form), ("step", .number (.natural step.place.toNat))]
  ofValue
    | .record [(_, .text form), (_, .number (.natural place))] =>
        { form, place := UInt64.ofNat place }
    | _ => { form := [], place := 0 }

instance : Stored Verdict where
  schema := .record .verdict
  toValue verdict :=
    .record [("isValid", .flag verdict.accepted), ("steps", listOf verdict.steps),
      ("finalDerivation", .text verdict.finalForm)]
  ofValue
    | .record [(_, .flag accepted), (_, steps), (_, .text finalForm)] =>
        { accepted, steps := itemsOf steps, finalForm }
    | _ => { accepted := false, steps := [], finalForm := [] }

mutual

/-- The value that a tree is stored as. -/
def valueOfTree : LabelledTree -> Value
  | .node root children =>
      .record [("id", .text root.id), ("node", .text root.label),
        ("children", .list (valuesOfForest children))]

/-- The values that the trees of a list are stored as. -/
def valuesOfForest : List LabelledTree -> List Value
  | [] => []
  | tree :: rest => valueOfTree tree :: valuesOfForest rest

end

mutual

/-- The tree stored as a value. -/
def treeOfValue : Value -> LabelledTree
  | .record [(_, .text id), (_, .text label), (_, .list children)] =>
      .node { id, label } (forestOfValues children)
  | _ => .node { id := [], label := [] } []

/-- The trees stored as the values of a list. -/
def forestOfValues : List Value -> List LabelledTree
  | [] => []
  | value :: rest => treeOfValue value :: forestOfValues rest

end

instance : Stored LabelledTree where
  schema := .record .tree
  toValue := valueOfTree
  ofValue := treeOfValue

/-- Read a text that holds one stored record. -/
def parse (α : Type) [Stored α] (text : Text) : Except Malformed α :=
  (readText (Stored.schema α) text).map Stored.ofValue

end Document
end PhraseGrammar
