import PhraseGrammar.Grammar.WellFormed

/-!
# Edits

The seven changes that can be made to a grammar. An edit is first checked against the grammar and
then performed; a grammar is never changed in place, and a failed edit yields no grammar at all.
The check looks at the index first, then at the value.

Names are unique within a class only: a terminal and a nonterminal may share a name. Renaming a
nonterminal carries along the left sides and the start symbol that use its old name; right sides
stay as they are.

The three additions put a new entry into the grammar, which needs an identifier. No identifier is
taken for the other edits, nor for an addition that is not allowed.
-/

namespace PhraseGrammar

/-- The two sides of a production. -/
inductive Side
  | left
  | right
  deriving DecidableEq, Repr

/-- A change to a grammar. -/
inductive Edit
  | addTerminal (value : Text)
  | addNonTerminal (value : Text)
  | addProduction (left right : Text)
  | updateTerminal (index : Nat) (value : Text)
  | updateNonTerminal (index : Nat) (value : Text)
  | updateProduction (index : Nat) (side : Side) (value : Text)
  | updateStartSymbol (value : Text)
  deriving DecidableEq, Repr

namespace Grammar

/-- Refuse an index at which a list has no entry. -/
def checkIndex (entryClass : EntryClass) (entries : List α) (index : Nat) :
    Except GrammarError Unit :=
  if index < entries.length then .ok () else .error (.noEntry entryClass index)

/-- Refuse a blank name, and a name that one of `others` has. -/
def checkName (symbolClass : SymbolClass) (others : List Symbol) (value : Text) :
    Except GrammarError Unit :=
  if Text.isBlank value then .error (.blankSymbol symbolClass)
  else if others.any (fun symbol => symbol.value == value) then
    .error (.duplicateSymbol value)
  else .ok ()

/-- Refuse a left side that is no nonterminal. -/
def checkLeft (grammar : Grammar) (left : Text) : Except GrammarError Unit :=
  if grammar.isNonTerminal left then .ok () else .error (.unknownLeft left)

/-- Refuse a blank right side. -/
def checkRight (right : Text) : Except GrammarError Unit :=
  if Text.isBlank right then .error .blankRight else .ok ()

/-- Give the new name to the nonterminal at `index`, and to every left side and start symbol that
uses its old one. -/
def renameNonTerminal (grammar : Grammar) (index : Nat) (value : Text) : Grammar :=
  match grammar.nonTerminals[index]? with
  | none => grammar
  | some symbol =>
      { grammar with
        nonTerminals := grammar.nonTerminals.modify index fun s => { s with value }
        startSymbol := if grammar.startSymbol = symbol.value then value else grammar.startSymbol
        productions := grammar.productions.map fun production =>
          if production.left = symbol.value then { production with left := value }
          else production }

end Grammar

/-- Exchange one side of a production. -/
def Production.withSide (production : Production) : Side -> Text -> Production
  | .left, value => { production with left := value }
  | .right, value => { production with right := value }

namespace Edit

/-- Refuse an edit that the grammar does not allow. A symbol may be given the name it already has,
so the check for duplicates passes over its own index. -/
def check (grammar : Grammar) : Edit -> Except GrammarError Unit
  | addTerminal value => Grammar.checkName .terminal grammar.terminals value
  | addNonTerminal value => Grammar.checkName .nonTerminal grammar.nonTerminals value
  | addProduction left right => do
      grammar.checkLeft left
      Grammar.checkRight right
  | updateTerminal index value => do
      Grammar.checkIndex (.symbol .terminal) grammar.terminals index
      Grammar.checkName .terminal (grammar.terminals.eraseIdx index) value
  | updateNonTerminal index value => do
      Grammar.checkIndex (.symbol .nonTerminal) grammar.nonTerminals index
      Grammar.checkName .nonTerminal (grammar.nonTerminals.eraseIdx index) value
  | updateProduction index side value => do
      Grammar.checkIndex .production grammar.productions index
      match side with
      | .left => grammar.checkLeft value
      | .right => Grammar.checkRight value
  | updateStartSymbol value =>
      if grammar.isNonTerminal value then .ok () else .error (.unknownStart value)

/-- Make the change without asking whether it is allowed. A new entry goes to the end of its list
under the identifier `id`; an entry that is changed keeps its own. -/
def perform (id : Text) (grammar : Grammar) : Edit -> Grammar
  | addTerminal value =>
      { grammar with terminals := grammar.terminals ++ [{ id, value }] }
  | addNonTerminal value =>
      { grammar with nonTerminals := grammar.nonTerminals ++ [{ id, value }] }
  | addProduction left right =>
      { grammar with productions := grammar.productions ++ [{ id, left, right }] }
  | updateTerminal index value =>
      { grammar with terminals := grammar.terminals.modify index fun s => { s with value } }
  | updateNonTerminal index value => grammar.renameNonTerminal index value
  | updateProduction index side value =>
      { grammar with
        productions := grammar.productions.modify index fun production =>
          production.withSide side value }
  | updateStartSymbol value => { grammar with startSymbol := value }

/-- Check the edit, and make the change if it is allowed. -/
def apply (edit : Edit) (id : Text) (grammar : Grammar) : Except GrammarError Grammar := do
  edit.check grammar
  return edit.perform id grammar

/-- Whether the edit puts a new entry into the grammar. -/
def isAddition : Edit -> Bool
  | addTerminal _ => true
  | addNonTerminal _ => true
  | addProduction _ _ => true
  | updateTerminal _ _ => false
  | updateNonTerminal _ _ => false
  | updateProduction _ _ _ => false
  | updateStartSymbol _ => false

/-- An identifier for the entry that the edit puts into the grammar. If there will be no such entry,
none is taken; the text that stands for it is not used. -/
def newId (edit : Edit) (grammar : Grammar) : Supply.Taking Text :=
  if edit.isAddition && (edit.check grammar).isOk then Supply.take else return []

/-- Apply the edit, with a new identifier if there is a new entry. -/
def applyTaking (edit : Edit) (grammar : Grammar) :
    Supply.Taking (Except GrammarError Grammar) := do
  return edit.apply (← edit.newId grammar) grammar

theorem applyTaking_eq (edit : Edit) (grammar : Grammar) (supply : Supply) :
    edit.applyTaking grammar supply =
      (edit.apply (edit.newId grammar supply).1 grammar, (edit.newId grammar supply).2) := rfl

/-- An edit succeeds exactly when its check does, and then its result is the change itself. -/
theorem apply_eq_ok_iff (edit : Edit) (id : Text) (grammar edited : Grammar) :
    edit.apply id grammar = .ok edited ↔
      edit.check grammar = .ok () ∧ edited = edit.perform id grammar := by
  simp only [apply, bind, Except.bind, pure, Except.pure]
  cases edit.check grammar <;> simp [eq_comm]

end Edit
end PhraseGrammar
