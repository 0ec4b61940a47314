import Mathlib.Data.List.InsertIdx
import PhraseGrammar.Grammar.Edit
import PhraseGrammar.Proofs.Derivation.Correspondence
import PhraseGrammar.Tree.Expansion

/-!
# Grammars without their identifiers

Identifiers are carried along and never looked at. So a grammar whose identifiers are blotted out
validates the same words with the same verdicts, has the same general tree, and allows the same
edits; and what comes out of an edit is the same but for the identifiers.
-/

namespace PhraseGrammar

/-- The symbol with nothing for an identifier. -/
def Symbol.withoutId (symbol : Symbol) : Symbol := { symbol with id := [] }

/-- The production with nothing for an identifier. -/
def Production.withoutId (production : Production) : Production := { production with id := [] }

namespace Grammar

/-- The grammar with nothing for the identifiers of its entries. -/
def withoutIds (grammar : Grammar) : Grammar :=
  { grammar with
    terminals := grammar.terminals.map Symbol.withoutId
    nonTerminals := grammar.nonTerminals.map Symbol.withoutId
    productions := grammar.productions.map Production.withoutId }

section Fields

variable (grammar : Grammar)

@[simp] theorem terminals_withoutIds :
    grammar.withoutIds.terminals = grammar.terminals.map Symbol.withoutId := rfl

@[simp] theorem nonTerminals_withoutIds :
    grammar.withoutIds.nonTerminals = grammar.nonTerminals.map Symbol.withoutId := rfl

@[simp] theorem startSymbol_withoutIds : grammar.withoutIds.startSymbol = grammar.startSymbol := rfl

@[simp] theorem productions_withoutIds :
    grammar.withoutIds.productions = grammar.productions.map Production.withoutId := rfl

end Fields

/-- The initial grammar is the same whichever identifiers its entries take. -/
theorem withoutIds_initial (supply supply' : Supply) :
    (initial supply).1.withoutIds = (initial supply').1.withoutIds := by
  have same (supply : Supply) : (initial supply).1.withoutIds =
      { terminals := [⟨[], "a"⟩, ⟨[], "b"⟩]
        nonTerminals := [⟨[], "S"⟩, ⟨[], "A"⟩, ⟨[], "B"⟩]
        startSymbol := "S"
        productions := [⟨[], "S", "aA"⟩, ⟨[], "A", "bB"⟩, ⟨[], "B", "ab"⟩] } := rfl
  rw [same, same]

/-! ## What is asked of a grammar -/

@[simp] theorem isNonTerminal_withoutIds (grammar : Grammar) :
    grammar.withoutIds.isNonTerminal = grammar.isNonTerminal := by
  funext value
  exact List.any_map

theorem sound_withoutId_iff (grammar : Grammar) (production : Production) :
    production.withoutId.Sound grammar.withoutIds ↔ production.Sound grammar := by
  rw [Production.Sound, isNonTerminal_withoutIds]
  rfl

theorem wellFormed_withoutIds_iff (grammar : Grammar) :
    grammar.withoutIds.WellFormed ↔ grammar.WellFormed := by
  simp [wellFormed_iff, sound_withoutId_iff]

theorem verify_withoutIds (grammar : Grammar) : grammar.withoutIds.verify = grammar.verify := by
  simp only [verify, wellFormed_withoutIds_iff]

theorem step?_withoutIds (grammar : Grammar) : grammar.withoutIds.step? = grammar.step? := by
  funext form
  exact List.findSome?_map

theorem expand_withoutIds (grammar : Grammar) (levels : Nat) (symbol : Text) :
    grammar.withoutIds.expand levels symbol = grammar.expand levels symbol := by
  induction levels generalizing symbol with
  | zero => rfl
  | succ levels inductionHypothesis =>
      simp only [expand, productions_withoutIds, List.filter_map, List.map_map,
        isNonTerminal_withoutIds, inductionHypothesis]
      rfl

/-- The general tree does not depend on identifiers. -/
theorem generalTree_withoutIds (grammar : Grammar) :
    grammar.withoutIds.generalTree = grammar.generalTree := by
  simp only [generalTree, verify_withoutIds, expand_withoutIds]
  rfl

end Grammar

namespace Derivation

/-- The verdict on a word does not depend on identifiers. -/
theorem validate_withoutIds (grammar : Grammar) (word : Text) :
    validate grammar.withoutIds word = validate grammar word :=
  validate_congr grammar.wellFormed_withoutIds_iff rfl grammar.step?_withoutIds word

end Derivation

/-! ## Edits -/

/-- A change that does not look at what is blotted out may be made before or after. -/
theorem map_modify_comm
    (blot : α → β)
    (change : α → α)
    (change' : β → β)
    (commutes : ∀ entry, blot (change entry) = change' (blot entry))
    (entries : List α)
    (index : Nat) :
    (entries.modify index change).map blot = (entries.map blot).modify index change' := by
  apply List.ext_getElem?
  intro place
  simp only [List.getElem?_map, List.getElem?_modify]
  split <;> cases entries[place]? <;> simp [commutes]

/-- Symbols are given other names regardless of their identifiers. -/
theorem map_withoutId_rename (symbols : List Symbol) (index : Nat) (value : Text) :
    (symbols.modify index fun symbol => { symbol with value }).map Symbol.withoutId =
      (symbols.map Symbol.withoutId).modify index fun symbol => { symbol with value } := by
  apply map_modify_comm
  exact fun _ => rfl

/-- Sides of productions are exchanged regardless of their identifiers. -/
theorem map_withoutId_exchange
    (productions : List Production)
    (index : Nat)
    (side : Side)
    (value : Text) :
    (productions.modify index (·.withSide side value)).map Production.withoutId =
      (productions.map Production.withoutId).modify index (·.withSide side value) := by
  apply map_modify_comm
  cases side <;> exact fun _ => rfl

namespace Grammar

theorem checkIndex_map (entryClass : EntryClass) (entries : List α) (blot : α → β) (index : Nat) :
    checkIndex entryClass (entries.map blot) index = checkIndex entryClass entries index := by
  simp only [checkIndex, List.length_map]

theorem checkName_withoutId (symbolClass : SymbolClass) (others : List Symbol) (value : Text) :
    checkName symbolClass (others.map Symbol.withoutId) value =
      checkName symbolClass others value := by
  simp only [checkName, List.any_map]
  rfl

/-- Renaming a nonterminal carries identifiers along. -/
theorem withoutIds_renameNonTerminal (grammar : Grammar) (index : Nat) (value : Text) :
    (grammar.renameNonTerminal index value).withoutIds =
      grammar.withoutIds.renameNonTerminal index value := by
  unfold renameNonTerminal
  rw [nonTerminals_withoutIds, List.getElem?_map]
  cases grammar.nonTerminals[index]? with
  | none => rfl
  | some symbol =>
      have sameRenaming (production : Production) :
          (if production.left = symbol.value then { production with left := value }
            else production).withoutId =
          if production.withoutId.left = symbol.value then
            { production.withoutId with left := value }
          else production.withoutId := by
        split <;> simp_all [Production.withoutId]
      simp [withoutIds, map_withoutId_rename, Function.comp_def, sameRenaming, Symbol.withoutId]
      rfl

end Grammar

namespace Edit

/-- The check of an edit does not look at identifiers. -/
theorem check_withoutIds (edit : Edit) (grammar : Grammar) :
    edit.check grammar.withoutIds = edit.check grammar := by
  cases edit <;>
    simp [check, Grammar.checkLeft, Grammar.checkIndex_map, Grammar.checkName_withoutId,
      List.eraseIdx_map]

theorem withoutIds_perform (edit : Edit) (id : Text) (grammar : Grammar) :
    (edit.perform id grammar).withoutIds = edit.perform [] grammar.withoutIds := by
  cases edit with
  | addTerminal value => simp [perform, Grammar.withoutIds, Symbol.withoutId]
  | addNonTerminal value => simp [perform, Grammar.withoutIds, Symbol.withoutId]
  | addProduction left right => simp [perform, Grammar.withoutIds, Production.withoutId]
  | updateTerminal index value =>
      simp [perform, Grammar.withoutIds, map_withoutId_rename]
  | updateNonTerminal index value => exact grammar.withoutIds_renameNonTerminal index value
  | updateProduction index side value =>
      simp [perform, Grammar.withoutIds, map_withoutId_exchange]
  | updateStartSymbol value => rfl

/-- What comes of an edit is, but for the identifiers, what comes of it when there are none. -/
theorem map_withoutIds_apply (edit : Edit) (id : Text) (grammar : Grammar) :
    (edit.apply id grammar).map Grammar.withoutIds = edit.apply [] grammar.withoutIds := by
  simp only [apply, check_withoutIds]
  cases edit.check grammar with
  | error _ => rfl
  | ok _ => exact congrArg Except.ok (withoutIds_perform edit id grammar)

end Edit
end PhraseGrammar
