import PhraseGrammar.Grammar.Edit
import PhraseGrammar.Proofs.Supply

/-!
# Identifiers in grammars

The entries of the initial grammar get identifiers of different draws. An edit either leaves the
identifiers of a grammar as they are, each with the entry that it belongs to, or it adds the new
one; no edit makes an entry share its identifier with another.
-/

namespace PhraseGrammar

/-- A change of an entry that keeps a component of it keeps the list of these components. -/
theorem map_modify
    {entries : List α}
    {index : Nat}
    {change : α → α}
    {component : α → β}
    (keeps : ∀ entry, component (change entry) = component entry) :
    (entries.modify index change).map component = entries.map component := by
  apply List.ext_getElem (by simp)
  intro place _ _
  rw [List.getElem_map, List.getElem_map, List.getElem_modify]
  split
  next => exact keeps _
  next => rfl

theorem map_id_renamed (symbols : List Symbol) (index : Nat) (value : Text) :
    (symbols.modify index fun symbol => { symbol with value }).map Symbol.id =
      symbols.map Symbol.id :=
  map_modify fun _ => rfl

namespace Grammar

/-- The identifiers of the entries of a grammar. -/
def ids (grammar : Grammar) : List Text :=
  grammar.terminals.map Symbol.id ++ grammar.nonTerminals.map Symbol.id ++
    grammar.productions.map Production.id

/-- The entries of the initial grammar take the next identifiers, one each. -/
theorem drawn_initial
    {start : Nat}
    {supply : Supply}
    (started : start ≤ supply.used) :
    (initial supply).2.Drawn start (initial supply).1.ids := by
  have taken :
      (initial supply).1.ids = (List.range' supply.used 8).map (initial supply).2.ident := rfl
  refine ⟨List.range' supply.used 8, List.nodup_range', ?_, taken ▸ .refl _⟩
  intro index member
  have within := List.mem_range'_1.mp member
  have used : (initial supply).2.used = supply.used + 8 := rfl
  omega

theorem ids_renameNonTerminal (grammar : Grammar) (index : Nat) (value : Text) :
    (grammar.renameNonTerminal index value).ids = grammar.ids := by
  unfold renameNonTerminal
  split
  next => rfl
  next symbol _ =>
    have sameProductions :
        (grammar.productions.map fun production =>
          if production.left = symbol.value then { production with left := value }
          else production).map Production.id = grammar.productions.map Production.id := by
      rw [List.map_map]
      apply List.map_congr_left
      intro production _
      simp only [Function.comp_apply]
      split <;> rfl
    simp only [ids, sameProductions, map_id_renamed]

end Grammar

namespace Edit

open Grammar

/-- After an addition the new identifier has come to the others; after any other edit they are the
same. -/
theorem ids_perform (edit : Edit) (id : Text) (grammar : Grammar) :
    (edit.perform id grammar).ids.Perm
      (if edit.isAddition then id :: grammar.ids else grammar.ids) := by
  cases edit with
  | addTerminal value =>
      simp only [perform, ids, List.map_append, List.map_cons, List.map_nil, List.append_assoc,
        List.singleton_append]
      exact List.perm_middle
  | addNonTerminal value =>
      simp only [perform, ids, List.map_append, List.map_cons, List.map_nil, ← List.append_assoc]
      rw [List.append_assoc _ [id], List.singleton_append]
      exact List.perm_middle
  | addProduction left right =>
      simp only [perform, ids, List.map_append, List.map_cons, List.map_nil, ← List.append_assoc]
      exact List.perm_append_singleton _ _
  | updateTerminal index value =>
      apply List.Perm.of_eq
      simp only [perform, ids, map_id_renamed]
      rfl
  | updateNonTerminal index value => exact .of_eq (ids_renameNonTerminal grammar index value)
  | updateProduction index side value =>
      have keeps (production : Production) :
          (production.withSide side value).id = production.id := by
        cases side <;> rfl
      apply List.Perm.of_eq
      simp only [perform, ids, map_modify keeps]
      rfl
  | updateStartSymbol value => exact .refl _

/-- Taking an identifier for an edit only takes from the supply. -/
theorem advances_applyTaking (edit : Edit) (grammar : Grammar) (supply : Supply) :
    supply.Advances (edit.applyTaking grammar supply).2 := by
  rw [applyTaking_eq, newId]
  split
  next => exact Supply.advances_take supply
  next => exact .refl supply

/-- Identifiers of different draws stay so when an edit takes the next one for a new entry. -/
theorem drawn_applyTaking
    {start : Nat}
    {supply : Supply}
    {edit : Edit}
    {grammar edited : Grammar}
    (drawn : supply.Drawn start grammar.ids)
    (started : start ≤ supply.used)
    (isEdited : (edit.applyTaking grammar supply).1 = .ok edited) :
    (edit.applyTaking grammar supply).2.Drawn start edited.ids := by
  rw [applyTaking_eq] at isEdited ⊢
  obtain ⟨allowed, rfl⟩ := (edit.apply_eq_ok_iff _ grammar edited).mp isEdited
  have arranged := edit.ids_perform (edit.newId grammar supply).1 grammar
  cases isAddition : edit.isAddition with
  | true =>
      have taken : edit.newId grammar supply = Supply.take supply := by
        rw [newId, isAddition, allowed]
        rfl
      rw [isAddition, taken] at arranged
      rw [taken]
      exact (drawn.cons_take started).of_perm arranged
  | false =>
      have notTaken : edit.newId grammar supply = ([], supply) := by
        rw [newId, isAddition]
        rfl
      rw [isAddition, notTaken] at arranged
      rw [notTaken]
      exact drawn.of_perm arranged

end Edit
end PhraseGrammar
