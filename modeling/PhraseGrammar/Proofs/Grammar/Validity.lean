import PhraseGrammar.Grammar.Edit
import PhraseGrammar.Proofs.Result

/-!
# Valid grammars

A grammar that has been built up by edits is not only well formed. Within each class its symbols
have distinct names, and none of them is blank. The initial grammar is valid in this sense, and an
edit that is allowed makes a valid grammar of a valid one. The checks of names look at the other
symbols of the class only, so a symbol is best thought of as taken out of its list and put back in
front of it, under its new name.
-/

namespace PhraseGrammar

/-! ## Entries of lists -/

section Entries

variable {entries : List α} {index : Nat}

/-- An entry that is changed, in front of the others. -/
theorem modify_perm (inRange : index < entries.length) (change : α → α) :
    (entries.modify index change).Perm (change entries[index] :: entries.eraseIdx index) := by
  rw [List.modify_eq_take_cons_drop inRange, List.eraseIdx_eq_take_drop_succ]
  exact List.perm_middle

/-- An entry in front of the others. -/
theorem perm_getElem_cons_eraseIdx (inRange : index < entries.length) :
    entries.Perm (entries[index] :: entries.eraseIdx index) := by
  simpa using modify_perm inRange id

end Entries

/-! ## Names -/

/-- The symbols have distinct names, and none of them is blank. -/
structure ProperNames (symbols : List Symbol) : Prop where
  distinct : (symbols.map Symbol.value).Nodup
  notBlank : ∀ symbol ∈ symbols, Text.isBlank symbol.value = false

theorem properNames_perm {symbols symbols' : List Symbol} (arranged : symbols.Perm symbols') :
    ProperNames symbols ↔ ProperNames symbols' := by
  have forward {symbols symbols' : List Symbol} (arranged : symbols.Perm symbols')
      (proper : ProperNames symbols) : ProperNames symbols' :=
    ⟨(arranged.map _).nodup_iff.mp proper.distinct,
      fun symbol member => proper.notBlank symbol (arranged.mem_iff.mpr member)⟩
  exact ⟨forward arranged, forward arranged.symm⟩

namespace Grammar

theorem checkName_eq_ok_iff (symbolClass : SymbolClass) (others : List Symbol) (value : Text) :
    checkName symbolClass others value = .ok () ↔
      Text.isBlank value = false ∧ value ∉ others.map Symbol.value := by
  unfold checkName
  split
  next blank => simp [blank]
  next notBlank =>
    simp only [Bool.not_eq_true] at notBlank
    split <;> simp_all

/-- Another symbol can be put to symbols with proper names if the check of its name allows it. -/
theorem properNames_cons_iff (symbolClass : SymbolClass) (symbol : Symbol) (symbols : List Symbol) :
    ProperNames (symbol :: symbols) ↔
      ProperNames symbols ∧ checkName symbolClass symbols symbol.value = .ok () := by
  rw [checkName_eq_ok_iff]
  constructor
  · intro proper
    obtain ⟨isNew, distinct⟩ := List.nodup_cons.mp proper.distinct
    obtain ⟨first, more⟩ := List.forall_mem_cons.mp proper.notBlank
    exact ⟨⟨distinct, more⟩, first, isNew⟩
  · rintro ⟨proper, first, isNew⟩
    exact ⟨List.nodup_cons.mpr ⟨isNew, proper.distinct⟩,
      List.forall_mem_cons.mpr ⟨first, proper.notBlank⟩⟩

theorem properNames_append_iff
    (symbolClass : SymbolClass)
    (symbols : List Symbol)
    (symbol : Symbol) :
    ProperNames (symbols ++ [symbol]) ↔
      ProperNames symbols ∧ checkName symbolClass symbols symbol.value = .ok () := by
  rw [properNames_perm (List.perm_append_singleton symbol symbols),
    properNames_cons_iff symbolClass]

/-- A symbol can be renamed if the check of the new name against the others allows it. -/
theorem properNames_modify_iff
    (symbolClass : SymbolClass)
    {symbols : List Symbol}
    (proper : ProperNames symbols)
    {index : Nat}
    (inRange : index < symbols.length)
    (value : Text) :
    ProperNames (symbols.modify index fun symbol => { symbol with value }) ↔
      checkName symbolClass (symbols.eraseIdx index) value = .ok () := by
  have front := (properNames_perm (perm_getElem_cons_eraseIdx inRange)).mp proper
  have others := ((properNames_cons_iff symbolClass _ _).mp front).1
  rw [properNames_perm (modify_perm inRange _), properNames_cons_iff symbolClass]
  exact and_iff_right others

/-! ## Valid grammars -/

/-- A well-formed grammar with proper names in both classes. -/
structure Valid (grammar : Grammar) : Prop extends grammar.WellFormed where
  terminalNames : ProperNames grammar.terminals
  nonTerminalNames : ProperNames grammar.nonTerminals

theorem isNonTerminal_iff_mem (grammar : Grammar) (value : Text) :
    grammar.isNonTerminal value = true ↔ value ∈ grammar.nonTerminals.map Symbol.value := by
  simp [isNonTerminal]

theorem valid_initial (supply : Supply) : (initial supply).1.Valid where
  terminalsNonempty := List.cons_ne_nil _ _
  nonTerminalsNonempty := List.cons_ne_nil _ _
  startDeclared := rfl
  productionsNonempty := List.cons_ne_nil _ _
  productionsSound := by
    rintro production (_ | ⟨_, _ | ⟨_, _ | ⟨_, ⟨⟩⟩⟩⟩) <;> exact ⟨rfl, rfl⟩
  terminalNames := by
    refine ⟨show (["a", "b"] : List Text).Nodup by decide, ?_⟩
    rintro symbol (_ | ⟨_, _ | ⟨_, ⟨⟩⟩⟩) <;> rfl
  nonTerminalNames := by
    refine ⟨show (["S", "A", "B"] : List Text).Nodup by decide, ?_⟩
    rintro symbol (_ | ⟨_, _ | ⟨_, _ | ⟨_, ⟨⟩⟩⟩⟩) <;> rfl

/-! ## What the checks allow -/

theorem checkIndex_eq_ok_iff (entryClass : EntryClass) (entries : List α) (index : Nat) :
    checkIndex entryClass entries index = .ok () ↔ index < entries.length := by
  unfold checkIndex
  split <;> simp_all

theorem checkLeft_eq_ok_iff (grammar : Grammar) (left : Text) :
    grammar.checkLeft left = .ok () ↔ grammar.isNonTerminal left = true := by
  unfold checkLeft
  split <;> simp_all

theorem checkRight_eq_ok_iff (right : Text) :
    checkRight right = .ok () ↔ Text.isBlank right = false := by
  unfold checkRight
  split <;> simp_all

/-! ## Renaming a nonterminal -/

/-- What becomes of a name when `old` is changed to `value`. -/
def renamed (old value name : Text) : Text := if name = old then value else name

section Rename

variable {grammar : Grammar} {index : Nat} (inRange : index < grammar.nonTerminals.length)
  (value : Text)

include inRange

/-- The start symbol and the left sides are renamed along with the nonterminal. -/
theorem renameNonTerminal_eq :
    let rename := renamed grammar.nonTerminals[index].value value
    grammar.renameNonTerminal index value =
      { grammar with
        nonTerminals := grammar.nonTerminals.modify index fun symbol => { symbol with value }
        startSymbol := rename grammar.startSymbol
        productions := grammar.productions.map fun production =>
          { production with left := rename production.left } } := by
  have production_eq (production : Production) :
      (if production.left = grammar.nonTerminals[index].value then { production with left := value }
        else production) =
        { production with
          left := renamed grammar.nonTerminals[index].value value production.left } := by
    unfold renamed
    split <;> rfl
  simp only [renameNonTerminal, List.getElem?_eq_getElem inRange, production_eq]
  rfl

/-- A nonterminal is still one under the name that it then has. -/
theorem renamed_mem_names
    {name : Text}
    (isName : name ∈ grammar.nonTerminals.map Symbol.value) :
    renamed grammar.nonTerminals[index].value value name ∈
      (grammar.nonTerminals.modify index fun symbol => { symbol with value }).map Symbol.value := by
  have before := ((perm_getElem_cons_eraseIdx inRange).map Symbol.value).mem_iff.mp isName
  have after := (modify_perm inRange fun symbol : Symbol => { symbol with value }).map Symbol.value
  rw [after.mem_iff]
  rw [List.map_cons, List.mem_cons] at before ⊢
  unfold renamed
  split
  next => exact .inl rfl
  next other => exact .inr (before.resolve_left other)

/-- Renaming a nonterminal keeps a grammar well formed, whatever the new name is. -/
theorem wellFormed_renameNonTerminal (wellFormed : grammar.WellFormed) :
    (grammar.renameNonTerminal index value).WellFormed := by
  have nameKept {name : Text} (isName : grammar.isNonTerminal name = true) :=
    renamed_mem_names inRange value ((isNonTerminal_iff_mem grammar name).mp isName)
  rw [renameNonTerminal_eq inRange]
  exact
    { terminalsNonempty := wellFormed.terminalsNonempty
      nonTerminalsNonempty := mt List.modify_eq_nil_iff.mp wellFormed.nonTerminalsNonempty
      startDeclared := (isNonTerminal_iff_mem _ _).mpr (nameKept wellFormed.startDeclared)
      productionsNonempty := mt List.map_eq_nil_iff.mp wellFormed.productionsNonempty
      productionsSound := by
        intro production member
        obtain ⟨original, isOriginal, rfl⟩ := List.mem_map.mp member
        have sound := wellFormed.productionsSound original isOriginal
        exact ⟨(isNonTerminal_iff_mem _ _).mpr (nameKept sound.1), sound.2⟩ }

end Rename

end Grammar

/-! ## Edits -/

namespace Edit

open Grammar

theorem check_updateStartSymbol_eq_ok_iff (grammar : Grammar) (value : Text) :
    (updateStartSymbol value).check grammar = .ok () ↔ grammar.isNonTerminal value = true := by
  simp only [check]
  split <;> simp_all

/-- An edit that is allowed makes a well-formed grammar of a well-formed one. -/
theorem wellFormed_perform
    {grammar : Grammar}
    (wellFormed : grammar.WellFormed)
    {edit : Edit}
    (allowed : edit.check grammar = .ok ())
    (id : Text) :
    (edit.perform id grammar).WellFormed := by
  cases edit with
  | addTerminal value =>
      exact
        { wellFormed with
          terminalsNonempty := List.append_ne_nil_of_right_ne_nil _ (List.cons_ne_nil _ _)
          productionsSound := wellFormed.productionsSound }
  | addNonTerminal value =>
      have declared {name : Text} (isName : grammar.isNonTerminal name = true) :
          ((addNonTerminal value).perform id grammar).isNonTerminal name = true := by
        rw [isNonTerminal_iff_mem] at isName ⊢
        exact (List.map_append ..).symm ▸ List.mem_append_left _ isName
      exact
        { wellFormed with
          nonTerminalsNonempty := List.append_ne_nil_of_right_ne_nil _ (List.cons_ne_nil _ _)
          startDeclared := declared wellFormed.startDeclared
          productionsSound := fun production member =>
            ⟨declared (wellFormed.productionsSound production member).1,
              (wellFormed.productionsSound production member).2⟩ }
  | addProduction left right =>
      obtain ⟨isLeft, isRight⟩ := andThen_eq_ok_iff.mp allowed
      have sound : Production.Sound grammar { id, left, right } :=
        ⟨(checkLeft_eq_ok_iff _ _).mp isLeft, (checkRight_eq_ok_iff _).mp isRight⟩
      exact
        { wellFormed with
          productionsNonempty := List.append_ne_nil_of_right_ne_nil _ (List.cons_ne_nil _ _)
          productionsSound :=
            List.forall_mem_append.mpr
              ⟨wellFormed.productionsSound, List.forall_mem_singleton.mpr sound⟩ }
  | updateTerminal index value =>
      exact
        { wellFormed with
          terminalsNonempty := mt List.modify_eq_nil_iff.mp wellFormed.terminalsNonempty
          productionsSound := wellFormed.productionsSound }
  | updateNonTerminal index value =>
      obtain ⟨isEntry, _⟩ := andThen_eq_ok_iff.mp allowed
      exact wellFormed_renameNonTerminal ((checkIndex_eq_ok_iff _ _ _).mp isEntry) value wellFormed
  | updateProduction index side value =>
      obtain ⟨isEntry, isAllowed⟩ := andThen_eq_ok_iff.mp allowed
      have inRange := (checkIndex_eq_ok_iff _ _ _).mp isEntry
      have sound : (grammar.productions[index].withSide side value).Sound grammar := by
        have before := wellFormed.productionsSound _ (List.getElem_mem inRange)
        cases side with
        | left => exact ⟨(checkLeft_eq_ok_iff _ _).mp isAllowed, before.2⟩
        | right => exact ⟨before.1, (checkRight_eq_ok_iff _).mp isAllowed⟩
      exact
        { wellFormed with
          productionsNonempty := mt List.modify_eq_nil_iff.mp wellFormed.productionsNonempty
          productionsSound := by
            intro production member
            rcases List.mem_cons.mp ((modify_perm inRange _).mem_iff.mp member) with rfl | isOther
            · exact sound
            · exact wellFormed.productionsSound production (List.mem_of_mem_eraseIdx isOther) }
  | updateStartSymbol value =>
      exact
        { wellFormed with
          startDeclared := (check_updateStartSymbol_eq_ok_iff grammar value).mp allowed
          productionsSound := wellFormed.productionsSound }

/-- An edit that is allowed makes a valid grammar of a valid one. -/
theorem valid_perform
    {grammar : Grammar}
    (valid : grammar.Valid)
    {edit : Edit}
    (allowed : edit.check grammar = .ok ())
    (id : Text) :
    (edit.perform id grammar).Valid := by
  have wellFormed := wellFormed_perform valid.toWellFormed allowed id
  cases edit with
  | addTerminal value =>
      exact
        { wellFormed with
          terminalNames :=
            (properNames_append_iff .terminal _ _).mpr ⟨valid.terminalNames, allowed⟩
          nonTerminalNames := valid.nonTerminalNames }
  | addNonTerminal value =>
      exact
        { wellFormed with
          terminalNames := valid.terminalNames
          nonTerminalNames :=
            (properNames_append_iff .nonTerminal _ _).mpr ⟨valid.nonTerminalNames, allowed⟩ }
  | updateTerminal index value =>
      obtain ⟨isEntry, isProper⟩ := andThen_eq_ok_iff.mp allowed
      have inRange := (checkIndex_eq_ok_iff _ _ _).mp isEntry
      exact
        { wellFormed with
          terminalNames :=
            (properNames_modify_iff .terminal valid.terminalNames inRange value).mpr isProper
          nonTerminalNames := valid.nonTerminalNames }
  | updateNonTerminal index value =>
      obtain ⟨isEntry, isProper⟩ := andThen_eq_ok_iff.mp allowed
      have inRange := (checkIndex_eq_ok_iff _ _ _).mp isEntry
      simp only [perform, renameNonTerminal_eq inRange] at wellFormed ⊢
      exact
        { wellFormed with
          terminalNames := valid.terminalNames
          nonTerminalNames :=
            (properNames_modify_iff .nonTerminal valid.nonTerminalNames inRange value).mpr
              isProper }
  | addProduction | updateProduction | updateStartSymbol =>
      exact
        { wellFormed with
          terminalNames := valid.terminalNames
          nonTerminalNames := valid.nonTerminalNames }

end Edit
end PhraseGrammar
