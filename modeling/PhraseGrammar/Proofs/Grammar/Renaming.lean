import PhraseGrammar.Proofs.Grammar.Validity

/-!
# The algebra of renamings

A nonterminal that gets another name takes along the left sides and the start symbol that use its
old one, and these are found by comparing names. No production is captured by this or left behind:
the new name must not be that of another nonterminal, and every left side is the name of some
nonterminal. So a nonterminal that is renamed twice might as well have been given the second name at
once, and two nonterminals can be renamed in either order.
-/

namespace PhraseGrammar

/-! ## Names -/

/-- A symbol is among those that are left when another is taken out. -/
theorem value_mem_others
    {symbols : List Symbol}
    {index index' : Nat}
    (inRange : index' < symbols.length)
    (apart : index' ≠ index) :
    symbols[index'].value ∈ (symbols.eraseIdx index).map Symbol.value :=
  List.mem_map_of_mem (List.mem_eraseIdx_iff_getElem.mpr ⟨index', inRange, apart, rfl⟩)

/-- A symbol among others with proper names has a proper name itself, which none of them has. -/
theorem ProperNames.entry
    {symbols : List Symbol}
    (proper : ProperNames symbols)
    {index : Nat}
    (inRange : index < symbols.length) :
    Text.isBlank symbols[index].value = false ∧
      symbols[index].value ∉ (symbols.eraseIdx index).map Symbol.value := by
  have front := (properNames_perm (perm_getElem_cons_eraseIdx inRange)).mp proper
  exact (Grammar.checkName_eq_ok_iff .nonTerminal _ _).mp
    ((Grammar.properNames_cons_iff .nonTerminal _ _).mp front).2

namespace Grammar

theorem renamed_self (old name : Text) : renamed old old name = name := by
  unfold renamed
  split
  next same => exact same.symm
  next => rfl

/-- A second change takes up the first, if it meets no name that was there before. -/
theorem renamed_renamed
    {old value name : Text}
    (other : Text)
    (notCaptured : name = value → name = old) :
    renamed value other (renamed old value name) = renamed old other name := by
  unfold renamed
  by_cases isOld : name = old
  · rw [if_pos isOld, if_pos rfl, if_pos isOld]
  · rw [if_neg isOld, if_neg (mt notCaptured isOld), if_neg isOld]

/-- Changes of two names, neither of which becomes the other, can be made in either order. -/
theorem renamed_comm
    {first second value other : Text}
    (distinct : first ≠ second)
    (apart : value ≠ second)
    (apart' : other ≠ first)
    (name : Text) :
    renamed second other (renamed first value name) =
      renamed first value (renamed second other name) := by
  unfold renamed
  by_cases isFirst : name = first
  · subst isFirst
    rw [if_pos rfl, if_neg apart, if_neg distinct, if_pos rfl]
  · rw [if_neg isFirst]
    by_cases isSecond : name = second
    · rw [if_pos isSecond, if_neg apart']
    · rw [if_neg isSecond, if_neg isFirst]

/-! ## Grammars -/

theorem nonTerminals_renameNonTerminal (grammar : Grammar) (index : Nat) (value : Text) :
    (grammar.renameNonTerminal index value).nonTerminals =
      grammar.nonTerminals.modify index fun symbol => { symbol with value } := by
  rcases Nat.lt_or_ge index grammar.nonTerminals.length with inRange | beyond
  · rw [renameNonTerminal_eq inRange]
  · rw [renameNonTerminal, List.getElem?_eq_none beyond, List.modify_eq_self beyond]

section Rename

variable {grammar : Grammar} {index : Nat} (inRange : index < grammar.nonTerminals.length)

include inRange

/-- A nonterminal that is given its own name leaves the grammar as it is. -/
theorem renameNonTerminal_self :
    grammar.renameNonTerminal index grammar.nonTerminals[index].value = grammar := by
  have sameSymbols : (grammar.nonTerminals.modify index fun symbol =>
      { symbol with value := grammar.nonTerminals[index].value }) = grammar.nonTerminals := by
    apply List.ext_getElem (List.length_modify ..)
    intro place _ _
    rw [List.getElem_modify]
    split
    next here => subst here; rfl
    next => rfl
  rw [renameNonTerminal_eq inRange, sameSymbols]
  simp [renamed_self]

/-- A name that no other nonterminal has is at most that of the nonterminal itself. -/
theorem eq_of_notMem_others
    {value name : Text}
    (isNew : value ∉ (grammar.nonTerminals.eraseIdx index).map Symbol.value)
    (isName : grammar.isNonTerminal name = true) :
    name = value → name = grammar.nonTerminals[index].value := by
  rintro rfl
  rw [isNonTerminal_iff_mem, ((perm_getElem_cons_eraseIdx inRange).map _).mem_iff,
    List.map_cons] at isName
  exact (List.mem_cons.mp isName).resolve_right isNew

/-- To rename a nonterminal twice is to give it the second name at once. -/
theorem renameNonTerminal_renameNonTerminal
    (wellFormed : grammar.WellFormed)
    {value : Text}
    (isNew : value ∉ (grammar.nonTerminals.eraseIdx index).map Symbol.value)
    (other : Text) :
    (grammar.renameNonTerminal index value).renameNonTerminal index other =
      grammar.renameNonTerminal index other := by
  have inRange' : index < (grammar.renameNonTerminal index value).nonTerminals.length := by
    rwa [nonTerminals_renameNonTerminal, List.length_modify]
  have once {name : Text} (isName : grammar.isNonTerminal name = true) :=
    renamed_renamed other (eq_of_notMem_others inRange isNew isName)
  rw [renameNonTerminal_eq inRange']
  simp only [renameNonTerminal_eq inRange, List.getElem_modify_eq, List.modify_modify_eq,
    once wellFormed.startDeclared, List.map_map]
  congr 1
  apply List.map_congr_left
  intro production member
  simp only [Function.comp_apply, once (wellFormed.productionsSound production member).1]

/-- Two nonterminals can be renamed in either order, if neither gets the old name of the other. -/
theorem renameNonTerminal_comm
    {index' : Nat}
    (inRange' : index' < grammar.nonTerminals.length)
    (apart : index ≠ index')
    (distinct : grammar.nonTerminals[index].value ≠ grammar.nonTerminals[index'].value)
    {value other : Text}
    (notSecond : value ≠ grammar.nonTerminals[index'].value)
    (notFirst : other ≠ grammar.nonTerminals[index].value) :
    (grammar.renameNonTerminal index value).renameNonTerminal index' other =
      (grammar.renameNonTerminal index' other).renameNonTerminal index value := by
  have there : index' < (grammar.renameNonTerminal index value).nonTerminals.length := by
    rwa [nonTerminals_renameNonTerminal, List.length_modify]
  have back : index < (grammar.renameNonTerminal index' other).nonTerminals.length := by
    rwa [nonTerminals_renameNonTerminal, List.length_modify]
  rw [renameNonTerminal_eq there, renameNonTerminal_eq back]
  simp only [renameNonTerminal_eq inRange, renameNonTerminal_eq inRange',
    List.getElem_modify_ne _ _ apart, List.getElem_modify_ne _ _ apart.symm,
    List.modify_modify_ne _ _ _ apart, renamed_comm distinct notSecond notFirst, List.map_map,
    Function.comp_def]

end Rename

end Grammar

/-! ## Renaming as an edit -/

namespace Edit

open Grammar

/-- A nonterminal gets a name if it is there, the name is not blank, and no other has it. -/
theorem apply_updateNonTerminal_eq_ok_iff
    {id : Text}
    {index : Nat}
    {value : Text}
    {grammar edited : Grammar} :
    (updateNonTerminal index value).apply id grammar = .ok edited ↔
      index < grammar.nonTerminals.length ∧
      (Text.isBlank value = false ∧
        value ∉ (grammar.nonTerminals.eraseIdx index).map Symbol.value) ∧
      edited = grammar.renameNonTerminal index value := by
  rw [apply_eq_ok_iff, ← and_assoc, ← checkName_eq_ok_iff .nonTerminal,
    ← checkIndex_eq_ok_iff (.symbol .nonTerminal)]
  exact and_congr_left' andThen_eq_ok_iff

/-- Whether a nonterminal may get a name does not depend on the name that it has. -/
theorem check_renameNonTerminal (grammar : Grammar) (index : Nat) (value other : Text) :
    (updateNonTerminal index other).check (grammar.renameNonTerminal index value) =
      (updateNonTerminal index other).check grammar := by
  simp only [check, checkIndex, nonTerminals_renameNonTerminal, List.length_modify,
    List.eraseIdx_modify_of_eq]

/-- A nonterminal that was renamed gets a further name as if it had not been. -/
theorem apply_updateNonTerminal_again
    {grammar edited : Grammar}
    (wellFormed : grammar.WellFormed)
    {index : Nat}
    {value id : Text}
    (renames : (updateNonTerminal index value).apply id grammar = .ok edited)
    (other id' : Text) :
    (updateNonTerminal index other).apply id' edited =
      (updateNonTerminal index other).apply id' grammar := by
  obtain ⟨inRange, ⟨_, isNew⟩, rfl⟩ := apply_updateNonTerminal_eq_ok_iff.mp renames
  simp only [apply, check_renameNonTerminal, perform,
    renameNonTerminal_renameNonTerminal inRange wellFormed isNew]

/-- A nonterminal with a proper name gets this name again, and nothing changes. -/
theorem apply_updateNonTerminal_self
    {grammar : Grammar}
    (proper : ProperNames grammar.nonTerminals)
    {index : Nat}
    (inRange : index < grammar.nonTerminals.length)
    (id : Text) :
    (updateNonTerminal index grammar.nonTerminals[index].value).apply id grammar = .ok grammar :=
  apply_updateNonTerminal_eq_ok_iff.mpr
    ⟨inRange, proper.entry inRange, (renameNonTerminal_self inRange).symm⟩

/-- Two nonterminals that can be renamed in either order end up the same. -/
theorem apply_updateNonTerminal_comm
    {grammar edited edited' : Grammar}
    (proper : ProperNames grammar.nonTerminals)
    {first second : Nat}
    (apart : first ≠ second)
    {value other id id' : Text}
    (there : (updateNonTerminal first value).apply id grammar >>=
      (updateNonTerminal second other).apply id' = .ok edited)
    (back : (updateNonTerminal second other).apply id grammar >>=
      (updateNonTerminal first value).apply id' = .ok edited') :
    edited = edited' := by
  obtain ⟨_, firstRename, thenSecond⟩ := exists_of_bind_eq_ok there
  obtain ⟨_, secondRename, thenFirst⟩ := exists_of_bind_eq_ok back
  obtain ⟨inRange, ⟨_, isNew⟩, rfl⟩ := apply_updateNonTerminal_eq_ok_iff.mp firstRename
  obtain ⟨inRange', ⟨_, isNew'⟩, rfl⟩ := apply_updateNonTerminal_eq_ok_iff.mp secondRename
  obtain ⟨_, _, rfl⟩ := apply_updateNonTerminal_eq_ok_iff.mp thenSecond
  obtain ⟨_, _, rfl⟩ := apply_updateNonTerminal_eq_ok_iff.mp thenFirst
  -- No name that is given is that of the other nonterminal, since this is among the others.
  have notFirst : grammar.nonTerminals[first].value ∈
      (grammar.nonTerminals.eraseIdx second).map Symbol.value := value_mem_others inRange apart
  have notSecond : grammar.nonTerminals[second].value ∈
      (grammar.nonTerminals.eraseIdx first).map Symbol.value := value_mem_others inRange' apart.symm
  have distinct := (proper.entry inRange).2
  exact renameNonTerminal_comm inRange inRange' apart (ne_of_mem_of_not_mem notSecond distinct).symm
    (ne_of_mem_of_not_mem notSecond isNew).symm (ne_of_mem_of_not_mem notFirst isNew').symm

/-- In a well-formed grammar whose nonterminals have proper names, a nonterminal that was renamed
gets a further name with the same outcome as if it had not been renamed, and so gets its old name
back with nothing lost; and if two nonterminals can be renamed in either order, the order does not
matter. -/
theorem updateNonTerminal_algebra
    (grammar : Grammar)
    (wellFormed : grammar.WellFormed)
    (proper : ProperNames grammar.nonTerminals)
    (first second : Nat)
    (value other : Text)
    (id id' : Text) :
    (∀ edited, (updateNonTerminal first value).apply id grammar = .ok edited →
      (updateNonTerminal first other).apply id' edited =
        (updateNonTerminal first other).apply id' grammar ∧
      ∃ symbol, grammar.nonTerminals[first]? = some symbol ∧
        (updateNonTerminal first symbol.value).apply id' edited = .ok grammar) ∧
    (first ≠ second → ∀ edited edited',
      (updateNonTerminal first value).apply id grammar >>=
        (updateNonTerminal second other).apply id' = .ok edited →
      (updateNonTerminal second other).apply id grammar >>=
        (updateNonTerminal first value).apply id' = .ok edited' →
      edited = edited') := by
  refine ⟨fun edited renames => ⟨?_, ?_⟩,
    fun apart _ _ => apply_updateNonTerminal_comm proper apart⟩
  · exact apply_updateNonTerminal_again wellFormed renames other id'
  · have inRange := (apply_updateNonTerminal_eq_ok_iff.mp renames).1
    refine ⟨_, List.getElem?_eq_getElem inRange, ?_⟩
    rw [apply_updateNonTerminal_again wellFormed renames]
    exact apply_updateNonTerminal_self proper inRange id'

/-- The start symbol of the initial grammar is renamed and gets its name back; and it can be renamed
before `A` or after it. -/
theorem updateNonTerminal_algebra_initial :
    let grammar := (Grammar.initial (.ofSeed 0)).1
    let edited := grammar.renameNonTerminal 0 "Z"
    let both := edited.renameNonTerminal 1 "Y"
    let both' := (grammar.renameNonTerminal 1 "Y").renameNonTerminal 0 "Z"
    (grammar.WellFormed ∧ ProperNames grammar.nonTerminals) ∧
    ((updateNonTerminal 0 "Z").apply [] grammar = .ok edited ∧ edited.startSymbol = "Z".toList ∧
      (updateNonTerminal 0 "S").apply [] edited = .ok grammar) ∧
    (updateNonTerminal 0 "Z").apply [] grammar >>= (updateNonTerminal 1 "Y").apply [] = .ok both ∧
    (updateNonTerminal 1 "Y").apply [] grammar >>= (updateNonTerminal 0 "Z").apply [] = .ok both' ∧
    both = both' := by
  intro grammar edited both both'
  have valid : grammar.Valid := valid_initial _
  have renames : (updateNonTerminal 0 "Z").apply [] grammar = .ok edited := rfl
  obtain ⟨again, commutes⟩ := updateNonTerminal_algebra grammar valid.toWellFormed
    valid.nonTerminalNames 0 1 "Z" "Y" [] []
  obtain ⟨_, symbol, isSymbol, restores⟩ := again edited renames
  obtain rfl : _ = symbol := Option.some.inj isSymbol
  exact ⟨⟨valid.toWellFormed, valid.nonTerminalNames⟩, ⟨renames, by decide, restores⟩, rfl, rfl,
    commutes Nat.zero_ne_one both both' rfl rfl⟩

end Edit
end PhraseGrammar
