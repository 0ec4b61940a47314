import Mathlib.Logic.ExistsUnique
import PhraseGrammar.Proofs.Grammar.Validity

/-!
# Which edits are allowed

An edit that points beyond the end of a list is refused. Every other edit would make something of a
grammar, and for a valid grammar the checks are exactly as strong as they have to be: an edit is
allowed if what it would make is valid again, and then it makes just that. So a check never lets a
grammar be spoilt, and never stands in the way of a change that would have done no harm.

What an edit would make is said by `Edit.Makes` in terms of the lists, with nothing asked of names.
-/

namespace PhraseGrammar
namespace Edit

open Grammar

/-- The index of an edit, if it has one, is that of an entry. -/
def InRange (grammar : Grammar) : Edit → Prop
  | updateTerminal index _ => index < grammar.terminals.length
  | updateNonTerminal index _ => index < grammar.nonTerminals.length
  | updateProduction index _ _ => index < grammar.productions.length
  | addTerminal _ | addNonTerminal _ | addProduction _ _ | updateStartSymbol _ => True

/-- What an edit makes of a grammar, whether it is allowed or not. A new entry stands behind the
others; an entry that is changed keeps its identifier, and stands between the same entries as
before. Only a nonterminal takes something along when it is changed: its name, wherever it is the
start symbol or a left side. -/
inductive Makes (id : Text) : Edit → Grammar → Grammar → Prop
  | addTerminal (grammar : Grammar) (value : Text) :
      Makes id (addTerminal value) grammar
        { grammar with terminals := grammar.terminals ++ [{ id, value }] }
  | addNonTerminal (grammar : Grammar) (value : Text) :
      Makes id (addNonTerminal value) grammar
        { grammar with nonTerminals := grammar.nonTerminals ++ [{ id, value }] }
  | addProduction (grammar : Grammar) (left right : Text) :
      Makes id (addProduction left right) grammar
        { grammar with productions := grammar.productions ++ [{ id, left, right }] }
  | updateTerminal
      (grammar : Grammar)
      (before after : List Symbol)
      (symbol : Symbol)
      (value : Text) :
      Makes id (updateTerminal before.length value)
        { grammar with terminals := before ++ symbol :: after }
        { grammar with terminals := before ++ { symbol with value } :: after }
  | updateNonTerminal
      (grammar : Grammar)
      (before after : List Symbol)
      (symbol : Symbol)
      (value : Text) :
      Makes id (updateNonTerminal before.length value)
        { grammar with nonTerminals := before ++ symbol :: after }
        { grammar with
          nonTerminals := before ++ { symbol with value } :: after
          startSymbol := renamed symbol.value value grammar.startSymbol
          productions := grammar.productions.map fun production =>
            { production with left := renamed symbol.value value production.left } }
  | updateLeft
      (grammar : Grammar)
      (before after : List Production)
      (production : Production)
      (left : Text) :
      Makes id (updateProduction before.length .left left)
        { grammar with productions := before ++ production :: after }
        { grammar with productions := before ++ { production with left } :: after }
  | updateRight
      (grammar : Grammar)
      (before after : List Production)
      (production : Production)
      (right : Text) :
      Makes id (updateProduction before.length .right right)
        { grammar with productions := before ++ production :: after }
        { grammar with productions := before ++ { production with right } :: after }
  | updateStartSymbol (grammar : Grammar) (value : Text) :
      Makes id (updateStartSymbol value) grammar { grammar with startSymbol := value }

/-! ## What is made -/

/-- An entry that is changed, between the same entries as before. -/
theorem modify_append_cons (before after : List α) (entry : α) (change : α → α) :
    (before ++ entry :: after).modify before.length change = before ++ change entry :: after := by
  induction before with
  | nil => exact List.modify_zero_cons ..
  | cons first before inductionHypothesis =>
      exact (List.modify_succ_cons ..).trans (congrArg (first :: ·) inductionHypothesis)

/-- An edit that makes something of a grammar points to an entry, and makes what it performs. -/
theorem Makes.eq_perform
    {id : Text}
    {edit : Edit}
    {grammar edited : Grammar}
    (makes : edit.Makes id grammar edited) :
    edit.InRange grammar ∧ edited = edit.perform id grammar := by
  cases makes with
  | addTerminal | addNonTerminal | addProduction | updateStartSymbol => exact ⟨trivial, rfl⟩
  | updateTerminal _ before after symbol value =>
      exact ⟨by simp [InRange], by simp [perform, modify_append_cons]⟩
  | updateNonTerminal _ before after symbol value =>
      have inRange : before.length < (before ++ symbol :: after).length := by simp
      refine ⟨inRange, ?_⟩
      rw [perform, renameNonTerminal_eq inRange]
      simp [modify_append_cons]
  | updateLeft _ before after production left =>
      exact ⟨by simp [InRange], by simp [perform, modify_append_cons, Production.withSide]⟩
  | updateRight _ before after production right =>
      exact ⟨by simp [InRange], by simp [perform, modify_append_cons, Production.withSide]⟩

/-- What an edit performs is what it makes, unless it points beyond the end of a list. -/
theorem makes_perform
    (id : Text)
    {edit : Edit}
    {grammar : Grammar}
    (inRange : edit.InRange grammar) :
    edit.Makes id grammar (edit.perform id grammar) := by
  obtain ⟨terminals, nonTerminals, startSymbol, productions⟩ := grammar
  let grammar : Grammar := { terminals, nonTerminals, startSymbol, productions }
  cases edit with
  | addTerminal value => exact .addTerminal grammar value
  | addNonTerminal value => exact .addNonTerminal grammar value
  | addProduction left right => exact .addProduction grammar left right
  | updateTerminal index value =>
      obtain ⟨before, symbol, after, rfl, rfl, _⟩ := List.exists_of_modify (·) inRange
      simp only [perform, modify_append_cons]
      exact .updateTerminal grammar before after symbol value
  | updateNonTerminal index value =>
      obtain ⟨before, symbol, after, rfl, rfl, _⟩ := List.exists_of_modify (·) inRange
      have made : Makes id _ _ _ := .updateNonTerminal grammar before after symbol value
      rwa [made.eq_perform.2] at made
  | updateProduction index side value =>
      obtain ⟨before, production, after, rfl, rfl, _⟩ := List.exists_of_modify (·) inRange
      simp only [perform, modify_append_cons]
      cases side with
      | left => exact .updateLeft grammar before after production value
      | right => exact .updateRight grammar before after production value
  | updateStartSymbol value => exact .updateStartSymbol grammar value

/-! ## What is allowed -/

/-- Only an edit that points to an entry is allowed. -/
theorem inRange_of_check
    {edit : Edit}
    {grammar : Grammar}
    (allowed : edit.check grammar = .ok ()) :
    edit.InRange grammar := by
  cases edit with
  | addTerminal | addNonTerminal | addProduction | updateStartSymbol => trivial
  | updateTerminal | updateNonTerminal | updateProduction =>
      exact (checkIndex_eq_ok_iff _ _ _).mp (andThen_eq_ok_iff.mp allowed).1

/-- An edit of a valid grammar is allowed if what it performs is valid. -/
theorem check_of_valid_perform
    {id : Text}
    {edit : Edit}
    {grammar : Grammar}
    (valid : grammar.Valid)
    (inRange : edit.InRange grammar)
    (validAfter : (edit.perform id grammar).Valid) :
    edit.check grammar = .ok () := by
  cases edit with
  | addTerminal value =>
      exact ((properNames_append_iff .terminal _ _).mp validAfter.terminalNames).2
  | addNonTerminal value =>
      exact ((properNames_append_iff .nonTerminal _ _).mp validAfter.nonTerminalNames).2
  | addProduction left right =>
      have sound := validAfter.productionsSound { id, left, right } List.mem_concat_self
      exact andThen_eq_ok_iff.mpr
        ⟨(checkLeft_eq_ok_iff _ _).mpr sound.1, (checkRight_eq_ok_iff _).mpr sound.2⟩
  | updateTerminal index value =>
      have proper := validAfter.terminalNames
      exact andThen_eq_ok_iff.mpr
        ⟨(checkIndex_eq_ok_iff _ _ _).mpr inRange,
          (properNames_modify_iff .terminal valid.terminalNames inRange value).mp proper⟩
  | updateNonTerminal index value =>
      have proper := validAfter.nonTerminalNames
      rw [perform, renameNonTerminal_eq inRange] at proper
      exact andThen_eq_ok_iff.mpr
        ⟨(checkIndex_eq_ok_iff _ _ _).mpr inRange,
          (properNames_modify_iff .nonTerminal valid.nonTerminalNames inRange value).mp proper⟩
  | updateProduction index side value =>
      have member : grammar.productions[index].withSide side value ∈
          (perform id grammar (updateProduction index side value)).productions :=
        (modify_perm inRange _).mem_iff.mpr List.mem_cons_self
      have sound := validAfter.productionsSound _ member
      refine andThen_eq_ok_iff.mpr ⟨(checkIndex_eq_ok_iff _ _ _).mpr inRange, ?_⟩
      cases side with
      | left => exact (checkLeft_eq_ok_iff _ _).mpr sound.1
      | right => exact (checkRight_eq_ok_iff _).mpr sound.2
  | updateStartSymbol value =>
      exact (check_updateStartSymbol_eq_ok_iff grammar value).mpr validAfter.startDeclared

/-- For a valid grammar, an edit whose index is in range makes one certain thing of it, and an edit
succeeds exactly when its index is in range and what it makes is valid; what it makes is then its
result. -/
theorem apply_eq_ok_iff_makes_valid
    (grammar : Grammar)
    (valid : grammar.Valid)
    (edit : Edit)
    (id : Text) :
    (edit.InRange grammar → ∃! edited, edit.Makes id grammar edited) ∧
      ∀ edited, edit.apply id grammar = .ok edited ↔
        edit.InRange grammar ∧ edit.Makes id grammar edited ∧ edited.Valid := by
  refine ⟨fun inRange => ⟨_, makes_perform id inRange, fun _ makes => makes.eq_perform.2⟩, ?_⟩
  intro edited
  rw [apply_eq_ok_iff]
  constructor
  · rintro ⟨allowed, rfl⟩
    have inRange := inRange_of_check allowed
    exact ⟨inRange, makes_perform id inRange, valid_perform valid allowed id⟩
  · rintro ⟨inRange, makes, validAfter⟩
    obtain ⟨_, rfl⟩ := makes.eq_perform
    exact ⟨check_of_valid_perform valid inRange validAfter, rfl⟩

/-- The start symbol of the initial grammar is renamed, with the left side that uses it; but it must
not get the name of another nonterminal. -/
theorem apply_eq_ok_iff_makes_valid_renamedStart :
    let grammar := (Grammar.initial (.ofSeed 0)).1
    let edited := (updateNonTerminal 0 "Z").perform [] grammar
    grammar.Valid ∧ edited.startSymbol = "Z".toList ∧
      (updateNonTerminal 0 "Z").Makes [] grammar edited ∧ edited.Valid ∧
      ∀ edited', (updateNonTerminal 0 "A").Makes [] grammar edited' → ¬edited'.Valid := by
  intro grammar edited
  have valid : grammar.Valid := valid_initial _
  have renames : (updateNonTerminal 0 "Z").apply [] grammar = .ok edited := rfl
  have refuses : (updateNonTerminal 0 "A").apply [] grammar = .error (.duplicateSymbol "A") := rfl
  obtain ⟨_, makes, validAfter⟩ :=
    ((apply_eq_ok_iff_makes_valid grammar valid (updateNonTerminal 0 "Z") []).2 edited).mp renames
  refine ⟨valid, by decide, makes, validAfter, fun edited' makes' validAfter' => ?_⟩
  have allowed :=
    ((apply_eq_ok_iff_makes_valid grammar valid (updateNonTerminal 0 "A") []).2 edited').mpr
      ⟨Nat.zero_lt_succ 2, makes', validAfter'⟩
  exact nomatch refuses.symm.trans allowed

end Edit
end PhraseGrammar
