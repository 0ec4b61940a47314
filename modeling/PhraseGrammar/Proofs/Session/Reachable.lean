import PhraseGrammar.Proofs.Grammar.Identifiers
import PhraseGrammar.Proofs.Grammar.Validity
import PhraseGrammar.Proofs.Session.Transition

/-!
# Which grammars sessions reach

A session that begins with nothing keeps no grammar but valid ones, whatever is asked in it and
whatever fails: the initial grammar is valid, and a grammar is only ever kept after an edit that was
allowed. The identifiers in it come from different draws of those made in the session. So words are
always validated against a well-formed grammar.
-/

namespace PhraseGrammar
namespace Session

open Medium PhraseGrammar.Action Store

/-- The grammar that is kept, if there is one, is valid, and its identifiers were taken since
`start` were used, each from its own draw. -/
structure Orderly (start : Nat) (state : State) (supply : Supply) : Prop where
  started : start ≤ supply.used
  valid {grammar : Grammar} : state.grammar = some grammar → grammar.Valid
  drawn {grammar : Grammar} : state.grammar = some grammar → supply.Drawn start grammar.ids

theorem orderly_of_none
    {start : Nat}
    {state : State}
    {supply : Supply}
    (started : start ≤ supply.used)
    (absent : state.grammar = none) :
    Orderly start state supply where
  started := started
  valid isKept := nomatch absent.symm.trans isKept
  drawn isKept := nomatch absent.symm.trans isKept

theorem orderly_of_some
    {start : Nat}
    {state : State}
    {supply : Supply}
    {grammar : Grammar}
    (started : start ≤ supply.used)
    (isKept : state.grammar = some grammar)
    (valid : grammar.Valid)
    (drawn : supply.Drawn start grammar.ids) :
    Orderly start state supply where
  started := started
  valid isGrammar := Option.some.inj (isKept.symm.trans isGrammar) ▸ valid
  drawn isGrammar := Option.some.inj (isKept.symm.trans isGrammar) ▸ drawn

section Orderly

variable {start : Nat} {state state' : State} {supply supply' : Supply}
  (orderly : Orderly start state supply)

include orderly

/-- An orderly state stays so as long as its grammar does. -/
theorem Orderly.of_sameGrammar
    (sameGrammar : state'.grammar = state.grammar)
    (advances : supply.Advances supply') :
    Orderly start state' supply' where
  started := Nat.le_trans orderly.started advances.used_le
  valid isKept := orderly.valid (sameGrammar.symm.trans isKept)
  drawn isKept := (orderly.drawn (sameGrammar.symm.trans isKept)).advance advances

/-- What is loaded from an orderly state is in order, whether it was kept or is the initial grammar.
-/
theorem Orderly.loaded :
    (loaded state supply).1.Valid ∧
      (loaded state supply).2.Drawn start (loaded state supply).1.ids := by
  rw [Store.loaded]
  cases isKept : state.grammar with
  | some grammar => exact ⟨orderly.valid isKept, orderly.drawn isKept⟩
  | none => exact ⟨Grammar.valid_initial supply, Grammar.drawn_initial orderly.started⟩

/-! ## Steps and runs -/

/-- Every operation keeps the state orderly. -/
theorem Transition.keepsOrderly
    {systemInfo : SystemInfo}
    {operation : Operation}
    {answer : Except SessionError Answer}
    (transition : Transition systemInfo state supply operation answer state' supply') :
    Orderly start state' supply' := by
  have advances := transition.advances
  have started := Nat.le_trans orderly.started advances.used_le
  cases transition with
  | edited isEdited =>
      obtain ⟨allowed, isPerformed⟩ := (Edit.apply_eq_ok_iff _ _ _ _).mp isEdited
      obtain ⟨valid, drawn⟩ := orderly.loaded
      have loadedStarted := Nat.le_trans orderly.started (advances_loaded state supply).used_le
      exact orderly_of_some started rfl (isPerformed ▸ Edit.valid_perform valid allowed _)
        (Edit.drawn_applyTaking drawn loadedStarted isEdited)
  | validationFailed _ count _ _ _ =>
      exact orderly.of_sameGrammar (Validation.grammar_saved _ state count) advances
  | validated _ => exact orderly.of_sameGrammar (Validation.grammar_saved _ state 3) advances
  | resetFailed _ => exact orderly_of_none started rfl
  | reset =>
      exact orderly_of_some started rfl (Grammar.valid_initial supply)
        (Grammar.drawn_initial orderly.started)
  | _ => exact orderly.of_sameGrammar rfl advances

end Orderly

/-- After any operations, an orderly state is kept if one was kept before. -/
theorem exists_orderly_performAll
    {medium : Medium σ}
    {Keeps : σ → State → Prop}
    (faithful : medium.Faithful Keeps)
    (systemInfo : SystemInfo)
    {start : Nat}
    (operations : List Operation)
    {world : World σ}
    {state : State}
    (keeps : Keeps world.medium state)
    (orderly : Orderly start state world.supply) :
    let reached := performAll medium systemInfo world operations
    ∃ state', Keeps reached.medium state' ∧ Orderly start state' reached.supply := by
  let KeepsOrderly (between : World σ) : Prop :=
    ∃ state', Keeps between.medium state' ∧ Orderly start state' between.supply
  refine afterAll_invariant KeepsOrderly ⟨state, keeps, orderly⟩ ?_ operations
  rintro operation between ⟨kept, isKept, stillOrderly⟩
  obtain ⟨next, isNext, transition⟩ := exists_transition faithful isKept systemInfo operation
  exact ⟨next, isNext, transition.keepsOrderly stillOrderly⟩

/-! ## The grammars that are reached -/

/-- A word is refused for a fault of the grammar only if there is no verdict on it. -/
theorem Transition.validate_eq_error
    {systemInfo : SystemInfo}
    {state state' : State}
    {supply supply' : Supply}
    {word : Text}
    {error : GrammarError}
    (transition : Transition systemInfo state supply (.validateWord word) (.error (.grammar error))
      state' supply') :
    Derivation.validate (loaded state supply).1 word = .error error := by
  cases transition with
  | validationRefused isError => exact isError

theorem validate_ne_notWellFormed
    {grammar : Grammar}
    (wellFormed : grammar.WellFormed)
    (word : Text) :
    Derivation.validate grammar word ≠ .error .notWellFormed := by
  rw [Derivation.validate_of_wellFormed wellFormed]
  split <;> exact fun same => nomatch same

/-- In a session over a faithful medium that begins with nothing, after any operations, whether they
succeed or fail: every grammar that is loaded is valid, and if no identifier was handed out twice,
those of its entries are distinct; and no word is refused because the grammar is not well formed. -/
theorem loaded_grammar_valid
    {medium : Medium σ}
    {Keeps : σ → State → Prop}
    (faithful : medium.Faithful Keeps)
    (systemInfo : SystemInfo)
    (operations : List Operation)
    (world : World σ)
    (empty : Keeps world.medium .empty) :
    let reached := performAll medium systemInfo world operations
    let load := (loadGrammar medium).outcome reached
    (∀ grammar, load.1 = .ok grammar →
      grammar.Valid ∧ (load.2.supply.NeverRepeats world.supply.used → grammar.ids.Nodup)) ∧
    ∀ word, ((perform medium systemInfo (.validateWord word)).outcome reached).1 ≠
      .error (.grammar .notWellFormed) := by
  intro reached load
  obtain ⟨state, keeps, orderly⟩ := exists_orderly_performAll faithful systemInfo operations empty
    (orderly_of_none (Nat.le_refl world.supply.used) rfl)
  obtain ⟨valid, drawn⟩ := orderly.loaded
  constructor
  · intro grammar isLoaded
    cases round_loadGrammar faithful keeps reached.supply with
    | failed _ _ _ fails => exact nomatch (Runs.outcome fails).1.symm.trans isLoaded
    | done _ _ loads =>
        obtain rfl := Except.ok.inj ((Runs.outcome loads).1.symm.trans isLoaded)
        refine ⟨valid, fun neverRepeats => ?_⟩
        have supply_eq : load.2.supply = (loaded state reached.supply).2 := Runs.supply_eq loads
        exact drawn.nodup (supply_eq ▸ neverRepeats)
  · intro word isRefused
    obtain ⟨_, _, transition⟩ := exists_transition faithful keeps systemInfo (.validateWord word)
    rw [isRefused] at transition
    exact validate_ne_notWellFormed valid.toWellFormed word transition.validate_eq_error

/-- A world in memory in which nothing is kept. -/
def emptyWorld : World State where
  medium := .empty
  supply := .ofSeed 0
  log := []

/-- A few edits, of which the third is refused, and a validation. -/
def fewOperations : List Operation :=
  [.edit (.addNonTerminal "C"), .edit (.updateNonTerminal 0 "T"), .edit (.addTerminal " "),
    .edit (.addProduction "C" "ab"), .validateWord "abab"]

/-- After these the grammar starts from the new name of the nonterminal that was renamed. -/
theorem loaded_grammar_valid_fewOperations :
    let load := (loadGrammar memory).outcome (performAll memory .host emptyWorld fewOperations)
    load.2.supply.NeverRepeats emptyWorld.supply.used ∧
    ∃ grammar, load.1 = .ok grammar ∧ grammar.startSymbol = "T" ∧ grammar.productions.length = 4 ∧
      grammar.Valid ∧ grammar.ids.Nodup := by
  have summary : ((loadGrammar memory).outcome
      (performAll memory .host emptyWorld fewOperations)).1.map
        (fun grammar => (grammar.startSymbol, grammar.productions.length)) = .ok ("T", 4) := by
    decide +kernel
  have neverRepeats : ((loadGrammar memory).outcome
      (performAll memory .host emptyWorld fewOperations)).2.supply.NeverRepeats
        emptyWorld.supply.used := by
    decide +kernel
  obtain ⟨grammar, isLoaded, counted⟩ := exists_of_map_eq_ok summary
  obtain ⟨startSymbol, productions⟩ := Prod.mk.inj counted
  obtain ⟨valid, nodup⟩ :=
    (loaded_grammar_valid faithful_memory .host fewOperations emptyWorld rfl).1 grammar isLoaded
  exact ⟨neverRepeats, grammar, isLoaded, startSymbol, productions, valid, nodup neverRepeats⟩

end Session
end PhraseGrammar
