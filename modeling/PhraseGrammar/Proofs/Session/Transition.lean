import PhraseGrammar.Proofs.Grammar.Identifiers
import PhraseGrammar.Proofs.Session.Running
import PhraseGrammar.Proofs.Store.Faithful
import PhraseGrammar.Proofs.Supply

/-!
# What an operation of a session can come to

On a faithful medium, an operation of a session is told by the state that is kept: what it answers
and which state is kept then. `Transition` lists the cases, one for each point at which an operation
may come to its end. An operation saves in several rounds, and a validation whose rounds are cut
short leaves only the first of its three records.
-/

namespace PhraseGrammar

open Store

theorem Store.advances_loaded (state : State) (supply : Supply) :
    supply.Advances (loaded state supply).2 := by
  rw [loaded]
  cases state.grammar with
  | some _ => exact .refl supply
  | none => exact Supply.advances_initial supply

namespace Session

open Medium PhraseGrammar.Action

/-! ## The records of a validation -/

/-- What a validation saves. -/
structure Validation where
  verdict : Verdict
  derivationTree : Option LabelledTree
  generalTree : LabelledTree

/-- What a validation of the word against the grammar has to save, with new identifiers. -/
def validation (grammar : Grammar) (word : Text) (supply : Supply) :
    Except GrammarError (Validation × Supply) := do
  let verdict ← Derivation.validate grammar word
  let expansion ← grammar.generalTree
  let (derivationTree, supply) := identifiedChain verdict supply
  let (generalTree, supply) := expansion.identify supply
  return ({ verdict, derivationTree, generalTree }, supply)

/-- The state after the first of the records were saved, in the order in which they are. -/
def Validation.saved (records : Validation) (state : State) : (count : Nat) → State
  | 0 => state
  | 1 => { state with verdict := some records.verdict }
  | 2 =>
      { state with
        verdict := some records.verdict
        derivationTree := records.derivationTree }
  | _ =>
      { state with
        verdict := some records.verdict
        derivationTree := records.derivationTree
        generalTree := some records.generalTree }

/-- No validation touches the grammar. -/
theorem Validation.grammar_saved (records : Validation) (state : State) (count : Nat) :
    (records.saved state count).grammar = state.grammar := by
  unfold saved
  split <;> rfl

theorem advances_identifiedChain (verdict : Verdict) (supply : Supply) :
    supply.Advances (identifiedChain verdict supply).2 := by
  rw [identifiedChain]
  cases Tree.ofSteps? verdict.steps with
  | none => exact .refl supply
  | some chain => exact Supply.advances_identify chain supply

/-- A grammar against which a word can be validated also has a general tree: both ask whether the
grammar is well formed, and nothing else is asked for the tree. -/
theorem exists_validation
    {grammar : Grammar}
    {word : Text}
    {verdict : Verdict}
    (isVerdict : Derivation.validate grammar word = .ok verdict)
    (supply : Supply) :
    ∃ expansion, grammar.generalTree = .ok expansion ∧
      let derivation := identifiedChain verdict supply
      let general := expansion.identify derivation.2
      validation grammar word supply =
        .ok ({ verdict, derivationTree := derivation.1, generalTree := general.1 }, general.2) := by
  have wellFormed := ((Derivation.validate_eq_ok_iff grammar word verdict).mp isVerdict).1
  obtain ⟨expansion, isExpansion, _⟩ := Grammar.exists_generalTree wellFormed
  refine ⟨expansion, isExpansion, ?_⟩
  rw [validation, isVerdict, isExpansion]
  rfl

theorem advances_validation
    {grammar : Grammar}
    {word : Text}
    {supply supply' : Supply}
    {records : Validation}
    (isValidation : validation grammar word supply = .ok (records, supply')) :
    supply.Advances supply' := by
  obtain ⟨verdict, isVerdict, _⟩ := exists_of_bind_eq_ok isValidation
  obtain ⟨expansion, _, isKnown⟩ := exists_validation isVerdict supply
  obtain ⟨_, rfl⟩ := Prod.mk.inj (Except.ok.inj (isKnown.symm.trans isValidation))
  exact (advances_identifiedChain verdict supply).trans (Supply.advances_identify expansion _)

/-! ## The cases -/

/-- What an operation can come to, from a state that is kept and a supply: its answer, the state
that is kept afterwards, and the remaining supply. -/
inductive Transition (systemInfo : SystemInfo) (state : State) (supply : Supply) :
    Operation → Except SessionError Answer → State → Supply → Prop
  /-- The medium fails before anything is written. -/
  | failed (operation : Operation)
      (cause : Text)
      {supply' : Supply}
      (advances : supply.Advances supply') :
      Transition systemInfo state supply operation (.error (.failure operation.task cause)) state
        supply'
  | start :
      Transition systemInfo state supply .start
        (.ok (.overview
          { grammar := (loaded state supply).1
            verdict := state.verdict
            derivationTree := state.derivationTree
            generalTree := state.generalTree
            systemInfo }))
        state (loaded state supply).2
  | derivationTree :
      Transition systemInfo state supply .derivationTree (.ok (.tree state.derivationTree)) state
        supply
  | generalTree :
      Transition systemInfo state supply .generalTree (.ok (.tree state.generalTree)) state supply
  /-- The grammar does not allow the edit. -/
  | editRefused {edit : Edit}
      {error : GrammarError}
      (isError : (edit.applyTaking (loaded state supply).1 (loaded state supply).2).1 =
        .error error) :
      Transition systemInfo state supply (.edit edit) (.error (.grammar error)) state
        (edit.applyTaking (loaded state supply).1 (loaded state supply).2).2
  | edited {edit : Edit}
      {grammar : Grammar}
      (isEdited : (edit.applyTaking (loaded state supply).1 (loaded state supply).2).1 =
        .ok grammar) :
      Transition systemInfo state supply (.edit edit) (.ok (.grammar grammar))
        { state with grammar := some grammar }
        (edit.applyTaking (loaded state supply).1 (loaded state supply).2).2
  /-- There is no verdict. -/
  | validationRefused {word : Text}
      {error : GrammarError}
      (isError : Derivation.validate (loaded state supply).1 word = .error error) :
      Transition systemInfo state supply (.validateWord word) (.error (.grammar error)) state
        (loaded state supply).2
  /-- The medium fails when some records, but not all, are saved. -/
  | validationFailed {word : Text}
      {records : Validation}
      {supply' : Supply}
      (isValidation : validation (loaded state supply).1 word (loaded state supply).2 =
        .ok (records, supply'))
      (count : Nat)
      (someSaved : 0 < count)
      (notAll : count < 3)
      (cause : Text) :
      Transition systemInfo state supply (.validateWord word)
        (.error (.failure .validateWord cause)) (records.saved state count) supply'
  | validated {word : Text}
      {records : Validation}
      {supply' : Supply}
      (isValidation : validation (loaded state supply).1 word (loaded state supply).2 =
        .ok (records, supply')) :
      Transition systemInfo state supply (.validateWord word) (.ok (.verdict records.verdict))
        (records.saved state 3) supply'
  /-- Everything is forgotten, but the medium fails when the initial grammar is to be saved. -/
  | resetFailed (cause : Text) :
      Transition systemInfo state supply .reset (.error (.failure .reset cause)) .empty
        (Grammar.initial supply).2
  | reset :
      Transition systemInfo state supply .reset (.ok (.grammar (Grammar.initial supply).1))
        { State.empty with grammar := some (Grammar.initial supply).1 } (Grammar.initial supply).2

section Transition

variable {systemInfo : SystemInfo} {state state' : State} {supply supply' : Supply}
  {operation : Operation} {answer : Except SessionError Answer}

/-- Identifiers are only ever taken. -/
theorem Transition.advances
    (transition : Transition systemInfo state supply operation answer state' supply') :
    supply.Advances supply' := by
  have loads := advances_loaded state supply
  cases transition with
  | failed _ _ advances => exact advances
  | start => exact loads
  | derivationTree => exact .refl supply
  | generalTree => exact .refl supply
  | editRefused _ => exact loads.trans (Edit.advances_applyTaking _ _ _)
  | edited _ => exact loads.trans (Edit.advances_applyTaking _ _ _)
  | validationRefused _ => exact loads
  | validationFailed isValidation => exact loads.trans (advances_validation isValidation)
  | validated isValidation => exact loads.trans (advances_validation isValidation)
  | resetFailed _ => exact Supply.advances_initial supply
  | reset => exact Supply.advances_initial supply

end Transition

/-! ## There are no other cases -/

/-- The action leads to an answer, a condition in which some state is kept, and a supply, and these
are related as stated. -/
def Leads
    (Keeps : σ → State → Prop)
    (action : Action σ SessionError α)
    (before : Setting σ)
    (Related : Except SessionError α → State → Supply → Prop) : Prop :=
  ∃ answer condition state supply,
    action.Runs before answer ⟨condition, supply⟩ ∧ Keeps condition state ∧
      Related answer state supply

namespace Leads

variable {Keeps : σ → State → Prop} {before between : Setting σ} {condition : σ}
  {state next : State} {supply supply' : Supply}

theorem pure
    {Related : Except SessionError α → State → Supply → Prop}
    {value : α}
    (keeps : Keeps condition state)
    (related : Related (.ok value) state supply) :
    Leads Keeps (Pure.pure value) ⟨condition, supply⟩ Related :=
  ⟨.ok value, condition, state, supply, .pure value, keeps, related⟩

theorem attempt
    {action : Action σ SessionError α}
    {Related : Except SessionError α → State → Supply → Prop}
    (leads : Leads Keeps action before Related)
    (task : Task) :
    Leads Keeps (Session.attempt task action) before Related := by
  obtain ⟨answer, condition, state, supply, runs, reached⟩ := leads
  exact ⟨answer, condition, state, supply, runs.attempt task, reached⟩

theorem map
    {action : Action σ SessionError α}
    {function : α → β}
    {Related : Except SessionError β → State → Supply → Prop}
    (leads : Leads Keeps action before fun answer => Related (answer.map function)) :
    Leads Keeps (function <$> action) before Related := by
  obtain ⟨answer, condition, state, supply, runs, reached⟩ := leads
  exact ⟨answer.map function, condition, state, supply, runs.map function, reached⟩

variable {rest : α → Action σ SessionError β}
  {Related : Except SessionError β → State → Supply → Prop}

/-- An action whose value is known leads where the rest does. -/
theorem bind
    {action : Action σ SessionError α}
    {value : α}
    (runs : action.Runs before (.ok value) between)
    (leads : Leads Keeps (rest value) between Related) :
    Leads Keeps (action >>= rest) before Related := by
  obtain ⟨answer, condition, state, supply, next, reached⟩ := leads
  exact ⟨answer, condition, state, supply, runs.bind next, reached⟩

/-- An error ends it all. -/
theorem bind_error
    {action : Action σ SessionError α}
    {error : SessionError}
    (runs : action.Runs before (.error error) ⟨condition, supply⟩)
    (keeps : Keeps condition state)
    (related : Related (.error error) state supply) :
    Leads Keeps (action >>= rest) before Related :=
  ⟨.error error, condition, state, supply, runs.bind_error rest, keeps, related⟩

/-- A round with the medium fails without effect, or it is done and the rest follows. -/
theorem round
    {action : Action σ StoreFailure α}
    {value : α}
    {task : Task}
    (round : Round Keeps action ⟨condition, supply⟩ state value next supply')
    (failed : ∀ cause, Related (.error (.failure task cause)) state supply)
    (done : ∀ condition, Keeps condition next →
      Leads Keeps (rest value) ⟨condition, supply'⟩ Related) :
    Leads Keeps (stored task action >>= rest) ⟨condition, supply⟩ Related := by
  cases round with
  | done after keeps runs => exact bind (runs.stored task) (done after keeps)
  | failed after failure keeps runs =>
      exact bind_error (runs.stored task) keeps (failed failure.message)

end Leads

section Faithful

variable {medium : Medium σ} {Keeps : σ → State → Prop} (faithful : medium.Faithful Keeps)
  {condition : σ} {state : State} (keeps : Keeps condition state) (supply : Supply)
  (systemInfo : SystemInfo)

include faithful keeps

theorem leads_start :
    Leads Keeps (perform medium systemInfo .start) ⟨condition, supply⟩
      (Transition systemInfo state supply .start) := by
  have advances := advances_loaded state supply
  apply Leads.map
  apply Leads.attempt
  refine .round (round_loadGrammar faithful keeps supply) (.failed .start · (.refl supply)) ?_
  intro _ keeps
  refine .round (round_loadRecord faithful keeps _ State.verdict) (.failed .start · advances) ?_
  intro _ keeps
  refine .round (round_loadRecord faithful keeps _ State.derivationTree)
    (.failed .start · advances) ?_
  intro _ keeps
  refine .round (round_loadRecord faithful keeps _ State.generalTree) (.failed .start · advances) ?_
  intro _ keeps
  exact .pure keeps .start

/-- An operation that only loads a tree. -/
theorem leads_loadTree
    (tree : State → Option LabelledTree)
    (operation : Operation)
    (transition : Transition systemInfo state supply operation (.ok (.tree (tree state))) state
      supply) :
    Leads Keeps
      (Answer.tree <$> attempt operation.task
        (stored operation.task (do return tree (← read medium))))
      ⟨condition, supply⟩ (Transition systemInfo state supply operation) := by
  apply Leads.map
  apply Leads.attempt
  cases round_loadRecord faithful keeps supply tree with
  | done after keeps runs => exact ⟨_, after, state, supply, runs.stored _, keeps, transition⟩
  | failed after failure keeps runs =>
      exact ⟨_, after, state, supply, runs.stored _, keeps,
        .failed operation failure.message (.refl supply)⟩

theorem leads_edit (edit : Edit) :
    Leads Keeps (perform medium systemInfo (.edit edit)) ⟨condition, supply⟩
      (Transition systemInfo state supply (.edit edit)) := by
  have advances := (advances_loaded state supply).trans
    (edit.advances_applyTaking (loaded state supply).1 (loaded state supply).2)
  apply Leads.map
  apply Leads.attempt
  refine .round (round_loadGrammar faithful keeps supply) (.failed (.edit edit) · (.refl supply)) ?_
  intro _ keeps
  apply Leads.bind (.taking _)
  cases applied : (edit.applyTaking (loaded state supply).1 (loaded state supply).2).1 with
  | error error =>
      exact .bind_error (.ruled_error rfl) keeps (.editRefused applied)
  | ok edited =>
      apply Leads.bind (.ruled_ok rfl)
      refine .round (round_update faithful keeps _ _) (.failed (.edit edit) · advances) ?_
      intro _ keeps
      exact .pure keeps (.edited applied)

theorem leads_validateWord (word : Text) :
    Leads Keeps (perform medium systemInfo (.validateWord word)) ⟨condition, supply⟩
      (Transition systemInfo state supply (.validateWord word)) := by
  have advances := advances_loaded state supply
  apply Leads.map
  apply Leads.attempt
  refine .round (round_loadGrammar faithful keeps supply)
    (.failed (.validateWord word) · (.refl supply)) ?_
  intro _ keeps
  apply Leads.bind (.noteAll _)
  cases judged : Derivation.validate (loaded state supply).1 word with
  | error error =>
      exact .bind_error (.ruled_error rfl) keeps (.validationRefused judged)
  | ok verdict =>
      obtain ⟨expansion, isExpansion, isValidation⟩ :=
        exists_validation judged (loaded state supply).2
      apply Leads.bind (.ruled_ok rfl)
      refine .round (round_update faithful keeps _ _)
        (.failed (.validateWord word) · advances) ?_
      intro _ keeps
      apply Leads.bind (.taking _)
      apply Leads.bind (.ruled_ok isExpansion)
      apply Leads.bind (.taking _)
      refine .round (round_update faithful keeps _ _)
        (.validationFailed isValidation 1 (by decide) (by decide) ·) ?_
      intro _ keeps
      refine .round (round_update faithful keeps _ _)
        (.validationFailed isValidation 2 (by decide) (by decide) ·) ?_
      intro _ keeps
      apply Leads.bind (.note _)
      exact .pure keeps (.validated isValidation)

theorem leads_reset :
    Leads Keeps (perform medium systemInfo .reset) ⟨condition, supply⟩
      (Transition systemInfo state supply .reset) := by
  apply Leads.map
  apply Leads.attempt
  refine .round (round_write faithful keeps supply _) (.failed .reset · (.refl supply)) ?_
  intro _ keeps
  apply Leads.bind (.taking _)
  refine .round (round_update faithful keeps _ _) (.resetFailed ·) ?_
  intro _ keeps
  exact .pure keeps .reset

/-- On a faithful medium, every operation comes to one of the cases. -/
theorem leads_perform (operation : Operation) :
    Leads Keeps (perform medium systemInfo operation) ⟨condition, supply⟩
      (Transition systemInfo state supply operation) := by
  cases operation with
  | start => exact leads_start faithful keeps supply systemInfo
  | validateWord word => exact leads_validateWord faithful keeps supply systemInfo word
  | edit edit => exact leads_edit faithful keeps supply systemInfo edit
  | derivationTree =>
      exact leads_loadTree faithful keeps supply systemInfo State.derivationTree .derivationTree
        .derivationTree
  | generalTree =>
      exact leads_loadTree faithful keeps supply systemInfo State.generalTree .generalTree
        .generalTree
  | reset => exact leads_reset faithful keeps supply systemInfo

end Faithful

/-- The transition that an operation makes in a world. -/
theorem exists_transition
    {medium : Medium σ}
    {Keeps : σ → State → Prop}
    (faithful : medium.Faithful Keeps)
    {world : World σ}
    {state : State}
    (keeps : Keeps world.medium state)
    (systemInfo : SystemInfo)
    (operation : Operation) :
    let outcome := (perform medium systemInfo operation).outcome world
    ∃ state', Keeps outcome.2.medium state' ∧
      Transition systemInfo state world.supply operation outcome.1 state' outcome.2.supply := by
  obtain ⟨answer, condition', state', supply', runs, keeps', transition⟩ :=
    leads_perform faithful keeps world.supply systemInfo operation
  refine ⟨state', ?_, ?_⟩
  · rw [Runs.medium_eq runs]
    exact keeps'
  · rw [(Runs.outcome runs).1, Runs.supply_eq runs]
    exact transition

end Session
end PhraseGrammar
