import PhraseGrammar.Proofs.Derivation.Verdict
import PhraseGrammar.Proofs.Store.File
import PhraseGrammar.Proofs.Tree.Levels
import PhraseGrammar.Session.Operation

/-!
# Sessions over a file

What each operation of a session answers, and what it leaves in a file that may be written: from a
file whose state can be read, and from one whose state can not. A validation that yields a verdict
saves three records in turn. The tree of the derivation is the second, and it has a level for each
step; so if there are too many steps, the third record meets a document that can not be read.
-/

namespace PhraseGrammar

namespace Action

variable {before after : Setting σ}

/-- Noting a failure changes no answer. -/
theorem Runs.attempt
    {action : Action σ SessionError α}
    {answer : Except SessionError α}
    (runs : action.Runs before answer after)
    (task : Task) :
    (Session.attempt task action).Runs before answer after := by
  intro log
  obtain ⟨log', isOutcome⟩ := runs log
  rw [Session.attempt, outcome_tryCatch, isOutcome]
  cases answer with
  | error error => exact ⟨log' ++ [Session.failureRecord task error], rfl⟩
  | ok _ => exact ⟨log', rfl⟩

theorem Runs.stored
    {action : Action σ StoreFailure α}
    {answer : Except StoreFailure α}
    (runs : action.Runs before answer after)
    (task : Task) :
    (Session.stored task action).Runs before
      (answer.mapError fun failure => .failure task failure.message) after :=
  runs.mapError _

/-- A failure of the store is one of the task. -/
theorem Runs.failing
    {action : Action σ StoreFailure α}
    {failure : StoreFailure}
    (runs : action.Runs before (.error failure) after)
    (task : Task)
    (next : α → Action σ SessionError β) :
    (Session.attempt task (Session.stored task action >>= next)).Runs before
      (.error (.failure task failure.message)) after :=
  ((runs.stored task).bind_error next).attempt task

theorem Runs.ruled_ok
    {result : Except GrammarError α}
    {value : α}
    (isOk : result = .ok value) :
    (Session.ruled result : Action σ SessionError α).Runs before (.ok value) before := by
  subst isOk
  exact .ofExcept _

theorem Runs.ruled_error
    {result : Except GrammarError α}
    {error : GrammarError}
    (isError : result = .error error) :
    (Session.ruled result : Action σ SessionError α).Runs before (.error (.grammar error))
      before := by
  subst isError
  exact .ofExcept _

end Action

namespace Session

open Medium PhraseGrammar.Action Store

/-- What is attempted by an operation. -/
def Operation.task : Operation → Task
  | .start => .start
  | .validateWord _ => .validateWord
  | .edit change => change.task
  | .derivationTree => .loadDerivationTree
  | .generalTree => .loadGeneralTree
  | .reset => .reset

/-- The world after operations of a session in turn. -/
abbrev performAll
    (medium : Medium σ)
    (systemInfo : SystemInfo)
    (world : World σ)
    (operations : List Operation) : World σ :=
  afterAll (perform medium systemInfo) world operations

variable {path : Text} {slot : Slot} {supply : Supply}

/-- The tree of a verdict is the chain of its forms. -/
theorem exists_labels_identifiedChain
    {verdict : Verdict}
    {first : Text}
    {rest : List Text}
    (forms : verdict.steps.map DerivationStep.form = first :: rest)
    (supply : Supply) :
    ∃ tree, (identifiedChain verdict supply).1 = some tree ∧
      tree.labels = Tree.chain first rest := by
  obtain ⟨step, steps, isSteps, rfl, rfl⟩ := List.map_eq_cons_iff.mp forms
  have isChain : Tree.ofSteps? verdict.steps =
      some (Tree.chain step.form (steps.map DerivationStep.form)) := by
    rw [isSteps]
    rfl
  refine ⟨(Tree.identify _ supply).1, ?_, Tree.labels_identify _ supply⟩
  rw [identifiedChain, isChain]
  rfl

/-- It has a level for each of its steps. -/
theorem exists_identifiedChain
    {grammar : Grammar}
    {word : Text}
    {verdict : Verdict}
    (isVerdict : Derivation.validate grammar word = .ok verdict)
    (supply : Supply) :
    ∃ tree, (identifiedChain verdict supply).1 = some tree ∧
      tree.levels = verdict.steps.length := by
  obtain ⟨_, _, rfl⟩ := (Derivation.validate_eq_ok_iff grammar word verdict).mp isVerdict
  obtain ⟨tree, isTree, labels⟩ :=
    exists_labels_identifiedChain (Derivation.forms_verdict _ _) supply
  refine ⟨tree, isTree, ?_⟩
  rw [← Tree.levels_map TreeLabel.label, ← Tree.labels, labels, Tree.levels_chain,
    Derivation.length_steps_verdict]

section Readable

variable {state : State} (isRead : (readSlot path slot).result = .ok state)

include isRead

theorem runs_start (systemInfo : SystemInfo) :
    (start (file path) systemInfo).Runs ⟨slot, supply⟩
      (.ok { grammar := (loaded state supply).1
             verdict := state.verdict
             derivationTree := state.derivationTree
             generalTree := state.generalTree
             systemInfo })
      ⟨slot, (loaded state supply).2⟩ := by
  apply Runs.attempt
  apply ((runs_loadGrammar isRead).stored _).bind
  apply ((runs_loadRecord isRead State.verdict).stored _).bind
  apply ((runs_loadRecord isRead State.derivationTree).stored _).bind
  exact ((runs_loadRecord isRead State.generalTree).stored _).bind (.pure _)

theorem runs_derivationTree :
    (derivationTree (file path)).Runs ⟨slot, supply⟩ (.ok state.derivationTree) ⟨slot, supply⟩ :=
  ((runs_loadRecord isRead State.derivationTree).stored _).attempt _

theorem runs_generalTree :
    (generalTree (file path)).Runs ⟨slot, supply⟩ (.ok state.generalTree) ⟨slot, supply⟩ :=
  ((runs_loadRecord isRead State.generalTree).stored _).attempt _

/-- An edit that the grammar refuses changes nothing. -/
theorem runs_edit_error
    {edit : Edit}
    {error : GrammarError}
    (isError : (edit.applyTaking (loaded state supply).1 (loaded state supply).2).1 =
      .error error) :
    (Session.edit (file path) edit).Runs ⟨slot, supply⟩ (.error (.grammar error))
      ⟨slot, (edit.applyTaking (loaded state supply).1 (loaded state supply).2).2⟩ := by
  apply Runs.attempt
  apply ((runs_loadGrammar isRead).stored _).bind
  apply (Runs.taking _).bind
  exact (Runs.ruled_error isError).bind_error _

/-- A validation without a verdict changes nothing. -/
theorem runs_validateWord_error
    {word : Text}
    {error : GrammarError}
    (isError : Derivation.validate (loaded state supply).1 word = .error error) :
    (validateWord (file path) word).Runs ⟨slot, supply⟩ (.error (.grammar error))
      ⟨slot, (loaded state supply).2⟩ := by
  apply Runs.attempt
  apply ((runs_loadGrammar isRead).stored _).bind
  apply (Runs.noteAll _).bind
  exact (Runs.ruled_error isError).bind_error _

variable (writable : slot.refusal = none)

include writable

/-- An edit that the grammar allows leaves the edited grammar. -/
theorem runs_edit
    {edit : Edit}
    {edited : Grammar}
    (isEdited : (edit.applyTaking (loaded state supply).1 (loaded state supply).2).1 =
      .ok edited) :
    (Session.edit (file path) edit).Runs ⟨slot, supply⟩ (.ok edited)
      ⟨.holding { state with grammar := some edited },
        (edit.applyTaking (loaded state supply).1 (loaded state supply).2).2⟩ := by
  apply Runs.attempt
  apply ((runs_loadGrammar isRead).stored _).bind
  apply (Runs.taking _).bind
  apply (Runs.ruled_ok isEdited).bind
  exact ((runs_update isRead writable _).stored _).bind (.pure _)

/-- A validation with a verdict leaves the verdict and the tree of the derivation. Then the general
tree is saved too, if there are no more steps than a tree that is read back has levels, and
otherwise the validation fails. -/
theorem exists_runs_validateWord
    {word : Text}
    {verdict : Verdict}
    (isVerdict : Derivation.validate (loaded state supply).1 word = .ok verdict) :
    ∃ derivationTree generalTree : LabelledTree, ∃ supply',
      (verdict.steps.length ≤ levelLimit →
        let final : State :=
          { state with
            verdict := some verdict
            derivationTree := some derivationTree
            generalTree := some generalTree }
        final.Shallow ∧
          (validateWord (file path) word).Runs ⟨slot, supply⟩ (.ok verdict)
            ⟨.holding final, supply'⟩) ∧
      (levelLimit < verdict.steps.length →
        let final : State :=
          { state with
            verdict := some verdict
            derivationTree := some derivationTree }
        ¬final.Shallow ∧ ∃ failure, IsTooDeep path failure ∧
          (validateWord (file path) word).Runs ⟨slot, supply⟩
            (.error (.failure .validateWord failure.message)) ⟨.holding final, supply'⟩) := by
  have wellFormed := ((Derivation.validate_eq_ok_iff _ word verdict).mp isVerdict).1
  have shallow := shallow_of_readSlot isRead
  obtain ⟨tree, isTree, levels⟩ := exists_identifiedChain isVerdict (loaded state supply).2
  obtain ⟨expansion, isExpansion, expansionLevels⟩ := Grammar.exists_generalTree wellFormed
  let judged : State := { state with verdict := some verdict }
  let derived : State := { judged with derivationTree := some tree }
  let taken := expansion.identify (identifiedChain verdict (loaded state supply).2).2
  have judgedShallow : judged.Shallow := ⟨shallow.derivationTree, shallow.generalTree⟩
  -- All but the last save are done in any case.
  have lead : ∀ {answer after},
      (do stored .validateWord (saveGeneralTree (file path) (some taken.1))
          note (validatedRecord word verdict)
          return verdict : Action Slot SessionError Verdict).Runs
        ⟨.holding derived, taken.2⟩ answer after →
      (validateWord (file path) word).Runs ⟨slot, supply⟩ answer after := by
    intro answer after last
    apply Runs.attempt
    apply ((runs_loadGrammar isRead).stored _).bind
    apply (Runs.noteAll _).bind
    apply (Runs.ruled_ok isVerdict).bind
    apply ((runs_update isRead writable _).stored _).bind
    apply (Runs.taking _).bind
    apply (Runs.ruled_ok isExpansion).bind
    apply (Runs.taking _).bind
    have isJudged : (readSlot path (.holding judged)).result = .ok judged :=
      readSlot_holding path judgedShallow
    apply ((runs_update isJudged rfl _).stored _).bind
    simp only [isTree]
    exact last
  refine ⟨tree, taken.1, taken.2, ?_, ?_⟩
  · intro few
    have derivationShallow : ∀ other ∈ some tree, other.levels ≤ levelLimit := by
      rintro other ⟨⟩
      exact levels ▸ few
    have generalShallow : ∀ other ∈ some taken.1, other.levels ≤ levelLimit := by
      rintro other ⟨⟩
      rw [Tree.levels_identify]
      exact expansionLevels.trans (by decide)
    have isDerived : (readSlot path (.holding derived)).result = .ok derived :=
      readSlot_holding path ⟨derivationShallow, shallow.generalTree⟩
    refine ⟨⟨derivationShallow, generalShallow⟩, lead ?_⟩
    exact ((runs_update isDerived rfl _).stored _).bind ((Runs.note _).bind (.pure verdict))
  · intro many
    have deep : ¬derived.Shallow := by
      intro derivedShallow
      have := derivedShallow.derivationTree tree rfl
      omega
    obtain ⟨failure, isRefused, isTooDeep⟩ := readSlot_holding_tooDeep path deep
    refine ⟨deep, failure, isTooDeep, lead ?_⟩
    exact ((runs_reading_error isRefused _).stored _).bind_error _

end Readable

/-- Going back to the initial grammar succeeds whatever the file holds. -/
theorem runs_reset (writable : slot.refusal = none) :
    (reset (file path)).Runs ⟨slot, supply⟩ (.ok (Grammar.initial supply).1)
      ⟨.holding { State.empty with grammar := some (Grammar.initial supply).1 },
        (Grammar.initial supply).2⟩ := by
  have isEmpty : (readSlot path (.holding .empty)).result = .ok .empty :=
    readSlot_holding path State.shallow_empty
  apply Runs.attempt
  apply ((runs_write writable).stored _).bind
  apply (Runs.taking Grammar.initial).bind
  exact ((runs_update isEmpty rfl _).stored _).bind (.pure _)

/-- From a file that can not be read, everything but going back to the initial grammar fails and
changes nothing. -/
theorem runs_perform_error
    {failure : StoreFailure}
    (isRefused : (readSlot path slot).result = .error failure)
    (systemInfo : SystemInfo)
    {operation : Operation}
    (isNoReset : operation ≠ .reset) :
    (perform (file path) systemInfo operation).Runs ⟨slot, supply⟩
      (.error (.failure operation.task failure.message)) ⟨slot, supply⟩ := by
  cases operation with
  | start => exact ((runs_reading_error isRefused _).failing .start _).map Answer.overview
  | validateWord word =>
      exact ((runs_reading_error isRefused _).failing .validateWord _).map Answer.verdict
  | edit change => exact ((runs_reading_error isRefused _).failing change.task _).map Answer.grammar
  | derivationTree =>
      have fails : (derivationTree (file path)).Runs ⟨slot, supply⟩
          (.error (.failure .loadDerivationTree failure.message)) ⟨slot, supply⟩ :=
        ((runs_reading_error isRefused _).stored _).attempt _
      exact fails.map Answer.tree
  | generalTree =>
      have fails : (generalTree (file path)).Runs ⟨slot, supply⟩
          (.error (.failure .loadGeneralTree failure.message)) ⟨slot, supply⟩ :=
        ((runs_reading_error isRefused _).stored _).attempt _
      exact fails.map Answer.tree
  | reset => exact absurd rfl isNoReset

end Session
end PhraseGrammar
