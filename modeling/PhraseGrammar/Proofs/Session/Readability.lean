import PhraseGrammar.Proofs.Session.Running

/-!
# Which sessions leave a file that can be read

As long as a file can be read, an operation of a session leaves a file that can be read again, with
one exception: a validation whose verdict has more steps than a tree that is read back has levels.
Such a validation fails after it has replaced the document, and from then on nothing can be loaded.
So a session keeps the file readable exactly if no such validation is among its operations.
-/

namespace PhraseGrammar

namespace Action

/-- The action yields a value. -/
def Succeeds (action : Action σ ε α) (world : World σ) : Prop :=
  ∃ value, (action.outcome world).1 = .ok value

/-- The action yields no value. -/
def Fails (action : Action σ ε α) (world : World σ) : Prop :=
  ∃ error, (action.outcome world).1 = .error error

variable {world : World σ} {after : Setting σ}

theorem Runs.succeeds
    {action : Action σ ε α}
    {value : α}
    (runs : action.Runs world.setting (.ok value) after) :
    action.Succeeds world :=
  ⟨value, runs.outcome.1⟩

theorem Runs.fails
    {action : Action σ ε α}
    {error : ε}
    (runs : action.Runs world.setting (.error error) after) :
    action.Fails world :=
  ⟨error, runs.outcome.1⟩

end Action

namespace Session

open Medium PhraseGrammar.Action Store

/-- Each record can be loaded, and so can all of them when a session starts. -/
structure AllLoad (path : Text) (systemInfo : SystemInfo) (world : World Slot) : Prop where
  grammar : (loadGrammar (file path)).Succeeds world
  verdict : (loadVerdict (file path)).Succeeds world
  derivationTree : (loadDerivationTree (file path)).Succeeds world
  generalTree : (loadGeneralTree (file path)).Succeeds world
  start : (start (file path) systemInfo).Succeeds world

/-- No record can be loaded, and no session starts. -/
structure NoneLoads (path : Text) (systemInfo : SystemInfo) (world : World Slot) : Prop where
  grammar : (loadGrammar (file path)).Fails world
  verdict : (loadVerdict (file path)).Fails world
  derivationTree : (loadDerivationTree (file path)).Fails world
  generalTree : (loadGeneralTree (file path)).Fails world
  start : (start (file path) systemInfo).Fails world

/-- From the setting, a validation of the word comes to a verdict with more steps than a tree that
is read back has levels. -/
def Overlong (path word : Text) (setting : Setting Slot) : Prop :=
  ∃ state verdict, (readSlot path setting.medium).result = .ok state ∧
    Derivation.validate (loaded state setting.supply).1 word = .ok verdict ∧
    levelLimit < verdict.steps.length

variable {path : Text} {systemInfo : SystemInfo}

theorem allLoad_of_readable
    {world : World Slot}
    (readable : Readable path world.medium) :
    AllLoad path systemInfo world := by
  obtain ⟨state, isRead⟩ := readable
  exact
    { grammar := (runs_loadGrammar isRead).succeeds
      verdict := (runs_loadRecord isRead State.verdict).succeeds
      derivationTree := (runs_loadRecord isRead State.derivationTree).succeeds
      generalTree := (runs_loadRecord isRead State.generalTree).succeeds
      start := (runs_start isRead systemInfo).succeeds }

theorem noneLoads_of_not_readable
    {world : World Slot}
    (unreadable : ¬Readable path world.medium) :
    NoneLoads path systemInfo world := by
  cases isRefused : (readSlot path world.medium).result with
  | ok state => exact absurd ⟨state, isRefused⟩ unreadable
  | error failure =>
      exact
        { grammar := (runs_reading_error isRefused _).fails
          verdict := (runs_reading_error isRefused _).fails
          derivationTree := (runs_reading_error isRefused _).fails
          generalTree := (runs_reading_error isRefused _).fails
          start := ((runs_reading_error isRefused _).failing .start _).fails }

/-! ## One operation -/

section Step

variable {slot : Slot} {supply : Supply} {state : State}
  (isRead : (readSlot path slot).result = .ok state)

include isRead

/-- A state that is changed in its verdict and its grammar alone can be read back. -/
theorem readable_holding_of_read
    {changed : State}
    (sameDerivationTree : changed.derivationTree = state.derivationTree)
    (sameGeneralTree : changed.generalTree = state.generalTree) :
    Readable path (.holding changed) := by
  have shallow := shallow_of_readSlot isRead
  rw [readable_holding_iff]
  exact ⟨sameDerivationTree ▸ shallow.derivationTree, sameGeneralTree ▸ shallow.generalTree⟩

/-- A validation leaves a file that can be read exactly if it is not overlong. -/
theorem exists_runs_validateWord_readable (writable : slot.refusal = none) (word : Text) :
    ∃ answer after, (validateWord (file path) word).Runs ⟨slot, supply⟩ answer after ∧
      after.medium.refusal = none ∧
      (Readable path after.medium ↔ ¬Overlong path word ⟨slot, supply⟩) := by
  have overlong_iff : Overlong path word ⟨slot, supply⟩ ↔
      ∃ verdict, Derivation.validate (loaded state supply).1 word = .ok verdict ∧
        levelLimit < verdict.steps.length := by
    constructor
    · rintro ⟨found, verdict, isFound, isVerdict, many⟩
      obtain rfl := Except.ok.inj (isRead.symm.trans isFound)
      exact ⟨verdict, isVerdict, many⟩
    · rintro ⟨verdict, isVerdict, many⟩
      exact ⟨state, verdict, isRead, isVerdict, many⟩
  rw [overlong_iff]
  cases isVerdict : Derivation.validate (loaded state supply).1 word with
  | error error =>
      refine ⟨_, _, runs_validateWord_error isRead isVerdict, writable,
        iff_of_true ⟨state, isRead⟩ ?_⟩
      rintro ⟨_, absent, _⟩
      cases absent
  | ok verdict =>
      obtain ⟨_, _, _, few, many⟩ := exists_runs_validateWord isRead writable isVerdict
      rcases Nat.lt_or_ge levelLimit verdict.steps.length with isMany | isFew
      · obtain ⟨deep, _, _, runs⟩ := many isMany
        exact ⟨_, _, runs, rfl, iff_of_false (mt (readable_holding_iff path _).mp deep)
          (not_not_intro ⟨verdict, rfl, isMany⟩)⟩
      · obtain ⟨shallow, runs⟩ := few isFew
        refine ⟨_, _, runs, rfl, iff_of_true ((readable_holding_iff path _).mpr shallow) ?_⟩
        rintro ⟨other, isOther, isMany⟩
        obtain rfl := Except.ok.inj isOther
        omega

/-- An operation on a file that can be read leaves one that can be read, unless it is an overlong
validation. -/
theorem exists_runs_perform
    (writable : slot.refusal = none)
    (supply : Supply)
    (systemInfo : SystemInfo)
    (operation : Operation) :
    ∃ answer after, (perform (file path) systemInfo operation).Runs ⟨slot, supply⟩ answer after ∧
      after.medium.refusal = none ∧
      (Readable path after.medium ↔
        ∀ word, operation = .validateWord word → ¬Overlong path word ⟨slot, supply⟩) := by
  have readable : Readable path slot := ⟨state, isRead⟩
  cases operation with
  | validateWord word =>
      obtain ⟨answer, after, runs, stillWritable, iff⟩ :=
        exists_runs_validateWord_readable isRead writable word
      refine ⟨_, after, runs.map Answer.verdict, stillWritable, iff.trans ?_⟩
      simp
  | start =>
      exact ⟨_, _, (runs_start isRead systemInfo).map Answer.overview, writable,
        iff_of_true readable (by simp)⟩
  | edit change =>
      cases isEdited : (change.applyTaking (loaded state supply).1 (loaded state supply).2).1 with
      | error error =>
          exact ⟨_, _, (runs_edit_error isRead isEdited).map Answer.grammar, writable,
            iff_of_true readable (by simp)⟩
      | ok edited =>
          exact ⟨_, _, (runs_edit isRead writable isEdited).map Answer.grammar, rfl,
            iff_of_true (readable_holding_of_read isRead rfl rfl) (by simp)⟩
  | derivationTree =>
      exact ⟨_, _, (runs_derivationTree isRead).map Answer.tree, writable,
        iff_of_true readable (by simp)⟩
  | generalTree =>
      exact ⟨_, _, (runs_generalTree isRead).map Answer.tree, writable,
        iff_of_true readable (by simp)⟩
  | reset =>
      refine ⟨_, _, (runs_reset writable).map Answer.grammar, rfl, iff_of_true ?_ (by simp)⟩
      rw [readable_holding_iff]
      exact ⟨State.shallow_empty.derivationTree, State.shallow_empty.generalTree⟩

end Step

/-! ## Operations in turn -/

/-- No operation on a file that may be written keeps it from being written again. -/
theorem writable_after
    {world : World Slot}
    (writable : world.medium.refusal = none)
    (path : Text)
    (systemInfo : SystemInfo)
    (operation : Operation) :
    ((perform (file path) systemInfo operation).outcome world).2.medium.refusal = none := by
  cases isRead : (readSlot path world.medium).result with
  | ok state =>
      obtain ⟨_, after, runs, stillWritable, _⟩ :=
        exists_runs_perform isRead writable world.supply systemInfo operation
      rw [Runs.medium_eq runs, stillWritable]
  | error failure =>
      by_cases isReset : operation = .reset
      · subst isReset
        exact congrArg Slot.refusal (Runs.medium_eq ((runs_reset writable).map Answer.grammar))
      · rw [Runs.medium_eq (runs_perform_error isRead systemInfo isReset), writable]

theorem writable_performAll
    {world : World Slot}
    (writable : world.medium.refusal = none)
    (path : Text)
    (systemInfo : SystemInfo)
    (operations : List Operation) :
    (performAll (file path) systemInfo world operations).medium.refusal = none :=
  afterAll_invariant (fun between : World Slot => between.medium.refusal = none) writable
    (fun operation _ stillWritable => writable_after stillWritable path systemInfo operation)
    operations

/-- A file that may be written and can be read can be read after an operation, unless that is an
overlong validation. -/
theorem readable_after_iff
    {world : World Slot}
    (writable : world.medium.refusal = none)
    (readable : Readable path world.medium)
    (systemInfo : SystemInfo)
    (operation : Operation) :
    Readable path ((perform (file path) systemInfo operation).outcome world).2.medium ↔
      ∀ word, operation = .validateWord word → ¬Overlong path word world.setting := by
  obtain ⟨state, isRead⟩ := readable
  obtain ⟨_, after, runs, _, iff⟩ :=
    exists_runs_perform isRead writable world.supply systemInfo operation
  rw [Runs.medium_eq runs]
  exact iff

/-- The file can be read after each of some operations exactly if none of them is an overlong
validation. -/
theorem readable_performAll_iff
    {world : World Slot}
    (writable : world.medium.refusal = none)
    (readable : Readable path world.medium)
    (systemInfo : SystemInfo)
    (operations : List Operation) :
    (∀ front, front <+: operations →
        Readable path (performAll (file path) systemInfo world front).medium) ↔
      ∀ front word, front ++ [.validateWord word] <+: operations →
        ¬Overlong path word (performAll (file path) systemInfo world front).setting := by
  have stillWritable := writable_performAll writable path systemInfo
  constructor
  · intro allReadable front word isPart
    have isFront : front <+: operations := (List.prefix_append ..).trans isPart
    have after := allReadable _ isPart
    rw [performAll, afterAll_concat,
      readable_after_iff (stillWritable front) (allReadable front isFront)]
      at after
    exact after word rfl
  · intro noneOverlong front
    -- By induction on the operations that are done: the last one meets a file that can be read.
    induction front using List.reverseRecOn with
    | nil => exact fun _ => readable
    | append_singleton front last inductionHypothesis =>
        intro isPart
        have before := inductionHypothesis ((List.prefix_append ..).trans isPart)
        rw [performAll, afterAll_concat, readable_after_iff (stillWritable front) before]
        rintro word rfl
        exact noneOverlong front word isPart

/-! ## The exact condition -/

/-- On a file that may be written and can be read, a validation that comes to a verdict answers it
and leaves everything to be loaded, if the verdict has at most as many steps as a tree that is read
back has levels. If it has more, the validation fails, and nothing can be loaded any more. Over any
operations, the file can be read after each of them exactly if no validation among them is overlong.
-/
theorem readable_iff_no_overlong
    (path : Text)
    (systemInfo : SystemInfo)
    (world : World Slot)
    (writable : world.medium.refusal = none)
    (state : State)
    (isRead : (readSlot path world.medium).result = .ok state) :
    (∀ word verdict, Derivation.validate (loaded state world.supply).1 word = .ok verdict →
      let validated := (validateWord (file path) word).outcome world
      (verdict.steps.length ≤ levelLimit →
        validated.1 = .ok verdict ∧ AllLoad path systemInfo validated.2) ∧
      (levelLimit < verdict.steps.length →
        (∃ failure, IsTooDeep path failure ∧
          validated.1 = .error (.failure .validateWord failure.message)) ∧
        NoneLoads path systemInfo validated.2)) ∧
    ∀ operations,
      (∀ front, front <+: operations →
          Readable path (performAll (file path) systemInfo world front).medium) ↔
        ∀ front word, front ++ [.validateWord word] <+: operations →
          ¬Overlong path word (performAll (file path) systemInfo world front).setting := by
  refine ⟨?_, readable_performAll_iff writable ⟨state, isRead⟩ systemInfo⟩
  intro word verdict isVerdict
  obtain ⟨_, _, _, few, many⟩ := exists_runs_validateWord isRead writable isVerdict
  constructor
  · intro isFew
    obtain ⟨shallow, runs⟩ := few isFew
    refine ⟨runs.outcome.1, allLoad_of_readable ?_⟩
    rw [Runs.medium_eq runs, readable_holding_iff]
    exact shallow
  · intro isMany
    obtain ⟨deep, failure, isTooDeep, runs⟩ := many isMany
    refine ⟨⟨failure, isTooDeep, runs.outcome.1⟩, noneLoads_of_not_readable ?_⟩
    rw [Runs.medium_eq runs, readable_holding_iff]
    exact deep

/-- The grammar `S -> Sa`, which derives a word of any length in as many steps. -/
def growingGrammar : Grammar where
  terminals := [{ id := "t0", value := "a" }]
  nonTerminals := [{ id := "n0", value := "S" }]
  startSymbol := "S"
  productions := [{ id := "p0", left := "S", right := "Sa" }]

/-- The state in which only that grammar is kept. -/
def growingState : State := { State.empty with grammar := some growingGrammar }

/-- A file that holds that state. -/
def growingWorld : World Slot where
  medium := .holding growingState
  supply := .ofSeed 0
  log := []

/-- The word of 64 steps. -/
def overlongWord : Text := 'S' :: List.replicate 63 'a'

/-- The file can be read, and the grammar in it accepts the word; yet after the validation nothing
can be loaded. -/
theorem readable_iff_no_overlong_growing :
    growingWorld.medium.refusal = none ∧
    (readSlot "state.json" growingWorld.medium).result = .ok growingState ∧
    (∃ verdict, Derivation.validate (loaded growingState growingWorld.supply).1 overlongWord =
      .ok verdict ∧ verdict.accepted = true ∧ verdict.steps.length = 64) ∧
    (∃ failure, IsTooDeep "state.json" failure ∧
      ((validateWord (file "state.json") overlongWord).outcome growingWorld).1 =
        .error (.failure .validateWord failure.message)) ∧
    NoneLoads "state.json" .host
      ((validateWord (file "state.json") overlongWord).outcome growingWorld).2 := by
  have shallow : growingState.Shallow :=
    ⟨State.shallow_empty.derivationTree, State.shallow_empty.generalTree⟩
  have isRead : (readSlot "state.json" growingWorld.medium).result = .ok growingState :=
    readSlot_holding _ shallow
  have summary : (Derivation.validate growingGrammar overlongWord).map
      (fun verdict => (verdict.accepted, verdict.steps.length)) = .ok (true, 64) := rfl
  obtain ⟨verdict, isVerdict, counted⟩ := exists_of_map_eq_ok summary
  have condition :=
    (readable_iff_no_overlong "state.json" .host growingWorld rfl growingState isRead).1
    overlongWord verdict isVerdict
  have many : levelLimit < verdict.steps.length := by
    rw [(Prod.mk.inj counted).2]
    decide
  exact ⟨rfl, isRead, ⟨verdict, isVerdict, (Prod.mk.inj counted).1, (Prod.mk.inj counted).2⟩,
    condition.2 many⟩

end Session
end PhraseGrammar
