import PhraseGrammar.Proofs.Session.Transition

/-!
# Media that never fail

On a medium that never fails, the only errors of a session are violations of the rules about
grammars. So the cases in which an operation is cut short do not arise, and in particular they do
not arise in memory.
-/

namespace PhraseGrammar
namespace Action

/-- Whatever the action fails with, `Allowed` says it may. -/
def FailsOnly (Allowed : ε → Prop) (action : Action σ ε α) : Prop :=
  ∀ world error, (action.outcome world).1 = .error error → Allowed error

/-- The action never fails. -/
abbrev NeverFails (action : Action σ ε α) : Prop := action.FailsOnly fun _ => False

variable {Allowed : ε → Prop}

/-- An action that is known to yield a value in each world fails with nothing. -/
theorem FailsOnly.of_succeeds
    {action : Action σ ε α}
    (succeeds : ∀ world, ∃ value, (action.outcome world).1 = .ok value) :
    action.FailsOnly Allowed := by
  intro world error isError
  obtain ⟨value, isOk⟩ := succeeds world
  exact nomatch isOk.symm.trans isError

theorem FailsOnly.pure (value : α) :
    (Pure.pure value : Action σ ε α).FailsOnly Allowed :=
  .of_succeeds fun _ => ⟨value, rfl⟩

theorem FailsOnly.note (record : LogRecord) :
    (note record : Action σ ε Unit).FailsOnly Allowed :=
  .of_succeeds fun _ => ⟨(), rfl⟩

theorem FailsOnly.noteAll (records : Log) :
    (noteAll records : Action σ ε Unit).FailsOnly Allowed :=
  .of_succeeds fun _ => ⟨(), rfl⟩

theorem FailsOnly.taking (make : Supply.Taking α) :
    (taking make : Action σ ε α).FailsOnly Allowed :=
  .of_succeeds fun world => ⟨(make world.supply).1, rfl⟩

theorem FailsOnly.bind
    {action : Action σ ε α}
    {next : α → Action σ ε β}
    (first : action.FailsOnly Allowed)
    (second : ∀ value, (next value).FailsOnly Allowed) :
    (action >>= next).FailsOnly Allowed := by
  intro world error isError
  rw [outcome_bind] at isError
  rcases isOutcome : action.outcome world with ⟨failure | value, between⟩
  · rw [isOutcome] at isError
    obtain rfl := Except.error.inj isError
    exact first world failure (congrArg Prod.fst isOutcome)
  · rw [isOutcome] at isError
    exact second value between error isError

theorem FailsOnly.map
    {action : Action σ ε α}
    (failsOnly : action.FailsOnly Allowed)
    (function : α → β) :
    (function <$> action).FailsOnly Allowed := by
  rw [map_eq_pure_bind]
  exact failsOnly.bind fun _ => .pure _

/-- What never fails does not fail in other terms either. -/
theorem NeverFails.mapError
    {action : Action σ ε α}
    (neverFails : action.NeverFails)
    (function : ε → ε')
    (Allowed : ε' → Prop) :
    (action.mapError function).FailsOnly Allowed := by
  intro world error isError
  have outcome : ((action.mapError function).outcome world).1 =
      (action.outcome world).1.mapError function := rfl
  rw [outcome] at isError
  cases isOutcome : (action.outcome world).1 with
  | error failure => exact (neverFails world failure isOutcome).elim
  | ok _ =>
      rw [isOutcome] at isError
      cases isError

/-- Noting a failure allows no others. -/
theorem FailsOnly.attempt
    {Allowed : SessionError → Prop}
    {action : Action σ SessionError α}
    (failsOnly : action.FailsOnly Allowed)
    (task : Task) :
    (Session.attempt task action).FailsOnly Allowed := by
  intro world error isError
  rw [Session.attempt, outcome_tryCatch] at isError
  rcases isOutcome : action.outcome world with ⟨failure | value, after⟩
  · rw [isOutcome] at isError
    obtain rfl := Except.error.inj isError
    exact failsOnly world failure (congrArg Prod.fst isOutcome)
  · rw [isOutcome] at isError
    cases isError

end Action

/-! ## Operations -/

namespace Medium

/-- The medium can always be read and written. -/
structure Reliable (medium : Medium σ) : Prop where
  read (condition : σ) : ∃ state, (medium.read condition).1.result = .ok state
  write (state : State) (condition : σ) : (medium.write state condition).1.result = .ok ()

theorem reliable_memory : memory.Reliable where
  read state := ⟨state, rfl⟩
  write _ _ := rfl

end Medium

namespace Store

open PhraseGrammar.Action

variable {medium : Medium σ} (reliable : medium.Reliable)

include reliable

theorem neverFails_reading
    {next : State → Action σ StoreFailure α}
    (neverFails : ∀ state, (next state).NeverFails) :
    (read medium >>= next).NeverFails := by
  apply FailsOnly.bind _ neverFails
  apply FailsOnly.of_succeeds
  intro world
  obtain ⟨state, isRead⟩ := reliable.read world.medium
  have runs : (read medium).Runs world.setting _ _ := .onMedium medium.read
  exact ⟨state, runs.outcome.1.trans isRead⟩

theorem neverFails_write (state : State) : (write medium state).NeverFails := by
  apply FailsOnly.of_succeeds
  intro world
  have runs : (write medium state).Runs world.setting _ _ := .onMedium (medium.write state)
  exact ⟨(), runs.outcome.1.trans (reliable.write state world.medium)⟩

theorem neverFails_update (change : State → State) : (update medium change).NeverFails :=
  neverFails_reading reliable fun state => neverFails_write reliable (change state)

theorem neverFails_loadGrammar : (loadGrammar medium).NeverFails := by
  apply neverFails_reading reliable
  intro state
  cases state.grammar with
  | some grammar => exact .pure grammar
  | none => exact (FailsOnly.note _).bind fun _ => .taking _

theorem neverFails_loadRecord (record : State → α) :
    (do return record (← read medium) : Action σ StoreFailure α).NeverFails :=
  neverFails_reading reliable fun _ => .pure _

end Store

namespace Session

open Medium PhraseGrammar.Action Store

/-- The error is a violation of a rule about grammars. -/
def IsFault (error : SessionError) : Prop := ∃ fault, error = .grammar fault

theorem failsOnly_ruled (result : Except GrammarError α) :
    (ruled result : Action σ SessionError α).FailsOnly IsFault := by
  intro world error isError
  cases result with
  | ok _ => cases isError
  | error fault => exact ⟨fault, (Except.error.inj isError).symm⟩

theorem failsOnly_stored
    {action : Action σ StoreFailure α}
    (neverFails : action.NeverFails)
    (task : Task) :
    (stored task action).FailsOnly IsFault :=
  neverFails.mapError _ IsFault

variable {medium : Medium σ} (reliable : medium.Reliable)

include reliable

/-- On a reliable medium, operations fail only for a fault of the grammar. -/
theorem failsOnly_perform (systemInfo : SystemInfo) (operation : Operation) :
    (perform medium systemInfo operation).FailsOnly IsFault := by
  have loadsGrammar (task : Task) := failsOnly_stored (neverFails_loadGrammar reliable) task
  have loads {β : Type} (record : State → β) (task : Task) :=
    failsOnly_stored (neverFails_loadRecord reliable record) task
  have saves (change : State → State) (task : Task) :=
    failsOnly_stored (neverFails_update reliable change) task
  cases operation with
  | start =>
      refine (FailsOnly.attempt ?_ _).map _
      refine (loadsGrammar _).bind fun _ => (loads State.verdict _).bind fun _ => ?_
      exact (loads State.derivationTree _).bind fun _ =>
        (loads State.generalTree _).bind fun _ => .pure _
  | validateWord word =>
      refine (FailsOnly.attempt ?_ _).map _
      refine (loadsGrammar _).bind fun grammar => (FailsOnly.noteAll _).bind fun _ => ?_
      refine (failsOnly_ruled _).bind fun verdict => (saves _ _).bind fun _ => ?_
      refine (FailsOnly.taking _).bind fun _ => (failsOnly_ruled _).bind fun _ => ?_
      refine (FailsOnly.taking _).bind fun _ => (saves _ _).bind fun _ => ?_
      exact (saves _ _).bind fun _ => (FailsOnly.note _).bind fun _ => .pure _
  | edit edit =>
      refine (FailsOnly.attempt ?_ _).map _
      refine (loadsGrammar _).bind fun _ => (FailsOnly.taking _).bind fun _ => ?_
      exact (failsOnly_ruled _).bind fun _ => (saves _ _).bind fun _ => .pure _
  | derivationTree => exact ((loads State.derivationTree _).attempt _).map _
  | generalTree => exact ((loads State.generalTree _).attempt _).map _
  | reset =>
      refine (FailsOnly.attempt ?_ _).map _
      refine (failsOnly_stored (neverFails_write reliable _) _).bind fun _ => ?_
      exact (FailsOnly.taking _).bind fun _ => (saves _ _).bind fun _ => .pure _

/-- The transition that an operation makes in a world whose medium is faithful and never fails. -/
theorem exists_transition_of_reliable
    {Keeps : σ → State → Prop}
    (faithful : medium.Faithful Keeps)
    {world : World σ}
    {state : State}
    (keeps : Keeps world.medium state)
    (systemInfo : SystemInfo)
    (operation : Operation) :
    let outcome := (perform medium systemInfo operation).outcome world
    ∃ state', Keeps outcome.2.medium state' ∧
      Transition systemInfo state world.supply operation outcome.1 state' outcome.2.supply ∧
      ∀ error, outcome.1 = .error error → IsFault error := by
  obtain ⟨state', kept, transition⟩ := exists_transition faithful keeps systemInfo operation
  exact ⟨state', kept, transition, failsOnly_perform reliable systemInfo operation world⟩

end Session
end PhraseGrammar
