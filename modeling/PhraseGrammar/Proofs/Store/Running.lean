import PhraseGrammar.Proofs.Result
import PhraseGrammar.Store.Records

/-!
# Running actions

No action looks at the log. So what an action does is told without it: from which medium and supply
it starts, what it answers, and which medium and supply it leaves. `Action.Runs` says this, and
there is one rule for each way in which actions are composed. The records of a store are loaded and
saved by such compositions, so on any medium they work as soon as the medium can be read and
written.

The operations of a store, and those of a session, are carried out in turn whatever they answer.
Both are cases of `Action.afterAll`, and what is kept by each operation is kept by all of them.
-/

namespace PhraseGrammar

/-- A world without its log. -/
structure Setting (σ : Type) where
  medium : σ
  supply : Supply

/-- The world with a given log. -/
def Setting.world (setting : Setting σ) (log : Log) : World σ :=
  { medium := setting.medium, supply := setting.supply, log }

/-- The world without its log. -/
def World.setting (world : World σ) : Setting σ :=
  { medium := world.medium, supply := world.supply }

namespace Action

/-- What an action answers, and the world that it leaves. -/
def outcome (action : Action σ ε α) (world : World σ) : Except ε α × World σ :=
  action.run.run world

/-- From the one setting the action leads to the answer and the other setting, whatever the log. -/
def Runs
    (action : Action σ ε α)
    (before : Setting σ)
    (answer : Except ε α)
    (after : Setting σ) : Prop :=
  ∀ log, ∃ log', action.outcome (before.world log) = (answer, after.world log')

variable {before between after : Setting σ}

/-- A run says what the outcome in a world is. -/
theorem Runs.outcome
    {action : Action σ ε α}
    {world : World σ}
    {answer : Except ε α}
    (runs : action.Runs world.setting answer after) :
    (action.outcome world).1 = answer ∧ (action.outcome world).2.setting = after := by
  obtain ⟨log, isOutcome⟩ := runs world.log
  have sameWorld : world.setting.world world.log = world := rfl
  rw [sameWorld] at isOutcome
  rw [isOutcome]
  exact ⟨rfl, rfl⟩

theorem Runs.medium_eq
    {action : Action σ ε α}
    {world : World σ}
    {answer : Except ε α}
    (runs : action.Runs world.setting answer after) :
    (action.outcome world).2.medium = after.medium :=
  congrArg Setting.medium runs.outcome.2

theorem Runs.supply_eq
    {action : Action σ ε α}
    {world : World σ}
    {answer : Except ε α}
    (runs : action.Runs world.setting answer after) :
    (action.outcome world).2.supply = after.supply :=
  congrArg Setting.supply runs.outcome.2

/-! ## Rules -/

theorem Runs.pure (value : α) : Runs (Pure.pure value : Action σ ε α) before (.ok value) before :=
  fun log => ⟨log, rfl⟩

/-- The outcome of two actions in turn: of the second, if the first yields a value. -/
theorem outcome_bind (action : Action σ ε α) (next : α → Action σ ε β) (world : World σ) :
    (action >>= next).outcome world =
      match action.outcome world with
      | (.ok value, between) => (next value).outcome between
      | (.error error, after) => (.error error, after) := by
  rcases isOutcome : action.outcome world with ⟨error | value, between⟩
  · exact run_bind_error isOutcome next
  · exact run_bind_ok isOutcome next

theorem outcome_map (function : α → β) (action : Action σ ε α) (world : World σ) :
    (function <$> action).outcome world =
      ((action.outcome world).1.map function, (action.outcome world).2) := by
  rw [map_eq_pure_bind, outcome_bind]
  rcases action.outcome world with ⟨_ | _, _⟩ <;> rfl

/-- The outcome of an action whose failures are handled. -/
theorem outcome_tryCatch
    (action : Action σ ε α)
    (handle : ε → Action σ ε α)
    (world : World σ) :
    (tryCatch action handle : Action σ ε α).outcome world =
      match action.outcome world with
      | (.ok value, after) => (.ok value, after)
      | (.error error, between) => (handle error).outcome between := by
  have unfolded : (tryCatch action handle : Action σ ε α).outcome world =
      ((ExceptT.tryCatch action handle).run.run world : Except ε α × World σ) := rfl
  rw [unfolded, ExceptT.tryCatch, ExceptT.run_mk, StateT.run_bind]
  have first : StateT.run action world = action.outcome world := rfl
  rw [first]
  rcases action.outcome world with ⟨_ | _, _⟩ <;> rfl

theorem Runs.bind
    {action : Action σ ε α}
    {next : α → Action σ ε β}
    {value : α}
    {answer : Except ε β}
    (first : action.Runs before (.ok value) between)
    (second : (next value).Runs between answer after) :
    (action >>= next).Runs before answer after := by
  intro log
  obtain ⟨log', isFirst⟩ := first log
  obtain ⟨log'', isSecond⟩ := second log'
  exact ⟨log'', by rw [outcome_bind, isFirst]; exact isSecond⟩

/-- What is behind a failure is not done. -/
theorem Runs.bind_error
    {action : Action σ ε α}
    {error : ε}
    (first : action.Runs before (.error error) after)
    (next : α → Action σ ε β) :
    (action >>= next).Runs before (.error error) after := by
  intro log
  obtain ⟨log', isFirst⟩ := first log
  exact ⟨log', by rw [outcome_bind, isFirst]⟩

theorem Runs.map
    {action : Action σ ε α}
    {answer : Except ε α}
    (runs : action.Runs before answer after)
    (function : α → β) :
    (function <$> action).Runs before (answer.map function) after := by
  rw [map_eq_pure_bind]
  cases answer with
  | error _ => exact runs.bind_error _
  | ok value => exact runs.bind (.pure (function value))

theorem Runs.note (record : LogRecord) :
    Runs (note record : Action σ ε Unit) before (.ok ()) before :=
  fun log => ⟨log ++ [record], rfl⟩

theorem Runs.noteAll (records : Log) :
    Runs (noteAll records : Action σ ε Unit) before (.ok ()) before :=
  fun log => ⟨log ++ records, rfl⟩

theorem Runs.taking (make : Supply.Taking α) :
    Runs (taking make : Action σ ε α) before (.ok (make before.supply).1)
      { before with supply := (make before.supply).2 } :=
  fun log => ⟨log, rfl⟩

theorem Runs.ofExcept (result : Except ε α) :
    Runs (ofExcept result : Action σ ε α) before result before := by
  cases result with
  | error _ => exact fun log => ⟨log, rfl⟩
  | ok _ => exact fun log => ⟨log, rfl⟩

theorem Runs.onMedium (operation : σ → Outcome α × σ) :
    (onMedium operation).Runs before (operation before.medium).1.result
      { before with medium := (operation before.medium).2 } := by
  intro log
  refine ⟨log ++ (operation before.medium).1.log, ?_⟩
  change (Action.ofExcept (operation before.medium).1.result : Action σ StoreFailure α).outcome
    (Setting.world { before with medium := (operation before.medium).2 }
      (log ++ (operation before.medium).1.log)) = _
  cases (operation before.medium).1.result <;> rfl

theorem Runs.mapError
    {action : Action σ ε α}
    {answer : Except ε α}
    (runs : action.Runs before answer after)
    (function : ε → ε') :
    (action.mapError function).Runs before (answer.mapError function) after := by
  intro log
  obtain ⟨log', isOutcome⟩ := runs log
  refine ⟨log', ?_⟩
  exact congrArg
    (fun result : Except ε α × World σ => (result.1.mapError function, result.2)) isOutcome

/-! ## Operations in turn -/

/-- The world after operations in turn, whatever they answer. -/
def afterAll
    (perform : ι → Action σ ε α)
    (world : World σ)
    (operations : List ι) : World σ :=
  operations.foldl (fun world operation => ((perform operation).outcome world).2) world

section InTurn

variable {perform : ι → Action σ ε α} {world : World σ}

theorem afterAll_concat (front : List ι) (last : ι) :
    afterAll perform world (front ++ [last]) =
      ((perform last).outcome (afterAll perform world front)).2 := by
  rw [afterAll, List.foldl_append]
  rfl

/-- What holds at first and is kept by each operation holds after any operations. -/
theorem afterAll_invariant
    (Holds : World σ → Prop)
    (start : Holds world)
    (step : ∀ operation between, Holds between → Holds ((perform operation).outcome between).2)
    (operations : List ι) :
    Holds (afterAll perform world operations) := by
  induction operations generalizing world with
  | nil => exact start
  | cons operation operations inductionHypothesis =>
      exact inductionHypothesis (step operation world start)

end InTurn

end Action

namespace Store

open PhraseGrammar.Action

/-- The grammar that is loaded from a state, and what is left of the supply. -/
def loaded (state : State) (supply : Supply) : Grammar × Supply :=
  match state.grammar with
  | some grammar => (grammar, supply)
  | none => Grammar.initial supply

variable {medium : Medium σ} {before between after : Setting σ} {state : State}

section Reading

variable (reads : (read medium).Runs before (.ok state) between)

include reads

theorem runs_loadGrammar_of_reads :
    (loadGrammar medium).Runs before (.ok (loaded state between.supply).1)
      { between with supply := (loaded state between.supply).2 } := by
  apply reads.bind
  rw [loaded]
  cases state.grammar with
  | some grammar => exact .pure grammar
  | none => exact (Runs.note initialGrammarRecord).bind (.taking Grammar.initial)

/-- A record is loaded by reading the state and taking the record from it. -/
theorem runs_loadRecord_of_reads (record : State → α) :
    (do return record (← read medium) : Action σ StoreFailure α).Runs before
      (.ok (record state)) between :=
  reads.bind (.pure _)

/-- A changed state is written if the medium can be read and the changed state can be written. -/
theorem runs_update_of_reads
    {change : State → State}
    (writes : (write medium (change state)).Runs between (.ok ()) after) :
    (update medium change).Runs before (.ok ()) after :=
  reads.bind writes

end Reading

end Store
end PhraseGrammar
