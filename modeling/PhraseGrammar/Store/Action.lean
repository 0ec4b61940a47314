import PhraseGrammar.Store.Medium

/-!
# Actions

An action works on a medium, may take new identifiers, and writes to the log; it yields a value or
fails. What it did before it failed stays done.
-/

namespace PhraseGrammar

/-- What actions work on: the condition of the medium, the identifiers still to be taken, and the
log so far. -/
structure World (σ : Type) where
  medium : σ
  supply : Supply
  log : Log

/-- A computation on a world that may fail. -/
abbrev Action (σ ε α : Type) := ExceptT ε (StateM (World σ)) α

namespace Action

/-- Add a record to the log. -/
def note (record : LogRecord) : Action σ ε Unit :=
  modify fun world => { world with log := world.log ++ [record] }

/-- Add several records to the log. -/
def noteAll (records : Log) : Action σ ε Unit :=
  modify fun world => { world with log := world.log ++ records }

/-- Take new identifiers. -/
def taking (make : Supply.Taking α) : Action σ ε α := do
  let world ← get
  let (value, supply) := make.run world.supply
  set { world with supply }
  return value

/-- Yield the value of a result, or fail with its error. -/
def ofExcept (result : Except ε α) : Action σ ε α :=
  match result with
  | .ok value => return value
  | .error error => throw error

/-- Do something with the medium. -/
def onMedium (operation : σ -> Outcome α × σ) : Action σ StoreFailure α := do
  let world ← get
  let (outcome, medium) := operation world.medium
  set { world with medium, log := world.log ++ outcome.log }
  ofExcept outcome.result

/-- Tell failures in other terms. -/
def mapError (f : ε -> ε') (action : Action σ ε α) : Action σ ε' α :=
  ExceptT.mk ((fun result => result.mapError f) <$> action.run)

end Action
end PhraseGrammar
