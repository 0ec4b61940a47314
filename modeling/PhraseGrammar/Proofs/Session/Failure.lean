import PhraseGrammar.Proofs.Session.Transition

/-!
# What an operation may leave behind

Over a medium that may fail at any time, but is faithful, an operation of a session leaves the state
that was kept, or one that differs from it as its answer says. Only a validation and a reset save
more than once, so only these can fail halfway. A validation saves its records in a fixed order, and
is past every rule about grammars by then; a reset forgets everything before it saves.
-/

namespace PhraseGrammar
namespace Session

open Medium PhraseGrammar.Action Store

/-- Whether an operation only loads what is kept. -/
def Operation.isLoad : Operation → Bool
  | .start | .derivationTree | .generalTree => true
  | _ => false

/-- The state that is left is the one before with the first of the records of a validation saved in
it; if there are none of them, nothing is asked of the validation. -/
def SavedFirst
    (state : State)
    (supply : Supply)
    (word : Text)
    (count : Nat)
    (left : State) : Prop :=
  count = 0 ∧ left = state ∨
    ∃ records supply',
      validation (loaded state supply).1 word (loaded state supply).2 = .ok (records, supply') ∧
        left = records.saved state count

/-- What is left by an operation with the given answer, if `state` was kept before. -/
structure Leaves
    (state : State)
    (supply : Supply)
    (operation : Operation)
    (answer : Except SessionError Answer)
    (left : State) : Prop where
  load : operation.isLoad = true → left = state
  edit {edit : Edit} {value : Answer} :
    operation = .edit edit → answer = .ok value →
      ∃ grammar, value = .grammar grammar ∧ left = { state with grammar := some grammar }
  failedEdit {edit : Edit} {error : SessionError} :
    operation = .edit edit → answer = .error error → left = state
  validation {word : Text} : operation = .validateWord word → left.grammar = state.grammar
  failedValidation {word : Text} {error : SessionError} :
    operation = .validateWord word → answer = .error error →
      ∃ count < 3, SavedFirst state supply word count left ∧
        ∀ fault, error = .grammar fault → count = 0
  failedReset {error : SessionError} :
    operation = .reset → answer = .error error → left = state ∨ left = .empty

theorem Transition.leaves
    {systemInfo : SystemInfo}
    {state left : State}
    {supply supply' : Supply}
    {operation : Operation}
    {answer : Except SessionError Answer}
    (transition : Transition systemInfo state supply operation answer left supply') :
    Leaves state supply operation answer left where
  load isLoad := by
    cases transition with
    | failed _ _ _ => rfl
    | start => rfl
    | derivationTree => rfl
    | generalTree => rfl
    | _ => cases isLoad
  edit isEdit isOk := by
    cases transition with
    | edited _ =>
        cases isOk
        exact ⟨_, rfl, rfl⟩
    | _ => contradiction
  failedEdit isEdit isError := by
    cases transition with
    | failed _ _ _ => rfl
    | editRefused _ => rfl
    | _ => contradiction
  validation isValidation := by
    cases transition with
    | failed _ _ _ => rfl
    | validationRefused _ => rfl
    | validationFailed _ count _ _ _ => exact Validation.grammar_saved _ _ count
    | validated _ => exact Validation.grammar_saved _ _ 3
    | _ => cases isValidation
  failedValidation isValidation isError := by
    cases transition with
    | failed _ _ _ => exact ⟨0, by decide, .inl ⟨rfl, rfl⟩, fun _ _ => rfl⟩
    | validationRefused _ => exact ⟨0, by decide, .inl ⟨rfl, rfl⟩, fun _ _ => rfl⟩
    | validationFailed isJudged count _ notAll _ =>
        cases isValidation
        cases isError
        exact ⟨count, notAll, .inr ⟨_, _, isJudged, rfl⟩, fun _ isFault => nomatch isFault⟩
    | _ => contradiction
  failedReset isReset isError := by
    cases transition with
    | failed _ _ _ => exact .inl rfl
    | resetFailed _ => exact .inr rfl
    | _ => contradiction

/-- Whatever fails over a faithful medium, and whatever was kept: loading changes nothing; an edit
that answers with a grammar has put it in the place of the old one, and one that fails has changed
nothing; a validation never changes the grammar, and one that fails has saved the first of its
records, but not the last, and none at all if the fault lies with the grammar; a reset that fails
has changed nothing or forgotten everything. -/
theorem leaves_perform
    {medium : Medium σ}
    {Keeps : σ → State → Prop}
    (faithful : medium.Faithful Keeps)
    (systemInfo : SystemInfo)
    (operation : Operation)
    (world : World σ)
    (state : State)
    (keeps : Keeps world.medium state) :
    let outcome := (perform medium systemInfo operation).outcome world
    ∃ left, Keeps outcome.2.medium left ∧ Leaves state world.supply operation outcome.1 left := by
  intro outcome
  obtain ⟨left, kept, transition⟩ := exists_transition faithful keeps systemInfo operation
  exact ⟨left, kept, transition.leaves⟩

/-- A failure at the fifth turn, which is when a validation saves the second of its records. -/
def fifthTurn (turn : Nat) : Option StoreFailure :=
  if turn = 4 then
    some
      { location := .whole "state.json"
        error := .file { kind := .storageFull, text := "No space left on device" } }
  else none

/-- A world in which nothing is kept, before the first turn. -/
def failingWorld : World (State × Nat) where
  medium := (.empty, 0)
  supply := .ofSeed 0
  log := []

/-- A validation that fails there leaves the first of its records, and no grammar where there was
none.
-/
theorem leaves_perform_fifthTurn :
    let medium := unreliable fifthTurn memory
    let outcome := (perform medium .host (.validateWord "abab")).outcome failingWorld
    medium.Faithful (fun condition state => condition.1 = state) ∧
    outcome.2.medium.1.grammar = none ∧
    outcome.2.medium.1.verdict.isSome = true ∧
    outcome.2.medium.1.derivationTree.isNone = true := by
  have faithful := faithful_memory.unreliable fifthTurn
  obtain ⟨_, rfl, leaves⟩ :=
    leaves_perform faithful .host (.validateWord "abab") failingWorld .empty rfl
  exact ⟨faithful, leaves.validation rfl, by decide +kernel, by decide +kernel⟩

end Session
end PhraseGrammar
