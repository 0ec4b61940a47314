import PhraseGrammar.Proofs.Document.State
import PhraseGrammar.Proofs.Store.Running

/-!
# The store in a file

What the operations of the store do when the state is kept in a file that may be written. If the
state can be read, every record can be loaded, and saving one leaves the document of the changed
state; whether that can be read again depends on the levels of its trees alone. If the state can not
be read, then nothing is loaded or saved, and the file stays as it is until everything is forgotten.
-/

namespace PhraseGrammar

/-- A file that holds the document of a state. -/
def Slot.holding (state : State) : Slot where
  content := .text (Medium.document state)
  refusal := none

namespace Medium

/-- The file holds a state that can be read, or is missing. -/
def Readable (path : Text) (slot : Slot) : Prop :=
  ∃ state, (readSlot path slot).result = .ok state

/-- The failure that a document nested too deep causes. -/
def IsTooDeep (path : Text) (failure : StoreFailure) : Prop :=
  ∃ malformed : Json.Malformed, malformed.complaint = .tooDeep ∧
    failure = { location := { file := path, line := malformed.position.line }
                error := .malformed malformed }

theorem spelled_document (state : State) : (Document.valueOfState state).Spelled (document state) :=
  Json.spelled_prettyAt _ (Document.writable_valueOfState state) [] (by decide)

/-- A shallow state is read from the file that holds it. -/
theorem readSlot_holding (path : Text) {state : State} (shallow : state.Shallow) :
    (readSlot path (.holding state)).result = .ok state := by
  have isRead := Document.parseState_spelled (spelled_document state) shallow
  simp only [readSlot, Slot.holding, Slot.read, isRead]
  rfl

/-- No state is read from a file that holds one that is not shallow. -/
theorem readSlot_holding_tooDeep (path : Text) {state : State} (deep : ¬state.Shallow) :
    ∃ failure,
      (readSlot path (.holding state)).result = .error failure ∧ IsTooDeep path failure := by
  obtain ⟨malformed, isRefused, complaint⟩ :=
    Document.parseState_spelled_tooDeep (spelled_document state) deep
  refine ⟨_, ?_, malformed, complaint, rfl⟩
  simp only [readSlot, Slot.holding, Slot.read, isRefused]
  rfl

/-- A file that holds a state can be read exactly if the state is shallow. -/
theorem readable_holding_iff (path : Text) (state : State) :
    Readable path (.holding state) ↔ state.Shallow := by
  constructor
  · rintro ⟨found, isRead⟩
    by_contra deep
    obtain ⟨failure, isRefused, _⟩ := readSlot_holding_tooDeep path deep
    exact nomatch isRefused.symm.trans isRead
  · intro shallow
    exact ⟨state, readSlot_holding path shallow⟩

/-- Every state that is read from a file is shallow. -/
theorem shallow_of_readSlot
    {path : Text}
    {slot : Slot}
    {state : State}
    (isRead : (readSlot path slot).result = .ok state) :
    state.Shallow := by
  unfold readSlot at isRead
  split at isRead
  next => cases isRead
  next =>
    cases isRead
    exact State.shallow_empty
  next text _ => exact Document.shallow_of_parseState (eq_ok_of_mapError_eq_ok isRead)

end Medium

namespace Store

open Medium PhraseGrammar.Action

variable {path : Text} {slot : Slot} {supply : Supply} {state : State} {failure : StoreFailure}

theorem runs_read :
    (read (file path)).Runs ⟨slot, supply⟩ (readSlot path slot).result ⟨slot, supply⟩ :=
  .onMedium _

theorem runs_write (writable : slot.refusal = none) :
    (write (file path) state).Runs ⟨slot, supply⟩ (.ok ()) ⟨.holding state, supply⟩ := by
  have isWritten : slot.write (document state) = .ok (.holding state) := by
    rw [Slot.write, writable, Slot.holding]
  have runs : (write (file path) state).Runs ⟨slot, supply⟩ _ _ :=
    .onMedium ((file path).write state)
  simp only [file, isWritten] at runs
  exact runs

theorem runs_write_refused {refusal : FileError} (isRefused : slot.refusal = some refusal) :
    (write (file path) state).Runs ⟨slot, supply⟩
      (.error { location := .whole path, error := .file refusal }) ⟨slot, supply⟩ := by
  have runs : (write (file path) state).Runs ⟨slot, supply⟩ _ _ :=
    .onMedium ((file path).write state)
  simp only [file, Slot.write, isRefused] at runs
  exact runs

section Readable

variable (isRead : (readSlot path slot).result = .ok state)

include isRead

theorem runs_read_ok : (read (file path)).Runs ⟨slot, supply⟩ (.ok state) ⟨slot, supply⟩ :=
  isRead ▸ runs_read

theorem runs_loadGrammar :
    (loadGrammar (file path)).Runs ⟨slot, supply⟩ (.ok (loaded state supply).1)
      ⟨slot, (loaded state supply).2⟩ :=
  runs_loadGrammar_of_reads (runs_read_ok isRead)

theorem runs_loadRecord (record : State → α) :
    (do return record (← read (file path)) : Action Slot StoreFailure α).Runs ⟨slot, supply⟩
      (.ok (record state)) ⟨slot, supply⟩ :=
  runs_loadRecord_of_reads (runs_read_ok isRead) record

theorem runs_update (writable : slot.refusal = none) (change : State → State) :
    (update (file path) change).Runs ⟨slot, supply⟩ (.ok ()) ⟨.holding (change state), supply⟩ :=
  runs_update_of_reads (runs_read_ok isRead) (runs_write writable)

theorem runs_update_refused
    {refusal : FileError}
    (isRefused : slot.refusal = some refusal)
    (change : State → State) :
    (update (file path) change).Runs ⟨slot, supply⟩
      (.error { location := .whole path, error := .file refusal }) ⟨slot, supply⟩ :=
  (runs_read_ok isRead).bind (runs_write_refused isRefused)

end Readable

section Unreadable

variable (isRefused : (readSlot path slot).result = .error failure)

include isRefused

theorem runs_read_error :
    (read (file path)).Runs ⟨slot, supply⟩ (.error failure) ⟨slot, supply⟩ :=
  isRefused ▸ runs_read

/-- Whatever would be done with the state is not done, and that goes for every load and every save.
-/
theorem runs_reading_error (next : State → Action Slot StoreFailure α) :
    (read (file path) >>= next).Runs ⟨slot, supply⟩ (.error failure) ⟨slot, supply⟩ :=
  (runs_read_error isRefused).bind_error next

end Unreadable

end Store
end PhraseGrammar
