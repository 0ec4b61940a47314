import PhraseGrammar.Proofs.Store.File

/-!
# Faithful media

Reads and writes may fail at any time and for any reason. What can still be relied on is that a
medium is faithful to what it keeps: only the state that is kept is read, a write that succeeds
replaces it, and nothing else changes it. Memory and files are faithful, and so is every faithful
medium that is made to fail now and then.

On a faithful medium, each operation of a store is a round that is either done or fails without
effect.
-/

namespace PhraseGrammar
namespace Medium

/-- The medium is faithful to the states that it keeps; `Keeps` says which state that is in each
condition. -/
structure Faithful (medium : Medium σ) (Keeps : σ → State → Prop) : Prop where
  eq_of_read {condition : σ} {state found : State} :
    Keeps condition state → (medium.read condition).1.result = .ok found → found = state
  keeps_read {condition : σ} {state : State} :
    Keeps condition state → Keeps (medium.read condition).2 state
  keeps_write {condition : σ} {state : State} (next : State) :
    Keeps condition state → (medium.write next condition).1.result = .ok () →
      Keeps (medium.write next condition).2 next
  keeps_failedWrite {condition : σ} {state : State} {failure : StoreFailure} (next : State) :
    Keeps condition state → (medium.write next condition).1.result = .error failure →
      Keeps (medium.write next condition).2 state

/-! ## Memory and files -/

theorem faithful_memory : memory.Faithful Eq where
  eq_of_read kept isRead := (Except.ok.inj isRead).symm.trans kept
  keeps_read kept := kept
  keeps_write _ _ _ := rfl
  keeps_failedWrite _ _ isFailed := nomatch isFailed

/-- A file keeps the state that is read from it, and also the one whose document it holds, even if
that can not be read. -/
def FileKeeps (path : Text) (slot : Slot) (state : State) : Prop :=
  (readSlot path slot).result = .ok state ∨ slot.content = .text (document state)

/-- What is read from the document of a state is that state. -/
theorem eq_of_readSlot_document
    {path : Text}
    {slot : Slot}
    {state found : State}
    (holds : slot.content = .text (document state))
    (isRead : (readSlot path slot).result = .ok found) :
    found = state := by
  have sameReading : readSlot path slot = readSlot path (.holding state) := by
    simp only [readSlot, Slot.read, Slot.holding, holds]
  rw [sameReading] at isRead
  have shallow := (readable_holding_iff path state).mp ⟨found, isRead⟩
  exact Except.ok.inj (isRead.symm.trans (readSlot_holding path shallow))

theorem faithful_file (path : Text) : (file path).Faithful (FileKeeps path) where
  eq_of_read kept isRead :=
    kept.elim (fun isKept => Except.ok.inj (isRead.symm.trans isKept))
      fun holds => eq_of_readSlot_document holds isRead
  keeps_read kept := kept
  keeps_write {slot _} next _ isWritten := by
    cases refused : slot.refusal with
    | none =>
        simp only [file, Slot.write, refused]
        exact .inr rfl
    | some _ =>
        simp only [file, Slot.write, refused] at isWritten
        cases isWritten
  keeps_failedWrite {slot _ _} next kept isFailed := by
    cases refused : slot.refusal with
    | none =>
        simp only [file, Slot.write, refused] at isFailed
        cases isFailed
    | some _ =>
        simp only [file, Slot.write, refused]
        exact kept

/-! ## Media that fail now and then -/

/-- An operation that fails at the turns for which a failure is planned. -/
def planned
    (plan : Nat → Option StoreFailure)
    (operation : σ → Outcome α × σ)
    (condition : σ × Nat) : Outcome α × σ × Nat :=
  match plan condition.2 with
  | some failure => ({ log := [], result := .error failure }, condition.1, condition.2 + 1)
  | none =>
      ((operation condition.1).1, (operation condition.1).2, condition.2 + 1)

/-- The medium with planned failures; its conditions count the turns. -/
def unreliable (plan : Nat → Option StoreFailure) (medium : Medium σ) : Medium (σ × Nat) where
  read := planned plan medium.read
  write state := planned plan (medium.write state)

theorem Faithful.unreliable
    {medium : Medium σ}
    {Keeps : σ → State → Prop}
    (faithful : medium.Faithful Keeps)
    (plan : Nat → Option StoreFailure) :
    (Medium.unreliable plan medium).Faithful fun condition => Keeps condition.1 where
  eq_of_read kept isRead := by
    simp only [Medium.unreliable, planned] at isRead
    split at isRead
    next => cases isRead
    next => exact faithful.eq_of_read kept isRead
  keeps_read kept := by
    simp only [Medium.unreliable, planned]
    split
    next => exact kept
    next => exact faithful.keeps_read kept
  keeps_write next kept isWritten := by
    simp only [Medium.unreliable, planned] at isWritten ⊢
    split at isWritten
    next => cases isWritten
    next => exact faithful.keeps_write next kept isWritten
  keeps_failedWrite next kept isFailed := by
    simp only [Medium.unreliable, planned] at isFailed ⊢
    split at isFailed
    next => exact kept
    next => exact faithful.keeps_failedWrite next kept isFailed

end Medium

namespace Store

open PhraseGrammar.Action

/-! ## Rounds -/

/-- What working with the medium once can come to: either it is done, with the value and the supply
given, and the medium then keeps `next`; or it fails, and the medium still keeps `state`. -/
inductive Round
    (Keeps : σ → State → Prop)
    (action : Action σ StoreFailure α)
    (before : Setting σ)
    (state : State)
    (value : α)
    (next : State)
    (supply : Supply) : Prop
  | done (condition : σ)
      (keeps : Keeps condition next)
      (runs : action.Runs before (.ok value) ⟨condition, supply⟩)
  | failed (condition : σ)
      (failure : StoreFailure)
      (keeps : Keeps condition state)
      (runs : action.Runs before (.error failure) ⟨condition, before.supply⟩)

section Faithful

variable {medium : Medium σ} {Keeps : σ → State → Prop} (faithful : medium.Faithful Keeps)
  {condition : σ} {state : State} (keeps : Keeps condition state) (supply : Supply)

include faithful keeps

theorem round_read : Round Keeps (read medium) ⟨condition, supply⟩ state state state supply := by
  have runs : (read medium).Runs ⟨condition, supply⟩ _ _ := .onMedium medium.read
  cases result : (medium.read condition).1.result with
  | ok found =>
      rw [result, faithful.eq_of_read keeps result] at runs
      exact .done _ (faithful.keeps_read keeps) runs
  | error failure =>
      rw [result] at runs
      exact .failed _ failure (faithful.keeps_read keeps) runs

theorem round_write (next : State) :
    Round Keeps (write medium next) ⟨condition, supply⟩ state () next supply := by
  have runs : (write medium next).Runs ⟨condition, supply⟩ _ _ := .onMedium (medium.write next)
  cases result : (medium.write next condition).1.result with
  | ok _ =>
      rw [result] at runs
      exact .done _ (faithful.keeps_write next keeps result) runs
  | error failure =>
      rw [result] at runs
      exact .failed _ failure (faithful.keeps_failedWrite next keeps result) runs

theorem round_update (change : State → State) :
    Round Keeps (update medium change) ⟨condition, supply⟩ state () (change state) supply := by
  cases round_read faithful keeps supply with
  | failed between failure keeps reads => exact .failed between failure keeps (reads.bind_error _)
  | done between keeps reads =>
      cases round_write faithful keeps supply (change state) with
      | done after keeps writes => exact .done after keeps (runs_update_of_reads reads writes)
      | failed after failure keeps fails => exact .failed after failure keeps (reads.bind fails)

theorem round_loadGrammar :
    Round Keeps (loadGrammar medium) ⟨condition, supply⟩ state (loaded state supply).1 state
      (loaded state supply).2 := by
  cases round_read faithful keeps supply with
  | done after keeps reads => exact .done after keeps (runs_loadGrammar_of_reads reads)
  | failed after failure keeps fails => exact .failed after failure keeps (fails.bind_error _)

theorem round_loadRecord (record : State → α) :
    Round Keeps (do return record (← read medium)) ⟨condition, supply⟩ state (record state) state
      supply := by
  cases round_read faithful keeps supply with
  | done after keeps reads => exact .done after keeps (runs_loadRecord_of_reads reads record)
  | failed after failure keeps fails => exact .failed after failure keeps (fails.bind_error _)

end Faithful

end Store
end PhraseGrammar
