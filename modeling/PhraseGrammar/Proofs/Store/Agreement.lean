import Mathlib.Data.List.DropRight
import PhraseGrammar.Proofs.Store.File
import PhraseGrammar.Store.Operation

/-!
# The store in a file agrees with the store in memory

From a file that can be read, and from the state that is read from it, the two stores answer every
operation alike and never fail, as long as no tree is saved that could not be read back. What a load
answers is told by the operations before it: the record that was saved last, since everything was
last forgotten. After each operation that writes, the file holds the document of the state in
memory.

Each operation is described by its effect on a state and by its answer. One lemma says that an
operation does just this on any medium that can be read and written; the two stores are two cases of
it.
-/

namespace PhraseGrammar

open Document

/-- What a field of the state holds, if it is not empty. -/
abbrev Document.StateField.Record : StateField → Type
  | .grammar => Grammar
  | .verdict => Verdict
  | .derivationTree => LabelledTree
  | .generalTree => LabelledTree

/-- The record in a field. -/
def State.record (state : State) : (field : StateField) → Option field.Record
  | .grammar => state.grammar
  | .verdict => state.verdict
  | .derivationTree => state.derivationTree
  | .generalTree => state.generalTree

namespace Store

open Medium PhraseGrammar.Action

namespace Operation

/-- The operation that loads the record in a field. -/
def load : StateField → Operation
  | .grammar => .loadGrammar
  | .verdict => .loadVerdict
  | .derivationTree => .loadDerivationTree
  | .generalTree => .loadGeneralTree

/-- Whether an operation changes nothing. -/
def isLoad : Operation → Bool
  | .loadGrammar | .loadVerdict | .loadDerivationTree | .loadGeneralTree => true
  | _ => false

/-- Whether an operation forgets everything. -/
def isClear : Operation → Bool
  | .clear => true
  | _ => false

/-- What an operation saves in a field, which may be that no record is there; nothing if it does not
save in that field. -/
def saved? : Operation → (field : StateField) → Option (Option field.Record)
  | .saveGrammar grammar, .grammar => some (some grammar)
  | .saveVerdict verdict, .verdict => some (some verdict)
  | .saveDerivationTree tree, .derivationTree => some tree
  | .saveGeneralTree tree, .generalTree => some tree
  | _, _ => none

/-- What an operation makes of a state. -/
def effect : Operation → State → State
  | .saveGrammar grammar, state => { state with grammar := some grammar }
  | .saveVerdict verdict, state => { state with verdict := some verdict }
  | .saveDerivationTree tree, state => { state with derivationTree := tree }
  | .saveGeneralTree tree, state => { state with generalTree := tree }
  | .clear, _ => .empty
  | _, state => state

/-- What an operation answers from a state, and what is left of the supply. -/
def answer (state : State) (supply : Supply) : Operation → Answer × Supply
  | .loadGrammar => (.grammar (loaded state supply).1, (loaded state supply).2)
  | .loadVerdict => (.verdict state.verdict, supply)
  | .loadDerivationTree => (.tree state.derivationTree, supply)
  | .loadGeneralTree => (.tree state.generalTree, supply)
  | _ => (.done, supply)

/-- No tree that the operation saves has more levels than can be read back. -/
def SavesShallow : Operation → Prop
  | .saveDerivationTree tree => ∀ saved ∈ tree, saved.levels ≤ levelLimit
  | .saveGeneralTree tree => ∀ saved ∈ tree, saved.levels ≤ levelLimit
  | _ => True

theorem effect_of_isLoad
    {operation : Operation}
    (isLoad : operation.isLoad = true)
    (state : State) :
    operation.effect state = state := by
  cases operation <;> first | rfl | cases isLoad

/-- The record in a field after an operation. -/
theorem record_effect (operation : Operation) (state : State) (field : StateField) :
    (operation.effect state).record field =
      if operation.isClear then none else (operation.saved? field).getD (state.record field) := by
  cases operation <;> cases field <;> rfl

section Frame

variable {operation : Operation} {field other : StateField}
  (saves : (operation.saved? field).isSome = true)

include saves

/-- An operation that saves in one field leaves the others as they are. -/
theorem record_effect_of_ne (differs : other ≠ field) (state : State) :
    (operation.effect state).record other = state.record other := by
  cases operation <;> cases field <;> cases other <;>
    first | rfl | exact absurd rfl differs | cases saves

/-- An operation that saves takes no identifiers. -/
theorem answer_of_saves (state : State) (supply : Supply) :
    operation.answer state supply = (.done, supply) := by
  cases operation <;> first | rfl | cases saves

end Frame

/-- A shallow state stays shallow if only shallow trees are saved. -/
theorem shallow_effect
    {operation : Operation}
    (savesShallow : operation.SavesShallow)
    {state : State}
    (shallow : state.Shallow) :
    (operation.effect state).Shallow := by
  cases operation with
  | saveDerivationTree tree => exact ⟨savesShallow, shallow.generalTree⟩
  | saveGeneralTree tree => exact ⟨shallow.derivationTree, savesShallow⟩
  | clear => exact State.shallow_empty
  | _ => exact ⟨shallow.derivationTree, shallow.generalTree⟩

/-- What a load answers depends on the record in its field alone. -/
theorem answer_load
    {field : StateField}
    {state state' : State}
    (sameRecord : state.record field = state'.record field)
    (supply : Supply) :
    (load field).answer state supply = (load field).answer state' supply := by
  cases field with
  | grammar =>
      change state.grammar = state'.grammar at sameRecord
      simp only [load, answer, loaded, sameRecord]
  | verdict => exact congrArg (fun record => (Answer.verdict record, supply)) sameRecord
  | derivationTree => exact congrArg (fun record => (Answer.tree record, supply)) sameRecord
  | generalTree => exact congrArg (fun record => (Answer.tree record, supply)) sameRecord

end Operation

/-! ## One operation -/

/-- On a medium from which the state can be read, and to which what the operation makes of it can be
written, the operation answers and takes effect. -/
theorem runs_perform_of_reads
    {medium : Medium σ}
    {condition written : σ}
    {supply : Supply}
    {state : State}
    (reads : (read medium).Runs ⟨condition, supply⟩ (.ok state) ⟨condition, supply⟩)
    {operation : Operation}
    (writes : (write medium (operation.effect state)).Runs ⟨condition, supply⟩ (.ok ())
      ⟨written, supply⟩) :
    (perform medium operation).Runs ⟨condition, supply⟩ (.ok (operation.answer state supply).1)
      ⟨if operation.isLoad then condition else written, (operation.answer state supply).2⟩ := by
  cases operation with
  | loadGrammar => exact (runs_loadGrammar_of_reads reads).map Answer.grammar
  | loadVerdict => exact (runs_loadRecord_of_reads reads State.verdict).map Answer.verdict
  | loadDerivationTree =>
      exact (runs_loadRecord_of_reads reads State.derivationTree).map Answer.tree
  | loadGeneralTree => exact (runs_loadRecord_of_reads reads State.generalTree).map Answer.tree
  | saveGrammar grammar => exact (runs_update_of_reads reads writes).map fun _ => Answer.done
  | saveVerdict verdict => exact (runs_update_of_reads reads writes).map fun _ => Answer.done
  | saveDerivationTree tree => exact (runs_update_of_reads reads writes).map fun _ => Answer.done
  | saveGeneralTree tree => exact (runs_update_of_reads reads writes).map fun _ => Answer.done
  | clear => exact writes.map fun _ => Answer.done

/-- The world after operations on the store in turn. -/
abbrev performAll (medium : Medium σ) (world : World σ) (operations : List Operation) : World σ :=
  afterAll (perform medium) world operations

/-- In memory, an operation always answers and takes effect. -/
theorem runs_perform_memory (operation : Operation) (state : State) (supply : Supply) :
    (perform memory operation).Runs ⟨state, supply⟩ (.ok (operation.answer state supply).1)
      ⟨operation.effect state, (operation.answer state supply).2⟩ := by
  have reads : (read memory).Runs ⟨state, supply⟩ (.ok state) ⟨state, supply⟩ := .onMedium _
  have writes : (write memory (operation.effect state)).Runs ⟨state, supply⟩ (.ok ())
      ⟨operation.effect state, supply⟩ := .onMedium _
  have runs := runs_perform_of_reads reads writes
  split at runs
  next isLoad =>
    rw [operation.effect_of_isLoad isLoad]
    exact runs
  next => exact runs

theorem answer_perform_memory (operation : Operation) (world : World State) :
    ((perform memory operation).outcome world).1 =
      .ok (operation.answer world.medium world.supply).1 :=
  (Runs.outcome (runs_perform_memory operation world.medium world.supply)).1

/-- In a file that can be read and written, an operation answers from the state that is read. If it
writes, it leaves the document of what it makes of that state. -/
theorem runs_perform_file
    {path : Text}
    {slot : Slot}
    {state : State}
    (isRead : (readSlot path slot).result = .ok state)
    (writable : slot.refusal = none)
    (operation : Operation)
    (supply : Supply) :
    (perform (file path) operation).Runs ⟨slot, supply⟩ (.ok (operation.answer state supply).1)
      ⟨if operation.isLoad then slot else .holding (operation.effect state),
        (operation.answer state supply).2⟩ :=
  runs_perform_of_reads (runs_read_ok isRead) (runs_write writable)

/-! ## The two stores side by side -/

/-- The file can be read and written, it is read as the state in memory, and the same identifiers
are still to be taken. -/
structure Agree (path : Text) (inFile : World Slot) (inMemory : World State) : Prop where
  isRead : (readSlot path inFile.medium).result = .ok inMemory.medium
  writable : inFile.medium.refusal = none
  sameSupply : inFile.supply = inMemory.supply

section Agree

variable {path : Text} {inFile : World Slot} {inMemory : World State}
  (agree : Agree path inFile inMemory)

include agree

/-- An operation does in the file what it does in memory. -/
theorem Agree.runs_perform (operation : Operation) :
    (perform (file path) operation).Runs inFile.setting
      (.ok (operation.answer inMemory.medium inMemory.supply).1)
      ⟨if operation.isLoad then inFile.medium else .holding (operation.effect inMemory.medium),
        (operation.answer inMemory.medium inMemory.supply).2⟩ := by
  rw [← agree.sameSupply]
  exact runs_perform_file agree.isRead agree.writable operation inFile.supply

/-- The two stores still agree after an operation that saves no tree too deep to be read back. -/
theorem Agree.after
    {operation : Operation}
    (savesShallow : operation.SavesShallow) :
    Agree path ((perform (file path) operation).outcome inFile).2
      ((perform memory operation).outcome inMemory).2 := by
  have inFileRuns := agree.runs_perform operation
  have inMemoryRuns := runs_perform_memory operation inMemory.medium inMemory.supply
  have shallow := Operation.shallow_effect savesShallow (shallow_of_readSlot agree.isRead)
  refine ⟨?_, ?_, (Runs.supply_eq inFileRuns).trans (Runs.supply_eq inMemoryRuns).symm⟩
  · rw [Runs.medium_eq inFileRuns, Runs.medium_eq inMemoryRuns]
    split
    next isLoad =>
      rw [Operation.effect_of_isLoad isLoad]
      exact agree.isRead
    next => exact readSlot_holding path shallow
  · rw [Runs.medium_eq inFileRuns]
    split
    next => exact agree.writable
    next => rfl

/-- The two stores still agree after any operations that save no tree too deep to be read back. -/
theorem Agree.afterAll
    {operations : List Operation}
    (saveShallow : ∀ operation ∈ operations, operation.SavesShallow) :
    Agree path (performAll (file path) inFile operations)
      (performAll memory inMemory operations) := by
  induction operations generalizing inFile inMemory with
  | nil => exact agree
  | cons operation operations inductionHypothesis =>
      obtain ⟨first, more⟩ := List.forall_mem_cons.mp saveShallow
      exact inductionHypothesis (agree.after first) more

/-- Saving in one field leaves what the loads of the other fields answer as it is. -/
theorem Agree.load_after_save
    {operation : Operation}
    (savesShallow : operation.SavesShallow)
    {field other : StateField}
    (saves : (operation.saved? field).isSome = true)
    (differs : other ≠ field) :
    ((perform (file path) (.load other)).outcome
          ((perform (file path) operation).outcome inFile).2).1 =
        ((perform (file path) (.load other)).outcome inFile).1 ∧
      ((perform memory (.load other)).outcome ((perform memory operation).outcome inMemory).2).1 =
        ((perform memory (.load other)).outcome inMemory).1 := by
  have saved := runs_perform_memory operation inMemory.medium inMemory.supply
  have after := agree.after savesShallow
  have sameRecord := Operation.record_effect_of_ne saves differs inMemory.medium
  have sameAnswer := Operation.answer_load sameRecord inMemory.supply
  have sameSupply := Operation.answer_of_saves saves inMemory.medium inMemory.supply
  constructor
  · rw [(Runs.outcome (after.runs_perform _)).1, (Runs.outcome (agree.runs_perform _)).1,
      Runs.medium_eq saved, Runs.supply_eq saved, sameSupply, sameAnswer]
  · rw [answer_perform_memory, answer_perform_memory,
      Runs.medium_eq saved, Runs.supply_eq saved, sameSupply, sameAnswer]

end Agree

/-! ## What a load answers -/

/-- The operations since everything was last forgotten. -/
def sinceClear (history : List Operation) : List Operation :=
  history.rtakeWhile fun operation => !operation.isClear

/-- The record that a field should hold after some operations: what was saved there last since
everything was forgotten. If nothing was, it is the initial record as long as nothing was ever
forgotten, and otherwise none. -/
def keptRecord
    (field : StateField)
    (initial : Option field.Record)
    (history : List Operation) : Option field.Record :=
  match ((sinceClear history).filterMap (·.saved? field)).getLast? with
  | some saved => saved
  | none => if history.any Operation.isClear then none else initial

/-- What an operation should answer after some operations from an initial state. -/
def expectedAnswer
    (initial : State)
    (history : List Operation)
    (supply : Supply) : Operation → Answer
  | .loadGrammar =>
      .grammar ((keptRecord .grammar initial.grammar history).getD (Grammar.initial supply).1)
  | .loadVerdict => .verdict (keptRecord .verdict initial.verdict history)
  | .loadDerivationTree => .tree (keptRecord .derivationTree initial.derivationTree history)
  | .loadGeneralTree => .tree (keptRecord .generalTree initial.generalTree history)
  | _ => .done

theorem keptRecord_concat
    (field : StateField)
    (initial : Option field.Record)
    (history : List Operation)
    (last : Operation) :
    keptRecord field initial (history ++ [last]) =
      if last.isClear then none
      else (last.saved? field).getD (keptRecord field initial history) := by
  unfold keptRecord sinceClear
  rw [List.rtakeWhile_concat]
  cases isClear : last.isClear with
  | true => simp [isClear]
  | false => cases saved : last.saved? field <;> simp [isClear, saved]

/-- The state in memory holds in each field what should be there. -/
theorem record_performAll_memory
    (field : StateField)
    (world : World State)
    (history : List Operation) :
    (performAll memory world history).medium.record field =
      keptRecord field (world.medium.record field) history := by
  induction history using List.reverseRecOn with
  | nil => rfl
  | append_singleton history last inductionHypothesis =>
      have runs := runs_perform_memory last (performAll memory world history).medium
        (performAll memory world history).supply
      rw [performAll, afterAll_concat, Runs.medium_eq runs, Operation.record_effect,
        inductionHypothesis, keptRecord_concat]

theorem answer_performAll_memory
    (world : World State)
    (history : List Operation)
    (supply : Supply)
    (operation : Operation) :
    (operation.answer (performAll memory world history).medium supply).1 =
      expectedAnswer world.medium history supply operation := by
  have kept := fun field => record_performAll_memory field world history
  cases operation with
  | loadGrammar =>
      refine congrArg Answer.grammar ?_
      rw [← show _ = keptRecord .grammar world.medium.grammar history from kept .grammar]
      change (loaded (performAll memory world history).medium supply).1 =
        (performAll memory world history).medium.grammar.getD _
      rw [loaded]
      cases (performAll memory world history).medium.grammar <;> rfl
  | loadVerdict => exact congrArg Answer.verdict (kept .verdict)
  | loadDerivationTree => exact congrArg Answer.tree (kept .derivationTree)
  | loadGeneralTree => exact congrArg Answer.tree (kept .generalTree)
  | _ => rfl

/-! ## Agreement -/

/-- From a file that can be read and written, whatever text it holds, and from the state that is
read from it, after any operations that save no tree of more than 63 levels, a further one is
answered alike in the file and in memory, and does not fail. The answer is the one that the
operations before it determine. If the operation writes, the file then holds the document of the
state in memory. If it saves in one field, all loads of other fields answer as before. -/
theorem file_agrees_with_memory
    (path : Text)
    (inFile : World Slot)
    (inMemory : World State)
    (agree : Agree path inFile inMemory)
    (history : List Operation)
    (operation : Operation)
    (saveShallow : ∀ performed ∈ history ++ [operation], performed.SavesShallow) :
    let inFile' := performAll (file path) inFile history
    let inMemory' := performAll memory inMemory history
    let ofFile := (perform (file path) operation).outcome inFile'
    let ofMemory := (perform memory operation).outcome inMemory'
    ofFile.1 = ofMemory.1 ∧
    ofMemory.1 = .ok (expectedAnswer inMemory.medium history inMemory'.supply operation) ∧
    (operation.isLoad = false → ofFile.2.medium.content = .text (document ofMemory.2.medium)) ∧
    ∀ field other, (operation.saved? field).isSome = true → other ≠ field →
      ((perform (file path) (.load other)).outcome ofFile.2).1 =
          ((perform (file path) (.load other)).outcome inFile').1 ∧
        ((perform memory (.load other)).outcome ofMemory.2).1 =
          ((perform memory (.load other)).outcome inMemory').1 := by
  intro inFile' inMemory' ofFile ofMemory
  obtain ⟨historyShallow, operationShallow⟩ := List.forall_mem_append.mp saveShallow
  have agree' : Agree path inFile' inMemory' := agree.afterAll historyShallow
  have inFileRuns := agree'.runs_perform operation
  have inMemoryRuns := runs_perform_memory operation inMemory'.medium inMemory'.supply
  have fileAnswer : ofFile.1 = _ := (Runs.outcome inFileRuns).1
  have memoryAnswer : ofMemory.1 = _ := answer_perform_memory operation inMemory'
  have expected := answer_performAll_memory inMemory history inMemory'.supply operation
  refine ⟨fileAnswer.trans memoryAnswer.symm, memoryAnswer.trans (congrArg Except.ok expected), ?_,
    fun _ _ => agree'.load_after_save (operationShallow operation (List.mem_singleton_self _))⟩
  intro writes
  rw [show ofFile.2.medium = _ from Runs.medium_eq inFileRuns,
    show ofMemory.2.medium = _ from Runs.medium_eq inMemoryRuns, writes]
  rfl

/-- A tree of one node. -/
def singleNode : LabelledTree := .node { id := "t", label := "S" } []

/-- The state in which that tree is the general tree, and nothing else is kept. -/
def singleNodeState : State := { State.empty with generalTree := some singleNode }

/-- A file that holds this state in the compact form, in which the store itself never writes. -/
def compactWorld : World Slot where
  medium := { content := .text (valueOfState singleNodeState).compact, refusal := none }
  supply := .ofSeed 0
  log := []

/-- The same state in memory. -/
def singleNodeWorld : World State where
  medium := singleNodeState
  supply := .ofSeed 0
  log := []

/-- After a derivation tree is saved and removed again, the general tree is still the one of the
file.
-/
theorem file_agrees_with_memory_compact :
    let history : List Operation :=
      [.saveDerivationTree (some singleNode), .saveDerivationTree none]
    Agree "state.json" compactWorld singleNodeWorld ∧
    (∀ performed ∈ history ++ [.loadGeneralTree], performed.SavesShallow) ∧
    ((perform (file "state.json") .loadGeneralTree).outcome
      (performAll (file "state.json") compactWorld history)).1 = .ok (.tree (some singleNode)) := by
  intro history
  have treeShallow : ∀ tree ∈ some singleNode, tree.levels ≤ levelLimit := by
    rintro _ ⟨⟩
    decide
  have noneShallow : ∀ tree ∈ (none : Option LabelledTree), tree.levels ≤ levelLimit := by
    rintro _ ⟨⟩
  have shallow : singleNodeState.Shallow := ⟨noneShallow, treeShallow⟩
  have isParsed := parseState_spelled
    (Json.spelled_compact _ (writable_valueOfState singleNodeState)) shallow
  have isRead : (readSlot "state.json" compactWorld.medium).result = .ok singleNodeState := by
    simp only [readSlot, compactWorld, Slot.read, isParsed]
    rfl
  have saveShallow : ∀ performed ∈ history ++ [.loadGeneralTree], performed.SavesShallow := by
    simp only [history, List.cons_append, List.nil_append, List.forall_mem_cons]
    exact ⟨treeShallow, noneShallow, trivial, fun _ absent => absurd absent List.not_mem_nil⟩
  have agree : Agree "state.json" compactWorld singleNodeWorld := ⟨isRead, rfl, rfl⟩
  have agreement := file_agrees_with_memory _ _ _ agree history .loadGeneralTree saveShallow
  exact ⟨agree, saveShallow, agreement.1.trans agreement.2.1⟩

end Store
end PhraseGrammar
