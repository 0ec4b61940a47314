import PhraseGrammar.Store.Action

/-!
# The records of a store

Each record of the state is loaded and saved on its own. To save one, the whole state is read,
changed in that record, and written again; so nothing can be saved over a state that can not be
read. Only `clear` writes without reading.
-/

namespace PhraseGrammar
namespace Store

/-- Read the state. -/
def read (medium : Medium σ) : Action σ StoreFailure State := .onMedium medium.read

/-- Replace the state. -/
def write (medium : Medium σ) (state : State) : Action σ StoreFailure Unit :=
  .onMedium (medium.write state)

/-- Read the state and replace it by a changed one. -/
def update (medium : Medium σ) (change : State -> State) : Action σ StoreFailure Unit := do
  let state ← read medium
  write medium (change state)

/-- What is noted when no grammar is kept. -/
def initialGrammarRecord : LogRecord where
  level := .debug
  text := "No saved grammar, using the default"

/-- The grammar that is kept, or else a new initial one. -/
def loadGrammar (medium : Medium σ) : Action σ StoreFailure Grammar := do
  let state ← read medium
  match state.grammar with
  | some grammar => return grammar
  | none =>
      .note initialGrammarRecord
      .taking Grammar.initial

/-- The verdict of the last validation. -/
def loadVerdict (medium : Medium σ) : Action σ StoreFailure (Option Verdict) := do
  return (← read medium).verdict

/-- The derivation tree of the last validation. -/
def loadDerivationTree (medium : Medium σ) : Action σ StoreFailure (Option LabelledTree) := do
  return (← read medium).derivationTree

/-- The general tree of the last validation. -/
def loadGeneralTree (medium : Medium σ) : Action σ StoreFailure (Option LabelledTree) := do
  return (← read medium).generalTree

/-- Keep a grammar. -/
def saveGrammar (medium : Medium σ) (grammar : Grammar) : Action σ StoreFailure Unit :=
  update medium fun state => { state with grammar := some grammar }

/-- Keep a verdict. -/
def saveVerdict (medium : Medium σ) (verdict : Verdict) : Action σ StoreFailure Unit :=
  update medium fun state => { state with verdict := some verdict }

/-- Keep a derivation tree, or none. -/
def saveDerivationTree (medium : Medium σ) (tree : Option LabelledTree) :
    Action σ StoreFailure Unit :=
  update medium fun state => { state with derivationTree := tree }

/-- Keep a general tree, or none. -/
def saveGeneralTree (medium : Medium σ) (tree : Option LabelledTree) :
    Action σ StoreFailure Unit :=
  update medium fun state => { state with generalTree := tree }

/-- Forget everything, the grammar included. -/
def clear (medium : Medium σ) : Action σ StoreFailure Unit := write medium .empty

end Store
end PhraseGrammar
