import PhraseGrammar.Document.State
import PhraseGrammar.File.Slot
import PhraseGrammar.Log
import PhraseGrammar.Store.Error

/-!
# Media

A medium keeps one state as a whole: it can be read, and replaced. Either may fail. Media are given
by their two operations on a type of conditions that the medium can be in.

There is a medium in memory, which never fails, and one that keeps the state as a document in a
file. A missing file holds the empty state.
-/

namespace PhraseGrammar

/-- What an operation on a medium yields, and what it notes. -/
structure Outcome (α : Type) where
  log : Log
  result : Except StoreFailure α

/-- A place that keeps one state. -/
structure Medium (σ : Type) where
  read : σ -> Outcome State × σ
  write : State -> σ -> Outcome Unit × σ

namespace Medium

/-- The medium that keeps the state itself. -/
def memory : Medium State where
  read state := ({ log := [], result := .ok state }, state)
  write state _ := ({ log := [], result := .ok () }, state)

/-- What is noted about a record that is dropped. -/
def droppedRecord (complaint : Json.Complaint) : LogRecord where
  level := .warn
  text := "Dropping unreadable stored record: " ++ complaint.message

/-- What is noted when the state is written. -/
def savedRecord (path : Text) : LogRecord where
  level := .debug
  text := "Saved state to " ++ path

/-- The document in which a state is kept. -/
def document (state : State) : Text := (Document.valueOfState state).pretty

/-- Read the state from the slot of the file. -/
def readSlot (path : Text) (slot : Slot) : Outcome State :=
  match slot.read with
  | .error error =>
      { log := [], result := .error { location := .whole path, error := .file error } }
  | .ok none => { log := [], result := .ok .empty }
  | .ok (some text) =>
      let reading := Document.parseState text
      { log := reading.dropped.map droppedRecord
        result := reading.result.mapError fun malformed =>
          { location := { file := path, line := malformed.position.line }
            error := .malformed malformed } }

/-- The medium that keeps the state in the file at `path`. -/
def file (path : Text) : Medium Slot where
  read slot := (readSlot path slot, slot)
  write state slot :=
    match slot.write (document state) with
    | .error error =>
        ({ log := [], result := .error { location := .whole path, error := .file error } }, slot)
    | .ok written => ({ log := [savedRecord path], result := .ok () }, written)

end Medium
end PhraseGrammar
