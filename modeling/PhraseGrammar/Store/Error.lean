import PhraseGrammar.File.Error
import PhraseGrammar.Json.Fault
import PhraseGrammar.Location

/-!
# Errors of the store

The stored state may be out of reach, or be no state document. A failure of the store is such an
error with the place in the file that it concerns.
-/

namespace PhraseGrammar

/-- Why the stored state could not be read or written. -/
inductive StoreError
  /-- The file could not be accessed. -/
  | file (error : FileError)
  /-- The file is no state document. -/
  | malformed (found : Json.Malformed)
  deriving DecidableEq, Repr

namespace StoreError

/-- The sentence that reports an error. -/
def message : StoreError -> Text
  | .file error => "File error: " ++ error.text
  | .malformed found => "Malformed state: " ++ found.message

/-- Whether two errors are of one kind. -/
def alike : StoreError -> StoreError -> Bool
  | .file first, .file second => first.alike second
  | .malformed _, .malformed _ => true
  | _, _ => false

end StoreError

/-- An error of the store and where it concerns. -/
structure StoreFailure where
  location : Location
  error : StoreError
  deriving DecidableEq, Repr

namespace StoreFailure

/-- The sentence that reports a failure. -/
def message (failure : StoreFailure) : Text := failure.location.locate failure.error.message

end StoreFailure
end PhraseGrammar
