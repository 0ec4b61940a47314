import PhraseGrammar.Text.Basic

/-!
# Errors of file access

Why a file could not be read or written: the kind of the error and the sentence of the operating
system. Errors of one kind count as alike whatever they say.
-/

namespace PhraseGrammar

/-- The kinds of errors in accessing a file. -/
inductive FileErrorKind
  | notFound
  | permissionDenied
  | alreadyExists
  | isDirectory
  | notDirectory
  | invalidName
  | invalidInput
  | invalidData
  | unexpectedEnd
  | interrupted
  | storageFull
  | readOnly
  | other
  deriving DecidableEq, Repr

/-- An error in accessing a file. -/
structure FileError where
  kind : FileErrorKind
  text : Text
  deriving DecidableEq, Repr

namespace FileError

/-- Whether two errors are of one kind. -/
def alike (first second : FileError) : Bool := first.kind == second.kind

/-- There is no such file, or the directory it should be in does not exist. -/
def notFound : FileError where
  kind := .notFound
  text := "No such file or directory (os error 2)"

/-- The file is a directory. -/
def isDirectory : FileError where
  kind := .isDirectory
  text := "Is a directory (os error 21)"

/-- A file stands where the path asks for a directory. -/
def notDirectory : FileError where
  kind := .notDirectory
  text := "Not a directory (os error 20)"

/-- A name in the path, or the path, is longer than allowed. -/
def nameTooLong : FileError where
  kind := .invalidName
  text := "File name too long (os error 36)"

/-- The path contains the character U+0000. -/
def nulInPath : FileError where
  kind := .invalidInput
  text := "file name contained an unexpected NUL byte"

/-- The bytes of the file are no text. -/
def notText : FileError where
  kind := .invalidData
  text := "stream did not contain valid UTF-8"

end FileError
end PhraseGrammar
