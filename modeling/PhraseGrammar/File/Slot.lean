import PhraseGrammar.File.Error

/-!
# What is at a path

To a program that keeps its data in one file, the file system is what it finds at that path and
whether it may write there. A slot is just that. A write that is refused changes nothing; one that
is not refused leaves the text at the path, whatever was there before.
-/

namespace PhraseGrammar

/-- What a read of a path finds. -/
inductive Content
  | missing
  | text (text : Text)
  | unreadable (error : FileError)
  deriving DecidableEq, Repr

/-- What a read of a path finds, and why a write to it is refused, if it is. -/
structure Slot where
  content : Content
  refusal : Option FileError
  deriving DecidableEq, Repr

namespace Slot

/-- A path where a file can be made but is none yet. -/
def vacant : Slot where
  content := .missing
  refusal := none

/-- A path that can be neither read nor written, for the same reason. -/
def blocked (error : FileError) : Slot where
  content := .unreadable error
  refusal := some error

/-- The path of a directory. -/
def directory : Slot := blocked .isDirectory

/-- A path in a directory that does not exist. -/
def unreachable : Slot where
  content := .missing
  refusal := some .notFound

/-- The same path with a slash after it. It asks for a directory, so nothing but a directory is
found there; and no file is made there, whatever else is wrong with the name. -/
def underSlash (slot : Slot) : Slot :=
  if slot = directory then slot
  else
    { content :=
        if slot.content = .missing || slot = blocked .nameTooLong then slot.content
        else .unreadable .notDirectory
      refusal := some .isDirectory }

/-- The path of a file with the given bytes. -/
def ofBytes (bytes : ByteArray) : Slot where
  content :=
    match String.fromUTF8? bytes with
    | some string => .text string.toList
    | none => .unreadable .notText
  refusal := none

/-- The text at the path, if there is a file. -/
def read (slot : Slot) : Except FileError (Option Text) :=
  match slot.content with
  | .missing => .ok none
  | .text text => .ok (some text)
  | .unreadable error => .error error

/-- Put a text at the path. -/
def write (text : Text) (slot : Slot) : Except FileError Slot :=
  match slot.refusal with
  | some error => .error error
  | none => .ok { slot with content := .text text }

end Slot
end PhraseGrammar
