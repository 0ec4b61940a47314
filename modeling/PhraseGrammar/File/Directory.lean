import PhraseGrammar.File.Slot

/-!
# A working directory

A directory with what is in it, as a value. It answers what is at a path by the rules of POSIX. A
path is followed name by name, and what a name leads to must be a directory if anything but the end
of the path comes after it; `.` stays and `..` goes back. The last name, unless it is one of these
two, need not be that of anything yet: a file can be made there. Only, no file can be made under a
name with a slash after it, and this is noticed before anything about the name itself.

Nothing is known of the directories outside, but that they exist.
-/

namespace PhraseGrammar

/-- The files and directories that have been made, by the names that lead to them. -/
structure Directory where
  entries : List (List Text × Slot)

namespace Directory

/-- A directory with nothing in it. -/
def empty : Directory := { entries := [] }

/-- The parts of a text between its slashes. -/
def parts : Text -> List Text
  | [] => [[]]
  | c :: rest =>
      match c, parts rest with
      | '/', parts => [] :: parts
      | c, [] => [[c]]
      | c, part :: parts => (c :: part) :: parts

/-- The greatest number of bytes in a name. -/
def nameLimit : Nat := 255

/-- The number of bytes at which a path is too long. -/
def pathLimit : Nat := 4096

/-- The name of a directory in itself. -/
def here : Text := ['.']

/-- The name of the directory above in a directory. -/
def above : Text := ['.', '.']

/-- The name that stands for the directory above all others. -/
def root : Text := ['/']

/-- Where following a path leads. -/
inductive Place
  /-- To the entry with the names, which may be there or not. -/
  | entry (names : List Text)
  /-- To a directory that is known to exist. -/
  | directory
  /-- Nowhere. -/
  | nowhere (slot : Slot)

/-- The entry with the given names, of which the last is `name`. -/
def entry (directory : Directory) (names : List Text) : Slot :=
  if nameLimit < Text.byteCount (names.getLast?.getD []) then .blocked .nameTooLong
  else (directory.entries.lookup names).getD .vacant

/-- The names that lead to the directory above the one to which `names` lead. -/
def goBack (names : List Text) : List Text :=
  match names.getLast? with
  | none => [above]
  | some last =>
      if last = above then names ++ [above]
      else if last = root then names
      else names.dropLast

/-- Follow names from the directory to which `base` leads. -/
def follow (directory : Directory) (base : List Text) : List Text -> Place
  | [] => .directory
  | name :: rest =>
      if name = here then directory.follow base rest
      else if name = above then directory.follow (goBack base) rest
      else
        match rest with
        | [] => .entry (base ++ [name])
        | _ :: _ =>
            let slot := directory.entry (base ++ [name])
            if slot = .directory then directory.follow (base ++ [name]) rest
            else if slot = .blocked .nameTooLong then .nowhere slot
            else if slot.content = .missing then .nowhere .unreachable
            else .nowhere (.blocked .notDirectory)

/-- Follow a path. -/
def place (directory : Directory) (path : Text) : Place :=
  if path.any (fun c => c.toNat == 0) then .nowhere (.blocked .nulInPath)
  else if path = [] then .nowhere .unreachable
  else if pathLimit ≤ Text.byteCount path then .nowhere (.blocked .nameTooLong)
  else
    let base : List Text := if path.head? = some '/' then [root] else []
    directory.follow base ((parts path).filter fun part => part != [])

/-- Whether a path ends in a slash. -/
def endsInSlash (path : Text) : Bool := path.getLast? == some '/'

/-- What is at a path. -/
def slot (directory : Directory) (path : Text) : Slot :=
  match directory.place path with
  | .directory => .directory
  | .nowhere slot => slot
  | .entry names =>
      let slot := directory.entry names
      if endsInSlash path then slot.underSlash else slot

/-- Put something at the names, in place of what was there before. -/
def put (directory : Directory) (names : List Text) (slot : Slot) : Directory :=
  { entries := (names, slot) :: directory.entries.filter fun other => other.1 != names }

/-- Record what is at a path from now on, if a file can be made there. -/
def record (directory : Directory) (path : Text) (slot : Slot) : Directory :=
  match directory.place path with
  | .entry names => if endsInSlash path then directory else directory.put names slot
  | _ => directory

/-- Write bytes to the file at a path, if that is possible. -/
def writeBytes (directory : Directory) (path : Text) (bytes : ByteArray) : Directory :=
  if (directory.slot path).refusal.isNone then directory.record path (.ofBytes bytes)
  else directory

/-- Make a directory at a path, if there is nothing yet. -/
def makeDirectory (directory : Directory) (path : Text) : Directory :=
  match directory.place path with
  | .entry names =>
      if directory.entry names = .vacant then directory.put names .directory else directory
  | _ => directory

/-- Remove the file at a path, or the directory with all that is in it. -/
def remove (directory : Directory) (path : Text) : Directory :=
  match directory.place path with
  | .entry names =>
      if endsInSlash path && directory.entry names != .directory then directory
      else { entries := directory.entries.filter fun other =>
        other.1.take names.length != names }
  | _ => directory

/-- The texts of the files in the directory itself, by name. -/
def texts (directory : Directory) : List (Text × Text) :=
  directory.entries.filterMap fun (names, slot) =>
    match names, slot.content with
    | [name], .text text => some (name, text)
    | _, _ => none

end Directory
end PhraseGrammar
