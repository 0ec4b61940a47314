import PhraseGrammar.CommandLine.Run

/-!
# The program

The outermost layer: it looks up what is at the path of the state file, lets `CommandLine.run` work
out what happens, puts the text that should be there at the path, and prints. If the text can not be
written, the run is worked out again with that refusal, since a refused write changes nothing.
-/

namespace PhraseGrammar
namespace Program

/-- The number and the words of an error of the operating system. -/
def codeOf : IO.Error -> UInt32 × String
  | .noFileOrDirectory _ code words => (code, words)
  | .inappropriateType _ code words => (code, words)
  | .permissionDenied _ code words => (code, words)
  | .alreadyExists _ code words => (code, words)
  | .invalidArgument _ code words => (code, words)
  | .resourceExhausted _ code words => (code, words)
  | .noSuchThing _ code words => (code, words)
  | .interrupted _ code words => (code, words)
  | .otherError code words => (code, words)
  | .resourceBusy code words => (code, words)
  | error => (0, toString error)

/-- An error of the operating system as an error of file access. -/
def fileError (error : IO.Error) : FileError :=
  let (code, words) := codeOf error
  let number := if code.toNat < Nat.pow 2 31 then code.toNat else Nat.pow 2 32 - code.toNat
  let described (kind : FileErrorKind) : FileError :=
    { kind, text := words.capitalize.toList ++ " (os error " ++ Text.ofNat number ++ ")" }
  match number with
  | 2 => .notFound
  | 13 => described .permissionDenied
  | 17 => described .alreadyExists
  | 20 => .notDirectory
  | 21 => .isDirectory
  | 22 => .nulInPath
  | 28 => described .storageFull
  | 30 => described .readOnly
  | 36 => .nameTooLong
  | _ => described .other

/-- What is at a path of the file system. -/
def look (path : String) : IO Slot := do
  try
    return .ofBytes (← IO.FS.readBinFile path)
  catch error =>
    let error := fileError error
    return if error.kind = .notFound then .vacant
      else { content := .unreadable error, refusal := none }

/-- A supply of identifiers from random bytes. -/
def randomSupply : IO Supply := do
  let bytes ← IO.getRandomBytes 16
  let seed := bytes.toList.foldl (fun seed byte => seed * 256 + byte.toNat) 0
  return .ofSeed (BitVec.ofNat 128 seed)

/-- Carry out a command on the file system. -/
def carryOut (invocation : CommandLine.Invocation) : IO CommandLine.Report := do
  let path := String.ofList invocation.file
  let slot ← look path
  let supply ← randomSupply
  let report := CommandLine.run invocation slot supply
  match report.slot.content with
  | .text text =>
      if report.slot = slot then return report
      else
        try
          IO.FS.writeFile path (String.ofList text)
          return report
        catch error =>
          return CommandLine.run invocation { slot with refusal := some (fileError error) } supply
  | _ => return report

/-- What is printed about the use of the program. -/
def usage : String :=
  "Usage: sentential [--state <FILE>] <COMMAND>\n\nCommands:\n" ++
    String.join (CommandLine.Subcommand.all.map fun subcommand =>
      "  " ++ String.ofList subcommand.name ++ "\n")

/-- Answer arguments that give no command. -/
def refuse (refusal : CommandLine.Refusal) : IO UInt32 := do
  match refusal with
  | .version => IO.print (String.ofList refusal.output)
  | .help => IO.print usage
  | _ => IO.eprint usage
  return if refusal.isRequest then 0 else 2

end Program
end PhraseGrammar

open PhraseGrammar in
/-- The program: exits with 1 if the command failed, and with 2 if there was none. -/
def main (arguments : List String) : IO UInt32 := do
  let environment ← IO.getEnv "SENTENTIAL_STATE"
  match CommandLine.understand (environment.map String.toList) (arguments.map String.toList) with
  | .error refusal => Program.refuse refusal
  | .ok invocation => do
      let report ← Program.carryOut invocation
      IO.print (String.ofList report.output)
      unless report.error.isNone do
        IO.eprintln (String.ofList report.errorOutput)
      return report.exitCode
