import PhraseGrammar.CommandLine.Command

/-!
# Arguments

How a list of arguments is understood as a command and a state file.

Arguments are taken from left to right on two levels: those before the name of a subcommand and
those after it. On both, `--state` names the state file, as one argument with an equals sign or as
two; `--` makes all further arguments operands. An operand or a state file is checked when the next
one begins or the level ends, so an argument that is not known at all is reported before an operand
that was bad. The subcommand's level is finished before the level above it.

The state file is the one named on the later level; without any, the one in the environment; without
that, `grammar_state.json`.
-/

namespace PhraseGrammar
namespace CommandLine

/-- Why arguments give no command: a request for help or for the version, or a mistake. -/
inductive Refusal
  | help
  | version
  | helpOnMissing
  | missingSubcommand
  | invalidSubcommand
  | unknownArgument
  | missingOperand
  | badOperand
  | invalidValue
  | conflict
  | unwantedValue
  deriving DecidableEq, Repr

namespace Refusal

/-- Requests end the program normally; everything else is a mistake in usage. -/
def isRequest : Refusal -> Bool
  | help | version => true
  | _ => false

/-- The program's answer to the request for its version. -/
def output : Refusal -> Text
  | version => "sentential 0.1.0\n"
  | _ => []

end Refusal

/-- A command and the file that the state is kept in. -/
structure Invocation where
  command : Command
  file : Text
  deriving DecidableEq, Repr

/-! ## Operands -/

/-- Read an index: decimal digits after an optional plus sign, within 64 bits. -/
def readIndex? (text : Text) : Option Nat :=
  let digits :=
    match text with
    | '+' :: rest => rest
    | text => text
  if digits.isEmpty || !digits.all Char.isDigit then none
  else
    let value := digits.foldl (fun value digit => value * 10 + (digit.toNat - '0'.toNat)) 0
    if value < Nat.pow 2 64 then some value else none

/-- Read the name of a side. -/
def readSide? (text : Text) : Option Side :=
  if text = "left" then some .left
  else if text = "right" then some .right
  else none

/-- Check an operand. -/
def checkOperand (kind : OperandKind) (text : Text) : Except Refusal Operand :=
  match kind with
  | .text => .ok (.text text)
  | .index =>
      match readIndex? text with
      | some index => .ok (.index index)
      | none => .error .badOperand
  | .side =>
      match readSide? text with
      | some side => .ok (.side side)
      | none => .error .invalidValue

/-! ## Levels -/

/-- What an argument in front of `--` is by its form. -/
inductive Form
  | escape
  | stateFile (attached : Option Text)
  | help
  | version
  | unwantedValue (isVersion : Bool)
  | unknown
  | plain
  deriving DecidableEq, Repr

/-- The name of a long option, and what follows its equals sign. -/
def splitOption (body : Text) : Text × Option Text :=
  match body.dropWhile (· != '=') with
  | [] => (body, none)
  | _ :: value => (body.takeWhile (· != '='), some value)

/-- The form of an argument. A single hyphen is no option. -/
def formOf : Text -> Form
  | ['-', '-'] => .escape
  | '-' :: '-' :: body =>
      let (name, value) := splitOption body
      if name = "state" then .stateFile value
      else if name = "help" then if value.isSome then .unwantedValue false else .help
      else if name = "version" then if value.isSome then .unwantedValue true else .version
      else .unknown
  | '-' :: 'h' :: _ => .help
  | '-' :: 'V' :: _ => .version
  | '-' :: _ :: _ => .unknown
  | _ => .plain

/-- An argument that is still to be checked. -/
inductive Pending
  | stateFile (value : Option Text)
  | operand (kind : OperandKind) (value : Text)
  deriving DecidableEq, Repr

/-- What has been understood on a level. -/
structure Progress where
  file : Option Text
  operands : List Operand
  pending : Option Pending
  expected : List OperandKind
  deriving DecidableEq, Repr

namespace Progress

/-- Nothing understood yet, and operands of the given kinds expected. -/
def begin (expected : List OperandKind) : Progress where
  file := none
  operands := []
  pending := none
  expected

/-- Check what is pending. -/
def settle (progress : Progress) : Except Refusal Progress :=
  match progress.pending with
  | none => .ok progress
  | some (.stateFile none) => .error .invalidValue
  | some (.stateFile (some value)) =>
      if progress.file.isSome then .error .conflict
      else if value = [] then .error .invalidValue
      else .ok { progress with file := some value, pending := none }
  | some (.operand kind value) => do
      let operand ← checkOperand kind value
      return { progress with operands := progress.operands ++ [operand], pending := none }

/-- Begin to take the state file. -/
def takeStateFile (progress : Progress) (attached : Option Text) :
    Except Refusal Progress := do
  let progress ← progress.settle
  let progress := { progress with pending := some (.stateFile attached) }
  if attached.isSome then progress.settle else return progress

/-- Begin to take an operand. -/
def takeOperand (progress : Progress) (value : Text) : Except Refusal Progress :=
  match progress.expected with
  | [] => .error .unknownArgument
  | kind :: expected => do
      let progress ← progress.settle
      return { progress with pending := some (.operand kind value), expected }

/-- Whether the next argument is the state file. -/
def awaitsStateFile (progress : Progress) : Bool :=
  progress.pending == some (.stateFile none)

/-- Give the state file that is awaited. -/
def giveStateFile (progress : Progress) (value : Text) : Progress :=
  { progress with pending := some (.stateFile (some value)) }

/-- Finish a level: check what is pending, and that a state file from the environment that would be
used is not empty. -/
def finish (environment : Option Text) (progress : Progress) :
    Except Refusal Progress := do
  let progress ← progress.settle
  if progress.file.isNone && environment == some [] then .error .invalidValue
  else return progress

end Progress

/-- Take the option that an argument is, if it is one; options that only the upper level knows are
unknown on the lower one. -/
def takeOption (isUpper : Bool) (progress : Progress) :
    Form -> Except Refusal (Option Progress)
  | .stateFile attached => some <$> progress.takeStateFile attached
  | .help => do
      let _ ← progress.settle
      .error .help
  | .version =>
      if isUpper then do
        let _ ← progress.settle
        .error .version
      else .error .unknownArgument
  | .unwantedValue isVersion =>
      .error (if isVersion && !isUpper then .unknownArgument else .unwantedValue)
  | .unknown => .error .unknownArgument
  | .escape | .plain => .ok none

/-- Take the arguments after the name of a subcommand. -/
def takeLower (escaped : Bool) (progress : Progress) :
    List Text -> Except Refusal Progress
  | [] => .ok progress
  | argument :: rest =>
      if escaped then do takeLower true (← progress.takeOperand argument) rest
      else
        let form := formOf argument
        if form = .escape then takeLower true progress rest
        else do
          match ← takeOption false progress form with
          | some progress => takeLower false progress rest
          | none =>
              if progress.awaitsStateFile then
                takeLower false (progress.giveStateFile argument) rest
              else takeLower false (← progress.takeOperand argument) rest

/-- The subcommand that asks for help. -/
def helpName : Text := "help"

/-- What a request for help on the given subcommand comes to; only the name of one subcommand may
follow. -/
def refusalOfHelp : List Text -> Refusal
  | [] => .help
  | [name] =>
      if name = helpName ∨ (Subcommand.named? name).isSome then .help else .invalidSubcommand
  | _ => .invalidSubcommand

/-- Take the arguments up to the name of a subcommand, and return it with the arguments after it. -/
def takeUpper (escaped : Bool) (progress : Progress) :
    List Text -> Except Refusal (Progress × Option (Subcommand × List Text))
  | [] => .ok (progress, none)
  | argument :: rest =>
      let isName := argument = helpName ∨ (Subcommand.named? argument).isSome
      if escaped then .error (if isName then .unknownArgument else .invalidSubcommand)
      else
        let form := formOf argument
        if form = .escape then takeUpper true progress rest
        else do
          match ← takeOption true progress form with
          | some progress => takeUpper false progress rest
          | none =>
              if progress.awaitsStateFile then
                takeUpper false (progress.giveStateFile argument) rest
              else if argument = helpName then .error (refusalOfHelp rest)
              else
                match Subcommand.named? argument with
                | some subcommand => .ok (progress, some (subcommand, rest))
                | none => .error .invalidSubcommand

/-- The state file when none is named. -/
def usualFile : Text := "grammar_state.json"

/-- Understand the arguments, where `environment` is the state file in the environment. -/
def understand (environment : Option Text) (arguments : List Text) :
    Except Refusal Invocation := do
  let (upper, subcommand) ← takeUpper false (.begin []) arguments
  match subcommand with
  | none =>
      let upper ← upper.finish environment
      .error (if upper.file.isSome || environment.isSome then .missingSubcommand
        else .helpOnMissing)
  | some (subcommand, rest) =>
      let lower ← takeLower false (.begin subcommand.operands) rest
      let lower ← lower.finish environment
      match subcommand.command? lower.operands with
      | none => .error .missingOperand
      | some command =>
          let upper ← upper.finish environment
          return {
            command
            file := ((lower.file <|> upper.file) <|> environment).getD usualFile }

end CommandLine
end PhraseGrammar
