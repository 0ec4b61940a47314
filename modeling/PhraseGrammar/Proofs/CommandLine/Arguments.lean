import PhraseGrammar.CommandLine.Arguments

/-!
# Giving a command

Every command can be given: the name of its subcommand and, behind `--`, its operands as they are
written. Behind `--` nothing is taken for an option or for a subcommand, so the operands may look
like anything. The state file goes in front of the name or right behind it, as one argument with an
equals sign. What is understood is the command that was meant and the file that was named, whatever
the environment names, as long as it does not name an empty file.
-/

namespace PhraseGrammar
namespace CommandLine

/-! ## Operands -/

/-- Digits alone are read as the number that they denote, if it is within 64 bits. -/
theorem readIndex?_of_isDigit
    {digits : Text}
    (nonempty : digits ≠ [])
    (areDigits : ∀ c ∈ digits, c.isDigit = true)
    (bounded : Nat.ofDigitChars 10 digits 0 < UInt64.size) :
    readIndex? digits = some (Nat.ofDigitChars 10 digits 0) := by
  have someDigits : (digits.isEmpty || !digits.all Char.isDigit) = false := by
    rw [List.isEmpty_eq_false_iff.mpr nonempty, List.all_eq_true.mpr areDigits]
    rfl
  simp only [Nat.ofDigitChars_eq_foldl, Nat.mul_comm 10] at bounded ⊢
  unfold readIndex?
  split
  next => exact nomatch areDigits '+' (List.mem_cons_self ..)
  next =>
    dsimp only
    rw [someDigits]
    exact if_pos bounded

theorem readIndex?_ofNat {index : Nat} (bounded : index < UInt64.size) :
    readIndex? (Text.ofNat index) = some index := by
  have denoted : Nat.ofDigitChars 10 (Text.ofNat index) 0 = index := Nat.ofDigitChars_ten_toDigits
  have nonempty : Text.ofNat index ≠ [] := Nat.toDigits_ne_nil
  rw [readIndex?_of_isDigit nonempty (fun _ => Text.isDigit_of_mem_ofNat), denoted]
  rwa [denoted]

namespace Operand

/-- The kind of an operand. -/
def kind : Operand → OperandKind
  | text _ => .text
  | index _ => .index
  | side _ => .side

/-- The argument that an operand is written as. -/
def written : Operand → Text
  | text value => value
  | index value => Text.ofNat value
  | side .left => "left"
  | side .right => "right"

/-- An operand is read back from what it is written as. -/
theorem checkOperand_written
    (operand : Operand)
    (bounded : ∀ index, operand = .index index → index < UInt64.size) :
    checkOperand operand.kind operand.written = .ok operand := by
  cases operand with
  | text value => rfl
  | index value =>
      have isWritten : (Operand.index value).written = Text.ofNat value := rfl
      rw [isWritten, kind, checkOperand, readIndex?_ofNat (bounded value rfl)]
  | side value => cases value <;> rfl

end Operand

/-! ## Commands -/

namespace Command

/-- The subcommand that gives a command. -/
def subcommand : Command → Subcommand
  | overview => .overview
  | validate _ => .validate
  | trees => .trees
  | edit (.addTerminal _) => .addTerminal
  | edit (.addNonTerminal _) => .addNonTerminal
  | edit (.addProduction _ _) => .addProduction
  | edit (.updateTerminal _ _) => .updateTerminal
  | edit (.updateNonTerminal _ _) => .updateNonTerminal
  | edit (.updateProduction _ _ _) => .updateProduction
  | edit (.updateStartSymbol _) => .updateStartSymbol
  | reset => .reset
  | systemInfo => .systemInfo

/-- The operands that a command is given with. -/
def operands : Command → List Operand
  | validate word => [.text word]
  | edit (.addTerminal value) | edit (.addNonTerminal value) | edit (.updateStartSymbol value) =>
      [.text value]
  | edit (.addProduction left right) => [.text left, .text right]
  | edit (.updateTerminal index value) | edit (.updateNonTerminal index value) =>
      [.index index, .text value]
  | edit (.updateProduction index side value) => [.index index, .side side, .text value]
  | overview | trees | reset | systemInfo => []

/-- The arguments behind the name of the subcommand: the operands behind `--`, which is left out
where there are none. -/
def escapedOperands (command : Command) : List Text :=
  match command.operands with
  | [] => []
  | operands => "--" :: operands.map Operand.written

/-- The operands are of the kinds that the subcommand requires. -/
theorem map_kind_operands (command : Command) :
    command.operands.map Operand.kind = command.subcommand.operands := by
  cases command with
  | edit edit => cases edit <;> rfl
  | _ => rfl

/-- The subcommand gives the command with its operands. -/
theorem command?_operands (command : Command) :
    command.subcommand.command? command.operands = some command := by
  cases command with
  | edit edit => cases edit <;> rfl
  | _ => rfl

end Command

/-- The name of a subcommand is no option. -/
theorem formOf_name (subcommand : Subcommand) : formOf subcommand.name = .plain := by
  cases subcommand <;> rfl

theorem name_ne_helpName (subcommand : Subcommand) : subcommand.name ≠ helpName := by
  cases subcommand <;> decide

theorem named?_name (subcommand : Subcommand) :
    Subcommand.named? subcommand.name = some subcommand := by
  cases subcommand <;> rfl

/-! ## The state file -/

/-- The option that names the state file. -/
def stateOption (path : Text) : Text := "--state=" ++ path

theorem formOf_stateOption (path : Text) : formOf (stateOption path) = .stateFile (some path) :=
  rfl

namespace Progress

/-- Nothing understood yet but the state file, if there is one. -/
def beginWith (file : Option Text) (expected : List OperandKind) : Progress :=
  { begin expected with file }

theorem settle_beginWith (file : Option Text) (expected : List OperandKind) :
    (beginWith file expected).settle = .ok (beginWith file expected) :=
  rfl

end Progress

section StateOption

variable {path : Text} (nonempty : path ≠ [])

include nonempty

/-- On either level, the option is taken where nothing was taken before. -/
theorem takeOption_stateFile (isUpper : Bool) (expected : List OperandKind) :
    takeOption isUpper (.begin expected) (.stateFile (some path)) =
      .ok (some (.beginWith (some path) expected)) := by
  have taken : (Progress.begin expected).takeStateFile (some path) =
      .ok (.beginWith (some path) expected) :=
    if_neg nonempty
  rw [takeOption, taken]
  rfl

theorem takeUpper_stateOption (rest : List Text) :
    takeUpper false (.begin []) (stateOption path :: rest) =
      takeUpper false (.beginWith (some path) []) rest := by
  rw [takeUpper, formOf_stateOption]
  dsimp only
  rw [takeOption_stateFile nonempty]
  rfl

theorem takeLower_stateOption (expected : List OperandKind) (rest : List Text) :
    takeLower false (.begin expected) (stateOption path :: rest) =
      takeLower false (.beginWith (some path) expected) rest := by
  rw [takeLower, formOf_stateOption]
  dsimp only
  rw [takeOption_stateFile nonempty]
  rfl

end StateOption

/-! ## The upper level -/

/-- The name of a subcommand ends the upper level. -/
theorem takeUpper_name
    {progress : Progress}
    (noneAwaited : progress.awaitsStateFile = false)
    (subcommand : Subcommand)
    (rest : List Text) :
    takeUpper false progress (subcommand.name :: rest) =
      .ok (progress, some (subcommand, rest)) := by
  rw [takeUpper, formOf_name]
  simp [takeOption, noneAwaited, name_ne_helpName, named?_name, bind, Except.bind]

/-! ## The lower level -/

namespace Progress

/-- Taking an operand of the expected kind settles what was pending, and then the operand. -/
theorem exists_takeOperand
    {progress settled : Progress}
    {operand : Operand}
    {expected : List OperandKind}
    (expects : progress.expected = operand.kind :: expected)
    (settles : progress.settle = .ok settled)
    (isChecked : checkOperand operand.kind operand.written = .ok operand) :
    ∃ taken, progress.takeOperand operand.written = .ok taken ∧ taken.expected = expected ∧
      taken.settle = .ok { settled with
        operands := settled.operands ++ [operand], pending := none, expected } := by
  refine ⟨{ settled with pending := some (.operand operand.kind operand.written), expected },
    ?_, rfl, ?_⟩
  · rw [takeOperand, expects, settles]
    rfl
  · simp only [settle, isChecked]
    rfl

/-- A level that has been settled is finished, unless the environment names an empty file. -/
theorem finish_eq_ok
    {progress settled : Progress}
    {environment : Option Text}
    (notEmpty : environment ≠ some [])
    (settles : progress.settle = .ok settled) :
    progress.finish environment = .ok settled := by
  rw [finish, settles]
  simp [bind, Except.bind, pure, Except.pure, notEmpty]

end Progress

/-- Behind `--`, all operands that are expected are taken, whatever they look like; the last of them
is still to be settled. -/
theorem takeLower_operands
    {progress settled : Progress}
    (settles : progress.settle = .ok settled)
    (operands : List Operand)
    (bounded : ∀ index, .index index ∈ operands → index < UInt64.size)
    (expects : progress.expected = operands.map Operand.kind) :
    ∃ taken final, takeLower true progress (operands.map Operand.written) = .ok taken ∧
      taken.settle = .ok final ∧ final.operands = settled.operands ++ operands ∧
      final.file = settled.file := by
  induction operands generalizing progress settled with
  | nil => exact ⟨progress, settled, rfl, settles, (List.append_nil _).symm, rfl⟩
  | cons operand rest inductionHypothesis =>
      rw [List.map_cons] at expects
      have isChecked : checkOperand operand.kind operand.written = .ok operand := by
        apply operand.checkOperand_written
        rintro index rfl
        exact bounded index (List.mem_cons_self ..)
      have restBounded : ∀ index, .index index ∈ rest → index < UInt64.size :=
        fun index member => bounded index (List.mem_cons_of_mem _ member)
      obtain ⟨next, isTaken, nextExpects, nextSettles⟩ :=
        Progress.exists_takeOperand expects settles isChecked
      obtain ⟨taken, final, isRest, finalSettles, operands_eq, file_eq⟩ :=
        inductionHypothesis nextSettles restBounded nextExpects
      refine ⟨taken, final, ?_, finalSettles, ?_, file_eq⟩
      · rw [List.map_cons, takeLower, if_pos rfl, isTaken]
        exact isRest
      · rw [operands_eq, List.append_assoc]
        rfl

/-- All operands of a command are taken from its arguments. -/
theorem exists_takeLower_escapedOperands
    (command : Command)
    (bounded : ∀ index, .index index ∈ command.operands → index < UInt64.size)
    (file : Option Text) :
    ∃ taken final,
      takeLower false (.beginWith file command.subcommand.operands) command.escapedOperands =
        .ok taken ∧
      taken.settle = .ok final ∧ final.operands = command.operands ∧ final.file = file := by
  obtain ⟨taken, final, isTaken, settles, operands_eq, file_eq⟩ :=
    takeLower_operands (Progress.settle_beginWith file command.subcommand.operands)
      command.operands bounded command.map_kind_operands.symm
  refine ⟨taken, final, ?_, settles, operands_eq, file_eq⟩
  rw [← isTaken, Command.escapedOperands]
  split
  next noOperands =>
    rw [noOperands]
    rfl
  next => rfl

/-! ## Both levels -/

/-- What is understood when both levels are taken and settled. -/
theorem understand_eq_ok
    {environment : Option Text}
    {arguments rest : List Text}
    {command : Command}
    {upper upper' lower lower' : Progress}
    (notEmpty : environment ≠ some [])
    (isUpper : takeUpper false (.begin []) arguments =
      .ok (upper, some (command.subcommand, rest)))
    (upperSettles : upper.settle = .ok upper')
    (isLower : takeLower false (.begin command.subcommand.operands) rest = .ok lower)
    (lowerSettles : lower.settle = .ok lower')
    (operands_eq : lower'.operands = command.operands) :
    understand environment arguments =
      .ok { command, file := ((lower'.file <|> upper'.file) <|> environment).getD usualFile } := by
  have upperFinishes := Progress.finish_eq_ok notEmpty upperSettles
  have lowerFinishes := Progress.finish_eq_ok notEmpty lowerSettles
  rw [understand, isUpper]
  simp only [bind, Except.bind, isLower, lowerFinishes, operands_eq, command.command?_operands,
    upperFinishes]
  rfl

/-- A command with numbers within 64 bits can be given by the name of its subcommand and its
operands behind `--`, with the option for a state file in front of the name or right behind it: what
is understood is that command and that file, unless the environment names an empty one. -/
theorem understand_given
    (command : Command)
    (bounded : ∀ index, .index index ∈ command.operands → index < UInt64.size)
    (path : Text)
    (nonempty : path ≠ [])
    (environment : Option Text)
    (notEmpty : environment ≠ some []) :
    understand environment
        (stateOption path :: command.subcommand.name :: command.escapedOperands) =
      .ok { command, file := path } ∧
    understand environment
        (command.subcommand.name :: stateOption path :: command.escapedOperands) =
      .ok { command, file := path } := by
  have fileSettles := Progress.settle_beginWith (some path)
  constructor
  · obtain ⟨lower, lower', isLower, settles, operands_eq, file_eq⟩ :=
      exists_takeLower_escapedOperands command bounded none
    have isUpper := takeUpper_stateOption nonempty
      (command.subcommand.name :: command.escapedOperands)
    rw [takeUpper_name rfl] at isUpper
    rw [understand_eq_ok notEmpty isUpper (fileSettles []) isLower settles operands_eq, file_eq]
    rfl
  · obtain ⟨lower, lower', isLower, settles, operands_eq, file_eq⟩ :=
      exists_takeLower_escapedOperands command bounded (some path)
    have noneAwaited : (Progress.begin []).awaitsStateFile = false := rfl
    have isUpper := takeUpper_name noneAwaited command.subcommand
      (stateOption path :: command.escapedOperands)
    rw [← takeLower_stateOption nonempty] at isLower
    rw [understand_eq_ok notEmpty isUpper rfl isLower settles operands_eq, file_eq]
    rfl

/-- The greatest index, a value that looks like an option, and a path with an equals sign in it. -/
theorem understand_given_hyphens :
    let command : Command := .edit (.updateProduction 18446744073709551615 .right "--help")
    let invocation : Invocation := { command, file := "a=b" }
    (∀ index, .index index ∈ command.operands → index < UInt64.size) ∧
      understand (some "env.json")
          ["--state=a=b", "update-production", "--", "18446744073709551615", "right", "--help"] =
        .ok invocation ∧
      understand (some "env.json")
          ["update-production", "--state=a=b", "--", "18446744073709551615", "right", "--help"] =
        .ok invocation := by
  intro command invocation
  have bounded : ∀ index, .index index ∈ command.operands → index < UInt64.size := by
    intro index member
    cases member with
    | head => decide
    | tail _ member => exact nomatch member
  have digits : Text.ofNat 18446744073709551615 = "18446744073709551615" := by decide +kernel
  have arguments : command.escapedOperands =
      (["--", "18446744073709551615", "right", "--help"] : List Text) := by
    rw [← digits]
    rfl
  have given := understand_given command bounded "a=b" (by decide) (some "env.json".toList)
    (by decide)
  rw [arguments] at given
  exact ⟨bounded, given⟩

end CommandLine
end PhraseGrammar
