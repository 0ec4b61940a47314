import PhraseGrammar.CommandLine.Run
import PhraseGrammar.Proofs.Session.Coherence

/-!
# What a run prints

A run prints its answer as a whole or not at all: whenever something fails, nothing was printed
before. Most commands do one thing in the session before they print. The two that go on reading have
seen by then that the file can be read: a validation that answers leaves such a file, and loading a
tree does not change it.
-/

namespace PhraseGrammar
namespace CommandLine

open Medium PhraseGrammar.Action Store Session

namespace Script

/-- What a script comes to, and the desk that it leaves. -/
def outcome (script : Script α) (desk : Desk) : Except SessionError α × Desk :=
  script.run.run desk

/-- If the script fails, it has printed nothing. -/
def FailsSilently (script : Script α) : Prop :=
  ∀ desk error,
    (script.outcome desk).1 = .error error → (script.outcome desk).2.output = desk.output

/-- From a world that is ready the script succeeds, and leaves one that is. -/
def SucceedsFrom (Ready : World Slot → Prop) (script : Script α) : Prop :=
  ∀ desk, Ready desk.world →
    (∃ value, (script.outcome desk).1 = .ok value) ∧ Ready (script.outcome desk).2.world

/-! ## Rules -/

theorem outcome_act (action : Action Slot SessionError α) (desk : Desk) :
    (act action).outcome desk =
      ((action.outcome desk.world).1, { desk with world := (action.outcome desk.world).2 }) := by
  cases isOutcome : action.outcome desk.world with
  | mk result world =>
      have isGet : (get : Script Desk).run.run desk = (.ok desk, desk) := rfl
      change action.run.run desk.world = _ at isOutcome
      refine (run_bind_ok isGet _).trans ?_
      simp only [isOutcome]
      cases result <;> rfl

variable {Ready : World Slot → Prop}

theorem SucceedsFrom.bind
    {script : Script α}
    {next : α → Script β}
    (first : script.SucceedsFrom Ready)
    (second : ∀ value, (next value).SucceedsFrom Ready) :
    (script >>= next).SucceedsFrom Ready := by
  intro desk ready
  obtain ⟨⟨value, isValue⟩, stillReady⟩ := first desk ready
  have isOutcome : script.outcome desk = (.ok value, (script.outcome desk).2) :=
    congrArg (·, (script.outcome desk).2) isValue
  have continued : (script >>= next).outcome desk = _ := run_bind_ok isOutcome next
  rw [continued]
  exact second value _ stillReady

theorem SucceedsFrom.printLine (line : Text) : (printLine line).SucceedsFrom Ready :=
  fun _ ready => ⟨⟨(), rfl⟩, ready⟩

theorem SucceedsFrom.printTree (title : Text) (tree : Option LabelledTree) :
    (printTree title tree).SucceedsFrom Ready := by
  apply SucceedsFrom.bind (.printLine _)
  intro _
  cases tree with
  | none => exact .printLine _
  | some tree => exact .printLine _

theorem SucceedsFrom.printOverview (overview : Overview) :
    (printOverview overview).SucceedsFrom Ready :=
  (SucceedsFrom.printLine _).bind fun _ => (SucceedsFrom.printLine _).bind fun _ =>
    (SucceedsFrom.printTree _ _).bind fun _ => .printTree _ _

theorem SucceedsFrom.act
    {action : Action Slot SessionError α}
    (succeeds : ∀ world, Ready world →
      (∃ value, (action.outcome world).1 = .ok value) ∧ Ready (action.outcome world).2) :
    (act action).SucceedsFrom Ready := by
  intro desk ready
  rw [outcome_act]
  exact succeeds desk.world ready

/-- If everything that could fail after the action is known to succeed once the action has, then a
failure is that of the action, and nothing was printed before it. -/
theorem failsSilently_act_bind
    {action : Action Slot SessionError α}
    {rest : α → Script β}
    (readies : ∀ world value, (action.outcome world).1 = .ok value → Ready (action.outcome world).2)
    (succeeds : ∀ value, (rest value).SucceedsFrom Ready) :
    (Script.act action >>= rest).FailsSilently := by
  intro desk error isError
  have acted := outcome_act action desk
  cases isResult : (action.outcome desk.world).1 with
  | error failure =>
      rw [isResult] at acted
      have stopped : (act action >>= rest).outcome desk = _ := run_bind_error acted rest
      rw [stopped]
  | ok value =>
      rw [isResult] at acted
      have continued : (act action >>= rest).outcome desk = _ := run_bind_ok acted rest
      obtain ⟨⟨_, isOk⟩, _⟩ := succeeds value { desk with world := (action.outcome desk.world).2 }
        (readies _ value isResult)
      rw [continued] at isError
      exact nomatch isOk.symm.trans isError

/-- What comes after a single action is only printed. -/
theorem failsSilently_act_printing
    {action : Action Slot SessionError α}
    {rest : α → Script β}
    (prints : ∀ value, (rest value).SucceedsFrom fun _ => True) :
    (Script.act action >>= rest).FailsSilently :=
  failsSilently_act_bind (fun _ _ _ => trivial) prints

/-! ## Reading the trees -/

/-- A world whose file can be read. -/
def FileReadable (path : Text) (world : World Slot) : Prop := Readable path world.medium

section Trees

variable {path : Text}

/-- From a file that can be read, loading a tree succeeds and does not change the file. -/
theorem succeedsFrom_act_loadTree
    {load : Action Slot SessionError (Option LabelledTree)}
    {tree : State → Option LabelledTree}
    (runs : ∀ slot supply state, (readSlot path slot).result = .ok state →
      load.Runs ⟨slot, supply⟩ (.ok (tree state)) ⟨slot, supply⟩) :
    (act load).SucceedsFrom (FileReadable path) := by
  apply SucceedsFrom.act
  rintro world ⟨state, isRead⟩
  have loads := runs world.medium world.supply state isRead
  refine ⟨⟨_, loads.outcome.1⟩, state, ?_⟩
  rw [Runs.medium_eq loads, isRead]

theorem succeedsFrom_printTrees : (printTrees (file path)).SucceedsFrom (FileReadable path) := by
  apply SucceedsFrom.bind (succeedsFrom_act_loadTree fun _ _ _ => runs_derivationTree)
  intro _
  apply SucceedsFrom.bind (.printTree _ _)
  intro _
  apply SucceedsFrom.bind (succeedsFrom_act_loadTree fun _ _ _ => runs_generalTree)
  exact fun _ => .printTree _ _

/-- A tree is only loaded from a file that can be read. -/
theorem fileReadable_of_derivationTree
    (world : World Slot)
    (tree : Option LabelledTree)
    (isLoaded : ((Session.derivationTree (file path)).outcome world).1 = .ok tree) :
    FileReadable path ((Session.derivationTree (file path)).outcome world).2 := by
  cases isRead : (readSlot path world.medium).result with
  | error failure =>
      have fails : (Session.derivationTree (file path)).Runs world.setting _ _ :=
        ((runs_reading_error isRead _).stored _).attempt _
      exact nomatch fails.outcome.1.symm.trans isLoaded
  | ok state =>
      have loads : (Session.derivationTree (file path)).Runs world.setting _ _ :=
        runs_derivationTree isRead
      exact ⟨state, by rw [Runs.medium_eq loads]; exact isRead⟩

theorem fileReadable_of_validateWord
    {word : Text}
    (world : World Slot)
    (verdict : Verdict)
    (answered : ((validateWord (file path) word).outcome world).1 = .ok verdict) :
    FileReadable path ((validateWord (file path) word).outcome world).2 :=
  (readable_of_answered answered).2

/-! ## Commands -/

/-- No command that fails has printed anything. -/
theorem failsSilently_carryOut (command : Command) :
    (carryOut (file path) command).FailsSilently := by
  cases command with
  | overview => exact failsSilently_act_printing .printOverview
  | validate word =>
      apply failsSilently_act_bind fileReadable_of_validateWord
      intro verdict
      exact (SucceedsFrom.printLine _).bind fun _ => (SucceedsFrom.printLine _).bind fun _ =>
        succeedsFrom_printTrees
  | trees =>
      apply failsSilently_act_bind fileReadable_of_derivationTree
      intro tree
      apply SucceedsFrom.bind (.printTree _ _)
      intro _
      apply SucceedsFrom.bind (succeedsFrom_act_loadTree fun _ _ _ => runs_generalTree)
      exact fun _ => .printTree _ _
  | edit edit => exact failsSilently_act_printing fun _ => .printLine _
  | reset => exact failsSilently_act_printing fun _ => .printLine _
  | systemInfo => exact failsSilently_act_printing fun _ => .printLine _

end Trees

end Script

/-- Once a validation has answered, both trees are there, and can be loaded one after the other. -/
theorem exists_trees_of_answered
    {path word : Text}
    {world : World Slot}
    {verdict : Verdict} :
    let validated := (validateWord (file path) word).outcome world
    let derivation := (derivationTree (file path)).outcome validated.2
    let general := (generalTree (file path)).outcome derivation.2
    validated.1 = .ok verdict →
      (∃ tree, derivation.1 = .ok (some tree)) ∧ ∃ tree, general.1 = .ok (some tree) := by
  intro validated derivation general answered
  obtain ⟨⟨_, isRead⟩, ⟨state, isReadAfter⟩⟩ := readable_of_answered answered
  obtain ⟨_, first, second, isFirst, isSecond, _⟩ :=
    fresh_of_answered (faithful_file path) (.inl isRead) answered isReadAfter
  have firstKept : some first = state.derivationTree := Except.ok.inj
    (isFirst.symm.trans (runs_loadRecord isReadAfter State.derivationTree).outcome.1)
  have secondKept : some second = state.generalTree := Except.ok.inj
    (isSecond.symm.trans (runs_loadRecord isReadAfter State.generalTree).outcome.1)
  have loadsFirst : (derivationTree (file path)).Runs validated.2.setting _ validated.2.setting :=
    runs_derivationTree isReadAfter
  have loadsSecond : (generalTree (file path)).Runs validated.2.setting _ validated.2.setting :=
    runs_generalTree isReadAfter
  have unchanged : derivation.2.setting = validated.2.setting := loadsFirst.outcome.2
  rw [← unchanged] at loadsSecond
  rw [← firstKept] at loadsFirst
  rw [← secondKept] at loadsSecond
  exact ⟨⟨first, loadsFirst.outcome.1⟩, second, loadsSecond.outcome.1⟩

/-! ## Whole runs -/

/-- A run that fails leaves its output empty. -/
theorem output_eq_nil_of_error
    {invocation : Invocation}
    {slot : Slot}
    {supply : Supply}
    {error : SessionError}
    (isError : (run invocation slot supply).error = some error) :
    (run invocation slot supply).output = [] := by
  dsimp only [run] at isError ⊢
  cases isOutcome : (Script.carryOut (file invocation.file) invocation.command).run.run
      { world := { medium := slot, supply, log := [] }, output := [] } with
  | mk result desk =>
      rw [isOutcome] at isError
      cases result with
      | ok _ => cases isError
      | error failure =>
          have silent := Script.failsSilently_carryOut invocation.command _ failure
            (congrArg Prod.fst isOutcome)
          rw [Script.outcome, isOutcome] at silent
          exact silent

/-- A run that exits with 1 has printed nothing, and the message of its error is on the error
output, between the codes that make it bold and red and end that; one that exits with 0 has written
nothing there; and there are no other codes to exit with. In particular, once a word was validated,
both trees can be loaded. -/
theorem output_unless_error (invocation : Invocation) (slot : Slot) (supply : Supply) :
    let report := run invocation slot supply
    (report.exitCode = 1 →
      report.output = [] ∧ ∃ error, report.error = some error ∧
        report.errorOutput = "\x1b[31;49;1m".toList ++ error.message ++ "\x1b[0m".toList) ∧
    (report.exitCode = 0 → report.error = none ∧ report.errorOutput = []) ∧
    (report.exitCode = 0 ∨ report.exitCode = 1) ∧
    ∀ word world verdict,
      let validated := (validateWord (file invocation.file) word).outcome world
      let derivation := (derivationTree (file invocation.file)).outcome validated.2
      let general := (generalTree (file invocation.file)).outcome derivation.2
      validated.1 = .ok verdict →
        (∃ tree, derivation.1 = .ok (some tree)) ∧ ∃ tree, general.1 = .ok (some tree) := by
  intro report
  cases isError : report.error with
  | none =>
      have succeeds : report.exitCode = 0 := by rw [Report.exitCode, isError]
      refine ⟨?_, fun _ => ⟨rfl, ?_⟩, .inl succeeds, fun _ _ _ => exists_trees_of_answered⟩
      · rw [succeeds]
        exact fun same => absurd same (by decide)
      · rw [Report.errorOutput, isError]
  | some error =>
      have fails : report.exitCode = 1 := by rw [Report.exitCode, isError]
      refine ⟨fun _ => ⟨output_eq_nil_of_error isError, error, rfl, ?_⟩, ?_, .inr fails,
        fun _ _ _ => exists_trees_of_answered⟩
      · rw [Report.errorOutput, isError]
        rfl
      · rw [fails]
        exact fun same => absurd same (by decide)

/-- Over a directory, nothing is printed but the error; over a missing file, there are no trees
until a word is validated, and both afterwards. -/
theorem output_unless_error_abab :
    let trees : Invocation := { command := .trees, file := "state.json" }
    let refused := run trees .directory (.ofSeed 0)
    let first := run trees .vacant (.ofSeed 0)
    let validated := (validateWord (file "state.json") "abab").outcome vacantWorld
    refused.exitCode = 1 ∧ refused.output = [] ∧
      (∃ error, refused.error = some error ∧
        refused.errorOutput = "\x1b[31;49;1m".toList ++ error.message ++ "\x1b[0m".toList) ∧
    first.exitCode = 0 ∧ first.output ≠ [] ∧ first.errorOutput = [] ∧
    validated.1 = .ok acceptingVerdict ∧
      ∃ tree, ((derivationTree (file "state.json")).outcome validated.2).1 = .ok (some tree) := by
  intro trees refused first validated
  have fails : refused.exitCode = 1 := by decide +kernel
  have succeeds : first.exitCode = 0 := by decide +kernel
  obtain ⟨onFailure, _, _, _⟩ := output_unless_error trees .directory (.ofSeed 0)
  obtain ⟨_, onSuccess, _, onceValidated⟩ := output_unless_error trees .vacant (.ofSeed 0)
  have answered := answered_vacant "state.json"
  exact ⟨fails, (onFailure fails).1, (onFailure fails).2, succeeds, by decide +kernel,
    (onSuccess succeeds).2, answered, (onceValidated "abab" vacantWorld _ answered).1⟩

end CommandLine
end PhraseGrammar
