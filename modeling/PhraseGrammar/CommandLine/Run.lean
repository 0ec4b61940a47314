import PhraseGrammar.CommandLine.Arguments
import PhraseGrammar.Session.Basic
import PhraseGrammar.Tree.Render

/-!
# Runs of the program

A run carries out one command as a session on the state file, and prints what there is to say. What
it printed before it failed stays printed. The program as a whole is a function of its arguments,
its environment, what is at the path of the state file, and the identifiers it may take.
-/

namespace PhraseGrammar
namespace CommandLine

/-- What a run works on: the world of its session, and its output so far. -/
structure Desk where
  world : World Slot
  output : Text

/-- A part of a run. -/
abbrev Script := ExceptT SessionError (StateM Desk)

namespace Script

/-- Print a line. -/
def printLine (line : Text) : Script Unit :=
  modify fun desk => { desk with output := desk.output ++ line ++ "\n" }

/-- Do something in the session. -/
def act (action : Action Slot SessionError α) : Script α := do
  let desk ← get
  let (result, world) := action.run.run desk.world
  set { desk with world }
  match result with
  | .ok value => return value
  | .error error => throw error

/-- Print a tree under its title. -/
def printTree (title : Text) (tree : Option LabelledTree) : Script Unit := do
  printLine (title ++ ":")
  match tree with
  | some tree => printLine tree.labels.render
  | none => printLine "(none)"

/-- The line about the last verdict. -/
def verdictLine : Option Verdict -> Text
  | none => "Last validation: (none)"
  | some verdict =>
      let outcome : Text := if verdict.accepted then "accepted" else "rejected"
      "Last validation: `" ++ verdict.finalForm ++ "` (" ++ outcome ++ ")"

/-- Print everything that is kept. -/
def printOverview (overview : Overview) : Script Unit := do
  printLine overview.grammar.render
  printLine (verdictLine overview.verdict)
  printTree "Derivation tree" overview.derivationTree
  printTree "General tree" overview.generalTree

/-- Load and print both trees. -/
def printTrees (medium : Medium Slot) : Script Unit := do
  printTree "Derivation tree" (← act (Session.derivationTree medium))
  printTree "General tree" (← act (Session.generalTree medium))

/-- The line about the verdict on a word. -/
def outcomeLine (word : Text) (verdict : Verdict) : Text :=
  if verdict.accepted then "`" ++ word ++ "` is generated by the grammar"
  else "`" ++ word ++ "` is not generated by the grammar (stopped at `" ++
    verdict.finalForm ++ "`)"

/-- Validate a word and print the derivation, the verdict and both trees. -/
def validate (medium : Medium Slot) (word : Text) : Script Unit := do
  let verdict ← act (Session.validateWord medium word)
  printLine (Text.joined " => " (verdict.steps.map DerivationStep.form))
  printLine (outcomeLine word verdict)
  printTrees medium

/-- Carry out a command. -/
def carryOut (medium : Medium Slot) : Command -> Script Unit
  | .overview => do printOverview (← act (Session.start medium .host))
  | .validate word => validate medium word
  | .trees => printTrees medium
  | .edit edit => do printLine (← act (Session.edit medium edit)).render
  | .reset => do printLine (← act (Session.reset medium)).render
  | .systemInfo => do
      printLine (← act (Session.start medium .host)).systemInfo.render

end Script

/-- What a run leaves behind: its output, the error if it failed, and what is at the path now. -/
structure Report where
  output : Text
  error : Option SessionError
  slot : Slot

/-- Carry out a command on the state file, which is in the condition `slot`. -/
def run (invocation : Invocation) (slot : Slot) (supply : Supply) : Report :=
  let start : Desk := { world := { medium := slot, supply, log := [] }, output := [] }
  let (result, desk) := ((Script.carryOut (.file invocation.file) invocation.command).run).run start
  { output := desk.output
    error := match result with
      | .ok () => none
      | .error error => some error
    slot := desk.world.medium }

namespace Report

/-- What a run writes to the error output: its error, in the colours of one. -/
def errorOutput (report : Report) : Text :=
  match report.error with
  | none => []
  | some error => highlighted error.message

/-- The code a run exits with. -/
def exitCode (report : Report) : UInt32 :=
  match report.error with
  | none => 0
  | some _ => 1

end Report
end CommandLine
end PhraseGrammar
