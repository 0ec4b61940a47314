import PhraseGrammar.Grammar.Edit
import PhraseGrammar.Session.Error
import PhraseGrammar.Store.Records
import PhraseGrammar.SystemInfo
import PhraseGrammar.Tree.Chain
import PhraseGrammar.Tree.Expansion

/-!
# Sessions

A session is a sequence of actions on one medium. Each loads what it needs, works on it, and saves
what comes out; nothing is kept between actions but what is stored. An action that does not succeed
says so in the log.

A validation keeps three records, one after another: the verdict, the derivation tree, and the
general tree of the grammar.
-/

namespace PhraseGrammar

/-- What there is to show when a session starts. -/
structure Overview where
  grammar : Grammar
  verdict : Option Verdict
  derivationTree : Option LabelledTree
  generalTree : Option LabelledTree
  systemInfo : SystemInfo

/-- The task of making an edit. -/
def Edit.task : Edit -> Task
  | addTerminal _ => .addTerminal
  | addNonTerminal _ => .addNonTerminal
  | addProduction _ _ => .addProduction
  | updateTerminal _ _ => .updateTerminal
  | updateNonTerminal _ _ => .updateNonTerminal
  | updateProduction _ _ _ => .updateProduction
  | updateStartSymbol _ => .updateStartSymbol

namespace Session

/-- What is noted about a task that does not succeed. -/
def failureRecord (task : Task) (error : SessionError) : LogRecord where
  level := .warn
  text := "Failed to " ++ task.phrase ++ ": " ++ error.message

/-- What is noted about a validated word. -/
def validatedRecord (word : Text) (verdict : Verdict) : LogRecord where
  level := .info
  text :=
    let outcome : Text := if verdict.accepted then "accepted" else "rejected"
    "Validated `" ++ word ++ "`: " ++ outcome

/-- Do something for a task, and note if it does not succeed. -/
def attempt (task : Task) (action : Action σ SessionError α) : Action σ SessionError α :=
  tryCatch action fun error => do
    .note (failureRecord task error)
    throw error

/-- Work with the store for a task; its failures are failures of the task. -/
def stored (task : Task) (action : Action σ StoreFailure α) : Action σ SessionError α :=
  action.mapError fun failure => .failure task failure.message

/-- Do something that follows the rules about grammars. -/
def ruled (result : Except GrammarError α) : Action σ SessionError α :=
  .ofExcept (result.mapError .grammar)

/-- Load everything there is to show. -/
def start (medium : Medium σ) (systemInfo : SystemInfo) : Action σ SessionError Overview :=
  attempt .start do
    let grammar ← stored .start (Store.loadGrammar medium)
    let verdict ← stored .start (Store.loadVerdict medium)
    let derivationTree ← stored .start (Store.loadDerivationTree medium)
    let generalTree ← stored .start (Store.loadGeneralTree medium)
    return { grammar, verdict, derivationTree, generalTree, systemInfo }

/-- The derivation tree of a verdict, with new identifiers. -/
def identifiedChain (verdict : Verdict) : Supply.Taking (Option LabelledTree) :=
  match Tree.ofSteps? verdict.steps with
  | none => return none
  | some chain => return some (← chain.identify)

/-- Validate a word against the grammar that is kept, and keep the verdict and both trees. -/
def validateWord (medium : Medium σ) (word : Text) : Action σ SessionError Verdict :=
  attempt .validateWord do
    let grammar ← stored .validateWord (Store.loadGrammar medium)
    .noteAll (Derivation.validationLog grammar word)
    let verdict ← ruled (Derivation.validate grammar word)
    stored .validateWord (Store.saveVerdict medium verdict)
    let derivationTree ← .taking (identifiedChain verdict)
    let expansion ← ruled grammar.generalTree
    let generalTree ← .taking expansion.identify
    stored .validateWord (Store.saveDerivationTree medium derivationTree)
    stored .validateWord (Store.saveGeneralTree medium (some generalTree))
    .note (validatedRecord word verdict)
    return verdict

/-- Make an edit to the grammar that is kept, and keep what comes out. Only an addition that is
allowed takes an identifier. -/
def edit (medium : Medium σ) (edit : Edit) : Action σ SessionError Grammar :=
  attempt edit.task do
    let grammar ← stored edit.task (Store.loadGrammar medium)
    let edited ← ruled (← .taking (edit.applyTaking grammar))
    stored edit.task (Store.saveGrammar medium edited)
    return edited

/-- The derivation tree of the last validation. -/
def derivationTree (medium : Medium σ) : Action σ SessionError (Option LabelledTree) :=
  attempt .loadDerivationTree (stored .loadDerivationTree (Store.loadDerivationTree medium))

/-- The general tree of the last validation. -/
def generalTree (medium : Medium σ) : Action σ SessionError (Option LabelledTree) :=
  attempt .loadGeneralTree (stored .loadGeneralTree (Store.loadGeneralTree medium))

/-- Go back to a new initial grammar, and forget the last validation. -/
def reset (medium : Medium σ) : Action σ SessionError Grammar :=
  attempt .reset do
    stored .reset (Store.clear medium)
    let grammar ← .taking Grammar.initial
    stored .reset (Store.saveGrammar medium grammar)
    return grammar

end Session
end PhraseGrammar
