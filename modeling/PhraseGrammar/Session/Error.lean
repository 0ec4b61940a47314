import PhraseGrammar.Grammar.Error

/-!
# Errors of a session

What a user attempts either violates a rule about grammars, which is reported as it is, or fails for
a reason underneath, which is reported as a failure of the attempt.
-/

namespace PhraseGrammar

/-- What is attempted in a session, known by the words for it in messages. -/
structure Task where
  phrase : Text
  deriving DecidableEq, Repr

namespace Task

/-- To load everything there is to show. -/
def start : Task := { phrase := "initialize" }

/-- To validate a word. -/
def validateWord : Task := { phrase := "validate word" }

/-- To add a terminal. -/
def addTerminal : Task := { phrase := "add terminal" }

/-- To add a nonterminal. -/
def addNonTerminal : Task := { phrase := "add nonterminal" }

/-- To add a production. -/
def addProduction : Task := { phrase := "add production" }

/-- To rename a terminal. -/
def updateTerminal : Task := { phrase := "update terminal" }

/-- To rename a nonterminal. -/
def updateNonTerminal : Task := { phrase := "update nonterminal" }

/-- To change a side of a production. -/
def updateProduction : Task := { phrase := "update production" }

/-- To choose another start symbol. -/
def updateStartSymbol : Task := { phrase := "update start symbol" }

/-- To load the derivation tree. -/
def loadDerivationTree : Task := { phrase := "load derivation tree" }

/-- To load the general tree. -/
def loadGeneralTree : Task := { phrase := "load general tree" }

/-- To go back to the initial grammar. -/
def reset : Task := { phrase := "reset" }

end Task

/-- Why an attempt did not succeed. -/
inductive SessionError
  | grammar (error : GrammarError)
  | failure (task : Task) (cause : Text)
  deriving DecidableEq, Repr

namespace SessionError

/-- The sentence that reports an error. -/
def message : SessionError -> Text
  | grammar error => error.message
  | failure task cause => "Could not " ++ task.phrase ++ ": " ++ cause

/-- Whether two errors are alike: errors about grammars by their kind, failures by task and cause.
-/
def alike : SessionError -> SessionError -> Bool
  | grammar first, grammar second => first.alike second
  | failure task cause, failure task' cause' => task == task' && cause == cause'
  | _, _ => false

end SessionError
end PhraseGrammar
