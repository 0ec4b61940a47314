import PhraseGrammar.Derivation.Run
import PhraseGrammar.Grammar.WellFormed
import PhraseGrammar.Log

/-!
# Validation of a word

A word is validated by a run from the start symbol. The verdict records every sentential form of the
run with its number, and accepts the word if the run reached it. A run that begins its hundredth
round gives no verdict, even if that round finds the word.
-/

namespace PhraseGrammar

/-- A sentential form and its place in the derivation; the start symbol has place 0. -/
structure DerivationStep where
  form : Text
  place : UInt64
  deriving DecidableEq, Repr

/-- What came of validating a word. -/
structure Verdict where
  accepted : Bool
  steps : List DerivationStep
  finalForm : Text
  deriving DecidableEq, Repr

namespace Derivation

/-- The round that a validation must not begin. -/
def roundLimit : Nat := 100

/-- The run that decides about `word`. -/
def search (grammar : Grammar) (word : Text) : Run :=
  run grammar word roundLimit grammar.startSymbol

/-- Sentential forms with their places. -/
def numbered (forms : List Text) : List DerivationStep :=
  forms.mapIdx fun place form => { form, place := UInt64.ofNat place }

/-- The verdict on a run from `start`. -/
def verdict (start : Text) (run : Run) : Verdict where
  accepted := run.ending = .reached
  steps := numbered (start :: run.forms)
  finalForm := run.forms.getLastD start

/-- Decide whether the grammar derives `word`, without backtracking. -/
def validate (grammar : Grammar) (word : Text) : Except GrammarError Verdict := do
  grammar.verify
  let run := search grammar word
  if roundLimit ≤ run.rounds then .error .stepLimit
  else return verdict grammar.startSymbol run

/-- What a run notes about each of its forms. -/
def traceRecord (index : Nat) (form : Text) : LogRecord where
  level := .trace
  text := "step " ++ Text.ofNat (index + 1) ++ ": " ++ form

/-- What is noted about the verdict on a word. -/
def verdictRecord (word : Text) (run : Run) : LogRecord where
  level := .debug
  text :=
    let outcome : Text := if run.ending = .reached then "derived" else "not derived"
    "`" ++ word ++ "` " ++ outcome ++ " after " ++ Text.ofNat run.forms.length ++ " steps"

/-- What a validation notes: its forms, and the verdict if there is one. -/
def validationLog (grammar : Grammar) (word : Text) : Log :=
  if grammar.WellFormed then
    let run := search grammar word
    run.forms.mapIdx traceRecord ++
      if roundLimit ≤ run.rounds then [] else [verdictRecord word run]
  else []

end Derivation
end PhraseGrammar
