import PhraseGrammar.Derivation.Step

/-!
# Runs

A run follows the successors of a sentential form in search of a word. It ends at the first
successor that is the word or has more than twice as many characters as the word, or at a form
without successor, and is cut off when its allowance of rounds is used up. The form it starts from
is compared with the word in neither way.
-/

namespace PhraseGrammar
namespace Derivation

/-- Why a run went no further. -/
inductive Ending
  /-- The last form is the word. -/
  | reached
  /-- The last form has more than twice as many characters as the word. -/
  | outgrown
  /-- No production applies to the last form. -/
  | stuck
  /-- The allowance was used up first. -/
  | cutOff
  deriving DecidableEq, Repr

/-- The forms that follow the starting form, and why there are no more. -/
structure Run where
  forms : List Text
  ending : Ending
  deriving DecidableEq, Repr

namespace Run

/-- Put a form in front of those of a run. -/
def after (form : Text) (run : Run) : Run :=
  { run with forms := form :: run.forms }

/-- The rounds that were begun: one for each form, and one more in which nothing applied. -/
def rounds (run : Run) : Nat :=
  match run.ending with
  | .stuck => run.forms.length + 1
  | _ => run.forms.length

end Run

/-- Whether a form is too long to go on looking for `word`. -/
def outgrows (form word : Text) : Bool := 2 * word.length < form.length

/-- Follow the successors of `form` in search of `word` for the given number of rounds. -/
def run (grammar : Grammar) (word : Text) : (rounds : Nat) -> (form : Text) -> Run
  | 0, _ => { forms := [], ending := .cutOff }
  | rounds + 1, form =>
      match grammar.step? form with
      | none => { forms := [], ending := .stuck }
      | some next =>
          if next = word then { forms := [next], ending := .reached }
          else if outgrows next word then { forms := [next], ending := .outgrown }
          else (run grammar word rounds next).after next

end Derivation
end PhraseGrammar
