import PhraseGrammar.Grammar.Basic
import PhraseGrammar.Text.Occurrence

/-!
# Single steps

One step of a derivation takes the first production, in the order of declaration, whose left side
occurs anywhere in the sentential form, and exchanges the first occurrence of that left side for the
right side. There is no choice in it: a form has at most one successor.
-/

namespace PhraseGrammar

/-- The form after the first occurrence of the left side is exchanged for the right side. -/
def Production.applyFirst? (production : Production) (form : Text) : Option Text :=
  Text.replaceFirst? production.left production.right form

/-- The successor of a sentential form, if any production applies to it. -/
def Grammar.step? (grammar : Grammar) (form : Text) : Option Text :=
  grammar.productions.findSome? fun production => production.applyFirst? form

end PhraseGrammar
