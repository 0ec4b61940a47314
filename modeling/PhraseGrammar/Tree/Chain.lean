import PhraseGrammar.Derivation.Validate
import PhraseGrammar.Tree.Basic

/-!
# Derivations as chains

The tree of a derivation is a chain: the sentential forms in order, each the only child of the one
before. A derivation without forms has no tree.
-/

namespace PhraseGrammar
namespace Tree

/-- The chain of a nonempty list of labels. -/
def chain (first : α) : List α -> Tree α
  | [] => node first []
  | second :: rest => node first [chain second rest]

/-- The chain of the sentential forms of a derivation. -/
def ofSteps? : List DerivationStep -> Option (Tree Text)
  | [] => none
  | first :: rest => some (chain first.form (rest.map DerivationStep.form))

end Tree
end PhraseGrammar
