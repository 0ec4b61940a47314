import PhraseGrammar.Store.Records

/-!
# Operations of a store

The operations on the records of a store as data, with what each of them answers. A use of a store
is a list of operations carried out in turn; an operation that fails does not keep the next one from
being tried.
-/

namespace PhraseGrammar
namespace Store

/-- What can be asked of a store. -/
inductive Operation
  | loadGrammar
  | loadVerdict
  | loadDerivationTree
  | loadGeneralTree
  | saveGrammar (grammar : Grammar)
  | saveVerdict (verdict : Verdict)
  | saveDerivationTree (tree : Option LabelledTree)
  | saveGeneralTree (tree : Option LabelledTree)
  | clear

/-- What a store answers. -/
inductive Answer
  | grammar (grammar : Grammar)
  | verdict (verdict : Option Verdict)
  | tree (tree : Option LabelledTree)
  | done

/-- Carry out an operation. -/
def perform (medium : Medium σ) : Operation -> Action σ StoreFailure Answer
  | .loadGrammar => .grammar <$> loadGrammar medium
  | .loadVerdict => .verdict <$> loadVerdict medium
  | .loadDerivationTree => .tree <$> loadDerivationTree medium
  | .loadGeneralTree => .tree <$> loadGeneralTree medium
  | .saveGrammar grammar => (fun _ => .done) <$> saveGrammar medium grammar
  | .saveVerdict verdict => (fun _ => .done) <$> saveVerdict medium verdict
  | .saveDerivationTree tree => (fun _ => .done) <$> saveDerivationTree medium tree
  | .saveGeneralTree tree => (fun _ => .done) <$> saveGeneralTree medium tree
  | .clear => (fun _ => .done) <$> clear medium

end Store
end PhraseGrammar
