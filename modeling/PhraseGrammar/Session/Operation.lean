import PhraseGrammar.Session.Basic

/-!
# Operations of a session

The operations of a session as data, with what each of them answers. A session is a list of
operations carried out in turn; one that fails does not keep the next one from being tried.
-/

namespace PhraseGrammar
namespace Session

/-- What can be asked in a session. -/
inductive Operation
  | start
  | validateWord (word : Text)
  | edit (edit : Edit)
  | derivationTree
  | generalTree
  | reset
  deriving DecidableEq, Repr

/-- What a session answers. -/
inductive Answer
  | overview (overview : Overview)
  | verdict (verdict : Verdict)
  | grammar (grammar : Grammar)
  | tree (tree : Option LabelledTree)

/-- Carry out an operation on the machine described. -/
def perform (medium : Medium σ) (systemInfo : SystemInfo) :
    Operation -> Action σ SessionError Answer
  | .start => .overview <$> start medium systemInfo
  | .validateWord word => .verdict <$> validateWord medium word
  | .edit edit => .grammar <$> Session.edit medium edit
  | .derivationTree => .tree <$> derivationTree medium
  | .generalTree => .tree <$> generalTree medium
  | .reset => .grammar <$> reset medium

end Session
end PhraseGrammar
