import PhraseGrammar.Document.Stored

/-!
# The state document

Everything that is kept between runs: the grammar and what came of the last validation, each as a
record of its own that may be absent. The document is a record with one field for each of them, or
the list of its values in the same order.

The grammar is read strictly. The other records are read leniently: one that does not fit is
dropped, with a note that says why, and counts as absent. So a bad record never costs more than
itself, unless it is no value at all.
-/

namespace PhraseGrammar

/-- What is kept between runs. -/
structure State where
  grammar : Option Grammar
  verdict : Option Verdict
  derivationTree : Option LabelledTree
  generalTree : Option LabelledTree

namespace State

/-- The state in which nothing is kept. -/
def empty : State where
  grammar := none
  verdict := none
  derivationTree := none
  generalTree := none

end State

namespace Document

open Json

/-- The fields of the state document. -/
inductive StateField
  | grammar
  | verdict
  | derivationTree
  | generalTree
  deriving DecidableEq, Repr

namespace StateField

/-- All fields, in the order in which they are written. -/
def all : List StateField := [grammar, verdict, derivationTree, generalTree]

/-- The name of a field. -/
def name : StateField -> Text
  | grammar => "grammar"
  | verdict => "validationResult"
  | derivationTree => "derivationTree"
  | generalTree => "generalTree"

/-- The field of a name. -/
def named? (name : Text) : Option StateField := all.find? fun field => field.name == name

/-- The kind of the records in a field. -/
def kind : StateField -> RecordKind
  | grammar => .grammar
  | verdict => .verdict
  | derivationTree => .tree
  | generalTree => .tree

/-- Whether a record that does not fit is dropped. -/
def isLenient : StateField -> Bool
  | grammar => false
  | _ => true

end StateField

/-- The values found in the fields that were given, where a dropped record is found to be nothing.
-/
abbrev Draft := List (StateField × Option Value)

namespace Draft

/-- The record in a field, if it was given and kept. -/
def record? (α : Type) [Stored α] (draft : Draft) (field : StateField) : Option α :=
  ((draft.lookup field).bind id).map Stored.ofValue

/-- The state with the records that were kept. -/
def state (draft : Draft) : State where
  grammar := draft.record? Grammar .grammar
  verdict := draft.record? Verdict .verdict
  derivationTree := draft.record? LabelledTree .derivationTree
  generalTree := draft.record? LabelledTree .generalTree

end Draft

/-- What reading yields, and the complaints about records that were dropped on the way. They are
there even if the reading fails further on. -/
structure Reading (ε α : Type) where
  dropped : List Complaint
  result : Except ε α

namespace Reading

/-- A reading that drops nothing. -/
def plain (result : Except ε α) : Reading ε α := { dropped := [], result }

/-- Go on with what was read. -/
def andThen (reading : Reading ε α) (next : α -> Reading ε β) : Reading ε β :=
  match reading.result with
  | .error fault => { dropped := reading.dropped, result := .error fault }
  | .ok value =>
      let further := next value
      { dropped := reading.dropped ++ further.dropped, result := further.result }

end Reading

/-- Read the record in a field. -/
def readField (depth : Nat) (field : StateField) (node : Node) :
    Reading Fault (Option Value) :=
  if field.isLenient then
    match readAny depth node with
    | .error fault => .plain (.error fault)
    | .ok value =>
        match conform (.record field.kind) value with
        | .ok record => .plain (.ok (some record))
        | .error complaint => { dropped := [complaint], result := .ok none }
  else
    match node with
    | .null _ => .plain (.ok none)
    | node => .plain ((readNode depth (.record field.kind) node).map some)

/-- Read the remaining fields from the rest of a list, which may end early but must not go on. -/
def readStateItems (depth : Nat) (fields : List StateField) (draft : Draft) :
    Items -> Reading Fault Draft
  | .close _ => .plain (.ok draft)
  | .item start node more =>
      match fields with
      | [] => .plain (.error (.upon .trailingCharacters start))
      | field :: fields =>
          (readField depth field node).andThen fun record =>
            readStateItems depth fields ((field, record) :: draft) more
  | .broken reading _ closing =>
      match fields with
      | [] => .plain (.error closing)
      | _ :: _ => .plain (.error reading)

/-- Read the remaining members of a record, of which some fields are given already. -/
def readStateMembers (depth : Nat) (draft : Draft) : Members -> Reading Fault Draft
  | .close _ => .plain (.ok draft)
  | .member key behindKey node more =>
      match key with
      | .error fault => .plain (.error fault)
      | .ok name =>
          match StateField.named? name with
          | none =>
              match node.skipFault? with
              | some fault => .plain (.error fault)
              | none => readStateMembers depth draft more
          | some field =>
              if (draft.lookup field).isSome then
                .plain (.error (duplicateFault name behindKey))
              else
                (readField depth field node).andThen fun record =>
                  readStateMembers depth ((field, record) :: draft) more
  | .broken reading _ => .plain (.error reading)

/-- Read the state document. -/
def readState (node : Node) : Reading Fault Draft :=
  match node with
  | .list _ items => readStateItems (depthLimit - 1) StateField.all [] items
  | .record _ members => readStateMembers (depthLimit - 1) [] members
  | node => .plain (.error (node.mismatch (.record "State")))

/-- Read a text that is one state document between blanks. -/
def parseState (text : Text) : Reading Malformed State :=
  let (node, behind) := Node.ofText text
  let reading := readState node
  { dropped := reading.dropped
    result :=
      match reading.result with
      | .error fault => .error (.ofFault text fault)
      | .ok draft =>
          match skipBlanks (behind.getD []) with
          | [] => .ok draft.state
          | rest => .error (.ofFault text (.upon .trailingCharacters rest)) }

/-- The member that a field is stored as, if it holds a record. -/
def memberOf [Stored α] (field : StateField) : Option α -> List (Text × Value)
  | none => []
  | some record => [(field.name, Stored.toValue record)]

/-- The value that a state is stored as: its records under the names of their fields. -/
def valueOfState (state : State) : Value :=
  .record
    (memberOf .grammar state.grammar ++ memberOf .verdict state.verdict ++
      memberOf .derivationTree state.derivationTree ++ memberOf .generalTree state.generalTree)

end Document
end PhraseGrammar
