import PhraseGrammar.Document.Schema
import PhraseGrammar.Json.Node
import PhraseGrammar.Json.Value

/-!
# Reading by a schema

A document is read strictly or leniently. Read strictly, a value must fit the schema from the start,
and the first fault in the order of the text is reported with its place. Read leniently, the text
must be some value, which is then matched against the schema; a fault of the match has no place.

A record is given by its members in any order, among which unknown ones are skipped, or by the list
of its values in the order of the fields. Read strictly, a field must not be given twice; in the
lenient reading the last one counts.

What is read is the value in the form in which it is written: the fields of the schema in its order,
and nothing else. No value may lie within more than `depthLimit` open lists and records.
-/

namespace PhraseGrammar
namespace Document

open Json

/-- How many lists and records may be open at once. -/
def depthLimit : Nat := 127

/-! ## Strict reading -/

/-- A field that is given for the second time. -/
def duplicateFault (name behindKey : Text) : Fault :=
  match behindKey with
  | '}' :: _ => .upon (.duplicateField name) behindKey
  | _ => .before (.duplicateField name) behindKey

/-- The values of the fields, in their order, from those that are given. -/
def collect (given : List (Text × Value)) (rest : Text) :
    List (Text × Schema) -> Except Fault (List (Text × Value))
  | [] => .ok []
  | (name, _) :: fields =>
      match given.lookup name with
      | none => .error (.before (.missingField name) rest)
      | some value => do
          return (name, value) :: (← collect given rest fields)

mutual

/-- Read a value that fits the schema. -/
def readNode (depth : Nat) (schema : Schema) : Node -> Except Fault Value
  | .text value rest =>
      match schema with
      | .text => value.map .text
      | _ => .error ((Node.text value rest).mismatch schema.wanted)
  | .flag value rest =>
      match schema with
      | .flag => .ok (.flag value)
      | _ => .error ((Node.flag value rest).mismatch schema.wanted)
  | .number value rest =>
      match schema, value with
      | .count, .ok (.natural count) => .ok (.number (.natural count))
      | .count, .ok (.negative size) => .error (.before (.negativeCount size) rest)
      | _, _ => .error ((Node.number value rest).mismatch schema.wanted)
  | .list start items =>
      match schema, depth with
      | .list _, 0 => .error (.upon .tooDeep start)
      | .record _, 0 => .error (.upon .tooDeep start)
      | .list item, depth + 1 => (readItems depth item items).map .list
      | .record kind, depth + 1 =>
          (readFields depth kind kind.fields items).map .record
      | _, _ => .error ((Node.list start items).mismatch schema.wanted)
  | .record start members =>
      match schema, depth with
      | .record _, 0 => .error (.upon .tooDeep start)
      | .record kind, depth + 1 => (readMembers depth kind [] members).map .record
      | _, _ => .error ((Node.record start members).mismatch schema.wanted)
  | .null rest => .error ((Node.null rest).mismatch schema.wanted)
  | .broken reading _ => .error reading

/-- Read the rest of a list, each item of which fits the schema. -/
def readItems (depth : Nat) (schema : Schema) : Items -> Except Fault (List Value)
  | .close _ => .ok []
  | .item _ node more => do
      let value ← readNode depth schema node
      return value :: (← readItems depth schema more)
  | .broken reading _ _ => .error reading

/-- Read the remaining fields of a record from the rest of a list, which must then end. -/
def readFields (depth : Nat) (kind : RecordKind) (fields : List (Text × Schema)) :
    Items -> Except Fault (List (Text × Value))
  | .close rest =>
      match fields with
      | [] => .ok []
      | _ :: _ =>
          let size := kind.fields.length
          .error (.before (.tooShort (size - fields.length) kind.title size) rest)
  | .item start node more =>
      match fields with
      | [] => .error (.upon .trailingCharacters start)
      | (name, schema) :: fields => do
          let value ← readNode depth schema node
          return (name, value) :: (← readFields depth kind fields more)
  | .broken reading _ closing =>
      match fields with
      | [] => .error closing
      | _ :: _ => .error reading

/-- Read the rest of a record, of which some fields are given already. -/
def readMembers (depth : Nat) (kind : RecordKind) (given : List (Text × Value)) :
    Members -> Except Fault (List (Text × Value))
  | .close rest => collect given rest kind.fields
  | .member key behindKey node more => do
      let name ← key
      match kind.fields.lookup name with
      | none =>
          match node.skipFault? with
          | some fault => .error fault
          | none => readMembers depth kind given more
      | some schema =>
          if (given.lookup name).isSome then .error (duplicateFault name behindKey)
          else do
            let value ← readNode depth schema node
            readMembers depth kind ((name, value) :: given) more
  | .broken reading _ => .error reading

end

/-! ## Lenient reading -/

mutual

/-- Read any value. -/
def readAny (depth : Nat) : Node -> Except Fault Value
  | .null _ => .ok .null
  | .flag value _ => .ok (.flag value)
  | .number value _ => value.map .number
  | .text value _ => value.map .text
  | .list start items =>
      match depth with
      | 0 => .error (.upon .tooDeep start)
      | depth + 1 => (readAnyItems depth items).map .list
  | .record start members =>
      match depth with
      | 0 => .error (.upon .tooDeep start)
      | depth + 1 => (readAnyMembers depth members).map fun members =>
          .record (settleMembers members)
  | .broken reading _ => .error reading

/-- Read the rest of a list of any values. -/
def readAnyItems (depth : Nat) : Items -> Except Fault (List Value)
  | .close _ => .ok []
  | .item _ node more => do
      let value ← readAny depth node
      return value :: (← readAnyItems depth more)
  | .broken reading _ _ => .error reading

/-- Read the rest of a record with any members, in the order of the text. -/
def readAnyMembers (depth : Nat) : Members -> Except Fault (List (Text × Value))
  | .close _ => .ok []
  | .member key _ node more => do
      let name ← key
      let value ← readAny depth node
      return (name, value) :: (← readAnyMembers depth more)
  | .broken reading _ => .error reading

end

/-- What a message calls a value. -/
def foundOf : Value -> Found
  | .null => .null
  | .flag value => .flag value
  | .number value => .number value
  | .text value => .text value
  | .list _ => .list
  | .record _ => .record

/-- The complaint about a value that does not fit the schema. -/
def misfit (schema : Schema) (value : Value) : Complaint :=
  .wrongType (foundOf value) schema.wanted

/-- The values of the fields, in their order, from those that are given. -/
def collectGiven (given : List (Text × Value)) :
    List (Text × Schema) -> Except Complaint (List (Text × Value))
  | [] => .ok []
  | (name, _) :: fields =>
      match given.lookup name with
      | none => .error (.missingField name)
      | some value => do
          return (name, value) :: (← collectGiven given fields)

mutual

/-- Match a value against the schema. -/
def conform (schema : Schema) : Value -> Except Complaint Value
  | .null => .error (misfit schema .null)
  | .flag value =>
      match schema with
      | .flag => .ok (.flag value)
      | _ => .error (misfit schema (.flag value))
  | .number value =>
      match schema, value with
      | .count, .natural count => .ok (.number (.natural count))
      | .count, .negative size => .error (.negativeCount size)
      | _, _ => .error (misfit schema (.number value))
  | .text value =>
      match schema with
      | .text => .ok (.text value)
      | _ => .error (misfit schema (.text value))
  | .list items =>
      match schema with
      | .list item => (conformItems item items).map .list
      | .record kind => (conformFields kind items.length kind.fields items).map .record
      | _ => .error (misfit schema (.list items))
  | .record members =>
      match schema with
      | .record kind => (conformMembers kind [] members).map .record
      | _ => .error (misfit schema (.record members))

/-- Match each item against the schema. -/
def conformItems (schema : Schema) : List Value -> Except Complaint (List Value)
  | [] => .ok []
  | item :: rest => do
      let value ← conform schema item
      return value :: (← conformItems schema rest)

/-- Match the remaining values of a list of the given length against the remaining fields. -/
def conformFields (kind : RecordKind) (length : Nat) (fields : List (Text × Schema)) :
    List Value -> Except Complaint (List (Text × Value))
  | [] =>
      match fields with
      | [] => .ok []
      | _ :: _ =>
          let size := kind.fields.length
          .error (.tooShort (size - fields.length) kind.title size)
  | item :: rest =>
      match fields with
      | [] => .error (.tooLong length)
      | (name, schema) :: fields => do
          let value ← conform schema item
          return (name, value) :: (← conformFields kind length fields rest)

/-- Match the remaining members of a record, of which some fields are given already. -/
def conformMembers (kind : RecordKind) (given : List (Text × Value)) :
    List (Text × Value) -> Except Complaint (List (Text × Value))
  | [] => collectGiven given kind.fields
  | (name, value) :: rest =>
      match kind.fields.lookup name with
      | none => conformMembers kind given rest
      | some schema => do
          let value ← conform schema value
          conformMembers kind ((name, value) :: given) rest

end

/-! ## Whole texts -/

/-- Read a text that is one value, fitting the schema, between blanks. -/
def readText (schema : Schema) (text : Text) : Except Malformed Value :=
  let (node, behind) := Node.ofText text
  match readNode depthLimit schema node with
  | .error fault => .error (.ofFault text fault)
  | .ok value =>
      match skipBlanks (behind.getD []) with
      | [] => .ok value
      | rest => .error (.ofFault text (.upon .trailingCharacters rest))

end Document
end PhraseGrammar
