import PhraseGrammar.Json.Lexeme

/-!
# Documents as they stand

`Node.ofText` takes a text apart into values, lists and records as far as it has the form of a
document. It never fails: where the form breaks off, the tree ends with the fault, and nothing
behind it is looked at. Every part keeps the text at the places that a later complaint may need.

A document is not judged here, because a fault counts only when it is reached: what is wrong with a
value depends on whether the value is read or skipped, and a value of the wrong type is reported
before a broken form further on. Where the break is told differently to the two, both faults are
kept.
-/

namespace PhraseGrammar
namespace Json

mutual

/-- A value as it stands in a text. -/
inductive Node : Type
  | null (rest : Text)
  | flag (value : Bool) (rest : Text)
  | number (value : Except Fault Number) (rest : Text)
  | text (value : Except Fault Text) (rest : Text)
  | list (start : Text) (items : Items)
  | record (start : Text) (members : Members)
  /-- What stands here is no value; the faults are those of reading and of skipping it. -/
  | broken (reading skipping : Fault)

/-- What follows the opening bracket or an item of a list. -/
inductive Items : Type
  | close (rest : Text)
  | item (start : Text) (node : Node) (more : Items)
  /-- The list breaks off; the faults are those of reading on, of skipping, and of expecting its
  end. -/
  | broken (reading skipping closing : Fault)

/-- What follows the opening brace or a member of a record. -/
inductive Members : Type
  | close (rest : Text)
  /-- A key, the text behind it and the blanks after it, and its value. -/
  | member (key : Except Fault Text) (behindKey : Text) (node : Node) (more : Members)
  /-- The record breaks off; the faults are those of reading on and of skipping. -/
  | broken (reading skipping : Fault)

end

namespace Node

/-- A fault that is told alike whether the value is read or skipped. -/
def fault (fault : Fault) : Node := broken fault fault

/-- A word whose first letter is read already, as a value. -/
def ofWord (letters rest : Text) (value : Text -> Node) : Node × Option Text :=
  match readWord letters rest with
  | .ok rest => (value rest, some rest)
  | .error found => (fault found, none)

/-- A text between quotes whose opening quote is read already, as a value. -/
def ofQuoted (body : Text) : Node × Option Text :=
  match skipQuoted body with
  | .ok rest => (text ((readQuoted body).map Prod.fst) rest, some rest)
  | .error skipping =>
      match readQuoted body with
      | .ok _ => (fault skipping, none)
      | .error reading => (broken reading skipping, none)

/-- A numeral as a value. -/
def ofNumeral (text : Text) : Node × Option Text :=
  match Numeral.read text with
  | .ok (numeral, rest) => (number (numeral.evaluate rest) rest, some rest)
  | .error found => (broken found.reading found.skipping, none)

end Node

/-- What stands behind an item or a member that breaks off. Nothing looks at it. -/
def Items.unseen : Items :=
  .broken (.atEnd .endInList) (.atEnd .endInList) (.atEnd .endInList)

/-- What stands behind a member that breaks off. Nothing looks at it. -/
def Members.unseen : Members := .broken (.atEnd .endInRecord) (.atEnd .endInRecord)

mutual

/-- Take apart the value at the beginning of a text without leading blanks, and return it with the
rest of the text unless it breaks off. The fuel bounds the number of nested calls, of which a
character needs at most three. -/
def Node.parse : (fuel : Nat) -> Text -> Node × Option Text
  | 0, _ => (.fault (.atEnd .endInValue), none)
  | _, [] => (.fault (.atEnd .endInValue), none)
  | fuel + 1, c :: rest =>
      if c = 'n' then Node.ofWord "ull" rest .null
      else if c = 't' then Node.ofWord "rue" rest (.flag true)
      else if c = 'f' then Node.ofWord "alse" rest (.flag false)
      else if c = '-' ∨ c.isDigit then Node.ofNumeral (c :: rest)
      else if c = '"' then Node.ofQuoted rest
      else if c = '[' then
        let (items, behind) := Items.parse fuel true (skipBlanks rest)
        (.list (c :: rest) items, behind)
      else if c = '{' then
        let (members, behind) := Members.parse fuel true (skipBlanks rest)
        (.record (c :: rest) members, behind)
      else (.fault (.upon .expectedValue (c :: rest)), none)

/-- Take apart what follows the opening bracket of a list, if `isFirst`, or an item of it. -/
def Items.parse : (fuel : Nat) -> (isFirst : Bool) -> Text -> Items × Option Text
  | 0, _, _ => (.unseen, none)
  | _, _, [] =>
      (.broken (.atEnd .endInList) (.atEnd .endInList) (.atEnd .endInList), none)
  | fuel + 1, isFirst, c :: rest =>
      if c = ']' then (.close rest, some rest)
      else if isFirst then Items.parseItem fuel (c :: rest)
      else if c = ',' then
        match skipBlanks rest with
        | [] =>
            (.broken (.atEnd .endInValue) (.atEnd .endInValue) (.atEnd .trailingCharacters), none)
        | d :: next =>
            if d = ']' then
              (.broken (.upon .trailingComma (d :: next)) (.upon .expectedValue (d :: next))
                (.upon .trailingComma (d :: next)), none)
            else Items.parseItem fuel (d :: next)
      else
        (.broken (.upon .expectedListEnd (c :: rest)) (.upon .expectedListEnd (c :: rest))
          (.upon .trailingCharacters (c :: rest)), none)

/-- Take apart an item of a list and what follows it. -/
def Items.parseItem : (fuel : Nat) -> Text -> Items × Option Text
  | 0, _ => (.unseen, none)
  | fuel + 1, text =>
      match Node.parse fuel text with
      | (node, none) => (.item text node .unseen, none)
      | (node, some behind) =>
          let (more, behind) := Items.parse fuel false (skipBlanks behind)
          (.item text node more, behind)

/-- Take apart what follows the opening brace of a record, if `isFirst`, or a member of it. -/
def Members.parse : (fuel : Nat) -> (isFirst : Bool) -> Text -> Members × Option Text
  | 0, _, _ => (.unseen, none)
  | _, _, [] => (.broken (.atEnd .endInRecord) (.atEnd .endInRecord), none)
  | fuel + 1, isFirst, c :: rest =>
      if c = '}' then (.close rest, some rest)
      else if isFirst then
        if c = '"' then Members.parseMember fuel rest
        else (.broken (.upon .keyNotText (c :: rest)) (.upon .keyNotText (c :: rest)), none)
      else if c = ',' then
        match skipBlanks rest with
        | [] => (.broken (.atEnd .endInValue) (.atEnd .endInRecord), none)
        | d :: next =>
            if d = '"' then Members.parseMember fuel next
            else
              let reading : Complaint := if d = '}' then .trailingComma else .keyNotText
              (.broken (.upon reading (d :: next)) (.upon .keyNotText (d :: next)), none)
      else
        (.broken (.upon .expectedRecordEnd (c :: rest)) (.upon .expectedRecordEnd (c :: rest)),
          none)

/-- Take apart a member of a record, whose opening quote is read already, and what follows it. -/
def Members.parseMember : (fuel : Nat) -> Text -> Members × Option Text
  | 0, _ => (.unseen, none)
  | fuel + 1, body =>
      match Node.ofQuoted body with
      | (.text key _, some behind) =>
          let behindKey := skipBlanks behind
          match behindKey with
          | [] => (.member key behindKey (.fault (.atEnd .endInRecord)) .unseen, none)
          | c :: rest =>
              if c = ':' then
                match Node.parse fuel (skipBlanks rest) with
                | (node, none) => (.member key behindKey node .unseen, none)
                | (node, some behind) =>
                    let (more, behind) := Members.parse fuel false (skipBlanks behind)
                    (.member key behindKey node more, behind)
              else
                (.member key behindKey (.fault (.upon .expectedColon behindKey)) .unseen, none)
      | (.broken reading skipping, _) => (.broken reading skipping, none)
      | _ => (.unseen, none)

end

/-- The value at the beginning of a text, and the rest of the text unless the value breaks off. -/
def Node.ofText (text : Text) : Node × Option Text :=
  Node.parse (3 * text.length + 3) (skipBlanks text)

/-! ## Skipping -/

mutual

/-- The fault that is met when the value is skipped, if there is one. -/
def Node.skipFault? : Node -> Option Fault
  | .null _ => none
  | .flag _ _ => none
  | .number _ _ => none
  | .text _ _ => none
  | .list _ items => items.skipFault?
  | .record _ members => members.skipFault?
  | .broken _ skipping => some skipping

/-- The fault that is met when the rest of a list is skipped, if there is one. -/
def Items.skipFault? : Items -> Option Fault
  | .close _ => none
  | .item _ node more =>
      match node.skipFault? with
      | some fault => some fault
      | none => more.skipFault?
  | .broken _ skipping _ => some skipping

/-- The fault that is met when the rest of a record is skipped, if there is one. -/
def Members.skipFault? : Members -> Option Fault
  | .close _ => none
  | .member _ _ node more =>
      match node.skipFault? with
      | some fault => some fault
      | none => more.skipFault?
  | .broken _ skipping => some skipping

end

/-- What was found where a value of another type was expected, or the fault in reading it. -/
def Node.mismatch (wanted : Wanted) : Node -> Fault
  | .null rest => .before (.wrongType .null wanted) rest
  | .flag value rest => .before (.wrongType (.flag value) wanted) rest
  | .number (.ok value) rest => .before (.wrongType (.number value) wanted) rest
  | .number (.error fault) _ => fault
  | .text (.ok value) rest => .before (.wrongType (.text value) wanted) rest
  | .text (.error fault) _ => fault
  | .list start _ => .before (.wrongType .list wanted) start
  | .record start _ => .before (.wrongType .record wanted) start
  | .broken reading _ => reading

end Json
end PhraseGrammar
