import PhraseGrammar.Json.Number
import PhraseGrammar.Text.Quoted

/-!
# Faults of a document

What can be wrong with a document, and where. A complaint says what is wrong; a fault is a complaint
with the place up to which the text had been read when it was found. Places are kept as the number
of bytes that are left, so that they can be taken from the rest of the text at hand, and are turned
into a line and a column of the whole text in the end.
-/

namespace PhraseGrammar
namespace Json

/-- What a value turned out to be. -/
inductive Found
  | null
  | flag (value : Bool)
  | number (value : Number)
  | text (value : Text)
  | list
  | record
  deriving DecidableEq, Repr

/-- What a value was expected to be. -/
inductive Wanted
  | text
  | flag
  | count
  | list
  | record (title : Text)
  deriving DecidableEq, Repr

/-- What is wrong with a document. -/
inductive Complaint
  | endInValue
  | endInList
  | endInRecord
  | endInText
  | expectedColon
  | expectedListEnd
  | expectedRecordEnd
  | expectedWord
  | expectedValue
  | invalidEscape
  | invalidNumber
  | numberOutOfRange
  | keyNotText
  | loneSurrogate
  | cutSurrogatePair
  | trailingComma
  | trailingCharacters
  | controlCharacter
  | tooDeep
  | wrongType (found : Found) (wanted : Wanted)
  | negativeCount (size : Nat)
  | duplicateField (name : Text)
  | missingField (name : Text)
  | tooShort (length : Nat) (title : Text) (size : Nat)
  | tooLong (length : Nat)
  deriving DecidableEq, Repr

/-- Complaints are about the end of the text, about its form, or about what it says. -/
inductive Category
  | ending
  | form
  | content
  deriving DecidableEq, Repr

namespace Found

/-- How a message names what was found. -/
def render : Found -> Text
  | null => "null"
  | flag true => "boolean `true`"
  | flag false => "boolean `false`"
  | number (.real isNegative size) =>
      "floating point `" ++ (Number.real isNegative size).render ++ "`"
  | number value => "integer `" ++ value.render ++ "`"
  | text value => "string " ++ Text.quoted value
  | list => "sequence"
  | record => "map"

end Found

namespace Wanted

/-- How a message names what was expected. -/
def render : Wanted -> Text
  | text => "a string"
  | flag => "a boolean"
  | count => "usize"
  | list => "a sequence"
  | record title => "struct " ++ title

end Wanted

namespace Complaint

/-- The message of a complaint, without its place. -/
def message : Complaint -> Text
  | endInValue => "EOF while parsing a value"
  | endInList => "EOF while parsing a list"
  | endInRecord => "EOF while parsing an object"
  | endInText => "EOF while parsing a string"
  | expectedColon => "expected `:`"
  | expectedListEnd => "expected `,` or `]`"
  | expectedRecordEnd => "expected `,` or `\x7d`"
  | expectedWord => "expected ident"
  | expectedValue => "expected value"
  | invalidEscape => "invalid escape"
  | invalidNumber => "invalid number"
  | numberOutOfRange => "number out of range"
  | keyNotText => "key must be a string"
  | loneSurrogate => "lone leading surrogate in hex escape"
  | cutSurrogatePair => "unexpected end of hex escape"
  | trailingComma => "trailing comma"
  | trailingCharacters => "trailing characters"
  | controlCharacter => "control character (\\u0000-\\u001F) found while parsing a string"
  | tooDeep => "recursion limit exceeded"
  | wrongType found wanted =>
      "invalid type: " ++ found.render ++ ", expected " ++ wanted.render
  | negativeCount size =>
      "invalid value: integer `-" ++ Text.ofNat size ++ "`, expected " ++ Wanted.count.render
  | duplicateField name => "duplicate field `" ++ name ++ "`"
  | missingField name => "missing field `" ++ name ++ "`"
  | tooShort length title size =>
      "invalid length " ++ Text.ofNat length ++ ", expected struct " ++ title ++ " with " ++
        Text.ofNat size ++ " elements"
  | tooLong length =>
      "invalid length " ++ Text.ofNat length ++ ", expected fewer elements in array"

/-- The category of a complaint. -/
def category : Complaint -> Category
  | endInValue | endInList | endInRecord | endInText => .ending
  | wrongType _ _ | negativeCount _ | duplicateField _ | missingField _ => .content
  | tooShort _ _ _ | tooLong _ => .content
  | _ => .form

end Complaint

/-- A complaint, and how many bytes of the text are left where it arose. -/
structure Fault where
  complaint : Complaint
  left : Nat
  deriving DecidableEq, Repr

namespace Fault

/-- A fault found with all but `rest` read. -/
def before (complaint : Complaint) (rest : Text) : Fault :=
  { complaint, left := Text.byteCount rest }

/-- A fault found at the first byte of `rest`, which counts as read. -/
def upon (complaint : Complaint) (rest : Text) : Fault :=
  { complaint, left := Text.byteCount rest - 1 }

/-- A fault found at the end of the text. -/
def atEnd (complaint : Complaint) : Fault := { complaint, left := 0 }

end Fault

/-- A line, counted from 1, and the number of bytes of it that are read. -/
structure Position where
  line : Nat
  column : Nat
  deriving DecidableEq, Repr

namespace Position

/-- Move on over the given number of bytes of a text. -/
def advance : (bytes : Nat) -> Text -> Position -> Position
  | _, [], position => position
  | bytes, c :: rest, position =>
      if c.utf8Size ≤ bytes then
        let next : Position :=
          if c = '\n' then { line := position.line + 1, column := 0 }
          else { position with column := position.column + c.utf8Size }
        advance (bytes - c.utf8Size) rest next
      else { position with column := position.column + bytes }

/-- The place in a text at which the given number of bytes is left. -/
def ofLeft (text : Text) (left : Nat) : Position :=
  advance (Text.byteCount text - left) text { line := 1, column := 0 }

end Position

/-- Why a text is no document of the kind asked for. -/
structure Malformed where
  complaint : Complaint
  position : Position
  deriving DecidableEq, Repr

namespace Malformed

/-- A fault of `text`, with its place as a position. -/
def ofFault (text : Text) (fault : Fault) : Malformed where
  complaint := fault.complaint
  position := .ofLeft text fault.left

/-- The message of a complaint with its place. -/
def message (malformed : Malformed) : Text :=
  malformed.complaint.message ++ " at line " ++ Text.ofNat malformed.position.line ++
    " column " ++ Text.ofNat malformed.position.column

end Malformed
end Json
end PhraseGrammar
