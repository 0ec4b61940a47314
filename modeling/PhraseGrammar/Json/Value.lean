import PhraseGrammar.Json.Number
import PhraseGrammar.Text.Quoted

/-!
# Values and their written forms

A value is what a document says, without the places and the blanks. It is written compactly, or laid
out with one item or member to a line. Members are written in the order in which they are listed.

Texts are written with a backslash before quotes and backslashes, with the short escapes of the
common controls, and with the code point in four hexadecimal digits for the other characters below
U+0020. Everything else is written as it is.
-/

namespace PhraseGrammar
namespace Json

/-- What a document says. -/
inductive Value : Type
  | null
  | flag (value : Bool)
  | number (value : Number)
  | text (value : Text)
  | list (items : List Value)
  | record (members : List (Text × Value))
  deriving Repr

instance : Inhabited Value := ⟨.null⟩

/-- How one character of a text is written. -/
def writtenChar (c : Char) : Text :=
  if c = '"' then "\\\""
  else if c = '\\' then "\\\\"
  else if c.toNat = 8 then "\\b"
  else if c.toNat = 12 then "\\f"
  else if c = '\n' then "\\n"
  else if c = '\r' then "\\r"
  else if c = '\t' then "\\t"
  else if c.toNat < 0x20 then
    "\\u00" ++ [Nat.digitChar (c.toNat / 16), Nat.digitChar (c.toNat % 16)]
  else [c]

/-- A text as it is written, between quotes. -/
def writtenText (text : Text) : Text := "\"" ++ text.flatMap writtenChar ++ "\""

namespace Value

mutual

/-- A value without any blanks. -/
def compact : Value -> Text
  | null => "null"
  | flag true => "true"
  | flag false => "false"
  | number value => value.render
  | text value => writtenText value
  | list items => "[" ++ Text.joined "," (compactItems items) ++ "]"
  | record members => "\x7b" ++ Text.joined "," (compactMembers members) ++ "\x7d"

/-- The items of a list, each without any blanks. -/
def compactItems : List Value -> List Text
  | [] => []
  | item :: rest => item.compact :: compactItems rest

/-- The members of a record, each without any blanks. -/
def compactMembers : List (Text × Value) -> List Text
  | [] => []
  | (key, value) :: rest =>
      (writtenText key ++ ":" ++ value.compact) :: compactMembers rest

end

/-- Parts on lines of their own, indented by two more than `indentation`, between brackets. Brackets
around nothing stay together. -/
def laidOut (indentation opening closing : Text) : List Text -> Text
  | [] => opening ++ closing
  | part :: parts =>
      let lineBreak : Text := "\n" ++ indentation
      opening ++ lineBreak ++ "  " ++
        Text.joined ("," ++ lineBreak ++ "  ") (part :: parts) ++ lineBreak ++ closing

mutual

/-- A value laid out on lines, the first of which is already indented. -/
def prettyAt (indentation : Text) : Value -> Text
  | null => "null"
  | flag true => "true"
  | flag false => "false"
  | number value => value.render
  | text value => writtenText value
  | list items => laidOut indentation "[" "]" (prettyItems (indentation ++ "  ") items)
  | record members =>
      laidOut indentation "\x7b" "\x7d" (prettyMembers (indentation ++ "  ") members)

/-- The items of a list, each laid out. -/
def prettyItems (indentation : Text) : List Value -> List Text
  | [] => []
  | item :: rest => item.prettyAt indentation :: prettyItems indentation rest

/-- The members of a record, each laid out. -/
def prettyMembers (indentation : Text) : List (Text × Value) -> List Text
  | [] => []
  | (key, value) :: rest =>
      (writtenText key ++ ": " ++ value.prettyAt indentation) :: prettyMembers indentation rest

end

/-- A value laid out on lines. -/
def pretty (value : Value) : Text := value.prettyAt []

end Value

/-! ## Members in order -/

/-- Whether a text comes before another in the order of their code points. -/
def precedes : Text -> Text -> Bool
  | _, [] => false
  | [], _ :: _ => true
  | c :: first, d :: second => c < d || (c == d && precedes first second)

/-- Put a member among members in ascending order of their keys, in place of one with the same key.
-/
def putMember (key : Text) (value : Value) : List (Text × Value) -> List (Text × Value)
  | [] => [(key, value)]
  | (other, old) :: rest =>
      if key = other then (key, value) :: rest
      else if precedes key other then (key, value) :: (other, old) :: rest
      else (other, old) :: putMember key value rest

/-- The members in ascending order of their keys, where the last of several with one key counts. -/
def settleMembers (members : List (Text × Value)) : List (Text × Value) :=
  members.foldl (fun settled (key, value) => putMember key value settled) []

end Json
end PhraseGrammar
