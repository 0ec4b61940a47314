import PhraseGrammar.Text.Basic

/-!
# Locations

An error that concerns a file is reported with the place in it: the file alone, or a line of it.
-/

namespace PhraseGrammar

/-- A line of a file, counted from 1, or the file as a whole if the line is 0. -/
structure Location where
  file : Text
  line : Nat
  deriving DecidableEq, Repr

namespace Location

/-- A file as a whole. -/
def whole (file : Text) : Location := { file, line := 0 }

/-- The text of a location. -/
def render (location : Location) : Text :=
  if location.line = 0 then location.file
  else location.file ++ ":" ++ Text.ofNat location.line

/-- A message with the location it concerns. -/
def locate (location : Location) (message : Text) : Text :=
  "[" ++ location.render ++ "]  " ++ message

end Location

/-- A message in the colours of an error on a terminal. -/
def highlighted (message : Text) : Text := "\x1b[31;49;1m" ++ message ++ "\x1b[0m"

end PhraseGrammar
