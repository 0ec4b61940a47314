import PhraseGrammar.Text.Basic

/-!
# The machine

What is known about the machine that the program runs on. It is only ever shown.
-/

namespace PhraseGrammar

/-- A description of a machine. -/
structure SystemInfo where
  language : Text
  os : Text
  processor : Text
  memory : Text
  motherboard : Text
  deriving DecidableEq, Repr

namespace SystemInfo

/-- The description as it is shown, one item to a line. -/
def render (info : SystemInfo) : Text :=
  "Language:    " ++ info.language ++ "\n" ++
  "OS:          " ++ info.os ++ "\n" ++
  "Processor:   " ++ info.processor ++ "\n" ++
  "Memory:      " ++ info.memory ++ "\n" ++
  "Motherboard: " ++ info.motherboard

/-- The machine that the program is made for. -/
def host : SystemInfo where
  language := "Rust (sentential 0.1.0)"
  os := "Linux"
  processor := "x86_64"
  memory := "not available"
  motherboard := "not available"

end SystemInfo
end PhraseGrammar
