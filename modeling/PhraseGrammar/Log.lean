import PhraseGrammar.Text.Basic

/-!
# Log records

What is worth noting while the program works is collected as a list of records in the order in which
they arise. The log is part of what an operation yields, so statements can be made about it.
-/

namespace PhraseGrammar

/-- How much a record matters, from the least to the most. -/
inductive LogLevel
  | trace
  | debug
  | info
  | warn
  deriving DecidableEq, Repr

/-- One entry of the log. -/
structure LogRecord where
  level : LogLevel
  text : Text
  deriving DecidableEq, Repr

/-- Records in the order in which they arose. -/
abbrev Log := List LogRecord

end PhraseGrammar
