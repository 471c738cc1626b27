/-
# Faults of a document

A document is refused for the first thing that is wrong with it, in the order of its text.  Such a
fault is of one of three kinds.
-/

namespace NavArbiter.Json

/-- Why a document is refused. -/
inductive Fault where
  /-- The text is not well formed. -/
  | malformed
  /-- The text is well formed so far, but says something else than was expected. -/
  | mismatch
  /-- The text ends too early. -/
  | truncated
  deriving DecidableEq, Repr

/-- The name of a kind of fault. -/
def Fault.name : Fault → String
  | .malformed => "syntax"
  | .mismatch => "data"
  | .truncated => "eof"

/-- What is found where one lexeme is read: its value, and whether it could be passed over without
looking at the value.  A lexeme may be impossible to read and yet easy to pass over. -/
structure Lexeme (β : Type) where
  value : Except Fault β
  passes : Except Fault Unit

end NavArbiter.Json
