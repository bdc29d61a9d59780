/-
  What a handler makes of a matched text: a token type, or a token type with a value of its own.
-/

namespace OrderedLexer

/-- The result of a handler on a matched text. -/
inductive Emit where
  /-- A token type; the value of the token is the matched text. -/
  | type (kind : String)
  /-- A token type and the value of the token. -/
  | typeAndValue (kind value : String)
  deriving DecidableEq, Repr

namespace Emit

/-- The token type. -/
def kind : Emit → String
  | .type k | .typeAndValue k _ => k

/-- The value of the token for a matched text. -/
def value (matched : String) : Emit → String
  | .type _ => matched
  | .typeAndValue _ v => v

end Emit

end OrderedLexer
