/-
  Errors of reading JSON.

  A syntax error has a cause and a place: the line, from 1, and the number of bytes on that line up
  to the failure.  A data error says that a value is well formed but not of the expected kind.
-/
import OrderedLexer.Text.Quoted
import OrderedLexer.Json.Writer

namespace OrderedLexer.Json

/-- Why a text is not JSON. -/
inductive Cause where
  | endInValue | endInList | endInObject | endInString
  | expectedValue | expectedIdent | expectedListEnd | expectedObjectEnd | expectedColon
  | trailingComma | trailingCharacters | keyNotString
  | invalidNumber | numberOutOfRange
  | invalidEscape | loneSurrogate | brokenSurrogate | controlCharacter
  | tooDeep
  deriving DecidableEq, Repr

/-- The wording of a cause. -/
def Cause.message : Cause → String
  | .endInValue => "EOF while parsing a value"
  | .endInList => "EOF while parsing a list"
  | .endInObject => "EOF while parsing an object"
  | .endInString => "EOF while parsing a string"
  | .expectedValue => "expected value"
  | .expectedIdent => "expected ident"
  | .expectedListEnd => "expected `,` or `]`"
  | .expectedObjectEnd => "expected `,` or `\x7d`"
  | .expectedColon => "expected `:`"
  | .trailingComma => "trailing comma"
  | .trailingCharacters => "trailing characters"
  | .keyNotString => "key must be a string"
  | .invalidNumber => "invalid number"
  | .numberOutOfRange => "number out of range"
  | .invalidEscape => "invalid escape"
  | .loneSurrogate => "lone leading surrogate in hex escape"
  | .brokenSurrogate => "unexpected end of hex escape"
  | .controlCharacter => "control character (\\u0000-\\u001F) found while parsing a string"
  | .tooDeep => "recursion limit exceeded"

/-- An error of reading JSON text, or of reading something from a JSON value. -/
inductive Error where
  /-- The text is not JSON. -/
  | malformed (cause : Cause) (line column : Nat)
  /-- A value of another kind stands where `expected` should. -/
  | wrongType (found : Value) (expected : String)
  /-- An object lacks a member. -/
  | missingField (name : String)

/-- A value as an error names it: its kind, and itself if it is not composed. -/
def Value.describe : Value → String
  | .null => "null"
  | .bool true => "boolean `true`"
  | .bool false => "boolean `false`"
  | .num (.int n) => "integer `" ++ String.ofList (writeInt n) ++ "`"
  | .num (.double x) => "floating point `" ++ String.ofList (doubleText x) ++ "`"
  | .str s => "string " ++ Text.quotedString s
  | .arr _ => "sequence"
  | .obj _ => "map"

/-- The wording of an error. -/
def Error.message : Error → String
  | .malformed cause line column =>
    cause.message ++ " at line " ++ line.repr ++ " column " ++ column.repr
  | .wrongType found expected => "invalid type: " ++ found.describe ++ ", expected " ++ expected
  | .missingField name => "missing field `" ++ name ++ "`"

end OrderedLexer.Json
