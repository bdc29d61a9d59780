/-
  Errors of reading and writing spec files.

  Each error is a cause with what its message names; `Error.message` is its wording.
-/
import OrderedLexer.Spec

namespace OrderedLexer.SpecFile

/-- Why a file cannot be read or written. -/
inductive FileError where
  | notFound | notDirectory | isDirectory | notUtf8
  deriving DecidableEq, Repr

/-- The wording of a file error. -/
def FileError.message : FileError → String
  | .notFound => "No such file or directory (os error 2)"
  | .notDirectory => "Not a directory (os error 20)"
  | .isDirectory => "Is a directory (os error 21)"
  | .notUtf8 => "stream did not contain valid UTF-8"

/-- Why a JSON value is not a spec. -/
inductive ShapeError where
  | notSpec | noRules | rulesNotArray | optionsNotObject
  | ruleNotPair (index : Nat)
  | ruleLength (index : Nat)
  | ruleNotStrings (index : Nat)
  deriving DecidableEq, Repr

/-- The wording of a shape error. -/
def ShapeError.message : ShapeError → String
  | .notSpec => "spec must be an array of rules or an object with a `rules` array"
  | .noRules => "spec object has no `rules` array"
  | .rulesNotArray => "`rules` must be an array"
  | .optionsNotObject => "`options` must be an object"
  | .ruleNotPair index => "rule " ++ index.repr ++ " must be a [pattern, handler] pair"
  | .ruleLength index => "rule " ++ index.repr ++ " must have exactly two elements"
  | .ruleNotStrings index =>
    "rule " ++ index.repr ++ ": pattern and handler must both be strings"

/-- Why a line is not a line of a spec. -/
inductive LineError where
  | unknownDirective (name : String)
  | invalidOption (setting : String) (error : Json.Error)
  | unterminatedSlash | unterminatedQuote
  | meaninglessFlag | unknownFlag
  | noHandler

/-- The wording of a line error. -/
def LineError.message : LineError → String
  | .unknownDirective name => "unknown directive `%" ++ name ++ "`"
  | .invalidOption setting error => "invalid option `" ++ setting ++ "`: " ++ error.message
  | .unterminatedSlash => "unterminated `/pattern/`"
  | .unterminatedQuote => "unterminated quoted pattern"
  | .meaninglessFlag => "flags `g` and `y` have no meaning for a tokenizer rule"
  | .unknownFlag => "unknown regex flag"
  | .noHandler => "rule has no handler"

/-- An error of reading or writing a spec file. -/
inductive Error where
  /-- The file at a path cannot be read. -/
  | unreadable (path : String) (error : FileError)
  /-- The text is not JSON, or an option in it has the wrong type. -/
  | json (error : Json.Error)
  /-- The JSON value is not a spec. -/
  | shape (error : ShapeError)
  /-- The handler of a rule is not an expression. -/
  | handler (index : Nat) (error : Expr.Error)
  /-- A line is malformed. -/
  | line (n : Nat) (error : LineError)
  /-- The handler on a line is not an expression. -/
  | lineHandler (n : Nat) (error : Expr.Error)
  /-- A handler without a source cannot be written. -/
  | noSource (index : Nat)
  /-- A pattern is invalid. -/
  | pattern (error : InvalidPattern)

/-- The wording of an error. -/
def Error.message : Error → String
  | .unreadable path error => "cannot read `" ++ path ++ "`: " ++ error.message
  | .json error => "invalid JSON: " ++ error.message
  | .shape error => error.message
  | .handler index error => "rule " ++ index.repr ++ ": invalid handler: " ++ error.message
  | .line n error => "line " ++ n.repr ++ ": " ++ error.message
  | .lineHandler n error => "line " ++ n.repr ++ ": invalid handler: " ++ error.message
  | .noSource index =>
    "rule " ++ index.repr ++
      " has a native handler with no source text and cannot be written out"
  | .pattern error => error.message

end OrderedLexer.SpecFile
