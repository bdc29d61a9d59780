/-
  Errors of tokenizing.

  An error has a cause and the position where it arose.  Its diagnostic shows the line of the input
  with a caret under the position, and the message below.

  The caret is put in its place by padding, and a text is padded to a width of at most `maxWidth`.  An
  error in a column further to the right has no diagnostic: it cannot be made, and what tries to make
  it panics (`LexError.panics`).
-/
import OrderedLexer.Position

namespace OrderedLexer

/-- Why there is no token at a position. -/
inductive LexCause where
  /-- No rule matches, and `found` is the next character; or the handler of `rule` gives no type to
      the matched text `found`. -/
  | unexpectedToken (found : String) (rule : Option Nat)
  /-- A rule matches the empty text. -/
  | emptyMatch (rule : Nat)
  deriving DecidableEq, Repr

/-- An error at a position. -/
structure LexError where
  cause : LexCause
  offset : Nat
  line : Nat
  column : Nat
  /-- The line of the input, a caret and the message; none if making the error panics. -/
  diagnostic : Option String
  deriving DecidableEq, Repr

/-- The message of a cause at a line and column. -/
def LexCause.message (line column : Nat) : LexCause → String
  | .unexpectedToken found _ =>
    "Unexpected token: \"" ++ found ++ "\" at " ++ line.repr ++ ":" ++ column.repr
  | .emptyMatch rule =>
    "Empty match: rule " ++ rule.repr ++ " matched no input at " ++ line.repr ++ ":" ++ column.repr

namespace LexError

/-- The line of an input with a number, from 1. -/
def sourceLine? (input : String) (line : Nat) : Option (List Char) :=
  if line = 0 then none else (Text.splitLines input.toList)[line - 1]?

/-- The greatest width that a text is padded to. -/
def maxWidth : Nat := 0xFFFF

/-- The blanks before a column, unless padding to it panics. -/
def padding? (column : Nat) : Option (List Char) :=
  if column ≤ maxWidth then some (List.replicate column ' ') else none

/-- A message below the line that it points into; if there is no such line, the message alone.  None
    if there is one, and its caret cannot be put in its place. -/
def render? (input : String) (line column : Nat) (message : String) : Option String :=
  match sourceLine? input line with
  | some text =>
    (padding? column).map fun blanks =>
      String.ofList (Text.dropReturn text ++ '\n' :: (blanks ++ ['^', '\n'])) ++ message
  | none => some message

/-- The error with a cause at a position of an input. -/
def at_ (input : String) (p : Position) (cause : LexCause) : LexError where
  cause
  offset := p.offset
  line := p.line
  column := p.column
  diagnostic := render? input p.line p.column (cause.message p.line p.column)

/-- The message without the line of the input. -/
def message (e : LexError) : String := e.cause.message e.line e.column

/-- Whether making the error panics. -/
def panics (e : LexError) : Bool := e.diagnostic.isNone

/-- What is shown of an error that does not panic. -/
def shown (e : LexError) : String := e.diagnostic.getD ""

end LexError

end OrderedLexer
