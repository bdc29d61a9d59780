/-
  Compiled patterns.

  `Regex.compile` reads a pattern, and `Regex.split?` splits a text behind the preferred match at
  its start.  `escapeText` writes the pattern that matches a text and nothing else.
-/
import OrderedLexer.Pattern.Compile
import OrderedLexer.Pattern.Search
import OrderedLexer.Pattern.Size

namespace OrderedLexer

open Pattern (Ast Node Program)

/-- A compiled pattern. -/
structure Regex where
  /-- The text of the pattern. -/
  pattern : String
  program : Program
  deriving DecidableEq, Repr

namespace Regex

/-- The pattern with a text. -/
def compile (pattern : String) : Except Pattern.Error Regex :=
  match Ast.parse pattern.toList with
  | .error e => .error e
  | .ok x =>
    match Node.ofAst {} x with
    | .error e => .error e
    | .ok (x, _) => if x.fits then .ok ⟨pattern, .ofNode x⟩ else .error .tooLarge

/-- The preferred match at the start of a text, and the text behind it. -/
def split? (re : Regex) (text : List Char) : Option (List Char × List Char) :=
  (re.program.matchLength? text).map fun n => (text.take n, text.drop n)

/-- Characters with a meaning of their own in patterns. -/
def isMeta (c : Char) : Bool :=
  ['\\', '.', '+', '*', '?', '(', ')', '|', '[', ']', '{', '}', '^', '$', '#', '&', '-',
    '~'].contains c

/-- The pattern that matches a text. -/
def escapeText (cs : List Char) : List Char :=
  cs.flatMap fun c => if isMeta c then ['\\', c] else [c]

end Regex

end OrderedLexer
