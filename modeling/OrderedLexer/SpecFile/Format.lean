/-
  The two forms of spec files, and how the form of a file is found: by its extension, and if that
  does not tell, by its first character.
-/
import OrderedLexer.SpecFile.JsonForm
import OrderedLexer.SpecFile.LineForm
import OrderedLexer.SpecFile.Path

namespace OrderedLexer.SpecFile

/-- A form of spec files. -/
inductive Format where
  /-- JSON. -/
  | json
  /-- One rule a line. -/
  | lines
  deriving DecidableEq, Repr

namespace Format

/-- The form that an extension tells. -/
def ofPath? (path : String) : Option Format :=
  match (extension? path).map String.ofList with
  | some "json" => some .json
  | some "l" | some "lex" | some "y" => some .lines
  | _ => none

/-- The form that the first character tells, white space apart: a bracket starts JSON. -/
def sniff (text : String) : Format :=
  match Text.trimStart text.toList with
  | '[' :: _ | '{' :: _ => .json
  | _ => .lines

end Format

/-- The draft that a text of a form stands for. -/
def parse (format : Format) (text : String) : Except Error Draft :=
  match format with
  | .json => Draft.ofJson text
  | .lines => Draft.ofLines text

/-- The spec in the text of a file at a path. -/
def load (path text : String) : Except Error Spec :=
  match parse ((Format.ofPath? path).getD (.sniff text)) text with
  | .error e => .error e
  | .ok d =>
    match Spec.normalize d with
    | .ok s => .ok s
    | .error e => .error (.pattern e)

end OrderedLexer.SpecFile
