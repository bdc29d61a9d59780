/-
  Handler expressions: terms over the matched text, and the bodies made of them.

  * A `Term` denotes a text (`Term.eval`): the matched text, a literal, a concatenation, or a part,
    a trimmed form or a change of case of another term;
  * a `Body` resolves no type, names a type, or gives a pair of a value and a type (`Body.eval`).

  `slice` counts characters; a negative bound counts from the end, bounds are clamped to the text,
  and an inverted range is empty.
-/
import OrderedLexer.Text.WhiteSpace
import OrderedLexer.Text.Casing
import OrderedLexer.Emit

namespace OrderedLexer.Expr

/-! ## Slices -/

/-- The place that a bound names in a text of length `len`. -/
def clampIndex (len : Nat) (i : Int) : Nat :=
  let i := if i < 0 then len + i else i
  min i.toNat len

/-- The characters from a bound up to, but not including, another one; without a second bound, up
    to the end. -/
def slice (cs : List Char) (start : Int) (stop : Option Int) : List Char :=
  let lo := clampIndex cs.length start
  let hi := match stop with
    | some stop => clampIndex cs.length stop
    | none => cs.length
  (cs.drop lo).take (hi - lo)

/-! ## Terms -/

/-- An expression that denotes a text. -/
inductive Term where
  /-- The matched text. -/
  | text
  /-- A fixed text. -/
  | literal (s : String)
  /-- The parts in their order. -/
  | concat (parts : List Term)
  /-- The part of a term between two bounds. -/
  | slice (base : Term) (start : Int) (stop : Option Int)
  /-- A term without white space at its ends. -/
  | trim (base : Term)
  /-- A term in upper case. -/
  | upper (base : Term)
  /-- A term in lower case. -/
  | lower (base : Term)
  deriving Repr

mutual

/-- The text that a term denotes for a matched text. -/
def Term.eval (text : List Char) : Term → List Char
  | .text => text
  | .literal s => s.toList
  | .concat parts => evalAll text parts
  | .slice base start stop => Expr.slice (base.eval text) start stop
  | .trim base => Text.trim (base.eval text)
  | .upper base => Text.upper (base.eval text)
  | .lower base => Text.lower (base.eval text)

/-- The texts of some terms, one after the other. -/
def evalAll (text : List Char) : List Term → List Char
  | [] => []
  | t :: ts => t.eval text ++ evalAll text ts

end

/-! ## Bodies -/

/-- A handler body. -/
inductive Body where
  /-- No type. -/
  | null
  /-- A type. -/
  | type (kind : Term)
  /-- A value and a type. -/
  | pair (value kind : Term)
  deriving Repr

/-- What a body makes of a matched text. -/
def Body.eval (text : String) : Body → Option Emit
  | .null => none
  | .type kind => some (.type (String.ofList (kind.eval text.toList)))
  | .pair value kind =>
    some (.typeAndValue (String.ofList (kind.eval text.toList))
      (String.ofList (value.eval text.toList)))

end OrderedLexer.Expr
