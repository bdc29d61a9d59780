/-
  Tokens and their locations.

  A location spans the input from one byte offset up to, but not including, another one.  Lines are
  counted from 1 and columns, in characters, from 0.

  `Token.toValue` and `Token.ofValue` write a token as an object and read it back: a token has its
  six location fields or none of them.
-/
import OrderedLexer.Json.Reader

namespace OrderedLexer

open Json (Members Value)

/-! ## Locations -/

/-- The part of the input that a token covers. -/
structure Location where
  startOffset : Nat
  endOffset : Nat
  startLine : Nat
  endLine : Nat
  startColumn : Nat
  endColumn : Nat
  deriving DecidableEq, Repr

namespace Location

/-- The number of bytes covered; none if the end lies before the start. -/
def length? (l : Location) : Option Nat :=
  if l.endOffset < l.startOffset then none else some (l.endOffset - l.startOffset)

/-- Whether no byte is covered. -/
def isEmpty (l : Location) : Bool := l.startOffset == l.endOffset

/-- The location as text: lines and columns of its ends. -/
def describe (l : Location) : String :=
  l.startLine.repr ++ ":" ++ l.startColumn.repr ++ "-" ++ l.endLine.repr ++ ":" ++
    l.endColumn.repr

/-- An integer below a limit. -/
def readNat (limit : Nat) : Value → Option Nat
  | .num (.int (.ofNat n)) => if n < limit then some n else none
  | _ => none

/-- Offsets are below this number. -/
def offsetLimit : Nat := 0x10000000000000000

/-- Lines and columns are below this number. -/
def lineLimit : Nat := 0x100000000

/-- The members that hold a location. -/
def toMembers (l : Location) : List (String × Value) :=
  [("startOffset", .num (.int l.startOffset)), ("endOffset", .num (.int l.endOffset)),
    ("startLine", .num (.int l.startLine)), ("endLine", .num (.int l.endLine)),
    ("startColumn", .num (.int l.startColumn)), ("endColumn", .num (.int l.endColumn))]

/-- The location that members hold: all six fields, or no location. -/
def ofMembers? (ms : Members) : Option Location := do
  let startOffset ← (ms.get? "startOffset").bind (readNat offsetLimit)
  let endOffset ← (ms.get? "endOffset").bind (readNat offsetLimit)
  let startLine ← (ms.get? "startLine").bind (readNat lineLimit)
  let endLine ← (ms.get? "endLine").bind (readNat lineLimit)
  let startColumn ← (ms.get? "startColumn").bind (readNat lineLimit)
  let endColumn ← (ms.get? "endColumn").bind (readNat lineLimit)
  return { startOffset, endOffset, startLine, endLine, startColumn, endColumn }

end Location

/-! ## Tokens -/

/-- A token: its type, its value and, if locations are captured, where it stands. -/
structure Token where
  kind : String
  value : String
  loc : Option Location
  deriving DecidableEq, Repr

namespace Token

/-- The token as text. -/
def describe (t : Token) : String :=
  t.kind ++ " " ++ Text.quotedString t.value ++
    (match t.loc with
      | some l => " @ " ++ l.describe
      | none => "")

/-- The object that holds a token, its type first. -/
def toValue (t : Token) : Value :=
  .obj ([("type", .str t.kind), ("value", .str t.value)] ++
    (t.loc.map Location.toMembers).getD [])

/-- A member that is a string, if present. -/
def stringMember (name : String) (ms : Members) : Except Json.Error (Option String) :=
  match ms.get? name with
  | none => .ok none
  | some (.str s) => .ok (some s)
  | some v => .error (.wrongType v "a string")

/-- The token that an object holds.  A wrong value is reported before a missing one. -/
def ofValue : Value → Except Json.Error Token
  | .obj ms => do
    let kind? ← stringMember "type" ms
    let value? ← stringMember "value" ms
    match kind?, value? with
    | some kind, some value => return { kind, value, loc := Location.ofMembers? ms }
    | none, _ => throw (.missingField "type")
    | some _, none => throw (.missingField "value")
  | v => .error (.wrongType v "struct Token")

end Token

end OrderedLexer
