/-
  Building the tree of a pattern from its items.

  A `Builder` holds what was read so far: the branches and parts of the innermost group, the groups
  around it, and the classes that are open.  `Builder.step` adds an item, and `Ast.parse` reads a
  whole pattern.
-/
import OrderedLexer.Pattern.Item

namespace OrderedLexer.Pattern

/-! ## Levels -/

/-- The inside of a group, as far as it was read.  Both lists have their last element first. -/
structure Level where
  /-- The branches before the last bar. -/
  branches : List Ast := []
  /-- The parts behind the last bar. -/
  parts : List Ast := []

namespace Level

/-- Adds a part. -/
def push (l : Level) (x : Ast) : Level := { l with parts := x :: l.parts }

/-- The parts, one after the other. -/
def branch (l : Level) : Ast :=
  match l.parts with
  | [] => .empty
  | [x] => x
  | parts => .concat parts.reverse

/-- Ends a branch. -/
def bar (l : Level) : Level := { branches := l.branch :: l.branches, parts := [] }

/-- The whole level. -/
def ast (l : Level) : Ast :=
  match l.branches with
  | [] => l.branch
  | branches => .alternate (l.branch :: branches).reverse

/-- Repeats the last part.  Flags cannot be repeated. -/
def times (l : Level) (min : Nat) (max : Option Nat) (greedy : Bool) : Except Error Level :=
  match l.parts with
  | [] | .empty :: _ | .flags _ :: _ => .error .repetitionMissing
  | x :: parts => .ok { l with parts := .times min max greedy x :: parts }

end Level

/-- The inside of a class, as far as it was read. -/
structure ClassLevel where
  negated : Bool
  /-- The items behind the last operator, the last one first. -/
  items : List ClassSet
  /-- The last operator, and what stands before it. -/
  before : Option (SetOp × ClassSet) := none

namespace ClassLevel

/-- Adds an item. -/
def push (l : ClassLevel) (s : ClassSet) : ClassLevel := { l with items := s :: l.items }

/-- The items behind the last operator. -/
def operand (l : ClassLevel) : ClassSet :=
  match l.items with
  | [] => .empty
  | [s] => s
  | items => .union items.reverse

/-- The whole class; operators associate to the left. -/
def set (l : ClassLevel) : ClassSet :=
  match l.before with
  | none => l.operand
  | some (o, a) => .op o a l.operand

/-- Adds an operator. -/
def setOp (l : ClassLevel) (o : SetOp) : ClassLevel :=
  { l with items := [], before := some (o, l.set) }

end ClassLevel

/-! ## Builders -/

/-- A pattern, as far as it was read. -/
structure Builder where
  level : Level := {}
  /-- The groups around the level, the innermost one first. -/
  outer : List (GroupKind × Level) := []
  /-- The open classes, the innermost one first. -/
  classes : List ClassLevel := []
  /-- The names of groups. -/
  names : List String := []

namespace Builder

/-- Adds a part to the innermost group. -/
def push (b : Builder) (x : Ast) : Builder := { b with level := b.level.push x }

/-- Opens a group. -/
def openGroup (b : Builder) (k : GroupKind) : Builder :=
  { b with level := {}, outer := (k, b.level) :: b.outer }

/-- Closes the innermost group. -/
def closeGroup (b : Builder) : Except Error Builder :=
  match b.outer with
  | [] => .error .groupUnopened
  | (k, l) :: outer => .ok { b with level := l.push (.group k b.level.ast), outer }

/-- Closes the innermost class. -/
def closeClass (b : Builder) : Except Error Builder :=
  match b.classes with
  | [] => .error .classUnclosed
  | [c] => .ok { b with level := b.level.push (.bracket c.negated c.set), classes := [] }
  | c :: d :: classes => .ok { b with classes := d.push (.bracket c.negated c.set) :: classes }

/-- Changes the innermost class. -/
def inClass (b : Builder) (f : ClassLevel → ClassLevel) : Except Error Builder :=
  match b.classes with
  | [] => .error .classUnclosed
  | c :: classes => .ok { b with classes := f c :: classes }

/-- Adds an item. -/
def step (b : Builder) : Item → Except Error Builder
  | .atom a => .ok (b.push (.atom a))
  | .bar => .ok { b with level := b.level.bar }
  | .flags changes => .ok (b.push (.flags changes))
  | .times min max greedy => (b.level.times min max greedy).map fun level => { b with level }
  | .openGroup (.named name) =>
    if b.names.contains name then .error .groupNameRepeated
    else .ok { b.openGroup (.named name) with names := name :: b.names }
  | .openGroup k => .ok (b.openGroup k)
  | .closeGroup => b.closeGroup
  | .openClass negated leading =>
    .ok { b with classes := ⟨negated, (leading.map .literal).reverse, none⟩ :: b.classes }
  | .closeClass => b.closeClass
  | .setOp o => b.inClass (·.setOp o)
  | .member s => b.inClass (·.push s)
  | .comment _ => .ok b

/-- Adds items. -/
def steps (b : Builder) : List Item → Except Error Builder
  | [] => .ok b
  | i :: is =>
    match b.step i with
    | .ok b => b.steps is
    | .error e => .error e

/-- The tree of a pattern that was read to its end. -/
def finish (b : Builder) : Except Error Ast :=
  match b.classes, b.outer with
  | _ :: _, _ => .error .classUnclosed
  | [], _ :: _ => .error .groupUnclosed
  | [], [] => if b.level.ast.depth ≤ maxDepth then .ok b.level.ast else .error .tooDeep

end Builder

/-- The tree of some items. -/
def Ast.ofItems (is : List Item) : Except Error Ast :=
  match ({} : Builder).steps is with
  | .ok b => b.finish
  | .error e => .error e

/-- The tree of a pattern. -/
def Ast.parse (cs : List Char) : Except Error Ast :=
  match items {} cs with
  | .ok is => Ast.ofItems is
  | .error e => .error e

/-- Whether items end in a comment whose line is not ended. -/
def commentAtEnd (is : List Item) : Bool :=
  match is.getLast? with
  | some (.comment false) => true
  | _ => false

/-- Whether a pattern is well formed and ends in a comment whose line is not ended. -/
def endsInComment (cs : List Char) : Bool :=
  match items {} cs with
  | .ok is => commentAtEnd is && (Ast.ofItems is).isOk
  | .error _ => false

end OrderedLexer.Pattern
