/-
  Patterns as trees of choices.

  A node matches a part of a text.  Where it can match several parts it prefers some to others: a
  choice prefers its first branch, a greedy repetition prefers to go on, and a lazy one prefers to
  stop.  A search finds the preferred match.
-/
import OrderedLexer.Pattern.Look

namespace OrderedLexer.Pattern

/-- A pattern. -/
inductive Node where
  /-- The empty text. -/
  | empty
  /-- One character of a set. -/
  | one (s : CharSet)
  /-- The empty text where an assertion holds. -/
  | look (l : Look)
  /-- A pattern whose match could be asked for. -/
  | group (x : Node)
  /-- One pattern after the other. -/
  | cat (a b : Node)
  /-- One pattern or the other, the first one preferred. -/
  | alt (a b : Node)
  /-- A pattern from `min` up to `max` times, or without an upper bound. -/
  | rep (min : Nat) (max : Option Nat) (greedy : Bool) (x : Node)
  deriving DecidableEq, Repr

namespace Node

/-- Whether a node can match without taking a character, assertions taken to hold. -/
def nullable : Node → Bool
  | .empty | .look _ => true
  | .one _ => false
  | .group x => x.nullable
  | .cat a b => a.nullable && b.nullable
  | .alt a b => a.nullable || b.nullable
  | .rep min _ _ x => min = 0 || x.nullable

/-- Whether a node never takes a character. -/
def vanishing : Node → Bool
  | .empty | .look _ => true
  | .one _ => false
  | .group x => x.vanishing
  | .cat a b | .alt a b => a.vanishing && b.vanishing
  | .rep _ max _ x => max = some 0 || x.vanishing

/-- A repetition.  What never takes a character is repeated at most once: more often makes no
    difference. -/
def repeated (min : Nat) (max : Option Nat) (greedy : Bool) (x : Node) : Node :=
  if x.vanishing then .rep (Nat.min min 1) (some (Nat.min (max.getD 1) 1)) greedy x
  else .rep min max greedy x

/-- Some nodes, one after the other. -/
def cats : List Node → Node
  | [] => .empty
  | [x] => x
  | x :: xs => .cat x (cats xs)

/-- Some nodes to choose from, the first one preferred. -/
def choices : List Node → Node
  | [] => .one .none
  | [x] => x
  | x :: xs => .alt x (choices xs)

/-- The set of a node that is one character. -/
def set? : Node → Option CharSet
  | .one s => some s
  | _ => none

/-- Some nodes to choose from, the first one preferred.  A choice of characters, or of proper sets
    of them, is one set. -/
def alts (xs : List Node) : Node :=
  match xs.mapM set? with
  | some (s :: t :: ss) =>
    if ss.all (·.isSingle == s.isSingle) && t.isSingle == s.isSingle then
      .one (.unions (s :: t :: ss))
    else choices xs
  | _ => choices xs

end Node

end OrderedLexer.Pattern
