/-
  Patterns that match at the start of a text only.

  A pattern is anchored if it is, as a whole, `\A` followed by one group that changes no flags.
  `anchor` wraps any other pattern in that way; the group keeps bars and flags of the pattern
  inside, and a comment at its end is closed first.
-/
import OrderedLexer.Pattern.Builder

namespace OrderedLexer.Pattern

/-- Whether a tree is `\A` followed by a group that changes no flags. -/
def Ast.isAnchored : Ast → Bool
  | .concat [.atom (.look .textStart), .group (.plain []) _] => true
  | _ => false

/-- Whether a pattern is anchored. -/
def isAnchored (cs : List Char) : Bool :=
  match Ast.parse cs with
  | .ok x => x.isAnchored
  | .error _ => false

/-- What opens the wrapper of a pattern. -/
def anchorOpen : List Char := ['\\', 'A', '(', '?', ':']

/-- What closes the wrapper of a pattern. -/
def anchorClose (cs : List Char) : List Char := if endsInComment cs then ['\n', ')'] else [')']

/-- The anchored form of a pattern. -/
def anchor (cs : List Char) : List Char :=
  if isAnchored cs then cs else anchorOpen ++ cs ++ anchorClose cs

/-- The anchored form of a pattern. -/
def anchorString (s : String) : String := String.ofList (anchor s.toList)

end OrderedLexer.Pattern
