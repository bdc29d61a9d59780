/-
  Specs: ordered lists of rules, with options.

  A `Draft` is a spec as it is given, with the texts of its patterns: a bare list of rules, or a
  record of rules and options.  `Spec.normalize` anchors and compiles every pattern and keeps the
  order, which decides between rules that match at the same place.
-/
import OrderedLexer.Handler
import OrderedLexer.Options
import OrderedLexer.Pattern.Anchor
import OrderedLexer.Regex

namespace OrderedLexer

/-! ## Drafts -/

/-- A rule as it is given: the text of its pattern, and its handler. -/
structure DraftRule where
  pattern : String
  handler : Handler

/-- A spec as it is given. -/
inductive Draft where
  /-- A bare list of rules. -/
  | bare (rules : List DraftRule)
  /-- Rules and options. -/
  | record (rules : List DraftRule) (options : Options)

namespace Draft

/-- The rules of a draft. -/
def rules : Draft → List DraftRule
  | .bare rules | .record rules _ => rules

/-- The options of a draft; a bare list has none. -/
def options : Draft → Options
  | .bare _ => {}
  | .record _ options => options

end Draft

/-! ## Specs -/

/-- A rule: an anchored pattern and its handler. -/
structure Rule where
  regex : Regex
  handler : Handler

/-- A spec. -/
structure Spec where
  rules : List Rule
  options : Options

/-- A rule whose pattern is not one. -/
structure InvalidPattern where
  index : Nat
  /-- The pattern as it is given. -/
  pattern : String
  cause : Pattern.Error
  deriving DecidableEq, Repr

namespace InvalidPattern

/-- Which pattern is invalid. -/
def headline (e : InvalidPattern) : String :=
  "rule " ++ e.index.repr ++ ": invalid pattern `" ++ e.pattern ++ "`"

/-- Which pattern is invalid, and why. -/
def message (e : InvalidPattern) : String :=
  e.headline ++ (if e.cause = .tooLarge then ": " else ": regex parse error: ") ++ e.cause.message

end InvalidPattern

namespace DraftRule

/-- The rule that a draft at an index stands for. -/
def compile (index : Nat) (d : DraftRule) : Except InvalidPattern Rule :=
  match Regex.compile (Pattern.anchorString d.pattern) with
  | .ok regex => .ok ⟨regex, d.handler⟩
  | .error cause => .error ⟨index, d.pattern, cause⟩

/-- The rules that drafts stand for; the first of them has the given index. -/
def compileAll (index : Nat) : List DraftRule → Except InvalidPattern (List Rule)
  | [] => .ok []
  | d :: ds =>
    match d.compile index with
    | .error e => .error e
    | .ok r =>
      match compileAll (index + 1) ds with
      | .error e => .error e
      | .ok rs => .ok (r :: rs)

end DraftRule

/-- The spec that a draft stands for. -/
def Spec.normalize (d : Draft) : Except InvalidPattern Spec :=
  match DraftRule.compileAll 0 d.rules with
  | .ok rules => .ok ⟨rules, d.options⟩
  | .error e => .error e

end OrderedLexer
