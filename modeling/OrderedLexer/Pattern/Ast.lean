/-
  Patterns as they are written.

  An `Ast` keeps the groups, flags and lists of the text; `Ast.depth` is the number of levels that
  it nests, and a pattern may nest `maxDepth` of them.  `Error` lists what can be wrong with a
  pattern.
-/
import OrderedLexer.Pattern.Look

namespace OrderedLexer.Pattern

/-! ## Errors -/

/-- What is wrong with a pattern. -/
inductive Error where
  | escapeAtEnd | escapeUnknown | backreference
  | hexInvalid | hexEmpty
  | propertyInvalid | propertyUnknown
  | boundaryUnknown
  | classUnclosed | classRangeInvalid | classEscapeInvalid
  | countUnclosed | countEmpty | countInvalid
  | repetitionMissing
  | groupUnopened | groupUnclosed | groupNameInvalid | groupNameRepeated
  | flagUnknown | flagRepeated | flagNegation | flagsUnclosed
  | lookAround
  | tooDeep
  | notUnicode | notUtf8
  | tooLarge
  deriving DecidableEq, Repr

/-- The wording of an error. -/
def Error.message : Error → String
  | .escapeAtEnd => "incomplete escape sequence"
  | .escapeUnknown => "unrecognized escape sequence"
  | .backreference => "backreferences are not supported"
  | .hexInvalid => "invalid hexadecimal escape"
  | .hexEmpty => "empty hexadecimal escape"
  | .propertyInvalid => "invalid character property"
  | .propertyUnknown => "unknown character property"
  | .boundaryUnknown => "unknown word boundary"
  | .classUnclosed => "unclosed character class"
  | .classRangeInvalid => "invalid character class range"
  | .classEscapeInvalid => "invalid escape sequence in a character class"
  | .countUnclosed => "unclosed counted repetition"
  | .countEmpty => "repetition without a count"
  | .countInvalid => "invalid repetition count"
  | .repetitionMissing => "repetition operator without an expression"
  | .groupUnopened => "unopened group"
  | .groupUnclosed => "unclosed group"
  | .groupNameInvalid => "invalid group name"
  | .groupNameRepeated => "repeated group name"
  | .flagUnknown => "unrecognized flag"
  | .flagRepeated => "repeated flag"
  | .flagNegation => "misplaced flag negation"
  | .flagsUnclosed => "unclosed flags"
  | .lookAround => "look-around is not supported"
  | .tooDeep => "nesting is too deep"
  | .notUnicode => "Unicode is not allowed here"
  | .notUtf8 => "pattern can match invalid UTF-8"
  | .tooLarge => "Compiled regex exceeds size limit of 10485760 bytes."

/-! ## Parts of patterns -/

/-- A flag that changes how a pattern is read. -/
inductive Flag where
  | caseInsensitive | multiLine | dotAll | swapGreed | unicode | crlf | verbose
  deriving DecidableEq, Repr

/-- Flags that are switched on or off. -/
abbrev FlagChanges := List (Flag × Bool)

/-- An assertion as it is written; flags decide what it means. -/
inductive Assertion where
  | lineStart | lineStop | textStart | textStop
  | word (b : Boundary)
  deriving DecidableEq, Repr

/-- A class of characters with a letter of its own. -/
inductive Shorthand where
  | digit | space | word
  deriving DecidableEq, Repr

/-- How a property is named. -/
inductive PropertyQuery where
  | name (s : String)
  /-- By a name and a value; unless `equal`, the characters with another value are meant. -/
  | value (name : String) (equal : Bool) (value : String)
  deriving DecidableEq, Repr

/-- A pattern without parts. -/
inductive Atom where
  /-- A character; `byte` if it is written as two hexadecimal digits. -/
  | literal (c : Char) (byte : Bool)
  /-- Any character of a line. -/
  | dot
  | look (a : Assertion)
  | property (negated : Bool) (q : PropertyQuery)
  | shorthand (negated : Bool) (s : Shorthand)
  deriving DecidableEq, Repr

/-- A named class of ASCII characters. -/
inductive AsciiClass where
  | alnum | alpha | ascii | blank | cntrl | digit | graph | lower | print | punct | space | upper
  | word | xdigit
  deriving DecidableEq, Repr

/-- An operation on sets. -/
inductive SetOp where
  | inter | diff | symm
  deriving DecidableEq, Repr

/-- The inside of a bracketed class. -/
inductive ClassSet where
  | empty
  | literal (c : Char)
  | range (lo hi : Char)
  | ascii (negated : Bool) (k : AsciiClass)
  | property (negated : Bool) (q : PropertyQuery)
  | shorthand (negated : Bool) (s : Shorthand)
  | bracket (negated : Bool) (s : ClassSet)
  /-- Two or more items. -/
  | union (items : List ClassSet)
  | op (o : SetOp) (a b : ClassSet)
  deriving Repr

/-- A kind of group. -/
inductive GroupKind where
  | capture
  | named (name : String)
  /-- A group that only changes flags, or nothing. -/
  | plain (changes : FlagChanges)
  deriving DecidableEq, Repr

/-- A pattern. -/
inductive Ast where
  | empty
  | flags (changes : FlagChanges)
  | atom (a : Atom)
  | bracket (negated : Bool) (s : ClassSet)
  | times (min : Nat) (max : Option Nat) (greedy : Bool) (x : Ast)
  | group (k : GroupKind) (x : Ast)
  /-- Two or more patterns, one after the other. -/
  | concat (xs : List Ast)
  /-- Two or more patterns to choose from. -/
  | alternate (xs : List Ast)
  deriving Repr

/-! ## Nesting -/

mutual

/-- The levels that a class nests. -/
def ClassSet.depth : ClassSet → Nat
  | .bracket _ s => s.depth + 1
  | .union items => ClassSet.depths items + 1
  | .op _ a b => max a.depth b.depth + 1
  | _ => 0

/-- The most levels that one of some classes nests. -/
def ClassSet.depths : List ClassSet → Nat
  | [] => 0
  | s :: ss => max s.depth (ClassSet.depths ss)

end

mutual

/-- The levels that a pattern nests. -/
def Ast.depth : Ast → Nat
  | .empty | .flags _ | .atom _ => 0
  | .bracket _ s => s.depth + 1
  | .times _ _ _ x => x.depth + 1
  | .group _ x => x.depth + 1
  | .concat xs => Ast.depths xs + 1
  | .alternate xs => Ast.depths xs + 1

/-- The most levels that one of some patterns nests. -/
def Ast.depths : List Ast → Nat
  | [] => 0
  | x :: xs => max x.depth (Ast.depths xs)

end

/-- The levels that a pattern may nest. -/
def maxDepth : Nat := 250

end OrderedLexer.Pattern
