/-
  What a written pattern means.

  `Node.ofAst` turns a tree into a node.  Flags hold from where they are set up to the end of the
  group around them, across bars, so the function takes the flags in force and returns those in
  force behind the tree.

  With the flag `u` off, a pattern still has to match whole characters only: it may not use
  properties, negated classes, the dot, or characters outside ASCII in a class.
-/
import OrderedLexer.Pattern.Builder
import OrderedLexer.Pattern.Node

namespace OrderedLexer.Pattern

/-! ## Flags -/

/-- The flags in force at a place of a pattern. -/
structure Flags where
  caseInsensitive : Bool := false
  multiLine : Bool := false
  dotAll : Bool := false
  swapGreed : Bool := false
  unicode : Bool := true
  crlf : Bool := false
  deriving DecidableEq, Repr

namespace Flags

/-- Switches a flag on or off.  Blanks were dropped when the pattern was read. -/
def set (f : Flags) : Flag × Bool → Flags
  | (.caseInsensitive, b) => { f with caseInsensitive := b }
  | (.multiLine, b) => { f with multiLine := b }
  | (.dotAll, b) => { f with dotAll := b }
  | (.swapGreed, b) => { f with swapGreed := b }
  | (.unicode, b) => { f with unicode := b }
  | (.crlf, b) => { f with crlf := b }
  | (.verbose, _) => f

/-- Switches flags on or off. -/
def apply (f : Flags) (changes : FlagChanges) : Flags := changes.foldl set f

/-- A set with the characters that differ in case only, if case is ignored. -/
def fold (f : Flags) (s : CharSet) : CharSet :=
  if !f.caseInsensitive then s else if f.unicode then .fold s else .foldAscii s

/-- The set of a character, with those that differ in case only if case is ignored. -/
def foldSingle (f : Flags) (c : Char) : CharSet :=
  if !f.caseInsensitive then .single c
  else .unions ((c :: if f.unicode then variants c else asciiVariants c).map .single)

/-- The complement of a set, if it is to be negated. -/
def negate (f : Flags) (negated : Bool) (s : CharSet) : Except Error CharSet :=
  if !negated then .ok s else if f.unicode then .ok (.compl s) else .error .notUtf8

end Flags

/-! ## Sets -/

/-- Ranges of characters, by their ends. -/
def ranges (rs : List (Char × Char)) : CharSet := .unions (rs.map fun r => .range r.1 r.2)

/-- The characters of an ASCII class. -/
def AsciiClass.set : AsciiClass → CharSet
  | .alnum => ranges [('0', '9'), ('A', 'Z'), ('a', 'z')]
  | .alpha => ranges [('A', 'Z'), ('a', 'z')]
  | .ascii => ranges [('\x00', '\x7f')]
  | .blank => ranges [('\t', '\t'), (' ', ' ')]
  | .cntrl => ranges [('\x00', '\x1f'), ('\x7f', '\x7f')]
  | .digit => ranges [('0', '9')]
  | .graph => ranges [('!', '~')]
  | .lower => ranges [('a', 'z')]
  | .print => ranges [(' ', '~')]
  | .punct => ranges [('!', '/'), (':', '@'), ('[', '\x60'), ('{', '~')]
  | .space => ranges [('\t', '\r'), (' ', ' ')]
  | .upper => ranges [('A', 'Z')]
  | .word => ranges [('0', '9'), ('A', 'Z'), ('_', '_'), ('a', 'z')]
  | .xdigit => ranges [('0', '9'), ('A', 'F'), ('a', 'f')]

/-- The characters of a shorthand. -/
def Shorthand.set (unicode : Bool) : Shorthand → CharSet
  | .digit => if unicode then .property (.category [.decimalNumber]) else AsciiClass.digit.set
  | .space => if unicode then .property (.binary .whiteSpace) else AsciiClass.space.set
  | .word => if unicode then .property .word else AsciiClass.word.set

/-- The property that is asked for. -/
def PropertyQuery.find? : PropertyQuery → Option Property
  | .name s => Property.named? s
  | .value s _ v => Property.valued? s v

/-- Whether the characters without the property are asked for. -/
def PropertyQuery.excludes : PropertyQuery → Bool
  | .name _ => false
  | .value _ equal _ => !equal

namespace Flags

/-- A set by a property. -/
def property (f : Flags) (negated : Bool) (q : PropertyQuery) : Except Error CharSet :=
  if !f.unicode then .error .notUnicode
  else match q.find? with
    | some p => f.negate (negated != q.excludes) (f.fold (.property p))
    | none => .error .propertyUnknown

/-- A set by a shorthand; it holds both cases of its letters already. -/
def shorthand (f : Flags) (negated : Bool) (s : Shorthand) : Except Error CharSet :=
  f.negate negated (s.set f.unicode)

/-- The characters between two ends, in a class. -/
def range (f : Flags) (lo hi : Char) : Except Error CharSet :=
  if !f.unicode && (0x80 ≤ lo.toNat || 0x80 ≤ hi.toNat) then .error .notUnicode
  else .ok (.range lo hi)

/-- The result of an operation. -/
def setOp (f : Flags) (o : SetOp) (a b : CharSet) : CharSet :=
  match o with
  | .inter => .inter (f.fold a) (f.fold b)
  | .diff => .diff (f.fold a) (f.fold b)
  | .symm => .symm (f.fold a) (f.fold b)

end Flags

mutual

/-- The characters of a class. -/
def CharSet.ofClass (f : Flags) : ClassSet → Except Error CharSet
  | .empty => .ok .none
  | .literal c => f.range c c
  | .range lo hi => f.range lo hi
  | .ascii negated k => f.negate negated (f.fold k.set)
  | .property negated q => f.property negated q
  | .shorthand negated s => f.shorthand negated s
  | .bracket negated s =>
    match CharSet.ofClass f s with
    | .ok a => f.negate negated (f.fold a)
    | .error e => .error e
  | .union ss => CharSet.ofClasses f ss
  | .op o a b =>
    match CharSet.ofClass f a, CharSet.ofClass f b with
    | .ok a, .ok b => .ok (f.setOp o a b)
    | .error e, _ => .error e
    | _, .error e => .error e

/-- The characters of some classes. -/
def CharSet.ofClasses (f : Flags) : List ClassSet → Except Error CharSet
  | [] => .ok .none
  | s :: ss =>
    match CharSet.ofClass f s, CharSet.ofClasses f ss with
    | .ok a, .ok b => .ok (.union a b)
    | .error e, _ => .error e
    | _, .error e => .error e

end

/-! ## Nodes -/

/-- What an assertion means. -/
def Assertion.look (f : Flags) : Assertion → Look
  | .lineStart => if f.multiLine then .lineStart f.crlf else .start
  | .lineStop => if f.multiLine then .lineStop f.crlf else .stop
  | .textStart => .start
  | .textStop => .stop
  | .word b => .word f.unicode b

/-- The characters that a dot stands for. -/
def Flags.dot (f : Flags) : CharSet :=
  if f.dotAll then .property .any
  else if f.crlf then .compl (ranges [('\n', '\n'), ('\r', '\r')])
  else .compl (.single '\n')

/-- What an atom means. -/
def Node.ofAtom (f : Flags) : Atom → Except Error Node
  | .literal c byte =>
    if !f.unicode && byte && 0x80 ≤ c.toNat then .error .notUtf8
    else .ok (.one (f.foldSingle c))
  | .dot => if f.unicode then .ok (.one f.dot) else .error .notUtf8
  | .look a => .ok (.look (a.look f))
  | .property negated q => (f.property negated q).map .one
  | .shorthand negated s => (f.shorthand negated s).map .one

mutual

/-- What a tree means under flags, and the flags behind it. -/
def Node.ofAst (f : Flags) : Ast → Except Error (Node × Flags)
  | .empty => .ok (.empty, f)
  | .flags changes => .ok (.empty, f.apply changes)
  | .atom a => (Node.ofAtom f a).map fun x => (x, f)
  | .bracket negated s =>
    match CharSet.ofClass f s with
    | .ok a => (f.negate negated (f.fold a)).map fun a => (.one a, f)
    | .error e => .error e
  | .times min max greedy x =>
    (Node.ofAst f x).map fun (x, f) => (.repeated min max (greedy != f.swapGreed) x, f)
  | .group (.plain changes) x => (Node.ofAst (f.apply changes) x).map fun (x, _) => (x, f)
  | .group _ x => (Node.ofAst f x).map fun (x, _) => (.group x, f)
  | .concat xs => (Node.ofAsts f xs).map fun (xs, f) => (.cats xs, f)
  | .alternate xs => (Node.ofAsts f xs).map fun (xs, f) => (.alts xs, f)

/-- What some trees mean, each under the flags behind the one before it. -/
def Node.ofAsts (f : Flags) : List Ast → Except Error (List Node × Flags)
  | [] => .ok ([], f)
  | x :: xs =>
    match Node.ofAst f x with
    | .error e => .error e
    | .ok (x, f) => (Node.ofAsts f xs).map fun (xs, f) => (x :: xs, f)

end

end OrderedLexer.Pattern
