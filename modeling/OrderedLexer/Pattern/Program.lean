/-
  Programs: patterns as steps with addresses.

  A step takes a character, tests an assertion or forks, and leads on to other steps by their
  addresses.  `Program.ofNode` writes the steps of a node from its end to its start, so that each
  step is written when the address behind it is known; the step at which a loop closes is put in
  later.  Repetitions with bounds are written out.
-/
import OrderedLexer.Pattern.Node

namespace OrderedLexer.Pattern

/-- A step of a program. -/
inductive Step where
  /-- A match was found. -/
  | accept
  /-- Takes a character of a set. -/
  | one (s : CharSet) (next : Nat)
  /-- Goes on where an assertion holds. -/
  | look (l : Look) (next : Nat)
  /-- Goes on in two ways, the first one preferred. -/
  | fork (first second : Nat)
  deriving DecidableEq, Repr

namespace Step

/-- Goes on with another round, or leads out of a repetition. -/
def round (greedy : Bool) (body out : Nat) : Step :=
  if greedy then .fork body out else .fork out body

end Step

/-! ## Code -/

/-- Steps, with their places for addresses. -/
abbrev Code := Array Step

/-- Adds the steps of a part before the step at an address, and gives the address where the part
    starts. -/
abbrev Writer := Nat → Code → Nat × Code

namespace Writer

/-- Adds one step. -/
def step (s : Step) (code : Code) : Nat × Code := (code.size, code.push s)

/-- A part some times in a row. -/
def times (w : Writer) : Nat → Writer
  | 0, next, code => (next, code)
  | n + 1, next, code =>
    let (entry, code) := w next code
    times w n entry code

/-- A part at most some times, before what starts at `next`.  Each round can lead to `out`. -/
def optional (w : Writer) (greedy : Bool) (out : Nat) : Nat → Writer
  | 0, next, code => (next, code)
  | n + 1, next, code =>
    let (body, code) := w next code
    let (entry, code) := step (.round greedy body out) code
    optional w greedy out n entry code

/-- A part with a step behind it that can lead into another round.  Gives the address of the part,
    that of the step, and the code. -/
def loop (w : Writer) (greedy : Bool) (next : Nat) (code : Code) : Nat × Nat × Code :=
  let back := code.size
  let (body, code) := w back (code.push .accept)
  (body, back, code.set! back (.round greedy body next))

end Writer

/-- Adds the steps of a node. -/
def Node.write : Node → Writer
  | .empty, next, code => (next, code)
  | .one s, next, code => Writer.step (.one s next) code
  | .look l, next, code => Writer.step (.look l next) code
  | .group x, next, code => x.write next code
  | .cat a b, next, code =>
    let (entry, code) := b.write next code
    a.write entry code
  | .alt a b, next, code =>
    let (first, code) := a.write next code
    let (second, code) := b.write next code
    Writer.step (.fork first second) code
  | .rep min (some max) greedy x, next, code =>
    let (entry, code) := Writer.optional x.write greedy next (max - min) next code
    Writer.times x.write min entry code
  | .rep 0 none greedy x, next, code =>
    let (body, back, code) := Writer.loop x.write greedy next code
    -- a round that takes no character must not be confused with the way into the first one
    if x.nullable then Writer.step (.round greedy body next) code else (back, code)
  | .rep (n + 1) none greedy x, next, code =>
    let (body, _, code) := Writer.loop x.write greedy next code
    Writer.times x.write n body code

/-- A pattern as steps. -/
structure Program where
  code : Code
  /-- The address of the first step. -/
  start : Nat
  deriving DecidableEq, Repr

namespace Program

/-- The step at an address. -/
def at_ (p : Program) (n : Nat) : Step := p.code.getD n .accept

/-- The program of a node. -/
def ofNode (x : Node) : Program :=
  let (start, code) := x.write 0 #[.accept]
  ⟨code, start⟩

end Program

end OrderedLexer.Pattern
