/-
  Assertions about the place between two characters.

  `Look.holds` decides an assertion from the character before the place and the one after it; there
  is none before the start of the text and none after its end.
-/
import OrderedLexer.Pattern.CharSet

namespace OrderedLexer.Pattern

/-- How a place lies in or between words. -/
inductive Boundary where
  /-- Between a word and something else. -/
  | edge
  /-- Not between a word and something else. -/
  | inside
  /-- Before a word. -/
  | start
  /-- Behind a word. -/
  | stop
  /-- Not behind a character of a word. -/
  | startHalf
  /-- Not before a character of a word. -/
  | stopHalf
  deriving DecidableEq, Repr

/-- Whether a place lies as a boundary says, by whether characters of words stand before and after
    it. -/
def Boundary.holds : Boundary → Bool → Bool → Bool
  | .edge, before, after => before != after
  | .inside, before, after => before == after
  | .start, before, after => !before && after
  | .stop, before, after => before && !after
  | .startHalf, before, _ => !before
  | .stopHalf, _, after => !after

/-- An assertion. -/
inductive Look where
  /-- At the start of the text. -/
  | start
  /-- At the end of the text. -/
  | stop
  /-- At the start of a line; with `crlf`, a carriage return ends a line too. -/
  | lineStart (crlf : Bool)
  /-- At the end of a line. -/
  | lineStop (crlf : Bool)
  /-- At a boundary of words. -/
  | word (unicode : Bool) (b : Boundary)
  deriving DecidableEq, Repr

/-- Whether an assertion holds between two characters. -/
def Look.holds (prev next : Option Char) : Look → Bool
  | .start => prev.isNone
  | .stop => next.isNone
  | .lineStart false => prev.isNone || prev == some '\n'
  | .lineStart true =>
    prev.isNone || prev == some '\n' || (prev == some '\r' && next != some '\n')
  | .lineStop false => next.isNone || next == some '\n'
  | .lineStop true =>
    next.isNone || next == some '\r' || (next == some '\n' && prev != some '\r')
  | .word true b => b.holds (prev.any isWord) (next.any isWord)
  | .word false b => b.holds (prev.any isAsciiWord) (next.any isAsciiWord)

end OrderedLexer.Pattern
