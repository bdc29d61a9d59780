/-
  Positions in an input.

  A position counts bytes, lines from 1, and characters of the line from 0, and knows where its
  line starts.  `Position.advance` moves it behind some characters.  Lines and columns are counted
  in words of 32 bits: sums of words wrap around, and `charCount` stops at the greatest word.
-/
import OrderedLexer.Text.Lines
import OrderedLexer.Token

namespace OrderedLexer

/-- A position in an input. -/
structure Position where
  /-- The number of bytes before it. -/
  offset : Nat
  /-- The number of its line, from 1, as a word. -/
  lineWord : UInt32
  /-- The number of characters before it on its line, as a word. -/
  columnWord : UInt32
  /-- The number of bytes before its line. -/
  lineStart : Nat
  deriving DecidableEq, Repr

namespace Position

/-- The number of the line, from 1. -/
def line (p : Position) : Nat := p.lineWord.toNat

/-- The number of characters before the position on its line. -/
def column (p : Position) : Nat := p.columnWord.toNat

/-- The position of the first character. -/
def start : Position := ⟨0, 1, 0, 0⟩

/-- The number of characters of a text, or the greatest word if it is greater. -/
def charCount (cs : List Char) : UInt32 := UInt32.ofNatClamp cs.length

/-- Counts the newlines of a text that stands at an offset, and goes to the line behind the last
    one. -/
def passNewlines (p : Position) (offset : Nat) : List Char → Position
  | [] => p
  | c :: cs =>
    let offset := offset + c.utf8Size
    if c = '\n' then passNewlines { p with lineWord := p.lineWord + 1, lineStart := offset } offset cs
    else passNewlines p offset cs

/-- The position behind some characters.  If there is a newline among them, the column starts
    again behind the last one. -/
def advance (p : Position) (cs : List Char) : Position :=
  { p.passNewlines p.offset cs with
    offset := p.offset + Text.byteSize cs
    columnWord :=
      if cs.contains '\n' then charCount (Text.lastLine cs) else p.columnWord + charCount cs }

/-- The location between two positions. -/
def span (p q : Position) : Location where
  startOffset := p.offset
  endOffset := q.offset
  startLine := p.line
  endLine := q.line
  startColumn := p.column
  endColumn := q.column

@[simp]
theorem offset_advance (p : Position) (cs : List Char) :
    (p.advance cs).offset = p.offset + Text.byteSize cs := rfl

end Position

end OrderedLexer
