/-
  Lines of a text, and its size in bytes.

  * `splitLines` cuts a text at every newline: one part more than there are newlines;
  * `lastLine` is what stands behind the last newline;
  * `lines` are the lines of a file: a newline ends a line, a carriage return just before it
    belongs to the end, and nothing follows the last newline;
  * `byteSize` is the length of the UTF-8 encoding.
-/

namespace OrderedLexer.Text

/-- The number of bytes of the UTF-8 encoding. -/
def byteSize : List Char → Nat
  | [] => 0
  | c :: cs => c.utf8Size + byteSize cs

@[simp]
theorem byteSize_nil : byteSize [] = 0 := rfl

@[simp]
theorem byteSize_cons (c : Char) (cs : List Char) :
    byteSize (c :: cs) = c.utf8Size + byteSize cs := rfl

@[simp]
theorem byteSize_append (a b : List Char) : byteSize (a ++ b) = byteSize a + byteSize b := by
  induction a with
  | nil => simp
  | cons c a ih => simp [ih, Nat.add_assoc]

/-- The parts of a text between its newlines. -/
def splitLines (cs : List Char) : List (List Char) := cs.splitOn '\n'

/-- The part of a text behind its last newline; the whole text if it has none. -/
def lastLine (cs : List Char) : List Char := (cs.reverse.takeWhile (· != '\n')).reverse

/-- A text without one carriage return at its end. -/
def dropReturn (cs : List Char) : List Char :=
  if cs.getLast? = some '\r' then cs.dropLast else cs

/-- Drops a carriage return at the end of every part but the last, and drops the last part
    itself if it is empty. -/
def closeLines : List (List Char) → List (List Char)
  | [] => []
  | [last] => if last.isEmpty then [] else [last]
  | line :: rest => dropReturn line :: closeLines rest

/-- The lines of a text. -/
def lines (cs : List Char) : List (List Char) := closeLines (splitLines cs)

end OrderedLexer.Text
