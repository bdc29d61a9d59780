/-
  White space: the characters with the Unicode property White_Space, and what it separates.

  * `trim` drops white space at both ends of a text, `trimStart` at its start only;
  * `words` are the maximal parts without white space.
-/

namespace OrderedLexer.Text

/-- The Unicode property White_Space. -/
def isWhiteSpace (c : Char) : Bool :=
  let n := c.toNat
  (0x09 ≤ n && n ≤ 0x0D) || n == 0x20 || n == 0x85 || n == 0xA0 || n == 0x1680 ||
  (0x2000 ≤ n && n ≤ 0x200A) || n == 0x2028 || n == 0x2029 || n == 0x202F || n == 0x205F ||
  n == 0x3000

/-- A text without the white space at its start. -/
def trimStart (cs : List Char) : List Char := cs.dropWhile isWhiteSpace

/-- A text without the white space at its end. -/
def trimEnd (cs : List Char) : List Char := (cs.reverse.dropWhile isWhiteSpace).reverse

/-- A text without the white space at its ends. -/
def trim (cs : List Char) : List Char := trimEnd (trimStart cs)

/-- A string without the white space at its ends. -/
def trimString (s : String) : String := String.ofList (trim s.toList)

/-- The maximal parts of a text that hold no white space. -/
def words (cs : List Char) : List (List Char) :=
  (cs.splitOnP isWhiteSpace).filter (!·.isEmpty)

theorem isWhiteSpace_space : isWhiteSpace ' ' = true := by decide

theorem isWhiteSpace_newline : isWhiteSpace '\n' = true := by decide

end OrderedLexer.Text
