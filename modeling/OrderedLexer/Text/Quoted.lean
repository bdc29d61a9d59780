/-
  Text in double quotes, as it is shown in diagnostics.

  `quoted` escapes quotes, backslashes and a few control characters by a letter, and every other
  character without a printed form, or a mark that would join the character before it, by its code
  point in braces.
-/
import OrderedLexer.Text.Category
import OrderedLexer.Text.Property

namespace OrderedLexer.Text

/-- Whether a character is a mark that joins the character before it. -/
def isJoined (c : Char) : Bool := isGraphemeExtend c && isMark c

/-- One character between double quotes. -/
def quotedChar (c : Char) : List Char :=
  if c = Char.ofNat 0 then ['\\', '0']
  else if c = '\t' then ['\\', 't']
  else if c = '\r' then ['\\', 'r']
  else if c = '\n' then ['\\', 'n']
  else if c = '"' then ['\\', '"']
  else if c = '\\' then ['\\', '\\']
  else if isJoined c || !isPrintable c then
    ['\\', 'u', '{'] ++ toHex c.toNat ++ ['}']
  else [c]

/-- A text in double quotes. -/
def quoted (cs : List Char) : List Char := '"' :: (cs.flatMap quotedChar ++ ['"'])

/-- A string in double quotes. -/
def quotedString (s : String) : String := String.ofList (quoted s.toList)

end OrderedLexer.Text
