/-
  General categories as patterns know them.

  Patterns follow Unicode 16 and texts Unicode 17.  A character that came with the later version has
  no category here, and `ʕ` is the one other character whose category differs.
-/
import OrderedLexer.Pattern.Property.Age
import OrderedLexer.Text.Category

namespace OrderedLexer.Pattern

open Text (Category)

/-- The general category of a character. -/
def category (c : Char) : Category :=
  if !isKnown c then .unassigned
  else if c = 'ʕ' then .lowercaseLetter
  else Text.category c

/-- Whether the category of a character is one of some categories. -/
def inCategories (cs : List Category) (c : Char) : Bool := cs.contains (category c)

end OrderedLexer.Pattern
