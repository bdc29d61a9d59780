/-
  Properties of characters, as patterns name them.

  `Property.named?` finds the property that a name stands for and `Property.valued?` the one that a
  name and a value stand for; `Property.contains` decides a property.  Names are compared without
  case, blanks, underscores and hyphens, and without a leading `is` (`normalName`).
-/
import OrderedLexer.Pattern.Property.Binary
import OrderedLexer.Pattern.Property.Break

namespace OrderedLexer.Pattern

open Text (Category)

/-- A property of characters. -/
inductive Property where
  | any | ascii | assigned
  | category (cs : List Category)
  | script (code : String)
  /-- Characters that are used with a script. -/
  | scriptExtension (code : String)
  /-- Characters that were assigned in a version or before it. -/
  | age (v : Version)
  | graphemeBreak (b : GraphemeBreak)
  | wordBreak (b : WordBreak)
  | sentenceBreak (b : SentenceBreak)
  | binary (p : Binary)
  /-- Characters of words. -/
  | word
  deriving DecidableEq, Repr

namespace Property

/-- Whether a character has a property. -/
def contains : Property → Char → Bool
  | .any, _ => true
  | .ascii, c => c.toNat < 0x80
  | .assigned, c => !inCategories [.unassigned] c
  | .category cs, c => inCategories cs c
  | .script code, c => Pattern.script c == code
  | .scriptExtension code, c => (scriptExtensions c).contains code
  | .age v, c => (age? c).any (·.le v)
  | .graphemeBreak b, c => graphemeBreak? c == some b
  | .wordBreak b, c => wordBreak? c == some b
  | .sentenceBreak b, c => sentenceBreak? c == some b
  | .binary p, c => p.contains c
  | .word, c => isWord c

/-! ## Names -/

/-- Characters that separate the words of a name. -/
def isSeparator (c : Char) : Bool := c = ' ' || c = '_' || c = '-'

/-- A name without what does not count in it. -/
def normalName (s : String) : String :=
  let lower (cs : List Char) : List Char :=
    ((cs.filter fun c => !isSeparator c && c.toNat < 0x80).map Char.toLower)
  match s.toList with
  | 'i' :: 's' :: r | 'i' :: 'S' :: r | 'I' :: 's' :: r | 'I' :: 'S' :: r =>
    -- `isc` is the name of a property of its own
    if lower r = ['c'] then "isc" else String.ofList (lower r)
  | cs => String.ofList (lower cs)

/-- The category, or set of categories, with a normal name. -/
def categoryNamed? (name : String) : Option Property :=
  if name = "any" then some .any
  else if name = "assigned" then some .assigned
  else if name = "ascii" then some .ascii
  else (Category.named? name).map .category

/-- The property with a name: one that a character has or has not, a category or a script. -/
def named? (s : String) : Option Property :=
  let name := normalName s
  (((Binary.named? name).map .binary).or (categoryNamed? name)).or
    ((scriptNamed? name).map .script)

/-- The property with a name and a value. -/
def valued? (s value : String) : Option Property :=
  let value := normalName value
  match normalName s with
  | "gc" | "generalcategory" => categoryNamed? value
  | "sc" | "script" => (scriptNamed? value).map .script
  | "scx" | "scriptextensions" => (scriptNamed? value).map .scriptExtension
  | "age" => (Version.named? value).map .age
  | "gcb" | "graphemeclusterbreak" => (GraphemeBreak.named? value).map .graphemeBreak
  | "wb" | "wordbreak" => (WordBreak.named? value).map .wordBreak
  | "sb" | "sentencebreak" => (SentenceBreak.named? value).map .sentenceBreak
  | _ => none

end Property

end OrderedLexer.Pattern
