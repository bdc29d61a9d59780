/-
  Properties that follow from others.

  Each test is the rule by which Unicode derives the property, over categories, listed sets and
  case mappings.
-/
import OrderedLexer.Pattern.Property.Category
import OrderedLexer.Pattern.Property.Listed
import OrderedLexer.Text.Casing
import OrderedLexer.Text.WhiteSpace

namespace OrderedLexer.Pattern

open Text (isAsciiLetter isAsciiDigit)

/-! ## Letters -/

/-- The property Lowercase. -/
def isLowercase (c : Char) : Bool :=
  inCategories [.lowercaseLetter] c || Listed.otherLowercase.contains c

/-- The property Uppercase. -/
def isUppercase (c : Char) : Bool :=
  inCategories [.uppercaseLetter] c || Listed.otherUppercase.contains c

/-- The property Cased. -/
def isCased (c : Char) : Bool :=
  isLowercase c || isUppercase c || inCategories [.titlecaseLetter] c

/-- The property Alphabetic. -/
def isAlphabetic (c : Char) : Bool :=
  if c.toNat < 0x80 then isAsciiLetter c
  else inCategories [.uppercaseLetter, .lowercaseLetter, .titlecaseLetter, .modifierLetter,
      .otherLetter, .letterNumber] c ||
    Listed.otherAlphabetic.contains c || Listed.otherLowercase.contains c ||
    Listed.otherUppercase.contains c

/-- The property Math. -/
def isMath (c : Char) : Bool := inCategories [.mathSymbol] c || Listed.otherMath.contains c

/-! ## Characters that join others -/

/-- The property Join_Control. -/
def isJoinControl (c : Char) : Bool := c.toNat = 0x200c || c.toNat = 0x200d

/-- The property Grapheme_Extend. -/
def isGraphemeExtend (c : Char) : Bool :=
  inCategories [.nonspacingMark, .enclosingMark] c || Listed.otherGraphemeExtend.contains c

/-- The property Grapheme_Base. -/
def isGraphemeBase (c : Char) : Bool :=
  !inCategories [.control, .format, .surrogate, .privateUse, .unassigned, .lineSeparator,
    .paragraphSeparator] c && !isGraphemeExtend c

/-- Format characters that have a printed form: marks of annotations and joiners of
    hieroglyphs. -/
def shownFormats : Text.Runs := .ofRanges [(0xfff9, 0xfffb), (0x13430, 0x13440)]

/-- The property Default_Ignorable_Code_Point. -/
def isDefaultIgnorable (c : Char) : Bool :=
  Listed.otherDefaultIgnorableCodePoint.contains c || Listed.variationSelector.contains c ||
    (inCategories [.format] c && !Listed.prependedConcatenationMark.contains c &&
      !shownFormats.contains c)

/-- Punctuation that may stand inside a word, between letters. -/
def midLetter : Text.Runs := .ofRanges [
  (0x3a, 0x3a), (0xb7, 0xb7), (0x387, 0x387), (0x55f, 0x55f), (0x5f4, 0x5f4), (0x2027, 0x2027),
  (0xfe13, 0xfe13), (0xfe55, 0xfe55), (0xff1a, 0xff1a)]

/-- Punctuation that may stand inside a word and inside a number. -/
def midNumLet : Text.Runs := .ofRanges [
  (0x2e, 0x2e), (0x2018, 0x2019), (0x2024, 0x2024), (0xfe52, 0xfe52), (0xff07, 0xff07),
  (0xff0e, 0xff0e)]

/-- The property Case_Ignorable. -/
def isCaseIgnorable (c : Char) : Bool :=
  inCategories [.nonspacingMark, .enclosingMark, .format, .modifierLetter, .modifierSymbol] c ||
    c.toNat = 0x27 || midLetter.contains c || midNumLet.contains c

/-! ## Changes of case -/

/-- Whether the image of a character under a case mapping is another one that patterns know. -/
def isChanged (c : Char) (image : List Char) : Bool :=
  isKnown c && image != [c] && image.all isKnown

/-- The property Changes_When_Lowercased. -/
def isChangedByLower (c : Char) : Bool := isChanged c (Text.lowerChar c)

/-- The property Changes_When_Uppercased. -/
def isChangedByUpper (c : Char) : Bool := isChanged c (Text.upperChar c)

/-- Capital letters that stand for two letters. -/
def digraphs : Text.Runs := .ofRanges [
  (0x1c4, 0x1c4), (0x1c7, 0x1c7), (0x1ca, 0x1ca), (0x1f1, 0x1f1)]

/-- Letters of Georgian with capitals that do not start words. -/
def mkhedruli : Text.Runs := .ofRanges [(0x10d0, 0x10fa), (0x10fd, 0x10ff)]

/-- The property Changes_When_Titlecased. -/
def isChangedByTitle (c : Char) : Bool :=
  digraphs.contains c ||
    (isChangedByUpper c && !inCategories [.titlecaseLetter] c && !mkhedruli.contains c)

/-- The property Changes_When_Casemapped. -/
def isChangedByCasing (c : Char) : Bool :=
  isChangedByLower c || isChangedByUpper c || isChangedByTitle c

/-- Characters that change when case is folded, though they are in lower case. -/
def foldedLowercase : Text.Runs := .ofRanges [
  (0xb5, 0xb5), (0xdf, 0xdf), (0x149, 0x149), (0x17f, 0x17f), (0x345, 0x345), (0x3c2, 0x3c2),
  (0x3d0, 0x3d1), (0x3d5, 0x3d6), (0x3f0, 0x3f1), (0x3f5, 0x3f5), (0x587, 0x587), (0x13f8, 0x13fd),
  (0x1c80, 0x1c88), (0x1e9a, 0x1e9b), (0x1f80, 0x1f87), (0x1f90, 0x1f97), (0x1fa0, 0x1fa7),
  (0x1fb2, 0x1fb4), (0x1fb7, 0x1fb7), (0x1fc2, 0x1fc4), (0x1fc7, 0x1fc7), (0x1ff2, 0x1ff4),
  (0x1ff7, 0x1ff7), (0xab70, 0xabbf), (0xfb00, 0xfb06), (0xfb13, 0xfb17)]

/-- The property Changes_When_Casefolded.  The letters of Cherokee fold to their capitals. -/
def isChangedByFolding (c : Char) : Bool :=
  foldedLowercase.contains c ||
    (isChangedByLower c && !(0x13a0 ≤ c.toNat && c.toNat ≤ 0x13f5))

/-! ## Identifiers and words -/

/-- The property ID_Start. -/
def isIdStart (c : Char) : Bool :=
  (inCategories [.uppercaseLetter, .lowercaseLetter, .titlecaseLetter, .modifierLetter,
      .otherLetter, .letterNumber] c || Listed.otherIdStart.contains c) &&
    !Listed.patternSyntax.contains c && !Listed.patternWhiteSpace.contains c

/-- The property ID_Continue. -/
def isIdContinue (c : Char) : Bool :=
  isIdStart c ||
    ((inCategories [.nonspacingMark, .spacingMark, .decimalNumber, .connectorPunctuation] c ||
        Listed.otherIdContinue.contains c) &&
      !Listed.patternSyntax.contains c && !Listed.patternWhiteSpace.contains c)

/-- Characters of identifiers that are none in a compatible form. -/
def idIncompatible : Text.Runs := .ofRanges [
  (0x37a, 0x37a), (0x309b, 0x309c), (0xfc5e, 0xfc63), (0xfdfa, 0xfdfb), (0xfe70, 0xfe70),
  (0xfe72, 0xfe72), (0xfe74, 0xfe74), (0xfe76, 0xfe76), (0xfe78, 0xfe78), (0xfe7a, 0xfe7a),
  (0xfe7c, 0xfe7c), (0xfe7e, 0xfe7e)]

/-- Characters that start identifiers, but whose compatible forms start with a mark. -/
def idStartIncompatible : Text.Runs := .ofRanges [
  (0xe33, 0xe33), (0xeb3, 0xeb3), (0xff9e, 0xff9f)]

/-- The property XID_Start. -/
def isXidStart (c : Char) : Bool :=
  isIdStart c && !idIncompatible.contains c && !idStartIncompatible.contains c

/-- The property XID_Continue. -/
def isXidContinue (c : Char) : Bool := isIdContinue c && !idIncompatible.contains c

/-- Whether a character belongs to a word: a letter, a mark, a decimal digit, a connector or a
    joiner. -/
def isWord (c : Char) : Bool :=
  if c.toNat < 0x80 then isAsciiLetter c || isAsciiDigit c || c = '_'
  else isAlphabetic c || isJoinControl c ||
    inCategories [.nonspacingMark, .spacingMark, .enclosingMark, .decimalNumber,
      .connectorPunctuation] c

/-- Whether a character belongs to a word of ASCII. -/
def isAsciiWord (c : Char) : Bool := isAsciiLetter c || isAsciiDigit c || c = '_'

end OrderedLexer.Pattern
