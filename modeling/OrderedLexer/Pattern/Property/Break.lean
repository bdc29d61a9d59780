/-
  How characters bear on the division of a text into what a reader takes for one character, into
  words and into sentences.

  A character has at most one role in each division; `graphemeBreak?`, `wordBreak?` and
  `sentenceBreak?` find it by the first rule that applies.
-/
import OrderedLexer.Pattern.Property.Derived
import OrderedLexer.Pattern.Property.Script

namespace OrderedLexer.Pattern

/-! ## Characters as a reader sees them -/

/-- A role in the division into characters as a reader sees them. -/
inductive GraphemeBreak where
  | cr | lf | control | extend | zwj | regionalIndicator | prepend | spacingMark
  | leadingJamo | vowelJamo | trailingJamo | openSyllable | closedSyllable
  deriving DecidableEq, Repr

namespace GraphemeBreak

/-- Every role with its names. -/
def names : List (List String × GraphemeBreak) := [
  (["cr"], .cr), (["lf"], .lf), (["cn", "control"], .control), (["ex", "extend"], .extend),
  (["zwj"], .zwj), (["ri", "regionalindicator"], .regionalIndicator),
  (["pp", "prepend"], .prepend), (["sm", "spacingmark"], .spacingMark), (["l"], .leadingJamo),
  (["v"], .vowelJamo), (["t"], .trailingJamo), (["lv"], .openSyllable),
  (["lvt"], .closedSyllable)]

/-- The role with a name. -/
def named? (name : String) : Option GraphemeBreak :=
  (names.find? fun e => e.1.contains name).map (·.2)

end GraphemeBreak

/-- Letters that are joined to the one behind them. -/
def joinedLetters : Text.Runs := .ofRanges [
  (0xd4e, 0xd4e), (0x111c2, 0x111c3), (0x113d1, 0x113d1), (0x1193f, 0x1193f), (0x11941, 0x11941),
  (0x11a3a, 0x11a3a), (0x11a84, 0x11a89), (0x11d46, 0x11d46), (0x11f02, 0x11f02)]

/-- Spacing marks that stand on their own. -/
def looseMarks : Text.Runs := .ofRanges [
  (0x102b, 0x102c), (0x1038, 0x1038), (0x1062, 0x1064), (0x1067, 0x106d), (0x1083, 0x1083),
  (0x1087, 0x108c), (0x108f, 0x108f), (0x109a, 0x109c), (0x1a61, 0x1a61), (0x1a63, 0x1a64),
  (0xaa7b, 0xaa7b), (0xaa7d, 0xaa7d), (0x11720, 0x11721)]

/-- Vowels that form a syllable with what stands before them. -/
def vowels : Text.Runs := .ofRanges [
  (0x1160, 0x11a7), (0xd7b0, 0xd7c6), (0x16d63, 0x16d63), (0x16d67, 0x16d6a)]

/-- Consonants that start a syllable of Hangul. -/
def leadingConsonants : Text.Runs := .ofRanges [(0x1100, 0x115f), (0xa960, 0xa97c)]

/-- Consonants that end a syllable of Hangul. -/
def trailingConsonants : Text.Runs := .ofRanges [(0x11a8, 0x11ff), (0xd7cb, 0xd7fb)]

/-- The role of a character in the division into characters as a reader sees them. -/
def graphemeBreak? (c : Char) : Option GraphemeBreak :=
  let n := c.toNat
  if c = '\r' then some .cr
  else if c = '\n' then some .lf
  else if n = 0x200d then some .zwj
  else if isGraphemeExtend c || Listed.emojiModifier.contains c then some .extend
  else if Listed.regionalIndicator.contains c then some .regionalIndicator
  else if Listed.prependedConcatenationMark.contains c || joinedLetters.contains c then
    some .prepend
  else if inCategories [.control, .format, .lineSeparator, .paragraphSeparator] c ||
      (inCategories [.unassigned] c && isDefaultIgnorable c) then some .control
  else if n = 0xe33 || n = 0xeb3 || (inCategories [.spacingMark] c && !looseMarks.contains c) then
    some .spacingMark
  else if leadingConsonants.contains c then some .leadingJamo
  else if vowels.contains c then some .vowelJamo
  else if trailingConsonants.contains c then some .trailingJamo
  -- a block of syllables, of which each 28th has no trailing consonant
  else if 0xac00 ≤ n && n ≤ 0xd7a3 then
    some (if (n - 0xac00) % 28 = 0 then .openSyllable else .closedSyllable)
  else none

/-! ## Words -/

/-- A role in the division into words. -/
inductive WordBreak where
  | cr | lf | newline | extend | zwj | format | regionalIndicator | katakana | hebrewLetter
  | letter | singleQuote | doubleQuote | midNumLet | midLetter | midNum | numeric | extendNumLet
  | space
  deriving DecidableEq, Repr

namespace WordBreak

/-- Every role with its names. -/
def names : List (List String × WordBreak) := [
  (["cr"], .cr), (["lf"], .lf), (["nl", "newline"], .newline), (["extend"], .extend),
  (["zwj"], .zwj), (["fo", "format"], .format), (["ri", "regionalindicator"], .regionalIndicator),
  (["ka", "katakana"], .katakana), (["hl", "hebrewletter"], .hebrewLetter),
  (["le", "aletter"], .letter), (["sq", "singlequote"], .singleQuote),
  (["dq", "doublequote"], .doubleQuote), (["mb", "midnumlet"], .midNumLet),
  (["ml", "midletter"], .midLetter), (["mn", "midnum"], .midNum), (["nu", "numeric"], .numeric),
  (["ex", "extendnumlet"], .extendNumLet), (["wsegspace"], .space)]

/-- The role with a name. -/
def named? (name : String) : Option WordBreak :=
  (names.find? fun e => e.1.contains name).map (·.2)

end WordBreak

/-- Runs of the letters of words that are written with spaces between them. -/
def wordLetterTable : List String := [
  "41 1a 6 1a 2f 1 a 1 4 1 5 17 1 1f 1 1e0 6 22 70 5 1 2 2 4 1 1 6 1 1 3 1 1 1 14 1 53 1 8b 8 a6",
  "1 26 2 4 1 1 1 29 1 1 68 1 2c 2b 23 2 1 63 1 1 f 2 7 2 a 3 2 1 f 2 1 1e 1d 59 b 1 18 21 9 2 4",
  "1 5 16 4 1 9 1 3 1 17 19 7 b 5 18 1 6 11 2a 3a 36 3 1 12 1 7 a f 10 4 8 2 2 2 16 1 7 1 1 3 4 3",
  "1 10 1 d 2 1 3 e 2 a 1 8 6 4 2 2 16 1 7 1 2 1 2 1 2 1f 4 1 1 13 3 10 9 1 3 1 16 1 7 1 2 1 5 3",
  "1 12 1 f 2 17 1 b 8 2 2 2 16 1 7 1 2 1 5 3 1 1e 2 1 3 f 1 11 1 1 6 3 3 1 4 3 2 1 1 1 2 3 2 3 3",
  "3 c 16 1 34 8 1 3 1 17 1 10 3 1 1a 3 2 1 2 2 1e 1 4 8 1 3 1 17 1 a 1 5 3 1 1f 2 1 2 f 2 11 9 1",
  "3 1 29 2 1 10 1 5 3 8 3 18 6 5 12 3 18 1 9 1 1 2 7 139 1 3f 8 1 24 1b 5 113 26 1 1 5 1 2 2b 1",
  "14d 1 4 2 7 1 1 1 4 2 29 1 4 2 21 1 4 2 7 1 1 1 4 2 f 1 39 1 4 2 43 25 10 10 56 2 6 3 26c 2 11",
  "1 1a 5 4b 3 b 7 12 d 13 e 12 e d 1 3 af 59 7 5 2 22 1 1 5 46 a 1f e1 17 ee 2f 11 8 36 1e d 2 a",
  "2c 1a 24 29 3 a 24 2 b 5 2b 2 3 29 4 1 6 1 2 3 1 5 c0 40 116 2 6 2 26 2 6 2 8 1 1 1 1 1 1 1 1f",
  "2 35 1 7 1 1 3 3 1 7 3 4 2 6 4 d 5 3 1 7 74 1 d 1 10 d 65 1 4 1 2 a 1 1 3 5 6 1 1 1 1 1 1 4 1",
  "b 2 4 5 5 4 1 11 29 32d 34 716 e5 6 4 3 2 c 26 1 1 5 1 2 38 7 1 10 17 9 7 1 7 1 7 1 7 1 7 1 7",
  "1 7 1 7 50 1 1d5 1 35 2 c8 2b 1 5e 11 20 6e40 48d 43 2e 2 10d 3 10 a 2 14 2f 10 1f 2 50 18 c6",
  "2 2 1 1 1 8 15 10 1 3 1 4 1 17 1d 34 e 32 3e 6 3 1 1 2 b 1c a 17 19 1d 7 2f 1c 1 30 29 17 3 1",
  "8 94 b 7 3 c 6 2 6 2 6 9 7 1 7 1 3a 6 73 1d 2ba4 c 17 4 31 2304 7 c 5 38 62 21 16b 12 40 2 36",
  "28 c 74 5 1 87 24 1a 6 1a 45 1f 3 6 2 6 2 6 2 3 23 c 1 1a 1 13 1 2 1 f 2 e 22 7b 45 35 10b 1d",
  "3 31 2f 20 d 1e 5 26 a 1e 2 24 4 8 1 5 2a 9e 12 24 4 24 4 28 8 34 c b 1 f 1 7 1 2 1 b 1 f 1 7",
  "1 2 3 34 c 137 9 16 a 8 18 6 1 2a 1 9 45 6 2 1 1 2c 1 2 3 1 2 17 a 17 9 1f 41 13 1 2 a 16 a 1a",
  "46 38 6 2 40 1 f 4 1 3 1 1d 2a 1d 3 1d 23 8 1 1c 1b 36 a 16 a 13 d 12 6e 49 37 33 d 33 d 24 26",
  "1c 9 17 fa 2a 6 2 10 3 3b 1d a 1 8 16 2a 12 2e 15 1b 17 c 35 39 2 2 1 d 2d 20 19 1a 24 1d 1 2",
  "1 8 23 3 1 c 30 e 4 15 1 1 1 23 12 1 19 13 2 3f 7 1 1 1 4 1 f 1 a 7 2f 26 8 2 2 2 16 1 7 1 2 1",
  "5 3 1 12 1 c 5 1e a 1 1 2 1 1 26 1 1 19 1 1 1 2c 35 12 4 14 3 1e 30 14 2 1 1 b8 2f 29 4 24 30",
  "14 1 3b 2b d 1 147 2c 74 40 1f 8 2 1 2 8 1 2 1 18 f 1 1 1 5e 8 2 27 10 1 1 1 1c 1 a 28 7 1 15",
  "1 b 2e 13 1 12 49 c7 21 1f 9 1 25 11 1 31 1e 70 7 1 2 1 26 15 1 19 6 1 2 1 20 e 1 147 13 f 1 1",
  "d 1 22 7c 1 4f 39a 66 6f 11 c4 a4c 61 f 430 11 6 19 f9b 5 247 1ab9 1e 6e2 239 7 1f 11 4f 11 1e",
  "12 30 10 4 1f 15 5 13 1b0 2d d3 40 80 4b 5 1 42 d 40 2 1 1 4c1c 6b 5 d 3 9 7 a 1766 55 1 47 1",
  "2 2 1 2 2 2 4 1 c 1 1 1 7 1 41 1 4 2 8 1 7 1 1c 1 4 1 5 1 1 3 7 1 154 2 19 1 19 1 1f 1 19 1 1f",
  "1 19 1 1f 1 19 1 1f 1 19 1 8 734 1f 6 6 105 3e 92 2d a 7 10 1 141 1e 12 2c 1e4 1c e4 1e 2 1",
  "1ef 7 1 4 1 2 1 f 1 c5 3b 44 7 1 4b4 4 1 1b 1 2 1 1 2 1 1 a 1 4 1 1 1 1 6 1 4 1 1 1 1 1 1 3 1",
  "2 1 1 2 1 1 1 1 1 1 1 1 1 1 2 1 1 2 4 1 7 1 4 1 4 1 1 1 a 1 11 5 3 1 5 1 11 274 1a 6 1a 6 1a"]

/-- The letters of words that are written with spaces between them. -/
def wordLetters : Text.Runs := .ofTable wordLetterTable

/-- Characters of words in Katakana. -/
def katakanaLetters : Text.Runs := .ofRanges [
  (0x3031, 0x3035), (0x309b, 0x309c), (0x30a0, 0x30fa), (0x30fc, 0x30ff), (0x31f0, 0x31ff),
  (0x32d0, 0x32fe), (0x3300, 0x3357), (0xff66, 0xff9d), (0x1aff0, 0x1aff3), (0x1aff5, 0x1affb),
  (0x1affd, 0x1affe), (0x1b000, 0x1b000), (0x1b120, 0x1b122), (0x1b155, 0x1b155),
  (0x1b164, 0x1b167)]

/-- Punctuation that may stand inside a number. -/
def midNum : Text.Runs := .ofRanges [
  (0x2c, 0x2c), (0x3b, 0x3b), (0x37e, 0x37e), (0x589, 0x589), (0x60c, 0x60d), (0x66c, 0x66c),
  (0x7f8, 0x7f8), (0x2044, 0x2044), (0xfe50, 0xfe50), (0xfe54, 0xfe54), (0xff0c, 0xff0c),
  (0xff1b, 0xff1b)]

/-- Connectors of words and numbers. -/
def extendNumLet : Text.Runs := .ofRanges [
  (0x5f, 0x5f), (0x202f, 0x202f), (0x203f, 0x2040), (0x2054, 0x2054), (0xfe33, 0xfe34),
  (0xfe4d, 0xfe4f), (0xff3f, 0xff3f)]

/-- Spaces between words. -/
def wordSpaces : Text.Runs := .ofRanges [
  (0x20, 0x20), (0x1680, 0x1680), (0x2000, 0x2006), (0x2008, 0x200a), (0x205f, 0x205f),
  (0x3000, 0x3000)]

/-- Characters of numbers: decimal digits, the marks that stand before them, and a few others. -/
def isNumberPart (c : Char) : Bool :=
  let n := c.toNat
  inCategories [.decimalNumber] c || n = 0x66b || n = 0x19da ||
    (Listed.prependedConcatenationMark.contains c && n != 0x70f)

/-- The role of a character in the division into words. -/
def wordBreak? (c : Char) : Option WordBreak :=
  let n := c.toNat
  if c = '\r' then some .cr
  else if c = '\n' then some .lf
  else if n = 0xb || n = 0xc || n = 0x85 || n = 0x2028 || n = 0x2029 then some .newline
  else if n = 0x200d then some .zwj
  else if isGraphemeExtend c || inCategories [.spacingMark] c ||
      Listed.emojiModifier.contains c then some .extend
  else if isNumberPart c then some .numeric
  else if Listed.regionalIndicator.contains c then some .regionalIndicator
  else if katakanaLetters.contains c then some .katakana
  else if script c == "Hebr" && inCategories [.otherLetter] c then some .hebrewLetter
  else if wordLetters.contains c then some .letter
  else if inCategories [.format] c && n != 0x200b then some .format
  else if n = 0x27 then some .singleQuote
  else if n = 0x22 then some .doubleQuote
  else if midNumLet.contains c then some .midNumLet
  else if midLetter.contains c then some .midLetter
  else if midNum.contains c then some .midNum
  else if extendNumLet.contains c then some .extendNumLet
  else if wordSpaces.contains c then some .space
  else none

/-! ## Sentences -/

/-- A role in the division into sentences. -/
inductive SentenceBreak where
  | cr | lf | sep | extend | format | space | lower | upper | otherLetter | numeric
  | fullStop | continuation | terminal | close
  deriving DecidableEq, Repr

namespace SentenceBreak

/-- Every role with its names. -/
def names : List (List String × SentenceBreak) := [
  (["cr"], .cr), (["lf"], .lf), (["se", "sep"], .sep), (["ex", "extend"], .extend),
  (["fo", "format"], .format), (["sp"], .space), (["lo", "lower"], .lower),
  (["up", "upper"], .upper), (["le", "oletter"], .otherLetter), (["nu", "numeric"], .numeric),
  (["at", "aterm"], .fullStop), (["sc", "scontinue"], .continuation), (["st", "sterm"], .terminal),
  (["cl", "close"], .close)]

/-- The role with a name. -/
def named? (name : String) : Option SentenceBreak :=
  (names.find? fun e => e.1.contains name).map (·.2)

end SentenceBreak

/-- Full stops, which end abbreviations too. -/
def fullStops : Text.Runs := .ofRanges [
  (0x2e, 0x2e), (0x2024, 0x2024), (0xfe52, 0xfe52), (0xff0e, 0xff0e)]

/-- Punctuation behind which a sentence goes on. -/
def continuations : Text.Runs := .ofRanges [
  (0x2c, 0x2d), (0x3a, 0x3b), (0x37e, 0x37e), (0x55d, 0x55d), (0x60c, 0x60d), (0x7f8, 0x7f8),
  (0x1802, 0x1802), (0x1808, 0x1808), (0x2013, 0x2014), (0x3001, 0x3001), (0xfe10, 0xfe11),
  (0xfe13, 0xfe14), (0xfe31, 0xfe32), (0xfe50, 0xfe51), (0xfe54, 0xfe55), (0xfe58, 0xfe58),
  (0xfe63, 0xfe63), (0xff0c, 0xff0d), (0xff1a, 0xff1b), (0xff64, 0xff64)]

/-- Quotation marks that are no punctuation of a pair. -/
def otherQuotes : Text.Runs := .ofRanges [
  (0x22, 0x22), (0x27, 0x27), (0x275b, 0x2760), (0x2e00, 0x2e01), (0x2e06, 0x2e08),
  (0x2e0b, 0x2e0b), (0x1f676, 0x1f678)]

/-- Capital letters of Georgian that do not start sentences. -/
def mtavruli : Text.Runs := .ofRanges [(0x1c90, 0x1cba), (0x1cbd, 0x1cbf)]

/-- The role of a character in the division into sentences. -/
def sentenceBreak? (c : Char) : Option SentenceBreak :=
  let n := c.toNat
  if c = '\r' then some .cr
  else if c = '\n' then some .lf
  else if n = 0x85 || n = 0x2028 || n = 0x2029 then some .sep
  else if n = 0x200d || isGraphemeExtend c || inCategories [.spacingMark] c then some .extend
  else if isNumberPart c || n = 0x66c then some .numeric
  else if inCategories [.format] c then some .format
  else if Text.isWhiteSpace c then some .space
  else if isLowercase c && !mkhedruli.contains c then some .lower
  else if (isUppercase c || inCategories [.titlecaseLetter] c) && !mtavruli.contains c then
    some .upper
  else if isAlphabetic c || n = 0x5f3 then some .otherLetter
  else if fullStops.contains c then some .fullStop
  else if continuations.contains c then some .continuation
  else if Listed.sentenceTerminal.contains c then some .terminal
  else if inCategories [.openPunctuation, .closePunctuation, .initialPunctuation,
      .finalPunctuation] c || otherQuotes.contains c then some .close
  else none

end OrderedLexer.Pattern
