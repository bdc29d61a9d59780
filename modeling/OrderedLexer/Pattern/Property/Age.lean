/-
  The versions of Unicode that characters appeared in.

  Patterns know the characters of Unicode 16.  `age?` is the version in which a character was
  assigned; a character without one is not known to patterns.
-/
import OrderedLexer.Text.Runs

namespace OrderedLexer.Pattern

/-- A version of Unicode. -/
structure Version where
  major : Nat
  minor : Nat
  deriving DecidableEq, Repr

namespace Version

/-- The versions, the oldest one first. -/
def all : List Version := [
  ⟨1, 1⟩, ⟨2, 0⟩, ⟨2, 1⟩, ⟨3, 0⟩, ⟨3, 1⟩, ⟨3, 2⟩, ⟨4, 0⟩, ⟨4, 1⟩, ⟨5, 0⟩, ⟨5, 1⟩, ⟨5, 2⟩, ⟨6, 0⟩,
  ⟨6, 1⟩, ⟨6, 2⟩, ⟨6, 3⟩, ⟨7, 0⟩, ⟨8, 0⟩, ⟨9, 0⟩, ⟨10, 0⟩, ⟨11, 0⟩, ⟨12, 0⟩, ⟨12, 1⟩, ⟨13, 0⟩,
  ⟨14, 0⟩, ⟨15, 0⟩, ⟨15, 1⟩, ⟨16, 0⟩]

/-- Whether a version came before another one or is the same. -/
def le (v w : Version) : Bool := v.major < w.major || (v.major == w.major && v.minor ≤ w.minor)

/-- The names of a version: its numbers with a point between them, or side by side behind a `v`. -/
def names (v : Version) : List String := [
  toString v.major ++ "." ++ toString v.minor, "v" ++ toString v.major ++ toString v.minor]

/-- The version with a name. -/
def named? (name : String) : Option Version := all.find? fun v => v.names.contains name

/-- The version that a label of `ageTable` stands for. -/
def ofLabel (label : List Char) : Option Version :=
  all.find? fun v => label == ("V" ++ toString v.major ++ "." ++ toString v.minor).toList

end Version

/-- Runs of code points that appeared in one version; `X` marks those that did in none. -/
def ageTable : List String := [
  "1f6V1.1 4V3.0 1eV1.1 8V3.0 1V3.2 1V4.0 12V3.0 3V4.0 bV4.1 eV5.0 59V1.1 5V3.0 2V4.0 2fV1.1",
  "1V3.0 aV1.1 5V3.0 11V4.0 46V1.1 9V3.0 1V3.2 8V4.0 5V4.1 3V4.0 2V1.1 1V3.0 dV3.2 4V5.1 2V1.1",
  "2V5.1 2X 1V1.1 3V5.0 1V1.1 1V7.0 4X 7V1.1 1X 1V1.1 1X 14V1.1 1X 2cV1.1 1V5.1 7V1.1 1V3.0 2V3.2",
  "1V1.1 1V3.0 1V1.1 1V3.0 1V1.1 1V3.0 1V1.1 1V3.0 12V1.1 2V3.1 1V3.2 5V4.0 4V4.1 1V3.0 cV1.1",
  "1V3.0 42V1.1 1V3.0 cV1.1 1V3.0 29V1.1 1V5.1 2V3.0 2V3.2 4V3.0 35V1.1 2V3.2 2V1.1 2V3.2 2V1.1",
  "2V3.2 1V5.0 1cV1.1 2V3.0 8V1.1 2V4.1 2V1.1 6V5.0 10V3.2 4V5.0 10V5.1 2V5.2 2V6.0 8V7.0 1X",
  "26V1.1 2X 7V1.1 1V11.0 27V1.1 1V11.0 1V1.1 1V3.0 2X 2V7.0 1V6.1 1X 11V2.0 1V4.1 dV2.0 aV1.1",
  "1V5.0 9V1.1 1V2.0 3V4.1 8X 1bV1.1 4X 1V11.0 5V1.1 bX 4V4.0 1V6.1 1V7.0 5V5.1 1V4.1 1V1.1 9V4.0",
  "5V5.1 1V1.1 1V6.3 1V14.0 1V4.1 1V1.1 1V6.0 1aV1.1 5V5.1 13V1.1 3V3.0 3V4.0 6V4.1 1V6.0 eV1.1",
  "2V3.2 48V1.1 2V3.0 5V1.1 1V3.0 fV1.1 1V3.0 1eV1.1 2V4.0 aV1.1 5V3.0 1V4.0 eV3.0 1X 1eV3.0",
  "3V4.0 1bV3.0 2X 3V4.0 1eV4.1 12V5.1 31V3.0 1V3.2 eX 3bV5.0 2X 3V11.0 2eV5.2 2X fV5.2 1X 1cV6.0",
  "2X 1V6.0 1X bV10.0 5X 1fV14.0 1X 2V14.0 5X 1V16.0 8V14.0 1V6.1 1V7.0 bV6.1 6V7.0 2V8.0 1V14.0",
  "8V9.0 aV13.0 bV14.0 1V11.0 fV9.0 1V8.0 1bV6.1 1V7.0 1V5.2 3V1.1 1V4.0 35V1.1 2V6.0 12V1.1",
  "1V5.2 1V6.0 5V1.1 1V5.2 2V6.0 19V1.1 2V5.1 5V6.0 1V7.0 2V5.2 2V5.0 1V4.1 2V5.0 1V7.0 3V1.1 1X",
  "8V1.1 2X 2V1.1 2X 16V1.1 1X 7V1.1 1X 1V1.1 3X 4V1.1 2X 1V1.1 1V4.0 7V1.1 2X 2V1.1 2X 3V1.1",
  "1V4.1 8X 1V1.1 4X 2V1.1 1X 5V1.1 2X 15V1.1 1V5.2 2V10.0 1V11.0 2X 1V4.0 1V1.1 1V4.0 1X 6V1.1",
  "4X 2V1.1 2X 16V1.1 1X 7V1.1 1X 2V1.1 1X 2V1.1 1X 2V1.1 2X 1V1.1 1X 5V1.1 4X 2V1.1 2X 3V1.1 3X",
  "1V5.1 7X 4V1.1 1X 1V1.1 7X fV1.1 1V5.1 1V11.0 aX 3V1.1 1X 7V1.1 1V4.0 1V1.1 1X 3V1.1 1X 16V1.1",
  "1X 7V1.1 1X 2V1.1 1X 5V1.1 2X aV1.1 1X 3V1.1 1X 3V1.1 2X 1V1.1 fX 1V1.1 3V4.0 2X aV1.1 1V6.1",
  "1V4.0 7X 1V8.0 6V10.0 1X 3V1.1 1X 8V1.1 2X 2V1.1 2X 16V1.1 1X 7V1.1 1X 2V1.1 1X 1V4.0 4V1.1 2X",
  "8V1.1 1V5.1 2X 2V1.1 2X 3V1.1 7X 1V13.0 2V1.1 4X 2V1.1 1X 3V1.1 2V5.1 2X bV1.1 1V4.0 6V6.0 aX",
  "2V1.1 1X 6V1.1 3X 3V1.1 1X 4V1.1 3X 2V1.1 1X 1V1.1 1X 2V1.1 3X 2V1.1 3X 3V1.1 3X 8V1.1 1V4.1",
  "3V1.1 4X 5V1.1 3X 3V1.1 1X 4V1.1 2X 1V5.1 6X 1V1.1 eX 1V4.1 cV1.1 8V4.0 5X 1V7.0 3V1.1 1V11.0",
  "8V1.1 1X 3V1.1 1X 17V1.1 1X aV1.1 1V7.0 5V1.1 2X 1V14.0 1V5.1 7V1.1 1X 3V1.1 1X 4V1.1 7X 2V1.1",
  "1X 2V5.1 1V8.0 2X 1V14.0 2X 2V1.1 2V5.1 2X aV1.1 7X 1V12.0 8V5.1 1V9.0 1V7.0 2V1.1 1V11.0",
  "8V1.1 1X 3V1.1 1X 17V1.1 1X aV1.1 1X 5V1.1 2X 2V4.0 7V1.1 1X 3V1.1 1X 4V1.1 7X 2V1.1 6X 1V14.0",
  "1V1.1 1X 2V1.1 2V5.0 2X aV1.1 1X 2V5.0 1V15.0 cX 1V10.0 1V7.0 2V1.1 1V13.0 8V1.1 1X 3V1.1 1X",
  "17V1.1 1V6.0 10V1.1 1V6.0 2V10.0 1V5.1 6V1.1 1V5.1 1X 3V1.1 1X 4V1.1 1V6.0 1V9.0 4X 3V9.0",
  "1V1.1 7V9.0 1V8.0 2V1.1 2V5.1 2X aV1.1 6V5.1 3V9.0 7V5.1 1X 1V13.0 2V3.0 1X 12V3.0 3X 18V3.0",
  "1X 9V3.0 1X 1V3.0 2X 7V3.0 3X 1V3.0 4X 6V3.0 1X 1V3.0 1X 8V3.0 6X aV7.0 2X 3V3.0 cX 3aV1.1 4X",
  "1dV1.1 25X 2V1.1 1X 1V1.1 1X 1V12.0 2V1.1 1V12.0 1V1.1 1X 1V12.0 1V1.1 6V12.0 4V1.1 1V12.0",
  "7V1.1 1V12.0 3V1.1 1X 1V1.1 1X 1V1.1 2V12.0 2V1.1 1V12.0 dV1.1 1V12.0 3V1.1 2X 5V1.1 1X 1V1.1",
  "1X 6V1.1 1V15.0 1X aV1.1 2X 2V1.1 2V6.1 20X 48V2.0 1X 21V2.0 1V3.0 2V5.1 4X 1bV2.0 4V6.0 6V2.0",
  "1V3.0 1V2.0 1X 15V2.0 3V3.0 7V2.0 1V3.0 1V2.0 3V3.0 1X fV3.0 1X 1V5.1 1V3.0 2V4.1 3V5.1 4V5.2",
  "2V6.0 25X 22V3.0 1V5.1 5V3.0 1V5.1 2V3.0 1V5.1 7V3.0 3V5.1 4V3.0 6V5.1 1aV3.0 40V5.1 4V5.2",
  "2V5.1 26V1.1 1X 1V6.1 5X 1V6.1 2X 27V1.1 2V3.2 2V4.1 1V1.1 1V4.1 3V6.1 5aV1.1 5V5.2 44V1.1",
  "5V5.2 52V1.1 6V5.2 7V3.0 1V4.1 3fV3.0 1V4.1 1V3.0 1X 4V3.0 2X 7V3.0 1X 1V3.0 1X 4V3.0 2X",
  "27V3.0 1V4.1 1V3.0 1X 4V3.0 2X 1fV3.0 1V4.1 1V3.0 1X 4V3.0 2X 7V3.0 1X 1V3.0 1X 4V3.0 2X 7V3.0",
  "1V4.1 7V3.0 1X 17V3.0 1V4.1 1fV3.0 1V4.1 1V3.0 1X 4V3.0 2X 7V3.0 1V4.1 27V3.0 1V4.1 13V3.0 2X",
  "2V6.0 2V4.1 1cV3.0 3X 1aV4.1 6X 55V3.0 1V8.0 2X 6V8.0 2X 1V5.2 276V3.0 9V5.2 1dV3.0 3X 51V3.0",
  "8V7.0 7X dV3.2 1V14.0 7V3.2 1V14.0 9X 1V14.0 17V3.2 9X 14V3.2 cX dV3.2 1X 3V3.2 1X 2V3.2 cX",
  "5dV3.0 1V4.0 2X aV3.0 6X aV4.0 6X fV3.0 1V14.0 aV3.0 6X 58V3.0 1V11.0 7X 2aV3.0 1V5.1 5X",
  "46V5.2 aX 1dV4.0 2V7.0 1X cV4.0 4X cV4.0 4X 1V4.0 3X 2aV4.0 2X 5V4.0 bX 2aV4.1 2V5.2 4X 1aV4.1",
  "6X aV4.1 1V5.2 3X 2V4.1 20V4.0 1cV4.1 2X 2V4.1 3fV5.2 1X 1dV5.2 2X bV5.2 6X aV5.2 6X eV5.2 2X",
  "fV7.0 2V13.0 eV14.0 31X 4cV5.0 1V14.0 1X 2V16.0 2dV5.0 2V14.0 1V16.0 2bV5.1 3V6.1 cV5.1 6V6.1",
  "34V6.0 8X 4V6.0 38V5.1 3X fV5.1 3X 33V5.1 9V9.0 2V16.0 5X 2bV11.0 2X 3V11.0 8V6.1 8X 23V5.2",
  "4V6.1 1V10.0 2V7.0 1V12.0 5X 6cV4.0 58V4.1 7V5.0 1cV5.1 fV7.0 4V10.0 1V14.0 1V9.0 1V6.0 1V5.2",
  "2V5.0 9bV1.1 1V2.0 4V5.1 5aV1.1 6V5.1 16V1.1 2X 6V1.1 2X 26V1.1 2X 6V1.1 2X 8V1.1 1X 1V1.1 1X",
  "1V1.1 1X 1V1.1 1X 1fV1.1 2X 35V1.1 1X fV1.1 1X eV1.1 2X 6V1.1 1X 13V1.1 2X 3V1.1 1X 9V1.1 1X",
  "2fV1.1 1V3.0 17V1.1 1V3.2 6V3.0 5V3.2 2V4.0 2V4.1 1V3.2 7V4.1 5V3.2 1V5.1 1X 4V6.3 7V1.1 1V3.2",
  "2X 1bV1.1 1X 5V4.1 8V6.0 3X bV1.1 1V2.0 1V2.1 3V3.0 2V3.2 4V4.1 3V5.2 1V6.0 1V6.2 3V7.0 1V8.0",
  "1V10.0 1V14.0 fX 12V1.1 2V3.0 7V3.2 1V4.1 4V5.0 1V5.1 fX 39V1.1 2V3.0 1V4.0 1V4.1 fV3.2 1V4.1",
  "2V5.0 1V5.1 3V5.2 30V1.1 1V3.0 1V5.0 4V5.1 1V5.2 2V8.0 4X 5bV1.1 9V3.0 cV3.2 f2V1.1 eV3.2",
  "1V1.1 1V3.0 79V1.1 1V3.0 1V3.2 1eV3.0 34V3.2 2V4.0 bV4.1 cV5.0 1V5.2 bV6.0 7V7.0 4V9.0 1V10.0",
  "25V1.1 2V3.0 3V16.0 16X bV1.1 15X 8bV1.1 14V3.2 1V4.0 96V1.1 aV3.2 50V1.1 8V3.0 8V3.2 14V1.1",
  "2V4.0 2V3.2 1V4.1 1V3.0 56V1.1 2V3.0 cV3.2 2V4.1 aV3.2 8V4.0 bV4.1 1V5.1 2V5.2 2V4.0 10V4.1",
  "1V5.0 aV5.1 3V5.2 4V5.1 aV5.2 1V6.0 13V5.2 1V6.0 1V5.2 4V6.0 18V5.2 1V7.0 4V1.1 1V6.0 4V1.1",
  "2V6.0 1cV1.1 1V6.0 23V1.1 1V6.0 1V1.1 1V6.0 4V1.1 3V6.0 1V1.1 1V5.2 7V1.1 2V6.0 7V1.1 eV3.2",
  "1fV1.1 3V6.0 18V1.1 1V6.0 eV1.1 1V6.0 7V4.1 4V5.0 1V6.1 1V5.1 1V6.1 2V6.0 1cV3.2 4V5.1 10V3.2",
  "100V3.0 200V3.2 eV4.0 6V4.1 7V5.0 5V5.1 4V5.0 29V5.1 3V7.0 5V5.1 5V5.2 1aV7.0 2X 20V7.0 1X",
  "1V13.0 22V7.0 3V11.0 cV7.0 1V12.0 8V7.0 1V10.0 19V11.0 4V8.0 fV11.0 1V12.0 2fV4.1 1V14.0",
  "2fV4.1 1V14.0 dV5.0 3V5.1 1V5.2 3V5.1 4V5.0 6V5.1 2V5.2 6bV4.1 7V5.2 2V6.1 5X 2dV4.1 1X 1V6.1",
  "5X 1V6.1 2X 36V4.1 2V6.1 7X 1V4.1 1V6.0 eX 1V6.0 17V4.1 9X 7V4.1 1X 7V4.1 1X 7V4.1 1X 7V4.1 1X",
  "7V4.1 1X 7V4.1 1X 7V4.1 1X 7V4.1 1X 20V5.1 18V4.1 4V5.1 2V4.1 13V5.1 1V5.2 aV6.1 7V7.0 2V9.0",
  "5V10.0 5V11.0 1V12.0 3V13.0 bV14.0 22X 1aV3.0 1X 59V3.0 cX d6V3.0 1aX cV3.0 4V15.1 38V1.1",
  "3V3.0 3V3.2 1V3.0 1V1.1 1X 54V1.1 2V3.2 2X 6V1.1 2V3.2 5eV1.1 1V3.2 5X 28V1.1 1V5.1 1V10.0",
  "1V11.0 1X 5eV1.1 1X 10V1.1 18V3.0 3V6.0 5V13.0 10V4.1 14V5.1 2V16.0 9X 1V15.1 10V3.2 1dV1.1",
  "2V4.0 1X 24V1.1 cV5.2 1V4.0 fV3.2 1cV1.1 2V4.0 1V4.1 32V1.1 fV3.2 cV1.1 4V4.0 2fV1.1 1V12.1",
  "77V1.1 4V4.0 63V1.1 2V4.0 1fV1.1 1V4.0 19b6V3.0 aV13.0 40V4.0 51a6V1.1 16V4.1 8V5.1 8V5.2",
  "1V6.1 9V8.0 15V10.0 5V11.0 dV13.0 3V14.0 48dV3.0 3X 12V3.0 2V3.2 10V3.0 1V3.2 cV3.0 1V3.2",
  "3V3.0 1V3.2 1V3.0 9X 30V5.2 12cV5.1 14X 20V5.1 2V6.0 12V5.1 8V6.1 1cV5.1 6V7.0 1V8.0 1V6.1",
  "58V5.2 8X 17V4.1 4V5.0 5V5.1 2V5.0 6bV5.1 2V6.0 1V8.0 2V6.0 2V6.1 cV7.0 aV6.0 1V6.1 3V7.0",
  "1V9.0 1V11.0 2V7.0 6V8.0 2V11.0 6V12.0 2V14.0 5V12.0 4V13.0 3V16.0 2X 2V14.0 1X 1V14.0 1X",
  "5V14.0 3V16.0 15X 3V14.0 2V13.0 1V7.0 2V6.1 1V6.0 5V5.1 2cV4.1 1V13.0 3X aV5.2 6X 38V5.0 8X",
  "45V5.1 1V9.0 8X cV5.1 6X 1cV5.2 2V8.0 2V11.0 54V5.1 bX 1V5.1 1dV5.2 3X 4eV5.2 1X bV5.2 4X",
  "2V5.2 1fV7.0 1X 37V5.1 9X eV5.1 2X aV5.1 2X 4V5.1 1cV5.2 4V7.0 43V5.2 18X 5V5.2 17V6.1 aX",
  "6V6.0 2X 6V6.0 2X 6V6.0 9X 7V6.0 1X 7V6.0 1X 30V7.0 4V8.0 2V7.0 2V12.0 4V13.0 4X 50V8.0 2eV5.2",
  "2X aV5.2 6X 2ba4V2.0 cX 17V5.2 4X 31V5.2 804X 1a2eV1.1 2V6.1 3bV3.2 3V5.2 2X 6aV4.1 26X 7V1.1",
  "cX 5V1.1 5X 1V3.0 19V1.1 1X 5V1.1 1X 1V1.1 1X 2V1.1 1X 2V1.1 1X 6cV1.1 10V6.0 1V14.0 10X",
  "16dV1.1 10V14.0 40V1.1 2X 36V1.1 7X 1V14.0 20V3.1 cV1.1 1V3.2 1V4.0 2V14.0 10V3.2 aV4.1 6X",
  "4V1.1 3V5.1 7V7.0 2V8.0 15V1.1 2V3.2 2V4.0 aV1.1 1X 13V1.1 1X 4V1.1 4X 3V1.1 1V3.2 1V1.1 1X",
  "87V1.1 2X 1V1.1 1X 5eV1.1 2V3.2 5eV1.1 3X 6V1.1 2X 6V1.1 2X 6V1.1 2X 3V1.1 3X 7V1.1 1X 7V1.1",
  "aX 3V3.0 1V2.1 3V1.1 cV4.0 1X 1aV4.0 1X 13V4.0 1X 2V4.0 1X fV4.0 2X eV4.0 22X 7bV4.0 5X 3V4.0",
  "4X 2dV4.0 3X 9V4.0 4bV4.1 2V7.0 2V9.0 1X cV5.1 1V13.0 3X 1V7.0 2fX 2eV5.1 82X 1dV5.1 3X 31V5.1",
  "fX 1cV7.0 4X 1fV3.1 1V7.0 4V3.1 9X 3V10.0 1bV3.1 5X 2bV7.0 5X 1eV4.0 1X 1V4.0 24V4.1 4X eV4.1",
  "2aX 26V3.1 2V4.0 26V3.1 50V4.0 2X aV4.0 6X 24V9.0 4X 24V9.0 4X 28V7.0 8X 34V7.0 bX 1V7.0",
  "bV14.0 1X fV14.0 1X 7V14.0 1X 2V14.0 1X bV14.0 1X fV14.0 1X 7V14.0 1X 2V14.0 3X 34V16.0 cX",
  "137V7.0 9X 16V7.0 aX 8V7.0 18X 6V14.0 1X 2aV14.0 1X 9V14.0 45X 6V4.0 2X 1V4.0 1X 2cV4.0 1X",
  "2V4.0 3X 1V4.0 2X 1V4.0 16V5.2 1X 9V5.2 3fV7.0 8X 9V7.0 30X 13V8.0 1X 2V8.0 5X 5V8.0 1aV5.0",
  "2V5.2 3X 1V5.0 1aV5.1 5X 1V5.1 40X 38V6.1 4X 2V8.0 2V6.1 10V8.0 2X 2eV8.0 4V4.1 1X 2V4.1 5X",
  "8V4.1 1X 3V4.1 1X 1bV4.1 2V11.0 2X 3V4.1 4X 9V4.1 1V11.0 7X 9V4.1 7X 20V5.2 20V7.0 20X 27V7.0",
  "4X cV7.0 9X 36V5.2 3X 1dV5.2 2X 1bV5.2 5X 8V5.2 12V7.0 7X 4V7.0 cX 7V7.0 50X 49V5.2 37X 33V8.0",
  "dX 33V8.0 7X 6V8.0 28V11.0 8X aV11.0 6X 26V16.0 3X 1dV16.0 8X 2V16.0 d0X 1fV5.2 1X 2aV13.0 1X",
  "3V13.0 2X 2V13.0 10X 3V16.0 37X 1V16.0 3V15.0 28V11.0 8X 2aV11.0 16X 1aV14.0 26X 1cV13.0 14X",
  "17V12.0 9X 4eV6.0 4X 1eV6.0 6V14.0 9X 1V7.0 42V5.2 1V14.0 aX 1V11.0 2X 19V6.1 7X aV6.1 6X",
  "35V6.1 1X eV6.1 3V11.0 1V13.0 8X 27V7.0 9X 49V6.1 4V8.0 1V7.0 2V13.0 aV6.1 1V7.0 5V8.0 1X",
  "14V7.0 bX 12V7.0 1X 2bV7.0 1V9.0 3V15.0 3eX 7V8.0 1X 1V8.0 1X 4V8.0 1X fV8.0 1X bV8.0 6X",
  "3bV7.0 5X aV7.0 6X 1V8.0 3V7.0 1X 8V7.0 2X 2V7.0 2X 16V7.0 1X 7V7.0 1X 2V7.0 1X 5V7.0 1X",
  "1V11.0 9V7.0 2X 2V7.0 2X 3V7.0 2X 1V8.0 6X 1V7.0 5X 7V7.0 2X 7V7.0 3X 5V7.0 bX aV16.0 1X",
  "1V16.0 2X 1V16.0 1X 26V16.0 1X aV16.0 1X 1V16.0 2X 1V16.0 1X 4V16.0 1X aV16.0 1X 2V16.0 8X",
  "2V16.0 1dX 5aV9.0 1V13.0 1V9.0 1X 1V9.0 1V11.0 1V12.0 2V13.0 1eX 48V7.0 8X aV7.0 a6X 36V7.0 2X",
  "12V7.0 14V8.0 22X 45V7.0 bX aV7.0 6X dV9.0 13X 38V6.1 1V12.0 1V14.0 6X aV6.1 6X 14V16.0 1cX",
  "1aV8.0 1V11.0 2X fV8.0 4X 10V8.0 7V14.0 b9X 3cV11.0 64X 53V7.0 cX 1V7.0 7V13.0 2X 1V13.0 2X",
  "8V13.0 1X 2V13.0 1X 1eV13.0 1X 2V13.0 2X cV13.0 9X aV13.0 46X 8V12.0 2X 2eV12.0 2X bV12.0 1bX",
  "48V10.0 8X 34V10.0 2V12.0 17V10.0 1V11.0 5V10.0 dX 10V14.0 39V7.0 7X aV15.0 b6X 22V16.0 eX",
  "aV16.0 6X 9V9.0 1X 2dV9.0 1X eV9.0 aX 1dV9.0 3X 20V9.0 2X 16V9.0 1X eV9.0 49X 7V10.0 1X 2V10.0",
  "1X 2cV10.0 3X 1V10.0 1X 2V10.0 1X 9V10.0 8X aV10.0 6X 6V11.0 1X 2V11.0 1X 25V11.0 1X 2V11.0 1X",
  "6V11.0 7X aV11.0 136X 19V11.0 7X 11V15.0 1X 29V15.0 3X 1cV15.0 1V16.0 55X 1V13.0 fX 32V12.0 dX",
  "1V12.0 36fV5.0 2aV7.0 1V8.0 66X 63V5.0 cV7.0 1X 4V5.0 1V7.0 bX c4V8.0 a4cX 63V14.0 dX 42fV5.2",
  "1V15.0 9V12.0 1dV15.0 aX f9bV16.0 5X 247V8.0 1ab9X 3aV16.0 6c6X 239V6.0 7X 1fV7.0 1X aV7.0 4X",
  "2V7.0 4fV14.0 1X aV14.0 6X 1eV7.0 2X 6V7.0 aX 46V7.0 aX aV7.0 1X 7V7.0 1X 15V7.0 5X 13V7.0",
  "1b0X 3aV16.0 c6X 5bV11.0 65X 45V6.1 6V12.0 4X 1V12.0 2fV6.1 9V12.0 7X 11V6.1 40X 1V9.0 1V10.0",
  "2V12.0 1V13.0 bX 2V13.0 eX 17edV9.0 5V11.0 6V12.0 8X 2f3V9.0 1e3V13.0 29X 1V16.0 9V13.0 22e7X",
  "4V14.0 1X 7V14.0 1X 2V14.0 1X 2V6.0 11dV10.0 4V14.0 fX 1V15.0 1dX 3V12.0 2X 1V15.0 eX 4V12.0",
  "8X 18cV10.0 904X 6bV7.0 5X dV7.0 3X 9V7.0 7X aV7.0 2X 8V7.0 f5cX faV16.0 6X 1b4V16.0 4cX",
  "2eV14.0 2X 17V14.0 9X 74V14.0 3cX f6V3.1 aX 27V3.1 2X 1V5.1 b4V3.1 bV8.0 2V14.0 15X 46V4.1 7aX",
  "14V15.0 cX 14V11.0 cX 57V4.0 9X 12V5.0 7V11.0 87X 55V3.1 1X 47V3.1 1X 2V3.1 2X 1V3.1 2X 2V3.1",
  "2X 4V3.1 1X cV3.1 1X 1V3.1 1X 4V3.1 1V4.0 2V3.1 1X 41V3.1 1X 4V3.1 2X 8V3.1 1X 7V3.1 1X 1cV3.1",
  "1X 4V3.1 1X 5V3.1 1X 1V3.1 3X 7V3.1 1X 152V3.1 2V4.1 2X 122V3.1 2V5.0 2X 32V3.1 28cV8.0 fX",
  "5V8.0 1X fV8.0 450X 1fV14.0 6X 6V15.0 d5X 7V9.0 1X 11V9.0 2X 7V9.0 1X 2V9.0 1X 5V9.0 5X",
  "3eV15.0 21X 1V15.0 70X 2dV12.0 3X eV12.0 2X aV12.0 4X 2V12.0 140X 1fV14.0 11X 3aV12.0 5X",
  "1V12.0 1d0X 2aV15.0 d6X 2bV16.0 4X 1V16.0 1e0X 7V14.0 1X 4V14.0 1X 2V14.0 1X fV14.0 1X c5V7.0",
  "2X 10V7.0 29X 4bV9.0 1V12.0 4X aV9.0 4X 2V9.0 311X 44V11.0 4cX 3dV12.0 c2X 4V6.1 1X 1bV6.1 1X",
  "2V6.1 1X 1V6.1 2X 1V6.1 1X aV6.1 1X 4V6.1 1X 1V6.1 1X 1V6.1 6X 1V6.1 4X 1V6.1 1X 1V6.1 1X",
  "1V6.1 1X 3V6.1 1X 2V6.1 1X 1V6.1 2X 1V6.1 1X 1V6.1 1X 1V6.1 1X 1V6.1 1X 1V6.1 1X 2V6.1 1X",
  "1V6.1 2X 4V6.1 1X 7V6.1 1X 4V6.1 1X 4V6.1 1X 1V6.1 1X aV6.1 1X 11V6.1 5X 3V6.1 1X 5V6.1 1X",
  "11V6.1 34X 2V6.1 10eX 2cV5.1 4X 64V5.1 cX fV6.0 2X eV6.0 1V7.0 1X fV6.0 1X fV6.0 16V7.0 aX",
  "bV5.2 2V7.0 3V13.0 1fV5.2 1V11.0 1V6.0 1V5.2 bV6.0 1V5.2 1V6.0 1V5.2 2V6.0 1V5.2 3V6.0 1V5.2",
  "3V6.0 5V5.2 8V6.0 1V5.2 7V6.0 1V5.2 aV6.0 2V6.1 1V12.0 3V13.0 9V6.0 1V5.2 1V6.0 2V5.2 2V6.0",
  "1V5.2 aV6.0 4V5.2 2V6.0 1V5.2 aV6.0 12V9.0 1V13.0 38X 1aV6.0 1V5.2 2V6.0 dX 22V5.2 9V6.0 1V9.0",
  "4X 9V5.2 7X 2V6.0 eX 6V10.0 9aX 21V6.0 cV7.0 3V8.0 6V6.0 1V7.0 46V6.0 1V7.0 2V8.0 14V6.0 cV7.0",
  "25V6.0 1V7.0 5V6.0 4V7.0 5V8.0 cV7.0 11V6.0 7V7.0 8V8.0 3fV6.0 1V7.0 1V6.0 1V7.0 b6V6.0 1V7.0",
  "4V6.0 2V7.0 1V8.0 3eV6.0 2V7.0 4V6.1 7V7.0 5V8.0 18V6.0 12V7.0 1V9.0 29V7.0 1V9.0 56V7.0 5V6.0",
  "1V6.1 10V6.0 1V6.1 3V6.0 1V6.1 1V6.0 1V6.1 1V6.0 1V6.1 1V6.0 1V6.1 3V6.0 1V6.1 6V6.0 2V6.1",
  "4V6.0 1V6.1 1V6.0 2V6.1 4V6.0 1V6.1 cV6.0 2V7.0 2V8.0 bV6.0 30V7.0 46V6.0 aV7.0 1V8.0 2V9.0",
  "2V10.0 1V12.0 2V13.0 4X 1V15.0 3V14.0 dV7.0 3X 4V7.0 3V9.0 2V10.0 1V11.0 1V12.0 2V13.0 3X",
  "74V6.0 3V15.0 4X 5V15.0 55V7.0 4V11.0 1V15.0 6X cV12.0 4X 1V14.0 fX cV7.0 4X 38V7.0 8X aV7.0",
  "6X 28V7.0 8X 1eV7.0 2X 2V13.0 aV16.0 4X 2V16.0 3eX cV10.0 1V13.0 3V12.0 9V8.0 6V9.0 1V10.0",
  "8V9.0 8V10.0 1V9.0 2V10.0 cV9.0 1V12.0 cV9.0 1V10.0 3V11.0 fV9.0 dV10.0 5V11.0 1V12.0 1V13.0",
  "4V11.0 2V13.0 1V14.0 1V11.0 1V12.0 4V11.0 5V8.0 dV9.0 6V10.0 bV11.0 2V13.0 6V12.0 3V13.0",
  "2V12.0 aV11.0 6V12.0 1V8.0 2V11.0 8V12.0 1V13.0 1V14.0 3V12.0 17V10.0 19V11.0 54V12.0 cX",
  "eV11.0 2X 4V12.0 1V13.0 3V15.0 3V12.0 2V14.0 3X 3V12.0 4V13.0 2V15.0 1V16.0 5X 1V16.0 6V12.0",
  "13V13.0 4V14.0 3V15.0 7V13.0 4V14.0 3V15.0 1V16.0 1V15.0 3V13.0 3V14.0 1V16.0 7X 2V15.0 7V13.0",
  "3V14.0 2V15.0 1V16.0 2X 1V16.0 8V14.0 1V15.0 1V16.0 6X 7V14.0 2V15.0 7X 93V13.0 1X 37V13.0",
  "25V16.0 aV13.0 404X 2V2.0 a6d7V3.1 7V13.0 2V14.0 20X 1035V5.2 4V14.0 1V15.0 6X deV6.0 2X",
  "1682V8.0 eX 1d31V10.0 fX 26eV15.1 9a2X 21eV3.1 5e0X 2V2.0 134bV13.0 5X 1060V15.0 dc4eX 2V2.0",
  "fffeX 2V2.0 fffeX 2V2.0 fffeX 2V2.0 fffeX 2V2.0 fffeX 2V2.0 fffeX 2V2.0 fffeX 2V2.0 fffeX",
  "2V2.0 fffeX 2V2.0 fffeX 2V2.0 1X 1V3.1 1eX 60V3.1 80X f0V4.0 fe0eX 20002V2.0"]

/-- The ages of all code points. -/
def ageLabels : Text.Labels (Option Version) := .ofTable Version.ofLabel ageTable

/-- The version in which a character was assigned; ASCII characters are not looked up. -/
def age? (c : Char) : Option Version :=
  if c.toNat < 0x80 then some ⟨1, 1⟩ else (ageLabels.get? c).join

/-- Whether patterns know a character. -/
def isKnown (c : Char) : Bool := (age? c).isSome

end OrderedLexer.Pattern
