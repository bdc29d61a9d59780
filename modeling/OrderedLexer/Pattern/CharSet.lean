/-
  Sets of characters, as patterns name them.

  A set is an expression over ranges and properties; `CharSet.contains` decides membership.
-/
import OrderedLexer.Pattern.Property
import OrderedLexer.Pattern.Property.Folding

namespace OrderedLexer.Pattern

/-- A set of characters. -/
inductive CharSet where
  /-- The empty set. -/
  | none
  /-- The characters between two ends, both included. -/
  | range (lo hi : Char)
  /-- The characters with a property. -/
  | property (p : Property)
  | union (a b : CharSet)
  | inter (a b : CharSet)
  | diff (a b : CharSet)
  /-- The characters in one of two sets, but not in both. -/
  | symm (a b : CharSet)
  | compl (a : CharSet)
  /-- The characters that differ at most in case from one of the set. -/
  | fold (a : CharSet)
  /-- The characters that differ at most in the case of an ASCII letter from one of the set. -/
  | foldAscii (a : CharSet)
  deriving DecidableEq, Repr

namespace CharSet

/-- The set of one character. -/
abbrev single (c : Char) : CharSet := .range c c

/-- Whether a set is written as one character. -/
def isSingle : CharSet → Bool
  | .range lo hi => lo == hi
  | _ => false

/-- Whether a character is in a set. -/
def contains : CharSet → Char → Bool
  | .none, _ => false
  | .range lo hi, c => lo ≤ c && c ≤ hi
  | .property p, c => p.contains c
  | .union a b, c => a.contains c || b.contains c
  | .inter a b, c => a.contains c && b.contains c
  | .diff a b, c => a.contains c && !b.contains c
  | .symm a b, c => a.contains c != b.contains c
  | .compl a, c => !a.contains c
  | .fold a, c => a.contains c || (variants c).any a.contains
  | .foldAscii a, c => a.contains c || (asciiVariants c).any a.contains

/-- The union of some sets. -/
def unions : List CharSet → CharSet
  | [] => .none
  | [s] => s
  | s :: ss => .union s (unions ss)

theorem contains_single {c d : Char} : (single c).contains d = (d == c) := by
  rw [Bool.eq_iff_iff]
  simp only [contains, Bool.and_eq_true, decide_eq_true_eq, beq_iff_eq]
  constructor
  · rintro ⟨h₁, h₂⟩
    exact Char.le_antisymm h₂ h₁
  · rintro rfl
    exact ⟨Char.le_refl _, Char.le_refl _⟩

end CharSet

end OrderedLexer.Pattern
