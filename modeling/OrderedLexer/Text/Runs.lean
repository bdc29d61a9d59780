/-
  Sets and labellings of code points, written down as the lengths of their runs.

  A set is the list of lengths of its alternating runs: first a run outside the set, then one
  inside it, and so on.  A labelling is a list of lengths, each followed by the label of the run.
  Lengths are hexadecimal.

  * `Runs` holds the code points at which a run starts, and `Runs.contains` is the parity of the
    number of starts at or below a code point (`rank`);
  * `Labels` holds the starts beside the labels, and `Labels.get?` is the label of the last start
    at or below a code point.
-/
import OrderedLexer.Text.Hex

namespace OrderedLexer.Text

/-! ## Reading tables -/

/-- The words of a table: the maximal parts of its lines without a blank. -/
def tableWords (lines : List String) : List (List Char) :=
  lines.flatMap fun line => (line.toList.splitOn ' ').filter (!·.isEmpty)

/-- The numbers of a table, written in hexadecimal. -/
def tableNumbers (lines : List String) : List Nat :=
  (tableWords lines).map fun w => (ofHex? w).getD 0

/-- Every total of a list of lengths: where each run ends and the next one starts. -/
def totals (start : Nat) : List Nat → List Nat
  | [] => []
  | n :: ns => (start + n) :: totals (start + n) ns

/-! ## Rank in a sorted array -/

/-- The number of entries at most `n` among those from `lo` to `hi` of a sorted array, added to
    `lo`, by halving. -/
def rankFrom (a : Array Nat) (n lo hi : Nat) : Nat :=
  if lo < hi then
    let mid := (lo + hi) / 2
    if a.getD mid 0 ≤ n then rankFrom a n (mid + 1) hi else rankFrom a n lo mid
  else lo
termination_by hi - lo

/-- The number of entries at most `n` in a sorted array. -/
def rank (a : Array Nat) (n : Nat) : Nat := rankFrom a n 0 a.size

/-! ## Sets -/

/-- A set of code points: the starts of its runs, the first of which is inside the set. -/
structure Runs where
  starts : Array Nat

namespace Runs

/-- The set written as the lengths of its runs, the first of which is outside it. -/
def ofTable (lines : List String) : Runs := ⟨(totals 0 (tableNumbers lines)).toArray⟩

/-- The set of the code points in some ranges, given by both ends in increasing order. -/
def ofRanges (rs : List (Nat × Nat)) : Runs := ⟨(rs.flatMap fun r => [r.1, r.2 + 1]).toArray⟩

/-- Whether a code point is in the set. -/
def contains (r : Runs) (c : Char) : Bool := rank r.starts c.toNat % 2 == 1

end Runs

/-! ## Labellings -/

/-- A labelling of all code points. -/
structure Labels (α : Type) where
  starts : Array Nat
  labels : Array α

namespace Labels

variable {α : Type}

/-- One run of a labelling: its length and its label. -/
def splitWord (label : List Char → α) (w : List Char) : Nat × α :=
  ((ofHex? (w.takeWhile isRunDigit)).getD 0, label (w.dropWhile isRunDigit))
where
  /-- The digits of a run's length; no label starts with one. -/
  isRunDigit (c : Char) : Bool := c.isDigit || c.isLower

/-- The labelling written as runs of a length and a label each. -/
def ofTable (label : List Char → α) (lines : List String) : Labels α :=
  let runs := (tableWords lines).map (splitWord label)
  ⟨(0 :: totals 0 (runs.map Prod.fst)).toArray, (runs.map Prod.snd).toArray⟩

/-- The label of a code point. -/
def get? (l : Labels α) (c : Char) : Option α := l.labels[rank l.starts c.toNat - 1]?

end Labels

end OrderedLexer.Text
