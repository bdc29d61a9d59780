/-
  Sets of characters over the bytes of UTF-8.

  `byteSequences` writes a set as sequences of byte ranges, in increasing order: a character is in
  the set if its bytes lie in the ranges of one of them.

  * `stepsForward` are the steps that read one of the sequences from its first byte, equal steps
    written once;
  * `stepsBackward` is the number of steps that read them from the last byte, in which the steps of
    common first bytes are shared.
-/
import OrderedLexer.Pattern.CharSet

namespace OrderedLexer.Pattern

/-! ## Ranges of code points -/

/-- The ranges of the code points with a property among the `count` ones up to `n`, before `found`.
    If `stop` is given, the last range is open and ends there. -/
def rangesBelow (p : Nat → Bool) : Nat → Option Nat → List (Nat × Nat) → List (Nat × Nat)
  | 0, none, found => found
  | 0, some stop, found => (0, stop) :: found
  | n + 1, stop, found =>
    match p n, stop with
    | true, none => rangesBelow p n (some n) found
    | false, some stop => rangesBelow p n none ((n + 1, stop) :: found)
    | _, stop => rangesBelow p n stop found

/-- The ranges of a set, in increasing order.  Surrogates are no characters. -/
def CharSet.toRanges (s : CharSet) : List (Nat × Nat) :=
  rangesBelow (fun n => n.isValidChar && s.contains (Char.ofNat n)) 0x110000 Option.none []

/-! ## Ranges of bytes -/

/-- A range of bytes. -/
abbrev ByteRange := Nat × Nat

/-- The bytes of a code point. -/
def utf8Bytes (n : Nat) : List Nat :=
  if n < 0x80 then [n]
  else if n < 0x800 then [0xc0 + n / 0x40, 0x80 + n % 0x40]
  else if n < 0x10000 then [0xe0 + n / 0x1000, 0x80 + n / 0x40 % 0x40, 0x80 + n % 0x40]
  else [0xf0 + n / 0x40000, 0x80 + n / 0x1000 % 0x40, 0x80 + n / 0x40 % 0x40, 0x80 + n % 0x40]

/-- The parts of a range in which each byte varies on its own.  What is left of the first block of
    code points with common first bytes, and of the last one, are parts of their own. -/
def blockParts : (levels : Nat) → (block lo hi : Nat) → List (Nat × Nat)
  | 0, _, lo, hi => [(lo, hi)]
  | levels + 1, block, lo, hi =>
    if lo / block = hi / block then [(lo, hi)]
    else
      let first := (lo + block - 1) / block * block
      let stop := (hi + 1) / block * block
      (if lo < first then [(lo, first - 1)] else []) ++
        (if first < stop then blockParts levels (block * 0x40) first (stop - 1) else []) ++
        (if stop ≤ hi then [(stop, hi)] else [])

/-- The ranges of code points with one number of bytes. -/
def utf8Lengths : List (Nat × Nat) := [
  (0, 0x7f), (0x80, 0x7ff), (0x800, 0xffff), (0x10000, 0x10ffff)]

/-- A range of code points as sequences of byte ranges. -/
def rangeSequences (lo hi : Nat) : List (List ByteRange) :=
  utf8Lengths.flatMap fun (first, last) =>
    let lo := max lo first
    let hi := min hi last
    if hi < lo then []
    else
      let parts := if hi < 0x80 then [(lo, hi)] else blockParts 3 0x40 lo hi
      parts.map fun (lo, hi) => (utf8Bytes lo).zip (utf8Bytes hi)

/-- Ranges of code points as sequences of byte ranges. -/
def byteSequences (rs : List (Nat × Nat)) : List (List ByteRange) :=
  rs.flatMap fun (lo, hi) => rangeSequences lo hi

/-! ## Steps -/

/-- A step that reads a byte: byte ranges, each with the number of the step behind it. -/
abbrev ByteStep := List (ByteRange × Nat)

/-- The number of a step among those that are known, the last one first, which it is added to if it
    is new.  The end of a sequence has the number 0. -/
def shareStep (known : List ByteStep) (b : ByteStep) : Nat × List ByteStep :=
  match known.idxOf? b with
  | some i => (known.length - i, known)
  | none => (known.length + 1, b :: known)

/-- The number of the step that reads the first byte of some sequences, of at most `depth` ranges,
    and the steps that are known then. -/
def stepsFrom : (depth : Nat) → List (List ByteRange) → List ByteStep → Nat × List ByteStep
  | 0, _, known => (0, known)
  | depth + 1, seqs, known =>
    let (branches, known) := (seqs.splitBy fun a b => a.head? == b.head?).foldl
      (fun (branches, known) group =>
        let rests := (group.map List.tail).filter (!·.isEmpty)
        let (next, known) := if rests.isEmpty then (0, known) else stepsFrom depth rests known
        (((group.headD []).headD (0, 0), next) :: branches, known))
      ([], known)
    shareStep known branches.reverse

/-- The steps that read one of some sequences from its first byte. -/
def stepsForward (seqs : List (List ByteRange)) : List ByteStep := (stepsFrom 4 seqs []).2

/-- The number of equal elements at the starts of two lists. -/
def commonLength {α : Type} [BEq α] : List α → List α → Nat
  | a :: as, b :: bs => if a == b then commonLength as bs + 1 else 0
  | _, _ => 0

/-- The number of steps that read one of some sequences from its last byte, behind the sequence
    `prev`. -/
def stepsBackward (prev : List ByteRange) : List (List ByteRange) → Nat
  | [] => 0
  | s :: seqs => (s.length - commonLength prev s) + stepsBackward s seqs

end OrderedLexer.Pattern
