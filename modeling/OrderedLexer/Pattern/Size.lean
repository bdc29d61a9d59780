/-
  The size of patterns.

  A pattern stands for an automaton over the bytes of a text, and for another one that reads the
  text backwards.  `Node.size` is the number of bytes that one of them takes; a pattern for which
  it exceeds `maxSize` is refused (`Node.fits`).  The size of a set is costly to find, so a bound
  is tried first.
-/
import OrderedLexer.Pattern.Node
import OrderedLexer.Pattern.Utf8

namespace OrderedLexer.Pattern

/-! ## Steps -/

/-- The size of what consists of parts with given sizes. -/
def totalSize (sizes : List Nat) : Nat := sizes.foldr (· + ·) 0

/-- The size of a step. -/
def stepSize : Nat := 32

/-- The size of a step that reads one of some byte ranges. -/
def rangesSize (n : Nat) : Nat := stepSize + 8 * n

/-- The size of a step that goes on in some ways. -/
def forkSize (n : Nat) : Nat := stepSize + 4 * n

/-- The direction in which an automaton reads a text. -/
inductive Direction where
  | forward | backward
  deriving DecidableEq, Repr

/-- Texts in the order in which their bytes are read. -/
def Direction.order : Direction → List (List Nat) → List (List Nat)
  | .forward, texts => texts
  | .backward, texts => texts.map List.reverse

/-! ## Sets -/

/-- The size of a character that is given on its own. -/
def charSize (n : Nat) : Nat := stepSize * (utf8Bytes n).length

/-- The size of a set with given ranges. -/
def rangeListSize (d : Direction) (rs : List (Nat × Nat)) : Nat :=
  match rs with
  | [(lo, hi)] => if lo = hi then charSize lo else many rs
  | rs => many rs
where
  /-- The size of a set that is no single character. -/
  many (rs : List (Nat × Nat)) : Nat :=
    if rs.all (·.2 < 0x80) then stepSize + rangesSize rs.length
    else
      let seqs := byteSequences rs
      match d with
      | .forward => stepSize + totalSize ((stepsForward seqs).map fun b => rangesSize b.length)
      | .backward => stepSize + forkSize seqs.length + stepSize * stepsBackward [] seqs

/-- The size of a set. -/
def CharSet.size (d : Direction) : CharSet → Nat
  | .range lo hi => rangeListSize d [(lo.toNat, hi.toNat)]
  | s => rangeListSize d s.toRanges

/-- A bound on the size of a set. -/
def CharSet.sizeBound : CharSet → Nat
  | .none => stepSize + stepSize
  | .range lo hi =>
    if lo = hi then charSize lo.toNat else if hi.toNat < 0x80 then stepSize + rangesSize 1 else 2048
  | .property _ => 65536
  | .union a b | .inter a b | .diff a b | .symm a b => a.sizeBound + b.sizeBound
  | .compl a => a.sizeBound + 2048
  | .fold a | .foldAscii a => 2 * a.sizeBound + 4096

/-! ## Choices of texts -/

/-- The bytes of a node that stands for one text. -/
def Node.literal? : Node → Option (List Nat)
  | .one (.range lo hi) => if lo = hi then some (utf8Bytes lo.toNat) else none
  | .cat a b => a.literal?.bind fun as => b.literal?.map fun bs => as ++ bs
  | _ => none

/-- The bytes of the branches of a choice, if each of them stands for one text. -/
def Node.literals? : Node → Option (List (List Nat))
  | .alt a b => a.literals?.bind fun as => b.literals?.map fun bs => as ++ bs
  | x => x.literal?.map fun s => [s]

/-- The bytes that texts start with, each one once. -/
def firstBytes (texts : List (List Nat)) : List Nat := (texts.filterMap List.head?).eraseDups

/-- The size of the steps that read one of some texts, of at most `depth` bytes, from the first byte
    on.  Texts with the same first bytes share their steps, but not with those behind a text that
    ends there. -/
def textsSize : (depth : Nat) → List (List Nat) → Nat
  | 0, _ => 0
  | depth + 1, texts =>
    if texts.all List.isEmpty then 0
    else
      let chunks := texts.splitOnP List.isEmpty
      let sizes := chunks.map fun chunk =>
        let firsts := firstBytes chunk
        let behind := firsts.map fun b =>
          textsSize depth ((chunk.filter (·.head? == some b)).map List.tail)
        totalSize behind + (match firsts.length with
          | 0 => 0
          | 1 => stepSize
          | n => rangesSize n)
      totalSize sizes + forkSize (chunks.length - 1 + (chunks.filter (!·.isEmpty)).length)

/-! ## Nodes -/

/-- The size of a node that stands alone, by its size between others. -/
def alone (size : Nat) : Nat := if size = 0 then stepSize else size

/-- The size of a repetition, by the size of what is repeated. -/
def repSize (nullable : Bool) (min : Nat) (max : Option Nat) (size : Nat) : Nat :=
  match min, max with
  | 0, none => if nullable then size + 2 * forkSize 2 + stepSize else size + forkSize 2
  | n, none => n * size + forkSize 2
  | 0, some 1 => size + forkSize 2 + stepSize
  | n, some m =>
    if n = m then n * size
    else alone (n * size) + stepSize + (m - n) * (size + forkSize 2)

/-- The size of a branch of a choice, by its size as a choice of its own.  The branches of a choice
    within a choice are branches of the outer one. -/
def Node.branchSize (x : Node) (size : Nat) : Nat :=
  match x with
  | .alt _ _ => size - (forkSize 0 + stepSize)
  | _ => alone size + forkSize 1 - forkSize 0

/-- The size of a node that is no branch, by its size as any choice.  A choice of texts shares
    steps. -/
def Node.wholeSize (d : Direction) (x : Node) (size : Nat) : Nat :=
  match x with
  | .alt _ _ =>
    match x.literals? with
    | some texts => stepSize + textsSize (totalSize (texts.map List.length)) (d.order texts)
    | none => size
  | _ => size

/-- The size of a node between others, by the sizes of sets; no steps of a choice of texts are
    shared. -/
def Node.sizeWith (d : Direction) (set : CharSet → Nat) : Node → Nat
  | .empty => 0
  | .one s => set s
  | .look _ => stepSize
  | .group x =>
    alone (x.wholeSize d (x.sizeWith d set)) + (if d = .forward then 2 * stepSize else 0)
  | .cat a b => a.wholeSize d (a.sizeWith d set) + b.wholeSize d (b.sizeWith d set)
  | .alt a b =>
    forkSize 0 + stepSize + a.branchSize (a.sizeWith d set) + b.branchSize (b.sizeWith d set)
  | .rep min max _ x => repSize x.nullable min max (alone (x.wholeSize d (x.sizeWith d set)))

/-- The size of what stands around a pattern: where it starts and ends, and, for a text that is read
    backwards, what skips the text behind a match. -/
def frameSize : Direction → Nat
  | .forward => 4 * stepSize
  | .backward => 2 * stepSize + rangesSize 1 + forkSize 2

/-- The size of the automaton of a node, by the sizes of sets. -/
def Node.totalWith (d : Direction) (set : CharSet → Nat) (x : Node) : Nat :=
  frameSize d + alone (x.wholeSize d (x.sizeWith d set))

/-- The size of the automaton of a node. -/
def Node.size (d : Direction) (x : Node) : Nat := x.totalWith d (CharSet.size d)

/-- The size that no automaton may exceed: ten mebibytes. -/
def maxSize : Nat := 10 * 1024 * 1024

/-- Whether the automata of a node are small enough. -/
def Node.fits (x : Node) : Bool :=
  [Direction.forward, .backward].all fun d =>
    x.totalWith d CharSet.sizeBound ≤ maxSize || x.size d ≤ maxSize

end OrderedLexer.Pattern
