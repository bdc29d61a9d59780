/-
  The preferred match of a pattern at the start of a text.

  All threads move through the text together, the preferred ones first, so the time is linear in the
  length of the text.  A thread is the address of the step that it takes next.

  * `follow` takes threads, at a place of the text, up to the characters that they can take there,
    and lists the addresses behind these characters in the order of preference.  A thread that
    reaches the end of the program has found a match, and the threads behind it are dropped;
  * each step is followed once at a place: a second visit could only find what the first one has
    found already, or will find.  A step is marked by the number of the place;
  * `run` moves threads through the text and keeps the length of the last match found.
-/
import OrderedLexer.Pattern.Program

namespace OrderedLexer.Pattern

/-! ## Following threads -/

/-- What was reached at a place of the text. -/
structure Front where
  /-- The number of the last place at which each step was followed. -/
  marks : Array Nat
  /-- The threads that go on behind the next character, the last one first. -/
  threads : List Nat
  /-- Whether a match was found. -/
  accepted : Bool

namespace Program

/-- Follows threads at the place with a number, between two characters.  Each round takes a thread
    off the list, and puts two others there only if it marks a step, so `fuel` rounds are enough if
    there are as many as threads and twice as many as steps. -/
def follow (p : Program) (prev next : Option Char) (place : Nat) :
    (fuel : Nat) → (todo : List Nat) → (marks : Array Nat) → (threads : List Nat) → Front
  | 0, _, marks, threads => ⟨marks, threads, false⟩
  | _ + 1, [], marks, threads => ⟨marks, threads, false⟩
  | fuel + 1, n :: todo, marks, threads =>
    if marks.getD n 0 == place then p.follow prev next place fuel todo marks threads
    else
      let marks := marks.set! n place
      match p.at_ n with
      | .accept => ⟨marks, threads, true⟩
      | .one s m =>
        p.follow prev next place fuel todo marks
          (if next.any s.contains then m :: threads else threads)
      | .look l m =>
        p.follow prev next place fuel (if l.holds prev next then m :: todo else todo) marks threads
      | .fork first second =>
        p.follow prev next place fuel (first :: second :: todo) marks threads

/-- Follows all threads at a place. -/
def followAll (p : Program) (prev next : Option Char) (place : Nat) (todo : List Nat)
    (marks : Array Nat) : Front :=
  p.follow prev next place (todo.length + 2 * p.code.size) todo marks []

/-! ## Searching -/

/-- Moves threads through a text.  `taken` characters were taken, and the last match found has the
    length `best`. -/
def run (p : Program) (todo : List Nat) (marks : Array Nat) (prev : Option Char) (taken : Nat)
    (best : Option Nat) : List Char → Option Nat
  | [] => if (p.followAll prev none (taken + 1) todo marks).accepted then some taken else best
  | c :: rest =>
    match p.followAll prev (some c) (taken + 1) todo marks with
    | ⟨marks, threads, accepted⟩ =>
      let best := if accepted then some taken else best
      if threads.isEmpty then best
      else p.run threads.reverse marks (some c) (taken + 1) best rest

/-- The length of the preferred match at the start of a text. -/
def matchLength? (p : Program) (text : List Char) : Option Nat :=
  p.run [p.start] (Array.replicate p.code.size 0) none 0 none text

end Program

end OrderedLexer.Pattern
