/-
  Items of a pattern: its text cut into the parts that are read at once.

  `items` reads the items of a pattern.  Two things besides the text decide how the next item is
  read: whether blanks and comments are ignored there (the flag `x`, which ends with its group) and
  whether it stands in a bracketed class.  Both are kept in a `Mode`, which each item changes
  (`Mode.after`).

  A comment is an item too, and is open if the pattern ends before its line does.
-/
import OrderedLexer.Text.Hex
import OrderedLexer.Pattern.Ast

namespace OrderedLexer.Pattern

open Text (isWhiteSpace isAsciiDigit)

/-! ## Items -/

/-- A part of a pattern's text. -/
inductive Item where
  | atom (a : Atom)
  | bar
  | flags (changes : FlagChanges)
  | times (min : Nat) (max : Option Nat) (greedy : Bool)
  | openGroup (k : GroupKind)
  | closeGroup
  /-- The opening of a class, with the literals that can only stand there. -/
  | openClass (negated : Bool) (leading : List Char)
  | closeClass
  | setOp (o : SetOp)
  /-- A part of a class. -/
  | member (s : ClassSet)
  | comment (closed : Bool)
  deriving Repr

/-- What is read, with the characters left after it. -/
abbrev Result (α : Type) := Except Error (α × List Char)

namespace Scan

/-- Goes on with what a reader leaves. -/
def andThen {α β : Type} (x : Result α) (next : α → List Char → Result β) : Result β :=
  match x with
  | .ok (a, r) => next a r
  | .error e => .error e

/-! ## Blanks -/

/-- Takes the characters that satisfy `p`.  If blanks are ignored, white space and comments among
    them and behind them are dropped.  The second flag says that a comment is being dropped. -/
def gather (verbose : Bool) (p : Char → Bool) : Bool → List Char → List Char × List Char
  | _, [] => ([], [])
  | true, c :: cs => gather verbose p (c != '\n') cs
  | false, c :: cs =>
    if verbose && isWhiteSpace c then gather verbose p false cs
    else if verbose && c == '#' then gather verbose p true cs
    else if p c then
      let (taken, rest) := gather verbose p false cs
      (c :: taken, rest)
    else ([], c :: cs)

/-- What is left after white space and comments, if they are ignored. -/
def skip (verbose : Bool) (cs : List Char) : List Char :=
  (gather verbose (fun _ => false) false cs).2

/-- The character behind blanks, as the reader of ranges looks ahead: white space, at most one
    number sign, and white space again. -/
def peek? (verbose : Bool) (cs : List Char) : Option Char :=
  if !verbose then cs.head?
  else match cs.dropWhile isWhiteSpace with
    | '#' :: r => (r.dropWhile isWhiteSpace).head?
    | r => r.head?

theorem gather_length (verbose : Bool) (p : Char → Bool) (comment : Bool) (cs : List Char) :
    (gather verbose p comment cs).2.length ≤ cs.length := by
  induction cs generalizing comment with
  | nil => cases comment <;> simp [gather]
  | cons c cs ih =>
    cases comment with
    | true => simpa [gather] using Nat.le_succ_of_le (ih _)
    | false =>
      unfold gather
      split
      · exact Nat.le_succ_of_le (ih _)
      · split
        · exact Nat.le_succ_of_le (ih _)
        · split
          · exact Nat.le_succ_of_le (ih _)
          · exact Nat.le_refl _

theorem skip_length (verbose : Bool) (cs : List Char) : (skip verbose cs).length ≤ cs.length :=
  gather_length ..

/-! ## Escapes -/

/-- A given number of hexadecimal digits. -/
def fixedDigits (verbose : Bool) : Nat → List Char → Result (List Char)
  | 0, cs => .ok ([], cs)
  | n + 1, cs =>
    match cs with
    | [] => .error .escapeAtEnd
    | c :: r =>
      if Text.isHexDigit c then
        andThen (fixedDigits verbose n (if n = 0 then r else skip verbose r)) fun ds r =>
          .ok (c :: ds, r)
      else .error .hexInvalid

/-- Characters in braces, behind the opening one. -/
def braced (verbose : Bool) (cs : List Char) : Result (List Char) :=
  match gather verbose (· != '}') false cs with
  | (name, '}' :: r) => .ok (name, r)
  | _ => .error .escapeAtEnd

/-- The character that hexadecimal digits write. -/
def hexChar (ds : List Char) : Except Error Char :=
  if ds.isEmpty then .error .hexEmpty
  else match (Text.ofHex? ds).bind Text.scalar? with
    | some c => .ok c
    | none => .error .hexInvalid

/-- A character by its code point: in braces, or by a fixed number of digits. -/
def hexEscape (verbose : Bool) (digits : Nat) (cs : List Char) : Result Atom :=
  match skip verbose cs with
  | '{' :: r =>
    andThen (braced verbose r) fun ds r => (hexChar ds).map fun c => (.literal c false, r)
  | r =>
    andThen (fixedDigits verbose digits r) fun ds r =>
      (hexChar ds).map fun c => (.literal c (digits == 2), r)

/-- The parts of a text before and behind the first place where `sep` stands. -/
def splitOnce? (sep : List Char) : List Char → Option (List Char × List Char)
  | [] => none
  | c :: cs =>
    if sep.isPrefixOf (c :: cs) then some ([], (c :: cs).drop sep.length)
    else (splitOnce? sep cs).map fun (a, b) => (c :: a, b)

/-- How a property is named in braces. -/
def propertyQuery (cs : List Char) : PropertyQuery :=
  match splitOnce? ['!', '='] cs with
  | some (name, value) => .value (String.ofList name) false (String.ofList value)
  | none =>
    match (splitOnce? [':'] cs).or (splitOnce? ['='] cs) with
    | some (name, value) => .value (String.ofList name) true (String.ofList value)
    | none => .name (String.ofList cs)

/-- A class of characters by a property. -/
def propertyEscape (verbose negated : Bool) (cs : List Char) : Result Atom :=
  match skip verbose cs with
  | [] => .error .escapeAtEnd
  | '{' :: r =>
    andThen (braced verbose r) fun name r => .ok (.property negated (propertyQuery name), r)
  | c :: r =>
    if c = '\\' then .error .propertyInvalid
    else .ok (.property negated (.name c.toString), r)

/-- The boundary with a name. -/
def boundaryNamed? (name : List Char) : Option Boundary :=
  [("start", Boundary.start), ("end", .stop), ("start-half", .startHalf),
    ("end-half", .stopHalf)].lookup (String.ofList name)

/-- Characters in the names of boundaries. -/
def isBoundaryChar (c : Char) : Bool := Text.isAsciiLetter c || c = '-'

/-- A boundary of words: `\b`, with a name in braces if what follows is not a count. -/
def boundaryEscape (verbose : Bool) (cs : List Char) : Result Atom :=
  match cs with
  | '{' :: r =>
    match skip verbose r with
    | [] => .error .escapeAtEnd
    | c :: _ =>
      if isBoundaryChar c then
        andThen (braced verbose r) fun name r =>
          match boundaryNamed? name with
          | some b => .ok (.look (.word b), r)
          | none => .error .boundaryUnknown
      else .ok (.look (.word .edge), cs)
  | _ => .ok (.look (.word .edge), cs)

/-- The classes with a letter of their own. -/
def shorthand? (c : Char) : Option Atom :=
  match c with
  | 'd' => some (.shorthand false .digit)
  | 'D' => some (.shorthand true .digit)
  | 's' => some (.shorthand false .space)
  | 'S' => some (.shorthand true .space)
  | 'w' => some (.shorthand false .word)
  | 'W' => some (.shorthand true .word)
  | _ => none

/-- Assertions that are an escape of one character. -/
def assertion? (c : Char) : Option Assertion :=
  match c with
  | 'A' => some .textStart
  | 'z' => some .textStop
  | 'B' => some (.word .inside)
  | '<' => some (.word .start)
  | '>' => some (.word .stop)
  | _ => none

/-- Control characters that have a letter. -/
def control? (c : Char) : Option Char :=
  match c with
  | 'a' => some (Char.ofNat 0x07)
  | 'f' => some (Char.ofNat 0x0C)
  | 't' => some '\t'
  | 'n' => some '\n'
  | 'r' => some '\r'
  | 'v' => some (Char.ofNat 0x0B)
  | _ => none

/-- Punctuation that stands for itself behind a backslash. -/
def isEscapable (c : Char) : Bool :=
  c.toNat < 0x80 && !Text.isAsciiLetter c && !isAsciiDigit c && c != '<' && c != '>'

/-- An escape of one character. -/
def simpleEscape (c : Char) : Except Error Atom :=
  if isAsciiDigit c then .error .backreference
  else if isEscapable c then .ok (.literal c false)
  else match shorthand? c, assertion? c, control? c with
    | some a, _, _ => .ok a
    | none, some a, _ => .ok (.look a)
    | none, none, some d => .ok (.literal d false)
    | none, none, none => .error .escapeUnknown

/-- An escape, behind its backslash. -/
def escape (verbose : Bool) (cs : List Char) : Result Atom :=
  match cs with
  | [] => .error .escapeAtEnd
  | c :: r =>
    if c = 'x' then hexEscape verbose 2 r
    else if c = 'u' then hexEscape verbose 4 r
    else if c = 'U' then hexEscape verbose 8 r
    else if c = 'p' then propertyEscape verbose false r
    else if c = 'P' then propertyEscape verbose true r
    else if c = 'b' then boundaryEscape verbose r
    else (simpleEscape c).map fun a => (a, r)

/-! ## Groups -/

/-- The flag with a letter. -/
def flag? (c : Char) : Option Flag :=
  match c with
  | 'i' => some .caseInsensitive
  | 'm' => some .multiLine
  | 's' => some .dotAll
  | 'U' => some .swapGreed
  | 'u' => some .unicode
  | 'R' => some .crlf
  | 'x' => some .verbose
  | _ => none

/-- Flags up to a colon or a closing bracket, which is left.  `off` says that a minus sign was
    read, and `dangling` that it was the last character. -/
def flagChanges (seen : List Flag) (off dangling : Bool) : List Char → Result FlagChanges
  | [] => .error .flagsUnclosed
  | c :: r =>
    if c = ':' || c = ')' then
      if dangling then .error .flagNegation else .ok ([], c :: r)
    else if c = '-' then
      if off then .error .flagNegation else flagChanges seen true true r
    else match flag? c with
      | none => .error .flagUnknown
      | some f =>
        if seen.contains f then .error .flagRepeated
        else andThen (flagChanges (f :: seen) off false r) fun fs r => .ok ((f, !off) :: fs, r)

/-- Characters that may start the name of a group. -/
def isNameStart (c : Char) : Bool := c = '_' || Text.isAlphabetic c

/-- Characters that may go on in the name of a group. -/
def isNameRest (c : Char) : Bool :=
  c = '_' || c = '.' || c = '[' || c = ']' || Text.isAlphabetic c ||
    Text.isNumeric c

/-- The name of a group and its closing bracket. -/
def groupName (cs : List Char) : Result Item :=
  match cs.takeWhile (· != '>'), cs.dropWhile (· != '>') with
  | c :: name, _ :: r =>
    if isNameStart c && name.all isNameRest then
      .ok (.openGroup (.named (String.ofList (c :: name))), r)
    else .error .groupNameInvalid
  | _, _ => .error .groupNameInvalid

/-- The flags of a group, or flags by themselves. -/
def groupFlags (cs : List Char) : Result Item :=
  andThen (flagChanges [] false false cs) fun changes r =>
    match r with
    | ':' :: r => .ok (.openGroup (.plain changes), r)
    | _ :: r => if changes.isEmpty then .error .repetitionMissing else .ok (.flags changes, r)
    | [] => .error .flagsUnclosed

/-- The opening of a group with a name or flags, behind its question mark. -/
def special : List Char → Result Item
  | '=' :: _ | '!' :: _ | '<' :: '=' :: _ | '<' :: '!' :: _ => .error .lookAround
  | 'P' :: '<' :: r => groupName r
  | '<' :: r => groupName r
  | r => groupFlags r

/-- The opening of a group, behind its bracket. -/
def group (verbose : Bool) (cs : List Char) : Result Item :=
  match skip verbose cs with
  | '?' :: r => special r
  | _ => .ok (.openGroup .capture, cs)

/-! ## Repetitions -/

/-- The largest count of a repetition. -/
def maxCount : Nat := 0xFFFFFFFF

/-- A count, with white space around it. -/
def count (verbose : Bool) (cs : List Char) : Result Nat :=
  let (ds, r) := gather verbose isAsciiDigit false (cs.dropWhile isWhiteSpace)
  let n := ds.foldl (fun n d => 10 * n + (d.toNat - '0'.toNat)) 0
  if ds.isEmpty then .error .countEmpty
  else if maxCount < n then .error .countInvalid
  else .ok (n, r.dropWhile isWhiteSpace)

/-- The counts in the braces of a repetition, behind the opening one. -/
def counts (verbose : Bool) (cs : List Char) : Result (Nat × Option Nat) :=
  andThen (count verbose (skip verbose cs)) fun min r =>
    match r with
    | '}' :: r => .ok ((min, some min), r)
    | ',' :: r =>
      match skip verbose r with
      | '}' :: r => .ok ((min, none), r)
      | r =>
        andThen (count verbose r) fun max r =>
          match r with
          | '}' :: r => if max < min then .error .countInvalid else .ok ((min, some max), r)
          | _ => .error .countUnclosed
    | _ => .error .countUnclosed

/-- A counted repetition, behind its opening brace. -/
def counted (verbose : Bool) (cs : List Char) : Result Item :=
  andThen (counts verbose cs) fun n r =>
    match skip verbose r with
    | '?' :: rest => .ok (.times n.1 n.2 false, rest)
    | _ => .ok (.times n.1 n.2 true, r)

/-- A repetition by a sign, behind it. -/
def signed (min : Nat) (max : Option Nat) : List Char → Item × List Char
  | '?' :: r => (.times min max false, r)
  | r => (.times min max true, r)

/-! ## Classes -/

/-- The opening of a class, with the literals that can only stand there: hyphens that come first, or
    a closing bracket that does. -/
def leading (verbose negated : Bool) (cs : List Char) : Item × List Char :=
  match gather verbose (· == '-') false cs with
  | ([], ']' :: r) => (.openClass negated [']'], r)
  | (dashes, r) => (.openClass negated dashes, r)

/-- The opening of a class, behind its bracket. -/
def openClass (verbose : Bool) (cs : List Char) : Item × List Char :=
  match skip verbose cs with
  | '^' :: r => leading verbose true (skip verbose r)
  | r => leading verbose false r

/-- The names of ASCII classes. -/
def asciiNames : List (String × AsciiClass) := [
  ("alnum", .alnum), ("alpha", .alpha), ("ascii", .ascii), ("blank", .blank), ("cntrl", .cntrl),
  ("digit", .digit), ("graph", .graph), ("lower", .lower), ("print", .print), ("punct", .punct),
  ("space", .space), ("upper", .upper), ("word", .word), ("xdigit", .xdigit)]

/-- The ASCII class with the name that stands before a colon and a bracket; `none` if there is
    none. -/
def asciiNamed? (negated : Bool) (cs : List Char) : Option (ClassSet × List Char) :=
  match cs.dropWhile (· != ':') with
  | ':' :: ']' :: r =>
    (asciiNames.lookup (String.ofList (cs.takeWhile (· != ':')))).map fun k => (.ascii negated k, r)
  | _ => none

/-- A named ASCII class, behind its first bracket; `none` if the text is not one. -/
def asciiClass? : List Char → Option (ClassSet × List Char)
  | ':' :: '^' :: r => asciiNamed? true r
  | ':' :: r => asciiNamed? false r
  | _ => none

/-- One character or escape of a class. -/
def classAtom (verbose : Bool) (cs : List Char) : Result Atom :=
  match cs with
  | [] => .error .classUnclosed
  | '\\' :: r => escape verbose r
  | c :: r => .ok (.literal c false, r)

/-- The set that an atom stands for in a class. -/
def classItem : Atom → Except Error ClassSet
  | .literal c _ => .ok (.literal c)
  | .property negated q => .ok (.property negated q)
  | .shorthand negated s => .ok (.shorthand negated s)
  | _ => .error .classEscapeInvalid

/-- The range between two atoms. -/
def classRange : Atom → Atom → Except Error ClassSet
  | .literal lo _, .literal hi _ =>
    if lo ≤ hi then .ok (.range lo hi) else .error .classRangeInvalid
  | _, _ => .error .classRangeInvalid

/-- An atom or a range of a class.  A hyphen before a closing bracket or another hyphen makes no
    range. -/
def member (verbose : Bool) (cs : List Char) : Result Item :=
  andThen (classAtom verbose cs) fun a r =>
    match skip verbose r with
    | '-' :: r' =>
      if peek? verbose r' = some ']' || peek? verbose r' = some '-' then
        (classItem a).map fun s => (.member s, '-' :: r')
      else
        andThen (classAtom verbose (skip verbose r')) fun b r =>
          (classRange a b).map fun s => (.member s, r)
    | r => (classItem a).map fun s => (.member s, r)

/-- The next item inside a class. -/
def classNext (verbose : Bool) (c : Char) (r : List Char) : Result Item :=
  match c, r with
  | '[', r =>
    match asciiClass? r with
    | some (s, r) => .ok (.member s, r)
    | none => .ok (openClass verbose r)
  | ']', r => .ok (.closeClass, r)
  | '&', '&' :: r => .ok (.setOp .inter, r)
  | '-', '-' :: r => .ok (.setOp .diff, r)
  | '~', '~' :: r => .ok (.setOp .symm, r)
  | c, r => member verbose (c :: r)

/-! ## Items outside classes -/

/-- The next item outside classes. -/
def next (verbose : Bool) (c : Char) (r : List Char) : Result Item :=
  match c with
  | '(' => group verbose r
  | ')' => .ok (.closeGroup, r)
  | '|' => .ok (.bar, r)
  | '[' => .ok (openClass verbose r)
  | '?' => .ok (signed 0 (some 1) r)
  | '*' => .ok (signed 0 none r)
  | '+' => .ok (signed 1 none r)
  | '{' => counted verbose r
  | '.' => .ok (.atom .dot, r)
  | '^' => .ok (.atom (.look .lineStart), r)
  | '$' => .ok (.atom (.look .lineStop), r)
  | '\\' => andThen (escape verbose r) fun a r => .ok (.atom a, r)
  | c => .ok (.atom (.literal c false), r)

/-! ## Every item takes a character -/

/-- Whether a reader leaves no more than a given number of characters. -/
structure Leaves {α : Type} (n : Nat) (x : Result α) : Prop where
  length_le : ∀ a r, x = .ok (a, r) → r.length ≤ n

theorem Leaves.mono {α : Type} {m n : Nat} {x : Result α} (h : Leaves m x) (hmn : m ≤ n) :
    Leaves n x := ⟨fun a r hx => Nat.le_trans (h.length_le a r hx) hmn⟩

theorem Leaves.ok {α : Type} {n : Nat} {a : α} {r : List Char} (h : r.length ≤ n) :
    Leaves n (.ok (a, r)) := by
  refine ⟨?_⟩
  rintro _ _ ⟨⟩
  exact h

theorem Leaves.error {α : Type} {n : Nat} {e : Error} : Leaves n (.error e : Result α) := by
  refine ⟨?_⟩
  rintro _ _ ⟨⟩

theorem Leaves.andThen {α β : Type} {n : Nat} {x : Result α} {f : α → List Char → Result β}
    (hx : Leaves n x) (hf : ∀ a r, r.length ≤ n → Leaves n (f a r)) :
    Leaves n (Scan.andThen x f) := by
  cases x with
  | error e => exact Leaves.error
  | ok p => exact hf _ _ (hx.length_le _ _ rfl)

theorem Leaves.map {α β : Type} {n : Nat} {x : Except Error α} {f : α → β} {r : List Char}
    (h : r.length ≤ n) : Leaves n (x.map fun a => (f a, r)) := by
  cases x with
  | error e => exact Leaves.error
  | ok a => exact Leaves.ok h

theorem leaves_fixedDigits (verbose : Bool) (n : Nat) (cs : List Char) :
    Leaves cs.length (fixedDigits verbose n cs) := by
  induction n generalizing cs with
  | zero => exact Leaves.ok (Nat.le_refl _)
  | succ n ih =>
    unfold fixedDigits
    split
    · exact Leaves.error
    · next c r =>
      split
      · refine Leaves.andThen ((ih _).mono ?_) fun _ _ h => Leaves.ok h
        have := skip_length verbose r
        split
        · simp only [List.length_cons]
          omega
        · simp only [List.length_cons]
          omega
      · exact Leaves.error

theorem leaves_braced (verbose : Bool) (cs : List Char) :
    Leaves cs.length (braced verbose cs) := by
  have h := gather_length verbose (· != '}') false cs
  unfold braced
  split
  · next hg =>
    rw [hg] at h
    simp only [List.length_cons] at h
    exact Leaves.ok (by omega)
  · exact Leaves.error

theorem leaves_hexEscape (verbose : Bool) (n : Nat) (cs : List Char) :
    Leaves cs.length (hexEscape verbose n cs) := by
  have h := skip_length verbose cs
  unfold hexEscape
  split
  · next hs =>
    rw [hs] at h
    simp only [List.length_cons] at h
    exact Leaves.andThen ((leaves_braced ..).mono (by omega)) fun _ _ h => Leaves.map h
  · exact Leaves.andThen ((leaves_fixedDigits ..).mono h) fun _ _ h => Leaves.map h

theorem leaves_propertyEscape (verbose negated : Bool) (cs : List Char) :
    Leaves cs.length (propertyEscape verbose negated cs) := by
  have h := skip_length verbose cs
  unfold propertyEscape
  split
  · exact Leaves.error
  · next hs =>
    rw [hs] at h
    simp only [List.length_cons] at h
    exact Leaves.andThen ((leaves_braced ..).mono (by omega)) fun _ _ h => Leaves.ok h
  · next hs =>
    rw [hs] at h
    simp only [List.length_cons] at h
    split
    · exact Leaves.error
    · exact Leaves.ok (by omega)

theorem leaves_boundaryEscape (verbose : Bool) (cs : List Char) :
    Leaves cs.length (boundaryEscape verbose cs) := by
  unfold boundaryEscape
  split
  · split
    · exact Leaves.error
    · split
      · refine Leaves.andThen ((leaves_braced ..).mono (by simp)) fun _ _ h => ?_
        split
        · exact Leaves.ok h
        · exact Leaves.error
      · exact Leaves.ok (Nat.le_refl _)
  · exact Leaves.ok (Nat.le_refl _)

theorem leaves_escape (verbose : Bool) (cs : List Char) :
    Leaves cs.length (escape verbose cs) := by
  unfold escape
  split
  · exact Leaves.error
  · have hr : ∀ {n : Nat}, n ≤ n + 1 := Nat.le_succ _
    simp only [List.length_cons]
    repeat' split
    · exact (leaves_hexEscape ..).mono hr
    · exact (leaves_hexEscape ..).mono hr
    · exact (leaves_hexEscape ..).mono hr
    · exact (leaves_propertyEscape ..).mono hr
    · exact (leaves_propertyEscape ..).mono hr
    · exact (leaves_boundaryEscape ..).mono hr
    · exact Leaves.map hr

theorem leaves_flagChanges (seen : List Flag) (off dangling : Bool) (cs : List Char) :
    Leaves cs.length (flagChanges seen off dangling cs) := by
  induction cs generalizing seen off dangling with
  | nil => exact Leaves.error
  | cons c r ih =>
    unfold flagChanges
    split
    · split
      · exact Leaves.error
      · exact Leaves.ok (Nat.le_refl _)
    · split
      · split
        · exact Leaves.error
        · exact (ih ..).mono (Nat.le_succ _)
      · split
        · exact Leaves.error
        · split
          · exact Leaves.error
          · exact Leaves.andThen ((ih ..).mono (Nat.le_succ _)) fun _ _ h => Leaves.ok h

theorem leaves_groupName (cs : List Char) : Leaves cs.length (groupName cs) := by
  have h := (List.dropWhile_suffix (l := cs) (· != '>')).length_le
  unfold groupName
  split
  · next hd =>
    rw [hd] at h
    simp only [List.length_cons] at h
    split
    · exact Leaves.ok (by omega)
    · exact Leaves.error
  · exact Leaves.error

theorem leaves_groupFlags (cs : List Char) : Leaves cs.length (groupFlags cs) := by
  refine Leaves.andThen (leaves_flagChanges ..) fun _ r h => ?_
  split
  · exact Leaves.ok (Nat.le_of_succ_le h)
  · split
    · exact Leaves.error
    · exact Leaves.ok (Nat.le_of_succ_le h)
  · exact Leaves.error

theorem leaves_special (cs : List Char) : Leaves cs.length (special cs) := by
  unfold special
  split
  · exact Leaves.error
  · exact Leaves.error
  · exact Leaves.error
  · exact Leaves.error
  · exact (leaves_groupName ..).mono (Nat.le_add_right _ 2)
  · exact (leaves_groupName ..).mono (Nat.le_succ _)
  · exact leaves_groupFlags ..

theorem leaves_group (verbose : Bool) (cs : List Char) : Leaves cs.length (group verbose cs) := by
  have h := skip_length verbose cs
  unfold group
  split
  · next hs =>
    rw [hs] at h
    simp only [List.length_cons] at h
    exact (leaves_special ..).mono (by omega)
  · exact Leaves.ok (Nat.le_refl _)

theorem leaves_count (verbose : Bool) (cs : List Char) : Leaves cs.length (count verbose cs) := by
  have h₁ := (List.dropWhile_suffix (l := cs) isWhiteSpace).length_le
  have h₂ := gather_length verbose isAsciiDigit false (cs.dropWhile isWhiteSpace)
  have h₃ := (List.dropWhile_suffix
    (l := (gather verbose isAsciiDigit false (cs.dropWhile isWhiteSpace)).2) isWhiteSpace).length_le
  unfold count
  simp only
  split
  · exact Leaves.error
  · split
    · exact Leaves.error
    · exact Leaves.ok (by omega)

theorem leaves_counts (verbose : Bool) (cs : List Char) :
    Leaves cs.length (counts verbose cs) := by
  refine Leaves.andThen ((leaves_count ..).mono (skip_length ..)) fun _ r h => ?_
  split
  · exact Leaves.ok (Nat.le_of_succ_le h)
  · next r =>
    have hs := skip_length verbose r
    simp only [List.length_cons] at h
    split
    · next hr =>
      rw [hr] at hs
      simp only [List.length_cons] at hs
      exact Leaves.ok (by omega)
    · refine Leaves.andThen ((leaves_count ..).mono (by omega)) fun _ r h => ?_
      split
      · split
        · exact Leaves.error
        · exact Leaves.ok (Nat.le_of_succ_le h)
      · exact Leaves.error
  · exact Leaves.error

theorem leaves_counted (verbose : Bool) (cs : List Char) :
    Leaves cs.length (counted verbose cs) := by
  refine Leaves.andThen (leaves_counts ..) fun _ r h => ?_
  have hs := skip_length verbose r
  split
  · next hr =>
    rw [hr] at hs
    simp only [List.length_cons] at hs
    exact Leaves.ok (by omega)
  · exact Leaves.ok h

theorem signed_length (min : Nat) (max : Option Nat) (cs : List Char) :
    (signed min max cs).2.length ≤ cs.length := by
  unfold signed
  split <;> simp

theorem leading_length (verbose negated : Bool) (cs : List Char) :
    (leading verbose negated cs).2.length ≤ cs.length := by
  have h := gather_length verbose (· == '-') false cs
  unfold leading
  split
  · next he =>
    rw [he] at h
    exact Nat.le_of_succ_le h
  · next he =>
    rw [he] at h
    exact h

theorem openClass_length (verbose : Bool) (cs : List Char) :
    (openClass verbose cs).2.length ≤ cs.length := by
  have h := skip_length verbose cs
  unfold openClass
  split
  · next r hr =>
    have := skip_length verbose r
    rw [hr, List.length_cons] at h
    exact Nat.le_trans (leading_length ..) (by omega)
  · exact Nat.le_trans (leading_length ..) h

theorem asciiNamed?_length {negated : Bool} {cs r : List Char} {s : ClassSet}
    (h : asciiNamed? negated cs = some (s, r)) : r.length ≤ cs.length := by
  have hdrop := (List.dropWhile_suffix (l := cs) (· != ':')).length_le
  unfold asciiNamed? at h
  split at h
  · next hd =>
    rw [hd] at hdrop
    simp only [List.length_cons] at hdrop
    simp only [Option.map_eq_some_iff, Prod.mk.injEq] at h
    obtain ⟨_, _, _, rfl⟩ := h
    omega
  · cases h

theorem asciiClass?_length {cs r : List Char} {s : ClassSet}
    (h : asciiClass? cs = some (s, r)) : r.length ≤ cs.length := by
  unfold asciiClass? at h
  split at h
  · exact Nat.le_trans (asciiNamed?_length h) (Nat.le_add_right _ 2)
  · exact Nat.le_succ_of_le (asciiNamed?_length h)
  · cases h

theorem leaves_classAtom (verbose : Bool) (cs : List Char) :
    Leaves (cs.length - 1) (classAtom verbose cs) := by
  unfold classAtom
  split
  · exact Leaves.error
  · exact leaves_escape ..
  · exact Leaves.ok (by simp)

theorem leaves_member (verbose : Bool) (cs : List Char) :
    Leaves (cs.length - 1) (member verbose cs) := by
  refine Leaves.andThen (leaves_classAtom ..) fun a r h => ?_
  have hs := skip_length verbose r
  split
  · next r' hr =>
    rw [hr] at hs
    simp only [List.length_cons] at hs
    split
    · exact Leaves.map (by simp only [List.length_cons]; omega)
    · have hs' := skip_length verbose r'
      exact Leaves.andThen ((leaves_classAtom ..).mono (by omega)) fun _ _ h => Leaves.map h
  · exact Leaves.map (by omega)

theorem leaves_classNext (verbose : Bool) (c : Char) (r : List Char) :
    Leaves r.length (classNext verbose c r) := by
  unfold classNext
  split
  · split
    · next h => exact Leaves.ok (asciiClass?_length h)
    · exact Leaves.ok (openClass_length ..)
  · exact Leaves.ok (Nat.le_refl _)
  · exact Leaves.ok (by simp)
  · exact Leaves.ok (by simp)
  · exact Leaves.ok (by simp)
  · exact leaves_member verbose (c :: r)

theorem leaves_next (verbose : Bool) (c : Char) (r : List Char) :
    Leaves r.length (next verbose c r) := by
  unfold next
  split
  · exact leaves_group ..
  · exact Leaves.ok (Nat.le_refl _)
  · exact Leaves.ok (Nat.le_refl _)
  · exact Leaves.ok (openClass_length ..)
  · exact Leaves.ok (signed_length ..)
  · exact Leaves.ok (signed_length ..)
  · exact Leaves.ok (signed_length ..)
  · exact leaves_counted ..
  · exact Leaves.ok (Nat.le_refl _)
  · exact Leaves.ok (Nat.le_refl _)
  · exact Leaves.ok (Nat.le_refl _)
  · exact Leaves.andThen (leaves_escape ..) fun _ _ h => Leaves.ok h
  · exact Leaves.ok (Nat.le_refl _)

end Scan

/-! ## Modes -/

/-- What decides how the next item is read. -/
structure Mode where
  /-- Whether blanks and comments are ignored. -/
  verbose : Bool := false
  /-- Whether they are in the groups around this place, the innermost one first. -/
  outer : List Bool := []
  /-- The number of classes around this place. -/
  classes : Nat := 0
  deriving DecidableEq, Repr

/-- Whether flags switch the ignoring of blanks on or off. -/
def FlagChanges.verbose? (changes : FlagChanges) : Option Bool := changes.lookup .verbose

/-- The mode behind an item. -/
def Mode.after (m : Mode) : Item → Mode
  | .openGroup (.plain changes) =>
    { m with verbose := (FlagChanges.verbose? changes).getD m.verbose
             outer := m.verbose :: m.outer }
  | .openGroup _ => { m with outer := m.verbose :: m.outer }
  | .closeGroup =>
    match m.outer with
    | v :: outer => { m with verbose := v, outer }
    | [] => m
  | .flags changes => { m with verbose := (FlagChanges.verbose? changes).getD m.verbose }
  | .openClass .. => { m with classes := m.classes + 1 }
  | .closeClass => { m with classes := m.classes - 1 }
  | _ => m

/-- The next item, in a class or outside. -/
def Mode.next (m : Mode) (c : Char) (r : List Char) : Result Item :=
  if m.classes = 0 then Scan.next m.verbose c r else Scan.classNext m.verbose c r

theorem Mode.leaves_next (m : Mode) (c : Char) (r : List Char) :
    Scan.Leaves r.length (m.next c r) := by
  unfold Mode.next
  split
  · exact Scan.leaves_next ..
  · exact Scan.leaves_classNext ..

/-- The items of a text, read in a mode. -/
def items (m : Mode) (cs : List Char) : Except Error (List Item) :=
  match cs with
  | [] => .ok []
  | c :: r =>
    if m.verbose && isWhiteSpace c then items m r
    else if m.verbose && c == '#' then
      match h : r.dropWhile (· != '\n') with
      | [] => .ok [.comment false]
      | _ :: rest =>
        have : rest.length < r.length := by
          have := (List.dropWhile_suffix (l := r) (· != '\n')).length_le
          rw [h] at this
          exact this
        (items m rest).map (.comment true :: ·)
    else match h : m.next c r with
      | .error e => .error e
      | .ok (item, rest) =>
        have : rest.length ≤ r.length := (m.leaves_next c r).length_le _ _ h
        (items (m.after item) rest).map (item :: ·)
termination_by cs.length
decreasing_by all_goals simp only [List.length_cons]; omega

end OrderedLexer.Pattern
