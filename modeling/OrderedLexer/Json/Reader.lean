/-
  Reading JSON.

  Every reader takes the characters that are left and returns a result with what is left after it,
  or a `Failure`: a cause and the number of bytes left behind the place of the failure.  `read`
  reads a whole text and turns that number into a line and a column.

  * A number without fraction and exponent that fits 64 bits is an integer; every other number is a
    double, made from the first digits that fit 64 bits and a power of ten (`ofParts`);
  * `value` reads a value that nests at most the given number of brackets; a text may nest 127.
-/
import OrderedLexer.Text.Lines
import OrderedLexer.Json.Error

namespace OrderedLexer.Json

open Text (byteSize hexDigit?)

namespace Reader

/-- Where and why reading stopped: the bytes left are those behind the place of the failure. -/
structure Failure where
  cause : Cause
  left : Nat
  deriving DecidableEq, Repr

/-- A result with the characters left after it. -/
abbrev Result (α : Type) := Except Failure (α × List Char)

/-- A failure that is noticed before the next character is taken: its place is behind the first
    byte of that character. -/
def failAt {α : Type} (cause : Cause) (cs : List Char) : Except Failure α :=
  .error ⟨cause, byteSize cs - 1⟩

/-- A failure in front of the next character. -/
def failBefore {α : Type} (cause : Cause) (cs : List Char) : Except Failure α :=
  .error ⟨cause, byteSize cs⟩

/-- Goes on with what a reader leaves. -/
def andThen {α β : Type} (x : Result α) (next : α → List Char → Result β) : Result β :=
  match x with
  | .ok (a, r) => next a r
  | .error e => .error e

/-- Blanks between the parts of a value. -/
def isBlank (c : Char) : Bool := c = ' ' || c = '\t' || c = '\n' || c = '\r'

/-- What is left after blanks. -/
def skip (cs : List Char) : List Char := cs.dropWhile isBlank

/-- Digits of a decimal. -/
def isDigit (c : Char) : Bool := '0' ≤ c && c ≤ '9'

/-- The value of a digit. -/
def digitVal (c : Char) : Nat := c.toNat - '0'.toNat

/-! ## Words -/

/-- The rest of the word `true`, `false` or `null`. -/
def word : List Char → List Char → Except Failure (List Char)
  | [], cs => .ok cs
  | _ :: _, [] => failBefore .endInValue []
  | e :: es, c :: cs => if c = e then word es cs else failAt .expectedIdent (c :: cs)

/-! ## Numbers -/

/-- The largest number that the significant digits may make. -/
def maxSignificand : Nat := 0xFFFFFFFFFFFFFFFF

/-- The largest exponent that is read. -/
def maxExponent : Nat := 0x7FFFFFFF

/-- Takes digits as long as their number fits, and returns those that are left. -/
def fit (limit : Nat) (n : Nat) : List Char → Nat × List Char
  | [] => (n, [])
  | d :: ds =>
    if limit < 10 * n + digitVal d then (n, d :: ds) else fit limit (10 * n + digitVal d) ds

/-- The power of ten with an exponent of at most 308, correctly rounded. -/
def powTen (k : Nat) : Float := Float.ofScientific 1 false k

/-- A double divided by a power of ten, by at most `10³⁰⁸` at a time. -/
def divTen (x : Float) (k : Nat) : Float :=
  if k ≤ 308 then x / powTen k
  else if x == 0 then x
  else divTen (x / powTen 308) (k - 308)
termination_by k

/-- The double `significand * 10 ^ exponent`, unless it is too large. -/
def ofParts (negative : Bool) (significand : Nat) (exponent : Int) : Option Float :=
  let x := significand.toUInt64.toFloat
  let y? : Option Float :=
    if exponent < 0 then some (divTen x exponent.natAbs)
    else if 308 < exponent then (if x == 0 then some x else none)
    else
      let y := x * powTen exponent.toNat
      if y.isInf then none else some y
  y?.map fun y => if negative then -y else y

/-- A number with its sign, or the failure of one that is too large. -/
def finish (negative : Bool) (significand : Nat) (exponent : Int) (cs : List Char) :
    Result Number :=
  match ofParts negative significand exponent with
  | some x => .ok (.double x, cs)
  | none => failBefore .numberOutOfRange cs

/-- The exponent of a number, after its mark. -/
def exponent (negative : Bool) (significand : Nat) (start : Int) (cs : List Char) :
    Result Number :=
  let (down, cs) := match cs with
    | '+' :: r => (false, r)
    | '-' :: r => (true, r)
    | _ => (false, cs)
  match cs with
  | [] => failBefore .endInValue []
  | c :: _ =>
    if !isDigit c then failAt .invalidNumber cs
    else
      let digits := cs.takeWhile isDigit
      let rest := cs.dropWhile isDigit
      let (e, excess) := fit maxExponent 0 digits
      if excess.isEmpty then
        finish negative significand (if down then start - e else start + e) rest
      else if significand != 0 && !down then
        failBefore .numberOutOfRange (excess.drop 1 ++ rest)
      else finish negative 0 0 rest

/-- The end of a number: an exponent, if its mark follows. -/
def scaled (negative : Bool) (significand : Nat) (start : Int) (cs : List Char) :
    Result Number :=
  match cs with
  | 'e' :: r | 'E' :: r => exponent negative significand start r
  | _ => finish negative significand start cs

/-- The fraction of a number, after its point.  Digits that do not fit are dropped. -/
def fraction (negative : Bool) (significand : Nat) (start : Int) (cs : List Char) :
    Result Number :=
  let digits := cs.takeWhile isDigit
  let rest := cs.dropWhile isDigit
  if digits.isEmpty then
    if rest.isEmpty then failBefore .endInValue [] else failAt .invalidNumber rest
  else
    let (n, excess) := fit maxSignificand significand digits
    scaled negative n (start - (digits.length - excess.length : Nat)) rest

/-- An integer with its sign.  Zero with a minus sign, and what does not fit 64 bits, is a
    double. -/
def integer (negative : Bool) (n : Nat) : Number :=
  if !negative then .int n
  else if n = 0 ∨ Nat.pow 2 63 < n then .double (-n.toUInt64.toFloat)
  else .int (-n)

/-- A number, after its sign. -/
def number (negative : Bool) (cs : List Char) : Result Number :=
  match cs with
  | [] => failBefore .endInValue []
  | c :: r =>
    if !isDigit c then failAt .invalidNumber cs
    else if c = '0' && (r.head?.any isDigit) then failAt .invalidNumber r
    else
      let (n, excess) := fit maxSignificand 0 (cs.takeWhile isDigit)
      let rest := cs.dropWhile isDigit
      match rest with
      | '.' :: r => fraction negative n excess.length r
      | 'e' :: _ | 'E' :: _ => scaled negative n excess.length rest
      | _ => if excess.isEmpty then .ok (integer negative n, rest) else
          scaled negative n excess.length rest

/-! ## Strings -/

/-- The number written by four hexadecimal digits. -/
def hexEscape (cs : List Char) : Result Nat :=
  if byteSize (cs.take 4) < 4 then failBefore .endInString []
  else match Text.ofHex? (cs.take 4) with
    | some n => .ok (n, cs.drop 4)
    | none => .error ⟨.invalidEscape, byteSize cs - 4⟩

/-- The second half of a surrogate pair whose first half is `high`. -/
def lowSurrogate (high : Nat) (cs : List Char) : Result Char :=
  match cs with
  | [] => failBefore .endInString []
  | '\\' :: [] => failBefore .endInString []
  | '\\' :: 'u' :: r =>
    andThen (hexEscape r) fun low r =>
      if low < 0xDC00 ∨ 0xDFFF < low then failBefore .loneSurrogate r
      else .ok (Char.ofNat (0x10000 + (high - 0xD800) * 0x400 + (low - 0xDC00)), r)
  | '\\' :: r => failAt .brokenSurrogate r
  | _ => failAt .brokenSurrogate cs

/-- What a letter or sign after a backslash stands for. -/
def simpleEscape? (c : Char) : Option Char :=
  if c = '"' || c = '\\' || c = '/' then some c
  else if c = 'b' then some (Char.ofNat 0x08)
  else if c = 'f' then some (Char.ofNat 0x0C)
  else if c = 'n' then some '\n'
  else if c = 'r' then some '\r'
  else if c = 't' then some '\t'
  else none

/-- The character of an escape by its code point, after the `u`. -/
def unicodeEscape (cs : List Char) : Result Char :=
  andThen (hexEscape cs) fun n r =>
    if 0xDC00 ≤ n ∧ n ≤ 0xDFFF then failBefore .loneSurrogate r
    else if 0xD800 ≤ n ∧ n ≤ 0xDBFF then lowSurrogate n r
    else .ok (Char.ofNat n, r)

/-- The character of an escape, after its backslash. -/
def escape (cs : List Char) : Result Char :=
  match cs with
  | [] => failBefore .endInString []
  | c :: r =>
    if c = 'u' then unicodeEscape r
    else match simpleEscape? c with
      | some d => .ok (d, r)
      | none => failAt .invalidEscape cs

theorem hexEscape_length {cs r : List Char} {n : Nat} (h : hexEscape cs = .ok (n, r)) :
    r.length ≤ cs.length := by
  unfold hexEscape at h
  split at h
  · simp [failBefore] at h
  · split at h
    · cases h; simp
    · simp at h

theorem lowSurrogate_length {cs r : List Char} {n : Nat} {c : Char}
    (h : lowSurrogate n cs = .ok (c, r)) : r.length ≤ cs.length := by
  unfold lowSurrogate at h
  split at h
  · simp [failBefore] at h
  · simp [failBefore] at h
  · next r' =>
    cases hx : hexEscape r' with
    | error e => simp [hx, andThen] at h
    | ok p =>
      obtain ⟨low, r''⟩ := p
      have := hexEscape_length hx
      simp only [hx, andThen] at h
      split at h
      · simp [failBefore] at h
      · simp only [Except.ok.injEq, Prod.mk.injEq] at h
        obtain ⟨-, rfl⟩ := h
        simp; omega
  · simp [failAt] at h
  · simp [failAt] at h

theorem unicodeEscape_length {cs r : List Char} {c : Char}
    (h : unicodeEscape cs = .ok (c, r)) : r.length ≤ cs.length := by
  unfold unicodeEscape at h
  cases hx : hexEscape cs with
  | error e => simp [hx, andThen] at h
  | ok p =>
    obtain ⟨n, r'⟩ := p
    have hr := hexEscape_length hx
    simp only [hx, andThen] at h
    by_cases h₁ : 0xDC00 ≤ n ∧ n ≤ 0xDFFF
    · simp [h₁, failBefore] at h
    · by_cases h₂ : 0xD800 ≤ n ∧ n ≤ 0xDBFF
      · rw [if_neg h₁, if_pos h₂] at h
        exact Nat.le_trans (lowSurrogate_length h) hr
      · rw [if_neg h₁, if_neg h₂] at h
        simp only [Except.ok.injEq, Prod.mk.injEq] at h
        exact h.2 ▸ hr

theorem escape_length {cs r : List Char} {c : Char} (h : escape cs = .ok (c, r)) :
    r.length < cs.length := by
  unfold escape at h
  split at h
  · simp [failBefore] at h
  · split at h
    · have := unicodeEscape_length h
      simp; omega
    · split at h
      · cases h; simp
      · simp [failAt] at h

/-- The characters of a string, after its opening quote. -/
def chars (cs : List Char) : Result (List Char) :=
  match cs with
  | [] => failBefore .endInString []
  | c :: rest =>
    if c = '"' then .ok ([], rest)
    else if c = '\\' then
      match h : escape rest with
      | .error e => .error e
      | .ok (d, r) =>
        have := escape_length h
        (chars r).map fun (ds, r) => (d :: ds, r)
    else if c.toNat < 0x20 then failAt .controlCharacter cs
    else (chars rest).map fun (ds, r) => (c :: ds, r)
termination_by cs.length
decreasing_by all_goals simp; try omega

/-- A string, after its opening quote. -/
def string (cs : List Char) : Result String := (chars cs).map fun (ds, r) => (String.ofList ds, r)

/-! ## Arrays and objects -/

/-- The items after the first one, up to the closing bracket; `fuel` bounds their number. -/
def moreItems {α : Type} (item : List Char → Result α) : Nat → List Char → Result (List α)
  | 0, cs => failAt .endInList cs
  | fuel + 1, cs =>
    match skip cs with
    | [] => failBefore .endInList []
    | ']' :: r => .ok ([], r)
    | ',' :: r =>
      match skip r with
      | [] => failBefore .endInValue []
      | ']' :: r => failAt .trailingComma (']' :: r)
      | r =>
        andThen (item r) fun v r =>
          andThen (moreItems item fuel r) fun vs r => .ok (v :: vs, r)
    | r => failAt .expectedListEnd r

/-- The items of an array, after its opening bracket; `fuel` bounds their number. -/
def items {α : Type} (item : List Char → Result α) (fuel : Nat) (cs : List Char) :
    Result (List α) :=
  match skip cs with
  | [] => failBefore .endInList []
  | ']' :: r => .ok ([], r)
  | r =>
    andThen (item r) fun v r =>
      andThen (moreItems item fuel r) fun vs r => .ok (v :: vs, r)

/-- A member of an object, from the opening quote of its name. -/
def member {α : Type} (item : List Char → Result α) (cs : List Char) : Result (String × α) :=
  andThen (string (cs.drop 1)) fun name r =>
    match skip r with
    | [] => failBefore .endInObject []
    | ':' :: r => andThen (item r) fun v r => .ok ((name, v), r)
    | r => failAt .expectedColon r

/-- The members after the first one, up to the closing bracket; `fuel` bounds their number. -/
def moreMembers {α : Type} (item : List Char → Result α) :
    Nat → List Char → Result (List (String × α))
  | 0, cs => failAt .endInObject cs
  | fuel + 1, cs =>
    match skip cs with
    | [] => failBefore .endInObject []
    | '}' :: r => .ok ([], r)
    | ',' :: r =>
      match skip r with
      | [] => failBefore .endInValue []
      | '"' :: r =>
        andThen (member item ('"' :: r)) fun m r =>
          andThen (moreMembers item fuel r) fun ms r => .ok (m :: ms, r)
      | '}' :: r => failAt .trailingComma ('}' :: r)
      | r => failAt .keyNotString r
    | r => failAt .expectedObjectEnd r

/-- The members of an object, after its opening bracket, in the order of the text; `fuel` bounds
    their number. -/
def members {α : Type} (item : List Char → Result α) (fuel : Nat) (cs : List Char) :
    Result (List (String × α)) :=
  match skip cs with
  | [] => failBefore .endInObject []
  | '}' :: r => .ok ([], r)
  | '"' :: r =>
    andThen (member item ('"' :: r)) fun m r =>
      andThen (moreMembers item fuel r) fun ms r => .ok (m :: ms, r)
  | r => failAt .keyNotString r

/-! ## Values -/

/-- A value with at most `depth` levels of brackets and fewer than `fuel` items between two of
    them. -/
def value (fuel depth : Nat) (cs : List Char) : Result Value :=
  match skip cs with
  | [] => failBefore .endInValue []
  | 'n' :: r => (word ['u', 'l', 'l'] r).map fun r => (.null, r)
  | 't' :: r => (word ['r', 'u', 'e'] r).map fun r => (.bool true, r)
  | 'f' :: r => (word ['a', 'l', 's', 'e'] r).map fun r => (.bool false, r)
  | '-' :: r => (number true r).map fun (n, r) => (.num n, r)
  | '"' :: r => (string r).map fun (s, r) => (.str s, r)
  | '[' :: r =>
    match depth with
    | 0 => failAt .tooDeep ('[' :: r)
    | d + 1 => (items (value fuel d) fuel r).map fun (vs, r) => (.arr vs, r)
  | '{' :: r =>
    match depth with
    | 0 => failAt .tooDeep ('{' :: r)
    | d + 1 => (members (value fuel d) fuel r).map fun (ms, r) => (.obj (Members.ofList ms), r)
  | c :: r =>
    if isDigit c then (number false (c :: r)).map fun (n, r) => (.num n, r)
    else failAt .expectedValue (c :: r)

/-- The levels of brackets that a text may nest. -/
def maxDepth : Nat := 127

/-- The value of a whole text.  It has fewer items than characters. -/
def document (cs : List Char) : Except Failure Value := do
  let (v, r) ← value (cs.length + 1) maxDepth cs
  match skip r with
  | [] => return v
  | r => failAt .trailingCharacters r

/-- The line and the column behind the first `n` bytes of a text, counting from given ones. -/
def locate (line column : Nat) : Nat → List Char → Nat × Nat
  | _, [] => (line, column)
  | n, c :: cs =>
    if n < c.utf8Size then (line, column + n)
    else if c = '\n' then locate (line + 1) 0 (n - 1) cs
    else locate line (column + c.utf8Size) (n - c.utf8Size) cs

end Reader

/-- The value that a text stands for. -/
def read (text : String) : Except Error Value :=
  let cs := text.toList
  match Reader.document cs with
  | .ok v => .ok v
  | .error f =>
    let place := Reader.locate 1 0 (byteSize cs - f.left) cs
    .error (.malformed f.cause place.1 place.2)

end OrderedLexer.Json
