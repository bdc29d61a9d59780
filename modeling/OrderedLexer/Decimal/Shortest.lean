/-
  The shortest decimal that reads back as a given binary floating-point number.

  A positive double is `m * 2 ^ q`, and every real in an interval around it rounds to it; the ends
  of the interval belong to it when `m` is even.  `shortest` tries one digit, two digits, and so on:
  of the two multiples of the digit's unit next to the number, it takes the one inside the interval
  that is nearer.  All arithmetic is on natural numbers.
-/

namespace OrderedLexer.Decimal

/-- The decimal `0.d₁d₂… * 10 ^ point`, with no zero at either end of its digits. -/
structure Digits where
  digits : List Char
  point : Int
  deriving Repr

/-- A positive rational number. -/
structure Ratio where
  num : Nat
  den : Nat
  deriving Repr

/-- A rational number times a power of ten. -/
def Ratio.scale (r : Ratio) (e : Int) : Ratio :=
  if 0 ≤ e then ⟨r.num * Nat.pow 10 e.toNat, r.den⟩ else ⟨r.num, r.den * Nat.pow 10 (-e).toNat⟩

/-- A natural number times a power of two. -/
def Ratio.ofBinary (m : Nat) (q : Int) : Ratio :=
  if 0 ≤ q then ⟨m * Nat.pow 2 q.toNat, 1⟩ else ⟨m, Nat.pow 2 (-q).toNat⟩

/-- The numbers that round to a double: the double itself and the ends of its interval. -/
structure Interval where
  low : Ratio
  mid : Ratio
  high : Ratio
  closed : Bool

/-- The interval of the double with exponent field `e` and fraction field `f`. -/
def Interval.ofFields (e f : Nat) : Interval :=
  let m := if e = 0 then f else Nat.pow 2 52 + f
  let q : Int := (if e = 0 then 1 else e) - 1075
  -- just above a power of two, the double below is only half as far away
  let below := if f = 0 ∧ 1 < e then 4 * m - 1 else 4 * m - 2
  { low := .ofBinary below (q - 2)
    mid := .ofBinary (4 * m) (q - 2)
    high := .ofBinary (4 * m + 2) (q - 2)
    closed := m % 2 = 0 }

/-- Whether `t * 10 ^ u` lies in an interval. -/
def Interval.contains (i : Interval) (t : Nat) (u : Int) : Bool :=
  let low := i.low.scale (-u)
  let high := i.high.scale (-u)
  if i.closed then low.num ≤ t * low.den && t * high.den ≤ high.num
  else low.num < t * low.den && t * high.den < high.num

/-- The exponent `k` with `10 ^ (k - 1) ≤ r < 10 ^ k`. -/
def Ratio.point (r : Ratio) : Int :=
  let k : Int := (Nat.repr r.num).length - (Nat.repr r.den).length
  let scaled := r.scale (-k)
  if scaled.num < scaled.den then k else k + 1

/-- The nearer of the two multiples of `10 ^ u` around the middle of an interval that lie in it;
    of two equally near ones the even one. -/
def Interval.multiple? (i : Interval) (u : Int) : Option Nat :=
  let r := i.mid.scale (-u)
  let t := r.num / r.den
  match i.contains t u, i.contains (t + 1) u with
  | false, false => none
  | true, false => some t
  | false, true => some (t + 1)
  | true, true =>
    let rest := 2 * (r.num % r.den)
    if rest < r.den ∨ (rest = r.den ∧ t % 2 = 0) then some t else some (t + 1)

/-- The first multiple found with `n` digits or more; 17 digits are always enough. -/
def Interval.search (i : Interval) (point : Int) : Nat → Nat → Nat × Int
  | _, 0 => (0, point)
  | n, fuel + 1 =>
    match i.multiple? (point - n) with
    | some t => (t, point - n)
    | none => i.search point (n + 1) fuel

/-- Drops the zeros at the end of the digits of a number, counting them. -/
def dropZeros (digits : List Char) : List Char :=
  (digits.reverse.dropWhile (· = '0')).reverse

/-- The fewest digits that read back as the positive double with the given fields. -/
def shortest (e f : Nat) : Digits :=
  let i := Interval.ofFields e f
  let (t, u) := i.search i.mid.point 1 17
  let digits := (Nat.repr t).toList
  ⟨dropZeros digits, u + digits.length⟩

end OrderedLexer.Decimal
