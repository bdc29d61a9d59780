/-
  Writing JSON.

  A layout is compact (no blanks) or pretty (every item and member on a line of its own, indented
  by two spaces for each level).  `Value.write` is one function of the layout, so the two forms
  differ in blanks only.

  Strings escape quotes, backslashes and control characters below U+0020.  A double is written
  with the fewest digits that read back, positionally from `10⁻⁵` to below `10¹⁶` and with an
  exponent elsewhere (`doubleText`).
-/
import OrderedLexer.Text.Hex
import OrderedLexer.Decimal.Shortest
import OrderedLexer.Json.Value

namespace OrderedLexer.Json

/-! ## Strings -/

/-- One character of a string. -/
def escapeChar (c : Char) : List Char :=
  if c = '"' then ['\\', '"']
  else if c = '\\' then ['\\', '\\']
  else if c.toNat = 0x08 then ['\\', 'b']
  else if c = '\t' then ['\\', 't']
  else if c = '\n' then ['\\', 'n']
  else if c.toNat = 0x0C then ['\\', 'f']
  else if c = '\r' then ['\\', 'r']
  else if c.toNat < 0x20 then
    ['\\', 'u', '0', '0', Text.hexChar (c.toNat / 16), Text.hexChar (c.toNat % 16)]
  else [c]

/-- A string literal. -/
def writeString (s : String) : List Char := '"' :: (s.toList.flatMap escapeChar ++ ['"'])

/-! ## Numbers -/

/-- The decimal digits of an integer. -/
def writeInt : Int → List Char
  | .ofNat n => (Nat.repr n).toList
  | .negSucc n => '-' :: (Nat.repr (n + 1)).toList

/-- The exponent of a decimal, always with its sign. -/
def exponentText (e : Int) : List Char :=
  'e' :: (if e < 0 then '-' else '+') :: (Nat.repr e.natAbs).toList

/-- Digits with the decimal point set after `point` of them, and at least one digit on each side
    of it; far from the digits, with an exponent instead. -/
def placeDigits (d : Decimal.Digits) : List Char :=
  if -4 ≤ d.point ∧ d.point ≤ 16 then
    if d.point ≤ 0 then '0' :: '.' :: (List.replicate (-d.point).toNat '0' ++ d.digits)
    else
      let n := d.point.toNat
      let whole := d.digits.take n ++ List.replicate (n - d.digits.length) '0'
      let part := d.digits.drop n
      whole ++ '.' :: (if part.isEmpty then ['0'] else part)
  else
    d.digits.take 1 ++ (if d.digits.length ≤ 1 then [] else '.' :: d.digits.drop 1) ++
      exponentText (d.point - 1)

/-- The text of a finite double. -/
def doubleText (x : Float) : List Char :=
  let bits := x.toBits.toNat
  let sign := if bits < Nat.pow 2 63 then [] else ['-']
  let e := bits / Nat.pow 2 52 % Nat.pow 2 11
  let f := bits % Nat.pow 2 52
  sign ++ if e = 0 ∧ f = 0 then ['0', '.', '0'] else placeDigits (Decimal.shortest e f)

/-- The text of a number. -/
def Number.write : Number → List Char
  | .int n => writeInt n
  | .double x => doubleText x

/-! ## Values -/

/-- How the parts of a value are set apart. -/
inductive Layout where
  | compact
  | pretty
  deriving DecidableEq, Repr

/-- What stands before an item or a closing bracket at a nesting level. -/
def Layout.gap : Layout → Nat → List Char
  | .compact, _ => []
  | .pretty, level => '\n' :: List.replicate (2 * level) ' '

/-- What stands between the name and the value of a member. -/
def Layout.colon : Layout → List Char
  | .compact => [':']
  | .pretty => [':', ' ']

mutual

/-- A value at a nesting level. -/
def Value.writeAt (layout : Layout) (level : Nat) : Value → List Char
  | .null => ['n', 'u', 'l', 'l']
  | .bool true => ['t', 'r', 'u', 'e']
  | .bool false => ['f', 'a', 'l', 's', 'e']
  | .num n => n.write
  | .str s => writeString s
  | .arr [] => ['[', ']']
  | .arr (v :: vs) =>
    '[' :: (layout.gap (level + 1) ++ v.writeAt layout (level + 1) ++
      writeItems layout (level + 1) vs ++ layout.gap level ++ [']'])
  | .obj [] => ['{', '}']
  | .obj ((k, v) :: ms) =>
    '{' :: (layout.gap (level + 1) ++ writeString k ++ layout.colon ++
      v.writeAt layout (level + 1) ++ writeMembers layout (level + 1) ms ++ layout.gap level ++
      ['}'])

/-- The items after the first one, each behind a comma. -/
def writeItems (layout : Layout) (level : Nat) : List Value → List Char
  | [] => []
  | v :: vs => ',' :: (layout.gap level ++ v.writeAt layout level ++ writeItems layout level vs)

/-- The members after the first one, each behind a comma. -/
def writeMembers (layout : Layout) (level : Nat) : List (String × Value) → List Char
  | [] => []
  | (k, v) :: ms =>
    ',' :: (layout.gap level ++ writeString k ++ layout.colon ++ v.writeAt layout level ++
      writeMembers layout level ms)

end

/-- The text of a value. -/
def Value.write (layout : Layout) (v : Value) : List Char := v.writeAt layout 0

/-- The text of a value without blanks. -/
def Value.compact (v : Value) : String := String.ofList (v.write .compact)

/-- The text of a value with an item a line. -/
def Value.pretty (v : Value) : String := String.ofList (v.write .pretty)

end OrderedLexer.Json
