/-
  Hexadecimal digits.

  * `hexDigit?` is the value of one digit, in either case;
  * `ofHex?` is the value of a list of digits, the most significant one first;
  * `toHex` writes a number with lower-case digits and no leading zero.
-/

namespace OrderedLexer.Text

/-- The value of a hexadecimal digit. -/
def hexDigit? (c : Char) : Option Nat :=
  let n := c.toNat
  if 0x30 ≤ n ∧ n ≤ 0x39 then some (n - 0x30)
  else if 0x41 ≤ n ∧ n ≤ 0x46 then some (n - 0x41 + 10)
  else if 0x61 ≤ n ∧ n ≤ 0x66 then some (n - 0x61 + 10)
  else none

/-- Whether a character is a hexadecimal digit. -/
def isHexDigit (c : Char) : Bool := (hexDigit? c).isSome

/-- The value of a list of hexadecimal digits; the empty list has the value `0`. -/
def ofHex? (cs : List Char) : Option Nat :=
  cs.foldlM (fun n c => (hexDigit? c).map (16 * n + ·)) 0

/-- The lower-case digit of a number below 16. -/
def hexChar (n : Nat) : Char :=
  Char.ofNat (if n < 10 then 0x30 + n else 0x61 + (n - 10))

/-- The lower-case digits of a number, the most significant one first. -/
def toHex (n : Nat) : List Char :=
  if n < 16 then [hexChar n] else toHex (n / 16) ++ [hexChar (n % 16)]

/-- The character with a code point, when the number is a Unicode scalar value. -/
def scalar? (n : Nat) : Option Char :=
  if n.isValidChar then some (Char.ofNat n) else none

theorem toNat_of_scalar? {n : Nat} {c : Char} (h : scalar? n = some c) : c.toNat = n := by
  unfold scalar? at h
  split at h
  · next hv =>
    cases h
    rw [Char.ofNat, dif_pos hv]
    rfl
  · simp at h

end OrderedLexer.Text
