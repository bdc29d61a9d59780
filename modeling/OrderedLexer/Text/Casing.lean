/-
  Upper and lower case, by the full mappings of Unicode 17.

  A row `first count step image` of a table maps `first + i * step` to `image + i * step` for each
  `i` below `count`.  Some characters have several characters for an upper or lower case.

  * `upper` and `lower` map a text; the lower case of a capital sigma is the final form `ς` after a
    cased character and before none, case-ignorable characters passed over (`isFinal`).
-/
import OrderedLexer.Text.Property

namespace OrderedLexer.Text

/-! ## Rows -/

/-- A progression of code points and its image. -/
structure CaseRow where
  first : Nat
  count : Nat
  step : Nat
  image : Nat
  deriving Repr

/-- The image of a code point under a row. -/
def CaseRow.map? (r : CaseRow) (n : Nat) : Option Nat :=
  if r.first ≤ n ∧ (n - r.first) % r.step = 0 ∧ (n - r.first) / r.step < r.count then
    some (r.image + (n - r.first))
  else none

/-- The code point that a row maps to a code point. -/
def CaseRow.unmap? (r : CaseRow) (n : Nat) : Option Nat :=
  CaseRow.map? ⟨r.image, r.count, r.step, r.first⟩ n

/-- The rows of a table, four numbers each. -/
def caseRows : List Nat → List CaseRow
  | first :: count :: step :: image :: rest => ⟨first, count, step, image⟩ :: caseRows rest
  | _ => []

/-! ## Tables -/

/-- Characters whose upper case is one other character. -/
def upperTable : List String := [
  "61 1a 1 41 b5 1 1 39c e0 17 1 c0 f8 7 1 d8 ff 1 1 178 101 18 2 100 131 1 1 49 133 3 2 132 13a",
  "8 2 139 14b 17 2 14a 17a 3 2 179 17f 1 1 53 180 1 1 243 183 2 2 182 188 1 1 187 18c 1 1 18b",
  "192 1 1 191 195 1 1 1f6 199 1 1 198 19a 1 1 23d 19b 1 1 a7dc 19e 1 1 220 1a1 3 2 1a0 1a8 1 1",
  "1a7 1ad 1 1 1ac 1b0 1 1 1af 1b4 2 2 1b3 1b9 1 1 1b8 1bd 1 1 1bc 1bf 1 1 1f7 1c5 1 1 1c4 1c6 1",
  "1 1c4 1c8 1 1 1c7 1c9 1 1 1c7 1cb 1 1 1ca 1cc 1 1 1ca 1ce 8 2 1cd 1dd 1 1 18e 1df 9 2 1de 1f2",
  "1 1 1f1 1f3 1 1 1f1 1f5 1 1 1f4 1f9 14 2 1f8 223 9 2 222 23c 1 1 23b 23f 2 1 2c7e 242 1 1 241",
  "247 5 2 246 250 1 1 2c6f 251 1 1 2c6d 252 1 1 2c70 253 1 1 181 254 1 1 186 256 2 1 189 259 1 1",
  "18f 25b 1 1 190 25c 1 1 a7ab 260 1 1 193 261 1 1 a7ac 263 1 1 194 264 1 1 a7cb 265 1 1 a78d",
  "266 1 1 a7aa 268 1 1 197 269 1 1 196 26a 1 1 a7ae 26b 1 1 2c62 26c 1 1 a7ad 26f 1 1 19c 271 1",
  "1 2c6e 272 1 1 19d 275 1 1 19f 27d 1 1 2c64 280 1 1 1a6 282 1 1 a7c5 283 1 1 1a9 287 1 1 a7b1",
  "288 1 1 1ae 289 1 1 244 28a 2 1 1b1 28c 1 1 245 292 1 1 1b7 29d 1 1 a7b2 29e 1 1 a7b0 345 1 1",
  "399 371 2 2 370 377 1 1 376 37b 3 1 3fd 3ac 1 1 386 3ad 3 1 388 3b1 11 1 391 3c2 1 1 3a3 3c3 9",
  "1 3a3 3cc 1 1 38c 3cd 2 1 38e 3d0 1 1 392 3d1 1 1 398 3d5 1 1 3a6 3d6 1 1 3a0 3d7 1 1 3cf 3d9",
  "c 2 3d8 3f0 1 1 39a 3f1 1 1 3a1 3f2 1 1 3f9 3f3 1 1 37f 3f5 1 1 395 3f8 1 1 3f7 3fb 1 1 3fa",
  "430 20 1 410 450 10 1 400 461 11 2 460 48b 1b 2 48a 4c2 7 2 4c1 4cf 1 1 4c0 4d1 30 2 4d0 561",
  "26 1 531 10d0 2b 1 1c90 10fd 3 1 1cbd 13f8 6 1 13f0 1c80 1 1 412 1c81 1 1 414 1c82 1 1 41e",
  "1c83 2 1 421 1c85 1 1 422 1c86 1 1 42a 1c87 1 1 462 1c88 1 1 a64a 1c8a 1 1 1c89 1d79 1 1 a77d",
  "1d7d 1 1 2c63 1d8e 1 1 a7c6 1e01 4b 2 1e00 1e9b 1 1 1e60 1ea1 30 2 1ea0 1f00 8 1 1f08 1f10 6 1",
  "1f18 1f20 8 1 1f28 1f30 8 1 1f38 1f40 6 1 1f48 1f51 4 2 1f59 1f60 8 1 1f68 1f70 2 1 1fba 1f72",
  "4 1 1fc8 1f76 2 1 1fda 1f78 2 1 1ff8 1f7a 2 1 1fea 1f7c 2 1 1ffa 1fb0 2 1 1fb8 1fbe 1 1 399",
  "1fd0 2 1 1fd8 1fe0 2 1 1fe8 1fe5 1 1 1fec 214e 1 1 2132 2170 10 1 2160 2184 1 1 2183 24d0 1a 1",
  "24b6 2c30 30 1 2c00 2c61 1 1 2c60 2c65 1 1 23a 2c66 1 1 23e 2c68 3 2 2c67 2c73 1 1 2c72 2c76 1",
  "1 2c75 2c81 32 2 2c80 2cec 2 2 2ceb 2cf3 1 1 2cf2 2d00 26 1 10a0 2d27 1 1 10c7 2d2d 1 1 10cd",
  "a641 17 2 a640 a681 e 2 a680 a723 7 2 a722 a733 1f 2 a732 a77a 2 2 a779 a77f 5 2 a77e a78c 1 1",
  "a78b a791 2 2 a790 a794 1 1 a7c4 a797 a 2 a796 a7b5 8 2 a7b4 a7c8 2 2 a7c7 a7cd 8 2 a7cc a7f6",
  "1 1 a7f5 ab53 1 1 a7b3 ab70 50 1 13a0 ff41 1a 1 ff21 10428 28 1 10400 104d8 24 1 104b0 10597 b",
  "1 10570 105a3 f 1 1057c 105b3 7 1 1058c 105bb 2 1 10594 10cc0 33 1 10c80 10d70 16 1 10d50",
  "118c0 20 1 118a0 16e60 20 1 16e40 16ebb 19 1 16ea0 1e922 22 1 1e900"]

/-- Characters whose lower case is one other character. -/
def lowerTable : List String := [
  "41 1a 1 61 c0 17 1 e0 d8 7 1 f8 100 18 2 101 132 3 2 133 139 8 2 13a 14a 17 2 14b 178 1 1 ff",
  "179 3 2 17a 181 1 1 253 182 2 2 183 186 1 1 254 187 1 1 188 189 2 1 256 18b 1 1 18c 18e 1 1",
  "1dd 18f 1 1 259 190 1 1 25b 191 1 1 192 193 1 1 260 194 1 1 263 196 1 1 269 197 1 1 268 198 1",
  "1 199 19c 1 1 26f 19d 1 1 272 19f 1 1 275 1a0 3 2 1a1 1a6 1 1 280 1a7 1 1 1a8 1a9 1 1 283 1ac",
  "1 1 1ad 1ae 1 1 288 1af 1 1 1b0 1b1 2 1 28a 1b3 2 2 1b4 1b7 1 1 292 1b8 1 1 1b9 1bc 1 1 1bd",
  "1c4 1 1 1c6 1c5 1 1 1c6 1c7 1 1 1c9 1c8 1 1 1c9 1ca 1 1 1cc 1cb 9 2 1cc 1de 9 2 1df 1f1 1 1",
  "1f3 1f2 2 2 1f3 1f6 1 1 195 1f7 1 1 1bf 1f8 14 2 1f9 220 1 1 19e 222 9 2 223 23a 1 1 2c65 23b",
  "1 1 23c 23d 1 1 19a 23e 1 1 2c66 241 1 1 242 243 1 1 180 244 1 1 289 245 1 1 28c 246 5 2 247",
  "370 2 2 371 376 1 1 377 37f 1 1 3f3 386 1 1 3ac 388 3 1 3ad 38c 1 1 3cc 38e 2 1 3cd 391 11 1",
  "3b1 3a3 9 1 3c3 3cf 1 1 3d7 3d8 c 2 3d9 3f4 1 1 3b8 3f7 1 1 3f8 3f9 1 1 3f2 3fa 1 1 3fb 3fd 3",
  "1 37b 400 10 1 450 410 20 1 430 460 11 2 461 48a 1b 2 48b 4c0 1 1 4cf 4c1 7 2 4c2 4d0 30 2 4d1",
  "531 26 1 561 10a0 26 1 2d00 10c7 1 1 2d27 10cd 1 1 2d2d 13a0 50 1 ab70 13f0 6 1 13f8 1c89 1 1",
  "1c8a 1c90 2b 1 10d0 1cbd 3 1 10fd 1e00 4b 2 1e01 1e9e 1 1 df 1ea0 30 2 1ea1 1f08 8 1 1f00 1f18",
  "6 1 1f10 1f28 8 1 1f20 1f38 8 1 1f30 1f48 6 1 1f40 1f59 4 2 1f51 1f68 8 1 1f60 1f88 8 1 1f80",
  "1f98 8 1 1f90 1fa8 8 1 1fa0 1fb8 2 1 1fb0 1fba 2 1 1f70 1fbc 1 1 1fb3 1fc8 4 1 1f72 1fcc 1 1",
  "1fc3 1fd8 2 1 1fd0 1fda 2 1 1f76 1fe8 2 1 1fe0 1fea 2 1 1f7a 1fec 1 1 1fe5 1ff8 2 1 1f78 1ffa",
  "2 1 1f7c 1ffc 1 1 1ff3 2126 1 1 3c9 212a 1 1 6b 212b 1 1 e5 2132 1 1 214e 2160 10 1 2170 2183",
  "1 1 2184 24b6 1a 1 24d0 2c00 30 1 2c30 2c60 1 1 2c61 2c62 1 1 26b 2c63 1 1 1d7d 2c64 1 1 27d",
  "2c67 3 2 2c68 2c6d 1 1 251 2c6e 1 1 271 2c6f 1 1 250 2c70 1 1 252 2c72 1 1 2c73 2c75 1 1 2c76",
  "2c7e 2 1 23f 2c80 32 2 2c81 2ceb 2 2 2cec 2cf2 1 1 2cf3 a640 17 2 a641 a680 e 2 a681 a722 7 2",
  "a723 a732 1f 2 a733 a779 2 2 a77a a77d 1 1 1d79 a77e 5 2 a77f a78b 1 1 a78c a78d 1 1 265 a790",
  "2 2 a791 a796 a 2 a797 a7aa 1 1 266 a7ab 1 1 25c a7ac 1 1 261 a7ad 1 1 26c a7ae 1 1 26a a7b0 1",
  "1 29e a7b1 1 1 287 a7b2 1 1 29d a7b3 1 1 ab53 a7b4 8 2 a7b5 a7c4 1 1 a794 a7c5 1 1 282 a7c6 1",
  "1 1d8e a7c7 2 2 a7c8 a7cb 1 1 264 a7cc 8 2 a7cd a7dc 1 1 19b a7f5 1 1 a7f6 ff21 1a 1 ff41",
  "10400 28 1 10428 104b0 24 1 104d8 10570 b 1 10597 1057c f 1 105a3 1058c 7 1 105b3 10594 2 1",
  "105bb 10c80 33 1 10cc0 10d50 16 1 10d70 118a0 20 1 118c0 16e40 20 1 16e60 16ea0 19 1 16ebb",
  "1e900 22 1 1e922"]

/-- Characters whose upper case is several characters. -/
def upperExpansions : List (Nat × List Nat) := [
  (0xdf, [0x53, 0x53]), (0x149, [0x2bc, 0x4e]), (0x1f0, [0x4a, 0x30c]),
  (0x390, [0x399, 0x308, 0x301]), (0x3b0, [0x3a5, 0x308, 0x301]), (0x587, [0x535, 0x552]),
  (0x1e96, [0x48, 0x331]), (0x1e97, [0x54, 0x308]), (0x1e98, [0x57, 0x30a]),
  (0x1e99, [0x59, 0x30a]), (0x1e9a, [0x41, 0x2be]), (0x1f50, [0x3a5, 0x313]),
  (0x1f52, [0x3a5, 0x313, 0x300]), (0x1f54, [0x3a5, 0x313, 0x301]),
  (0x1f56, [0x3a5, 0x313, 0x342]), (0x1f80, [0x1f08, 0x399]), (0x1f81, [0x1f09, 0x399]),
  (0x1f82, [0x1f0a, 0x399]), (0x1f83, [0x1f0b, 0x399]), (0x1f84, [0x1f0c, 0x399]),
  (0x1f85, [0x1f0d, 0x399]), (0x1f86, [0x1f0e, 0x399]), (0x1f87, [0x1f0f, 0x399]),
  (0x1f88, [0x1f08, 0x399]), (0x1f89, [0x1f09, 0x399]), (0x1f8a, [0x1f0a, 0x399]),
  (0x1f8b, [0x1f0b, 0x399]), (0x1f8c, [0x1f0c, 0x399]), (0x1f8d, [0x1f0d, 0x399]),
  (0x1f8e, [0x1f0e, 0x399]), (0x1f8f, [0x1f0f, 0x399]), (0x1f90, [0x1f28, 0x399]),
  (0x1f91, [0x1f29, 0x399]), (0x1f92, [0x1f2a, 0x399]), (0x1f93, [0x1f2b, 0x399]),
  (0x1f94, [0x1f2c, 0x399]), (0x1f95, [0x1f2d, 0x399]), (0x1f96, [0x1f2e, 0x399]),
  (0x1f97, [0x1f2f, 0x399]), (0x1f98, [0x1f28, 0x399]), (0x1f99, [0x1f29, 0x399]),
  (0x1f9a, [0x1f2a, 0x399]), (0x1f9b, [0x1f2b, 0x399]), (0x1f9c, [0x1f2c, 0x399]),
  (0x1f9d, [0x1f2d, 0x399]), (0x1f9e, [0x1f2e, 0x399]), (0x1f9f, [0x1f2f, 0x399]),
  (0x1fa0, [0x1f68, 0x399]), (0x1fa1, [0x1f69, 0x399]), (0x1fa2, [0x1f6a, 0x399]),
  (0x1fa3, [0x1f6b, 0x399]), (0x1fa4, [0x1f6c, 0x399]), (0x1fa5, [0x1f6d, 0x399]),
  (0x1fa6, [0x1f6e, 0x399]), (0x1fa7, [0x1f6f, 0x399]), (0x1fa8, [0x1f68, 0x399]),
  (0x1fa9, [0x1f69, 0x399]), (0x1faa, [0x1f6a, 0x399]), (0x1fab, [0x1f6b, 0x399]),
  (0x1fac, [0x1f6c, 0x399]), (0x1fad, [0x1f6d, 0x399]), (0x1fae, [0x1f6e, 0x399]),
  (0x1faf, [0x1f6f, 0x399]), (0x1fb2, [0x1fba, 0x399]), (0x1fb3, [0x391, 0x399]),
  (0x1fb4, [0x386, 0x399]), (0x1fb6, [0x391, 0x342]), (0x1fb7, [0x391, 0x342, 0x399]),
  (0x1fbc, [0x391, 0x399]), (0x1fc2, [0x1fca, 0x399]), (0x1fc3, [0x397, 0x399]),
  (0x1fc4, [0x389, 0x399]), (0x1fc6, [0x397, 0x342]), (0x1fc7, [0x397, 0x342, 0x399]),
  (0x1fcc, [0x397, 0x399]), (0x1fd2, [0x399, 0x308, 0x300]), (0x1fd3, [0x399, 0x308, 0x301]),
  (0x1fd6, [0x399, 0x342]), (0x1fd7, [0x399, 0x308, 0x342]), (0x1fe2, [0x3a5, 0x308, 0x300]),
  (0x1fe3, [0x3a5, 0x308, 0x301]), (0x1fe4, [0x3a1, 0x313]), (0x1fe6, [0x3a5, 0x342]),
  (0x1fe7, [0x3a5, 0x308, 0x342]), (0x1ff2, [0x1ffa, 0x399]), (0x1ff3, [0x3a9, 0x399]),
  (0x1ff4, [0x38f, 0x399]), (0x1ff6, [0x3a9, 0x342]), (0x1ff7, [0x3a9, 0x342, 0x399]),
  (0x1ffc, [0x3a9, 0x399]), (0xfb00, [0x46, 0x46]), (0xfb01, [0x46, 0x49]),
  (0xfb02, [0x46, 0x4c]), (0xfb03, [0x46, 0x46, 0x49]), (0xfb04, [0x46, 0x46, 0x4c]),
  (0xfb05, [0x53, 0x54]), (0xfb06, [0x53, 0x54]), (0xfb13, [0x544, 0x546]),
  (0xfb14, [0x544, 0x535]), (0xfb15, [0x544, 0x53b]), (0xfb16, [0x54e, 0x546]),
  (0xfb17, [0x544, 0x53d])]

/-- The rows of `upperTable`. -/
def upperRows : List CaseRow := caseRows (tableNumbers upperTable)

/-- The rows of `lowerTable`. -/
def lowerRows : List CaseRow := caseRows (tableNumbers lowerTable)

/-! ## Characters -/

/-- The upper case of a character. -/
def upperChar (c : Char) : List Char :=
  let n := c.toNat
  if n < 0x80 then [if 'a' ≤ c && c ≤ 'z' then Char.ofNat (n - 0x20) else c]
  else match upperExpansions.lookup n with
    | some image => image.map Char.ofNat
    | none => [((upperRows.findSome? (·.map? n)).map Char.ofNat).getD c]

/-- The lower case of a character, away from the rule for sigma. -/
def lowerChar (c : Char) : List Char :=
  let n := c.toNat
  if n < 0x80 then [if 'A' ≤ c && c ≤ 'Z' then Char.ofNat (n + 0x20) else c]
  else if n = 0x130 then ['i', Char.ofNat 0x307]
  else [((lowerRows.findSome? (·.map? n)).map Char.ofNat).getD c]

/-! ## Texts -/

/-- The upper case of a text. -/
def upper (cs : List Char) : List Char := cs.flatMap upperChar

/-- Whether the first character that is not case-ignorable is cased. -/
def meetsCased (cs : List Char) : Bool :=
  match cs.dropWhile isCaseIgnorable with
  | c :: _ => isCased c
  | [] => false

/-- Whether a sigma ends a word, by the characters before it, the nearest first, and those
    after it. -/
def isFinal (before after : List Char) : Bool := meetsCased before && !meetsCased after

/-- The lower case of a text that stands after other characters, the nearest first. -/
def lowerAfter (before : List Char) : List Char → List Char
  | [] => []
  | c :: cs =>
    (if c = 'Σ' then [if isFinal before cs then 'ς' else 'σ'] else lowerChar c) ++
      lowerAfter (c :: before) cs

/-- The lower case of a text. -/
def lower (cs : List Char) : List Char := lowerAfter [] cs

end OrderedLexer.Text
