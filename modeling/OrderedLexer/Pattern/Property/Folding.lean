/-
  Simple case folding, as Unicode 16 defines it: which characters differ only in case.

  `variants c` lists the other characters that fold to the same character as `c`.  Most classes
  are pairs, given by rows as in the case mappings; the larger ones are listed.
-/
import OrderedLexer.Text.Casing

namespace OrderedLexer.Pattern

open Text (caseRows tableNumbers rank)

/-- Pairs of characters that fold alike, as rows. -/
def foldTable : List String := [
  "41 a 1 61 4c 7 1 6c 54 7 1 74 c0 5 1 e0 c6 11 1 e6 d8 7 1 f8 df 1 1 1e9e ff 1 1 178 100 18 2",
  "101 132 3 2 133 139 8 2 13a 14a 17 2 14b 179 3 2 17a 180 1 1 243 181 1 1 253 182 2 2 183 186 1",
  "1 254 187 1 1 188 189 2 1 256 18b 1 1 18c 18e 1 1 1dd 18f 1 1 259 190 1 1 25b 191 1 1 192 193",
  "1 1 260 194 1 1 263 195 1 1 1f6 196 1 1 269 197 1 1 268 198 1 1 199 19a 1 1 23d 19b 1 1 a7dc",
  "19c 1 1 26f 19d 1 1 272 19e 1 1 220 19f 1 1 275 1a0 3 2 1a1 1a6 1 1 280 1a7 1 1 1a8 1a9 1 1",
  "283 1ac 1 1 1ad 1ae 1 1 288 1af 1 1 1b0 1b1 2 1 28a 1b3 2 2 1b4 1b7 1 1 292 1b8 1 1 1b9 1bc 1",
  "1 1bd 1bf 1 1 1f7 1cd 8 2 1ce 1de 9 2 1df 1f4 1 1 1f5 1f8 14 2 1f9 222 9 2 223 23a 1 1 2c65",
  "23b 1 1 23c 23e 1 1 2c66 23f 2 1 2c7e 241 1 1 242 244 1 1 289 245 1 1 28c 246 5 2 247 250 1 1",
  "2c6f 251 1 1 2c6d 252 1 1 2c70 25c 1 1 a7ab 261 1 1 a7ac 264 1 1 a7cb 265 1 1 a78d 266 1 1",
  "a7aa 26a 1 1 a7ae 26b 1 1 2c62 26c 1 1 a7ad 271 1 1 2c6e 27d 1 1 2c64 282 1 1 a7c5 287 1 1",
  "a7b1 29d 1 1 a7b2 29e 1 1 a7b0 370 2 2 371 376 1 1 377 37b 3 1 3fd 37f 1 1 3f3 386 1 1 3ac 388",
  "3 1 3ad 38c 1 1 3cc 38e 2 1 3cd 390 1 1 1fd3 391 2 2 3b1 394 2 2 3b4 397 1 1 3b7 39b 2 2 3bb",
  "39e 2 1 3be 3a4 2 1 3c4 3a7 2 1 3c7 3aa 2 1 3ca 3b0 1 1 1fe3 3cf 1 1 3d7 3d8 c 2 3d9 3f2 1 1",
  "3f9 3f7 1 1 3f8 3fa 1 1 3fb 400 10 1 450 410 2 1 430 413 2 2 433 416 8 1 436 41f 2 1 43f 423 7",
  "1 443 42b 5 1 44b 460 1 1 461 464 f 2 465 48a 1b 2 48b 4c0 1 1 4cf 4c1 7 2 4c2 4d0 30 2 4d1",
  "531 26 1 561 10a0 26 1 2d00 10c7 1 1 2d27 10cd 1 1 2d2d 10d0 2b 1 1c90 10fd 3 1 1cbd 13a0 50 1",
  "ab70 13f0 6 1 13f8 1c89 1 1 1c8a 1d79 1 1 a77d 1d7d 1 1 2c63 1d8e 1 1 a7c6 1e00 30 2 1e01 1e62",
  "1a 2 1e63 1ea0 30 2 1ea1 1f00 8 1 1f08 1f10 6 1 1f18 1f20 8 1 1f28 1f30 8 1 1f38 1f40 6 1 1f48",
  "1f51 4 2 1f59 1f60 8 1 1f68 1f70 2 1 1fba 1f72 4 1 1fc8 1f76 2 1 1fda 1f78 2 1 1ff8 1f7a 2 1",
  "1fea 1f7c 2 1 1ffa 1f80 8 1 1f88 1f90 8 1 1f98 1fa0 8 1 1fa8 1fb0 2 1 1fb8 1fb3 1 1 1fbc 1fc3",
  "1 1 1fcc 1fd0 2 1 1fd8 1fe0 2 1 1fe8 1fe5 1 1 1fec 1ff3 1 1 1ffc 2132 1 1 214e 2160 10 1 2170",
  "2183 1 1 2184 24b6 1a 1 24d0 2c00 30 1 2c30 2c60 1 1 2c61 2c67 3 2 2c68 2c72 1 1 2c73 2c75 1 1",
  "2c76 2c80 32 2 2c81 2ceb 2 2 2cec 2cf2 1 1 2cf3 a640 5 2 a641 a64c 11 2 a64d a680 e 2 a681",
  "a722 7 2 a723 a732 1f 2 a733 a779 2 2 a77a a77e 5 2 a77f a78b 1 1 a78c a790 2 2 a791 a794 1 1",
  "a7c4 a796 a 2 a797 a7b3 1 1 ab53 a7b4 8 2 a7b5 a7c7 2 2 a7c8 a7cc 1 1 a7cd a7d0 1 1 a7d1 a7d6",
  "3 2 a7d7 a7f5 1 1 a7f6 fb05 1 1 fb06 ff21 1a 1 ff41 10400 28 1 10428 104b0 24 1 104d8 10570 b",
  "1 10597 1057c f 1 105a3 1058c 7 1 105b3 10594 2 1 105bb 10c80 33 1 10cc0 10d50 16 1 10d70",
  "118a0 20 1 118c0 16e40 20 1 16e60 1e900 22 1 1e922"]

/-- Larger sets of characters that fold alike. -/
def foldClasses : List (List Nat) := [
  [0x4b, 0x6b, 0x212a], [0x53, 0x73, 0x17f], [0xb5, 0x39c, 0x3bc], [0xc5, 0xe5, 0x212b],
  [0x1c4, 0x1c5, 0x1c6], [0x1c7, 0x1c8, 0x1c9], [0x1ca, 0x1cb, 0x1cc], [0x1f1, 0x1f2, 0x1f3],
  [0x345, 0x399, 0x3b9, 0x1fbe], [0x392, 0x3b2, 0x3d0], [0x395, 0x3b5, 0x3f5],
  [0x398, 0x3b8, 0x3d1, 0x3f4], [0x39a, 0x3ba, 0x3f0], [0x3a0, 0x3c0, 0x3d6], [0x3a1, 0x3c1, 0x3f1],
  [0x3a3, 0x3c2, 0x3c3], [0x3a6, 0x3c6, 0x3d5], [0x3a9, 0x3c9, 0x2126], [0x412, 0x432, 0x1c80],
  [0x414, 0x434, 0x1c81], [0x41e, 0x43e, 0x1c82], [0x421, 0x441, 0x1c83],
  [0x422, 0x442, 0x1c84, 0x1c85], [0x42a, 0x44a, 0x1c86], [0x462, 0x463, 0x1c87],
  [0x1c88, 0xa64a, 0xa64b], [0x1e60, 0x1e61, 0x1e9b]]

/-- Every character above ASCII that has variants, with these, as the table and the classes
    give them. -/
def foldEntries : List (Nat × List Nat) :=
  let pairs := (caseRows (tableNumbers foldTable)).flatMap fun r =>
    (List.range r.count).flatMap fun i =>
      let n := r.first + i * r.step
      let m := r.image + i * r.step
      [(n, [m]), (m, [n])]
  let classes := foldClasses.flatMap fun ns => ns.map fun n => (n, ns.filter (· != n))
  ((pairs ++ classes).filter fun e => 0x80 ≤ e.1).mergeSort fun d e => d.1 ≤ e.1

/-- The code points of `foldEntries`. -/
def foldKeys : Array Nat := (foldEntries.map Prod.fst).toArray

/-- The variants of `foldEntries`. -/
def foldImages : Array (List Char) := (foldEntries.map fun e => e.2.map Char.ofNat).toArray

/-- The other ASCII letter that differs in case only. -/
def asciiVariants (c : Char) : List Char :=
  if 'a' ≤ c && c ≤ 'z' then [Char.ofNat (c.toNat - 0x20)]
  else if 'A' ≤ c && c ≤ 'Z' then [Char.ofNat (c.toNat + 0x20)]
  else []

/-- The other characters that fold to the same character.  Of those that fold to ASCII letters, two
    are above ASCII: the sign for kelvin and the long s. -/
def variants (c : Char) : List Char :=
  let n := c.toNat
  if n < 0x80 then
    asciiVariants c ++
      (if c = 'k' || c = 'K' then [Char.ofNat 0x212a]
       else if c = 's' || c = 'S' then [Char.ofNat 0x17f]
       else [])
  else
    let i := rank foldKeys n - 1
    if foldKeys.getD i 0 = n then foldImages.getD i [] else []

end OrderedLexer.Pattern
