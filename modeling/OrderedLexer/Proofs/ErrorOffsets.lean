/-
  Handler bodies as bytes.

  A body is stored as bytes.  Its characters have byte offsets, texts are sliced between offsets, an
  offset becomes a column by counting the characters before it, and lexemes lie in an array and are
  read by their indices.  All of this can go wrong: a slice needs two offsets that stand between
  characters, in their order, and an index has to be in range.

  `Bytes.parse?` reads a body in this way, and gives `none` as soon as one of the steps goes wrong.
  `parse?_eq`: this never happens, and what is read is the body that the text stands for, or the same
  error at the same column.

  `compile_error_points` puts it together with what stands at the columns of errors.
-/
import OrderedLexer.Proofs.ErrorColumns
import OrderedLexer.Proofs.Offset

namespace OrderedLexer.Expr

open Text (byteSize isAsciiDigit isWhiteSpace)

instance (input : String) (offset : Nat) : Decidable (IsBoundary input offset) :=
  inferInstanceAs (Decidable ((String.Pos.Raw.mk offset).IsValid input))

/-! ## Reading bytes -/

namespace Bytes

/-- What is read; `none` if a slice or an index is out of range, or an offset is inside a character. -/
abbrev Checked (α : Type) := Option (Except Error α)

/-- Characters with the offsets of their first bytes. -/
def indexed (offset : Nat) : List Char → List (Nat × Char)
  | [] => []
  | c :: cs => (offset, c) :: indexed (offset + c.utf8Size) cs

/-- The part of a body between two offsets. -/
def slice? (src : String) (start stop : Nat) : Option String :=
  if IsBoundary src start ∧ IsBoundary src stop ∧ start ≤ stop then
    some (OrderedLexer.slice src start stop)
  else none

/-- The column of an offset. -/
def columnOf? (src : String) (offset : Nat) : Option Nat :=
  (slice? src 0 (min offset src.utf8ByteSize)).map fun s => s.length + 1

/-- An error at an offset. -/
def errorAt? {α : Type} (src : String) (offset : Nat) (cause : Cause) : Checked α :=
  (columnOf? src offset).map fun column => .error ⟨column, cause⟩

/-- The characters of a literal behind its opening quote, and what is left behind its closing one.
    `start` is the offset of the opening quote. -/
def literal? (src : String) (quote : Char) (start : Nat) (cs : List (Nat × Char)) :
    Checked (List Char × List (Nat × Char)) :=
  match cs with
  | [] => errorAt? src start .unterminatedString
  | (k, c) :: rest =>
    if c = quote then some (.ok ([], rest))
    else if c = '\\' then
      match rest with
      | [] => errorAt? src start .unterminatedString
      | (_, e) :: rest =>
        if e = 'u' then
          match codePoint? ((rest.take 4).map Prod.snd) with
          | some d => (literal? src quote start (rest.drop 4)).map (·.map fun (ds, r) => (d :: ds, r))
          | none => errorAt? src k (.invalidEscape 'u')
        else match simpleEscape? e with
          | some d => (literal? src quote start rest).map (·.map fun (ds, r) => (d :: ds, r))
          | none => errorAt? src k (.invalidEscape e)
    else (literal? src quote start rest).map (·.map fun (ds, r) => (c :: ds, r))
termination_by cs.length
decreasing_by all_goals simp_all <;> omega

/-- The offset behind a run of characters, and what follows it. -/
def run (p : Char → Bool) (stop : Nat) : List (Nat × Char) → Nat × List (Nat × Char)
  | [] => (stop, [])
  | (k, c) :: rest => if p c then run p (k + c.utf8Size) rest else (stop, (k, c) :: rest)

theorem length_run_le (p : Char → Bool) (stop : Nat) (cs : List (Nat × Char)) :
    (run p stop cs).2.length ≤ cs.length := by
  fun_induction run p stop cs with
  | case1 => exact le_rfl
  | case2 stop k c rest hc ih => exact Nat.le_succ_of_le ih
  | case3 => exact le_rfl

theorem errorAt?_ne_ok {α : Type} {src : String} {offset : Nat} {cause : Cause} {a : α} :
    errorAt? src offset cause ≠ some (.ok a) := by
  intro h
  obtain ⟨_, -, hcolumn⟩ := Option.map_eq_some_iff.1 h
  cases hcolumn

/-- A literal with one more character in front. -/
theorem of_map_cons {d : Char} {ds : List Char} {x : Checked (List Char × List (Nat × Char))}
    {r : List (Nat × Char)} (h : x.map (·.map fun (ds, r) => (d :: ds, r)) = some (.ok (ds, r))) :
    ∃ ds', x = some (.ok (ds', r)) := by
  rcases x with _ | _ | ⟨ds', r'⟩ <;> cases h
  exact ⟨ds', rfl⟩

theorem length_of_literal? {src : String} {quote : Char} {start : Nat} {cs r : List (Nat × Char)}
    {ds : List Char} (h : literal? src quote start cs = some (.ok (ds, r))) :
    r.length < cs.length := by
  fun_induction literal? src quote start cs generalizing ds with
  | case1 => exact absurd h errorAt?_ne_ok
  | case2 k rest =>
    cases h
    exact Nat.lt_succ_self _
  | case3 => exact absurd h errorAt?_ne_ok
  | case4 k k' rest d hd hquote ih =>
    obtain ⟨ds', h⟩ := of_map_cons h
    have := ih h
    simp only [List.length_drop, List.length_cons] at this ⊢
    omega
  | case5 => exact absurd h errorAt?_ne_ok
  | case6 k k' e rest hu d hd hquote ih =>
    obtain ⟨ds', h⟩ := of_map_cons h
    exact Nat.lt_succ_of_lt (Nat.lt_succ_of_lt (ih h))
  | case7 => exact absurd h errorAt?_ne_ok
  | case8 k c rest hquote hback ih =>
    obtain ⟨ds', h⟩ := of_map_cons h
    exact Nat.lt_succ_of_lt (ih h)

/-- The lexemes of a body, with their offsets. -/
def scan? (src : String) (cs : List (Nat × Char)) : Checked (List (Nat × Lexeme)) :=
  match cs with
  | [] => some (.ok [])
  | (start, c) :: rest =>
    if isWhiteSpace c then scan? src rest
    else if c = '"' || c = '\'' then
      match h : literal? src c start rest with
      | none => none
      | some (.error e) => some (.error e)
      | some (.ok (ds, r)) =>
        have := length_of_literal? h
        (scan? src r).map (·.map ((start, .str (String.ofList ds)) :: ·))
    else if isAsciiDigit c then
      let behind := run isAsciiDigit (start + c.utf8Size) rest
      have := length_run_le isAsciiDigit (start + c.utf8Size) rest
      match slice? src start behind.1 with
      | none => none
      | some digits =>
        let n := decimalValue digits.toList
        if maxInteger < n then errorAt? src start .integerOverflow
        else (scan? src behind.2).map (·.map ((start, .int n) :: ·))
    else if isIdentStart c then
      let behind := run isIdentRest (start + c.utf8Size) rest
      have := length_run_le isIdentRest (start + c.utf8Size) rest
      match slice? src start behind.1 with
      | none => none
      | some name => (scan? src behind.2).map (·.map ((start, .ident name) :: ·))
    else if isPunct c then (scan? src rest).map (·.map ((start, .punct c) :: ·))
    else errorAt? src start (.unexpectedChar c)
termination_by cs.length
decreasing_by all_goals simp only [List.length_cons]; omega

/-- The body that a text stands for.  The reader gets lexemes at their indices; the end of the text is
    the last of them. -/
def parse? (src : String) : Checked Body :=
  match scan? src (indexed 0 src.toList) with
  | none => none
  | some (.error e) => some (.error e)
  | some (.ok toks) =>
    match Reader.body toks.length (toks.mapIdx fun i t => ⟨i, t.2⟩) with
    | .ok b => some (.ok b)
    | .error e =>
      match (toks.map Prod.fst ++ [src.utf8ByteSize])[e.column]? with
      | none => none
      | some offset => errorAt? src offset e.cause

/-! ## Slices and columns -/

variable {src : String} {a b cs : List Char}

theorem slice?_byteSize (h : src.toList = a ++ (b ++ cs)) :
    slice? src (byteSize a) (byteSize a + byteSize b) = some (String.ofList b) := by
  have hstop : IsBoundary src (byteSize a + byteSize b) := by
    rw [← Text.byteSize_append]
    exact isBoundary_byteSize (h.trans (List.append_assoc ..).symm)
  rw [slice?, if_pos ⟨isBoundary_byteSize h, hstop, Nat.le_add_right ..⟩, slice_byteSize h]

theorem columnOf?_byteSize (h : src.toList = a ++ b) :
    columnOf? src (byteSize a) = some (a.length + 1) := by
  have hle : byteSize a ≤ src.utf8ByteSize := by
    rw [← byteSize_toList, h, Text.byteSize_append]
    exact Nat.le_add_right ..
  have hslice : slice? src (byteSize []) (byteSize [] + byteSize a) = some (String.ofList a) :=
    slice?_byteSize h
  rw [Text.byteSize_nil, Nat.zero_add] at hslice
  rw [columnOf?, Nat.min_eq_left hle, hslice, Option.map_some, String.length_ofList]

theorem errorAt?_byteSize {α : Type} (h : src.toList = a ++ b) (cause : Cause) :
    (errorAt? src (byteSize a) cause : Checked α) = some (.error ⟨a.length + 1, cause⟩) := by
  rw [errorAt?, columnOf?_byteSize h, Option.map_some]

/-! ## Characters with offsets -/

theorem indexed_cons (a : List Char) (c : Char) (cs : List Char) :
    indexed (byteSize a) (c :: cs) = (byteSize a, c) :: indexed (byteSize (a ++ [c])) cs := by
  rw [indexed, Text.byteSize_append, Text.byteSize_cons, Text.byteSize_nil, Nat.add_zero]

theorem map_snd_indexed (offset : Nat) (cs : List Char) : (indexed offset cs).map Prod.snd = cs := by
  induction cs generalizing offset with
  | nil => rfl
  | cons c cs ih => rw [indexed, List.map_cons, ih]

theorem drop_indexed (offset n : Nat) (cs : List Char) :
    (indexed offset cs).drop n = indexed (offset + byteSize (cs.take n)) (cs.drop n) := by
  induction cs generalizing offset n with
  | nil => simp [indexed]
  | cons c cs ih =>
    cases n with
    | zero => rfl
    | succ n =>
      rw [indexed, List.drop_succ_cons, ih, List.take_succ_cons, Text.byteSize_cons, Nat.add_assoc,
        List.drop_succ_cons]

theorem run_indexed (p : Char → Bool) (offset : Nat) (cs : List Char) :
    run p offset (indexed offset cs) = (offset + byteSize (cs.takeWhile p),
      indexed (offset + byteSize (cs.takeWhile p)) (cs.dropWhile p)) := by
  induction cs generalizing offset with
  | nil => rfl
  | cons c cs ih =>
    rw [indexed, run, List.takeWhile_cons, List.dropWhile_cons]
    split
    · rw [ih, Text.byteSize_cons, Nat.add_assoc]
    · rfl

/-- A run of characters ends at a boundary, where the rest of the text starts. -/
theorem run_behind (p : Char → Bool) {c : Char} (h : src.toList = a ++ c :: cs) :
    let behind := run p (byteSize a + c.utf8Size) (indexed (byteSize a + c.utf8Size) cs)
    slice? src (byteSize a) behind.1 = some (String.ofList (c :: cs.takeWhile p)) ∧
      behind.2 = indexed (byteSize (a ++ c :: cs.takeWhile p)) (cs.dropWhile p) := by
  have hparts : src.toList = a ++ (c :: cs.takeWhile p ++ cs.dropWhile p) := by
    rw [List.cons_append, List.takeWhile_append_dropWhile, h]
  rw [run_indexed, Nat.add_assoc, ← Text.byteSize_cons]
  exact ⟨slice?_byteSize hparts, by rw [Text.byteSize_append]⟩

/-! ## Literals -/

/-- What is read of a literal by characters, and by bytes. -/
inductive LiteralAlike (src : String) :
    Except Error (List Char × Nat × List Char) → Checked (List Char × List (Nat × Char)) → Prop
  | ok {ds a cs : List Char} (h : src.toList = a ++ cs) :
      LiteralAlike src (.ok (ds, a.length + 1, cs)) (some (.ok (ds, indexed (byteSize a) cs)))
  | error (e : Error) : LiteralAlike src (.error e) (some (.error e))

theorem LiteralAlike.map_cons {x : Except Error (List Char × Nat × List Char)}
    {y : Checked (List Char × List (Nat × Char))} (h : LiteralAlike src x y) (d : Char) :
    LiteralAlike src (x.map fun (ds, r) => (d :: ds, r))
      (y.map (·.map fun (ds, r) => (d :: ds, r))) := by
  cases h with
  | ok h => exact .ok h
  | error e => exact .error e

theorem LiteralAlike.of_ok {ds r : List Char} {next : Nat}
    {y : Checked (List Char × List (Nat × Char))} (h : LiteralAlike src (.ok (ds, next, r)) y) :
    ∃ a, src.toList = a ++ r ∧ next = a.length + 1 ∧ y = some (.ok (ds, indexed (byteSize a) r)) := by
  cases h with
  | @ok _ a _ h => exact ⟨a, h, rfl, rfl⟩

theorem LiteralAlike.of_error {e : Error} {y : Checked (List Char × List (Nat × Char))}
    (h : LiteralAlike src (.error e) y) : y = some (.error e) := by
  cases h
  rfl

theorem literalAlike {quote : Char} {column : Nat} {u v : List Char} (hopening : src.toList = u ++ v)
    (h : src.toList = a ++ cs) (hcolumn : column = a.length + 1) :
    LiteralAlike src (literal quote (u.length + 1) column cs)
      (literal? src quote (byteSize u) (indexed (byteSize a) cs)) := by
  fun_induction literal quote (u.length + 1) column cs generalizing a with
  | case1 =>
    rw [indexed, literal?.eq_def]
    simp only [errorAt?_byteSize hopening]
    exact .error _
  | case2 column rest =>
    subst hcolumn
    rw [List.append_cons] at h
    have hok : LiteralAlike src (.ok ([], (a ++ [quote]).length + 1, rest))
        (some (.ok ([], indexed (byteSize (a ++ [quote])) rest))) := .ok h
    rw [indexed_cons, literal?.eq_def]
    simpa using hok
  | case3 column hquote =>
    rw [indexed_cons, literal?.eq_def]
    simp only [if_neg hquote, if_true, indexed, errorAt?_byteSize hopening]
    exact .error _
  | case4 column rest d hd hquote ih =>
    have hrest : src.toList = (a ++ ['\\'] ++ ['u'] ++ rest.take 4) ++ rest.drop 4 := by
      simpa using h
    rw [indexed_cons, indexed_cons, literal?.eq_def]
    simp only [if_neg hquote, if_true, List.map_take, map_snd_indexed, hd, drop_indexed]
    rw [← Text.byteSize_append]
    refine (ih hrest ?_).map_cons d
    have hlength := length_of_codePoint? hd
    simp only [List.length_append, List.length_singleton, hlength]
    omega
  | case5 column rest hd hquote =>
    subst hcolumn
    rw [indexed_cons, indexed_cons, literal?.eq_def]
    simp only [if_neg hquote, if_true, List.map_take, map_snd_indexed, hd, errorAt?_byteSize h]
    exact .error _
  | case6 column e rest hu d hd hquote ih =>
    have hrest : src.toList = (a ++ ['\\'] ++ [e]) ++ rest := by simpa using h
    rw [indexed_cons, indexed_cons, literal?.eq_def]
    simp only [if_neg hquote, if_true, if_neg hu, hd]
    refine (ih hrest ?_).map_cons d
    simp only [List.length_append, List.length_singleton]
    omega
  | case7 column e rest hu hd hquote =>
    subst hcolumn
    rw [indexed_cons, indexed_cons, literal?.eq_def]
    simp only [if_neg hquote, if_true, if_neg hu, hd, errorAt?_byteSize h]
    exact .error _
  | case8 column c rest hquote hback ih =>
    rw [List.append_cons] at h
    rw [indexed_cons, literal?.eq_def]
    simp only [if_neg hquote, if_neg hback]
    refine (ih h ?_).map_cons c
    simp only [List.length_append, List.length_singleton]
    omega

/-- A literal behind its opening quote. -/
theorem literalAlike_behind {quote : Char} (h : src.toList = a ++ quote :: cs) :
    LiteralAlike src (literal quote (a.length + 1) (a.length + 1 + 1) cs)
      (literal? src quote (byteSize a) (indexed (byteSize (a ++ [quote])) cs)) :=
  literalAlike h (h.trans (List.append_cons ..)) (by rw [List.length_append]; rfl)

/-! ## Lexemes -/

/-- A lexeme at the column of its offset. -/
structure AtOffset (src : String) (t : Placed) (u : Nat × Lexeme) : Prop where
  column : columnOf? src u.1 = some t.column
  lexeme : t.lexeme = u.2

/-- The lexemes of a text by columns, and by offsets. -/
inductive ScanAlike (src : String) : Except Error (List Placed) → Checked (List (Nat × Lexeme)) → Prop
  | ok {ts : List Placed} {us : List (Nat × Lexeme)} (h : List.Forall₂ (AtOffset src) ts us) :
      ScanAlike src (.ok ts) (some (.ok us))
  | error (e : Error) : ScanAlike src (.error e) (some (.error e))

theorem ScanAlike.map_cons {x : Except Error (List Placed)} {y : Checked (List (Nat × Lexeme))}
    (h : ScanAlike src x y) (hsrc : src.toList = a ++ b) (l : Lexeme) :
    ScanAlike src (x.map (⟨a.length + 1, l⟩ :: ·)) (y.map (·.map ((byteSize a, l) :: ·))) := by
  cases h with
  | ok h => exact .ok (.cons ⟨columnOf?_byteSize hsrc, rfl⟩ h)
  | error e => exact .error e

/-- A literal is read first, and then what stands behind it. -/
theorem scan?_of_quote {c : Char} (hquote : c = '"' ∨ c = '\'') (start : Nat)
    (rest : List (Nat × Char)) :
    scan? src ((start, c) :: rest) = (literal? src c start rest).bind fun
      | .error e => some (.error e)
      | .ok (ds, r) => (scan? src r).map (·.map ((start, .str (String.ofList ds)) :: ·)) := by
  have hquote' : (c = '"' || c = '\'') = true := by simpa using hquote
  rw [scan?.eq_def]
  simp only [isWhiteSpace_quote hquote, hquote', if_true, Bool.false_eq_true, if_false]
  split
  · next h =>
    rw [h]
    rfl
  · next e h =>
    rw [h]
    rfl
  · next ds r h =>
    rw [h]
    rfl

/-- A text is cut into the same lexemes by bytes. -/
theorem scanAlike {column : Nat} (h : src.toList = a ++ cs) (hcolumn : column = a.length + 1) :
    ScanAlike src (scan column cs) (scan? src (indexed (byteSize a) cs)) := by
  fun_induction scan column cs generalizing a with
  | case1 =>
    rw [indexed, scan?.eq_def]
    exact .ok .nil
  | case2 column c rest hc ih =>
    rw [List.append_cons] at h
    rw [indexed_cons, scan?.eq_def]
    simp only [hc, if_true]
    exact ih h (by simp only [List.length_append, List.length_singleton]; omega)
  | case3 column c rest hc hquote e he =>
    subst hcolumn
    have hliteral := literalAlike_behind h
    rw [he] at hliteral
    rw [indexed_cons, scan?_of_quote (by simpa using hquote), hliteral.of_error]
    exact .error e
  | case4 column c rest hc hquote ds next r hl _ ih =>
    subst hcolumn
    have hliteral := literalAlike_behind h
    rw [hl] at hliteral
    obtain ⟨a', hrest, rfl, hread⟩ := hliteral.of_ok
    rw [indexed_cons, scan?_of_quote (by simpa using hquote), hread]
    exact (ih hrest rfl).map_cons h _
  | case5 column c rest hc hquote hdigit digits n =>
    rename_i hmax
    subst hcolumn
    have hlarge : maxInteger < decimalValue (c :: rest.takeWhile isAsciiDigit) := hmax
    rw [indexed, scan?.eq_def]
    simp only [hc, hquote, hdigit, if_true, Bool.false_eq_true, if_false, (run_behind isAsciiDigit h).1,
      String.toList_ofList, hlarge, errorAt?_byteSize h]
    exact .error _
  | case6 column c rest hc hquote hdigit digits n hmax =>
    rename_i ih
    subst hcolumn
    have hsmall : ¬maxInteger < decimalValue (c :: rest.takeWhile isAsciiDigit) := hmax
    have hrest : src.toList = (a ++ digits) ++ rest.dropWhile isAsciiDigit := by
      rw [List.append_assoc, List.cons_append, List.takeWhile_append_dropWhile, h]
    rw [indexed, scan?.eq_def]
    simp only [hc, hquote, hdigit, if_true, Bool.false_eq_true, if_false, (run_behind isAsciiDigit h).1,
      (run_behind isAsciiDigit h).2, String.toList_ofList, hsmall]
    refine (ih hrest ?_).map_cons h _
    rw [List.length_append]
    omega
  | case7 column c rest hc hquote hdigit hident name =>
    rename_i ih
    subst hcolumn
    have hrest : src.toList = (a ++ name) ++ rest.dropWhile isIdentRest := by
      rw [List.append_assoc, List.cons_append, List.takeWhile_append_dropWhile, h]
    rw [indexed, scan?.eq_def]
    simp only [hc, hquote, hdigit, hident, if_true, Bool.false_eq_true, if_false,
      (run_behind isIdentRest h).1, (run_behind isIdentRest h).2]
    refine (ih hrest ?_).map_cons h _
    rw [List.length_append]
    omega
  | case8 column c rest hc hquote hdigit hident hpunct ih =>
    subst hcolumn
    have hrest : src.toList = (a ++ [c]) ++ rest := h.trans (List.append_cons ..)
    rw [indexed_cons, scan?.eq_def]
    simp only [hc, hquote, hdigit, hident, hpunct, if_true, Bool.false_eq_true, if_false]
    exact (ih hrest (by rw [List.length_append]; rfl)).map_cons h _
  | case9 column c rest hc hquote hdigit hident hpunct =>
    subst hcolumn
    rw [indexed_cons, scan?.eq_def]
    simp only [hc, hquote, hdigit, hident, hpunct, Bool.false_eq_true, if_false, errorAt?_byteSize h]
    exact .error _

theorem ScanAlike.of_ok {ts : List Placed} {y : Checked (List (Nat × Lexeme))}
    (h : ScanAlike src (.ok ts) y) :
    ∃ us, y = some (.ok us) ∧ List.Forall₂ (AtOffset src) ts us := by
  cases h with
  | ok h => exact ⟨_, rfl, h⟩

theorem ScanAlike.of_error {e : Error} {y : Checked (List (Nat × Lexeme))}
    (h : ScanAlike src (.error e) y) : y = some (.error e) := by
  cases h
  rfl

/-! ## Indices -/

/-- The column of the lexeme at an index; behind the lexemes lies the end of the text. -/
def AtIndex (src : String) (us : List (Nat × Lexeme)) (column i : Nat) : Prop :=
  ∃ offset, (us.map Prod.fst ++ [src.utf8ByteSize])[i]? = some offset ∧
    columnOf? src offset = some column

theorem atIndex_stop (us : List (Nat × Lexeme)) :
    AtIndex src us (src.toList.length + 1) us.length := by
  refine ⟨src.utf8ByteSize, by simp, ?_⟩
  rw [← byteSize_toList]
  exact columnOf?_byteSize (List.append_nil _).symm

/-- Lexemes at their columns, and at their indices. -/
theorem ahead_mapIdx {ts : List Placed} {us : List (Nat × Lexeme)}
    (h : List.Forall₂ (AtOffset src) ts us) :
    Reader.Ahead (AtIndex src us) ts ts (us.mapIdx fun i t => ⟨i, t.2⟩) := by
  refine ⟨List.suffix_rfl, List.forall₂_iff_get.2 ⟨by rw [h.length_eq, List.length_mapIdx], ?_⟩⟩
  intro i hts hus
  have hi : i < us.length := h.length_eq ▸ hts
  have hplace := (List.forall₂_iff_get.1 h).2 i hts hi
  constructor
  case place =>
    refine ⟨(us.get ⟨i, hi⟩).1, ?_, hplace.column⟩
    have hlt : i < (us.map Prod.fst).length := by rwa [List.length_map]
    simp [List.getElem?_append_left hlt, hi]
  case lexeme => simpa using hplace.lexeme

/-- Reading a body by its bytes goes wrong nowhere. -/
theorem parse?_eq (src : String) : parse? src = some (Body.parse src) := by
  have hscan : ScanAlike src (scan 1 src.toList) (scan? src (indexed 0 src.toList)) :=
    scanAlike (List.nil_append _).symm rfl
  unfold parse? Body.parse
  dsimp only
  rcases hcut : scan 1 src.toList with e | ts
  · rw [hcut] at hscan
    rw [hscan.of_error]
  · rw [hcut] at hscan
    obtain ⟨us, hus, hplaces⟩ := hscan.of_ok
    rw [hus]
    dsimp only
    have hagree := Reader.agree_body (atIndex_stop us) (ahead_mapIdx hplaces)
    generalize Reader.body (src.toList.length + 1) ts = x at hagree ⊢
    generalize Reader.body us.length _ = y at hagree ⊢
    cases hagree with
    | ok h =>
      subst h
      rfl
    | error hplace hcause hfaulty =>
      obtain ⟨offset, hoffset, hcolumn⟩ := hplace
      simp only [hoffset, errorAt?, hcolumn, ← hcause, Option.map_some]

end Bytes

end OrderedLexer.Expr

namespace OrderedLexer.Handler

open OrderedLexer.Expr

/-- **Errors of handlers point at what they name.**  Reading a handler goes out of range nowhere, and
    cuts no character; and an error lies at a column of the text, or just behind it, where the text
    goes on with what the error names. -/
theorem compile_error_points (body : String) :
    Bytes.parse? body = some (Body.parse body) ∧
      ∀ e, Handler.compile body = .error e → e.Points body.toList := by
  refine ⟨Bytes.parse?_eq body, fun e h => ?_⟩
  exact points_of_parse (map_eq_error h)

-- The columns count characters: `é` has two bytes.
theorem compile_error_points_method :
    Bytes.parse? "'é' . frob()" = some (Body.parse "'é' . frob()") ∧
      Handler.compile "'é' . frob()" = .error ⟨7, .unknownMethod "frob"⟩ ∧
      Error.Points "'é' . frob()".toList ⟨7, .unknownMethod "frob"⟩ := by
  have hscan : scan 1 "'é' . frob()".toList = .ok [⟨1, .str "é"⟩, ⟨5, .punct '.'⟩, ⟨7, .ident "frob"⟩,
      ⟨11, .punct '('⟩, ⟨12, .punct ')'⟩] := by decide +kernel
  have herror : Handler.compile "'é' . frob()" = .error ⟨7, .unknownMethod "frob"⟩ := by
    rw [Handler.compile, Body.parse, hscan]
    rfl
  obtain ⟨hparse, hpoints⟩ := compile_error_points "'é' . frob()"
  exact ⟨hparse, herror, hpoints _ herror⟩

end OrderedLexer.Handler
