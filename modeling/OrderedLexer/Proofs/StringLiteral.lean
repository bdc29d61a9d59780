/-
  String literals of handler expressions, piece by piece.

  A literal is a row of pieces up to the first quote that stands behind no backslash.  A `Piece` is a
  character that is neither a quote nor a backslash, an escape of one letter or sign, or `\u` with the
  digits of a code point.  Four digits are meant to stand there; a plus sign and three digits are read
  too (`Piece.signed`, `scan_signed`).

  The reader takes pieces one by one (`literal_spells`), up to the quote that closes the literal, the
  end of the body or an escape that is none (`Stop`), and every text has such a place (`exists_stop`).
  `LiteralReads` is what reading gives there, and `scan_quote` puts together what is read, and which
  error is reported where.
-/
import OrderedLexer.Proofs.Lexing

namespace OrderedLexer.Expr

open Text

/-! ## Pieces -/

/-- The hexadecimal digits in the order of their values. -/
def hexDigits : List Char := "0123456789abcdef".toList

/-- The number that hexadecimal digits write, in either case. -/
def hexValue (ds : List Char) : Nat := ds.foldl (fun n c => 16 * n + hexDigits.idxOf c.toLower) 0

/-- Digits that write the code point of a character. -/
structure WritesCode (ds : List Char) (d : Char) : Prop where
  digits : ∀ c ∈ ds, c.toLower ∈ hexDigits
  value : hexValue ds = d.toNat

/-- The letters and signs behind a backslash, with what they stand for. -/
def escapes : List (Char × Char) := [
  ('n', '\n'), ('t', '\t'), ('r', '\r'), ('0', '\x00'), ('\\', '\\'), ('"', '"'), ('\'', '\''), ('/', '/')]

/-- A piece of a literal, with the character that it stands for. -/
inductive Piece (quote : Char) : List Char → Char → Prop
  | char {c : Char} (hquote : c ≠ quote) (hback : c ≠ '\\') : Piece quote [c] c
  | escape {e d : Char} (h : (e, d) ∈ escapes) : Piece quote ['\\', e] d
  | code {w : List Char} {d : Char} (hlength : w.length = 4) (h : WritesCode w d) :
      Piece quote ('\\' :: 'u' :: w) d
  /-- A plus sign in place of the first digit. -/
  | signed {w : List Char} {d : Char} (hlength : w.length = 3) (h : WritesCode w d) :
      Piece quote ('\\' :: 'u' :: '+' :: w) d

/-- Pieces one behind the other. -/
inductive Spells (quote : Char) : List Char → List Char → Prop
  | nil : Spells quote [] []
  | cons {p l ds : List Char} {d : Char} (hp : Piece quote p d) (hl : Spells quote l ds) :
      Spells quote (p ++ l) (d :: ds)

/-- The text before the first quote that stands behind no backslash, and the text behind this
    quote. -/
def untilQuote (quote : Char) : List Char → Option (List Char × List Char)
  | [] | ['\\'] => none
  | '\\' :: c :: r => (untilQuote quote r).map fun (l, r) => ('\\' :: c :: l, r)
  | c :: r => if c = quote then some ([], r) else (untilQuote quote r).map fun (l, r) => (c :: l, r)

/-! ## Escapes and code points -/

theorem simpleEscape?_eq_some_iff {e d : Char} : simpleEscape? e = some d ↔ (e, d) ∈ escapes := by
  constructor
  · intro h
    unfold simpleEscape? at h
    split_ifs at h with hn ht hr h0 hself <;> cases h
    · exact hn ▸ by decide
    · exact ht ▸ by decide
    · exact hr ▸ by decide
    · exact h0 ▸ by decide
    · simp only [Bool.or_eq_true, decide_eq_true_eq] at hself
      rcases hself with ((rfl | rfl) | rfl) | rfl <;> decide
  · have hall : ∀ p ∈ escapes, simpleEscape? p.1 = some p.2 := by decide
    exact hall (e, d)

theorem toLower_of_not_ascii {c : Char} (h : ¬c.toNat < 0x80) : c.toLower = c := by
  unfold Char.toLower
  split
  · next hupper =>
    have hle : c.toNat ≤ 0x5A := hupper.2
    omega
  · rfl

theorem hexDigit?_eq (c : Char) :
    hexDigit? c = if c.toLower ∈ hexDigits then some (hexDigits.idxOf c.toLower) else none := by
  by_cases hascii : c.toNat < 0x80
  · have hall : ∀ n < 0x80, hexDigit? (Char.ofNat n) = if (Char.ofNat n).toLower ∈ hexDigits then
        some (hexDigits.idxOf (Char.ofNat n).toLower) else none := by decide +kernel
    exact Char.ofNat_toNat c ▸ hall c.toNat hascii
  · have hnot : c ∉ hexDigits := by
      intro hc
      have hall : hexDigits.all (·.toNat < 0x80) = true := by decide
      exact hascii (of_decide_eq_true (List.all_eq_true.1 hall c hc))
    rw [toLower_of_not_ascii hascii, if_neg hnot]
    unfold hexDigit?
    simp only
    rw [if_neg (by omega), if_neg (by omega), if_neg (by omega)]

theorem ofHex?_eq_some_iff {ds : List Char} {n : Nat} :
    ofHex? ds = some n ↔ (∀ c ∈ ds, c.toLower ∈ hexDigits) ∧ hexValue ds = n := by
  have hfrom : ∀ m, ds.foldlM (fun n c => (hexDigit? c).map (16 * n + ·)) m = some n ↔
      (∀ c ∈ ds, c.toLower ∈ hexDigits) ∧
        ds.foldl (fun n c => 16 * n + hexDigits.idxOf c.toLower) m = n := by
    induction ds with
    | nil => simp
    | cons c ds ih =>
      intro m
      rw [List.foldlM_cons, hexDigit?_eq, List.forall_mem_cons, List.foldl_cons]
      by_cases hc : c.toLower ∈ hexDigits
      · simp [hc, ih]
      · simp [hc]
  exact hfrom 0

theorem codePoint?_eq_some_iff {w : List Char} {d : Char} :
    codePoint? w = some d ↔ (w.length = 4 ∧ WritesCode w d) ∨
      ∃ ds, w = '+' :: ds ∧ ds.length = 3 ∧ WritesCode ds d := by
  have hcode (ds : List Char) : (ofHex? ds).bind scalar? = some d ↔ WritesCode ds d := by
    rw [Option.bind_eq_some_iff]
    constructor
    · rintro ⟨n, hn, hd⟩
      obtain ⟨hdigits, hvalue⟩ := ofHex?_eq_some_iff.1 hn
      exact ⟨hdigits, by rw [hvalue, toNat_of_scalar? hd]⟩
    · rintro ⟨hdigits, hvalue⟩
      have hvalid : d.toNat.isValidChar := d.valid
      refine ⟨d.toNat, ofHex?_eq_some_iff.2 ⟨hdigits, hvalue⟩, ?_⟩
      rw [scalar?, if_pos hvalid, Char.ofNat_toNat]
  have hplus (ds : List Char) : ¬WritesCode ('+' :: ds) d :=
    fun h => absurd (h.digits '+' List.mem_cons_self) (by decide)
  unfold codePoint?
  split
  · next x y z =>
    rw [hcode]
    constructor
    · exact fun h => .inr ⟨_, rfl, rfl, h⟩
    · rintro (⟨-, h⟩ | ⟨ds, hds, -, h⟩)
      · exact absurd h (hplus _)
      · cases hds
        exact h
  · next a x y z hsign =>
    rw [hcode]
    constructor
    · exact fun h => .inl ⟨rfl, h⟩
    · rintro (⟨-, h⟩ | ⟨ds, hds, -, h⟩)
      · exact h
      · cases hds
        exact (hsign rfl).elim
  · next hfour hlength =>
    constructor
    · intro h
      cases h
    · rintro (⟨hw, -⟩ | ⟨ds, rfl, hds, -⟩)
      · obtain ⟨a, x, y, z, rfl⟩ := List.length_eq_four.1 hw
        exact absurd rfl (hlength _ _ _ _)
      · obtain ⟨x, y, z, rfl⟩ := List.length_eq_three.1 hds
        exact absurd rfl (hfour _ _ _)

/-! ## Reading pieces -/

variable {quote : Char} {opening column : Nat} {p l cs ds r : List Char} {d : Char}

theorem Piece.length_pos (h : Piece quote p d) : 0 < p.length := by
  cases h <;> exact Nat.succ_pos _

/-- A piece is read whatever follows it. -/
theorem literal_piece (hquote : quote ≠ '\\') (h : Piece quote p d) :
    literal quote opening column (p ++ r) =
      (literal quote opening (column + p.length) r).map fun (ds, r) => (d :: ds, r) := by
  -- both forms of a code point are four characters for the reader
  have hcode {w : List Char} (hw : codePoint? w = some d) :
      literal quote opening column ('\\' :: 'u' :: (w ++ r)) =
        (literal quote opening (column + 6) r).map fun (ds, r) => (d :: ds, r) := by
    have hlength := length_of_codePoint? hw
    have htake : (w ++ r).take 4 = w := by rw [← hlength, List.take_left]
    have hdrop : (w ++ r).drop 4 = r := by rw [← hlength, List.drop_left]
    rw [literal.eq_def]
    simp only [if_neg hquote.symm, if_true, htake, hdrop, hw]
  cases h with
  | char hc hback =>
    rw [List.singleton_append, literal.eq_def]
    simp only [if_neg hc, if_neg hback]
    rfl
  | @escape e d he =>
    have hu : e ≠ 'u' := by
      rintro rfl
      revert he
      simp [escapes]
    rw [List.cons_append, List.singleton_append, literal.eq_def]
    simp only [if_neg hquote.symm, if_true, if_neg hu, simpleEscape?_eq_some_iff.2 he]
    rfl
  | @code w d hlength hw =>
    have h := hcode (codePoint?_eq_some_iff.2 (.inl ⟨hlength, hw⟩))
    simpa only [List.cons_append, List.length_cons, hlength] using h
  | @signed w d hlength hw =>
    have h := hcode (codePoint?_eq_some_iff.2 (.inr ⟨w, rfl, hlength, hw⟩))
    simpa only [List.cons_append, List.length_cons, hlength] using h

theorem literal_spells (hquote : quote ≠ '\\') (h : Spells quote l ds) :
    literal quote opening column (l ++ r) =
      (literal quote opening (column + l.length) r).map fun (es, r) => (ds ++ es, r) := by
  induction h generalizing column with
  | nil =>
    rw [List.nil_append, List.length_nil, Nat.add_zero]
    rcases literal quote opening column r with e | ⟨es, r⟩ <;> rfl
  | @cons p l ds d hp hl ih =>
    rw [List.append_assoc, literal_piece hquote hp, ih, List.length_append, ← Nat.add_assoc]
    rcases literal quote opening (column + p.length + l.length) r with e | ⟨es, r⟩ <;> rfl

/-! ## Where reading stops -/

/-- No piece stands at the start of a text. -/
def NoPiece (quote : Char) (cs : List Char) : Prop := ∀ p d r, Piece quote p d → cs ≠ p ++ r

/-- The texts at which reading stops. -/
inductive Stop (quote : Char) : List Char → Prop
  /-- The quote that closes the literal. -/
  | close (r : List Char) : Stop quote (quote :: r)
  /-- The end of the body. -/
  | ended : Stop quote []
  /-- A backslash with nothing behind it. -/
  | cut : Stop quote ['\\']
  /-- An escape that is none. -/
  | invalid (e : Char) (r : List Char) (h : NoPiece quote ('\\' :: e :: r)) :
      Stop quote ('\\' :: e :: r)

/-- Every text is pieces up to a place where reading stops. -/
theorem exists_stop (quote : Char) (cs : List Char) :
    ∃ l ds rest, cs = l ++ rest ∧ Spells quote l ds ∧ Stop quote rest := by
  induction hn : cs.length using Nat.strongRecOn generalizing cs with
  | ind n ih =>
    subst hn
    by_cases hpiece : NoPiece quote cs
    · refine ⟨[], [], cs, rfl, .nil, ?_⟩
      rcases cs with _ | ⟨c, cs⟩
      · exact .ended
      · by_cases hc : c = quote
        · exact hc ▸ .close cs
        · by_cases hback : c = '\\'
          · subst hback
            rcases cs with _ | ⟨e, r⟩
            · exact .cut
            · exact .invalid e r hpiece
          · exact absurd rfl (hpiece [c] c cs (.char hc hback))
    · simp only [NoPiece, not_forall, ne_eq, not_not] at hpiece
      obtain ⟨p, d, r, hp, rfl⟩ := hpiece
      have hlt : r.length < (p ++ r).length := by
        have := hp.length_pos
        rw [List.length_append]
        omega
      obtain ⟨l, ds, rest, rfl, hl, hstop⟩ := ih _ hlt r rfl
      exact ⟨p ++ l, d :: ds, rest, (List.append_assoc ..).symm, .cons hp hl, hstop⟩

section
variable (hquote : quote ≠ '\\') (h : Spells quote l ds)
include hquote h

/-- Pieces before the closing quote are a literal. -/
theorem literal_close (r : List Char) :
    literal quote opening column (l ++ quote :: r) = .ok (ds, column + l.length + 1, r) := by
  have hclose : literal quote opening (column + l.length) (quote :: r) =
      .ok ([], column + l.length + 1, r) := by
    rw [literal.eq_def]
    simp only [if_true]
  rw [literal_spells hquote h, hclose]
  simp only [Except.map, List.append_nil]

/-- Pieces up to the end, or up to a backslash at the end, are not closed. -/
theorem literal_ended (hcs : cs = l ∨ cs = l ++ ['\\']) :
    literal quote opening column cs = .error ⟨opening, .unterminatedString⟩ := by
  have hended : literal quote opening (column + l.length) [] =
      .error ⟨opening, .unterminatedString⟩ := by rw [literal.eq_def]
  have hcut : literal quote opening (column + l.length) ['\\'] =
      .error ⟨opening, .unterminatedString⟩ := by
    rw [literal.eq_def]
    simp only [if_neg hquote.symm, if_true]
  rcases hcs with rfl | rfl
  · rw [← List.append_nil cs, literal_spells hquote h, hended]
    rfl
  · rw [literal_spells hquote h, hcut]
    rfl

/-- Pieces before an escape that is none are read up to its backslash. -/
theorem literal_invalid {e : Char} (hpiece : NoPiece quote ('\\' :: e :: r)) :
    literal quote opening column (l ++ '\\' :: e :: r) =
      .error ⟨column + l.length, .invalidEscape e⟩ := by
  have hinvalid : literal quote opening (column + l.length) ('\\' :: e :: r) =
      .error ⟨column + l.length, .invalidEscape e⟩ := by
    rw [literal.eq_def]
    simp only [if_neg hquote.symm, if_true]
    by_cases hu : e = 'u'
    · subst hu
      have hnone : codePoint? (r.take 4) = none := by
        by_contra hsome
        obtain ⟨d, hd⟩ := Option.ne_none_iff_exists'.1 hsome
        rcases codePoint?_eq_some_iff.1 hd with ⟨hlength, hcode⟩ | ⟨w, hw, hlength, hcode⟩
        · refine hpiece _ d (r.drop 4) (.code hlength hcode) ?_
          rw [List.cons_append, List.cons_append, List.take_append_drop]
        · refine hpiece _ d (r.drop 4) (.signed hlength hcode) ?_
          rw [← hw, List.cons_append, List.cons_append, List.take_append_drop]
      simp only [if_true, hnone]
    · have hnone : simpleEscape? e = none := by
        by_contra hsome
        obtain ⟨d, hd⟩ := Option.ne_none_iff_exists'.1 hsome
        exact hpiece _ d r (.escape (simpleEscape?_eq_some_iff.1 hd)) rfl
      simp only [if_neg hu, hnone]
  rw [literal_spells hquote h, hinvalid]
  rfl

end

/-! ## The closing quote -/

theorem append_of_untilQuote (h : untilQuote quote cs = some (l, r)) : cs = l ++ quote :: r := by
  fun_induction untilQuote quote cs generalizing l with
  | case1 => cases h
  | case2 => cases h
  | case3 c cs ih =>
    obtain ⟨⟨l', r'⟩, hrest, hl⟩ := Option.map_eq_some_iff.1 h
    cases hl
    rw [ih hrest]
    rfl
  | case4 cs =>
    cases h
    rfl
  | case5 c cs hlone hpair hc ih =>
    obtain ⟨⟨l', r'⟩, hrest, hl⟩ := Option.map_eq_some_iff.1 h
    cases hl
    rw [ih hrest]
    rfl

theorem untilQuote_of_plain (h : ∀ c ∈ l, c ≠ quote ∧ c ≠ '\\') (r : List Char) :
    untilQuote quote (l ++ r) = (untilQuote quote r).map fun (m, r) => (l ++ m, r) := by
  induction l with
  | nil => rcases hr : untilQuote quote r with _ | ⟨m, r'⟩ <;> simp [hr]
  | cons c l ih =>
    obtain ⟨⟨hquote, hback⟩, hl⟩ := List.forall_mem_cons.1 h
    rw [List.cons_append, untilQuote, if_neg hquote, ih hl, Option.map_map]
    · rfl
    · exact fun hc => absurd hc hback
    · exact fun _ _ hc => absurd hc hback

section
variable (hq : quote = '"' ∨ quote = '\'')
include hq

/-- Neither the digits of a code point nor its sign close a literal or start an escape. -/
theorem WritesCode.plain {w : List Char} (h : WritesCode w d) :
    ∀ c ∈ w, c ≠ quote ∧ c ≠ '\\' := by
  intro c hc
  have hdigit := h.digits c hc
  constructor
  · rintro rfl
    rcases hq with rfl | rfl <;> exact absurd hdigit (by decide)
  · rintro rfl
    exact absurd hdigit (by decide)

/-- A piece holds no quote that closes the literal. -/
theorem untilQuote_piece (h : Piece quote p d) (r : List Char) :
    untilQuote quote (p ++ r) = (untilQuote quote r).map fun (m, r) => (p ++ m, r) := by
  have hpair (e : Char) (w : List Char) (hw : ∀ c ∈ w, c ≠ quote ∧ c ≠ '\\') :
      untilQuote quote ('\\' :: e :: (w ++ r)) =
        (untilQuote quote r).map fun (m, r) => ('\\' :: e :: (w ++ m), r) := by
    rw [untilQuote, untilQuote_of_plain hw, Option.map_map]
    rfl
  cases h with
  | char hc hback => exact untilQuote_of_plain (List.forall_mem_singleton.2 ⟨hc, hback⟩) r
  | @escape e d he => exact hpair e [] (by simp)
  | @code w d hlength hw => exact hpair 'u' w (hw.plain hq)
  | @signed w d hlength hw =>
    have hsign : '+' ≠ quote ∧ '+' ≠ '\\' := by rcases hq with rfl | rfl <;> decide
    exact hpair 'u' ('+' :: w) (List.forall_mem_cons.2 ⟨hsign, hw.plain hq⟩)

theorem untilQuote_spells (h : Spells quote l ds) (r : List Char) :
    untilQuote quote (l ++ quote :: r) = some (l, r) := by
  induction h with
  | nil => rcases hq with rfl | rfl <;> rfl
  | @cons p l ds d hp hl ih =>
    rw [List.append_assoc, untilQuote_piece hq hp, ih]
    rfl

end

/-- What reading gives, by the place where it stops. -/
inductive LiteralReads (quote : Char) (opening column : Nat) :
    List Char → Except Error (List Char × Nat × List Char) → Prop
  | close {l ds r : List Char} (hl : Spells quote l ds) :
      LiteralReads quote opening column (l ++ quote :: r) (.ok (ds, column + l.length + 1, r))
  | ended {cs l ds : List Char} (hcs : cs = l ∨ cs = l ++ ['\\']) (hl : Spells quote l ds) :
      LiteralReads quote opening column cs (.error ⟨opening, .unterminatedString⟩)
  | invalid {l ds r : List Char} {e : Char} (hl : Spells quote l ds)
      (hpiece : NoPiece quote ('\\' :: e :: r)) :
      LiteralReads quote opening column (l ++ '\\' :: e :: r)
        (.error ⟨column + l.length, .invalidEscape e⟩)

theorem literal_reads (hquote : quote ≠ '\\') (opening column : Nat) (cs : List Char) :
    LiteralReads quote opening column cs (literal quote opening column cs) := by
  obtain ⟨l, ds, rest, rfl, hl, hstop⟩ := exists_stop quote cs
  cases hstop with
  | close r =>
    rw [literal_close hquote hl]
    exact .close hl
  | ended =>
    have hcs : l ++ [] = l ∨ l ++ [] = l ++ ['\\'] := .inl (List.append_nil l)
    rw [literal_ended hquote hl hcs]
    exact .ended hcs hl
  | cut =>
    have hcs : l ++ ['\\'] = l ∨ l ++ ['\\'] = l ++ ['\\'] := .inr rfl
    rw [literal_ended hquote hl hcs]
    exact .ended hcs hl
  | invalid e r hpiece =>
    rw [literal_invalid hquote hl hpiece]
    exact .invalid hl hpiece

/-! ## Bodies that start with a quote -/

/-- How the text behind an opening quote at a column is read. -/
structure ReadsQuoted (quote : Char) (column : Nat) (cs : List Char) : Prop where
  /-- The literal is read first, and then what stands behind it. -/
  scan_eq : scan column (quote :: cs) =
    (literal quote column (column + 1) cs).bind fun (ds, next, r) =>
      (scan next r).map (⟨column, .str (String.ofList ds)⟩ :: ·)
  /-- The text up to the first quote behind no backslash is a literal just if it is pieces. -/
  accepted : ∀ ds next r, literal quote column (column + 1) cs = .ok (ds, next, r) ↔
    ∃ l, untilQuote quote cs = some (l, r) ∧ Spells quote l ds ∧ next = column + l.length + 2
  /-- An escape that is none is reported at its backslash if only pieces stand before it. -/
  invalid : ∀ k e, literal quote column (column + 1) cs = .error ⟨k, .invalidEscape e⟩ ↔
    ∃ l ds r, cs = l ++ '\\' :: e :: r ∧ Spells quote l ds ∧ NoPiece quote ('\\' :: e :: r) ∧
      k = column + l.length + 1
  /-- A text that ends behind pieces is reported at the opening quote. -/
  unterminated : literal quote column (column + 1) cs = .error ⟨column, .unterminatedString⟩ ↔
    ∃ l ds, (cs = l ∨ cs = l ++ ['\\']) ∧ Spells quote l ds
  /-- There are no other errors. -/
  refused : ∀ err, literal quote column (column + 1) cs = .error err →
    err = ⟨column, .unterminatedString⟩ ∨ ∃ k e, err = ⟨k, .invalidEscape e⟩

/-- **A string literal is read just if it is a row of pieces**, and it stands for their characters.  An
    escape that is none is reported at its backslash, and a literal that is not closed at its opening
    quote, whichever is met first. -/
theorem scan_quote (hq : quote = '"' ∨ quote = '\'') (column : Nat) (cs : List Char) :
    ReadsQuoted quote column cs := by
  have hback : quote ≠ '\\' := by rcases hq with rfl | rfl <;> decide
  have hreads := literal_reads hback column (column + 1) cs
  constructor
  case scan_eq => exact scan_of_quote hq column cs
  case accepted =>
    intro ds next r
    constructor
    · intro h
      rw [h] at hreads
      cases hreads with
      | close hl => exact ⟨_, untilQuote_spells hq hl r, hl, by omega⟩
    · rintro ⟨l, huntil, hl, rfl⟩
      rw [append_of_untilQuote huntil, literal_close hback hl]
      congr 3
      omega
  case invalid =>
    intro k e
    constructor
    · intro h
      rw [h] at hreads
      cases hreads with
      | invalid hl hpiece => exact ⟨_, _, _, rfl, hl, hpiece, by omega⟩
    · rintro ⟨l, ds, r, rfl, hl, hpiece, rfl⟩
      rw [literal_invalid hback hl hpiece]
      congr 2
      omega
  case unterminated =>
    constructor
    · intro h
      generalize literal quote column (column + 1) cs = result at h hreads
      cases hreads with
      | close => cases h
      | ended hcs hl => exact ⟨_, _, hcs, hl⟩
      | invalid => simp at h
    · rintro ⟨l, ds, hcs, hl⟩
      exact literal_ended hback hl hcs
  case refused =>
    intro err h
    rw [h] at hreads
    cases hreads with
    | ended => exact .inl rfl
    | invalid => exact .inr ⟨_, _, rfl⟩

-- The second body has both defects; the escape comes first.
theorem scan_quote_escapes :
    ('\'' = '"' ∨ '\'' = '\'') ∧ ReadsQuoted '\'' 1 "it\\'s \\u0041' + X".toList ∧
      scan 1 "'it\\'s \\u0041' + X".toList =
        .ok [⟨1, .str "it's A"⟩, ⟨16, .punct '+'⟩, ⟨18, .ident "X"⟩] ∧
      ReadsQuoted '\'' 1 "\\n\\u12".toList ∧
      scan 1 "'\\n\\u12".toList = .error ⟨4, .invalidEscape 'u'⟩ :=
  ⟨.inr rfl, scan_quote (.inr rfl) 1 _, by decide +kernel, scan_quote (.inr rfl) 1 _,
    by decide +kernel⟩

/-- A plus sign in place of the first digit of a code point is read, though it is no digit. -/
theorem scan_signed :
    scan 1 "'\\u+041'".toList = .ok [⟨1, .str "A"⟩] ∧ ∀ d, ¬WritesCode "+041".toList d :=
  ⟨by decide +kernel, fun d h => absurd (h.digits '+' List.mem_cons_self) (by decide)⟩

end OrderedLexer.Expr
