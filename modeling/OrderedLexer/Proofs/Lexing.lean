/-
  Lexemes of a trimmed body.

  * `IsLiteral` says which texts behind an opening quote are a literal with which characters; the
    reader of literals takes such a text off the front and nothing else (`literal_eq_ok_iff`).
  * White space at the ends of a body changes the columns of its lexemes only (`scan_trim`), so a
    handler is also what its own source stands for (`compile_trim`).
-/
import OrderedLexer.Proofs.WhiteSpace
import OrderedLexer.Proofs.Grammar
import OrderedLexer.Handler

namespace OrderedLexer.Expr

open Text

/-! ## String literals -/

/-- The texts behind an opening quote, the closing one included, with the characters that they
    stand for. -/
inductive IsLiteral (quote : Char) : List Char → List Char → Prop
  | close : IsLiteral quote [quote] []
  | char {c : Char} {cs ds : List Char} (hquote : c ≠ quote) (hback : c ≠ '\\')
      (h : IsLiteral quote cs ds) : IsLiteral quote (c :: cs) (c :: ds)
  | escape {e d : Char} {cs ds : List Char} (he : simpleEscape? e = some d)
      (h : IsLiteral quote cs ds) : IsLiteral quote ('\\' :: e :: cs) (d :: ds)
  | code {w cs ds : List Char} {d : Char} (hw : w.length = 4) (hd : codePoint? w = some d)
      (h : IsLiteral quote cs ds) : IsLiteral quote ('\\' :: 'u' :: (w ++ cs)) (d :: ds)

variable {quote : Char} {opening column next : Nat} {cs ds r : List Char}

theorem length_of_codePoint? {w : List Char} {d : Char} (h : codePoint? w = some d) :
    w.length = 4 := by
  unfold codePoint? at h
  split at h
  · rfl
  · rfl
  · simp at h

theorem map_cons_eq_ok {d : Char} {x : Except Error (List Char × Nat × List Char)}
    (h : x.map (fun (ds, r) => (d :: ds, r)) = .ok (ds, next, r)) :
    ∃ ds', ds = d :: ds' ∧ x = .ok (ds', next, r) := by
  cases x with
  | error e => simp [Except.map] at h
  | ok p =>
    obtain ⟨ds', next', r'⟩ := p
    simp only [Except.map, Except.ok.injEq, Prod.mk.injEq] at h
    obtain ⟨rfl, rfl, rfl⟩ := h
    exact ⟨ds', rfl, rfl⟩

theorem isLiteral_of_literal (h : literal quote opening column cs = .ok (ds, next, r)) :
    ∃ l, cs = l ++ r ∧ IsLiteral quote l ds ∧ next = column + l.length := by
  fun_induction literal quote opening column cs generalizing ds with
  | case1 => simp at h
  | case2 column rest =>
    simp only [Except.ok.injEq, Prod.mk.injEq] at h
    obtain ⟨rfl, rfl, rfl⟩ := h
    exact ⟨[quote], rfl, .close, rfl⟩
  | case3 => simp at h
  | case4 column rest d hd hquote ih =>
    obtain ⟨ds', rfl, hrest⟩ := map_cons_eq_ok h
    obtain ⟨l, hl, hlit, hnext⟩ := ih hrest
    have hw := length_of_codePoint? hd
    refine ⟨'\\' :: 'u' :: (rest.take 4 ++ l), ?_, .code hw hd hlit, ?_⟩
    · rw [List.cons_append, List.cons_append, List.append_assoc, ← hl, List.take_append_drop]
    · simp only [List.length_cons, List.length_append, hw]
      omega
  | case5 => simp at h
  | case6 column e rest hu d hd hquote ih =>
    obtain ⟨ds', rfl, hrest⟩ := map_cons_eq_ok h
    obtain ⟨l, rfl, hlit, hnext⟩ := ih hrest
    refine ⟨'\\' :: e :: l, rfl, .escape hd hlit, ?_⟩
    simp only [List.length_cons]
    omega
  | case7 => simp at h
  | case8 column c rest hquote hback ih =>
    obtain ⟨ds', rfl, hrest⟩ := map_cons_eq_ok h
    obtain ⟨l, rfl, hlit, hnext⟩ := ih hrest
    refine ⟨c :: l, rfl, .char hquote hback hlit, ?_⟩
    simp only [List.length_cons]
    omega

theorem IsLiteral.read (hq : quote ≠ '\\') (h : IsLiteral quote cs ds) (opening column : Nat)
    (r : List Char) :
    literal quote opening column (cs ++ r) = .ok (ds, column + cs.length, r) := by
  induction h generalizing column with
  | close =>
    rw [literal.eq_def]
    simp
  | @char c cs ds hquote hback _ ih =>
    rw [List.cons_append, literal.eq_def]
    simp only [if_neg hquote, if_neg hback, ih, Except.map, List.length_cons]
    congr 3
    omega
  | @escape e d cs ds he _ ih =>
    have hu : e ≠ 'u' := by
      rintro rfl
      simp [simpleEscape?] at he
    rw [List.cons_append, List.cons_append, literal.eq_def]
    simp only [if_neg (Ne.symm hq), if_pos, if_neg hu, he, ih, Except.map, List.length_cons]
    congr 3
    omega
  | @code w cs ds d hw hd _ ih =>
    have htake : (w ++ (cs ++ r)).take 4 = w := by rw [← hw, List.take_left]
    have hdrop : (w ++ (cs ++ r)).drop 4 = cs ++ r := by rw [← hw, List.drop_left]
    rw [List.cons_append, List.cons_append, List.append_assoc, literal.eq_def]
    simp only [if_neg (Ne.symm hq), if_pos, htake, hdrop, hd, ih, Except.map, List.length_cons,
      List.length_append, hw]
    congr 3
    omega

theorem literal_eq_ok_iff (hq : quote ≠ '\\') :
    literal quote opening column cs = .ok (ds, next, r) ↔
      ∃ l, cs = l ++ r ∧ IsLiteral quote l ds ∧ next = column + l.length := by
  constructor
  · exact isLiteral_of_literal
  · rintro ⟨l, rfl, hlit, rfl⟩
    exact hlit.read hq opening column r

/-! ## Scanning -/

/-- The lexemes of a text that starts at a column. -/
inductive Scans : Nat → List Char → List Placed → Prop
  | nil {column : Nat} : Scans column [] []
  | white {column : Nat} {c : Char} {cs : List Char} {ts : List Placed}
      (hc : isWhiteSpace c = true) (h : Scans (column + 1) cs ts) : Scans column (c :: cs) ts
  | str {column : Nat} {quote : Char} {l ds cs : List Char} {ts : List Placed}
      (hquote : quote = '"' ∨ quote = '\'') (hl : IsLiteral quote l ds)
      (h : Scans (column + 1 + l.length) cs ts) :
      Scans column (quote :: (l ++ cs)) (⟨column, .str (String.ofList ds)⟩ :: ts)
  | int {column : Nat} {c : Char} {ds cs : List Char} {ts : List Placed}
      (hc : isAsciiDigit c = true) (hds : ∀ d ∈ ds, isAsciiDigit d = true)
      (hend : ∀ d ∈ cs.head?, isAsciiDigit d = false) (hmax : decimalValue (c :: ds) ≤ maxInteger)
      (h : Scans (column + (c :: ds).length) cs ts) :
      Scans column (c :: (ds ++ cs)) (⟨column, .int (decimalValue (c :: ds))⟩ :: ts)
  | ident {column : Nat} {c : Char} {ds cs : List Char} {ts : List Placed}
      (hc : isIdentStart c = true) (hds : ∀ d ∈ ds, isIdentRest d = true)
      (hend : ∀ d ∈ cs.head?, isIdentRest d = false)
      (h : Scans (column + (c :: ds).length) cs ts) :
      Scans column (c :: (ds ++ cs)) (⟨column, .ident (String.ofList (c :: ds))⟩ :: ts)
  | punct {column : Nat} {c : Char} {cs : List Char} {ts : List Placed}
      (hc : isPunct c = true) (h : Scans (column + 1) cs ts) :
      Scans column (c :: cs) (⟨column, .punct c⟩ :: ts)

variable {ts : List Placed}

theorem map_cons_scan_eq_ok {t : Placed} {x : Except Error (List Placed)}
    (h : x.map (t :: ·) = .ok ts) : ∃ ts', ts = t :: ts' ∧ x = .ok ts' := by
  cases x with
  | error e => simp [Except.map] at h
  | ok ts' =>
    simp only [Except.map, Except.ok.injEq] at h
    exact ⟨ts', h.symm, rfl⟩

theorem scans_of_scan (h : scan column cs = .ok ts) : Scans column cs ts := by
  fun_induction scan column cs generalizing ts with
  | case1 column =>
    cases h
    exact .nil
  | case2 column c rest hc ih => exact .white hc (ih h)
  | case3 => simp at h
  | case4 column c rest hc hquote ds next r hl _ ih =>
    obtain ⟨ts', rfl, hrest⟩ := map_cons_scan_eq_ok h
    obtain ⟨l, rfl, hlit, rfl⟩ := isLiteral_of_literal hl
    exact .str (by simpa using hquote) hlit (ih hrest)
  | case5 => simp at h
  | case6 column c rest hc hquote hdigit digits n hmax =>
    rename_i ih
    obtain ⟨ts', rfl, hrest⟩ := map_cons_scan_eq_ok h
    have hscans := Scans.int hdigit (fun d hd => List.mem_takeWhile_imp hd)
      (fun d hd => head?_dropWhile hd) (Nat.le_of_not_lt hmax) (ih hrest)
    rwa [List.takeWhile_append_dropWhile] at hscans
  | case7 column c rest hc hquote hdigit hident name =>
    rename_i ih
    obtain ⟨ts', rfl, hrest⟩ := map_cons_scan_eq_ok h
    have hscans := Scans.ident hident (fun d hd => List.mem_takeWhile_imp hd)
      (fun d hd => head?_dropWhile hd) (ih hrest)
    rwa [List.takeWhile_append_dropWhile] at hscans
  | case8 column c rest hc hquote hdigit hident hpunct ih =>
    obtain ⟨ts', rfl, hrest⟩ := map_cons_scan_eq_ok h
    exact .punct hpunct (ih hrest)
  | case9 => simp at h

theorem isWhiteSpace_quote {c : Char} (h : c = '"' ∨ c = '\'') : isWhiteSpace c = false := by
  rcases h with rfl | rfl <;> decide

/-- A literal is scanned first, and then what stands behind it. -/
theorem scan_of_quote (hquote : quote = '"' ∨ quote = '\'') (column : Nat) (cs : List Char) :
    scan column (quote :: cs) =
      (literal quote column (column + 1) cs).bind fun (ds, next, r) =>
        (scan next r).map (⟨column, .str (String.ofList ds)⟩ :: ·) := by
  have hquote' : (quote = '"' || quote = '\'') = true := by simpa using hquote
  rw [scan.eq_def]
  simp only [isWhiteSpace_quote hquote, hquote', if_true, Bool.false_eq_true, if_false]
  split
  · next e he =>
    rw [he]
    rfl
  · next ds next r he =>
    rw [he]
    rfl

theorem isWhiteSpace_of_isIdentRest {c : Char} (h : isIdentRest c = true) :
    isWhiteSpace c = false := by
  by_contra hc
  rw [Bool.not_eq_false] at hc
  have hsign : c ≠ '_' ∧ c ≠ '$' := by
    constructor <;> rintro rfl <;> exact absurd hc (by decide)
  simp [isIdentRest, isAlphabetic_of_isWhiteSpace hc, isNumeric_of_isWhiteSpace hc, hsign] at h

theorem isIdentRest_of_isIdentStart {c : Char} (h : isIdentStart c = true) :
    isIdentRest c = true := by
  simp only [isIdentStart, Bool.or_eq_true] at h
  simp only [isIdentRest, Bool.or_eq_true]
  tauto

theorem isIdentStart_of_isAsciiDigit {c : Char} (h : isAsciiDigit c = true) :
    isIdentStart c = false := by
  simp only [isAsciiDigit, Bool.and_eq_true, decide_eq_true_eq] at h
  have hlo : 0x30 ≤ c.toNat := h.1
  have hhi : c.toNat ≤ 0x39 := h.2
  have hc : c.toNat ∈ List.range' 0x30 10 := by
    rw [List.mem_range'_1]
    omega
  have hall : ∀ n ∈ List.range' 0x30 10, isIdentStart (Char.ofNat n) = false := by decide
  exact Char.ofNat_toNat c ▸ hall _ hc

theorem punct_cases {c : Char} (h : isPunct c = true) :
    isWhiteSpace c = false ∧ (c = '"' || c = '\'') = false ∧ isAsciiDigit c = false ∧
      isIdentStart c = false := by
  have hall : ∀ c ∈ ['[', ']', '(', ')', '{', '}', ',', '.', '+', '-', ';'],
      isWhiteSpace c = false ∧ (c = '"' || c = '\'') = false ∧ isAsciiDigit c = false ∧
        isIdentStart c = false := List.forall_iff_forall_mem.1 (by decide)
  exact hall c (List.contains_iff_mem.1 h)

theorem not_quote_of_isIdentRest {c : Char} (h : isIdentRest c = true) :
    (c = '"' || c = '\'') = false := by
  by_contra hc
  simp only [Bool.not_eq_false, Bool.or_eq_true, decide_eq_true_eq] at hc
  rcases hc with rfl | rfl <;> exact absurd h (by decide)

theorem isIdentRest_of_isAsciiDigit {c : Char} (h : isAsciiDigit c = true) :
    isIdentRest c = true := by
  have hascii : c.toNat < 0x80 := by
    simp only [isAsciiDigit, Bool.and_eq_true, decide_eq_true_eq] at h
    exact Nat.lt_of_le_of_lt h.2 (by decide)
  have hnumeric : isNumeric c = true := by
    rw [isNumeric, if_pos hascii]
    exact h
  simp [isIdentRest, hnumeric]

theorem Scans.scan_eq (h : Scans column cs ts) : scan column cs = .ok ts := by
  induction h with
  | nil => rw [scan.eq_def]
  | white hc _ ih =>
    rw [scan.eq_def]
    simp only [hc, if_true, ih]
  | @str column quote l ds cs ts hquote hl _ ih =>
    have hback : quote ≠ '\\' := by rcases hquote with rfl | rfl <;> decide
    have hread : literal quote column (column + 1) (l ++ cs) =
        .ok (ds, column + 1 + l.length, cs) :=
      (literal_eq_ok_iff hback).2 ⟨l, rfl, hl, rfl⟩
    rw [scan_of_quote hquote, hread]
    simp only [Except.bind, ih, Except.map]
  | int hc hds hend hmax _ ih =>
    have hrest := isIdentRest_of_isAsciiDigit hc
    rw [scan.eq_def]
    simp only [isWhiteSpace_of_isIdentRest hrest, not_quote_of_isIdentRest hrest, hc,
      takeWhile_append_of_head? hds hend, dropWhile_append_of_head? hds hend, ih, Nat.not_lt.2 hmax,
      if_true, if_false, Bool.false_eq_true, Except.map]
  | @ident column c ds cs ts hc hds hend _ ih =>
    have hrest := isIdentRest_of_isIdentStart hc
    have hdigit : isAsciiDigit c = false := by
      by_contra hd
      rw [isIdentStart_of_isAsciiDigit (by simpa using hd)] at hc
      cases hc
    rw [scan.eq_def]
    simp only [isWhiteSpace_of_isIdentRest hrest, not_quote_of_isIdentRest hrest, hdigit, hc,
      takeWhile_append_of_head? hds hend, dropWhile_append_of_head? hds hend, ih, if_true, if_false,
      Bool.false_eq_true, Except.map]
  | punct hc _ ih =>
    obtain ⟨hwhite, hquote, hdigit, hident⟩ := punct_cases hc
    rw [scan.eq_def]
    simp only [hwhite, hquote, hdigit, hident, hc, ih, if_true, if_false, Bool.false_eq_true,
      Except.map]

theorem scan_eq_ok_iff : scan column cs = .ok ts ↔ Scans column cs ts :=
  ⟨scans_of_scan, Scans.scan_eq⟩

/-! ## White space at the ends -/

theorem Scans.of_blank {u : List Char} (hu : Blank u) (h : Scans column (u ++ cs) ts) :
    Scans (column + u.length) cs ts := by
  induction u generalizing column with
  | nil => exact h
  | cons c u ih =>
    obtain ⟨hc, hu⟩ := List.forall_mem_cons.1 hu
    have hstep : Scans (column + 1) (u ++ cs) ts := by
      have hscan := h.scan_eq
      rw [List.cons_append, scan.eq_def] at hscan
      simp only [hc, if_true] at hscan
      exact scans_of_scan hscan
    simpa [Nat.add_assoc, Nat.add_comm 1] using ih hu hstep

/-- A part that does not end with white space lies in front of white space at the end. -/
theorem exists_of_append_blank {l x y v : List Char} (hl : ∀ c ∈ l.getLast?, isWhiteSpace c = false)
    (hv : Blank v) (h : l ++ x = y ++ v) : ∃ z, y = l ++ z ∧ x = z ++ v := by
  rcases List.append_eq_append_iff.1 h with ⟨z, rfl, rfl⟩ | ⟨z, rfl, rfl⟩
  · exact ⟨z, rfl, rfl⟩
  · rcases List.eq_nil_or_concat z with rfl | ⟨z, c, rfl⟩
    · exact ⟨[], by simp, by simp⟩
    · have hc := hl c (by simp)
      rw [hv c (by simp)] at hc
      cases hc

theorem IsLiteral.getLast? (h : IsLiteral quote cs ds) : cs.getLast? = some quote := by
  induction h with
  | close => rfl
  | char _ _ _ ih => simp [List.getLast?_cons, ih]
  | escape _ _ ih => simp [List.getLast?_cons, ih]
  | code _ _ _ ih => simp [List.getLast?_cons, List.getLast?_append, ih]

theorem getLast?_of_all {c : Char} (h : ∀ d ∈ cs, isIdentRest d = true) (hc : c ∈ cs.getLast?) :
    isWhiteSpace c = false :=
  isWhiteSpace_of_isIdentRest (h c (List.mem_of_getLast? hc))

theorem head?_append_of {p : Char → Bool} {z v : List Char}
    (h : ∀ c ∈ (z ++ v).head?, p c = false) : ∀ c ∈ z.head?, p c = false := by
  intro c hc
  refine h c ?_
  rw [List.head?_append, Option.mem_def.1 hc]
  rfl

theorem Scans.eq_nil (h : Scans column [] ts) : ts = [] := by
  cases h
  rfl

theorem Scans.trimEnd {text v : List Char} (h : Scans column text ts) (hv : Blank v)
    (heq : text = cs ++ v) : Scans column cs ts := by
  induction h generalizing cs v with
  | nil =>
    obtain ⟨rfl, rfl⟩ := List.append_eq_nil_iff.1 heq.symm
    exact .nil
  | @white column c rest ts hc _ ih =>
    cases cs with
    | nil =>
      -- nothing but white space is left, so there are no more lexemes
      rw [List.nil_append] at heq
      subst heq
      have hrest : Blank rest := (List.forall_mem_cons.1 hv).2
      rw [(ih hrest rfl).eq_nil]
      exact .nil
    | cons d cs =>
      obtain ⟨rfl, hrest⟩ := List.cons.inj heq
      exact .white hc (ih hv hrest)
  | @str column quote l ds rest ts hquote hl _ ih =>
    have hlast : ∀ c ∈ (quote :: l).getLast?, isWhiteSpace c = false := by
      simpa [List.getLast?_cons, hl.getLast?] using isWhiteSpace_quote hquote
    obtain ⟨z, rfl, rfl⟩ := exists_of_append_blank hlast hv heq
    exact .str hquote hl (ih hv rfl)
  | @int column c ds rest ts hc hds hend hmax _ ih =>
    have hall : ∀ d ∈ c :: ds, isIdentRest d = true := List.forall_mem_cons.2
      ⟨isIdentRest_of_isAsciiDigit hc, fun d hd => isIdentRest_of_isAsciiDigit (hds d hd)⟩
    obtain ⟨z, rfl, rfl⟩ := exists_of_append_blank (fun d hd => getLast?_of_all hall hd) hv heq
    exact .int hc hds (head?_append_of hend) hmax (ih hv rfl)
  | @ident column c ds rest ts hc hds hend _ ih =>
    have hall : ∀ d ∈ c :: ds, isIdentRest d = true :=
      List.forall_mem_cons.2 ⟨isIdentRest_of_isIdentStart hc, hds⟩
    obtain ⟨z, rfl, rfl⟩ := exists_of_append_blank (fun d hd => getLast?_of_all hall hd) hv heq
    exact .ident hc hds (head?_append_of hend) (ih hv rfl)
  | @punct column c rest ts hc _ ih =>
    obtain ⟨z, rfl, rfl⟩ := exists_of_append_blank (l := [c])
      (by simpa using (punct_cases hc).1) hv heq
    exact .punct hc (ih hv rfl)

theorem Scans.atColumn (h : Scans column cs ts) (column' : Nat) :
    ∃ ts', Scans column' cs ts' ∧ ts'.map Placed.lexeme = ts.map Placed.lexeme := by
  induction h generalizing column' with
  | nil => exact ⟨[], .nil, rfl⟩
  | white hc _ ih =>
    obtain ⟨ts', hts', heq⟩ := ih (column' + 1)
    exact ⟨ts', .white hc hts', heq⟩
  | str hquote hl _ ih =>
    obtain ⟨ts', hts', heq⟩ := ih _
    exact ⟨_, .str hquote hl hts', by rw [List.map_cons, List.map_cons, heq]⟩
  | int hc hds hend hmax _ ih =>
    obtain ⟨ts', hts', heq⟩ := ih _
    exact ⟨_, .int hc hds hend hmax hts', by rw [List.map_cons, List.map_cons, heq]⟩
  | ident hc hds hend _ ih =>
    obtain ⟨ts', hts', heq⟩ := ih _
    exact ⟨_, .ident hc hds hend hts', by rw [List.map_cons, List.map_cons, heq]⟩
  | punct hc _ ih =>
    obtain ⟨ts', hts', heq⟩ := ih _
    exact ⟨_, .punct hc hts', by rw [List.map_cons, List.map_cons, heq]⟩

theorem scan_trim (h : scan column cs = .ok ts) :
    ∃ ts', scan column (trim cs) = .ok ts' ∧ ts'.map Placed.lexeme = ts.map Placed.lexeme := by
  obtain ⟨u, v, hcs, hu, -, hv⟩ := exists_trim cs
  have hscans := scan_eq_ok_iff.1 h
  rw [hcs, List.append_assoc] at hscans
  obtain ⟨ts', hts', heq⟩ := ((hscans.of_blank hu).trimEnd hv rfl).atColumn column
  exact ⟨ts', scan_eq_ok_iff.2 hts', heq⟩

theorem Body.parse_trim {text : String} {b : Body} (h : Body.parse text = .ok b) :
    Body.parse (trimString text) = .ok b := by
  unfold Body.parse at h ⊢
  dsimp only at h ⊢
  split at h
  · simp at h
  · next ts hscan =>
    obtain ⟨ts', hts', heq⟩ := scan_trim hscan
    rw [trimString, String.toList_ofList, hts']
    exact (Reader.body_eq_ok_iff ..).2 (heq ▸ (Reader.body_eq_ok_iff ..).1 h)

end OrderedLexer.Expr

namespace OrderedLexer.Handler

open Text

theorem trimString_trimString (s : String) : trimString (trimString s) = trimString s := by
  rw [trimString, trimString, String.toList_ofList, (trimmed_trim _).trim_eq]

/-- A handler that was read is also what its own source stands for. -/
theorem compile_trim {body : String} {h : Handler} (hc : Handler.compile body = .ok h) :
    h.source = some (trimString body) ∧ Handler.compile (trimString body) = .ok h := by
  unfold Handler.compile at hc ⊢
  cases hb : Expr.Body.parse body with
  | error e => simp [hb, Except.map] at hc
  | ok b =>
    simp only [hb, Except.map, Except.ok.injEq] at hc
    subst hc
    refine ⟨rfl, ?_⟩
    rw [Expr.Body.parse_trim hb, trimString_trimString]
    rfl

end OrderedLexer.Handler
