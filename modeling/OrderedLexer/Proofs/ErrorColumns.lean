/-
  Where the errors of handler bodies point.

  An error has a column and a cause.  `Names` says what stands at the column of each cause: the text
  before it is cut into lexemes (`Cuts`), and the text from there on begins with what the cause names.

  * Scanning fails at a character, a literal or a number, behind lexemes (`exists_names_of_scan`).
  * Reading fails at a lexeme or behind the last one (`Faulty`).  `Agree` compares two runs over the
    same lexemes at different places: a run does not look at the places, so the two succeed or fail
    alike, and at corresponding places (`agree_body`).

  `points_of_parse` puts the two together.
-/
import Mathlib.Data.List.Forall2
import OrderedLexer.Proofs.StringLiteral

namespace OrderedLexer.Expr

open Text

/-! ## Lexemes in a text -/

/-- A lexeme as it is written in front of some text.  Numbers and names go on as far as they can. -/
inductive Written : Lexeme → List Char → List Char → Prop
  | str {quote : Char} {l ds r : List Char} (hquote : quote = '"' ∨ quote = '\'')
      (hl : IsLiteral quote l ds) : Written (.str (String.ofList ds)) (quote :: l) r
  | int {c : Char} {ds r : List Char} (hc : isAsciiDigit c = true)
      (hds : ∀ d ∈ ds, isAsciiDigit d = true) (hend : ∀ d ∈ r.head?, isAsciiDigit d = false) :
      Written (.int (decimalValue (c :: ds))) (c :: ds) r
  | ident {c : Char} {ds r : List Char} (hc : isIdentStart c = true)
      (hds : ∀ d ∈ ds, isIdentRest d = true) (hend : ∀ d ∈ r.head?, isIdentRest d = false) :
      Written (.ident (String.ofList (c :: ds))) (c :: ds) r
  | punct {c : Char} {r : List Char} (hc : isPunct c = true) : Written (.punct c) [c] r

/-- The lexemes at the start of a text, with the columns from which to which they reach, and what
    stands behind them. -/
inductive Cuts : Nat → List Char → List Placed → Nat → List Char → Prop
  | done {column : Nat} {cs : List Char} : Cuts column cs [] column cs
  | white {column column' : Nat} {c : Char} {cs r : List Char} {ts : List Placed}
      (hc : isWhiteSpace c = true) (h : Cuts (column + 1) cs ts column' r) :
      Cuts column (c :: cs) ts column' r
  | lexeme {column column' : Nat} {l : Lexeme} {w cs r : List Char} {ts : List Placed}
      (hw : Written l w cs) (h : Cuts (column + w.length) cs ts column' r) :
      Cuts column (w ++ cs) (⟨column, l⟩ :: ts) column' r

/-- The names of the methods. -/
def methodNames : List String := ["slice", "trim", "toUpperCase", "toLowerCase"]

/-- A cause at a column of a text, with the text from this column on. -/
inductive Names (cs : List Char) : Nat → Cause → List Char → Prop
  /-- A character that starts no lexeme. -/
  | unexpectedChar {ts : List Placed} {column : Nat} {c : Char} {r : List Char}
      (h : Cuts 1 cs ts column (c :: r)) (hwhite : isWhiteSpace c = false)
      (hnone : ∀ l w s, c :: r = w ++ s → ¬Written l w s) :
      Names cs column (.unexpectedChar c) (c :: r)
  /-- A quote that opens a literal, and none that closes it. -/
  | unterminatedString {ts : List Placed} {column : Nat} {quote : Char} {r : List Char}
      (h : Cuts 1 cs ts column (quote :: r)) (hquote : quote = '"' ∨ quote = '\'')
      (hnone : untilQuote quote r = none) : Names cs column .unterminatedString (quote :: r)
  /-- An escape that is none, behind pieces of a literal. -/
  | invalidEscape {ts : List Placed} {column : Nat} {quote e : Char} {l ds r : List Char}
      (h : Cuts 1 cs ts column (quote :: (l ++ '\\' :: e :: r)))
      (hquote : quote = '"' ∨ quote = '\'') (hl : Spells quote l ds)
      (hnone : NoPiece quote ('\\' :: e :: r)) :
      Names cs (column + 1 + l.length) (.invalidEscape e) ('\\' :: e :: r)
  /-- An identifier behind a point that is not the name of a method. -/
  | unknownMethod {ts : List Placed} {k column : Nat} {name : String} {r : List Char}
      (h : Cuts 1 cs (ts ++ [⟨k, .punct '.'⟩]) column (name.toList ++ r))
      (hw : Written (.ident name) name.toList r) (hname : name ∉ methodNames) :
      Names cs column (.unknownMethod name) (name.toList ++ r)
  /-- A number beyond the bounds of slices. -/
  | integerOverflow {ts : List Placed} {column n : Nat} {w r : List Char}
      (h : Cuts 1 cs ts column (w ++ r)) (hw : Written (.int n) w r) (hn : maxBound < n) :
      Names cs column .integerOverflow (w ++ r)
  /-- The lexeme that is found. -/
  | found {ts : List Placed} {column : Nat} {what : Expectation} {l : Lexeme} {w r : List Char}
      (h : Cuts 1 cs ts column (w ++ r)) (hw : Written l w r) :
      Names cs column (.expected what (some l)) (w ++ r)
  /-- The end of the text. -/
  | ended {ts : List Placed} {column : Nat} {what : Expectation} (h : Cuts 1 cs ts column []) :
      Names cs column (.expected what none) []

variable {column column' middle : Nat} {cs r w : List Char} {ts us rest : List Placed} {l : Lexeme}

theorem Written.exists_cons (h : Written l w r) : ∃ c u, w = c :: u := by
  cases h <;> exact ⟨_, _, rfl⟩

theorem Cuts.append {ms : List Char} (h : Cuts column cs ts middle ms)
    (h' : Cuts middle ms us column' r) : Cuts column cs (ts ++ us) column' r := by
  induction h with
  | done => exact h'
  | white hc _ ih => exact .white hc (ih h')
  | lexeme hw _ ih => exact .lexeme hw (ih h')

theorem Cuts.exists_append (h : Cuts column cs ts column' r) :
    ∃ u, cs = u ++ r ∧ column' = column + u.length := by
  induction h with
  | done => exact ⟨[], rfl, rfl⟩
  | @white _ _ c _ _ _ _ _ ih =>
    obtain ⟨u, rfl, rfl⟩ := ih
    exact ⟨c :: u, rfl, by rw [List.length_cons]; omega⟩
  | @lexeme _ _ _ w _ _ _ _ _ ih =>
    obtain ⟨u, rfl, rfl⟩ := ih
    exact ⟨w ++ u, (List.append_assoc ..).symm, by rw [List.length_append]; omega⟩

/-- A cause is named at the column of its text. -/
theorem Names.exists_append {cause : Cause} (h : Names cs column cause r) :
    ∃ u, cs = u ++ r ∧ column = 1 + u.length := by
  cases h with
  | @invalidEscape _ _ quote _ l _ _ h =>
    obtain ⟨u, rfl, rfl⟩ := h.exists_append
    exact ⟨u ++ quote :: l, by simp, by simp only [List.length_append, List.length_cons]; omega⟩
  | unexpectedChar h | unterminatedString h | unknownMethod h | integerOverflow h | found h
  | ended h => exact h.exists_append

/-! ## Errors of scanning -/

theorem map_eq_error {α β : Type} {f : α → β} {x : Except Error α} {e : Error}
    (h : x.map f = .error e) : x = .error e := by
  cases x with
  | error e' =>
    cases h
    rfl
  | ok a => cases h

/-- Pieces do not close a literal. -/
theorem untilQuote_spells_append {quote : Char} {l ds : List Char} (hq : quote = '"' ∨ quote = '\'')
    (hl : Spells quote l ds) (hr : untilQuote quote r = none) : untilQuote quote (l ++ r) = none := by
  induction hl with
  | nil => exact hr
  | cons hp _ ih => rw [List.append_assoc, untilQuote_piece hq hp, ih, Option.map_none]

theorem untilQuote_ended {quote : Char} {l ds : List Char} (hq : quote = '"' ∨ quote = '\'')
    (hl : Spells quote l ds) (hcs : cs = l ∨ cs = l ++ ['\\']) : untilQuote quote cs = none := by
  rcases hcs with rfl | rfl
  · rw [← List.append_nil cs]
    exact untilQuote_spells_append hq hl rfl
  · exact untilQuote_spells_append hq hl rfl

/-- A literal that cannot be read, at its opening quote. -/
theorem exists_names_of_literal {all : List Char} {quote : Char} {e : Error}
    (hcut : Cuts 1 all ts column (quote :: cs)) (hq : quote = '"' ∨ quote = '\'')
    (h : literal quote column (column + 1) cs = .error e) : ∃ r, Names all e.column e.cause r := by
  have hback : quote ≠ '\\' := by rcases hq with rfl | rfl <;> decide
  have hreads := literal_reads hback column (column + 1) cs
  rw [h] at hreads
  cases hreads with
  | ended hcs hl => exact ⟨_, .unterminatedString hcut hq (untilQuote_ended hq hl hcs)⟩
  | invalid hl hpiece => exact ⟨_, .invalidEscape hcut hq hl hpiece⟩

theorem not_written {c : Char} (hquote : ¬(c = '"' || c = '\'') = true)
    (hdigit : ¬isAsciiDigit c = true) (hident : ¬isIdentStart c = true) (hpunct : ¬isPunct c = true) (h : c :: cs = w ++ r) :
    ¬Written l w r := by
  intro hw
  cases hw with
  | str hq =>
    cases h
    exact hquote (by simpa using hq)
  | int hc =>
    cases h
    exact hdigit hc
  | ident hc =>
    cases h
    exact hident hc
  | punct hc =>
    cases h
    exact hpunct hc

theorem written_int {c : Char} (hc : isAsciiDigit c = true) (cs : List Char) :
    Written (.int (decimalValue (c :: cs.takeWhile isAsciiDigit))) (c :: cs.takeWhile isAsciiDigit)
      (cs.dropWhile isAsciiDigit) :=
  .int hc (fun _ hd => List.mem_takeWhile_imp hd) fun _ hd => head?_dropWhile hd

theorem written_ident {c : Char} (hc : isIdentStart c = true) (cs : List Char) :
    Written (.ident (String.ofList (c :: cs.takeWhile isIdentRest))) (c :: cs.takeWhile isIdentRest)
      (cs.dropWhile isIdentRest) :=
  .ident hc (fun _ hd => List.mem_takeWhile_imp hd) fun _ hd => head?_dropWhile hd

/-- Scanning fails at what its error names. -/
theorem exists_names_of_scan {all : List Char} {e : Error} (hcut : Cuts 1 all ts column cs)
    (h : scan column cs = .error e) : ∃ r, Names all e.column e.cause r := by
  -- the lexemes that are read join those in front of them
  have step {column : Nat} {cs r : List Char} {w : List Char} {l : Lexeme} {ts : List Placed}
      (hcut : Cuts 1 all ts column cs) (hcs : w ++ r = cs) (hw : Written l w r) :
      Cuts 1 all (ts ++ [⟨column, l⟩]) (column + w.length) r :=
    (hcs ▸ hcut).append (.lexeme hw .done)
  fun_induction scan column cs generalizing ts with
  | case1 => cases h
  | case2 column c rest hc ih => exact ih (hcut.append (.white hc .done)) h
  | case3 column c rest hc hquote e' he =>
    cases h
    exact exists_names_of_literal hcut (by simpa using hquote) he
  | case4 column c rest hc hquote ds next r hl _ ih =>
    obtain ⟨l, rfl, hlit, rfl⟩ := isLiteral_of_literal hl
    have hnext := step hcut (List.cons_append ..) (.str (by simpa using hquote) hlit)
    rw [List.length_cons, Nat.add_comm l.length, ← Nat.add_assoc] at hnext
    exact ih hnext (map_eq_error h)
  | case5 column c rest hc hquote hdigit digits n =>
    rename_i hmax
    cases h
    have hrest : digits ++ rest.dropWhile isAsciiDigit = c :: rest := by
      rw [List.cons_append, List.takeWhile_append_dropWhile]
    exact ⟨_, .integerOverflow (hrest ▸ hcut) (written_int hdigit rest)
      (Nat.lt_trans (by decide) hmax)⟩
  | case6 column c rest hc hquote hdigit digits n hmax =>
    rename_i ih
    have hrest : digits ++ rest.dropWhile isAsciiDigit = c :: rest := by
      rw [List.cons_append, List.takeWhile_append_dropWhile]
    exact ih (step hcut hrest (written_int hdigit rest)) (map_eq_error h)
  | case7 column c rest hc hquote hdigit hident name =>
    rename_i ih
    have hrest : name ++ rest.dropWhile isIdentRest = c :: rest := by
      rw [List.cons_append, List.takeWhile_append_dropWhile]
    exact ih (step hcut hrest (written_ident hident rest)) (map_eq_error h)
  | case8 column c rest hc hquote hdigit hident hpunct ih =>
    exact ih (step hcut rfl (.punct hpunct)) (map_eq_error h)
  | case9 column c rest hc hquote hdigit hident hpunct =>
    cases h
    exact ⟨_, .unexpectedChar hcut (by simpa using hc)
      fun l w s hs => not_written hquote hdigit hident hpunct hs⟩

/-! ## Lexemes of a whole text -/

/-- The first lexeme of a text stands behind white space. -/
theorem Scans.exists_cut {t : Placed} (h : Scans column cs (t :: ts)) :
    ∃ w r, Cuts column cs [] t.column (w ++ r) ∧ Written t.lexeme w r ∧
      Scans (t.column + w.length) r ts := by
  generalize hts : t :: ts = all at h
  induction h with
  | nil => cases hts
  | white hc _ ih =>
    obtain ⟨w, r, hcut, hw, hrest⟩ := ih hts
    exact ⟨w, r, .white hc hcut, hw, hrest⟩
  | str hquote hl h =>
    cases hts
    exact ⟨_, _, .done, .str hquote hl, by rwa [List.length_cons, Nat.add_comm _ 1, ← Nat.add_assoc]⟩
  | int hc hds hend hmax h =>
    cases hts
    exact ⟨_, _, .done, .int hc hds hend, h⟩
  | ident hc hds hend h =>
    cases hts
    exact ⟨_, _, .done, .ident hc hds hend, h⟩
  | punct hc h =>
    cases hts
    exact ⟨_, _, .done, .punct hc, h⟩

/-- The lexemes of a text, up to any of them. -/
theorem Scans.exists_cuts (h : Scans column cs (us ++ ts)) :
    ∃ column' r, Cuts column cs us column' r ∧ Scans column' r ts := by
  induction us generalizing column cs with
  | nil => exact ⟨column, cs, .done, h⟩
  | cons t us ih =>
    obtain ⟨w, r, hcut, hw, hrest⟩ := h.exists_cut
    obtain ⟨column', r', hcuts, hscans⟩ := ih hrest
    exact ⟨column', r', hcut.append (.lexeme hw hcuts), hscans⟩

/-- Behind the last lexeme, a text is white space. -/
theorem Scans.cuts_nil (h : Scans column cs []) : Cuts column cs [] (column + cs.length) [] := by
  generalize hts : [] = all at h
  induction h with
  | nil => exact .done
  | white hc _ ih =>
    rw [List.length_cons, Nat.add_comm _ 1, ← Nat.add_assoc]
    exact .white hc (ih hts)
  | str | int | ident | punct => cases hts

section
variable {all : List Char} (h : Scans 1 all ts)
include h

theorem Scans.exists_written {t : Placed} (hts : ts = us ++ t :: rest) :
    ∃ w r, Cuts 1 all us t.column (w ++ r) ∧ Written t.lexeme w r := by
  subst hts
  obtain ⟨column, cs, hcuts, hscans⟩ := h.exists_cuts
  obtain ⟨w, r, hcut, hw, -⟩ := hscans.exists_cut
  have happend := hcuts.append hcut
  rw [List.append_nil] at happend
  exact ⟨w, r, happend, hw⟩

theorem Scans.cuts_all : Cuts 1 all ts (all.length + 1) [] := by
  rw [← List.append_nil ts] at h
  obtain ⟨column, cs, hcuts, hscans⟩ := h.exists_cuts
  have happend := hcuts.append hscans.cuts_nil
  rw [List.append_nil] at happend
  obtain ⟨u, hall, hcolumn⟩ := happend.exists_append
  rw [List.append_nil] at hall
  rwa [hall, Nat.add_comm, ← hcolumn, ← hall]

end

/-! ## Errors of reading -/

namespace Reader

/-- The errors of reading some lexemes. -/
inductive Faulty (stop : Nat) (all : List Placed) : Error → Prop
  | unexpected {ts : List Placed} (h : ts <:+ all) (what : Expectation) :
      Faulty stop all (unexpected stop what ts)
  | unknownMethod {k column : Nat} {name : String} {ts : List Placed}
      (h : ⟨k, .punct '.'⟩ :: ⟨column, .ident name⟩ :: ts <:+ all) (hname : name ∉ methodNames) :
      Faulty stop all ⟨column, .unknownMethod name⟩
  | integerOverflow {column n : Nat} {ts : List Placed} (h : ⟨column, .int n⟩ :: ts <:+ all)
      (hn : maxBound < n) : Faulty stop all ⟨column, .integerOverflow⟩

/-- The same lexeme at corresponding places. -/
structure Same (R : Nat → Nat → Prop) (t u : Placed) : Prop where
  place : R t.column u.column
  lexeme : t.lexeme = u.lexeme

/-- What two readings have ahead of them: the same lexemes, which are the last ones of all. -/
structure Ahead (R : Nat → Nat → Prop) (all ts us : List Placed) : Prop where
  suffix : ts <:+ all
  same : List.Forall₂ (Same R) ts us

/-- What two readings give, and what they leave. -/
structure Left (R : Nat → Nat → Prop) (all : List Placed) {α : Type} (x y : α × List Placed) :
    Prop where
  value : x.1 = y.1
  ahead : Ahead R all x.2 y.2

/-- Two readings of the same lexemes: both succeed, or both fail with the same cause at corresponding
    places.  What the error of the first one says is true of all its lexemes, not only of those that
    are ahead: the name of a method is known by the point before it. -/
inductive Agree (R : Nat → Nat → Prop) (stop : Nat) (all : List Placed) {α : Type}
    (V : α → α → Prop) : Except Error α → Except Error α → Prop
  | ok {a b : α} (h : V a b) : Agree R stop all V (.ok a) (.ok b)
  | error {e e' : Error} (hplace : R e.column e'.column) (hcause : e.cause = e'.cause)
      (hfaulty : Faulty stop all e) : Agree R stop all V (.error e) (.error e')

theorem eat?_of_ne {c : Char} (hl : l ≠ .punct c) (k : Nat) (ts : List Placed) :
    eat? c (⟨k, l⟩ :: ts) = none := by
  by_contra hsome
  obtain ⟨ts', hts'⟩ := Option.ne_none_iff_exists'.1 hsome
  obtain ⟨_, hcons⟩ := eat?_eq_some.1 hts'
  cases hcons
  exact hl rfl

theorem eatWord?_of_ne {word : String} (hl : l ≠ .ident word) (k : Nat) (ts : List Placed) :
    eatWord? word (⟨k, l⟩ :: ts) = none := by
  by_contra hsome
  obtain ⟨ts', hts'⟩ := Option.ne_none_iff_exists'.1 hsome
  obtain ⟨_, hcons⟩ := eatWord?_eq_some.1 hts'
  cases hcons
  exact hl rfl

section
variable {R : Nat → Nat → Prop} {stop stop' fuel : Nat} {all : List Placed} {α β : Type}

theorem Ahead.tail {t u : Placed} (h : Ahead R all (t :: ts) (u :: us)) : Ahead R all ts us :=
  ⟨(List.suffix_cons t ts).trans h.suffix, (List.forall₂_cons.1 h.same).2⟩

/-- Nothing is ahead of both readings, or one lexeme at two places and what follows it. -/
theorem Ahead.cases_head (h : Ahead R all ts us) :
    (ts = [] ∧ us = []) ∨ ∃ k k' l ts' us', ts = ⟨k, l⟩ :: ts' ∧ us = ⟨k', l⟩ :: us' ∧ R k k' ∧
      Ahead R all ts' us' := by
  rcases h with ⟨hs, _ | @⟨t, u, ts', us', ht, hr⟩⟩
  · exact .inl ⟨rfl, rfl⟩
  · obtain ⟨k, l⟩ := t
    obtain ⟨k', l'⟩ := u
    obtain rfl : l = l' := ht.lexeme
    exact .inr ⟨k, k', l, ts', us', rfl, rfl, ht.place, Ahead.tail ⟨hs, .cons ht hr⟩⟩

/-- A mark comes first for both, or for none. -/
theorem Ahead.eat? (h : Ahead R all ts us) (c : Char) :
    (eat? c ts = none ∧ eat? c us = none) ∨
      ∃ k ts' us', ts = ⟨k, .punct c⟩ :: ts' ∧ eat? c ts = some ts' ∧ eat? c us = some us' ∧
        Ahead R all ts' us' := by
  obtain ⟨rfl, rfl⟩ | ⟨k, k', l, ts', us', rfl, rfl, -, h'⟩ := h.cases_head
  · exact .inl ⟨rfl, rfl⟩
  by_cases hl : l = .punct c
  · subst hl
    exact .inr ⟨k, ts', us', rfl, eat?_cons k, eat?_cons k', h'⟩
  · exact .inl ⟨eat?_of_ne hl k ts', eat?_of_ne hl k' us'⟩

theorem Ahead.eatWord? (h : Ahead R all ts us) (word : String) :
    (eatWord? word ts = none ∧ eatWord? word us = none) ∨
      ∃ ts' us', eatWord? word ts = some ts' ∧ eatWord? word us = some us' ∧ Ahead R all ts' us' := by
  obtain ⟨rfl, rfl⟩ | ⟨k, k', l, ts', us', rfl, rfl, -, h'⟩ := h.cases_head
  · exact .inl ⟨rfl, rfl⟩
  by_cases hl : l = .ident word
  · subst hl
    exact .inr ⟨ts', us', eatWord?_eq_some.2 ⟨k, rfl⟩, eatWord?_eq_some.2 ⟨k', rfl⟩, h'⟩
  · exact .inl ⟨eatWord?_of_ne hl k ts', eatWord?_of_ne hl k' us'⟩

theorem Ahead.getD_eat? (h : Ahead R all ts us) (c : Char) :
    (Reader.eat? c ts).isSome = (Reader.eat? c us).isSome ∧
      Ahead R all ((Reader.eat? c ts).getD ts) ((Reader.eat? c us).getD us) := by
  obtain ⟨hts, hus⟩ | ⟨-, ts', us', -, hts, hus, h'⟩ := h.eat? c
  · rw [hts, hus]
    exact ⟨rfl, h⟩
  · rw [hts, hus]
    exact ⟨rfl, h'⟩

theorem Agree.cases_left {x y : Result α} (h : Agree R stop all (Left R all) x y) :
    (∃ a ts us, x = .ok (a, ts) ∧ y = .ok (a, us) ∧ Ahead R all ts us) ∨
      ∃ e e', x = .error e ∧ y = .error e' ∧
        ∀ {β : Type} {V : β → β → Prop}, Agree R stop all V (.error e) (.error e') := by
  cases h with
  | @ok x y h =>
    obtain ⟨a, ts⟩ := x
    obtain ⟨b, us⟩ := y
    obtain ⟨rfl, h⟩ := h
    exact .inl ⟨a, ts, us, rfl, rfl, h⟩
  | error hplace hcause hfaulty => exact .inr ⟨_, _, rfl, rfl, .error hplace hcause hfaulty⟩

/-- Two readings that agree go on with readings that agree. -/
theorem Agree.andThen {x y : Result α} {next next' : α → List Placed → Result β}
    (h : Agree R stop all (Left R all) x y)
    (hnext : ∀ a ts us, Ahead R all ts us → Agree R stop all (Left R all) (next a ts) (next' a us)) :
    Agree R stop all (Left R all) (andThen x next) (andThen y next') := by
  obtain ⟨a, ts, us, rfl, rfl, hleft⟩ | ⟨e, e', rfl, rfl, herror⟩ := h.cases_left
  · exact hnext a ts us hleft
  · exact herror

theorem Agree.behind {V : α → α → Prop} {x y : Except Error (List Placed)}
    {next next' : List Placed → Except Error α} : Agree R stop all (Ahead R all) x y →
    (∀ ts us, Ahead R all ts us → Agree R stop all V (next ts) (next' us)) →
    Agree R stop all V
      (match x with
        | .error e => .error e
        | .ok ts => next ts)
      (match y with
        | .error e => .error e
        | .ok us => next' us) := by
  intro h hnext
  cases h with
  | ok h => exact hnext _ _ h
  | error hplace hcause hfaulty => exact .error hplace hcause hfaulty

theorem Agree.pair_left {x y : Except Error (List Placed)} (h : Agree R stop all (Ahead R all) x y)
    (a : α) : Agree R stop all (Left R all) (x.map fun ts => (a, ts)) (y.map fun us => (a, us)) := by
  cases h with
  | ok h => exact .ok ⟨rfl, h⟩
  | error hplace hcause hfaulty => exact .error hplace hcause hfaulty

theorem Ahead.agree {a : α} (h : Ahead R all ts us) :
    Agree R stop all (Left R all) (.ok (a, ts)) (.ok (a, us)) := .ok ⟨rfl, h⟩

variable (hstop : R stop stop')
include hstop

theorem agree_unexpected {V : α → α → Prop} (what : Expectation) (h : Ahead R all ts us) :
    Agree R stop all V (.error (unexpected stop what ts)) (.error (unexpected stop' what us)) := by
  have hfaulty : Faulty stop all (unexpected stop what ts) := .unexpected h.suffix what
  obtain ⟨rfl, rfl⟩ | ⟨k, k', l, ts', us', rfl, rfl, hk, -⟩ := h.cases_head
  · exact .error hstop rfl hfaulty
  · exact .error hk rfl hfaulty

theorem agree_expect (c : Char) (what : Expectation) (h : Ahead R all ts us) :
    Agree R stop all (Ahead R all) (expect stop c what ts) (expect stop' c what us) := by
  unfold expect
  obtain ⟨hts, hus⟩ | ⟨-, ts', us', -, hts, hus, h'⟩ := h.eat? c
  · rw [hts, hus]
    exact agree_unexpected hstop what h
  · rw [hts, hus]
    exact .ok h'

theorem agree_bound (h : Ahead R all ts us) :
    Agree R stop all (Left R all) (bound stop ts) (bound stop' us) := by
  obtain ⟨hsome, h⟩ := h.getD_eat? '-'
  unfold bound
  rw [← hsome]
  generalize (eat? '-' ts).getD ts = ts at h ⊢
  generalize (eat? '-' us).getD us = us at h ⊢
  obtain ⟨rfl, rfl⟩ | ⟨k, k', l, ts', us', rfl, rfl, hk, h'⟩ := h.cases_head
  · exact agree_unexpected hstop .integer h
  cases l with
  | int n =>
    dsimp only
    split
    · next hn => exact .error hk rfl (.integerOverflow h.suffix hn)
    · exact h'.agree
  | str | ident | punct => exact agree_unexpected hstop .integer h

theorem agree_bounds (h : Ahead R all ts us) :
    Agree R stop all (Left R all) (bounds stop ts) (bounds stop' us) := by
  refine (agree_bound hstop h).andThen fun lo ts us h => ?_
  obtain ⟨hts, hus⟩ | ⟨-, ts', us', -, hts, hus, h'⟩ := h.eat? ','
  · rw [hts, hus]
    exact h.agree
  · rw [hts, hus]
    exact (agree_bound hstop h').andThen fun hi ts us h => h.agree

/-- The arguments of a method, which stand behind a point and a name. -/
theorem agree_arguments {k column column' : Nat} {name : String} (hcolumn : R column column')
    (hpoint : ⟨k, .punct '.'⟩ :: ⟨column, .ident name⟩ :: rest <:+ all) (h : Ahead R all ts us) :
    Agree R stop all (Left R all) (arguments stop column name ts)
      (arguments stop' column' name us) := by
  unfold arguments
  split_ifs with hslice htrim hupper hlower
  · exact (agree_bounds hstop h).andThen fun b ts us h => h.agree
  · exact h.agree
  · exact h.agree
  · exact h.agree
  · have hname : name ∉ methodNames := by simp [methodNames, hslice, htrim, hupper, hlower]
    exact .error hcolumn rfl (.unknownMethod hpoint hname)

theorem agree_method {k : Nat} (hpoint : ⟨k, .punct '.'⟩ :: ts <:+ all) (h : Ahead R all ts us) :
    Agree R stop all (Left R all) (method stop ts) (method stop' us) := by
  obtain ⟨rfl, rfl⟩ | ⟨column, column', l, ts', us', rfl, rfl, hcolumn, h'⟩ := h.cases_head
  · exact agree_unexpected hstop .methodName h
  cases l with
  | ident name =>
    refine (agree_expect hstop '(' .callStart h').behind fun ts us h => ?_
    refine (agree_arguments hstop hcolumn hpoint h).andThen fun f ts us h => ?_
    exact (agree_expect hstop ')' .callEnd h).pair_left f
  | str | int | punct => exact agree_unexpected hstop .methodName h

theorem agree_methods (fuel : Nat) (t : Term) (h : Ahead R all ts us) :
    Agree R stop all (Left R all) (methods stop fuel t ts) (methods stop' fuel t us) := by
  induction fuel generalizing t ts us with
  | zero => exact agree_unexpected hstop .value h
  | succ fuel ih =>
    unfold methods
    obtain ⟨hts, hus⟩ | ⟨k, ts', us', rfl, hts, hus, h'⟩ := h.eat? '.'
    · rw [hts, hus]
      exact h.agree
    · rw [hts, hus]
      exact (agree_method hstop h.suffix h').andThen fun f ts us h => ih (f t) h

omit hstop

/-- The readers that call each other agree, with some fuel. -/
structure AgreeAt (R : Nat → Nat → Prop) (stop stop' : Nat) (all : List Placed) (fuel : Nat) :
    Prop where
  atom : ∀ {ts us}, Ahead R all ts us →
    Agree R stop all (Left R all) (atom stop fuel ts) (atom stop' fuel us)
  term : ∀ {ts us}, Ahead R all ts us →
    Agree R stop all (Left R all) (term stop fuel ts) (term stop' fuel us)
  summands : ∀ {ts us}, Ahead R all ts us →
    Agree R stop all (Left R all) (summands stop fuel ts) (summands stop' fuel us)
  value : ∀ {ts us}, Ahead R all ts us →
    Agree R stop all (Left R all) (value stop fuel ts) (value stop' fuel us)

include hstop

theorem agreeAt_zero : AgreeAt R stop stop' all 0 := by
  constructor <;> intro ts us h <;> exact agree_unexpected hstop .value h

theorem AgreeAt.succ (ih : AgreeAt R stop stop' all fuel) : AgreeAt R stop stop' all (fuel + 1) := by
  constructor
  case atom =>
    intro ts us h
    obtain ⟨rfl, rfl⟩ | ⟨k, k', l, ts', us', rfl, rfl, -, h'⟩ := h.cases_head
    · exact agree_unexpected hstop .value h
    cases l with
    | str s => exact h'.agree
    | ident s => exact h'.agree
    | int n => exact agree_unexpected hstop .value h
    | punct c =>
      by_cases hc : c = '('
      · subst hc
        refine (ih.value h').andThen fun t ts us h => ?_
        exact (agree_expect hstop ')' .groupEnd h).pair_left t
      · -- no other mark starts a value
        have hatom (stop k : Nat) (r : List Placed) :
            Reader.atom stop (fuel + 1) (⟨k, .punct c⟩ :: r) =
              .error (unexpected stop .value (⟨k, .punct c⟩ :: r)) := by
          unfold Reader.atom
          split <;> simp_all
        rw [hatom, hatom]
        exact agree_unexpected hstop .value h
  case term =>
    intro ts us h
    exact (ih.atom h).andThen fun t ts us h => agree_methods hstop fuel t h
  case summands =>
    intro ts us h
    unfold Reader.summands
    obtain ⟨hts, hus⟩ | ⟨-, ts', us', -, hts, hus, h'⟩ := h.eat? '+'
    · rw [hts, hus]
      exact h.agree
    · rw [hts, hus]
      refine (ih.term h').andThen fun t ts us h => ?_
      exact (ih.summands h).andThen fun rest ts us h => h.agree
  case value =>
    intro ts us h
    refine (ih.term h).andThen fun t ts us h => ?_
    exact (ih.summands h).andThen fun rest ts us h => h.agree

theorem agreeAt (fuel : Nat) : AgreeAt R stop stop' all fuel := by
  induction fuel with
  | zero => exact agreeAt_zero hstop
  | succ fuel ih => exact ih.succ hstop

theorem agree_fullValue (h : Ahead R all ts us) :
    Agree R stop all (Left R all) (fullValue stop ts) (fullValue stop' us) := by
  unfold fullValue
  -- the fuel is the same, since there are as many lexemes
  rw [h.same.length_eq]
  exact (agreeAt hstop _).value h

theorem agree_pair (h : Ahead R all ts us) :
    Agree R stop all (Left R all) (pair stop ts) (pair stop' us) := by
  refine (agree_fullValue hstop h).andThen fun v ts us h => ?_
  refine (agree_expect hstop ',' .pairComma h).behind fun ts us h => ?_
  refine (agree_fullValue hstop h).andThen fun k ts us h => ?_
  exact (agree_expect hstop ']' .pairEnd h).pair_left _

omit hstop in
/-- Any other lexeme is read as a type. -/
theorem result_of_ne {k : Nat} (hsemicolon : l ≠ .punct ';') (hbrace : l ≠ .punct '}')
    (hbracket : l ≠ .punct '[') (hnull : eatWord? "null" (⟨k, l⟩ :: ts) = none)
    (hundefined : eatWord? "undefined" (⟨k, l⟩ :: ts) = none) :
    result stop (⟨k, l⟩ :: ts) =
      andThen (fullValue stop (⟨k, l⟩ :: ts)) fun t ts => .ok (.type t, ts) := by
  rw [result, hnull, hundefined]
  · exact List.cons_ne_nil _ _
  · rintro _ _ ⟨⟩
    exact hsemicolon rfl
  · rintro _ _ ⟨⟩
    exact hbrace rfl
  · rintro _ _ ⟨⟩
    exact hbracket rfl

theorem agree_result (h : Ahead R all ts us) :
    Agree R stop all (Left R all) (result stop ts) (result stop' us) := by
  obtain ⟨hts, hus⟩ | ⟨ts', us', hts, hus, h'⟩ := h.eatWord? "null"
  swap
  · unfold result
    rw [hts, hus]
    exact h'.agree
  obtain ⟨hts', hus'⟩ | ⟨ts', us', hts', hus', h'⟩ := h.eatWord? "undefined"
  swap
  · unfold result
    rw [hts, hus, hts', hus']
    exact h'.agree
  obtain ⟨rfl, rfl⟩ | ⟨k, k', l, ts', us', rfl, rfl, -, h'⟩ := h.cases_head
  · exact h.agree
  by_cases hsemicolon : l = .punct ';'
  · subst hsemicolon
    exact h.agree
  by_cases hbrace : l = .punct '}'
  · subst hbrace
    exact h.agree
  by_cases hbracket : l = .punct '['
  · subst hbracket
    exact agree_pair hstop h'
  rw [result_of_ne hsemicolon hbrace hbracket hts hts',
    result_of_ne hsemicolon hbrace hbracket hus hus']
  exact (agree_fullValue hstop h).andThen fun t ts us h => h.agree

theorem agree_inner (h : Ahead R all ts us) :
    Agree R stop all (Left R all) (inner stop ts) (inner stop' us) := by
  have hreturn : Ahead R all ((eatWord? "return" ts).getD ts) ((eatWord? "return" us).getD us) := by
    obtain ⟨hts, hus⟩ | ⟨ts', us', hts, hus, h'⟩ := h.eatWord? "return"
    · rwa [hts, hus]
    · rwa [hts, hus]
  exact (agree_result hstop hreturn).andThen fun b ts us h => (h.getD_eat? ';').2.agree

theorem agree_close (b : Body) (h : Ahead R all ts us) :
    Agree R stop all Eq (close stop b ts) (close stop' b us) := by
  obtain ⟨rfl, rfl⟩ | ⟨k, k', l, ts', us', rfl, rfl, -, -⟩ := h.cases_head
  · exact .ok rfl
  · exact agree_unexpected hstop .handlerEnd h

/-- Two readings of the same lexemes agree. -/
theorem agree_body (h : Ahead R all ts us) :
    Agree R stop all Eq (body stop ts) (body stop' us) := by
  unfold body
  obtain ⟨hts, hus⟩ | ⟨-, ts', us', -, hts, hus, h'⟩ := h.eat? '{'
  · simp only [hts, hus]
    obtain ⟨b, ts, us, hx, hy, h⟩ | ⟨e, e', hx, hy, herror⟩ := (agree_inner hstop h).cases_left
    · rw [hx, hy]
      exact agree_close hstop b h
    · rw [hx, hy]
      exact herror
  · simp only [hts, hus]
    obtain ⟨b, ts, us, hx, hy, h⟩ | ⟨e, e', hx, hy, herror⟩ := (agree_inner hstop h').cases_left
    · rw [hx, hy]
      refine (agree_expect hstop '}' .handlerBrace h).behind fun ts us h => ?_
      exact agree_close hstop b (h.getD_eat? ';').2
    · rw [hx, hy]
      exact herror

end

theorem faulty_of_body {stop : Nat} {e : Error} (h : body stop ts = .error e) : Faulty stop ts e := by
  have hself : Ahead Eq ts ts ts := ⟨List.suffix_rfl, List.forall₂_same.2 fun _ _ => ⟨rfl, rfl⟩⟩
  have hagree := agree_body (rfl : stop = stop) hself
  rw [h] at hagree
  cases hagree with
  | error _ _ hfaulty => exact hfaulty

end Reader

/-! ## Columns -/

/-- An error that points at what it names. -/
structure Error.Points (cs : List Char) (e : Error) : Prop where
  one_le_column : 1 ≤ e.column
  column_le : e.column ≤ cs.length + 1
  /-- The text from the column on begins with what the cause names. -/
  names : Names cs e.column e.cause (cs.drop (e.column - 1))
  /-- The end of the handler is what is found behind the last character, and only there. -/
  ended : ∀ what found, e.cause = .expected what found →
    (e.column = cs.length + 1 ↔
      found.elim "end of handler" Lexeme.describe = "end of handler")

theorem Written.eq_toList {name : String} (h : Written (.ident name) w r) : w = name.toList := by
  cases h
  exact String.toList_ofList.symm

/-- The errors of reading the lexemes of a text. -/
theorem Reader.Faulty.exists_names {e : Error} (h : Reader.Faulty (cs.length + 1) ts e)
    (hscans : Scans 1 cs ts) : ∃ r, Names cs e.column e.cause r := by
  cases h with
  | @unexpected rest hs what =>
    obtain ⟨used, rfl⟩ := hs
    cases rest with
    | nil => exact ⟨_, .ended hscans.cuts_all⟩
    | cons t rest =>
      obtain ⟨w, r, hcut, hw⟩ := hscans.exists_written rfl
      exact ⟨_, .found hcut hw⟩
  | unknownMethod hs hname =>
    obtain ⟨used, rfl⟩ := hs
    obtain ⟨w, r, hcut, hw⟩ := hscans.exists_written (List.append_cons ..)
    obtain rfl := hw.eq_toList
    exact ⟨_, .unknownMethod hcut hw hname⟩
  | integerOverflow hs hn =>
    obtain ⟨used, rfl⟩ := hs
    obtain ⟨w, r, hcut, hw⟩ := hscans.exists_written rfl
    exact ⟨_, .integerOverflow hcut hw hn⟩

theorem Lexeme.describe_ne (l : Lexeme) : l.describe ≠ "end of handler" := by
  intro h
  have hlist := congrArg String.toList h
  cases l <;> simp [Lexeme.describe] at hlist

theorem Names.points {cause : Cause} (h : Names cs column cause r) :
    Error.Points cs ⟨column, cause⟩ := by
  obtain ⟨u, hcs, rfl⟩ := h.exists_append
  have hlength : cs.length = u.length + r.length := by rw [hcs, List.length_append]
  have hdrop : cs.drop (1 + u.length - 1) = r := by
    rw [hcs, Nat.add_sub_cancel_left, List.drop_left]
  constructor
  case one_le_column => exact Nat.le_add_right ..
  case column_le =>
    dsimp only
    omega
  case names => rwa [hdrop]
  case ended =>
    rintro what found rfl
    generalize hk : 1 + u.length = k at h
    cases h with
    | found _ hw =>
      obtain ⟨c, v, rfl⟩ := hw.exists_cons
      rw [List.cons_append, List.length_cons] at hlength
      exact iff_of_false (by dsimp only; omega) (Lexeme.describe_ne _)
    | ended =>
      rw [List.length_nil] at hlength
      exact iff_of_true (by dsimp only; omega) rfl

/-- An error of a body points at what it names. -/
theorem points_of_parse {text : String} {e : Error} (h : Body.parse text = .error e) :
    e.Points text.toList := by
  unfold Body.parse at h
  dsimp only at h
  split at h
  · next e' hscan =>
    cases h
    obtain ⟨r, hnames⟩ := exists_names_of_scan .done hscan
    exact hnames.points
  · next ts hscan =>
    obtain ⟨r, hnames⟩ := (Reader.faulty_of_body h).exists_names (scans_of_scan hscan)
    exact hnames.points

end OrderedLexer.Expr
