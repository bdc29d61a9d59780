/-
  The sources of labels.

  The source of a label is a string literal of JSON.  A handler expression reads it back as the label
  (`literal_write`), but for two characters, backspace and form feed: JSON has letters for them that
  the expressions do not know (`lostEscape?`).

  `compile_source_label`: a label without these characters is what its own source stands for, and a
  label with one of them has a source that stands for nothing.
-/
import OrderedLexer.Proofs.Lexing

namespace OrderedLexer.Expr

open Json (escapeChar writeString)

/-! ## String literals of JSON -/

/-- The letter that JSON writes behind a backslash for a character, if it is not one of those that a
    handler expression reads. -/
def lostEscape? (c : Char) : Option Char :=
  if c.toNat = 0x08 then some 'b' else if c.toNat = 0x0C then some 'f' else none

variable {c e : Char} {cs r : List Char} {opening column : Nat}

theorem escapeChar_of_lost (h : lostEscape? c = some e) :
    escapeChar c = ['\\', e] ∧ e ≠ 'u' ∧ simpleEscape? e = none := by
  unfold lostEscape? at h
  split at h
  · next hc =>
    cases h
    rw [← Char.ofNat_toNat c, hc]
    decide
  split at h
  · next hc =>
    cases h
    rw [← Char.ofNat_toNat c, hc]
    decide
  · cases h

theorem literal_simpleEscape (he : simpleEscape? e = some c) :
    literal '"' opening column ('\\' :: e :: r) =
      (literal '"' opening (column + 2) r).map fun (ds, r) => (c :: ds, r) := by
  have hu : e ≠ 'u' := by
    rintro rfl
    cases he
  rw [literal.eq_def]
  simp only [Char.reduceEq, if_false, if_true, if_neg hu, he]

theorem literal_control (hc : c.toNat < 0x20) :
    literal '"' opening column ('\\' :: 'u' :: '0' :: '0' :: Text.hexChar (c.toNat / 16) ::
      Text.hexChar (c.toNat % 16) :: r) =
      (literal '"' opening (column + 6) r).map fun (ds, r) => (c :: ds, r) := by
  have hall : ∀ n < 0x20, codePoint? ['0', '0', Text.hexChar (n / 16), Text.hexChar (n % 16)] =
      some (Char.ofNat n) := by decide
  have hcode := hall c.toNat hc
  rw [Char.ofNat_toNat] at hcode
  rw [literal.eq_def]
  simp only [Char.reduceEq, if_false, if_true, List.take, List.drop, hcode]

/-- A character is read back from the way that JSON writes it. -/
theorem literal_escapeChar (h : lostEscape? c = none) :
    literal '"' opening column (escapeChar c ++ r) =
      (literal '"' opening (column + (escapeChar c).length) r).map fun (ds, r) => (c :: ds, r) := by
  have hb : c.toNat ≠ 0x08 := fun hc => by simp [lostEscape?, hc] at h
  have hf : c.toNat ≠ 0x0C := fun hc => by simp [lostEscape?, hc] at h
  unfold escapeChar
  simp only [if_neg hb, if_neg hf]
  split
  · next hc => exact literal_simpleEscape (by rw [hc]; rfl)
  split
  · next hc => exact literal_simpleEscape (by rw [hc]; rfl)
  split
  · next hc => exact literal_simpleEscape (by rw [hc]; rfl)
  split
  · next hc => exact literal_simpleEscape (by rw [hc]; rfl)
  split
  · next hc => exact literal_simpleEscape (by rw [hc]; rfl)
  split
  · next hc => exact literal_control hc
  · next hquote hback _ _ _ _ =>
    rw [List.cons_append, List.nil_append, literal.eq_def]
    simp only [if_neg hquote, if_neg hback, List.length_singleton]

/-- Characters are read back one by one, whatever follows them. -/
theorem literal_write (h : ∀ c ∈ cs, lostEscape? c = none) :
    literal '"' opening column (cs.flatMap escapeChar ++ r) =
      (literal '"' opening (column + (cs.flatMap escapeChar).length) r).map fun (ds, r) =>
        (cs ++ ds, r) := by
  induction cs generalizing column with
  | nil =>
    rw [List.flatMap_nil, List.nil_append, List.length_nil, Nat.add_zero]
    rcases literal '"' opening column r with e | ⟨ds, r⟩ <;> rfl
  | cons c cs ih =>
    obtain ⟨hc, hcs⟩ := List.forall_mem_cons.1 h
    rw [List.flatMap_cons, List.append_assoc, literal_escapeChar hc, ih hcs, List.length_append,
      ← Nat.add_assoc]
    rcases literal '"' opening (column + (escapeChar c).length + (cs.flatMap escapeChar).length) r
      with e | ⟨ds, r⟩ <;> rfl

/-- A literal is all that is scanned, or the error in it. -/
theorem scan_writeString (s : String) :
    scan 1 (writeString s) =
      (literal '"' 1 2 (s.toList.flatMap escapeChar ++ ['"'])).bind fun (ds, next, r) =>
        (scan next r).map (⟨1, .str (String.ofList ds)⟩ :: ·) := by
  rw [writeString]
  exact scan_of_quote (.inl rfl) 1 _

theorem scan_writeString_of_kept {s : String} (h : ∀ c ∈ s.toList, lostEscape? c = none) :
    scan 1 (writeString s) = .ok [⟨1, .str s⟩] := by
  have hclose : ∀ column, literal '"' 1 column ['"'] = .ok ([], column + 1, []) := by
    intro column
    rw [literal.eq_def]
    simp
  have hend : ∀ column, scan column [] = .ok [] := fun column => by rw [scan.eq_def]
  rw [scan_writeString, literal_write h, hclose]
  simp only [Except.map, Except.bind, List.append_nil, hend, String.ofList_toList]

/-- The first character that is lost is where reading stops. -/
theorem scan_writeString_of_lost {s : String} {before after : List Char}
    (hs : s.toList = before ++ c :: after) (hbefore : ∀ d ∈ before, lostEscape? d = none)
    (hc : lostEscape? c = some e) :
    scan 1 (writeString s) = .error ⟨2 + (before.flatMap escapeChar).length, .invalidEscape e⟩ := by
  obtain ⟨hwrite, hu, hunknown⟩ := escapeChar_of_lost hc
  have hstop : ∀ column r,
      literal '"' 1 column ('\\' :: e :: r) = .error ⟨column, .invalidEscape e⟩ := by
    intro column r
    rw [literal.eq_def]
    simp only [Char.reduceEq, if_false, if_true, if_neg hu, hunknown]
  rw [scan_writeString, hs, List.flatMap_append, List.flatMap_cons, hwrite, List.append_assoc,
    literal_write hbefore]
  simp only [List.cons_append, hstop]
  rfl

end OrderedLexer.Expr

namespace OrderedLexer.Handler

open OrderedLexer.Expr (lostEscape?)

/-! ## Labels -/

theorem compile_of_scan {body : String} {e : Expr.Error} (h : Expr.scan 1 body.toList = .error e) :
    compile body = .error e := by
  rw [compile, Expr.Body.parse, h]
  rfl

theorem trimString_writeString (s : String) :
    Text.trimString (String.ofList (Json.writeString s)) = String.ofList (Json.writeString s) := by
  have hquote : Text.NoSpace ['"'] := by decide
  have htrimmed : Text.Trimmed (Json.writeString s) :=
    hquote.trimmed.cons_append (List.cons_ne_nil _ _) (by decide)
  rw [Text.trimString, String.toList_ofList, htrimmed.trim_eq]

/-- A literal is a body that names a type. -/
theorem isBody_str (s : String) : Expr.Grammar.IsBody [.str s] (.type (.literal s)) := by
  have hvalue : Expr.Grammar.IsValue [.str s] (.literal s) := .single (.mk (.str s) .nil)
  have hresult : Expr.Grammar.IsResult [.str s] (.type (.literal s)) :=
    .type hvalue (by simp) (by simp)
  exact .plain (.plain (by simp) hresult .absent)

/-- A label whose characters are all kept is read back. -/
theorem compile_writeString {kind : String} (h : ∀ c ∈ kind.toList, lostEscape? c = none) :
    compile (String.ofList (Json.writeString kind)) = .ok (label kind) := by
  have hparse : Expr.Body.parse (String.ofList (Json.writeString kind)) =
      .ok (.type (.literal kind)) := by
    rw [Expr.Body.parse, String.toList_ofList, Expr.scan_writeString_of_kept h]
    exact (Expr.Reader.body_eq_ok_iff ..).2 (isBody_str kind)
  rw [compile, hparse, trimString_writeString]
  simp [Except.map, label, Expr.Body.eval, Expr.Term.eval]

/-- **A label is what its own source stands for, but for two characters.**  If the label holds neither
    a backspace nor a form feed, its source is read as the label.  Else reading stops at the first of
    them. -/
theorem compile_source_label (kind : String) :
    ∃ source, (label kind).source = some source ∧
      (compile source = .ok (label kind) ↔ ∀ c ∈ kind.toList, lostEscape? c = none) ∧
      ∀ before c after e, kind.toList = before ++ c :: after →
        (∀ d ∈ before, lostEscape? d = none) → lostEscape? c = some e →
        compile source =
          .error ⟨2 + (before.flatMap Json.escapeChar).length, .invalidEscape e⟩ := by
  have hlost : ∀ before c after e, kind.toList = before ++ c :: after →
      (∀ d ∈ before, lostEscape? d = none) → lostEscape? c = some e →
      compile (String.ofList (Json.writeString kind)) =
        .error ⟨2 + (before.flatMap Json.escapeChar).length, .invalidEscape e⟩ := by
    intro before c after e hkind hbefore hc
    refine compile_of_scan ?_
    rw [String.toList_ofList]
    exact Expr.scan_writeString_of_lost hkind hbefore hc
  refine ⟨_, rfl, ⟨fun h => ?_, compile_writeString⟩, hlost⟩
  rcases hfind : kind.toList.findSome? lostEscape? with _ | e
  · exact List.findSome?_eq_none_iff.1 hfind
  · obtain ⟨before, c, after, hkind, hc, hbefore⟩ := List.findSome?_eq_some_iff.1 hfind
    rw [hlost before c after e hkind hbefore hc] at h
    cases h

/-- The source of a label that is a backspace stands for nothing. -/
theorem compile_source_backspace :
    (label "\x08").source = some "\"\\b\"" ∧
      compile "\"\\b\"" = .error ⟨2, .invalidEscape 'b'⟩ :=
  ⟨by decide +kernel, compile_of_scan (by decide +kernel)⟩

end OrderedLexer.Handler
