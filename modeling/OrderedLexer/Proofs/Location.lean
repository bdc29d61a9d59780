/-
  Lines and columns are exact.

  A position is moved by counting: newlines and characters of each matched text are added to what was
  counted before, in words.  `Position.Counts` says that what was counted is what stands before the
  position; moving behind further characters keeps that as long as the input is shorter than the
  greatest word (`Counts.advance`), and no sum on the way leaves its word (`Counts.advance?`, where
  `advance?` is `advance` with every sum checked).

  `session_exact`: in every session over one input, the position and all locations of tokens have
  the line and column that the input gives to their offsets.
-/
import OrderedLexer.Proofs.Invariant

namespace OrderedLexer

open Text (byteSize lastLine)

namespace Position

/-! ## Checked sums -/

/-- The sum of two words, if it is one. -/
def addWord? (a b : UInt32) : Option UInt32 :=
  if a.toNat + b.toNat < UInt32.size then some (a + b) else none

/-- The sum of two offsets, if it is one. -/
def addOffset? (a b : Nat) : Option Nat :=
  if a + b < Location.offsetLimit then some (a + b) else none

/-- The number of characters of a text, if it is a word. -/
def charCount? (cs : List Char) : Option UInt32 :=
  if cs.length < UInt32.size then some (UInt32.ofNat cs.length) else none

/-- `passNewlines` with every sum checked. -/
def passNewlines? (p : Position) (offset : Nat) : List Char → Option Position
  | [] => some p
  | c :: cs => do
    let offset ← addOffset? offset c.utf8Size
    if c = '\n' then
      let lineWord ← addWord? p.lineWord 1
      passNewlines? { p with lineWord, lineStart := offset } offset cs
    else passNewlines? p offset cs

/-- `advance` with every sum checked: none if a sum is too great for its word, or a text too long to
    be counted in one. -/
def advance? (p : Position) (cs : List Char) : Option Position := do
  let offset ← addOffset? p.offset (byteSize cs)
  let q ← p.passNewlines? p.offset cs
  let columnWord ←
    if cs.contains '\n' then charCount? (lastLine cs)
    else do addWord? p.columnWord (← charCount? cs)
  return { q with offset, columnWord }

theorem toNat_addWord {a b : UInt32} (h : a.toNat + b.toNat < UInt32.size) :
    (a + b).toNat = a.toNat + b.toNat := by
  rw [UInt32.toNat_add]; exact Nat.mod_eq_of_lt h

theorem charCount?_eq {cs : List Char} (h : cs.length < UInt32.size) :
    charCount? cs = some (charCount cs) := by
  rw [charCount?, if_pos h, charCount, UInt32.ofNatClamp_eq_ofNat _ h]

theorem toNat_charCount {cs : List Char} (h : cs.length < UInt32.size) :
    (charCount cs).toNat = cs.length := by
  rw [charCount, UInt32.ofNatClamp_eq_ofNat _ h, UInt32.toNat_ofNat']
  exact Nat.mod_eq_of_lt h

/-! ## Newlines -/

theorem toNat_lineWord_succ {p : Position} (h : p.line + 1 < UInt32.size) :
    (p.lineWord + 1).toNat = p.line + 1 := toNat_addWord h

theorem line_passNewlines (cs : List Char) (p : Position) (offset : Nat)
    (h : p.line + cs.count '\n' < UInt32.size) :
    (p.passNewlines offset cs).line = p.line + cs.count '\n' := by
  induction cs generalizing p offset with
  | nil => rfl
  | cons c cs ih =>
    unfold passNewlines
    split_ifs with hc
    · subst hc
      rw [List.count_cons_self] at h ⊢
      have hline : ({ p with lineWord := p.lineWord + 1, lineStart := offset + '\n'.utf8Size } :
        Position).line = p.line + 1 := toNat_lineWord_succ (by omega)
      rw [ih _ _ (by rw [hline]; omega), hline]
      omega
    · rw [List.count_cons_of_ne hc] at h ⊢
      exact ih p _ h

theorem passNewlines_of_notMem {cs : List Char} (h : '\n' ∉ cs) (p : Position) (offset : Nat) :
    p.passNewlines offset cs = p := by
  induction cs generalizing offset with
  | nil => rfl
  | cons c cs ih =>
    rw [List.mem_cons, not_or] at h
    rw [passNewlines, if_neg (Ne.symm h.1), ih h.2]

theorem lineStart_passNewlines {cs : List Char} (h : '\n' ∈ cs) (p : Position) (offset : Nat) :
    (p.passNewlines offset cs).lineStart + byteSize (lastLine cs) = offset + byteSize cs := by
  induction cs generalizing p offset with
  | nil => cases h
  | cons c cs ih =>
    have hlast : lastLine (c :: cs) = if '\n' ∈ cs then lastLine cs else lastLine [c] ++ cs :=
      lastLine_append [c] cs
    by_cases hcs : '\n' ∈ cs
    · rw [if_pos hcs] at hlast
      rw [passNewlines, hlast, Text.byteSize_cons, ← Nat.add_assoc]
      split_ifs <;> exact ih hcs _ _
    · obtain rfl : '\n' = c := (List.mem_cons.1 h).resolve_right hcs
      rw [if_neg hcs] at hlast
      rw [passNewlines, if_pos rfl, passNewlines_of_notMem hcs, hlast, Text.byteSize_cons,
        ← Nat.add_assoc]
      rfl

/-! ## Exact counts -/

/-- A position has counted what stands before it. -/
structure Counts (p : Position) (before : List Char) : Prop where
  offset : p.offset = byteSize before
  line : p.line = 1 + before.count '\n'
  lineStart : p.lineStart + byteSize (lastLine before) = byteSize before
  column : p.column = (lastLine before).length

theorem counts_start : start.Counts [] := ⟨rfl, rfl, rfl, rfl⟩

section
variable {p : Position} {before cs : List Char}

theorem count_newline_le (cs : List Char) : cs.count '\n' ≤ byteSize cs :=
  List.count_le_length.trans (length_le_byteSize cs)

theorem length_lastLine_le (cs : List Char) : (lastLine cs).length ≤ byteSize cs := by
  obtain ⟨head, hhead, -⟩ := exists_append_lastLine cs
  have := congrArg List.length hhead
  rw [List.length_append] at this
  exact le_trans (by omega) (length_le_byteSize cs)

/-- Moving behind further characters counts them too. -/
theorem Counts.advance (h : p.Counts before)
    (hsize : byteSize before + byteSize cs < UInt32.size - 1) :
    (p.advance cs).Counts (before ++ cs) := by
  have hlast := lastLine_append before cs
  refine ⟨?_, ?_, ?_, ?_⟩
  · rw [offset_advance, h.offset, Text.byteSize_append]
  · have hbefore := count_newline_le before
    have hcs := count_newline_le cs
    have hline : (p.advance cs).line = (p.passNewlines p.offset cs).line := rfl
    rw [hline, line_passNewlines cs p _ (by rw [h.line]; omega), h.line, List.count_append]
    omega
  · have hstart : (p.advance cs).lineStart = (p.passNewlines p.offset cs).lineStart := rfl
    rw [hstart, hlast, Text.byteSize_append]
    split_ifs with hmem
    · rw [lineStart_passNewlines hmem, h.offset]
    · rw [passNewlines_of_notMem hmem, Text.byteSize_append, ← Nat.add_assoc, h.lineStart]
  · have hcol : (p.advance cs).column =
        (if cs.contains '\n' then charCount (lastLine cs) else p.columnWord + charCount cs).toNat :=
      rfl
    rw [hcol, hlast, List.contains_eq_mem]
    by_cases hmem : '\n' ∈ cs
    · have := length_lastLine_le cs
      rw [if_pos hmem, decide_eq_true hmem, if_pos rfl, toNat_charCount (by omega)]
    · have hbefore := length_lastLine_le before
      have hcs := length_le_byteSize cs
      have hcount : (charCount cs).toNat = cs.length := toNat_charCount (by omega)
      have hcolumn : p.columnWord.toNat = (lastLine before).length := h.column
      rw [if_neg hmem, decide_eq_false hmem, if_neg Bool.false_ne_true,
        toNat_addWord (by rw [hcount, hcolumn]; omega), hcount, hcolumn, List.length_append]

theorem passNewlines?_eq (cs : List Char) (p : Position) (offset : Nat)
    (hoff : offset + byteSize cs < Location.offsetLimit)
    (hline : p.line + cs.count '\n' < UInt32.size) :
    p.passNewlines? offset cs = some (p.passNewlines offset cs) := by
  induction cs generalizing p offset with
  | nil => rfl
  | cons c cs ih =>
    rw [Text.byteSize_cons] at hoff
    have hadd : addOffset? offset c.utf8Size = some (offset + c.utf8Size) := if_pos (by omega)
    simp only [passNewlines?, passNewlines, hadd, Option.bind_eq_bind, Option.bind_some]
    split_ifs with hc
    · subst hc
      rw [List.count_cons_self] at hline
      have hsucc : p.line + 1 < UInt32.size := by omega
      have hword : addWord? p.lineWord 1 = some (p.lineWord + 1) := if_pos hsucc
      have hline' : ({ p with lineWord := p.lineWord + 1, lineStart := offset + '\n'.utf8Size } :
        Position).line = p.line + 1 := toNat_lineWord_succ hsucc
      rw [hword, Option.bind_some]
      exact ih _ _ (by omega) (by rw [hline']; omega)
    · rw [List.count_cons_of_ne hc] at hline
      exact ih p _ (by omega) hline

/-- No sum on the way leaves its word. -/
theorem Counts.advance? (h : p.Counts before)
    (hsize : byteSize before + byteSize cs < UInt32.size - 1) :
    p.advance? cs = some (p.advance cs) := by
  have hlimit : UInt32.size - 1 < Location.offsetLimit := by decide
  have hbefore := count_newline_le before
  have hcs := count_newline_le cs
  have hoff : addOffset? p.offset (byteSize cs) = some (p.offset + byteSize cs) :=
    if_pos (by rw [h.offset]; omega)
  have hpass := passNewlines?_eq cs p p.offset (by rw [h.offset]; omega) (by rw [h.line]; omega)
  simp only [Position.advance?, Position.advance, hoff, hpass, Option.bind_eq_bind, Option.bind_some,
    List.contains_eq_mem]
  by_cases hmem : '\n' ∈ cs
  · have hlast := length_lastLine_le cs
    rw [if_pos (decide_eq_true hmem), if_pos (decide_eq_true hmem), charCount?_eq (by omega)]
    rfl
  · have hlast := length_lastLine_le before
    have hlen := length_le_byteSize cs
    have hsum : p.columnWord.toNat + (charCount cs).toNat < UInt32.size := by
      have hcolumn : p.columnWord.toNat = (lastLine before).length := h.column
      rw [hcolumn, toNat_charCount (by omega)]; omega
    have hword : addWord? p.columnWord (charCount cs) = some (p.columnWord + charCount cs) :=
      if_pos hsum
    rw [if_neg (by simpa using hmem), if_neg (by simpa using hmem), charCount?_eq (by omega),
      Option.bind_some, hword]
    rfl

end

end Position

/-! ## Sessions over one input -/

/-- A position has the line, the start of the line and the column of its offset. -/
structure Position.Exact (input : String) (p : Position) : Prop where
  line : p.line = lineAt input p.offset
  lineStart : p.lineStart = lineStartAt input p.offset
  column : p.column = columnAt input p.offset

/-- Both ends of a location have the line and the column of their offsets. -/
structure Location.Exact (input : String) (l : Location) : Prop where
  startLine : l.startLine = lineAt input l.startOffset
  startColumn : l.startColumn = columnAt input l.startOffset
  endLine : l.endLine = lineAt input l.endOffset
  endColumn : l.endColumn = columnAt input l.endOffset

/-- A token has no location, or an exact one. -/
def Token.Exact (input : String) (k : Token) : Prop := ∀ l, k.loc = some l → l.Exact input

theorem Position.Counts.exact {p : Position} {input : String} {before rest : List Char}
    (h : p.Counts before) (htext : input.toList = before ++ rest) : p.Exact input := by
  have hstart := lineStartAt_byteSize htext
  refine ⟨?_, ?_, ?_⟩ <;> rw [h.offset]
  · rw [h.line, lineAt_byteSize htext]
  · have := h.lineStart
    omega
  · rw [h.column, columnAt_byteSize htext]

theorem Position.Exact.span {p q : Position} {input : String} (hp : p.Exact input)
    (hq : q.Exact input) : (p.span q).Exact input := ⟨hp.line, hp.column, hq.line, hq.column⟩

namespace Tokenizer

/-- A tokenizer has counted what it has passed of an input, and keeps only tokens with exact
    locations. -/
structure Tracks (input : String) (t : Tokenizer) : Prop where
  bound : t.input = input
  counts : ∃ before, input.toList = before ++ t.rest ∧ t.position.Counts before
  drained : ∀ ks, t.drained = some ks → ∀ k ∈ ks, k.Exact input

variable {input : String} {t t' : Tokenizer} {k : Token}

theorem reset_tracks (h : t.input = input) : t.reset.Tracks input :=
  ⟨h, ⟨[], by rw [← h]; rfl, Position.counts_start⟩, by simp [reset]⟩

section
variable (hsize : input.utf8ByteSize < UInt32.size - 1)
include hsize

/-- What a step takes is counted exactly, and without leaving a word. -/
theorem Tracks.token (h : t.Tracks input) (hn : t.next = (.ok (some k), t')) :
    t'.Tracks input ∧ k.Exact input ∧
      ∃ matched, t.rest = matched ++ t'.rest ∧ t.position.advance? matched = some t'.position := by
  cases step_of_next hn with
  | @accept index handler matched rest emit failed finished first nonempty emits =>
    obtain ⟨before, htext, hcounts⟩ := h.counts
    have happ := firstMatch?_append first
    have htext' : input.toList = (before ++ matched) ++ rest := by
      rw [htext, ← happ, List.append_assoc]
    have hbound : byteSize before + byteSize matched < UInt32.size - 1 := by
      have := congrArg byteSize htext'
      rw [byteSize_toList, Text.byteSize_append, Text.byteSize_append] at this
      omega
    have hnext := hcounts.advance hbound
    refine ⟨⟨h.bound, ⟨_, htext', hnext⟩, h.drained⟩, fun l hl => ?_, matched, happ.symm,
      hcounts.advance? hbound⟩
    simp only [tokenOf] at hl
    split_ifs at hl
    cases hl
    exact (hcounts.exact htext).span (hnext.exact htext')

theorem Tracks.next (h : t.Tracks input) : t.next.2.Tracks input := by
  rcases hn : t.next with ⟨e | _ | k, t'⟩
  · cases step_of_next hn with
    | again => exact h
    | fail => exact ⟨h.bound, h.counts, h.drained⟩
  · cases step_of_next hn with
    | stop => exact ⟨h.bound, h.counts, h.drained⟩
  · exact (Tracks.token hsize h hn).1

theorem Tracks.perform (op : Op) (hop : op.rebinds = false) (h : t.Tracks input) :
    (∀ k ∈ (t.perform op).1.tokens, k.Exact input) ∧ (t.perform op).2.Tracks input := by
  have hnext : ∀ t : Tokenizer, t.Tracks input → t.next.2.Tracks input := fun _ => Tracks.next hsize
  have htoken : ∀ (t : Tokenizer) k t', t.Tracks input → t.next = (.ok (some k), t') →
      k.Exact input := fun _ _ _ ht hn => (Tracks.token hsize ht hn).2.1
  refine ⟨perform_tokens op hnext htoken (fun _ => h.drained) h, ?_⟩
  refine perform_state op hnext (fun t ks ht hd => ?_)
    (fun _ _ ht => ⟨ht.bound, ht.counts, ht.drained⟩) (fun _ => reset_tracks h.bound)
    (fun _ _ he => by rw [he] at hop; cases hop) h
  have hw := drain_state hnext t ht
  refine ⟨hw.bound, hw.counts, ?_⟩
  rintro _ ⟨⟩
  exact drain_tokens hnext htoken t ht ks hd

theorem Tracks.session (ops : List Op) (hops : ∀ op ∈ ops, op.rebinds = false) (h : t.Tracks input) :
    (∀ a ∈ (t.session ops).1, ∀ k ∈ a.tokens, k.Exact input) ∧ (t.session ops).2.Tracks input :=
  session_induction (P := Tracks input) (A := fun a => ∀ k ∈ a.tokens, k.Exact input)
    (Q := fun op => op.rebinds = false) (fun _ op hop ht => Tracks.perform hsize op hop ht) ops t hops h

end

/-- **Lines and columns are exact.**  Over an input shorter than the greatest word, in every session
    that stays with it: the position counts the lines and columns of its offset, so does every
    location of a token that is handed out, and no step makes a sum that leaves its word. -/
theorem session_exact (t : Tokenizer) (input : String) (o : Option Options)
    (hsize : input.utf8ByteSize < UInt32.size - 1) (ops : List Op)
    (hops : ∀ op ∈ ops, op.rebinds = false) :
    ((t.init input o).session ops).2.position.Exact input ∧
      (∀ a ∈ ((t.init input o).session ops).1, ∀ k ∈ a.tokens, k.Exact input) ∧
      ∀ k t', ((t.init input o).session ops).2.next = (.ok (some k), t') →
        ∃ matched, ((t.init input o).session ops).2.rest = matched ++ t'.rest ∧
          ((t.init input o).session ops).2.position.advance? matched = some t'.position := by
  obtain ⟨hanswers, htracks⟩ := Tracks.session hsize ops hops (t := t.init input o) (reset_tracks rfl)
  obtain ⟨before, htext, hcounts⟩ := htracks.counts
  exact ⟨hcounts.exact htext, hanswers, fun k t' hn => (Tracks.token hsize htracks hn).2.2⟩

theorem session_exact_words :
    "aé\nb".utf8ByteSize < UInt32.size - 1 ∧
      (∀ op ∈ [Op.next, .all, .reset, .setOptions (.withLocations true), .pull 2, .next],
        op.rebinds = false) ∧
      (((ofSpec wordSpec).init "aé\nb" none).session
        [.next, .all, .reset, .setOptions (.withLocations true), .pull 2, .next]).2.position.Exact
          "aé\nb" ∧
      ∀ a ∈ (((ofSpec wordSpec).init "aé\nb" none).session
        [.next, .all, .reset, .setOptions (.withLocations true), .pull 2, .next]).1,
        ∀ k ∈ a.tokens, k.Exact "aé\nb" := by
  have hsize : "aé\nb".utf8ByteSize < UInt32.size - 1 := by decide
  have hops : ∀ op ∈ [Op.next, .all, .reset, .setOptions (.withLocations true), .pull 2, .next],
      op.rebinds = false := by simp [Op.rebinds]
  have h := session_exact (ofSpec wordSpec) "aé\nb" none hsize _ hops
  exact ⟨hsize, hops, h.1, h.2.1⟩

end Tokenizer

end OrderedLexer
