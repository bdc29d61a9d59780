/-
  What is left of an input is tokenized as an input of its own.

  If the position stands behind the first part `u` of an input, what is still produced is the
  production of the second part, moved behind `u` (`Production.Shifts`): offsets grow by the bytes of
  `u`, lines by its newlines, and columns on the first line by the characters behind its last
  newline.

  The two tokenizers stay `Behind` one another: they have the same text left, and have counted the
  same characters apart from `u`.

  An error may be moved too far to the right to be made (`Production.FitsBehind`).  Then the calls for
  what is left give the same tokens and panic, although the second part alone ends in an error
  (`production_suffix_wide`).
-/
import OrderedLexer.Proofs.Panic

namespace OrderedLexer

open Text (byteSize lastLine)

/-! ## Moving positions behind a text -/

/-- The column of a place when a text is put before the first line. -/
def shiftColumn (u : List Char) (line column : Nat) : Nat :=
  if line = 1 then (lastLine u).length + column else column

/-- A location when a text is put before. -/
def Location.shift (u : List Char) (l : Location) : Location where
  startOffset := byteSize u + l.startOffset
  endOffset := byteSize u + l.endOffset
  startLine := u.count '\n' + l.startLine
  endLine := u.count '\n' + l.endLine
  startColumn := shiftColumn u l.startLine l.startColumn
  endColumn := shiftColumn u l.endLine l.endColumn

/-- A token when a text is put before. -/
def Token.shift (u : List Char) (k : Token) : Token := { k with loc := k.loc.map (Location.shift u) }

/-- Two errors have the same cause, the first one where the second one moves when a text is put
    before. -/
structure LexError.Shifts (u : List Char) (e e' : LexError) : Prop where
  cause : e.cause = e'.cause
  offset : e.offset = byteSize u + e'.offset
  line : e.line = u.count '\n' + e'.line
  column : e.column = shiftColumn u e'.line e'.column

/-- Two productions are the same, the first one moved behind a text. -/
structure Production.Shifts (u : List Char) (p p' : Production) : Prop where
  tokens : p.tokens = p'.tokens.map (Token.shift u)
  error : Option.Rel (LexError.Shifts u) p.error p'.error

/-- The error of a production can be made when a text is put before. -/
def Production.FitsBehind (u : List Char) (p : Production) : Prop :=
  ∀ e, p.error = some e → shiftColumn u e.line e.column ≤ LexError.maxWidth

theorem le_shiftColumn (u : List Char) (line column : Nat) : column ≤ shiftColumn u line column := by
  unfold shiftColumn
  split
  · exact Nat.le_add_left ..
  · exact le_rfl

/-- An error that can be made behind a text can be made without it. -/
theorem Production.FitsBehind.fits {u : List Char} {p : Production} (h : p.FitsBehind u) : p.Fits :=
  fun e he => (le_shiftColumn u e.line e.column).trans (h e he)

theorem Production.Shifts.fits_iff {u : List Char} {p p' : Production} (h : p.Shifts u p') :
    p.Fits ↔ p'.FitsBehind u := by
  obtain ⟨tokens, error⟩ := p
  obtain ⟨tokens', error'⟩ := p'
  obtain ⟨-, herror⟩ := h
  cases herror with
  | none => simp [Production.Fits, Production.FitsBehind]
  | some he => simp [Production.Fits, Production.FitsBehind, he.column]

namespace Position

variable {p p' q q' : Position} {u before : List Char}

/-- A position is another one, moved behind a text. -/
structure Shifts (u : List Char) (p p' : Position) : Prop where
  offset : p.offset = byteSize u + p'.offset
  line : p.line = u.count '\n' + p'.line
  column : p.column = shiftColumn u p'.line p'.column

theorem Counts.shifts (h : p.Counts (u ++ before)) (h' : p'.Counts before) : p.Shifts u p' := by
  refine ⟨?_, ?_, ?_⟩
  · rw [h.offset, h'.offset, Text.byteSize_append]
  · rw [h.line, h'.line, List.count_append]
    omega
  · rw [h.column, h'.column, h'.line, shiftColumn, lastLine_append]
    by_cases hmem : '\n' ∈ before
    · have := List.count_pos_iff.2 hmem
      rw [if_pos hmem, if_neg (by omega)]
    · rw [if_neg hmem, List.count_eq_zero_of_not_mem hmem, if_pos rfl, lastLine_of_notMem hmem,
        List.length_append]

theorem Shifts.span (hp : p.Shifts u p') (hq : q.Shifts u q') :
    p.span q = (p'.span q').shift u := by
  simp only [Position.span, Location.shift, hp.offset, hp.line, hp.column, hq.offset, hq.line,
    hq.column]

end Position

/-! ## Two runs over one text -/

/-- Whether an answer is that of a step without an error. -/
def Answer.succeeds : Answer → Bool
  | .next (.ok _) => true
  | _ => false

/-- Behind the end it makes no difference whether the end was reported. -/
theorem Outcome.of_finished {rules : List Rule} {rest : List Char} {finished : Bool}
    (h : finished = true → rest = []) : of rules rest finished none = of rules rest false none := by
  cases finished with
  | false => rfl
  | true => rw [h rfl]; rfl

namespace Tokenizer

variable {t t' : Tokenizer} {u : List Char}

/-- Two tokenizers have the same text left, and have counted the same, apart from a text that only
    the first one has passed. -/
structure Behind (u : List Char) (t t' : Tokenizer) : Prop where
  spec : t.spec = t'.spec
  options : t.options = t'.options
  rest : t.rest = t'.rest
  finished : (t.finished = true → t.rest = []) ∧ (t'.finished = true → t'.rest = [])
  failed : t.failed = none ∧ t'.failed = none
  counts : ∃ before, t.position.Counts (u ++ before) ∧ t'.position.Counts before ∧
    byteSize (u ++ before) + byteSize t.rest < UInt32.size - 1

theorem Behind.outcome (h : Behind u t t') : t.outcome = t'.outcome := by
  rw [Tokenizer.outcome, Tokenizer.outcome, h.failed.1, h.failed.2, Outcome.of_finished h.finished.1,
    Outcome.of_finished h.finished.2, h.spec, h.rest]

theorem Behind.position (h : Behind u t t') : t.position.Shifts u t'.position := by
  obtain ⟨before, hcounts, hcounts', -⟩ := h.counts
  exact hcounts.shifts hcounts'

/-- A step of both tokenizers. -/
theorem Behind.accept (h : Behind u t t') (emit : Emit) {matched rest : List Char}
    (hrest : matched ++ rest = t.rest) :
    Behind u (t.accept emit matched rest).2 (t'.accept emit matched rest).2 := by
  obtain ⟨before, hcounts, hcounts', hsize⟩ := h.counts
  have hbytes := congrArg byteSize hrest
  simp only [Text.byteSize_append] at hbytes hsize
  have hend : t.rest = [] → rest = [] := fun he => (List.append_eq_nil_iff.1 (hrest.trans he)).2
  refine ⟨h.spec, h.options, rfl, ⟨fun hf => hend (h.finished.1 hf),
    fun hf => hend (h.rest ▸ h.finished.2 hf)⟩, h.failed, before ++ matched, ?_, ?_, ?_⟩
  · rw [← List.append_assoc]
    exact hcounts.advance (by rw [Text.byteSize_append]; omega)
  · exact hcounts'.advance (by omega)
  · simp only [Tokenizer.accept, Text.byteSize_append]
    omega

theorem Behind.tokenOf (h : Behind u t t') (emit : Emit) {matched rest : List Char}
    (hrest : matched ++ rest = t.rest) :
    t.tokenOf emit matched = (t'.tokenOf emit matched).shift u := by
  have hspan := h.position.span (h.accept emit hrest).position
  simp only [Tokenizer.tokenOf, Token.shift, h.options]
  split
  · exact congrArg _ (congrArg some hspan)
  · rfl

theorem Behind.production (h : Behind u t t') :
    Production.Shifts u t.production t'.production := by
  induction t using next_induction generalizing t' with
  | step t ih =>
    have hn := next_eq_carryOut t
    have hn' := next_eq_carryOut t'
    rw [← h.outcome] at hn'
    cases ho : t.outcome with
    | again e =>
      -- neither run has failed before
      have := Outcome.failed_of_again ho
      rw [h.failed.1] at this
      cases this
    | stop =>
      rw [ho] at hn hn'
      rw [production_of_end hn, production_of_end hn']
      exact ⟨rfl, .none⟩
    | fail cause =>
      rw [ho] at hn hn'
      rw [production_of_error hn, production_of_error hn']
      exact ⟨rfl, .some ⟨rfl, h.position.offset, h.position.line, h.position.column⟩⟩
    | accept emit matched rest =>
      rw [ho] at hn hn'
      have hrest := Outcome.append_of_accept ho
      obtain ⟨htokens, herror⟩ := ih _ _ hn (h.accept emit hrest)
      rw [production_of_token hn, production_of_token hn']
      exact ⟨congrArg₂ List.cons (h.tokenOf emit hrest) htokens, herror⟩

/-! ## The rest of an input -/

/-- A text is cut in one way at an offset. -/
theorem append_inj_of_byteSize {a b c d : List Char} (h : a ++ b = c ++ d)
    (hsize : byteSize a = byteSize c) : a = c ∧ b = d := by
  have hnil (cs : List Char) (hcs : byteSize cs = 0) : cs = [] := by
    by_contra hne
    have := byteSize_pos hne
    omega
  rcases List.append_eq_append_iff.1 h with ⟨cs, rfl, rfl⟩ | ⟨cs, rfl, rfl⟩ <;>
    rw [Text.byteSize_append] at hsize <;> obtain rfl := hnil cs (by omega) <;> simp

theorem failed_of_succeeds (hf : t.failed = none) (h : (Answer.next t.next.1).succeeds = true) :
    t.next.2.failed = none := by
  rcases hn : t.next with ⟨e | _ | k, t'⟩
  · rw [hn] at h
    cases h
  · exact (finished_of_next hn).1
  · cases step_of_next hn with
    | accept => exact hf

/-- Steps without an error leave a run that did not fail. -/
theorem failed_of_session (n : Nat) (t : Tokenizer) (hf : t.failed = none)
    (h : ∀ a ∈ (t.session (List.replicate n .next)).1, a.succeeds = true) :
    (t.session (List.replicate n .next)).2.failed = none := by
  induction n generalizing t with
  | zero => exact hf
  | succ n ih =>
    obtain ⟨hhead, htail⟩ := List.forall_mem_cons.1 h
    exact ih t.next.2 (failed_of_succeeds hf hhead) htail

/-- Steps change neither the spec nor the options. -/
theorem session_next_frame (n : Nat) (t : Tokenizer) :
    (t.session (List.replicate n .next)).2.spec = t.spec ∧
      (t.session (List.replicate n .next)).2.options = t.options := by
  induction n generalizing t with
  | zero => exact ⟨rfl, rfl⟩
  | succ n ih =>
    obtain ⟨hspec, hoptions⟩ := ih t.next.2
    obtain ⟨hspec', hoptions', -⟩ := next_frame t
    exact ⟨hspec.trans hspec', hoptions.trans hoptions'⟩

/-- What is left of a run is what another run produces, moved behind a text. -/
structure Resumes (u : List Char) (t t' : Tokenizer) : Prop where
  /-- It gives the same tokens. -/
  tokens : t.production.tokens = t'.production.tokens.map (Token.shift u)
  /-- If the error behind them can be made, calls for both return, and agree to the end. -/
  returns : t'.production.FitsBehind u →
    ∃ p p', t.production? = some p ∧ t'.production? = some p' ∧ p.Shifts u p'
  /-- If not, the calls for what is left panic behind the tokens. -/
  panics : ¬t'.production.FitsBehind u → t.production? = none

theorem Behind.resumes {input input' : String} (h : Behind u t t')
    (hsize : input.utf8ByteSize < UInt32.size - 1) (htracks : t.Tracks input)
    (hsize' : input'.utf8ByteSize < UInt32.size - 1) (htracks' : t'.Tracks input') :
    Resumes u t t' := by
  have hshifts := h.production
  have hhere : t.FailsHere := failsHere_of_failed h.failed.1
  have hhere' : t'.FailsHere := failsHere_of_failed h.failed.2
  refine ⟨hshifts.tokens, fun hfits => ?_, fun hfits => ?_⟩
  · exact ⟨_, _, htracks.production?_of_fits hsize hhere (hshifts.fits_iff.2 hfits),
      htracks'.production?_of_fits hsize' hhere' hfits.fits, hshifts⟩
  · exact htracks.production?_of_not_fits hsize hhere (mt hshifts.fits_iff.1 hfits)

/-- **The suffix law.**  If steps without an error over an input shorter than the greatest word have
    passed exactly its first part `u`, what is left to be produced is what the second part produces
    as an input of its own, moved behind `u`, unless its error is moved too far to be made. -/
theorem production_suffix (t : Tokenizer) (u v : String) (o : Option Options) (n : Nat)
    (hsize : (u ++ v).utf8ByteSize < UInt32.size - 1)
    (hsteps : ∀ a ∈ ((t.init (u ++ v) o).session (List.replicate n .next)).1, a.succeeds = true)
    (hcut : ((t.init (u ++ v) o).session (List.replicate n .next)).2.position.offset =
      u.utf8ByteSize) :
    Resumes u.toList ((t.init (u ++ v) o).session (List.replicate n .next)).2 (t.init v o) := by
  have htracks := (Tracks.session hsize (List.replicate n .next)
    (fun op hop => by rw [List.eq_of_mem_replicate hop]; rfl) (t := t.init (u ++ v) o)
    (reset_tracks rfl)).2
  have hwell := session_wellFormed (List.replicate n .next) (init_wellFormed t (u ++ v) o)
  have hfailed := failed_of_session n (t.init (u ++ v) o) rfl hsteps
  obtain ⟨hspec, hoptions⟩ := session_next_frame n (t.init (u ++ v) o)
  obtain ⟨before, htext, hcounts⟩ := htracks.counts
  rw [String.toList_append] at htext
  obtain ⟨rfl, hrest⟩ := append_inj_of_byteSize htext
    (by rw [byteSize_toList, ← hcut, hcounts.offset])
  have hsize' := hsize
  rw [String.utf8ByteSize_append] at hsize'
  refine Behind.resumes ⟨?_, ?_, hrest.symm, ⟨hwell.finished, fun h => by cases h⟩, ⟨hfailed, rfl⟩,
    [], by rwa [List.append_nil], Position.counts_start, ?_⟩ hsize htracks
    (Nat.lt_of_le_of_lt (Nat.le_add_left ..) hsize') (reset_tracks rfl)
  · rw [hspec]
    cases o <;> rfl
  · rw [hoptions]
    cases o <;> rfl
  · rwa [List.append_nil, ← hrest, byteSize_toList, byteSize_toList]

-- The cut is behind a letter, so the newline that follows moves to the right, and the error on the
-- line behind it does not.
theorem production_suffix_words :
    ("a\né" ++ "\nb?").utf8ByteSize < UInt32.size - 1 ∧
      (∀ a ∈ (((ofSpec wordSpec).init ("a\né" ++ "\nb?") (some (.withLocations true))).session
        (List.replicate 3 .next)).1, a.succeeds = true) ∧
      (((ofSpec wordSpec).init ("a\né" ++ "\nb?") (some (.withLocations true))).session
        (List.replicate 3 .next)).2.position.offset = "a\né".utf8ByteSize ∧
      Resumes "a\né".toList
        (((ofSpec wordSpec).init ("a\né" ++ "\nb?") (some (.withLocations true))).session
          (List.replicate 3 .next)).2
        ((ofSpec wordSpec).init "\nb?" (some (.withLocations true))) := by
  have hsize : ("a\né" ++ "\nb?").utf8ByteSize < UInt32.size - 1 := by decide
  have hsteps : ∀ a ∈ (((ofSpec wordSpec).init ("a\né" ++ "\nb?")
      (some (.withLocations true))).session (List.replicate 3 .next)).1, a.succeeds = true := by
    decide +kernel
  have hcut : (((ofSpec wordSpec).init ("a\né" ++ "\nb?") (some (.withLocations true))).session
      (List.replicate 3 .next)).2.position.offset = "a\né".utf8ByteSize := by decide +kernel
  exact ⟨hsize, hsteps, hcut, production_suffix _ _ _ _ 3 hsize hsteps hcut⟩

/-- Behind too many letters, a sign ends in a panic; alone, it ends in an error. -/
theorem production?_behindLetters {n : Nat} (hn : n + 1 < UInt32.size - 1)
    (hwide : LexError.maxWidth < n) :
    let t := (ofSpec letterSpec).init (letters n ++ "!") none
    (letters n ++ "!").utf8ByteSize < UInt32.size - 1 ∧
      (∀ a ∈ (t.session (List.replicate n .next)).1, a.succeeds = true) ∧
      (t.session (List.replicate n .next)).2.position.offset = (letters n).utf8ByteSize ∧
      (∃ e, ((ofSpec letterSpec).init "!" none).production? = some ⟨[], some e⟩) ∧
      (t.session (List.replicate n .next)).2.production? = none := by
  intro t
  refine ⟨utf8ByteSize_letters_append hn, ?_, ?_, ?_, ?_⟩
  · intro a ha
    obtain ⟨k, rfl⟩ := (atLetters_behindLetters n).1 a ha
    rfl
  · exact (position_behindLetters hn).1.trans (utf8ByteSize_letters n).symm
  · have hat : ((ofSpec letterSpec).init "!" none).AtLetters 0 ['!'] := ⟨rfl, rfl, rfl, rfl⟩
    rw [production?_of_error (hat.next_fail (by decide)), LexError.panics_at_of_le (Nat.zero_le _),
      if_neg Bool.false_ne_true]
    exact ⟨_, rfl⟩
  · exact production?_of_panic (next?_behindLetters hn hwide)

theorem production_suffix_wide :
    let t := (ofSpec letterSpec).init (letters 65536 ++ "!") none
    (letters 65536 ++ "!").utf8ByteSize < UInt32.size - 1 ∧
      (∀ a ∈ (t.session (List.replicate 65536 .next)).1, a.succeeds = true) ∧
      (t.session (List.replicate 65536 .next)).2.position.offset = (letters 65536).utf8ByteSize ∧
      (∃ e, ((ofSpec letterSpec).init "!" none).production? = some ⟨[], some e⟩) ∧
      (t.session (List.replicate 65536 .next)).2.production? = none :=
  production?_behindLetters (by decide) (by decide)

end Tokenizer

end OrderedLexer
