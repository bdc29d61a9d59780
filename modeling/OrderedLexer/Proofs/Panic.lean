/-
  Which calls panic.

  A call that gives a token or finds the end returns.  One that fails makes an error, and that panics
  just if the column of the error is too great to be padded to:

  * `next?_of_le`: in a column that is not too great, what a step gives is returned;
  * `Tracks.next?_of_fail`: behind what was counted, a call that fails in any other column panics;
  * `Tracks.production?_of_fits`, `Tracks.production?_of_not_fits`: repeated calls produce what
    repeated steps produce, or panic at the error behind it.

  Every column can be reached: `behindLetters` is a run over any number of letters, each of them a
  token, up to a sign that is none (`position_behindLetters`).  Behind too many, the next call panics
  (`next?_behindLetters`).
-/
import OrderedLexer.Proofs.Diagnostic
import OrderedLexer.Proofs.QuotedPattern

namespace OrderedLexer

/-- An error in a column that is not too great can be made, whatever the input is. -/
theorem LexError.panics_at_of_le {input : String} {p : Position} {cause : LexCause}
    (h : p.column ≤ maxWidth) : (at_ input p cause).panics = false := by
  have hpadding : padding? p.column = some (List.replicate p.column ' ') := if_pos h
  simp only [panics, at_, render?, hpadding]
  cases sourceLine? input p.line <;> rfl

/-- The caret below the error of a production can be put in its place. -/
def Production.Fits (p : Production) : Prop := ∀ e, p.error = some e → e.column ≤ LexError.maxWidth

namespace Tokenizer

variable {t : Tokenizer} {input : String}

/-! ## Single calls -/

/-- In a column that is not too great, what a step gives is returned. -/
theorem next?_of_le (hfailed : t.failed = none) (h : t.position.column ≤ LexError.maxWidth) :
    t.next? = some t.next := by
  rcases hn : t.next with ⟨e | _ | k, t'⟩
  · rw [next?_of_error hn]
    cases step_of_next hn with
    | again failed =>
      rw [hfailed] at failed
      cases failed
    | fail => rw [LexError.panics_at_of_le h, if_neg Bool.false_ne_true]
  · exact next?_of_end hn
  · exact next?_of_token hn

/-- Behind what was counted, a call that fails panics just if the column is too great. -/
theorem Tracks.next?_of_fail (h : t.Tracks input) {cause : LexCause} (hn : t.next = t.fail cause) :
    t.next? = if LexError.maxWidth < t.position.column then none else some (t.fail cause) := by
  obtain ⟨passed, htext, hcounts⟩ := h.counts
  have hpanics := (hcounts.points htext cause).panics_iff
  rw [← h.bound] at hpanics
  rw [next?_of_error hn]
  exact if_congr hpanics rfl rfl

/-! ## Repeated calls -/

section
variable (hsize : input.utf8ByteSize < UInt32.size - 1) (h : t.Tracks input) (hhere : t.FailsHere)
include hsize h hhere

/-- The error behind what is produced panics just if its column is too great. -/
theorem Tracks.panics_iff :
    t.production.error.any LexError.panics = true ↔ ¬t.production.Fits := by
  have hpoints : ∀ e, t.production.error = some e → e.Points input := fun e =>
    h.production_points hsize hhere
  rcases he : t.production.error with _ | e
  · simp [Production.Fits, he]
  · rw [Option.any_some, (hpoints e he).panics_iff]
    simp [Production.Fits, he]

theorem Tracks.production?_of_fits (hfits : t.production.Fits) :
    t.production? = some t.production := by
  rw [production?_eq, if_neg]
  rwa [h.panics_iff hsize hhere, not_not]

theorem Tracks.production?_of_not_fits (hfits : ¬t.production.Fits) : t.production? = none := by
  rw [production?_eq, if_pos]
  rwa [h.panics_iff hsize hhere]

end

/-! ## Columns that are too great -/

/-- Letters `a`, each of them a token. -/
def letterDraft : Draft := .record [⟨"a", .label "LETTER"⟩] {}

/-- The spec of `letterDraft`. -/
def letterSpec : Spec := (Spec.normalize letterDraft).toOption.getD ⟨[], {}⟩

theorem exists_letterSpec :
    ∃ re : Regex, letterSpec.rules = [⟨re, .label "LETTER"⟩] ∧ re.Verbatim ['a'] := by
  have hpattern : String.ofList (Regex.escapeText ['a']) = "a" := rfl
  have hcompile := Regex.compile_escapeText ['a']
  rw [if_pos (by decide)] at hcompile
  have hnormalize := SpecFile.normalize_escapeText ['a'] (.label "LETTER")
  rw [hcompile] at hnormalize
  refine ⟨_, ?_, Regex.verbatim_of_compile hcompile⟩
  rw [letterSpec, letterDraft, ← hpattern, hnormalize]
  rfl

theorem firstMatch?_letter (r : List Char) :
    firstMatch? 0 letterSpec.rules ('a' :: r) = some (0, .label "LETTER", ['a'], r) := by
  obtain ⟨re, hrules, hre⟩ := exists_letterSpec
  rw [hrules, firstMatch?, (hre.split?_iff ('a' :: r) ['a'] r).2 ⟨rfl, rfl⟩]

theorem firstMatch?_of_not_letter {c : Char} (hc : c ≠ 'a') (r : List Char) :
    firstMatch? 0 letterSpec.rules (c :: r) = none := by
  obtain ⟨re, hrules, hre⟩ := exists_letterSpec
  rcases hs : re.split? (c :: r) with _ | ⟨m, rest⟩
  · rw [hrules, firstMatch?, hs]
    rfl
  · obtain ⟨-, htext⟩ := (hre.split?_iff (c :: r) m rest).1 hs
    exact absurd (List.head_eq_of_cons_eq htext) hc

/-- A run over letters, with some of them left before another text. -/
structure AtLetters (t : Tokenizer) (n : Nat) (r : List Char) : Prop where
  spec : t.spec = letterSpec
  failed : t.failed = none
  finished : t.finished = false
  rest : t.rest = List.replicate n 'a' ++ r

variable {n : Nat} {r : List Char}

theorem AtLetters.next (h : t.AtLetters (n + 1) r) :
    ∃ k t', t.next = (.ok (some k), t') ∧ t'.AtLetters n r := by
  have hout : t.outcome = .accept (.type "LETTER") ['a'] (List.replicate n 'a' ++ r) := by
    rw [outcome, h.spec, h.failed, h.finished, h.rest, List.replicate_succ, List.cons_append]
    simp only [Outcome.of, firstMatch?_letter]
    rfl
  refine ⟨_, _, (next_eq_carryOut t).trans (by rw [hout]; rfl), ?_⟩
  exact ⟨h.spec, h.failed, h.finished, rfl⟩

/-- Steps take all letters. -/
theorem AtLetters.session (h : t.AtLetters n r) :
    (∀ a ∈ (t.session (List.replicate n .next)).1, ∃ k, a = .next (.ok (some k))) ∧
      (t.session (List.replicate n .next)).2.AtLetters 0 r := by
  induction n generalizing t with
  | zero => exact ⟨by simp [Tokenizer.session], h⟩
  | succ n ih =>
    obtain ⟨k, t', hn, ht'⟩ := h.next
    obtain ⟨hanswers, hend⟩ := ih ht'
    rw [List.replicate_succ, Tokenizer.session, perform, hn]
    exact ⟨List.forall_mem_cons.2 ⟨⟨k, rfl⟩, hanswers⟩, hend⟩

/-- Behind the letters, a step fails at any other character. -/
theorem AtLetters.next_fail {c : Char} (h : t.AtLetters 0 (c :: r)) (hc : c ≠ 'a') :
    t.next = t.fail (.unexpectedToken c.toString none) := by
  have hout : t.outcome = .fail (.unexpectedToken c.toString none) := by
    rw [outcome, h.spec, h.failed, h.finished, h.rest, List.replicate_zero, List.nil_append]
    simp only [Outcome.of, firstMatch?_of_not_letter hc]
    rfl
  rw [next_eq_carryOut, hout]
  rfl

/-- A row of letters. -/
def letters (n : Nat) : String := String.ofList (List.replicate n 'a')

theorem utf8ByteSize_letters (n : Nat) : (letters n).utf8ByteSize = n := by
  rw [← byteSize_toList, letters, String.toList_ofList, SpecFile.byteSize_replicate]
  exact Nat.mul_one n

/-- A run that has taken a row of letters, up to the sign behind them. -/
def behindLetters (n : Nat) : Tokenizer :=
  (((ofSpec letterSpec).init (letters n ++ "!") none).session (List.replicate n .next)).2

theorem atLetters_behindLetters (n : Nat) :
    (∀ a ∈ (((ofSpec letterSpec).init (letters n ++ "!") none).session
      (List.replicate n .next)).1, ∃ k, a = .next (.ok (some k))) ∧
      (behindLetters n).AtLetters 0 ['!'] := by
  refine AtLetters.session ⟨rfl, rfl, rfl, ?_⟩
  show (letters n ++ "!").toList = _
  rw [String.toList_append, letters, String.toList_ofList]
  rfl

section
variable (hn : n + 1 < UInt32.size - 1)
include hn

theorem utf8ByteSize_letters_append : (letters n ++ "!").utf8ByteSize < UInt32.size - 1 := by
  rw [String.utf8ByteSize_append, utf8ByteSize_letters]
  exact hn

theorem tracks_behindLetters : (behindLetters n).Tracks (letters n ++ "!") :=
  (Tracks.session (utf8ByteSize_letters_append hn) (List.replicate n .next)
    (fun op hop => by rw [List.eq_of_mem_replicate hop]; rfl) (reset_tracks rfl)).2

/-- The position stands behind the letters. -/
theorem position_behindLetters :
    (behindLetters n).position.offset = n ∧ (behindLetters n).position.column = n := by
  obtain ⟨passed, htext, hcounts⟩ := (tracks_behindLetters hn).counts
  rw [(atLetters_behindLetters n).2.rest, String.toList_append] at htext
  obtain rfl : (letters n).toList = passed := List.append_cancel_right htext
  refine ⟨?_, ?_⟩
  · rw [hcounts.offset, byteSize_toList, utf8ByteSize_letters]
  · rw [hcounts.column, letters, String.toList_ofList,
      lastLine_of_notMem (by simp [List.mem_replicate]), List.length_replicate]

/-- Behind too many letters, a call panics. -/
theorem next?_behindLetters (hwide : LexError.maxWidth < n) : (behindLetters n).next? = none := by
  have hfail := (atLetters_behindLetters n).2.next_fail (by decide)
  rw [(tracks_behindLetters hn).next?_of_fail hfail, (position_behindLetters hn).2, if_pos hwide]

end

end Tokenizer

end OrderedLexer
