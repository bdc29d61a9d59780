/-
  Diagnostics point at the failure.

  A diagnostic shows the line of the input that an error names by its number, and a caret below it, as
  far to the right as the column of the error.  The number and the column were counted along the run;
  the line is found by cutting the input at its newlines.

  * `IsLineAt` says which line of an input holds an offset, and `getElem?_splitLines` that cutting the
    input finds it at the number of the newlines before it;
  * an error that a tokenizer records was made for its input and its position (`FailsHere`), and a
    position that has counted what stands before it makes the diagnostic right (`Counts.points`);
  * an error panics just if its column is too great to be padded to (`Points.panics_iff`).

  `session_points`: in every session over one input, the diagnostic of every error that is reported
  shows the line that holds the offset of the error, with the caret below the character there.
-/
import Mathlib.Data.List.TakeWhile
import OrderedLexer.Proofs.Location

namespace OrderedLexer

open Text (byteSize dropReturn lastLine splitLines)

/-! ## The line that holds an offset -/

/-- A line of an input that holds an offset, and the text before and behind it.  A newline belongs to
    the line that it ends. -/
structure IsLineAt (input : String) (offset : Nat) (before line behind : List Char) : Prop where
  text : input.toList = before ++ (line ++ behind)
  /-- It is one line, -/
  single : '\n' ∉ line
  /-- and a whole one. -/
  start : before = [] ∨ before.getLast? = some '\n'
  stop : behind = [] ∨ behind.head? = some '\n'
  /-- The offset lies in it, or at its newline. -/
  le_offset : byteSize before ≤ offset
  offset_le : offset ≤ byteSize before + byteSize line

theorem Text.splitLines_of_notMem {cs : List Char} (h : '\n' ∉ cs) : splitLines cs = [cs] :=
  List.splitOn_eq_singleton h

namespace IsLineAt

variable {input : String} {offset : Nat} {before line behind : List Char}

/-- Cutting an input finds a line at the number of the newlines before it. -/
theorem getElem?_splitLines (h : IsLineAt input offset before line behind) :
    (splitLines input.toList)[before.count '\n']? = some line := by
  have hfirst : (splitLines (line ++ behind))[0]? = some line := by
    rcases h.stop with rfl | hstop
    · rw [List.append_nil, Text.splitLines_of_notMem h.single]
      rfl
    · obtain ⟨behind, rfl⟩ := List.head?_eq_some_iff.1 hstop
      rw [splitLines, List.splitOn_append_cons_self, ← splitLines,
        Text.splitLines_of_notMem h.single]
      rfl
  rcases h.start with rfl | hstart
  · rw [h.text]
    exact hfirst
  · obtain ⟨init, rfl⟩ := List.getLast?_eq_some_iff.1 hstart
    have hcount : (init ++ ['\n']).count '\n' = (splitLines init).length + 0 := by
      rw [Text.length_splitLines, List.count_append, List.count_singleton_self]
      omega
    rw [h.text, List.append_assoc, List.singleton_append, hcount, splitLines,
      List.splitOn_append_cons_self, ← splitLines, ← splitLines, List.getElem?_append_right (by omega)]
    simpa using hfirst

theorem lastLine_before (h : IsLineAt input offset before line behind) : lastLine before = [] := by
  rcases h.start with rfl | hstart
  · rfl
  · obtain ⟨init, rfl⟩ := List.getLast?_eq_some_iff.1 hstart
    rw [lastLine_append, if_pos (List.mem_singleton_self _)]
    rfl

/-- What stands before the offset on its line is the last line of the text before the offset. -/
theorem exists_lastLine {passed rest : List Char}
    (h : IsLineAt input (byteSize passed) before line behind) (htext : input.toList = passed ++ rest) :
    ∃ right, line = lastLine passed ++ right ∧ passed = before ++ lastLine passed := by
  obtain ⟨left, rfl, hrest⟩ := exists_append_of_byteSize_le (h.text.symm.trans htext) h.le_offset
  have hle : byteSize left ≤ byteSize line := by
    have := h.offset_le
    rw [Text.byteSize_append] at this
    omega
  obtain ⟨right, rfl, -⟩ := exists_append_of_byteSize_le hrest.symm hle
  have hleft : '\n' ∉ left := fun hmem => h.single (List.mem_append_left right hmem)
  have hlast : lastLine (before ++ left) = left := by
    rw [lastLine_append, if_neg hleft, h.lastLine_before, List.nil_append]
  exact ⟨right, by rw [hlast], by rw [hlast]⟩

/-- Every offset between two characters lies on a line. -/
theorem exists_of_append {passed rest : List Char} (htext : input.toList = passed ++ rest) :
    ∃ before line behind, IsLineAt input (byteSize passed) before line behind := by
  obtain ⟨before, hbefore, hstart⟩ := exists_append_lastLine passed
  refine ⟨before, lastLine passed ++ rest.takeWhile (· != '\n'), rest.dropWhile (· != '\n'), ?_⟩
  have hsize := congrArg byteSize hbefore
  rw [Text.byteSize_append] at hsize
  constructor
  case text =>
    rw [List.append_assoc, List.takeWhile_append_dropWhile, ← List.append_assoc, hbefore, htext]
  case single =>
    rw [List.mem_append, not_or]
    refine ⟨newline_notMem_lastLine passed, fun hmem => ?_⟩
    simpa using List.mem_takeWhile_imp hmem
  case start =>
    rcases hstart with rfl | ⟨init, rfl⟩
    · exact .inl rfl
    · exact .inr (List.getLast?_concat ..)
  case stop =>
    rcases hdrop : rest.dropWhile (· != '\n') with _ | ⟨c, behind⟩
    · exact .inl rfl
    · have hc := List.head?_dropWhile_not (· != '\n') rest
      rw [hdrop] at hc
      exact .inr (by simpa using hc)
  case le_offset => omega
  case offset_le =>
    rw [Text.byteSize_append]
    omega

end IsLineAt

/-! ## What a diagnostic shows -/

/-- A diagnostic that shows a line, a caret below the place behind some characters, and a message. -/
def shownBelow (line : List Char) (column : Nat) (message : String) : String :=
  String.ofList (dropReturn line) ++ "\n" ++ String.ofList (List.replicate column ' ') ++ "^\n" ++ message

/-- The diagnostic of an error shows the line that holds its offset, and points at the offset. -/
structure LexError.Points (input : String) (e : LexError) : Prop where
  /-- There is such a line. -/
  exists_line : ∃ before line behind, IsLineAt input e.offset before line behind
  /-- It is found by its number, so that the message does not stand alone, -/
  found : ∀ before line behind, IsLineAt input e.offset before line behind →
    sourceLine? input e.line = some line
  /-- it is shown without a carriage return at its end, with the caret at the column, unless nothing
      can be padded that far, -/
  shows : ∀ before line behind, IsLineAt input e.offset before line behind →
    e.diagnostic =
      if e.column ≤ maxWidth then some (shownBelow line e.column e.message) else none
  /-- and what stands behind as many characters of it starts at the offset. -/
  column : ∀ before line behind, IsLineAt input e.offset before line behind →
    e.column ≤ line.length ∧ byteSize before + byteSize (line.take e.column) = e.offset

theorem LexError.render?_of_sourceLine? {input message : String} {line column : Nat}
    {text : List Char} (h : sourceLine? input line = some text) :
    render? input line column message =
      if column ≤ maxWidth then some (shownBelow text column message) else none := by
  have hbreak (cs : List Char) : String.ofList ('\n' :: cs) = "\n" ++ String.ofList cs :=
    @String.ofList_append ['\n'] cs
  have hcaret : String.ofList ['^', '\n'] = "^\n" := rfl
  rw [render?, h]
  simp only [padding?]
  split_ifs
  · simp only [Option.map_some, shownBelow, String.ofList_append, hbreak, hcaret,
      String.append_assoc]
  · rfl

/-- An error panics if its column is too great. -/
theorem LexError.Points.panics_iff {input : String} {e : LexError} (h : e.Points input) :
    e.panics = true ↔ maxWidth < e.column := by
  obtain ⟨before, line, behind, hat⟩ := h.exists_line
  rw [panics, h.shows before line behind hat]
  split_ifs with hle
  · simp [hle]
  · simp [Nat.lt_of_not_le hle]

/-- A position that has counted what stands before it makes the diagnostic right. -/
theorem Position.Counts.points {p : Position} {input : String} {passed rest : List Char}
    (h : p.Counts passed) (htext : input.toList = passed ++ rest) (cause : LexCause) :
    (LexError.at_ input p cause).Points input := by
  have hoffset : (LexError.at_ input p cause).offset = byteSize passed := h.offset
  have hline : (LexError.at_ input p cause).line = 1 + passed.count '\n' := h.line
  have hcolumn : (LexError.at_ input p cause).column = (lastLine passed).length := h.column
  have hfound : ∀ before line behind, IsLineAt input (byteSize passed) before line behind →
      LexError.sourceLine? input (1 + passed.count '\n') = some line := by
    intro before line behind hat
    obtain ⟨right, -, hpassed⟩ := hat.exists_lastLine htext
    have hcount : passed.count '\n' = before.count '\n' := by
      rw [hpassed, List.count_append,
        List.count_eq_zero_of_not_mem (newline_notMem_lastLine passed), Nat.add_zero]
    rw [LexError.sourceLine?, if_neg (by omega), Nat.add_sub_cancel_left, hcount]
    exact hat.getElem?_splitLines
  refine ⟨?_, ?_, ?_, ?_⟩ <;> rw [hoffset]
  · exact IsLineAt.exists_of_append htext
  · rwa [hline]
  · intro before line behind hat
    refine LexError.render?_of_sourceLine? ?_
    rw [← hfound before line behind hat, h.line]
  · intro before line behind hat
    obtain ⟨right, rfl, hpassed⟩ := hat.exists_lastLine htext
    have hsize := congrArg byteSize hpassed
    rw [Text.byteSize_append] at hsize
    rw [hcolumn, List.take_left, List.length_append]
    exact ⟨Nat.le_add_right _ _, hsize.symm⟩

/-! ## Sessions over one input -/

namespace Tokenizer

/-- The error that a tokenizer has recorded was made for its input and its position. -/
def FailsHere (t : Tokenizer) : Prop :=
  ∀ e, t.failed = some e → ∃ cause, e = .at_ t.input t.position cause

variable {input : String} {t : Tokenizer}

theorem failsHere_of_failed (h : t.failed = none) : t.FailsHere := by simp [FailsHere, h]

theorem reset_failsHere (t : Tokenizer) : t.reset.FailsHere := failsHere_of_failed rfl

theorem next_failsHere (h : t.FailsHere) : t.next.2.FailsHere := by
  have hs := step_next t
  generalize t.next = r at hs
  cases hs with
  | again => exact h
  | stop failed =>
    intro e he
    rw [failed] at he
    cases he
  | fail failed finished rest cause =>
    rintro e ⟨⟩
    exact ⟨cause, rfl⟩
  | accept failed =>
    intro e he
    rw [failed] at he
    cases he

theorem perform_failsHere (op : Op) (h : t.FailsHere) : (t.perform op).2.FailsHere :=
  perform_state op (fun _ => next_failsHere)
    (fun t _ ht _ => drain_state (P := FailsHere) (fun _ => next_failsHere) t ht)
    (fun _ _ ht => ht) (fun _ => reset_failsHere t) (fun _ _ _ => reset_failsHere _) h

/-- An error that is recorded behind what was counted points at the failure. -/
theorem Tracks.points (h : t.Tracks input) (hhere : t.FailsHere) {e : LexError} (he : t.failed = some e) :
    e.Points input := by
  obtain ⟨passed, htext, hcounts⟩ := h.counts
  obtain ⟨cause, rfl⟩ := hhere e he
  rw [h.bound]
  exact hcounts.points htext cause

/-- The error that ends a run behind what was counted points at the failure. -/
theorem Tracks.production_points (hsize : input.utf8ByteSize < UInt32.size - 1) (h : t.Tracks input)
    (hhere : t.FailsHere) {e : LexError} (he : t.production.error = some e) : e.Points input := by
  have hdrain : t.drain.1 = .error e := by rw [drain_production, Production.result, he]
  exact (drain_state (fun _ => Tracks.next hsize) t h).points
    (drain_state (P := FailsHere) (fun _ => next_failsHere) t hhere) (failed_of_drain hdrain)

/-- **Diagnostics point at the failure.**  Over an input shorter than the greatest word, in every
    session that stays with it: the diagnostic of every error that an operation reports shows the line
    that holds the offset of the error, and a caret below the character at this offset; there is none
    just if the column is greater than any width. -/
theorem session_points (t : Tokenizer) (input : String) (o : Option Options)
    (hsize : input.utf8ByteSize < UInt32.size - 1) (ops : List Op)
    (hops : ∀ op ∈ ops, op.rebinds = false) :
    ∀ a ∈ ((t.init input o).session ops).1, ∀ e, a.Reports e → e.Points input := by
  refine (session_induction (P := fun t => t.Tracks input ∧ t.FailsHere)
    (Q := fun op => op.rebinds = false) (fun t op hop ht => ?_) ops (t.init input o) hops
    ⟨reset_tracks rfl, reset_failsHere _⟩).1
  have htracks := (Tracks.perform hsize op hop ht.1).2
  have hhere := perform_failsHere op ht.2
  exact ⟨fun e he => htracks.points hhere (failed_of_perform op he), htracks, hhere⟩

-- A character of two bytes stands on the line before, and the line that is shown ends in a carriage
-- return.
theorem session_points_words :
    "é\nab!\r\nb".utf8ByteSize < UInt32.size - 1 ∧
      (∀ op ∈ [Op.next, .all], op.rebinds = false) ∧
      ∃ e, .all (.error e) ∈ (((ofSpec wordSpec).init "é\nab!\r\nb" none).session [.next, .all]).1 ∧
        e.diagnostic = some "ab!\n  ^\nUnexpected token: \"!\" at 2:2" ∧ e.Points "é\nab!\r\nb" := by
  have hsize : "é\nab!\r\nb".utf8ByteSize < UInt32.size - 1 := by decide
  have hops : ∀ op ∈ [Op.next, .all], op.rebinds = false := by simp [Op.rebinds]
  have herror : ((ofSpec wordSpec).init "é\nab!\r\nb" none).next.2.production.error.map
      LexError.diagnostic = some (some "ab!\n  ^\nUnexpected token: \"!\" at 2:2") := by
    decide +kernel
  obtain ⟨e, he, hdiagnostic⟩ := Option.map_eq_some_iff.1 herror
  have hall : ((ofSpec wordSpec).init "é\nab!\r\nb" none).next.2.all.1 = .error e := by
    rw [all_production (next_frame _).2.2.2, Production.result, he]
  have hmem : .all (.error e) ∈
      (((ofSpec wordSpec).init "é\nab!\r\nb" none).session [.next, .all]).1 := by
    rw [← hall]
    exact List.mem_cons_of_mem _ List.mem_cons_self
  exact ⟨hsize, hops, e, hmem, hdiagnostic,
    session_points (ofSpec wordSpec) "é\nab!\r\nb" none hsize _ hops _ hmem e rfl⟩

end Tokenizer

end OrderedLexer
