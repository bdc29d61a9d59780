/-
  What holds of every tokenizer that operations can reach.

  The position, the rest and the flags of a tokenizer agree (`WellFormed`): a step keeps that, and so
  do operations (`perform_wellFormed`) and sessions (`session_wellFormed`).  Each token moves the
  position forward, so steps come to an end or an error within the input (`length_production`).

  A failure is final: it is recorded when it is reported (`failed_of_perform`), and from then on
  every operation that reads tokens answers it, at the same position, up to the next restart
  (`session_of_failed`).
-/
import OrderedLexer.Proofs.Offset
import OrderedLexer.Proofs.Production

namespace OrderedLexer

open Text (byteSize)

namespace Tokenizer

/-- The parts of a tokenizer agree. -/
structure WellFormed (t : Tokenizer) : Prop where
  /-- The position stands behind the part of the input that was passed. -/
  passed : ∃ before, t.input.toList = before ++ t.rest ∧ t.position.offset = byteSize before
  /-- The end is reported at the end. -/
  finished : t.finished = true → t.rest = []
  /-- All tokens are kept at the end of a run that did not fail. -/
  drained : t.drained ≠ none → t.rest = [] ∧ t.failed = none
  /-- A failure lies at the position, and something is left there. -/
  failed : ∀ e, t.failed = some e → t.rest ≠ [] ∧ e.offset = t.position.offset ∧
    e.line = t.position.line ∧ e.column = t.position.column

variable {t : Tokenizer}

/-! ## Operations keep the invariant -/

/-- The parts that no step changes. -/
theorem next_frame (t : Tokenizer) : t.next.2.spec = t.spec ∧ t.next.2.options = t.options ∧
    t.next.2.input = t.input ∧ t.next.2.drained = t.drained := by
  have h := step_next t
  generalize t.next = r at h
  cases h <;> exact ⟨rfl, rfl, rfl, rfl⟩

theorem next_wellFormed (h : t.WellFormed) : t.next.2.WellFormed := by
  have hs := step_next t
  generalize t.next = r at hs
  cases hs with
  | again => exact h
  | stop failed ended =>
    have hrest : t.rest = [] := ended.elim h.finished id
    exact ⟨h.passed, fun _ => hrest, h.drained, h.failed⟩
  | fail failed finished rest cause =>
    refine ⟨h.passed, h.finished, fun hd => absurd (h.drained hd).1 rest, ?_⟩
    rintro e ⟨⟩
    exact ⟨rest, rfl, rfl, rfl⟩
  | @accept index handler matched rest emit failed finished first nonempty emits =>
    have happ := firstMatch?_append first
    obtain ⟨before, htext, hoff⟩ := h.passed
    refine ⟨⟨before ++ matched, ?_, ?_⟩, fun hf => ?_, fun hd => ?_, fun e he => ?_⟩
    · rw [htext, ← happ, List.append_assoc]
    · rw [Position.offset_advance, hoff, Text.byteSize_append]
    · rw [finished] at hf; cases hf
    · rw [(h.drained hd).1] at happ
      exact absurd (List.append_eq_nil_iff.1 happ).1 nonempty
    · rw [failed] at he; cases he

theorem reset_wellFormed (t : Tokenizer) : t.reset.WellFormed :=
  ⟨⟨[], rfl, rfl⟩, by simp [reset], by simp [reset], by simp [reset]⟩

theorem init_wellFormed (t : Tokenizer) (input : String) (o : Option Options) :
    (t.init input o).WellFormed := reset_wellFormed _

theorem setOptions_wellFormed (o : Options) (h : t.WellFormed) : (t.setOptions o).WellFormed :=
  ⟨h.passed, h.finished, h.drained, h.failed⟩

theorem perform_wellFormed (op : Op) (h : t.WellFormed) : (t.perform op).2.WellFormed := by
  refine perform_state op (fun _ => next_wellFormed) (fun t ks ht hd => ?_)
    (fun _ o => setOptions_wellFormed o) (fun _ => reset_wellFormed t)
    (fun input o _ => init_wellFormed t input o) h
  have hw : t.drain.2.WellFormed := drain_state (fun _ => next_wellFormed) t ht
  obtain ⟨hf, hend⟩ := finished_of_drain hd
  exact ⟨hw.passed, hw.finished, fun _ => ⟨hw.finished hend, hf⟩, hw.failed⟩

theorem session_wellFormed (ops : List Op) (h : t.WellFormed) : (t.session ops).2.WellFormed :=
  (session_induction (A := fun _ => True) (Q := fun _ => True)
    (fun _ op _ ht => ⟨trivial, perform_wellFormed op ht⟩) ops t (fun _ _ => trivial) h).2

theorem ofSpec_wellFormed (spec : Spec) : (ofSpec spec).WellFormed := reset_wellFormed (ofSpec spec)

/-! ## The position moves forward -/

theorem WellFormed.offset_add_rest (h : t.WellFormed) :
    t.position.offset + byteSize t.rest = t.input.utf8ByteSize := by
  obtain ⟨before, htext, hoff⟩ := h.passed
  rw [hoff, ← Text.byteSize_append, ← htext, byteSize_toList]

theorem WellFormed.isBoundary (h : t.WellFormed) : IsBoundary t.input t.position.offset := by
  obtain ⟨before, htext, hoff⟩ := h.passed
  rw [hoff]; exact isBoundary_byteSize htext

theorem WellFormed.offset_of_rest (h : t.WellFormed) (hr : t.rest = []) :
    t.position.offset = t.input.utf8ByteSize := by
  rw [← h.offset_add_rest, hr]; rfl

theorem WellFormed.offset_lt (h : t.WellFormed) (hr : t.rest ≠ []) :
    t.position.offset < t.input.utf8ByteSize := by
  have := byteSize_pos hr
  rw [← h.offset_add_rest]; omega

theorem byteSize_rest_of_next {t' : Tokenizer} {k : Token} (h : t.next = (.ok (some k), t')) :
    t.position.offset < t'.position.offset ∧
      t'.position.offset + byteSize t'.rest = t.position.offset + byteSize t.rest := by
  cases step_of_next h with
  | accept _ _ first nonempty _ =>
    have happ := congrArg byteSize (firstMatch?_append first)
    have hpos := byteSize_pos nonempty
    simp only [Text.byteSize_append, Position.offset_advance] at happ ⊢
    omega

theorem length_production (t : Tokenizer) : t.production.tokens.length ≤ byteSize t.rest := by
  induction t using next_induction with
  | step t ih =>
    rcases h : t.next with ⟨e | _ | k, t'⟩
    · rw [production_of_error h]; exact Nat.zero_le _
    · rw [production_of_end h]; exact Nat.zero_le _
    · have hrest := byteSize_rest_of_next h
      have := ih k t' h
      rw [production_of_token h, List.length_cons]
      omega

end Tokenizer

/-! ## Failures are final -/

/-- Whether an answer reports an error. -/
def Answer.Reports (e : LexError) : Answer → Prop
  | .done => False
  | .next r => r = .error e
  | .all r => r = .error e
  | .pull items => some (.error e) ∈ items

/-- What an operation that is no restart answers after a failure. -/
def Op.answerFailed (e : LexError) : Op → Answer
  | .next => .next (.error e)
  | .all => .all (.error e)
  | .pull n => .pull ((some (.error e) :: List.replicate n none).take n)
  | _ => .done

namespace Tokenizer

variable {t : Tokenizer} {e : LexError}

theorem failed_of_pull : ∀ (n : Nat) (s : Tokens), some (.error e) ∈ (Tokens.pull n s).1 →
    (Tokens.pull n s).2.tokenizer.failed = some e
  | 0, _, h => by simp [Tokens.pull] at h
  | n + 1, s, h => by
    rcases List.mem_cons.1 h with h | h
    · rcases s.next_cases with ⟨-, hs⟩ | ⟨k, t', -, hs⟩ | ⟨t', -, hs⟩ | ⟨e', t', ht, hs⟩ <;>
        rw [hs] at h <;> cases h
      rw [Tokens.pull, hs, Tokens.pull_of_done rfl]
      exact failed_of_next ht
    · exact failed_of_pull n s.next.2 h

/-- An error that is reported is recorded. -/
theorem failed_of_perform (op : Op) (h : (t.perform op).1.Reports e) :
    (t.perform op).2.failed = some e := by
  cases op with
  | init | reset | setOptions => exact h.elim
  | next => exact failed_of_next (Prod.ext h rfl)
  | all =>
    have hall : t.all.1 = .error e := h
    show t.all.2.failed = some e
    rcases hc : t.drained with _ | ks
    · have hf := failed_of_drain (t := t) (e := e)
      rcases hd : t.drain with ⟨e' | ks, t'⟩ <;> rw [hd] at hf
      · rw [all_of_error hc hd] at hall ⊢
        exact hf hall
      · rw [all_of_ok hc hd] at hall; cases hall
    · rw [all_of_drained hc] at hall; cases hall
  | pull n => exact failed_of_pull n _ h

theorem perform_of_failed (h : t.failed = some e) (hd : t.drained = none) (op : Op)
    (hop : op.restarts = false) :
    (t.perform op).1 = op.answerFailed e ∧ (t.perform op).2.failed = some e ∧
      (t.perform op).2.drained = none ∧ (t.perform op).2.position = t.position := by
  have hnext := next_of_failed h
  cases op with
  | init | reset => cases hop
  | setOptions => exact ⟨rfl, h, hd, rfl⟩
  | next =>
    rw [perform, hnext]
    exact ⟨rfl, h, hd, rfl⟩
  | all =>
    rw [perform, all_of_error hd (drain_of_error hnext)]
    exact ⟨rfl, h, hd, rfl⟩
  | pull n =>
    cases n with
    | zero => exact ⟨rfl, h, hd, rfl⟩
    | succ n =>
      have hs : Tokens.next ⟨t, false⟩ = (some (.error e), ⟨t, true⟩) := by simp [Tokens.next, hnext]
      rw [perform, Tokens.pull, hs, Tokens.pull_of_done rfl]
      exact ⟨by simp [Op.answerFailed], h, hd, rfl⟩

/-- After a failure, a session without restarts answers nothing else, and stays where it is. -/
theorem session_of_failed : ∀ (ops : List Op) (t : Tokenizer), t.failed = some e →
    t.drained = none → (∀ op ∈ ops, op.restarts = false) →
    (t.session ops).1 = ops.map (Op.answerFailed e) ∧ (t.session ops).2.failed = some e ∧
      (t.session ops).2.position = t.position
  | [], _, h, _, _ => ⟨rfl, h, rfl⟩
  | op :: ops, t, h, hd, hops => by
    obtain ⟨hans, hf, hd', hpos⟩ := perform_of_failed h hd op (hops op List.mem_cons_self)
    obtain ⟨hans', hf', hpos'⟩ := session_of_failed ops _ hf hd'
      fun op' h' => hops op' (List.mem_cons_of_mem _ h')
    refine ⟨?_, hf', hpos'.trans hpos⟩
    rw [session, List.map_cons, hans, hans']

/-! ## Reachable tokenizers -/

/-- What can be relied on in a tokenizer. -/
structure Reliable (t : Tokenizer) : Prop where
  /-- The position lies in the input, between two characters. -/
  position : t.position.offset ≤ t.input.utf8ByteSize ∧ IsBoundary t.input t.position.offset
  /-- The end is reported at the end. -/
  finished : t.finished = true → t.position.offset = t.input.utf8ByteSize
  /-- All tokens are kept at the end of a run that did not fail. -/
  drained : t.drained ≠ none → t.position.offset = t.input.utf8ByteSize ∧ t.failed = none
  /-- A failure lies at the position, before the end, and no tokens are kept. -/
  failed : ∀ e, t.failed = some e → t.drained = none ∧ t.position.offset < t.input.utf8ByteSize ∧
    e.offset = t.position.offset ∧ e.line = t.position.line ∧ e.column = t.position.column
  /-- Every token moves the position forward. -/
  forward : ∀ k t', t.next = (.ok (some k), t') → t.position.offset < t'.position.offset
  /-- Repeated steps come to the end or an error with at most as many tokens as bytes are left. -/
  ends : t.position.offset + t.production.tokens.length ≤ t.input.utf8ByteSize
  /-- So does the list of all tokens. -/
  all_ends : t.drained = none → t.all.1 = t.production.result
  /-- So does a sequence of tokens, however often it is asked. -/
  pull_ends : ∀ n, (Tokens.pull n ⟨t, false⟩).1 = t.production.items n
  /-- An error that is reported is recorded. -/
  records : ∀ op e, (t.perform op).1.Reports e → (t.perform op).2.failed = some e
  /-- After a failure, every session without a restart answers just this, at this position. -/
  final : ∀ e, t.failed = some e → ∀ ops : List Op, (∀ op ∈ ops, op.restarts = false) →
    (t.session ops).1 = ops.map (Op.answerFailed e) ∧ (t.session ops).2.failed = some e ∧
      (t.session ops).2.position = t.position

theorem WellFormed.reliable (h : t.WellFormed) : t.Reliable where
  position := ⟨Nat.le.intro h.offset_add_rest, h.isBoundary⟩
  finished hf := h.offset_of_rest (h.finished hf)
  drained hd := ⟨h.offset_of_rest (h.drained hd).1, (h.drained hd).2⟩
  failed e he := by
    obtain ⟨hrest, hoff, hline, hcol⟩ := h.failed e he
    refine ⟨?_, h.offset_lt hrest, hoff, hline, hcol⟩
    by_contra hd
    exact hrest (h.drained hd).1
  forward k t' hn := (byteSize_rest_of_next hn).1
  ends := by
    have := length_production t
    rw [← h.offset_add_rest]; omega
  all_ends := all_production
  pull_ends n := (pull_production n t).1
  records op e := failed_of_perform op
  final e he ops := by
    have hd : t.drained = none := by
      by_contra hd
      rw [(h.drained hd).2] at he; cases he
    exact session_of_failed ops t he hd

/-- **Every tokenizer that operations reach is reliable**, whatever they are and in whatever
    order. -/
theorem session_reliable (spec : Spec) (ops : List Op) : ((ofSpec spec).session ops).2.Reliable :=
  (session_wellFormed ops (ofSpec_wellFormed spec)).reliable

end Tokenizer

end OrderedLexer
