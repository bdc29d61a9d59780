/-
  What a tokenizer has left to produce.

  `Tokenizer.production` repeats steps up to the end or an error: it is the list of the tokens and
  the error behind them, if any.  Every way to ask for tokens hands out a part of it:

  * a step gives its head and leaves the rest (`next_production`);
  * a sequence gives as many items as it is asked for, the error once and nothing behind it
    (`pull_production`);
  * `drain`, and `all` the first time, give all of it (`drain_production`, `all_production`).

  `Tokenizer.production?` repeats calls: it is the production, unless its error panics
  (`production?_eq`).
-/
import OrderedLexer.Proofs.Session

namespace OrderedLexer

/-- Tokens as the items of a sequence. -/
def tokenItems (ks : List Token) : List (Option (Except LexError Token)) :=
  ks.map fun k => some (.ok k)

/-- Tokens to be produced, and the error behind them, if any. -/
structure Production where
  tokens : List Token
  error : Option LexError

namespace Production

/-- What a step answers. -/
def head (p : Production) : Except LexError (Option Token) :=
  match p.tokens, p.error with
  | k :: _, _ => .ok (some k)
  | [], none => .ok none
  | [], some e => .error e

/-- All tokens, or the error. -/
def result (p : Production) : Except LexError (List Token) :=
  match p.error with
  | none => .ok p.tokens
  | some e => .error e

/-- What is left behind the first tokens. -/
def drop (p : Production) (n : Nat) : Production := { p with tokens := p.tokens.drop n }

/-- What a sequence answers behind the tokens, if it is asked some times: the error once, then
    nothing. -/
def ending (p : Production) (n : Nat) : List (Option (Except LexError Token)) :=
  ((p.error.toList.map fun e => some (Except.error e)) ++ List.replicate n none).take n

/-- What a sequence answers if it is asked some times. -/
def items (p : Production) (n : Nat) : List (Option (Except LexError Token)) :=
  tokenItems (p.tokens.take n) ++ p.ending (n - p.tokens.length)

end Production

namespace Tokenizer

/-- What repeated steps produce, up to the end or an error. -/
def production (t : Tokenizer) : Production :=
  match h : t.next with
  | (.error e, _) => ⟨[], some e⟩
  | (.ok none, _) => ⟨[], none⟩
  | (.ok (some k), t') =>
    have := length_rest_of_next h
    ⟨k :: t'.production.tokens, t'.production.error⟩
termination_by t.rest.length

section
variable {t t' : Tokenizer}

theorem production_of_error {e : LexError} (h : t.next = (.error e, t')) :
    t.production = ⟨[], some e⟩ := by
  rw [production]
  split <;> rename_i h' <;> rw [h] at h' <;> cases h'
  rfl

theorem production_of_end (h : t.next = (.ok none, t')) : t.production = ⟨[], none⟩ := by
  rw [production]
  split <;> rename_i h' <;> rw [h] at h' <;> cases h'

theorem production_of_token {k : Token} (h : t.next = (.ok (some k), t')) :
    t.production = ⟨k :: t'.production.tokens, t'.production.error⟩ := by
  rw [production]
  split <;> rename_i h' <;> rw [h] at h' <;> cases h'
  rfl

theorem next_of_failed {e : LexError} (h : t.failed = some e) : t.next = (.error e, t) := by
  rw [next, h]

theorem next_of_finished (hf : t.failed = none) (h : t.finished = true) : t.next = (.ok none, t) := by
  rw [next, hf]; exact if_pos h

/-- An error is recorded when it arises. -/
theorem failed_of_next {e : LexError} (h : t.next = (.error e, t')) : t'.failed = some e := by
  cases step_of_next h with
  | again failed => exact failed
  | fail => rfl

/-- An end is recorded when it is found. -/
theorem finished_of_next (h : t.next = (.ok none, t')) : t'.failed = none ∧ t'.finished = true := by
  cases step_of_next h with
  | stop failed => exact ⟨failed, rfl⟩

theorem failed_of_drain {e : LexError} (h : t.drain.1 = .error e) : t.drain.2.failed = some e := by
  obtain ⟨last, hlast⟩ := exists_next_of_drain t
  rw [h] at hlast
  exact failed_of_next hlast

theorem finished_of_drain {ks : List Token} (h : t.drain.1 = .ok ks) :
    t.drain.2.failed = none ∧ t.drain.2.finished = true := by
  obtain ⟨last, hlast⟩ := exists_next_of_drain t
  rw [h] at hlast
  exact finished_of_next hlast

end

/-! ## Steps, sequences and lists -/

theorem next_production (t : Tokenizer) :
    t.next.1 = t.production.head ∧ t.next.2.production = t.production.drop 1 := by
  rcases h : t.next with ⟨e | _ | k, t'⟩
  · rw [production_of_error h, production_of_error (next_of_failed (failed_of_next h))]
    exact ⟨rfl, rfl⟩
  · obtain ⟨hf, hend⟩ := finished_of_next h
    rw [production_of_end h, production_of_end (next_of_finished hf hend)]
    exact ⟨rfl, rfl⟩
  · rw [production_of_token h]
    exact ⟨rfl, rfl⟩

theorem drain_production (t : Tokenizer) : t.drain.1 = t.production.result := by
  induction t using next_induction with
  | step t ih =>
    rcases h : t.next with ⟨e | _ | k, t'⟩
    · rw [drain_of_error h, production_of_error h]; rfl
    · rw [drain_of_end h, production_of_end h]; rfl
    · rw [drain_of_token h, production_of_token h, ih k t' h]
      simp only [Production.result]
      cases t'.production.error <;> rfl

theorem all_production {t : Tokenizer} (h : t.drained = none) : t.all.1 = t.production.result := by
  rw [← drain_production]
  rcases hd : t.drain with ⟨e | ks, t'⟩
  · rw [all_of_error h hd]
  · rw [all_of_ok h hd]

theorem pull_production (n : Nat) (t : Tokenizer) :
    (Tokens.pull n ⟨t, false⟩).1 = t.production.items n ∧
      (Tokens.pull n ⟨t, false⟩).2.tokenizer.production = t.production.drop n := by
  induction n generalizing t with
  | zero => exact ⟨by simp [Tokens.pull, Production.items, Production.ending, tokenItems], rfl⟩
  | succ n ih =>
    have hdrop := (next_production t).2
    rcases Tokens.next_cases ⟨t, false⟩ with ⟨hd, -⟩ | ⟨k, t', h, hs⟩ | ⟨t', h, hs⟩ | ⟨e, t', h, hs⟩
    · cases hd
    · obtain ⟨hitems, hrest⟩ := ih t'
      rw [Tokens.pull, hs, production_of_token h]
      refine ⟨?_, ?_⟩
      · rw [hitems]; simp [Production.items, Production.ending, tokenItems]
      · rw [hrest]; simp [Production.drop]
    · rw [h, production_of_end h] at hdrop
      rw [Tokens.pull, hs, Tokens.pull_of_done rfl, production_of_end h]
      refine ⟨?_, ?_⟩
      · simp [Production.items, Production.ending, tokenItems, List.replicate_succ]
      · rw [hdrop]; simp [Production.drop]
    · rw [h, production_of_error h] at hdrop
      rw [Tokens.pull, hs, Tokens.pull_of_done rfl, production_of_error h]
      refine ⟨?_, ?_⟩
      · simp [Production.items, Production.ending, tokenItems]
      · rw [hdrop]; simp [Production.drop]

/-! ## Calls -/

section
variable {t t' : Tokenizer}

theorem returned?_of_failed {α : Type} {a : α} (h : t.failed = none) :
    returned? (a, t) = some (a, t) := by
  rw [returned?, panicked, h]
  rfl

theorem returned?_cases {α : Type} (r : α × Tokenizer) :
    returned? r = none ∨ returned? r = some r := by
  unfold returned?
  split
  · exact .inl rfl
  · exact .inr rfl

/-- A call returns an error that can be made. -/
theorem next?_of_error {e : LexError} (h : t.next = (.error e, t')) :
    t.next? = if e.panics then none else some (.error e, t') := by
  rw [next?, h, returned?, panicked, failed_of_next h]
  rfl

theorem next?_of_end (h : t.next = (.ok none, t')) : t.next? = some (.ok none, t') := by
  rw [next?, h]
  exact returned?_of_failed (finished_of_next h).1

/-- A call that gives a token returns. -/
theorem next?_of_token {k : Token} (h : t.next = (.ok (some k), t')) :
    t.next? = some (.ok (some k), t') := by
  rw [next?, h]
  cases step_of_next h with
  | accept failed => exact returned?_of_failed failed

theorem next_of_next? {r : Except LexError (Option Token) × Tokenizer} (h : t.next? = some r) :
    t.next = r := by
  rcases returned?_cases t.next with hnone | hsome
  · cases hnone.symm.trans h
  · exact Option.some.inj (hsome.symm.trans h)

theorem all?_of_ok {ks : List Token} (hd : t.drained = none) (h : t.all = (.ok ks, t')) :
    t.all? = some (.ok ks, t') := by
  rw [all?, h]
  rcases hdrain : t.drain with ⟨e | ks', t''⟩
  · rw [all_of_error hd hdrain] at h
    cases h
  · rw [all_of_ok hd hdrain] at h
    cases h
    have hfinished := finished_of_drain (congrArg Prod.fst hdrain)
    rw [hdrain] at hfinished
    exact returned?_of_failed hfinished.1

end

/-- What repeated calls produce, up to the end or an error; none if one of them panics. -/
def production? (t : Tokenizer) : Option Production :=
  match h : t.next? with
  | none => none
  | some (.error e, _) => some ⟨[], some e⟩
  | some (.ok none, _) => some ⟨[], none⟩
  | some (.ok (some k), t') =>
    have := length_rest_of_next (next_of_next? h)
    t'.production?.map fun p => ⟨k :: p.tokens, p.error⟩
termination_by t.rest.length

section
variable {t t' : Tokenizer}

theorem production?_of_error {e : LexError} (h : t.next = (.error e, t')) :
    t.production? = if e.panics then none else some ⟨[], some e⟩ := by
  have hcall := next?_of_error h
  rw [production?]
  split at hcall
  · next hpanics =>
    rw [if_pos hpanics]
    split <;> rename_i h' <;> rw [hcall] at h' <;> cases h'
  · next hpanics =>
    rw [if_neg hpanics]
    split <;> rename_i h' <;> rw [hcall] at h' <;> cases h'
    rfl

theorem production?_of_panic (h : t.next? = none) : t.production? = none := by
  rw [production?]
  split <;> rename_i h' <;> rw [h] at h' <;> cases h'

theorem production?_of_end (h : t.next = (.ok none, t')) : t.production? = some ⟨[], none⟩ := by
  rw [production?]
  split <;> rename_i h' <;> rw [next?_of_end h] at h' <;> cases h'

theorem production?_of_token {k : Token} (h : t.next = (.ok (some k), t')) :
    t.production? = t'.production?.map fun p => ⟨k :: p.tokens, p.error⟩ := by
  rw [production?]
  split <;> rename_i h' <;> rw [next?_of_token h] at h' <;> cases h'
  rfl

end

/-- Calls produce what steps produce, unless the error behind it panics. -/
theorem production?_eq (t : Tokenizer) :
    t.production? = if t.production.error.any LexError.panics then none else some t.production := by
  induction t using next_induction with
  | step t ih =>
    rcases hn : t.next with ⟨e | _ | k, t'⟩
    · rw [production_of_error hn, production?_of_error hn]
      rfl
    · rw [production_of_end hn, production?_of_end hn]
      rfl
    · rw [production_of_token hn, production?_of_token hn, ih k t' hn]
      split <;> rfl

end Tokenizer

end OrderedLexer
