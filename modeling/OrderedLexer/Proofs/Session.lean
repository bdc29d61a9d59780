/-
  Sessions: operations on a tokenizer, one after the other.

  `Op` lists what can be asked of a tokenizer, and `Answer` what it answers.  A sequence of tokens
  (`Tokens`) keeps its tokenizer to itself while it is in use, so making one and taking items from
  it is one operation, `Op.pull`.  `Tokenizer.session` performs a list of operations, and
  `Tokenizer.trace` reports what is answered and what can be seen of the tokenizer on the way.

  All operations that read tokens are made of steps.  `perform_state` therefore derives what an
  operation keeps from what a step keeps, and `perform_tokens` what holds of the tokens that it hands
  out; `session_induction` goes on from operations to sessions.
-/
import OrderedLexer.Tokenizer

namespace OrderedLexer

/-! ## Steps -/

/-- What a step does. -/
inductive Outcome where
  /-- Reports the error of an earlier step. -/
  | again (e : LexError)
  /-- Reports the end. -/
  | stop
  /-- Ends the run with an error. -/
  | fail (cause : LexCause)
  /-- Makes a token of a matched text. -/
  | accept (emit : Emit) (matched rest : List Char)

/-- What a step does depends on the rules, on what is left of the input and on the flags only; the
    position and the options do not take part. -/
def Outcome.of (rules : List Rule) (rest : List Char) (finished : Bool) (failed : Option LexError) :
    Outcome :=
  match failed with
  | some e => .again e
  | none =>
    if finished then .stop
    else match rest with
      | [] => .stop
      | c :: _ =>
        match firstMatch? 0 rules rest with
        | none => .fail (.unexpectedToken c.toString none)
        | some (index, handler, matched, rest) =>
          if matched.isEmpty then .fail (.emptyMatch index)
          else match handler.run (String.ofList matched) with
            | none => .fail (.unexpectedToken (String.ofList matched) (some index))
            | some emit => .accept emit matched rest

namespace Outcome

variable {rules : List Rule} {rest : List Char} {finished : Bool} {failed : Option LexError}

theorem failed_of_again {e : LexError} (h : of rules rest finished failed = again e) :
    failed = some e := by
  unfold of at h
  split at h
  · cases h; rfl
  · repeat' split at h
    all_goals cases h

theorem append_of_accept {emit : Emit} {matched rest' : List Char}
    (h : of rules rest finished failed = accept emit matched rest') : matched ++ rest' = rest := by
  unfold of at h
  repeat' split at h
  all_goals cases h
  exact firstMatch?_append ‹_›

end Outcome

namespace Tokenizer

/-- What the next step does. -/
def outcome (t : Tokenizer) : Outcome := .of t.spec.rules t.rest t.finished t.failed

/-- Does what a step is to do. -/
def carryOut (t : Tokenizer) : Outcome → Except LexError (Option Token) × Tokenizer
  | .again e => (.error e, t)
  | .stop => (.ok none, { t with finished := true })
  | .fail cause => t.fail cause
  | .accept emit matched rest => t.accept emit matched rest

theorem next_eq_carryOut (t : Tokenizer) : t.next = t.carryOut t.outcome := by
  obtain ⟨spec, options, input, position, rest, finished, failed, drained⟩ := t
  rcases failed with _ | e
  · rcases finished with _ | _
    · rcases rest with _ | ⟨c, cs⟩
      · rfl
      · simp only [next, outcome, Outcome.of, Bool.false_eq_true, if_false]
        rcases firstMatch? 0 spec.rules (c :: cs) with _ | ⟨index, handler, matched, rest⟩
        · rfl
        · by_cases hempty : matched.isEmpty = true
          · simp only [hempty, if_true, carryOut]
          · simp only [hempty]
            rcases handler.run (String.ofList matched) with _ | emit <;> rfl
    · rfl
  · rfl

end Tokenizer

/-! ## Runs of steps -/

namespace Tokenizer

/-- Induction along the tokens of a run: each one leaves a shorter rest. -/
@[elab_as_elim]
theorem next_induction {motive : Tokenizer → Prop}
    (step : ∀ t, (∀ k t', t.next = (.ok (some k), t') → motive t') → motive t) (t : Tokenizer) :
    motive t := by
  induction hn : t.rest.length using Nat.strongRecOn generalizing t with
  | _ n ih => exact step t fun k t' h => ih _ (hn ▸ length_rest_of_next h) t' rfl

section
variable {t t' : Tokenizer}

theorem drain_of_error {e : LexError} (h : t.next = (.error e, t')) : t.drain = (.error e, t') := by
  rw [drain]
  split <;> rename_i h' <;> rw [h] at h' <;> cases h'
  rfl

theorem drain_of_end (h : t.next = (.ok none, t')) : t.drain = (.ok [], t') := by
  rw [drain]
  split <;> rename_i h' <;> rw [h] at h' <;> cases h'
  rfl

theorem drain_of_token {k : Token} (h : t.next = (.ok (some k), t')) :
    t.drain = (t'.drain.1.map (k :: ·), t'.drain.2) := by
  rw [drain]
  split <;> rename_i h' <;> rw [h] at h' <;> cases h'
  rfl

end

/-- Taking all tokens ends with a step that gives none. -/
theorem exists_next_of_drain (t : Tokenizer) :
    ∃ last : Tokenizer, last.next = (t.drain.1.map fun _ => none, t.drain.2) := by
  induction t using next_induction with
  | step t ih =>
    rcases h : t.next with ⟨e | _ | k, t'⟩
    · exact ⟨t, by rw [drain_of_error h]; exact h⟩
    · exact ⟨t, by rw [drain_of_end h]; exact h⟩
    · obtain ⟨last, hlast⟩ := ih k t' h
      refine ⟨last, ?_⟩
      rw [hlast, drain_of_token h]
      cases t'.drain.1 <;> rfl

/-- What a step keeps, taking all tokens keeps. -/
theorem drain_state {P : Tokenizer → Prop} (hnext : ∀ t, P t → P t.next.2) (t : Tokenizer) :
    P t → P t.drain.2 := by
  induction t using next_induction with
  | step t ih =>
    intro ht
    have hn := hnext t ht
    rcases h : t.next with ⟨e | _ | k, t'⟩ <;> rw [h] at hn
    · rwa [drain_of_error h]
    · rwa [drain_of_end h]
    · rw [drain_of_token h]; exact ih k t' h hn

/-- What holds of the token of each step, holds of all tokens taken. -/
theorem drain_tokens {P : Tokenizer → Prop} {R : Token → Prop} (hnext : ∀ t, P t → P t.next.2)
    (htoken : ∀ t k t', P t → t.next = (.ok (some k), t') → R k) (t : Tokenizer) :
    P t → ∀ ks, t.drain.1 = .ok ks → ∀ k ∈ ks, R k := by
  induction t using next_induction with
  | step t ih =>
    intro ht ks hks
    have hn := hnext t ht
    rcases h : t.next with ⟨e | _ | k, t'⟩ <;> rw [h] at hn
    · rw [drain_of_error h] at hks; cases hks
    · rw [drain_of_end h] at hks; cases hks; simp
    · rw [drain_of_token h] at hks
      rcases hd : t'.drain.1 with e | ks' <;> rw [hd] at hks <;> cases hks
      intro k' hk'
      rcases List.mem_cons.1 hk' with rfl | hk'
      · exact htoken t k' t' ht h
      · exact ih k t' h hn ks' hd k' hk'

end Tokenizer

namespace Tokens

/-- The answers of a sequence when it is asked for its next item some times in a row. -/
def pull : Nat → Tokens → List (Option (Except LexError Token)) × Tokens
  | 0, s => ([], s)
  | n + 1, s => (s.next.1 :: (pull n s.next.2).1, (pull n s.next.2).2)

/-- What asking a sequence once can do. -/
theorem next_cases (s : Tokens) :
    (s.done = true ∧ s.next = (none, s)) ∨
    (∃ k t', s.tokenizer.next = (.ok (some k), t') ∧ s.next = (some (.ok k), ⟨t', false⟩)) ∨
    (∃ t', s.tokenizer.next = (.ok none, t') ∧ s.next = (none, ⟨t', true⟩)) ∨
    (∃ e t', s.tokenizer.next = (.error e, t') ∧ s.next = (some (.error e), ⟨t', true⟩)) := by
  unfold next
  rcases hd : s.done with _ | _
  · rcases h : s.tokenizer.next with ⟨e | _ | k, t'⟩
    · exact .inr (.inr (.inr ⟨e, t', rfl, rfl⟩))
    · exact .inr (.inr (.inl ⟨t', rfl, rfl⟩))
    · exact .inr (.inl ⟨k, t', rfl, rfl⟩)
  · exact .inl ⟨rfl, rfl⟩

theorem pull_of_done {s : Tokens} (h : s.done = true) :
    ∀ n, pull n s = (List.replicate n none, s)
  | 0 => rfl
  | n + 1 => by
    have hs : s.next = (none, s) := by rw [next, if_pos h]
    rw [pull, hs, pull_of_done h n]; rfl

/-- `take` leaves off at the end that `pull` goes on to report. -/
theorem take_eq_pull : ∀ (n : Nat) (s : Tokens),
    take n s = ((pull n s).1.filterMap id, (pull n s).1.any Option.isNone, (pull n s).2)
  | 0, _ => rfl
  | n + 1, s => by
    rw [take, pull]
    rcases s.next_cases with ⟨hd, h⟩ | ⟨k, t', -, h⟩ | ⟨t', -, h⟩ | ⟨e, t', -, h⟩ <;> rw [h]
    · simp [pull_of_done hd]
    · simp [take_eq_pull n]
    · simp [pull_of_done]
    · simp [take_eq_pull n]

theorem next_state {P : Tokenizer → Prop} (hnext : ∀ t, P t → P t.next.2) (s : Tokens)
    (hs : P s.tokenizer) : P s.next.2.tokenizer := by
  have hn := hnext s.tokenizer hs
  rcases s.next_cases with ⟨-, h⟩ | ⟨k, t', ht, h⟩ | ⟨t', ht, h⟩ | ⟨e, t', ht, h⟩ <;> rw [h]
  · exact hs
  all_goals rwa [ht] at hn

theorem pull_state {P : Tokenizer → Prop} (hnext : ∀ t, P t → P t.next.2) :
    ∀ (n : Nat) (s : Tokens), P s.tokenizer → P (pull n s).2.tokenizer
  | 0, _, hs => hs
  | n + 1, s, hs => pull_state hnext n s.next.2 (next_state hnext s hs)

theorem pull_tokens {P : Tokenizer → Prop} {R : Token → Prop} (hnext : ∀ t, P t → P t.next.2)
    (htoken : ∀ t k t', P t → t.next = (.ok (some k), t') → R k) :
    ∀ (n : Nat) (s : Tokens), P s.tokenizer → ∀ k, some (.ok k) ∈ (pull n s).1 → R k
  | 0, _, _, k, hk => by simp [pull] at hk
  | n + 1, s, hs, k, hk => by
    rcases List.mem_cons.1 hk with hk | hk
    · rcases s.next_cases with ⟨-, h⟩ | ⟨k', t', ht, h⟩ | ⟨t', -, h⟩ | ⟨e, t', -, h⟩ <;>
        rw [h] at hk <;> cases hk
      exact htoken _ k t' hs ht
    · exact pull_tokens hnext htoken n s.next.2 (next_state hnext s hs) k hk

end Tokens

/-! ## Operations -/

/-- What can be asked of a tokenizer. -/
inductive Op where
  /-- Binds it to an input, with further options. -/
  | init (input : String) (options : Option Options)
  /-- Goes back to the start of the input. -/
  | reset
  /-- Merges options into those of the tokenizer. -/
  | setOptions (options : Options)
  /-- The next token. -/
  | next
  /-- All tokens that are left. -/
  | all
  /-- The first items of a new sequence of tokens. -/
  | pull (count : Nat)

/-- Whether an operation binds the tokenizer to an input or goes back to its start. -/
def Op.restarts : Op → Bool
  | .init _ _ | .reset => true
  | _ => false

/-- Whether an operation binds the tokenizer to an input. -/
def Op.rebinds : Op → Bool
  | .init _ _ => true
  | _ => false

/-- What an operation answers. -/
inductive Answer where
  /-- Nothing. -/
  | done
  | next (r : Except LexError (Option Token))
  | all (r : Except LexError (List Token))
  | pull (items : List (Option (Except LexError Token)))

/-- The tokens that an answer hands out. -/
def Answer.tokens : Answer → List Token
  | .next (.ok (some k)) => [k]
  | .all (.ok ks) => ks
  | .pull items => items.filterMap fun item => item.bind Except.toOption
  | _ => []

namespace Tokenizer

/-- Performs an operation. -/
def perform (t : Tokenizer) : Op → Answer × Tokenizer
  | .init input o => (.done, t.init input o)
  | .reset => (.done, t.reset)
  | .setOptions o => (.done, t.setOptions o)
  | .next => (.next t.next.1, t.next.2)
  | .all => (.all t.all.1, t.all.2)
  | .pull n => (.pull (Tokens.pull n ⟨t, false⟩).1, (Tokens.pull n ⟨t, false⟩).2.tokenizer)

/-- Performs operations one after the other. -/
def session (t : Tokenizer) : List Op → List Answer × Tokenizer
  | [] => ([], t)
  | op :: ops =>
    ((t.perform op).1 :: ((t.perform op).2.session ops).1, ((t.perform op).2.session ops).2)

/-- Sessions one behind the other. -/
theorem session_append (t : Tokenizer) (ops ops' : List Op) :
    (t.session (ops ++ ops')).2 = ((t.session ops).2.session ops').2 := by
  induction ops generalizing t with
  | nil => rfl
  | cons op ops ih => exact ih _

section
variable {t t' : Tokenizer} {ks : List Token}

theorem all_of_drained (h : t.drained = some ks) : t.all = (.ok ks, t) := by rw [all, h]

theorem all_of_ok (h : t.drained = none) (hd : t.drain = (.ok ks, t')) :
    t.all = (.ok ks, { t' with drained := some ks }) := by rw [all, h, hd]

theorem all_of_error {e : LexError} (h : t.drained = none) (hd : t.drain = (.error e, t')) :
    t.all = (.error e, t') := by rw [all, h, hd]

end

/-- What a step keeps, `all` keeps, if the tokens may be cached. -/
theorem all_state {P : Tokenizer → Prop} (hnext : ∀ t, P t → P t.next.2)
    (hcache : ∀ t ks, P t → t.drain.1 = .ok ks → P { t.drain.2 with drained := some ks })
    (t : Tokenizer) (ht : P t) : P t.all.2 := by
  have hdrain := drain_state hnext t ht
  have hkeep := hcache t
  rcases hc : t.drained with _ | ks
  · rcases hd : t.drain with ⟨e | ks, t'⟩ <;> rw [hd] at hdrain hkeep
    · rwa [all_of_error hc hd]
    · rw [all_of_ok hc hd]; exact hkeep ks ht rfl
  · rwa [all_of_drained hc]

/-- What steps, caching and the other changes of a tokenizer keep, an operation keeps. -/
theorem perform_state {P : Tokenizer → Prop} {t : Tokenizer} (op : Op)
    (hnext : ∀ t, P t → P t.next.2)
    (hcache : ∀ t ks, P t → t.drain.1 = .ok ks → P { t.drain.2 with drained := some ks })
    (hset : ∀ t o, P t → P (t.setOptions o))
    (hreset : op = .reset → P t.reset)
    (hinit : ∀ input o, op = .init input o → P (t.init input o)) (ht : P t) :
    P (t.perform op).2 := by
  cases op with
  | init input o => exact hinit input o rfl
  | reset => exact hreset rfl
  | setOptions o => exact hset t o ht
  | next => exact hnext t ht
  | all => exact all_state hnext hcache t ht
  | pull n => exact Tokens.pull_state hnext n ⟨t, false⟩ ht

/-- What holds of the tokens of steps and of those that are kept, holds of all tokens that an
    operation hands out. -/
theorem perform_tokens {P : Tokenizer → Prop} {R : Token → Prop} {t : Tokenizer} (op : Op)
    (hnext : ∀ t, P t → P t.next.2)
    (htoken : ∀ t k t', P t → t.next = (.ok (some k), t') → R k)
    (hdrained : op = .all → ∀ ks, t.drained = some ks → ∀ k ∈ ks, R k) (ht : P t) :
    ∀ k ∈ (t.perform op).1.tokens, R k := by
  cases op with
  | init | reset | setOptions => simp [perform, Answer.tokens]
  | next =>
    rcases h : t.next with ⟨e | _ | k, t'⟩ <;> simp only [perform, h, Answer.tokens] <;> simp
    exact htoken t k t' ht h
  | all =>
    have hall := drain_tokens hnext htoken t ht
    rcases hc : t.drained with _ | ks
    · rcases hd : t.drain with ⟨e | ks, t'⟩ <;> rw [hd] at hall
      · simp [perform, all_of_error hc hd, Answer.tokens]
      · simpa [perform, all_of_ok hc hd, Answer.tokens] using hall
    · simpa [perform, all_of_drained hc, Answer.tokens] using hdrained rfl ks hc
  | pull n =>
    intro k hk
    obtain ⟨item, hitem, hk⟩ := List.mem_filterMap.1 hk
    rcases item with _ | e | k' <;> cases hk
    exact Tokens.pull_tokens hnext htoken n ⟨t, false⟩ ht k hitem

/-- What an operation keeps, and what holds of its answer, holds along a session. -/
theorem session_induction {P : Tokenizer → Prop} {A : Answer → Prop} {Q : Op → Prop}
    (hop : ∀ t op, Q op → P t → A (t.perform op).1 ∧ P (t.perform op).2) :
    ∀ (ops : List Op) (t : Tokenizer), (∀ op ∈ ops, Q op) → P t →
      (∀ a ∈ (t.session ops).1, A a) ∧ P (t.session ops).2
  | [], _, _, ht => ⟨by simp [session], ht⟩
  | op :: ops, t, hQ, ht => by
    obtain ⟨ha, ht'⟩ := hop t op (hQ op List.mem_cons_self) ht
    obtain ⟨has, hend⟩ := session_induction hop ops (t.perform op).2
      (fun op' h => hQ op' (List.mem_cons_of_mem _ h)) ht'
    exact ⟨List.forall_mem_cons.2 ⟨ha, has⟩, hend⟩

end Tokenizer

/-! ## Traces -/

/-- What can be seen of a tokenizer. -/
structure View where
  offset : Nat
  line : Nat
  column : Nat
  hasMore : Bool
  options : Options

/-- An operation with its answer, and what can be seen of the tokenizer behind it. -/
structure Report where
  op : Op
  answer : Answer
  view : View

namespace Tokenizer

/-- What can be seen of a tokenizer. -/
def view (t : Tokenizer) : View where
  offset := t.position.offset
  line := t.position.line
  column := t.position.column
  hasMore := t.hasMore
  options := t.options

/-- The reports of operations that are performed one after the other. -/
def trace (t : Tokenizer) : List Op → List Report
  | [] => []
  | op :: ops => ⟨op, (t.perform op).1, (t.perform op).2.view⟩ :: (t.perform op).2.trace ops

end Tokenizer

/-! ## A small spec -/

/-- Words, in capitals, and ends of lines. -/
def wordDraft : Draft := .bare [
  ⟨"[a-zé]+", .ofFunction fun text => some (.typeAndValue "WORD" (text.map Char.toUpper))⟩,
  ⟨"\\n", .label "LINE"⟩]

/-- The spec of `wordDraft`. -/
def wordSpec : Spec := (Spec.normalize wordDraft).toOption.getD ⟨[], {}⟩

end OrderedLexer
