/-
  Steps, sequences and lists agree.

  However the tokens of an input are asked for, one by one (`Op.next`) or some at a time (`Op.pull`),
  the answers hand out the same production, in order: `Serves` says so of a list of answers and the
  tokens that are left behind them.  `session_serves`: so does every session of such operations.

  `all` gives what is left at any time.  From then on it gives the same again, and nothing else is
  given (`session_of_spent`).  `init_session_agree` puts this together for a new input.
-/
import OrderedLexer.Proofs.Invariant

namespace OrderedLexer

/-! ## Answers that hand out a production -/

/-- Whether an operation asks for the next tokens. -/
def Op.pulls : Op → Bool
  | .next | .pull _ => true
  | _ => false

/-- Whether an operation asks for tokens. -/
def Op.reads : Op → Bool
  | .next | .pull _ | .all => true
  | _ => false

/-- What an answer reports, item by item: tokens, errors and ends. -/
def Answer.items : Answer → List (Option (Except LexError Token))
  | .next (.ok (some k)) => [some (.ok k)]
  | .next (.ok none) => [none]
  | .next (.error e) => [some (.error e)]
  | .pull items => items
  | _ => []

/-- An answer is one of a production that ends in an error, if any.  A step gives a token or what the
    production ends in; a sequence gives tokens, then the error once, then nothing more. -/
def Answer.Fits (error : Option LexError) : Answer → Prop
  | .next r => (∃ k, r = .ok (some k)) ∨ r = Production.head ⟨[], error⟩
  | .pull items => ∃ ks n, items = tokenItems ks ++ Production.ending ⟨[], error⟩ n
  | _ => True

/-- The tokens that answers hand out. -/
def handedOut (answers : List Answer) : List Token := answers.flatMap Answer.tokens

/-- Answers hand out a production in order, up to the tokens that are left. -/
structure Serves (p : Production) (answers : List Answer) (left : List Token) : Prop where
  /-- None is lost, given twice or out of order. -/
  tokens : p.tokens = handedOut answers ++ left
  /-- The end, or the error, is reported behind all tokens only. -/
  ends : ∃ reports, answers.flatMap Answer.items = tokenItems (handedOut answers) ++ reports ∧
    (reports ≠ [] → left = []) ∧
    ∀ r ∈ reports, r = none ∨ ∃ e, p.error = some e ∧ r = some (.error e)
  fits : ∀ a ∈ answers, a.Fits p.error

theorem tokenItems_append (ks ks' : List Token) :
    tokenItems (ks ++ ks') = tokenItems ks ++ tokenItems ks' := List.map_append

namespace Serves

theorem nil (p : Production) : Serves p [] p.tokens :=
  ⟨rfl, ⟨[], rfl, by simp, by simp⟩, by simp⟩

theorem append {p : Production} {as bs : List Answer} {left left' : List Token}
    (h : Serves p as left) (h' : Serves ⟨left, p.error⟩ bs left') : Serves p (as ++ bs) left' := by
  obtain ⟨rs, hitems, hleft, hrs⟩ := h.ends
  obtain ⟨rs', hitems', hleft', hrs'⟩ := h'.ends
  have htokens : left = handedOut bs ++ left' := h'.tokens
  have happ : handedOut (as ++ bs) = handedOut as ++ handedOut bs := List.flatMap_append
  refine ⟨?_, ⟨rs ++ rs', ?_, ?_, ?_⟩, ?_⟩
  · rw [h.tokens, htokens, happ, List.append_assoc]
  · -- a report of the first answers leaves no tokens for the others
    have hswap : rs ++ tokenItems (handedOut bs) = tokenItems (handedOut bs) ++ rs := by
      by_cases hnil : rs = []
      · rw [hnil, List.nil_append, List.append_nil]
      · rw [(List.append_eq_nil_iff.1 (htokens.symm.trans (hleft hnil))).1]
        exact List.append_nil rs
    rw [List.flatMap_append, hitems, hitems', happ, tokenItems_append, List.append_assoc,
      List.append_assoc, ← List.append_assoc rs, hswap, List.append_assoc]
  · intro hne
    by_cases hnil : rs = []
    · exact hleft' fun h => hne (by rw [hnil, h]; rfl)
    · exact (List.append_eq_nil_iff.1 (htokens.symm.trans (hleft hnil))).2
  · intro r hr
    rcases List.mem_append.1 hr with hr | hr
    · exact hrs r hr
    · exact hrs' r hr
  · intro a ha
    rcases List.mem_append.1 ha with ha | ha
    · exact h.fits a ha
    · exact h'.fits a ha

end Serves

namespace Production

theorem mem_ending {p : Production} {n : Nat} {r : Option (Except LexError Token)}
    (h : r ∈ p.ending n) : r = none ∨ ∃ e, p.error = some e ∧ r = some (.error e) := by
  have h := List.mem_of_mem_take h
  rcases List.mem_append.1 h with h | h
  · obtain ⟨e, he, rfl⟩ := List.mem_map.1 h
    exact .inr ⟨e, Option.mem_toList.1 he, rfl⟩
  · exact .inl (List.eq_of_mem_replicate h)

/-- A step answers the head of a production. -/
theorem serves_head (p : Production) : Serves p [.next p.head] (p.drop 1).tokens := by
  obtain ⟨tokens, error⟩ := p
  cases tokens with
  | nil =>
    cases error with
    | none => exact ⟨rfl, ⟨[none], rfl, fun _ => rfl, by simp⟩, by simp [Answer.Fits]⟩
    | some e => exact ⟨rfl, ⟨[some (.error e)], rfl, fun _ => rfl, by simp⟩, by simp [Answer.Fits]⟩
  | cons k ks =>
    exact ⟨rfl, ⟨[], rfl, by simp, by simp⟩, by simp [Answer.Fits, head]⟩

/-- A sequence answers the first items of a production. -/
theorem serves_items (p : Production) (n : Nat) :
    Serves p [.pull (p.items n)] (p.drop n).tokens := by
  have hnone : ∀ r ∈ p.ending (n - p.tokens.length), r.bind Except.toOption = none := by
    intro r hr
    rcases mem_ending hr with rfl | ⟨e, -, rfl⟩ <;> rfl
  have hhanded : handedOut [.pull (p.items n)] = p.tokens.take n := by
    simp only [handedOut, List.flatMap_singleton, Answer.tokens, items, List.filterMap_append,
      List.filterMap_eq_nil_iff.2 hnone, tokenItems, List.filterMap_map, List.append_nil]
    exact List.filterMap_some
  refine ⟨?_, ⟨p.ending (n - p.tokens.length), ?_, fun hne => ?_, fun r => mem_ending⟩, ?_⟩
  · rw [hhanded]; exact (List.take_append_drop n p.tokens).symm
  · rw [hhanded]; simp [Answer.items, items]
  · have : p.tokens.length ≤ n := by
      by_contra hlt
      exact hne (by rw [Nat.sub_eq_zero_of_le (by omega)]; rfl)
    exact List.drop_eq_nil_of_le this
  · rintro a ha
    rw [List.mem_singleton.1 ha]
    exact ⟨p.tokens.take n, n - p.tokens.length, rfl⟩

end Production

/-! ## Sessions of steps and sequences -/

/-- What an operation answers when all tokens were given. -/
def Op.answerSpent (ks : List Token) : Op → Answer
  | .next => .next (.ok none)
  | .all => .all (.ok ks)
  | .pull n => .pull (List.replicate n none)
  | _ => .done

namespace Tokenizer

variable {t : Tokenizer}

theorem next_drained (h : t.drained = none) : t.next.2.drained = none := by
  rw [(next_frame t).2.2.2, h]

/-- A step or a sequence hands out the first part of the production and leaves the other one. -/
theorem perform_serves (op : Op) (hop : op.pulls = true) (hd : t.drained = none) :
    ∃ left, Serves t.production [(t.perform op).1] left ∧
      (t.perform op).2.production = ⟨left, t.production.error⟩ ∧ (t.perform op).2.drained = none := by
  cases op with
  | init | reset | setOptions | all => cases hop
  | next =>
    obtain ⟨hhead, hdrop⟩ := next_production t
    refine ⟨(t.production.drop 1).tokens, ?_, hdrop, next_drained hd⟩
    rw [perform, hhead]
    exact t.production.serves_head
  | pull n =>
    obtain ⟨hitems, hdrop⟩ := pull_production n t
    refine ⟨(t.production.drop n).tokens, ?_, hdrop, ?_⟩
    · rw [perform, hitems]
      exact t.production.serves_items n
    · exact Tokens.pull_state (P := fun t => t.drained = none) (fun _ => next_drained) n ⟨t, false⟩ hd

theorem session_serves : ∀ (ops : List Op) (t : Tokenizer), (∀ op ∈ ops, op.pulls = true) →
    t.drained = none → ∃ left, Serves t.production (t.session ops).1 left ∧
      (t.session ops).2.production = ⟨left, t.production.error⟩ ∧ (t.session ops).2.drained = none
  | [], t, _, hd => ⟨_, .nil _, rfl, hd⟩
  | op :: ops, t, hops, hd => by
    obtain ⟨left, hserve, hprod, hd'⟩ := perform_serves op (hops op List.mem_cons_self) hd
    obtain ⟨left', hserve', hprod', hd''⟩ := session_serves ops (t.perform op).2
      (fun op' h => hops op' (List.mem_cons_of_mem _ h)) hd'
    rw [hprod] at hserve' hprod'
    exact ⟨left', hserve.append hserve', hprod', hd''⟩

/-! ## All tokens -/

theorem perform_of_spent {ks : List Token} (hf : t.failed = none) (hend : t.finished = true)
    (hd : t.drained = some ks) (op : Op) (hop : op.reads = true) :
    t.perform op = (op.answerSpent ks, t) := by
  have hnext := next_of_finished hf hend
  cases op with
  | init | reset | setOptions => cases hop
  | next => rw [perform, hnext]; rfl
  | all => rw [perform, all_of_drained hd]; rfl
  | pull n =>
    cases n with
    | zero => rfl
    | succ n =>
      have hs : Tokens.next ⟨t, false⟩ = (none, ⟨t, true⟩) := by simp [Tokens.next, hnext]
      rw [perform, Tokens.pull, hs, Tokens.pull_of_done rfl]; rfl

/-- When all tokens were given, the list is given again, and steps and sequences give nothing. -/
theorem session_of_spent {ks : List Token} (hf : t.failed = none) (hend : t.finished = true)
    (hd : t.drained = some ks) :
    ∀ ops : List Op, (∀ op ∈ ops, op.reads = true) → (t.session ops).1 = ops.map (Op.answerSpent ks)
  | [], _ => rfl
  | op :: ops, hops => by
    have hop := perform_of_spent hf hend hd op (hops op List.mem_cons_self)
    rw [session, hop, List.map_cons, session_of_spent hf hend hd ops fun op' h =>
      hops op' (List.mem_cons_of_mem _ h)]

theorem restarts_of_reads {op : Op} (h : op.reads = true) : op.restarts = false := by
  cases op with
  | init | reset => cases h
  | _ => rfl

/-- What `all` answers, and what every read answers behind it. -/
theorem session_all (hd : t.drained = none) :
    (t.production.error = none → t.all.1 = .ok t.production.tokens ∧
      ∀ ops : List Op, (∀ op ∈ ops, op.reads = true) →
        (t.all.2.session ops).1 = ops.map (Op.answerSpent t.production.tokens)) ∧
    ∀ e, t.production.error = some e → t.all.1 = .error e ∧
      ∀ ops : List Op, (∀ op ∈ ops, op.reads = true) →
        (t.all.2.session ops).1 = ops.map (Op.answerFailed e) := by
  have hprod := drain_production t
  refine ⟨fun he => ?_, fun e he => ?_⟩ <;> simp only [Production.result, he] at hprod
  · obtain ⟨hf, hend⟩ := finished_of_drain hprod
    rw [all_of_ok hd (Prod.ext hprod rfl)]
    exact ⟨rfl, session_of_spent hf hend rfl⟩
  · have hkeep : t.drain.2.drained = none :=
      drain_state (P := fun t => t.drained = none) (fun _ => next_drained) t hd
    rw [all_of_error hd (Prod.ext hprod rfl)]
    exact ⟨rfl, fun ops hops => (session_of_failed ops _ (failed_of_drain hprod) hkeep
      fun op hop => restarts_of_reads (hops op hop)).1⟩

/-- **Steps, sequences and lists agree.**  Whatever steps are made and sequences asked on a new
    input, the answers hand out its production in order.  At any time `all` gives what is left, if the
    production does not end in an error, and then again and again, while nothing else is given; if it
    ends in an error, `all` gives the error. -/
theorem init_session_agree (t : Tokenizer) (input : String) (o : Option Options) (ops : List Op)
    (hops : ∀ op ∈ ops, op.pulls = true) :
    ∃ left, Serves (t.init input o).production ((t.init input o).session ops).1 left ∧
      ((t.init input o).production.error = none →
        ((t.init input o).session ops).2.all.1 = .ok left ∧
        ∀ ops' : List Op, (∀ op ∈ ops', op.reads = true) →
          (((t.init input o).session ops).2.all.2.session ops').1 = ops'.map (Op.answerSpent left)) ∧
      ∀ e, (t.init input o).production.error = some e →
        ((t.init input o).session ops).2.all.1 = .error e ∧
        ∀ ops' : List Op, (∀ op ∈ ops', op.reads = true) →
          (((t.init input o).session ops).2.all.2.session ops').1 = ops'.map (Op.answerFailed e) := by
  obtain ⟨left, hserve, hprod, hd⟩ := session_serves ops (t.init input o) hops rfl
  have hall := session_all hd
  rw [hprod] at hall
  exact ⟨left, hserve, hall⟩

theorem init_session_agree_words :
    (∀ op ∈ [Op.next, .pull 1], op.pulls = true) ∧
      (∃ left, Serves ((ofSpec wordSpec).init "aé\nb" none).production
        (((ofSpec wordSpec).init "aé\nb" none).session [.next, .pull 1]).1 left ∧
        (((ofSpec wordSpec).init "aé\nb" none).session [.next, .pull 1]).2.all.1 = .ok left) ∧
      ∃ left e, Serves ((ofSpec wordSpec).init "aé\n?" none).production
        (((ofSpec wordSpec).init "aé\n?" none).session [.next, .pull 1]).1 left ∧
        ((ofSpec wordSpec).init "aé\n?" none).production.error = some e ∧
        (((ofSpec wordSpec).init "aé\n?" none).session [.next, .pull 1]).2.all.1 = .error e := by
  have hops : ∀ op ∈ [Op.next, .pull 1], op.pulls = true := by simp [Op.pulls]
  have hend : ((ofSpec wordSpec).init "aé\nb" none).production.error = none := by decide +kernel
  have herror : ((ofSpec wordSpec).init "aé\n?" none).production.error.isSome = true := by
    decide +kernel
  obtain ⟨e, he⟩ := Option.isSome_iff_exists.1 herror
  obtain ⟨left, hserve, hall, -⟩ := init_session_agree (ofSpec wordSpec) "aé\nb" none _ hops
  obtain ⟨left', hserve', -, hall'⟩ := init_session_agree (ofSpec wordSpec) "aé\n?" none _ hops
  exact ⟨hops, ⟨left, hserve, (hall hend).1⟩, left', e, hserve', he, (hall' e he).1⟩

end Tokenizer

end OrderedLexer
