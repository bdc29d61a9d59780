/-
  Options do not influence scanning.

  Two sessions that ask for the same, whatever options are given where (`Op.scan?`), scan the same:
  their answers are `Alike`, which leaves open only whether tokens have locations, and their
  positions agree (`Twin.trace`).  The two tokenizers stay `Twin`s on the way: they differ in their
  options, and in the locations of the tokens that they keep.

  `Keeps.located` says when a token has a location: if locations were captured when it was scanned.
  The tokens of `all` are kept, and were scanned when they were first asked for (`Report.keep`).
-/
import OrderedLexer.Proofs.Restart

namespace OrderedLexer

/-! ## Answers that differ in locations -/

/-- Two tokens have the same type and value, and the same location if both have one. -/
structure Token.Alike (k k' : Token) : Prop where
  kind : k.kind = k'.kind
  value : k.value = k'.value
  loc : ∀ l l', k.loc = some l → k'.loc = some l' → l = l'

/-- Two results are the same error, or related. -/
inductive ResultRel {α : Type} (R : α → α → Prop) : Except LexError α → Except LexError α → Prop
  | error (e : LexError) : ResultRel R (.error e) (.error e)
  | ok {a b : α} (h : R a b) : ResultRel R (.ok a) (.ok b)

/-- Two answers are the same up to the locations of tokens. -/
inductive Answer.Alike : Answer → Answer → Prop
  | done : Alike .done .done
  | next {r r' : Except LexError (Option Token)} (h : ResultRel (Option.Rel Token.Alike) r r') :
      Alike (.next r) (.next r')
  | all {r r' : Except LexError (List Token)} (h : ResultRel (List.Forall₂ Token.Alike) r r') :
      Alike (.all r) (.all r')
  | pull {items items' : List (Option (Except LexError Token))}
      (h : List.Forall₂ (Option.Rel (ResultRel Token.Alike)) items items') :
      Alike (.pull items) (.pull items')

/-- An operation without the options that it gives; none if it does nothing else. -/
def Op.scan? : Op → Option Op
  | .setOptions _ => none
  | .init input _ => some (.init input none)
  | op => some op

/-- Two reports are the same up to options and the locations of tokens. -/
structure Report.Alike (r r' : Report) : Prop where
  op : r.op.scan? = r'.op.scan?
  answer : r.answer.Alike r'.answer
  offset : r.view.offset = r'.view.offset
  line : r.view.line = r'.view.line
  column : r.view.column = r'.view.column
  hasMore : r.view.hasMore = r'.view.hasMore

/-- The reports of operations that do more than give options. -/
def scanReports (rs : List Report) : List Report := rs.filter fun r => r.op.scan?.isSome

/-! ## Twins -/

namespace Tokenizer

/-- Two tokenizers differ at most in options and in the locations of the tokens that they keep. -/
structure Twin (t t' : Tokenizer) : Prop where
  spec : t.spec = t'.spec
  input : t.input = t'.input
  position : t.position = t'.position
  rest : t.rest = t'.rest
  finished : t.finished = t'.finished
  failed : t.failed = t'.failed
  drained : Option.Rel (List.Forall₂ Token.Alike) t.drained t'.drained

variable {t t' : Tokenizer}

theorem tokenOf_alike (hpos : t.position = t'.position) (emit : Emit) (matched : List Char) :
    (t.tokenOf emit matched).Alike (t'.tokenOf emit matched) := by
  refine ⟨rfl, rfl, fun l l' hl hl' => ?_⟩
  simp only [tokenOf] at hl hl'
  split_ifs at hl hl'
  cases hl
  cases hl'
  rw [hpos]

theorem Twin.outcome (h : Twin t t') : t.outcome = t'.outcome := by
  rw [Tokenizer.outcome, Tokenizer.outcome, h.spec, h.rest, h.finished, h.failed]

theorem Twin.next (h : Twin t t') :
    ResultRel (Option.Rel Token.Alike) t.next.1 t'.next.1 ∧ Twin t.next.2 t'.next.2 := by
  rw [next_eq_carryOut, next_eq_carryOut, h.outcome]
  cases t'.outcome with
  | again e => exact ⟨.error e, h⟩
  | stop => exact ⟨.ok .none, ⟨h.spec, h.input, h.position, h.rest, rfl, h.failed, h.drained⟩⟩
  | fail cause =>
    have he : LexError.at_ t.input t.position cause = .at_ t'.input t'.position cause := by
      rw [h.input, h.position]
    simp only [carryOut, fail, he]
    exact ⟨.error _, ⟨h.spec, h.input, h.position, h.rest, h.finished, rfl, h.drained⟩⟩
  | accept emit matched rest =>
    have hpos : t.position.advance matched = t'.position.advance matched := by rw [h.position]
    exact ⟨.ok (.some (tokenOf_alike h.position emit matched)),
      ⟨h.spec, h.input, hpos, rfl, h.finished, h.failed, h.drained⟩⟩

theorem Twin.drain (h : Twin t t') :
    ResultRel (List.Forall₂ Token.Alike) t.drain.1 t'.drain.1 ∧ Twin t.drain.2 t'.drain.2 := by
  induction t using next_induction generalizing t' with
  | step t ih =>
    obtain ⟨hans, htwin⟩ := h.next
    rcases hn : t.next with ⟨r, u⟩
    rcases hn' : t'.next with ⟨r', u'⟩
    rw [hn, hn'] at hans htwin
    cases hans with
    | error e =>
      rw [drain_of_error hn, drain_of_error hn']
      exact ⟨.error e, htwin⟩
    | ok hopt =>
      cases hopt with
      | none =>
        rw [drain_of_end hn, drain_of_end hn']
        exact ⟨.ok .nil, htwin⟩
      | @some k k' hk =>
        obtain ⟨hrest, hend⟩ := ih k u hn htwin
        rw [drain_of_token hn, drain_of_token hn']
        refine ⟨?_, hend⟩
        generalize u.drain.1 = d at hrest
        generalize u'.drain.1 = d' at hrest
        cases hrest with
        | error e => exact .error e
        | ok hks => exact .ok (.cons hk hks)

theorem Twin.all (h : Twin t t') :
    ResultRel (List.Forall₂ Token.Alike) t.all.1 t'.all.1 ∧ Twin t.all.2 t'.all.2 := by
  obtain ⟨hres, htwin⟩ := h.drain
  rcases hd : t.drained with _ | ks <;> rcases hd' : t'.drained with _ | ks' <;>
    have hkept := h.drained <;> rw [hd, hd'] at hkept <;> cases hkept
  · rcases hr : t.drain with ⟨r, u⟩
    rcases hr' : t'.drain with ⟨r', u'⟩
    rw [hr, hr'] at hres htwin
    cases hres with
    | error e =>
      rw [all_of_error hd hr, all_of_error hd' hr']
      exact ⟨.error e, htwin⟩
    | ok hks =>
      rw [all_of_ok hd hr, all_of_ok hd' hr']
      exact ⟨.ok hks, ⟨htwin.spec, htwin.input, htwin.position, htwin.rest, htwin.finished,
        htwin.failed, .some hks⟩⟩
  · next hks =>
    rw [all_of_drained hd, all_of_drained hd']
    exact ⟨.ok hks, h⟩

theorem Twin.pull (n : Nat) (done : Bool) (h : Twin t t') :
    List.Forall₂ (Option.Rel (ResultRel Token.Alike)) (Tokens.pull n ⟨t, done⟩).1
        (Tokens.pull n ⟨t', done⟩).1 ∧
      Twin (Tokens.pull n ⟨t, done⟩).2.tokenizer (Tokens.pull n ⟨t', done⟩).2.tokenizer := by
  induction n generalizing t t' done with
  | zero => exact ⟨.nil, h⟩
  | succ n ih =>
    cases done with
    | true =>
      obtain ⟨hitems, htwin⟩ := ih true h
      exact ⟨.cons .none hitems, htwin⟩
    | false =>
      obtain ⟨hans, htwin⟩ := h.next
      rw [Tokens.pull, Tokens.pull, Tokens.next, Tokens.next]
      rcases hn : t.next with ⟨r, u⟩
      rcases hn' : t'.next with ⟨r', u'⟩
      rw [hn, hn'] at hans htwin
      cases hans with
      | error e =>
        obtain ⟨hitems, hend⟩ := ih true htwin
        exact ⟨.cons (.some (.error e)) hitems, hend⟩
      | ok hopt =>
        cases hopt with
        | none =>
          obtain ⟨hitems, hend⟩ := ih true htwin
          exact ⟨.cons .none hitems, hend⟩
        | some hk =>
          obtain ⟨hitems, hend⟩ := ih false htwin
          exact ⟨.cons (.some (.ok hk)) hitems, hend⟩

theorem Twin.reset (hspec : t.spec = t'.spec) (hinput : t.input = t'.input) :
    Twin t.reset t'.reset :=
  ⟨hspec, hinput, rfl, congrArg String.toList hinput, rfl, rfl, .none⟩

theorem Twin.withOptions (h : Twin t t') (o o' : Options) :
    Twin { t with options := o } { t' with options := o' } :=
  ⟨h.spec, h.input, h.position, h.rest, h.finished, h.failed, h.drained⟩

theorem Twin.perform (h : Twin t t') {op op' s : Op} (hop : op.scan? = some s)
    (hop' : op'.scan? = some s) :
    (t.perform op).1.Alike (t'.perform op').1 ∧ Twin (t.perform op).2 (t'.perform op').2 := by
  cases op with
  | init input o =>
    cases hop
    cases op' <;> cases hop'
    rename_i o'
    exact ⟨.done, by cases o <;> cases o' <;> exact Twin.reset h.spec rfl⟩
  | reset =>
    cases hop
    cases op' <;> cases hop'
    exact ⟨.done, Twin.reset h.spec h.input⟩
  | setOptions => cases hop
  | next =>
    cases hop
    cases op' <;> cases hop'
    exact ⟨.next h.next.1, h.next.2⟩
  | all =>
    cases hop
    cases op' <;> cases hop'
    exact ⟨.all h.all.1, h.all.2⟩
  | pull n =>
    cases hop
    cases op' <;> cases hop'
    exact ⟨.pull (h.pull n false).1, (h.pull n false).2⟩

/-! ## Sessions -/

theorem scanReports_eq_nil (ops : List Op) (t : Tokenizer) (h : ops.filterMap Op.scan? = []) :
    scanReports (t.trace ops) = [] := by
  induction ops generalizing t with
  | nil => rfl
  | cons op ops ih =>
    cases op with
    | setOptions o => exact ih (t.setOptions o) h
    | init | reset | next | all | pull => cases h

/-- Up to the next operation that does more than give options, only the options change. -/
theorem exists_scan {s : Op} {ss : List Op} (ops : List Op) (t : Tokenizer)
    (h : ops.filterMap Op.scan? = s :: ss) :
    ∃ (o : Options) (op : Op) (rest : List Op), op.scan? = some s ∧
      rest.filterMap Op.scan? = ss ∧
      scanReports (t.trace ops) = ⟨op, ({ t with options := o }.perform op).1,
        ({ t with options := o }.perform op).2.view⟩ ::
          scanReports (({ t with options := o }.perform op).2.trace rest) := by
  induction ops generalizing t with
  | nil => cases h
  | cons op ops ih =>
    rcases hop : op.scan? with _ | s'
    · cases op with
      | setOptions o => exact ih (t.setOptions o) h
      | init | reset | next | all | pull => cases hop
    · rw [List.filterMap_cons_some hop, List.cons.injEq] at h
      refine ⟨t.options, op, ops, hop.trans (congrArg some h.1), h.2, ?_⟩
      rw [trace, scanReports, List.filter_cons_of_pos (by simp [hop])]
      rfl

theorem Twin.trace (h : Twin t t') {ops ops' : List Op}
    (hops : ops.filterMap Op.scan? = ops'.filterMap Op.scan?) :
    List.Forall₂ Report.Alike (scanReports (t.trace ops)) (scanReports (t'.trace ops')) := by
  -- the induction is on what both sessions ask for; options given in between are passed over
  generalize hs : ops'.filterMap Op.scan? = ss at hops
  induction ss generalizing t t' ops ops' with
  | nil =>
    rw [scanReports_eq_nil ops t hops, scanReports_eq_nil ops' t' hs]
    exact .nil
  | cons s ss ih =>
    obtain ⟨o, op, rest, hop, hrest, htrace⟩ := exists_scan ops t hops
    obtain ⟨o', op', rest', hop', hrest', htrace'⟩ := exists_scan ops' t' hs
    obtain ⟨hans, htwin⟩ := (h.withOptions o o').perform hop hop'
    rw [htrace, htrace']
    refine .cons ⟨hop.trans hop'.symm, hans, ?_, ?_, ?_, ?_⟩ (ih htwin hrest' hrest)
    · exact congrArg Position.offset htwin.position
    · exact congrArg Position.line htwin.position
    · exact congrArg Position.column htwin.position
    · exact congrArg (fun rest : List Char => !rest.isEmpty) htwin.rest

end Tokenizer

/-! ## Tokens with locations -/

/-- Whether locations were captured when the tokens of a report were scanned.  If `all` has given
    its tokens before, `kept` says so of them. -/
def Report.captured (kept : Option Bool) (r : Report) : Bool :=
  match r.op with
  | .all => kept.getD r.view.options.captures
  | _ => r.view.options.captures

/-- The same of the tokens that are kept behind a report: those that `all` gave first, up to a
    restart. -/
def Report.keep (kept : Option Bool) (r : Report) : Option Bool :=
  if r.op.restarts then none
  else match r.answer with
    | .all (.ok _) => some (r.captured kept)
    | _ => kept

/-- The tokens of reports have locations if they were captured when the tokens were scanned, and
    only then. -/
def Located (kept : Option Bool) : List Report → Prop
  | [] => True
  | r :: rs => (∀ k ∈ r.answer.tokens, k.loc.isSome = r.captured kept) ∧ Located (r.keep kept) rs

namespace Tokenizer

variable {t t' : Tokenizer}

theorem isSome_loc_of_next {k : Token} (h : t.next = (.ok (some k), t')) :
    k.loc.isSome = t.options.captures := by
  cases step_of_next h with
  | accept => simp only [tokenOf]; split <;> simp [*]

/-- Tokens that were not kept are scanned under the options in force. -/
theorem isSome_loc_of_perform (t : Tokenizer) (op : Op) (hop : op = .all → t.drained = none) :
    ∀ k ∈ (t.perform op).1.tokens, k.loc.isSome = t.options.captures := by
  have hnext : ∀ u : Tokenizer, u.options = t.options → u.next.2.options = t.options :=
    fun u hu => (next_frame u).2.1.trans hu
  have htoken : ∀ (u : Tokenizer) k u', u.options = t.options → u.next = (.ok (some k), u') →
      k.loc.isSome = t.options.captures := fun u k u' hu hn => hu ▸ isSome_loc_of_next hn
  refine perform_tokens op hnext htoken (fun he ks hks => ?_) rfl
  rw [hop he] at hks
  cases hks

/-- The tokens that are kept were scanned with locations or without. -/
structure Keeps (t : Tokenizer) (kept : Option Bool) : Prop where
  nothing : t.drained = none → kept = none
  tokens : ∀ ks, t.drained = some ks → ∃ c, kept = some c ∧ ∀ k ∈ ks, k.loc.isSome = c

theorem reset_keeps (t : Tokenizer) : t.reset.Keeps none :=
  ⟨fun _ => rfl, fun _ h => by cases h⟩

theorem Keeps.of_drained {kept : Option Bool} (h : t.Keeps kept) (hd : t'.drained = t.drained) :
    t'.Keeps kept := ⟨fun hn => h.nothing (hd ▸ hn), fun ks hks => h.tokens ks (hd ▸ hks)⟩

/-- `all` gives the tokens that are kept, or else keeps those that it gives. -/
theorem Keeps.all {kept : Option Bool} (h : t.Keeps kept) :
    (∀ ks, t.all.1 = .ok ks → ∀ k ∈ ks, k.loc.isSome = kept.getD t.options.captures) ∧
      ((∃ ks, t.all.1 = .ok ks) → t.all.2.Keeps (some (kept.getD t.options.captures))) ∧
      ∀ e, t.all.1 = .error e → t.all.2.Keeps kept := by
  rcases hd : t.drained with _ | ks
  · have hscan := isSome_loc_of_perform t .all fun _ => hd
    have hkeep : t.drain.2.drained = none :=
      drain_state (P := fun t => t.drained = none) (fun _ => next_drained) t hd
    rw [h.nothing hd] at *
    rcases hr : t.drain with ⟨e | ks, t'⟩
    · rw [hr] at hkeep
      rw [all_of_error hd hr]
      refine ⟨?_, ?_, fun e' _ => ?_⟩
      · rintro _ ⟨⟩
      · rintro ⟨_, ⟨⟩⟩
      · exact ⟨fun _ => rfl, fun ks hks => by rw [hkeep] at hks; cases hks⟩
    · rw [Tokenizer.perform, all_of_ok hd hr] at hscan
      rw [all_of_ok hd hr]
      refine ⟨?_, fun _ => ⟨?_, ?_⟩, ?_⟩
      · rintro _ ⟨⟩
        exact hscan
      · rintro ⟨⟩
      · rintro _ ⟨⟩
        exact ⟨_, rfl, hscan⟩
      · rintro _ ⟨⟩
  · obtain ⟨c, rfl, hks⟩ := h.tokens ks hd
    rw [all_of_drained hd]
    refine ⟨?_, fun _ => h, ?_⟩
    · rintro _ ⟨⟩
      exact hks
    · rintro _ ⟨⟩

theorem Keeps.perform {kept : Option Bool} (h : t.Keeps kept) (op : Op) :
    (∀ k ∈ (t.perform op).1.tokens,
      k.loc.isSome = Report.captured kept ⟨op, (t.perform op).1, (t.perform op).2.view⟩) ∧
    (t.perform op).2.Keeps (Report.keep kept ⟨op, (t.perform op).1, (t.perform op).2.view⟩) := by
  have hsame : t.SameSetup t := ⟨rfl, rfl, rfl⟩
  have hread : op.reads = true → (t.perform op).2.view.options = t.options :=
    fun hop => (hsame.perform op hop).options
  have hscan := isSome_loc_of_perform t op
  cases op with
  | init input o => exact ⟨by simp [Tokenizer.perform, Answer.tokens], reset_keeps _⟩
  | reset => exact ⟨by simp [Tokenizer.perform, Answer.tokens], reset_keeps _⟩
  | setOptions o => exact ⟨by simp [Tokenizer.perform, Answer.tokens], h.of_drained rfl⟩
  | next =>
    refine ⟨?_, h.of_drained (next_frame t).2.2.2⟩
    simp only [Report.captured, hread rfl]
    exact hscan (by rintro ⟨⟩)
  | pull n =>
    refine ⟨?_, h.of_drained ?_⟩
    · simp only [Report.captured, hread rfl]
      exact hscan (by rintro ⟨⟩)
    · exact Tokens.pull_state (P := fun u => u.drained = t.drained)
        (fun u hu => (next_frame u).2.2.2.trans hu) n ⟨t, false⟩ rfl
  | all =>
    obtain ⟨hok, hkeeps, herror⟩ := h.all
    simp only [Report.captured, Report.keep, hread rfl]
    rcases hr : t.all.1 with e | ks
    · simp only [Tokenizer.perform, hr]
      exact ⟨by simp [Answer.tokens], herror e hr⟩
    · simp only [Tokenizer.perform, hr]
      exact ⟨hok ks hr, hkeeps ⟨ks, hr⟩⟩

theorem Keeps.located {kept : Option Bool} (h : t.Keeps kept) (ops : List Op) :
    Located kept (t.trace ops) := by
  induction ops generalizing t kept with
  | nil => exact trivial
  | cons op ops ih => exact ⟨(h.perform op).1, ih (h.perform op).2⟩

/-- **Options do not influence scanning.**  Two sessions that ask for the same, with whatever options
    given where, have the same answers up to the locations of tokens, which agree where both have
    them, and the same positions throughout.  A token has a location just if locations were captured
    when it was scanned. -/
theorem trace_scan (spec : Spec) (ops ops' : List Op)
    (h : ops.filterMap Op.scan? = ops'.filterMap Op.scan?) :
    List.Forall₂ Report.Alike (scanReports ((ofSpec spec).trace ops))
        (scanReports ((ofSpec spec).trace ops')) ∧
      Located none ((ofSpec spec).trace ops) ∧ Located none ((ofSpec spec).trace ops') := by
  have hstart : (ofSpec spec).Keeps none := reset_keeps (ofSpec spec)
  have htwin : Twin (ofSpec spec) (ofSpec spec) := ⟨rfl, rfl, rfl, rfl, rfl, rfl, .none⟩
  exact ⟨htwin.trace h, hstart.located ops, hstart.located ops'⟩

/-- Reads an input with locations throughout. -/
def locatedRun : List Op := [.init "aé\nb" (some (.withLocations true)), .next, .all, .all]

/-- Reads the same input, with locations from the second token on, and again without. -/
def lateRun : List Op := [.init "aé\nb" none, .next, .setOptions (.withLocations true), .all,
  .setOptions (.withLocations false), .all]

theorem trace_scan_words :
    locatedRun.filterMap Op.scan? = lateRun.filterMap Op.scan? ∧
      List.Forall₂ Report.Alike (scanReports ((ofSpec wordSpec).trace locatedRun))
        (scanReports ((ofSpec wordSpec).trace lateRun)) ∧
      Located none ((ofSpec wordSpec).trace locatedRun) ∧
      Located none ((ofSpec wordSpec).trace lateRun) :=
  ⟨rfl, trace_scan wordSpec locatedRun lateRun rfl⟩

end Tokenizer

end OrderedLexer
