/-
  Rules that are appended to others.

  A rule is asked only where no rule before it matches (`firstMatch?_append_rules`).  So a step does
  the same with further rules behind those of the spec, unless it fails because no rule matches
  (`next_withRules`), and a run does the same up to such a failure (`session_withRules`).

  `production_withRules`: a run that ends normally, or in a failure of a rule that won, is not changed
  by rules that are appended; a run that ends where no rule matches is a first part of the new one.
-/
import OrderedLexer.Proofs.Invariant

namespace OrderedLexer

/-! ## Matching -/

theorem firstMatch?_append_rules (index : Nat) (rules more : List Rule) (text : List Char) :
    firstMatch? index (rules ++ more) text =
      (firstMatch? index rules text).or (firstMatch? (index + rules.length) more text) := by
  induction rules generalizing index with
  | nil => rfl
  | cons r rules ih =>
    rw [List.cons_append, firstMatch?, firstMatch?]
    rcases r.regex.split? text with _ | ⟨matched, rest⟩
    · rw [ih, List.length_cons, Nat.add_right_comm, Nat.add_assoc index]
    · rfl

/-- Whether the cause of a failure is that no rule matches. -/
def LexCause.isUnmatched : LexCause → Bool
  | .unexpectedToken _ none => true
  | _ => false

/-- Appended rules change nothing where a rule before them matches. -/
theorem Outcome.of_append (rules more : List Rule) (rest : List Char) (finished : Bool)
    (failed : Option LexError) :
    (∃ cause, cause.isUnmatched = true ∧ of rules rest finished failed = fail cause) ∨
      of (rules ++ more) rest finished failed = of rules rest finished failed := by
  rcases failed with _ | e
  · rcases finished with _ | _
    · rcases rest with _ | ⟨c, cs⟩
      · exact .inr rfl
      · rcases hm : firstMatch? 0 rules (c :: cs) with _ | found
        · refine .inl ⟨.unexpectedToken c.toString none, rfl, ?_⟩
          simp only [of, hm, Bool.false_eq_true, if_false]
        · refine .inr ?_
          simp only [of, firstMatch?_append_rules, hm, Option.some_or]
    · exact .inr rfl
  · exact .inr rfl

namespace Tokenizer

variable {t : Tokenizer} {more : List Rule}

/-! ## Steps and runs -/

/-- The tokenizer with further rules behind those of its spec. -/
def withRules (t : Tokenizer) (more : List Rule) : Tokenizer :=
  { t with spec := ⟨t.spec.rules ++ more, t.spec.options⟩ }

/-- A step that does not fail for want of a rule is the same with further rules. -/
theorem next_withRules (h : ∀ cause, cause.isUnmatched = true → t.outcome ≠ .fail cause) :
    (t.withRules more).next = (t.next.1, t.next.2.withRules more) := by
  rcases Outcome.of_append t.spec.rules more t.rest t.finished t.failed with ⟨cause, hc, ho⟩ | ho
  · exact absurd ho (h cause hc)
  · have hout : (t.withRules more).outcome = t.outcome := ho
    rw [next_eq_carryOut, next_eq_carryOut, hout]
    cases t.outcome <;> rfl

/-- A step that gives a token or the end does not fail. -/
theorem next_withRules_of_ok {k : Option Token} {t' : Tokenizer} (h : t.next = (.ok k, t')) :
    (t.withRules more).next = (.ok k, t'.withRules more) := by
  rw [next_withRules fun cause _ ho => ?_, h]
  rw [next_eq_carryOut, ho] at h
  cases h

/-- Nor does one that gives an error of another cause. -/
theorem next_withRules_of_error {e : LexError} {t' : Tokenizer} (h : t.next = (.error e, t'))
    (he : e.cause.isUnmatched = false) : (t.withRules more).next = (.error e, t'.withRules more) := by
  rw [next_withRules fun cause hc ho => ?_, h]
  rw [next_eq_carryOut, ho] at h
  cases h
  exact absurd hc (by rw [show cause.isUnmatched = false from he]; exact Bool.false_ne_true)

/-- A run that does not end where no rule matches is the same with further rules. -/
theorem production_withRules_eq (t : Tokenizer)
    (h : ∀ e, t.production.error = some e → e.cause.isUnmatched = false) :
    (t.withRules more).production = t.production := by
  induction t using next_induction with
  | step t ih =>
    rcases hn : t.next with ⟨e | _ | k, t'⟩
    · rw [production_of_error hn] at h ⊢
      exact production_of_error (next_withRules_of_error hn (h e rfl))
    · rw [production_of_end hn]
      exact production_of_end (next_withRules_of_ok hn)
    · rw [production_of_token hn] at h ⊢
      rw [production_of_token (next_withRules_of_ok hn), ih k t' hn h]

/-- The steps that give the tokens of a run are the same with further rules. -/
theorem session_withRules (n : Nat) (t : Tokenizer) (h : n ≤ t.production.tokens.length) :
    (t.withRules more).session (List.replicate n .next) =
      ((t.session (List.replicate n .next)).1,
        (t.session (List.replicate n .next)).2.withRules more) := by
  induction n generalizing t with
  | zero => rfl
  | succ n ih =>
    rcases hn : t.next with ⟨e | _ | k, t'⟩
    · rw [production_of_error hn] at h
      simp at h
    · rw [production_of_end hn] at h
      simp at h
    · rw [production_of_token hn] at h
      have htail := ih t' (Nat.le_of_succ_le_succ h)
      simp only [List.replicate_succ, session, perform, next_withRules_of_ok hn, hn, htail]

/-- The tokens of a run come first with further rules. -/
theorem tokens_withRules (t : Tokenizer) (more : List Rule) :
    t.production.tokens <+: (t.withRules more).production.tokens := by
  induction t using next_induction with
  | step t ih =>
    rcases hn : t.next with ⟨e | _ | k, t'⟩
    · rw [production_of_error hn]
      exact List.nil_prefix
    · rw [production_of_end hn]
      exact List.nil_prefix
    · rw [production_of_token hn, production_of_token (next_withRules_of_ok hn)]
      exact List.cons_prefix_cons.2 ⟨rfl, ih k t' hn⟩

/-! ## Where a run ends -/

/-- Steps drop the tokens that they give from the production. -/
theorem session_production (n : Nat) (t : Tokenizer) :
    (t.session (List.replicate n .next)).2.production = t.production.drop n := by
  induction n generalizing t with
  | zero => rfl
  | succ n ih =>
    have htail : (t.session (List.replicate (n + 1) .next)).2.production =
        t.next.2.production.drop n := ih t.next.2
    rw [htail, (next_production t).2]
    simp only [Production.drop, List.drop_drop, Nat.add_comm]

/-- The error of a run is that of the step behind its tokens, at the position there. -/
theorem WellFormed.offset_of_error (h : t.WellFormed) {e : LexError}
    (he : t.production.error = some e) :
    (t.session (List.replicate t.production.tokens.length .next)).2.position.offset = e.offset := by
  have hleft := session_production t.production.tokens.length t
  have hwell := session_wellFormed (List.replicate t.production.tokens.length .next) h
  generalize (t.session (List.replicate t.production.tokens.length .next)).2 = last at *
  rw [Production.drop, List.drop_length, he] at hleft
  have hhead := (next_production last).1
  rw [hleft] at hhead
  rcases hn : last.next with ⟨r, last'⟩
  rw [hn] at hhead
  cases hhead
  cases step_of_next hn with
  | again failed => exact (hwell.failed e failed).2.1.symm
  | fail => rfl

/-- **Appended rules are asked last.**  Take two new runs over one input with the same options, the
    second one with further rules behind those of the first.  If the first run ends normally, or in a
    failure of a rule that won, the second one produces the same tokens and ends alike.  If the first
    run ends where none of its rules matches, the second one gives the same tokens up to there. -/
theorem production_withRules (rules more : List Rule) (base : Options) (input : String)
    (o : Option Options) :
    let s := (ofSpec ⟨rules, base⟩).init input o
    let t := (ofSpec ⟨rules ++ more, base⟩).init input o
    let steps := List.replicate s.production.tokens.length Op.next
    (s.production.error = none → t.production = s.production) ∧
      (∀ e, s.production.error = some e → e.cause.isUnmatched = false →
        t.production = s.production) ∧
      ∀ e, s.production.error = some e → e.cause.isUnmatched = true →
        s.production.tokens <+: t.production.tokens ∧
          (t.session steps).1 = (s.session steps).1 ∧
          (t.session steps).2.position.offset = e.offset := by
  intro s t steps
  have ht : t = s.withRules more := by cases o <;> rfl
  rw [ht]
  refine ⟨fun h => ?_, fun e h he => ?_, fun e h _ => ?_⟩
  · exact production_withRules_eq s fun e he => by rw [h] at he; cases he
  · refine production_withRules_eq s fun e' he' => ?_
    rw [h] at he'
    cases he'
    exact he
  · have hsession : (s.withRules more).session steps =
        ((s.session steps).1, (s.session steps).2.withRules more) := session_withRules _ s le_rfl
    rw [hsession]
    have hwell : s.WellFormed := init_wellFormed (ofSpec ⟨rules, base⟩) input o
    exact ⟨tokens_withRules s more, rfl, hwell.offset_of_error h⟩

/-- The rules that drafts stand for. -/
def compiledRules (ds : List DraftRule) : List Rule := (DraftRule.compileAll 0 ds).toOption.getD []

/-- A letter, and one without a type. -/
def letterRules : List Rule := compiledRules [⟨"a", .label "A"⟩, ⟨"b", .ofFunction fun _ => none⟩]

/-- Two letters, and any text, even none. -/
def longerRules : List Rule := compiledRules [⟨"ab", .label "AB"⟩, ⟨"(?s).*", .label "ANY"⟩]

/-- A run over some rules. -/
def runOver (rules : List Rule) (input : String) : Tokenizer :=
  (ofSpec ⟨rules, {}⟩).init input (some (.withLocations true))

-- The appended rules match more than the first ones do, but only the last input gets to them.
theorem production_withRules_letters :
    ((runOver letterRules "aa").production.error = none ∧
      (runOver (letterRules ++ longerRules) "aa").production =
        (runOver letterRules "aa").production) ∧
    (∃ e, (runOver letterRules "ab").production.error = some e ∧
      e.cause = .unexpectedToken "b" (some 1) ∧
      (runOver (letterRules ++ longerRules) "ab").production =
        (runOver letterRules "ab").production) ∧
    ∃ e, (runOver letterRules "aac").production.error = some e ∧
      e.cause = .unexpectedToken "c" none ∧
      (runOver letterRules "aac").production.tokens <+:
        (runOver (letterRules ++ longerRules) "aac").production.tokens ∧
      ((runOver (letterRules ++ longerRules) "aac").session
        (List.replicate 2 .next)).2.position.offset = e.offset := by
  have hend : (runOver letterRules "aa").production.error = none := by decide +kernel
  have hwon : (runOver letterRules "ab").production.error.map LexError.cause =
      some (.unexpectedToken "b" (some 1)) := by decide +kernel
  have hnone : (runOver letterRules "aac").production.error.map LexError.cause =
      some (.unexpectedToken "c" none) := by decide +kernel
  have hlength : (runOver letterRules "aac").production.tokens.length = 2 := by decide +kernel
  obtain ⟨e, he, hcause⟩ := Option.map_eq_some_iff.1 hwon
  obtain ⟨e', he', hcause'⟩ := Option.map_eq_some_iff.1 hnone
  refine ⟨⟨hend, ?_⟩, ⟨e, he, hcause, ?_⟩, ⟨e', he', hcause', ?_⟩⟩
  · exact (production_withRules letterRules longerRules {} "aa" _).1 hend
  · exact (production_withRules letterRules longerRules {} "ab" _).2.1 e he (by rw [hcause]; rfl)
  · obtain ⟨htokens, -, hoffset⟩ := (production_withRules letterRules longerRules {} "aac"
      (some (.withLocations true))).2.2 e' he' (by rw [hcause']; rfl)
    refine ⟨htokens, ?_⟩
    rw [← hlength]
    exact hoffset

end Tokenizer

end OrderedLexer
