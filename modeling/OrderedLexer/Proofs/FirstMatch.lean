/-
  The first rule that matches decides a step.

  `ComesFirst` says which rule wins at the start of a text: the first one in the order of the spec that
  matches there, however long its match is and whatever its handler makes of it.  It is found by the
  leftmost match of one rule after the other, if a match that starts further on is passed over
  (`searchFirst?_eq_some_iff`); no pattern need be anchored for that.

  `Verdict` says what becomes of the text by this rule, and `verdict_iff` that a step is to do just
  this.  `next_first`: so does every call of a tokenizer that has not failed and is not at the end,
  wherever operations have led it, up to the greatest column to which an error is padded.  Further to
  the right tokens are given as before, and where there is none the call panics (`next_first_wide`).
-/
import OrderedLexer.Proofs.AnchoredMatches
import OrderedLexer.Proofs.Panic
import OrderedLexer.Proofs.Partition
import OrderedLexer.Proofs.Restart

namespace OrderedLexer

open Text (byteSize)

/-! ## The rule that wins -/

/-- A rule matches at the start of a text, and no rule before it does. -/
structure ComesFirst (rules : List Rule) (text : List Char) (index : Nat) (rule : Rule)
    (matched : List Char) : Prop where
  getElem? : rules[index]? = some rule
  /-- What it matches is its preferred match. -/
  isMatch : ∃ length, rule.regex.program.matchLength? text = some length ∧ matched = text.take length
  before : ∀ i < index, ∀ r, rules[i]? = some r → r.regex.program.matchLength? text = none

variable {rules : List Rule} {text matched matched' : List Char} {index index' : Nat}
  {rule rule' : Rule}

theorem ComesFirst.not_lt (h : ComesFirst rules text index rule matched)
    (h' : ComesFirst rules text index' rule' matched') : ¬index < index' := by
  intro hlt
  obtain ⟨length, hlength, -⟩ := h.isMatch
  rw [h'.before index hlt rule h.getElem?] at hlength
  cases hlength

theorem ComesFirst.unique (h : ComesFirst rules text index rule matched)
    (h' : ComesFirst rules text index' rule' matched') :
    index = index' ∧ rule = rule' ∧ matched = matched' := by
  obtain rfl : index = index' := Nat.le_antisymm (Nat.le_of_not_lt (h'.not_lt h))
    (Nat.le_of_not_lt (h.not_lt h'))
  obtain rfl : rule = rule' := Option.some.inj (h.getElem?.symm.trans h'.getElem?)
  obtain ⟨length, hlength, rfl⟩ := h.isMatch
  obtain ⟨length', hlength', rfl⟩ := h'.isMatch
  obtain rfl : length = length' := Option.some.inj (hlength.symm.trans hlength')
  exact ⟨rfl, rfl, rfl⟩

/-- A rule that comes first does so whatever rules stand behind it. -/
theorem ComesFirst.of_take (h : ComesFirst rules text index rule matched) {rules' : List Rule}
    (htake : rules'.take (index + 1) = rules.take (index + 1)) :
    ComesFirst rules' text index rule matched := by
  have hget : ∀ i ≤ index, rules'[i]? = rules[i]? := by
    intro i hi
    have hi' := congrArg (·[i]?) htake
    simpa [List.getElem?_take, Nat.lt_succ_of_le hi] using hi'
  refine ⟨(hget index le_rfl).trans h.getElem?, h.isMatch, fun i hi r hr => ?_⟩
  exact h.before i hi r ((hget i hi.le).symm.trans hr)

/-- A rule behind one that does not match comes first if it does so among the rest. -/
theorem ComesFirst.cons (h : ComesFirst rules text index rule matched) {r : Rule}
    (hr : r.regex.program.matchLength? text = none) :
    ComesFirst (r :: rules) text (index + 1) rule matched := by
  refine ⟨h.getElem?, h.isMatch, fun i hi r' hr' => ?_⟩
  rcases i with _ | i
  · cases hr'
    exact hr
  · exact h.before i (Nat.lt_of_succ_lt_succ hi) r' hr'

theorem firstMatch?_cases (k : Nat) (rules : List Rule) (text : List Char) :
    (firstMatch? k rules text = none ∧ ∀ r ∈ rules, r.regex.program.matchLength? text = none) ∨
      ∃ index rule matched, ComesFirst rules text index rule matched ∧
        firstMatch? k rules text =
          some (k + index, rule.handler, matched, text.drop matched.length) := by
  induction rules generalizing k with
  | nil => exact .inl ⟨rfl, by simp⟩
  | cons r rules ih =>
    rw [firstMatch?]
    rcases hm : r.regex.program.matchLength? text with _ | n
    · have hsplit : r.regex.split? text = none := by rw [Regex.split?, hm]; rfl
      rw [hsplit]
      rcases ih (k + 1) with ⟨hnone, hall⟩ | ⟨index, rule, matched, hfirst, hsome⟩
      · exact .inl ⟨hnone, List.forall_mem_cons.2 ⟨hm, hall⟩⟩
      · refine .inr ⟨index + 1, rule, matched, hfirst.cons hm, ?_⟩
        rw [show k + (index + 1) = k + 1 + index by omega]
        exact hsome
    · have hsplit : r.regex.split? text = some (text.take n, text.drop n) := by
        rw [Regex.split?, hm]; rfl
      have hdrop : text.drop (text.take n).length = text.drop n := by
        calc text.drop (text.take n).length
            = (text.take n ++ text.drop n).drop (text.take n).length := by
              rw [List.take_append_drop]
          _ = text.drop n := List.drop_left
      refine .inr ⟨0, r, text.take n, ⟨rfl, ⟨n, hm, rfl⟩, by simp⟩, ?_⟩
      rw [hsplit, hdrop]
      rfl

theorem firstMatch?_of_comesFirst (h : ComesFirst rules text index rule matched) :
    firstMatch? 0 rules text = some (index, rule.handler, matched, text.drop matched.length) := by
  rcases firstMatch?_cases 0 rules text with ⟨-, hall⟩ | ⟨i, r, m, hfirst, hsome⟩
  · obtain ⟨length, hlength, -⟩ := h.isMatch
    rw [hall rule (List.mem_of_getElem? h.getElem?)] at hlength
    cases hlength
  · obtain ⟨rfl, rfl, rfl⟩ := hfirst.unique h
    rw [hsome, Nat.zero_add]

/-! ## The search for it -/

/-- The leftmost match, if it starts at the start of the text, is the match there. -/
theorem Regex.find?_filter_start (re : Regex) (text : List Char) :
    ((re.find? text).filter fun found => found.1 == 0) =
      (re.program.matchLength? text).map fun length => (0, length) := by
  rcases hm : re.program.matchLength? text with _ | n
  · rw [Option.map_none, Option.filter_eq_none_iff]
    rintro ⟨start, length⟩ hfound hstart
    obtain rfl : start = 0 := eq_of_beq hstart
    rw [find?_start_iff, hm] at hfound
    cases hfound
  · rw [find?_start_iff.2 hm]
    rfl

/-- The first rule whose leftmost match in a text starts at the start of the text: its index, and the
    match.  The first of the rules has the given index. -/
def searchFirst? (index : Nat) (rules : List Rule) (text : List Char) : Option (Nat × List Char) :=
  (rules.zipIdx index).findSome? fun entry =>
    ((entry.1.regex.find? text).filter fun found => found.1 == 0).map fun found =>
      (entry.2, text.take found.2)

theorem searchFirst?_eq (index : Nat) (rules : List Rule) (text : List Char) :
    searchFirst? index rules text =
      (firstMatch? index rules text).map fun found => (found.1, found.2.2.1) := by
  rw [searchFirst?]
  induction rules generalizing index with
  | nil => rfl
  | cons r rules ih =>
    rw [firstMatch?, List.zipIdx_cons, List.findSome?_cons, Regex.find?_filter_start, ih,
      Regex.split?]
    rcases r.regex.program.matchLength? text with _ | n <;> rfl

/-- The search finds the rule that comes first. -/
theorem searchFirst?_eq_some_iff :
    searchFirst? 0 rules text = some (index, matched) ↔
      ∃ rule, ComesFirst rules text index rule matched := by
  rw [searchFirst?_eq]
  constructor
  · intro h
    rcases firstMatch?_cases 0 rules text with ⟨hnone, -⟩ | ⟨i, r, m, hfirst, hsome⟩
    · rw [hnone] at h
      cases h
    · rw [hsome, Nat.zero_add] at h
      cases h
      exact ⟨r, hfirst⟩
  · rintro ⟨rule, hfirst⟩
    rw [firstMatch?_of_comesFirst hfirst]
    rfl

/-! ## What becomes of a text -/

/-- What becomes of a text by the rule that comes first. -/
inductive Verdict (rules : List Rule) (text : List Char) : Outcome → Prop
  /-- No rule matches. -/
  | unmatched {c : Char} (hc : text.head? = some c)
      (hnone : ∀ index rule matched, ¬ComesFirst rules text index rule matched) :
      Verdict rules text (.fail (.unexpectedToken c.toString none))
  /-- The first rule that matches takes no character. -/
  | empty {index : Nat} {rule : Rule} (hfirst : ComesFirst rules text index rule []) :
      Verdict rules text (.fail (.emptyMatch index))
  /-- Its handler names no type. -/
  | unresolved {index : Nat} {rule : Rule} {matched : List Char}
      (hfirst : ComesFirst rules text index rule matched) (hne : matched ≠ [])
      (hrun : rule.handler.run (String.ofList matched) = none) :
      Verdict rules text (.fail (.unexpectedToken (String.ofList matched) (some index)))
  /-- Its handler makes a token of what it matches. -/
  | token {index : Nat} {rule : Rule} {matched : List Char} {emit : Emit}
      (hfirst : ComesFirst rules text index rule matched) (hne : matched ≠ [])
      (hrun : rule.handler.run (String.ofList matched) = some emit) :
      Verdict rules text (.accept emit matched (text.drop matched.length))

/-- A text that is not empty has a verdict, and a step follows it. -/
theorem verdict_of (rules : List Rule) (hne : text ≠ []) :
    Verdict rules text (Outcome.of rules text false none) := by
  obtain ⟨c, cs, rfl⟩ := List.exists_cons_of_ne_nil hne
  simp only [Outcome.of, Bool.false_eq_true, if_false]
  rcases firstMatch?_cases 0 rules (c :: cs) with ⟨hnone, hall⟩ | ⟨index, rule, matched, hfirst, hsome⟩
  · rw [hnone]
    refine .unmatched rfl fun index rule matched h => ?_
    obtain ⟨length, hlength, -⟩ := h.isMatch
    rw [hall rule (List.mem_of_getElem? h.getElem?)] at hlength
    cases hlength
  · rw [hsome, Nat.zero_add]
    dsimp only
    split
    · next hempty =>
      obtain rfl : matched = [] := List.isEmpty_iff.1 hempty
      exact .empty hfirst
    · next hempty =>
      have hmatched : matched ≠ [] := fun h => hempty (List.isEmpty_iff.2 h)
      rcases hrun : rule.handler.run (String.ofList matched) with _ | emit
      · exact .unresolved hfirst hmatched hrun
      · exact .token hfirst hmatched hrun

/-- Conversely, there is no other verdict. -/
theorem Verdict.outcome {o : Outcome} (h : Verdict rules text o) (hne : text ≠ []) :
    Outcome.of rules text false none = o := by
  obtain ⟨c, cs, rfl⟩ := List.exists_cons_of_ne_nil hne
  simp only [Outcome.of, Bool.false_eq_true, if_false]
  cases h with
  | unmatched hc hnone =>
    cases hc
    rcases firstMatch?_cases 0 rules (c :: cs) with ⟨h, -⟩ | ⟨index, rule, matched, hfirst, -⟩
    · rw [h]
    · exact absurd hfirst (hnone index rule matched)
  | empty hfirst =>
    rw [firstMatch?_of_comesFirst hfirst]
    rfl
  | unresolved hfirst hmatched hrun =>
    simp only [firstMatch?_of_comesFirst hfirst, List.isEmpty_iff, if_neg hmatched, hrun]
  | token hfirst hmatched hrun =>
    simp only [firstMatch?_of_comesFirst hfirst, List.isEmpty_iff, if_neg hmatched, hrun]

theorem verdict_iff (hne : text ≠ []) {o : Outcome} :
    Verdict rules text o ↔ Outcome.of rules text false none = o :=
  ⟨fun h => h.outcome hne, fun h => h ▸ verdict_of rules hne⟩

/-! ## Steps -/

namespace Tokenizer

/-- The tokenizer with other rules. -/
def overRules (t : Tokenizer) (rules : List Rule) : Tokenizer :=
  { t with spec := ⟨rules, t.spec.options⟩ }

/-- The rule that comes first in a text makes a token of what it matches. -/
def GivesToken (rules : List Rule) (text : List Char) : Prop :=
  ∃ index rule matched emit, ComesFirst rules text index rule matched ∧ matched ≠ [] ∧
    rule.handler.run (String.ofList matched) = some emit

/-- The next call of a tokenizer over some rules is decided by the one of them that comes first in a
    text. -/
structure ActsOnFirst (t : Tokenizer) (rules : List Rule) (text : List Char) : Prop where
  /-- There is a character at the position. -/
  nonempty : text ≠ []
  /-- It fails with just this character if no rule matches. -/
  unmatched : t.position.column ≤ LexError.maxWidth →
    ∀ found, t.next? = some (t.fail (.unexpectedToken found none)) ↔
      (∃ c, text.head? = some c ∧ found = c.toString) ∧
        ∀ index rule matched, ¬ComesFirst rules text index rule matched
  /-- It fails if the rule matches nothing. -/
  empty : t.position.column ≤ LexError.maxWidth →
    ∀ index, t.next? = some (t.fail (.emptyMatch index)) ↔ ∃ rule, ComesFirst rules text index rule []
  /-- It fails if the handler of the rule names no type, and no other rule is tried. -/
  unresolved : t.position.column ≤ LexError.maxWidth →
    ∀ found index, t.next? = some (t.fail (.unexpectedToken found (some index))) ↔
      ∃ rule matched, ComesFirst rules text index rule matched ∧ matched ≠ [] ∧
        rule.handler.run (String.ofList matched) = none ∧ found = String.ofList matched
  /-- Else it gives the token that the handler makes, and moves behind the matched text. -/
  token : ∀ index rule matched emit, ComesFirst rules text index rule matched → matched ≠ [] →
    rule.handler.run (String.ofList matched) = some emit →
    ∃ k t', t.next? = some (.ok (some k), t') ∧ k.kind = emit.kind ∧
      k.value = emit.value (String.ofList matched) ∧
      t'.position.offset = t.position.offset + byteSize matched
  /-- In a column that is too great for an error, it panics if there is no token. -/
  panics : LexError.maxWidth < t.position.column → t.input.utf8ByteSize < UInt32.size - 1 →
    (t.next? = none ↔ ¬GivesToken rules text)
  /-- The rules behind the first one that matches make no difference. -/
  later : ∀ index rule matched, ComesFirst rules text index rule matched →
    ∀ rules', rules'.take (index + 1) = rules.take (index + 1) →
      (t.overRules rules').next? = t.next?.map fun r => (r.1, r.2.overRules rules')
  /-- The search by leftmost matches finds the rule. -/
  search : ∀ index matched, searchFirst? 0 rules text = some (index, matched) ↔
    ∃ rule, ComesFirst rules text index rule matched

variable {t : Tokenizer}

/-- Only the rules up to the one that comes first are asked. -/
theorem next_overRules {index : Nat} {rule : Rule} {matched : List Char}
    (hfirst : ComesFirst t.spec.rules t.rest index rule matched) {rules' : List Rule}
    (htake : rules'.take (index + 1) = t.spec.rules.take (index + 1)) :
    (t.overRules rules').next = (t.next.1, t.next.2.overRules rules') := by
  have hfirst' : ComesFirst rules' t.rest index rule matched := hfirst.of_take htake
  have hout : (t.overRules rules').outcome = t.outcome := by
    have hmatch : firstMatch? 0 rules' t.rest = firstMatch? 0 t.spec.rules t.rest := by
      rw [firstMatch?_of_comesFirst hfirst, firstMatch?_of_comesFirst hfirst']
    simp only [outcome, overRules, Outcome.of, hmatch]
  rw [next_eq_carryOut, next_eq_carryOut, hout]
  cases t.outcome <;> rfl

theorem next?_overRules {rules' : List Rule}
    (h : (t.overRules rules').next = (t.next.1, t.next.2.overRules rules')) :
    (t.overRules rules').next? = t.next?.map fun r => (r.1, r.2.overRules rules') := by
  have hpanicked : (t.next.2.overRules rules').panicked = t.next.2.panicked := rfl
  rw [next?, next?, h, returned?, returned?, hpanicked]
  split <;> rfl

theorem carryOut_eq_fail_iff (hfail : t.failed = none) {o : Outcome} {cause : LexCause} :
    t.carryOut o = t.fail cause ↔ o = .fail cause := by
  constructor
  · intro h
    cases o with
    | again e =>
      have hfailed := congrArg (fun r => r.2.failed) h
      rw [show (t.carryOut (.again e)).2.failed = none from hfail] at hfailed
      cases hfailed
    | stop => cases congrArg Prod.fst h
    | fail cause' =>
      have herror : LexError.at_ t.input t.position cause' = .at_ t.input t.position cause :=
        Except.error.inj (congrArg Prod.fst h)
      rw [show cause' = cause from congrArg LexError.cause herror]
    | accept => cases congrArg Prod.fst h
  · rintro rfl
    rfl

section

variable (hne : t.rest ≠ []) (hfin : t.finished = false) (hfail : t.failed = none)

include hne hfin hfail

theorem next_eq_carryOut_of_verdict {o : Outcome} (h : Verdict t.spec.rules t.rest o) :
    t.next = t.carryOut o := by
  rw [next_eq_carryOut, outcome, hfin, hfail, h.outcome hne]

theorem next_eq_fail_iff {cause : LexCause} :
    t.next = t.fail cause ↔ Verdict t.spec.rules t.rest (.fail cause) := by
  rw [next_eq_carryOut, carryOut_eq_fail_iff hfail, outcome, hfin, hfail, verdict_iff hne]

theorem next?_eq_fail_iff (hcolumn : t.position.column ≤ LexError.maxWidth) {cause : LexCause} :
    t.next? = some (t.fail cause) ↔ Verdict t.spec.rules t.rest (.fail cause) := by
  rw [next?_of_le hfail hcolumn, Option.some_inj, next_eq_fail_iff hne hfin hfail]

/-- Where no token is given, the step fails. -/
theorem exists_fail_of_not_givesToken (h : ¬GivesToken t.spec.rules t.rest) :
    ∃ cause, t.next = t.fail cause := by
  have hverdict := verdict_of t.spec.rules hne
  have hnext := next_eq_carryOut_of_verdict hne hfin hfail hverdict
  generalize Outcome.of t.spec.rules t.rest false none = o at hverdict hnext
  cases hverdict with
  | unmatched | empty | unresolved => exact ⟨_, hnext⟩
  | token hfirst hmatched hrun => exact absurd ⟨_, _, _, _, hfirst, hmatched, hrun⟩ h

/-- A call is decided by the rule that comes first in the rest. -/
theorem actsOnFirst_rest (htracks : t.input.utf8ByteSize < UInt32.size - 1 → t.Tracks t.input) :
    t.ActsOnFirst t.spec.rules t.rest := by
  have htoken : ∀ index rule matched emit, ComesFirst t.spec.rules t.rest index rule matched →
      matched ≠ [] → rule.handler.run (String.ofList matched) = some emit →
      t.next? = some (t.accept emit matched (t.rest.drop matched.length)) := by
    intro index rule matched emit hfirst hmatched hrun
    exact next?_of_token
      (next_eq_carryOut_of_verdict hne hfin hfail (.token hfirst hmatched hrun))
  constructor
  case nonempty => exact hne
  case unmatched =>
    intro hcolumn found
    rw [next?_eq_fail_iff hne hfin hfail hcolumn]
    constructor
    · intro h
      cases h with
      | unmatched hc hnone => exact ⟨⟨_, hc, rfl⟩, hnone⟩
    · rintro ⟨⟨c, hc, rfl⟩, hnone⟩
      exact .unmatched hc hnone
  case empty =>
    intro hcolumn index
    rw [next?_eq_fail_iff hne hfin hfail hcolumn]
    constructor
    · intro h
      cases h with
      | empty hfirst => exact ⟨_, hfirst⟩
    · rintro ⟨rule, hfirst⟩
      exact .empty hfirst
  case unresolved =>
    intro hcolumn found index
    rw [next?_eq_fail_iff hne hfin hfail hcolumn]
    constructor
    · intro h
      cases h with
      | unresolved hfirst hmatched hrun => exact ⟨_, _, hfirst, hmatched, hrun, rfl⟩
    · rintro ⟨rule, matched, hfirst, hmatched, hrun, rfl⟩
      exact .unresolved hfirst hmatched hrun
  case token =>
    intro index rule matched emit hfirst hmatched hrun
    exact ⟨_, _, htoken index rule matched emit hfirst hmatched hrun, rfl, rfl,
      t.position.offset_advance matched⟩
  case panics =>
    intro hwide hsize
    constructor
    · rintro hnone ⟨index, rule, matched, emit, hfirst, hmatched, hrun⟩
      cases hnone.symm.trans (htoken index rule matched emit hfirst hmatched hrun)
    · intro h
      obtain ⟨cause, hcause⟩ := exists_fail_of_not_givesToken hne hfin hfail h
      rw [(htracks hsize).next?_of_fail hcause, if_pos hwide]
  case later =>
    intro index rule matched hfirst rules' htake
    exact next?_overRules (next_overRules hfirst htake)
  case search => exact fun index matched => searchFirst?_eq_some_iff

end

/-- Wherever operations have led a tokenizer over a spec, it has counted what it has passed of its
    input, if this is shorter than the greatest word. -/
theorem session_tracks (spec : Spec) (ops : List Op) :
    let t := ((ofSpec spec).session ops).2
    t.input.utf8ByteSize < UInt32.size - 1 → t.Tracks t.input := by
  refine (session_induction (A := fun _ => True) (Q := fun _ => True)
    (P := fun t => t.input.utf8ByteSize < UInt32.size - 1 → t.Tracks t.input)
    (fun t op _ ht => ⟨trivial, ?_⟩) ops (ofSpec spec) (fun _ _ => trivial)
    (fun _ => reset_tracks rfl)).2
  have hinput := (perform_frame t op).2.2
  cases op with
  | init input o => exact fun _ => reset_tracks rfl
  | reset | setOptions | next | all | pull =>
    rw [show (t.perform _).2.input = t.input from hinput]
    exact fun hsize => (Tracks.perform hsize _ rfl (ht hsize)).2

theorem WellFormed.toList_slice (h : t.WellFormed) :
    (slice t.input t.position.offset t.input.utf8ByteSize).toList = t.rest := by
  have hslice := (slice_of_passed h (List.append_nil t.rest).symm).1
  rw [h.offset_add_rest] at hslice
  rw [hslice, String.toList_ofList]

/-- **The first rule that matches decides a call.**  Wherever operations have led a tokenizer over a
    spec, if it has not failed and is not at the end of its input, the next call is decided by the rule
    that comes first in the input from the position on. -/
theorem next_first (spec : Spec) (ops : List Op) :
    let t := ((ofSpec spec).session ops).2
    t.failed = none → t.position.offset < t.input.utf8ByteSize →
      t.ActsOnFirst spec.rules (slice t.input t.position.offset t.input.utf8ByteSize).toList := by
  intro t hfail hlt
  have hwell : t.WellFormed := session_wellFormed ops (ofSpec_wellFormed spec)
  have hne : t.rest ≠ [] := fun h => hlt.ne (hwell.offset_of_rest h)
  have hfin : t.finished = false := by
    rw [← Bool.not_eq_true]
    exact fun h => hne (hwell.finished h)
  rw [hwell.toList_slice, ← (session_frame spec ops).1]
  exact actsOnFirst_rest hne hfin hfail (session_tracks spec ops)

/-- A rule that is not anchored, and one that can match nothing. -/
def looseSpec : Spec :=
  (Spec.normalize (.bare [⟨"a)|(b", .label "LOOSE"⟩, ⟨"x*", .label "X"⟩])).toOption.getD ⟨[], {}⟩

-- The first rule finds `b` behind `x`, and so the second one comes first.
theorem next_first_loose :
    let t := ((ofSpec looseSpec).session [.init "xb" none]).2
    (looseSpec.rules.map fun r => r.regex.find? ['x', 'b']) = [some (1, 1), some (0, 1)] ∧
      searchFirst? 0 looseSpec.rules ['x', 'b'] = some (1, ['x']) ∧
      t.failed = none ∧ t.position.offset < t.input.utf8ByteSize ∧
      t.ActsOnFirst looseSpec.rules (slice t.input t.position.offset t.input.utf8ByteSize).toList := by
  intro t
  have hfail : t.failed = none := rfl
  have hlt : t.position.offset < t.input.utf8ByteSize := by decide +kernel
  refine ⟨by decide +kernel, by decide +kernel, hfail, hlt, ?_⟩
  exact next_first looseSpec [.init "xb" none] hfail hlt

/-- Behind letters, no rule matches at a sign; behind too many of them, the call panics. -/
theorem not_comesFirst_behindLetters {n : Nat} (hn : n + 1 < UInt32.size - 1)
    (hwide : LexError.maxWidth < n) :
    let t := ((ofSpec letterSpec).session (.init (letters n ++ "!") none :: List.replicate n .next)).2
    t.failed = none ∧ t.position.offset < t.input.utf8ByteSize ∧
      (∀ index rule matched, ¬ComesFirst letterSpec.rules
        (slice t.input t.position.offset t.input.utf8ByteSize).toList index rule matched) ∧
      t.next? = none := by
  intro t
  have hwell : t.WellFormed := session_wellFormed _ (ofSpec_wellFormed letterSpec)
  have hat : t.AtLetters 0 ['!'] := (atLetters_behindLetters n).2
  have hrest : t.rest = ['!'] := hat.rest
  refine ⟨hat.failed, hwell.offset_lt (by simp [hrest]), ?_, next?_behindLetters hn hwide⟩
  intro index rule matched hfirst
  rw [hwell.toList_slice, hrest] at hfirst
  cases (firstMatch?_of_not_letter (by decide) []).symm.trans (firstMatch?_of_comesFirst hfirst)

theorem next_first_wide :
    let t := ((ofSpec letterSpec).session
      (.init (letters 65536 ++ "!") none :: List.replicate 65536 .next)).2
    t.failed = none ∧ t.position.offset < t.input.utf8ByteSize ∧
      (∀ index rule matched, ¬ComesFirst letterSpec.rules
        (slice t.input t.position.offset t.input.utf8ByteSize).toList index rule matched) ∧
      t.next? = none :=
  not_comesFirst_behindLetters (by decide) (by decide)

end Tokenizer

end OrderedLexer
