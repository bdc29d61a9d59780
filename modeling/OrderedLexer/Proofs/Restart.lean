/-
  A restart forgets the past.

  Of all that was done before a restart (`Op.restarts`), only the options in force (`optionsAfter`)
  and the input (`inputAfter`) are left: the tokenizer is `fresh`, a new one over the same spec to
  which these were given (`session_restart`).  Nothing that is asked of it later can tell the two
  apart (`trace_restart`).

  The options of the spec are in force from the start, and the tokenizer keeps all that is merged
  over them; so giving the options in force to a new tokenizer sets nothing else
  (`Options.merge_foldl`).
-/
import OrderedLexer.Proofs.Agreement
import OrderedLexer.Proofs.Merge

namespace OrderedLexer

/-! ## What operations leave behind -/

/-- The options that an operation gives. -/
def Op.options? : Op → Option Options
  | .init _ o => o
  | .setOptions o => some o
  | _ => none

/-- The input that an operation binds the tokenizer to. -/
def Op.input? : Op → Option String
  | .init input _ => some input
  | _ => none

/-- The options in force behind operations: those of the spec, and what was given since. -/
def optionsAfter (spec : Spec) (ops : List Op) : Options :=
  (ops.filterMap Op.options?).foldl Options.merge spec.options

/-- The input behind operations: the last one that was given. -/
def inputAfter (ops : List Op) : String := (ops.filterMap Op.input?).getLast?.getD ""

namespace Tokenizer

/-- Two tokenizers have the same spec, options and input. -/
structure SameSetup (t t' : Tokenizer) : Prop where
  spec : t'.spec = t.spec
  options : t'.options = t.options
  input : t'.input = t.input

variable {t t' : Tokenizer}

theorem SameSetup.next (h : t.SameSetup t') : t.SameSetup t'.next.2 := by
  obtain ⟨hspec, hoptions, hinput, -⟩ := next_frame t'
  exact ⟨hspec.trans h.spec, hoptions.trans h.options, hinput.trans h.input⟩

/-- Reading tokens keeps the setup. -/
theorem SameSetup.perform (h : t.SameSetup t') (op : Op) (hop : op.reads = true) :
    t.SameSetup (t'.perform op).2 := by
  have hnext : ∀ t', t.SameSetup t' → t.SameSetup t'.next.2 := fun _ => SameSetup.next
  cases op with
  | init | reset | setOptions => cases hop
  | next => exact h.next
  | all =>
    refine all_state hnext (fun t' ks ht' _ => ?_) t' h
    have hd := drain_state hnext t' ht'
    exact ⟨hd.spec, hd.options, hd.input⟩
  | pull n => exact Tokens.pull_state hnext n ⟨t', false⟩ h

/-- The spec stays, and options and input change only where an operation gives others. -/
theorem perform_frame (t : Tokenizer) (op : Op) :
    (t.perform op).2.spec = t.spec ∧
      (t.perform op).2.options = op.options?.toList.foldl Options.merge t.options ∧
      (t.perform op).2.input = op.input?.getD t.input := by
  have hsame : t.SameSetup t := ⟨rfl, rfl, rfl⟩
  have hread := hsame.perform op
  cases op with
  | init input o => cases o <;> exact ⟨rfl, rfl, rfl⟩
  | reset | setOptions => exact ⟨rfl, rfl, rfl⟩
  | next | all | pull => exact ⟨(hread rfl).spec, (hread rfl).options, (hread rfl).input⟩

theorem session_frame (spec : Spec) (ops : List Op) :
    ((ofSpec spec).session ops).2.spec = spec ∧
      ((ofSpec spec).session ops).2.options = optionsAfter spec ops ∧
      ((ofSpec spec).session ops).2.input = inputAfter ops := by
  induction ops using List.reverseRecOn with
  | nil => exact ⟨rfl, rfl, rfl⟩
  | append_singleton ops op ih =>
    obtain ⟨hspec, hoptions, hinput⟩ := perform_frame ((ofSpec spec).session ops).2 op
    rw [ih.1] at hspec
    rw [ih.2.1] at hoptions
    rw [ih.2.2] at hinput
    rw [session_append]
    refine ⟨hspec, hoptions.trans ?_, hinput.trans ?_⟩
    · rw [optionsAfter, optionsAfter, List.filterMap_append, List.foldl_append]
      cases h : op.options? <;> simp [h]
    · rw [inputAfter, inputAfter, List.filterMap_append]
      cases h : op.input? <;> simp [h]

/-! ## Restarts -/

/-- A new tokenizer over a spec, with options and an input. -/
def fresh (spec : Spec) (o : Options) (input : String) : Tokenizer :=
  ((ofSpec spec).setOptions o).init input none

theorem fresh_eq_reset (h : t.spec.options.merge t.options = t.options) :
    fresh t.spec t.options t.input = t.reset := by
  have hset : (ofSpec t.spec).setOptions t.options = { ofSpec t.spec with options := t.options } := by
    rw [setOptions, show (ofSpec t.spec).options = t.spec.options from rfl, h]
  rw [fresh, hset]
  rfl

theorem session_restart (spec : Spec) (ops : List Op) (op : Op) (hop : op.restarts = true) :
    ((ofSpec spec).session (ops ++ [op])).2 =
      fresh spec (optionsAfter spec (ops ++ [op])) (inputAfter (ops ++ [op])) := by
  obtain ⟨hspec, hoptions, hinput⟩ := session_frame spec (ops ++ [op])
  have hreset : ((ofSpec spec).session (ops ++ [op])).2 =
      ((ofSpec spec).session (ops ++ [op])).2.reset := by
    rw [session_append]
    cases op with
    | init | reset => rfl
    | setOptions | next | all | pull => cases hop
  generalize ((ofSpec spec).session (ops ++ [op])).2 = t at *
  have hmerge : t.spec.options.merge t.options = t.options := by
    rw [hspec, hoptions]
    exact spec.options.merge_foldl _
  calc t = t.reset := hreset
    _ = fresh t.spec t.options t.input := (fresh_eq_reset hmerge).symm
    _ = _ := by rw [hspec, hoptions, hinput]

/-- Reading tokens and going back to the start changes nothing. -/
theorem session_reset (ht : t.reset = t) (run : List Op) (hrun : ∀ op ∈ run, op.reads = true) :
    (t.session (run ++ [.reset])).2 = t := by
  obtain ⟨hspec, hoptions, hinput⟩ := (session_induction (A := fun _ => True) (P := t.SameSetup)
    (fun _ op hop h => ⟨trivial, h.perform op hop⟩) run t hrun ⟨rfl, rfl, rfl⟩).2
  rw [session_append]
  show (t.session run).2.reset = t
  rw [reset, hspec, hoptions, hinput, ← reset, ht]

/-- **A restart forgets the past.**  Behind any operations that end in a restart, the options are
    those of the spec with all that were given merged over them, the input is the last one given, and
    all that can be seen and asked from there on is as with a new tokenizer that these options and
    this input are given to.  In particular, reading tokens and going back to the start leaves the
    same tokens to be produced. -/
theorem trace_restart (spec : Spec) (ops : List Op) (op : Op) (hop : op.restarts = true) :
    let t := ((ofSpec spec).session (ops ++ [op])).2
    t.options = optionsAfter spec (ops ++ [op]) ∧ t.input = inputAfter (ops ++ [op]) ∧
      t.view = (fresh spec t.options t.input).view ∧
      (∀ more, t.trace more = (fresh spec t.options t.input).trace more) ∧
      ∀ run : List Op, (∀ op ∈ run, op.reads = true) →
        (t.session (run ++ [.reset])).2.production = t.production := by
  intro t
  obtain ⟨-, hoptions, hinput⟩ := session_frame spec (ops ++ [op])
  have hfresh : t = fresh spec t.options t.input := by
    rw [show t.options = _ from hoptions, show t.input = _ from hinput]
    exact session_restart spec ops op hop
  refine ⟨hoptions, hinput, congrArg view hfresh, fun more => congrArg (trace · more) hfresh,
    fun run hrun => ?_⟩
  rw [session_reset (by rw [hfresh]; rfl) run hrun]

/-- A run that fails, with options given before and behind the failure. -/
def failedRun : List Op := [.init "aé\n?" (some (.withLocations true)), .all,
  .setOptions (.withLocations false), .next]

theorem trace_restart_words :
    Op.reset.restarts = true ∧ (∀ op ∈ [Op.next, .all], op.reads = true) ∧
      let t := ((ofSpec wordSpec).session (failedRun ++ [.reset])).2
      t.trace failedRun = (fresh wordSpec t.options t.input).trace failedRun ∧
        (t.session ([.next, .all] ++ [.reset])).2.production = t.production := by
  have hrun : ∀ op ∈ [Op.next, .all], op.reads = true := by simp [Op.reads]
  obtain ⟨-, -, -, htrace, hreplay⟩ := trace_restart wordSpec failedRun .reset rfl
  exact ⟨rfl, hrun, htrace failedRun, hreplay _ hrun⟩

end Tokenizer

end OrderedLexer
