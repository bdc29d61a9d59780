/-
  Writing a spec and reading it again.

  A draft read from a file, in either form, has handlers that their own sources stand for and
  canonical options (`SpecFile.readable_of_parse`).  A spec made of it can be written, and unless the
  text nests too deeply it reads back to the same spec (`SpecFile.normalize_toText`).
-/
import OrderedLexer.Proofs.Anchoring
import OrderedLexer.Proofs.Lexing
import OrderedLexer.Proofs.OptionValues
import OrderedLexer.SpecFile.Format

namespace OrderedLexer

open Json (Members Value)

/-! ## Drafts that are read -/

/-- A handler is what its own source stands for. -/
def Handler.Sourced (h : Handler) : Prop :=
  ∃ source, h.source = some source ∧ Handler.compile source = .ok h

theorem Handler.sourced_of_compile {body : String} {h : Handler} (hc : Handler.compile body = .ok h) :
    h.Sourced :=
  ⟨_, Handler.compile_trim hc⟩

/-- A draft as it is read. -/
structure Draft.Readable (d : Draft) : Prop where
  handlers : ∀ r ∈ d.rules, r.handler.Sourced
  options : d.options.Canonical

namespace SpecFile

theorem sourced_of_ruleOfValue {index : Nat} {v : Value} {r : DraftRule}
    (h : ruleOfValue index v = .ok r) : r.handler.Sourced := by
  unfold ruleOfValue at h
  split at h
  · split at h
    · next handler hc =>
      cases h
      exact Handler.sourced_of_compile hc
    · cases h
  · cases h
  · cases h
  · cases h

theorem sourced_of_rulesOfValues {index : Nat} {vs : List Value} {rs : List DraftRule}
    (h : rulesOfValues index vs = .ok rs) : ∀ r ∈ rs, r.handler.Sourced := by
  induction vs generalizing index rs with
  | nil =>
    cases h
    simp
  | cons v vs ih =>
    unfold rulesOfValues at h
    split at h
    · cases h
    · next r hr =>
      split at h
      · cases h
      · next rs' hrs =>
        cases h
        exact List.forall_mem_cons.2 ⟨sourced_of_ruleOfValue hr, ih hrs⟩

theorem canonical_of_get? {ms : Members} {name : String} {v : Value}
    (hms : ∀ m ∈ ms, m.2.Canonical) (h : Members.get? name ms = some v) : v.Canonical := by
  obtain ⟨l₁, l₂, rfl, -⟩ := List.lookup_eq_some_iff.1 h
  exact hms (name, v) (by simp)

theorem canonical_of_optionsOfMember {v : Option Value} {o : Options}
    (hv : ∀ w ∈ v, w.Canonical) (h : optionsOfMember v = .ok o) : o.Canonical := by
  unfold optionsOfMember at h
  split at h
  · cases h
    exact Options.canonical_empty
  · cases h
    exact Options.canonical_empty
  · next ms =>
    split at h
    · next o' ho =>
      cases h
      cases hv _ rfl with
      | obj _ hms => exact Options.canonical_of_ofValue hms ho
    · cases h
  · cases h

theorem readable_of_draftOfValue {v : Value} {d : Draft} (hv : v.Canonical)
    (h : draftOfValue v = .ok d) : d.Readable := by
  unfold draftOfValue at h
  split at h
  · split at h
    · next rules hrules =>
      cases h
      exact ⟨sourced_of_rulesOfValues hrules, Options.canonical_empty⟩
    · cases h
  · next ms =>
    cases hv with
    | obj _ hms =>
      split at h
      · split at h
        · cases h
        · next rules hrules =>
          split at h
          · next options hoptions =>
            cases h
            refine ⟨sourced_of_rulesOfValues hrules, canonical_of_optionsOfMember ?_ hoptions⟩
            exact fun w hw => canonical_of_get? hms hw
          · cases h
      · cases h
      · cases h
  · cases h

/-- An entry as it is read. -/
def Entry.Readable : Entry → Prop
  | .blank => True
  | .options os => ∀ o ∈ os, o.Canonical
  | .rule r => r.handler.Sourced

theorem canonical_settingValue (cs : List Char) : (settingValue cs).Canonical := by
  unfold settingValue
  split
  · next v hv => exact Json.canonical_of_read hv
  · exact .str _

theorem canonical_of_setting {cs : List Char} {o : Options} (h : setting cs = .ok o) :
    o.Canonical := by
  unfold setting at h
  dsimp only at h
  split at h
  · next o' ho =>
    cases h
    refine Options.canonical_of_ofValue ?_ ho
    intro m hm
    rw [List.mem_singleton.1 hm]
    dsimp only
    split
    · exact canonical_settingValue _
    · exact .bool true
  · cases h

theorem canonical_of_settings {ws : List (List Char)} {os : List Options}
    (h : settings ws = .ok os) : ∀ o ∈ os, o.Canonical := by
  induction ws generalizing os with
  | nil =>
    cases h
    simp
  | cons w ws ih =>
    unfold settings at h
    split at h
    · cases h
    · next o ho =>
      split at h
      · cases h
      · next os' hos =>
        cases h
        exact List.forall_mem_cons.2 ⟨canonical_of_setting ho, ih hos⟩

theorem readable_of_ruleOfLine {n : Nat} {cs : List Char} {x : Entry}
    (h : ruleOfLine n cs = .ok x) : x.Readable := by
  unfold ruleOfLine at h
  split at h
  · cases h
  · dsimp only at h
    split at h
    · cases h
    · split at h
      · next handler hc =>
        cases h
        exact Handler.sourced_of_compile hc
      · cases h

theorem readable_of_entry {n : Nat} {line : List Char} {x : Entry} (h : entry n line = .ok x) :
    x.Readable := by
  unfold entry at h
  dsimp only at h
  split at h
  · cases h
    exact trivial
  · split at h
    · next r =>
      split at h
      · next os hos =>
        cases h
        unfold directive at hos
        dsimp only at hos
        split at hos
        · exact canonical_of_settings hos
        · cases hos
      · cases h
    · exact readable_of_ruleOfLine h

theorem readable_of_entries {n : Nat} {lines : List (List Char)} {xs : List Entry}
    (h : entries n lines = .ok xs) : ∀ x ∈ xs, x.Readable := by
  induction lines generalizing n xs with
  | nil =>
    cases h
    simp
  | cons line lines ih =>
    unfold entries at h
    split at h
    · cases h
    · next x hx =>
      split at h
      · cases h
      · next xs' hxs =>
        cases h
        exact List.forall_mem_cons.2 ⟨readable_of_entry hx, ih hxs⟩

theorem readable_of_ofLines {text : String} {d : Draft} (h : Draft.ofLines text = .ok d) :
    d.Readable := by
  unfold Draft.ofLines at h
  split at h
  · cases h
  · next xs hxs =>
    cases h
    have hreadable := readable_of_entries hxs
    constructor
    · intro r hr
      obtain ⟨x, hx, hrule⟩ := List.mem_filterMap.1 hr
      cases x with
      | rule r' =>
        cases hrule
        exact hreadable _ hx
      | blank => cases hrule
      | options os => cases hrule
    · refine Options.canonical_foldl Options.canonical_empty fun o ho => ?_
      obtain ⟨x, hx, ho⟩ := List.mem_flatMap.1 ho
      cases x with
      | options os => exact hreadable _ hx o ho
      | blank => cases ho
      | rule r => cases ho

theorem readable_of_parse {format : Format} {text : String} {d : Draft}
    (h : parse format text = .ok d) : d.Readable := by
  cases format with
  | json =>
    simp only [parse, Draft.ofJson] at h
    split at h
    · next v hv => exact readable_of_draftOfValue (Json.canonical_of_read hv) h
    · cases h
  | lines => exact readable_of_ofLines h

/-! ## Values of rules -/

theorem canonical_pair (pattern body : String) :
    (Value.arr [.str pattern, .str body]).Canonical :=
  .arr (List.forall_mem_cons.2 ⟨.str _, List.forall_mem_singleton.2 (.str _)⟩)

theorem canonical_obj {v : Value} {vs : List Value} (hv : v.Canonical)
    (hvs : ∀ w ∈ vs, w.Canonical) :
    (Value.obj [("options", v), ("rules", .arr vs)]).Canonical := by
  refine .obj (List.pairwise_pair.2 (show "options" < "rules" by decide)) ?_
  exact List.forall_mem_cons.2 ⟨hv, List.forall_mem_singleton.2 (.arr hvs)⟩

theorem isExact_obj {v : Value} {vs : List Value} (hv : v.isExact = true)
    (hvs : ∀ w ∈ vs, w.isExact = true) :
    (Value.obj [("options", v), ("rules", .arr vs)]).isExact = true := by
  refine Json.allExactMembers_iff.2 ?_
  exact List.forall_mem_cons.2 ⟨hv, List.forall_mem_singleton.2 (Json.allExact_iff.2 hvs)⟩

theorem exists_values (index : Nat) {rs : List Rule} (h : ∀ r ∈ rs, r.handler.Sourced) :
    ∃ vs, valuesOfRules index rs = .ok vs ∧ (∀ v ∈ vs, v.Canonical ∧ v.isExact = true) ∧
      ∀ index, rulesOfValues index vs = .ok (rs.map Rule.draft) := by
  induction rs generalizing index with
  | nil => exact ⟨[], rfl, by simp, fun _ => rfl⟩
  | cons r rs ih =>
    obtain ⟨⟨source, hsource, hcompile⟩, hrs⟩ := List.forall_mem_cons.1 h
    obtain ⟨vs, hvs, hall, hread⟩ := ih (index + 1) hrs
    refine ⟨.arr [.str r.regex.pattern, .str source] :: vs, ?_, ?_, fun index => ?_⟩
    · simp only [valuesOfRules, hsource, hvs]
    · exact List.forall_mem_cons.2 ⟨⟨canonical_pair _ _, rfl⟩, hall⟩
    · simp only [rulesOfValues, ruleOfValue, hcompile, hread, List.map_cons]
      rfl

theorem handler_of_compileAll {ds : List DraftRule} {index : Nat} {rs : List Rule}
    (h : DraftRule.compileAll index ds = .ok rs) : ∀ r ∈ rs, ∃ d ∈ ds, r.handler = d.handler := by
  induction ds generalizing index rs with
  | nil =>
    cases h
    simp
  | cons d ds ih =>
    unfold DraftRule.compileAll at h
    split at h
    · cases h
    · next r hr =>
      split at h
      · cases h
      · next rs' hrs =>
        cases h
        have hhandler : r.handler = d.handler := by
          unfold DraftRule.compile at hr
          split at hr
          · cases hr
            rfl
          · cases hr
        refine List.forall_mem_cons.2 ⟨⟨d, List.mem_cons_self, hhandler⟩, fun r' hr' => ?_⟩
        obtain ⟨d', hd', heq⟩ := ih hrs r' hr'
        exact ⟨d', List.mem_cons_of_mem d hd', heq⟩

theorem isOk_parse {pattern : String} (h : (Regex.compile pattern).isOk = true) :
    (Pattern.Ast.parse pattern.toList).isOk = true := by
  cases hre : Regex.compile pattern with
  | error e =>
    rw [hre] at h
    cases h
  | ok re =>
    obtain ⟨-, x, n, f, hx, -, -⟩ := Regex.exists_of_compile hre
    rw [hx]
    rfl

theorem optionsOfMember_toValue {o : Options} (h : o.Canonical) :
    optionsOfMember (some o.toValue) = .ok o := by
  obtain ⟨ms, heq, -, -⟩ := Options.exists_toValue o
  have hread := Options.ofValue_toValue h
  rw [heq] at hread ⊢
  simp only [optionsOfMember, hread]

theorem draftOfValue_obj {v : Value} {vs : List Value} {rules : List DraftRule} {o : Options}
    (hrules : rulesOfValues 0 vs = .ok rules) (ho : optionsOfMember (some v) = .ok o) :
    draftOfValue (.obj [("options", v), ("rules", .arr vs)]) = .ok (.record rules o) := by
  have hget : Members.get? "rules" [("options", v), ("rules", .arr vs)] = some (.arr vs) := by
    rw [Members.get?_cons, if_neg (by decide), Members.get?_cons, if_pos rfl]
  have hoptions : Members.get? "options" [("options", v), ("rules", .arr vs)] = some v := by
    rw [Members.get?_cons, if_pos rfl]
  simp only [draftOfValue, hget, hrules, hoptions, ho]

/-- The object of a spec with such handlers and options gives its draft back. -/
theorem exists_toValue {s : Spec} (hs : ∀ r ∈ s.rules, r.handler.Sourced) (ho : s.options.Canonical)
    (hexact : ∀ m ∈ s.options.extra, m.2.isExact = true) :
    ∃ v, s.toValue = .ok v ∧ v.Canonical ∧ v.isExact = true ∧ draftOfValue v = .ok s.draft := by
  obtain ⟨vs, hvs, hall, hread⟩ := exists_values 0 hs
  refine ⟨.obj [("options", s.options.toValue), ("rules", .arr vs)], ?_, ?_, ?_, ?_⟩
  · simp only [Spec.toValue, hvs]
  · exact canonical_obj ho.toValue fun v hv => (hall v hv).1
  · exact isExact_obj (Options.isExact_toValue hexact) fun v hv => (hall v hv).2
  · exact draftOfValue_obj (hread 0) (optionsOfMember_toValue ho)

/-- **A spec that was read survives being written.**  If its patterns are valid by themselves, its
    options hold no doubles and its text does not nest too deeply, then the spec can be written, and
    what is written reads back to the same spec: the same patterns in the same order, the same
    sources and functions of the handlers, and the same options. -/
theorem normalize_toText {format : Format} {text : String} {d : Draft} {s : Spec}
    (hparse : parse format text = .ok d) (hspec : Spec.normalize d = .ok s)
    (hvalid : ∀ r ∈ d.rules, (Regex.compile r.pattern).isOk = true)
    (hexact : ∀ m ∈ s.options.extra, m.2.isExact = true)
    (hdepth : ∀ v, s.toValue = .ok v → v.depth ≤ Json.Reader.maxDepth) :
    ∃ out, s.toText = .ok out ∧ ∃ d', Draft.ofJson out = .ok d' ∧ Spec.normalize d' = .ok s := by
  have hreadable := readable_of_parse hparse
  unfold Spec.normalize at hspec
  split at hspec
  · next rules hrules =>
    cases hspec
    have hsourced : ∀ r ∈ rules, r.handler.Sourced := by
      intro r hr
      obtain ⟨d', hd', heq⟩ := handler_of_compileAll hrules r hr
      exact heq ▸ hreadable.handlers d' hd'
    have hast : ∀ r ∈ d.rules, (Pattern.Ast.parse r.pattern.toList).isOk = true :=
      fun r hr => isOk_parse (hvalid r hr)
    -- the patterns that are written are anchored, and anchoring them again changes nothing
    obtain ⟨-, hagain⟩ := DraftRule.compileAll_anchored hrules hast
    obtain ⟨v, hvalue, hcanonical, hexactValue, hdraft⟩ :=
      exists_toValue hsourced hreadable.options hexact
    have hjson := Json.read_write hcanonical hexactValue (hdepth v hvalue) .pretty
    refine ⟨v.pretty, ?_, Spec.draft ⟨rules, d.options⟩, ?_, ?_⟩
    · simp only [Spec.toText, hvalue, Except.map]
    · simp only [Draft.ofJson, Value.pretty, hjson, hdraft]
    · simp only [Spec.normalize, Spec.draft, Draft.rules, Draft.options, hagain]
  · cases hspec

/-- Rules and options in lines: one option is set to false, and another one is composed. -/
def sampleLines : String :=
  "%option captureLocations=false tags=[1,\x7b\"a\":null\x7d]\n/\\s+|x/i  return null; \n'=' [text, EQ]\n"

theorem normalize_toText_sample : ∃ d s, parse .lines sampleLines = .ok d ∧
    Spec.normalize d = .ok s ∧ (∀ r ∈ d.rules, (Regex.compile r.pattern).isOk = true) ∧
    (∀ m ∈ s.options.extra, m.2.isExact = true) ∧
    (∀ v, s.toValue = .ok v → v.depth ≤ Json.Reader.maxDepth) ∧
    ∃ out, s.toText = .ok out ∧ ∃ d', Draft.ofJson out = .ok d' ∧ Spec.normalize d' = .ok s := by
  have hcheck : (parse .lines sampleLines).toOption.map (fun d =>
      (Spec.normalize d).toOption.map fun s =>
        (d.rules.all fun r => (Regex.compile r.pattern).isOk, s.options.extra.all (·.2.isExact),
          s.toValue.toOption.all (·.depth ≤ Json.Reader.maxDepth))) =
      some (some (true, true, true)) := by decide +kernel
  obtain ⟨d, hparse, hd⟩ := exists_of_toOption_map hcheck
  obtain ⟨s, hspec, hs⟩ := exists_of_toOption_map hd
  simp only [Prod.mk.injEq, List.all_eq_true] at hs
  obtain ⟨hvalid, hexact, hdepth⟩ := hs
  have hdepth : ∀ v, s.toValue = .ok v → v.depth ≤ Json.Reader.maxDepth := by
    intro v hv
    rw [hv] at hdepth
    simpa [Except.toOption] using hdepth
  exact ⟨d, s, hparse, hspec, hvalid, hexact, hdepth,
    normalize_toText hparse hspec hvalid hexact hdepth⟩

end SpecFile

end OrderedLexer
