/-
  Which defect of a JSON document is reported.

  A document is an array of items, or an object with such an array under `rules` (`IsDocument`).  A
  spec is made of it in three stages: the items are read one after the other, then the options, and
  then the patterns are compiled one after the other.  The first and the last stage go through a
  list and stop at its first defect (`readFrom_eq_error_iff`).

  * `ItemDefect`, `OptionsDefect` and `PatternDefect` say what can be wrong, and how it is reported;
    `FirstDefect` puts them in order;
  * `ItemMakes` says which rule an item makes, and `Sound` which documents have no defect.

  `specOf_json`: a document makes a spec if and only if it is sound, the rules of the spec are those
  of the items, in their order, and otherwise the first defect is reported.
-/
import Mathlib.Data.List.Forall2
import OrderedLexer.Proofs.SpecRoundTrip

namespace OrderedLexer

open Json (Members Value)

/-! ## Reading a list from its start -/

section

variable {α β ε : Type}

/-- What the items of a list are read to; the first of them has the given index.  The first error
    ends the reading. -/
def readFrom (read : Nat → α → Except ε β) (index : Nat) : List α → Except ε (List β)
  | [] => .ok []
  | a :: as =>
    match read index a with
    | .error e => .error e
    | .ok b =>
      match readFrom read (index + 1) as with
      | .error e => .error e
      | .ok bs => .ok (b :: bs)

/-- No item of a list has a defect. -/
def NoDefect (defect : Nat → α → ε → Prop) (as : List α) : Prop :=
  ∀ i a, as[i]? = some a → ∀ e, ¬defect i a e

/-- The item with the least index that has a defect has this one. -/
def LeastDefect (defect : Nat → α → ε → Prop) (as : List α) (e : ε) : Prop :=
  ∃ i a, as[i]? = some a ∧ defect i a e ∧ NoDefect defect (as.take i)

variable {defect : Nat → α → ε → Prop} {read : Nat → α → Except ε β} {a : α} {as : List α}
  {bs : List β} {e : ε}

theorem noDefect_nil : NoDefect defect [] := by
  intro i a h
  simp at h

theorem noDefect_cons :
    NoDefect defect (a :: as) ↔ (∀ e, ¬defect 0 a e) ∧ NoDefect (fun i => defect (i + 1)) as := by
  constructor
  · intro h
    exact ⟨h 0 a rfl, fun i b hb => h (i + 1) b hb⟩
  · rintro ⟨ha, has⟩ i b hb
    rcases i with _ | i
    · obtain rfl : a = b := Option.some.inj hb
      exact ha
    · exact has i b hb

theorem not_leastDefect_nil : ¬LeastDefect defect [] e := by
  rintro ⟨i, a, h, -⟩
  simp at h

theorem leastDefect_cons :
    LeastDefect defect (a :: as) e ↔
      defect 0 a e ∨ (∀ e, ¬defect 0 a e) ∧ LeastDefect (fun i => defect (i + 1)) as e := by
  constructor
  · rintro ⟨i, b, hb, hdefect, hbefore⟩
    rcases i with _ | i
    · obtain rfl : a = b := Option.some.inj hb
      exact .inl hdefect
    · obtain ⟨ha, has⟩ := noDefect_cons.1 hbefore
      exact .inr ⟨ha, i, b, hb, hdefect, has⟩
  · rintro (hdefect | ⟨ha, i, b, hb, hdefect, hbefore⟩)
    · exact ⟨0, a, rfl, hdefect, noDefect_nil⟩
    · exact ⟨i + 1, b, hb, hdefect, noDefect_cons.2 ⟨ha, hbefore⟩⟩

/-- Reading a list fails with the defect at the least index. -/
theorem readFrom_eq_error_iff {index : Nat}
    (h : ∀ i a e, read (index + i) a = .error e ↔ defect i a e) :
    readFrom read index as = .error e ↔ LeastDefect defect as e := by
  induction as generalizing index defect with
  | nil => exact iff_of_false nofun not_leastDefect_nil
  | cons a as ih =>
    have htail : ∀ i a e, read (index + 1 + i) a = .error e ↔ defect (i + 1) a e := by
      intro i a e
      rw [← h (i + 1) a e, show index + 1 + i = index + (i + 1) by omega]
    rw [leastDefect_cons, ← ih htail, readFrom]
    rcases hread : read index a with e' | b
    · -- the first item decides: its defect is the one that is reported
      have hfirst : defect 0 a e' := (h 0 a e').1 hread
      have hsame : defect 0 a e ↔ e' = e := by
        rw [← h 0 a e, Nat.add_zero, hread, Except.error.injEq]
      rw [hsame, Except.error.injEq]
      exact ⟨.inl, fun hor => hor.resolve_right fun hnone => hnone.1 e' hfirst⟩
    · have hnone : ∀ e, ¬defect 0 a e := by
        intro e hdefect
        have hfail := (h 0 a e).2 hdefect
        rw [Nat.add_zero, hread] at hfail
        cases hfail
      have hrest : (match readFrom read (index + 1) as with
          | .error e => Except.error e
          | .ok bs => .ok (b :: bs)) = .error e ↔ readFrom read (index + 1) as = .error e := by
        rcases readFrom read (index + 1) as with e' | bs
        · exact Iff.rfl
        · exact iff_of_false nofun nofun
      exact hrest.trans ⟨fun hr => .inr ⟨hnone, hr⟩, fun hor => (hor.resolve_left (hnone e)).2⟩

/-- Reading a list gives what its items are read to, if that does not depend on their places. -/
theorem readFrom_eq_ok_iff {R : α → β → Prop} (h : ∀ i a b, read i a = .ok b ↔ R a b) {index : Nat} :
    readFrom read index as = .ok bs ↔ List.Forall₂ R as bs := by
  induction as generalizing index bs with
  | nil =>
    rw [readFrom, Except.ok.injEq, List.forall₂_nil_left_iff]
    exact eq_comm
  | cons a as ih =>
    rw [readFrom, List.forall₂_cons_left_iff]
    rcases hread : read index a with e | b
    · refine iff_of_false nofun ?_
      rintro ⟨b, -, hb, -, -⟩
      rw [← h index, hread] at hb
      cases hb
    rcases hrest : readFrom read (index + 1) as with e | bs'
    · refine iff_of_false nofun ?_
      rintro ⟨-, bs', -, hbs', -⟩
      rw [← ih, hrest] at hbs'
      cases hbs'
    · have hb : ∀ b', R a b' ↔ b = b' := by
        intro b'
        rw [← h index, hread, Except.ok.injEq]
      have hbs : ∀ us, List.Forall₂ R as us ↔ bs' = us := by
        intro us
        rw [← ih, hrest, Except.ok.injEq]
      simp only [Except.ok.injEq, hb, hbs]
      constructor
      · rintro rfl
        exact ⟨b, bs', rfl, rfl, rfl⟩
      · rintro ⟨_, _, rfl, rfl, rfl⟩
        rfl

theorem noDefect_iff : NoDefect defect as ↔ ∀ e, ¬LeastDefect defect as e := by
  induction as generalizing defect with
  | nil => exact iff_of_true noDefect_nil fun _ => not_leastDefect_nil
  | cons a as ih =>
    rw [noDefect_cons, ih]
    constructor
    · rintro ⟨ha, has⟩ e h
      rcases leastDefect_cons.1 h with h | ⟨-, h⟩
      · exact ha e h
      · exact has e h
    · intro h
      have ha : ∀ e, ¬defect 0 a e := fun e he => h e (leastDefect_cons.2 (.inl he))
      exact ⟨ha, fun e he => h e (leastDefect_cons.2 (.inr ⟨ha, he⟩))⟩

/-- Lists whose items have the same defects have the same least one. -/
theorem leastDefect_congr {R : α → β → Prop} {defect' : Nat → β → ε → Prop}
    (h : ∀ i a b e, R a b → (defect i a e ↔ defect' i b e)) (hlist : List.Forall₂ R as bs) :
    LeastDefect defect as e ↔ LeastDefect defect' bs e := by
  induction hlist generalizing defect defect' with
  | nil => exact iff_of_false not_leastDefect_nil not_leastDefect_nil
  | @cons a b as bs hab _ ih =>
    have hnone : (∀ e, ¬defect 0 a e) ↔ ∀ e, ¬defect' 0 b e :=
      forall_congr' fun e => not_congr (h 0 a b e hab)
    rw [leastDefect_cons, leastDefect_cons, h 0 a b e hab, hnone, ih fun i => h (i + 1)]

theorem exists_forall₂_iff {R : α → β → Prop} :
    (∃ bs, List.Forall₂ R as bs) ↔ ∀ a ∈ as, ∃ b, R a b := by
  induction as with
  | nil => exact iff_of_true ⟨[], .nil⟩ (List.forall_mem_nil _)
  | cons a as ih =>
    rw [List.forall_mem_cons, ← ih]
    constructor
    · rintro ⟨_, _ | ⟨hab, hlist⟩⟩
      exact ⟨⟨_, hab⟩, _, hlist⟩
    · rintro ⟨⟨b, hab⟩, bs, hlist⟩
      exact ⟨b :: bs, .cons hab hlist⟩

theorem forall₂_congr_left {γ : Type} {R : α → β → Prop} {S : β → γ → Prop} {T : α → γ → Prop}
    {cs : List γ} (h : ∀ a b c, R a b → (S b c ↔ T a c)) (hlist : List.Forall₂ R as bs) :
    List.Forall₂ S bs cs ↔ List.Forall₂ T as cs := by
  induction hlist generalizing cs with
  | nil => rw [List.forall₂_nil_left_iff, List.forall₂_nil_left_iff]
  | @cons a b as bs hab _ ih =>
    simp only [List.forall₂_cons_left_iff, h a b _ hab, ih]

end

namespace SpecFile

/-! ## Documents -/

/-- The spec that a text of a form stands for. -/
def specOf (format : Format) (text : String) : Except Error Spec :=
  match parse format text with
  | .error e => .error e
  | .ok d =>
    match Spec.normalize d with
    | .ok s => .ok s
    | .error e => .error (.pattern e)

theorem load_eq (path text : String) :
    load path text = specOf ((Format.ofPath? path).getD (.sniff text)) text := rfl

/-- A document: its items, and the value under its options, if there is one. -/
inductive IsDocument : Value → List Value → Option Value → Prop
  | bare (items : List Value) : IsDocument (.arr items) items none
  | record {ms : Members} {items : List Value} (h : Members.get? "rules" ms = some (.arr items)) :
      IsDocument (.obj ms) items (Members.get? "options" ms)

/-- The spec of a document in three stages: rules, options, patterns. -/
def specOfItems (items : List Value) (options : Option Value) : Except Error Spec :=
  match rulesOfValues 0 items with
  | .error e => .error e
  | .ok rules =>
    match optionsOfMember options with
    | .error e => .error e
    | .ok o =>
      match DraftRule.compileAll 0 rules with
      | .error e => .error (.pattern e)
      | .ok rs => .ok ⟨rs, o⟩

variable {v : Value} {items : List Value} {options : Option Value} {text : String}

theorem specOf_document (hread : Json.read text = .ok v) (hdoc : IsDocument v items options) :
    specOf .json text = specOfItems items options := by
  simp only [specOf, parse, Draft.ofJson, hread, specOfItems]
  cases hdoc with
  | bare =>
    simp only [draftOfValue]
    rcases rulesOfValues 0 items with e | rules
    · rfl
    · simp only [Spec.normalize, Draft.rules, Draft.options, optionsOfMember]
      rcases DraftRule.compileAll 0 rules with e | rs <;> rfl
  | @record ms _ h =>
    simp only [draftOfValue, h]
    rcases rulesOfValues 0 items with e | rules
    · rfl
    rcases optionsOfMember (Members.get? "options" ms) with e | o
    · rfl
    · simp only [Spec.normalize, Draft.rules, Draft.options]
      rcases DraftRule.compileAll 0 rules with e | rs <;> rfl

/-! ## Items -/

/-- What can be wrong with the item at an index, and how it is reported. -/
inductive ItemDefect (index : Nat) : Value → Error → Prop
  | notArray {v : Value} (h : ∀ vs, v ≠ .arr vs) : ItemDefect index v (.shape (.ruleNotPair index))
  | length {vs : List Value} (h : vs.length ≠ 2) :
      ItemDefect index (.arr vs) (.shape (.ruleLength index))
  | notStrings {v w : Value} (h : ∀ pattern body, v = .str pattern → w ≠ .str body) :
      ItemDefect index (.arr [v, w]) (.shape (.ruleNotStrings index))
  | handler {pattern body : String} {e : Expr.Error} (h : Handler.compile body = .error e) :
      ItemDefect index (.arr [.str pattern, .str body]) (.handler index e)

theorem ruleOfValue_eq_error_iff {index : Nat} {e : Error} :
    ruleOfValue index v = .error e ↔ ItemDefect index v e := by
  constructor
  · intro h
    unfold ruleOfValue at h
    split at h
    · split at h
      · cases h
      · next he =>
        cases h
        exact .handler he
    · next v w hpair =>
      cases h
      exact .notStrings fun pattern body hv hw => hpair pattern body hv hw
    · next vs hpair hstrings =>
      cases h
      refine .length fun hlength => ?_
      obtain ⟨v, w, rfl⟩ := List.length_eq_two.1 hlength
      exact hstrings v w rfl
    · next hvs =>
      cases h
      exact .notArray hvs
  · intro h
    cases h with
    | notArray h =>
      cases v with
      | arr vs => exact absurd rfl (h vs)
      | null | bool b | num n | str s | obj ms => rfl
    | @length vs h =>
      unfold ruleOfValue
      split
      · next heq =>
        cases heq
        exact absurd rfl h
      · next heq =>
        cases heq
        exact absurd rfl h
      · rfl
      · next hvs => exact absurd rfl (hvs vs)
    | @notStrings v w h =>
      unfold ruleOfValue
      split
      · next heq =>
        cases heq
        exact absurd rfl (h _ _ rfl)
      · rfl
      · next hpair heq =>
        cases heq
        exact absurd rfl (hpair v w)
      · next hvs => exact absurd rfl (hvs [v, w])
    | handler h => simp only [ruleOfValue, h]

/-- The rule that an item stands for, as it is read. -/
def StandsForItem (v : Value) (d : DraftRule) : Prop :=
  ∃ body, v = .arr [.str d.pattern, .str body] ∧ Handler.compile body = .ok d.handler

theorem ruleOfValue_eq_ok_iff {index : Nat} {d : DraftRule} :
    ruleOfValue index v = .ok d ↔ StandsForItem v d := by
  constructor
  · intro h
    unfold ruleOfValue at h
    split at h
    · next pattern body =>
      split at h
      · next handler hc =>
        cases h
        exact ⟨body, rfl, hc⟩
      · cases h
    all_goals cases h
  · rintro ⟨body, rfl, hc⟩
    simp only [ruleOfValue, hc]

theorem rulesOfValues_eq (index : Nat) (vs : List Value) :
    rulesOfValues index vs = readFrom ruleOfValue index vs := by
  induction vs generalizing index with
  | nil => rfl
  | cons v vs ih =>
    rw [rulesOfValues, readFrom, ih]
    rcases ruleOfValue index v with e | d
    · rfl
    · rcases readFrom ruleOfValue (index + 1) vs with e | ds <;> rfl

theorem rulesOfValues_eq_error_iff {e : Error} :
    rulesOfValues 0 items = .error e ↔ LeastDefect ItemDefect items e := by
  rw [rulesOfValues_eq]
  refine readFrom_eq_error_iff fun i v e => ?_
  rw [Nat.zero_add]
  exact ruleOfValue_eq_error_iff

theorem rulesOfValues_eq_ok_iff {ds : List DraftRule} :
    rulesOfValues 0 items = .ok ds ↔ List.Forall₂ StandsForItem items ds := by
  rw [rulesOfValues_eq]
  refine readFrom_eq_ok_iff fun i v d => ?_
  exact ruleOfValue_eq_ok_iff

theorem noDefect_of_rulesOfValues {ds : List DraftRule} (h : rulesOfValues 0 items = .ok ds) :
    NoDefect ItemDefect items := by
  refine noDefect_iff.2 fun e he => ?_
  rw [← rulesOfValues_eq_error_iff, h] at he
  cases he

/-! ## Options -/

/-- What can be wrong with the options, and how it is reported. -/
inductive OptionsDefect : Option Value → Error → Prop
  | notObject {v : Value} (hnull : v ≠ .null) (h : ∀ ms, v ≠ .obj ms) :
      OptionsDefect (some v) (.shape .optionsNotObject)
  | notBoolean {ms : Members} {v : Value} (hget : Members.get? Options.captureName ms = some v)
      (hnull : v ≠ .null) (h : ∀ b, v ≠ .bool b) :
      OptionsDefect (some (.obj ms)) (.json (.wrongType v "a boolean"))

/-- The options that are read from a value, if there is one. -/
inductive OptionsOf : Option Value → Options → Prop
  | absent : OptionsOf none {}
  | null : OptionsOf (some .null) {}
  | obj {ms : Members} {o : Options}
      (hcapture : Options.Captures (Members.get? Options.captureName ms) o.captureLocations)
      (hextra : o.extra = Members.ofList (Members.erase Options.captureName ms)) :
      OptionsOf (some (.obj ms)) o

theorem optionsOfMember_eq_error_iff {e : Error} :
    optionsOfMember options = .error e ↔ OptionsDefect options e := by
  constructor
  · intro h
    unfold optionsOfMember at h
    split at h
    · cases h
    · cases h
    · next ms =>
      unfold Options.ofValue at h
      dsimp only at h
      split at h
      · cases h
      · next e' he =>
        cases h
        split at he
        · cases he
        · cases he
        · cases he
        · next v hnull hbool hget =>
          cases he
          exact .notBoolean hget hnull hbool
    · next v hnull hobj =>
      cases h
      exact .notObject hnull hobj
  · intro h
    cases h with
    | notObject hnull h =>
      unfold optionsOfMember
      split
      · next heq => cases heq
      · next heq => exact absurd (Option.some.inj heq) hnull
      · next ms heq => exact absurd (Option.some.inj heq) (h ms)
      · rfl
    | @notBoolean ms v hget hnull h =>
      have hvalue : Options.ofValue (.obj ms) = .error (.wrongType v "a boolean") := by
        simp only [Options.ofValue, hget]
      simp only [optionsOfMember, hvalue]

theorem optionsOfMember_eq_ok_iff {o : Options} :
    optionsOfMember options = .ok o ↔ OptionsOf options o := by
  constructor
  · intro h
    unfold optionsOfMember at h
    split at h
    · cases h
      exact .absent
    · cases h
      exact .null
    · split at h
      · next ho =>
        cases h
        obtain ⟨hcapture, hextra⟩ := Options.ofValue_eq_ok_iff.1 ho
        exact .obj hcapture hextra
      · cases h
    · cases h
  · intro h
    cases h with
    | absent | null => rfl
    | obj hcapture hextra =>
      simp only [optionsOfMember, Options.ofValue_eq_ok_iff.2 ⟨hcapture, hextra⟩]

/-! ## Patterns -/

/-- The pattern of the item at an index cannot be compiled when it is anchored; it is reported as it
    is given. -/
inductive PatternDefect (index : Nat) : Value → InvalidPattern → Prop
  | mk {pattern body : String} {cause : Pattern.Error}
      (h : Regex.compile (Pattern.anchorString pattern) = .error cause) :
      PatternDefect index (.arr [.str pattern, .str body]) ⟨index, pattern, cause⟩

/-- The rule that a pattern and an expression make. -/
structure MakesRule (pattern body : String) (r : Rule) : Prop where
  regex : Regex.compile (Pattern.anchorString pattern) = .ok r.regex
  anchored : r.regex.pattern = Pattern.anchorString pattern
  handler : Handler.compile body = .ok r.handler
  source : r.handler.source = some (Text.trimString body)

/-- The rule that an item makes. -/
def ItemMakes (v : Value) (r : Rule) : Prop :=
  ∃ pattern body, v = .arr [.str pattern, .str body] ∧ MakesRule pattern body r

theorem compileAll_eq (index : Nat) (ds : List DraftRule) :
    DraftRule.compileAll index ds = readFrom DraftRule.compile index ds := by
  induction ds generalizing index with
  | nil => rfl
  | cons d ds ih =>
    rw [DraftRule.compileAll, readFrom, ih]
    rcases d.compile index with e | r
    · rfl
    · rcases readFrom DraftRule.compile (index + 1) ds with e | rs <;> rfl

theorem compile_eq_error_iff {d : DraftRule} {index : Nat} {e : InvalidPattern}
    (h : StandsForItem v d) : PatternDefect index v e ↔ d.compile index = .error e := by
  obtain ⟨body, rfl, -⟩ := h
  constructor
  · rintro ⟨hcompile⟩
    simp only [DraftRule.compile, hcompile]
  · intro hcompile
    unfold DraftRule.compile at hcompile
    split at hcompile
    · cases hcompile
    · next hcause =>
      cases hcompile
      exact .mk hcause

theorem compileAll_eq_error_iff {ds : List DraftRule} {e : InvalidPattern}
    (h : List.Forall₂ StandsForItem items ds) :
    DraftRule.compileAll 0 ds = .error e ↔ LeastDefect PatternDefect items e := by
  have hsame : ∀ i v d e, StandsForItem v d →
      (PatternDefect i v e ↔ DraftRule.compile (0 + i) d = .error e) := by
    intro i v d e hd
    rw [Nat.zero_add]
    exact compile_eq_error_iff hd
  rw [compileAll_eq, leastDefect_congr hsame h]
  exact readFrom_eq_error_iff fun i d e => Iff.rfl

theorem compile_eq_ok_iff {d : DraftRule} {index : Nat} {r : Rule} :
    d.compile index = .ok r ↔
      Regex.compile (Pattern.anchorString d.pattern) = .ok r.regex ∧ d.handler = r.handler := by
  unfold DraftRule.compile
  rcases Regex.compile (Pattern.anchorString d.pattern) with cause | re
  · exact iff_of_false nofun nofun
  · obtain ⟨re', handler⟩ := r
    simp

theorem compile_eq_ok_iff_itemMakes {d : DraftRule} {r : Rule} (h : StandsForItem v d) :
    (Regex.compile (Pattern.anchorString d.pattern) = .ok r.regex ∧ d.handler = r.handler) ↔
      ItemMakes v r := by
  obtain ⟨body, rfl, hc⟩ := h
  constructor
  · rintro ⟨hre, hhandler⟩
    rw [hhandler] at hc
    exact ⟨d.pattern, body, rfl, hre, (Regex.exists_of_compile hre).1, hc, (Handler.compile_trim hc).1⟩
  · rintro ⟨pattern, body', heq, hmakes⟩
    cases heq
    have hhandler := hmakes.handler
    rw [hc] at hhandler
    exact ⟨hmakes.regex, Except.ok.inj hhandler⟩

theorem compileAll_eq_ok_iff {ds : List DraftRule} {rs : List Rule}
    (h : List.Forall₂ StandsForItem items ds) :
    DraftRule.compileAll 0 ds = .ok rs ↔ List.Forall₂ ItemMakes items rs := by
  have hcompile : ∀ i d r, DraftRule.compile i d = .ok r ↔
      Regex.compile (Pattern.anchorString d.pattern) = .ok r.regex ∧ d.handler = r.handler :=
    fun i d r => compile_eq_ok_iff
  rw [compileAll_eq, readFrom_eq_ok_iff hcompile]
  exact forall₂_congr_left (fun v d r => compile_eq_ok_iff_itemMakes) h

/-! ## The first defect -/

/-- The first defect of a document: that of the item with the least index, then that of the options,
    then that of the pattern with the least index. -/
inductive FirstDefect (items : List Value) (options : Option Value) : Error → Prop
  | item {e : Error} (h : LeastDefect ItemDefect items e) : FirstDefect items options e
  | options {e : Error} (hitems : NoDefect ItemDefect items) (h : OptionsDefect options e) :
      FirstDefect items options e
  | pattern {e : InvalidPattern} (hitems : NoDefect ItemDefect items)
      (hoptions : ∀ e, ¬OptionsDefect options e) (h : LeastDefect PatternDefect items e) :
      FirstDefect items options (.pattern e)

theorem specOfItems_eq_error_iff {e : Error} :
    specOfItems items options = .error e ↔ FirstDefect items options e := by
  unfold specOfItems
  rcases hrules : rulesOfValues 0 items with e' | ds <;> dsimp only
  · have hleast : LeastDefect ItemDefect items e' := rulesOfValues_eq_error_iff.1 hrules
    constructor
    · rintro ⟨⟩
      exact .item hleast
    · intro h
      cases h with
      | item h =>
        rw [← rulesOfValues_eq_error_iff, hrules] at h
        cases h
        rfl
      | options hitems => exact absurd hleast (noDefect_iff.1 hitems e')
      | pattern hitems => exact absurd hleast (noDefect_iff.1 hitems e')
  have hitems := noDefect_of_rulesOfValues hrules
  rcases hoptions : optionsOfMember options with e' | o <;> dsimp only
  · have hdefect : OptionsDefect options e' := optionsOfMember_eq_error_iff.1 hoptions
    constructor
    · rintro ⟨⟩
      exact .options hitems hdefect
    · intro h
      cases h with
      | item h => exact absurd h (noDefect_iff.1 hitems e)
      | options _ h =>
        rw [← optionsOfMember_eq_error_iff, hoptions] at h
        cases h
        rfl
      | pattern _ hnone => exact absurd hdefect (hnone e')
  have hnone : ∀ e, ¬OptionsDefect options e := by
    intro e h
    rw [← optionsOfMember_eq_error_iff, hoptions] at h
    cases h
  have hds := rulesOfValues_eq_ok_iff.1 hrules
  rcases hcompile : DraftRule.compileAll 0 ds with e' | rs <;> dsimp only
  · constructor
    · rintro ⟨⟩
      exact .pattern hitems hnone ((compileAll_eq_error_iff hds).1 hcompile)
    · intro h
      cases h with
      | item h => exact absurd h (noDefect_iff.1 hitems e)
      | options _ h => exact absurd h (hnone e)
      | pattern _ _ h =>
        rw [← compileAll_eq_error_iff hds, hcompile] at h
        cases h
        rfl
  · refine iff_of_false nofun fun h => ?_
    cases h with
    | item h => exact noDefect_iff.1 hitems e h
    | options _ h => exact hnone e h
    | pattern _ _ h =>
      rw [← compileAll_eq_error_iff hds, hcompile] at h
      cases h

theorem specOfItems_eq_ok_iff {s : Spec} :
    specOfItems items options = .ok s ↔
      List.Forall₂ ItemMakes items s.rules ∧ OptionsOf options s.options := by
  obtain ⟨rules, o⟩ := s
  constructor
  · intro h
    unfold specOfItems at h
    split at h
    · cases h
    · next ds hrules =>
      split at h
      · cases h
      · next o' hoptions =>
        split at h
        · cases h
        · next rs hcompile =>
          cases h
          have hds := rulesOfValues_eq_ok_iff.1 hrules
          exact ⟨(compileAll_eq_ok_iff hds).1 hcompile, optionsOfMember_eq_ok_iff.1 hoptions⟩
  · rintro ⟨hmakes, hoptions⟩
    obtain ⟨ds, hds⟩ : ∃ ds, List.Forall₂ StandsForItem items ds := by
      refine exists_forall₂_iff.2 fun v hv => ?_
      obtain ⟨r, pattern, body, rfl, hr⟩ := exists_forall₂_iff.1 ⟨_, hmakes⟩ v hv
      exact ⟨⟨pattern, r.handler⟩, body, rfl, hr.handler⟩
    simp only [specOfItems, rulesOfValues_eq_ok_iff.2 hds, optionsOfMember_eq_ok_iff.2 hoptions,
      (compileAll_eq_ok_iff hds).2 hmakes]

/-- A document without defects. -/
structure Sound (items : List Value) (options : Option Value) : Prop where
  pairs : ∀ v ∈ items, ∃ pattern body, v = .arr [.str pattern, .str body] ∧
    (∃ handler, Handler.compile body = .ok handler) ∧
    ∃ re, Regex.compile (Pattern.anchorString pattern) = .ok re
  options : options = none ∨ options = some .null ∨
    ∃ ms capture, options = some (.obj ms) ∧
      Options.Captures (Members.get? Options.captureName ms) capture

theorem exists_itemMakes_iff :
    (∃ r, ItemMakes v r) ↔ ∃ pattern body, v = .arr [.str pattern, .str body] ∧
      (∃ handler, Handler.compile body = .ok handler) ∧
      ∃ re, Regex.compile (Pattern.anchorString pattern) = .ok re := by
  constructor
  · rintro ⟨r, pattern, body, hv, hr⟩
    exact ⟨pattern, body, hv, ⟨_, hr.handler⟩, _, hr.regex⟩
  · rintro ⟨pattern, body, hv, ⟨handler, hc⟩, re, hre⟩
    exact ⟨⟨re, handler⟩, pattern, body, hv, hre, (Regex.exists_of_compile hre).1, hc,
      (Handler.compile_trim hc).1⟩

theorem exists_optionsOf_iff :
    (∃ o, OptionsOf options o) ↔ options = none ∨ options = some .null ∨
      ∃ ms capture, options = some (.obj ms) ∧
        Options.Captures (Members.get? Options.captureName ms) capture := by
  constructor
  · rintro ⟨o, _ | _ | ⟨hcapture, -⟩⟩
    · exact .inl rfl
    · exact .inr (.inl rfl)
    · exact .inr (.inr ⟨_, _, rfl, hcapture⟩)
  · rintro (rfl | rfl | ⟨ms, capture, rfl, hcapture⟩)
    · exact ⟨_, .absent⟩
    · exact ⟨_, .null⟩
    · refine ⟨⟨capture, Members.ofList (Members.erase Options.captureName ms), ?_⟩, .obj hcapture rfl⟩
      exact Members.sorted_ofList _

theorem exists_specOfItems_iff :
    (∃ s, specOfItems items options = .ok s) ↔ Sound items options := by
  constructor
  · rintro ⟨s, hs⟩
    obtain ⟨hmakes, hoptions⟩ := specOfItems_eq_ok_iff.1 hs
    refine ⟨fun v hv => ?_, exists_optionsOf_iff.1 ⟨_, hoptions⟩⟩
    exact exists_itemMakes_iff.1 (exists_forall₂_iff.1 ⟨_, hmakes⟩ v hv)
  · rintro ⟨hpairs, hoptions⟩
    obtain ⟨rs, hmakes⟩ : ∃ rs, List.Forall₂ ItemMakes items rs :=
      exists_forall₂_iff.2 fun v hv => exists_itemMakes_iff.2 (hpairs v hv)
    obtain ⟨o, ho⟩ := exists_optionsOf_iff.2 hoptions
    exact ⟨⟨rs, o⟩, specOfItems_eq_ok_iff.2 ⟨hmakes, ho⟩⟩

/-- **What a document makes.**  It makes a spec just if it has no defect; the rules of the spec are then
    those that the items make, in their order; and else the first defect is reported. -/
theorem specOf_json (hread : Json.read text = .ok v) (hdoc : IsDocument v items options) :
    ((∃ s, specOf .json text = .ok s) ↔ Sound items options) ∧
    (∀ s, specOf .json text = .ok s →
      List.Forall₂ ItemMakes items s.rules ∧ OptionsOf options s.options) ∧
    ∀ e, specOf .json text = .error e ↔ FirstDefect items options e := by
  rw [specOf_document hread hdoc]
  refine ⟨exists_specOfItems_iff, fun s hs => ?_, fun e => ?_⟩
  · exact specOfItems_eq_ok_iff.1 hs
  · exact specOfItems_eq_error_iff

/-- The first pattern is invalid, and the last handler is. -/
def faultyItems : List Value :=
  [.arr [.str "(", .str "OPEN"], .arr [.str "a", .str "A"], .arr [.str "b", .str "text.eval()"]]

/-- The options are invalid, too. -/
def faultyValue : Value :=
  .obj [("options", .obj [("captureLocations", .str "yes")]), ("rules", .arr faultyItems)]

def faultyText : String :=
  "\x7b\"options\":\x7b\"captureLocations\":\"yes\"\x7d,\"rules\":" ++
  "[[\"(\",\"OPEN\"],[\"a\",\"A\"],[\"b\",\"text.eval()\"]]\x7d"

/-- Of the three defects, that of the last handler is reported. -/
theorem specOf_json_faulty : Json.read faultyText = .ok faultyValue ∧
    IsDocument faultyValue faultyItems (some (.obj [("captureLocations", .str "yes")])) ∧
    ∃ e, specOf .json faultyText = .error (.handler 2 e) := by
  have htext : String.ofList (faultyValue.write .compact) = faultyText := by decide +kernel
  have hcanonical : faultyValue.Canonical := by
    have hitems : ∀ v ∈ faultyItems, v.Canonical := by
      simp only [faultyItems, List.forall_mem_cons]
      exact ⟨canonical_pair _ _, canonical_pair _ _, canonical_pair _ _, List.forall_mem_nil _⟩
    refine canonical_obj (.obj (List.pairwise_singleton _ _) ?_) hitems
    exact List.forall_mem_singleton.2 (.str _)
  have hread : Json.read faultyText = .ok faultyValue := by
    rw [← htext]
    exact Json.read_write hcanonical (by decide +kernel) (by decide +kernel) .compact
  have hdoc : IsDocument faultyValue faultyItems (some (.obj [("captureLocations", .str "yes")])) :=
    .record rfl
  have hbefore : NoDefect ItemDefect (faultyItems.take 2) := by
    have hok : (rulesOfValues 0 (faultyItems.take 2)).isOk = true := by decide +kernel
    obtain ⟨ds, hds⟩ := exists_of_isOk hok
    exact noDefect_of_rulesOfValues hds
  have hfails : (Handler.compile "text.eval()").isOk = false := by decide +kernel
  rcases he : Handler.compile "text.eval()" with e | handler
  · refine ⟨hread, hdoc, e, ((specOf_json hread hdoc).2.2 _).2 (.item ?_)⟩
    exact ⟨2, _, rfl, .handler he, hbefore⟩
  · rw [he] at hfails
    cases hfails

end SpecFile

end OrderedLexer
