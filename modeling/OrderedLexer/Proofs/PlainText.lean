/-
  Plain characters in the text of a pattern.

  What a pattern is read from is plain for the most part: neither a backslash nor a square bracket
  (`isPlain`).  Digits and flags are, and so are signs of repetition, blanks, and what stands behind the
  backslash of an escape and one more character (`skims_escape`).  Names are not always, and what they hold
  is left open (`PlainNames`).

  The readers are followed one by one (`Skims`), on a text of one line: there a comment goes up to the
  end, so nothing that has to be read stands behind it.
-/
import OrderedLexer.Proofs.Anchoring

namespace OrderedLexer.Pattern

open Text (isWhiteSpace isAsciiDigit)

/-! ## Plain characters -/

/-- Whether a character is neither a backslash nor a square bracket. -/
def isPlain (c : Char) : Bool := c != '\\' && c != '[' && c != ']'

theorem isPlain_iff {c : Char} : isPlain c = true ↔ c ≠ '\\' ∧ c ≠ '[' ∧ c ≠ ']' := by
  simp [isPlain, and_assoc]

/-- A class of characters without the three holds plain ones only. -/
theorem isPlain_of {p : Char → Bool} (hp : p '\\' = false ∧ p '[' = false ∧ p ']' = false) {c : Char}
    (hc : p c = true) : isPlain c = true := by
  refine isPlain_iff.2 ⟨?_, ?_, ?_⟩
  · rintro rfl
    simp [hp] at hc
  · rintro rfl
    simp [hp] at hc
  · rintro rfl
    simp [hp] at hc

/-- A text of plain characters. -/
def Plain (cs : List Char) : Prop := ∀ c ∈ cs, isPlain c = true

instance (cs : List Char) : Decidable (Plain cs) := List.decidableBAll _ cs

/-- Plain characters stand between a text and what is left of it. -/
def Skims (cs r : List Char) : Prop := ∃ w, cs = w ++ r ∧ Plain w

theorem Skims.refl (cs : List Char) : Skims cs cs := ⟨[], rfl, by simp [Plain]⟩

theorem Skims.trans {cs r r' : List Char} (h : Skims cs r) (h' : Skims r r') : Skims cs r' := by
  obtain ⟨w, rfl, hw⟩ := h
  obtain ⟨w', rfl, hw'⟩ := h'
  exact ⟨w ++ w', (List.append_assoc ..).symm, List.forall_mem_append.2 ⟨hw, hw'⟩⟩

theorem Skims.cons {c : Char} {cs r : List Char} (hc : isPlain c = true) (h : Skims cs r) :
    Skims (c :: cs) r := by
  obtain ⟨w, rfl, hw⟩ := h
  exact ⟨c :: w, rfl, List.forall_mem_cons.2 ⟨hc, hw⟩⟩

theorem Skims.oneLine {cs r : List Char} (h : Skims cs r) (hline : '\n' ∉ cs) : '\n' ∉ r := by
  obtain ⟨w, rfl, -⟩ := h
  exact fun hr => hline (List.mem_append_right w hr)

theorem skims_dropWhile {p : Char → Bool} (hp : p '\\' = false ∧ p '[' = false ∧ p ']' = false)
    (cs : List Char) : Skims cs (cs.dropWhile p) :=
  ⟨cs.takeWhile p, (List.takeWhile_append_dropWhile ..).symm, fun _ hc =>
    isPlain_of hp (List.mem_takeWhile_imp hc)⟩

/-! ## Names -/

/-- The texts of a query. -/
def PropertyQuery.texts : PropertyQuery → List String
  | .name s => [s]
  | .value s _ v => [s, v]

/-- The names in an atom. -/
def Atom.names : Atom → List String
  | .property _ q => q.texts
  | _ => []

/-- The names in a part of a class. -/
def ClassSet.names : ClassSet → List String
  | .property _ q => q.texts
  | _ => []

/-- The names in an item. -/
def Item.names : Item → List String
  | .atom a => a.names
  | .member s => s.names
  | .openGroup (.named s) => [s]
  | _ => []

/-- Names of plain characters. -/
def PlainNames (names : List String) : Prop := ∀ s ∈ names, Plain s.toList

instance (names : List String) : Decidable (PlainNames names) :=
  inferInstanceAs (Decidable (∀ s ∈ names, Plain s.toList))

namespace Scan

variable {verbose : Bool} {cs r : List Char}

theorem exists_of_andThen {α β : Type} {x : Result α} {f : α → List Char → Result β} {b : β}
    (h : andThen x f = .ok (b, r)) : ∃ a r', x = .ok (a, r') ∧ f a r' = .ok (b, r) := by
  cases x with
  | error e => cases h
  | ok p => exact ⟨p.1, p.2, rfl, h⟩

/-! ## Blanks -/

theorem isPlain_of_isWhiteSpace {c : Char} (h : isWhiteSpace c = true) : isPlain c = true :=
  isPlain_of (by decide) h

/-- A comment that no newline ends goes up to the end. -/
theorem gather_comment {p : Char → Bool} (hline : '\n' ∉ cs) :
    (gather verbose p true cs).2 = [] := by
  induction cs with
  | nil => rfl
  | cons c cs ih =>
    have hne : (c != '\n') = true := bne_iff_ne.2 (List.ne_of_not_mem_cons hline).symm
    rw [gather, hne]
    exact ih (List.not_mem_of_not_mem_cons hline)

theorem of_mem_gather {p : Char → Bool} {taken : List Char} {comment : Bool}
    (h : gather verbose p comment cs = (taken, r)) : ∀ c ∈ taken, p c = true := by
  induction cs generalizing comment taken with
  | nil =>
    cases comment <;> cases h <;> simp
  | cons d cs ih =>
    cases comment with
    | true => exact ih h
    | false =>
      unfold gather at h
      split at h
      · exact ih h
      · split at h
        · exact ih h
        · split at h
          · next hd =>
            cases h
            exact List.forall_mem_cons.2 ⟨hd, ih rfl⟩
          · cases h
            simp

theorem skims_gather {p : Char → Bool} {taken : List Char} (hline : '\n' ∉ cs)
    (h : gather verbose p false cs = (taken, r)) (hr : r ≠ []) (htaken : Plain taken) :
    Skims cs r := by
  induction cs generalizing taken with
  | nil =>
    cases h
    exact absurd rfl hr
  | cons c cs ih =>
    have hcs : '\n' ∉ cs := List.not_mem_of_not_mem_cons hline
    unfold gather at h
    split at h
    · next hc =>
      exact (ih hcs h htaken).cons (isPlain_of_isWhiteSpace (Bool.and_eq_true_iff.1 hc).2)
    · split at h
      · -- nothing is left behind a comment
        have hnil : (gather verbose p true cs).2 = [] := gather_comment hcs
        rw [h] at hnil
        exact absurd hnil hr
      · split at h
        · cases h
          obtain ⟨hc, htaken⟩ := List.forall_mem_cons.1 htaken
          exact (ih hcs rfl htaken).cons hc
        · cases h
          exact .refl _

theorem skims_gather_of {p : Char → Bool} (hp : p '\\' = false ∧ p '[' = false ∧ p ']' = false)
    {taken : List Char} (hline : '\n' ∉ cs) (h : gather verbose p false cs = (taken, r)) (hr : r ≠ []) :
    Skims cs r :=
  skims_gather hline h hr fun _ hc => isPlain_of hp (of_mem_gather h _ hc)

theorem skims_skip (hline : '\n' ∉ cs) (h : skip verbose cs = r) (hr : r ≠ []) : Skims cs r :=
  skims_gather_of (p := fun _ => false) ⟨rfl, rfl, rfl⟩ hline (Prod.ext rfl h) hr

/-! ## Escapes -/

theorem skims_fixedDigits {n : Nat} {ds : List Char} (hline : '\n' ∉ cs)
    (h : fixedDigits verbose n cs = .ok (ds, r)) : Skims cs r := by
  induction n generalizing cs ds with
  | zero =>
    cases h
    exact .refl _
  | succ n ih =>
    rcases cs with _ | ⟨c, cs⟩
    · cases h
    · unfold fixedDigits at h
      dsimp only at h
      split at h
      · next hc =>
        obtain ⟨ds', r', hrest, hr⟩ := exists_of_andThen h
        cases hr
        refine Skims.cons (isPlain_of (by decide) hc) ?_
        have hcs : '\n' ∉ cs := List.not_mem_of_not_mem_cons hline
        cases n with
        | zero => exact ih hcs hrest
        | succ n =>
          -- a digit has to follow the blanks
          have hskip : Skims cs (skip verbose cs) := by
            refine skims_skip hcs rfl fun hnil => ?_
            rw [if_neg (Nat.succ_ne_zero n), hnil] at hrest
            cases hrest
          rw [if_neg (Nat.succ_ne_zero n)] at hrest
          exact hskip.trans (ih (hskip.oneLine hcs) hrest)
      · cases h

theorem skims_braced {name : List Char} (hline : '\n' ∉ cs) (h : braced verbose cs = .ok (name, r))
    (hname : Plain name) : Skims cs r := by
  unfold braced at h
  split at h
  · next hgather =>
    cases h
    have hskims := skims_gather hline hgather (List.cons_ne_nil _ _) hname
    exact hskims.trans (.cons (by decide) (.refl _))
  · cases h

theorem plain_of_ofHex? {ds : List Char} {n : Nat} (h : Text.ofHex? ds = some n) : Plain ds := by
  unfold Text.ofHex? at h
  generalize 0 = start at h
  induction ds generalizing start with
  | nil => simp [Plain]
  | cons c ds ih =>
    rw [List.foldlM_cons] at h
    obtain ⟨k, hk, hrest⟩ := Option.bind_eq_some_iff.1 h
    obtain ⟨d, hd, -⟩ := Option.map_eq_some_iff.1 hk
    have hc : Text.isHexDigit c = true := by
      rw [Text.isHexDigit, hd]
      rfl
    exact List.forall_mem_cons.2 ⟨isPlain_of (by decide) hc, ih k hrest⟩

theorem plain_of_hexChar {ds : List Char} {c : Char} (h : hexChar ds = .ok c) : Plain ds := by
  unfold hexChar at h
  split at h
  · cases h
  · split at h
    · next hc =>
      obtain ⟨n, hn, -⟩ := Option.bind_eq_some_iff.1 hc
      exact plain_of_ofHex? hn
    · cases h

theorem skims_hexEscape {digits : Nat} (hd : digits ≠ 0) {a : Atom} (hline : '\n' ∉ cs)
    (h : hexEscape verbose digits cs = .ok (a, r)) : Skims cs r := by
  unfold hexEscape at h
  split at h
  · next r' hskip =>
    have hskims := (skims_skip hline hskip (List.cons_ne_nil _ _)).trans (.cons (by decide) (.refl _))
    obtain ⟨ds, r'', hbraced, hchar⟩ := exists_of_andThen h
    obtain ⟨c, hc, he⟩ := exists_of_map_eq_ok hchar
    cases he
    exact hskims.trans (skims_braced (hskims.oneLine hline) hbraced (plain_of_hexChar hc))
  · obtain ⟨ds, r'', hdigits, hchar⟩ := exists_of_andThen h
    obtain ⟨c, hc, he⟩ := exists_of_map_eq_ok hchar
    cases he
    have hskims : Skims cs (skip verbose cs) := by
      refine skims_skip hline rfl fun hnil => ?_
      obtain ⟨n, rfl⟩ := Nat.exists_eq_succ_of_ne_zero hd
      rw [hnil] at hdigits
      cases hdigits
    exact hskims.trans (skims_fixedDigits (hskims.oneLine hline) hdigits)

theorem append_of_splitOnce? {sep a b : List Char} (h : splitOnce? sep cs = some (a, b)) :
    cs = a ++ sep ++ b := by
  induction cs generalizing a with
  | nil => cases h
  | cons c cs ih =>
    unfold splitOnce? at h
    split at h
    · next hsep =>
      cases h
      obtain ⟨t, ht⟩ := List.isPrefixOf_iff_prefix.1 hsep
      rw [← ht, List.drop_left, List.nil_append]
    · obtain ⟨⟨a', b'⟩, hrest, he⟩ := Option.map_eq_some_iff.1 h
      cases he
      rw [ih hrest]
      simp

theorem plain_of_propertyQuery (h : PlainNames (propertyQuery cs).texts) : Plain cs := by
  have hsplit : ∀ {sep name value : List Char}, Plain sep → splitOnce? sep cs = some (name, value) →
      PlainNames [String.ofList name, String.ofList value] → Plain cs := by
    intro sep name value hsep hcs hnames
    have hname : Plain name := by simpa using hnames (String.ofList name) (by simp)
    have hvalue : Plain value := by simpa using hnames (String.ofList value) (by simp)
    rw [append_of_splitOnce? hcs]
    exact List.forall_mem_append.2 ⟨List.forall_mem_append.2 ⟨hname, hsep⟩, hvalue⟩
  unfold propertyQuery at h
  split at h
  · next hcs => exact hsplit (by decide) hcs h
  · split at h
    · next hcs =>
      rcases Option.or_eq_some_iff.1 hcs with hcs | ⟨-, hcs⟩
      · exact hsplit (by decide) hcs h
      · exact hsplit (by decide) hcs h
    · simpa using h (String.ofList cs) (by simp [PropertyQuery.texts])

theorem skims_propertyEscape {negated : Bool} {a : Atom} (hline : '\n' ∉ cs)
    (h : propertyEscape verbose negated cs = .ok (a, r)) (hnames : PlainNames a.names) : Skims cs r := by
  unfold propertyEscape at h
  split at h
  · cases h
  · next r' hskip =>
    have hskims := (skims_skip hline hskip (List.cons_ne_nil _ _)).trans (.cons (by decide) (.refl _))
    obtain ⟨name, r'', hbraced, he⟩ := exists_of_andThen h
    cases he
    exact hskims.trans
      (skims_braced (hskims.oneLine hline) hbraced (plain_of_propertyQuery hnames))
  · next c r' _ hskip =>
    split at h
    · cases h
    · cases h
      have hc : isPlain c = true := by
        simpa [Plain] using hnames c.toString (by simp [Atom.names, PropertyQuery.texts])
      exact (skims_skip hline hskip (List.cons_ne_nil _ _)).trans (.cons hc (.refl _))

theorem plain_of_boundaryNamed? {name : List Char} {b : Boundary} (h : boundaryNamed? name = some b) :
    Plain name := by
  have hall : ∀ p ∈ [("start", Boundary.start), ("end", .stop), ("start-half", .startHalf),
      ("end-half", .stopHalf)], Plain p.1.toList := by decide
  obtain ⟨l₁, l₂, hl, -⟩ := List.lookup_eq_some_iff.1 h
  simpa using hall (String.ofList name, b) (by simp [hl])

theorem skims_boundaryEscape {a : Atom} (hline : '\n' ∉ cs)
    (h : boundaryEscape verbose cs = .ok (a, r)) : Skims cs r := by
  unfold boundaryEscape at h
  split at h
  · next r' =>
    split at h
    · cases h
    · split at h
      · obtain ⟨name, r'', hbraced, hnamed⟩ := exists_of_andThen h
        split at hnamed
        · next hb =>
          cases hnamed
          have hskims := skims_braced (List.not_mem_of_not_mem_cons hline) hbraced
            (plain_of_boundaryNamed? hb)
          exact hskims.cons (by decide)
        · cases hnamed
      · cases h
        exact .refl _
  · cases h
    exact .refl _

/-- Behind a backslash any character may stand, and plain ones behind it. -/
theorem skims_escape {a : Atom} (hline : '\n' ∉ cs) (h : escape verbose cs = .ok (a, r))
    (hnames : PlainNames a.names) : ∃ c cs', cs = c :: cs' ∧ Skims cs' r := by
  unfold escape at h
  rcases cs with _ | ⟨c, cs⟩
  · cases h
  · have hcs : '\n' ∉ cs := List.not_mem_of_not_mem_cons hline
    refine ⟨c, cs, rfl, ?_⟩
    dsimp only at h
    split at h
    · exact skims_hexEscape (by decide) hcs h
    · split at h
      · exact skims_hexEscape (by decide) hcs h
      · split at h
        · exact skims_hexEscape (by decide) hcs h
        · split at h
          · exact skims_propertyEscape hcs h hnames
          · split at h
            · exact skims_propertyEscape hcs h hnames
            · split at h
              · exact skims_boundaryEscape hcs h
              · obtain ⟨a', -, he⟩ := exists_of_map_eq_ok h
                cases he
                exact .refl _

/-! ## Groups -/

theorem skims_flagChanges {seen : List Flag} {off dangling : Bool} {changes : FlagChanges}
    (h : flagChanges seen off dangling cs = .ok (changes, r)) :
    Skims cs r ∧ ∃ c r', r = c :: r' ∧ isPlain c = true := by
  induction cs generalizing seen off dangling changes with
  | nil => cases h
  | cons c cs ih =>
    unfold flagChanges at h
    split at h
    · next hend =>
      split at h
      · cases h
      · cases h
        exact ⟨.refl _, c, cs, rfl, isPlain_of (p := fun c => c = ':' || c = ')') (by decide) hend⟩
    · split at h
      · next hminus =>
        split at h
        · cases h
        · subst hminus
          obtain ⟨hskims, hnext⟩ := ih h
          exact ⟨hskims.cons (by decide), hnext⟩
      · split at h
        · cases h
        · next f hf =>
          split at h
          · cases h
          · obtain ⟨changes', r', hrest, he⟩ := exists_of_andThen h
            cases he
            have hc : isPlain c = true :=
              isPlain_of (p := fun c => (flag? c).isSome) (by decide) (by rw [hf]; rfl)
            obtain ⟨hskims, hnext⟩ := ih hrest
            exact ⟨hskims.cons hc, hnext⟩

theorem skims_groupFlags {i : Item} (h : groupFlags cs = .ok (i, r)) : Skims cs r := by
  obtain ⟨changes, r', hchanges, hitem⟩ := exists_of_andThen h
  obtain ⟨hskims, c, r'', rfl, hc⟩ := skims_flagChanges hchanges
  have hr : r'' = r := by
    split at hitem
    · next he =>
      cases he
      cases hitem
      rfl
    · next he =>
      cases he
      split at hitem
      · cases hitem
      · cases hitem
        rfl
    · next he => cases he
  subst hr
  exact hskims.trans (.cons hc (.refl _))

theorem skims_groupName {i : Item} (h : groupName cs = .ok (i, r)) (hnames : PlainNames i.names) :
    Skims cs r := by
  unfold groupName at h
  split at h
  · next c name d r' hname hrest =>
    split at h
    · cases h
      have hd := List.head?_dropWhile_not (· != '>') cs
      rw [hrest] at hd
      have hd : d = '>' := by simpa using hd
      have hplain : Plain (c :: name) := by simpa using hnames _ (List.mem_singleton_self _)
      refine ⟨c :: name ++ [d], ?_, List.forall_mem_append.2 ⟨hplain, ?_⟩⟩
      · rw [List.append_assoc, List.singleton_append, ← hname, ← hrest, List.takeWhile_append_dropWhile]
      · rw [hd]
        exact List.forall_mem_singleton.2 rfl
    · cases h
  · cases h

theorem skims_group {i : Item} (hline : '\n' ∉ cs) (h : group verbose cs = .ok (i, r))
    (hnames : PlainNames i.names) : Skims cs r := by
  unfold group at h
  split at h
  · next r' hskip =>
    refine (skims_skip hline hskip (List.cons_ne_nil _ _)).trans (.cons (by decide) ?_)
    unfold special at h
    split at h
    · cases h
    · cases h
    · cases h
    · cases h
    · exact .cons (by decide) (.cons (by decide) (skims_groupName h hnames))
    · exact .cons (by decide) (skims_groupName h hnames)
    · exact skims_groupFlags h
  · cases h
    exact .refl _

/-! ## Repetitions -/

theorem skims_count {n : Nat} (hline : '\n' ∉ cs) (h : count verbose cs = .ok (n, r)) (hr : r ≠ []) :
    Skims cs r := by
  have hspace := skims_dropWhile (p := isWhiteSpace) (by decide)
  unfold count at h
  rcases hgather : gather verbose isAsciiDigit false (cs.dropWhile isWhiteSpace) with ⟨ds, r'⟩
  rw [hgather] at h
  dsimp only at h
  split at h
  · cases h
  · split at h
    · cases h
    · cases h
      have hr' : r' ≠ [] := by
        rintro rfl
        exact hr rfl
      have hdigits := skims_gather_of (by decide) ((hspace cs).oneLine hline) hgather hr'
      exact (hspace cs).trans (hdigits.trans (hspace r'))

theorem skims_counts {n : Nat × Option Nat} (hline : '\n' ∉ cs) (h : counts verbose cs = .ok (n, r)) :
    Skims cs r := by
  obtain ⟨min, r₁, hmin, hrest⟩ := exists_of_andThen h
  have hskip : Skims cs (skip verbose cs) := by
    refine skims_skip hline rfl fun hnil => ?_
    rw [hnil] at hmin
    cases hmin
  have hcount : r₁ ≠ [] → Skims cs r₁ := fun hr => hskip.trans (skims_count (hskip.oneLine hline) hmin hr)
  split at hrest
  · cases hrest
    exact (hcount (List.cons_ne_nil _ _)).trans (.cons (by decide) (.refl _))
  · next r₂ =>
    have hcomma : Skims cs r₂ :=
      (hcount (List.cons_ne_nil _ _)).trans (.cons (by decide) (.refl _))
    split at hrest
    · next hclose =>
      cases hrest
      have hskims := skims_skip (hcomma.oneLine hline) hclose (List.cons_ne_nil _ _)
      exact hcomma.trans (hskims.trans (.cons (by decide) (.refl _)))
    · obtain ⟨max, r₃, hmax, hrest⟩ := exists_of_andThen hrest
      split at hrest
      · split at hrest
        · cases hrest
        · cases hrest
          have hblank : Skims r₂ (skip verbose r₂) := by
            refine skims_skip (hcomma.oneLine hline) rfl fun hnil => ?_
            rw [hnil] at hmax
            cases hmax
          have hskims := hcomma.trans hblank
          have hlast := skims_count (hskims.oneLine hline) hmax (List.cons_ne_nil _ _)
          exact hskims.trans (hlast.trans (.cons (by decide) (.refl _)))
      · cases hrest
  · cases hrest

theorem skims_counted {i : Item} (hline : '\n' ∉ cs) (h : counted verbose cs = .ok (i, r)) :
    Skims cs r := by
  obtain ⟨n, r', hcounts, hitem⟩ := exists_of_andThen h
  have hskims := skims_counts hline hcounts
  split at hitem
  · next hmark =>
    cases hitem
    have hblank := skims_skip (hskims.oneLine hline) hmark (List.cons_ne_nil _ _)
    exact hskims.trans (hblank.trans (.cons (by decide) (.refl _)))
  · cases hitem
    exact hskims

theorem skims_signed {min : Nat} {max : Option Nat} {i : Item} (h : signed min max cs = (i, r)) :
    Skims cs r := by
  unfold signed at h
  split at h
  · cases h
    exact .cons (by decide) (.refl _)
  · cases h
    exact .refl _

/-! ## Classes -/

theorem skims_leading {negated negated' : Bool} {literals : List Char} (hline : '\n' ∉ cs)
    (h : leading verbose negated cs = (.openClass negated' literals, r)) (hr : r ≠ [])
    (hliterals : ']' ∉ literals) : Skims cs r := by
  unfold leading at h
  split at h
  · cases h
    exact absurd (List.mem_singleton_self _) hliterals
  · next hgather =>
    cases h
    exact skims_gather_of (by decide) hline hgather hr

theorem skims_openClass {negated : Bool} {literals : List Char} (hline : '\n' ∉ cs)
    (h : openClass verbose cs = (.openClass negated literals, r)) (hr : r ≠ [])
    (hliterals : ']' ∉ literals) : Skims cs r := by
  have hblank : ∀ {cs negated'}, '\n' ∉ cs →
      leading verbose negated' (skip verbose cs) = (.openClass negated literals, r) → Skims cs r := by
    intro cs negated' hcs hleading
    have hskip : Skims cs (skip verbose cs) := by
      refine skims_skip hcs rfl fun hnil => hr ?_
      rw [hnil] at hleading
      cases hleading
      rfl
    exact hskip.trans (skims_leading (hskip.oneLine hcs) hleading hr hliterals)
  unfold openClass at h
  split at h
  · next r' hskip =>
    have hcaret := (skims_skip hline hskip (List.cons_ne_nil _ _)).trans (.cons (by decide) (.refl _))
    exact hcaret.trans (hblank (hcaret.oneLine hline) h)
  · exact hblank hline h

end Scan

end OrderedLexer.Pattern
