/-
  Brackets in the text of a pattern.

  `lacks` says of a text that no bracket of a kind stands in it but in escapes.  In the text of an item
  read outside classes no opening bracket stands, unless it opens a class (`Scan.passes_next`).  In the
  text of an item read in a class no closing bracket stands, unless it closes the class, or the item holds
  a class of its own (`Scan.passes_classNext`).

  `Mode.exists_flatText` puts both together for the items that hold no other brackets (`Item.isFlat`).
-/
import OrderedLexer.Proofs.PlainText

namespace OrderedLexer.Pattern

open Text (isWhiteSpace)

/-! ## Texts without a bracket -/

/-- Induction over a text, in which a backslash goes with the character behind it. -/
@[elab_as_elim]
theorem pairInduction {motive : List Char → Prop} (nil : motive []) (lone : motive ['\\'])
    (pair : ∀ c cs, motive cs → motive ('\\' :: c :: cs))
    (char : ∀ c cs, c ≠ '\\' → motive cs → motive (c :: cs)) : ∀ cs, motive cs
  | [] => nil
  | [c] => if hc : c = '\\' then hc ▸ lone else char c [] hc nil
  | c :: d :: cs =>
    if hc : c = '\\' then hc ▸ pair d cs (pairInduction nil lone pair char cs)
    else char c (d :: cs) hc (pairInduction nil lone pair char (d :: cs))

/-- Whether the escapes of a text are whole, and no bracket of a kind stands outside them. -/
def lacks (bracket : Char) : List Char → Bool
  | [] => true
  | ['\\'] => false
  | '\\' :: _ :: r => lacks bracket r
  | c :: r => c != bracket && lacks bracket r

theorem lacks_cons {bracket c : Char} (hc : c ≠ '\\') (cs : List Char) :
    lacks bracket (c :: cs) = (c != bracket && lacks bracket cs) := by
  simp [lacks, hc]

theorem lacks_append {bracket : Char} {u v : List Char} (hu : lacks bracket u = true)
    (hv : lacks bracket v = true) : lacks bracket (u ++ v) = true := by
  induction u using pairInduction with
  | nil => exact hv
  | lone => cases hu
  | pair c u ih => exact ih hu
  | char c u hc ih =>
    rw [lacks_cons hc, Bool.and_eq_true] at hu
    rw [List.cons_append, lacks_cons hc, hu.1, ih hu.2]
    rfl

theorem Plain.lacks {w : List Char} (hw : Plain w) {bracket : Char} (hb : bracket = '[' ∨ bracket = ']') :
    lacks bracket w = true := by
  induction w with
  | nil => rfl
  | cons c w ih =>
    obtain ⟨hc, hw⟩ := List.forall_mem_cons.1 hw
    obtain ⟨hback, hopen, hclose⟩ := isPlain_iff.1 hc
    rw [lacks_cons hback, ih hw, Bool.and_true, bne_iff_ne]
    rcases hb with rfl | rfl
    · exact hopen
    · exact hclose

/-- No bracket of a kind stands between a text and what is left of it. -/
def Passes (bracket : Char) (cs r : List Char) : Prop := ∃ w, cs = w ++ r ∧ lacks bracket w = true

section

variable {bracket : Char} {cs r r' : List Char}

theorem Passes.trans (h : Passes bracket cs r) (h' : Passes bracket r r') : Passes bracket cs r' := by
  obtain ⟨w, rfl, hw⟩ := h
  obtain ⟨w', rfl, hw'⟩ := h'
  exact ⟨w ++ w', (List.append_assoc ..).symm, lacks_append hw hw'⟩

theorem Passes.oneLine (h : Passes bracket cs r) (hline : '\n' ∉ cs) : '\n' ∉ r := by
  obtain ⟨w, rfl, -⟩ := h
  exact fun hr => hline (List.mem_append_right w hr)

theorem passes_cons {c : Char} (hback : c ≠ '\\') (hc : c ≠ bracket) (cs : List Char) :
    Passes bracket (c :: cs) cs :=
  ⟨[c], rfl, by simp [lacks_cons hback, lacks, hc]⟩

theorem passes_pair (c : Char) (cs : List Char) : Passes bracket ('\\' :: c :: cs) cs :=
  ⟨['\\', c], rfl, rfl⟩

theorem Skims.passes (h : Skims cs r) (hb : bracket = '[' ∨ bracket = ']') : Passes bracket cs r := by
  obtain ⟨w, rfl, hw⟩ := h
  exact ⟨w, rfl, hw.lacks hb⟩

end

/-! ## Classes -/

namespace Scan

variable {verbose : Bool} {cs r : List Char}

theorem passes_escape {bracket : Char} (hb : bracket = '[' ∨ bracket = ']') {a : Atom}
    (hline : '\n' ∉ cs) (h : escape verbose cs = .ok (a, r)) (hnames : PlainNames a.names) :
    Passes bracket ('\\' :: cs) r := by
  obtain ⟨c, cs', rfl, hskims⟩ := skims_escape hline h hnames
  exact (passes_pair c cs').trans (hskims.passes hb)

theorem passes_classAtom {a : Atom} (hline : '\n' ∉ cs) (hclose : cs.head? ≠ some ']')
    (h : classAtom verbose cs = .ok (a, r)) (hnames : PlainNames a.names) : Passes ']' cs r := by
  unfold classAtom at h
  split at h
  · cases h
  · exact passes_escape (.inr rfl) (List.not_mem_of_not_mem_cons hline) h hnames
  · next c r' hback =>
    cases h
    exact passes_cons hback (fun hc => hclose (by rw [hc]; rfl)) _

theorem names_of_classItem {a : Atom} {s : ClassSet} (h : classItem a = .ok s) : a.names = s.names := by
  unfold classItem at h
  split at h
  · cases h; rfl
  · cases h; rfl
  · cases h; rfl
  · cases h

theorem names_of_classRange {a b : Atom} {s : ClassSet} (h : classRange a b = .ok s) :
    a.names = [] ∧ b.names = [] := by
  unfold classRange at h
  split at h
  · exact ⟨rfl, rfl⟩
  · cases h

/-- The character behind blanks is that which was looked ahead for, if it is a closing bracket. -/
theorem peek?_of_skip (hline : '\n' ∉ cs) (h : (skip verbose cs).head? = some ']') :
    peek? verbose cs = some ']' := by
  induction cs with
  | nil => cases h
  | cons c cs ih =>
    have hcs : '\n' ∉ cs := List.not_mem_of_not_mem_cons hline
    rw [skip, gather] at h
    rw [peek?]
    cases verbose with
    | false => simpa using h
    | true =>
      simp only [Bool.true_and, Bool.not_true, Bool.false_eq_true, if_false] at h ⊢
      split at h
      · next hc =>
        rw [List.dropWhile_cons_of_pos hc]
        exact ih hcs h
      · next hc =>
        rw [List.dropWhile_cons_of_neg hc]
        split at h
        · rw [gather_comment hcs] at h
          cases h
        · next hsign =>
          obtain rfl : c = ']' := by simpa using h
          rfl

theorem passes_member {i : Item} (hline : '\n' ∉ cs) (hclose : cs.head? ≠ some ']')
    (h : member verbose cs = .ok (i, r)) (hr : r ≠ []) (hnames : PlainNames i.names) :
    Passes ']' cs r := by
  obtain ⟨a, r₁, hfirst, hrest⟩ := exists_of_andThen h
  split at hrest
  · next r₂ hminus =>
    split at hrest
    · obtain ⟨s, hs, he⟩ := exists_of_map_eq_ok hrest
      cases he
      have hatom := passes_classAtom hline hclose hfirst (names_of_classItem hs ▸ hnames)
      exact hatom.trans ((skims_skip (hatom.oneLine hline) hminus hr).passes (.inr rfl))
    · next hpeek =>
      obtain ⟨b, r₃, hsecond, hset⟩ := exists_of_andThen hrest
      obtain ⟨s, hs, he⟩ := exists_of_map_eq_ok hset
      cases he
      obtain ⟨ha, hb⟩ := names_of_classRange hs
      have hatom := passes_classAtom hline hclose hfirst (by simp [ha, PlainNames])
      have hhyphen : Passes ']' r₁ r₂ :=
        ((skims_skip (hatom.oneLine hline) hminus (List.cons_ne_nil _ _)).passes (.inr rfl)).trans
          (passes_cons (by decide) (by decide) r₂)
      have hline₂ := hhyphen.oneLine (hatom.oneLine hline)
      have hblank : Skims r₂ (skip verbose r₂) := by
        refine skims_skip hline₂ rfl fun hnil => ?_
        rw [hnil] at hsecond
        cases hsecond
      have hbehind : (skip verbose r₂).head? ≠ some ']' := by
        intro hhead
        exact hpeek (by simp [peek?_of_skip hline₂ hhead])
      have hend := passes_classAtom (hblank.oneLine hline₂) hbehind hsecond (by simp [hb, PlainNames])
      exact hatom.trans (hhyphen.trans ((hblank.passes (.inr rfl)).trans hend))
  · obtain ⟨s, hs, he⟩ := exists_of_map_eq_ok hrest
    cases he
    have hatom := passes_classAtom hline hclose hfirst (names_of_classItem hs ▸ hnames)
    exact hatom.trans ((skims_skip (hatom.oneLine hline) rfl hr).passes (.inr rfl))

theorem exists_ascii_of_asciiClass? {s : ClassSet} (h : asciiClass? cs = some (s, r)) :
    ∃ negated k, s = .ascii negated k := by
  have hnamed : ∀ {negated cs}, asciiNamed? negated cs = some (s, r) →
      ∃ negated k, s = .ascii negated k := by
    intro negated cs h
    unfold asciiNamed? at h
    split at h
    · obtain ⟨k, -, he⟩ := Option.map_eq_some_iff.1 h
      cases he
      exact ⟨negated, k, rfl⟩
    · cases h
  unfold asciiClass? at h
  split at h
  · exact hnamed h
  · exact hnamed h
  · cases h

end Scan

/-! ## Items -/

/-- Whether an item opens or closes a class. -/
def Item.isBracket : Item → Bool
  | .openClass .. | .closeClass => true
  | _ => false

/-- Whether the text of an item in a mode holds no brackets but those that open and close a class: no
    class is opened in a class, no ASCII class is named there, no closing bracket stands first, and
    names are plain. -/
def Item.isFlat (m : Mode) : Item → Bool
  | .openClass _ literals => m.classes == 0 && !literals.contains ']'
  | .member (.ascii ..) => false
  | i => decide (PlainNames i.names)

theorem Item.plainNames_of_isFlat {m : Mode} {i : Item} (h : i.isFlat m = true) : PlainNames i.names := by
  unfold Item.isFlat at h
  split at h
  · simp [PlainNames, Item.names]
  · cases h
  · exact of_decide_eq_true h

theorem Mode.classes_after_of_isBracket {i : Item} (h : i.isBracket = false) (m : Mode) :
    (m.after i).classes = m.classes := by
  unfold Mode.after
  split
  · rfl
  · rfl
  · split <;> rfl
  · rfl
  · cases h
  · cases h
  · rfl

namespace Scan

variable {verbose : Bool} {c : Char} {cs r : List Char} {i : Item}

theorem isBracket_of_group (h : group verbose cs = .ok (i, r)) : i.isBracket = false := by
  have hname : ∀ {cs}, groupName cs = .ok (i, r) → i.isBracket = false := by
    intro cs h
    unfold groupName at h
    split at h
    · split at h
      · cases h
        rfl
      · cases h
    · cases h
  have hflags : ∀ {cs}, groupFlags cs = .ok (i, r) → i.isBracket = false := by
    intro cs h
    obtain ⟨changes, r', -, h⟩ := exists_of_andThen h
    split at h
    · cases h
      rfl
    · split at h
      · cases h
      · cases h
        rfl
    · cases h
  unfold group at h
  split at h
  · unfold special at h
    split at h
    · cases h
    · cases h
    · cases h
    · cases h
    · exact hname h
    · exact hname h
    · exact hflags h
  · cases h
    rfl

theorem isBracket_of_counted (h : counted verbose cs = .ok (i, r)) : i.isBracket = false := by
  obtain ⟨n, r', -, h⟩ := exists_of_andThen h
  split at h
  · cases h
    rfl
  · cases h
    rfl

theorem isBracket_of_signed {min : Nat} {max : Option Nat} (h : signed min max cs = (i, r)) :
    i.isBracket = false := by
  unfold signed at h
  split at h
  · cases h
    rfl
  · cases h
    rfl

theorem isBracket_of_member (h : member verbose cs = .ok (i, r)) : i.isBracket = false := by
  obtain ⟨a, r₁, -, h⟩ := exists_of_andThen h
  split at h
  · split at h
    · obtain ⟨s, -, he⟩ := exists_of_map_eq_ok h
      cases he
      rfl
    · obtain ⟨b, r₂, -, h⟩ := exists_of_andThen h
      obtain ⟨s, -, he⟩ := exists_of_map_eq_ok h
      cases he
      rfl
  · obtain ⟨s, -, he⟩ := exists_of_map_eq_ok h
    cases he
    rfl

/-- Outside classes an item opens a class, or its text passes no opening bracket. -/
theorem passes_next (hline : '\n' ∉ c :: cs) (h : next verbose c cs = .ok (i, r))
    (hnames : PlainNames i.names) :
    c = '[' ∧ openClass verbose cs = (i, r) ∨ i.isBracket = false ∧ Passes '[' (c :: cs) r := by
  have hcs : '\n' ∉ cs := List.not_mem_of_not_mem_cons hline
  have hsign : ∀ {c min max}, isPlain c = true → signed min max cs = (i, r) →
      i.isBracket = false ∧ Passes '[' (c :: cs) r := fun hc hs =>
    ⟨isBracket_of_signed hs, ((skims_signed hs).cons hc).passes (.inl rfl)⟩
  unfold next at h
  split at h
  · exact .inr ⟨isBracket_of_group h, ((skims_group hcs h hnames).cons (by decide)).passes (.inl rfl)⟩
  · cases h
    exact .inr ⟨rfl, passes_cons (by decide) (by decide) _⟩
  · cases h
    exact .inr ⟨rfl, passes_cons (by decide) (by decide) _⟩
  · exact .inl ⟨rfl, Except.ok.inj h⟩
  · exact .inr (hsign (by decide) (Except.ok.inj h))
  · exact .inr (hsign (by decide) (Except.ok.inj h))
  · exact .inr (hsign (by decide) (Except.ok.inj h))
  · exact .inr ⟨isBracket_of_counted h, ((skims_counted hcs h).cons (by decide)).passes (.inl rfl)⟩
  · cases h
    exact .inr ⟨rfl, passes_cons (by decide) (by decide) _⟩
  · cases h
    exact .inr ⟨rfl, passes_cons (by decide) (by decide) _⟩
  · cases h
    exact .inr ⟨rfl, passes_cons (by decide) (by decide) _⟩
  · obtain ⟨a, r', hescape, he⟩ := exists_of_andThen h
    cases he
    exact .inr ⟨rfl, passes_escape (.inl rfl) hcs hescape hnames⟩
  · next hopen _ _ _ _ _ _ _ hback =>
    cases h
    exact .inr ⟨rfl, passes_cons hback hopen _⟩

/-- In a class an item opens another one or names an ASCII class, it closes the class, or its text passes
    no closing bracket. -/
theorem passes_classNext (hline : '\n' ∉ c :: cs) (h : classNext verbose c cs = .ok (i, r))
    (hr : i.isBracket = false → r ≠ []) (hnames : PlainNames i.names) :
    (∃ negated literals, i = .openClass negated literals) ∨
      (∃ negated k, i = .member (.ascii negated k)) ∨
      (i = .closeClass ∧ c = ']' ∧ cs = r) ∨ i.isBracket = false ∧ Passes ']' (c :: cs) r := by
  unfold classNext at h
  split at h
  · split at h
    · next hs =>
      cases h
      obtain ⟨negated, k, rfl⟩ := exists_ascii_of_asciiClass? hs
      exact .inr (.inl ⟨negated, k, rfl⟩)
    · obtain ⟨negated, literals, hopen⟩ := exists_openClass verbose cs
      rw [Except.ok.inj h] at hopen
      exact .inl ⟨negated, literals, hopen⟩
  · cases h
    exact .inr (.inr (.inl ⟨rfl, rfl, rfl⟩))
  · cases h
    exact .inr (.inr (.inr ⟨rfl, (passes_cons (by decide) (by decide) _).trans
      (passes_cons (by decide) (by decide) _)⟩))
  · cases h
    exact .inr (.inr (.inr ⟨rfl, (passes_cons (by decide) (by decide) _).trans
      (passes_cons (by decide) (by decide) _)⟩))
  · cases h
    exact .inr (.inr (.inr ⟨rfl, (passes_cons (by decide) (by decide) _).trans
      (passes_cons (by decide) (by decide) _)⟩))
  · next hopen hclose _ _ _ =>
    have hbracket := isBracket_of_member h
    exact .inr (.inr (.inr ⟨hbracket,
      passes_member hline (by simpa using hclose) h (hr hbracket) hnames⟩))

end Scan

/-- The text of an item that holds no brackets but those that open and close a class. -/
inductive FlatText (m : Mode) (i : Item) : List Char → Prop
  /-- It opens a class. -/
  | opens {w : List Char} (hout : m.classes = 0) (hafter : (m.after i).classes = 1) (hw : Plain w) :
      FlatText m i ('[' :: w)
  /-- It closes a class. -/
  | closes (hin : m.classes ≠ 0) (hafter : (m.after i).classes = m.classes - 1) : FlatText m i [']']
  /-- It does neither, and no bracket that would do so stands in it. -/
  | keeps {w : List Char} (hafter : (m.after i).classes = m.classes)
      (hw : lacks (if m.classes = 0 then '[' else ']') w = true) : FlatText m i w

/-- A flat item has such a text, if text is behind it wherever a class is open. -/
theorem Mode.exists_flatText {m : Mode} {c : Char} {cs r : List Char} {i : Item}
    (hline : '\n' ∉ c :: cs) (h : m.next c cs = .ok (i, r)) (hflat : i.isFlat m = true)
    (hr : r = [] → (m.after i).classes = 0) : ∃ w, c :: cs = w ++ r ∧ FlatText m i w := by
  have hnames := Item.plainNames_of_isFlat hflat
  unfold Mode.next at h
  split at h
  · next hout =>
    rcases Scan.passes_next hline h hnames with ⟨rfl, hopen⟩ | ⟨hbracket, w, hw, hlacks⟩
    · obtain ⟨negated, literals, hitem⟩ := Scan.exists_openClass m.verbose cs
      rw [hopen] at hitem
      obtain rfl : i = .openClass negated literals := hitem
      have hliterals : ']' ∉ literals := by simpa [Item.isFlat, hout] using hflat
      have hafter : (m.after (.openClass negated literals)).classes = 1 := by simp [Mode.after, hout]
      have hrest : r ≠ [] := by
        intro hnil
        rw [hr hnil] at hafter
        cases hafter
      obtain ⟨w, rfl, hw⟩ := Scan.skims_openClass (List.not_mem_of_not_mem_cons hline) hopen hrest hliterals
      exact ⟨'[' :: w, rfl, .opens hout hafter hw⟩
    · exact ⟨w, hw, .keeps (m.classes_after_of_isBracket hbracket) (by rwa [if_pos hout])⟩
  · next hin =>
    have hrest : i.isBracket = false → r ≠ [] := by
      intro hbracket hnil
      exact hin (m.classes_after_of_isBracket hbracket ▸ hr hnil)
    rcases Scan.passes_classNext hline h hrest hnames with
      ⟨negated, literals, rfl⟩ | ⟨negated, k, rfl⟩ | ⟨rfl, rfl, rfl⟩ | ⟨hbracket, w, hw, hlacks⟩
    · simp [Item.isFlat, hin] at hflat
    · cases hflat
    · exact ⟨[']'], rfl, .closes hin rfl⟩
    · exact ⟨w, hw, .keeps (m.classes_after_of_isBracket hbracket) (by rwa [if_neg hin])⟩

end OrderedLexer.Pattern
