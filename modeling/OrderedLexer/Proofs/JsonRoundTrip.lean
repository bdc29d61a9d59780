/-
  Reading JSON that was written.

  A value is `Canonical` if its integers fit 64 bits and the members of its objects are in order; it
  `isExact` if it holds no double, and `depth` counts the brackets that it nests.  In both layouts
  the text of a canonical and exact value reads back to that value, unless it nests too deeply
  (`read_write`).  The lemmas behind it say what each reader makes of a written part in front of any
  rest; only a number needs to know that the rest does not go on with it (`EndsNumber`).  An object
  whose members are written out of order reads back with its members in order (`gives_obj`), and
  `read_of_gives` says so of whole texts.
-/
import OrderedLexer.Proofs.Merge
import OrderedLexer.Proofs.WhiteSpace
import OrderedLexer.Json.Reader

namespace OrderedLexer.Json

/-! ## Canonical and exact values -/

/-- The values that reading gives. -/
inductive Value.Canonical : Value → Prop
  | null : Canonical .null
  | bool (b : Bool) : Canonical (.bool b)
  | int {n : Int} (hlo : -0x8000000000000000 ≤ n) (hhi : n ≤ 0xFFFFFFFFFFFFFFFF) :
      Canonical (.num (.int n))
  | double (x : Float) : Canonical (.num (.double x))
  | str (s : String) : Canonical (.str s)
  | arr {vs : List Value} (h : ∀ v ∈ vs, Canonical v) : Canonical (.arr vs)
  | obj {ms : Members} (hs : ms.Sorted) (h : ∀ m ∈ ms, Canonical m.2) : Canonical (.obj ms)

mutual

/-- Whether a value holds no double. -/
def Value.isExact : Value → Bool
  | .num (.double _) => false
  | .arr vs => allExact vs
  | .obj ms => allExactMembers ms
  | _ => true

def allExact : List Value → Bool
  | [] => true
  | v :: vs => v.isExact && allExact vs

def allExactMembers : List (String × Value) → Bool
  | [] => true
  | (_, v) :: ms => v.isExact && allExactMembers ms

end

mutual

/-- The levels of brackets that a value nests. -/
def Value.depth : Value → Nat
  | .arr vs => depthItems vs + 1
  | .obj ms => depthMembers ms + 1
  | _ => 0

def depthItems : List Value → Nat
  | [] => 0
  | v :: vs => max v.depth (depthItems vs)

def depthMembers : List (String × Value) → Nat
  | [] => 0
  | (_, v) :: ms => max v.depth (depthMembers ms)

end

theorem allExact_iff {vs : List Value} : allExact vs = true ↔ ∀ v ∈ vs, v.isExact = true := by
  induction vs with
  | nil => simp [allExact]
  | cons v vs ih => simp [allExact, ih]

theorem allExactMembers_iff {ms : Members} :
    allExactMembers ms = true ↔ ∀ m ∈ ms, m.2.isExact = true := by
  induction ms with
  | nil => simp [allExactMembers]
  | cons m ms ih => simp [allExactMembers, ih]

theorem depthItems_le_iff {vs : List Value} {d : Nat} :
    depthItems vs ≤ d ↔ ∀ v ∈ vs, v.depth ≤ d := by
  induction vs with
  | nil => simp [depthItems]
  | cons v vs ih => rw [depthItems, Nat.max_le, ih, List.forall_mem_cons]

theorem depthMembers_le_iff {ms : Members} {d : Nat} :
    depthMembers ms ≤ d ↔ ∀ m ∈ ms, m.2.depth ≤ d := by
  induction ms with
  | nil => simp [depthMembers]
  | cons m ms ih => rw [depthMembers, Nat.max_le, ih, List.forall_mem_cons]

theorem Members.ofList_of_sorted {ms : Members} (h : ms.Sorted) : Members.ofList ms = ms := by
  refine (sorted_ofList ms).ext h fun name => ?_
  rw [ofList, get?_merge h]
  exact Option.or_none

/-! ## Blanks -/

namespace Reader

variable {g cs rest : List Char}

theorem skip_of_head {c : Char} (h : isBlank c = false) : skip (c :: rest) = c :: rest := by
  simp [skip, h]

theorem skip_append (hg : ∀ c ∈ g, isBlank c = true) : skip (g ++ cs) = skip cs :=
  List.dropWhile_append_of_pos hg

theorem isBlank_gap (layout : Layout) (level : Nat) : ∀ c ∈ layout.gap level, isBlank c = true := by
  intro c hc
  cases layout with
  | compact => simp [Layout.gap] at hc
  | pretty =>
    simp only [Layout.gap, List.mem_cons, List.mem_replicate] at hc
    rcases hc with rfl | ⟨-, rfl⟩ <;> decide

/-! ## Strings -/

theorem hexEscape_write {n : Nat} (h : n < 0x20) :
    hexEscape ('0' :: '0' :: Text.hexChar (n / 16) :: Text.hexChar (n % 16) :: rest) =
      .ok (n, rest) := by
  have hall : ∀ n < 0x20,
      Text.byteSize ['0', '0', Text.hexChar (n / 16), Text.hexChar (n % 16)] = 4 ∧
      Text.ofHex? ['0', '0', Text.hexChar (n / 16), Text.hexChar (n % 16)] = some n := by
    decide
  obtain ⟨hsize, hvalue⟩ := hall n h
  simp only [hexEscape, List.take, List.drop, hsize, hvalue]
  rfl

theorem escape_control {c : Char} (h : c.toNat < 0x20) :
    escape ('u' :: '0' :: '0' :: Text.hexChar (c.toNat / 16) :: Text.hexChar (c.toNat % 16) ::
      rest) = .ok (c, rest) := by
  have hlow : ¬(0xDC00 ≤ c.toNat ∧ c.toNat ≤ 0xDFFF) := by omega
  have hhigh : ¬(0xD800 ≤ c.toNat ∧ c.toNat ≤ 0xDBFF) := by omega
  simp only [escape, if_true, unicodeEscape, hexEscape_write h, andThen, if_neg hlow, if_neg hhigh,
    Char.ofNat_toNat]

theorem chars_of_escape {c : Char} (h : escape cs = .ok (c, rest)) :
    chars ('\\' :: cs) = (chars rest).map fun (ds, r) => (c :: ds, r) := by
  rw [chars.eq_def]
  simp only [Char.reduceEq, if_false, if_true]
  split
  · next e he => simp [h] at he
  · next d r he =>
    rw [h] at he
    cases he
    rfl

theorem chars_escapeChar (c : Char) :
    chars (escapeChar c ++ rest) = (chars rest).map fun (ds, r) => (c :: ds, r) := by
  unfold escapeChar
  split
  · next h => exact chars_of_escape (by simp [escape, simpleEscape?, h])
  split
  · next h => exact chars_of_escape (by simp [escape, simpleEscape?, h])
  split
  · next h =>
    refine chars_of_escape ?_
    rw [← Char.ofNat_toNat c, h]
    simp [escape, simpleEscape?]
  split
  · next h => exact chars_of_escape (by simp [escape, simpleEscape?, h])
  split
  · next h => exact chars_of_escape (by simp [escape, simpleEscape?, h])
  split
  · next h =>
    refine chars_of_escape ?_
    rw [← Char.ofNat_toNat c, h]
    simp [escape, simpleEscape?]
  split
  · next h => exact chars_of_escape (by simp [escape, simpleEscape?, h])
  split
  · next h => exact chars_of_escape (escape_control h)
  · next hquote hback _ _ _ _ _ hcontrol =>
    rw [List.cons_append, List.nil_append, chars.eq_def]
    simp only [if_neg hquote, if_neg hback, if_neg hcontrol]

theorem chars_write (s : List Char) :
    chars (s.flatMap escapeChar ++ '"' :: rest) = .ok (s, rest) := by
  induction s with
  | nil =>
    rw [List.flatMap_nil, List.nil_append, chars.eq_def]
    simp
  | cons c s ih =>
    rw [List.flatMap_cons, List.append_assoc, chars_escapeChar, ih]
    rfl

theorem string_write (s : String) :
    string (s.toList.flatMap escapeChar ++ '"' :: rest) = .ok (s, rest) := by
  rw [string, chars_write]
  simp [Except.map]

/-! ## Numbers -/

/-- What is left does not go on with a number. -/
def EndsNumber (rest : List Char) : Prop :=
  ∀ c ∈ rest.head?, isDigit c = false ∧ c ≠ '.' ∧ c ≠ 'e' ∧ c ≠ 'E'

theorem le_ofDigitChars (n : Nat) (ds : List Char) : n ≤ Nat.ofDigitChars 10 ds n := by
  induction ds generalizing n with
  | nil => simp
  | cons d ds ih =>
    rw [Nat.ofDigitChars_cons]
    exact Nat.le_trans (by omega) (ih _)

theorem fit_eq {limit n : Nat} {ds : List Char} (h : Nat.ofDigitChars 10 ds n ≤ limit) :
    fit limit n ds = (Nat.ofDigitChars 10 ds n, []) := by
  induction ds generalizing n with
  | nil => simp [fit]
  | cons d ds ih =>
    rw [Nat.ofDigitChars_cons] at h ⊢
    have hstep : ¬limit < 10 * n + digitVal d := Nat.not_lt.2 (Nat.le_trans (le_ofDigitChars _ ds) h)
    rw [fit, if_neg hstep]
    exact ih h

theorem isDigit_toDigits {n : Nat} : ∀ c ∈ Nat.toDigits 10 n, isDigit c = true := by
  intro c hc
  have h := Nat.isDigit_of_mem_toDigits (by decide) (by decide) hc
  simp only [Char.isDigit, Bool.and_eq_true, decide_eq_true_eq] at h
  simp only [isDigit, Bool.and_eq_true, decide_eq_true_eq]
  exact h

/-- Only zero is written with a zero in front. -/
theorem toDigits_head {n : Nat} {ds : List Char} (h : Nat.toDigits 10 n = '0' :: ds) : ds = [] := by
  induction n using Nat.base_induction 10 (by decide) generalizing ds with
  | single m hm =>
    rw [Nat.toDigits_of_lt_base hm] at h
    exact (List.cons.inj h).2.symm
  | digit m k hk hm ih =>
    rw [← Nat.toDigits_append_toDigits (by decide) hm hk] at h
    obtain ⟨c, cs, hcs⟩ := List.exists_cons_of_ne_nil (Nat.toDigits_ne_nil (n := m) (b := 10))
    rw [hcs, List.cons_append] at h
    obtain ⟨rfl, -⟩ := List.cons.inj h
    -- the digits in front would be a zero alone, but their number is not zero
    have hvalue : Nat.ofDigitChars 10 (Nat.toDigits 10 m) 0 = m := Nat.ofDigitChars_ten_toDigits
    rw [hcs, ih hcs] at hvalue
    exact absurd hvalue.symm (Nat.pos_iff_ne_zero.1 hm)

theorem number_write {negative : Bool} {n : Nat} (hn : n ≤ maxSignificand)
    (hrest : EndsNumber rest) :
    number negative (Nat.toDigits 10 n ++ rest) = .ok (integer negative n, rest) := by
  obtain ⟨c, ds, hds⟩ := List.exists_cons_of_ne_nil (Nat.toDigits_ne_nil (n := n) (b := 10))
  have hdigits : ∀ d ∈ c :: ds, isDigit d = true := hds ▸ isDigit_toDigits
  have hend : ∀ d ∈ rest.head?, isDigit d = false := fun d hd => (hrest d hd).1
  have hzero : (c = '0' && (ds ++ rest).head?.any isDigit) = false := by
    by_cases hc : c = '0'
    · rw [hc] at hds
      rw [toDigits_head hds, List.nil_append]
      cases rest with
      | nil => simp
      | cons d rest => simp [hend d rfl]
    · simp [hc]
  have hfit : fit maxSignificand 0 (c :: ds) = (n, []) := by
    have hvalue : Nat.ofDigitChars 10 (c :: ds) 0 = n := hds ▸ Nat.ofDigitChars_ten_toDigits
    rw [fit_eq (hvalue ▸ hn), hvalue]
  rw [hds, List.cons_append, number]
  simp only [hdigits c List.mem_cons_self, hzero, ← List.cons_append,
    Text.takeWhile_append_of_head? hdigits hend, Text.dropWhile_append_of_head? hdigits hend, hfit]
  cases rest with
  | nil => rfl
  | cons d rest =>
    obtain ⟨-, hpoint, he, hE⟩ := hrest d rfl
    simp only [Bool.not_true, Bool.false_eq_true, if_false]
    split
    · next h => exact absurd (List.cons.inj h).1 hpoint
    · next h => exact absurd (List.cons.inj h).1 he
    · next h => exact absurd (List.cons.inj h).1 hE
    · rfl

/-! ## Items and members -/

/-- The text starts with a character of a value. -/
def StartsValue (cs : List Char) : Prop := ∃ c r, cs = c :: r ∧ isBlank c = false ∧ c ≠ ']'

theorem StartsValue.append (h : StartsValue cs) (rest : List Char) : StartsValue (cs ++ rest) := by
  obtain ⟨c, r, rfl, hc, hne⟩ := h
  exact ⟨c, r ++ rest, rfl, hc, hne⟩

theorem StartsValue.skip_eq (h : StartsValue cs) : skip cs = cs := by
  obtain ⟨c, r, rfl, hc, -⟩ := h
  exact skip_of_head hc

theorem startsValue_digits (n : Nat) : StartsValue (Nat.toDigits 10 n) := by
  obtain ⟨c, ds, hds⟩ := List.exists_cons_of_ne_nil (Nat.toDigits_ne_nil (n := n) (b := 10))
  have hc : isDigit c = true := isDigit_toDigits c (hds ▸ List.mem_cons_self)
  refine ⟨c, ds, hds, ?_, ?_⟩
  · by_contra hblank
    simp only [isBlank, Bool.not_eq_false, Bool.or_eq_true, decide_eq_true_eq] at hblank
    rcases hblank with ((rfl | rfl) | rfl) | rfl <;> exact absurd hc (by decide)
  · rintro rfl
    exact absurd hc (by decide)

theorem startsValue_writeAt {v : Value} (hv : v.isExact = true) (layout : Layout) (level : Nat) :
    StartsValue (v.writeAt layout level) := by
  cases v with
  | null => exact ⟨'n', _, rfl, by decide, by decide⟩
  | bool b =>
    cases b with
    | true => exact ⟨'t', _, rfl, by decide, by decide⟩
    | false => exact ⟨'f', _, rfl, by decide, by decide⟩
  | num n =>
    cases n with
    | int n =>
      cases n with
      | ofNat n =>
        simp only [Value.writeAt, Number.write, writeInt, Nat.toList_repr]
        exact startsValue_digits n
      | negSucc n => exact ⟨'-', _, rfl, by decide, by decide⟩
    | double x => simp [Value.isExact] at hv
  | str s => exact ⟨'"', _, rfl, by decide, by decide⟩
  | arr vs =>
    cases vs with
    | nil => exact ⟨'[', _, rfl, by decide, by decide⟩
    | cons v vs => exact ⟨'[', _, rfl, by decide, by decide⟩
  | obj ms =>
    cases ms with
    | nil => exact ⟨'{', _, rfl, by decide, by decide⟩
    | cons m ms => exact ⟨'{', _, rfl, by decide, by decide⟩

theorem endsNumber_cons {c : Char} (h : isDigit c = false ∧ c ≠ '.' ∧ c ≠ 'e' ∧ c ≠ 'E')
    (rest : List Char) : EndsNumber (c :: rest) := by
  intro d hd
  cases hd
  exact h

theorem endsNumber_of_isBlank (hg : ∀ c ∈ g, isBlank c = true) : EndsNumber g := by
  intro c hc
  have hblank := hg c (List.mem_of_mem_head? hc)
  simp only [isBlank, Bool.or_eq_true, decide_eq_true_eq] at hblank
  rcases hblank with ((rfl | rfl) | rfl) | rfl <;> decide

theorem endsNumber_gap (layout : Layout) (level : Nat) {cs : List Char} (h : EndsNumber cs) :
    EndsNumber (layout.gap level ++ cs) := by
  cases layout with
  | compact => exact h
  | pretty => exact endsNumber_cons (by decide) _

theorem endsNumber_writeItems (layout : Layout) (level : Nat) (vs : List Value) (h : EndsNumber cs) :
    EndsNumber (writeItems layout level vs ++ cs) := by
  cases vs with
  | nil => exact h
  | cons v vs => exact endsNumber_cons (by decide) _

theorem endsNumber_writeMembers (layout : Layout) (level : Nat) (ms : Members) (h : EndsNumber cs) :
    EndsNumber (writeMembers layout level ms ++ cs) := by
  cases ms with
  | nil => exact h
  | cons m ms => exact endsNumber_cons (by decide) _

section

variable {layout : Layout} {level fuel : Nat} {item : List Char → Result Value}

/-- A reader gives the value `w` from the text of `v`. -/
def Gives (item : List Char → Result Value) (layout : Layout) (level : Nat) (v w : Value) : Prop :=
  ∀ g rest, (∀ c ∈ g, isBlank c = true) → EndsNumber rest →
    item (g ++ (v.writeAt layout level ++ rest)) = .ok (w, rest)

theorem items_nil (rest : List Char) : items item fuel (']' :: rest) = .ok ([], rest) := rfl

theorem items_of_startsValue (hg : ∀ c ∈ g, isBlank c = true) (hcs : StartsValue cs) :
    items item fuel (g ++ cs) =
      andThen (item cs) fun v r => andThen (moreItems item fuel r) fun vs r => .ok (v :: vs, r) := by
  rw [items, skip_append hg, hcs.skip_eq]
  obtain ⟨c, r, rfl, -, hne⟩ := hcs
  split
  · next h => cases h
  · next h => exact absurd (List.cons.inj h).1 hne
  · rfl

theorem moreItems_of_startsValue (hg : ∀ c ∈ g, isBlank c = true) (hcs : StartsValue cs) :
    moreItems item (fuel + 1) (',' :: (g ++ cs)) =
      andThen (item cs) fun v r => andThen (moreItems item fuel r) fun vs r => .ok (v :: vs, r) := by
  rw [moreItems, skip_of_head (by decide)]
  simp only [skip_append hg, hcs.skip_eq]
  obtain ⟨c, r, rfl, -, hne⟩ := hcs
  split
  · next h => cases h
  · next h => exact absurd (List.cons.inj h).1 hne
  · rfl

theorem moreItems_write {vs : List Value} {f : Value → Value} (hexact : ∀ v ∈ vs, v.isExact = true)
    (hgives : ∀ v ∈ vs, Gives item layout level v (f v)) (hfuel : vs.length < fuel)
    (hg : ∀ c ∈ g, isBlank c = true) (hend : EndsNumber (g ++ ']' :: rest)) :
    moreItems item fuel (writeItems layout level vs ++ (g ++ ']' :: rest)) =
      .ok (vs.map f, rest) := by
  induction vs generalizing fuel with
  | nil =>
    obtain ⟨fuel, rfl⟩ := Nat.exists_eq_add_one_of_ne_zero (Nat.ne_zero_of_lt hfuel)
    rw [writeItems, List.nil_append, moreItems, skip_append hg, skip_of_head (by decide)]
    rfl
  | cons v vs ih =>
    obtain ⟨fuel, rfl⟩ := Nat.exists_eq_add_one_of_ne_zero (Nat.ne_zero_of_lt hfuel)
    obtain ⟨hv, hvs⟩ := List.forall_mem_cons.1 hexact
    obtain ⟨hgive, hgives⟩ := List.forall_mem_cons.1 hgives
    have hread := hgive [] _ (by simp) (endsNumber_writeItems layout level vs hend)
    rw [List.nil_append] at hread
    have hmore := ih hvs hgives (Nat.lt_of_succ_lt_succ hfuel)
    simp only [writeItems, List.cons_append, List.append_assoc]
    rw [moreItems_of_startsValue (isBlank_gap layout level)
      ((startsValue_writeAt hv layout level).append _), hread, andThen, hmore]
    rfl

theorem items_write {v : Value} {vs : List Value} {f : Value → Value}
    (hexact : ∀ w ∈ v :: vs, w.isExact = true)
    (hgives : ∀ w ∈ v :: vs, Gives item layout (level + 1) w (f w)) (hfuel : vs.length < fuel)
    (rest : List Char) :
    items item fuel (layout.gap (level + 1) ++ (v.writeAt layout (level + 1) ++
      (writeItems layout (level + 1) vs ++ (layout.gap level ++ ']' :: rest)))) =
      .ok ((v :: vs).map f, rest) := by
  obtain ⟨hv, hvs⟩ := List.forall_mem_cons.1 hexact
  obtain ⟨hgive, hgives⟩ := List.forall_mem_cons.1 hgives
  have hend : EndsNumber (layout.gap level ++ ']' :: rest) :=
    endsNumber_gap layout level (endsNumber_cons (by decide) rest)
  have hread := hgive [] _ (by simp) (endsNumber_writeItems layout (level + 1) vs hend)
  rw [List.nil_append] at hread
  rw [items_of_startsValue (isBlank_gap layout _) ((startsValue_writeAt hv layout _).append _),
    hread, andThen,
    moreItems_write hvs hgives hfuel (isBlank_gap layout level) hend]
  rfl

/-! ## Members -/

theorem member_write {k : String} {v w : Value} (hv : Gives item layout level v w)
    (hend : EndsNumber rest) :
    member item (writeString k ++ (layout.colon ++ (v.writeAt layout level ++ rest))) =
      .ok ((k, w), rest) := by
  obtain ⟨b, hcolon, hb⟩ : ∃ b, layout.colon = ':' :: b ∧ ∀ c ∈ b, isBlank c = true := by
    cases layout with
    | compact => exact ⟨[], rfl, by simp⟩
    | pretty => exact ⟨[' '], rfl, List.forall_mem_singleton.2 rfl⟩
  simp only [writeString, List.cons_append, List.append_assoc, List.nil_append, member, List.drop,
    hcolon, string_write, andThen, skip_of_head (show isBlank ':' = false by decide), hv _ _ hb hend]

theorem members_nil (rest : List Char) : members item fuel ('}' :: rest) = .ok ([], rest) := rfl

theorem members_of_writeString (hg : ∀ c ∈ g, isBlank c = true) (k : String) :
    members item fuel (g ++ (writeString k ++ cs)) =
      andThen (member item (writeString k ++ cs)) fun m r =>
        andThen (moreMembers item fuel r) fun ms r => .ok (m :: ms, r) := by
  rw [members, skip_append hg, writeString, List.cons_append, skip_of_head (by decide)]
  rfl

theorem moreMembers_of_writeString (hg : ∀ c ∈ g, isBlank c = true) (k : String) :
    moreMembers item (fuel + 1) (',' :: (g ++ (writeString k ++ cs))) =
      andThen (member item (writeString k ++ cs)) fun m r =>
        andThen (moreMembers item fuel r) fun ms r => .ok (m :: ms, r) := by
  rw [moreMembers, skip_of_head (by decide), writeString, List.cons_append]
  simp only [skip_append hg, skip_of_head (show isBlank '"' = false by decide)]

theorem moreMembers_write {ms : Members} (hgives : ∀ m ∈ ms, Gives item layout level m.2 m.2)
    (hfuel : ms.length < fuel) (hg : ∀ c ∈ g, isBlank c = true)
    (hend : EndsNumber (g ++ '}' :: rest)) :
    moreMembers item fuel (writeMembers layout level ms ++ (g ++ '}' :: rest)) = .ok (ms, rest) := by
  induction ms generalizing fuel with
  | nil =>
    obtain ⟨fuel, rfl⟩ := Nat.exists_eq_add_one_of_ne_zero (Nat.ne_zero_of_lt hfuel)
    rw [writeMembers, List.nil_append, moreMembers, skip_append hg, skip_of_head (by decide)]
    rfl
  | cons m ms ih =>
    obtain ⟨k, v⟩ := m
    obtain ⟨fuel, rfl⟩ := Nat.exists_eq_add_one_of_ne_zero (Nat.ne_zero_of_lt hfuel)
    obtain ⟨hgive, hgives⟩ := List.forall_mem_cons.1 hgives
    have hmember := member_write (k := k) hgive (endsNumber_writeMembers layout level ms hend)
    have hmore := ih hgives (Nat.lt_of_succ_lt_succ hfuel)
    simp only [writeMembers, List.cons_append, List.append_assoc]
    rw [moreMembers_of_writeString (isBlank_gap layout level), hmember, andThen, hmore]
    rfl

theorem members_write {k : String} {v : Value} {ms : Members}
    (hgives : ∀ m ∈ (k, v) :: ms, Gives item layout (level + 1) m.2 m.2) (hfuel : ms.length < fuel)
    (rest : List Char) :
    members item fuel (layout.gap (level + 1) ++ (writeString k ++ (layout.colon ++
      (v.writeAt layout (level + 1) ++ (writeMembers layout (level + 1) ms ++
        (layout.gap level ++ '}' :: rest)))))) = .ok ((k, v) :: ms, rest) := by
  obtain ⟨hgive, hgives⟩ := List.forall_mem_cons.1 hgives
  have hend : EndsNumber (layout.gap level ++ '}' :: rest) :=
    endsNumber_gap layout level (endsNumber_cons (by decide) rest)
  have hmember := member_write (k := k) hgive (endsNumber_writeMembers layout (level + 1) ms hend)
  rw [members_of_writeString (isBlank_gap layout _), hmember, andThen,
    moreMembers_write hgives hfuel (isBlank_gap layout level) hend]
  rfl

end

/-! ## Values -/

section

variable {fuel d level : Nat} {layout : Layout}

theorem value_append (hg : ∀ c ∈ g, isBlank c = true) : value fuel d (g ++ cs) = value fuel d cs := by
  rw [value.eq_def, skip_append hg, ← value.eq_def]

theorem value_of_isDigit {c : Char} (hc : isDigit c = true) :
    value fuel d (c :: cs) = (number false (c :: cs)).map fun (n, r) => (.num n, r) := by
  have hne : ∀ e ∈ [' ', '\t', '\n', '\r', 'n', 't', 'f', '-', '"', '[', '{'], c ≠ e := by
    rintro e he rfl
    have hall : ∀ e ∈ [' ', '\t', '\n', '\r', 'n', 't', 'f', '-', '"', '[', '{'],
        isDigit e = false := List.forall_iff_forall_mem.1 (by decide)
    rw [hall c he] at hc
    cases hc
  simp only [List.forall_mem_cons] at hne
  have hblank : isBlank c = false := by simp [isBlank, hne]
  rw [value.eq_def, skip_of_head hblank]
  split
  · next h => cases h
  all_goals first
    | next h => exact absurd (List.cons.inj h).1 (by simp [hne])
    | skip
  · next h =>
    obtain ⟨rfl, rfl⟩ := List.cons.inj h
    rw [if_pos hc]

theorem length_writeAt_le (layout : Layout) (level : Nat) {v : Value} {vs : List Value}
    (h : v ∈ vs) :
    (v.writeAt layout level).length ≤ (writeItems layout level vs).length := by
  induction vs with
  | nil => simp at h
  | cons w vs ih =>
    simp only [writeItems, List.length_cons, List.length_append]
    rcases List.mem_cons.1 h with rfl | h
    · omega
    · have := ih h
      omega

theorem length_le_writeItems (layout : Layout) (level : Nat) (vs : List Value) :
    vs.length ≤ (writeItems layout level vs).length := by
  induction vs with
  | nil => simp
  | cons w vs ih =>
    simp only [writeItems, List.length_cons, List.length_append]
    omega

theorem length_writeAt_le_members (layout : Layout) (level : Nat) {m : String × Value} {ms : Members}
    (h : m ∈ ms) :
    (m.2.writeAt layout level).length ≤ (writeMembers layout level ms).length := by
  induction ms with
  | nil => simp at h
  | cons n ms ih =>
    simp only [writeMembers, List.length_cons, List.length_append]
    rcases List.mem_cons.1 h with rfl | h
    · omega
    · have := ih h
      omega

theorem length_le_writeMembers (layout : Layout) (level : Nat) (ms : Members) :
    ms.length ≤ (writeMembers layout level ms).length := by
  induction ms with
  | nil => simp
  | cons n ms ih =>
    simp only [writeMembers, List.length_cons, List.length_append]
    omega

/-- An array has fewer items than characters, and none of them is longer than it. -/
theorem length_le_writeAt_arr (layout : Layout) (level : Nat) (vs : List Value) :
    vs.length ≤ (Value.writeAt layout level (.arr vs)).length ∧
      ∀ v ∈ vs, (v.writeAt layout (level + 1)).length ≤ (Value.writeAt layout level (.arr vs)).length := by
  cases vs with
  | nil => simp
  | cons v vs =>
    have hcount := length_le_writeItems layout (level + 1) vs
    simp only [Value.writeAt, List.length_cons, List.length_append]
    refine ⟨by omega, fun w hw => ?_⟩
    rcases List.mem_cons.1 hw with rfl | hw
    · omega
    · have := length_writeAt_le layout (level + 1) hw
      omega

/-- An object has fewer members than characters, and none of their values is longer than it. -/
theorem length_le_writeAt_obj (layout : Layout) (level : Nat) (ms : Members) :
    ms.length ≤ (Value.writeAt layout level (.obj ms)).length ∧
      ∀ m ∈ ms, (m.2.writeAt layout (level + 1)).length ≤
        (Value.writeAt layout level (.obj ms)).length := by
  cases ms with
  | nil => simp
  | cons m ms =>
    have hcount := length_le_writeMembers layout (level + 1) ms
    simp only [Value.writeAt, List.length_cons, List.length_append]
    refine ⟨by omega, fun n hn => ?_⟩
    rcases List.mem_cons.1 hn with rfl | hn
    · omega
    · have := length_writeAt_le_members layout (level + 1) hn
      omega

theorem value_int {n : Int} (hlo : -0x8000000000000000 ≤ n) (hhi : n ≤ 0xFFFFFFFFFFFFFFFF)
    (hend : EndsNumber rest) : value fuel d (writeInt n ++ rest) = .ok (.num (.int n), rest) := by
  cases n with
  | ofNat n =>
    have hn : n ≤ maxSignificand := Int.ofNat_le.1 hhi
    obtain ⟨c, ds, hds⟩ := List.exists_cons_of_ne_nil (Nat.toDigits_ne_nil (n := n) (b := 10))
    have hc : isDigit c = true := isDigit_toDigits c (hds ▸ List.mem_cons_self)
    rw [writeInt, Nat.toList_repr, hds, List.cons_append, value_of_isDigit hc, ← List.cons_append,
      ← hds, number_write hn hend]
    rfl
  | negSucc n =>
    have hn : n + 1 ≤ maxSignificand := by
      simp only [maxSignificand]
      omega
    have hpow : ¬Nat.pow 2 63 < n + 1 := by
      have : Nat.pow 2 63 = 0x8000000000000000 := rfl
      omega
    rw [writeInt, Nat.toList_repr, List.cons_append, value.eq_def, skip_of_head (by decide)]
    simp only [number_write hn hend, Except.map, integer]
    simp [hpow, Int.negSucc_eq]

theorem value_bracket {items' : List Value} (h : items (value fuel d) fuel cs = .ok (items', rest)) :
    value fuel (d + 1) ('[' :: cs) = .ok (.arr items', rest) := by
  rw [value.eq_def, skip_of_head (by decide)]
  simp only [h, Except.map]

theorem value_brace {ms : Members} (h : members (value fuel d) fuel cs = .ok (ms, rest)) :
    value fuel (d + 1) ('{' :: cs) = .ok (.obj (Members.ofList ms), rest) := by
  rw [value.eq_def, skip_of_head (by decide)]
  simp only [h, Except.map]

/-- The text of an array reads back as its items do. -/
theorem gives_arr {vs : List Value} {f : Value → Value} (hexact : ∀ v ∈ vs, v.isExact = true)
    (hgives : ∀ v ∈ vs, Gives (value fuel d) layout (level + 1) v (f v)) (hfuel : vs.length ≤ fuel) :
    Gives (value fuel (d + 1)) layout level (.arr vs) (.arr (vs.map f)) := by
  intro g rest hg hend
  rw [value_append hg]
  cases vs with
  | nil => exact value_bracket (items_nil rest)
  | cons v vs =>
    have hitems := items_write hexact hgives (Nat.lt_of_succ_le hfuel) rest
    simpa [Value.writeAt] using value_bracket hitems

/-- The text of an object reads back with its members in order, if their values read back. -/
theorem gives_obj {ms : Members} (hgives : ∀ m ∈ ms, Gives (value fuel d) layout (level + 1) m.2 m.2)
    (hfuel : ms.length ≤ fuel) :
    Gives (value fuel (d + 1)) layout level (.obj ms) (.obj (Members.ofList ms)) := by
  intro g rest hg hend
  rw [value_append hg]
  cases ms with
  | nil => exact value_brace (members_nil rest)
  | cons m ms =>
    obtain ⟨k, v⟩ := m
    have hmembers := members_write hgives (Nat.lt_of_succ_le hfuel) rest
    simpa [Value.writeAt] using value_brace hmembers

/-- In front of a rest that does not go on with a number, the text of a value reads back. -/
theorem gives_value {v : Value} (hv : v.Canonical) (hexact : v.isExact = true) (hdepth : v.depth ≤ d)
    (hfuel : (v.writeAt layout level).length ≤ fuel) : Gives (value fuel d) layout level v v := by
  induction hv generalizing d level with
  | null =>
    intro g rest hg hend
    rw [value_append hg, Value.writeAt, value.eq_def]
    rfl
  | bool b =>
    intro g rest hg hend
    cases b with
    | true =>
      rw [value_append hg, Value.writeAt, value.eq_def]
      rfl
    | false =>
      rw [value_append hg, Value.writeAt, value.eq_def]
      rfl
  | int hlo hhi =>
    intro g rest hg hend
    rw [value_append hg]
    exact value_int hlo hhi hend
  | double x => simp [Value.isExact] at hexact
  | str s =>
    intro g rest hg hend
    rw [value_append hg, Value.writeAt, writeString, value.eq_def, List.cons_append,
      skip_of_head (by decide)]
    simp [string_write, Except.map]
  | @arr vs h ih =>
    rw [Value.isExact, allExact_iff] at hexact
    rw [Value.depth] at hdepth
    obtain ⟨d, rfl⟩ := Nat.exists_eq_add_one_of_ne_zero (show d ≠ 0 by omega)
    have hdepths := depthItems_le_iff.1 (Nat.le_of_succ_le_succ hdepth)
    have hlengths := length_le_writeAt_arr layout level vs
    have hgives : ∀ w ∈ vs, Gives (value fuel d) layout (level + 1) w (id w) := fun w hw =>
      ih w hw (hexact w hw) (hdepths w hw) (Nat.le_trans (hlengths.2 w hw) hfuel)
    simpa using gives_arr hexact hgives (Nat.le_trans hlengths.1 hfuel)
  | @obj ms hs h ih =>
    rw [Value.isExact, allExactMembers_iff] at hexact
    rw [Value.depth] at hdepth
    obtain ⟨d, rfl⟩ := Nat.exists_eq_add_one_of_ne_zero (show d ≠ 0 by omega)
    have hdepths := depthMembers_le_iff.1 (Nat.le_of_succ_le_succ hdepth)
    have hlengths := length_le_writeAt_obj layout level ms
    have hgives : ∀ m ∈ ms, Gives (value fuel d) layout (level + 1) m.2 m.2 := fun m hm =>
      ih m hm (hexact m hm) (hdepths m hm) (Nat.le_trans (hlengths.2 m hm) hfuel)
    have hread := gives_obj hgives (Nat.le_trans hlengths.1 hfuel)
    rwa [Members.ofList_of_sorted hs] at hread

end

end Reader

/-- The text of a value reads back as it is read in front of blanks. -/
theorem read_of_gives {v w : Value} {layout : Layout} {g : List Char}
    (hg : ∀ c ∈ g, Reader.isBlank c = true)
    (h : ∀ fuel, (v.write layout).length ≤ fuel →
      Reader.Gives (Reader.value fuel Reader.maxDepth) layout 0 v w) :
    read (String.ofList (v.write layout ++ g)) = .ok w := by
  have hlength : (v.write layout).length ≤ (v.write layout ++ g).length + 1 := by
    rw [List.length_append]
    omega
  have hvalue := h _ hlength [] g (by simp) (Reader.endsNumber_of_isBlank hg)
  rw [List.nil_append] at hvalue
  have hskip : Reader.skip g = [] := List.dropWhile_eq_nil_iff.2 hg
  have hdocument : Reader.document (v.write layout ++ g) = .ok w := by
    unfold Reader.document Value.write
    rw [Value.write] at hvalue
    simp only [hvalue, bind, Except.bind, hskip]
    rfl
  simp only [read, String.toList_ofList, hdocument]

/-- **The text of a value reads back**, in both layouts. -/
theorem read_write {v : Value} (hv : v.Canonical) (hexact : v.isExact = true)
    (hdepth : v.depth ≤ Reader.maxDepth) (layout : Layout) :
    read (String.ofList (v.write layout)) = .ok v := by
  have hread : read (String.ofList (v.write layout ++ [])) = .ok v :=
    read_of_gives (List.forall_mem_nil _) fun fuel hfuel => Reader.gives_value hv hexact hdepth hfuel
  rwa [List.append_nil] at hread

end OrderedLexer.Json
