/-
  Slashes in the classes of a pattern between slashes.

  The reader of a pattern between slashes keeps track of classes by one flag: every opening bracket sets
  it, and every closing one clears it.  So a slash is kept just if the last bracket before it is an
  opening one, and the closing slash closes just if the last bracket of the pattern is not
  (`slashSource_eq_some_iff`).

  The parser of patterns knows of more: classes in classes, names of ASCII classes in brackets, and a
  closing bracket that stands first and is a literal.  Where a pattern has none of these
  (`Part.isFlat`), the flag agrees with the parser at every part (`slashSource_of_reads`), and a pattern
  whose slashes all stand in classes is read back (`readsBack_of_inClasses`).  Where it has one, a slash
  in a class may close the pattern (`splitPattern_nested`).
-/
import Mathlib.Data.List.Infix
import OrderedLexer.Proofs.Brackets
import OrderedLexer.Proofs.SpecForms

namespace OrderedLexer

namespace Pattern

open Text (isWhiteSpace)

/-! ## Parts -/

/-- A part of a pattern's text. -/
structure Part where
  /-- The mode in which it is read. -/
  mode : Mode
  text : List Char
  /-- What it is read as, unless it is a blank. -/
  item? : Option Item

/-- The parts of a text, read in a mode, up to the first one that cannot be read. -/
def parts (m : Mode) (cs : List Char) : List Part :=
  match cs with
  | [] => []
  | c :: r =>
    if m.verbose && isWhiteSpace c then ⟨m, [c], none⟩ :: parts m r
    else if m.verbose && c == '#' then
      match h : r.dropWhile (· != '\n') with
      | [] => [⟨m, c :: r, some (.comment false)⟩]
      | d :: rest =>
        have : rest.length < r.length := by
          have := (List.dropWhile_suffix (l := r) (· != '\n')).length_le
          rw [h] at this
          exact this
        ⟨m, c :: (r.takeWhile (· != '\n') ++ [d]), some (.comment true)⟩ :: parts m rest
    else match h : m.next c r with
      | .error _ => []
      | .ok (item, rest) =>
        have : rest.length ≤ r.length := (m.leaves_next c r).length_le _ _ h
        ⟨m, (c :: r).take (r.length + 1 - rest.length), some item⟩ :: parts (m.after item) rest
termination_by cs.length
decreasing_by all_goals simp only [List.length_cons]; omega

section

variable {m : Mode} {c : Char} {r : List Char}

theorem parts_blank (hblank : (m.verbose && isWhiteSpace c) = true) :
    parts m (c :: r) = ⟨m, [c], none⟩ :: parts m r := by
  rw [parts, if_pos hblank]

theorem parts_openComment (hblank : (m.verbose && isWhiteSpace c) = false)
    (hsign : (m.verbose && c == '#') = true) (hr : r.dropWhile (· != '\n') = []) :
    parts m (c :: r) = [⟨m, c :: r, some (.comment false)⟩] := by
  rw [parts, if_neg (by simp [hblank]), if_pos hsign]
  split
  · rfl
  · next h =>
    rw [hr] at h
    cases h

theorem parts_item {rest : List Char} {i : Item} (hblank : (m.verbose && isWhiteSpace c) = false)
    (hsign : (m.verbose && c == '#') = false) (hnext : m.next c r = .ok (i, rest)) :
    parts m (c :: r) =
      ⟨m, (c :: r).take (r.length + 1 - rest.length), some i⟩ :: parts (m.after i) rest := by
  rw [parts, if_neg (by simp [hblank]), if_neg (by simp [hsign])]
  split
  · next h =>
    rw [hnext] at h
    cases h
  · next h =>
    rw [hnext] at h
    cases h
    rfl

theorem take_of_append {rest w : List Char} (h : c :: r = w ++ rest) :
    (c :: r).take (r.length + 1 - rest.length) = w := by
  have hlength := congrArg List.length h
  rw [List.length_cons, List.length_append] at hlength
  rw [hlength, Nat.add_sub_cancel, h, List.take_left]

end

/-- What the parser reads of a pattern while no class is open. -/
def outside (cs : List Char) : List Char :=
  ((parts {} cs).filter (·.mode.classes == 0)).flatMap (·.text)

/-- Whether a part holds no brackets but those that open and close a class. -/
def Part.isFlat (p : Part) : Bool :=
  match p.item? with
  | none => true
  | some (.comment _) => decide (Plain p.text)
  | some i => i.isFlat p.mode

end Pattern

namespace SpecFile

open Pattern (Ast Builder FlatText Item Mode Part Plain Reads lacks outside parts)

/-! ## The flag -/

/-- The bracket that changes the flag. -/
def flagBracket (inClass : Bool) : Char := if inClass then ']' else '['

theorem flagBracket_cases (inClass : Bool) : flagBracket inClass = '[' ∨ flagBracket inClass = ']' := by
  cases inClass with
  | false => exact .inl rfl
  | true => exact .inr rfl

theorem slashSource_close (cs : List Char) : slashSource false ('/' :: cs) = some ([], cs) := by
  simp [slashSource]

/-- A character that neither starts an escape nor closes the pattern is taken over. -/
theorem slashSource_kept {c : Char} {inClass : Bool} (hc : c ≠ '\\') (hslash : c = '/' → inClass = true)
    (cs : List Char) :
    slashSource inClass (c :: cs) =
      (slashSource (if c = '[' then true else if c = ']' then false else inClass) cs).map
        fun (s, r) => (c :: s, r) := by
  by_cases h : c = '/'
  · subst h
    rw [hslash rfl]
    simp [slashSource]
  · exact slashSource_cons hc h inClass cs

theorem slashSource_pair {c : Char} (hc : c ≠ '/') (inClass : Bool) (cs : List Char) :
    slashSource inClass ('\\' :: c :: cs) =
      (slashSource inClass cs).map fun (s, r) => ('\\' :: c :: s, r) := by
  simp [slashSource, hc]

/-- A text that leaves the flag as it is is taken over, if no slash closes there. -/
theorem slashSource_append {inClass : Bool} {w : List Char} (hw : lacks (flagBracket inClass) w = true)
    (hslash : inClass = false → '/' ∉ w) (hpair : ¬['\\', '/'] <:+: w) (z : List Char) :
    slashSource inClass (w ++ z) = (slashSource inClass z).map fun (s, r) => (w ++ s, r) := by
  induction w using Pattern.pairInduction with
  | nil => simp
  | lone => cases hw
  | pair c w ih =>
    have hc : c ≠ '/' := by
      rintro rfl
      exact hpair ⟨[], w, rfl⟩
    have htail : w <:+ '\\' :: c :: w := ⟨['\\', c], rfl⟩
    have hrest := ih hw (fun h hmem => hslash h (htail.mem hmem)) fun h => hpair (h.trans htail.isInfix)
    rw [List.cons_append, List.cons_append, slashSource_pair hc, hrest, Option.map_map]
    rfl
  | char c w hc ih =>
    rw [Pattern.lacks_cons hc, Bool.and_eq_true, bne_iff_ne] at hw
    have htail : w <:+ c :: w := List.suffix_cons c w
    have hrest := ih hw.2 (fun h hmem => hslash h (htail.mem hmem)) fun h => hpair (h.trans htail.isInfix)
    have hkept : c = '/' → inClass = true := by
      rintro rfl
      by_contra hout
      exact hslash (Bool.eq_false_iff.2 hout) List.mem_cons_self
    have hflag : (if c = '[' then true else if c = ']' then false else inClass) = inClass := by
      cases inClass with
      | false => rw [if_neg (show c ≠ '[' from hw.1), ite_self]
      | true => rw [if_neg (show c ≠ ']' from hw.1), ite_self]
    rw [List.cons_append, slashSource_kept hc hkept, hflag, hrest, Option.map_map]
    rfl

theorem map_append_eq_some {x : Option (List Char × List Char)} {w cs z : List Char} :
    (x.map fun (s, r) => (w ++ s, r)) = some (w ++ cs, z) ↔ x = some (cs, z) := by
  rcases x with _ | ⟨s, r⟩
  · simp
  · simp

theorem forall_append_cons {P : List Char → Prop} {c : Char} {cs : List Char} :
    (∀ u v, c :: cs = u ++ '/' :: v → P u) ↔
      (c = '/' → P []) ∧ ∀ u v, cs = u ++ '/' :: v → P (c :: u) := by
  constructor
  · intro h
    refine ⟨?_, fun u v huv => h (c :: u) v (by rw [huv]; rfl)⟩
    rintro rfl
    exact h [] cs rfl
  · rintro ⟨hhead, htail⟩ u v huv
    rcases List.cons_eq_append_iff.1 huv with ⟨rfl, hv⟩ | ⟨u', rfl, hcs⟩
    · exact hhead (List.cons.inj hv).1.symm
    · exact htail u' v hcs

/-- **A pattern is read back just if the flag is set at its slashes and not at its end**, and no
    backslash is left over there. -/
theorem slashSource_eq_some_iff {cs : List Char} (hpair : ¬['\\', '/'] <:+: cs) (inClass : Bool)
    (z : List Char) :
    slashSource inClass (cs ++ '/' :: z) = some (cs, z) ↔
      isPaired cs = true ∧ classBehind inClass cs = false ∧
        ∀ u v, cs = u ++ '/' :: v → classBehind inClass u = true := by
  induction cs using Pattern.pairInduction generalizing inClass with
  | nil =>
    cases inClass with
    | false => simp [slashSource_close, isPaired, classBehind, lastBracket?]
    | true =>
      rw [List.nil_append, slashSource_kept (by decide) fun _ => rfl]
      simp [classBehind, lastBracket?]
  | lone => simp [slashSource, isPaired]
  | pair c cs ih =>
    have hc : c ≠ '/' := by
      rintro rfl
      exact hpair ⟨[], cs, rfl⟩
    have htail : cs <:+ '\\' :: c :: cs := ⟨['\\', c], rfl⟩
    have hpaired : isPaired ('\\' :: c :: cs) = isPaired cs := by simp [isPaired, hc]
    have hclass : ∀ u, classBehind inClass ('\\' :: c :: u) = classBehind inClass u := fun _ => rfl
    rw [List.cons_append, List.cons_append, slashSource_pair hc]
    refine (map_append_eq_some (w := ['\\', c])).trans ?_
    rw [ih (fun h => hpair (h.trans htail.isInfix)), hpaired, hclass, forall_append_cons,
      forall_append_cons]
    simp [hc, hclass]
  | char c cs hc ih =>
    have htail : cs <:+ c :: cs := List.suffix_cons c cs
    have hpaired : isPaired (c :: cs) = isPaired cs := by simp [isPaired, hc]
    rw [hpaired, classBehind_cons hc, forall_append_cons]
    simp only [classBehind_cons hc]
    by_cases hclose : c = '/' ∧ inClass = false
    · obtain ⟨rfl, rfl⟩ := hclose
      simp [slashSource_close, classBehind, lastBracket?]
    · have hkept : c = '/' → inClass = true := by simpa using hclose
      rw [List.cons_append, slashSource_kept hc hkept]
      refine (map_append_eq_some (w := [c])).trans ?_
      rw [ih fun h => hpair (h.trans htail.isInfix)]
      simpa [classBehind, lastBracket?] using fun _ _ _ => hkept

/-! ## Lines -/

theorem slashSource_suffix {inClass : Bool} {cs s r : List Char}
    (h : slashSource inClass cs = some (s, r)) : r <:+ cs := by
  induction cs using Pattern.pairInduction generalizing inClass s with
  | nil => cases h
  | lone => cases h
  | pair c cs ih =>
    rw [slashSource] at h
    obtain ⟨⟨s', r'⟩, hrest, he⟩ := Option.map_eq_some_iff.1 h
    cases he
    exact (ih hrest).trans ⟨['\\', c], rfl⟩
  | char c cs hc ih =>
    by_cases hclose : c = '/' ∧ inClass = false
    · obtain ⟨rfl, rfl⟩ := hclose
      rw [slashSource_close] at h
      cases h
      exact List.suffix_cons _ _
    · rw [slashSource_kept hc (by simpa using hclose)] at h
      obtain ⟨⟨s', r'⟩, hrest, he⟩ := Option.map_eq_some_iff.1 h
      cases he
      exact (ih hrest).trans (List.suffix_cons _ _)

/-- No flags stand between the closing slash and a blank. -/
theorem splitPattern_slash_iff (cs body : List Char) :
    splitPattern ('/' :: (cs ++ '/' :: ' ' :: body)) = .ok (cs, ' ' :: body) ↔
      slashSource false (cs ++ '/' :: ' ' :: body) = some (cs, ' ' :: body) := by
  rw [splitPattern, slashPattern]
  constructor
  · intro h
    split at h
    · cases h
    · next source r hsource =>
      dsimp only at h
      split at h
      · cases h
      · obtain ⟨hflags, hrest⟩ := Prod.mk.inj (Except.ok.inj h)
        have hr := List.takeWhile_append_dropWhile (p := Text.isAsciiLetter) (l := r)
        rw [hrest] at hr
        obtain ⟨v, hv⟩ := slashSource_suffix hsource
        -- else the closing slash would be the last of the flags
        have hnil : r.takeWhile Text.isAsciiLetter = [] := by
          rw [← hr, ← List.append_assoc, ← List.singleton_append (x := '/'), ← List.append_assoc,
            List.append_cancel_right_eq] at hv
          by_contra hne
          have hlast := congrArg List.getLast? hv
          rw [List.getLast?_append_of_ne_nil _ hne, List.getLast?_concat] at hlast
          have hletter := List.mem_takeWhile_imp (List.mem_of_getLast? hlast)
          exact absurd hletter (by decide)
        rw [hnil] at hflags hr
        rw [hsource, ← hr, ← hflags]
        rfl
  · intro h
    rw [h]
    rfl

/-! ## The flag beside the parser -/

section

variable {m : Mode} {i : Item} {w cs z : List Char}

theorem slashSource_keep {inClass : Bool} (hw : lacks (flagBracket inClass) w = true)
    (hslash : inClass = false → '/' ∉ w) (hpair : ¬['\\', '/'] <:+: w ++ cs)
    (h : slashSource inClass (cs ++ '/' :: z) = some (cs, z)) :
    slashSource inClass (w ++ cs ++ '/' :: z) = some (w ++ cs, z) := by
  have hw' : ¬['\\', '/'] <:+: w := fun hpart => hpair (hpart.trans (List.prefix_append w cs).isInfix)
  rw [List.append_assoc, slashSource_append hw hslash hw', h]
  rfl

theorem classes_le_one (h : FlatText m i w) (hclasses : m.classes ≤ 1) : (m.after i).classes ≤ 1 := by
  cases h with
  | opens hout hafter hw => omega
  | closes hin hafter => omega
  | keeps hafter hw => omega

/-- The flag is set behind an item just if a class is open there, if it was so before it. -/
theorem slashSource_flatText (h : FlatText m i w) (hclasses : m.classes ≤ 1)
    (hslash : m.classes = 0 → '/' ∉ w) (hpair : ¬['\\', '/'] <:+: w ++ cs)
    (hrest : slashSource ((m.after i).classes != 0) (cs ++ '/' :: z) = some (cs, z)) :
    slashSource (m.classes != 0) (w ++ cs ++ '/' :: z) = some (w ++ cs, z) := by
  cases h with
  | @opens w hout hafter hw =>
    rw [hafter] at hrest
    have hkeep : slashSource true (w ++ cs ++ '/' :: z) = some (w ++ cs, z) :=
      slashSource_keep (hw.lacks (flagBracket_cases true)) (by simp)
        (fun h => hpair (h.trans (List.suffix_cons '[' (w ++ cs)).isInfix)) hrest
    have hstate : (m.classes != 0) = false := by simp [hout]
    rw [hstate, List.cons_append, List.cons_append, slashSource_cons (by decide) (by decide), if_pos rfl,
      hkeep]
    rfl
  | closes hin hafter =>
    have hstate : (m.classes != 0) = true := by simpa using hin
    have hstate' : ((m.after i).classes != 0) = false := by
      simp only [bne_eq_false_iff_eq]
      omega
    rw [hstate'] at hrest
    rw [hstate, List.cons_append, List.cons_append, List.nil_append,
      slashSource_cons (by decide) (by decide), if_neg (by decide), if_pos rfl, hrest]
    rfl
  | keeps hafter hw =>
    rw [hafter] at hrest
    have hbracket : flagBracket (m.classes != 0) = if m.classes = 0 then '[' else ']' := by
      by_cases hout : m.classes = 0 <;> simp [flagBracket, hout]
    rw [← hbracket] at hw
    exact slashSource_keep hw (fun hout => hslash (by simpa using hout)) hpair hrest

end

theorem isFlat_of_next {m : Mode} {c : Char} {r rest w : List Char} {i : Item}
    (hnext : m.next c r = .ok (i, rest)) (h : Part.isFlat ⟨m, w, some i⟩ = true) :
    i.isFlat m = true := by
  unfold Part.isFlat at h
  split at h
  · next he => cases he
  · next he =>
    cases he
    exact absurd rfl (Pattern.Mode.next_ne_comment hnext _)
  · next he =>
    cases he
    exact h

/-- The flag goes along with the parser, if the parts of a text are flat and no slash stands outside
    classes. -/
theorem slashSource_of_reads {m : Mode} {cs : List Char} {is : List Item} (h : Reads m cs is)
    {b b' : Builder} (hfits : m.Fits b) (hsteps : b.steps is = .ok b') (hend : b'.classes = [])
    (hclasses : m.classes ≤ 1) (hline : '\n' ∉ cs) (hpair : ¬['\\', '/'] <:+: cs)
    (hflat : ∀ p ∈ parts m cs, p.isFlat = true)
    (hslash : ∀ p ∈ parts m cs, p.mode.classes = 0 → '/' ∉ p.text) (z : List Char) :
    slashSource (m.classes != 0) (cs ++ '/' :: z) = some (cs, z) := by
  -- on the reading; the builder tells that no class is open at the end
  induction h generalizing b with
  | @done m =>
    cases hsteps
    have hout : (m.classes != 0) = false := by simp [hfits.outside hend]
    rw [hout, List.nil_append, slashSource_close]
  | @blank m c r is hblank _ ih =>
    rw [Pattern.parts_blank hblank, List.forall_mem_cons] at hflat hslash
    have hplain : Plain [c] := List.forall_mem_singleton.2
      (Pattern.Scan.isPlain_of_isWhiteSpace (Bool.and_eq_true_iff.1 hblank).2)
    have hrest := ih hfits hsteps hclasses (List.not_mem_of_not_mem_cons hline)
      (fun h => hpair (h.trans (List.suffix_cons c r).isInfix)) hflat.2 hslash.2
    refine slashSource_keep (w := [c]) (hplain.lacks (flagBracket_cases _)) (fun hout => ?_) hpair hrest
    exact hslash.1 (by simpa using hout)
  | @openComment m c r hblank hsign hr =>
    cases hsteps
    rw [Pattern.parts_openComment hblank hsign hr, List.forall_mem_singleton] at hflat hslash
    have hout := hfits.outside hend
    have hplain : Plain (c :: r) := of_decide_eq_true hflat
    have hstate : (m.classes != 0) = false := by simp [hout]
    have hclose : slashSource false ([] ++ '/' :: z) = some ([], z) := slashSource_close z
    have hkeep := slashSource_keep (hplain.lacks (flagBracket_cases false)) (fun _ => hslash hout)
      (by simpa using hpair) hclose
    rw [hstate]
    simpa using hkeep
  | @comment m c d r rest is hblank hsign hr _ ih =>
    have hr' : r.dropWhile (· != '\n') = [] := by
      refine List.dropWhile_eq_nil_iff.2 fun d hd => bne_iff_ne.2 ?_
      rintro rfl
      exact hline (List.mem_cons_of_mem c hd)
    rw [hr'] at hr
    cases hr
  | @item m c r rest i is hblank hsign hnext hreads ih =>
    simp only [Builder.steps] at hsteps
    split at hsteps
    · next b₁ hstep =>
      obtain ⟨hfits', -⟩ := hfits.step hstep
      have hlast : rest = [] → (m.after i).classes = 0 := by
        rintro rfl
        cases hreads
        cases hsteps
        exact hfits'.outside hend
      rw [Pattern.parts_item hblank hsign hnext, List.forall_mem_cons] at hflat hslash
      obtain ⟨w, hw, htext⟩ :=
        Pattern.Mode.exists_flatText hline hnext (isFlat_of_next hnext hflat.1) hlast
      rw [Pattern.take_of_append hw] at hslash
      rw [hw] at hline hpair ⊢
      have hrest := ih hfits' hsteps (classes_le_one htext hclasses)
        (fun hmem => hline (List.mem_append_right w hmem))
        (fun h => hpair (h.trans (List.suffix_append w rest).isInfix)) hflat.2 hslash.2
      exact slashSource_flatText htext hclasses hslash.1 hpair hrest
    · cases hsteps

/-! ## Patterns -/

/-- A pattern of one line whose slashes all stand in classes, as the parser reads it, and behind no
    backslash. -/
@[mk_iff]
structure InClasses (cs : List Char) : Prop where
  oneLine : '\n' ∉ cs
  wellFormed : (Ast.parse cs).isOk = true
  inClasses : '/' ∉ outside cs
  noEscape : ¬['\\', '/'] <:+: cs

instance (cs : List Char) : Decidable (InClasses cs) := decidable_of_iff _ (inClasses_iff cs).symm

/-- When a pattern between slashes is read back. -/
structure ReadsBack (cs : List Char) : Prop where
  /-- It is if the last bracket before every slash is an opening one, but not the last one of all, and no
      backslash is left over; and only then. -/
  iff : ∀ body, splitPattern ('/' :: (cs ++ '/' :: ' ' :: body)) = .ok (cs, ' ' :: body) ↔
    isPaired cs = true ∧ lastBracket? cs ≠ some '[' ∧
      ∀ u v, cs = u ++ '/' :: v → lastBracket? u = some '['
  /-- It is if its parts are flat. -/
  flat : (∀ p ∈ parts {} cs, p.isFlat = true) →
    ∀ body, splitPattern ('/' :: (cs ++ '/' :: ' ' :: body)) = .ok (cs, ' ' :: body)

theorem classBehind_false_iff {cs : List Char} :
    classBehind false cs = true ↔ lastBracket? cs = some '[' := by
  rw [classBehind]
  cases lastBracket? cs <;> simp

/-- **A slash in a class does not close a pattern** whose classes hold no further brackets. -/
theorem readsBack_of_inClasses {cs : List Char} (h : InClasses cs) : ReadsBack cs := by
  constructor
  case iff =>
    intro body
    rw [splitPattern_slash_iff, slashSource_eq_some_iff h.noEscape]
    simp only [classBehind_false_iff, ← Bool.not_eq_true, ne_eq]
  case flat =>
    intro hflat body
    obtain ⟨x, hx⟩ := exists_of_isOk h.wellFormed
    obtain ⟨is, b, hreads, hsteps, hclasses, -, -, -⟩ := Pattern.exists_of_parse hx
    have hslash : ∀ p ∈ parts {} cs, p.mode.classes = 0 → '/' ∉ p.text := by
      intro p hp hout hmem
      refine h.inClasses (List.mem_flatMap.2 ⟨p, List.mem_filter.2 ⟨hp, ?_⟩, hmem⟩)
      simpa using hout
    rw [splitPattern_slash_iff]
    exact slashSource_of_reads hreads ⟨rfl, rfl⟩ hsteps hclasses (Nat.zero_le 1) h.oneLine h.noEscape
      hflat hslash _

/-- Slashes in classes, beside ranges, escapes and a closing bracket outside classes. -/
def flatPattern : List Char := "(?P<name>a|[^/b-d\\]]+)\\[[-/]{2,3}?]\\p{Greek}(?x: [/ +])".toList

theorem readsBack_of_inClasses_flat :
    InClasses flatPattern ∧ (∀ p ∈ parts {} flatPattern, p.isFlat = true) ∧ ReadsBack flatPattern := by
  have h : InClasses flatPattern := by decide +kernel
  exact ⟨h, by decide +kernel, readsBack_of_inClasses h⟩

/-- A slash stands in a class, and the pattern is closed by it. -/
structure CutsClass (before behind : List Char) : Prop where
  inClasses : InClasses (before ++ '/' :: behind)
  cut : (splitPattern ('/' :: (before ++ '/' :: behind ++ "/ BODY".toList))).toOption =
    some (before, behind ++ "/ BODY".toList)

/-- A class in a class, a closing bracket that stands first, and the name of an ASCII class, each before a
    slash. -/
theorem splitPattern_nested :
    CutsClass "[[a]".toList "]".toList ∧ CutsClass "[]".toList "]".toList ∧
      CutsClass "[[:alpha:]".toList "]".toList :=
  ⟨⟨by decide +kernel, by decide +kernel⟩, ⟨by decide +kernel, by decide +kernel⟩,
    ⟨by decide +kernel, by decide +kernel⟩⟩

end SpecFile

end OrderedLexer
