/-
  Reading a pattern before a closing bracket.

  A reader that has read what it wants goes on in the same way if more text follows (`Extends`).
  That does not hold of every text: a sign for a repetition would be read with what stands before
  it.  It holds of newlines and closing brackets (`Ending`), which no reader takes for a part of
  what it reads, except in a class that is still open (`Mode.next_append`).
-/
import Mathlib.Data.List.TakeWhile
import OrderedLexer.Pattern.Builder

namespace OrderedLexer.Pattern

open Text (isWhiteSpace isAsciiDigit)

/-- A text of newlines and closing brackets only. -/
def Ending (z : List Char) : Prop := ∀ c ∈ z, c = '\n' ∨ c = ')'

theorem Ending.suffix {z w : List Char} (hz : Ending z) (h : w <:+ z) : Ending w :=
  fun c hc => hz c (h.mem hc)

/-- No ending starts with a character that is something else. -/
theorem Ending.ne_cons {z : List Char} (hz : Ending z) {c : Char} (hc : ¬(c = '\n' ∨ c = ')'))
    (r : List Char) : z ≠ c :: r := by
  rintro rfl
  exact hc (hz c List.mem_cons_self)

/-- A text that starts with a character that is something else, with an ending behind it or not. -/
theorem Ending.append_eq_cons {z r w : List Char} (hz : Ending z) {c : Char}
    (hc : ¬(c = '\n' ∨ c = ')')) (h : r ++ z = c :: w) : ∃ r', r = c :: r' ∧ w = r' ++ z := by
  rcases r with _ | ⟨d, r⟩
  · exact absurd h (hz.ne_cons hc w)
  · cases h
    exact ⟨r, rfl, rfl⟩

theorem Ending.append_ne_cons {z r : List Char} (hz : Ending z) {c : Char}
    (hc : ¬(c = '\n' ∨ c = ')')) (h : ∀ w, r = c :: w → False) : ∀ w, r ++ z = c :: w → False := by
  intro w hw
  obtain ⟨r', hr, -⟩ := hz.append_eq_cons hc hw
  exact h r' hr

/-- Whether an item is neither a comment nor the end of a class. -/
def Item.isInner : Item → Bool
  | .comment _ | .closeClass => false
  | _ => true

namespace Scan

variable {z : List Char}

/-! ## Blanks -/

theorem gather_append {verbose : Bool} {p : Char → Bool} {comment : Bool} {cs taken r : List Char}
    {c : Char} (h : gather verbose p comment cs = (taken, c :: r)) :
    gather verbose p comment (cs ++ z) = (taken, c :: (r ++ z)) := by
  induction cs generalizing comment taken with
  | nil => cases comment <;> simp [gather] at h
  | cons d cs ih =>
    cases comment with
    | true => exact ih h
    | false =>
      unfold gather at h
      rw [List.cons_append, gather]
      split
      · next hd => rw [if_pos hd] at h; exact ih h
      · next hd =>
        rw [if_neg hd] at h
        split
        · next hd' => rw [if_pos hd'] at h; exact ih h
        · next hd' =>
          rw [if_neg hd'] at h
          split
          · next hp =>
            rw [if_pos hp] at h
            obtain ⟨rfl, hrest⟩ := Prod.mk.inj h
            rw [ih (Prod.ext rfl hrest)]
          · next hp =>
            rw [if_neg hp] at h
            cases h
            rfl

/-- What is left behind the characters that are taken is the end of the text. -/
theorem gather_suffix (verbose : Bool) (p : Char → Bool) (comment : Bool) (cs : List Char) :
    (gather verbose p comment cs).2 <:+ cs := by
  induction cs generalizing comment with
  | nil => cases comment <;> exact List.suffix_rfl
  | cons c cs ih =>
    have hcons (b : Bool) : (gather verbose p b cs).2 <:+ c :: cs :=
      (ih b).trans (List.suffix_cons c cs)
    cases comment with
    | true => exact hcons _
    | false =>
      unfold gather
      split
      · exact hcons _
      · split
        · exact hcons _
        · split
          · exact hcons false
          · exact List.suffix_rfl

theorem gather_append_suffix {verbose : Bool} {p : Char → Bool} {comment : Bool} {cs : List Char}
    (h : (gather verbose p comment cs).2 = []) :
    (gather verbose p comment (cs ++ z)).2 <:+ z := by
  induction cs generalizing comment with
  | nil => exact gather_suffix ..
  | cons c cs ih =>
    cases comment with
    | true => exact ih h
    | false =>
      unfold gather at h
      rw [List.cons_append, gather]
      split
      · next hc => rw [if_pos hc] at h; exact ih h
      · next hc =>
        rw [if_neg hc] at h
        split
        · next hc' => rw [if_pos hc'] at h; exact ih h
        · next hc' =>
          rw [if_neg hc'] at h
          split
          · next hp => rw [if_pos hp] at h; exact ih h
          · next hp => rw [if_neg hp] at h; cases h

/-- Text behind blanks stays where it is; if there is none, only more text can be there. -/
theorem skip_append (verbose : Bool) (cs z : List Char) :
    (∃ c r, skip verbose cs = c :: r ∧ skip verbose (cs ++ z) = c :: (r ++ z)) ∨
      (skip verbose cs = [] ∧ skip verbose (cs ++ z) <:+ z) := by
  rcases h : skip verbose cs with _ | ⟨c, r⟩
  · exact .inr ⟨rfl, gather_append_suffix h⟩
  · refine .inl ⟨c, r, rfl, ?_⟩
    have hg : gather verbose (fun _ => false) false cs =
        ((gather verbose (fun _ => false) false cs).1, c :: r) := Prod.ext rfl h
    rw [skip, gather_append hg]

theorem dropWhile_append {p : Char → Bool} {cs r : List Char} {c : Char}
    (h : cs.dropWhile p = c :: r) : (cs ++ z).dropWhile p = c :: (r ++ z) := by
  rw [List.dropWhile_append, h]
  rfl

theorem takeWhile_append {p : Char → Bool} {cs r : List Char} {c : Char}
    (h : cs.dropWhile p = c :: r) : (cs ++ z).takeWhile p = cs.takeWhile p := by
  have hlength := congrArg List.length (List.takeWhile_append_dropWhile (p := p) (l := cs))
  rw [h, List.length_append, List.length_cons] at hlength
  rw [List.takeWhile_append, if_neg (by omega)]

/-! ## Readers -/

/-- Two readings are the same, the second one with more text left. -/
structure Extends {α : Type} (z : List Char) (x y : Result α) : Prop where
  eq_ok : ∀ a r, x = .ok (a, r) → y = .ok (a, r ++ z)

theorem Extends.ok {α : Type} {a : α} {r : List Char} :
    Extends z (.ok (a, r)) (.ok (a, r ++ z)) := by
  refine ⟨?_⟩
  rintro _ _ ⟨⟩
  rfl

theorem Extends.error {α : Type} {e : Error} {y : Result α} : Extends z (.error e) y := by
  refine ⟨?_⟩
  rintro _ _ ⟨⟩

theorem andThen_ok {α β : Type} (a : α) (r : List Char) (f : α → List Char → Result β) :
    andThen (.ok (a, r)) f = f a r := rfl

theorem Extends.andThen {α β : Type} {x y : Result α} {f : α → List Char → Result β}
    (hx : Extends z x y) (hf : ∀ a r, Extends z (f a r) (f a (r ++ z))) :
    Extends z (Scan.andThen x f) (Scan.andThen y f) := by
  cases x with
  | error e => exact Extends.error
  | ok p =>
    rw [hx.eq_ok _ _ rfl]
    exact hf _ _

theorem Extends.map {α β : Type} {x : Except Error α} {f : α → β} {r : List Char} :
    Extends z (x.map fun a => (f a, r)) (x.map fun a => (f a, r ++ z)) := by
  cases x with
  | error e => exact Extends.error
  | ok a => exact Extends.ok

theorem extends_fixedDigits (verbose : Bool) (n : Nat) (cs : List Char) :
    Extends z (fixedDigits verbose n cs) (fixedDigits verbose n (cs ++ z)) := by
  induction n generalizing cs with
  | zero => exact Extends.ok
  | succ n ih =>
    rcases cs with _ | ⟨c, r⟩
    · exact Extends.error
    · simp only [List.cons_append, fixedDigits]
      split
      · refine Extends.andThen ?_ fun _ _ => Extends.ok
        cases n with
        | zero => exact Extends.ok
        | succ n =>
          rcases skip_append verbose r z with ⟨d, r', h, h'⟩ | ⟨h, -⟩
          · have hd := ih (d :: r')
            rw [if_neg n.succ_ne_zero, if_neg n.succ_ne_zero, h, h']
            exact hd
          · rw [if_neg n.succ_ne_zero, h]
            exact Extends.error
      · exact Extends.error

theorem extends_braced (verbose : Bool) (cs : List Char) :
    Extends z (braced verbose cs) (braced verbose (cs ++ z)) := by
  unfold braced
  split
  · next h => rw [gather_append h]; exact Extends.ok
  · exact Extends.error

theorem extends_hexEscape (verbose : Bool) (digits : Nat) (hd : digits ≠ 0) (cs : List Char) :
    Extends z (hexEscape verbose digits cs) (hexEscape verbose digits (cs ++ z)) := by
  unfold hexEscape
  rcases skip_append verbose cs z with ⟨c, r, h, h'⟩ | ⟨h, -⟩
  · rw [h, h']
    split
    · next hc =>
      cases hc
      exact Extends.andThen (extends_braced ..) fun _ _ => Extends.map
    · next hc =>
      split
      · next hc' => cases hc'; exact absurd rfl (hc r)
      · exact Extends.andThen (extends_fixedDigits verbose digits (c :: r)) fun _ _ => Extends.map
  · obtain ⟨n, rfl⟩ := Nat.exists_eq_succ_of_ne_zero hd
    rw [h]
    exact Extends.error

theorem extends_propertyEscape (verbose negated : Bool) (cs : List Char) :
    Extends z (propertyEscape verbose negated cs) (propertyEscape verbose negated (cs ++ z)) := by
  unfold propertyEscape
  rcases skip_append verbose cs z with ⟨c, r, h, h'⟩ | ⟨h, -⟩
  · rw [h, h']
    split
    · next hc => cases hc
    · next hc =>
      cases hc
      exact Extends.andThen (extends_braced ..) fun _ _ => Extends.ok
    · next hbrace hc =>
      cases hc
      split
      · exact Extends.error
      · next hslash =>
        split
        · next hc => cases hc
        · next hc => cases hc; exact absurd rfl hbrace
        · next hc =>
          cases hc
          rw [if_neg hslash]
          exact Extends.ok
  · rw [h]
    exact Extends.error

section
variable (hz : Ending z)
include hz

theorem extends_boundaryEscape (verbose : Bool) (cs : List Char) :
    Extends z (boundaryEscape verbose cs) (boundaryEscape verbose (cs ++ z)) := by
  unfold boundaryEscape
  split
  · next r =>
    rw [List.cons_append]
    rcases skip_append verbose r z with ⟨c, r', h, h'⟩ | ⟨h, -⟩
    · simp only [h, h']
      split
      · refine Extends.andThen (extends_braced ..) fun name _ => ?_
        cases boundaryNamed? name with
        | some b => exact Extends.ok
        | none => exact Extends.error
      · exact Extends.ok
    · rw [h]
      exact Extends.error
  · next hbrace =>
    split
    · next hc =>
      obtain ⟨r, rfl, -⟩ := hz.append_eq_cons (by decide) hc
      exact absurd rfl (hbrace r)
    · exact Extends.ok

theorem extends_escape (verbose : Bool) (cs : List Char) :
    Extends z (escape verbose cs) (escape verbose (cs ++ z)) := by
  rcases cs with _ | ⟨c, r⟩
  · exact Extends.error
  · unfold escape
    simp only [List.cons_append]
    repeat' split
    · exact extends_hexEscape verbose 2 (by decide) r
    · exact extends_hexEscape verbose 4 (by decide) r
    · exact extends_hexEscape verbose 8 (by decide) r
    · exact extends_propertyEscape ..
    · exact extends_propertyEscape ..
    · exact extends_boundaryEscape hz verbose r
    · exact Extends.map

end

theorem extends_flagChanges (seen : List Flag) (off dangling : Bool) (cs : List Char) :
    Extends z (flagChanges seen off dangling cs) (flagChanges seen off dangling (cs ++ z)) := by
  induction cs generalizing seen off dangling with
  | nil => exact Extends.error
  | cons c r ih =>
    simp only [List.cons_append, flagChanges]
    split
    · split
      · exact Extends.error
      · exact Extends.ok
    · split
      · split
        · exact Extends.error
        · exact ih ..
      · split
        · exact Extends.error
        · split
          · exact Extends.error
          · exact Extends.andThen (ih ..) fun _ _ => Extends.ok

theorem extends_groupName (cs : List Char) : Extends z (groupName cs) (groupName (cs ++ z)) := by
  unfold groupName
  split
  · next c name _ r hname hrest =>
    rw [takeWhile_append hrest, dropWhile_append hrest, hname]
    simp only
    split
    · exact Extends.ok
    · exact Extends.error
  · exact Extends.error

theorem extends_groupFlags (cs : List Char) : Extends z (groupFlags cs) (groupFlags (cs ++ z)) := by
  refine Extends.andThen (extends_flagChanges ..) fun changes r => ?_
  rcases r with _ | ⟨c, r⟩
  · exact Extends.error
  · rw [List.cons_append]
    split
    · next hc => cases hc; exact Extends.ok
    · next hcolon hc =>
      cases hc
      split
      · exact Extends.error
      · next hempty =>
        split
        · next hc => cases hc; exact absurd rfl hcolon
        · next hc =>
          cases hc
          exact Extends.ok
        · next hc => cases hc
    · next hc => cases hc

section
variable (hz : Ending z)
include hz

theorem extends_special (cs : List Char) : Extends z (special cs) (special (cs ++ z)) := by
  unfold special
  split
  · exact Extends.error
  · exact Extends.error
  · exact Extends.error
  · exact Extends.error
  · exact extends_groupName _
  · next r heq hne =>
    have heq' := hz.append_ne_cons (by decide) heq
    have hne' := hz.append_ne_cons (by decide) hne
    simp only [List.cons_append]
    exact extends_groupName r
  · next heq hne hlook hlook' hname hangle =>
    have heq' := hz.append_ne_cons (by decide) heq
    have hne' := hz.append_ne_cons (by decide) hne
    have hangle' := hz.append_ne_cons (by decide) hangle
    split
    · next h => exact (heq' _ h).elim
    · next h => exact (hne' _ h).elim
    · next h => exact (hangle' _ h).elim
    · next h => exact (hangle' _ h).elim
    · next h =>
      obtain ⟨r, rfl, hr⟩ := hz.append_eq_cons (by decide) h
      obtain ⟨r, rfl, -⟩ := hz.append_eq_cons (by decide) hr.symm
      exact (hname r rfl).elim
    · next h => exact (hangle' _ h).elim
    · exact extends_groupFlags _

theorem extends_group (verbose : Bool) (cs : List Char) :
    Extends z (group verbose cs) (group verbose (cs ++ z)) := by
  unfold group
  rcases skip_append verbose cs z with ⟨c, r, h, h'⟩ | ⟨h, h'⟩
  · rw [h, h']
    split
    · next hc => cases hc; exact extends_special hz r
    · next hmark =>
      split
      · next hc => cases hc; exact absurd rfl (hmark r)
      · exact Extends.ok
  · have hmark := (hz.suffix h').ne_cons (c := '?') (by decide)
    simp only [h]
    exact Extends.ok

end

/-! ## Repetitions -/

theorem count_append {verbose : Bool} {cs r : List Char} {n : Nat} {c : Char}
    (h : count verbose cs = .ok (n, c :: r)) :
    count verbose (cs ++ z) = .ok (n, c :: (r ++ z)) := by
  unfold count at h ⊢
  rcases hws : cs.dropWhile isWhiteSpace with _ | ⟨d, w⟩
  · rw [hws] at h
    cases h
  · rw [hws] at h
    rw [dropWhile_append hws]
    rcases hg : gather verbose isAsciiDigit false (d :: w) with ⟨ds, _ | ⟨e, r'⟩⟩
    · rw [hg] at h
      simp only at h
      split_ifs at h
      cases h
    · have hg' := gather_append (z := z) hg
      rw [List.cons_append] at hg'
      rw [hg] at h
      rw [hg']
      simp only at h ⊢
      split_ifs at h ⊢
      obtain ⟨hn, hr⟩ := Prod.mk.inj (Except.ok.inj h)
      have hr' := dropWhile_append (z := z) hr
      rw [List.cons_append] at hr'
      rw [hn, hr']

/-- The second count of a repetition, if there is one. -/
theorem extends_upper (verbose : Bool) (min : Nat) (cs : List Char) :
    Extends z
      (andThen (count verbose cs) fun max r =>
        match r with
        | '}' :: r => if max < min then .error .countInvalid else .ok ((min, some max), r)
        | _ => .error .countUnclosed)
      (andThen (count verbose (cs ++ z)) fun max r =>
        match r with
        | '}' :: r => if max < min then .error .countInvalid else .ok ((min, some max), r)
        | _ => .error .countUnclosed) := by
  rcases h : count verbose cs with e | ⟨max, _ | ⟨c, r⟩⟩
  · exact Extends.error
  · exact Extends.error
  · rw [count_append h]
    simp only [andThen_ok]
    split
    · next hc =>
      cases hc
      simp only
      split
      · exact Extends.error
      · exact Extends.ok
    · exact Extends.error

theorem extends_counts (verbose : Bool) (cs : List Char) :
    Extends z (counts verbose cs) (counts verbose (cs ++ z)) := by
  unfold counts
  rcases skip_append verbose cs z with ⟨c, r, h, h'⟩ | ⟨h, -⟩
  · rw [h, h']
    rcases hcount : count verbose (c :: r) with e | ⟨min, _ | ⟨d, w⟩⟩
    · exact Extends.error
    · exact Extends.error
    · have hcount' := count_append (z := z) hcount
      rw [List.cons_append] at hcount'
      rw [hcount']
      simp only [andThen_ok]
      split
      · next hd => cases hd; exact Extends.ok
      · next w' hd =>
        cases hd
        simp only
        rcases skip_append verbose w z with ⟨e, r', hs, hs'⟩ | ⟨hs, -⟩
        · rw [hs, hs']
          split
          · next he => cases he; exact Extends.ok
          · next hbrace =>
            split
            · next he => cases he; exact absurd rfl (hbrace r')
            · exact extends_upper verbose min (e :: r')
        · rw [hs]
          exact Extends.error
      · exact Extends.error
  · rw [h]
    exact Extends.error

section
variable (hz : Ending z)
include hz

theorem extends_counted (verbose : Bool) (cs : List Char) :
    Extends z (counted verbose cs) (counted verbose (cs ++ z)) := by
  refine Extends.andThen (extends_counts ..) fun n r => ?_
  rcases skip_append verbose r z with ⟨c, r', h, h'⟩ | ⟨h, h'⟩
  · rw [h, h']
    split
    · next hc => cases hc; exact Extends.ok
    · next hmark =>
      split
      · next hc => cases hc; exact absurd rfl (hmark r')
      · exact Extends.ok
  · have hmark := (hz.suffix h').ne_cons (c := '?') (by decide)
    simp only [h]
    exact Extends.ok

theorem signed_append {min : Nat} {max : Option Nat} {cs r : List Char} {i : Item}
    (h : signed min max cs = (i, r)) : signed min max (cs ++ z) = (i, r ++ z) := by
  unfold signed at h ⊢
  split at h
  · cases h
    rfl
  · next hmark =>
    have hmark' := hz.append_ne_cons (by decide) hmark
    cases h
    simp only

end

/-! ## Items -/

/-- A reader gives inner items only. -/
structure Yields (x : Result Item) : Prop where
  isInner : ∀ i r, x = .ok (i, r) → i.isInner = true

theorem Yields.ok {i : Item} {r : List Char} (h : i.isInner = true) : Yields (.ok (i, r)) := by
  refine ⟨?_⟩
  rintro _ _ ⟨⟩
  exact h

theorem Yields.error {e : Error} : Yields (.error e) := by
  refine ⟨?_⟩
  rintro _ _ ⟨⟩

theorem Yields.andThen {α : Type} {x : Result α} {f : α → List Char → Result Item}
    (hf : ∀ a r, Yields (f a r)) : Yields (Scan.andThen x f) := by
  cases x with
  | error e => exact Yields.error
  | ok p => exact hf _ _

theorem Yields.map {α : Type} {x : Except Error α} {f : α → Item} {r : List Char}
    (h : ∀ a, (f a).isInner = true) : Yields (x.map fun a => (f a, r)) := by
  cases x with
  | error e => exact Yields.error
  | ok a => exact Yields.ok (h a)

theorem yields_groupName (cs : List Char) : Yields (groupName cs) := by
  unfold groupName
  split
  · split
    · exact Yields.ok rfl
    · exact Yields.error
  · exact Yields.error

theorem yields_groupFlags (cs : List Char) : Yields (groupFlags cs) := by
  refine Yields.andThen fun _ _ => ?_
  split
  · exact Yields.ok rfl
  · split
    · exact Yields.error
    · exact Yields.ok rfl
  · exact Yields.error

theorem yields_group (verbose : Bool) (cs : List Char) : Yields (group verbose cs) := by
  unfold group
  split
  · unfold special
    split
    · exact Yields.error
    · exact Yields.error
    · exact Yields.error
    · exact Yields.error
    · exact yields_groupName _
    · exact yields_groupName _
    · exact yields_groupFlags _
  · exact Yields.ok rfl

theorem yields_counted (verbose : Bool) (cs : List Char) : Yields (counted verbose cs) := by
  refine Yields.andThen fun _ _ => ?_
  split
  · exact Yields.ok rfl
  · exact Yields.ok rfl

theorem isInner_signed (min : Nat) (max : Option Nat) (cs : List Char) :
    (signed min max cs).1.isInner = true := by
  unfold signed
  split <;> rfl

theorem exists_leading (verbose negated : Bool) (cs : List Char) :
    ∃ literals, (leading verbose negated cs).1 = .openClass negated literals := by
  unfold leading
  split
  · exact ⟨_, rfl⟩
  · exact ⟨_, rfl⟩

theorem exists_openClass (verbose : Bool) (cs : List Char) :
    ∃ negated literals, (openClass verbose cs).1 = .openClass negated literals := by
  unfold openClass
  split
  · exact ⟨true, exists_leading ..⟩
  · exact ⟨false, exists_leading ..⟩

theorem isInner_openClass (verbose : Bool) (cs : List Char) :
    (openClass verbose cs).1.isInner = true := by
  obtain ⟨negated, literals, h⟩ := exists_openClass verbose cs
  rw [h]
  rfl

theorem yields_member (verbose : Bool) (cs : List Char) : Yields (member verbose cs) := by
  refine Yields.andThen fun _ _ => ?_
  split
  · split
    · exact Yields.map fun _ => rfl
    · exact Yields.andThen fun _ _ => Yields.map fun _ => rfl
  · exact Yields.map fun _ => rfl

theorem yields_next (verbose : Bool) (c : Char) (cs : List Char) : Yields (next verbose c cs) := by
  unfold next
  split
  · exact yields_group ..
  · exact Yields.ok rfl
  · exact Yields.ok rfl
  · exact Yields.ok (isInner_openClass ..)
  · exact Yields.ok (isInner_signed ..)
  · exact Yields.ok (isInner_signed ..)
  · exact Yields.ok (isInner_signed ..)
  · exact yields_counted ..
  · exact Yields.ok rfl
  · exact Yields.ok rfl
  · exact Yields.ok rfl
  · exact Yields.andThen fun _ _ => Yields.ok rfl
  · exact Yields.ok rfl

/-! ## Classes -/

theorem leading_append {verbose negated : Bool} {cs r : List Char} {i : Item}
    (h : leading verbose negated cs = (i, r)) (hr : r ≠ []) :
    leading verbose negated (cs ++ z) = (i, r ++ z) := by
  unfold leading at h ⊢
  rcases hg : gather verbose (· == '-') false cs with ⟨dashes, _ | ⟨c, w⟩⟩
  · rw [hg] at h
    rcases dashes with _ | ⟨d, dashes⟩ <;> cases h <;> exact absurd rfl hr
  · rw [hg] at h
    rw [gather_append hg]
    split at h
    · next he => cases he; cases h; rfl
    · next hclose he =>
      cases he
      cases h
      split
      · next he' => cases he'; exact (hclose _ rfl rfl).elim
      · next he' => cases he'; rfl

theorem openClass_append {verbose : Bool} {cs r : List Char} {i : Item}
    (h : openClass verbose cs = (i, r)) (hr : r ≠ []) :
    openClass verbose (cs ++ z) = (i, r ++ z) := by
  unfold openClass at h ⊢
  rcases skip_append verbose cs z with ⟨c, w, hs, hs'⟩ | ⟨hs, -⟩
  · rw [hs] at h
    rw [hs']
    split at h
    · next hc =>
      cases hc
      rcases skip_append verbose w z with ⟨d, v, hw, hw'⟩ | ⟨hw, -⟩
      · rw [hw] at h
        simp only [hw']
        exact leading_append h hr
      · rw [hw] at h
        cases h
        exact absurd rfl hr
    · next hcaret =>
      split
      · next hc => cases hc; exact absurd rfl (hcaret w)
      · exact leading_append h hr
  · rw [hs] at h
    cases h
    exact absurd rfl hr

section
variable (hz : Ending z)
include hz

theorem asciiNamed?_append (negated : Bool) (cs : List Char) :
    asciiNamed? negated (cs ++ z) = (asciiNamed? negated cs).map fun (s, r) => (s, r ++ z) := by
  unfold asciiNamed?
  rcases hd : cs.dropWhile (· != ':') with _ | ⟨c, r⟩
  · have hz' : z.dropWhile (· != ':') = [] := by
      refine List.dropWhile_eq_nil_iff.2 fun c hc => ?_
      rcases hz c hc with rfl | rfl <;> rfl
    rw [List.dropWhile_append, hd, hz']
    rfl
  · rw [dropWhile_append hd, takeWhile_append hd]
    split
    · next he =>
      obtain ⟨rfl, hr⟩ := List.cons.inj he
      obtain ⟨w, rfl, rfl⟩ := hz.append_eq_cons (by decide) hr
      simp only [Option.map_map]
      rfl
    · next hne =>
      split
      · next w he => cases he; exact (hne _ rfl).elim
      · rfl

theorem asciiClass?_append (cs : List Char) :
    asciiClass? (cs ++ z) = (asciiClass? cs).map fun (s, r) => (s, r ++ z) := by
  unfold asciiClass?
  split
  · next h =>
    obtain ⟨r, rfl, hr⟩ := hz.append_eq_cons (by decide) h
    obtain ⟨r, rfl, rfl⟩ := hz.append_eq_cons (by decide) hr.symm
    exact asciiNamed?_append hz true r
  · next hcaret h =>
    obtain ⟨r, rfl, rfl⟩ := hz.append_eq_cons (by decide) h
    have hcaret' : ∀ w, r = '^' :: w → False := fun w hw => hcaret (w ++ z) (by rw [hw]; rfl)
    simp only
    exact asciiNamed?_append hz false r
  · next hcaret hcolon =>
    split
    · next r => exact (hcolon _ rfl).elim
    · next r _ => exact (hcolon _ rfl).elim
    · rfl

theorem dropWhile_head?_append {c : Char} (hc : ¬(c = '\n' ∨ c = ')')) (p : Char → Bool)
    (cs : List Char) :
    ((cs ++ z).dropWhile p).head? = some c ↔ (cs.dropWhile p).head? = some c := by
  rcases h : cs.dropWhile p with _ | ⟨d, r⟩
  · have hhead : (z.dropWhile p).head? ≠ some c := fun he =>
      hc (hz c ((List.dropWhile_suffix p).mem (List.mem_of_mem_head? he)))
    rw [List.dropWhile_append, h]
    exact iff_of_false hhead (by simp)
  · rw [dropWhile_append h]
    rfl

/-- The character behind blanks is one that is no ending just if it is without the ending. -/
theorem peek?_append {c : Char} (hc : ¬(c = '\n' ∨ c = ')')) (verbose : Bool) (cs : List Char) :
    peek? verbose (cs ++ z) = some c ↔ peek? verbose cs = some c := by
  have hblank := dropWhile_head?_append hz hc isWhiteSpace
  unfold peek?
  cases verbose with
  | false =>
    rcases cs with _ | ⟨d, r⟩
    · exact iff_of_false (fun he => hc (hz c (List.mem_of_mem_head? he))) (by simp)
    · rfl
  | true =>
    simp only [Bool.not_true, Bool.false_eq_true, if_false]
    rcases h : cs.dropWhile isWhiteSpace with _ | ⟨d, r⟩
    · have hsign := (hz.suffix (List.dropWhile_suffix isWhiteSpace)).ne_cons (c := '#') (by decide)
      have hcs := hblank cs
      rw [List.dropWhile_append, h] at hcs ⊢
      simp only [List.isEmpty_nil, if_true] at hcs ⊢
      exact hcs
    · rw [dropWhile_append h]
      split
      · next he => cases he; exact hblank r
      · next hsign =>
        split
        · next he => cases he; exact absurd rfl (hsign _)
        · rfl

theorem extends_classAtom (verbose : Bool) (cs : List Char) :
    Extends z (classAtom verbose cs) (classAtom verbose (cs ++ z)) := by
  unfold classAtom
  split
  · exact Extends.error
  · exact extends_escape hz ..
  · next c r hslash =>
    split
    · next he => cases he
    · next he => cases he; exact absurd rfl hslash
    · next he => cases he; exact Extends.ok

theorem member_append {verbose : Bool} {cs r : List Char} {i : Item}
    (h : member verbose cs = .ok (i, r)) (hr : r ≠ []) :
    member verbose (cs ++ z) = .ok (i, r ++ z) := by
  unfold member at h ⊢
  rcases ha : classAtom verbose cs with e | ⟨a, w⟩
  · rw [ha] at h
    cases h
  · rw [ha, andThen_ok] at h
    rw [(extends_classAtom hz verbose cs).eq_ok a w ha, andThen_ok]
    rcases skip_append verbose w z with ⟨c, w', hs, hs'⟩ | ⟨hs, -⟩
    · rw [hs] at h
      rw [hs']
      split at h
      · next r' hc =>
        cases hc
        simp only [peek?_append hz (c := ']') (by decide), peek?_append hz (c := '-') (by decide)]
        split at h
        · next hpeek =>
          rw [if_pos hpeek]
          exact Extends.map.eq_ok _ _ h
        · next hpeek =>
          rw [if_neg hpeek]
          rcases skip_append verbose w' z with ⟨d, v, hd, hd'⟩ | ⟨hd, -⟩
          · rw [hd] at h
            rw [hd']
            exact (Extends.andThen (extends_classAtom hz verbose (d :: v))
              fun _ _ => Extends.map).eq_ok _ _ h
          · rw [hd] at h
            cases h
      · next hdash =>
        split
        · next hc => cases hc; exact (hdash _ rfl).elim
        · exact Extends.map.eq_ok _ _ h
    · rw [hs] at h
      rcases hset : classItem a with e | s
      · rw [hset] at h
        cases h
      · rw [hset] at h
        cases h
        exact absurd rfl hr

/-- The next item of a class: if it leaves the class open, text is behind it. -/
theorem classNext_append {verbose : Bool} {c : Char} {cs r : List Char} {i : Item}
    (h : classNext verbose c cs = .ok (i, r)) (hr : i.isInner = true → r ≠ []) :
    classNext verbose c (cs ++ z) = .ok (i, r ++ z) := by
  unfold classNext at h ⊢
  split at h
  · simp only [asciiClass?_append hz]
    split at h
    · next hs =>
      cases h
      rw [hs]
      rfl
    · next hs =>
      have hopen := Except.ok.inj h
      have hinner := isInner_openClass verbose cs
      rw [hopen] at hinner
      rw [hs, Option.map_none, openClass_append hopen (hr hinner)]
  · cases h
    rfl
  · cases h
    rfl
  · cases h
    rfl
  · cases h
    rfl
  · next hopen hclose hand hminus htilde =>
    have hmember := member_append hz h (hr ((yields_member ..).isInner i r h))
    split
    · exact absurd rfl hopen
    · exact absurd rfl hclose
    · next he =>
      obtain ⟨w, rfl, -⟩ := hz.append_eq_cons (by decide) he
      exact (hand w rfl rfl).elim
    · next he =>
      obtain ⟨w, rfl, -⟩ := hz.append_eq_cons (by decide) he
      exact (hminus w rfl rfl).elim
    · next he =>
      obtain ⟨w, rfl, -⟩ := hz.append_eq_cons (by decide) he
      exact (htilde w rfl rfl).elim
    · exact hmember

/-- The next item outside classes: if it opens a class, text is behind it. -/
theorem next_append {verbose : Bool} {c : Char} {cs r : List Char} {i : Item}
    (h : next verbose c cs = .ok (i, r)) (hr : c = '[' → r ≠ []) :
    next verbose c (cs ++ z) = .ok (i, r ++ z) := by
  unfold next at h ⊢
  split at h
  · exact (extends_group hz verbose cs).eq_ok i r h
  · cases h; rfl
  · cases h; rfl
  · exact congrArg Except.ok (openClass_append (Except.ok.inj h) (hr rfl))
  · exact congrArg Except.ok (signed_append hz (Except.ok.inj h))
  · exact congrArg Except.ok (signed_append hz (Except.ok.inj h))
  · exact congrArg Except.ok (signed_append hz (Except.ok.inj h))
  · exact (extends_counted hz verbose cs).eq_ok i r h
  · cases h; rfl
  · cases h; rfl
  · cases h; rfl
  · exact (Extends.andThen (extends_escape hz verbose cs) fun _ _ => Extends.ok).eq_ok i r h
  · cases h; rfl

end

theorem classNext_ne_comment {verbose : Bool} {c : Char} {cs r : List Char} {i : Item}
    (h : classNext verbose c cs = .ok (i, r)) (closed : Bool) : i ≠ .comment closed := by
  rintro rfl
  unfold classNext at h
  split at h
  · split at h
    · cases h
    · have hinner := isInner_openClass verbose cs
      rw [Except.ok.inj h] at hinner
      cases hinner
  · cases h
  · cases h
  · cases h
  · cases h
  · cases (yields_member ..).isInner _ r h

end Scan

/-! ## Modes -/

variable {m : Mode} {c : Char} {cs r z : List Char} {i : Item}

theorem Mode.classes_after (h : i.isInner = true) : m.classes ≤ (m.after i).classes := by
  unfold Mode.after
  split
  · exact Nat.le_refl _
  · exact Nat.le_refl _
  · split <;> exact Nat.le_refl _
  · exact Nat.le_refl _
  · exact Nat.le_succ _
  · cases h
  · exact Nat.le_refl _

theorem Mode.next_ne_comment (h : m.next c cs = .ok (i, r)) (closed : Bool) :
    i ≠ .comment closed := by
  unfold Mode.next at h
  rintro rfl
  split at h
  · cases (Scan.yields_next ..).isInner _ r h
  · cases Scan.classNext_ne_comment h closed rfl

/-- The next item is the same before an ending, unless the text ends in an open class. -/
theorem Mode.next_append (hz : Ending z) (h : m.next c cs = .ok (i, r))
    (hr : r = [] → (m.after i).classes = 0) : m.next c (cs ++ z) = .ok (i, r ++ z) := by
  unfold Mode.next at h ⊢
  split at h
  · next hout =>
    rw [if_pos hout]
    refine Scan.next_append hz h ?_
    rintro rfl rfl
    obtain ⟨negated, literals, ho⟩ := Scan.exists_openClass m.verbose cs
    have hi : Scan.openClass m.verbose cs = (i, []) := Except.ok.inj h
    rw [hi] at ho
    obtain rfl : i = .openClass negated literals := ho
    exact absurd (hr rfl) (Nat.succ_ne_zero _)
  · next hin =>
    rw [if_neg hin]
    refine Scan.classNext_append hz h fun hinner he => ?_
    have := m.classes_after hinner
    have := hr he
    omega

end OrderedLexer.Pattern
