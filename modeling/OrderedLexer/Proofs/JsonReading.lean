/-
  Values that reading gives.

  Whatever a text is, a value read from it is canonical (`canonical_of_read`): an integer without
  fraction and exponent is kept as one only if it fits 64 bits, and the members of an object are
  sorted as they are read.  Nor does it nest more deeply than a text may (`depth_of_read`).  `Yields`
  says of a reader's result what holds of the value in it, and goes through the readers one by one;
  `yields_value` is the induction over the values that are read.
-/
import OrderedLexer.Proofs.JsonRoundTrip

namespace OrderedLexer.Json.Reader

variable {α β : Type} {P : α → Prop} {Q : β → Prop}

/-- If there is a result, its value has a property. -/
def Yields (P : α → Prop) (x : Result α) : Prop := ∀ a r, x = .ok (a, r) → P a

theorem Yields.ok {a : α} {r : List Char} (h : P a) : Yields P (.ok (a, r)) := by
  intro b r' heq
  cases heq
  exact h

theorem Yields.error {f : Failure} : Yields P (.error f) := by
  intro a r heq
  cases heq

theorem Yields.andThen {x : Result α} {f : α → List Char → Result β} (hx : Yields P x)
    (hf : ∀ a r, P a → Yields Q (f a r)) : Yields Q (andThen x f) := by
  cases x with
  | error e => exact .error
  | ok p => exact hf p.1 p.2 (hx p.1 p.2 rfl)

theorem Yields.map {x : Result α} {f : α × List Char → β × List Char} (hx : Yields P x)
    (hf : ∀ a r, P a → Q (f (a, r)).1) : Yields Q (x.map f) := by
  cases x with
  | error e => exact .error
  | ok p => exact .ok (hf p.1 p.2 (hx p.1 p.2 rfl))

/-! ## Numbers -/

/-- A number that reading gives. -/
def IsNumber (n : Number) : Prop := (Value.num n).Canonical

theorem fit_le {limit n : Nat} (h : n ≤ limit) (ds : List Char) : (fit limit n ds).1 ≤ limit := by
  induction ds generalizing n with
  | nil => exact h
  | cons d ds ih =>
    rw [fit]
    split
    · exact h
    · next hstep => exact ih (Nat.le_of_not_lt hstep)

theorem yields_finish {negative : Bool} {significand : Nat} {e : Int} {cs : List Char} :
    Yields IsNumber (finish negative significand e cs) := by
  rw [finish]
  split
  · exact .ok (.double _)
  · exact .error

theorem yields_exponent {negative : Bool} {significand : Nat} {start : Int} {cs : List Char} :
    Yields IsNumber (exponent negative significand start cs) := by
  unfold exponent
  split
  split
  · exact .error
  · split
    · exact .error
    · dsimp only
      split
      · exact yields_finish
      · split
        · exact .error
        · exact yields_finish

theorem yields_scaled {negative : Bool} {significand : Nat} {start : Int} {cs : List Char} :
    Yields IsNumber (scaled negative significand start cs) := by
  unfold scaled
  split
  · exact yields_exponent
  · exact yields_exponent
  · exact yields_finish

theorem yields_fraction {negative : Bool} {significand : Nat} {start : Int} {cs : List Char} :
    Yields IsNumber (fraction negative significand start cs) := by
  unfold fraction
  dsimp only
  split
  · split
    · exact .error
    · exact .error
  · exact yields_scaled

theorem isNumber_integer {negative : Bool} {n : Nat} (h : n ≤ maxSignificand) :
    IsNumber (integer negative n) := by
  unfold integer
  split
  · exact .int (by omega) (Int.ofNat_le.2 h)
  · split
    · exact .double _
    · next hpow =>
      have hpow : Nat.pow 2 63 = 0x8000000000000000 := rfl
      exact .int (by omega) (by omega)

theorem yields_number (negative : Bool) (cs : List Char) : Yields IsNumber (number negative cs) := by
  unfold number
  split
  · exact .error
  · split
    · exact .error
    · split
      · exact .error
      · dsimp only
        split
        · exact yields_fraction
        · exact yields_scaled
        · exact yields_scaled
        · split
          · exact .ok (isNumber_integer (fit_le (Nat.zero_le _) _))
          · exact yields_scaled

/-! ## Arrays and objects -/

section

variable {item : List Char → Result α} (hitem : ∀ cs, Yields P (item cs))

include hitem

theorem yields_moreItems (fuel : Nat) (cs : List Char) :
    Yields (fun vs => ∀ v ∈ vs, P v) (moreItems item fuel cs) := by
  induction fuel generalizing cs with
  | zero => exact .error
  | succ fuel ih =>
    unfold moreItems
    split
    · exact .error
    · exact .ok (by simp)
    · split
      · exact .error
      · exact .error
      · refine (hitem _).andThen fun v r hv => (ih r).andThen fun vs r hvs => .ok ?_
        exact List.forall_mem_cons.2 ⟨hv, hvs⟩
    · exact .error

theorem yields_items (fuel : Nat) (cs : List Char) :
    Yields (fun vs => ∀ v ∈ vs, P v) (items item fuel cs) := by
  unfold items
  split
  · exact .error
  · exact .ok (by simp)
  · refine (hitem _).andThen fun v r hv => (yields_moreItems hitem fuel r).andThen fun vs r hvs =>
      .ok ?_
    exact List.forall_mem_cons.2 ⟨hv, hvs⟩

theorem yields_member (cs : List Char) : Yields (fun m => P m.2) (member item cs) := by
  refine Yields.andThen (P := fun _ => True) (fun _ _ _ => trivial) fun name r _ => ?_
  split
  · exact .error
  · exact (hitem _).andThen fun v r hv => .ok hv
  · exact .error

theorem yields_moreMembers (fuel : Nat) (cs : List Char) :
    Yields (fun ms => ∀ m ∈ ms, P m.2) (moreMembers item fuel cs) := by
  induction fuel generalizing cs with
  | zero => exact .error
  | succ fuel ih =>
    unfold moreMembers
    split
    · exact .error
    · exact .ok (by simp)
    · split
      · exact .error
      · refine (yields_member hitem _).andThen fun m r hm => (ih r).andThen fun ms r hms => .ok ?_
        exact List.forall_mem_cons.2 ⟨hm, hms⟩
      · exact .error
      · exact .error
    · exact .error

theorem yields_members (fuel : Nat) (cs : List Char) :
    Yields (fun ms => ∀ m ∈ ms, P m.2) (members item fuel cs) := by
  unfold members
  split
  · exact .error
  · exact .ok (by simp)
  · refine (yields_member hitem _).andThen fun m r hm =>
      (yields_moreMembers hitem fuel r).andThen fun ms r hms => .ok ?_
    exact List.forall_mem_cons.2 ⟨hm, hms⟩
  · exact .error

end

/-! ## Values -/

theorem mem_merge {a b : Members} {m : String × Value} (h : m ∈ a.merge b) : m ∈ a ∨ m ∈ b := by
  induction b generalizing a with
  | nil => exact .inl h
  | cons n b ih =>
    rcases ih h with h | h
    · rcases Members.mem_insert h with rfl | h
      · exact .inr List.mem_cons_self
      · exact .inl h
    · exact .inr (List.mem_cons_of_mem _ h)

theorem canonical_ofList {ms : List (String × Value)} (h : ∀ m ∈ ms, m.2.Canonical) :
    (Value.obj (Members.ofList ms)).Canonical := by
  refine .obj (Members.sorted_ofList ms) fun m hm => h m ?_
  rcases mem_merge hm with hm | hm
  · simp at hm
  · exact hm

theorem Yields.const {x : Except Failure (List Char)} {a : α} (h : P a) :
    Yields P (x.map fun r => (a, r)) := by
  cases x with
  | error e => exact .error
  | ok r => exact .ok h

theorem Yields.true (x : Result α) : Yields (fun _ => True) x := fun _ _ _ => trivial

/-- What holds of a value that is read, with the levels of brackets that it may nest: it is enough to
    look at each kind of value, with that for its parts. -/
theorem yields_value {P : Nat → Value → Prop} (null : ∀ d, P d .null) (bool : ∀ d b, P d (.bool b))
    (num : ∀ d n, IsNumber n → P d (.num n)) (str : ∀ d s, P d (.str s))
    (arr : ∀ d vs, (∀ v ∈ vs, P d v) → P (d + 1) (.arr vs))
    (obj : ∀ d ms, (∀ m ∈ ms, P d m.2) → P (d + 1) (.obj (Members.ofList ms)))
    (fuel d : Nat) (cs : List Char) : Yields (P d) (value fuel d cs) := by
  induction d using Nat.strongRecOn generalizing cs with
  | ind d ih =>
    unfold value
    split
    · exact .error
    · exact .const (null d)
    · exact .const (bool d true)
    · exact .const (bool d false)
    · exact (yields_number _ _).map fun n r hn => num d n hn
    · exact (Yields.true _).map fun s r _ => str d s
    · split
      · exact .error
      · next d =>
        exact (yields_items (ih d (Nat.lt_succ_self d)) _ _).map fun vs r hvs => arr d vs hvs
    · split
      · exact .error
      · next d =>
        exact (yields_members (ih d (Nat.lt_succ_self d)) _ _).map fun ms r hms => obj d ms hms
    · split
      · exact (yields_number _ _).map fun n r hn => num d n hn
      · exact .error

theorem of_document {P : Value → Prop} {cs : List Char} {v : Value}
    (hP : Yields P (value (cs.length + 1) maxDepth cs)) (h : document cs = .ok v) : P v := by
  rw [document] at h
  cases hvalue : value (cs.length + 1) maxDepth cs with
  | error e => simp [hvalue, bind, Except.bind] at h
  | ok p =>
    obtain ⟨w, r⟩ := p
    simp only [hvalue, bind, Except.bind] at h
    split at h
    · cases h
      exact hP _ _ hvalue
    · simp [failAt] at h

end OrderedLexer.Json.Reader

namespace OrderedLexer.Json

variable {text : String} {v : Value}

/-- What the reader of values yields holds of what a text stands for. -/
theorem of_read {P : Value → Prop}
    (hP : Reader.Yields P (Reader.value (text.toList.length + 1) Reader.maxDepth text.toList))
    (h : read text = .ok v) : P v := by
  unfold read at h
  dsimp only at h
  split at h
  · next w hdocument =>
    cases h
    exact Reader.of_document hP hdocument
  · simp at h

theorem canonical_of_read (h : read text = .ok v) : v.Canonical := by
  refine of_read (Reader.yields_value (P := fun _ v => v.Canonical) ?_ ?_ ?_ ?_ ?_ ?_ _ _ _) h
  · exact fun _ => .null
  · exact fun _ b => .bool b
  · exact fun _ n hn => hn
  · exact fun _ s => .str s
  · exact fun _ vs hvs => .arr hvs
  · exact fun _ ms hms => Reader.canonical_ofList hms

/-- A value that is read does not nest too deeply to be read again. -/
theorem depth_of_read (h : read text = .ok v) : v.depth ≤ Reader.maxDepth := by
  refine of_read (Reader.yields_value (P := fun d v => v.depth ≤ d) ?_ ?_ ?_ ?_ ?_ ?_ _ _ _) h
  · exact fun d => Nat.zero_le d
  · exact fun d _ => Nat.zero_le d
  · exact fun d _ _ => Nat.zero_le d
  · exact fun d _ => Nat.zero_le d
  · exact fun d vs hvs => Nat.succ_le_succ (depthItems_le_iff.2 hvs)
  · intro d ms hms
    refine Nat.succ_le_succ (depthMembers_le_iff.2 fun m hm => ?_)
    rcases Reader.mem_merge hm with hm | hm
    · simp at hm
    · exact hms m hm

end OrderedLexer.Json
