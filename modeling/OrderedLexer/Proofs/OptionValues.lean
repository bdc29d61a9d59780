/-
  Options as JSON values.

  Options are `Canonical` if their values are and none of them has the name that is understood; this
  holds of options that are read, and merging keeps it.  The object that holds canonical options is
  canonical and gives them back (`ofValue_toValue`).  Reading an object is merging what its members
  give one by one (`exists_of_ofValue_cons`).
-/
import OrderedLexer.Proofs.JsonReading

namespace OrderedLexer

open Json (Members Value)

/-! ## Dropped members -/

namespace Json.Members

variable {ms : Members} {k : String}

theorem get?_erase (name k : String) (ms : Members) :
    get? name (erase k ms) = if name = k then none else get? name ms := by
  induction ms with
  | nil => simp [erase, get?]
  | cons m rest ih =>
    obtain ⟨l, v⟩ := m
    by_cases hl : l = k
    · have hdrop : erase k ((l, v) :: rest) = erase k rest := by simp [erase, hl]
      rw [hdrop, ih, get?_cons, hl]
      split <;> rfl
    · have hkeep : erase k ((l, v) :: rest) = (l, v) :: erase k rest := by simp [erase, hl]
      rw [hkeep, get?_cons, get?_cons, ih]
      by_cases hname : name = l
      · rw [if_pos hname, if_pos hname, if_neg (hname ▸ hl)]
      · rw [if_neg hname, if_neg hname]

theorem Sorted.erase (h : ms.Sorted) (k : String) : (ms.erase k).Sorted :=
  List.Pairwise.filter _ h

theorem mem_erase {m : String × Value} : m ∈ erase k ms ↔ m ∈ ms ∧ m.1 ≠ k := by
  simp [erase]

theorem get?_eq_none_of_ne (h : ∀ m ∈ ms, m.1 ≠ k) : get? k ms = none := by
  refine List.lookup_eq_none_iff.2 fun m hm => ?_
  rw [bne_iff_ne]
  exact (h m hm).symm

theorem erase_insert (hs : ms.Sorted) (h : ∀ m ∈ ms, m.1 ≠ k) (v : Value) :
    erase k (insert k v ms) = ms := by
  refine ((hs.insert k v).erase k).ext hs fun name => ?_
  rw [get?_erase, get?_insert]
  split
  · next hname => rw [hname, get?_eq_none_of_ne h]
  · rfl

theorem erase_of_ne (h : ∀ m ∈ ms, m.1 ≠ k) : erase k ms = ms := by
  refine List.filter_eq_self.2 fun m hm => ?_
  rw [bne_iff_ne]
  exact h m hm

end Json.Members

/-! ## Canonical options -/

namespace Options

variable {a b o : Options} {ms : Members}

/-- Options as they are read. -/
structure Canonical (o : Options) : Prop where
  values : ∀ m ∈ o.extra, m.2.Canonical
  names : ∀ m ∈ o.extra, m.1 ≠ captureName

theorem empty_merge (o : Options) : Options.merge {} o = o :=
  Options.ext Option.or_none (Members.ofList_of_sorted o.sorted)

theorem canonical_empty : Canonical {} := ⟨by simp, by simp⟩

theorem Canonical.merge (ha : a.Canonical) (hb : b.Canonical) : (a.merge b).Canonical := by
  constructor
  · intro m hm
    exact (Json.Reader.mem_merge hm).elim (ha.values m) (hb.values m)
  · intro m hm
    exact (Json.Reader.mem_merge hm).elim (ha.names m) (hb.names m)

theorem canonical_foldl {os : List Options} (ha : a.Canonical) (hos : ∀ o ∈ os, o.Canonical) :
    (os.foldl Options.merge a).Canonical := by
  induction os generalizing a with
  | nil => exact ha
  | cons o os ih =>
    obtain ⟨ho, hos⟩ := List.forall_mem_cons.1 hos
    exact ih (ha.merge ho) hos

/-- What a member means for locations; null is unset, and only truth values are understood. -/
inductive Captures : Option Value → Option Bool → Prop
  | absent : Captures none none
  | null : Captures (some .null) none
  | bool (b : Bool) : Captures (some (.bool b)) (some b)

theorem ofValue_eq_ok_iff : ofValue (.obj ms) = .ok o ↔
    Captures (Members.get? captureName ms) o.captureLocations ∧
      o.extra = Members.ofList (Members.erase captureName ms) := by
  obtain ⟨capture, extra, sorted⟩ := o
  unfold ofValue
  dsimp only
  constructor
  · intro h
    split at h
    · next hget =>
      cases h
      exact ⟨hget ▸ .absent, rfl⟩
    · next hget =>
      cases h
      exact ⟨hget ▸ .null, rfl⟩
    · next b hget =>
      cases h
      exact ⟨hget ▸ .bool b, rfl⟩
    · cases h
  · rintro ⟨hcapture, rfl⟩
    generalize Members.get? captureName ms = v at hcapture
    cases hcapture <;> rfl

theorem of_mem_extra {m : String × Value} (h : ofValue (.obj ms) = .ok o) (hm : m ∈ o.extra) :
    m ∈ ms ∧ m.1 ≠ captureName := by
  rw [(ofValue_eq_ok_iff.1 h).2] at hm
  rcases Json.Reader.mem_merge hm with hm | hm
  · simp at hm
  · exact Members.mem_erase.1 hm

theorem canonical_of_ofValue (hv : ∀ m ∈ ms, m.2.Canonical) (h : ofValue (.obj ms) = .ok o) :
    o.Canonical :=
  ⟨fun m hm => hv m (of_mem_extra h hm).1, fun _ hm => (of_mem_extra h hm).2⟩

/-- Members give the options of the first one, with those of the others merged over them. -/
theorem exists_of_ofValue_cons {m : String × Value} (hs : Members.Sorted (m :: ms))
    (h : ofValue (.obj (m :: ms)) = .ok o) :
    ∃ a b, ofValue (.obj [m]) = .ok a ∧ ofValue (.obj ms) = .ok b ∧ a.merge b = o := by
  obtain ⟨k, v⟩ := m
  obtain ⟨hcapture, hextra⟩ := ofValue_eq_ok_iff.1 h
  obtain ⟨hfirst, hsorted⟩ := List.pairwise_cons.1 hs
  have hcapture : ∃ c d, Captures (Members.get? captureName [(k, v)]) c ∧
      Captures (Members.get? captureName ms) d ∧ d.or c = o.captureLocations := by
    rw [Members.get?_cons] at hcapture ⊢
    by_cases hk : captureName = k
    · rw [if_pos hk] at hcapture ⊢
      refine ⟨_, none, hcapture, ?_, Option.none_or⟩
      rw [Members.get?_eq_none fun m hm => hk ▸ hfirst m hm]
      exact .absent
    · rw [if_neg hk] at hcapture ⊢
      exact ⟨none, _, .absent, hcapture, Option.or_none⟩
  obtain ⟨c, d, hc, hd, hor⟩ := hcapture
  have hcons : Members.erase captureName ((k, v) :: ms) =
      Members.erase captureName [(k, v)] ++ Members.erase captureName ms :=
    List.filter_append [(k, v)] ms
  refine ⟨⟨c, _, Members.sorted_ofList _⟩, ⟨d, _, Members.sorted_ofList _⟩,
    ofValue_eq_ok_iff.2 ⟨hc, rfl⟩, ofValue_eq_ok_iff.2 ⟨hd, rfl⟩, Options.ext hor ?_⟩
  rw [hextra, hcons]
  simp only [merge, Members.ofList_of_sorted (Members.Sorted.erase hsorted captureName)]
  exact List.foldl_append.symm

/-- The object that holds canonical options gives them back. -/
theorem ofValue_toValue (h : o.Canonical) : ofValue o.toValue = .ok o := by
  obtain ⟨capture, extra, sorted⟩ := o
  cases capture with
  | none =>
    have hget : Members.get? captureName extra = none := Members.get?_eq_none_of_ne h.names
    have hextra : Members.ofList (Members.erase captureName extra) = extra := by
      rw [Members.erase_of_ne h.names, Members.ofList_of_sorted sorted]
    simp only [toValue, ofValue, hget, hextra]
  | some b =>
    have hget : Members.get? captureName (Members.insert captureName (.bool b) extra) =
        some (.bool b) := by
      rw [Members.get?_insert, if_pos rfl]
    have hextra : Members.ofList (Members.erase captureName
        (Members.insert captureName (.bool b) extra)) = extra := by
      rw [Members.erase_insert sorted h.names, Members.ofList_of_sorted sorted]
    simp only [toValue, ofValue, hget, hextra]

theorem exists_toValue (o : Options) : ∃ ms : Members, o.toValue = .obj ms ∧ ms.Sorted ∧
    ∀ m ∈ ms, m ∈ o.extra ∨ ∃ b, m = (captureName, .bool b) := by
  obtain ⟨capture, extra, sorted⟩ := o
  cases capture with
  | none => exact ⟨extra, rfl, sorted, fun m hm => .inl hm⟩
  | some b =>
    refine ⟨_, rfl, sorted.insert captureName (.bool b), fun m hm => ?_⟩
    rcases Members.mem_insert hm with hm | hm
    · exact .inr ⟨b, hm⟩
    · exact .inl hm

theorem Canonical.toValue (h : o.Canonical) : o.toValue.Canonical := by
  obtain ⟨ms, heq, hs, hms⟩ := exists_toValue o
  rw [heq]
  refine .obj hs fun m hm => ?_
  rcases hms m hm with hm | ⟨b, rfl⟩
  · exact h.values m hm
  · exact .bool b

theorem isExact_toValue (h : ∀ m ∈ o.extra, m.2.isExact = true) : o.toValue.isExact = true := by
  obtain ⟨ms, heq, -, hms⟩ := exists_toValue o
  rw [heq, Value.isExact, Json.allExactMembers_iff]
  intro m hm
  rcases hms m hm with hm | ⟨b, rfl⟩
  · exact h m hm
  · rfl

end Options

end OrderedLexer
