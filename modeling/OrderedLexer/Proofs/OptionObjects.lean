/-
  Options and the objects that hold them.

  An object overrides another one if its members stand in place of those with the same names
  (`Members.Overrides`).  A null `captureLocations` is unset, so it must not override a value that is
  set: `dropUnset` takes it out of an object.

  * What overriding objects hold is what is merged from the options that they hold (`ofValue_override`),
    and the object of merged options is that of the second ones over that of the first ones
    (`overrides_members`);
  * options that are read from a text without doubles are given back by their own text (`read_write`).

  `merge_lawful` puts this together with the laws of merging.
-/
import OrderedLexer.Proofs.OptionValues

namespace OrderedLexer

open Json (Members Value)

/-! ## Overriding members -/

namespace Json.Members

variable {a b : Members}

/-- An object with the members of `b`, and with those of `a` whose names `b` does not have. -/
structure Overrides (a b o : Members) : Prop where
  sorted : o.Sorted
  get? : ∀ name, o.get? name = (b.get? name).or (a.get? name)

theorem overrides_merge (ha : a.Sorted) (hb : b.Sorted) : Overrides a b (a.merge b) :=
  ⟨ha.merge b, get?_merge hb⟩

end Json.Members

theorem Json.Value.Canonical.members {ms : Members} (h : (Value.obj ms).Canonical) :
    ms.Sorted ∧ ∀ m ∈ ms, m.2.Canonical := by
  cases h with
  | obj hs hms => exact ⟨hs, hms⟩

namespace Options

variable {a b o : Options} {A B ms : Members}

/-! ## Reading overriding objects -/

/-- An object without its `captureLocations`, if that is null. -/
def dropUnset (ms : Members) : Members :=
  match ms.get? captureName with
  | some .null => ms.erase captureName
  | _ => ms

theorem sorted_dropUnset (h : ms.Sorted) : (dropUnset ms).Sorted := by
  unfold dropUnset
  split
  · exact h.erase captureName
  · exact h

theorem get?_dropUnset_of_ne {name : String} (h : name ≠ captureName) (ms : Members) :
    (dropUnset ms).get? name = ms.get? name := by
  unfold dropUnset
  split
  · rw [Members.get?_erase, if_neg h]
  · rfl

theorem get?_dropUnset_captureName {c : Option Bool} (h : Captures (ms.get? captureName) c) :
    (dropUnset ms).get? captureName = c.map .bool := by
  unfold dropUnset
  generalize hget : ms.get? captureName = v at h
  cases h with
  | absent => exact hget
  | null => rw [Members.get?_erase, if_pos rfl, Option.map_none]
  | bool => exact hget

theorem get?_extra (hs : ms.Sorted) (h : ofValue (.obj ms) = .ok o) (name : String) :
    o.extra.get? name = if name = captureName then none else ms.get? name := by
  rw [(ofValue_eq_ok_iff.1 h).2, Members.ofList_of_sorted (hs.erase captureName), Members.get?_erase]

/-- An object that overrides another one holds the options of the two merged. -/
theorem ofValue_override (hA : A.Sorted) (hB : B.Sorted) (ha : ofValue (.obj A) = .ok a)
    (hb : ofValue (.obj B) = .ok b) :
    ofValue (.obj (A.merge (dropUnset B))) = .ok (a.merge b) := by
  have hdrop := sorted_dropUnset hB
  refine ofValue_eq_ok_iff.2 ⟨?_, ?_⟩
  · obtain ⟨hcapture, -⟩ := ofValue_eq_ok_iff.1 ha
    rw [Members.get?_merge hdrop, get?_dropUnset_captureName (ofValue_eq_ok_iff.1 hb).1]
    simp only [merge]
    cases b.captureLocations with
    | none => exact hcapture
    | some c => exact .bool c
  · refine (a.merge b).sorted.ext (Members.sorted_ofList _) fun name => ?_
    rw [Members.ofList_of_sorted ((hA.merge _).erase captureName), Members.get?_erase,
      Members.get?_merge hdrop]
    simp only [merge]
    rw [Members.get?_merge b.sorted, get?_extra hA ha, get?_extra hB hb]
    split
    · rfl
    · next hname => rw [get?_dropUnset_of_ne hname]

/-! ## The objects of options -/

/-- The members of the object that holds options. -/
def members (o : Options) : Members :=
  match o.captureLocations with
  | some b => o.extra.insert captureName (.bool b)
  | none => o.extra

theorem toValue_eq (o : Options) : o.toValue = .obj o.members := by
  unfold toValue members
  cases o.captureLocations <;> rfl

theorem sorted_members (o : Options) : o.members.Sorted := by
  unfold members
  split
  · exact o.sorted.insert captureName _
  · exact o.sorted

theorem get?_members (h : o.Canonical) (name : String) :
    o.members.get? name =
      if name = captureName then o.captureLocations.map .bool else o.extra.get? name := by
  unfold members
  split
  · next c hc =>
    rw [Members.get?_insert, hc]
    rfl
  · next hc =>
    rw [hc]
    split
    · next hname => rw [hname, Members.get?_eq_none_of_ne h.names, Option.map_none]
    · rfl

/-- Name by name, merged options are written with the value of the second ones, or else with that of
    the first ones. -/
theorem overrides_members (ha : a.Canonical) (hb : b.Canonical) :
    Members.Overrides a.members b.members (a.merge b).members := by
  refine ⟨sorted_members _, fun name => ?_⟩
  rw [get?_members (ha.merge hb), get?_members ha, get?_members hb]
  simp only [merge]
  split
  · exact Option.map_or
  · exact Members.get?_merge b.sorted name

/-! ## The texts of options -/

/-- Options from a text without doubles are given back by the text that they are written as. -/
theorem read_write {text : String} (hread : Json.read text = .ok (.obj ms))
    (hexact : ∀ m ∈ ms, m.2.isExact = true) (h : ofValue (.obj ms) = .ok o) :
    read o.write = .ok o := by
  have hcanonical := canonical_of_ofValue (Json.canonical_of_read hread).members.2 h
  have hdepth : o.toValue.depth ≤ Json.Reader.maxDepth := by
    obtain ⟨ms', heq, -, hms'⟩ := exists_toValue o
    have hmax := Json.depth_of_read hread
    -- no other members are written than those that were read, apart from a truth value
    have hmembers : Json.depthMembers ms' ≤ Json.depthMembers ms := by
      refine Json.depthMembers_le_iff.2 fun m hm => ?_
      rcases hms' m hm with hm | ⟨b, rfl⟩
      · exact Json.depthMembers_le_iff.1 le_rfl m (of_mem_extra h hm).1
      · exact Nat.zero_le _
    rw [heq]
    exact (Nat.succ_le_succ hmembers).trans hmax
  have hvalue : Json.read o.write = .ok o.toValue :=
    Json.read_write hcanonical.toValue
      (isExact_toValue fun m hm => hexact m (of_mem_extra h hm).1) hdepth .compact
  simp only [read, hvalue, ofValue_toValue hcanonical]

/-! ## Laws -/

/-- **Merging is overriding by name**, in options and in the objects that hold them.  For all options
    that are read from objects: merging is associative and idempotent, and the empty options change
    nothing on either side; merged options are written as the object of the second ones over that of
    the first ones; options are given back by the object that they are written as, and if they were
    read from a text without doubles, also by the text; and merged options are those of the second
    object over the first one, where a null `captureLocations` of the second object is dropped. -/
theorem merge_lawful (hA : (Value.obj A).Canonical) (hB : (Value.obj B).Canonical)
    (ha : ofValue (.obj A) = .ok a) (hb : ofValue (.obj B) = .ok b) (c : Options) :
    ((a.merge b).merge c = a.merge (b.merge c) ∧ a.merge a = a ∧ Options.merge {} a = a ∧
      a.merge {} = a) ∧
    Members.Overrides a.members b.members (a.merge b).members ∧
    (a.toValue = .obj a.members ∧ ofValue a.toValue = .ok a) ∧
    (∀ text, Json.read text = .ok (.obj A) → (∀ m ∈ A, m.2.isExact = true) →
      read a.write = .ok a) ∧
    Members.Overrides A (dropUnset B) (A.merge (dropUnset B)) ∧
    ofValue (.obj (A.merge (dropUnset B))) = .ok (a.merge b) := by
  obtain ⟨hsA, hvA⟩ := hA.members
  obtain ⟨hsB, hvB⟩ := hB.members
  have hca := canonical_of_ofValue hvA ha
  have hcb := canonical_of_ofValue hvB hb
  refine ⟨⟨merge_assoc a b c, merge_self a, empty_merge a, merge_empty a⟩,
    overrides_members hca hcb, ⟨toValue_eq a, ofValue_toValue hca⟩,
    fun text hread hexact => read_write hread hexact ha,
    Members.overrides_merge hsA (sorted_dropUnset hsB), ofValue_override hsA hsB ha hb⟩

/-- An object that switches locations on and has two further options, as a text. -/
def baseText : String := "\x7b\"flavor\":\"a\",\"keep\":null,\"captureLocations\":true\x7d"

def baseMembers : Members :=
  [("captureLocations", .bool true), ("flavor", .str "a"), ("keep", .null)]

/-- An object that changes one option, and leaves locations unset. -/
def patchText : String := "\x7b\"captureLocations\":null,\"flavor\":\"b\"\x7d"

def patchMembers : Members := [("captureLocations", .null), ("flavor", .str "b")]

theorem merge_lawful_patch :
    Json.read baseText = .ok (.obj baseMembers) ∧ Json.read patchText = .ok (.obj patchMembers) ∧
      (Value.obj baseMembers).Canonical ∧ (Value.obj patchMembers).Canonical ∧
      ∃ a b, ofValue (.obj baseMembers) = .ok a ∧ ofValue (.obj patchMembers) = .ok b ∧
        (a.merge b).captureLocations = some true ∧ ofValue a.toValue = .ok a ∧
        read a.write = .ok a ∧
        ofValue (.obj (baseMembers.merge (dropUnset patchMembers))) = .ok (a.merge b) := by
  have hreadA : Json.read baseText = .ok (.obj baseMembers) := by with_unfolding_all rfl
  have hreadB : Json.read patchText = .ok (.obj patchMembers) := by with_unfolding_all rfl
  have hA := Json.canonical_of_read hreadA
  have hB := Json.canonical_of_read hreadB
  have hexact : ∀ m ∈ baseMembers, m.2.isExact = true := Json.allExactMembers_iff.1 rfl
  have ha : ofValue (.obj baseMembers) = .ok ⟨some true, _, Members.sorted_ofList _⟩ := rfl
  have hb : ofValue (.obj patchMembers) = .ok ⟨none, _, Members.sorted_ofList _⟩ := rfl
  obtain ⟨-, -, ⟨-, hback⟩, htext, -, hmerged⟩ := merge_lawful hA hB ha hb {}
  exact ⟨hreadA, hreadB, hA, hB, _, _, ha, hb, rfl, hback, htext baseText hreadA hexact, hmerged⟩

end Options

end OrderedLexer
