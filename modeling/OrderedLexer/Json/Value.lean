/-
  JSON values.

  * A number is an integer or a double;
  * the members of an object are kept sorted by their names, each name once (`Members.Sorted`).
    `Members.insert` sets a member, `Members.erase` drops one, and `Members.merge` sets all members
    of a second object.
-/

namespace OrderedLexer.Json

/-- A number: an integer, or a double for every other number. -/
inductive Number where
  | int (n : Int)
  | double (x : Float)

/-- A JSON value. -/
inductive Value where
  | null
  | bool (b : Bool)
  | num (n : Number)
  | str (s : String)
  | arr (items : List Value)
  | obj (members : List (String × Value))

instance : Inhabited Value := ⟨.null⟩

/-! ## Members of an object -/

/-- Named values, sorted by name. -/
abbrev Members := List (String × Value)

namespace Members

/-- Sets a member: in place of the one with this name, or at its place in the order. -/
def insert (name : String) (v : Value) : Members → Members
  | [] => [(name, v)]
  | (k, w) :: rest =>
    if name < k then (name, v) :: (k, w) :: rest
    else if name = k then (name, v) :: rest
    else (k, w) :: insert name v rest

/-- The value of a member. -/
def get? (name : String) (ms : Members) : Option Value := ms.lookup name

/-- Drops the member with a name. -/
def erase (name : String) (ms : Members) : Members := ms.filter fun m => m.1 != name

/-- Sets every member of `b` in `a`. -/
def merge (a b : Members) : Members := b.foldl (fun ms m => ms.insert m.1 m.2) a

/-- The members given one after the other, a later one in place of an earlier one. -/
def ofList (ms : List (String × Value)) : Members := merge [] ms

/-! ## The order of members -/

/-- The names are in order, and each one stands once. -/
def Sorted (ms : Members) : Prop := ms.Pairwise fun m n => m.1 < n.1

theorem lt_of_not_lt_of_ne {a b : String} (hlt : ¬a < b) (hne : a ≠ b) : b < a :=
  Decidable.byContradiction fun hba =>
    hne (String.le_antisymm (String.not_lt.1 hba) (String.not_lt.1 hlt))

theorem mem_insert {name : String} {v : Value} {ms : Members} {m : String × Value}
    (h : m ∈ insert name v ms) : m = (name, v) ∨ m ∈ ms := by
  induction ms with
  | nil => simpa [insert] using h
  | cons n rest ih =>
    unfold insert at h
    split at h
    · exact List.mem_cons.1 h
    · split at h
      · exact (List.mem_cons.1 h).imp_right (List.mem_cons_of_mem _)
      · rcases List.mem_cons.1 h with rfl | h
        · exact .inr List.mem_cons_self
        · exact (ih h).imp_right (List.mem_cons_of_mem _)

theorem Sorted.insert {ms : Members} (h : ms.Sorted) (name : String) (v : Value) :
    (ms.insert name v).Sorted := by
  induction ms with
  | nil => exact List.pairwise_singleton _ _
  | cons n rest ih =>
    obtain ⟨k, w⟩ := n
    obtain ⟨hhead, hrest⟩ := List.pairwise_cons.1 h
    unfold Members.insert
    split
    · next hlt =>
      refine List.pairwise_cons.2 ⟨fun m hm => ?_, h⟩
      rcases List.mem_cons.1 hm with rfl | hm
      · exact hlt
      · exact String.lt_trans hlt (hhead m hm)
    · next hlt =>
      split
      · next heq => subst heq; exact List.pairwise_cons.2 ⟨hhead, hrest⟩
      · next hne =>
        refine List.pairwise_cons.2 ⟨fun m hm => ?_, ih hrest⟩
        rcases mem_insert hm with rfl | hm
        · exact lt_of_not_lt_of_ne hlt hne
        · exact hhead m hm

theorem Sorted.merge {a : Members} (h : a.Sorted) (b : Members) : (a.merge b).Sorted := by
  induction b generalizing a with
  | nil => exact h
  | cons m rest ih => exact ih (h.insert m.1 m.2)

theorem sorted_nil : Sorted [] := .nil

theorem sorted_ofList (ms : List (String × Value)) : (ofList ms).Sorted :=
  Sorted.merge sorted_nil ms

end Members

end OrderedLexer.Json
