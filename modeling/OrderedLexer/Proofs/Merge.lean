/-
  Merging options.

  Members in order are determined by the values of their names (`Members.Sorted.ext`), and merging
  sets the value of a name to that of the second object, if it has one (`get?_merge`).  So merging is
  associative, and what was merged once makes no difference when it is merged again
  (`Options.merge_assoc`, `Options.merge_self`).
-/
import OrderedLexer.Options
import Mathlib.Data.List.Induction

namespace OrderedLexer

namespace Json.Members

/-! ## Values of names -/

variable {a b c : Members}

theorem get?_cons (name k : String) (v : Value) (ms : Members) :
    get? name ((k, v) :: ms) = if name = k then some v else get? name ms := by
  rw [get?, List.lookup_cons]
  by_cases h : name = k
  · rw [if_pos h, h, beq_self_eq_true]
  · rw [if_neg h, beq_false_of_ne h, get?]

theorem get?_insert (name k : String) (v : Value) (ms : Members) :
    get? name (insert k v ms) = if name = k then some v else get? name ms := by
  induction ms with
  | nil => exact get?_cons ..
  | cons m rest ih =>
    obtain ⟨k', w⟩ := m
    unfold insert
    split
    · exact get?_cons ..
    · split
      · next heq => subst heq; simp only [get?_cons]; split <;> rfl
      · next hne =>
        rw [get?_cons, get?_cons, ih]
        by_cases h : name = k'
        · rw [if_pos h, if_pos h, if_neg (fun he => hne (he.symm.trans h))]
        · rw [if_neg h, if_neg h]

/-- A name before all others has no value. -/
theorem get?_eq_none {name : String} {ms : Members} (h : ∀ m ∈ ms, name < m.1) :
    get? name ms = none := by
  refine List.lookup_eq_none_iff.2 fun m hm => ?_
  rw [bne_iff_ne]
  rintro rfl
  exact String.lt_irrefl _ (h m hm)

theorem get?_merge (hb : b.Sorted) (name : String) :
    get? name (a.merge b) = (get? name b).or (get? name a) := by
  induction b generalizing a with
  | nil => rfl
  | cons m rest ih =>
    obtain ⟨k, v⟩ := m
    obtain ⟨hhead, hrest⟩ := List.pairwise_cons.1 hb
    have hstep : get? name (a.merge ((k, v) :: rest)) =
        (get? name rest).or (get? name (a.insert k v)) := ih hrest
    rw [hstep, get?_insert, get?_cons]
    split
    · next h => subst h; rw [get?_eq_none hhead]; rfl
    · rfl

theorem Sorted.ext (ha : a.Sorted) (hb : b.Sorted) (h : ∀ name, get? name a = get? name b) :
    a = b := by
  induction a generalizing b with
  | nil =>
    cases b with
    | nil => rfl
    | cons n _ => have := h n.1; rw [get?_cons, if_pos rfl] at this; cases this
  | cons m as ih =>
    cases b with
    | nil => have := h m.1; rw [get?_cons, if_pos rfl] at this; cases this
    | cons n bs =>
      obtain ⟨hm, has⟩ := List.pairwise_cons.1 ha
      obtain ⟨hn, hbs⟩ := List.pairwise_cons.1 hb
      obtain ⟨k, v⟩ := m
      obtain ⟨l, w⟩ := n
      have hk := h k
      have hl := h l
      simp only [get?_cons, if_true] at hk hl
      -- the first names agree: the smaller one would have no value on the other side
      have hkl : k = l := by
        by_contra hne
        rw [if_neg hne] at hk
        rw [if_neg (Ne.symm hne)] at hl
        by_cases hlt : k < l
        · rw [get?_eq_none fun n' h' => String.lt_trans hlt (hn n' h')] at hk; cases hk
        · rw [get?_eq_none fun m' h' => String.lt_trans (lt_of_not_lt_of_ne hlt hne) (hm m' h')] at hl
          cases hl
      subst hkl
      rw [if_pos rfl, Option.some.injEq] at hk
      subst hk
      refine congrArg _ (ih has hbs fun name => ?_)
      by_cases hname : name = k
      · subst hname; rw [get?_eq_none hm, get?_eq_none hn]
      · simpa [get?_cons, hname] using h name

/-! ## Laws of merging -/

theorem merge_assoc (ha : a.Sorted) (hb : b.Sorted) (hc : c.Sorted) :
    (a.merge b).merge c = a.merge (b.merge c) := by
  refine ((ha.merge b).merge c).ext (ha.merge _) fun name => ?_
  rw [get?_merge hc, get?_merge hb, get?_merge (hb.merge c), get?_merge hc, Option.or_assoc]

theorem merge_self (ha : a.Sorted) : a.merge a = a :=
  (ha.merge a).ext ha fun name => by rw [get?_merge ha, Option.or_self]

end Json.Members

namespace Options

theorem merge_assoc (a b c : Options) : (a.merge b).merge c = a.merge (b.merge c) := by
  ext1
  · exact Option.or_assoc.symm
  · exact Json.Members.merge_assoc a.sorted b.sorted c.sorted

theorem merge_self (a : Options) : a.merge a = a := by
  ext1
  · exact Option.or_self
  · exact Json.Members.merge_self a.sorted

/-- Options can be merged among themselves first. -/
theorem foldl_merge (a : Options) (os : List Options) :
    os.foldl merge a = a.merge (os.foldl merge {}) := by
  induction os using List.reverseRecOn with
  | nil => exact a.merge_empty.symm
  | append_singleton os o ih =>
    rw [List.foldl_append, List.foldl_append, List.foldl_cons, List.foldl_nil, List.foldl_cons,
      List.foldl_nil, ih, merge_assoc]

/-- Options that were merged over others still win when they are merged over them again. -/
theorem merge_foldl (a : Options) (os : List Options) :
    a.merge (os.foldl merge a) = os.foldl merge a := by
  induction os using List.reverseRecOn with
  | nil => exact a.merge_self
  | append_singleton os o ih =>
    rw [List.foldl_append, List.foldl_cons, List.foldl_nil, ← merge_assoc, ih]

end Options

end OrderedLexer
