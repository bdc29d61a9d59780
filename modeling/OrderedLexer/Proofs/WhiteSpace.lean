/-
  White space.

  * No white space is a letter or a number (`isAlphabetic_of_isWhiteSpace`,
    `isNumeric_of_isWhiteSpace`).  Outside ASCII this is read off the tables: looking a code point up
    in a table of runs is counting the runs that end before it (`contains_ofTable`,
    `get?_ofTable`).
  * A text is its trimmed form with white space around it, and whatever has white space around it
    and neither starts nor ends with white space is the trimmed form (`exists_trim`, `trim_eq`).
-/
import OrderedLexer.Expr.Lexeme
import Mathlib.Data.List.DropRight
import Mathlib.Data.List.TakeWhile

namespace OrderedLexer.Text

/-! ## Looking a code point up -/

theorem rankFrom_eq {a : Array Nat} {n k lo hi : Nat} (hlo : lo ≤ k) (hhi : k ≤ hi)
    (h : ∀ i, i < hi → (a.getD i 0 ≤ n ↔ i < k)) : rankFrom a n lo hi = k := by
  fun_induction rankFrom a n lo hi with
  | case1 lo hi hlt mid hle ih =>
    have hmid : mid < k := (h mid (by omega)).1 hle
    exact ih hmid hhi h
  | case2 lo hi hlt mid hle ih =>
    have hmid : k ≤ mid := Nat.le_of_not_lt fun hk => hle ((h mid (by omega)).2 hk)
    exact ih hlo hmid fun i hi' => h i (by omega)
  | case3 lo hi hlt => omega

/-- In a sorted list the entries at most `n` are those before the first larger one. -/
theorem getElem_le_iff {l : List Nat} (hl : l.Pairwise (· ≤ ·)) {n i : Nat} (hi : i < l.length) :
    l[i] ≤ n ↔ i < (l.takeWhile (· ≤ n)).length := by
  induction l generalizing i with
  | nil => simp at hi
  | cons a l ih =>
    obtain ⟨ha, hl⟩ := List.pairwise_cons.1 hl
    by_cases han : a ≤ n
    · cases i with
      | zero => simp [han]
      | succ i => simpa [han] using ih hl (by simpa using hi)
    · have hlt : ∀ b ∈ a :: l, ¬b ≤ n := by
        intro b hb
        rcases List.mem_cons.1 hb with rfl | hb
        · exact han
        · exact fun hbn => han (Nat.le_trans (ha b hb) hbn)
      simp [han, hlt _ (List.getElem_mem hi)]

theorem rank_toArray {l : List Nat} (hl : l.Pairwise (· ≤ ·)) (n : Nat) :
    rank l.toArray n = (l.takeWhile (· ≤ n)).length := by
  refine rankFrom_eq (Nat.zero_le _) ?_ fun i hi => ?_
  · simpa using (List.takeWhile_prefix _).length_le
  · have hi' : i < l.length := by simpa using hi
    rw [Array.getD_eq_getD_getElem?, List.getElem?_toArray, List.getElem?_eq_getElem hi']
    exact getElem_le_iff hl hi'

theorem pairwise_totals (start : Nat) (ns : List Nat) :
    (start :: totals start ns).Pairwise (· ≤ ·) := by
  induction ns generalizing start with
  | nil => exact List.pairwise_singleton _ _
  | cons n ns ih =>
    have h := ih (start + n)
    refine List.pairwise_cons.2 ⟨fun m hm => ?_, h⟩
    rcases List.mem_cons.1 hm with rfl | hm
    · exact Nat.le_add_right _ _
    · exact Nat.le_trans (Nat.le_add_right _ _) ((List.pairwise_cons.1 h).1 m hm)

/-- The number of runs that end at or before a code point. -/
def runsBefore (n : Nat) (lengths : List Nat) : Nat :=
  ((totals 0 lengths).takeWhile (· ≤ n)).length

/-- The words of lines that are given by their characters. -/
def lineWords (lines : List (List Char)) : List (List Char) :=
  lines.flatMap fun line => (line.splitOn ' ').filter (!·.isEmpty)

/-- The lengths of runs in lines. -/
def lineNumbers (lines : List (List Char)) : List Nat :=
  (lineWords lines).map fun w => (ofHex? w).getD 0

/-- The runs of a labelling in lines, with the texts of their labels. -/
def lineRuns (lines : List (List Char)) : List (Nat × List Char) :=
  (lineWords lines).map (Labels.splitWord id)

/-- The label of the run of a code point. -/
def labelAt? (n : Nat) (runs : List (Nat × List Char)) : Option (List Char) :=
  runs[runsBefore n (runs.map Prod.fst)]?.map Prod.snd

theorem tableWords_eq (lines : List String) :
    tableWords lines = lineWords (lines.map String.toList) := by
  rw [tableWords, lineWords, List.flatMap_map]

theorem contains_ofTable (lines : List String) (c : Char) :
    (Runs.ofTable lines).contains c =
      (runsBefore c.toNat (lineNumbers (lines.map String.toList)) % 2 == 1) := by
  rw [lineNumbers, ← tableWords_eq]
  exact congrArg (fun k => k % 2 == 1)
    (rank_toArray (List.pairwise_cons.1 (pairwise_totals 0 _)).2 c.toNat)

theorem get?_ofTable {α : Type} (label : List Char → α) (lines : List String) (c : Char) :
    (Labels.ofTable label lines).get? c =
      (labelAt? c.toNat (lineRuns (lines.map String.toList))).map label := by
  have hrank := rank_toArray (pairwise_totals 0
    ((tableWords lines).map ((Prod.fst ∘ Labels.splitWord label)))) c.toNat
  rw [List.takeWhile_cons_of_pos (by simp), List.length_cons] at hrank
  simp only [Labels.get?, Labels.ofTable, List.map_map, hrank, labelAt?, lineRuns, ← tableWords_eq]
  simp [runsBefore, Labels.splitWord, Function.comp_def]

/-! ## White space in the tables -/

/-- White space in ASCII. -/
def narrowSpaces : List Nat := [0x09, 0x0A, 0x0B, 0x0C, 0x0D, 0x20]

/-- White space outside ASCII. -/
def wideSpaces : List Nat := [
  0x85, 0xA0, 0x1680, 0x2000, 0x2001, 0x2002, 0x2003, 0x2004, 0x2005, 0x2006, 0x2007, 0x2008,
  0x2009, 0x200A, 0x2028, 0x2029, 0x202F, 0x205F, 0x3000]

theorem mem_spaces {c : Char} (h : isWhiteSpace c = true) :
    c.toNat ∈ narrowSpaces ∨ c.toNat ∈ wideSpaces := by
  simp only [isWhiteSpace, Bool.or_eq_true, Bool.and_eq_true, decide_eq_true_eq, beq_iff_eq] at h
  simp only [narrowSpaces, wideSpaces, List.mem_cons, List.not_mem_nil]
  omega

/-- What holds of the six characters by computation holds of all white space in ASCII. -/
theorem of_mem_narrowSpaces {P : Char → Prop} (hp : ∀ n ∈ narrowSpaces, P (Char.ofNat n)) {c : Char}
    (h : c.toNat ∈ narrowSpaces) : P c :=
  Char.ofNat_toNat c ▸ hp _ h

theorem le_of_mem_wideSpaces {n : Nat} (h : n ∈ wideSpaces) : ¬n < 0x80 := by
  have hall : ∀ n ∈ wideSpaces, ¬n < 0x80 := by decide
  exact hall n h

/-- A table is checked on the characters of its lines.  The kernel takes a literal apart into its
    characters at once, but computes `String.toList` of it slowly, so the lines are replaced one by
    one. -/
theorem exists_lines_cons {line : String} {cs : List Char} {lines : List String}
    {P : List (List Char) → Prop} (h : line.toList = cs)
    (hrest : ∃ css, lines.map String.toList = css ∧ P (cs :: css)) :
    ∃ css, (line :: lines).map String.toList = css ∧ P css := by
  obtain ⟨css, hcss, hp⟩ := hrest
  exact ⟨cs :: css, by rw [List.map_cons, h, hcss], hp⟩

theorem alphabeticTable_wideSpaces : ∃ css, alphabeticTable.map String.toList = css ∧
    ∀ n ∈ wideSpaces, runsBefore n (lineNumbers css) % 2 = 0 := by
  dsimp only [alphabeticTable]
  repeat refine exists_lines_cons String.toList_ofList ?_
  exact ⟨_, rfl, by decide +kernel⟩

/-- The labels of white space outside ASCII. -/
def spaceLabels : List (List Char) := [['Z', 's'], ['Z', 'l'], ['Z', 'p'], ['C', 'c']]

theorem categoryTable_wideSpaces : ∃ css, categoryTable.map String.toList = css ∧
    ∀ n ∈ wideSpaces, ((labelAt? n (lineRuns css)).any spaceLabels.contains) = true := by
  dsimp only [categoryTable]
  repeat refine exists_lines_cons String.toList_ofList ?_
  exact ⟨_, rfl, by decide +kernel⟩

/-- The categories of numbers. -/
def numberCategories : List Category := [.decimalNumber, .letterNumber, .otherNumber]

theorem ofLabel_not_mem_numberCategories :
    ∀ label ∈ spaceLabels, numberCategories.contains (Category.ofLabel label) = false := by
  decide +kernel

/-! ## White space is neither a letter nor a number -/

theorem isAlphabetic_of_isWhiteSpace {c : Char} (h : isWhiteSpace c = true) :
    isAlphabetic c = false := by
  rcases mem_spaces h with hc | hc
  · exact of_mem_narrowSpaces (P := fun c => isAlphabetic c = false) (by decide) hc
  · obtain ⟨css, hcss, hall⟩ := alphabeticTable_wideSpaces
    rw [isAlphabetic, if_neg (le_of_mem_wideSpaces hc), alphabeticRuns, contains_ofTable, hcss,
      hall _ hc]
    rfl

theorem isNumeric_of_isWhiteSpace {c : Char} (h : isWhiteSpace c = true) :
    isNumeric c = false := by
  rcases mem_spaces h with hc | hc
  · exact of_mem_narrowSpaces (P := fun c => isNumeric c = false) (by decide) hc
  · obtain ⟨css, hcss, hall⟩ := categoryTable_wideSpaces
    obtain ⟨label, hget, hlabel⟩ := (Option.any_eq_true _ _).1 (hall _ hc)
    have hcategory : category c = Category.ofLabel label := by
      rw [category, if_neg (le_of_mem_wideSpaces hc), categoryLabels, get?_ofTable, hcss, hget]
      rfl
    rw [isNumeric, if_neg (le_of_mem_wideSpaces hc), hcategory]
    exact ofLabel_not_mem_numberCategories _ (List.contains_iff_mem.1 hlabel)

/-! ## The end of a class -/

section

variable {p : Char → Bool} {cs ds : List Char}

theorem head?_dropWhile {c : Char} (h : c ∈ (cs.dropWhile p).head?) : p c = false := by
  have hnot := List.head?_dropWhile_not p cs
  rwa [Option.mem_def.1 h] at hnot

theorem takeWhile_append_of_head? (hds : ∀ d ∈ ds, p d = true)
    (hend : ∀ c ∈ cs.head?, p c = false) : (ds ++ cs).takeWhile p = ds := by
  rw [List.takeWhile_append_of_pos hds]
  cases cs with
  | nil => simp
  | cons c cs => simp [hend c rfl]

theorem dropWhile_append_of_head? (hds : ∀ d ∈ ds, p d = true)
    (hend : ∀ c ∈ cs.head?, p c = false) : (ds ++ cs).dropWhile p = cs := by
  rw [List.dropWhile_append_of_pos hds]
  cases cs with
  | nil => rfl
  | cons c cs => simp [hend c rfl]

end

/-! ## Trimmed texts -/

/-- A text that is nothing but white space. -/
def Blank (cs : List Char) : Prop := ∀ c ∈ cs, isWhiteSpace c = true

instance (cs : List Char) : Decidable (Blank cs) := List.decidableBAll _ cs

/-- A text that holds no white space. -/
def NoSpace (cs : List Char) : Prop := ∀ c ∈ cs, isWhiteSpace c = false

instance (cs : List Char) : Decidable (NoSpace cs) := List.decidableBAll _ cs

/-- A text that neither starts nor ends with white space. -/
structure Trimmed (cs : List Char) : Prop where
  start : ∀ c ∈ cs.head?, isWhiteSpace c = false
  stop : ∀ c ∈ cs.getLast?, isWhiteSpace c = false

theorem trimStart_eq {u m : List Char} (hu : Blank u)
    (hm : ∀ c ∈ m.head?, isWhiteSpace c = false) : trimStart (u ++ m) = m :=
  dropWhile_append_of_head? hu hm

theorem trimEnd_eq {m v : List Char} (hv : Blank v)
    (hm : ∀ c ∈ m.getLast?, isWhiteSpace c = false) : trimEnd (m ++ v) = m := by
  have hrev : trimStart (v.reverse ++ m.reverse) = m.reverse :=
    trimStart_eq (fun c hc => hv c (List.mem_reverse.1 hc)) (by simpa using hm)
  rw [trimEnd, List.reverse_append]
  exact List.reverse_eq_iff.2 hrev

/-- The part of a text between white space is its trimmed form. -/
theorem trim_eq {u m v : List Char} (hu : Blank u) (hm : Trimmed m) (hv : Blank v) :
    trim (u ++ m ++ v) = m := by
  cases m with
  | nil =>
    have hblank : Blank (u ++ v) := List.forall_mem_append.2 ⟨hu, hv⟩
    rw [List.append_nil, ← List.append_nil (u ++ v), trim, trimStart_eq hblank (by simp)]
    rfl
  | cons c m =>
    have hstart : trimStart (u ++ (c :: m ++ v)) = c :: m ++ v := trimStart_eq hu hm.start
    rw [List.append_assoc, trim, hstart, trimEnd_eq hv hm.stop]

theorem getLast?_trimEnd {cs : List Char} {c : Char} (h : c ∈ (trimEnd cs).getLast?) :
    isWhiteSpace c = false := by
  rw [trimEnd, List.getLast?_reverse] at h
  exact head?_dropWhile h

theorem exists_trim (cs : List Char) :
    ∃ u v, cs = u ++ trim cs ++ v ∧ Blank u ∧ Trimmed (trim cs) ∧ Blank v := by
  have hsplit : trim cs ++ (trimStart cs).rtakeWhile isWhiteSpace = trimStart cs :=
    List.rdropWhile_append_rtakeWhile
  refine ⟨cs.takeWhile isWhiteSpace, (trimStart cs).rtakeWhile isWhiteSpace, ?_,
    fun c hc => List.mem_takeWhile_imp hc, ⟨fun c hc => ?_, fun c hc => getLast?_trimEnd hc⟩,
    fun c hc => List.mem_rtakeWhile_imp hc⟩
  · rw [List.append_assoc, hsplit]
    exact List.takeWhile_append_dropWhile.symm
  · have hhead : c ∈ (trimStart cs).head? := by
      rw [← hsplit, List.head?_append, Option.mem_def.1 hc]
      rfl
    exact head?_dropWhile hhead

theorem NoSpace.trimmed {cs : List Char} (h : NoSpace cs) : Trimmed cs :=
  ⟨fun c hc => h c (List.mem_of_head? hc), fun c hc => h c (List.mem_of_getLast? hc)⟩

theorem Trimmed.cons_append {c : Char} {cs m : List Char} (hm : Trimmed m) (hne : m ≠ [])
    (hc : isWhiteSpace c = false) : Trimmed (c :: (cs ++ m)) := by
  refine ⟨by simpa using hc, fun d hd => hm.stop d ?_⟩
  obtain ⟨l, e, rfl⟩ := List.eq_nil_or_concat m |>.resolve_left hne
  simpa [List.getLast?_cons, List.getLast?_append] using hd

theorem trimmed_trim (cs : List Char) : Trimmed (trim cs) :=
  let ⟨_, _, _, _, h, _⟩ := exists_trim cs
  h

theorem Trimmed.trim_eq {cs : List Char} (h : Trimmed cs) : trim cs = cs := by
  simpa using Text.trim_eq (u := []) (v := []) (by simp [Blank]) h (by simp [Blank])

end OrderedLexer.Text
