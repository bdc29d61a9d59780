/-
  Slices in words.

  The bounds of a slice and the number of characters of a text are words of 64 bits with a sign, and
  places in a text are words without one.  Three steps can leave the words: a bound with a minus sign
  is negated, a negative bound is added to the number of characters, and one place is taken from
  another one.

  * `Words.bound?` and `Words.slice?` read a bound and cut a slice in words, and give `none` as soon as
    one of these steps leaves them.  This never happens, and what they give is what `Reader.bound` and
    `slice` give (`bound?_eq`, `slice?_eq`);
  * the bounds that bodies have are the integers of magnitude up to `maxBound` (`exists_body_iff`);
  * a slice is made of the characters whose places lie between its bounds (`slice_eq_between`), and
    the two slices on the sides of one bound make the text (`slice_append_slice`).
-/
import OrderedLexer.Proofs.Lexing

namespace OrderedLexer.Expr

/-! ## Places of bounds -/

/-- The place that a bound names in a text of length `len`: a negative one counts from the end, and
    what lies outside of the text is moved to its nearer end. -/
def place (len : Nat) (i : Int) : Int := max 0 (min (if i < 0 then len + i else i) len)

/-- The place where a slice ends; without a second bound, the end of the text. -/
def stopPlace (len : Nat) (stop : Option Int) : Int := stop.elim len (place len)

/-- The characters whose places are at least `lo` and less than `hi`. -/
def between (cs : List Char) (lo hi : Int) : List Char :=
  (cs.zipIdx.filter fun p => lo ≤ p.2 ∧ p.2 < hi).map Prod.fst

/-- The index where a slice ends. -/
def stopIndex (len : Nat) (stop : Option Int) : Nat := stop.elim len (clampIndex len)

variable {cs : List Char} {start i n : Int} {stop : Option Int} {len : Nat}

theorem slice_eq (cs : List Char) (start : Int) (stop : Option Int) : slice cs start stop =
    (cs.drop (clampIndex cs.length start)).take
      (stopIndex cs.length stop - clampIndex cs.length start) := by
  cases stop <;> rfl

theorem clampIndex_le (len : Nat) (i : Int) : clampIndex len i ≤ len := Nat.min_le_right ..

theorem clampIndex_eq_place (len : Nat) (i : Int) : (clampIndex len i : Int) = place len i := by
  rw [clampIndex, place]
  omega

theorem clampIndex_self (len : Nat) : clampIndex len len = len := by
  rw [clampIndex]
  omega

theorem stopIndex_le (len : Nat) (stop : Option Int) : stopIndex len stop ≤ len := by
  cases stop with
  | none => exact le_rfl
  | some i => exact clampIndex_le len i

theorem stopIndex_eq_stopPlace (len : Nat) (stop : Option Int) :
    (stopIndex len stop : Int) = stopPlace len stop := by
  cases stop with
  | none => rfl
  | some i => exact clampIndex_eq_place len i

/-- Characters that are counted from `k` on. -/
theorem filter_zipIdx (cs : List Char) (k lo hi : Nat) :
    ((cs.zipIdx k).filter fun p => (lo : Int) ≤ p.2 ∧ (p.2 : Int) < hi).map Prod.fst =
      (cs.drop (lo - k)).take (hi - max lo k) := by
  induction cs generalizing k with
  | nil => simp
  | cons c cs ih =>
    rw [List.zipIdx_cons, List.filter_cons]
    by_cases hlo : lo ≤ k
    · have hnext : lo - (k + 1) = 0 := by omega
      rw [Nat.sub_eq_zero_of_le hlo, Nat.max_eq_right hlo, List.drop_zero]
      by_cases hhi : k < hi
      · have hcount : hi - k = hi - max lo (k + 1) + 1 := by omega
        rw [if_pos (by simp; omega), List.map_cons, ih, hcount, List.take_succ_cons, hnext,
          List.drop_zero]
      · have hcount : hi - k = 0 := by omega
        have hnone : hi - max lo (k + 1) = 0 := by omega
        rw [if_neg (by simp; omega), ih, hcount, hnone, List.take_zero, List.take_zero]
    · have hdrop : lo - k = lo - (k + 1) + 1 := by omega
      have hmax : max lo k = max lo (k + 1) := by omega
      rw [if_neg (by simp; omega), ih, hdrop, hmax, List.drop_succ_cons]

/-- A slice is made of the characters whose places lie between its bounds. -/
theorem slice_eq_between (cs : List Char) (start : Int) (stop : Option Int) :
    slice cs start stop = between cs (place cs.length start) (stopPlace cs.length stop) := by
  have hfilter := filter_zipIdx cs 0 (clampIndex cs.length start) (stopIndex cs.length stop)
  rw [clampIndex_eq_place, stopIndex_eq_stopPlace, Nat.sub_zero, Nat.max_zero] at hfilter
  rw [slice_eq, between, hfilter]

/-- An inverted range is empty. -/
theorem slice_eq_nil (h : stopPlace cs.length stop ≤ place cs.length start) :
    slice cs start stop = [] := by
  rw [← stopIndex_eq_stopPlace, ← clampIndex_eq_place, Int.ofNat_le] at h
  rw [slice_eq, Nat.sub_eq_zero_of_le h, List.take_zero]

/-- The slices on the two sides of a bound make the text. -/
theorem slice_append_slice (cs : List Char) (i : Int) :
    slice cs 0 (some i) ++ slice cs i none = cs := by
  have hleft : slice cs 0 (some i) = cs.take (clampIndex cs.length i) := by
    have hzero : clampIndex cs.length 0 = 0 := Nat.zero_min _
    rw [slice_eq, hzero, List.drop_zero, Nat.sub_zero]
    rfl
  have hright : slice cs i none = cs.drop (clampIndex cs.length i) := by
    rw [slice_eq]
    exact List.take_of_length_le (List.length_drop ..).le
  rw [hleft, hright, List.take_append_drop]

/-! ## Words -/

namespace Words

/-- Whether an integer is a word. -/
def IsWord (n : Int) : Prop := Int64.minValue.toInt ≤ n ∧ n ≤ Int64.maxValue.toInt

instance (n : Int) : Decidable (IsWord n) := inferInstanceAs (Decidable (_ ∧ _))

/-- The word of an integer, if it is one. -/
def ofInt? (n : Int) : Option Int64 := if IsWord n then some (.ofInt n) else none

/-- The sum of two words, if it is one. -/
def add? (x y : Int64) : Option Int64 := if IsWord (x.toInt + y.toInt) then some (x + y) else none

/-- The negation of a word, if it is one. -/
def neg? (x : Int64) : Option Int64 := if IsWord (-x.toInt) then some (-x) else none

/-- The difference of two words without a sign, if it is one. -/
def sub? (x y : UInt64) : Option UInt64 := if y ≤ x then some (x - y) else none

/-- The word between two others that is nearest to a word, if there is one between them. -/
def clamp? (x lo hi : Int64) : Option Int64 :=
  if lo ≤ hi then some (if x < lo then lo else if hi < x then hi else x) else none

/-- A word without its sign; zero for a negative one. -/
def index (x : Int64) : UInt64 := if x < 0 then 0 else x.toUInt64

/-- The number of characters of a text, or the greatest word. -/
def count (cs : List Char) : Int64 := (ofInt? cs.length).getD Int64.maxValue

/-- A bound counted from the start; a negative one counts from the end. -/
def fromStart? (len i : Int64) : Option Int64 := if i < 0 then add? len i else some i

/-- The place that a bound names in a text of some length. -/
def place? (len i : Int64) : Option UInt64 := do
  let i ← fromStart? len i
  let i ← clamp? i 0 len
  return index i

/-- The characters from a place up to another one. -/
def cut? (cs : List Char) (lo hi : UInt64) : Option (List Char) :=
  if hi ≤ lo then some [] else (sub? hi lo).map fun n => (cs.drop lo.toNat).take n.toNat

/-- The characters from a bound up to another one. -/
def slice? (cs : List Char) (start : Int64) (stop : Option Int64) : Option (List Char) := do
  let len := count cs
  let lo ← place? len start
  let hi ← place? len (stop.getD len)
  cut? cs lo hi

/-- A bound of a slice. -/
def bound? (stop : Nat) (ts : List Placed) : Option (Result Int64) :=
  let negative := (Reader.eat? '-' ts).isSome
  let ts := (Reader.eat? '-' ts).getD ts
  match ts with
  | ⟨column, .int n⟩ :: r =>
    match ofInt? n with
    | none => some (.error ⟨column, .integerOverflow⟩)
    | some w => (if negative then neg? w else some w).map fun w => .ok (w, r)
  | _ => some (.error (Reader.unexpected stop .integer ts))

variable {m : Int}

theorem isWord_iff : IsWord n ↔ -0x8000000000000000 ≤ n ∧ n ≤ 0x7FFFFFFFFFFFFFFF := Iff.rfl

theorem isWord_of_natAbs (h : n.natAbs ≤ maxBound) : IsWord n := by
  rw [maxBound] at h
  rw [isWord_iff]
  omega

theorem isWord_natCast : IsWord len ↔ len ≤ maxBound := by
  rw [isWord_iff, maxBound]
  omega

theorem toInt_ofInt (h : IsWord n) : (Int64.ofInt n).toInt = n := by
  rw [isWord_iff] at h
  exact Int64.toInt_ofInt_of_le (by omega) (by omega)

theorem ofInt_lt_ofInt (hm : IsWord m) (hn : IsWord n) : Int64.ofInt m < Int64.ofInt n ↔ m < n := by
  rw [Int64.lt_iff_toInt_lt, toInt_ofInt hm, toInt_ofInt hn]

theorem ofInt_le_ofInt (hm : IsWord m) (hn : IsWord n) : Int64.ofInt m ≤ Int64.ofInt n ↔ m ≤ n := by
  rw [Int64.le_iff_toInt_le, toInt_ofInt hm, toInt_ofInt hn]

theorem isWord_zero : IsWord 0 := by decide

theorem ofInt_lt_zero (hn : IsWord n) : Int64.ofInt n < 0 ↔ n < 0 := ofInt_lt_ofInt hn isWord_zero

theorem add?_ofInt (hm : IsWord m) (hn : IsWord n) (h : IsWord (m + n)) :
    add? (.ofInt m) (.ofInt n) = some (.ofInt (m + n)) := by
  rw [add?, toInt_ofInt hm, toInt_ofInt hn, if_pos h, Int64.ofInt_add]

theorem neg?_ofInt (hn : IsWord n) (h : IsWord (-n)) : neg? (.ofInt n) = some (.ofInt (-n)) := by
  rw [neg?, toInt_ofInt hn, if_pos h, Int64.ofInt_neg]

theorem clamp?_ofInt {lo hi : Int} (hn : IsWord n) (hlo : IsWord lo) (hhi : IsWord hi)
    (h : lo ≤ hi) : clamp? (.ofInt n) (.ofInt lo) (.ofInt hi) = some (.ofInt (max lo (min n hi))) := by
  rw [clamp?, if_pos ((ofInt_le_ofInt hlo hhi).2 h)]
  simp only [ofInt_lt_ofInt hn hlo, ofInt_lt_ofInt hhi hn]
  congr 1
  split_ifs
  · congr 1; omega
  · congr 1; omega
  · congr 1; omega

theorem index_ofInt (h : len ≤ maxBound) : index (.ofInt len) = .ofNat len := by
  have hword := isWord_natCast.2 h
  have hsign : ¬(len : Int) < 0 := by omega
  have hle : (0 : Int64) ≤ .ofInt len := (ofInt_le_ofInt isWord_zero hword).2 (by omega)
  rw [index, if_neg fun hlt => hsign ((ofInt_lt_zero hword).1 hlt)]
  apply UInt64.toNat.inj
  rw [Int64.toNat_toUInt64_of_le hle, Int64.toNatClampNeg, toInt_ofInt hword, UInt64.toNat_ofNat']
  rw [maxBound] at h
  omega

/-! ## Reading bounds -/

/-- No bound leaves the words when its sign is read. -/
theorem bound?_eq (stop : Nat) (ts : List Placed) :
    bound? stop ts = some ((Reader.bound stop ts).map fun (n, r) => (.ofInt n, r)) := by
  unfold bound? Reader.bound
  dsimp only
  generalize (Reader.eat? '-' ts).getD ts = us
  rcases us with _ | ⟨⟨column, str | n | ident | punct⟩, r⟩
  case cons.int =>
    by_cases hn : maxBound < n
    · have hword : ¬IsWord n := mt isWord_natCast.1 (Nat.not_le.2 hn)
      simp only [ofInt?, if_neg hword, if_pos hn, Except.map]
    · have hle : (n : Int).natAbs ≤ maxBound := Nat.le_of_not_lt hn
      have hword := isWord_of_natAbs hle
      have hneg := isWord_of_natAbs ((Int.natAbs_neg n).trans_le hle)
      simp only [ofInt?, if_pos hword, if_neg hn, neg?_ofInt hword hneg, Except.map]
      cases Reader.eat? '-' ts <;> rfl
  all_goals rfl

/-! ## Cutting slices -/

/-- No sum leaves the words when a bound is placed. -/
theorem place?_eq (hlen : len ≤ maxBound) (hi : i.natAbs ≤ maxBound) :
    place? (.ofInt len) (.ofInt i) = some (.ofNat (clampIndex len i)) := by
  have hwlen := isWord_natCast.2 hlen
  have hwi := isWord_of_natAbs hi
  have hfrom : IsWord (if i < 0 then len + i else i) := by
    rw [maxBound] at hlen hi
    rw [isWord_iff]
    split <;> omega
  have hstart : fromStart? (.ofInt len) (.ofInt i) = some (.ofInt (if i < 0 then len + i else i)) := by
    rw [fromStart?]
    simp only [ofInt_lt_zero hwi]
    split_ifs with hneg
    · rw [if_pos hneg] at hfrom
      exact add?_ofInt hwlen hwi hfrom
    · rfl
  have hplace : clamp? (.ofInt (if i < 0 then len + i else i)) 0 (.ofInt len) =
      some (.ofInt (clampIndex len i : Nat)) :=
    (clamp?_ofInt hfrom isWord_zero hwlen (by omega)).trans (by rw [clampIndex_eq_place]; rfl)
  simp only [place?, hstart, hplace, Option.bind_eq_bind, Option.bind_some, Option.pure_def,
    index_ofInt ((clampIndex_le len i).trans hlen)]

theorem count_eq (cs : List Char) : count cs = .ofInt (cs.take maxBound).length := by
  rw [count, ofInt?, List.length_take]
  by_cases h : cs.length ≤ maxBound
  · rw [if_pos (isWord_natCast.2 h), Option.getD_some, Nat.min_eq_right h]
  · rw [if_neg (mt isWord_natCast.1 h), Option.getD_none, Nat.min_eq_left (Nat.le_of_not_le h)]
    rfl

theorem toNat_ofNat (h : len ≤ maxBound) : (UInt64.ofNat len).toNat = len := by
  rw [maxBound] at h
  rw [UInt64.toNat_ofNat']
  omega

/-- No difference leaves the words when characters are taken. -/
theorem cut?_ofNat {lo hi : Nat} (hlo : lo ≤ maxBound) (hhi : hi ≤ maxBound) (cs : List Char) :
    cut? cs (.ofNat lo) (.ofNat hi) = some ((cs.drop lo).take (hi - lo)) := by
  have hle {x y : Nat} (hx : x ≤ maxBound) (hy : y ≤ maxBound) :
      UInt64.ofNat x ≤ UInt64.ofNat y ↔ x ≤ y := by
    rw [UInt64.le_iff_toNat_le, toNat_ofNat hx, toNat_ofNat hy]
  by_cases h : hi ≤ lo
  · rw [cut?, if_pos ((hle hhi hlo).2 h), Nat.sub_eq_zero_of_le h, List.take_zero]
  · have hsub : UInt64.ofNat lo ≤ UInt64.ofNat hi := (hle hlo hhi).2 (by omega)
    rw [cut?, if_neg (fun hc => h ((hle hhi hlo).1 hc)), sub?, if_pos hsub, Option.map_some,
      UInt64.toNat_sub_of_le _ _ hsub, toNat_ofNat hlo, toNat_ofNat hhi]

/-- No step leaves the words when a slice is cut.  Of a text that is too long to be counted, only the
    characters up to the greatest word are looked at. -/
theorem slice?_eq (cs : List Char) (hstart : start.natAbs ≤ maxBound)
    (hstop : ∀ n ∈ stop, n.natAbs ≤ maxBound) :
    slice? cs (.ofInt start) (stop.map .ofInt) = some (slice (cs.take maxBound) start stop) := by
  have hlen : (cs.take maxBound).length ≤ maxBound := List.length_take_le ..
  have hself : Int.natAbs (cs.take maxBound).length ≤ maxBound := hlen
  have hend : place? (.ofInt (cs.take maxBound).length)
      ((stop.map Int64.ofInt).getD (.ofInt (cs.take maxBound).length)) =
      some (.ofNat (stopIndex (cs.take maxBound).length stop)) := by
    cases stop with
    | none =>
      rw [Option.map_none, Option.getD_none, place?_eq hlen hself, clampIndex_self]
      rfl
    | some n => exact place?_eq hlen (hstop n rfl)
  have hlo := (clampIndex_le (cs.take maxBound).length start).trans hlen
  have hhi := (stopIndex_le (cs.take maxBound).length stop).trans hlen
  simp only [slice?, count_eq, place?_eq hlen hstart, hend, Option.bind_eq_bind, Option.bind_some,
    cut?_ofNat hlo hhi]
  -- the end of the slice lies in the part of the text that is counted
  rw [slice_eq, List.drop_take, List.take_take, Nat.min_eq_left (Nat.sub_le_sub_right hhi _)]

end Words

/-! ## Bounds of bodies -/

mutual

/-- The bounds of the slices in a term. -/
def Term.bounds : Term → List Int
  | .text => []
  | .literal _ => []
  | .concat parts => boundsAll parts
  | .slice base start stop => start :: (stop.toList ++ base.bounds)
  | .trim base => base.bounds
  | .upper base => base.bounds
  | .lower base => base.bounds

/-- The bounds of the slices in some terms. -/
def boundsAll : List Term → List Int
  | [] => []
  | t :: ts => t.bounds ++ boundsAll ts

end

/-- The bounds of the slices in a body. -/
def Body.bounds : Body → List Int
  | .null => []
  | .type kind => kind.bounds
  | .pair value kind => value.bounds ++ kind.bounds

/-- Bounds of a magnitude that is read. -/
def Fit (is : List Int) : Prop := ∀ i ∈ is, i.natAbs ≤ maxBound

theorem fit_append {is js : List Int} : Fit (is ++ js) ↔ Fit is ∧ Fit js := List.forall_mem_append

namespace Grammar

variable {ls : List Lexeme} {t : Term} {f : Term → Term}

theorem IsBound.natAbs_le (h : IsBound ls n) : n.natAbs ≤ maxBound := by
  cases h with
  | plain fits => exact fits
  | minus fits => exact (Int.natAbs_neg _).trans_le fits

theorem IsMethod.fit (h : IsMethod ls f) (ht : Fit t.bounds) : Fit (f t).bounds := by
  cases h with
  | sliceFrom lo => exact List.forall_mem_cons.2 ⟨lo.natAbs_le, ht⟩
  | slice lo hi =>
    exact List.forall_mem_cons.2 ⟨lo.natAbs_le, List.forall_mem_cons.2 ⟨hi.natAbs_le, ht⟩⟩
  | trim | upper | lower => exact ht

theorem IsMethods.fit (h : IsMethods ls f) (ht : Fit t.bounds) : Fit (f t).bounds := by
  induction h generalizing t with
  | nil => exact ht
  | cons method _ ih => exact ih (method.fit ht)

theorem IsValue.fit (h : IsValue ls t) : Fit t.bounds := by
  -- atoms, terms, summands and values derive each other
  refine @IsValue.rec (fun _ t _ => Fit t.bounds) (fun _ t _ => Fit t.bounds)
    (fun _ ts _ => Fit (boundsAll ts)) (fun _ t _ => Fit t.bounds)
    ?str ?text ?yytext ?label ?group ?term ?nil ?cons ?single ?sum ls t h
  case str | label => intros; exact List.forall_mem_nil _
  case text | yytext | nil => exact List.forall_mem_nil _
  case group => exact fun _ ih => ih
  case term => exact fun _ methods ih => methods.fit ih
  case cons => exact fun _ _ ihterm ihmore => fit_append.2 ⟨ihterm, ihmore⟩
  case single => exact fun _ ih => ih
  case sum => exact fun _ _ _ ihterm ihmore => fit_append.2 ⟨ihterm, ihmore⟩

theorem IsResult.fit {b : Body} (h : IsResult ls b) : Fit b.bounds := by
  cases h with
  | missing | null | undefined => exact List.forall_mem_nil _
  | pair value kind => exact fit_append.2 ⟨value.fit, kind.fit⟩
  | type value => exact value.fit

theorem IsInner.fit {b : Body} (h : IsInner ls b) : Fit b.bounds := by
  cases h with
  | plain _ result | returned result => exact result.fit

theorem IsBody.fit {b : Body} (h : IsBody ls b) : Fit b.bounds := by
  cases h with
  | plain inner | braced inner => exact inner.fit

end Grammar

open Grammar

theorem scans_decimal {column m : Nat} {ts : List Placed} (hm : m ≤ maxBound)
    (hend : ∀ d ∈ cs.head?, Text.isAsciiDigit d = false)
    (h : Scans (column + (Nat.toDigits 10 m).length) cs ts) :
    Scans column (Nat.toDigits 10 m ++ cs) (⟨column, .int m⟩ :: ts) := by
  obtain ⟨c, ds, hds⟩ := List.exists_cons_of_ne_nil (Nat.toDigits_ne_nil (n := m) (b := 10))
  have hdigits : ∀ d ∈ c :: ds, Text.isAsciiDigit d = true := by
    intro d hd
    have hdigit := Nat.isDigit_of_mem_toDigits (by decide) (by decide) (hds ▸ hd)
    simp only [Char.isDigit, Bool.and_eq_true, decide_eq_true_eq] at hdigit
    simp only [Text.isAsciiDigit, Bool.and_eq_true, decide_eq_true_eq]
    exact hdigit
  have hvalue : decimalValue (c :: ds) = m := by
    rw [← hds]
    exact Nat.ofDigitChars_ten_toDigits
  rw [hds] at h ⊢
  obtain ⟨hc, hrest⟩ := List.forall_mem_cons.1 hdigits
  have hscans := Scans.int hc hrest hend (hvalue.trans_le (hm.trans (by decide))) h
  rwa [hvalue] at hscans

/-- A bound as it is written, in front of a closing bracket. -/
theorem exists_scans_bound (h : n.natAbs ≤ maxBound) (column : Nat) :
    ∃ ts ls, Scans column (Json.writeInt n ++ [')']) ts ∧ IsBound ls n ∧
      ts.map Placed.lexeme = ls ++ [.punct ')'] := by
  have hclose (column : Nat) : Scans column [')'] [⟨column, .punct ')'⟩] := .punct (by decide) .nil
  have hend : ∀ d ∈ [')'].head?, Text.isAsciiDigit d = false := by
    rintro _ ⟨⟩
    decide
  cases n with
  | ofNat m =>
    rw [Json.writeInt, Nat.toList_repr]
    exact ⟨_, [.int m], scans_decimal h hend (hclose _), .plain h, rfl⟩
  | negSucc m =>
    rw [Json.writeInt, Nat.toList_repr]
    exact ⟨_, [.punct '-', .int (m + 1)], .punct (by decide) (scans_decimal h hend (hclose _)),
      .minus h, rfl⟩

/-- Every bound of a magnitude that is read stands in some body. -/
theorem exists_body_of_bound (h : n.natAbs ≤ maxBound) :
    ∃ text b, Body.parse text = .ok b ∧ n ∈ b.bounds := by
  obtain ⟨ts, ls, hts, hls, hlexemes⟩ := exists_scans_bound h 12
  have hopen := Scans.punct (show isPunct '(' = true by decide) hts
  have hslice := @Scans.ident 6 's' ['l', 'i', 'c', 'e'] _ _ (by decide)
    (List.all_eq_true.1 (by decide)) (by rintro _ ⟨⟩; decide) hopen
  have hpoint := Scans.punct (show isPunct '.' = true by decide) hslice
  have hscans := @Scans.ident 1 't' ['e', 'x', 't'] _ _ (by decide)
    (List.all_eq_true.1 (by decide)) (by rintro _ ⟨⟩; decide) hpoint
  have hvalue : IsValue (.ident "text" :: .punct '.' :: .ident "slice" :: .punct '(' ::
      (ls ++ [.punct ')'])) (.slice .text n none) := by
    simpa using IsValue.single (.mk .text (.cons (.sliceFrom hls) .nil))
  have hbody := IsBody.plain (.plain (by simp) (.type hvalue (by simp) (by simp)) .absent)
  rw [List.append_nil, ← hlexemes] at hbody
  have hscan := hscans.scan_eq
  rw [← String.toList_ofList (l := _ :: _)] at hscan
  exact ⟨_, _, (parse_eq_ok_iff _ _).2 ⟨_, hscan, hbody⟩, List.mem_cons_self⟩

/-- The bounds that bodies have are the integers of magnitude up to `maxBound`. -/
theorem exists_body_iff (n : Int) :
    (∃ text b, Body.parse text = .ok b ∧ n ∈ b.bounds) ↔ n.natAbs ≤ maxBound := by
  constructor
  · rintro ⟨text, b, hparse, hn⟩
    obtain ⟨ts, -, hbody⟩ := (parse_eq_ok_iff text b).1 hparse
    exact hbody.fit n hn
  · exact exists_body_of_bound

/-! ## Slices -/

/-- **Slices are exact.**  Reading a bound never leaves the words, and the bounds that bodies have are
    the integers of magnitude up to `maxBound`.  For all such bounds, cutting a slice never leaves the
    words either, and gives the slice if the characters of the text can be counted; the slice is made
    of the characters whose places lie between its bounds, and is empty if they are inverted; and the
    slices on the two sides of a bound make the text. -/
theorem slice_exact (cs : List Char) {start : Int} {stop : Option Int}
    (hstart : start.natAbs ≤ maxBound) (hstop : ∀ n ∈ stop, n.natAbs ≤ maxBound) :
    (∀ column ts, Words.bound? column ts =
      some ((Reader.bound column ts).map fun (n, r) => (.ofInt n, r))) ∧
    (∀ n : Int, (∃ text b, Body.parse text = .ok b ∧ n ∈ b.bounds) ↔ n.natAbs ≤ maxBound) ∧
    (Words.slice? cs (.ofInt start) (stop.map .ofInt)).isSome = true ∧
    (cs.length ≤ maxBound →
      Words.slice? cs (.ofInt start) (stop.map .ofInt) = some (slice cs start stop)) ∧
    slice cs start stop = between cs (place cs.length start) (stopPlace cs.length stop) ∧
    (stopPlace cs.length stop ≤ place cs.length start → slice cs start stop = []) ∧
    slice cs 0 (some start) ++ slice cs start none = cs := by
  have hwords := Words.slice?_eq cs hstart hstop
  refine ⟨Words.bound?_eq, exists_body_iff, ?_, fun hlen => ?_, slice_eq_between cs start stop,
    slice_eq_nil, slice_append_slice cs start⟩
  · rw [hwords, Option.isSome_some]
  · rw [hwords, List.take_of_length_le hlen]

theorem slice_exact_greatest :
    (-maxBound : Int).natAbs ≤ maxBound ∧ (∀ n ∈ some (maxBound : Int), n.natAbs ≤ maxBound) ∧
      Words.slice? ['a', 'é', 'b'] (.ofInt (-maxBound)) (some (.ofInt maxBound)) =
        some (slice ['a', 'é', 'b'] (-maxBound) (some maxBound)) ∧
      slice ['a', 'é', 'b'] 0 (some (-maxBound)) ++ slice ['a', 'é', 'b'] (-maxBound) none =
        ['a', 'é', 'b'] := by
  have hstart : (-maxBound : Int).natAbs ≤ maxBound := by decide
  have hstop : ∀ n ∈ some (maxBound : Int), n.natAbs ≤ maxBound := by
    rintro n ⟨⟩
    exact le_rfl
  obtain ⟨-, -, -, hwords, -, -, hparts⟩ := slice_exact ['a', 'é', 'b'] hstart hstop
  exact ⟨hstart, hstop, hwords (by decide), hparts⟩

example : slice ['a', 'é', 'b'] (-2) (some 9) = ['é', 'b'] := by decide

end OrderedLexer.Expr
