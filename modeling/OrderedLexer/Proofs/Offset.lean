/-
  Offsets in an input.

  An offset counts the bytes from the start of an input.  `lineAt`, `lineStartAt` and `columnAt` read
  off the bytes before an offset on which line it lies, where that line starts, and how many
  characters of the line stand before it.

  A tokenizer moves over whole characters.  Behind the first characters of an input, an offset is a
  boundary (`isBoundary_byteSize`), and line, start of line and column follow from the characters
  passed (`lineAt_byteSize`, `lineStartAt_byteSize`, `columnAt_byteSize`): in UTF-8, the byte of a
  newline is part of no other character.
-/
import OrderedLexer.Text.Lines
import Mathlib.Data.List.Induction
import Mathlib.Data.String.Basic

namespace OrderedLexer

open Text (byteSize lastLine)

/-! ## Parts of an input -/

/-- Whether an offset stands between two characters of an input, or at one of its ends. -/
def IsBoundary (input : String) (offset : Nat) : Prop := (String.Pos.Raw.mk offset).IsValid input

/-- The part of an input between two offsets. -/
def slice (input : String) (start stop : Nat) : String :=
  String.Pos.Raw.extract input ⟨start⟩ ⟨stop⟩

theorem utf8Len_eq_byteSize (cs : List Char) : String.utf8Len cs = byteSize cs := by
  induction cs with
  | nil => rfl
  | cons c cs ih => rw [String.utf8Len_cons, ih, Text.byteSize_cons, Nat.add_comm]

theorem byteSize_toList (s : String) : byteSize s.toList = s.utf8ByteSize := by
  rw [← utf8Len_eq_byteSize, String.utf8Len_toList]

theorem byteSize_pos {cs : List Char} (h : cs ≠ []) : 0 < byteSize cs := by
  obtain ⟨c, cs, rfl⟩ := List.exists_cons_of_ne_nil h
  exact Nat.add_pos_left c.utf8Size_pos _

theorem length_le_byteSize (cs : List Char) : cs.length ≤ byteSize cs := by
  induction cs with
  | nil => exact le_rfl
  | cons c cs ih =>
    have := c.utf8Size_pos
    rw [List.length_cons, Text.byteSize_cons]; omega

theorem isBoundary_byteSize {input : String} {a b : List Char} (h : input.toList = a ++ b) :
    IsBoundary input (byteSize a) := by
  refine String.Pos.Raw.isValid_iff_exists_append.2 ⟨String.ofList a, String.ofList b, ?_, ?_⟩
  · rw [← String.ofList_append, ← h, String.ofList_toList]
  · rw [String.rawEndPos_ofList, utf8Len_eq_byteSize]

theorem slice_byteSize {input : String} {a b c : List Char} (h : input.toList = a ++ (b ++ c)) :
    slice input (byteSize a) (byteSize a + byteSize b) = String.ofList b := by
  rw [slice, ← String.ofList_toList (s := input), h, ← List.append_assoc, ← utf8Len_eq_byteSize,
    ← utf8Len_eq_byteSize]
  exact String.extract_of_valid a b c

theorem slice_self (input : String) (offset : Nat) : slice input offset offset = "" := by
  simp [slice, String.Pos.Raw.extract]

theorem slice_all (input : String) : slice input 0 input.utf8ByteSize = input := by
  have h : slice input (byteSize []) (byteSize [] + byteSize input.toList) =
      String.ofList input.toList := slice_byteSize (c := []) (List.append_nil _).symm
  rwa [Text.byteSize_nil, Nat.zero_add, byteSize_toList, String.ofList_toList] at h

theorem IsBoundary.exists_append {input : String} {offset : Nat} (h : IsBoundary input offset) :
    ∃ a b, input.toList = a ++ b ∧ offset = byteSize a := by
  obtain ⟨s, s', rfl, hs⟩ := String.Pos.Raw.isValid_iff_exists_append.1 h
  refine ⟨s.toList, s'.toList, String.toList_append, ?_⟩
  rw [byteSize_toList]
  exact congrArg String.Pos.Raw.byteIdx hs

/-- Of two ways to cut a text, the one with fewer bytes in front lies before the other. -/
theorem exists_append_of_byteSize_le {a b c d : List Char} (h : a ++ b = c ++ d)
    (hsize : byteSize a ≤ byteSize c) : ∃ m, c = a ++ m ∧ b = m ++ d := by
  rcases List.append_eq_append_iff.1 h with ⟨m, hc, hb⟩ | ⟨m, rfl, rfl⟩
  · exact ⟨m, hc, hb⟩
  · -- it lies behind the other only if nothing is between them
    rw [Text.byteSize_append] at hsize
    have hm : m = [] := by
      by_contra hne
      have := byteSize_pos hne
      omega
    subst hm
    exact ⟨[], by simp, rfl⟩

/-- Two boundaries cut an input into three parts. -/
theorem IsBoundary.exists_parts {input : String} {i j : Nat} (hi : IsBoundary input i)
    (hj : IsBoundary input j) (hij : i ≤ j) :
    ∃ a b c, input.toList = a ++ (b ++ c) ∧ i = byteSize a ∧ j = byteSize a + byteSize b := by
  obtain ⟨a, rest, ha, rfl⟩ := hi.exists_append
  obtain ⟨a', c, ha', rfl⟩ := hj.exists_append
  obtain ⟨b, rfl, rfl⟩ := exists_append_of_byteSize_le (ha.symm.trans ha') hij
  exact ⟨a, b, c, ha, rfl, Text.byteSize_append a b⟩

/-- A part up to a boundary, with all that follows it. -/
theorem slice_append_slice {input : String} {i j : Nat} (hi : IsBoundary input i)
    (hj : IsBoundary input j) (hij : i ≤ j) :
    slice input i j ++ slice input j input.utf8ByteSize = slice input i input.utf8ByteSize := by
  obtain ⟨a, b, c, h, rfl, rfl⟩ := hi.exists_parts hj hij
  have hsize : input.utf8ByteSize = byteSize a + (byteSize b + byteSize c) := by
    rw [← byteSize_toList, h, Text.byteSize_append, Text.byteSize_append]
  have hafter : slice input (byteSize (a ++ b)) (byteSize (a ++ b) + byteSize c) = String.ofList c :=
    slice_byteSize (c := []) (by rw [h, List.append_nil, List.append_assoc])
  have hboth : slice input (byteSize a) (byteSize a + byteSize (b ++ c)) = String.ofList (b ++ c) :=
    slice_byteSize (c := []) (by rw [h, List.append_nil])
  simp only [Text.byteSize_append, Nat.add_assoc] at hafter hboth
  rw [hsize, slice_byteSize h, hafter, hboth, String.ofList_append]

/-! ## Lines of a text -/

theorem Text.length_splitLines (cs : List Char) :
    (splitLines cs).length = 1 + cs.count '\n' := by
  induction cs with
  | nil => rfl
  | cons c cs ih =>
    rw [splitLines] at ih
    rw [splitLines, List.splitOn_cons_eq_if_modifyHead, List.count_cons]
    by_cases hc : c == '\n'
    · rw [if_pos hc, if_pos hc, List.length_cons, ih]
      omega
    · rw [if_neg hc, if_neg hc, List.length_modifyHead, ih, Nat.add_zero]

/-! ## The last line of a text -/

theorem newline_notMem_lastLine (cs : List Char) : '\n' ∉ lastLine cs := by
  intro h
  have := List.all_eq_true.1 List.all_takeWhile _ (List.mem_reverse.1 h)
  simp at this

theorem lastLine_append (a b : List Char) :
    lastLine (a ++ b) = if '\n' ∈ b then lastLine b else lastLine a ++ b := by
  simp only [lastLine, List.reverse_append]
  split_ifs with h
  · rw [List.takeWhile_append, if_neg]
    intro hl
    have hall : b.reverse.takeWhile (· != '\n') = b.reverse :=
      (List.takeWhile_prefix _).eq_of_length hl
    exact newline_notMem_lastLine b (by rwa [lastLine, hall, List.reverse_reverse])
  · have hb : ∀ c ∈ b.reverse, (c != '\n') = true := by
      intro c hc
      rw [bne_iff_ne]
      rintro rfl
      exact h (List.mem_reverse.1 hc)
    rw [List.takeWhile_append_of_pos hb, List.reverse_append, List.reverse_reverse]

theorem lastLine_of_notMem {cs : List Char} (h : '\n' ∉ cs) : lastLine cs = cs := by
  have hnil := lastLine_append [] cs
  rwa [if_neg h] at hnil

/-- What stands before the last line is empty or ends in a newline. -/
theorem exists_append_lastLine (cs : List Char) :
    ∃ head, head ++ lastLine cs = cs ∧ (head = [] ∨ ∃ init, head = init ++ ['\n']) := by
  induction cs using List.reverseRecOn with
  | nil => exact ⟨[], rfl, Or.inl rfl⟩
  | append_singleton cs c ih =>
    rw [lastLine_append]
    split_ifs with hc
    · rw [← List.mem_singleton.1 hc]
      exact ⟨cs ++ ['\n'], List.append_nil _, Or.inr ⟨cs, rfl⟩⟩
    · obtain ⟨head, hhead, hnl⟩ := ih
      exact ⟨head, by rw [← List.append_assoc, hhead], hnl⟩

/-! ## Lines and columns of offsets -/

/-- The byte of a newline. -/
def newlineByte : UInt8 := 0x0a

/-- The bytes of an input before an offset. -/
def bytesBefore (input : String) (offset : Nat) : List UInt8 :=
  input.toByteArray.data.toList.take offset

/-- The line on which an offset lies, from 1: one more than the newlines before it. -/
def lineAt (input : String) (offset : Nat) : Nat := 1 + (bytesBefore input offset).count newlineByte

/-- The offset just behind the last newline before an offset; 0 if there is none. -/
def lineStartAt (input : String) (offset : Nat) : Nat :=
  ((bytesBefore input offset).reverse.dropWhile (· != newlineByte)).length

/-- The number of characters between the start of the line and an offset. -/
def columnAt (input : String) (offset : Nat) : Nat :=
  (slice input (lineStartAt input offset) offset).length

/-- The bytes of a text. -/
def textBytes (cs : List Char) : List UInt8 := cs.flatMap String.utf8EncodeChar

theorem length_textBytes (cs : List Char) : (textBytes cs).length = byteSize cs := by
  induction cs with
  | nil => rfl
  | cons c cs ih =>
    rw [textBytes, List.flatMap_cons, List.length_append, String.length_utf8EncodeChar, ← textBytes,
      ih, Text.byteSize_cons]

theorem textBytes_append (a b : List Char) : textBytes (a ++ b) = textBytes a ++ textBytes b :=
  List.flatMap_append

theorem bytesBefore_byteSize {input : String} {a b : List Char} (h : input.toList = a ++ b) :
    bytesBefore input (byteSize a) = textBytes a := by
  have hb : input.toByteArray.data.toList = textBytes (a ++ b) := by
    rw [← h, ← String.utf8Encode_toList]; simp [List.utf8Encode, textBytes]
  rw [bytesBefore, hb, textBytes_append, ← length_textBytes, List.take_left]

theorem newlineByte_ne_ofNat {n : Nat} (h : n < 256) (hn : n ≠ 10) : newlineByte ≠ UInt8.ofNat n := by
  intro he
  have := congrArg UInt8.toNat he
  rw [UInt8.toNat_ofNat', Nat.mod_eq_of_lt h] at this
  exact hn this.symm

/-- Only the encoding of a newline holds its byte: the bytes of longer encodings are 128 at
    least. -/
theorem newlineByte_notMem {c : Char} (h : c ≠ '\n') :
    newlineByte ∉ String.utf8EncodeChar c := by
  have hc : c.val.toNat ≠ 10 := fun hc => h (Char.toNat_inj.1 hc)
  fun_cases String.utf8EncodeChar c <;>
    simp only [List.mem_cons, List.not_mem_nil, or_false, not_or, ← ne_eq]
  case case1 v hv => exact newlineByte_ne_ofNat (by omega) hc
  all_goals
    repeat' apply And.intro
    all_goals exact newlineByte_ne_ofNat (by omega) (by omega)

theorem newlineByte_notMem_textBytes {cs : List Char} (h : '\n' ∉ cs) :
    newlineByte ∉ textBytes cs := by
  rw [textBytes, List.mem_flatMap]
  rintro ⟨c, hc, hb⟩
  exact newlineByte_notMem (fun he => h (he ▸ hc)) hb

theorem utf8EncodeChar_newline : String.utf8EncodeChar '\n' = [newlineByte] := by decide

theorem count_textBytes (cs : List Char) : (textBytes cs).count newlineByte = cs.count '\n' := by
  induction cs with
  | nil => rfl
  | cons c cs ih =>
    rw [textBytes, List.flatMap_cons, List.count_append, ← textBytes, ih, List.count_cons]
    by_cases hc : c = '\n'
    · subst hc; rw [utf8EncodeChar_newline]; simp [Nat.add_comm]
    · rw [List.count_eq_zero_of_not_mem (newlineByte_notMem hc)]; simp [hc]

section
variable {input : String} {a b : List Char} (h : input.toList = a ++ b)
include h

theorem lineAt_byteSize : lineAt input (byteSize a) = 1 + a.count '\n' := by
  rw [lineAt, bytesBefore_byteSize h, count_textBytes]

theorem lineStartAt_byteSize :
    lineStartAt input (byteSize a) + byteSize (lastLine a) = byteSize a := by
  obtain ⟨head, hhead, hnl⟩ := exists_append_lastLine a
  have hlast : ∀ x ∈ (textBytes (lastLine a)).reverse, (x != newlineByte) = true := by
    intro x hx
    rw [bne_iff_ne]
    rintro rfl
    exact newlineByte_notMem_textBytes (newline_notMem_lastLine a) (List.mem_reverse.1 hx)
  have hstop : (textBytes head).reverse.dropWhile (· != newlineByte) = (textBytes head).reverse := by
    rcases hnl with rfl | ⟨init, rfl⟩
    · rfl
    · rw [textBytes_append, List.reverse_append, show textBytes ['\n'] = [newlineByte] from by decide]
      rfl
  have hbytes : textBytes a = textBytes head ++ textBytes (lastLine a) := by
    rw [← textBytes_append, hhead]
  rw [lineStartAt, bytesBefore_byteSize h, hbytes, List.reverse_append,
    List.dropWhile_append_of_pos hlast, hstop, List.length_reverse, length_textBytes,
    ← Text.byteSize_append, hhead]

theorem columnAt_byteSize : columnAt input (byteSize a) = (lastLine a).length := by
  obtain ⟨head, hhead, -⟩ := exists_append_lastLine a
  have hstart := lineStartAt_byteSize h
  have hsize := congrArg byteSize hhead
  rw [Text.byteSize_append] at hsize
  have hslice : slice input (byteSize head) (byteSize head + byteSize (lastLine a)) =
      String.ofList (lastLine a) :=
    slice_byteSize (c := b) (by rw [h, ← List.append_assoc, hhead])
  rw [columnAt, show lineStartAt input (byteSize a) = byteSize head by omega, ← hsize, hslice,
    String.length_ofList]

end

end OrderedLexer
