/-
  Lists of tokens, as they are printed.

  `ListedTokens` are the tokens that a listing is made of: all tokens of a text, with the spec in a
  file (`tokenListing_eq_ok_iff`).

  * As JSON, a list reads back: it is an array with one object a token, and each object holds its
    token, with all six fields of a location or none of them (`tokenListing_reads_back`).  The members
    of these objects are written in an order of their own and read back sorted by their names
    (`Token.heldBy_ofList`).
  * One a line, the value and the location of a token never hold a newline, but its type is printed as
    it is.  So the lines are the tokens just if no type holds a newline (`tokenListing_lines`); a
    type that does takes further lines (`tokenListing_split`).
-/
import Mathlib.Data.List.Forall2
import OrderedLexer.Command.Action
import OrderedLexer.Proofs.Anchoring
import OrderedLexer.Proofs.Invariant
import OrderedLexer.Proofs.JsonRoundTrip

namespace OrderedLexer

open Json (Layout Members Value)

/-! ## The tokens of a listing -/

namespace Command

/-- All tokens of a text, with the spec in the file at a path; `locations` switches locations on. -/
def ListedTokens (files : FileTree) (path text : String) (locations : Bool) (tokens : List Token) :
    Prop :=
  ∃ s, loadSpec files path = .ok s ∧
    ((Tokenizer.ofSpec s).init text (if locations then some (.withLocations true) else none)).all.1 =
      .ok tokens

variable {files : FileTree} {path text out : String} {locations json : Bool} {tokens : List Token}

theorem tokenListing_eq_ok_iff :
    tokenListing files path text locations json = .ok out ↔
      ∃ tokens, ListedTokens files path text locations tokens ∧ out = listTokens json tokens := by
  unfold tokenListing ListedTokens
  rcases loadSpec files path with e | s
  · simp
  · rcases h : ((Tokenizer.ofSpec s).init text
      (if locations then some (.withLocations true) else none)).all with ⟨e | ks, t⟩
    · have hcall := Tokenizer.returned?_cases ((.error e, t) : Except LexError (List Token) × Tokenizer)
      rcases hcall with hcall | hcall <;> simp [Tokenizer.all?, h, hcall]
    · simp [Tokenizer.all?_of_ok rfl h, h, eq_comm]

end Command

/-! ## Tokens that fit their words -/

/-- Offsets are words of 64 bits, lines and columns words of 32 bits. -/
structure Location.Fits (l : Location) : Prop where
  startOffset : l.startOffset < Location.offsetLimit
  endOffset : l.endOffset < Location.offsetLimit
  startLine : l.startLine < Location.lineLimit
  endLine : l.endLine < Location.lineLimit
  startColumn : l.startColumn < Location.lineLimit
  endColumn : l.endColumn < Location.lineLimit

/-- A token has no location, or one that fits. -/
def Token.Fits (t : Token) : Prop := ∀ l, t.loc = some l → l.Fits

namespace Tokenizer

variable {t t' : Tokenizer} {k : Token}

theorem fits_of_next (h : t.WellFormed) (hsize : t.input.utf8ByteSize < Location.offsetLimit)
    (hn : t.next = (.ok (some k), t')) : k.Fits := by
  cases step_of_next hn with
  | @accept index handler matched rest emit failed finished first nonempty emits =>
    intro l hl
    simp only [tokenOf] at hl
    split_ifs at hl
    cases hl
    have hoffset := h.offset_add_rest
    rw [← firstMatch?_append first, Text.byteSize_append] at hoffset
    constructor
    case startOffset => exact Nat.lt_of_le_of_lt (by simp only [Position.span]; omega) hsize
    case endOffset =>
      refine Nat.lt_of_le_of_lt ?_ hsize
      simp only [Position.span, Position.offset_advance]
      omega
    all_goals exact UInt32.toNat_lt _

/-- All tokens of a text whose size is a word fit. -/
theorem fits_of_all {text : String} {o : Option Options} {ks : List Token}
    (hsize : text.utf8ByteSize < Location.offsetLimit) (h : (t.init text o).all.1 = .ok ks) :
    ∀ k ∈ ks, k.Fits := by
  have hd : (t.init text o).drain.1 = .ok ks := by
    rw [drain_production, ← all_production rfl, h]
  refine drain_tokens (P := fun t => t.WellFormed ∧ t.input = text) ?_ ?_ (t.init text o)
    ⟨init_wellFormed t text o, rfl⟩ ks hd
  · rintro t ⟨ht, htext⟩
    exact ⟨next_wellFormed ht, (next_frame t).2.2.1.trans htext⟩
  · rintro t k t' ⟨ht, htext⟩ hn
    exact fits_of_next ht (htext ▸ hsize) hn

end Tokenizer

/-! ## Objects of tokens -/

theorem Json.Members.get?_nil (name : String) : Members.get? name [] = none := rfl

/-- An object keeps the values of different names, in whatever order they are given. -/
theorem Json.Members.get?_ofList {ms : Members} (h : (ms.map Prod.fst).Nodup) (name : String) :
    (Members.ofList ms).get? name = ms.get? name := by
  have hmerge (a : Members) : (a.merge ms).get? name = (ms.get? name).or (a.get? name) := by
    induction ms generalizing a with
    | nil => rfl
    | cons m rest ih =>
      obtain ⟨k, v⟩ := m
      obtain ⟨hk, hrest⟩ := List.nodup_cons.1 h
      have hstep : (a.merge ((k, v) :: rest)).get? name =
          (Members.get? name rest).or ((a.insert k v).get? name) := ih hrest _
      rw [hstep, Members.get?_insert, Members.get?_cons]
      split
      · next heq =>
        subst heq
        have hnone : Members.get? name rest = none := by
          refine List.lookup_eq_none_iff.2 fun m hm => ?_
          rw [bne_iff_ne]
          rintro rfl
          exact hk (List.mem_map.2 ⟨m, hm, rfl⟩)
        rw [hnone]
        rfl
      · rfl
  rw [Members.ofList, hmerge]
  exact Option.or_none

/-- The names of the fields of a location. -/
def Location.names : List String :=
  ["startOffset", "endOffset", "startLine", "endLine", "startColumn", "endColumn"]

namespace Token

/-- The members of the object of a token, as they are written. -/
def members (t : Token) : List (String × Value) :=
  [("type", .str t.kind), ("value", .str t.value)] ++ (t.loc.map Location.toMembers).getD []

/-- An object holds a token: it is read as the token, and has the fields of a location just if the
    token has a location. -/
structure HeldBy (t : Token) (v : Value) : Prop where
  ofValue : Token.ofValue v = .ok t
  fields : ∃ ms, v = .obj ms ∧ ∀ name ∈ Location.names, (Members.get? name ms).isSome = t.loc.isSome

theorem nodup_members (t : Token) : (t.members.map Prod.fst).Nodup := by
  rcases t with ⟨kind, value, _ | l⟩
  · exact (by decide : ["type", "value"].Nodup)
  · exact (by decide : ("type" :: "value" :: Location.names).Nodup)

/-- The value of a name is that of its member. -/
theorem get?_members (t : Token) (name : String) :
    (Members.ofList t.members).get? name = Members.get? name t.members :=
  Members.get?_ofList t.nodup_members name

theorem readNat_ofNat {limit n : Nat} (h : n < limit) :
    Location.readNat limit (.num (.int n)) = some n := if_pos h

/-- The members of a token hold its location, or none. -/
theorem ofMembers?_members {t : Token} (h : t.Fits) :
    Location.ofMembers? (Members.ofList t.members) = t.loc := by
  unfold Location.ofMembers?
  simp only [get?_members]
  rcases t with ⟨kind, value, _ | l⟩
  · simp [members, Members.get?_cons, Members.get?_nil]
  · have hl := h l rfl
    simp [members, Location.toMembers, Members.get?_cons, readNat_ofNat hl.startOffset,
      readNat_ofNat hl.endOffset, readNat_ofNat hl.startLine, readNat_ofNat hl.endLine,
      readNat_ofNat hl.startColumn, readNat_ofNat hl.endColumn]

/-- The object of a token, with its members sorted by their names, holds the token. -/
theorem heldBy_ofList {t : Token} (h : t.Fits) : t.HeldBy (.obj (Members.ofList t.members)) := by
  constructor
  case ofValue =>
    have hkind : Members.get? "type" t.members = some (.str t.kind) := rfl
    have hvalue : Members.get? "value" t.members = some (.str t.value) := by
      simp [members, Members.get?_cons]
    simp only [Token.ofValue, stringMember, get?_members, hkind, hvalue, ofMembers?_members h]
    rfl
  case fields =>
    refine ⟨_, rfl, fun name hname => ?_⟩
    rw [get?_members]
    rcases t with ⟨kind, value, _ | l⟩
    · revert name
      simp [members, Location.names, Members.get?_cons, Members.get?_nil]
    · revert name
      simp [members, Location.names, Location.toMembers, Members.get?_cons]

/-! ## Reading tokens back -/

/-- A value with the members of an object sorted by their names. -/
def inOrder : Value → Value
  | .obj ms => .obj (Members.ofList ms)
  | v => v

theorem isExact_toValue (t : Token) : t.toValue.isExact = true := by
  rcases t with ⟨kind, value, _ | l⟩ <;> rfl

/-- The members of a token that fits are strings, and integers that can be read. -/
theorem leaf_of_mem_members {t : Token} (h : t.Fits) {m : String × Value} (hm : m ∈ t.members) :
    m.2.Canonical ∧ m.2.isExact = true ∧ m.2.depth = 0 := by
  have hint {n : Nat} (hn : n < Location.offsetLimit) : (Value.num (.int n)).Canonical := by
    rw [Location.offsetLimit] at hn
    exact .int (by omega) (by omega)
  have hword {n : Nat} (hn : n < Location.lineLimit) : (Value.num (.int n)).Canonical :=
    hint (Nat.lt_trans hn (by decide))
  rcases t with ⟨kind, value, _ | l⟩
  · simp only [members, Option.map_none, Option.getD_none, List.append_nil, List.mem_cons,
      List.not_mem_nil, or_false] at hm
    rcases hm with rfl | rfl <;> exact ⟨.str _, rfl, rfl⟩
  · have hl := h l rfl
    simp only [members, Option.map_some, Option.getD_some, Location.toMembers, List.cons_append,
      List.nil_append, List.mem_cons, List.not_mem_nil, or_false] at hm
    rcases hm with rfl | rfl | rfl | rfl | rfl | rfl | rfl | rfl
    · exact ⟨.str _, rfl, rfl⟩
    · exact ⟨.str _, rfl, rfl⟩
    · exact ⟨hint hl.startOffset, rfl, rfl⟩
    · exact ⟨hint hl.endOffset, rfl, rfl⟩
    · exact ⟨hword hl.startLine, rfl, rfl⟩
    · exact ⟨hword hl.endLine, rfl, rfl⟩
    · exact ⟨hword hl.startColumn, rfl, rfl⟩
    · exact ⟨hword hl.endColumn, rfl, rfl⟩

theorem gives_toValue {t : Token} (h : t.Fits) {layout : Layout} {level fuel : Nat} (d : Nat)
    (hfuel : (t.toValue.writeAt layout level).length ≤ fuel) :
    Json.Reader.Gives (Json.Reader.value fuel (d + 1)) layout level t.toValue (inOrder t.toValue) := by
  have hlengths := Json.Reader.length_le_writeAt_obj layout level t.members
  refine Json.Reader.gives_obj (fun m hm => ?_) (Nat.le_trans hlengths.1 hfuel)
  obtain ⟨hcanonical, hexact, hdepth⟩ := leaf_of_mem_members h hm
  exact Json.Reader.gives_value hcanonical hexact (hdepth ▸ Nat.zero_le d)
    (Nat.le_trans (hlengths.2 m hm) hfuel)

theorem gives_toValues {tokens : List Token} (h : ∀ t ∈ tokens, t.Fits) {layout : Layout}
    {level fuel : Nat} (d : Nat)
    (hfuel : ((Value.arr (tokens.map toValue)).writeAt layout level).length ≤ fuel) :
    Json.Reader.Gives (Json.Reader.value fuel (d + 2)) layout level (.arr (tokens.map toValue))
      (.arr ((tokens.map toValue).map inOrder)) := by
  have hlengths := Json.Reader.length_le_writeAt_arr layout level (tokens.map toValue)
  refine Json.Reader.gives_arr ?_ ?_ (Nat.le_trans hlengths.1 hfuel)
  · exact List.forall_mem_map.2 fun t _ => t.isExact_toValue
  · intro v hv
    obtain ⟨t, ht, rfl⟩ := List.mem_map.1 hv
    exact gives_toValue (h t ht) d (Nat.le_trans (hlengths.2 _ hv) hfuel)

/-- The text of a token reads back to an object that holds it. -/
theorem exists_heldBy {t : Token} (h : t.Fits) (layout : Layout) :
    ∃ v, Json.read (String.ofList (t.toValue.write layout)) = .ok v ∧ t.HeldBy v := by
  have hread : Json.read (String.ofList (t.toValue.write layout ++ [])) = .ok (inOrder t.toValue) :=
    Json.read_of_gives (List.forall_mem_nil _) fun _ hfuel => gives_toValue h _ hfuel
  rw [List.append_nil] at hread
  exact ⟨_, hread, heldBy_ofList h⟩

end Token

namespace Command

/-- A list of tokens, as it is written, is an array and a newline, and the items of the array hold the
    tokens. -/
def ReadsBack (out : String) (tokens : List Token) : Prop :=
  ∃ text items, out = text ++ "\n" ∧ Json.read text = .ok (.arr items) ∧
    Json.read out = .ok (.arr items) ∧ List.Forall₂ Token.HeldBy tokens items

theorem readsBack_listTokens (h : ∀ t ∈ tokens, t.Fits) : ReadsBack (listTokens true tokens) tokens := by
  have hgives (fuel : Nat) (hfuel : ((Value.arr (tokens.map Token.toValue)).write .pretty).length ≤ fuel) :=
    Token.gives_toValues h 125 hfuel
  have hread := Json.read_of_gives (List.forall_mem_nil _) hgives
  have hline := Json.read_of_gives (g := ['\n']) (List.forall_mem_singleton.2 rfl) hgives
  rw [List.append_nil] at hread
  rw [String.ofList_append] at hline
  refine ⟨_, _, rfl, hread, hline, ?_⟩
  rw [List.map_map, List.forall₂_map_right_iff, List.forall₂_same]
  exact fun t ht => Token.heldBy_ofList (h t ht)

/-- **Tokens that are listed as JSON read back.**  Every listing that is printed holds the tokens of the
    text, one by one and in their order; and so does the text of any token. -/
theorem tokenListing_reads_back :
    (∀ (files : FileTree) (path text : String) (locations : Bool) (out : String),
      text.utf8ByteSize < Location.offsetLimit →
      tokenListing files path text locations true = .ok out →
      ∃ tokens, ListedTokens files path text locations tokens ∧ ReadsBack out tokens) ∧
    ∀ t : Token, t.Fits → ∀ layout,
      ∃ v, Json.read (String.ofList (t.toValue.write layout)) = .ok v ∧ t.HeldBy v := by
  constructor
  · intro files path text locations out hsize h
    obtain ⟨tokens, htokens, rfl⟩ := tokenListing_eq_ok_iff.1 h
    refine ⟨tokens, htokens, ?_⟩
    obtain ⟨s, -, hall⟩ := htokens
    exact readsBack_listTokens (Tokenizer.fits_of_all hsize hall)
  · exact fun t ht layout => Token.exists_heldBy ht layout

/-- A file with rules for lines and for words in lower case. -/
def wordFiles : FileTree where
  files := [(["s.json"], "[[\"[a-zé]+\", \"[text, '\\\"' + text]\"], [\"\\n\", \"LINE\"]]".toUTF8)]

theorem tokenListing_reads_back_words :
    "é\nb".utf8ByteSize < Location.offsetLimit ∧
    (∃ out, tokenListing wordFiles "s.json" "é\nb" true true = .ok out ∧
      ∃ tokens, ListedTokens wordFiles "s.json" "é\nb" true tokens ∧ ReadsBack out tokens) ∧
    (⟨"A\n", "\"\t", some ⟨0, 2, 1, 1, 0, 2⟩⟩ : Token).Fits ∧
    ∃ v, Json.read (String.ofList
        ((⟨"A\n", "\"\t", some ⟨0, 2, 1, 1, 0, 2⟩⟩ : Token).toValue.write .compact)) = .ok v ∧
      (⟨"A\n", "\"\t", some ⟨0, 2, 1, 1, 0, 2⟩⟩ : Token).HeldBy v := by
  have hsize : "é\nb".utf8ByteSize < Location.offsetLimit := by decide
  have hfits : (⟨"A\n", "\"\t", some ⟨0, 2, 1, 1, 0, 2⟩⟩ : Token).Fits := by
    rintro l ⟨⟩
    constructor <;> decide
  have hok : (tokenListing wordFiles "s.json" "é\nb" true true).isOk = true := by decide +kernel
  obtain ⟨out, hout⟩ := exists_of_isOk hok
  exact ⟨hsize, ⟨out, hout, tokenListing_reads_back.1 _ _ _ _ out hsize hout⟩, hfits,
    tokenListing_reads_back.2 _ hfits .compact⟩

end Command

/-! ## Lines of a listing -/

namespace Text

theorem newline_notMem_toHex (n : Nat) : '\n' ∉ toHex n := by
  have hdigit : ∀ n < 16, '\n' ≠ hexChar n := by decide
  induction n using toHex.induct with
  | case1 n hn =>
    rw [toHex, if_pos hn, List.mem_singleton]
    exact hdigit n hn
  | case2 n hn ih =>
    rw [toHex, if_neg hn, List.mem_append, List.mem_singleton, not_or]
    exact ⟨ih, hdigit _ (Nat.mod_lt _ (by decide))⟩

theorem newline_notMem_quotedChar (c : Char) : '\n' ∉ quotedChar c := by
  unfold quotedChar
  split_ifs with _ _ _ hnewline <;> try simp
  case pos => exact newline_notMem_toHex _
  case neg => exact Ne.symm hnewline

theorem newline_notMem_quoted (cs : List Char) : '\n' ∉ quoted cs := by
  have hchars : '\n' ∉ cs.flatMap quotedChar := by
    intro h
    obtain ⟨c, -, hc⟩ := List.mem_flatMap.1 h
    exact newline_notMem_quotedChar c hc
  simp [quoted, hchars]

theorem newline_notMem_toDigits (n : Nat) : '\n' ∉ Nat.toDigits 10 n := fun h =>
  absurd (Nat.isDigit_of_mem_toDigits (by decide) (by decide) h) (by decide)

/-- Lines with a newline behind each are the parts between the newlines, and an empty part at the
    end. -/
theorem splitLines_flatMap {ls : List (List Char)} (h : ∀ l ∈ ls, '\n' ∉ l) :
    splitLines (ls.flatMap (· ++ ['\n'])) = ls ++ [[]] := by
  induction ls with
  | nil => rfl
  | cons l ls ih =>
    obtain ⟨hl, hls⟩ := List.forall_mem_cons.1 h
    rw [List.flatMap_cons, List.append_assoc, List.singleton_append, splitLines,
      List.splitOn_append_cons_self, List.splitOn_eq_singleton hl, ← splitLines, ih hls]
    rfl

end Text

/-- Behind its type, a token is printed without newlines. -/
theorem Token.exists_describe (t : Token) :
    ∃ behind, t.describe.toList = t.kind.toList ++ behind ∧ '\n' ∉ behind := by
  have hloc (l : Location) : '\n' ∉ l.describe.toList := by
    simp [Location.describe, Text.newline_notMem_toDigits]
  rcases t with ⟨kind, value, _ | l⟩
  · refine ⟨' ' :: Text.quoted value.toList, ?_, ?_⟩
    · simp [describe, Text.quotedString]
    · simp [Text.newline_notMem_quoted]
  · refine ⟨' ' :: (Text.quoted value.toList ++ (" @ ".toList ++ l.describe.toList)), ?_, ?_⟩
    · simp [describe, Text.quotedString]
    · simp [Text.newline_notMem_quoted, hloc]

theorem Token.count_newline_describe (t : Token) :
    t.describe.toList.count '\n' = t.kind.toList.count '\n' := by
  obtain ⟨behind, h, hbehind⟩ := t.exists_describe
  rw [h, List.count_append, List.count_eq_zero_of_not_mem hbehind, Nat.add_zero]

namespace Command

/-- A list of tokens as lines. -/
structure ListsLines (out : String) (tokens : List Token) : Prop where
  /-- The tokens as texts, each with a newline behind it. -/
  text : out.toList = tokens.flatMap fun t => t.describe.toList ++ ['\n']
  /-- There is a newline for each token, and each newline of a type is one more. -/
  count : out.toList.count '\n' = tokens.length + (tokens.flatMap (·.kind.toList)).count '\n'
  /-- The lines are the tokens just if no type holds a newline. -/
  lines : Text.splitLines out.toList = tokens.map (·.describe.toList) ++ [[]] ↔
    ∀ t ∈ tokens, '\n' ∉ t.kind.toList

theorem toList_listTokens (tokens : List Token) :
    (listTokens false tokens).toList = tokens.flatMap fun t => t.describe.toList ++ ['\n'] := by
  simp [listTokens, String.toList_join, List.flatMap_map]

theorem count_newline_listTokens (tokens : List Token) :
    (listTokens false tokens).toList.count '\n' =
      tokens.length + (tokens.flatMap (·.kind.toList)).count '\n' := by
  rw [toList_listTokens]
  induction tokens with
  | nil => rfl
  | cons t tokens ih =>
    simp only [List.flatMap_cons, List.count_append, ih, t.count_newline_describe,
      List.count_singleton_self, List.length_cons]
    omega

theorem listsLines_listTokens (tokens : List Token) : ListsLines (listTokens false tokens) tokens := by
  refine ⟨toList_listTokens tokens, count_newline_listTokens tokens, ?_, ?_⟩
  · intro h t ht hnewline
    -- one line a token leaves no newline for a type
    have hlength := congrArg List.length h
    rw [Text.length_splitLines, count_newline_listTokens] at hlength
    have hpos : 0 < (tokens.flatMap (·.kind.toList)).count '\n' :=
      List.count_pos_iff.2 (List.mem_flatMap.2 ⟨t, ht, hnewline⟩)
    simp only [List.length_append, List.length_map, List.length_singleton] at hlength
    omega
  · intro h
    have hlines : ∀ l ∈ tokens.map (·.describe.toList), '\n' ∉ l := by
      refine List.forall_mem_map.2 fun t ht => ?_
      rw [← List.count_eq_zero, t.count_newline_describe, List.count_eq_zero]
      exact h t ht
    rw [toList_listTokens, ← Text.splitLines_flatMap hlines, List.flatMap_map]

/-- **Tokens that are listed one a line.**  The lines of a listing are its tokens if and only if no type
    holds a newline; values and locations add no lines. -/
theorem tokenListing_lines (h : tokenListing files path text locations false = .ok out) :
    ∃ tokens, ListedTokens files path text locations tokens ∧ ListsLines out tokens := by
  obtain ⟨tokens, htokens, rfl⟩ := tokenListing_eq_ok_iff.1 h
  exact ⟨tokens, htokens, listsLines_listTokens tokens⟩

theorem tokenListing_lines_words :
    ∃ out, tokenListing wordFiles "s.json" "é\nb" true false = .ok out ∧
      ∃ tokens, ListedTokens wordFiles "s.json" "é\nb" true tokens ∧ ListsLines out tokens := by
  have hok : (tokenListing wordFiles "s.json" "é\nb" true false).isOk = true := by decide +kernel
  obtain ⟨out, hout⟩ := exists_of_isOk hok
  exact ⟨out, hout, tokenListing_lines hout⟩

/-- A file with one rule, whose type holds a newline. -/
def splitFiles : FileTree where
  files := [(["s.json"], "[[\"a\", \"'x\\\\ny'\"]]".toUTF8)]

/-- One token on two lines. -/
theorem tokenListing_split :
    ListedTokens splitFiles "s.json" "a" false [⟨"x\ny", "a", none⟩] ∧
      ∃ out, tokenListing splitFiles "s.json" "a" false false = .ok out ∧
        Text.splitLines out.toList = ["x".toList, "y \"a\"".toList, []] := by
  have hload : (loadSpec splitFiles "s.json").toOption.map
      (fun s => ((Tokenizer.ofSpec s).init "a" none).all.1) = some (.ok [⟨"x\ny", "a", none⟩]) := by
    decide +kernel
  have htokens : ListedTokens splitFiles "s.json" "a" false [⟨"x\ny", "a", none⟩] := by
    obtain ⟨s, hs, hall⟩ := exists_of_toOption_map hload
    exact ⟨s, hs, hall⟩
  exact ⟨htokens, _, tokenListing_eq_ok_iff.2 ⟨_, htokens, rfl⟩, by decide +kernel⟩

end Command

end OrderedLexer
