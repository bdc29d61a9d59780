/-
  Patterns in quotes match their text and nothing else.

  The quotes are undone (`quotedSource_quoteText`), and the text is escaped as a pattern.  The tree of
  that pattern is a row of literals (`parse_escapeText`), so it is not anchored, and anchoring wraps it.
  Its program is a chain with one step for each character (`chain_ofNode`), and a search follows the
  chain as long as the characters agree (`Chain.run`).

  `standsForText_quotedLine` goes the whole way from the line to the match.  One thing can go wrong on
  it: the pattern of a long text is too large (`fits_literals_iff`, `normalize_long`).
-/
import OrderedLexer.Proofs.AnchoredMatches
import OrderedLexer.Proofs.SpecForms

namespace OrderedLexer

open Text

/-! ## The tree of an escaped text -/

namespace Pattern

/-- A row of literals, as parts of a pattern. -/
def literalParts (s : List Char) : List Ast := s.map fun c => .atom (.literal c false)

/-- A row of literals. -/
def Ast.literals (s : List Char) : Ast := Level.branch { parts := (literalParts s).reverse }

theorem Mode.next_meta {c : Char} (hc : Regex.isMeta c = true) (r : List Char) :
    Mode.next {} '\\' (c :: r) = .ok (.atom (.literal c false), r) := by
  obtain ⟨hletter, hescape⟩ : c ∉ ['x', 'u', 'U', 'p', 'P', 'b'] ∧
      Scan.simpleEscape c = .ok (.literal c false) := by
    rw [Regex.isMeta, List.contains_iff_mem] at hc
    -- decided over the list, not over all characters
    revert c
    exact @of_decide_eq_true _ (List.decidableBAll _ _) rfl
  simp only [List.mem_cons, List.not_mem_nil, or_false, not_or] at hletter
  simp [Mode.next, Scan.next, Scan.escape, hletter, hescape, Scan.andThen, Except.map]

theorem Mode.next_plain {c : Char} (hc : Regex.isMeta c = false) (r : List Char) :
    Mode.next {} c r = .ok (.atom (.literal c false), r) := by
  simp only [Regex.isMeta, List.contains_eq_mem, List.mem_cons, List.not_mem_nil, or_false,
    decide_eq_false_iff_not, not_or] at hc
  simp [Mode.next, Scan.next, hc]

/-- An escaped text is read as its characters. -/
theorem reads_escapeText (s : List Char) :
    Reads {} (Regex.escapeText s) (s.map fun c => .atom (.literal c false)) := by
  induction s with
  | nil => exact .done
  | cons c s ih =>
    rw [Regex.escapeText, List.flatMap_cons, List.map_cons]
    split
    · next hc => exact .item rfl rfl (Mode.next_meta hc _) ih
    · next hc => exact .item rfl rfl (Mode.next_plain (Bool.eq_false_iff.2 hc) _) ih

theorem Builder.steps_literals (b : Builder) (s : List Char) :
    b.steps (s.map fun c => .atom (.literal c false)) =
      .ok { b with level := { b.level with parts := (literalParts s).reverse ++ b.level.parts } } := by
  induction s generalizing b with
  | nil => rfl
  | cons c s ih =>
    rw [List.map_cons, steps]
    simp only [step]
    rw [ih]
    simp [literalParts, push, Level.push]

theorem Ast.depths_literalParts (s : List Char) : Ast.depths (literalParts s) = 0 := by
  induction s with
  | nil => rfl
  | cons c s ih => simpa [literalParts, Ast.depths, Ast.depth] using ih

/-- A row of literals is empty, one literal, or a list of them. -/
theorem Ast.literals_cases (s : List Char) :
    s = [] ∧ Ast.literals s = .empty ∨ (∃ c, s = [c] ∧ Ast.literals s = .atom (.literal c false)) ∨
      Ast.literals s = .concat (literalParts s) := by
  rcases s with _ | ⟨c, _ | ⟨d, s⟩⟩
  · exact .inl ⟨rfl, rfl⟩
  · exact .inr (.inl ⟨c, rfl, rfl⟩)
  · refine .inr (.inr ?_)
    have hparts : (literalParts (c :: d :: s)).reverse ≠ [] ∧
        ∀ x, (literalParts (c :: d :: s)).reverse ≠ [x] := by
      refine ⟨by simp [literalParts], fun x hx => ?_⟩
      have hlength := congrArg List.length hx
      simp [literalParts] at hlength
    rw [Ast.literals, Level.branch]
    split
    · next h => exact absurd h hparts.1
    · next x h => exact absurd h (hparts.2 x)
    · rw [List.reverse_reverse]

theorem Ast.depth_literals (s : List Char) : (Ast.literals s).depth ≤ 1 := by
  obtain ⟨-, h⟩ | ⟨c, -, h⟩ | h := Ast.literals_cases s
  · simp [h, Ast.depth]
  · simp [h, Ast.depth]
  · simp [h, Ast.depth, Ast.depths_literalParts]

theorem Ast.isAnchored_literals (s : List Char) : (Ast.literals s).isAnchored = false := by
  obtain ⟨-, h⟩ | ⟨c, -, h⟩ | h := Ast.literals_cases s
  · rw [h]
    rfl
  · rw [h]
    rfl
  · rw [h]
    rcases s with _ | ⟨c, s⟩ <;> rfl

/-- **The tree of an escaped text is the row of its characters.** -/
theorem parse_escapeText (s : List Char) : Ast.parse (Regex.escapeText s) = .ok (.literals s) := by
  have hdepth : (Ast.literals s).depth ≤ maxDepth := (Ast.depth_literals s).trans (by decide)
  rw [Ast.parse, (reads_escapeText s).items]
  simp only [Ast.ofItems, Builder.steps_literals, Builder.finish, List.append_nil]
  exact if_pos hdepth

/-! ## Its node -/

/-- A row of characters as a node. -/
def Node.literals (s : List Char) : Node := .cats (s.map fun c => .one (.single c))

theorem Node.literals_cons (c : Char) (s : List Char) :
    Node.literals (c :: s) = .one (.single c) ∧ s = [] ∨
      Node.literals (c :: s) = .cat (.one (.single c)) (.literals s) := by
  rcases s with _ | ⟨d, s⟩
  · exact .inl ⟨rfl, rfl⟩
  · exact .inr rfl

theorem Node.ofAsts_literalParts (s : List Char) :
    Node.ofAsts {} (literalParts s) = .ok (s.map fun c => .one (.single c), {}) := by
  induction s with
  | nil => rfl
  | cons c s ih =>
    have hatom : Node.ofAst {} (.atom (.literal c false)) = .ok (.one (.single c), {}) := by
      simp [Node.ofAst, Node.ofAtom, Flags.foldSingle, Except.map]
    rw [literalParts] at ih ⊢
    simp only [List.map_cons, Node.ofAsts, hatom, ih, Except.map]

theorem Node.ofAst_literals (s : List Char) :
    Node.ofAst {} (.literals s) = .ok (.literals s, {}) := by
  obtain ⟨rfl, h⟩ | ⟨c, rfl, h⟩ | h := Ast.literals_cases s
  · rfl
  · rfl
  · rw [h, Node.ofAst, Node.ofAsts_literalParts]
    rfl

/-! ## The size of the node -/

theorem length_utf8Bytes (c : Char) : (utf8Bytes c.toNat).length = c.utf8Size := by
  have hsize : c.utf8Size = if c.toNat < 0x80 then 1 else if c.toNat < 0x800 then 2
      else if c.toNat < 0x10000 then 3 else 4 := by
    simp only [Char.utf8Size, Char.toNat, UInt32.le_iff_toNat_le]
    simp [Nat.lt_succ_iff]
  rw [hsize, utf8Bytes]
  split
  · rfl
  · split
    · rfl
    · split <;> rfl

/-- The size of a row of characters is that of their bytes, whichever sizes of sets are taken. -/
theorem Node.sizeWith_literals {set : CharSet → Nat} (hset : ∀ c, set (.single c) = charSize c.toNat)
    (d : Direction) (s : List Char) :
    (Node.literals s).wholeSize d ((Node.literals s).sizeWith d set) = stepSize * byteSize s := by
  have hchar : ∀ c : Char, set (.single c) = stepSize * c.utf8Size := by
    intro c
    rw [hset, charSize, length_utf8Bytes]
  induction s with
  | nil => rfl
  | cons c s ih =>
    rw [byteSize_cons, Nat.mul_add, ← ih, ← hchar]
    obtain ⟨h, rfl⟩ | h := Node.literals_cons c s
    · rw [h]
      rfl
    · rw [h]
      rfl

/-- The most bytes of a text whose anchored pattern is not too large. -/
def maxLiteralSize : Nat := (maxSize - frameSize .backward) / stepSize - 1

theorem Node.fits_literals_iff (s : List Char) :
    (Node.cat (.look .start) (.literals s)).fits = true ↔ byteSize s ≤ maxLiteralSize := by
  have htotal : ∀ d set, (∀ c, set (.single c) = charSize c.toNat) →
      (Node.cat (.look .start) (.literals s)).totalWith d set =
        frameSize d + stepSize * (byteSize s + 1) := by
    intro d set hset
    have hwhole : (Node.cat (.look .start) (.literals s)).wholeSize d
        ((Node.cat (.look .start) (.literals s)).sizeWith d set) =
        stepSize + (Node.literals s).wholeSize d ((Node.literals s).sizeWith d set) := rfl
    rw [Node.totalWith, hwhole, Node.sizeWith_literals hset, alone,
      if_neg (by simp [stepSize]), Nat.mul_add, Nat.mul_one, Nat.add_comm stepSize]
  have hbound : ∀ c : Char, (CharSet.single c).sizeBound = charSize c.toNat := by
    intro c
    simp [CharSet.sizeBound]
  have hsize : ∀ (d : Direction) (c : Char), (CharSet.single c).size d = charSize c.toNat := by
    intro d c
    simp [CharSet.size, rangeListSize]
  simp only [Node.fits, Node.size, htotal _ _ hbound, htotal _ _ (hsize _), Bool.or_self,
    List.all_cons, List.all_nil, Bool.and_true, Bool.and_eq_true, decide_eq_true_eq]
  -- reading backwards takes more room around the pattern
  simp only [maxLiteralSize, maxSize, frameSize, stepSize, rangesSize, forkSize]
  omega

example : maxLiteralSize = 327674 := by decide

/-! ## Its program -/

namespace Program

/-- From an address on, a program takes the characters of a text one by one, and then accepts. -/
def Chain (code : Code) : Nat → List Char → Prop
  | n, [] => code[n]? = some .accept
  | n, c :: s => ∃ m, code[n]? = some (.one (.single c) m) ∧ Chain code m s

theorem Chain.push {code : Code} {n : Nat} {s : List Char} (h : Chain code n s) (step : Step) :
    Chain (code.push step) n s := by
  have hkeep : ∀ {n : Nat} {x : Step}, code[n]? = some x → (code.push step)[n]? = some x := by
    intro n x hn
    obtain ⟨hlt, rfl⟩ := Array.getElem?_eq_some_iff.1 hn
    rw [Array.getElem?_push_lt hlt]
  induction s generalizing n with
  | nil => exact hkeep h
  | cons c s ih =>
    obtain ⟨m, hn, hm⟩ := h
    exact ⟨m, hkeep hn, ih hm⟩

theorem chain_write {code : Code} {next : Nat} (hnext : Chain code next []) (s : List Char) :
    Chain ((Node.literals s).write next code).2 ((Node.literals s).write next code).1 s := by
  induction s with
  | nil => exact hnext
  | cons c s ih =>
    have hwrite : (Node.literals (c :: s)).write next code =
        Writer.step (.one (.single c) ((Node.literals s).write next code).1)
          ((Node.literals s).write next code).2 := by
      obtain ⟨h, rfl⟩ | h := Node.literals_cons c s
      · rw [h]
        rfl
      · rw [h]
        rfl
    rw [hwrite]
    exact ⟨_, Array.getElem?_push_size, ih.push _⟩

theorem chain_ofNode (s : List Char) :
    Chain (ofNode (.literals s)).code (ofNode (.literals s)).start s :=
  chain_write (by simp [Chain]) s

variable {p : Program} {n m place : Nat} {s : List Char} {marks : Array Nat}

theorem at_of_getElem? {x : Step} (h : p.code[n]? = some x) : p.at_ n = x := by
  rw [at_, Array.getD_eq_getD_getElem?, h, Option.getD_some]

theorem followAll_accept (h : p.code[n]? = some .accept) (hmark : marks.getD n 0 ≠ place)
    (prev next : Option Char) :
    p.followAll prev next place [n] marks = ⟨marks.set! n place, [], true⟩ := by
  rw [followAll, List.length_singleton, Nat.add_comm, follow_cons, if_neg hmark, expand,
    at_of_getElem? h]

theorem followAll_one {set : CharSet} (h : p.code[n]? = some (.one set m))
    (hmark : marks.getD n 0 ≠ place) (prev next : Option Char) :
    p.followAll prev next place [n] marks =
      ⟨marks.set! n place, if next.any set.contains then [m] else [], false⟩ := by
  rw [followAll, List.length_singleton, Nat.add_comm, follow_cons, if_neg hmark, expand,
    at_of_getElem? h]
  exact follow_nil ..

theorem getD_set!_le {taken : Nat} (h : ∀ k, marks.getD k 0 ≤ taken) (n k : Nat) :
    (marks.set! n (taken + 1)).getD k 0 ≤ taken + 1 := by
  have hk := h k
  rw [Array.getD_eq_getD_getElem?] at hk ⊢
  rw [Array.set!_eq_setIfInBounds, Array.getElem?_setIfInBounds]
  split
  · split <;> simp
  · omega

/-- A search follows a chain as long as the characters agree. -/
theorem Chain.run (h : Chain p.code n s) {taken : Nat} (hmarks : ∀ k, marks.getD k 0 ≤ taken)
    (prev : Option Char) (text : List Char) :
    p.run [n] marks prev taken none text = if s <+: text then some (taken + s.length) else none := by
  -- on the characters of the chain; every mark is below the number of the next place
  induction s generalizing n marks taken prev text with
  | nil =>
    have hmark : marks.getD n 0 ≠ taken + 1 := Nat.ne_of_lt (Nat.lt_succ_of_le (hmarks n))
    rcases text with _ | ⟨d, text⟩
    · rw [Program.run, followAll_accept h hmark]
      simp
    · rw [Program.run, followAll_accept h hmark]
      simp
  | cons c s ih =>
    obtain ⟨m, hn, hm⟩ := h
    have hmark : marks.getD n 0 ≠ taken + 1 := Nat.ne_of_lt (Nat.lt_succ_of_le (hmarks n))
    rcases text with _ | ⟨d, text⟩
    · rw [Program.run, followAll_one hn hmark]
      simp
    · rw [Program.run, followAll_one hn hmark]
      by_cases hd : c = d
      · subst hd
        have hrest := ih hm (getD_set!_le hmarks n) (some c) text
        simp only [Option.any_some, CharSet.contains_single, beq_self_eq_true, if_true,
          List.isEmpty_cons, Bool.false_eq_true, if_false, List.reverse_singleton, hrest,
          List.prefix_cons_inj, List.length_cons, Nat.add_right_comm]
        rfl
      · have hfalse : (CharSet.single c).contains d = false := by
          rw [CharSet.contains_single]
          simpa using Ne.symm hd
        simp [hfalse, List.cons_prefix_cons, hd]

/-- **The program of a row of characters matches a text just if it starts with them.** -/
theorem matchLength?_literals (s text : List Char) :
    (ofNode (.literals s)).matchLength? text = if s <+: text then some s.length else none := by
  have hmarks : ∀ k, (Array.replicate (ofNode (.literals s)).code.size 0).getD k 0 ≤ 0 := by
    intro k
    simp [Array.getD]
  rw [matchLength?, (chain_ofNode s).run hmarks, Nat.zero_add]

end Program

end Pattern

/-! ## Compiled texts -/

namespace Regex

open Pattern (Ast Node Program anchorString isAnchored maxLiteralSize)

/-- A compiled pattern that matches a text and nothing else. -/
structure Verbatim (re : Regex) (s : List Char) : Prop where
  /-- It takes the text off the start of any text that starts with it, and takes nothing else. -/
  split?_iff : ∀ text m rest, re.split? text = some (m, rest) ↔ m = s ∧ text = s ++ rest
  /-- Its leftmost match is this one, or there is none. -/
  find?_eq : ∀ text, re.find? text = if s <+: text then some (0, s.length) else none

section

variable (s : List Char)

theorem isAnchored_escapeText : isAnchored (escapeText s) = false := by
  rw [isAnchored, Pattern.parse_escapeText]
  exact Pattern.Ast.isAnchored_literals s

theorem depth_anchored_literals : (Ast.literals s).anchored.depth ≤ Pattern.maxDepth := by
  have hdepth := Pattern.Ast.depth_literals s
  simp only [Ast.anchored, Ast.depth, Ast.depths, Pattern.maxDepth]
  omega

/-- The anchored pattern of an escaped text compiles to the chain of its characters, unless the text
    is too long. -/
theorem compile_escapeText :
    compile (anchorString (String.ofList (escapeText s))) =
      if byteSize s ≤ maxLiteralSize then
        .ok ⟨anchorString (String.ofList (escapeText s)), (Program.ofNode (.literals s)).behindStart⟩
      else .error .tooLarge := by
  have hparse : Ast.parse (String.ofList (escapeText s)).toList = .ok (.literals s) := by
    rw [String.toList_ofList, Pattern.parse_escapeText]
  have hanchored : isAnchored (String.ofList (escapeText s)).toList = false := by
    rw [String.toList_ofList, isAnchored_escapeText]
  rw [compile_wrapped hparse hanchored (depth_anchored_literals s), Pattern.Node.ofAst_literals]
  simp only [Pattern.Node.fits_literals_iff]

end

theorem verbatim_of_compile {s : List Char} {re : Regex}
    (h : compile (anchorString (String.ofList (escapeText s))) = .ok re) : re.Verbatim s := by
  have hmatch : ∀ text, re.program.matchLength? text =
      if s <+: text then some s.length else none := by
    intro text
    rw [compile_escapeText] at h
    split at h
    · cases h
      rw [(Program.closed_ofNode _).matchLength?_behindStart, Program.matchLength?_literals]
    · cases h
  have hanchored : isAnchored (anchorString (String.ofList (escapeText s))).toList = true := by
    have hparse := Pattern.parse_anchor (Pattern.parse_escapeText s) fun _ => depth_anchored_literals s
    rw [anchorString, String.toList_ofList, String.toList_ofList]
    exact Pattern.isAnchored_anchor (Pattern.parse_escapeText s) hparse
  constructor
  case split?_iff =>
    intro text m rest
    rw [split?, hmatch]
    split
    · next hprefix =>
      obtain ⟨rest', rfl⟩ := hprefix
      simp [eq_comm]
    · next hprefix =>
      simp only [Option.map_none, reduceCtorEq, false_iff]
      rintro ⟨-, rfl⟩
      exact hprefix (List.prefix_append s rest)
  case find?_eq =>
    intro text
    rw [find?_of_isAnchored h hanchored, hmatch]
    split <;> rfl

end Regex

/-! ## Texts in quotes -/

namespace SpecFile

/-- A character as it is written in quotes. -/
def quoteChar (quote c : Char) : List Char :=
  if c = '\\' ∨ c = quote then ['\\', c] else if c = '\n' then ['\\', 'n'] else [c]

/-- A text in quotes, behind the first one. -/
def quoteText (quote : Char) (s : List Char) : List Char := s.flatMap (quoteChar quote) ++ [quote]

/-- A line with a text in quotes and a handler behind it. -/
def quotedLine (quote : Char) (s : List Char) (body : String) : List Char :=
  quote :: (quoteText quote s ++ ' ' :: body.toList)

section

variable {quote : Char} (hq : quote = '"' ∨ quote = '\'')

include hq

theorem quotedSource_quoteChar (c : Char) (r : List Char) :
    quotedSource quote (quoteChar quote c ++ r) =
      (quotedSource quote r).map fun (s, r) => (c :: s, r) := by
  have hsame : quote ≠ 'n' ∧ quote ≠ 't' ∧ quote ≠ 'r' := by rcases hq with rfl | rfl <;> decide
  unfold quoteChar
  split
  · next hc =>
    have hkept : c ≠ 'n' ∧ c ≠ 't' ∧ c ≠ 'r' := by
      rcases hc with rfl | rfl
      · decide
      · exact hsame
    simp [quotedSource, hkept]
  · next hc =>
    rw [not_or] at hc
    split
    · next hnewline =>
      subst hnewline
      simp [quotedSource]
    · simp [quotedSource, hc]

/-- What is written in quotes is read back, whatever stands behind it. -/
theorem quotedSource_quoteText (s r : List Char) :
    quotedSource quote (quoteText quote s ++ r) = some (s, r) := by
  induction s with
  | nil => rcases hq with rfl | rfl <;> rfl
  | cons c s ih =>
    rw [quoteText, List.append_assoc] at ih ⊢
    rw [List.flatMap_cons, List.append_assoc, quotedSource_quoteChar hq, ih]
    rfl

theorem newline_notMem_quoteText (s : List Char) : '\n' ∉ quoteText quote s := by
  have hquote : quote ≠ '\n' := by rcases hq with rfl | rfl <;> decide
  intro h
  rcases List.mem_append.1 h with h | h
  · obtain ⟨c, -, hc⟩ := List.mem_flatMap.1 h
    unfold quoteChar at hc
    split at hc
    · next hescaped =>
      have hne : c ≠ '\n' := by
        rcases hescaped with rfl | rfl
        · decide
        · exact hquote
      simp [hne.symm] at hc
    · split at hc
      · exact absurd hc (by decide)
      · next hne => exact hne (List.mem_singleton.1 hc).symm
  · exact hquote (List.mem_singleton.1 h).symm

theorem entry_quotedLine (s : List Char) {body : String} {h : Handler} (hvisible : ¬Blank body.toList)
    (hc : Handler.compile body = .ok h) (n : Nat) :
    entry n (quotedLine quote s body) =
      .ok (.rule ⟨String.ofList (Regex.escapeText s), h⟩) := by
  have hsplit : ∀ r, splitPattern (quote :: (quoteText quote s ++ ' ' :: r)) =
      .ok (Regex.escapeText s, ' ' :: r) := by
    intro r
    have hread := quotedSource_quoteText hq s (' ' :: r)
    rcases hq with rfl | rfl
    · simp only [splitPattern, quotedPattern, hread]
    · simp only [splitPattern, quotedPattern, hread]
  have hquote : isWhiteSpace quote = false ∧ quote ≠ '%' ∧ ∀ r, isPassedOver (quote :: r) = false := by
    rcases hq with rfl | rfl
    · exact ⟨by decide, by decide, fun _ => rfl⟩
    · exact ⟨by decide, by decide, fun _ => rfl⟩
  exact entry_rule hquote.1 hquote.2.1 (fun r => hquote.2.2 _) hsplit hvisible hc n

/-- A line with a text in quotes is one rule, whose pattern is the escaped text. -/
theorem ofLines_quotedLine (s : List Char) {body : String} {h : Handler} (hbody : FitsLine body)
    (hc : Handler.compile body = .ok h) :
    Draft.ofLines (String.ofList (quotedLine quote s body)) =
      .ok (.record [⟨String.ofList (Regex.escapeText s), h⟩] {}) := by
  have hquote : quote ≠ '\n' := by rcases hq with rfl | rfl <;> decide
  have hline : '\n' ∉ quotedLine quote s body := by
    simp [quotedLine, hquote.symm, newline_notMem_quoteText hq, hbody.oneLine]
  have hlines : entries 1 (Text.lines (quotedLine quote s body)) =
      entries 1 [quotedLine quote s body] := by
    simpa using entries_lines (List.cons_ne_nil (quotedLine quote s body) [])
      (by simp [quotedLine]) (by simpa using hline) (.inl rfl) 1
  rw [Draft.ofLines, String.toList_ofList, hlines, entries, entry_quotedLine hq s hbody.visible hc]
  rfl

end

/-- How the spec of one rule is made whose pattern is an escaped text. -/
theorem normalize_escapeText (s : List Char) (h : Handler) :
    Spec.normalize (.record [⟨String.ofList (Regex.escapeText s), h⟩] {}) =
      match Regex.compile (Pattern.anchorString (String.ofList (Regex.escapeText s))) with
      | .ok re => .ok ⟨[⟨re, h⟩], {}⟩
      | .error e => .error ⟨0, String.ofList (Regex.escapeText s), e⟩ := by
  simp only [Spec.normalize, Draft.rules, DraftRule.compileAll, DraftRule.compile]
  cases Regex.compile (Pattern.anchorString (String.ofList (Regex.escapeText s))) <;> rfl

/-- What a line with a text in quotes stands for. -/
structure StandsForText (line : List Char) (s : List Char) (h : Handler) (pattern : String) : Prop where
  /-- It is one rule. -/
  draft : Draft.ofLines (String.ofList line) = .ok (.record [⟨pattern, h⟩] {})
  /-- The rule matches the text and nothing else. -/
  accepted : byteSize s ≤ Pattern.maxLiteralSize →
    ∃ re, Spec.normalize (.record [⟨pattern, h⟩] {}) = .ok ⟨[⟨re, h⟩], {}⟩ ∧ re.Verbatim s
  /-- A text that is too long is refused. -/
  refused : Pattern.maxLiteralSize < byteSize s →
    Spec.normalize (.record [⟨pattern, h⟩] {}) = .error ⟨0, pattern, .tooLarge⟩

/-- **A pattern in quotes matches its text and nothing else**, unless it is too large to be compiled. -/
theorem standsForText_quotedLine {quote : Char} (hq : quote = '"' ∨ quote = '\'') (s : List Char)
    {body : String} (hbody : FitsLine body) :
    ∃ h pattern, Handler.compile body = .ok h ∧ StandsForText (quotedLine quote s body) s h pattern := by
  obtain ⟨h, hc⟩ := hbody.exists_handler
  refine ⟨h, String.ofList (Regex.escapeText s), hc, ?_⟩
  constructor
  case draft => exact ofLines_quotedLine hq s hbody hc
  case accepted =>
    intro hs
    have hcompile := Regex.compile_escapeText s
    rw [if_pos hs] at hcompile
    refine ⟨_, ?_, Regex.verbatim_of_compile hcompile⟩
    rw [normalize_escapeText, hcompile]
  case refused =>
    intro hs
    rw [normalize_escapeText, Regex.compile_escapeText, if_neg (Nat.not_le_of_lt hs)]

/-- Signs of patterns, both quotes, a backslash, a newline and characters of more than one byte. -/
def awkwardText : List Char := "(.*)#[a-z]{2}|^$ '\"\\\n\t é→ x".toList

theorem standsForText_quotedLine_awkward :
    ('"' = '"' ∨ '"' = '\'') ∧ ('\'' = '"' ∨ '\'' = '\'') ∧ FitsLine "LABEL" ∧
    byteSize awkwardText ≤ Pattern.maxLiteralSize ∧
    (∃ h pattern, Handler.compile "LABEL" = .ok h ∧
      StandsForText (quotedLine '"' awkwardText "LABEL") awkwardText h pattern) ∧
    ∃ h pattern, Handler.compile "LABEL" = .ok h ∧
      StandsForText (quotedLine '\'' awkwardText "LABEL") awkwardText h pattern := by
  have hbody : FitsLine "LABEL" := by decide +kernel
  exact ⟨.inl rfl, .inr rfl, hbody, by decide +kernel,
    standsForText_quotedLine (.inl rfl) awkwardText hbody,
    standsForText_quotedLine (.inr rfl) awkwardText hbody⟩

theorem byteSize_replicate (n : Nat) (c : Char) : byteSize (List.replicate n c) = n * c.utf8Size := by
  induction n with
  | zero => simp
  | succ n ih => rw [List.replicate_succ, byteSize_cons, ih, Nat.succ_mul, Nat.add_comm]

/-- A long text makes a rule, but no spec. -/
theorem normalize_long :
    ∃ d : DraftRule, Draft.ofLines
        (String.ofList (quotedLine '"' (List.replicate 400000 'a') "LABEL")) = .ok (.record [d] {}) ∧
      Spec.normalize (.record [d] {}) = .error ⟨0, d.pattern, .tooLarge⟩ := by
  have hbody : FitsLine "LABEL" := by decide +kernel
  obtain ⟨h, hc⟩ := hbody.exists_handler
  have hlong : ¬byteSize (List.replicate 400000 'a') ≤ Pattern.maxLiteralSize := by
    rw [byteSize_replicate]
    decide
  refine ⟨⟨_, h⟩, ofLines_quotedLine (.inl rfl) _ hbody hc, ?_⟩
  rw [normalize_escapeText, Regex.compile_escapeText, if_neg hlong]

end SpecFile

end OrderedLexer
