/-
  Anchored patterns match at the start of a text only.

  Wrapping a pattern that is well formed by itself gives `\A` followed by a group of that pattern
  (`parse_wrap`): its items are read as before (`Reads.wrap`), and the builder puts them into the
  group that the wrapper has opened (`Builder.steps_under`), since a well-formed pattern closes no
  group that it has not opened.

  `normalize_anchored` draws the conclusion for specs whose patterns are well formed.  A pattern
  that is not may still make a spec, if its brackets pair with those of the wrapper; then nothing of
  this holds (`normalize_crossing`).
-/
import OrderedLexer.Proofs.Reading
import OrderedLexer.Spec

namespace OrderedLexer.Pattern

open Text (isWhiteSpace)

/-! ## Reading a text -/

/-- How the items of a text are read, in a mode. -/
inductive Reads : Mode → List Char → List Item → Prop
  /-- The end. -/
  | done {m : Mode} : Reads m [] []
  /-- White space that is ignored. -/
  | blank {m : Mode} {c : Char} {r : List Char} {is : List Item}
      (hblank : (m.verbose && isWhiteSpace c) = true) (h : Reads m r is) : Reads m (c :: r) is
  /-- A comment that the end of the text ends. -/
  | openComment {m : Mode} {c : Char} {r : List Char}
      (hblank : (m.verbose && isWhiteSpace c) = false) (hsign : (m.verbose && c == '#') = true)
      (hr : r.dropWhile (· != '\n') = []) : Reads m (c :: r) [.comment false]
  /-- A comment that a newline ends. -/
  | comment {m : Mode} {c d : Char} {r rest : List Char} {is : List Item}
      (hblank : (m.verbose && isWhiteSpace c) = false) (hsign : (m.verbose && c == '#') = true)
      (hr : r.dropWhile (· != '\n') = d :: rest) (h : Reads m rest is) :
      Reads m (c :: r) (.comment true :: is)
  /-- Any other item. -/
  | item {m : Mode} {c : Char} {r rest : List Char} {i : Item} {is : List Item}
      (hblank : (m.verbose && isWhiteSpace c) = false) (hsign : (m.verbose && c == '#') = false)
      (hnext : m.next c r = .ok (i, rest)) (h : Reads (m.after i) rest is) :
      Reads m (c :: r) (i :: is)

theorem Reads.items {m : Mode} {cs : List Char} {is : List Item} (h : Reads m cs is) :
    items m cs = .ok is := by
  induction h with
  | done => rw [Pattern.items]
  | blank hblank _ ih => rw [Pattern.items, if_pos hblank, ih]
  | openComment hblank hsign hr =>
    rw [Pattern.items, if_neg (by simp [hblank]), if_pos hsign]
    split
    · rfl
    · next h => rw [hr] at h; cases h
  | comment hblank hsign hr _ ih =>
    rw [Pattern.items, if_neg (by simp [hblank]), if_pos hsign]
    split
    · next h => rw [hr] at h; cases h
    · next h => rw [hr] at h; cases h; rw [ih]; rfl
  | item hblank hsign hnext _ ih =>
    rw [Pattern.items, if_neg (by simp [hblank]), if_neg (by simp [hsign])]
    split
    · next h => rw [hnext] at h; cases h
    · next h => rw [hnext] at h; cases h; rw [ih]; rfl

theorem exists_of_map_eq_ok {α β : Type} {x : Except Error α} {f : α → β} {b : β}
    (h : x.map f = .ok b) : ∃ a, x = .ok a ∧ f a = b := by
  cases x with
  | error e => cases h
  | ok a => exact ⟨a, rfl, Except.ok.inj h⟩

theorem reads_of_items (m : Mode) (cs : List Char) {is : List Item} (h : items m cs = .ok is) :
    Reads m cs is := by
  induction m, cs using Pattern.items.induct generalizing is with
  | case1 m =>
    rw [Pattern.items] at h
    cases h
    exact .done
  | case2 m c r hblank ih =>
    rw [Pattern.items, if_pos hblank] at h
    exact .blank hblank (ih h)
  | case3 m c r hblank hsign hr =>
    rw [Pattern.items, if_neg hblank, if_pos hsign] at h
    split at h
    · cases h
      exact .openComment (Bool.eq_false_iff.2 hblank) hsign hr
    · next h' => rw [hr] at h'; cases h'
  | case4 m c r hblank hsign d rest hr hlength ih =>
    rw [Pattern.items, if_neg hblank, if_pos hsign] at h
    split at h
    · next h' => rw [hr] at h'; cases h'
    · next h' =>
      rw [hr] at h'
      cases h'
      obtain ⟨is, hrest, rfl⟩ := exists_of_map_eq_ok h
      exact .comment (Bool.eq_false_iff.2 hblank) hsign hr (ih hrest)
  | case5 m c r hblank hsign e hnext =>
    rw [Pattern.items, if_neg hblank, if_neg hsign] at h
    split at h
    · cases h
    · next h' => rw [hnext] at h'; cases h'
  | case6 m c r hblank hsign i rest hnext hlength ih =>
    rw [Pattern.items, if_neg hblank, if_neg hsign] at h
    split at h
    · cases h
    · next h' =>
      rw [hnext] at h'
      cases h'
      obtain ⟨is, hrest, rfl⟩ := exists_of_map_eq_ok h
      exact .item (Bool.eq_false_iff.2 hblank) (Bool.eq_false_iff.2 hsign) hnext (ih hrest)

/-! ## Builders -/

namespace Builder

variable {b b' : Builder} {i : Item} {is js : List Item} {k : GroupKind} {l : Level}

theorem steps_append (h : b.steps is = .ok b') : b.steps (is ++ js) = b'.steps js := by
  induction is generalizing b with
  | nil => cases h; rfl
  | cons i is ih =>
    simp only [List.cons_append, steps] at h ⊢
    split at h
    · exact ih h
    · cases h

/-- A builder inside one more group. -/
def under (k : GroupKind) (l : Level) (b : Builder) : Builder :=
  { b with outer := b.outer ++ [(k, l)] }

/-- An item does the same inside one more group. -/
theorem step_under (h : b.step i = .ok b') : (b.under k l).step i = .ok (b'.under k l) := by
  obtain ⟨level, outer, classes, names⟩ := b
  cases i with
  | atom a => cases h; rfl
  | bar => cases h; rfl
  | flags changes => cases h; rfl
  | times min max greedy =>
    obtain ⟨level', hlevel, rfl⟩ := exists_of_map_eq_ok h
    simp only [step, under, hlevel]
    rfl
  | openGroup kind =>
    cases kind with
    | capture => cases h; rfl
    | plain changes => cases h; rfl
    | named name =>
      simp only [step, under] at h ⊢
      split at h
      · cases h
      · next hname =>
        cases h
        exact if_neg hname
  | closeGroup =>
    rcases outer with _ | ⟨⟨k', l'⟩, outer⟩
    · cases h
    · cases h; rfl
  | openClass negated literals => cases h; rfl
  | closeClass =>
    rcases classes with _ | ⟨c, _ | ⟨d, classes⟩⟩
    · cases h
    · cases h; rfl
    · cases h; rfl
  | setOp o =>
    rcases classes with _ | ⟨c, classes⟩
    · cases h
    · cases h; rfl
  | member s =>
    rcases classes with _ | ⟨c, classes⟩
    · cases h
    · cases h; rfl
  | comment closed => cases h; rfl

theorem steps_under (h : b.steps is = .ok b') : (b.under k l).steps is = .ok (b'.under k l) := by
  induction is generalizing b with
  | nil => cases h; rfl
  | cons i is ih =>
    simp only [steps] at h ⊢
    split at h
    · next b₁ hstep =>
      rw [step_under hstep]
      exact ih h
    · cases h

end Builder

/-! ## Modes inside one more group -/

/-- A mode inside one more group, outside which blanks are not ignored. -/
def Mode.under (m : Mode) : Mode := { m with outer := m.outer ++ [false] }

/-- A mode and a builder know of the same groups and classes. -/
structure Mode.Fits (m : Mode) (b : Builder) : Prop where
  outer : m.outer.length = b.outer.length
  classes : m.classes = b.classes.length

theorem Mode.Fits.outside {m : Mode} {b : Builder} (h : m.Fits b) (hb : b.classes = []) :
    m.classes = 0 := by
  rw [h.classes, hb]
  rfl

/-- An item leaves them so, and what it does to the mode it does inside one more group too: no
    builder closes a group that it has not opened. -/
theorem Mode.Fits.step {m : Mode} {b b' : Builder} {i : Item} (h : m.Fits b)
    (hstep : b.step i = .ok b') : (m.after i).Fits b' ∧ m.under.after i = (m.after i).under := by
  obtain ⟨level, outer, classes, names⟩ := b
  obtain ⟨verbose, modes, count⟩ := m
  obtain ⟨houter, rfl⟩ : modes.length = outer.length ∧ count = classes.length := ⟨h.1, h.2⟩
  cases i with
  | atom a => cases hstep; exact ⟨⟨houter, rfl⟩, rfl⟩
  | bar => cases hstep; exact ⟨⟨houter, rfl⟩, rfl⟩
  | flags changes => cases hstep; exact ⟨⟨houter, rfl⟩, rfl⟩
  | times min max greedy =>
    obtain ⟨level', -, rfl⟩ := exists_of_map_eq_ok hstep
    exact ⟨⟨houter, rfl⟩, rfl⟩
  | openGroup kind =>
    cases kind with
    | capture => cases hstep; exact ⟨⟨congrArg Nat.succ houter, rfl⟩, rfl⟩
    | plain changes => cases hstep; exact ⟨⟨congrArg Nat.succ houter, rfl⟩, rfl⟩
    | named name =>
      simp only [Builder.step] at hstep
      split at hstep
      · cases hstep
      · cases hstep
        exact ⟨⟨congrArg Nat.succ houter, rfl⟩, rfl⟩
  | closeGroup =>
    -- only here the group around makes a difference, and only to a builder that fails without it
    rcases outer with _ | ⟨⟨k, l⟩, outer⟩
    · cases hstep
    · rcases modes with _ | ⟨v, modes⟩
      · cases houter
      · cases hstep
        exact ⟨⟨Nat.succ.inj houter, rfl⟩, rfl⟩
  | openClass negated literals => cases hstep; exact ⟨⟨houter, rfl⟩, rfl⟩
  | closeClass =>
    rcases classes with _ | ⟨c, _ | ⟨d, classes⟩⟩
    · cases hstep
    · cases hstep; exact ⟨⟨houter, rfl⟩, rfl⟩
    · cases hstep; exact ⟨⟨houter, rfl⟩, rfl⟩
  | setOp o =>
    rcases classes with _ | ⟨c, classes⟩
    · cases hstep
    · cases hstep; exact ⟨⟨houter, rfl⟩, rfl⟩
  | member s =>
    rcases classes with _ | ⟨c, classes⟩
    · cases hstep
    · cases hstep; exact ⟨⟨houter, rfl⟩, rfl⟩
  | comment closed => cases hstep; exact ⟨⟨houter, rfl⟩, rfl⟩

/-! ## Wrapping a pattern -/

/-- What closes a group behind some items: a comment at their end has to be closed first. -/
def closing (is : List Item) : List Char := if commentAtEnd is then ['\n', ')'] else [')']

theorem ending_closing (is : List Item) : Ending (closing is) := by
  intro c hc
  unfold closing at hc
  split at hc
  · simpa using hc
  · exact .inr (List.mem_singleton.1 hc)

theorem closing_cons {i : Item} (h : i ≠ .comment false) (is : List Item) :
    closing (i :: is) = closing is := by
  have hcomment : commentAtEnd (i :: is) = commentAtEnd is := by
    rcases is with _ | ⟨j, is⟩
    · cases i with
      | comment closed =>
        cases closed with
        | false => exact absurd rfl h
        | true => rfl
      | _ => rfl
    · rw [commentAtEnd, commentAtEnd, List.getLast?_cons_cons]
  rw [closing, closing, hcomment]

/-- A bracket behind everything else closes a group. -/
theorem Reads.close {m : Mode} (h : m.classes = 0) : Reads m [')'] [.closeGroup] := by
  have hnext : m.next ')' [] = .ok (.closeGroup, []) := by
    rw [Mode.next, if_pos h]
    rfl
  exact .item (by simp [show isWhiteSpace ')' = false by decide]) (by simp) hnext .done

/-- The items of a text are read in one more group as by themselves, if they are in order. -/
theorem Reads.wrap {m : Mode} {cs : List Char} {is : List Item} (h : Reads m cs is) {b b' : Builder}
    (hfits : m.Fits b) (hsteps : b.steps is = .ok b') (hend : b'.classes = []) :
    ∃ is', Reads m.under (cs ++ closing is) (is' ++ [.closeGroup]) ∧
      ∀ b : Builder, b.steps is' = b.steps is := by
  -- the builder goes along with the reading: it tells that no class is open at the end
  induction h generalizing b with
  | done =>
    cases hsteps
    exact ⟨[], Reads.close (hfits.outside hend), fun _ => rfl⟩
  | blank hblank _ ih =>
    obtain ⟨is', hread, heq⟩ := ih hfits hsteps
    exact ⟨is', .blank hblank hread, heq⟩
  | @openComment m c r hblank hsign hr =>
    cases hsteps
    have hcut : (r ++ ['\n', ')']).dropWhile (· != '\n') = ['\n', ')'] := by
      rw [List.dropWhile_append, hr]
      rfl
    exact ⟨[.comment true], .comment hblank hsign hcut (Reads.close (hfits.outside hend)),
      fun _ => rfl⟩
  | comment hblank hsign hr _ ih =>
    obtain ⟨is', hread, heq⟩ := ih hfits hsteps
    refine ⟨.comment true :: is', ?_, heq⟩
    rw [closing_cons (by simp)]
    exact .comment hblank hsign (Scan.dropWhile_append hr) hread
  | @item m c r rest i is hblank hsign hnext hrest ih =>
    simp only [Builder.steps] at hsteps
    split at hsteps
    · next b₁ hstep =>
      obtain ⟨hfits', hunder⟩ := hfits.step hstep
      obtain ⟨is', hread, heq⟩ := ih hfits' hsteps
      have hlast : rest = [] → (m.after i).classes = 0 := by
        rintro rfl
        cases hrest
        cases hsteps
        exact hfits'.outside hend
      have hnext' := Mode.next_append (ending_closing is) hnext hlast
      refine ⟨i :: is', ?_, fun b => by simp only [Builder.steps, heq]⟩
      rw [closing_cons (Mode.next_ne_comment hnext false)]
      refine .item hblank hsign hnext' ?_
      rw [hunder]
      exact hread
    · cases hsteps

/-- `\A` followed by a group of a pattern. -/
def Ast.anchored (x : Ast) : Ast := .concat [.atom (.look .textStart), .group (.plain []) x]

/-- What the wrapper opens, as items. -/
def openItems : List Item := [.atom (.look .textStart), .openGroup (.plain [])]

theorem Reads.anchorOpen {cs : List Char} {is : List Item} (h : Reads (Mode.under {}) cs is) :
    Reads {} (anchorOpen ++ cs) (openItems ++ is) := by
  have hstart : Mode.next {} '\\' ('A' :: '(' :: '?' :: ':' :: cs) =
      .ok (.atom (.look .textStart), '(' :: '?' :: ':' :: cs) := rfl
  have hgroup : Mode.next {} '(' ('?' :: ':' :: cs) = .ok (.openGroup (.plain []), cs) := rfl
  exact .item rfl rfl hstart (.item rfl rfl hgroup h)

/-- The items of a well-formed pattern, and the builder that has read them. -/
theorem exists_of_parse {cs : List Char} {x : Ast} (h : Ast.parse cs = .ok x) :
    ∃ is b, Reads {} cs is ∧ ({} : Builder).steps is = .ok b ∧ b.classes = [] ∧ b.outer = [] ∧
      b.level.ast = x ∧ anchorClose cs = closing is := by
  unfold Ast.parse at h
  split at h
  · next is his =>
    have hok : (Ast.ofItems is).isOk = true := by rw [h]; rfl
    have hclose : anchorClose cs = closing is := by
      simp only [anchorClose, endsInComment, his, hok, Bool.and_true, closing]
    unfold Ast.ofItems at h
    split at h
    · next b hsteps =>
      obtain ⟨level, outer, classes, names⟩ := b
      rcases classes with _ | ⟨c, classes⟩
      · rcases outer with _ | ⟨g, outer⟩
        · simp only [Builder.finish] at h
          split at h
          · exact ⟨is, _, reads_of_items _ _ his, hsteps, rfl, rfl, Except.ok.inj h, hclose⟩
          · cases h
        · cases h
      · cases h
    · cases h
  · cases h

/-- **Wrapping a well-formed pattern anchors it**, unless it nests too many levels. -/
theorem parse_wrap {cs : List Char} {x : Ast} (h : Ast.parse cs = .ok x) :
    Ast.parse (anchorOpen ++ cs ++ anchorClose cs) =
      if x.anchored.depth ≤ maxDepth then .ok x.anchored else .error .tooDeep := by
  obtain ⟨is, b, hreads, hsteps, hclasses, houter, rfl, hclose⟩ := exists_of_parse h
  obtain ⟨is', hwrap, heq⟩ := hreads.wrap ⟨rfl, rfl⟩ hsteps hclasses
  rw [← heq] at hsteps
  -- the wrapper leaves the builder of the pattern one group further in
  have hopen : ({} : Builder).steps openItems =
      .ok (({} : Builder).under (.plain []) { parts := [.atom (.look .textStart)] }) := rfl
  have hsteps' : ({} : Builder).steps (openItems ++ (is' ++ [.closeGroup])) =
      (b.under (.plain []) { parts := [.atom (.look .textStart)] }).steps [.closeGroup] := by
    rw [Builder.steps_append hopen, Builder.steps_append (Builder.steps_under hsteps)]
  obtain ⟨level, outer, classes, names⟩ := b
  obtain rfl : classes = [] := hclasses
  obtain rfl : outer = [] := houter
  rw [Ast.parse, List.append_assoc, hclose, hwrap.anchorOpen.items]
  simp only [Ast.ofItems, hsteps']
  rfl

/-! ## Anchored patterns -/

theorem isAnchored_iff {cs : List Char} :
    isAnchored cs = true ↔ ∃ x, Ast.parse cs = .ok (Ast.anchored x) := by
  refine ⟨fun h => ?_, fun ⟨x, hx⟩ => ?_⟩
  · unfold isAnchored Ast.isAnchored at h
    split at h
    · next x hx =>
      split at h
      · exact ⟨_, hx⟩
      · cases h
    · cases h
  · rw [isAnchored, hx]
    rfl

theorem anchor_of_isAnchored {cs : List Char} (h : isAnchored cs = true) : anchor cs = cs := if_pos h

/-- The anchored form of a well-formed pattern is anchored. -/
theorem isAnchored_anchor {cs : List Char} {x y : Ast} (h : Ast.parse cs = .ok x)
    (hy : Ast.parse (anchor cs) = .ok y) : isAnchored (anchor cs) = true := by
  by_cases ha : isAnchored cs = true
  · rw [anchor_of_isAnchored ha]
    exact ha
  · have hwrap := parse_wrap h
    rw [anchor, if_neg ha] at hy ⊢
    rw [hy] at hwrap
    split at hwrap
    · cases hwrap
      exact isAnchored_iff.2 ⟨x, hy⟩
    · cases hwrap

/-! ## Searching an anchored pattern -/

/-- The meaning of an anchored pattern is that of the pattern behind the test for the start of the
    text. -/
theorem Node.ofAst_anchored (f : Flags) (x : Ast) :
    Node.ofAst f x.anchored = (Node.ofAst f x).map fun (n, _) => (.cat (.look .start) n, f) := by
  have happly : f.apply [] = f := rfl
  rcases hx : Node.ofAst f x with e | ⟨n, f'⟩ <;>
    simp only [Ast.anchored, Node.ofAst, Node.ofAsts, Node.ofAtom, Except.map, happly, hx]
  rfl

namespace Program

/-- The first step of a program tests for the start of the text. -/
structure StartsAtStart (p : Program) : Prop where
  start_lt : p.start < p.code.size
  exists_next : ∃ next, p.at_ p.start = .look .start next

theorem ofNode_startsAtStart (y : Node) : (ofNode (.cat (.look .start) y)).StartsAtStart := by
  refine ⟨?_, (y.write 0 #[.accept]).1, ?_⟩
  · simp [ofNode, Node.write, Writer.step]
  · simp [ofNode, Node.write, Writer.step, at_]

variable {p : Program}

/-- Behind another character the test fails, and no thread goes on. -/
theorem StartsAtStart.followAll (h : p.StartsAtStart) (prev : Char) (next : Option Char) :
    ∃ marks, p.followAll (some prev) next 1 [p.start] (Array.replicate p.code.size 0) =
      ⟨marks, [], false⟩ := by
  obtain ⟨m, hstep⟩ := h.exists_next
  obtain ⟨n, hn⟩ := Nat.exists_eq_succ_of_ne_zero (Nat.ne_zero_of_lt h.start_lt)
  have hfuel : [p.start].length + 2 * p.code.size = 2 * n + 1 + 1 + 1 := by
    simp only [List.length_singleton, hn]
    omega
  have hmark : ((Array.replicate p.code.size 0).getD p.start 0 == 1) = false := by
    simp [Array.getD]
  have hfails : Look.holds (some prev) next .start = false := rfl
  refine ⟨(Array.replicate p.code.size 0).set! p.start 1, ?_⟩
  rw [Program.followAll, hfuel, follow, hmark, if_neg Bool.false_ne_true, hstep]
  simp only [hfails, Bool.false_eq_true, if_false, follow]

theorem StartsAtStart.run (h : p.StartsAtStart) (prev : Char) (text : List Char) :
    p.run [p.start] (Array.replicate p.code.size 0) (some prev) 0 none text = none := by
  rcases text with _ | ⟨c, rest⟩
  · obtain ⟨marks, hf⟩ := h.followAll prev none
    rw [Program.run, hf]
    rfl
  · obtain ⟨marks, hf⟩ := h.followAll prev (some c)
    rw [Program.run, hf]
    rfl

end Program

end OrderedLexer.Pattern

namespace OrderedLexer

open Pattern (Ast Node Program)

/-! ## Specs -/

theorem exists_of_isOk {ε α : Type} {x : Except ε α} (h : x.isOk = true) : ∃ a, x = .ok a := by
  cases x with
  | error e => cases h
  | ok a => exact ⟨a, rfl⟩

/-- The length of the preferred match behind the first part of a text. -/
def Regex.matchBehind? (re : Regex) (before text : List Char) : Option Nat :=
  re.program.run [re.program.start] (Array.replicate re.program.code.size 0) before.getLast? 0 none
    text

/-- At the start of a text it is the preferred match there. -/
theorem Regex.matchBehind?_nil (re : Regex) (text : List Char) :
    re.matchBehind? [] text = re.program.matchLength? text := rfl

theorem Regex.exists_of_compile {pattern : String} {re : Regex} (h : compile pattern = .ok re) :
    re.pattern = pattern ∧ ∃ x n f, Ast.parse pattern.toList = .ok x ∧
      Node.ofAst {} x = .ok (n, f) ∧ re.program = .ofNode n := by
  unfold compile at h
  split at h
  · cases h
  · next x hx =>
    split at h
    · cases h
    · next n f hn =>
      split at h
      · cases h
        exact ⟨rfl, x, n, f, hx, hn, rfl⟩
      · cases h

/-- An anchored pattern has no match behind the start of a text. -/
theorem Regex.matchBehind?_of_isAnchored {pattern : String} {re : Regex}
    (h : compile pattern = .ok re) (ha : Pattern.isAnchored pattern.toList = true)
    {before : List Char} (hbefore : before ≠ []) (text : List Char) :
    re.matchBehind? before text = none := by
  obtain ⟨-, x, n, f, hx, hn, hp⟩ := exists_of_compile h
  obtain ⟨y, hy⟩ := Pattern.isAnchored_iff.1 ha
  cases hx.symm.trans hy
  rw [Node.ofAst_anchored] at hn
  obtain ⟨⟨z, f'⟩, -, hz⟩ := Pattern.exists_of_map_eq_ok hn
  cases hz
  have hstart : re.program.StartsAtStart := hp ▸ Program.ofNode_startsAtStart z
  rw [matchBehind?, List.getLast?_eq_some_getLast hbefore]
  exact hstart.run _ text

/-- A rule is anchored, and finds nothing behind the start of a text. -/
structure Rule.Anchored (r : Rule) : Prop where
  isAnchored : Pattern.isAnchored r.regex.pattern.toList = true
  matchBehind?_eq_none : ∀ before text, before ≠ [] → r.regex.matchBehind? before text = none

/-- A rule as a draft. -/
def Rule.draft (r : Rule) : DraftRule := ⟨r.regex.pattern, r.handler⟩

/-- A spec as a draft. -/
def Spec.draft (spec : Spec) : Draft := .record (spec.rules.map Rule.draft) spec.options

/-- A draft whose pattern is well formed by itself becomes an anchored rule, which is its own draft
    from then on. -/
theorem DraftRule.compile_anchored {d : DraftRule} {index : Nat} {r : Rule}
    (h : d.compile index = .ok r) (hd : (Ast.parse d.pattern.toList).isOk = true) :
    r.Anchored ∧ ∀ index, r.draft.compile index = .ok r := by
  unfold compile at h
  split at h
  · next re hre =>
    cases h
    obtain ⟨hpattern, x, n, f, hx, -, -⟩ := Regex.exists_of_compile hre
    have hlist : (Pattern.anchorString d.pattern).toList = Pattern.anchor d.pattern.toList :=
      String.toList_ofList
    have ha : Pattern.isAnchored (Pattern.anchorString d.pattern).toList = true := by
      rw [hlist] at hx ⊢
      obtain ⟨y, hparse⟩ := exists_of_isOk hd
      exact Pattern.isAnchored_anchor hparse hx
    refine ⟨⟨by rwa [hpattern], fun before text hbefore => ?_⟩, fun index => ?_⟩
    · exact Regex.matchBehind?_of_isAnchored hre ha hbefore text
    · have hagain : Pattern.anchorString re.pattern = re.pattern := by
        rw [hpattern, Pattern.anchorString, Pattern.anchor_of_isAnchored ha, String.ofList_toList]
      simp only [Rule.draft, compile]
      rw [hagain, hpattern, hre]
  · cases h

theorem DraftRule.compileAll_anchored {ds : List DraftRule} {index : Nat} {rs : List Rule}
    (h : compileAll index ds = .ok rs) (hd : ∀ d ∈ ds, (Ast.parse d.pattern.toList).isOk = true) :
    (∀ r ∈ rs, r.Anchored) ∧ compileAll index (rs.map Rule.draft) = .ok rs := by
  induction ds generalizing index rs with
  | nil =>
    cases h
    exact ⟨by simp, rfl⟩
  | cons d ds ih =>
    obtain ⟨hhead, htail⟩ := List.forall_mem_cons.1 hd
    unfold compileAll at h
    split at h
    · cases h
    · next r hr =>
      split at h
      · cases h
      · next rs' hrs =>
        cases h
        obtain ⟨hr', hagain⟩ := compile_anchored hr hhead
        obtain ⟨hrs', hagains⟩ := ih hrs htail
        refine ⟨List.forall_mem_cons.2 ⟨hr', hrs'⟩, ?_⟩
        rw [List.map_cons, compileAll, hagain, hagains]

/-- **Well-formed patterns are anchored.**  If the patterns of a draft are well formed by themselves,
    every rule of its spec is anchored and matches at the start of a text only, and the spec is the
    spec of its own patterns. -/
theorem Spec.normalize_anchored {d : Draft} {spec : Spec} (h : Spec.normalize d = .ok spec)
    (hd : ∀ r ∈ d.rules, (Ast.parse r.pattern.toList).isOk = true) :
    (∀ r ∈ spec.rules, r.Anchored) ∧ Spec.normalize spec.draft = .ok spec := by
  unfold normalize at h
  split at h
  · next rules hrules =>
    cases h
    obtain ⟨hanchored, hagain⟩ := DraftRule.compileAll_anchored hrules hd
    refine ⟨hanchored, ?_⟩
    rw [normalize]
    simp only [draft, Draft.rules, hagain]
    rfl
  · cases h

/-- The texts of the patterns of a spec. -/
def Spec.patterns (spec : Spec) : List String := spec.rules.map fun r => r.regex.pattern

theorem exists_of_toOption_map {ε α β : Type} {x : Except ε α} {f : α → β} {b : β}
    (h : x.toOption.map f = some b) : ∃ a, x = .ok a ∧ f a = b := by
  cases x with
  | error e => cases h
  | ok a => exact ⟨a, rfl, Option.some.inj h⟩

/-- A choice, a pattern that ends in a comment, and one that is anchored. -/
def mixedDraft : Draft := .bare [
  ⟨"a|b", .label "CHOICE"⟩, ⟨"(?x) c # to the end", .label "COMMENT"⟩, ⟨"\\A(?:d)", .label "ANCHORED"⟩]

theorem Spec.normalize_anchored_mixed :
    ∃ spec, Spec.normalize mixedDraft = .ok spec ∧
      (∀ r ∈ mixedDraft.rules, (Ast.parse r.pattern.toList).isOk = true) ∧
      spec.patterns = ["\\A(?:a|b)", "\\A(?:(?x) c # to the end\n)", "\\A(?:d)"] ∧
      (∀ r ∈ spec.rules, r.Anchored) ∧ Spec.normalize spec.draft = .ok spec := by
  have hpatterns : (Spec.normalize mixedDraft).toOption.map Spec.patterns =
      some ["\\A(?:a|b)", "\\A(?:(?x) c # to the end\n)", "\\A(?:d)"] := by decide +kernel
  have hparse : ∀ r ∈ mixedDraft.rules, (Ast.parse r.pattern.toList).isOk = true := by
    decide +kernel
  obtain ⟨spec, hspec, hpatterns⟩ := exists_of_toOption_map hpatterns
  exact ⟨spec, hspec, hparse, hpatterns, Spec.normalize_anchored hspec hparse⟩

/-- A pattern whose brackets pair with those of the wrapper. -/
def crossingDraft : Draft := .bare [⟨"a)|(b", .label "CROSSING"⟩]

/-- Its rule is not anchored: it finds `b` behind another character, and its pattern is wrapped
    again when the spec is normalized again. -/
theorem Spec.normalize_crossing :
    ∃ spec, Spec.normalize crossingDraft = .ok spec ∧ spec.patterns = ["\\A(?:a)|(b)"] ∧
      (∃ r ∈ spec.rules, Pattern.isAnchored r.regex.pattern.toList = false ∧
        r.regex.matchBehind? ['x'] ['b'] = some 1) ∧
      ∃ again, Spec.normalize spec.draft = .ok again ∧
        again.patterns = ["\\A(?:\\A(?:a)|(b))"] := by
  have hspec : (Spec.normalize crossingDraft).toOption.map (fun spec =>
      (spec.patterns, spec.rules.map fun r =>
        (Pattern.isAnchored r.regex.pattern.toList, r.regex.matchBehind? ['x'] ['b']))) =
      some (["\\A(?:a)|(b)"], [(false, some 1)]) := by decide +kernel
  have hagain : ((Spec.normalize crossingDraft).toOption.bind fun spec =>
      (Spec.normalize spec.draft).toOption).map Spec.patterns =
      some ["\\A(?:\\A(?:a)|(b))"] := by decide +kernel
  obtain ⟨spec, hok, hspec⟩ := exists_of_toOption_map hspec
  obtain ⟨hpatterns, hrules⟩ := Prod.mk.inj hspec
  have hmem : (false, some 1) ∈ spec.rules.map fun r =>
      (Pattern.isAnchored r.regex.pattern.toList, r.regex.matchBehind? ['x'] ['b']) := by
    rw [hrules]
    exact List.mem_singleton_self _
  obtain ⟨r, hr, hfound⟩ := List.mem_map.1 hmem
  rw [hok] at hagain
  exact ⟨spec, hok, hpatterns, ⟨r, hr, Prod.mk.inj hfound⟩, exists_of_toOption_map hagain⟩

end OrderedLexer
