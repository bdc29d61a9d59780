/-
  What an anchored pattern finds.

  `Regex.find?` is the leftmost match in a text, by trying one place after the other.  It starts at the
  start of the text if there is a match there (`find?_start_iff`), and for an anchored pattern it starts
  nowhere else (`find?_of_isAnchored`).

  `anchoredForm_of_parse`: a pattern that is well formed by itself can be anchored, once and for all, and
  its anchored form finds in a text just the match that the pattern has at the start of the text.  The
  wrapper keeps the tree of the pattern (`parse_anchor`) and puts one step in front of its program.
-/
import OrderedLexer.Proofs.Anchoring
import OrderedLexer.Proofs.Programs
import Mathlib.Data.List.Basic

namespace OrderedLexer

open Pattern (Ast Node Program anchor anchorString isAnchored)

/-! ## Leftmost matches -/

namespace Regex

/-- The leftmost match in a text: the number of characters before it, and its length. -/
def find? (re : Regex) (text : List Char) : Option (Nat × Nat) :=
  (List.range (text.length + 1)).findSome? fun start =>
    (re.matchBehind? (text.take start) (text.drop start)).map fun length => (start, length)

/-- The match at the start comes first, and the search goes on only if there is none. -/
theorem find?_eq (re : Regex) (text : List Char) :
    re.find? text = ((re.program.matchLength? text).map fun length => (0, length)).or
      ((List.range text.length).findSome? fun start =>
        (re.matchBehind? (text.take (start + 1)) (text.drop (start + 1))).map fun length =>
          (start + 1, length)) := by
  rw [find?, List.range_succ_eq_map, List.findSome?_cons, List.findSome?_map]
  simp only [List.take_zero, List.drop_zero, matchBehind?_nil]
  rcases re.program.matchLength? text with _ | length <;> rfl

/-- The leftmost match starts at the start of the text just if there is a match there. -/
theorem find?_start_iff {re : Regex} {text : List Char} {length : Nat} :
    re.find? text = some (0, length) ↔ re.program.matchLength? text = some length := by
  rw [find?_eq]
  rcases re.program.matchLength? text with _ | n
  · simp only [Option.map_none, Option.none_or, reduceCtorEq, iff_false]
    intro h
    obtain ⟨start, -, hstart⟩ := List.exists_of_findSome?_eq_some h
    obtain ⟨n, -, hn⟩ := Option.map_eq_some_iff.1 hstart
    cases hn
  · simp

/-- An anchored pattern finds nothing but its match at the start. -/
theorem find?_of_isAnchored {pattern : String} {re : Regex} (h : compile pattern = .ok re)
    (ha : isAnchored pattern.toList = true) (text : List Char) :
    re.find? text = (re.program.matchLength? text).map fun length => (0, length) := by
  have hnone : ((List.range text.length).findSome? fun start =>
      (re.matchBehind? (text.take (start + 1)) (text.drop (start + 1))).map fun length =>
        (start + 1, length)) = none := by
    refine List.findSome?_eq_none_iff.2 fun start hstart => ?_
    have hne : text.take (start + 1) ≠ [] := by
      rintro hnil
      have hlength := congrArg List.length hnil
      rw [List.length_take, List.length_nil] at hlength
      have := List.mem_range.1 hstart
      omega
    rw [matchBehind?_of_isAnchored h ha hne]
    rfl
  rw [find?_eq, hnone, Option.or_none]

end Regex

/-! ## The wrapper -/

namespace Pattern

/-- The anchored form of a well-formed pattern is well formed, unless it nests too many levels. -/
theorem parse_anchor {cs : List Char} {x : Ast} (h : Ast.parse cs = .ok x)
    (hdepth : isAnchored cs = false → x.anchored.depth ≤ maxDepth) :
    Ast.parse (anchor cs) = .ok (if isAnchored cs then x else x.anchored) := by
  rcases ha : isAnchored cs with _ | _
  · rw [anchor, ha]
    simp only [Bool.false_eq_true, if_false]
    rw [parse_wrap h, if_pos (hdepth ha)]
  · rw [anchor, ha]
    simpa using h

/-- A node takes no less room behind an assertion. -/
theorem Node.fits_of_look {l : Look} {x : Node} (h : (Node.cat (.look l) x).fits = true) :
    x.fits = true := by
  have hle : ∀ d set, x.totalWith d set ≤ (Node.cat (.look l) x).totalWith d set := by
    intro d set
    have halone : ∀ n, alone n ≤ alone (stepSize + n) := by
      intro n
      have hpos : stepSize + n ≠ 0 := by simp [stepSize]
      rw [alone, alone, if_neg hpos]
      split <;> omega
    exact Nat.add_le_add_left (halone _) _
  rw [fits, List.all_eq_true] at h ⊢
  intro d hd
  have hfits := h d hd
  rw [Bool.or_eq_true, decide_eq_true_eq, decide_eq_true_eq] at hfits ⊢
  exact hfits.imp (hle d _).trans (hle d _).trans

end Pattern

/-! ## Compiled patterns -/

namespace Regex

/-- How the anchored form of a pattern that is not anchored compiles. -/
theorem compile_wrapped {pattern : String} {x : Ast} (hx : Ast.parse pattern.toList = .ok x)
    (ha : isAnchored pattern.toList = false) (hdepth : x.anchored.depth ≤ Pattern.maxDepth) :
    compile (anchorString pattern) =
      match Node.ofAst {} x with
      | .error e => .error e
      | .ok (n, _) =>
        if (Node.cat (.look .start) n).fits then
          .ok ⟨anchorString pattern, (Program.ofNode n).behindStart⟩
        else .error .tooLarge := by
  have hparse := Pattern.parse_anchor hx fun _ => hdepth
  rw [ha] at hparse
  rw [compile, anchorString, String.toList_ofList, hparse]
  simp only [Bool.false_eq_true, if_false, Pattern.Node.ofAst_anchored]
  rcases Node.ofAst {} x with e | ⟨n, f⟩ <;> rfl

section

variable {pattern : String} {x : Ast} (hx : Ast.parse pattern.toList = .ok x)
  (hdepth : isAnchored pattern.toList = false → x.anchored.depth ≤ Pattern.maxDepth)

include hx hdepth

/-- If the anchored form compiles, so does the pattern, to a program with the same matches at the start
    of a text. -/
theorem exists_of_compile_anchorString {re : Regex} (h : compile (anchorString pattern) = .ok re) :
    ∃ re₀, compile pattern = .ok re₀ ∧
      ∀ text, re.program.matchLength? text = re₀.program.matchLength? text := by
  rcases ha : isAnchored pattern.toList with _ | _
  · rw [compile_wrapped hx ha (hdepth ha)] at h
    rcases hn : Node.ofAst {} x with e | ⟨n, f⟩
    · rw [hn] at h
      cases h
    · rw [hn] at h
      dsimp only at h
      split at h
      · next hfits =>
        cases h
        refine ⟨⟨pattern, .ofNode n⟩, ?_, fun text => ?_⟩
        · rw [compile, hx]
          simp only [hn]
          rw [if_pos (Pattern.Node.fits_of_look hfits)]
        · exact (Program.closed_ofNode n).matchLength?_behindStart text
      · cases h
  · rw [anchorString, Pattern.anchor_of_isAnchored ha, String.ofList_toList] at h
    exact ⟨re, h, fun _ => rfl⟩

/-- If it does not, the pattern does not either, or it is too large behind the wrapper. -/
theorem error_of_compile_anchorString {e : Pattern.Error}
    (h : compile (anchorString pattern) = .error e) : compile pattern = .error e ∨ e = .tooLarge := by
  rcases ha : isAnchored pattern.toList with _ | _
  · rw [compile_wrapped hx ha (hdepth ha)] at h
    rcases hn : Node.ofAst {} x with e' | ⟨n, f⟩
    · rw [hn] at h
      refine .inl ?_
      rw [compile, hx]
      simp only [hn]
      exact h
    · rw [hn] at h
      dsimp only at h
      split at h
      · cases h
      · cases h
        exact .inr rfl
  · rw [anchorString, Pattern.anchor_of_isAnchored ha, String.ofList_toList] at h
    exact .inl h

end

/-- What holds of the anchored form of a pattern. -/
structure AnchoredForm (pattern : String) : Prop where
  /-- It is well formed. -/
  wellFormed : (Ast.parse (anchorString pattern).toList).isOk = true
  /-- It is anchored. -/
  anchored : isAnchored (anchorString pattern).toList = true
  /-- It is its own anchored form. -/
  again : anchorString (anchorString pattern) = anchorString pattern
  /-- If it compiles, so does the pattern, and what it finds in a text is the preferred match that the
      pattern has at the start of the text. -/
  finds : ∀ re, compile (anchorString pattern) = .ok re → ∃ re₀, compile pattern = .ok re₀ ∧
    ∀ text start length, re.find? text = some (start, length) ↔
      start = 0 ∧ re₀.program.matchLength? text = some length
  /-- If it does not compile, the pattern does not either, for the same reason, unless it is the
      wrapper that makes it too large. -/
  refused : ∀ e, compile (anchorString pattern) = .error e → compile pattern = .error e ∨ e = .tooLarge

/-- **Anchoring keeps the meaning of a pattern** that is well formed by itself, if its wrapped form
    does not nest too many levels. -/
theorem anchoredForm_of_parse {pattern : String} {x : Ast} (hx : Ast.parse pattern.toList = .ok x)
    (hdepth : isAnchored pattern.toList = false → x.anchored.depth ≤ Pattern.maxDepth) :
    AnchoredForm pattern := by
  have hlist : (anchorString pattern).toList = anchor pattern.toList := String.toList_ofList
  have hparse := Pattern.parse_anchor hx hdepth
  have hanchored : isAnchored (anchorString pattern).toList = true := by
    rw [hlist]
    exact Pattern.isAnchored_anchor hx hparse
  constructor
  case wellFormed =>
    rw [hlist, hparse]
    rfl
  case anchored => exact hanchored
  case again =>
    rw [anchorString, Pattern.anchor_of_isAnchored hanchored, String.ofList_toList]
  case finds =>
    intro re hre
    obtain ⟨re₀, hre₀, hsame⟩ := exists_of_compile_anchorString hx hdepth hre
    refine ⟨re₀, hre₀, fun text start length => ?_⟩
    rw [find?_of_isAnchored hre hanchored, hsame]
    rcases re₀.program.matchLength? text with _ | n
    · simp
    · simp only [Option.map_some, Option.some.injEq, Prod.mk.injEq, eq_comm]
  case refused => exact fun e he => error_of_compile_anchorString hx hdepth he

/-- A choice with flags before it and a comment behind it, whose line is ended or not. -/
def commentPatterns : List String := ["(?ix) a | cd # to the end", "(?ix) a | cd # to the end\n"]

theorem anchoredForm_of_parse_comment : commentPatterns.Forall fun pattern =>
    (∃ x, Ast.parse pattern.toList = .ok x ∧ isAnchored pattern.toList = false ∧
      x.anchored.depth ≤ Pattern.maxDepth) ∧
    (∃ re, compile (anchorString pattern) = .ok re ∧ re.find? ['C', 'd', 'x'] = some (0, 2) ∧
      re.find? ['x', 'C', 'd'] = none) ∧
    AnchoredForm pattern := by
  have hparse : ∀ pattern ∈ commentPatterns, (Ast.parse pattern.toList).toOption.map (fun x =>
      (isAnchored pattern.toList, decide (x.anchored.depth ≤ Pattern.maxDepth))) =
      some (false, true) := by decide +kernel
  have hfind : ∀ pattern ∈ commentPatterns, (compile (anchorString pattern)).toOption.map (fun re =>
      (re.find? ['C', 'd', 'x'], re.find? ['x', 'C', 'd'])) = some (some (0, 2), none) := by
    decide +kernel
  refine List.forall_iff_forall_mem.2 fun pattern hpattern => ?_
  obtain ⟨x, hx, hcheck⟩ := exists_of_toOption_map (hparse pattern hpattern)
  obtain ⟨re, hre, hfound⟩ := exists_of_toOption_map (hfind pattern hpattern)
  simp only [Prod.mk.injEq, decide_eq_true_eq] at hcheck hfound
  exact ⟨⟨x, hx, hcheck⟩, ⟨re, hre, hfound⟩, anchoredForm_of_parse hx fun _ => hcheck.2⟩

end Regex

end OrderedLexer
