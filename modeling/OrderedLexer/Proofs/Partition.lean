/-
  The tokens of a run cut its input into parts.

  With locations, each token spans a part of the input that is not empty, the parts follow one
  another without a gap from the start of the input to its end, and each token is what the handler of
  the winning rule makes of its part (`Partition`).  `all_init_partition`: so it is whenever all
  tokens of an input are produced.
-/
import OrderedLexer.Proofs.Invariant
import Mathlib.Data.List.Basic

namespace OrderedLexer

open Text (byteSize)

/-! ## Parts of an input -/

/-- The rule that wins at an offset of an input matches up to another one, and its handler makes
    `emit` of the text between them. -/
def Wins (spec : Spec) (input : String) (start stop : Nat) (emit : Emit) : Prop :=
  ∃ index rule rest, spec.rules[index]? = some rule ∧
    firstMatch? 0 spec.rules (slice input start input.utf8ByteSize).toList =
      some (index, rule.handler, (slice input start stop).toList, rest) ∧
    rule.handler.run (slice input start stop) = some emit

/-- A token spans a part of an input and is what the winning rule makes of it. -/
structure Spans (spec : Spec) (input : String) (k : Token) (l : Location) : Prop where
  loc : k.loc = some l
  nonempty : l.startOffset < l.endOffset
  boundaries : IsBoundary input l.startOffset ∧ IsBoundary input l.endOffset
  made : ∃ emit, Wins spec input l.startOffset l.endOffset emit ∧ k.kind = emit.kind ∧
    k.value = emit.value (slice input l.startOffset l.endOffset)

/-- Tokens span an input from an offset on, one behind the other, up to its end. -/
inductive Tiles (spec : Spec) (input : String) : Nat → List Token → Prop
  | nil : Tiles spec input input.utf8ByteSize []
  | cons {k : Token} {l : Location} {ks : List Token} : Spans spec input k l →
      Tiles spec input l.endOffset ks → Tiles spec input l.startOffset (k :: ks)

/-- Tokens with the spans that they cut an input into. -/
structure Partition (spec : Spec) (input : String) (tokens : List Token) (spans : List Location) :
    Prop where
  each : List.Forall₂ (Spans spec input) tokens spans
  /-- Only the empty input has no parts. -/
  empty : spans = [] ↔ input = ""
  first : ∀ l, spans.head? = some l → l.startOffset = 0
  next : spans.IsChain fun l m => l.endOffset = m.startOffset
  last : ∀ l, spans.getLast? = some l → l.endOffset = input.utf8ByteSize

theorem Tiles.exists_spans {spec : Spec} {input : String} {start : Nat} {ks : List Token}
    (h : Tiles spec input start ks) :
    ∃ spans, List.Forall₂ (Spans spec input) ks spans ∧
      (spans = [] → start = input.utf8ByteSize) ∧
      (∀ l, spans.head? = some l → l.startOffset = start) ∧
      (spans.IsChain fun l m => l.endOffset = m.startOffset) ∧
      ∀ l, spans.getLast? = some l → l.endOffset = input.utf8ByteSize := by
  induction h with
  | nil => exact ⟨[], .nil, fun _ => rfl, by simp, .nil, by simp⟩
  | @cons k l ks hspan _ ih =>
    obtain ⟨spans, heach, hnil, hhead, hchain, hlast⟩ := ih
    refine ⟨l :: spans, .cons hspan heach, by simp, by simp, ?_, ?_⟩
    · cases spans with
      | nil => exact .singleton l
      | cons m spans => exact .cons_cons (hhead m rfl).symm hchain
    · cases spans with
      | nil => simpa using hnil
      | cons m spans => simpa using hlast

theorem Tiles.partition {spec : Spec} {input : String} {ks : List Token}
    (h : Tiles spec input 0 ks) : ∃ spans, Partition spec input ks spans := by
  obtain ⟨spans, heach, hnil, hhead, hchain, hlast⟩ := h.exists_spans
  refine ⟨spans, heach, ⟨fun hs => ?_, ?_⟩, hhead, hchain, hlast⟩
  · exact String.utf8ByteSize_eq_zero_iff.1 (hnil hs).symm
  · rintro rfl
    -- a part of the empty input would end behind its end
    cases heach with
    | nil => rfl
    | cons hspan =>
      have hend := String.Pos.Raw.IsValid.le_utf8ByteSize hspan.boundaries.2
      exact absurd (hspan.nonempty.trans_le hend) (Nat.not_lt_zero _)

/-- The rules that win at the spans of tokens name a type and leave the value to the matched text. -/
def TypeOnly (spec : Spec) (input : String) (tokens : List Token) : Prop :=
  ∀ k ∈ tokens, ∀ l emit, k.loc = some l → Wins spec input l.startOffset l.endOffset emit →
    ∃ kind, emit = .type kind

/-- If all values are matched texts, they are the rest of the input one behind the other. -/
theorem Tiles.join {spec : Spec} {input : String} {start : Nat} {ks : List Token}
    (h : Tiles spec input start ks) (htype : TypeOnly spec input ks) :
    String.join (ks.map Token.value) = slice input start input.utf8ByteSize := by
  induction h with
  | nil => exact (slice_self input _).symm
  | @cons k l ks hspan _ ih =>
    obtain ⟨emit, hwins, -, hvalue⟩ := hspan.made
    obtain ⟨kind, rfl⟩ := htype k List.mem_cons_self l emit hspan.loc hwins
    have htail := ih fun k' hk' => htype k' (List.mem_cons_of_mem k hk')
    rw [List.map_cons, String.join_cons, htail, hvalue]
    exact slice_append_slice hspan.boundaries.1 hspan.boundaries.2 hspan.nonempty.le

/-! ## Runs -/

theorem firstMatch?_rule {rules : List Rule} {text matched rest : List Char} {h : Handler}
    {index i : Nat} (hm : firstMatch? index rules text = some (i, h, matched, rest)) :
    index ≤ i ∧ ∃ rule, rules[i - index]? = some rule ∧ rule.handler = h := by
  induction rules generalizing index with
  | nil => cases hm
  | cons r rs ih =>
    unfold firstMatch? at hm
    split at hm
    · cases hm
      exact ⟨le_rfl, r, by simp, rfl⟩
    · obtain ⟨hle, rule, hr, hh⟩ := ih hm
      refine ⟨by omega, rule, ?_, hh⟩
      rw [show i - index = i - (index + 1) + 1 by omega, List.getElem?_cons_succ, hr]

namespace Tokenizer

variable {t t' : Tokenizer} {k : Token}

/-- The text that a step takes lies between the positions before and behind it. -/
theorem slice_of_passed (h : t.WellFormed) {matched rest : List Char}
    (hrest : t.rest = matched ++ rest) :
    slice t.input t.position.offset (t.position.offset + byteSize matched) = String.ofList matched ∧
      IsBoundary t.input (t.position.offset + byteSize matched) := by
  obtain ⟨before, htext, hoff⟩ := h.passed
  rw [hrest] at htext
  rw [hoff]
  refine ⟨slice_byteSize htext, ?_⟩
  rw [← Text.byteSize_append]
  exact isBoundary_byteSize (b := rest) (by rw [htext, List.append_assoc])

theorem spans_of_next (h : t.WellFormed) (hcap : t.options.captures = true)
    (hn : t.next = (.ok (some k), t')) :
    Spans t.spec t.input k (t.position.span t'.position) := by
  cases step_of_next hn with
  | @accept index handler matched rest emit failed finished first nonempty emits =>
    obtain ⟨hslice, hbound⟩ := slice_of_passed h (firstMatch?_append first).symm
    have hall := (slice_of_passed h (List.append_nil t.rest).symm).1
    rw [h.offset_add_rest] at hall
    obtain ⟨-, rule, hrule, rfl⟩ := firstMatch?_rule first
    have hpos := byteSize_pos nonempty
    constructor
    case loc => exact if_pos hcap
    case nonempty => simp only [Position.span, Position.offset_advance]; omega
    case boundaries => exact ⟨h.isBoundary, hbound⟩
    case made =>
      refine ⟨emit, ⟨index, rule, rest, by simpa using hrule, ?_, ?_⟩, rfl, ?_⟩ <;>
        simp only [Position.span, Position.offset_advance, hslice, hall, String.toList_ofList]
      · exact first
      · exact emits
      · rfl

/-- All tokens of a run with locations span the input from the position on. -/
theorem tiles_of_drain (h : t.WellFormed) (hcap : t.options.captures = true) {ks : List Token}
    (hd : t.drain.1 = .ok ks) : Tiles t.spec t.input t.position.offset ks := by
  induction t using next_induction generalizing ks with
  | step t ih =>
    have hw := next_wellFormed h
    obtain ⟨hspec, hopt, hinput, -⟩ := next_frame t
    rcases hn : t.next with ⟨e | _ | k, t'⟩ <;> rw [hn] at hw hspec hopt hinput
    · rw [drain_of_error hn] at hd; cases hd
    · rw [drain_of_end hn] at hd
      cases hd
      cases step_of_next hn with
      | stop failed ended => rw [h.offset_of_rest (ended.elim h.finished id)]; exact .nil
    · rw [drain_of_token hn] at hd
      rcases hd' : t'.drain.1 with e | ks' <;> rw [hd'] at hd <;> cases hd
      have htail := ih k t' hn hw (by rw [hopt]; exact hcap) hd'
      rw [hspec, hinput] at htail
      exact .cons (l := t.position.span t'.position) (spans_of_next h hcap hn) htail

/-- **The tokens of a run partition its input.**  If all tokens of an input are produced, with
    locations, they cut it into parts, each made by the rule that wins there; and if the values are
    left to the matched texts, they make up the input. -/
theorem all_init_partition (t : Tokenizer) (input : String) (o : Options)
    (ho : o.captureLocations = some true) (tokens : List Token)
    (h : (t.init input (some o)).all.1 = .ok tokens) :
    (∃ spans, Partition t.spec input tokens spans) ∧
      (TypeOnly t.spec input tokens → String.join (tokens.map Token.value) = input) := by
  have hw := init_wellFormed t input (some o)
  have hcap : (t.init input (some o)).options.captures = true := by
    simp [init, reset, setOptions, Options.merge, Options.captures, ho]
  have hd : (t.init input (some o)).drain.1 = .ok tokens := by
    rw [drain_production, ← all_production rfl, h]
  have htiles : Tiles t.spec input 0 tokens := tiles_of_drain hw hcap hd
  exact ⟨htiles.partition, fun htype => (htiles.join htype).trans (slice_all input)⟩

/-- The tokens of two words on two lines. -/
def wordTokens : List Token := [
  ⟨"WORD", "Aé", some ⟨0, 3, 1, 1, 0, 2⟩⟩,
  ⟨"LINE", "\n", some ⟨3, 4, 1, 2, 2, 0⟩⟩,
  ⟨"WORD", "B", some ⟨4, 5, 2, 2, 0, 1⟩⟩]

/-- The tokens of two empty lines. -/
def lineTokens : List Token := [
  ⟨"LINE", "\n", some ⟨0, 1, 1, 2, 0, 0⟩⟩,
  ⟨"LINE", "\n", some ⟨1, 2, 2, 3, 0, 0⟩⟩]

theorem typeOnly_lineTokens : TypeOnly wordSpec "\n\n" lineTokens := by
  have hslice : ∀ n ∈ [0, 1], slice "\n\n" n (n + 1) = "\n" := by decide +kernel
  have hindex : ∀ n ∈ [0, 1], (firstMatch? 0 wordSpec.rules
      (slice "\n\n" n "\n\n".utf8ByteSize).toList).map Prod.fst = some 1 := by decide +kernel
  have hline : (wordSpec.rules[1]?.bind fun r => r.handler.run "\n") = some (.type "LINE") := by
    decide +kernel
  have hwins : ∀ n ∈ [0, 1], ∀ emit, Wins wordSpec "\n\n" n (n + 1) emit → emit = .type "LINE" := by
    rintro n hn emit ⟨index, rule, rest, hrule, hfirst, hrun⟩
    have hi := hindex n hn
    rw [hfirst, Option.map_some, Option.some.injEq] at hi
    obtain rfl : index = 1 := hi
    rw [hslice n hn] at hrun
    rw [hrule, Option.bind_some, hrun, Option.some.injEq] at hline
    exact hline
  intro k hk l emit hl h
  rcases List.mem_cons.1 hk with rfl | hk
  · cases hl; exact ⟨_, hwins 0 (by simp) emit h⟩
  · rw [List.mem_singleton.1 hk] at hl
    cases hl; exact ⟨_, hwins 1 (by simp) emit h⟩

theorem all_init_partition_words :
    (((ofSpec wordSpec).init "aé\nb" (some (.withLocations true))).all.1 = .ok wordTokens ∧
      ∃ spans, Partition wordSpec "aé\nb" wordTokens spans) ∧
    ((ofSpec wordSpec).init "\n\n" (some (.withLocations true))).all.1 = .ok lineTokens ∧
      TypeOnly wordSpec "\n\n" lineTokens ∧ String.join (lineTokens.map Token.value) = "\n\n" := by
  have hwords : ((ofSpec wordSpec).init "aé\nb" (some (.withLocations true))).all.1 =
      .ok wordTokens := by decide +kernel
  have hlines : ((ofSpec wordSpec).init "\n\n" (some (.withLocations true))).all.1 =
      .ok lineTokens := by decide +kernel
  refine ⟨⟨hwords, ?_⟩, hlines, typeOnly_lineTokens, ?_⟩
  · exact (all_init_partition (ofSpec wordSpec) "aé\nb" (.withLocations true) rfl _ hwords).1
  · exact (all_init_partition (ofSpec wordSpec) "\n\n" (.withLocations true) rfl _ hlines).2
      typeOnly_lineTokens

end Tokenizer

end OrderedLexer
