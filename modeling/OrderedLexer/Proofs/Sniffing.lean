/-
  Finding the form of a spec file by its first character.

  A bracket at the start of a text, white space apart, is taken for JSON.  That is a bracket at the
  start of its first line that is not blank (`sniff_eq_json_iff`).

  * Every JSON document starts with a bracket, and JSON counts less as white space than the search
    does, so a text that can be read as JSON is taken for JSON (`opensWithBracket_of_ofJson`);
  * a text with one rule a line that starts with a bracket has a first rule whose pattern is neither
    quoted nor between slashes and starts with it (`exists_rule_of_opensWithBracket`).

  `sniff_of_parse`: a text that can be read in one form only is taken for this form, unless it has
  lines and starts with such a pattern.
-/
import OrderedLexer.Proofs.FirstDefect
import OrderedLexer.Proofs.LineConcat

namespace OrderedLexer

open Json (Value)
open Text (isWhiteSpace splitLines trim trimEnd trimStart)

/-! ## The first character -/

namespace Text

variable {c : Char}

theorem trimEnd_cons (h : isWhiteSpace c = false) (cs : List Char) :
    trimEnd (c :: cs) = c :: trimEnd cs := by
  have hdrop : (cs.reverse ++ [c]).dropWhile isWhiteSpace = cs.reverse.dropWhile isWhiteSpace ++ [c] := by
    rw [List.dropWhile_append]
    split_ifs with hempty
    · rw [List.isEmpty_iff.1 hempty, List.dropWhile_cons_of_neg (by simp [h])]
      rfl
    · rfl
  rw [trimEnd, List.reverse_cons, hdrop, List.reverse_append]
  rfl

theorem trim_cons_of_pos (h : isWhiteSpace c = true) (cs : List Char) : trim (c :: cs) = trim cs := by
  rw [trim, trim, trimStart, List.dropWhile_cons_of_pos h, ← trimStart]

theorem trim_cons_of_neg (h : isWhiteSpace c = false) (cs : List Char) :
    trim (c :: cs) = c :: trimEnd cs := by
  rw [trim, trimStart, List.dropWhile_cons_of_neg (by simp [h]), trimEnd_cons h]

/-- The first of the lines that are not blank starts as the text does, white space apart. -/
theorem head?_trimStart (cs : List Char) :
    (((splitLines cs).map trim).find? (!·.isEmpty)).bind List.head? = (trimStart cs).head? := by
  induction cs with
  | nil => rfl
  | cons c cs ih =>
    rw [splitLines, List.splitOn_cons_eq_if_modifyHead, ← splitLines]
    split_ifs with hnewline
    · -- an empty line comes first
      obtain rfl : c = '\n' := eq_of_beq hnewline
      rw [trimStart, List.dropWhile_cons_of_pos isWhiteSpace_newline, ← trimStart, ← ih]
      rfl
    obtain ⟨line, lines, hlines⟩ := List.exists_cons_of_ne_nil (List.splitOn_ne_nil '\n' cs)
    rw [splitLines, hlines] at ih ⊢
    rw [List.modifyHead_cons, List.map_cons]
    rcases hspace : isWhiteSpace c with _ | _
    · rw [trim_cons_of_neg hspace, trimStart, List.dropWhile_cons_of_neg (by simp [hspace])]
      rfl
    · rw [trim_cons_of_pos hspace, trimStart, List.dropWhile_cons_of_pos hspace, ← trimStart, ← ih,
        List.map_cons]

end Text

namespace SpecFile

/-- The first line of a text that is not blank, without white space at its ends. -/
def firstLine? (text : String) : Option (List Char) := (trimmedLines text).find? (!·.isEmpty)

/-- A bracket that opens an array or an object. -/
def isOpening (c : Char) : Bool := c = '[' || c = '\x7b'

/-- The first line that is not blank starts with a bracket. -/
def OpensWithBracket (text : String) : Prop :=
  ∃ c cs, firstLine? text = some (c :: cs) ∧ isOpening c = true

variable {text : String} {d : Draft}

theorem isOpening_iff {c : Char} : isOpening c = true ↔ c = '[' ∨ c = '\x7b' := by
  rw [isOpening, Bool.or_eq_true, decide_eq_true_iff, decide_eq_true_iff]

theorem opensWithBracket_iff :
    OpensWithBracket text ↔ ∃ c cs, trimStart text.toList = c :: cs ∧ isOpening c = true := by
  have hhead : (firstLine? text).bind List.head? = (trimStart text.toList).head? :=
    Text.head?_trimStart text.toList
  constructor
  · rintro ⟨c, cs, hline, hc⟩
    rw [hline] at hhead
    obtain ⟨ds, hds⟩ := List.head?_eq_some_iff.1 hhead.symm
    exact ⟨c, ds, hds, hc⟩
  · rintro ⟨c, cs, htext, hc⟩
    rw [htext, List.head?_cons, Option.bind_eq_some_iff] at hhead
    obtain ⟨line, hline, hfirst⟩ := hhead
    obtain ⟨ds, rfl⟩ := List.head?_eq_some_iff.1 hfirst
    exact ⟨c, ds, hline, hc⟩

theorem sniff_eq_json_iff : Format.sniff text = .json ↔ OpensWithBracket text := by
  rw [opensWithBracket_iff, Format.sniff]
  constructor
  · intro h
    split at h
    · next cs heq => exact ⟨'[', cs, heq, rfl⟩
    · next cs heq => exact ⟨'\x7b', cs, heq, rfl⟩
    · cases h
  · rintro ⟨c, cs, heq, hc⟩
    rw [heq]
    rcases isOpening_iff.1 hc with rfl | rfl <;> rfl

end SpecFile

/-! ## JSON -/

namespace Json.Reader

/-- An array or an object is read from its bracket. -/
def Opens (cs : List Char) : Value → Prop
  | .arr _ | .obj _ => ∃ c r, skip cs = c :: r ∧ SpecFile.isOpening c = true
  | _ => True

theorem yields_opens (fuel d : Nat) (cs : List Char) : Yields (Opens cs) (value fuel d cs) := by
  unfold value
  split
  · exact .error
  · exact .const trivial
  · exact .const trivial
  · exact .const trivial
  · exact (Yields.true _).map fun n r _ => trivial
  · exact (Yields.true _).map fun s r _ => trivial
  · next r heq =>
    split
    · exact .error
    · exact (Yields.true _).map fun vs _ _ => ⟨'[', r, heq, rfl⟩
  · next r heq =>
    split
    · exact .error
    · exact (Yields.true _).map fun ms _ _ => ⟨'\x7b', r, heq, rfl⟩
  · split
    · exact (Yields.true _).map fun n r _ => trivial
    · exact .error

theorem isWhiteSpace_of_isBlank {c : Char} (h : isBlank c = true) : isWhiteSpace c = true := by
  simp only [isBlank, Bool.or_eq_true, decide_eq_true_eq] at h
  rcases h with ((rfl | rfl) | rfl) | rfl <;> decide

/-- What is blank in JSON is white space, but not the other way round. -/
theorem trimStart_skip (cs : List Char) : trimStart (skip cs) = trimStart cs := by
  induction cs with
  | nil => rfl
  | cons c cs ih =>
    rw [skip]
    rcases hblank : isBlank c with _ | _
    · rw [List.dropWhile_cons_of_neg (by simp [hblank])]
    · rw [List.dropWhile_cons_of_pos hblank, ← skip, ih, trimStart, trimStart,
        List.dropWhile_cons_of_pos (isWhiteSpace_of_isBlank hblank)]

end Json.Reader

namespace SpecFile

variable {text : String} {d : Draft}

theorem opensWithBracket_of_ofJson (h : Draft.ofJson text = .ok d) : OpensWithBracket text := by
  unfold Draft.ofJson at h
  split at h
  · next v hread =>
    have hopens : Json.Reader.Opens text.toList v :=
      Json.of_read (Json.Reader.yields_opens _ _ _) hread
    have hbracket : ∃ c r, Json.Reader.skip text.toList = c :: r ∧ isOpening c = true := by
      unfold draftOfValue at h
      split at h
      · exact hopens
      · exact hopens
      · cases h
    obtain ⟨c, r, hskip, hc⟩ := hbracket
    have hspace : isWhiteSpace c = false := by
      rcases isOpening_iff.1 hc with rfl | rfl <;> decide
    refine opensWithBracket_iff.2 ⟨c, r, ?_, hc⟩
    rw [← Json.Reader.trimStart_skip, hskip, trimStart, List.dropWhile_cons_of_neg (by simp [hspace])]
  · cases h

/-! ## Lines -/

/-- What is written for a pattern that is neither quoted nor between slashes. -/
def barePattern (line : List Char) : String := String.ofList (line.takeWhile (!isWhiteSpace ·))

theorem entry_of_isOpening {c : Char} {cs : List Char} {n : Nat} {x : Entry}
    (hline : Text.Trimmed (c :: cs)) (hc : isOpening c = true) (h : entry n (c :: cs) = .ok x) :
    ∃ handler, x = .rule ⟨barePattern (c :: cs), handler⟩ := by
  have hrule : entry n (c :: cs) = ruleOfLine n (c :: cs) := by
    rw [entry, hline.trim_eq]
    rcases isOpening_iff.1 hc with rfl | rfl <;> rfl
  have hsplit : splitPattern (c :: cs) =
      .ok ((c :: cs).takeWhile (!isWhiteSpace ·), (c :: cs).dropWhile (!isWhiteSpace ·)) := by
    rcases isOpening_iff.1 hc with rfl | rfl <;> rfl
  rw [hrule, ruleOfLine, hsplit] at h
  dsimp only at h
  split at h
  · cases h
  split at h
  · next handler _ =>
    cases h
    exact ⟨handler, rfl⟩
  · cases h

/-- A text with lines that starts with a bracket starts with a rule, and its pattern is not marked. -/
theorem exists_rule_of_opensWithBracket (h : Draft.ofLines text = .ok d)
    (hopens : OpensWithBracket text) :
    ∃ line r rs, firstLine? text = some line ∧ d.rules = r :: rs ∧ r.pattern = barePattern line := by
  obtain ⟨c, cs, hline, hc⟩ := hopens
  obtain ⟨xs, hxs, rfl⟩ := exists_of_ofLines h
  obtain ⟨hread, rfl⟩ := entries_eq_ok_iff.1 hxs
  obtain ⟨-, blanks, lines, hlines, hblank⟩ := List.find?_eq_some_iff_append.1 hline
  have hmem : c :: cs ∈ trimmedLines text := by simp [hlines]
  have htrimmed : Text.Trimmed (c :: cs) := by
    obtain ⟨part, -, hpart⟩ := List.mem_map.1 hmem
    exact hpart ▸ Text.trimmed_trim part
  obtain ⟨handler, hentry⟩ := entry_of_isOpening htrimmed hc (hread _ hmem 0)
  have hnone : Entry.rules (blanks.map entryOf) = [] := by
    refine List.filterMap_eq_nil_iff.2 fun x hx => ?_
    obtain ⟨line, hmem, rfl⟩ := List.mem_map.1 hx
    obtain rfl : line = [] := by simpa using hblank line hmem
    rfl
  refine ⟨c :: cs, ⟨barePattern (c :: cs), handler⟩, Entry.rules (lines.map entryOf), hline, ?_, rfl⟩
  show Entry.rules ((trimmedLines text).map entryOf) = _
  rw [hlines, List.map_append, List.map_cons, Entry.rules, List.filterMap_append, ← Entry.rules, hnone,
    entryOf, hread _ hmem, Except.toOption, Option.getD_some, hentry]
  rfl

/-! ## The form of a text -/

/-- A text is taken for a form, and a file that holds it makes the spec of its draft. -/
structure TakenFor (format : Format) (text : String) (d : Draft) : Prop where
  sniff : Format.sniff text = format
  load : ∀ path, Format.ofPath? path = none → load path text = (Spec.normalize d).mapError .pattern

/-- A text with lines is taken for JSON: its first rule has a bare pattern that starts with a bracket,
    and reading a file that holds it fails as reading JSON does. -/
structure Mistaken (text : String) (d : Draft) : Prop where
  sniff : Format.sniff text = .json
  rule : ∃ line r rs, firstLine? text = some line ∧ d.rules = r :: rs ∧ r.pattern = barePattern line
  load : ∀ path, Format.ofPath? path = none →
    ∃ e, Draft.ofJson text = .error e ∧ load path text = .error e

theorem load_of_sniff {format : Format} {path : String} (hsniff : Format.sniff text = format)
    (hpath : Format.ofPath? path = none) : load path text = specOf format text := by
  rw [load_eq, hpath, Option.getD_none, hsniff]

/-- **The form of a text.**  A text that can be read in one form only is taken for this form, unless it
    has lines and the first of them that is not blank starts with a bracket. -/
theorem sniff_of_parse {format : Format} (hparse : parse format text = .ok d)
    (honly : ∀ other, (parse other text).isOk = true → other = format) :
    (¬(format = .lines ∧ OpensWithBracket text) → TakenFor format text d) ∧
    (format = .lines ∧ OpensWithBracket text → Mistaken text d) := by
  constructor
  · intro hnot
    have hsniff : Format.sniff text = format := by
      cases format with
      | json => exact sniff_eq_json_iff.2 (opensWithBracket_of_ofJson hparse)
      | lines =>
        have hjson : Format.sniff text ≠ .json := fun h => hnot ⟨rfl, sniff_eq_json_iff.1 h⟩
        cases hformat : Format.sniff text with
        | json => exact absurd hformat hjson
        | lines => rfl
    refine ⟨hsniff, fun path hpath => ?_⟩
    rw [load_of_sniff hsniff hpath, specOf, hparse]
    dsimp only
    rcases Spec.normalize d with e | s <;> rfl
  · rintro ⟨rfl, hopens⟩
    have hsniff : Format.sniff text = .json := sniff_eq_json_iff.2 hopens
    refine ⟨hsniff, exists_rule_of_opensWithBracket hparse hopens, fun path hpath => ?_⟩
    rcases hjson : Draft.ofJson text with e | d'
    · refine ⟨e, rfl, ?_⟩
      rw [load_of_sniff hsniff hpath, specOf, parse, hjson]
    · have hok : (parse .json text).isOk = true := by rw [parse, hjson]; rfl
      cases honly .json hok

/-- A comment comes before a rule with a bare pattern. -/
def commentedText : String := "\n # words\n[a-z]+ WORD"

theorem sniff_of_parse_commented : ∃ d, parse .lines commentedText = .ok d ∧
    (∀ other, (parse other commentedText).isOk = true → other = .lines) ∧
    TakenFor .lines commentedText d := by
  have hok : (parse .lines commentedText).isOk = true := by decide +kernel
  obtain ⟨d, hd⟩ := exists_of_isOk hok
  have honly : ∀ other, (parse other commentedText).isOk = true → other = .lines := by
    intro other h
    cases other with
    | json => exact absurd h (by decide +kernel)
    | lines => rfl
  have hnot : ¬(Format.lines = .lines ∧ OpensWithBracket commentedText) := by
    rintro ⟨-, hopens⟩
    exact absurd (sniff_eq_json_iff.2 hopens) (by decide +kernel)
  exact ⟨d, hd, honly, (sniff_of_parse hd honly).1 hnot⟩

/-- A line that is taken for JSON, and a JSON text that makes no spec since its pattern is invalid. -/
theorem sniff_bare :
    ((parse .lines "[a-z]+ WORD").isOk = true ∧ (parse .json "[a-z]+ WORD").isOk = false ∧
      Format.sniff "[a-z]+ WORD" = .json ∧ Format.ofPath? "words.spec" = none ∧
      (load "words.spec" "[a-z]+ WORD").isOk = false) ∧
    (parse .json "[[\"(\", \"OPEN\"]]").isOk = true ∧
      (parse .lines "[[\"(\", \"OPEN\"]]").isOk = false ∧
      (load "words.spec" "[[\"(\", \"OPEN\"]]").isOk = false := by
  decide +kernel

end SpecFile

end OrderedLexer
