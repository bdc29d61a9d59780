/-
  Texts with one rule a line, one behind the other.

  A line is read alike wherever it stands, but for its number in its error (`movable_entry`), and so
  are several lines (`movable_entries`).

  * Lines that are appended are read behind the others (`entries_append`), and what they hold is put
    together (`draft_append`);
  * lines that are passed over do no more than move the others down (`essence_entries_filter`);
  * the options and the rules are each taken in their order, wherever they stand among the others
    (`draft_map_entryOf`).

  `ofLines_byLine` says this of texts.
-/
import OrderedLexer.Proofs.Offset
import OrderedLexer.Proofs.SpecForms

namespace OrderedLexer

open Text

/-! ## Lines of a text -/

namespace Text

theorem trim_trim (cs : List Char) : trim (trim cs) = trim cs := (trimmed_trim cs).trim_eq

end Text

namespace SpecFile

/-- The lines of a text without white space at their ends; behind the last newline, too. -/
def trimmedLines (text : String) : List (List Char) := (splitLines text.toList).map trim

theorem trimmedLines_append (a b : String) :
    trimmedLines (a ++ "\n" ++ b) = trimmedLines a ++ trimmedLines b := by
  have htext : (a ++ "\n" ++ b).toList = a.toList ++ '\n' :: b.toList := by
    rw [String.toList_append, String.toList_append, List.append_assoc]
    rfl
  rw [trimmedLines, htext, splitLines, List.splitOn_append_cons_self, List.map_append]
  rfl

theorem length_trimmedLines (text : String) :
    (trimmedLines text).length = 1 + text.toList.count '\n' := by
  rw [trimmedLines, List.length_map, length_splitLines]

/-! ## One line -/

/-- The number of the line that an error names. -/
def Error.line? : Error → Option Nat
  | .line n _ | .lineHandler n _ => some n
  | _ => none

/-- The same error on the line with a number. -/
def Error.atLine (n : Nat) : Error → Error
  | .line _ e => .line n e
  | .lineHandler _ e => .lineHandler n e
  | e => e

theorem Error.atLine_atLine (n m : Nat) (e : Error) : (e.atLine n).atLine m = e.atLine m := by
  cases e <;> rfl

/-- What is read alike wherever it stands, but for the number of the line in its error. -/
inductive Movable {α : Type} (read : Nat → Except Error α) : Prop
  | ok (a : α) (h : ∀ n, read n = .ok a)
  | error (e : Error) (k : Nat) (hline : ∀ n, (e.atLine n).line? = some n)
      (h : ∀ n, read n = .error (e.atLine (n + k)))

theorem movable_ruleOfLine (cs : List Char) : Movable (ruleOfLine · cs) := by
  rcases hsplit : splitPattern cs with e | ⟨pattern, r⟩
  · refine .error (.line 0 e) 0 (fun n => rfl) fun n => ?_
    simp only [ruleOfLine, hsplit]
    rfl
  by_cases hempty : (trim r).isEmpty
  · refine .error (.line 0 .noHandler) 0 (fun n => rfl) fun n => ?_
    simp only [ruleOfLine, hsplit, if_pos hempty]
    rfl
  rcases hcompile : Handler.compile (String.ofList (trim r)) with e | handler
  · refine .error (.lineHandler 0 e) 0 (fun n => rfl) fun n => ?_
    simp only [ruleOfLine, hsplit, if_neg hempty, hcompile]
    rfl
  · refine .ok (.rule ⟨String.ofList pattern, handler⟩) fun n => ?_
    simp only [ruleOfLine, hsplit, if_neg hempty, hcompile]

theorem movable_entry (line : List Char) : Movable (entry · line) := by
  unfold entry
  dsimp only
  split
  · exact .ok .blank fun n => rfl
  split
  · next r _ =>
    rcases directive r with e | os
    · exact .error (.line 0 e) 0 (fun n => rfl) fun n => rfl
    · exact .ok (.options os) fun n => rfl
  · exact movable_ruleOfLine (trim line)

variable {line : List Char} {lines : List (List Char)} {n : Nat} {x : Entry} {xs : List Entry}

theorem entry_trim (n : Nat) (line : List Char) : entry n (trim line) = entry n line := by
  rw [entry, entry, trim_trim]

/-- What kind of thing a line holds. -/
inductive LineKind where
  | passedOver | directive | rule
  deriving DecidableEq

/-- The kind of a line. -/
def lineKind (line : List Char) : LineKind :=
  if isPassedOver (trim line) then .passedOver
  else match trim line with
    | '%' :: _ => .directive
    | _ => .rule

/-- The kind of line that holds an entry. -/
def Entry.kind : Entry → LineKind
  | .blank => .passedOver
  | .options _ => .directive
  | .rule _ => .rule

theorem kind_of_ruleOfLine {cs : List Char} (h : ruleOfLine n cs = .ok x) : x.kind = .rule := by
  unfold ruleOfLine at h
  split at h
  · cases h
  dsimp only at h
  split at h
  · cases h
  split at h
  · cases h
    rfl
  · cases h

theorem kind_of_entry (h : entry n line = .ok x) : x.kind = lineKind line := by
  unfold entry at h
  dsimp only at h
  split at h
  · next hpass =>
    cases h
    rw [lineKind, if_pos hpass]
    rfl
  next hpass =>
  split at h
  · next r heq =>
    split at h
    · cases h
      rw [lineKind, if_neg hpass, heq]
      rfl
    · cases h
  · next hnot =>
    rw [kind_of_ruleOfLine h, lineKind, if_neg hpass]
    split
    · next r heq => exact absurd heq (hnot r)
    · rfl

theorem entry_of_passedOver (h : lineKind line = .passedOver) (n : Nat) :
    entry n line = .ok .blank := by
  unfold lineKind at h
  split at h
  · next hpass => rw [entry, if_pos hpass]
  · split at h <;> cases h

/-! ## Several lines -/

theorem entries_eq_bind (n : Nat) (line : List Char) (lines : List (List Char)) :
    entries n (line :: lines) =
      (entry n line).bind fun x => (entries (n + 1) lines).map (x :: ·) := by
  rw [entries]
  rcases entry n line with e | x
  · rfl
  · rcases entries (n + 1) lines with e | xs <;> rfl

theorem entries_append (n : Nat) (lines lines' : List (List Char)) :
    entries n (lines ++ lines') =
      (entries n lines).bind fun xs => (entries (n + lines.length) lines').map (xs ++ ·) := by
  induction lines generalizing n with
  | nil =>
    rw [List.nil_append, List.length_nil, Nat.add_zero]
    rcases hs : entries n lines' with e | xs <;> rfl
  | cons line lines ih =>
    rw [List.cons_append, entries_eq_bind, entries_eq_bind, ih, List.length_cons,
      show n + (lines.length + 1) = n + 1 + lines.length by omega]
    rcases entry n line with e | x
    · rfl
    rcases entries (n + 1) lines with e | xs
    · rfl
    · rcases entries (n + 1 + lines.length) lines' with e | ys <;> rfl

theorem movable_entries (lines : List (List Char)) : Movable (entries · lines) := by
  induction lines with
  | nil => exact .ok [] fun n => rfl
  | cons line lines ih =>
    rcases movable_entry line with ⟨x, hx⟩ | ⟨e, k, hline, he⟩
    · rcases ih with ⟨xs, hxs⟩ | ⟨e, k, hline, he⟩
      · refine .ok (x :: xs) fun n => ?_
        rw [entries_eq_bind, hx, hxs]
        rfl
      · refine .error e (k + 1) hline fun n => ?_
        rw [entries_eq_bind, hx, he, show n + (k + 1) = n + 1 + k by omega]
        rfl
    · refine .error e k hline fun n => ?_
      rw [entries_eq_bind, he]
      rfl

/-! ## Lines that are passed over -/

/-- The entries that are not blank. -/
def Entry.held (xs : List Entry) : List Entry := xs.filter (·.kind != .passedOver)

/-- What is read, without blank entries and numbers of lines. -/
def essence (r : Except Error (List Entry)) : Except Error (List Entry) :=
  (r.map Entry.held).mapError (Error.atLine 0)

theorem map_cons_held (x : Entry) (r : Except Error (List Entry)) :
    (r.map (x :: ·)).map Entry.held = (r.map Entry.held).map (Entry.held [x] ++ ·) := by
  rcases r with e | xs
  · rfl
  · exact congrArg Except.ok (List.filter_append [x] xs)

theorem essence_map_cons (x : Entry) (r : Except Error (List Entry)) :
    essence (r.map (x :: ·)) = (essence r).map (Entry.held [x] ++ ·) := by
  rw [essence, map_cons_held, essence]
  rcases r with e | xs <;> rfl

theorem essence_map_blank (r : Except Error (List Entry)) :
    essence (r.map (.blank :: ·)) = essence r := by
  rcases r with e | xs <;> rfl

/-- Lines that are passed over change no more than numbers of lines. -/
theorem essence_entries_filter (lines : List (List Char)) (n m : Nat) :
    essence (entries n lines) =
      essence (entries m (lines.filter (lineKind · != .passedOver))) := by
  induction lines generalizing n m with
  | nil => rfl
  | cons line lines ih =>
    rw [entries_eq_bind]
    by_cases hkind : lineKind line = .passedOver
    · rw [List.filter_cons_of_neg (by simpa using hkind), entry_of_passedOver hkind]
      exact (essence_map_blank _).trans (ih (n + 1) m)
    · rw [List.filter_cons_of_pos (by simpa using hkind), entries_eq_bind]
      rcases movable_entry line with ⟨x, hx⟩ | ⟨e, k, -, he⟩
      · rw [hx, hx]
        simp only [Except.bind, essence_map_cons, ih (n + 1) (m + 1)]
      · rw [he, he]
        simp only [Except.bind, essence, Except.map, Except.mapError, Error.atLine_atLine]

/-! ## Drafts -/

/-- The draft that entries make. -/
def Entry.draft (xs : List Entry) : Draft :=
  .record (Entry.rules xs) ((Entry.allOptions xs).foldl Options.merge {})

section

variable {p : Entry → Bool}

theorem rules_filter (h : ∀ x, x.kind = .rule → p x = true) (xs : List Entry) :
    Entry.rules (xs.filter p) = Entry.rules xs := by
  rw [Entry.rules, Entry.rules, List.filterMap_filter]
  refine congrArg (xs.filterMap ·) (funext fun x => ?_)
  cases x with
  | rule r => rw [h _ rfl, if_pos rfl]
  | blank => exact ite_self _
  | options os => exact ite_self _

theorem allOptions_filter (h : ∀ x, x.kind = .directive → p x = true) (xs : List Entry) :
    Entry.allOptions (xs.filter p) = Entry.allOptions xs := by
  induction xs with
  | nil => rfl
  | cons x xs ih =>
    have hcons : Entry.allOptions (x :: xs) = Entry.allOptions [x] ++ Entry.allOptions xs := by
      simp [Entry.allOptions]
    by_cases hx : p x = true
    · rw [List.filter_cons_of_pos hx, hcons, ← ih]
      simp [Entry.allOptions]
    · have hnone : Entry.allOptions [x] = [] := by
        cases x with
        | options os => exact absurd (h _ rfl) hx
        | blank | rule r => rfl
      rw [List.filter_cons_of_neg hx, ih, hcons, hnone, List.nil_append]

end

theorem draft_held (xs : List Entry) : Entry.draft (Entry.held xs) = Entry.draft xs := by
  have hrules : Entry.rules (Entry.held xs) = Entry.rules xs :=
    rules_filter (fun x hx => by rw [hx]; rfl) xs
  have hoptions : Entry.allOptions (Entry.held xs) = Entry.allOptions xs :=
    allOptions_filter (fun x hx => by rw [hx]; rfl) xs
  rw [Entry.draft, hrules, hoptions, Entry.draft]

theorem map_held_draft (r : Except Error (List Entry)) :
    (r.map Entry.held).map Entry.draft = r.map Entry.draft := by
  rcases r with e | xs
  · rfl
  · exact congrArg Except.ok (draft_held xs)

/-- The end of the last line makes no difference, and neither do carriage returns. -/
theorem entries_closeLines_held (lines : List (List Char)) (n : Nat) :
    (entries n (closeLines lines)).map Entry.held = (entries n (lines.map trim)).map Entry.held := by
  induction lines generalizing n with
  | nil => rfl
  | cons line lines ih =>
    rw [List.map_cons, entries_eq_bind, entry_trim]
    cases lines with
    | nil =>
      cases line with
      | nil => rfl
      | cons c cs =>
        have hclose : closeLines [c :: cs] = [c :: cs] := rfl
        rw [hclose, entries_eq_bind]
        rfl
    | cons next lines =>
      have hclose : closeLines (line :: next :: lines) =
          dropReturn line :: closeLines (next :: lines) := rfl
      rw [hclose, entries_eq_bind, entry_dropReturn]
      rcases entry n line with e | x
      · rfl
      · simp only [Except.bind, map_cons_held, ih]

theorem ofLines_eq (text : String) :
    Draft.ofLines text = (entries 1 (trimmedLines text)).map Entry.draft := by
  have hmap : Draft.ofLines text = (entries 1 (Text.lines text.toList)).map Entry.draft := by
    rw [Draft.ofLines]
    rcases entries 1 (Text.lines text.toList) with e | xs <;> rfl
  rw [hmap, ← map_held_draft, Text.lines, entries_closeLines_held, map_held_draft, trimmedLines]

theorem draft_append (xs ys : List Entry) :
    Entry.draft (xs ++ ys) =
      .record ((Entry.draft xs).rules ++ (Entry.draft ys).rules)
        ((Entry.draft xs).options.merge (Entry.draft ys).options) := by
  have hoptions : (Entry.allOptions (xs ++ ys)).foldl Options.merge {} =
      ((Entry.allOptions xs).foldl Options.merge {}).merge
        ((Entry.allOptions ys).foldl Options.merge {}) := by
    rw [Entry.allOptions, List.flatMap_append, List.foldl_append, Options.foldl_merge]
    rfl
  rw [Entry.draft, hoptions, Entry.rules, List.filterMap_append]
  rfl

/-! ## The order of lines -/

/-- What a line holds, if it can be read. -/
def entryOf (line : List Char) : Entry := (entry 0 line).toOption.getD .blank

theorem entry_eq_entryOf (h : entry n line = .ok x) (m : Nat) : entry m line = .ok (entryOf line) := by
  rcases movable_entry line with ⟨y, hy⟩ | ⟨e, k, -, he⟩
  · rw [hy, entryOf, hy]
    rfl
  · rw [he] at h
    cases h

/-- Lines can be read if each of them can. -/
theorem entries_eq_ok_iff :
    entries n lines = .ok xs ↔
      (∀ line ∈ lines, ∀ m, entry m line = .ok (entryOf line)) ∧ xs = lines.map entryOf := by
  induction lines generalizing n xs with
  | nil => simp [entries, eq_comm]
  | cons line lines ih =>
    rw [entries_eq_bind, List.forall_mem_cons]
    constructor
    · intro h
      rcases hx : entry n line with e | x
      · rw [hx] at h
        cases h
      rcases hxs : entries (n + 1) lines with e | ys
      · rw [hx, hxs] at h
        cases h
      obtain ⟨hlines, rfl⟩ := ih.1 hxs
      have hline := entry_eq_entryOf hx
      rw [hline, hxs] at h
      cases h
      exact ⟨⟨hline, hlines⟩, rfl⟩
    · rintro ⟨⟨hline, hlines⟩, rfl⟩
      rw [hline, ih.2 ⟨hlines, rfl⟩]
      rfl

/-- The entries of a kind are those of the lines of the kind. -/
theorem filter_map_entryOf (h : ∀ line ∈ lines, ∀ m, entry m line = .ok (entryOf line))
    (kind : LineKind) :
    (lines.map entryOf).filter (·.kind = kind) = (lines.filter (lineKind · = kind)).map entryOf := by
  rw [List.filter_map]
  refine congrArg (List.map entryOf) (List.filter_congr fun line hline => ?_)
  rw [Function.comp_apply, kind_of_entry (h line hline 0)]

/-- Only the order of directives and the order of rules matter. -/
theorem draft_map_entryOf {lines' : List (List Char)}
    (h : ∀ line ∈ lines, ∀ m, entry m line = .ok (entryOf line))
    (h' : ∀ line ∈ lines', ∀ m, entry m line = .ok (entryOf line))
    (hoptions : lines.filter (lineKind · = .directive) = lines'.filter (lineKind · = .directive))
    (hrules : lines.filter (lineKind · = .rule) = lines'.filter (lineKind · = .rule)) :
    Entry.draft (lines.map entryOf) = Entry.draft (lines'.map entryOf) := by
  have hall : Entry.allOptions (lines.map entryOf) = Entry.allOptions (lines'.map entryOf) := by
    rw [← allOptions_filter (p := (·.kind = .directive)) (by simp), filter_map_entryOf h, hoptions,
      ← filter_map_entryOf h', allOptions_filter (by simp)]
  have hrule : Entry.rules (lines.map entryOf) = Entry.rules (lines'.map entryOf) := by
    rw [← rules_filter (p := (·.kind = .rule)) (by simp), filter_map_entryOf h, hrules,
      ← filter_map_entryOf h', rules_filter (by simp)]
  rw [Entry.draft, hall, hrule, Entry.draft]

/-! ## Texts -/

/-- The lines of a text that are not passed over, without white space at their ends. -/
def heldLines (text : String) : List (List Char) :=
  (trimmedLines text).filter (lineKind · != .passedOver)

/-- The lines of a text that are of a kind, without white space at their ends. -/
def linesOf (kind : LineKind) (text : String) : List (List Char) :=
  (trimmedLines text).filter (lineKind · = kind)

variable {a b : String} {d d' : Draft} {e : Error}

theorem exists_of_ofLines (h : Draft.ofLines a = .ok d) :
    ∃ xs, entries 1 (trimmedLines a) = .ok xs ∧ d = Entry.draft xs := by
  rw [ofLines_eq] at h
  rcases hxs : entries 1 (trimmedLines a) with e | xs
  · rw [hxs] at h
    cases h
  · rw [hxs] at h
    cases h
    exact ⟨xs, rfl, rfl⟩

theorem entries_of_ofLines_error (h : Draft.ofLines a = .error e) :
    entries 1 (trimmedLines a) = .error e := by
  rw [ofLines_eq] at h
  rcases hxs : entries 1 (trimmedLines a) with e' | xs
  · rw [hxs] at h
    cases h
    rfl
  · rw [hxs] at h
    cases h

theorem ofLines_append_error (b : String) (h : Draft.ofLines a = .error e) :
    Draft.ofLines (a ++ "\n" ++ b) = .error e := by
  rw [ofLines_eq, trimmedLines_append, entries_append, entries_of_ofLines_error h]
  rfl

theorem ofLines_append_error_right (ha : Draft.ofLines a = .ok d) (hb : Draft.ofLines b = .error e) :
    ∃ k, e.line? = some k ∧
      Draft.ofLines (a ++ "\n" ++ b) = .error (e.atLine (1 + a.toList.count '\n' + k)) := by
  obtain ⟨xs, hxs, -⟩ := exists_of_ofLines ha
  have herror := entries_of_ofLines_error hb
  rcases movable_entries (trimmedLines b) with ⟨ys, hys⟩ | ⟨e', k, hline, he⟩
  · rw [hys] at herror
    cases herror
  · rw [he] at herror
    cases herror
    refine ⟨1 + k, hline _, ?_⟩
    rw [ofLines_eq, trimmedLines_append, entries_append, hxs, length_trimmedLines,
      Error.atLine_atLine]
    simp only [Except.bind, he, Except.map]
    rw [Nat.add_assoc 1, Nat.add_left_comm 1]

theorem ofLines_append (ha : Draft.ofLines a = .ok d) (hb : Draft.ofLines b = .ok d') :
    Draft.ofLines (a ++ "\n" ++ b) =
      .ok (.record (d.rules ++ d'.rules) (d.options.merge d'.options)) := by
  obtain ⟨xs, hxs, rfl⟩ := exists_of_ofLines ha
  obtain ⟨ys, hys, rfl⟩ := exists_of_ofLines hb
  have hys' := entries_eq_ok_iff (n := 1 + (trimmedLines a).length) |>.2 (entries_eq_ok_iff.1 hys)
  rw [ofLines_eq, trimmedLines_append, entries_append, hxs, ← draft_append]
  simp only [Except.bind, hys', Except.map]

theorem mapError_ofLines (text : String) :
    (Draft.ofLines text).mapError (Error.atLine 0) =
      (essence (entries 1 (trimmedLines text))).map Entry.draft := by
  rw [ofLines_eq, ← map_held_draft, essence]
  rcases entries 1 (trimmedLines text) with e | xs <;> rfl

theorem ofLines_of_heldLines (h : heldLines a = heldLines b) :
    (Draft.ofLines a).mapError (Error.atLine 0) = (Draft.ofLines b).mapError (Error.atLine 0) := by
  have hessence : ∀ text, essence (entries 1 (trimmedLines text)) =
      essence (entries 1 (heldLines text)) := fun text => essence_entries_filter _ 1 1
  rw [mapError_ofLines, mapError_ofLines, hessence, hessence, h]

theorem ofLines_of_linesOf (hoptions : linesOf .directive a = linesOf .directive b)
    (hrules : linesOf .rule a = linesOf .rule b) (h : Draft.ofLines a = .ok d) :
    Draft.ofLines b = .ok d := by
  obtain ⟨xs, hxs, rfl⟩ := exists_of_ofLines h
  obtain ⟨hread, rfl⟩ := entries_eq_ok_iff.1 hxs
  have hread' : ∀ line ∈ trimmedLines b, ∀ m, entry m line = .ok (entryOf line) := by
    intro line hline
    -- a line that is not passed over stands in the other text, too
    have hmem : ∀ kind, linesOf kind a = linesOf kind b → lineKind line = kind →
        line ∈ trimmedLines a := by
      intro kind hkinds hkind
      have hof : line ∈ linesOf kind b := List.mem_filter.2 ⟨hline, by simpa using hkind⟩
      rw [← hkinds] at hof
      exact (List.mem_filter.1 hof).1
    rcases hkind : lineKind line with _ | _ | _
    · exact entry_eq_entryOf (entry_of_passedOver hkind 0)
    · exact hread line (hmem .directive hoptions hkind)
    · exact hread line (hmem .rule hrules hkind)
  rw [ofLines_eq, entries_eq_ok_iff.2 ⟨hread', rfl⟩]
  exact congrArg Except.ok (draft_map_entryOf hread' hread hoptions.symm hrules.symm)

end SpecFile

namespace Draft

open SpecFile (Error heldLines linesOf)

/-- How two texts are read one behind the other, and when they stand for the same. -/
structure ByLine (a b : String) : Prop where
  /-- An error in the first text is the error of both. -/
  first : ∀ e, ofLines a = .error e → ofLines (a ++ "\n" ++ b) = .error e
  /-- Else an error in the second text stands below the lines of the first one. -/
  second : ∀ d e, ofLines a = .ok d → ofLines b = .error e → ∃ k, e.line? = some k ∧
    ofLines (a ++ "\n" ++ b) = .error (e.atLine (1 + a.toList.count '\n' + k))
  /-- Else the rules of the second text come last, and its options win. -/
  both : ∀ d d', ofLines a = .ok d → ofLines b = .ok d' →
    ofLines (a ++ "\n" ++ b) = .ok (.record (d.rules ++ d'.rules) (d.options.merge d'.options))
  /-- Texts that differ in lines that are passed over stand for the same, but for the number of the
      line in an error. -/
  held : heldLines a = heldLines b →
    (ofLines a).mapError (Error.atLine 0) = (ofLines b).mapError (Error.atLine 0)
  /-- Where options stand among rules does not matter, if all lines can be read. -/
  moved : linesOf .directive a = linesOf .directive b → linesOf .rule a = linesOf .rule b →
    ∀ d, ofLines a = .ok d → ofLines b = .ok d

/-- **A text with one rule a line is read line by line.** -/
theorem ofLines_byLine (a b : String) : ByLine a b where
  first _ ha := SpecFile.ofLines_append_error b ha
  second _ _ ha hb := SpecFile.ofLines_append_error_right ha hb
  both _ _ ha hb := SpecFile.ofLines_append ha hb
  held h := SpecFile.ofLines_of_heldLines h
  moved hoptions hrules _ h := SpecFile.ofLines_of_linesOf hoptions hrules h

example : heldLines "%option x\na A\r\n\n# b B\n  // c\n%%\nd D" = heldLines "%option x\na A\nd D" := by
  decide +kernel

end Draft

end OrderedLexer
