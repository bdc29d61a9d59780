/-
  The two forms of specs agree.

  Rules and options can be written as an object (`documentValue`) and, if each of them fits on a
  line, as lines (`documentLines`): the options as settings behind `%option`, and every rule as its
  pattern between slashes, with its own slashes escaped, and its handler behind it.  Both forms are
  read to the same draft (`ofLines_eq_ofJson`).

  * A pattern between slashes is read back if its backslashes come in pairs, none of which escapes
    a slash, and the closing slash does not stand in a class (`slashSource_escapeSlashes`).
  * The settings of members, merged one after the other, are the options of the object
    (`foldl_merge_settings`).
-/
import OrderedLexer.Proofs.SpecRoundTrip

namespace OrderedLexer

open Json (Members Value)
open Text

/-! ## Words and lines -/

namespace Text

theorem words_append_space {c : Char} (hc : isWhiteSpace c = true) (cs ds : List Char) :
    words (cs ++ c :: ds) = words cs ++ words ds := by
  rw [words, List.splitOnP_append_cons cs ds hc, List.filter_append]
  rfl

theorem words_of_noSpace {w : List Char} (hne : w ≠ []) (hw : NoSpace w) : words w = [w] := by
  rw [words, List.splitOnP_eq_singleton hw]
  simp [hne]

theorem words_flatMap {ws : List (List Char)} (hws : ∀ w ∈ ws, w ≠ [] ∧ NoSpace w) :
    words (ws.flatMap (' ' :: ·)) = ws := by
  induction ws using List.reverseRecOn with
  | nil => rfl
  | append_singleton ws w ih =>
    obtain ⟨hws, hw⟩ := List.forall_mem_append.1 hws
    obtain ⟨hne, hspace⟩ := hw w (List.mem_singleton_self w)
    rw [List.flatMap_append, List.flatMap_singleton, words_append_space isWhiteSpace_space, ih hws,
      words_of_noSpace hne hspace]

theorem trim_dropReturn (line : List Char) : trim (dropReturn line) = trim line := by
  unfold dropReturn
  split
  · next h =>
    obtain ⟨l, hl⟩ := List.getLast?_eq_some_iff.1 h
    obtain ⟨u, v, hcut, hu, hm, hv⟩ := exists_trim l
    have hv' : Blank (v ++ ['\r']) := List.forall_mem_append.2 ⟨hv, List.forall_mem_singleton.2 (by decide)⟩
    rw [hl, List.dropLast_concat]
    conv_rhs => rw [hcut, List.append_assoc, trim_eq hu hm hv']
  · rfl

end Text

namespace SpecFile

theorem entry_dropReturn (n : Nat) (line : List Char) : entry n (dropReturn line) = entry n line := by
  rw [entry, entry, trim_dropReturn]

theorem entries_cons {n : Nat} {line line' : List Char} {lines lines' : List (List Char)}
    (h : entry n line = entry n line') (hs : entries (n + 1) lines = entries (n + 1) lines') :
    entries n (line :: lines) = entries n (line' :: lines') := by
  rw [entries, entries, h, hs]

theorem entries_closeLines {lines : List (List Char)} (hne : ∀ line ∈ lines, line ≠ []) (n : Nat) :
    entries n (closeLines lines) = entries n lines := by
  induction lines generalizing n with
  | nil => rfl
  | cons line lines ih =>
    obtain ⟨hline, hlines⟩ := List.forall_mem_cons.1 hne
    cases lines with
    | nil => simp [closeLines, hline]
    | cons next lines => exact entries_cons (entry_dropReturn n line) (ih hlines (n + 1))

theorem entries_closeLines_append (lines : List (List Char)) (n : Nat) :
    entries n (closeLines (lines ++ [[]])) = entries n lines := by
  induction lines generalizing n with
  | nil => rfl
  | cons line lines ih =>
    have hclose : closeLines (line :: (lines ++ [[]])) =
        dropReturn line :: closeLines (lines ++ [[]]) := by
      cases lines <;> rfl
    rw [List.cons_append, hclose]
    exact entries_cons (entry_dropReturn n line) (ih (n + 1))

/-! ## Patterns between slashes -/

/-- A pattern with every slash behind a backslash. -/
def escapeSlashes (cs : List Char) : List Char :=
  cs.flatMap fun c => if c = '/' then ['\\', '/'] else [c]

/-- Whether backslashes come in pairs with what is behind them, and never with a slash. -/
def isPaired : List Char → Bool
  | [] => true
  | ['\\'] => false
  | '\\' :: c :: r => c != '/' && isPaired r
  | _ :: r => isPaired r

/-- The last square bracket that stands behind no backslash. -/
def lastBracket? : List Char → Option Char
  | [] => none
  | '\\' :: _ :: r => lastBracket? r
  | c :: r => (lastBracket? r).or (if c = '[' || c = ']' then some c else none)

/-- Whether what follows a text stands in a class, if the text itself does so or not. -/
def classBehind (inClass : Bool) (cs : List Char) : Bool :=
  (lastBracket? cs).elim inClass (· == '[')

/-- The step of `slashSource` on a class. -/
theorem classBehind_cons {c : Char} (hc : c ≠ '\\') (inClass : Bool) (cs : List Char) :
    classBehind inClass (c :: cs) =
      classBehind (if c = '[' then true else if c = ']' then false else inClass) cs := by
  have hlast : lastBracket? (c :: cs) =
      (lastBracket? cs).or (if c = '[' || c = ']' then some c else none) := by
    simp [lastBracket?, hc]
  rw [classBehind, classBehind, hlast]
  cases lastBracket? cs with
  | some d => rfl
  | none =>
    by_cases hopen : c = '['
    · simp [hopen]
    · by_cases hclose : c = ']'
      · simp [hclose]
      · simp [hopen, hclose]

theorem slashSource_cons {c : Char} (hc : c ≠ '\\') (hslash : c ≠ '/') (inClass : Bool)
    (cs : List Char) :
    slashSource inClass (c :: cs) =
      (slashSource (if c = '[' then true else if c = ']' then false else inClass) cs).map
        fun (s, r) => (c :: s, r) := by
  simp [slashSource, hc, hslash]

theorem escapeSlashes_cons {c : Char} (hc : c ≠ '/') (cs : List Char) :
    escapeSlashes (c :: cs) = c :: escapeSlashes cs := by
  simp [escapeSlashes, hc]

theorem escapeSlashes_slash (cs : List Char) :
    escapeSlashes ('/' :: cs) = '\\' :: '/' :: escapeSlashes cs :=
  rfl

theorem slashSource_escapeSlashes {cs : List Char} (hp : isPaired cs = true) {inClass : Bool}
    (hclass : classBehind inClass cs = false) (r : List Char) :
    slashSource inClass (escapeSlashes cs ++ '/' :: r) = some (cs, r) := by
  fun_induction isPaired cs generalizing inClass with
  | case1 =>
    have hout : inClass = false := hclass
    simp [escapeSlashes, slashSource, hout]
  | case2 => cases hp
  | case3 c cs ih =>
    simp only [Bool.and_eq_true, bne_iff_ne] at hp
    obtain ⟨hc, hp⟩ := hp
    rw [escapeSlashes_cons (by decide), escapeSlashes_cons hc, List.cons_append, List.cons_append,
      slashSource, ih hp hclass]
    simp [hc]
  | case4 c cs hlone hpair ih =>
    have hc : c ≠ '\\' := by
      intro hc
      cases cs with
      | nil => exact hlone hc rfl
      | cons d cs => exact hpair d cs hc rfl
    rw [classBehind_cons hc] at hclass
    -- a slash is written as a pair and leaves the class as it is; all else is written as itself
    by_cases hslash : c = '/'
    · subst hslash
      have hclass : classBehind inClass cs = false := hclass
      rw [escapeSlashes_slash, List.cons_append, List.cons_append, slashSource, ih hp hclass]
      simp
    · rw [escapeSlashes_cons hslash, List.cons_append, slashSource_cons hc hslash, ih hp hclass]
      rfl

/-- A pattern that fits between slashes on a line. -/
@[mk_iff]
structure FitsSlashes (pattern : List Char) : Prop where
  nonempty : pattern ≠ []
  oneLine : '\n' ∉ pattern
  paired : isPaired pattern = true
  closed : lastBracket? pattern ≠ some '['

instance (pattern : List Char) : Decidable (FitsSlashes pattern) :=
  decidable_of_iff _ (fitsSlashes_iff pattern).symm

theorem FitsSlashes.classBehind_eq {cs : List Char} (h : FitsSlashes cs) :
    classBehind false cs = false := by
  have hclosed := h.closed
  rw [classBehind]
  cases hlast : lastBracket? cs with
  | none => rfl
  | some c =>
    rw [hlast] at hclosed
    simpa using hclosed

theorem slashPattern_escapeSlashes {cs : List Char} (h : FitsSlashes cs) (r : List Char) :
    slashPattern (escapeSlashes cs ++ '/' :: ' ' :: r) = .ok (cs, ' ' :: r) := by
  rw [slashPattern, slashSource_escapeSlashes h.paired h.classBehind_eq]
  rfl

/-! ## Rules -/

/-- A handler that fits on a line. -/
@[mk_iff]
structure FitsLine (body : String) : Prop where
  compiles : (Handler.compile body).isOk = true
  visible : ¬Blank body.toList
  oneLine : '\n' ∉ body.toList

instance (body : String) : Decidable (FitsLine body) :=
  decidable_of_iff _ (fitsLine_iff body).symm

theorem FitsLine.exists_handler {body : String} (h : FitsLine body) :
    ∃ handler, Handler.compile body = .ok handler := exists_of_isOk h.compiles

/-- A rule on a line. -/
def ruleLine (pattern body : String) : List Char :=
  '/' :: (escapeSlashes pattern.toList ++ '/' :: ' ' :: body.toList)

theorem not_isPassedOver_ruleLine {cs : List Char} (hne : cs ≠ []) (r : List Char) :
    isPassedOver ('/' :: (escapeSlashes cs ++ r)) = false := by
  obtain ⟨c, cs, rfl⟩ := List.exists_cons_of_ne_nil hne
  by_cases hslash : c = '/'
  · subst hslash
    rfl
  · rw [escapeSlashes_cons hslash, List.cons_append]
    simp [isPassedOver, hslash]

/-- A line is a rule if a pattern and a blank stand at its start and a handler behind them. -/
theorem entry_rule {c : Char} {cs pattern : List Char} (hspace : isWhiteSpace c = false) (hc : c ≠ '%')
    (hpassed : ∀ r, isPassedOver (c :: (cs ++ ' ' :: r)) = false)
    (hsplit : ∀ r, splitPattern (c :: (cs ++ ' ' :: r)) = .ok (pattern, ' ' :: r)) {body : String}
    {h : Handler} (hvisible : ¬Blank body.toList) (hcompile : Handler.compile body = .ok h) (n : Nat) :
    entry n (c :: (cs ++ ' ' :: body.toList)) = .ok (.rule ⟨String.ofList pattern, h⟩) := by
  -- white space behind the handler is trimmed off the line, that before it off the handler
  obtain ⟨u, v, hcut, hu, hm, hv⟩ := exists_trim body.toList
  have hne : trim body.toList ≠ [] := by
    intro hnil
    rw [hnil, List.append_nil] at hcut
    exact hvisible (hcut ▸ List.forall_mem_append.2 ⟨hu, hv⟩)
  have htrim : trim (c :: (cs ++ ' ' :: body.toList)) = c :: (cs ++ ' ' :: (u ++ trim body.toList)) := by
    have hline : Trimmed (c :: ((cs ++ ' ' :: u) ++ trim body.toList)) := hm.cons_append hne hspace
    have hcut' : c :: (cs ++ ' ' :: body.toList) =
        [] ++ c :: ((cs ++ ' ' :: u) ++ trim body.toList) ++ v := by
      conv_lhs => rw [hcut]
      simp
    rw [hcut', trim_eq (by simp [Blank]) hline hv]
    simp
  have hbody : trim (' ' :: (u ++ trim body.toList)) = trim body.toList := by
    have hspace : Blank (' ' :: u) := List.forall_mem_cons.2 ⟨isWhiteSpace_space, hu⟩
    simpa using trim_eq hspace hm (v := []) (by simp [Blank])
  have hhandler : Handler.compile (String.ofList (trim body.toList)) = .ok h :=
    (Handler.compile_trim hcompile).2
  simp only [entry, htrim, hpassed, ruleOfLine, hsplit, hbody, hhandler, List.isEmpty_iff, hne,
    Bool.false_eq_true, if_false]
  split
  · next hline => exact absurd (List.cons.inj hline).1 hc
  · rfl

theorem entry_ruleLine {pattern body : String} {h : Handler} (hp : FitsSlashes pattern.toList)
    (hvisible : ¬Blank body.toList) (hc : Handler.compile body = .ok h) (n : Nat) :
    entry n (ruleLine pattern body) = .ok (.rule ⟨pattern, h⟩) := by
  have hline : ∀ r, escapeSlashes pattern.toList ++ ['/'] ++ ' ' :: r =
      escapeSlashes pattern.toList ++ '/' :: ' ' :: r := fun r => by simp
  have hpassed : ∀ r, isPassedOver ('/' :: (escapeSlashes pattern.toList ++ ['/'] ++ ' ' :: r)) =
      false := fun r => hline r ▸ not_isPassedOver_ruleLine hp.nonempty _
  have hsplit : ∀ r, splitPattern ('/' :: (escapeSlashes pattern.toList ++ ['/'] ++ ' ' :: r)) =
      .ok (pattern.toList, ' ' :: r) := fun r => hline r ▸ slashPattern_escapeSlashes hp r
  rw [ruleLine, ← hline, entry_rule (by decide) (by decide) hpassed hsplit hvisible hc,
    String.ofList_toList]

/-! ## Settings -/

/-- A member that fits on a line of settings. -/
@[mk_iff]
structure FitsSetting (m : String × Value) : Prop where
  name : NoSpace m.1.toList
  separate : '=' ∉ m.1.toList
  exact : m.2.isExact = true
  value : NoSpace (m.2.write .compact)

instance (m : String × Value) : Decidable (FitsSetting m) :=
  decidable_of_iff _ (fitsSetting_iff m).symm

/-- A member as a setting. -/
def settingText (m : String × Value) : List Char := m.1.toList ++ '=' :: m.2.write .compact

/-- Members on a line of settings. -/
def optionLine (ms : Members) : List Char :=
  ['%', 'o', 'p', 't', 'i', 'o', 'n'] ++ (ms.map settingText).flatMap (' ' :: ·)

theorem noSpace_settingText {m : String × Value} (h : FitsSetting m) :
    settingText m ≠ [] ∧ NoSpace (settingText m) := by
  refine ⟨by simp [settingText], List.forall_mem_append.2 ⟨h.name, ?_⟩⟩
  exact List.forall_mem_cons.2 ⟨by decide, h.value⟩

theorem setting_settingText {m : String × Value} {o : Options} (h : FitsSetting m)
    (hv : m.2.Canonical) (hdepth : m.2.depth ≤ Json.Reader.maxDepth)
    (ho : Options.ofValue (.obj [m]) = .ok o) : setting (settingText m) = .ok o := by
  have hname : ∀ c ∈ m.1.toList, (c != '=') = true := by
    intro c hc
    rw [bne_iff_ne]
    rintro rfl
    exact h.separate hc
  have hend : ∀ c ∈ ('=' :: m.2.write .compact).head?, (c != '=') = false := by simp
  have hread := Json.read_write hv h.exact hdepth .compact
  simp only [setting, settingText, takeWhile_append_of_head? hname hend,
    dropWhile_append_of_head? hname hend, settingValue, hread, String.ofList_toList, ho]

/-- The settings of members, merged one after the other, are the options of the object. -/
theorem foldl_merge_settings {ms : Members} {o : Options} (hs : ms.Sorted)
    (hfits : ∀ m ∈ ms, FitsSetting m) (hvalues : ∀ m ∈ ms, m.2.Canonical)
    (hdepth : ∀ m ∈ ms, m.2.depth ≤ Json.Reader.maxDepth) (ho : Options.ofValue (.obj ms) = .ok o) :
    ∃ os, settings (ms.map settingText) = .ok os ∧ ∀ a, os.foldl Options.merge a = a.merge o := by
  -- on the members, with any options to merge over
  induction ms generalizing o with
  | nil =>
    cases ho
    exact ⟨[], rfl, fun a => a.merge_empty.symm⟩
  | cons m ms ih =>
    obtain ⟨hfit, hfits⟩ := List.forall_mem_cons.1 hfits
    obtain ⟨hvalue, hvalues⟩ := List.forall_mem_cons.1 hvalues
    obtain ⟨hd, hdepth⟩ := List.forall_mem_cons.1 hdepth
    obtain ⟨x, y, hx, hy, rfl⟩ := Options.exists_of_ofValue_cons hs ho
    obtain ⟨os, hos, hmerge⟩ := ih (List.pairwise_cons.1 hs).2 hfits hvalues hdepth hy
    refine ⟨x :: os, ?_, fun a => ?_⟩
    · simp only [List.map_cons, settings, setting_settingText hfit hvalue hd hx, hos]
    · rw [List.foldl_cons, hmerge, Options.merge_assoc]

theorem trimmed_optionLine {ms : Members} (hms : ∀ m ∈ ms, FitsSetting m) :
    Trimmed (optionLine ms) := by
  rcases List.eq_nil_or_concat ms with rfl | ⟨init, m, rfl⟩
  · exact NoSpace.trimmed (by decide)
  · obtain ⟨hne, hspace⟩ := noSpace_settingText (hms m (by simp))
    have hline : optionLine (init.concat m) = '%' :: ((['o', 'p', 't', 'i', 'o', 'n'] ++
        (init.map settingText).flatMap (' ' :: ·) ++ [' ']) ++ settingText m) := by
      simp [optionLine]
    rw [hline]
    exact hspace.trimmed.cons_append hne (by decide)

theorem entry_optionLine {ms : Members} {os : List Options} (hms : ∀ m ∈ ms, FitsSetting m)
    (hos : settings (ms.map settingText) = .ok os) (n : Nat) :
    entry n (optionLine ms) = .ok (.options os) := by
  have hwords : ∀ w ∈ ms.map settingText, w ≠ [] ∧ NoSpace w := by
    intro w hw
    obtain ⟨m, hm, rfl⟩ := List.mem_map.1 hw
    exact noSpace_settingText (hms m hm)
  have hname : ∀ c ∈ ['o', 'p', 't', 'i', 'o', 'n'], (!isWhiteSpace c) = true :=
    List.forall_iff_forall_mem.1 (by decide)
  have hend : ∀ c ∈ ((ms.map settingText).flatMap (' ' :: ·)).head?, (!isWhiteSpace c) = false := by
    cases ms with
    | nil => simp
    | cons m ms => simp [isWhiteSpace_space]
  have hdirective : directive (['o', 'p', 't', 'i', 'o', 'n'] ++
      (ms.map settingText).flatMap (' ' :: ·)) = .ok os := by
    simp only [directive, takeWhile_append_of_head? hname hend, dropWhile_append_of_head? hname hend,
      words_flatMap hwords, hos]
    rfl
  have hpassed : isPassedOver (optionLine ms) = false := rfl
  rw [entry, (trimmed_optionLine hms).trim_eq]
  simp only [hpassed]
  simp only [optionLine, List.cons_append, List.nil_append] at hdirective ⊢
  simp only [hdirective]
  rfl

/-! ## Documents -/

/-- A draft is what a rule, a pattern with a handler, stands for. -/
def StandsFor (r : String × String) (x : DraftRule) : Prop :=
  x.pattern = r.1 ∧ Handler.compile r.2 = .ok x.handler

/-- Rules and options as an object. -/
def documentValue (rules : List (String × String)) (ms : Members) : Value :=
  .obj [("options", .obj ms), ("rules", .arr (rules.map fun r => .arr [.str r.1, .str r.2]))]

/-- Rules and options as lines, the options first. -/
def documentLines (rules : List (String × String)) (ms : Members) : List (List Char) :=
  optionLine ms :: rules.map fun r => ruleLine r.1 r.2

theorem exists_standsFor {rules : List (String × String)} (h : ∀ r ∈ rules, FitsLine r.2) :
    ∃ drafts, List.Forall₂ StandsFor rules drafts := by
  induction rules with
  | nil => exact ⟨[], .nil⟩
  | cons r rules ih =>
    obtain ⟨hr, hrules⟩ := List.forall_mem_cons.1 h
    obtain ⟨drafts, hdrafts⟩ := ih hrules
    obtain ⟨handler, hc⟩ := hr.exists_handler
    exact ⟨⟨r.1, handler⟩ :: drafts, .cons ⟨rfl, hc⟩ hdrafts⟩

section

variable {rules : List (String × String)} {drafts : List DraftRule} {ms : Members}

theorem rulesOfValues_standsFor (h : List.Forall₂ StandsFor rules drafts) (index : Nat) :
    rulesOfValues index (rules.map fun r => .arr [.str r.1, .str r.2]) = .ok drafts := by
  induction h generalizing index with
  | nil => rfl
  | @cons r x rules drafts hx _ ih =>
    obtain ⟨pattern, body⟩ := r
    obtain ⟨rfl, hc⟩ : x.pattern = pattern ∧ Handler.compile body = .ok x.handler := hx
    simp only [List.map_cons, rulesOfValues, ruleOfValue, hc, ih]

theorem entries_standsFor (h : List.Forall₂ StandsFor rules drafts)
    (hpatterns : ∀ r ∈ rules, FitsSlashes r.1.toList) (hbodies : ∀ r ∈ rules, FitsLine r.2)
    (n : Nat) :
    entries n (rules.map fun r => ruleLine r.1 r.2) = .ok (drafts.map .rule) := by
  induction h generalizing n with
  | nil => rfl
  | @cons r x rules drafts hx _ ih =>
    obtain ⟨pattern, body⟩ := r
    obtain ⟨hpattern, hps⟩ := List.forall_mem_cons.1 hpatterns
    obtain ⟨hbody, hbs⟩ := List.forall_mem_cons.1 hbodies
    obtain ⟨rfl, hc⟩ : x.pattern = pattern ∧ Handler.compile body = .ok x.handler := hx
    simp only [List.map_cons, entries, entry_ruleLine hpattern hbody.visible hc,
      ih hps hbs]

/-! ## Their lines -/

theorem newline_notMem_optionLine (hms : ∀ m ∈ ms, FitsSetting m) : '\n' ∉ optionLine ms := by
  intro h
  rcases List.mem_append.1 h with h | h
  · exact absurd h (by decide)
  · obtain ⟨w, hw, h⟩ := List.mem_flatMap.1 h
    obtain ⟨m, hm, rfl⟩ := List.mem_map.1 hw
    rcases List.mem_cons.1 h with h | h
    · exact absurd h (by decide)
    · have hspace := (noSpace_settingText (hms m hm)).2 _ h
      rw [isWhiteSpace_newline] at hspace
      cases hspace

theorem newline_notMem_escapeSlashes {cs : List Char} (h : '\n' ∉ cs) : '\n' ∉ escapeSlashes cs := by
  intro hmem
  obtain ⟨c, hc, hmem⟩ := List.mem_flatMap.1 hmem
  split at hmem
  · exact absurd hmem (by decide)
  · exact h (List.mem_singleton.1 hmem ▸ hc)

theorem newline_notMem_ruleLine {pattern body : String} (hp : '\n' ∉ pattern.toList)
    (hb : '\n' ∉ body.toList) : '\n' ∉ ruleLine pattern body := by
  simp [ruleLine, hb, newline_notMem_escapeSlashes hp]

theorem newline_notMem_documentLines (hpatterns : ∀ r ∈ rules, FitsSlashes r.1.toList)
    (hbodies : ∀ r ∈ rules, FitsLine r.2) (hms : ∀ m ∈ ms, FitsSetting m) :
    ∀ line ∈ documentLines rules ms, '\n' ∉ line := by
  refine List.forall_mem_cons.2 ⟨newline_notMem_optionLine hms, List.forall_mem_map.2 fun r hr => ?_⟩
  exact newline_notMem_ruleLine (hpatterns r hr).oneLine (hbodies r hr).oneLine

theorem documentLines_ne_nil : ∀ line ∈ documentLines rules ms, line ≠ [] :=
  List.forall_mem_cons.2 ⟨List.cons_ne_nil _ _,
    List.forall_mem_map.2 fun _ _ => List.cons_ne_nil _ _⟩

end

theorem intercalate_append_sep {sep : List Char} {lines : List (List Char)} (hne : lines ≠ []) :
    sep.intercalate (lines ++ [[]]) = sep.intercalate lines ++ sep := by
  induction lines with
  | nil => exact absurd rfl hne
  | cons line lines ih =>
    cases lines with
    | nil => simp
    | cons next lines =>
      rw [List.cons_append, List.cons_append, List.intercalate_cons_cons, ← List.cons_append,
        ih (List.cons_ne_nil _ _), List.intercalate_cons_cons, List.append_assoc _ _ sep]

/-- Lines are read the same with and without a newline behind the last one. -/
theorem entries_lines {lines : List (List Char)} (hne : lines ≠ [])
    (hfull : ∀ line ∈ lines, line ≠ []) (hlines : ∀ line ∈ lines, '\n' ∉ line)
    {ending : List Char} (hending : ending = [] ∨ ending = ['\n']) (n : Nat) :
    entries n (Text.lines (['\n'].intercalate lines ++ ending)) = entries n lines := by
  rcases hending with rfl | rfl
  · rw [List.append_nil, Text.lines, splitLines, List.splitOn_intercalate '\n' hlines hne,
      entries_closeLines hfull]
  · have hlast : ∀ line ∈ lines ++ [[]], '\n' ∉ line :=
      List.forall_mem_append.2 ⟨hlines, by simp⟩
    rw [← intercalate_append_sep hne, Text.lines, splitLines,
      List.splitOn_intercalate '\n' hlast (by simp), entries_closeLines_append]

/-! ## Both forms -/

section

variable {rules : List (String × String)} {drafts : List DraftRule} {ms : Members} {o : Options}

theorem ofLines_documentLines (hdrafts : List.Forall₂ StandsFor rules drafts)
    (hpatterns : ∀ r ∈ rules, FitsSlashes r.1.toList) (hbodies : ∀ r ∈ rules, FitsLine r.2)
    (hms : (Value.obj ms).Canonical) (hsettings : ∀ m ∈ ms, FitsSetting m)
    (hdepth : ∀ m ∈ ms, m.2.depth ≤ Json.Reader.maxDepth) (ho : Options.ofValue (.obj ms) = .ok o)
    {ending : List Char} (hending : ending = [] ∨ ending = ['\n']) :
    Draft.ofLines (String.ofList (['\n'].intercalate (documentLines rules ms) ++ ending)) =
      .ok (.record drafts o) := by
  obtain ⟨os, hos, hmerge⟩ : ∃ os, settings (ms.map settingText) = .ok os ∧
      ∀ a, os.foldl Options.merge a = a.merge o := by
    cases hms with
    | obj hs hvalues => exact foldl_merge_settings hs hsettings hvalues hdepth ho
  have hentries : entries 1 (documentLines rules ms) = .ok (.options os :: drafts.map .rule) := by
    simp only [documentLines, entries, entry_optionLine hsettings hos,
      entries_standsFor hdrafts hpatterns hbodies]
  have hlines : entries 1 (Text.lines (['\n'].intercalate (documentLines rules ms) ++ ending)) =
      entries 1 (documentLines rules ms) :=
    entries_lines (List.cons_ne_nil _ _) documentLines_ne_nil
      (newline_notMem_documentLines hpatterns hbodies hsettings) hending 1
  have hrules : Entry.rules (.options os :: drafts.map .rule) = drafts := by
    simp [Entry.rules, List.filterMap_map]
  have hoptions : Entry.allOptions (.options os :: drafts.map .rule) = os := by
    simp [Entry.allOptions, List.flatMap_map]
  rw [Draft.ofLines, String.toList_ofList, hlines, hentries]
  simp only [hrules, hoptions, hmerge, Options.empty_merge]

theorem canonical_documentValue (rules : List (String × String)) (hms : (Value.obj ms).Canonical) :
    (documentValue rules ms).Canonical :=
  canonical_obj hms (List.forall_mem_map.2 fun r _ => canonical_pair r.1 r.2)

theorem isExact_documentValue (rules : List (String × String)) (hms : ∀ m ∈ ms, FitsSetting m) :
    (documentValue rules ms).isExact = true := by
  have hoptions : (Value.obj ms).isExact = true :=
    Json.allExactMembers_iff.2 fun m hm => (hms m hm).exact
  exact isExact_obj hoptions (List.forall_mem_map.2 fun _ _ => rfl)

theorem draftOfValue_documentValue (hdrafts : List.Forall₂ StandsFor rules drafts)
    (ho : Options.ofValue (.obj ms) = .ok o) :
    draftOfValue (documentValue rules ms) = .ok (.record drafts o) :=
  draftOfValue_obj (rulesOfValues_standsFor hdrafts 0) (by simp only [optionsOfMember, ho])

end

/-- **Both forms are read the same.**  Rules whose patterns fit between slashes and whose handlers
    fit on a line, with options that fit on a line of settings, have one draft, and it is what is
    read from their lines as well as from any text of their object, above all the written ones. -/
theorem ofLines_eq_ofJson {rules : List (String × String)} {ms : Members}
    (hpatterns : ∀ r ∈ rules, FitsSlashes r.1.toList) (hbodies : ∀ r ∈ rules, FitsLine r.2)
    (hms : (Value.obj ms).Canonical) (hsettings : ∀ m ∈ ms, FitsSetting m)
    (hoptions : (Options.ofValue (.obj ms)).isOk = true)
    (hdepth : (documentValue rules ms).depth ≤ Json.Reader.maxDepth) :
    ∃ drafts o, List.Forall₂ StandsFor rules drafts ∧ Options.ofValue (.obj ms) = .ok o ∧
      (∀ ending, ending = [] ∨ ending = ['\n'] →
        Draft.ofLines (String.ofList (['\n'].intercalate (documentLines rules ms) ++ ending)) =
          .ok (.record drafts o)) ∧
      (∀ layout, Draft.ofJson (String.ofList ((documentValue rules ms).write layout)) =
        .ok (.record drafts o)) ∧
      ∀ json, Json.read json = .ok (documentValue rules ms) →
        Draft.ofJson json = .ok (.record drafts o) := by
  obtain ⟨drafts, hdrafts⟩ := exists_standsFor hbodies
  obtain ⟨o, ho⟩ : ∃ o, Options.ofValue (.obj ms) = .ok o := by
    cases ho : Options.ofValue (.obj ms) with
    | ok o => exact ⟨o, rfl⟩
    | error e =>
      rw [ho] at hoptions
      cases hoptions
  have hvalues : ∀ m ∈ ms, m.2.depth ≤ Json.Reader.maxDepth := by
    refine Json.depthMembers_le_iff.1 ?_
    simp only [documentValue, Value.depth, Json.depthMembers] at hdepth
    omega
  have hjson : ∀ json, Json.read json = .ok (documentValue rules ms) →
      Draft.ofJson json = .ok (.record drafts o) := by
    intro json hread
    simp only [Draft.ofJson, hread, draftOfValue_documentValue hdrafts ho]
  refine ⟨drafts, o, hdrafts, ho, fun ending hending => ?_, fun layout => ?_, hjson⟩
  · exact ofLines_documentLines hdrafts hpatterns hbodies hms hsettings hvalues ho hending
  · exact hjson _ (Json.read_write (canonical_documentValue rules hms)
      (isExact_documentValue rules hsettings) hdepth layout)

/-- A pattern with slashes in a class and outside it, and an escaped bracket. -/
def sampleRules : List (String × String) :=
  [("a/\\[[^/]*", " return [text, 'a b'] ; "), ("\\s+", "null")]

/-- Locations are unset, and another option is composed. -/
def sampleMembers : Members :=
  [("captureLocations", .null), ("tags", .arr [.num (.int 1), .obj [("k", .str "=%")]])]

theorem ofLines_eq_ofJson_sample : (∀ r ∈ sampleRules, FitsSlashes r.1.toList) ∧
    (∀ r ∈ sampleRules, FitsLine r.2) ∧ (Value.obj sampleMembers).Canonical ∧
    (∀ m ∈ sampleMembers, FitsSetting m) ∧ (Options.ofValue (.obj sampleMembers)).isOk = true ∧
    (documentValue sampleRules sampleMembers).depth ≤ Json.Reader.maxDepth ∧
    ∃ drafts o, List.Forall₂ StandsFor sampleRules drafts ∧
      Options.ofValue (.obj sampleMembers) = .ok o ∧
      (∀ ending, ending = [] ∨ ending = ['\n'] →
        Draft.ofLines (String.ofList
          (['\n'].intercalate (documentLines sampleRules sampleMembers) ++ ending)) =
          .ok (.record drafts o)) ∧
      (∀ layout, Draft.ofJson (String.ofList
        ((documentValue sampleRules sampleMembers).write layout)) = .ok (.record drafts o)) ∧
      ∀ json, Json.read json = .ok (documentValue sampleRules sampleMembers) →
        Draft.ofJson json = .ok (.record drafts o) := by
  have hpatterns : ∀ r ∈ sampleRules, FitsSlashes r.1.toList := by decide +kernel
  have hbodies : ∀ r ∈ sampleRules, FitsLine r.2 := by decide +kernel
  have hms : (Value.obj sampleMembers).Canonical := by
    refine .obj (List.pairwise_pair.2 (show "captureLocations" < "tags" by decide)) ?_
    refine List.forall_mem_cons.2 ⟨.null, List.forall_mem_singleton.2 (.arr ?_)⟩
    refine List.forall_mem_cons.2 ⟨.int (by decide) (by decide), List.forall_mem_singleton.2 ?_⟩
    exact .obj (List.pairwise_singleton _ _) (List.forall_mem_singleton.2 (.str _))
  have hsettings : ∀ m ∈ sampleMembers, FitsSetting m := by decide +kernel
  have hoptions : (Options.ofValue (.obj sampleMembers)).isOk = true := by decide +kernel
  have hdepth : (documentValue sampleRules sampleMembers).depth ≤ Json.Reader.maxDepth := by
    decide +kernel
  exact ⟨hpatterns, hbodies, hms, hsettings, hoptions, hdepth,
    ofLines_eq_ofJson hpatterns hbodies hms hsettings hoptions hdepth⟩

end SpecFile

end OrderedLexer
