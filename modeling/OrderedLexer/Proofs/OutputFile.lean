/-
  Writing to a file in place of the standard output.

  A job that writes to a file empties it before it reads the spec.  Two paths can stand for one file
  (`s.json`, `./s.json`), so the files are compared by the names that their paths lead to:

  * a path leads to names below directories only (`LedTo`), and setting a file there changes neither
    what stands at other names (`at_set_of_ne`) nor where any path leads (`namesAt?_set`), although
    a path may pass by the file;
  * what is read at a path is the file with its names (`toOption_read?`), so a file that is set is
    read back, and all other paths read as before (`Writable.read?_set`, `Writable.sameBut_set`);
  * what a job writes depends on the files only in the text of the spec (`toOption_text_congr`).

  `run_output` compares the two ways to write: they agree unless the spec is the output file.
-/
import Mathlib.Data.List.Infix
import OrderedLexer.Command.Run

namespace OrderedLexer.Command

namespace FileTree

variable {t : FileTree} {names ns here parts : List String} {bytes : ByteArray} {path : String}
  {place : Place}

/-! ## Setting a file -/

theorem lookup_set_self (t : FileTree) (names : List String) (bytes : ByteArray) :
    (t.set names bytes).files.lookup names = some bytes := List.lookup_cons_self

theorem lookup_set_of_ne (h : ns ≠ names) (bytes : ByteArray) :
    (t.set names bytes).files.lookup ns = t.files.lookup ns := by
  have hfilter (files : List (List String × ByteArray)) :
      (files.filter fun f => f.1 != names).lookup ns = files.lookup ns := by
    induction files with
    | nil => rfl
    | cons f files ih =>
      by_cases hf : f.1 = names
      · rw [List.filter_cons_of_neg (by simp [hf]), ih, List.lookup_cons, hf,
          beq_false_of_ne h]
      · rw [List.filter_cons_of_pos (by simp [hf]), List.lookup_cons, List.lookup_cons, ih]
  rw [set, List.lookup_cons, beq_false_of_ne h, hfilter]

theorem set_set (t : FileTree) (names : List String) (a b : ByteArray) :
    (t.set names a).set names b = t.set names b := by
  simp [set]

theorem isDirectory_set (t : FileTree) (names ns : List String) (bytes : ByteArray) :
    (t.set names bytes).isDirectory ns = (t.isDirectory ns || ns.isPrefixOf names) := by
  have hfiles : ((t.files.filter fun f => f.1 != names).any fun f => ns.isPrefixOf f.1) =
      t.files.any fun f => f.1 != names && ns.isPrefixOf f.1 := List.any_filter ..
  rw [Bool.eq_iff_iff]
  simp only [isDirectory, set, List.any_cons, hfiles, Bool.or_eq_true, List.any_eq_true,
    Bool.and_eq_true, bne_iff_ne]
  grind

/-- What a path leads through are directories. -/
def LedTo (t : FileTree) (names : List String) : Prop :=
  ∀ ns, ns <+: names → ns ≠ names → t.isDirectory ns = true

theorem at_set_self (t : FileTree) (names : List String) (bytes : ByteArray) :
    (t.set names bytes).at_ names = .file bytes := by
  rw [at_, lookup_set_self]

theorem at_set_of_ne (hled : t.LedTo names) (h : ns ≠ names) (bytes : ByteArray) :
    (t.set names bytes).at_ ns = t.at_ ns := by
  rw [at_, at_, lookup_set_of_ne h, isDirectory_set]
  rcases hprefix : ns.isPrefixOf names with _ | _
  · rw [Bool.or_false]
  · rw [hled ns (List.isPrefixOf_iff_prefix.1 hprefix) h, Bool.true_or]

/-! ## Resolving a path -/

theorem walk_cons (t : FileTree) (here : List String) (part : String) (parts : List String) :
    t.walk here (part :: parts) =
      if part = "" ∨ part = "." then t.walk here parts
      else if part = ".." then t.walk (parent here) parts
      else if parts = [] then .ok (here ++ [part], t.at_ (here ++ [part]))
      else match t.at_ (here ++ [part]) with
        | .directory => t.walk (here ++ [part]) parts
        | .file _ => .error .notDirectory
        | .missing => .error .notFound := by
  rw [walk]
  split_ifs with h₁ h₂ h₃
  · rfl
  · rfl
  · subst h₃
    rfl
  · obtain ⟨part', parts', rfl⟩ := List.exists_cons_of_ne_nil h₃
    dsimp only
    rcases t.at_ (here ++ [part]) with _ | _ | _ <;> rfl

theorem isDirectory_of_at (h : t.at_ names = .directory) : t.isDirectory names = true := by
  unfold at_ at h
  split at h
  · cases h
  · split at h
    · assumption
    · cases h

/-- Names all of whose first parts lead to directories, the whole included. -/
def Directories (t : FileTree) (names : List String) : Prop :=
  ∀ ns, ns <+: names → t.isDirectory ns = true

theorem directories_of_isDirectory (hled : t.LedTo names) (h : t.isDirectory names = true) :
    t.Directories names := by
  intro ns hns
  by_cases heq : ns = names
  · exact heq ▸ h
  · exact hled ns hns heq

theorem Directories.ledTo (h : t.Directories here) (part : String) : t.LedTo (here ++ [part]) := by
  intro ns hns hne
  rcases List.prefix_concat_iff.1 hns with rfl | hns
  · exact absurd rfl hne
  · exact h ns hns

theorem Directories.parent (h : t.Directories here) : t.Directories (parent here) := by
  unfold FileTree.parent
  split_ifs with hroot hup
  · exact hroot ▸ h
  · -- everything above the working directory is a directory
    intro ns hns
    have hall : ns.all (· = "..") = true := by
      refine List.all_eq_true.2 fun part hpart => ?_
      rcases List.mem_append.1 (hns.subset hpart) with hpart | hpart
      · exact List.all_eq_true.1 hup part hpart
      · simpa using hpart
    rw [isDirectory, hall, Bool.or_true]
    rfl
  · exact fun ns hns => h ns (hns.trans (List.dropLast_prefix here))

theorem directories_start (t : FileTree) (path : String) : t.Directories (start path) := by
  intro ns hns
  unfold start at hns
  split_ifs at hns
  · rcases List.prefix_concat_iff.1 (show ns <+: [] ++ ["/"] from hns) with rfl | hns
    · rfl
    · rw [List.prefix_nil.1 hns]
      rfl
  · rw [List.prefix_nil.1 hns]
    rfl

/-- The names that a path leads to are led to by directories, and what is found there stands there. -/
theorem ledTo_of_walk (hhere : t.Directories here) (h : t.walk here parts = .ok (names, place)) :
    t.LedTo names ∧ t.at_ names = place := by
  induction parts generalizing here with
  | nil =>
    cases h
    exact ⟨fun ns hns _ => hhere ns hns, rfl⟩
  | cons part parts ih =>
    rw [walk_cons] at h
    split_ifs at h with hsame hup hlast
    · exact ih hhere h
    · exact ih hhere.parent h
    · cases h
      exact ⟨hhere.ledTo part, rfl⟩
    · split at h
      · next hat =>
        exact ih (directories_of_isDirectory (hhere.ledTo part) (isDirectory_of_at hat)) h
      · cases h
      · cases h

/-- A file that is set at names without a directory leaves it as it is which names paths lead to. -/
theorem walk_set (hled : t.LedTo names) (hat : t.at_ names ≠ .directory) (bytes : ByteArray)
    (here parts : List String) :
    ((t.set names bytes).walk here parts).toOption.map Prod.fst =
      (t.walk here parts).toOption.map Prod.fst := by
  induction parts generalizing here with
  | nil => rfl
  | cons part parts ih =>
    rw [walk_cons, walk_cons]
    split_ifs with hsame hup hlast
    · exact ih here
    · exact ih (parent here)
    · rfl
    · by_cases hnames : here ++ [part] = names
      · -- the path goes on behind the file
        rw [hnames, at_set_self]
        rcases hplace : t.at_ names with _ | _ | _
        · rfl
        · exact absurd hplace hat
        · rfl
      · rw [at_set_of_ne hled hnames]
        rcases t.at_ (here ++ [part]) with _ | _ | _
        · rfl
        · exact ih (here ++ [part])
        · rfl

/-- The names that a path stands for. -/
def namesAt? (t : FileTree) (path : String) : Option (List String) :=
  (t.resolve path).toOption.map Prod.fst

theorem namesAt?_set (hled : t.LedTo names) (hat : t.at_ names ≠ .directory) (bytes : ByteArray)
    (path : String) : (t.set names bytes).namesAt? path = t.namesAt? path := by
  unfold namesAt? resolve
  split_ifs
  · rfl
  · exact walk_set hled hat bytes _ _

theorem at_of_resolve (h : t.resolve path = .ok (names, place)) : t.at_ names = place := by
  unfold resolve at h
  split_ifs at h
  exact (ledTo_of_walk (directories_start t path) h).2

/-- Reading a path looks up the file with its names. -/
theorem toOption_read? (t : FileTree) (path : String) :
    (t.read? path).toOption = (t.namesAt? path).bind fun ns => t.files.lookup ns := by
  unfold read? namesAt?
  rcases hresolve : t.resolve path with e | ⟨ns, place⟩
  · rfl
  · have hplace := at_of_resolve hresolve
    unfold at_ at hplace
    split at hplace
    · next hlookup =>
      subst hplace
      exact hlookup.symm
    · next hlookup =>
      split at hplace
      all_goals
        subst hplace
        exact hlookup.symm

/-- A file that can be written: directories lead to it, and it is none itself. -/
structure Writable (t : FileTree) (path : String) (names : List String) : Prop where
  resolves : t.namesAt? path = some names
  led : t.LedTo names
  notDirectory : t.at_ names ≠ .directory

theorem writable_of_target? (h : t.target? path = .ok names) : t.Writable path names := by
  unfold target? at h
  split_ifs at h
  · split at h
    · cases h
    · cases h
  · split at h
    · cases h
    · cases h
    · next place hplace hresolve =>
      cases h
      refine ⟨by rw [namesAt?, hresolve]; rfl, ?_, ?_⟩
      · unfold resolve at hresolve
        split_ifs at hresolve
        exact (ledTo_of_walk (directories_start t path) hresolve).1
      · rw [at_of_resolve hresolve]
        exact hplace

theorem toOption_readText? (t : FileTree) (path : String) :
    (t.readText? path).toOption = (t.read? path).toOption.bind String.fromUTF8? := by
  unfold readText?
  rcases t.read? path with e | bytes
  · rfl
  · dsimp only [Except.toOption, Option.bind_some]
    rcases String.fromUTF8? bytes with _ | text
    · rfl
    · rfl

/-- Two trees of files that differ at most in the file with some names. -/
structure SameBut (names : List String) (before after : FileTree) : Prop where
  places : ∀ ns, ns ≠ names → after.at_ ns = before.at_ ns
  paths : ∀ path, after.namesAt? path = before.namesAt? path
  reads : ∀ path, before.namesAt? path ≠ some names →
    (after.read? path).toOption = (before.read? path).toOption

theorem Writable.sameBut_set (h : t.Writable path names) (bytes : ByteArray) :
    SameBut names t (t.set names bytes) := by
  have hpaths := namesAt?_set h.led h.notDirectory bytes
  refine ⟨fun ns hns => at_set_of_ne h.led hns bytes, hpaths, fun other hother => ?_⟩
  rw [toOption_read?, toOption_read?, hpaths]
  rcases hnames : t.namesAt? other with _ | ns
  · rfl
  · have hne : ns ≠ names := by
      rintro rfl
      exact hother hnames
    exact lookup_set_of_ne hne bytes

theorem Writable.read?_set (h : t.Writable path names) (bytes : ByteArray) :
    (t.set names bytes).read? path = .ok bytes := by
  have hread : ((t.set names bytes).read? path).toOption = some bytes := by
    rw [toOption_read?, namesAt?_set h.led h.notDirectory, h.resolves, Option.bind_some,
      lookup_set_self]
  rcases hcase : (t.set names bytes).read? path with e | found
  · rw [hcase] at hread
    cases hread
  · rw [hcase] at hread
    cases hread
    rfl

end FileTree

/-! ## Writing jobs -/

/-- What a job can write: a spec, or a module with a function of some name. -/
inductive Writer where
  | normalize
  | generate (name : String)

namespace Writer

/-- The job that writes to a file, or to the standard output. -/
def job : Writer → String → Option String → Job
  | .normalize, spec, output => .normalize spec output
  | .generate name, spec, output => .generate spec output name

/-- The text that is written. -/
def text (w : Writer) (files : FileTree) (spec : String) : Except Error String :=
  match w with
  | .normalize => normalText files spec
  | .generate name => moduleText files spec name

theorem run_job (w : Writer) (spec : String) (output : Option String) (files : FileTree)
    (stdin : ByteArray) :
    (w.job spec output).run files stdin = withOutput files output fun files => w.text files spec := by
  cases w with
  | normalize => rfl
  | generate name => rfl

theorem text_of_loadSpec_error {files : FileTree} {spec : String} {e : Error}
    (h : loadSpec files spec = .error e) (w : Writer) : w.text files spec = .error e := by
  cases w with
  | normalize => rw [text, normalText, h]
  | generate name => rw [text, moduleText, h]

/-- What is written depends on the files only in the text of the spec. -/
theorem toOption_text_congr {before after : FileTree} {spec : String}
    (h : (after.readText? spec).toOption = (before.readText? spec).toOption) (w : Writer) :
    (w.text after spec).toOption = (w.text before spec).toOption := by
  rcases ha : after.readText? spec with e | a <;> rcases hb : before.readText? spec with e' | b
  · rw [text_of_loadSpec_error (by rw [loadSpec, ha]), text_of_loadSpec_error (by rw [loadSpec, hb])]
    rfl
  · rw [ha, hb] at h
    cases h
  · rw [ha, hb] at h
    cases h
  · rw [ha, hb] at h
    cases h
    have hload : loadSpec after spec = loadSpec before spec := by rw [loadSpec, loadSpec, ha, hb]
    cases w with
    | normalize => rw [text, text, normalText, normalText, hload]
    | generate name => rw [text, text, moduleText, moduleText, hload]

end Writer

/-! ## The two ways to write -/

/-- A run that writes to a file ends like one that prints: both fail, or the file holds what is
    printed. -/
structure Alike (out : String) (printing filing : Outcome) : Prop where
  code : filing.code = 0 ↔ printing.code = 0
  text : printing.code = 0 → filing.files.read? out = .ok printing.stdout.toUTF8

section
variable {files start : FileTree} {out : String} {names : List String}
  {write : FileTree → Except Error String}

theorem Error.code_ne_zero (e : Error) : e.code ≠ 0 := by
  cases e <;> exact Nat.succ_ne_zero _

/-- A command that fails leaves its output file empty. -/
theorem withOutput_error {e : Error} (htarget : files.target? out = .ok names)
    (h : write (files.set names ByteArray.empty) = .error e) :
    withOutput files (some out) write =
      ⟨e.code, "", e.report, files.set names ByteArray.empty⟩ := by
  rw [withOutput, htarget]
  dsimp only
  rw [h]

theorem withOutput_ok {text : String} (htarget : files.target? out = .ok names)
    (h : write (files.set names ByteArray.empty) = .ok text) :
    withOutput files (some out) write = ⟨0, "", "", files.set names text.toUTF8⟩ := by
  rw [withOutput, htarget]
  dsimp only
  rw [h]
  dsimp only
  rw [FileTree.set_set]

/-- The file is the only thing that a run with an output file changes. -/
theorem sameBut_withOutput (htarget : files.target? out = .ok names) :
    FileTree.SameBut names files (withOutput files (some out) write).files := by
  have hwritable := FileTree.writable_of_target? htarget
  rcases h : write (files.set names ByteArray.empty) with e | text
  · rw [withOutput_error htarget h]
    exact hwritable.sameBut_set _
  · rw [withOutput_ok htarget h]
    exact hwritable.sameBut_set _

/-- A run with an output file ends like a printing one that starts where it writes the same text. -/
theorem alike_withOutput (htarget : files.target? out = .ok names)
    (hsame : (write (files.set names ByteArray.empty)).toOption = (write start).toOption) :
    Alike out (withOutput start none write) (withOutput files (some out) write) := by
  have hwritable := FileTree.writable_of_target? htarget
  rcases hfiled : write (files.set names ByteArray.empty) with e | text <;>
    rcases hprinted : write start with e' | text' <;> rw [hfiled, hprinted] at hsame
  · rw [withOutput_error htarget hfiled, withOutput, hprinted]
    exact ⟨iff_of_false e.code_ne_zero e'.code_ne_zero, fun h => absurd h e'.code_ne_zero⟩
  · cases hsame
  · cases hsame
  · cases hsame
    rw [withOutput_ok htarget hfiled, withOutput, hprinted]
    exact ⟨Iff.rfl, fun _ => hwritable.read?_set _⟩

end

/-- There is no spec in an empty file of JSON. -/
theorem load_empty_json {spec : String} (h : SpecFile.Format.ofPath? spec = some .json) :
    ∃ e, SpecFile.load spec "" = .error e := by
  rcases hparse : SpecFile.parse .json "" with e | d
  · exact ⟨e, by rw [SpecFile.load, h, Option.getD_some, hparse]⟩
  · have hnone : (SpecFile.parse .json "").toOption.isNone = true := by decide +kernel
    rw [hparse] at hnone
    cases hnone

/-- **Writing to a file.**  Of the files, a writing job changes none if it prints, and else at most its
    output file, which has to be one that can be written.  Where the spec is another file, it ends as
    if it had printed.  Where the spec is the output file, it ends as if the spec had been empty: with
    an error, and the file left empty, if the path says that the spec is JSON. -/
theorem run_output (w : Writer) (spec : String) {files : FileTree} {out : String}
    {names : List String} (stdin : ByteArray) (htarget : files.target? out = .ok names) :
    ((w.job spec none).run files stdin).files = files ∧
      FileTree.SameBut names files ((w.job spec (some out)).run files stdin).files ∧
      (files.namesAt? spec ≠ some names →
        Alike out ((w.job spec none).run files stdin) ((w.job spec (some out)).run files stdin)) ∧
      (files.namesAt? spec = some names →
        Alike out ((w.job spec none).run (files.set names ByteArray.empty) stdin)
            ((w.job spec (some out)).run files stdin) ∧
          (SpecFile.Format.ofPath? spec = some .json →
            ((w.job spec (some out)).run files stdin).code = 1 ∧
              ((w.job spec (some out)).run files stdin).files.read? out = .ok ByteArray.empty)) := by
  have hwritable := FileTree.writable_of_target? htarget
  simp only [Writer.run_job]
  refine ⟨?_, sameBut_withOutput htarget, fun hother => ?_, fun hsame => ⟨?_, fun hjson => ?_⟩⟩
  · rw [withOutput]
    rcases w.text files spec with e | text
    · rfl
    · rfl
  · refine alike_withOutput htarget (Writer.toOption_text_congr ?_ w)
    rw [FileTree.toOption_readText?, FileTree.toOption_readText?,
      (hwritable.sameBut_set ByteArray.empty).reads spec hother]
  · exact alike_withOutput htarget rfl
  · -- the spec that is read has just been emptied
    have hempty : (files.set names ByteArray.empty).readText? spec = .ok "" := by
      have hspec : (files.set names ByteArray.empty).read? spec = .ok ByteArray.empty :=
        FileTree.Writable.read?_set ⟨hsame, hwritable.led, hwritable.notDirectory⟩ _
      rw [FileTree.readText?, hspec]
      rfl
    obtain ⟨e, he⟩ := load_empty_json hjson
    have hload : loadSpec (files.set names ByteArray.empty) spec = .error (.spec e) := by
      rw [loadSpec, hempty]
      dsimp only
      rw [he]
    rw [withOutput_error htarget (w.text_of_loadSpec_error hload)]
    exact ⟨rfl, hwritable.read?_set _⟩

/-- A directory with one spec. -/
def oneSpec : FileTree := .ofList [("s.json", "[[\"a\",\"A\"]]".toUTF8)]

/-- The spec is written to a new file as it is printed, and is lost where it is itself the output. -/
theorem run_output_oneSpec :
    (oneSpec.target? "./t.json" = .ok ["t.json"] ∧ oneSpec.namesAt? "s.json" ≠ some ["t.json"] ∧
      Alike "./t.json" ((Writer.normalize.job "s.json" none).run oneSpec ByteArray.empty)
        ((Writer.normalize.job "s.json" (some "./t.json")).run oneSpec ByteArray.empty)) ∧
    oneSpec.target? "./s.json" = .ok ["s.json"] ∧ oneSpec.namesAt? "s.json" = some ["s.json"] ∧
      SpecFile.Format.ofPath? "s.json" = some .json ∧
      ((Writer.normalize.job "s.json" (some "./s.json")).run oneSpec ByteArray.empty).code = 1 := by
  have hnew : oneSpec.target? "./t.json" = .ok ["t.json"] := by rfl
  have hold : oneSpec.target? "./s.json" = .ok ["s.json"] := by rfl
  have hspec : oneSpec.namesAt? "s.json" = some ["s.json"] := by decide +kernel
  have hjson : SpecFile.Format.ofPath? "s.json" = some .json := by decide +kernel
  have hother : oneSpec.namesAt? "s.json" ≠ some ["t.json"] := by rw [hspec]; decide
  obtain ⟨-, -, halike, -⟩ := run_output .normalize "s.json" ByteArray.empty hnew
  obtain ⟨-, -, -, hlost⟩ := run_output .normalize "s.json" ByteArray.empty hold
  exact ⟨⟨hnew, hother, halike hother⟩, hold, hspec, hjson, ((hlost hspec).2 hjson).1⟩

/-- A spec that is printed without an error is lost where its file is the output. -/
theorem runArguments_in_place :
    (runArguments ["normalize", "s.json"] oneSpec ByteArray.empty).code = 0 ∧
      (runArguments ["normalize", "s.json", "-o", "s.json"] oneSpec ByteArray.empty).code = 1 ∧
      ((runArguments ["normalize", "s.json", "-o", "s.json"] oneSpec ByteArray.empty).files.read?
        "s.json").toOption = some ByteArray.empty := by
  decide +kernel

end OrderedLexer.Command
