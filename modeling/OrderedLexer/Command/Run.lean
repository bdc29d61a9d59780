/-
  Running a command line over a tree of files.

  A run gives an exit code, what is written to the standard output and the standard error, and the
  files afterwards.  A command that writes to a file first empties it, before the spec is read; a
  text to be tokenized is read before the spec.
-/
import OrderedLexer.Command.Action
import OrderedLexer.Command.Arguments

namespace OrderedLexer.Command

/-- The result of a run. -/
structure Outcome where
  code : Nat
  stdout : String
  stderr : String
  files : FileTree

/-- What `--version` prints. -/
def versionText : String := "rulex 0.1.0-alpha.1\n"

/-- The outcome of a command that writes to the standard output. -/
def printed (files : FileTree) : Except Error String → Outcome
  | .ok text => ⟨0, text, "", files⟩
  | .error e => ⟨e.code, "", e.report, files⟩

/-- Runs a command that writes to a file, if one is given, or to the standard output. -/
def withOutput (files : FileTree) (output : Option String)
    (write : FileTree → Except Error String) : Outcome :=
  match output with
  | none => printed files (write files)
  | some path =>
    match files.target? path with
    | .error e => printed files (.error (.unwritable e))
    | .ok names =>
      let emptied := files.set names ByteArray.empty
      match write emptied with
      | .ok text => ⟨0, "", "", emptied.set names text.toUTF8⟩
      | .error e => ⟨e.code, "", e.report, emptied⟩

/-- The text to tokenize: that of a file, or the standard input. -/
def inputText (files : FileTree) (stdin : ByteArray) : Option String → Except Error String
  | some path =>
    match files.readText? path with
    | .ok text => .ok text
    | .error e => .error (.unreadable path e)
  | none =>
    match String.fromUTF8? stdin with
    | some text => .ok text
    | none => .error (.unreadable "<stdin>" .notUtf8)

/-- Does a job. -/
def Job.run (job : Job) (files : FileTree) (stdin : ByteArray) : Outcome :=
  match job with
  | .tokenize spec input locations json =>
    match inputText files stdin input with
    | .error e => printed files (.error e)
    | .ok text => printed files (tokenListing files spec text locations json)
  | .normalize spec output => withOutput files output fun files => normalText files spec
  | .generate spec output name =>
    withOutput files output fun files => moduleText files spec name

/-- Runs a command line.  One that is not understood has the exit code 2 and writes nothing. -/
def runArguments (args : List String) (files : FileTree) (stdin : ByteArray) : Outcome :=
  match Request.parse? args with
  | none => ⟨2, "", "", files⟩
  | some .version => ⟨0, versionText, "", files⟩
  | some (.run job) => job.run files stdin

end OrderedLexer.Command
