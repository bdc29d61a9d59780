/-
  Command lines.

      tokenize SPEC [INPUT] [-l | --locations] [--json]
      normalize SPEC [-o OUTPUT | --output OUTPUT]
      generate SPEC [-o OUTPUT | --output OUTPUT] [--name NAME]
      -V | --version

  Flags and options may stand anywhere behind the name of the command, each at most once; behind
  `--`, everything is a path.  The value of an option follows it, or is joined to it, and does not
  start with a hyphen unless it is one.  Paths are not empty.
-/

namespace OrderedLexer.Command

/-- What a command is to do. -/
inductive Job where
  /-- Tokenize a file, or the standard input. -/
  | tokenize (spec : String) (input : Option String) (locations json : Bool)
  /-- Write a spec to a file, or to the standard output. -/
  | normalize (spec : String) (output : Option String)
  /-- Write a module to a file, or to the standard output. -/
  | generate (spec : String) (output : Option String) (name : String)
  deriving DecidableEq, Repr

/-- What a command line asks for. -/
inductive Request where
  | run (job : Job)
  | version
  deriving DecidableEq, Repr

/-! ## Words -/

/-- What a command accepts. -/
structure Grammar where
  /-- Flags: a letter, if any, and a word. -/
  flags : List (Option Char × String)
  /-- Options with a value: a letter, if any, and a word. -/
  options : List (Option Char × String)
  /-- The most paths. -/
  paths : Nat

/-- What was read of a command line.  Values and paths have the last one first. -/
structure Parsed where
  flags : List String := []
  values : List (String × String) := []
  paths : List String := []
  deriving DecidableEq, Repr

namespace Parsed

/-- Adds a flag, unless it is there already. -/
def addFlag (p : Parsed) (word : String) : Option Parsed :=
  if p.flags.contains word then none else some { p with flags := word :: p.flags }

/-- Adds the value of an option, unless it is there already. -/
def addValue (p : Parsed) (word value : String) : Option Parsed :=
  if (p.values.lookup word).isSome then none
  else some { p with values := (word, value) :: p.values }

/-- Adds a path, unless there are enough. -/
def addPath (g : Grammar) (p : Parsed) (path : String) : Option Parsed :=
  if path = "" ∨ g.paths ≤ p.paths.length then none else some { p with paths := path :: p.paths }

end Parsed

/-- The word that a letter stands for. -/
def wordOf? (names : List (Option Char × String)) (letter : Char) : Option String :=
  (names.find? fun n => n.1 == some letter).map (·.2)

/-- Whether a word is among names. -/
def isWord (names : List (Option Char × String)) (word : String) : Bool :=
  names.any fun n => n.2 == word

/-- Whether an argument can be the value of the option before it. -/
def isValue (arg : String) : Bool :=
  match arg.toList with
  | '-' :: _ :: _ => false
  | _ => true

/-! ## Reading -/

/-- A flag or an option behind two hyphens; an option without a value of its own takes the next
    argument. -/
def longArgument (g : Grammar) (p : Parsed) (arg : List Char) (rest : List String) :
    Option (Parsed × List String) :=
  let word := String.ofList (arg.takeWhile (· != '='))
  match arg.dropWhile (· != '=') with
  | _ :: value =>
    if isWord g.options word then (p.addValue word (String.ofList value)).map (·, rest) else none
  | [] =>
    if isWord g.flags word then (p.addFlag word).map (·, rest)
    else if isWord g.options word then
      match rest with
      | value :: rest => if isValue value then (p.addValue word value).map (·, rest) else none
      | [] => none
    else none

/-- Letters behind one hyphen: flags, and at the end an option, the value of which is joined to it
    or is the next argument. -/
def shortArguments (g : Grammar) (p : Parsed) (rest : List String) :
    List Char → Option (Parsed × List String)
  | [] => some (p, rest)
  | c :: cs =>
    match wordOf? g.flags c, wordOf? g.options c with
    | some word, _ => (p.addFlag word).bind fun p => shortArguments g p rest cs
    | none, some word =>
      match cs, rest with
      | '=' :: value, rest => (p.addValue word (String.ofList value)).map (·, rest)
      | [], value :: rest => if isValue value then (p.addValue word value).map (·, rest) else none
      | [], [] => none
      | value, rest => (p.addValue word (String.ofList value)).map (·, rest)
    | none, none => none

/-- Paths only, as behind `--`. -/
def pathArguments (g : Grammar) (p : Parsed) : List String → Option Parsed
  | [] => some p
  | arg :: args => (p.addPath g arg).bind fun p => pathArguments g p args

/-- The arguments behind the name of a command; `fuel` bounds their number. -/
def arguments (g : Grammar) : Nat → Parsed → List String → Option Parsed
  | _, p, [] => some p
  | 0, _, _ => none
  | fuel + 1, p, arg :: args =>
    match arg.toList with
    | ['-', '-'] => pathArguments g p args
    | '-' :: '-' :: word =>
      (longArgument g p word args).bind fun (p, rest) => arguments g fuel p rest
    | '-' :: c :: cs =>
      (shortArguments g p args (c :: cs)).bind fun (p, rest) => arguments g fuel p rest
    | _ => (p.addPath g arg).bind fun p => arguments g fuel p args

/-- What a command accepts. -/
def grammar? (name : String) : Option Grammar :=
  match name with
  | "tokenize" => some ⟨[(some 'l', "locations"), (none, "json")], [], 2⟩
  | "normalize" => some ⟨[], [(some 'o', "output")], 1⟩
  | "generate" => some ⟨[], [(some 'o', "output"), (none, "name")], 1⟩
  | _ => none

/-- The job of a command with a name and arguments. -/
def jobOf? (name : String) (p : Parsed) : Option Job :=
  let output := p.values.lookup "output"
  match name, p.paths.reverse with
  | "tokenize", spec :: input =>
    some (.tokenize spec input.head? (p.flags.contains "locations") (p.flags.contains "json"))
  | "normalize", [spec] => if output = some "" then none else some (.normalize spec output)
  | "generate", [spec] =>
    if output = some "" then none
    else some (.generate spec output ((p.values.lookup "name").getD "tokenizer"))
  | _, _ => none

/-- What a command line asks for; none if it is not understood. -/
def Request.parse? (args : List String) : Option Request :=
  match args with
  | [] => none
  | arg :: args =>
    if arg = "--version" ∨ ['-', 'V'].isPrefixOf arg.toList then some .version
    else do
      let g ← grammar? arg
      let p ← arguments g args.length {} args
      let job ← jobOf? arg p
      return .run job

end OrderedLexer.Command
