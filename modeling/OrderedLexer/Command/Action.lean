/-
  What the commands do.

  * `tokenListing` runs a spec over a text and lists the tokens, one a line or as JSON;
  * `normalText` writes a spec as JSON;
  * `moduleText` writes a module that builds a tokenizer for a spec.

  Each gives the whole text that it writes, or an error, and then writes nothing.
-/
import OrderedLexer.Command.FileTree
import OrderedLexer.Command.Module
import OrderedLexer.SpecFile.Format
import OrderedLexer.Tokenizer

namespace OrderedLexer.Command

open Json (Value)
open SpecFile (FileError)

/-- Why a command fails. -/
inductive Error where
  /-- The spec cannot be read or written. -/
  | spec (error : SpecFile.Error)
  /-- The text cannot be tokenized. -/
  | lex (error : LexError)
  /-- Tokenizing the text panics. -/
  | panic
  /-- The text cannot be read. -/
  | unreadable (path : String) (error : FileError)
  /-- The output cannot be written. -/
  | unwritable (error : FileError)
  /-- The name is not an identifier. -/
  | invalidName (name : String)

namespace Error

/-- The wording of an error.  What is printed of a panic is not among it. -/
def message : Error → String
  | .spec e => e.message
  | .lex e => e.shown
  | .panic => ""
  | .unreadable path e => "cannot read `" ++ path ++ "`: " ++ e.message
  | .unwritable e => "cannot write output: " ++ e.message
  | .invalidName name => "`" ++ name ++ "` is not a valid Rust identifier"

/-- What is reported of an error: a diagnostic stands by itself. -/
def report (e : Error) : String :=
  match e with
  | .lex e => e.shown ++ "\n"
  | .panic => ""
  | e => "error: " ++ e.message ++ "\n"

/-- The exit code that an error leads to. -/
def code : Error → Nat
  | .panic => 101
  | _ => 1

end Error

/-- The spec in the file at a path. -/
def loadSpec (files : FileTree) (path : String) : Except Error Spec :=
  match files.readText? path with
  | .error e => .error (.spec (.unreadable path e))
  | .ok text =>
    match SpecFile.load path text with
    | .ok spec => .ok spec
    | .error e => .error (.spec e)

/-- The list of tokens, one a line or as JSON. -/
def listTokens (json : Bool) (tokens : List Token) : String :=
  if json then (Value.arr (tokens.map Token.toValue)).pretty ++ "\n"
  else String.join (tokens.map fun t => t.describe ++ "\n")

/-- Tokenizes a text; `locations` switches locations on, whatever the spec says. -/
def tokenListing (files : FileTree) (spec : String) (text : String) (locations json : Bool) :
    Except Error String :=
  match loadSpec files spec with
  | .error e => .error e
  | .ok s =>
    let overrides := if locations then some (Options.withLocations true) else none
    match ((Tokenizer.ofSpec s).init text overrides).all? with
    | some (.ok tokens, _) => .ok (listTokens json tokens)
    | some (.error e, _) => .error (.lex e)
    | none => .error .panic

/-- Writes a spec as JSON. -/
def normalText (files : FileTree) (spec : String) : Except Error String :=
  match loadSpec files spec with
  | .error e => .error e
  | .ok s =>
    match s.toText with
    | .ok text => .ok (text ++ "\n")
    | .error e => .error (.spec e)

/-- Writes a module for a spec, with a function of the given name. -/
def moduleText (files : FileTree) (spec : String) (name : String) : Except Error String :=
  match loadSpec files spec with
  | .error e => .error e
  | .ok s =>
    match s.toText with
    | .error e => .error (.spec e)
    | .ok json =>
      let origin := ((SpecFile.fileName? spec).map String.ofList).getD spec
      match renderModule? origin name json with
      | some text => .ok text
      | none => .error (.invalidName name)

end OrderedLexer.Command
