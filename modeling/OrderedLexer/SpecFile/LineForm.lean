/-
  Specs with one rule a line.

      %option captureLocations
      // white space
      /\s+/            return 'WS';
      "=="             EQ_EQ
      [a-zA-Z_]\w*     IDENT

  A line holds a pattern and, behind it, a handler.  A pattern stands between slashes, with flags
  behind it; or in quotes, and then matches its text and nothing else; or it goes up to the first
  white space.  Blank lines, lines that start with `//` or `#`, and `%%` are passed over.

  `entry` reads one line, and `Draft.ofLines` a whole text: the rules in their order, and the
  options merged in theirs.
-/
import OrderedLexer.SpecFile.Error

namespace OrderedLexer

open Json (Value)
open SpecFile (Error LineError)
open Text (isWhiteSpace trim)

namespace SpecFile

/-! ## Options -/

/-- The value of a setting: JSON, or else the text itself. -/
def settingValue (cs : List Char) : Value :=
  match Json.read (String.ofList cs) with
  | .ok v => v
  | .error _ => .str (String.ofList cs)

/-- The options that a setting `name=value` makes; without a value it switches an option on. -/
def setting (cs : List Char) : Except LineError Options :=
  let name := cs.takeWhile (· != '=')
  let value : Value := match cs.dropWhile (· != '=') with
    | _ :: r => settingValue r
    | [] => .bool true
  match Options.ofValue (.obj [(String.ofList name, value)]) with
  | .ok o => .ok o
  | .error e => .error (.invalidOption (String.ofList cs) e)

/-- The options that settings make, one after the other. -/
def settings : List (List Char) → Except LineError (List Options)
  | [] => .ok []
  | w :: ws =>
    match setting w with
    | .error e => .error e
    | .ok o =>
      match settings ws with
      | .error e => .error e
      | .ok os => .ok (o :: os)

/-- The options that a directive makes, behind its percent sign. -/
def directive (cs : List Char) : Except LineError (List Options) :=
  let name := String.ofList (cs.takeWhile (!isWhiteSpace ·))
  if name = "option" ∨ name = "options" then
    settings (Text.words (cs.dropWhile (!isWhiteSpace ·)))
  else .error (.unknownDirective name)

/-! ## Patterns -/

/-- The pattern up to the closing slash, and what is left behind it.  A slash in a class does not
    close, and a slash behind a backslash stands for itself. -/
def slashSource (inClass : Bool) : List Char → Option (List Char × List Char)
  | [] | ['\\'] => none
  | '\\' :: c :: r =>
    (slashSource inClass r).map fun (s, r) => (if c = '/' then '/' :: s else '\\' :: c :: s, r)
  | c :: r =>
    if c = '/' && !inClass then some ([], r)
    else
      let inClass := if c = '[' then true else if c = ']' then false else inClass
      (slashSource inClass r).map fun (s, r) => (c :: s, r)

/-- The flags that may stand behind a closing slash. -/
def isRegexFlag (c : Char) : Bool := ['i', 'm', 's', 'x', 'u', 'U'].contains c

/-- What is wrong with a flag. -/
def flagError (c : Char) : LineError :=
  if c = 'g' || c = 'y' then .meaninglessFlag else .unknownFlag

/-- A pattern with flags; `u` is on anyway. -/
def withFlags (flags source : List Char) : List Char :=
  match flags.filter (· != 'u') with
  | [] => source
  | flags => ['(', '?'] ++ flags ++ [')'] ++ source

/-- A pattern between slashes, behind the first one. -/
def slashPattern (cs : List Char) : Except LineError (List Char × List Char) :=
  match slashSource false cs with
  | none => .error .unterminatedSlash
  | some (source, r) =>
    let flags := r.takeWhile Text.isAsciiLetter
    match flags.find? (!isRegexFlag ·) with
    | some c => .error (flagError c)
    | none => .ok (withFlags flags source, r.dropWhile Text.isAsciiLetter)

/-- The text up to the closing quote, and what is left behind it. -/
def quotedSource (quote : Char) : List Char → Option (List Char × List Char)
  | [] | ['\\'] => none
  | '\\' :: c :: r =>
    let d := if c = 'n' then '\n' else if c = 't' then '\t' else if c = 'r' then '\r' else c
    (quotedSource quote r).map fun (s, r) => (d :: s, r)
  | c :: r =>
    if c = quote then some ([], r)
    else (quotedSource quote r).map fun (s, r) => (c :: s, r)

/-- A pattern in quotes, behind the first one. -/
def quotedPattern (quote : Char) (cs : List Char) : Except LineError (List Char × List Char) :=
  match quotedSource quote cs with
  | none => .error .unterminatedQuote
  | some (text, r) => .ok (Regex.escapeText text, r)

/-- The pattern of a line, and what is left behind it. -/
def splitPattern (cs : List Char) : Except LineError (List Char × List Char) :=
  match cs with
  | '/' :: r => slashPattern r
  | '"' :: r => quotedPattern '"' r
  | '\'' :: r => quotedPattern '\'' r
  | _ => .ok (cs.takeWhile (!isWhiteSpace ·), cs.dropWhile (!isWhiteSpace ·))

/-! ## Lines -/

/-- What a line holds. -/
inductive Entry where
  /-- Nothing. -/
  | blank
  /-- Options, to be merged one after the other. -/
  | options (os : List Options)
  /-- A rule. -/
  | rule (r : DraftRule)

/-- Whether a line without white space at its ends is passed over. -/
def isPassedOver : List Char → Bool
  | [] | ['%', '%'] => true
  | '/' :: '/' :: _ => true
  | '#' :: _ => true
  | _ => false

/-- The rule of a line. -/
def ruleOfLine (n : Nat) (cs : List Char) : Except Error Entry :=
  match splitPattern cs with
  | .error e => .error (.line n e)
  | .ok (pattern, r) =>
    let body := trim r
    if body.isEmpty then .error (.line n .noHandler)
    else match Handler.compile (String.ofList body) with
      | .ok handler => .ok (.rule ⟨String.ofList pattern, handler⟩)
      | .error e => .error (.lineHandler n e)

/-- What the line with a number holds. -/
def entry (n : Nat) (line : List Char) : Except Error Entry :=
  let cs := trim line
  if isPassedOver cs then .ok .blank
  else match cs with
    | '%' :: r =>
      match directive r with
      | .ok os => .ok (.options os)
      | .error e => .error (.line n e)
    | _ => ruleOfLine n cs

/-- What lines hold; the first of them has the given number. -/
def entries (n : Nat) : List (List Char) → Except Error (List Entry)
  | [] => .ok []
  | line :: lines =>
    match entry n line with
    | .error e => .error e
    | .ok x =>
      match entries (n + 1) lines with
      | .error e => .error e
      | .ok xs => .ok (x :: xs)

/-- The rules among entries. -/
def Entry.rules (xs : List Entry) : List DraftRule :=
  xs.filterMap fun
    | .rule r => some r
    | _ => none

/-- The options among entries. -/
def Entry.allOptions (xs : List Entry) : List Options :=
  xs.flatMap fun
    | .options os => os
    | _ => []

end SpecFile

/-- The draft that a text with one rule a line stands for. -/
def Draft.ofLines (text : String) : Except Error Draft :=
  match SpecFile.entries 1 (Text.lines text.toList) with
  | .error e => .error e
  | .ok xs =>
    .ok (.record (SpecFile.Entry.rules xs)
      ((SpecFile.Entry.allOptions xs).foldl Options.merge {}))

end OrderedLexer
