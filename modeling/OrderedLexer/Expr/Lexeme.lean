/-
  Lexemes of handler expressions.

  `scan` cuts a body into string literals, integers, identifiers and punctuation, each with its
  column; white space separates them.  Columns count characters from 1.

  A string literal stands in single or double quotes.  An escape `\u` takes the next four
  characters, which are hexadecimal digits, or a plus sign and three of them.
-/
import OrderedLexer.Text.WhiteSpace
import OrderedLexer.Text.Quoted

namespace OrderedLexer.Expr

open Text

/-! ## Lexemes and errors -/

/-- A lexeme. -/
inductive Lexeme where
  | str (s : String)
  | int (n : Nat)
  | ident (name : String)
  | punct (c : Char)
  deriving DecidableEq, Repr

/-- A lexeme as a message names it. -/
def Lexeme.describe : Lexeme → String
  | .str s => "string " ++ quotedString s
  | .int n => "integer " ++ n.repr
  | .ident name => "`" ++ name ++ "`"
  | .punct c => "`" ++ c.toString ++ "`"

/-- A lexeme at a column. -/
structure Placed where
  column : Nat
  lexeme : Lexeme
  deriving DecidableEq, Repr

/-- What should stand where something else is found. -/
inductive Expectation where
  | pairComma | pairEnd | handlerBrace | handlerEnd | value | groupEnd
  | methodName | callStart | callEnd | integer
  deriving DecidableEq, Repr

/-- The wording of an expectation. -/
def Expectation.message : Expectation → String
  | .pairComma => "`,` between value and type"
  | .pairEnd => "`]` closing the pair"
  | .handlerBrace => "`\x7d` closing the handler"
  | .handlerEnd => "end of handler"
  | .value => "a value"
  | .groupEnd => "`)`"
  | .methodName => "a method name"
  | .callStart => "`(` after method name"
  | .callEnd => "`)` closing the call"
  | .integer => "an integer"

/-- Why a body is not a handler expression. -/
inductive Cause where
  | unexpectedChar (c : Char)
  | unterminatedString
  | invalidEscape (c : Char)
  /-- Something else is found; `none` is the end of the body. -/
  | expected (what : Expectation) (found : Option Lexeme)
  | unknownMethod (name : String)
  | integerOverflow
  deriving DecidableEq, Repr

/-- The wording of a cause. -/
def Cause.message : Cause → String
  | .unexpectedChar c => "unexpected character `" ++ c.toString ++ "`"
  | .unterminatedString => "unterminated string literal"
  | .invalidEscape c => "invalid escape `\\" ++ c.toString ++ "` in string literal"
  | .expected what found =>
    "expected " ++ what.message ++ ", found " ++ (found.elim "end of handler" Lexeme.describe)
  | .unknownMethod name => "unknown method `" ++ name ++ "`"
  | .integerOverflow => "integer literal out of range"

/-- An error at a column of a body. -/
structure Error where
  column : Nat
  cause : Cause
  deriving DecidableEq, Repr

/-- The wording of an error. -/
def Error.message (e : Error) : String := "column " ++ e.column.repr ++ ": " ++ e.cause.message

/-! ## String literals -/

/-- What a letter or sign after a backslash stands for. -/
def simpleEscape? (c : Char) : Option Char :=
  if c = 'n' then some '\n'
  else if c = 't' then some '\t'
  else if c = 'r' then some '\r'
  else if c = '0' then some (Char.ofNat 0)
  else if c = '\\' || c = '"' || c = '\'' || c = '/' then some c
  else none

/-- The character with the code point that four characters write. -/
def codePoint? : List Char → Option Char
  | ['+', b, c, d] => (ofHex? [b, c, d]).bind scalar?
  | [a, b, c, d] => (ofHex? [a, b, c, d]).bind scalar?
  | _ => none

/-- The characters of a literal behind its opening quote, with the column behind its closing quote
    and what is left there.  `opening` is the column of the opening quote. -/
def literal (quote : Char) (opening column : Nat) (cs : List Char) :
    Except Error (List Char × Nat × List Char) :=
  match cs with
  | [] => .error ⟨opening, .unterminatedString⟩
  | c :: rest =>
    if c = quote then .ok ([], column + 1, rest)
    else if c = '\\' then
      match rest with
      | [] => .error ⟨opening, .unterminatedString⟩
      | e :: rest =>
        if e = 'u' then
          match codePoint? (rest.take 4) with
          | some d =>
            (literal quote opening (column + 6) (rest.drop 4)).map fun (ds, r) => (d :: ds, r)
          | none => .error ⟨column, .invalidEscape 'u'⟩
        else match simpleEscape? e with
          | some d => (literal quote opening (column + 2) rest).map fun (ds, r) => (d :: ds, r)
          | none => .error ⟨column, .invalidEscape e⟩
    else (literal quote opening (column + 1) rest).map fun (ds, r) => (c :: ds, r)
termination_by cs.length
decreasing_by all_goals simp_all <;> omega

theorem literal_length {quote : Char} {opening column column' : Nat} {cs ds r : List Char}
    (h : literal quote opening column cs = .ok (ds, column', r)) : r.length < cs.length := by
  induction hn : cs.length using Nat.strongRecOn generalizing column cs ds with
  | ind n ih =>
    subst hn
    have step : ∀ {k : Nat} {d : Char} {cs' : List Char}, cs'.length < cs.length →
        (literal quote opening k cs').map (fun (ds, r) => (d :: ds, r)) = .ok (ds, column', r) →
        r.length < cs.length := by
      intro k d cs' hlt hm
      cases hl : literal quote opening k cs' with
      | error e => simp [hl, Except.map] at hm
      | ok p =>
        obtain ⟨ds', k', r'⟩ := p
        simp only [hl, Except.map, Except.ok.injEq, Prod.mk.injEq] at hm
        obtain ⟨-, rfl, rfl⟩ := hm
        exact Nat.lt_trans (ih _ hlt hl rfl) hlt
    unfold literal at h
    split at h
    · simp at h
    · split at h
      · simp only [Except.ok.injEq, Prod.mk.injEq] at h
        obtain ⟨-, -, rfl⟩ := h
        simp
      · split at h
        · split at h
          · simp at h
          · split at h
            · split at h
              · refine step ?_ h
                simp only [List.length_drop, List.length_cons]
                omega
              · simp at h
            · split at h
              · refine step ?_ h
                simp only [List.length_cons]
                omega
              · simp at h
        · exact step (by simp) h

/-! ## Scanning -/

/-- The number that decimal digits write. -/
def decimalValue (ds : List Char) : Nat := ds.foldl (fun n d => 10 * n + (d.toNat - '0'.toNat)) 0

/-- The largest integer that is a lexeme. -/
def maxInteger : Nat := 0xFFFFFFFFFFFFFFFF

/-- Characters that may start an identifier. -/
def isIdentStart (c : Char) : Bool := isAlphabetic c || c = '_' || c = '$'

/-- Characters that may go on in an identifier. -/
def isIdentRest (c : Char) : Bool := isAlphabetic c || isNumeric c || c = '_' || c = '$'

/-- Characters that are lexemes by themselves. -/
def isPunct (c : Char) : Bool :=
  ['[', ']', '(', ')', '{', '}', ',', '.', '+', '-', ';'].contains c

/-- The lexemes of a text that starts at a column. -/
def scan (column : Nat) (cs : List Char) : Except Error (List Placed) :=
  match cs with
  | [] => .ok []
  | c :: rest =>
    if isWhiteSpace c then scan (column + 1) rest
    else if c = '"' || c = '\'' then
      match h : literal c column (column + 1) rest with
      | .error e => .error e
      | .ok (ds, next, r) =>
        have := literal_length h
        (scan next r).map (⟨column, .str (String.ofList ds)⟩ :: ·)
    else if isAsciiDigit c then
      let digits := c :: rest.takeWhile isAsciiDigit
      let n := decimalValue digits
      if maxInteger < n then .error ⟨column, .integerOverflow⟩
      else
        (scan (column + digits.length) (rest.dropWhile isAsciiDigit)).map
          (⟨column, .int n⟩ :: ·)
    else if isIdentStart c then
      let name := c :: rest.takeWhile isIdentRest
      (scan (column + name.length) (rest.dropWhile isIdentRest)).map
        (⟨column, .ident (String.ofList name)⟩ :: ·)
    else if isPunct c then (scan (column + 1) rest).map (⟨column, .punct c⟩ :: ·)
    else .error ⟨column, .unexpectedChar c⟩
termination_by cs.length
decreasing_by
  all_goals simp only [List.length_cons]
  all_goals first
    | omega
    | exact Nat.lt_succ_of_le (List.dropWhile_suffix _).length_le

end OrderedLexer.Expr
