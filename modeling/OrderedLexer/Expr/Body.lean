/-
  Reading handler bodies.

      body   := "{" inner "}" [";"] | inner
      inner  := ["return"] [result] [";"]
      result := "null" | "undefined" | "[" value "," value "]" | value
      value  := term ("+" term)*
      term   := atom ("." method)*
      atom   := STRING | IDENT | "(" value ")"
      method := "slice" "(" INT ["," INT] ")" | "trim" "(" ")"
              | "toUpperCase" "(" ")" | "toLowerCase" "(" ")"

  The identifiers `text` and `yytext` stand for the matched text, and every other one for itself.
  A reader takes the lexemes that are left and returns what it read with the lexemes left after
  it.  The readers of values call each other; each call takes one unit of fuel, and four for each
  lexeme are enough, since a lexeme is read after at most three calls.
-/
import OrderedLexer.Expr.Term
import OrderedLexer.Expr.Lexeme

namespace OrderedLexer.Expr

/-- What is read, with the lexemes left after it. -/
abbrev Result (α : Type) := Except Error (α × List Placed)

/-- The largest magnitude of a bound of a slice. -/
def maxBound : Nat := 0x7FFFFFFFFFFFFFFF

namespace Reader

/-- Goes on with what a reader leaves. -/
def andThen {α β : Type} (x : Result α) (next : α → List Placed → Result β) : Result β :=
  match x with
  | .ok (a, ts) => next a ts
  | .error e => .error e

/-- The lexemes after a punctuation mark, if it comes first. -/
def eat? (c : Char) : List Placed → Option (List Placed)
  | ⟨_, .punct d⟩ :: ts => if d = c then some ts else none
  | _ => none

/-- The lexemes after a keyword, if it comes first. -/
def eatWord? (word : String) : List Placed → Option (List Placed)
  | ⟨_, .ident name⟩ :: ts => if name = word then some ts else none
  | _ => none

section

-- the column behind the last character of the body
variable (stop : Nat)

/-- The error of not finding what should come next. -/
def unexpected (what : Expectation) : List Placed → Error
  | [] => ⟨stop, .expected what none⟩
  | t :: _ => ⟨t.column, .expected what (some t.lexeme)⟩

/-- The lexemes after a punctuation mark that has to come first. -/
def expect (c : Char) (what : Expectation) (ts : List Placed) : Except Error (List Placed) :=
  match eat? c ts with
  | some r => .ok r
  | none => .error (unexpected stop what ts)

/-- A bound of a slice. -/
def bound (ts : List Placed) : Result Int :=
  let negative := (eat? '-' ts).isSome
  let ts := (eat? '-' ts).getD ts
  match ts with
  | ⟨column, .int n⟩ :: r =>
    if maxBound < n then .error ⟨column, .integerOverflow⟩
    else .ok (if negative then -n else n, r)
  | _ => .error (unexpected stop .integer ts)

/-- The bounds of a slice. -/
def bounds (ts : List Placed) : Result (Int × Option Int) :=
  andThen (bound stop ts) fun lo ts =>
    match eat? ',' ts with
    | some r => andThen (bound stop r) fun hi ts => .ok ((lo, some hi), ts)
    | none => .ok ((lo, none), ts)

/-- The arguments of a method, which make a term of a term. -/
def arguments (column : Nat) (name : String) (ts : List Placed) : Result (Term → Term) :=
  if name = "slice" then
    andThen (bounds stop ts) fun b ts => .ok (fun t => .slice t b.1 b.2, ts)
  else if name = "trim" then .ok (.trim, ts)
  else if name = "toUpperCase" then .ok (.upper, ts)
  else if name = "toLowerCase" then .ok (.lower, ts)
  else .error ⟨column, .unknownMethod name⟩

/-- A method behind its point. -/
def method (ts : List Placed) : Result (Term → Term) :=
  match ts with
  | ⟨column, .ident name⟩ :: ts =>
    match expect stop '(' .callStart ts with
    | .error e => .error e
    | .ok ts =>
      andThen (arguments stop column name ts) fun f ts =>
        (expect stop ')' .callEnd ts).map fun ts => (f, ts)
  | _ => .error (unexpected stop .methodName ts)

/-- The term of an identifier. -/
def name (s : String) : Term := if s = "text" ∨ s = "yytext" then .text else .literal s

mutual

/-- A value: one term, or the concatenation of several. -/
def value : Nat → List Placed → Result Term
  | 0, ts => .error (unexpected stop .value ts)
  | fuel + 1, ts =>
    andThen (term fuel ts) fun t ts =>
      andThen (summands fuel ts) fun rest ts =>
        .ok (if rest.isEmpty then t else .concat (t :: rest), ts)

/-- The terms behind plus signs. -/
def summands : Nat → List Placed → Result (List Term)
  | 0, ts => .error (unexpected stop .value ts)
  | fuel + 1, ts =>
    match eat? '+' ts with
    | none => .ok ([], ts)
    | some ts =>
      andThen (term fuel ts) fun t ts =>
        andThen (summands fuel ts) fun rest ts => .ok (t :: rest, ts)

/-- A term: an atom with its methods. -/
def term : Nat → List Placed → Result Term
  | 0, ts => .error (unexpected stop .value ts)
  | fuel + 1, ts => andThen (atom fuel ts) fun t ts => methods fuel t ts

/-- The methods behind points, applied to a term. -/
def methods : Nat → Term → List Placed → Result Term
  | 0, _, ts => .error (unexpected stop .value ts)
  | fuel + 1, t, ts =>
    match eat? '.' ts with
    | none => .ok (t, ts)
    | some ts => andThen (method stop ts) fun f ts => methods fuel (f t) ts

/-- A literal, an identifier or a value in brackets. -/
def atom : Nat → List Placed → Result Term
  | 0, ts => .error (unexpected stop .value ts)
  | fuel + 1, ts =>
    match ts with
    | ⟨_, .str s⟩ :: ts => .ok (.literal s, ts)
    | ⟨_, .ident s⟩ :: ts => .ok (name s, ts)
    | ⟨_, .punct '('⟩ :: ts =>
      andThen (value fuel ts) fun t ts => (expect stop ')' .groupEnd ts).map fun ts => (t, ts)
    | _ => .error (unexpected stop .value ts)

end

/-- A value with the fuel that its lexemes ask for. -/
def fullValue (ts : List Placed) : Result Term := value stop (4 * ts.length + 4) ts

/-- A pair behind its opening bracket. -/
def pair (ts : List Placed) : Result Body :=
  andThen (fullValue stop ts) fun v ts =>
    match expect stop ',' .pairComma ts with
    | .error e => .error e
    | .ok ts =>
      andThen (fullValue stop ts) fun k ts =>
        (expect stop ']' .pairEnd ts).map fun ts => (.pair v k, ts)

/-- The result of a body: nothing, a pair or a type. -/
def result (ts : List Placed) : Result Body :=
  match eatWord? "null" ts, eatWord? "undefined" ts with
  | some r, _ => .ok (.null, r)
  | none, some r => .ok (.null, r)
  | none, none =>
    match ts with
    | [] => .ok (.null, ts)
    | ⟨_, .punct ';'⟩ :: _ => .ok (.null, ts)
    | ⟨_, .punct '}'⟩ :: _ => .ok (.null, ts)
    | ⟨_, .punct '['⟩ :: r => pair stop r
    | _ => andThen (fullValue stop ts) fun t ts => .ok (.type t, ts)

/-- The inside of a body: a result, with an optional `return` before and semicolon behind it. -/
def inner (ts : List Placed) : Result Body :=
  andThen (result stop ((eatWord? "return" ts).getD ts)) fun b ts =>
    .ok (b, (eat? ';' ts).getD ts)

/-- The end of a body. -/
def close (b : Body) (ts : List Placed) : Except Error Body :=
  match ts with
  | [] => .ok b
  | _ => .error (unexpected stop .handlerEnd ts)

/-- A body, in braces or not. -/
def body (ts : List Placed) : Except Error Body :=
  match eat? '{' ts with
  | none =>
    match inner stop ts with
    | .ok (b, ts) => close stop b ts
    | .error e => .error e
  | some ts =>
    match inner stop ts with
    | .error e => .error e
    | .ok (b, ts) =>
      match expect stop '}' .handlerBrace ts with
      | .error e => .error e
      | .ok ts => close stop b ((eat? ';' ts).getD ts)

end

end Reader

/-- The body that a text stands for. -/
def Body.parse (text : String) : Except Error Body :=
  let cs := text.toList
  match scan 1 cs with
  | .error e => .error e
  | .ok ts => Reader.body (cs.length + 1) ts

end OrderedLexer.Expr
