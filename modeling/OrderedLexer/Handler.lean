/-
  Handlers: functions from a matched text to what becomes of it, with the source they were written
  in, if any.

  * `Handler.label` always names one type, and its source is the type as a string literal;
  * `Handler.compile` reads a handler expression.
-/
import OrderedLexer.Json.Writer
import OrderedLexer.Expr.Body

namespace OrderedLexer

/-- A handler. -/
structure Handler where
  /-- What becomes of a matched text; `none` if it has no type. -/
  run : String → Option Emit
  /-- The text that the handler was read from. -/
  source : Option String

namespace Handler

/-- A handler without a source. -/
def ofFunction (run : String → Option Emit) : Handler := ⟨run, none⟩

/-- The same handler with a source. -/
def withSource (h : Handler) (source : String) : Handler := { h with source := some source }

/-- The handler that always names one type. -/
def label (kind : String) : Handler :=
  ⟨fun _ => some (.type kind), some (String.ofList (Json.writeString kind))⟩

/-- The handler that an expression stands for; its source is the expression without white space at
    its ends. -/
def compile (body : String) : Except Expr.Error Handler :=
  (Expr.Body.parse body).map fun b => ⟨fun text => b.eval text, some (Text.trimString body)⟩

/-- The handler as a diagnostic shows it. -/
def describe (h : Handler) : String :=
  match h.source with
  | some s => "Handler(" ++ Text.quotedString s ++ ")"
  | none => "Handler(<fn>)"

end Handler

end OrderedLexer
