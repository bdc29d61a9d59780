/-
  The source module that builds a tokenizer for a spec.

  The module holds the text of the spec in a raw string literal: a quote behind some number signs,
  closed by a quote and as many of them.  `rawHashes` is a number of signs that no quote of the text
  is followed by.
-/

namespace OrderedLexer.Command

/-- Letters and the underscore. -/
def isNameStart (c : Char) : Bool := c.isAlpha || c = '_'

/-- Whether a text can be the name of a function: ASCII letters, digits and underscores, the first
    of them not a digit, and not the underscore alone. -/
def isIdentifier (name : String) : Bool :=
  match name.toList with
  | [] => false
  | c :: cs => isNameStart c && (cs.all fun c => c.isAlphanum || c = '_') && name != "_"

/-- The longest run of number signs behind a quote. -/
def longestHashes : List Char → Nat
  | [] => 0
  | c :: cs =>
    if c = '"' then max (cs.takeWhile (· = '#')).length (longestHashes cs) else longestHashes cs

/-- The number signs that a raw string literal for a text needs. -/
def rawHashes (text : String) : Nat := longestHashes text.toList + 1

/-- The raw string literal of a text. -/
def rawLiteral (text : String) : String :=
  let hashes := String.ofList (List.replicate (rawHashes text) '#')
  "r" ++ hashes ++ "\"" ++ text ++ "\"" ++ hashes

/-- The first line of a module: where it comes from. -/
def moduleHeader (origin : String) : String :=
  "// Generated by `rulex generate` from " ++ origin ++ ". Do not edit.\n"

/-- The rest of a module: the text of the spec, and a function that builds the tokenizer. -/
def moduleBody (name json : String) : String :=
  "\nuse rulex_lexer::\x7bSpec, Tokenizer\x7d;\n" ++
  "use rulex_spec::\x7bparse_json, FormatError\x7d;\n" ++
  "\n/// Normalized spec, as written by `rulex normalize`.\n" ++
  "pub const SPEC_JSON: &str = " ++ rawLiteral json ++ ";\n" ++
  "\n/// Build a tokenizer for this spec.\n" ++
  "pub fn " ++ name ++ "() -> Result<Tokenizer, FormatError> \x7b\n" ++
  "    let spec = Spec::normalize(parse_json(SPEC_JSON)?)?;\n" ++
  "    Ok(Tokenizer::from_spec(spec))\n" ++
  "\x7d\n"

/-- The module with a function of the given name; none if the name cannot be one. -/
def renderModule? (origin name json : String) : Option String :=
  if isIdentifier name then some (moduleHeader origin ++ moduleBody name json) else none

end OrderedLexer.Command
