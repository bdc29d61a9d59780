/-
  A module read as a source.

  Three texts reach a module: the origin, in the comment of its first line; the name of its function;
  and the text of the spec, in a raw literal.  `tokens?` reads a source as comments, words, raw
  literals of strings and signs, and refuses all else.

  * What it reads at one place is a `Lexeme`; each invariant of reading follows by `tokens?_induction`
    from one case analysis of lexemes.  So words are identifiers and comments have no newline
    (`valid_of_tokens?`), and what stands before a blank is read for itself (`tokens?_append_blank`);
  * the identifiers are the names and the reserved words (`isIdentifier_iff_isName`);
  * the template is read part by part, between the texts that reach it (`tokens?_module`); unifying
    newlines changes nothing but the content of the literal (`unifyNewlines_module`), because the
    number of its signs stays (`longestHashes_unifyNewlines`).

  `renderModule?_embeds` says which texts a module holds as the value of its constant, and
  `renderModule?_source` what the three texts can do to it: a reserved word stands as the name of the
  function, an origin of several lines leaves the comment, and a text can need more signs than a
  literal may have.
-/
import OrderedLexer.Proofs.Anchoring
import OrderedLexer.Proofs.ModuleText

namespace OrderedLexer.Command

namespace Source

/-! ## Reading a source -/

/-- A token of a source.  Comments are kept, without the slashes that start them. -/
inductive Token where
  | comment (text : String)
  | word (text : String)
  | literal (content : String)
  | sign (c : Char)
  deriving DecidableEq

/-- Spaces, tabs and ends of lines. -/
def isBlank (c : Char) : Bool := c = ' ' || c = '\t' || c = '\n' || c = '\r'

/-- Letters, digits and the underscore. -/
def isNameChar (c : Char) : Bool := c.isAlphanum || c = '_'

/-- The characters that are tokens by themselves.  The slash is not among them. -/
def signs : List Char :=
  ['(', ')', '[', ']', '{', '}', '<', '>', ';', ':', ',', '.', '=', '&', '?', '!', '#', '$', '@', '+',
    '-', '*', '%', '|', '^', '~']

/-- Whether a name that ends here belongs to a literal. -/
def opensLiteral (behind : List Char) : Bool :=
  behind.head? = some '"' || behind.head? = some '#' || behind.head? = some '\''

/-- The token of a name: an underscore alone is a sign. -/
def nameToken (cs : List Char) : Token :=
  if cs = ['_'] then .sign '_' else .word (String.ofList cs)

/-- What stands at the start of a source, a blank or a token, and the source behind it.  Of literals,
    only the raw ones of strings are read. -/
def lexeme? : List Char → Option (List Token × List Char)
  | [] => none
  | c :: cs =>
    if isBlank c then some ([], cs)
    else if c = '/' ∧ cs.head? = some '/' then
      some ([.comment (String.ofList (cs.tail.takeWhile (· != '\n')))],
        cs.tail.dropWhile (· != '\n'))
    else if isNameStart c then
      if opensLiteral (cs.dropWhile isNameChar) then
        (rawLiteral? (c :: cs)).map fun (content, rest) => ([.literal (String.ofList content)], rest)
      else some ([nameToken (c :: cs.takeWhile isNameChar)], cs.dropWhile isNameChar)
    else if signs.contains c then some ([.sign c], cs)
    else none

/-- The tokens of a source behind as many characters as are to be skipped. -/
def tokensFrom? : Nat → List Char → Option (List Token)
  | _, [] => some []
  | skip + 1, _ :: cs => tokensFrom? skip cs
  | 0, c :: cs =>
    match lexeme? (c :: cs) with
    | none => none
    | some (ts, rest) => (tokensFrom? (cs.length - rest.length) cs).map (ts ++ ·)

/-- The tokens of a source; none if it holds something else than comments, words, raw literals,
    signs and blanks. -/
def tokens? (source : List Char) : Option (List Token) := tokensFrom? 0 source

/-! ## Lexemes -/

/-- A blank or a token at the start of a source, its tokens, and what stands behind it.  No two of the
    cases fit one source, so none has to exclude another. -/
inductive Lexeme : List Char → List Token → List Char → Prop where
  | blank {c cs} : isBlank c = true → Lexeme (c :: cs) [] cs
  | comment {text rest} : '\n' ∉ text → (∀ c ∈ rest.head?, c = '\n') →
    Lexeme ('/' :: '/' :: (text ++ rest)) [.comment (String.ofList text)] rest
  | name {c cs rest} : isNameStart c = true → (∀ d ∈ cs, isNameChar d = true) →
    (∀ d ∈ rest.head?, isNameChar d = false) → opensLiteral rest = false →
    Lexeme (c :: (cs ++ rest)) [nameToken (c :: cs)] rest
  | literal {cs content rest} : rawLiteral? cs = some (content, rest) →
    Lexeme cs [.literal (String.ofList content)] rest
  | sign {c cs} : c ∈ signs → Lexeme (c :: cs) [.sign c] cs

variable {c : Char} {cs rest content : List Char} {ts : List Token}

theorem isBlank_iff : isBlank c = true ↔ ((c = ' ' ∨ c = '\t') ∨ c = '\n') ∨ c = '\r' := by
  simp only [isBlank, Bool.or_eq_true, decide_eq_true_eq]

theorem isBlank_of_isNameStart (h : isNameStart c = true) : isBlank c = false := by
  rw [Bool.eq_false_iff]
  intro hblank
  rcases isBlank_iff.1 hblank with ((rfl | rfl) | rfl) | rfl <;> exact absurd h (by decide)

theorem lexeme_of_lexeme? (h : lexeme? cs = some (ts, rest)) : Lexeme cs ts rest := by
  cases cs with
  | nil => cases h
  | cons c cs =>
    rw [lexeme?] at h
    split_ifs at h with hblank hslash hstart hopens hsign
    · cases h
      exact .blank hblank
    · obtain ⟨rfl, hhead⟩ := hslash
      obtain ⟨cs, rfl⟩ := List.head?_eq_some_iff.1 hhead
      cases h
      rw [List.tail_cons]
      have hcs := List.takeWhile_append_dropWhile (p := (· != '\n')) (l := cs)
      conv => arg 1; rw [← hcs]
      refine .comment (fun hmem => ?_) fun c hc => ?_
      · exact absurd (List.mem_takeWhile_imp hmem) (by decide)
      · simpa using Text.head?_dropWhile hc
    · obtain ⟨⟨content, rest⟩, hraw, heq⟩ := Option.map_eq_some_iff.1 h
      cases heq
      exact .literal hraw
    · cases h
      have hcs := List.takeWhile_append_dropWhile (p := isNameChar) (l := cs)
      conv => arg 1; rw [← hcs]
      exact .name hstart (fun _ hd => List.mem_takeWhile_imp hd)
        (fun _ hd => Text.head?_dropWhile hd) (Bool.eq_false_iff.2 hopens)
    · cases h
      exact .sign (List.contains_iff_mem.1 hsign)

theorem exists_of_rawLiteral? (h : rawLiteral? cs = some (content, rest)) :
    ∃ d tail, cs = 'r' :: d :: tail ∧ (d = '"' ∨ d = '#') := by
  obtain ⟨n, tail, rfl, -⟩ := rawLiteral?_eq_some_iff.1 h
  cases n with
  | zero => exact ⟨'"', tail, rfl, .inl rfl⟩
  | succ n => exact ⟨'#', _, rfl, .inr rfl⟩

/-- A name that belongs to a literal stands for the literal, or for nothing. -/
theorem lexeme?_raw {d : Char} (hd : d = '"' ∨ d = '#') (tail : List Char) :
    lexeme? ('r' :: d :: tail) =
      (rawLiteral? ('r' :: d :: tail)).map fun (content, rest) =>
        ([.literal (String.ofList content)], rest) := by
  have hopens : opensLiteral ((d :: tail).dropWhile isNameChar) = true := by
    rcases hd with rfl | rfl <;> rfl
  rw [lexeme?, if_neg (by decide), if_neg (by simp), if_pos (by decide), if_pos hopens]

theorem Lexeme.lexeme?_eq (h : Lexeme cs ts rest) : lexeme? cs = some (ts, rest) := by
  cases h with
  | blank hblank => rw [lexeme?, if_pos hblank]
  | @comment text rest htext hrest =>
    have hall : ∀ c ∈ text, (c != '\n') = true := by
      rintro c hc
      exact bne_iff_ne.2 fun heq => htext (heq ▸ hc)
    have hend : ∀ c ∈ rest.head?, (c != '\n') = false := by
      intro c hc
      rw [hrest c hc]
      rfl
    rw [lexeme?, if_neg (by decide), if_pos ⟨rfl, rfl⟩, List.tail_cons,
      Text.takeWhile_append_of_head? hall hend, Text.dropWhile_append_of_head? hall hend]
  | @name c cs rest hstart hall hend hopens =>
    have hslash : ¬(c = '/' ∧ (cs ++ rest).head? = some '/') := by
      rintro ⟨rfl, -⟩
      exact absurd hstart (by decide)
    rw [lexeme?, isBlank_of_isNameStart hstart, if_neg Bool.false_ne_true, if_neg hslash,
      if_pos hstart, Text.takeWhile_append_of_head? hall hend,
      Text.dropWhile_append_of_head? hall hend, hopens, if_neg Bool.false_ne_true]
  | literal hraw =>
    obtain ⟨d, tail, rfl, hd⟩ := exists_of_rawLiteral? hraw
    rw [lexeme?_raw hd, hraw]
    rfl
  | @sign c _ hsign =>
    have hother : (signs.all fun c => !isBlank c && c != '/' && !isNameStart c) = true := by decide
    obtain ⟨⟨hblank, hslash⟩, hstart⟩ :
        (isBlank c = false ∧ c ≠ '/') ∧ isNameStart c = false := by
      simpa using List.all_eq_true.1 hother c hsign
    rw [lexeme?, hblank, if_neg Bool.false_ne_true, if_neg fun h => hslash h.1, hstart,
      if_neg Bool.false_ne_true, if_pos (List.contains_iff_mem.2 hsign)]

theorem rawContent?_suffix {n : Nat} (h : rawContent? n cs = some (content, rest)) : rest <:+ cs := by
  induction cs generalizing content with
  | nil => cases h
  | cons c cs ih =>
    rw [rawContent?] at h
    split_ifs at h
    · cases h
      exact (List.drop_suffix n cs).trans (List.suffix_cons c cs)
    · obtain ⟨⟨content, rest⟩, hrest, heq⟩ := Option.map_eq_some_iff.1 h
      cases heq
      exact (ih hrest).trans (List.suffix_cons c cs)

theorem rawLiteral?_suffix (h : rawLiteral? (c :: cs) = some (content, rest)) : rest <:+ cs := by
  obtain ⟨n, tail, heq, -, hcontent, -⟩ := rawLiteral?_eq_some_iff.1 h
  obtain ⟨-, rfl⟩ := List.cons.inj heq
  exact (rawContent?_suffix hcontent).trans
    ((List.suffix_cons '"' tail).trans (List.suffix_append _ _))

theorem Lexeme.exists_eq_cons (h : Lexeme cs ts rest) : ∃ c p, cs = c :: (p ++ rest) := by
  cases h with
  | @blank c => exact ⟨c, [], rfl⟩
  | @comment text => exact ⟨'/', '/' :: text, rfl⟩
  | @name c cs => exact ⟨c, cs, rfl⟩
  | literal hraw =>
    obtain ⟨d, tail, rfl, -⟩ := exists_of_rawLiteral? hraw
    obtain ⟨p, hp⟩ := rawLiteral?_suffix hraw
    exact ⟨'r', p, by rw [hp]⟩
  | @sign c => exact ⟨c, [], rfl⟩

/-! ## Tokens of a text -/

theorem tokensFrom?_eq (n : Nat) (cs : List Char) : tokensFrom? n cs = tokens? (cs.drop n) := by
  induction cs generalizing n with
  | nil => rw [List.drop_nil]; cases n <;> rfl
  | cons c cs ih =>
    cases n with
    | zero => rfl
    | succ n => exact ih n

/-- Reading goes on behind a lexeme. -/
theorem Lexeme.tokens?_eq (h : Lexeme cs ts rest) : tokens? cs = (tokens? rest).map (ts ++ ·) := by
  obtain ⟨c, p, rfl⟩ := h.exists_eq_cons
  have hskip : (p ++ rest).length - rest.length = p.length := by simp
  rw [tokens?, tokensFrom?, h.lexeme?_eq]
  dsimp only
  rw [hskip, tokensFrom?_eq, List.drop_left]

theorem exists_lexeme (h : tokens? (c :: cs) = some ts) :
    ∃ ts₀ ts₁ rest, Lexeme (c :: cs) ts₀ rest ∧ tokens? rest = some ts₁ ∧ ts = ts₀ ++ ts₁ := by
  rcases hlexeme : lexeme? (c :: cs) with _ | ⟨ts₀, rest⟩
  · rw [tokens?, tokensFrom?, hlexeme] at h
    cases h
  · have hlex := lexeme_of_lexeme? hlexeme
    rw [hlex.tokens?_eq] at h
    obtain ⟨ts₁, hrest, rfl⟩ := Option.map_eq_some_iff.1 h
    exact ⟨ts₀, ts₁, rest, hlex, hrest, rfl⟩

/-- Induction over the lexemes of a text that can be read. -/
theorem tokens?_induction {motive : List Char → List Token → Prop} (nil : motive [] [])
    (step : ∀ cs ts rest ts', Lexeme cs ts rest → motive rest ts' → motive cs (ts ++ ts'))
    (h : tokens? cs = some ts) : motive cs ts := by
  induction hn : cs.length using Nat.strong_induction_on generalizing cs ts with
  | _ n ih =>
    cases cs with
    | nil =>
      cases h
      exact nil
    | cons c cs =>
      obtain ⟨ts₀, ts₁, rest, hlex, hrest, rfl⟩ := exists_lexeme h
      obtain ⟨d, p, heq⟩ := hlex.exists_eq_cons
      have hlength : rest.length < n := by
        rw [← hn, heq, List.length_cons, List.length_append]
        omega
      exact step _ _ _ _ hlex (ih _ hlength hrest rfl)

/-! ## What tokens hold -/

theorem isIdentifier_iff {name : String} :
    isIdentifier name = true ↔ ∃ c cs, name.toList = c :: cs ∧ isNameStart c = true ∧
      (∀ d ∈ cs, isNameChar d = true) ∧ c :: cs ≠ ['_'] := by
  have hunderscore : name != "_" ↔ name.toList ≠ ['_'] := by
    rw [bne_iff_ne, ne_eq, ← String.toList_inj]
    rfl
  unfold isIdentifier
  rcases hname : name.toList with _ | ⟨c, cs⟩
  · simp
  · rw [hname] at hunderscore
    simp only [Bool.and_eq_true, hunderscore, List.all_eq_true, and_assoc]
    constructor
    · exact fun h => ⟨c, cs, rfl, h⟩
    · rintro ⟨d, ds, heq, h⟩
      cases heq
      exact h

/-- Words are identifiers, and comments end with their lines. -/
def Token.Valid : Token → Prop
  | .comment text => '\n' ∉ text.toList
  | .word text => isIdentifier text = true
  | _ => True

theorem Lexeme.valid (h : Lexeme cs ts rest) : ∀ t ∈ ts, t.Valid := by
  intro t ht
  cases h with
  | blank => cases ht
  | comment htext =>
    cases List.mem_singleton.1 ht
    rwa [Token.Valid, String.toList_ofList]
  | @name c cs rest hstart hall =>
    cases List.mem_singleton.1 ht
    unfold nameToken
    split_ifs with hunderscore
    · trivial
    · exact isIdentifier_iff.2 ⟨c, cs, String.toList_ofList, hstart, hall, hunderscore⟩
  | literal =>
    cases List.mem_singleton.1 ht
    trivial
  | sign =>
    cases List.mem_singleton.1 ht
    trivial

theorem valid_of_tokens? (h : tokens? cs = some ts) : ∀ t ∈ ts, t.Valid := by
  refine tokens?_induction (motive := fun _ ts => ∀ t ∈ ts, t.Valid) ?_ ?_ h
  · exact fun _ ht => nomatch ht
  · intro cs ts rest ts' hlex ih t ht
    rcases List.mem_append.1 ht with ht | ht
    · exact hlex.valid t ht
    · exact ih t ht

/-- A name is read as a word up to what cannot belong to it. -/
theorem lexeme_word {name : String} (h : isIdentifier name = true)
    (hend : ∀ d ∈ rest.head?, isNameChar d = false) (hopens : opensLiteral rest = false) :
    Lexeme (name.toList ++ rest) [.word name] rest := by
  obtain ⟨c, cs, hname, hstart, hall, hunderscore⟩ := isIdentifier_iff.1 h
  have hlex := Lexeme.name hstart hall hend hopens
  rwa [nameToken, if_neg hunderscore, ← hname, String.ofList_toList, ← List.cons_append,
    ← hname] at hlex

/-- The texts that are read as one word are the identifiers. -/
theorem tokens?_eq_word_iff {name : String} :
    tokens? name.toList = some [.word name] ↔ isIdentifier name = true := by
  constructor
  · intro h
    exact valid_of_tokens? h (.word name) (List.mem_singleton.2 rfl)
  · intro h
    have hlex : Lexeme (name.toList ++ []) [.word name] [] :=
      lexeme_word h (fun _ hd => nomatch hd) rfl
    rw [List.append_nil] at hlex
    rw [hlex.tokens?_eq]
    rfl

/-! ## Blanks between tokens -/

section
variable {p : List Char} {n : Nat}

theorem replicate_prefix_append_cons {d : Char} (hc : c ≠ d) (rest : List Char) :
    List.replicate n d <+: cs ++ c :: rest ↔ List.replicate n d <+: cs := by
  induction n generalizing cs with
  | zero => simp
  | succ n ih =>
    rw [List.replicate_succ]
    cases cs with
    | nil => simp [hc.symm]
    | cons e cs => rw [List.cons_append, List.cons_prefix_cons, List.cons_prefix_cons, ih]

theorem rawContent?_append_cons (hc : c ≠ '#') (h : rawContent? n cs = some (content, p))
    (rest : List Char) : rawContent? n (cs ++ c :: rest) = some (content, p ++ c :: rest) := by
  induction cs generalizing content with
  | nil => cases h
  | cons d cs ih =>
    rw [rawContent?] at h
    rw [List.cons_append, rawContent?]
    simp only [replicate_prefix_append_cons hc]
    split_ifs at h ⊢ with hclose
    · cases h
      have hn : n ≤ cs.length := by simpa using hclose.2.length_le
      rw [List.drop_append_of_le_length hn]
    · obtain ⟨⟨content, rest⟩, hrest, heq⟩ := Option.map_eq_some_iff.1 h
      cases heq
      rw [ih hrest]
      rfl

theorem rawLiteral?_append_cons (hc : c ≠ '#') (h : rawLiteral? cs = some (content, p))
    (rest : List Char) : rawLiteral? (cs ++ c :: rest) = some (content, p ++ c :: rest) := by
  obtain ⟨n, tail, rfl, hhashes, hcontent, hreturn⟩ := rawLiteral?_eq_some_iff.1 h
  refine rawLiteral?_eq_some_iff.2 ⟨n, tail ++ c :: rest, ?_, hhashes,
    rawContent?_append_cons hc hcontent rest, hreturn⟩
  simp only [List.cons_append, List.append_assoc]

/-- What is read up to a blank stays as it is with more behind the blank; in front of a blank within
    the line there must be no comment. -/
theorem Lexeme.append_blank (h : Lexeme cs ts p) (hc : isBlank c = true)
    (hslash : c = '\n' ∨ '/' ∉ cs) (rest : List Char) :
    Lexeme (cs ++ c :: rest) ts (p ++ c :: rest) := by
  have hblank : c ≠ '#' ∧ isNameChar c = false ∧ opensLiteral (c :: rest) = false := by
    rcases isBlank_iff.1 hc with ((rfl | rfl) | rfl) | rfl <;> exact ⟨by decide, by decide, rfl⟩
  obtain ⟨hsign, hname, hopens⟩ := hblank
  cases h with
  | blank h => exact .blank h
  | @comment text p htext hp =>
    obtain rfl : c = '\n' := hslash.resolve_right fun h => h List.mem_cons_self
    rw [List.cons_append, List.cons_append, List.append_assoc]
    refine .comment htext fun d hd => ?_
    cases p with
    | nil => exact (Option.some.inj hd).symm
    | cons e p => exact hp d hd
  | @name d cs p hstart hall hend hopens' =>
    rw [List.cons_append, List.append_assoc]
    cases p with
    | nil =>
      refine .name hstart hall (fun e he => ?_) hopens
      cases he
      exact hname
    | cons e p => exact .name hstart hall hend hopens'
  | literal hraw => exact .literal (rawLiteral?_append_cons hsign hraw rest)
  | sign h => exact .sign h

/-- A text that can be read is read for itself in front of a blank. -/
theorem tokens?_append_blank (h : tokens? cs = some ts) (hc : isBlank c = true)
    (hslash : c = '\n' ∨ '/' ∉ cs) (rest : List Char) :
    tokens? (cs ++ c :: rest) = (tokens? rest).map (ts ++ ·) := by
  refine tokens?_induction (motive := fun cs ts => (c = '\n' ∨ '/' ∉ cs) →
    tokens? (cs ++ c :: rest) = (tokens? rest).map (ts ++ ·)) ?_ ?_ h hslash
  · intro _
    exact (Lexeme.blank hc).tokens?_eq
  · intro cs ts p ts' hlex ih hslash
    obtain ⟨d, q, rfl⟩ := hlex.exists_eq_cons
    have hp : c = '\n' ∨ '/' ∉ p :=
      hslash.imp_right fun h hmem => h (List.mem_cons_of_mem d (List.mem_append_right q hmem))
    rw [(hlex.append_blank hc hslash rest).tokens?_eq, ih hp, Option.map_map]
    congr 1
    funext us
    exact (List.append_assoc ..).symm

end

/-! ## Names -/

/-- The words that are no names, although they are read like them. -/
def reservedWords : List String :=
  ["as", "break", "const", "continue", "crate", "else", "enum", "extern", "false", "fn", "for", "if",
    "impl", "in", "let", "loop", "match", "mod", "move", "mut", "pub", "ref", "return", "self", "Self",
    "static", "struct", "super", "trait", "true", "type", "unsafe", "use", "where", "while", "async",
    "await", "dyn", "abstract", "become", "box", "do", "final", "macro", "override", "priv", "typeof",
    "unsized", "virtual", "yield", "try"]

/-- A name: a word that is not reserved. -/
def IsName (name : String) : Prop :=
  tokens? name.toList = some [.word name] ∧ name ∉ reservedWords

instance (name : String) : Decidable (IsName name) := inferInstanceAs (Decidable (_ ∧ _))

/-- The identifiers are the names and the reserved words. -/
theorem isIdentifier_iff_isName {name : String} :
    isIdentifier name = true ↔ IsName name ∨ name ∈ reservedWords := by
  have hreserved : ∀ word ∈ reservedWords, isIdentifier word = true := by decide +kernel
  rw [IsName, tokens?_eq_word_iff]
  constructor
  · intro h
    by_cases hmem : name ∈ reservedWords
    · exact .inr hmem
    · exact .inl ⟨h, hmem⟩
  · rintro (⟨h, -⟩ | h)
    · exact h
    · exact hreserved name h

end Source

/-! ## Modules as sources -/

open Source

/-- The tokens of a source, read with unified newlines. -/
def sourceTokens? (source : String) : Option (List Token) :=
  tokens? (unifyNewlines source.toList)

/-- What stands before the origin of a module, in the comment that holds it. -/
def remarkStart : String := " Generated by `rulex generate` from "

/-- What stands behind the origin of a module, in the comment that holds it. -/
def remarkEnd : String := ". Do not edit."

/-- The comment in the first line of a module. -/
def remark (origin : String) : String := remarkStart ++ origin ++ remarkEnd

/-- The tokens of the lines before the constant of a module. -/
def importTokens : List Token :=
  [.word "use", .word "rulex_lexer", .sign ':', .sign ':', .sign '{', .word "Spec", .sign ',',
    .word "Tokenizer", .sign '}', .sign ';',
    .word "use", .word "rulex_spec", .sign ':', .sign ':', .sign '{', .word "parse_json", .sign ',',
    .word "FormatError", .sign '}', .sign ';',
    .comment "/ Normalized spec, as written by `rulex normalize`."]

/-- The tokens of a module up to the value of its constant. -/
def constantTokens : List Token :=
  [.word "pub", .word "const", .word "SPEC_JSON", .sign ':', .sign '&', .word "str", .sign '=']

/-- The tokens between the literal of a module and the line of its function. -/
def functionLineTokens : List Token := [.sign ';', .comment "/ Build a tokenizer for this spec."]

/-- The tokens before the name of the function of a module, in its line. -/
def functionWordTokens : List Token := [.word "pub", .word "fn"]

/-- The tokens of a module behind the name of its function. -/
def functionTokens : List Token :=
  [.sign '(', .sign ')', .sign '-', .sign '>', .word "Result", .sign '<', .word "Tokenizer",
    .sign ',', .word "FormatError", .sign '>', .sign '{',
    .word "let", .word "spec", .sign '=', .word "Spec", .sign ':', .sign ':', .word "normalize",
    .sign '(', .word "parse_json", .sign '(', .word "SPEC_JSON", .sign ')', .sign '?', .sign ')',
    .sign '?', .sign ';',
    .word "Ok", .sign '(', .word "Tokenizer", .sign ':', .sign ':', .word "from_spec", .sign '(',
    .word "spec", .sign ')', .sign ')', .sign '}']

/-- The tokens of a module behind its first line. -/
def moduleTokens (name json : String) : List Token :=
  importTokens ++ constantTokens ++ [.literal json] ++
    (functionLineTokens ++ functionWordTokens ++ [.word name] ++ functionTokens)

/-! ## Newlines of a module -/

/-- A text with unified newlines. -/
def unified (text : String) : String := String.ofList (unifyNewlines text.toList)

theorem takeWhile_unifyNewlines (cs : List Char) :
    (unifyNewlines cs).takeWhile (· = '#') = cs.takeWhile (· = '#') := by
  fun_induction unifyNewlines cs with
  | case1 cs ih => rfl
  | case2 c cs h ih => rw [List.takeWhile_cons, List.takeWhile_cons, ih]
  | case3 => rfl

theorem longestHashes_unifyNewlines (cs : List Char) :
    longestHashes (unifyNewlines cs) = longestHashes cs := by
  fun_induction unifyNewlines cs with
  | case1 cs ih => exact ih
  | case2 c cs h ih => rw [longestHashes, longestHashes, ih, takeWhile_unifyNewlines]
  | case3 => rfl

theorem unifyNewlines_of_newline_notMem {cs : List Char} (h : '\n' ∉ cs) : unifyNewlines cs = cs := by
  fun_induction unifyNewlines cs with
  | case1 cs ih => exact absurd (by simp) h
  | case2 c cs hpair ih => rw [ih fun hmem => h (List.mem_cons_of_mem c hmem)]
  | case3 => rfl

theorem unifyNewlines_append_of_notMem {a : List Char} (h : '\r' ∉ a) (b : List Char) :
    unifyNewlines (a ++ b) = a ++ unifyNewlines b := by
  induction a with
  | nil => rfl
  | cons c a ih =>
    obtain ⟨hc, ha⟩ := not_or.1 (List.mem_cons.not.1 h)
    rw [List.cons_append, unifyNewlines, ih ha, List.cons_append]
    rintro _ rfl _
    exact hc rfl

theorem toList_unified (text : String) : (unified text).toList = unifyNewlines text.toList :=
  String.toList_ofList

/-- The signs behind a quote are not touched, so the literal keeps its signs. -/
theorem rawHashes_unified (text : String) : rawHashes (unified text) = rawHashes text := by
  rw [rawHashes, rawHashes, toList_unified, longestHashes_unifyNewlines]

theorem not_readable_unified {text : String} (h : maxHashes < rawHashes text) :
    ¬Readable (unified text) := by
  rintro ⟨hle, -⟩
  rw [rawHashes_unified] at hle
  exact absurd hle (Nat.not_le.2 h)

theorem unifyNewlines_rawLiteral (text : String) :
    unifyNewlines (rawLiteral text).toList = (rawLiteral (unified text)).toList := by
  have hopen : (rawLiteral text).toList = ('r' :: (List.replicate (rawHashes text) '#' ++ ['"'])) ++
      (text.toList ++ '"' :: List.replicate (rawHashes text) '#') := by
    rw [toList_rawLiteral]
    simp only [List.cons_append, List.append_assoc, List.nil_append]
  have hclose : '\r' ∉ '"' :: List.replicate (rawHashes text) '#' := by simp
  rw [hopen, unifyNewlines_append_of_notMem (by simp), unifyNewlines_append (by simp),
    unifyNewlines_of_notMem hclose, toList_rawLiteral, rawHashes_unified, toList_unified]
  simp only [List.cons_append, List.append_assoc, List.nil_append]

theorem return_notMem_of_isIdentifier {name : String} (h : isIdentifier name = true) :
    '\r' ∉ name.toList := by
  obtain ⟨c, cs, hname, hstart, hall, -⟩ := isIdentifier_iff.1 h
  rw [hname, List.mem_cons, not_or]
  constructor
  · rintro rfl
    exact absurd hstart (by decide)
  · intro hmem
    exact absurd (hall _ hmem) (by decide)

/-! ## The template of a module -/

/-- The lines of a module between the first and that of its constant. -/
def importLines : String :=
  "\nuse rulex_lexer::\x7bSpec, Tokenizer\x7d;\n" ++
  "use rulex_spec::\x7bparse_json, FormatError\x7d;\n" ++
  "\n/// Normalized spec, as written by `rulex normalize`."

/-- What stands before the literal of a module, in its line. -/
def constantWords : String := "pub const SPEC_JSON: &str ="

/-- What stands behind the literal of a module, up to the line of its function. -/
def functionLines : String := ";\n\n/// Build a tokenizer for this spec."

/-- What stands before the name of the function of a module, in its line. -/
def functionWords : String := "pub fn"

/-- What stands behind the name of the function of a module. -/
def behindName : String :=
  "() -> Result<Tokenizer, FormatError> \x7b\n" ++
  "    let spec = Spec::normalize(parse_json(SPEC_JSON)?)?;\n" ++
  "    Ok(Tokenizer::from_spec(spec))\n\x7d\n"

/-- For texts that are written out: the characters of a literal need not be computed. -/
theorem toList_ofList_append (a b c : List Char) :
    (String.ofList a ++ String.ofList b ++ String.ofList c).toList = a ++ b ++ c := by
  simp

theorem toList_moduleHeader (origin : String) :
    (moduleHeader origin).toList = '/' :: '/' :: ((remark origin).toList ++ ['\n']) := by
  have hstart : "// Generated by `rulex generate` from " = String.ofList ['/', '/'] ++ remarkStart := by
    decide +kernel
  have hend : ". Do not edit.\n" = remarkEnd ++ String.ofList ['\n'] := by decide +kernel
  have hparts : moduleHeader origin = String.ofList ['/', '/'] ++ remarkStart ++ origin ++
      (remarkEnd ++ String.ofList ['\n']) := congrArg₂ (fun a b => a ++ origin ++ b) hstart hend
  rw [hparts, remark]
  simp

theorem toList_intro : (moduleIntro ++ "SPEC_JSON: &str = ").toList =
    importLines.toList ++ '\n' :: (constantWords.toList ++ [' ']) := by
  have hparts : moduleIntro ++ "SPEC_JSON: &str = " =
      importLines ++ String.ofList ['\n'] ++ constantWords ++ String.ofList [' '] := by decide +kernel
  rw [hparts]
  simp

theorem toList_behindLiteral (name : String) : (behindLiteral name).toList =
    functionLines.toList ++ '\n' :: (functionWords.toList ++ ' ' :: (name.toList ++
      behindName.toList)) := by
  have hbefore : ";\n" ++ ("\n/// Build a tokenizer for this spec.\n" ++ "pub fn ") =
      functionLines ++ String.ofList ['\n'] ++ functionWords ++ String.ofList [' '] := by decide +kernel
  have hbehind : "() -> Result<Tokenizer, FormatError> \x7b\n" ++
      ("    let spec = Spec::normalize(parse_json(SPEC_JSON)?)?;\n" ++
      ("    Ok(Tokenizer::from_spec(spec))\n" ++ "\x7d\n")) = behindName := by decide +kernel
  have hparts : behindLiteral name = functionLines ++ String.ofList ['\n'] ++ functionWords ++
      String.ofList [' '] ++ (name ++ behindName) := by
    rw [← hbefore, ← hbehind, behindLiteral]
    simp only [String.append_assoc]
  rw [hparts]
  simp

theorem return_notMem_behindLiteral {name : String} (hname : isIdentifier name = true) :
    '\r' ∉ (behindLiteral name).toList := by
  have hlines : '\r' ∉ functionLines.toList := by rw [functionLines, String.toList_ofList]; decide
  have hwords : '\r' ∉ functionWords.toList := by decide
  have hbehind : '\r' ∉ behindName.toList := by
    unfold behindName
    rw [toList_ofList_append]
    decide +kernel
  have hreturn := return_notMem_of_isIdentifier hname
  rw [toList_behindLiteral]
  simp [hlines, hwords, hbehind, hreturn]

theorem return_notMem_intro : '\r' ∉ (moduleIntro ++ "SPEC_JSON: &str = ").toList := by
  have hlines : '\r' ∉ importLines.toList := by
    unfold importLines
    rw [toList_ofList_append]
    decide +kernel
  have hwords : '\r' ∉ constantWords.toList := by decide
  rw [toList_intro]
  simp [hlines, hwords]

/-- Unifying the newlines of a module unifies those of its literal. -/
theorem unifyNewlines_module {origin name : String} (horigin : '\n' ∉ origin.toList)
    (hname : isIdentifier name = true) (json : String) :
    unifyNewlines (moduleHeader origin ++ moduleBody name json).toList =
      (moduleHeader origin ++ moduleBody name (unified json)).toList := by
  have hparts (text : String) : (moduleHeader origin ++ moduleBody name text).toList =
      ('/' :: '/' :: (remarkStart.toList ++ origin.toList)) ++
        ((remarkEnd.toList ++ ['\n']) ++ ((moduleIntro ++ "SPEC_JSON: &str = ").toList ++
          ((rawLiteral text).toList ++ (behindLiteral name).toList))) := by
    rw [String.toList_append, toList_moduleHeader, moduleBody_eq, ← String.append_assoc, remark]
    generalize moduleIntro ++ "SPEC_JSON: &str = " = intro
    simp
  have hstart : '\n' ∉ '/' :: '/' :: (remarkStart.toList ++ origin.toList) := by
    have hremark : '\n' ∉ remarkStart.toList := by decide
    simp [hremark, horigin]
  have hstop : '\r' ∉ remarkEnd.toList ++ ['\n'] := by decide
  -- the origin may end with a carriage return, but a full stop follows it
  have hdot (rest : List Char) : ((remarkEnd.toList ++ ['\n']) ++ rest).head? ≠ some '\n' := by
    rw [remarkEnd, String.toList_ofList]
    exact fun h => nomatch h
  have hsemicolon : (behindLiteral name).toList.head? ≠ some '\n' := by
    rw [toList_behindLiteral, functionLines, String.toList_ofList]
    exact fun h => nomatch h
  rw [hparts, hparts, unifyNewlines_append (hdot _), unifyNewlines_of_newline_notMem hstart,
    unifyNewlines_append_of_notMem hstop, unifyNewlines_append_of_notMem return_notMem_intro,
    unifyNewlines_append hsemicolon, unifyNewlines_rawLiteral,
    unifyNewlines_of_notMem (return_notMem_behindLiteral hname)]

/-! ## Tokens of a module -/

/-- Lines that can be read, and behind them words without a slash in front of a blank. -/
theorem tokens?_lines {lines words : List Char} {ts us : List Token} (hlines : tokens? lines = some ts)
    (hwords : tokens? words = some us) (hslash : '/' ∉ words) (rest : List Char) :
    tokens? (lines ++ '\n' :: (words ++ ' ' :: rest)) = (tokens? rest).map (ts ++ us ++ ·) := by
  rw [tokens?_append_blank hlines rfl (.inl rfl), tokens?_append_blank hwords rfl (.inr hslash),
    Option.map_map]
  congr 1
  funext vs
  exact (List.append_assoc ..).symm

theorem tokens?_intro (rest : List Char) :
    tokens? ((moduleIntro ++ "SPEC_JSON: &str = ").toList ++ rest) =
      (tokens? rest).map (importTokens ++ constantTokens ++ ·) := by
  have hlines : tokens? importLines.toList = some importTokens := by
    unfold importLines
    rw [toList_ofList_append]
    decide +kernel
  have hwords : tokens? constantWords.toList = some constantTokens := by decide +kernel
  rw [toList_intro, List.append_assoc, List.cons_append, List.append_assoc]
  exact tokens?_lines hlines hwords (by decide) rest

theorem tokens?_behindLiteral {name : String} (hname : isIdentifier name = true) :
    tokens? (behindLiteral name).toList =
      some (functionLineTokens ++ functionWordTokens ++ [.word name] ++ functionTokens) := by
  have hlines : tokens? functionLines.toList = some functionLineTokens := by
    rw [functionLines, String.toList_ofList]
    decide +kernel
  have hwords : tokens? functionWords.toList = some functionWordTokens := by decide +kernel
  have hbehind : tokens? behindName.toList = some functionTokens := by
    unfold behindName
    rw [toList_ofList_append]
    decide +kernel
  have hword : Lexeme (name.toList ++ behindName.toList) [.word name] behindName.toList := by
    have hhead : behindName.toList.head? = some '(' := by
      unfold behindName
      rw [toList_ofList_append]
      rfl
    refine lexeme_word hname (fun d hd => ?_) ?_
    · rw [hhead] at hd
      cases hd
      rfl
    · rw [opensLiteral, hhead]
      rfl
  rw [toList_behindLiteral, tokens?_lines hlines hwords (by decide), hword.tokens?_eq, hbehind]
  simp only [Option.map_some, List.append_assoc]

/-- A source that starts with the literal of a text is read if the literal is. -/
theorem tokens?_rawLiteral (text : String) (rest : List Char) :
    tokens? ((rawLiteral text).toList ++ rest) =
      if Readable text then (tokens? rest).map (.literal text :: ·) else none := by
  have hraw := rawLiteral?_rawLiteral text rest
  split_ifs at hraw ⊢
  · rw [(Lexeme.literal hraw).tokens?_eq, String.ofList_toList]
    rfl
  · obtain ⟨d, tail, hcons, hd⟩ : ∃ d tail, (rawLiteral text).toList ++ rest = 'r' :: d :: tail ∧
        (d = '"' ∨ d = '#') := by
      rw [toList_rawLiteral, rawHashes, List.replicate_succ]
      exact ⟨'#', _, rfl, .inr rfl⟩
    rw [hcons] at hraw ⊢
    rw [tokens?, tokensFrom?, lexeme?_raw hd, hraw]
    rfl

/-- Behind its first line, a module reads as the template with a name and a literal, unless the literal
    is refused. -/
theorem tokens?_moduleBody {name : String} (hname : isIdentifier name = true) (json : String) :
    tokens? (moduleBody name json).toList =
      if Readable json then some (moduleTokens name json) else none := by
  rw [moduleBody_eq, ← String.append_assoc, String.toList_append, tokens?_intro,
    String.toList_append, tokens?_rawLiteral, tokens?_behindLiteral hname]
  split_ifs
  · simp only [Option.map_some, moduleTokens, List.append_assoc, List.singleton_append]
  · rfl

/-- A module whose origin stands on one line reads as a comment and the template, unless its literal is
    refused. -/
theorem sourceTokens?_module {origin name : String} (horigin : '\n' ∉ origin.toList)
    (hname : isIdentifier name = true) (json : String) :
    sourceTokens? (moduleHeader origin ++ moduleBody name json) =
      if Readable (unified json) then
        some (.comment (remark origin) :: moduleTokens name (unified json))
      else none := by
  have hremark : '\n' ∉ (remark origin).toList := by
    have hstart : '\n' ∉ remarkStart.toList := by decide
    have hend : '\n' ∉ remarkEnd.toList := by decide
    simp [remark, hstart, hend, horigin]
  have hcomment (text : String) : Lexeme (moduleHeader origin ++ moduleBody name text).toList
      [.comment (remark origin)] ('\n' :: (moduleBody name text).toList) := by
    rw [String.toList_append, toList_moduleHeader, List.cons_append, List.cons_append,
      List.append_assoc, ← String.ofList_toList (s := remark origin), String.toList_ofList]
    exact .comment hremark fun c hc => (Option.some.inj hc).symm
  rw [sourceTokens?, unifyNewlines_module horigin hname, (hcomment _).tokens?_eq,
    (Lexeme.blank rfl).tokens?_eq, tokens?_moduleBody hname]
  split_ifs <;> rfl

/-! ## The constant of a module -/

/-- The literals among tokens. -/
def literals (ts : List Token) : List String :=
  ts.filterMap fun
    | .literal content => some content
    | _ => none

/-- The constant of a source has a value: it is declared with a literal, the only one of the source. -/
def HasValue (source value : String) : Prop :=
  ∃ before behind, sourceTokens? source =
    some (before ++ constantTokens ++ .literal value :: .sign ';' :: behind) ∧
      literals (before ++ behind) = []

theorem unified_of_notMem {text : String} (h : '\r' ∉ text.toList) : unified text = text := by
  rw [unified, unifyNewlines_of_notMem h, String.ofList_toList]

/-- **What the constant of a module holds.**  The raw literal of a module is closed where it was written
    to be closed, whatever the origin and the text.  The text of a spec holds no carriage return, so in
    a module whose origin stands on one line, it is the value of the constant if the literal has no
    more signs than it may have; if it has more, the module cannot be read. -/
theorem renderModule?_embeds (origin : String) {name : String} (hname : isIdentifier name = true) :
    (∀ text, ∃ source, renderModule? origin name text = some source ∧
      Embeds origin name text source) ∧
    ∀ (s : Spec) text, s.toText = .ok text → '\r' ∉ text.toList ∧
      ∃ source, renderModule? origin name text = some source ∧ ('\n' ∉ origin.toList →
        (rawHashes text ≤ maxHashes → HasValue source text) ∧
        (maxHashes < rawHashes text → sourceTokens? source = none)) := by
  constructor
  · intro text
    exact ⟨_, renderModule?_eq hname origin text, embeds origin name text⟩
  · intro s text h
    have hreturn := Spec.return_notMem_toText h
    refine ⟨hreturn, _, if_pos hname, fun horigin => ?_⟩
    have htokens := sourceTokens?_module horigin hname text
    rw [unified_of_notMem hreturn] at htokens
    refine ⟨fun hle => ?_, fun hlt => ?_⟩
    · rw [if_pos ⟨hle, hreturn⟩] at htokens
      refine ⟨.comment (remark origin) :: importTokens, functionLineTokens.tail ++
        functionWordTokens ++ [.word name] ++ functionTokens, htokens.trans ?_, rfl⟩
      simp only [moduleTokens, functionLineTokens, List.cons_append, List.append_assoc,
        List.nil_append, List.tail_cons]
    · rwa [if_neg fun hread => absurd hread.1 (Nat.not_le.2 hlt)] at htokens

/-- A spec without rules and with an option whose name is hard to write. -/
def awkwardSpec : Spec :=
  ⟨[], { extra := [("\"##\r", .str "\"###")], sorted := List.pairwise_singleton _ _ }⟩

theorem renderModule?_embeds_awkward :
    isIdentifier "lexer_1" = true ∧
    (∃ source, renderModule? "a\nb.json" "lexer_1" "\"#\"" = some source ∧
      Embeds "a\nb.json" "lexer_1" "\"#\"" source) ∧
    ∃ text, awkwardSpec.toText = .ok text ∧ rawHashes text = 4 ∧ '\r' ∉ text.toList ∧
      ∃ source, renderModule? "a\rb.json" "lexer_1" text = some source ∧ HasValue source text := by
  have hname : isIdentifier "lexer_1" = true := by decide
  obtain ⟨hembeds, -⟩ := renderModule?_embeds "a\nb.json" hname
  obtain ⟨-, hvalue⟩ := renderModule?_embeds "a\rb.json" hname
  have hcheck : awkwardSpec.toText.toOption.map rawHashes = some 4 := by decide +kernel
  obtain ⟨text, htext, hhashes⟩ := exists_of_toOption_map hcheck
  obtain ⟨hreturn, source, hsource, hread⟩ := hvalue awkwardSpec text htext
  have hle : rawHashes text ≤ maxHashes := hhashes.trans_le (by decide)
  exact ⟨hname, hembeds _, text, htext, hhashes, hreturn, source, hsource, (hread (by decide)).1 hle⟩

theorem longestHashes_quote (n : Nat) {cs : List Char} (h : ∀ c ∈ cs.head?, c ≠ '#') :
    longestHashes ('"' :: (List.replicate n '#' ++ cs)) = max n (longestHashes cs) := by
  have hsigns : longestHashes (List.replicate n '#' ++ cs) = longestHashes cs := by
    induction n with
    | zero => rfl
    | succ n ih => rw [List.replicate_succ, List.cons_append, longestHashes, if_neg (by decide), ih]
  have hrun : (List.replicate n '#' ++ cs).takeWhile (· = '#') = List.replicate n '#' :=
    Text.takeWhile_append_of_head? (by simp [List.mem_replicate]) fun c hc => decide_eq_false (h c hc)
  rw [longestHashes, if_pos rfl, hrun, hsigns, List.length_replicate]

theorem longestHashes_append {a b : List Char} (ha : longestHashes a = 0)
    (hlast : a.getLast? ≠ some '"') : longestHashes (a ++ b) = longestHashes b := by
  induction a with
  | nil => rfl
  | cons c a ih =>
    rcases a with _ | ⟨d, a⟩
    · rw [List.singleton_append, longestHashes, if_neg fun hc => hlast (by rw [hc]; rfl)]
    · rw [List.getLast?_cons_cons] at hlast
      rw [longestHashes] at ha
      rw [List.cons_append, longestHashes]
      split_ifs at ha ⊢ with hc
      · rw [Nat.max_eq_zero_iff] at ha
        have hd : d ≠ '#' := by
          rintro rfl
          simp at ha
        rw [ih ha.2 hlast]
        simp [hd]
      · exact ih ha hlast

/-- A quote in front of some signs. -/
def crowded (n : Nat) : String := String.ofList ('"' :: List.replicate n '#')

theorem rawHashes_crowded (n : Nat) : rawHashes (crowded n) = n + 1 := by
  have hsigns : longestHashes ('"' :: (List.replicate n '#' ++ [])) = max n 0 :=
    longestHashes_quote n (by simp)
  rw [List.append_nil, Nat.max_zero] at hsigns
  rw [rawHashes, crowded, String.toList_ofList, hsigns]

/-- A spec without rules and with an option that needs one sign more than a number. -/
def crowdedSpec (n : Nat) : Spec :=
  ⟨[], { extra := [("x", .str (crowded n))], sorted := List.pairwise_singleton _ _ }⟩

theorem toText_crowdedSpec (n : Nat) :
    (crowdedSpec n).toText = .ok (String.ofList ("\x7b\n  \"options\": \x7b\n    \"x\": \"\\".toList ++
      ('"' :: (List.replicate n '#' ++ '"' :: "\n  \x7d,\n  \"rules\": []\n\x7d".toList)))) := by
  have hsigns : (List.replicate n '#').flatMap Json.escapeChar = List.replicate n '#' := by
    induction n with
    | zero => rfl
    | succ n ih => rw [List.replicate_succ, List.flatMap_cons, ih]; rfl
  have htext : (crowdedSpec n).toText = .ok (Json.Value.obj [("options",
    .obj [("x", .str (crowded n))]), ("rules", .arr [])]).pretty := rfl
  rw [htext, Json.Value.pretty]
  simp only [Json.Value.write, Json.Value.writeAt, Json.writeMembers, Json.writeString, crowded,
    String.toList_ofList, List.flatMap_cons, hsigns, List.append_assoc, List.cons_append]
  rfl

theorem exists_toText_crowdedSpec (n : Nat) :
    ∃ text, (crowdedSpec n).toText = .ok text ∧ rawHashes text = n + 1 := by
  have hbehind : longestHashes ('"' :: "\n  \x7d,\n  \"rules\": []\n\x7d".toList) = 0 := by
    decide +kernel
  refine ⟨_, toText_crowdedSpec n, ?_⟩
  rw [rawHashes, String.toList_ofList, longestHashes_append (by decide +kernel) (by decide +kernel),
    longestHashes_quote n (by rintro c ⟨⟩; decide), hbehind, Nat.max_zero]

/-- Neither does a module hold a text that needs 256 signs, nor one whose origin opens a comment behind a
    line break. -/
theorem renderModule?_crowded :
    (∃ text, (crowdedSpec 255).toText = .ok text ∧ rawHashes text = 256 ∧
      ∃ source, renderModule? "s.json" "lexer" text = some source ∧
        ∀ value, ¬HasValue source value) ∧
    ∀ text, ∃ source, renderModule? "x\n/*" "lexer" text = some source ∧
      ∀ value, ¬HasValue source value := by
  have hnone {source : String} (h : sourceTokens? source = none) (value : String) :
      ¬HasValue source value := by
    rintro ⟨before, behind, hsome, -⟩
    rw [h] at hsome
    cases hsome
  have hname : isIdentifier "lexer" = true := by decide
  constructor
  · obtain ⟨text, htext, hhashes⟩ := exists_toText_crowdedSpec 255
    have hread : ¬Readable (unified text) := not_readable_unified (by rw [hhashes]; decide)
    refine ⟨text, htext, hhashes, _, if_pos hname, hnone ?_⟩
    rw [sourceTokens?_module (by decide) hname, if_neg hread]
  · intro text
    refine ⟨_, if_pos hname, hnone ?_⟩
    obtain ⟨first, second, hfirst, hheader⟩ : ∃ first second, '\n' ∉ first ∧
        (moduleHeader "x\n/*").toList = '/' :: '/' :: (first ++ '\n' :: '/' :: '*' :: second) :=
      ⟨remarkStart.toList ++ ['x'], remarkEnd.toList ++ ['\n'], by decide, by decide +kernel⟩
    have hreturn : '\r' ∉ (moduleHeader "x\n/*").toList := by decide +kernel
    rw [sourceTokens?, String.toList_append, unifyNewlines_append_of_notMem hreturn, hheader,
      List.cons_append, List.cons_append, List.append_assoc,
      (Lexeme.comment hfirst (by simp)).tokens?_eq, List.cons_append,
      (Lexeme.blank rfl).tokens?_eq]
    rfl

/-! ## Behind the first line -/

/-- What stands behind the first line of a text; none if the text is one line without an end. -/
def behindLine? : List Char → Option (List Char)
  | [] => none
  | c :: cs => if c = '\n' then some cs else behindLine? cs

theorem behindLine?_append (a b : List Char) :
    behindLine? (a ++ b) = ((behindLine? a).map (· ++ b)).or (behindLine? b) := by
  induction a with
  | nil => rfl
  | cons c a ih =>
    rw [List.cons_append, behindLine?, behindLine?]
    split_ifs
    · rfl
    · exact ih

theorem behindLine?_of_notMem {cs : List Char} (h : '\n' ∉ cs) : behindLine? cs = none := by
  induction cs with
  | nil => rfl
  | cons c cs ih =>
    obtain ⟨hc, hcs⟩ := not_or.1 (List.mem_cons.not.1 h)
    rw [behindLine?, if_neg fun heq => hc heq.symm, ih hcs]

/-- Behind the first line of a module stands its body, unless the origin has more than one line. -/
theorem behindLine?_module (origin name json : String) :
    behindLine? (moduleHeader origin ++ moduleBody name json).toList =
      some (((behindLine? origin.toList).elim [] (· ++ (remarkEnd.toList ++ ['\n']))) ++
        (moduleBody name json).toList) := by
  have hstart : behindLine? ('/' :: '/' :: remarkStart.toList) = none :=
    behindLine?_of_notMem (by decide)
  have hend : behindLine? (remarkEnd.toList ++ ['\n']) = some [] := by decide +kernel
  have hparts : (moduleHeader origin ++ moduleBody name json).toList =
      ('/' :: '/' :: remarkStart.toList) ++ (origin.toList ++ ((remarkEnd.toList ++ ['\n']) ++
        (moduleBody name json).toList)) := by
    rw [String.toList_append, toList_moduleHeader, remark]
    simp
  rw [hparts, behindLine?_append, hstart, behindLine?_append, behindLine?_append, hend]
  rcases behindLine? origin.toList with _ | rest
  · rfl
  · simp

/-- Two modules agree behind their first lines if and only if their origins do. -/
theorem behindLine?_module_inj (origin other name json : String) :
    behindLine? (moduleHeader origin ++ moduleBody name json).toList =
        behindLine? (moduleHeader other ++ moduleBody name json).toList ↔
      behindLine? origin.toList = behindLine? other.toList := by
  rw [behindLine?_module, behindLine?_module, Option.some_inj, List.append_cancel_right_eq]
  rcases behindLine? origin.toList with _ | a <;> rcases behindLine? other.toList with _ | b
  · simp
  · simp
  · simp
  · simp

/-! ## What reaches a module -/

/-- **What reaches a module.**  A module is made for every name, and for every reserved word.  It reads
    as one comment with the whole origin and the template, with the name and the literal in it,
    if and only if the origin stands on one line and the literal is not refused; and two modules that
    differ in the origin agree behind their first lines if and only if the origins do. -/
theorem renderModule?_source (origin name json : String) :
    ((renderModule? origin name json).isSome = true ↔ IsName name ∨ name ∈ reservedWords) ∧
      ∀ source, renderModule? origin name json = some source →
        (sourceTokens? source = some (.comment (remark origin) :: moduleTokens name (unified json)) ↔
          '\n' ∉ origin.toList ∧ Readable (unified json)) ∧
        ∀ other source', renderModule? other name json = some source' →
          (behindLine? source.toList = behindLine? source'.toList ↔
            behindLine? origin.toList = behindLine? other.toList) := by
  constructor
  · rw [← isIdentifier_iff_isName, renderModule?]
    split_ifs with hname
    · simp [hname]
    · simp [hname]
  · intro source hsource
    unfold renderModule? at hsource ⊢
    split_ifs at hsource with hname
    cases hsource
    refine ⟨⟨fun htokens => ?_, fun ⟨horigin, hread⟩ => ?_⟩, fun other source' hsource' => ?_⟩
    · have horigin : '\n' ∉ origin.toList := by
        -- a comment has no newline
        have hvalid : '\n' ∉ (remark origin).toList := valid_of_tokens? htokens _ List.mem_cons_self
        refine fun hmem => hvalid ?_
        simp [remark, hmem]
      refine ⟨horigin, ?_⟩
      by_contra hread
      rw [sourceTokens?_module horigin hname, if_neg hread] at htokens
      cases htokens
    · rw [sourceTokens?_module horigin hname, if_pos hread]
    · rw [if_pos hname] at hsource'
      cases hsource'
      exact behindLine?_module_inj origin other name json

/-- A carriage return stays in the comment, and a line break lets what follows it out. -/
theorem renderModule?_source_break :
    IsName "lexer_1" ∧ (renderModule? "a\rb" "lexer_1" "\r\n\"#").isSome = true ∧
      ∃ source source', renderModule? "a\rb" "lexer_1" "\r\n\"#" = some source ∧
        renderModule? "a\nb" "lexer_1" "\r\n\"#" = some source' ∧
        sourceTokens? source = some (.comment (remark "a\rb") :: moduleTokens "lexer_1" "\n\"#") ∧
        behindLine? source.toList ≠ behindLine? source'.toList := by
  have hname : IsName "lexer_1" := by decide
  have hunified : unified "\r\n\"#" = "\n\"#" := by decide
  obtain ⟨hsome, hread⟩ := renderModule?_source "a\rb" "lexer_1" "\r\n\"#"
  obtain ⟨htokens, hbehind⟩ := hread _ rfl
  refine ⟨hname, hsome.2 (.inl hname), _, _, rfl, rfl, ?_, ?_⟩
  · exact hunified ▸ htokens.2 ⟨by decide, by decide⟩
  · exact fun heq => absurd ((hbehind "a\nb" _ rfl).1 heq) (by decide)

/-- A reserved word is taken for a name, an origin of two lines shows behind the first one, and neither
    a text that needs 256 signs nor a carriage return makes a literal. -/
theorem renderModule?_escapes :
    ("fn" ∈ reservedWords ∧ (renderModule? "x" "fn" "\x7b\x7d").isSome = true) ∧
      (∃ source source', renderModule? "a" "t" "\x7b\x7d" = some source ∧
        renderModule? "a\nb" "t" "\x7b\x7d" = some source' ∧
        behindLine? source.toList ≠ behindLine? source'.toList) ∧
      ∀ json ∈ [crowded 255, "\r"],
        ∃ source, renderModule? "x" "t" json = some source ∧ sourceTokens? source = none := by
  refine ⟨by decide, ⟨_, _, rfl, rfl, fun heq => ?_⟩, fun json hjson => ⟨_, if_pos (by decide), ?_⟩⟩
  · exact absurd ((behindLine?_module_inj "a" "a\nb" "t" "\x7b\x7d").1 heq) (by decide)
  · have hread : ¬Readable (unified json) := by
      rcases List.mem_pair.1 hjson with rfl | rfl
      · exact not_readable_unified (by rw [rawHashes_crowded]; decide)
      · decide
    rw [sourceTokens?_module (by decide) (by decide), if_neg hread]

end OrderedLexer.Command
