/-
  The text of a spec inside a module.

  A module holds the text of its spec in a raw string literal.  The literal is closed by the first
  quote that as many number signs follow as stand before its opening quote (`rawContent?`).  When a
  source is read, a carriage return with a newline behind it is taken for the newline alone
  (`unifyNewlines`); a raw literal is refused if another one stands in it, and also if it has more
  than `maxHashes` signs (`rawLiteral?`).

  * No quote of a text is followed by as many signs as its literal has, also where the text ends and
    the closing quote stands behind it, so a literal is closed where it was written to be closed
    (`rawContent?_append`, `embeds`);
  * the literal of a text is read if the text is `Readable`, and refused otherwise
    (`rawLiteral?_rawLiteral`).  Nothing bounds the signs that a text needs;
  * written JSON holds no control character but the newlines of its layout (`clear_write`), so
    reading a source leaves it as it is.
-/
import OrderedLexer.Command.Module
import OrderedLexer.Proofs.WhiteSpace
import OrderedLexer.SpecFile.JsonForm

namespace OrderedLexer

/-! ## Control characters in JSON -/

namespace Json

/-- A text holds no control characters, newlines apart. -/
def Clear (cs : List Char) : Prop := ∀ c ∈ cs, c = '\n' ∨ 0x20 ≤ c.toNat

variable {cs : List Char} {c : Char}

@[simp]
theorem clear_nil : Clear [] := List.forall_mem_nil _

@[simp]
theorem clear_cons : Clear (c :: cs) ↔ (c = '\n' ∨ 0x20 ≤ c.toNat) ∧ Clear cs :=
  List.forall_mem_cons

@[simp]
theorem clear_append {a b : List Char} : Clear (a ++ b) ↔ Clear a ∧ Clear b :=
  List.forall_mem_append

theorem Clear.mono {a b : List Char} (hb : Clear b) (h : ∀ c ∈ a, c ∈ b) : Clear a :=
  fun c hc => hb c (h c hc)

theorem clear_replicate (n : Nat) (hc : 0x20 ≤ c.toNat) : Clear (List.replicate n c) := by
  intro d hd
  rw [List.eq_of_mem_replicate hd]
  exact .inr hc

theorem clear_escapeChar (c : Char) : Clear (escapeChar c) := by
  have hhex : ∀ n < 16, 0x20 ≤ (Text.hexChar n).toNat := by decide
  have hlow : 0x20 ≤ (Text.hexChar (c.toNat % 16)).toNat := hhex _ (by omega)
  have hhigh : c.toNat < 0x20 → 0x20 ≤ (Text.hexChar (c.toNat / 16)).toNat :=
    fun hc => hhex _ (by omega)
  unfold escapeChar
  split_ifs <;> simp_all

theorem clear_writeString (s : String) : Clear (writeString s) := by
  have hchars : Clear (s.toList.flatMap escapeChar) := by
    intro c hc
    obtain ⟨d, -, hd⟩ := List.mem_flatMap.1 hc
    exact clear_escapeChar d c hd
  simp [writeString, hchars]

theorem clear_toDigits (n : Nat) : Clear (Nat.toDigits 10 n) := by
  intro c hc
  have hdigit := Nat.isDigit_of_mem_toDigits (by decide) (by decide) hc
  simp only [Char.isDigit, Bool.and_eq_true, decide_eq_true_eq] at hdigit
  exact .inr (Nat.le_trans (by decide) hdigit.1)

theorem clear_writeInt (n : Int) : Clear (writeInt n) := by
  cases n with
  | ofNat n => simp [writeInt, clear_toDigits]
  | negSucc n => simp [writeInt, clear_toDigits]

theorem clear_placeDigits {d : Decimal.Digits} (hd : Clear d.digits) : Clear (placeDigits d) := by
  have htake (n : Nat) : Clear (d.digits.take n) := hd.mono fun _ => List.mem_of_mem_take
  have hdrop (n : Nat) : Clear (d.digits.drop n) := hd.mono fun _ => List.mem_of_mem_drop
  have hzeros (n : Nat) : Clear (List.replicate n '0') := clear_replicate n (by decide)
  have hexponent (e : Int) : Clear (exponentText e) := by
    unfold exponentText
    split_ifs <;> simp [clear_toDigits]
  unfold placeDigits
  dsimp only
  split_ifs <;> simp [hd, htake, hdrop, hzeros, hexponent, -List.drop_one]

theorem clear_doubleText (x : Float) : Clear (doubleText x) := by
  have hshortest (e f : Nat) : Clear (Decimal.shortest e f).digits := by
    have hdrop {ds : List Char} (hds : Clear ds) : Clear (Decimal.dropZeros ds) := by
      refine hds.mono fun c hc => ?_
      exact List.mem_reverse.1 ((List.dropWhile_suffix _).mem (List.mem_reverse.1 hc))
    refine hdrop ?_
    simp [clear_toDigits]
  unfold doubleText
  dsimp only
  split_ifs <;> simp [clear_placeDigits (hshortest _ _)]

theorem clear_gap (layout : Layout) (level : Nat) : Clear (layout.gap level) := by
  cases layout with
  | compact => exact clear_nil
  | pretty => simp [Layout.gap, clear_replicate]

theorem clear_colon (layout : Layout) : Clear layout.colon := by
  cases layout <;> simp [Layout.colon]

mutual

theorem clear_writeAt (layout : Layout) (level : Nat) : ∀ v : Value, Clear (v.writeAt layout level)
  | .null | .bool true | .bool false | .arr [] | .obj [] => by simp [Value.writeAt]
  | .num (.int n) => clear_writeInt n
  | .num (.double x) => clear_doubleText x
  | .str s => clear_writeString s
  | .arr (v :: vs) => by
    simp [Value.writeAt, clear_gap, clear_writeAt layout (level + 1) v,
      clear_writeItems layout (level + 1) vs]
  | .obj ((k, v) :: ms) => by
    simp [Value.writeAt, clear_gap, clear_colon, clear_writeString,
      clear_writeAt layout (level + 1) v, clear_writeMembers layout (level + 1) ms]

theorem clear_writeItems (layout : Layout) (level : Nat) :
    ∀ vs : List Value, Clear (writeItems layout level vs)
  | [] => clear_nil
  | v :: vs => by
    simp [writeItems, clear_gap, clear_writeAt layout level v, clear_writeItems layout level vs]

theorem clear_writeMembers (layout : Layout) (level : Nat) :
    ∀ ms : List (String × Value), Clear (writeMembers layout level ms)
  | [] => clear_nil
  | (k, v) :: ms => by
    simp [writeMembers, clear_gap, clear_colon, clear_writeString, clear_writeAt layout level v,
      clear_writeMembers layout level ms]

end

/-- Written JSON holds no control characters but newlines. -/
theorem clear_write (layout : Layout) (v : Value) : Clear (v.write layout) := clear_writeAt layout 0 v

end Json

/-- The text of a spec holds no carriage return. -/
theorem Spec.return_notMem_toText {s : Spec} {json : String} (h : s.toText = .ok json) :
    '\r' ∉ json.toList := by
  unfold Spec.toText at h
  cases hv : s.toValue with
  | error e => simp [hv, Except.map] at h
  | ok v =>
    simp only [hv, Except.map, Except.ok.injEq] at h
    intro hmem
    rw [← h, Json.Value.pretty, String.toList_ofList] at hmem
    rcases Json.clear_write .pretty v '\r' hmem with hc | hc
    · exact absurd hc (by decide)
    · exact absurd hc (by decide)

namespace Command

/-! ## Reading raw literals -/

/-- The content of a raw literal behind its opening quote, up to the first quote that `n` number
    signs follow, and the text behind these signs. -/
def rawContent? (n : Nat) : List Char → Option (List Char × List Char)
  | [] => none
  | c :: cs =>
    if c = '"' ∧ List.replicate n '#' <+: cs then some ([], cs.drop n)
    else (rawContent? n cs).map fun (content, rest) => (c :: content, rest)

/-- The number signs that a raw literal may have. -/
def maxHashes : Nat := 255

/-- The raw literal at the start of a source: its content, and the source behind it.  It may have at
    most `maxHashes` signs, and no carriage return may stand in it. -/
def rawLiteral? : List Char → Option (List Char × List Char)
  | 'r' :: cs =>
    match cs.dropWhile (· = '#') with
    | '"' :: rest =>
      let hashes := (cs.takeWhile (· = '#')).length
      if hashes ≤ maxHashes then
        (rawContent? hashes rest).filter fun (content, _) => !content.contains '\r'
      else none
    | _ => none
  | _ => none

/-- A source with a newline in place of each carriage return with a newline behind it. -/
def unifyNewlines : List Char → List Char
  | '\r' :: '\n' :: cs => '\n' :: unifyNewlines cs
  | c :: cs => c :: unifyNewlines cs
  | [] => []

variable {n : Nat} {cs rest : List Char}

/-- A run of signs behind a quote lies before the next quote. -/
theorem le_of_replicate_prefix (h : List.replicate n '#' <+: cs ++ '"' :: rest) :
    n ≤ (cs.takeWhile (· = '#')).length := by
  induction n generalizing cs with
  | zero => exact Nat.zero_le _
  | succ n ih =>
    rw [List.replicate_succ] at h
    cases cs with
    | nil => exact absurd (List.cons_prefix_cons.1 h).1 (by decide)
    | cons c cs =>
      obtain ⟨rfl, htail⟩ := List.cons_prefix_cons.1 h
      simpa using ih htail

theorem rawContent?_append (h : longestHashes cs < n) (rest : List Char) :
    rawContent? n (cs ++ '"' :: (List.replicate n '#' ++ rest)) = some (cs, rest) := by
  induction cs with
  | nil => simp [rawContent?]
  | cons c cs ih =>
    have hopen : ¬(c = '"' ∧ List.replicate n '#' <+: cs ++ '"' :: (List.replicate n '#' ++ rest)) := by
      rintro ⟨rfl, hrun⟩
      have hle := le_of_replicate_prefix hrun
      rw [longestHashes, if_pos rfl] at h
      omega
    have htail : longestHashes cs < n := by
      unfold longestHashes at h
      split_ifs at h <;> omega
    rw [List.cons_append, rawContent?, if_neg hopen, ih htail]
    rfl

/-- A text whose literal is not refused. -/
def Readable (text : String) : Prop := rawHashes text ≤ maxHashes ∧ '\r' ∉ text.toList

instance (text : String) : Decidable (Readable text) := inferInstanceAs (Decidable (_ ∧ _))

theorem toList_rawLiteral (text : String) :
    (rawLiteral text).toList = 'r' :: (List.replicate (rawHashes text) '#' ++
      ('"' :: (text.toList ++ ('"' :: List.replicate (rawHashes text) '#')))) := by
  simp [rawLiteral]

/-- The literal of a text is closed where it was written to be closed, whatever stands behind it. -/
theorem rawContent?_rawHashes (text : String) (rest : List Char) :
    rawContent? (rawHashes text)
        (text.toList ++ '"' :: (List.replicate (rawHashes text) '#' ++ rest)) =
      some (text.toList, rest) :=
  rawContent?_append (Nat.lt_succ_self _) rest

/-- Behind the opening quote, the number of signs decides where a literal ends. -/
theorem rawLiteral?_quote (n : Nat) (tail : List Char) :
    rawLiteral? ('r' :: (List.replicate n '#' ++ '"' :: tail)) =
      if n ≤ maxHashes then (rawContent? n tail).filter fun (content, _) => !content.contains '\r'
      else none := by
  have hsigns : ∀ c ∈ List.replicate n '#', (c = '#' : Bool) = true := by
    intro c hc
    simpa using List.eq_of_mem_replicate hc
  have hquote : ∀ c ∈ ('"' :: tail).head?, (c = '#' : Bool) = false := by simp
  rw [rawLiteral?]
  simp only [Text.dropWhile_append_of_head? hsigns hquote,
    Text.takeWhile_append_of_head? hsigns hquote, List.length_replicate]

theorem rawLiteral?_eq_some_iff {content : List Char} :
    rawLiteral? cs = some (content, rest) ↔ ∃ n tail,
      cs = 'r' :: (List.replicate n '#' ++ '"' :: tail) ∧ n ≤ maxHashes ∧
        rawContent? n tail = some (content, rest) ∧ '\r' ∉ content := by
  constructor
  · intro h
    unfold rawLiteral? at h
    split at h
    · next cs =>
      split at h
      · next tail hdrop =>
        have hcs : cs = List.replicate (cs.takeWhile (· = '#')).length '#' ++ '"' :: tail := by
          have htake : cs.takeWhile (· = '#') =
              List.replicate (cs.takeWhile (· = '#')).length '#' :=
            List.eq_replicate_of_mem fun c hc => by simpa using List.mem_takeWhile_imp hc
          rw [← htake, ← hdrop, List.takeWhile_append_dropWhile]
        dsimp only at h
        split_ifs at h with hhashes
        obtain ⟨hcontent, hreturn⟩ := Option.filter_eq_some_iff.1 h
        exact ⟨_, tail, congrArg _ hcs, hhashes, hcontent, by simpa using hreturn⟩
      · cases h
    · cases h
  · rintro ⟨n, tail, rfl, hhashes, hcontent, hreturn⟩
    rw [rawLiteral?_quote, if_pos hhashes, hcontent, Option.filter_some,
      if_pos (by simpa using hreturn)]

/-- The literal of a text is read up to its end, or refused. -/
theorem rawLiteral?_rawLiteral (text : String) (rest : List Char) :
    rawLiteral? ((rawLiteral text).toList ++ rest) =
      if Readable text then some (text.toList, rest) else none := by
  rw [toList_rawLiteral]
  simp only [List.cons_append, List.append_assoc]
  rw [rawLiteral?_quote, rawContent?_rawHashes]
  by_cases hhashes : rawHashes text ≤ maxHashes
  · by_cases hreturn : '\r' ∈ text.toList
    · simp [Readable, hhashes, hreturn]
    · simp [Readable, hhashes, hreturn]
  · simp [Readable, hhashes]

/-! ## Newlines of a source -/

theorem unifyNewlines_of_notMem (h : '\r' ∉ cs) : unifyNewlines cs = cs := by
  induction cs with
  | nil => rfl
  | cons c cs ih =>
    obtain ⟨hc, hcs⟩ := not_or.1 (List.mem_cons.not.1 h)
    rw [unifyNewlines, ih hcs]
    rintro _ rfl _
    exact hc rfl

theorem unifyNewlines_append {b : List Char} (hb : b.head? ≠ some '\n') (a : List Char) :
    unifyNewlines (a ++ b) = unifyNewlines a ++ unifyNewlines b := by
  fun_induction unifyNewlines a with
  | case1 a ih => rw [List.cons_append, List.cons_append, unifyNewlines, ih, List.cons_append]
  | case2 c a hpair ih =>
    rw [List.cons_append, unifyNewlines, ih, List.cons_append]
    rintro cs rfl hcs
    -- the newline would have to be the first character of `b`
    cases a with
    | nil => exact hb (by rw [← List.nil_append b, hcs]; rfl)
    | cons d a =>
      obtain ⟨rfl, -⟩ := List.cons.inj hcs
      exact hpair a rfl rfl
  | case3 => rfl

/-! ## Modules -/

/-- What stands between the first line of a module and the name of its constant. -/
def moduleIntro : String :=
  "\nuse rulex_lexer::\x7bSpec, Tokenizer\x7d;\n" ++
  "use rulex_spec::\x7bparse_json, FormatError\x7d;\n" ++
  "\n/// Normalized spec, as written by `rulex normalize`.\n" ++
  "pub const "

/-- What stands before the literal of a module. -/
def beforeLiteral (origin : String) : String :=
  moduleHeader origin ++ moduleIntro ++ "SPEC_JSON: &str = "

/-- What stands behind the literal of a module. -/
def behindLiteral (name : String) : String :=
  ";\n" ++
  ("\n/// Build a tokenizer for this spec.\n" ++
  "pub fn " ++ name ++ "() -> Result<Tokenizer, FormatError> \x7b\n" ++
  "    let spec = Spec::normalize(parse_json(SPEC_JSON)?)?;\n" ++
  "    Ok(Tokenizer::from_spec(spec))\n" ++
  "\x7d\n")

theorem moduleBody_eq (name json : String) :
    moduleBody name json =
      moduleIntro ++ ("SPEC_JSON: &str = " ++ (rawLiteral json ++ behindLiteral name)) := by
  have hconstant : "pub const SPEC_JSON: &str = " = "pub const " ++ "SPEC_JSON: &str = " := by decide
  unfold moduleBody
  rw [hconstant]
  unfold moduleIntro behindLiteral
  simp only [String.append_assoc]

theorem renderModule?_eq {name : String} (h : isIdentifier name = true) (origin json : String) :
    renderModule? origin name json =
      some (beforeLiteral origin ++ (rawLiteral json ++ behindLiteral name)) := by
  unfold renderModule? beforeLiteral
  rw [if_pos h, moduleBody_eq]
  simp only [String.append_assoc]

/-- A module holds a text: a literal is opened behind the name of the constant, and the first quote that
    as many signs follow as stand before the opening one is the one that closes the text. -/
structure Embeds (origin name text source : String) : Prop where
  source_eq : source.toList = (beforeLiteral origin).toList ++
    'r' :: (List.replicate (rawHashes text) '#' ++ '"' :: (text.toList ++
      '"' :: (List.replicate (rawHashes text) '#' ++ (behindLiteral name).toList)))
  content : rawContent? (rawHashes text)
      (text.toList ++ '"' :: (List.replicate (rawHashes text) '#' ++ (behindLiteral name).toList)) =
    some (text.toList, (behindLiteral name).toList)

theorem embeds (origin name text : String) :
    Embeds origin name text (beforeLiteral origin ++ (rawLiteral text ++ behindLiteral name)) := by
  refine ⟨?_, rawContent?_rawHashes text _⟩
  rw [String.toList_append, String.toList_append, toList_rawLiteral]
  simp only [List.cons_append, List.append_assoc]

end Command

end OrderedLexer
