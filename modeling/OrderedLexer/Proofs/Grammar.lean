/-
  The grammar of handler bodies.

      body   := "{" inner "}" [";"] | inner
      inner  := ["return"] [result] [";"]
      result := "null" | "undefined" | "[" value "," value "]" | value
      value  := term ("+" term)*
      term   := atom ("." method)*
      atom   := STRING | IDENT | "(" value ")"
      method := "slice" "(" INT ["," INT] ")" | "trim" "(" ")"
              | "toUpperCase" "(" ")" | "toLowerCase" "(" ")"

  Each rule is a relation between lexemes and what they stand for (`IsBody`, `IsValue`, …).  Where a
  name could be a label or a keyword, it is the keyword: `return` at the start of a body, `null` and
  `undefined` at the start of its result.

  * A reader that succeeds takes lexemes that the grammar derives what it returns from (`Takes`);
  * if the grammar derives something from lexemes, the reader returns it, whatever follows, as long as
    that does not go on with the same rule (`IsValue.read`).

  `body_eq_ok_iff` puts these together, and `parse_eq_ok_iff` is the statement about texts.
-/
import OrderedLexer.Expr.Body

namespace OrderedLexer.Expr

/-! ## The grammar -/

namespace Grammar

/-- A bound of a slice: an optional minus sign, and an integer that fits 63 bits. -/
inductive IsBound : List Lexeme → Int → Prop
  | plain {n : Nat} (fits : n ≤ 0x7FFFFFFFFFFFFFFF) : IsBound [.int n] n
  | minus {n : Nat} (fits : n ≤ 0x7FFFFFFFFFFFFFFF) : IsBound [.punct '-', .int n] (-n)

/-- A method, as what it makes of a term. -/
inductive IsMethod : List Lexeme → (Term → Term) → Prop
  | sliceFrom {ls : List Lexeme} {lo : Int} : IsBound ls lo →
      IsMethod (.ident "slice" :: .punct '(' :: (ls ++ [.punct ')'])) fun t => .slice t lo none
  | slice {ls ms : List Lexeme} {lo hi : Int} : IsBound ls lo → IsBound ms hi →
      IsMethod (.ident "slice" :: .punct '(' :: (ls ++ .punct ',' :: (ms ++ [.punct ')'])))
        fun t => .slice t lo (some hi)
  | trim : IsMethod [.ident "trim", .punct '(', .punct ')'] .trim
  | upper : IsMethod [.ident "toUpperCase", .punct '(', .punct ')'] .upper
  | lower : IsMethod [.ident "toLowerCase", .punct '(', .punct ')'] .lower

/-- Methods, each behind a point; the first one is applied first. -/
inductive IsMethods : List Lexeme → (Term → Term) → Prop
  | nil : IsMethods [] id
  | cons {ls ms : List Lexeme} {f g : Term → Term} : IsMethod ls f → IsMethods ms g →
      IsMethods (.punct '.' :: (ls ++ ms)) (g ∘ f)

mutual

/-- An atom.  Two names stand for the matched text, and every other one for itself. -/
inductive IsAtom : List Lexeme → Term → Prop
  | str (s : String) : IsAtom [.str s] (.literal s)
  | text : IsAtom [.ident "text"] .text
  | yytext : IsAtom [.ident "yytext"] .text
  | label {s : String} : s ≠ "text" → s ≠ "yytext" → IsAtom [.ident s] (.literal s)
  | group {ls : List Lexeme} {t : Term} : IsValue ls t →
      IsAtom (.punct '(' :: (ls ++ [.punct ')'])) t

/-- An atom with its methods. -/
inductive IsTerm : List Lexeme → Term → Prop
  | mk {ls ms : List Lexeme} {t : Term} {f : Term → Term} : IsAtom ls t → IsMethods ms f →
      IsTerm (ls ++ ms) (f t)

/-- Terms, each behind a plus sign. -/
inductive IsSummands : List Lexeme → List Term → Prop
  | nil : IsSummands [] []
  | cons {ls ms : List Lexeme} {t : Term} {ts : List Term} : IsTerm ls t → IsSummands ms ts →
      IsSummands (.punct '+' :: (ls ++ ms)) (t :: ts)

/-- A value: one term, or several of them with plus signs between them. -/
inductive IsValue : List Lexeme → Term → Prop
  | single {ls : List Lexeme} {t : Term} : IsTerm ls t → IsValue ls t
  | sum {ls ms : List Lexeme} {t : Term} {ts : List Term} : IsTerm ls t → IsSummands ms ts →
      ts ≠ [] → IsValue (ls ++ ms) (.concat (t :: ts))

end

/-- A result; a missing one gives no type. -/
inductive IsResult : List Lexeme → Body → Prop
  | missing : IsResult [] .null
  | null : IsResult [.ident "null"] .null
  | undefined : IsResult [.ident "undefined"] .null
  | pair {ls ms : List Lexeme} {v k : Term} : IsValue ls v → IsValue ms k →
      IsResult (.punct '[' :: (ls ++ .punct ',' :: (ms ++ [.punct ']']))) (.pair v k)
  | type {ls : List Lexeme} {t : Term} : IsValue ls t → ls.head? ≠ some (.ident "null") →
      ls.head? ≠ some (.ident "undefined") → IsResult ls (.type t)

/-- An optional semicolon. -/
inductive IsSemicolon : List Lexeme → Prop
  | absent : IsSemicolon []
  | present : IsSemicolon [.punct ';']

/-- The inside of a body. -/
inductive IsInner : List Lexeme → Body → Prop
  | plain {ls ms : List Lexeme} {b : Body} : ls.head? ≠ some (.ident "return") → IsResult ls b →
      IsSemicolon ms → IsInner (ls ++ ms) b
  | returned {ls ms : List Lexeme} {b : Body} : IsResult ls b → IsSemicolon ms →
      IsInner (.ident "return" :: (ls ++ ms)) b

/-- A body. -/
inductive IsBody : List Lexeme → Body → Prop
  | plain {ls : List Lexeme} {b : Body} : IsInner ls b → IsBody ls b
  | braced {ls ms : List Lexeme} {b : Body} : IsInner ls b → IsSemicolon ms →
      IsBody (.punct '{' :: (ls ++ .punct '}' :: ms)) b

/-- Lexemes that a value may start with. -/
def startsValue : Lexeme → Bool
  | .str _ | .ident _ => true
  | .punct c => c = '('
  | .int _ => false

variable {ls : List Lexeme} {t : Term}

theorem IsAtom.exists_cons (h : IsAtom ls t) : ∃ l ms, ls = l :: ms ∧ startsValue l = true := by
  cases h <;> exact ⟨_, _, rfl, rfl⟩

theorem IsTerm.exists_cons (h : IsTerm ls t) : ∃ l ms, ls = l :: ms ∧ startsValue l = true := by
  cases h with
  | mk atom _ =>
    obtain ⟨l, ms, rfl, hl⟩ := atom.exists_cons
    exact ⟨l, _, rfl, hl⟩

theorem IsValue.exists_cons (h : IsValue ls t) : ∃ l ms, ls = l :: ms ∧ startsValue l = true := by
  cases h with
  | single term => exact term.exists_cons
  | sum term _ _ =>
    obtain ⟨l, ms, rfl, hl⟩ := term.exists_cons
    exact ⟨l, _, rfl, hl⟩

theorem IsAtom.length_pos (h : IsAtom ls t) : 0 < ls.length := by
  obtain ⟨l, ms, rfl, -⟩ := h.exists_cons
  exact Nat.succ_pos _

theorem IsTerm.length_pos (h : IsTerm ls t) : 0 < ls.length := by
  obtain ⟨l, ms, rfl, -⟩ := h.exists_cons
  exact Nat.succ_pos _

/-- No inside of a body starts with a brace. -/
theorem IsInner.head?_ne_brace {b : Body} (h : IsInner ls b) : ls.head? ≠ some (.punct '{') := by
  rcases h with @⟨ls, ms, _, -, result, semicolon⟩ | _
  · cases result with
    | missing => cases semicolon <;> simp
    | null | undefined | pair => simp
    | type value =>
      obtain ⟨l, ls, rfl, hl⟩ := value.exists_cons
      rw [List.cons_append, List.head?_cons]
      rintro ⟨⟩
      cases hl
  · simp

end Grammar

open Grammar

namespace Reader

variable {α β : Type} {stop fuel : Nat} {c : Char} {ts rest : List Placed}

/-! ## Lexemes at the start -/

theorem eat?_eq_some {r : List Placed} :
    eat? c ts = some r ↔ ∃ column, ts = ⟨column, .punct c⟩ :: r := by
  refine ⟨fun h => ?_, ?_⟩
  · unfold eat? at h
    split at h
    · next column d ts =>
      split at h
      · next hd =>
        cases h
        exact ⟨column, by rw [hd]⟩
      · cases h
    · cases h
  · rintro ⟨column, rfl⟩
    exact if_pos rfl

theorem eatWord?_eq_some {word : String} {r : List Placed} :
    eatWord? word ts = some r ↔ ∃ column, ts = ⟨column, .ident word⟩ :: r := by
  refine ⟨fun h => ?_, ?_⟩
  · unfold eatWord? at h
    split at h
    · next column name ts =>
      split at h
      · next hname =>
        cases h
        exact ⟨column, by rw [hname]⟩
      · cases h
    · cases h
  · rintro ⟨column, rfl⟩
    exact if_pos rfl

theorem expect_eq_ok {what : Expectation} {r : List Placed} :
    expect stop c what ts = .ok r ↔ ∃ column, ts = ⟨column, .punct c⟩ :: r := by
  rw [← eat?_eq_some, expect]
  rcases eat? c ts with _ | r' <;> simp

theorem eat?_cons (column : Nat) : eat? c (⟨column, .punct c⟩ :: rest) = some rest :=
  eat?_eq_some.2 ⟨column, rfl⟩

theorem expect_cons {what : Expectation} (column : Nat) :
    expect stop c what (⟨column, .punct c⟩ :: rest) = .ok rest :=
  expect_eq_ok.2 ⟨column, rfl⟩

theorem andThen_eq_ok {x : Result α} {next : α → List Placed → Result β} {b : β}
    (h : andThen x next = .ok (b, rest)) : ∃ a r, x = .ok (a, r) ∧ next a r = .ok (b, rest) := by
  rcases x with e | ⟨a, r⟩
  · cases h
  · exact ⟨a, r, rfl, h⟩

theorem map_eq_ok {x : Except Error (List Placed)} {a b : α}
    (h : (x.map fun ts => (a, ts)) = .ok (b, rest)) : x = .ok rest ∧ a = b := by
  rcases x with e | ts <;> cases h
  exact ⟨rfl, rfl⟩

/-! ## What readers take -/

/-- What a reader returns, if it succeeds, is derived from the lexemes that it takes. -/
def Takes (P : List Lexeme → α → Prop) (ts : List Placed) (x : Result α) : Prop :=
  ∀ a rest, x = .ok (a, rest) → ∃ used, ts = used ++ rest ∧ P (used.map Placed.lexeme) a

theorem takes_bound (ts : List Placed) : Takes IsBound ts (bound stop ts) := by
  intro n rest h
  unfold bound at h
  rcases hm : eat? '-' ts with _ | r <;> simp only [hm] at h
  · split at h
    · next column m r hts =>
      split at h
      · cases h
      · next hle =>
        cases h
        exact ⟨[⟨column, .int m⟩], hts, .plain (Nat.not_lt.1 hle)⟩
    · cases h
  · obtain ⟨column', rfl⟩ := eat?_eq_some.1 hm
    split at h
    · next column m r hts =>
      obtain rfl : _ = _ :: r := hts
      split at h
      · cases h
      · next hle =>
        cases h
        exact ⟨[⟨column', .punct '-'⟩, ⟨column, .int m⟩], rfl, .minus (Nat.not_lt.1 hle)⟩
    · cases h

theorem takes_bounds (ts : List Placed) :
    Takes (fun ls b => IsMethod (.ident "slice" :: .punct '(' :: (ls ++ [.punct ')']))
      fun t => .slice t b.1 b.2) ts (bounds stop ts) := by
  intro b rest h
  obtain ⟨lo, r, hlo, hnext⟩ := andThen_eq_ok h
  obtain ⟨us, rfl, hus⟩ := takes_bound _ _ _ hlo
  split at hnext
  · next r' hcomma =>
    obtain ⟨column, rfl⟩ := eat?_eq_some.1 hcomma
    obtain ⟨hi, r, hhi, hend⟩ := andThen_eq_ok hnext
    obtain ⟨vs, rfl, hvs⟩ := takes_bound _ _ _ hhi
    cases hend
    refine ⟨us ++ ⟨column, .punct ','⟩ :: vs, by simp, ?_⟩
    simpa using IsMethod.slice hus hvs
  · cases hnext
    exact ⟨us, rfl, .sliceFrom hus⟩

theorem takes_arguments (column : Nat) (name : String) (ts : List Placed) :
    Takes (fun ls f => IsMethod (.ident name :: .punct '(' :: (ls ++ [.punct ')'])) f) ts
      (arguments stop column name ts) := by
  intro f rest h
  unfold arguments at h
  split at h
  · next hname =>
    obtain ⟨b, r, hb, hend⟩ := andThen_eq_ok h
    cases hend
    obtain ⟨us, rfl, hus⟩ := takes_bounds _ _ _ hb
    exact ⟨us, rfl, hname ▸ hus⟩
  split at h
  · next hname => cases h; exact ⟨[], rfl, hname ▸ .trim⟩
  split at h
  · next hname => cases h; exact ⟨[], rfl, hname ▸ .upper⟩
  split at h
  · next hname => cases h; exact ⟨[], rfl, hname ▸ .lower⟩
  · cases h

theorem takes_method (ts : List Placed) : Takes IsMethod ts (method stop ts) := by
  intro f rest h
  unfold method at h
  split at h
  · next column name ts =>
    split at h
    · cases h
    · next ts' hopen =>
      obtain ⟨column', rfl⟩ := expect_eq_ok.1 hopen
      obtain ⟨g, r, hg, hend⟩ := andThen_eq_ok h
      obtain ⟨us, rfl, hus⟩ := takes_arguments _ _ _ _ _ hg
      obtain ⟨hclose, rfl⟩ := map_eq_ok hend
      obtain ⟨column'', rfl⟩ := expect_eq_ok.1 hclose
      refine ⟨⟨column, .ident name⟩ :: ⟨column', .punct '('⟩ :: (us ++ [⟨column'', .punct ')'⟩]),
        by simp, ?_⟩
      simpa using hus
  · cases h

theorem takes_methods (fuel : Nat) (t : Term) (ts : List Placed) :
    Takes (fun ls u => ∃ f, IsMethods ls f ∧ u = f t) ts (methods stop fuel t ts) := by
  induction fuel generalizing t ts with
  | zero => intro u rest h; cases h
  | succ fuel ih =>
    intro u rest h
    unfold methods at h
    split at h
    · cases h
      exact ⟨[], rfl, id, .nil, rfl⟩
    · next r hpoint =>
      obtain ⟨column, rfl⟩ := eat?_eq_some.1 hpoint
      obtain ⟨f, r, hf, hnext⟩ := andThen_eq_ok h
      obtain ⟨us, rfl, hus⟩ := takes_method _ _ _ hf
      obtain ⟨vs, rfl, g, hg, rfl⟩ := ih _ _ _ _ hnext
      refine ⟨⟨column, .punct '.'⟩ :: (us ++ vs), by simp, g ∘ f, ?_, rfl⟩
      simpa using IsMethods.cons hus hg

theorem isAtom_name (s : String) : IsAtom [.ident s] (name s) := by
  unfold name
  split
  · next h =>
    rcases h with rfl | rfl
    · exact .text
    · exact .yytext
  · next h =>
    obtain ⟨htext, hyytext⟩ := not_or.1 h
    exact .label htext hyytext

theorem isValue_summands {ls ms : List Lexeme} {t : Term} {us : List Term} (ht : IsTerm ls t)
    (hus : IsSummands ms us) : IsValue (ls ++ ms) (if us.isEmpty then t else .concat (t :: us)) := by
  cases hus with
  | nil => simpa using IsValue.single ht
  | cons hu hus => exact .sum ht (.cons hu hus) (List.cons_ne_nil _ _)

/-- The readers that call each other take what the grammar derives, with some fuel. -/
structure TakesAt (stop fuel : Nat) : Prop where
  atom : ∀ ts, Takes IsAtom ts (atom stop fuel ts)
  term : ∀ ts, Takes IsTerm ts (term stop fuel ts)
  summands : ∀ ts, Takes IsSummands ts (summands stop fuel ts)
  value : ∀ ts, Takes IsValue ts (value stop fuel ts)

theorem takesAt_zero : TakesAt stop 0 := by
  constructor <;> intro ts a rest h <;> cases h

theorem TakesAt.succ (h : TakesAt stop fuel) : TakesAt stop (fuel + 1) := by
  constructor
  case atom =>
    intro ts t rest hr
    unfold Reader.atom at hr
    split at hr
    · next column s ts => cases hr; exact ⟨[⟨column, .str s⟩], rfl, .str s⟩
    · next column s ts => cases hr; exact ⟨[⟨column, .ident s⟩], rfl, isAtom_name s⟩
    · next column ts =>
      obtain ⟨u, r, hu, hend⟩ := andThen_eq_ok hr
      obtain ⟨us, rfl, hus⟩ := h.value _ _ _ hu
      obtain ⟨hclose, rfl⟩ := map_eq_ok hend
      obtain ⟨column', rfl⟩ := expect_eq_ok.1 hclose
      refine ⟨⟨column, .punct '('⟩ :: (us ++ [⟨column', .punct ')'⟩]), by simp, ?_⟩
      simpa using IsAtom.group hus
    · cases hr
  case term =>
    intro ts t rest hr
    obtain ⟨u, r, hu, hnext⟩ := andThen_eq_ok hr
    obtain ⟨us, rfl, hus⟩ := h.atom _ _ _ hu
    obtain ⟨vs, rfl, f, hf, rfl⟩ := takes_methods _ _ _ _ _ hnext
    refine ⟨us ++ vs, by simp, ?_⟩
    simpa using IsTerm.mk hus hf
  case summands =>
    intro ts xs rest hr
    unfold Reader.summands at hr
    split at hr
    · cases hr
      exact ⟨[], rfl, .nil⟩
    · next r hplus =>
      obtain ⟨column, rfl⟩ := eat?_eq_some.1 hplus
      obtain ⟨t, r, ht, hnext⟩ := andThen_eq_ok hr
      obtain ⟨us, rfl, hus⟩ := h.term _ _ _ ht
      obtain ⟨ys, r, hys, hend⟩ := andThen_eq_ok hnext
      obtain ⟨vs, rfl, hvs⟩ := h.summands _ _ _ hys
      cases hend
      refine ⟨⟨column, .punct '+'⟩ :: (us ++ vs), by simp, ?_⟩
      simpa using IsSummands.cons hus hvs
  case value =>
    intro ts t rest hr
    obtain ⟨u, r, hu, hnext⟩ := andThen_eq_ok hr
    obtain ⟨us, rfl, hus⟩ := h.term _ _ _ hu
    obtain ⟨ys, r, hys, hend⟩ := andThen_eq_ok hnext
    obtain ⟨vs, rfl, hvs⟩ := h.summands _ _ _ hys
    cases hend
    refine ⟨us ++ vs, by simp, ?_⟩
    simpa using isValue_summands hus hvs

theorem takesAt (stop fuel : Nat) : TakesAt stop fuel := by
  induction fuel with
  | zero => exact takesAt_zero
  | succ fuel ih => exact ih.succ

theorem takes_fullValue (ts : List Placed) : Takes IsValue ts (fullValue stop ts) :=
  (takesAt stop _).value ts

/-! ## What is derived is read

Lexemes stand at any columns, and anything that does not go on with the same rule may follow. -/

variable {ls : List Lexeme} {ps : List Placed}
variable (stop)

theorem exists_of_map_eq_cons {l : Lexeme} (h : ps.map Placed.lexeme = l :: ls) :
    ∃ column qs, ps = ⟨column, l⟩ :: qs ∧ qs.map Placed.lexeme = ls := by
  obtain ⟨⟨column, l'⟩, qs, rfl, rfl, hqs⟩ := List.map_eq_cons_iff.1 h
  exact ⟨column, qs, rfl, hqs⟩

/-- Lexemes up to a last one. -/
theorem exists_of_map_eq_concat {l : Lexeme} (h : ps.map Placed.lexeme = ls ++ [l]) :
    ∃ qs column, ps = qs ++ [⟨column, l⟩] ∧ qs.map Placed.lexeme = ls := by
  obtain ⟨qs, rs, rfl, hqs, hrs⟩ := List.map_eq_append_iff.1 h
  obtain ⟨column, rs', rfl, hrs'⟩ := exists_of_map_eq_cons hrs
  obtain rfl := List.map_eq_nil_iff.1 hrs'
  exact ⟨qs, column, rfl, hqs⟩

theorem IsBound.read {n : Int} (h : IsBound ls n) (rest : List Placed)
    (hps : ps.map Placed.lexeme = ls) : bound stop (ps ++ rest) = .ok (n, rest) := by
  cases h with
  | plain fits =>
    obtain ⟨column, qs, rfl, hqs⟩ := exists_of_map_eq_cons hps
    obtain rfl := List.map_eq_nil_iff.1 hqs
    exact if_neg (Nat.not_lt.2 fits)
  | minus fits =>
    obtain ⟨column, qs, rfl, hqs⟩ := exists_of_map_eq_cons hps
    obtain ⟨column', qs', rfl, hqs'⟩ := exists_of_map_eq_cons hqs
    obtain rfl := List.map_eq_nil_iff.1 hqs'
    exact if_neg (Nat.not_lt.2 fits)

theorem IsMethod.read {f : Term → Term} (h : IsMethod ls f) (rest : List Placed)
    (hps : ps.map Placed.lexeme = ls) : method stop (ps ++ rest) = .ok (f, rest) := by
  -- every method is a name and an opening bracket, and ends in a closing one
  cases h with
  | sliceFrom lo =>
    obtain ⟨_, _, rfl, hopen⟩ := exists_of_map_eq_cons hps
    obtain ⟨_, _, rfl, hargs⟩ := exists_of_map_eq_cons hopen
    obtain ⟨us, _, rfl, hus⟩ := exists_of_map_eq_concat hargs
    simp [method, arguments, bounds, andThen, expect, eat?, Except.map, IsBound.read stop lo _ hus]
  | slice lo hi =>
    obtain ⟨_, _, rfl, hopen⟩ := exists_of_map_eq_cons hps
    obtain ⟨_, _, rfl, hargs⟩ := exists_of_map_eq_cons hopen
    obtain ⟨us, _, rfl, hus, hcomma⟩ := List.map_eq_append_iff.1 hargs
    obtain ⟨_, _, rfl, hsecond⟩ := exists_of_map_eq_cons hcomma
    obtain ⟨vs, _, rfl, hvs⟩ := exists_of_map_eq_concat hsecond
    simp [method, arguments, bounds, andThen, expect, eat?, Except.map, IsBound.read stop lo _ hus,
      IsBound.read stop hi _ hvs]
  | trim | upper | lower =>
    obtain ⟨_, _, rfl, hopen⟩ := exists_of_map_eq_cons hps
    obtain ⟨_, _, rfl, hclose⟩ := exists_of_map_eq_cons hopen
    obtain ⟨_, _, rfl, hnil⟩ := exists_of_map_eq_cons hclose
    obtain rfl := List.map_eq_nil_iff.1 hnil
    rfl

theorem IsMethods.read {f : Term → Term} (h : IsMethods ls f) (fuel : Nat) (rest : List Placed)
    (hps : ps.map Placed.lexeme = ls) (hfuel : ls.length < fuel) (hpoint : eat? '.' rest = none)
    (t : Term) : methods stop fuel t (ps ++ rest) = .ok (f t, rest) := by
  induction h generalizing ps fuel t with
  | nil =>
    obtain ⟨fuel, rfl⟩ := Nat.exists_eq_add_one_of_ne_zero (Nat.ne_zero_of_lt hfuel)
    obtain rfl := List.map_eq_nil_iff.1 hps
    simp [methods, hpoint]
  | cons method _ ih =>
    obtain ⟨fuel, rfl⟩ := Nat.exists_eq_add_one_of_ne_zero (Nat.ne_zero_of_lt hfuel)
    obtain ⟨column, _, rfl, htail⟩ := exists_of_map_eq_cons hps
    obtain ⟨us, vs, rfl, hus, hvs⟩ := List.map_eq_append_iff.1 htail
    simp only [List.length_cons, List.length_append] at hfuel
    have hmethod := IsMethod.read stop method (vs ++ rest) hus
    have hmore := ih fuel hvs (by omega)
    rw [List.cons_append, List.append_assoc, methods, eat?_cons]
    simp only [hmethod, andThen, hmore, Function.comp]

mutual

theorem IsAtom.read {ls : List Lexeme} {t : Term} (h : IsAtom ls t) (fuel : Nat) {ps : List Placed}
    (rest : List Placed) (hps : ps.map Placed.lexeme = ls) (hfuel : 4 * ls.length ≤ fuel + 3) :
    atom stop fuel (ps ++ rest) = .ok (t, rest) := by
  have hpos := h.length_pos
  obtain ⟨fuel, rfl⟩ := Nat.exists_eq_add_one_of_ne_zero (show fuel ≠ 0 by omega)
  cases h with
  | group value =>
    obtain ⟨column, _, rfl, htail⟩ := exists_of_map_eq_cons hps
    obtain ⟨us, column', rfl, hus⟩ := exists_of_map_eq_concat htail
    simp only [List.length_cons, List.length_append, List.length_nil] at hfuel
    have hvalue := IsValue.read value fuel (⟨column', .punct ')'⟩ :: rest) hus (by omega)
      rfl rfl
    rw [List.cons_append, List.append_assoc, List.singleton_append, atom]
    simp only [hvalue, andThen, expect_cons, Except.map]
  | str | text | yytext =>
    obtain ⟨column, qs, rfl, hqs⟩ := exists_of_map_eq_cons hps
    obtain rfl := List.map_eq_nil_iff.1 hqs
    rfl
  | label htext hyytext =>
    obtain ⟨column, qs, rfl, hqs⟩ := exists_of_map_eq_cons hps
    obtain rfl := List.map_eq_nil_iff.1 hqs
    simp [atom, name, htext, hyytext]

theorem IsTerm.read {ls : List Lexeme} {t : Term} (h : IsTerm ls t) (fuel : Nat) {ps : List Placed}
    (rest : List Placed) (hps : ps.map Placed.lexeme = ls) (hfuel : 4 * ls.length ≤ fuel + 2)
    (hpoint : eat? '.' rest = none) : term stop fuel (ps ++ rest) = .ok (t, rest) := by
  have hpos := h.length_pos
  obtain ⟨fuel, rfl⟩ := Nat.exists_eq_add_one_of_ne_zero (show fuel ≠ 0 by omega)
  cases h with
  | mk atom methods =>
    obtain ⟨us, vs, rfl, hus, hvs⟩ := List.map_eq_append_iff.1 hps
    have hlength := atom.length_pos
    rw [List.length_append] at hfuel
    have hatom := IsAtom.read atom fuel (vs ++ rest) hus (by omega)
    have hmethods := IsMethods.read stop methods fuel rest hvs (by omega) hpoint
    rw [List.append_assoc, term, hatom, andThen, hmethods]

theorem IsSummands.read {ls : List Lexeme} {us : List Term} (h : IsSummands ls us) (fuel : Nat)
    {ps : List Placed} (rest : List Placed) (hps : ps.map Placed.lexeme = ls)
    (hfuel : 4 * ls.length < fuel) (hpoint : eat? '.' rest = none) (hplus : eat? '+' rest = none) :
    summands stop fuel (ps ++ rest) = .ok (us, rest) ∧ eat? '.' (ps ++ rest) = none := by
  obtain ⟨fuel, rfl⟩ := Nat.exists_eq_add_one_of_ne_zero (Nat.ne_zero_of_lt hfuel)
  cases h with
  | nil =>
    obtain rfl := List.map_eq_nil_iff.1 hps
    simp [summands, hplus, hpoint]
  | cons term more =>
    obtain ⟨column, _, rfl, htail⟩ := exists_of_map_eq_cons hps
    obtain ⟨us, vs, rfl, hus, hvs⟩ := List.map_eq_append_iff.1 htail
    simp only [List.length_cons, List.length_append] at hfuel
    obtain ⟨hmore, hnext⟩ := IsSummands.read more fuel rest hvs (by omega) hpoint hplus
    have hterm := IsTerm.read term fuel (vs ++ rest) hus (by omega) hnext
    refine ⟨?_, rfl⟩
    rw [List.cons_append, List.append_assoc, summands, eat?_cons]
    simp only [hterm, andThen, hmore]

theorem IsValue.read {ls : List Lexeme} {t : Term} (h : IsValue ls t) (fuel : Nat) {ps : List Placed}
    (rest : List Placed) (hps : ps.map Placed.lexeme = ls) (hfuel : 4 * ls.length ≤ fuel + 1)
    (hpoint : eat? '.' rest = none) (hplus : eat? '+' rest = none) :
    value stop fuel (ps ++ rest) = .ok (t, rest) := by
  cases h with
  | single term =>
    have hpos := term.length_pos
    obtain ⟨fuel, rfl⟩ := Nat.exists_eq_add_one_of_ne_zero (show fuel ≠ 0 by omega)
    have hterm := IsTerm.read term fuel rest hps (by omega) hpoint
    obtain ⟨fuel, rfl⟩ := Nat.exists_eq_add_one_of_ne_zero (show fuel ≠ 0 by omega)
    rw [value, hterm]
    simp [andThen, summands, hplus]
  | sum term more hne =>
    have hpos := term.length_pos
    obtain ⟨us, vs, rfl, hus, hvs⟩ := List.map_eq_append_iff.1 hps
    rw [List.length_append] at hfuel
    obtain ⟨fuel, rfl⟩ := Nat.exists_eq_add_one_of_ne_zero (show fuel ≠ 0 by omega)
    obtain ⟨hmore, hnext⟩ := IsSummands.read more fuel rest hvs (by omega) hpoint hplus
    have hterm := IsTerm.read term fuel (vs ++ rest) hus (by omega) hnext
    rw [List.append_assoc, value, hterm]
    simp only [andThen, hmore, List.isEmpty_iff, hne, if_false]

end

theorem IsValue.fullRead {ls : List Lexeme} {t : Term} (h : IsValue ls t) {ps : List Placed}
    (hps : ps.map Placed.lexeme = ls) (rest : List Placed) (hpoint : eat? '.' rest = none)
    (hplus : eat? '+' rest = none) :
    fullValue stop (ps ++ rest) = .ok (t, rest) := by
  refine IsValue.read stop h _ rest hps ?_ hpoint hplus
  have hlength := congrArg List.length hps
  rw [List.length_map] at hlength
  rw [List.length_append]
  omega

/-! ## Bodies -/

/-- What may follow a result: nothing, a semicolon or a closing brace. -/
inductive IsEnd : List Placed → Prop
  | nil : IsEnd []
  | semicolon (column : Nat) (ts : List Placed) : IsEnd (⟨column, .punct ';'⟩ :: ts)
  | brace (column : Nat) (ts : List Placed) : IsEnd (⟨column, .punct '}'⟩ :: ts)

theorem head?_ne_word {word : String} {used : List Placed} (h : eatWord? word (used ++ rest) = none) :
    (used.map Placed.lexeme).head? ≠ some (.ident word) := by
  rcases used with _ | ⟨⟨column, l⟩, us⟩
  · exact fun hl => by cases hl
  · intro hl
    obtain rfl : l = .ident word := Option.some.inj hl
    cases h.symm.trans (eatWord?_eq_some.2 ⟨column, rfl⟩)

theorem eatWord?_of_head? {word : String} (hps : ps.map Placed.lexeme = ls)
    (hne : ls.head? ≠ some (.ident word)) (hrest : IsEnd rest) : eatWord? word (ps ++ rest) = none := by
  rcases ps with _ | ⟨⟨column, l⟩, qs⟩
  · cases hrest <;> rfl
  · rcases hword : eatWord? word (⟨column, l⟩ :: qs ++ rest) with _ | r
    · rfl
    · obtain ⟨column', hr⟩ := eatWord?_eq_some.1 hword
      cases hr
      exact absurd (by rw [← hps]; rfl) hne

theorem result_of_startsValue {column : Nat} {l : Lexeme} (hl : startsValue l = true)
    (hnull : eatWord? "null" (⟨column, l⟩ :: ts) = none)
    (hundefined : eatWord? "undefined" (⟨column, l⟩ :: ts) = none) :
    result stop (⟨column, l⟩ :: ts) =
      andThen (fullValue stop (⟨column, l⟩ :: ts)) fun t ts => .ok (.type t, ts) := by
  rw [result, hnull, hundefined]
  -- none of the other cases applies
  · exact List.cons_ne_nil _ _
  all_goals
    rintro _ _ ⟨⟩
    cases hl

theorem takes_pair (ts : List Placed) :
    Takes (fun ls b => IsResult (.punct '[' :: ls) b) ts (pair stop ts) := by
  intro b rest h
  obtain ⟨v, r, hv, hnext⟩ := andThen_eq_ok h
  obtain ⟨us, rfl, hus⟩ := takes_fullValue _ _ _ hv
  split at hnext
  · cases hnext
  · next r' hcomma =>
    obtain ⟨column, rfl⟩ := expect_eq_ok.1 hcomma
    obtain ⟨k, r, hk, hend⟩ := andThen_eq_ok hnext
    obtain ⟨vs, rfl, hvs⟩ := takes_fullValue _ _ _ hk
    obtain ⟨hclose, rfl⟩ := map_eq_ok hend
    obtain ⟨column', rfl⟩ := expect_eq_ok.1 hclose
    refine ⟨us ++ ⟨column, .punct ','⟩ :: (vs ++ [⟨column', .punct ']'⟩]), by simp, ?_⟩
    simpa using IsResult.pair hus hvs

theorem takes_result (ts : List Placed) : Takes IsResult ts (result stop ts) := by
  intro b rest h
  unfold result at h
  split at h
  · next r hnull =>
    obtain ⟨column, rfl⟩ := eatWord?_eq_some.1 hnull
    cases h
    exact ⟨[⟨column, .ident "null"⟩], rfl, .null⟩
  · next r _ hundefined =>
    obtain ⟨column, rfl⟩ := eatWord?_eq_some.1 hundefined
    cases h
    exact ⟨[⟨column, .ident "undefined"⟩], rfl, .undefined⟩
  · next hnull hundefined =>
    split at h
    · cases h; exact ⟨[], rfl, .missing⟩
    · cases h; exact ⟨[], rfl, .missing⟩
    · cases h; exact ⟨[], rfl, .missing⟩
    · next column r =>
      obtain ⟨us, rfl, hus⟩ := takes_pair _ _ _ _ h
      exact ⟨⟨column, .punct '['⟩ :: us, rfl, hus⟩
    · obtain ⟨t, r, ht, hend⟩ := andThen_eq_ok h
      obtain ⟨us, rfl, hus⟩ := takes_fullValue _ _ _ ht
      cases hend
      exact ⟨us, rfl, .type hus (head?_ne_word hnull) (head?_ne_word hundefined)⟩

theorem IsResult.read {b : Body} (h : IsResult ls b) (hps : ps.map Placed.lexeme = ls)
    (hrest : IsEnd rest) : result stop (ps ++ rest) = .ok (b, rest) := by
  have hpoint : eat? '.' rest = none := by cases hrest <;> rfl
  have hplus : eat? '+' rest = none := by cases hrest <;> rfl
  cases h with
  | missing =>
    obtain rfl := List.map_eq_nil_iff.1 hps
    cases hrest <;> rfl
  | null | undefined =>
    obtain ⟨column, _, rfl, hnil⟩ := exists_of_map_eq_cons hps
    obtain rfl := List.map_eq_nil_iff.1 hnil
    rfl
  | pair v k =>
    obtain ⟨_, _, rfl, htail⟩ := exists_of_map_eq_cons hps
    obtain ⟨us, _, rfl, hus, hcomma⟩ := List.map_eq_append_iff.1 htail
    obtain ⟨column, _, rfl, hkind⟩ := exists_of_map_eq_cons hcomma
    obtain ⟨vs, column', rfl, hvs⟩ := exists_of_map_eq_concat hkind
    have hv := IsValue.fullRead stop v hus
      (⟨column, .punct ','⟩ :: (vs ++ (⟨column', .punct ']'⟩ :: rest))) rfl rfl
    have hk := IsValue.fullRead stop k hvs (⟨column', .punct ']'⟩ :: rest) rfl rfl
    simp [result, eatWord?, pair, andThen, expect, eat?, Except.map, hv, hk]
  | type value hnull hundefined =>
    have hn := eatWord?_of_head? hps hnull hrest
    have hu := eatWord?_of_head? hps hundefined hrest
    have hv := IsValue.fullRead stop value hps rest hpoint hplus
    obtain ⟨l, ls, rfl, hl⟩ := value.exists_cons
    obtain ⟨column, qs, rfl, -⟩ := exists_of_map_eq_cons hps
    rw [List.cons_append] at hn hu hv ⊢
    rw [result_of_startsValue stop hl hn hu, hv, andThen]

theorem exists_semicolon (ts : List Placed) :
    ∃ used, ts = used ++ (eat? ';' ts).getD ts ∧ IsSemicolon (used.map Placed.lexeme) := by
  rcases h : eat? ';' ts with _ | r
  · exact ⟨[], rfl, .absent⟩
  · obtain ⟨column, rfl⟩ := eat?_eq_some.1 h
    exact ⟨[⟨column, .punct ';'⟩], rfl, .present⟩

theorem IsSemicolon.read (h : IsSemicolon ls) (hps : ps.map Placed.lexeme = ls) (rest : List Placed)
    (hrest : eat? ';' rest = none) : (eat? ';' (ps ++ rest)).getD (ps ++ rest) = rest := by
  cases h with
  | absent =>
    obtain rfl := List.map_eq_nil_iff.1 hps
    rw [List.nil_append, hrest, Option.getD_none]
  | present =>
    obtain ⟨column, _, rfl, hnil⟩ := exists_of_map_eq_cons hps
    obtain rfl := List.map_eq_nil_iff.1 hnil
    rfl

theorem takes_inner (ts : List Placed) : Takes IsInner ts (inner stop ts) := by
  intro b rest h
  obtain ⟨b', r, hresult, hend⟩ := andThen_eq_ok h
  obtain ⟨us, hts, hus⟩ := takes_result _ _ _ _ hresult
  obtain ⟨vs, hr, hvs⟩ := exists_semicolon r
  cases hend
  rw [hr] at hts
  rcases hreturn : eatWord? "return" ts with _ | r'
  · rw [hreturn, Option.getD_none] at hts
    rw [hts] at hreturn
    refine ⟨us ++ vs, by rw [hts, List.append_assoc], ?_⟩
    rw [List.map_append]
    exact .plain (head?_ne_word hreturn) hus hvs
  · obtain ⟨column, rfl⟩ := eatWord?_eq_some.1 hreturn
    rw [hreturn, Option.getD_some] at hts
    refine ⟨⟨column, .ident "return"⟩ :: (us ++ vs), by rw [hts]; simp, ?_⟩
    rw [List.map_cons, List.map_append]
    exact .returned hus hvs

theorem IsInner.read {b : Body} (h : IsInner ls b) (hps : ps.map Placed.lexeme = ls)
    (hrest : IsEnd rest) (hsemicolon : eat? ';' rest = none) :
    inner stop (ps ++ rest) = .ok (b, rest) := by
  have hend {us : List Placed} {ms : List Lexeme} (hms : IsSemicolon ms)
      (hus : us.map Placed.lexeme = ms) : IsEnd (us ++ rest) := by
    cases hms with
    | absent =>
      obtain rfl := List.map_eq_nil_iff.1 hus
      exact hrest
    | present =>
      obtain ⟨column, _, rfl, -⟩ := exists_of_map_eq_cons hus
      exact .semicolon _ _
  cases h with
  | plain hne result semicolon =>
    obtain ⟨us, vs, rfl, hus, hvs⟩ := List.map_eq_append_iff.1 hps
    have hreturn := eatWord?_of_head? hus hne (hend semicolon hvs)
    have hresult := IsResult.read stop result hus (hend semicolon hvs)
    rw [List.append_assoc, inner, hreturn, Option.getD_none, hresult, andThen,
      IsSemicolon.read semicolon hvs rest hsemicolon]
  | returned result semicolon =>
    obtain ⟨column, _, rfl, htail⟩ := exists_of_map_eq_cons hps
    obtain ⟨us, vs, rfl, hus, hvs⟩ := List.map_eq_append_iff.1 htail
    have hreturn : eatWord? "return" (⟨column, .ident "return"⟩ :: (us ++ (vs ++ rest))) =
        some (us ++ (vs ++ rest)) := eatWord?_eq_some.2 ⟨column, rfl⟩
    have hresult := IsResult.read stop result hus (hend semicolon hvs)
    rw [List.cons_append, List.append_assoc, inner, hreturn, Option.getD_some, hresult, andThen,
      IsSemicolon.read semicolon hvs rest hsemicolon]

theorem close_eq_ok {b b' : Body} : close stop b ts = .ok b' ↔ ts = [] ∧ b = b' := by
  rcases ts with _ | ⟨t, ts⟩ <;> simp [close]

theorem isBody_of_body {b : Body} (h : body stop ts = .ok b) : IsBody (ts.map Placed.lexeme) b := by
  unfold body at h
  split at h
  · split at h
    · next b' r hinner =>
      obtain ⟨rfl, rfl⟩ := (close_eq_ok stop).1 h
      obtain ⟨us, rfl, hus⟩ := takes_inner _ _ _ _ hinner
      rw [List.append_nil]
      exact .plain hus
    · cases h
  · next r hopen =>
    obtain ⟨column, rfl⟩ := eat?_eq_some.1 hopen
    split at h
    · cases h
    · next b' r' hinner =>
      obtain ⟨us, rfl, hus⟩ := takes_inner _ _ _ _ hinner
      split at h
      · cases h
      · next r'' hclose =>
        obtain ⟨column', rfl⟩ := expect_eq_ok.1 hclose
        obtain ⟨vs, hvs, hsemicolon⟩ := exists_semicolon r''
        obtain ⟨hnil, rfl⟩ := (close_eq_ok stop).1 h
        rw [hnil, List.append_nil] at hvs
        rw [hvs]
        simpa using IsBody.braced hus hsemicolon

theorem body_of_isBody {b : Body} (h : IsBody ls b) (hps : ps.map Placed.lexeme = ls) :
    body stop ps = .ok b := by
  cases h with
  | plain inner =>
    have hopen : eat? '{' ps = none := by
      rcases h : eat? '{' ps with _ | r
      · rfl
      · obtain ⟨column, rfl⟩ := eat?_eq_some.1 h
        exact absurd (by rw [← hps]; rfl) inner.head?_ne_brace
    have hinner := IsInner.read stop inner hps .nil rfl
    rw [List.append_nil] at hinner
    rw [body, hopen]
    simp only [hinner, close]
  | braced inner semicolon =>
    obtain ⟨column, _, rfl, htail⟩ := exists_of_map_eq_cons hps
    obtain ⟨us, _, rfl, hus, hbrace⟩ := List.map_eq_append_iff.1 htail
    obtain ⟨column', vs, rfl, hvs⟩ := exists_of_map_eq_cons hbrace
    have hinner := IsInner.read stop inner hus (.brace column' vs) rfl
    have hsemicolon := IsSemicolon.read semicolon hvs [] rfl
    rw [List.append_nil] at hsemicolon
    rw [body, eat?_cons]
    simp only [hinner, expect_cons, hsemicolon, close]

/-- The reader of bodies accepts what the grammar derives a body from, and returns that body. -/
theorem body_eq_ok_iff {b : Body} : body stop ts = .ok b ↔ IsBody (ts.map Placed.lexeme) b :=
  ⟨isBody_of_body stop, fun h => body_of_isBody stop h rfl⟩

end Reader

/-- **The grammar of handler bodies.**  A text stands for a body if and only if it is cut into
    lexemes that the grammar derives this body from. -/
theorem parse_eq_ok_iff (text : String) (b : Body) :
    Body.parse text = .ok b ↔
      ∃ ts, scan 1 text.toList = .ok ts ∧ IsBody (ts.map Placed.lexeme) b := by
  rw [Body.parse]
  rcases scan 1 text.toList with e | ts
  · simp
  · simp [Reader.body_eq_ok_iff]

end OrderedLexer.Expr
