/-
  The tokenizer.

  A tokenizer runs a spec over one input.  `Tokenizer.next` makes one step: the first rule whose
  pattern matches at the position wins, whatever later rules match, and its handler makes a token of
  the matched text.  A failed step ends the run: the position stays, and every later step gives the
  same error until the tokenizer is bound to an input again (`init`) or restarted (`reset`).

  * `all` gives all tokens that are left, and gives them again when asked again;
  * `Tokens` is a sequence of the tokens that are left: it ends behind the first error.

  A step that fails answers its error even if that cannot be made, so that every run can be followed to
  its end.  The call that makes such a step panics: it returns neither the answer nor a tokenizer
  (`Tokenizer.returned?`, `next?`, `all?`).
-/
import OrderedLexer.LexError
import OrderedLexer.Spec

namespace OrderedLexer

/-! ## Matching -/

/-- The first rule that matches at the start of a text: its index, its handler, the matched text
    and the text behind it.  The first of the rules has the given index. -/
def firstMatch? (index : Nat) : List Rule → List Char →
    Option (Nat × Handler × List Char × List Char)
  | [], _ => none
  | r :: rs, text =>
    match r.regex.split? text with
    | some (matched, rest) => some (index, r.handler, matched, rest)
    | none => firstMatch? (index + 1) rs text

theorem firstMatch?_append {index i : Nat} {rules : List Rule} {text matched rest : List Char}
    {h : Handler} (hm : firstMatch? index rules text = some (i, h, matched, rest)) :
    matched ++ rest = text := by
  induction rules generalizing index with
  | nil => simp [firstMatch?] at hm
  | cons r rs ih =>
    unfold firstMatch? at hm
    split at hm
    · next hs =>
      cases hm
      unfold Regex.split? at hs
      obtain ⟨n, -, he⟩ := Option.map_eq_some_iff.1 hs
      cases he
      exact List.take_append_drop ..
    · exact ih hm

/-! ## Tokenizers -/

/-- A tokenizer. -/
structure Tokenizer where
  spec : Spec
  options : Options
  input : String := ""
  /-- The position of the next token. -/
  position : Position := .start
  /-- The input from the position on. -/
  rest : List Char := []
  /-- Whether the end of the input was reported. -/
  finished : Bool := false
  /-- The error that ended the run. -/
  failed : Option LexError := none
  /-- The tokens that `all` gave. -/
  drained : Option (List Token) := none

namespace Tokenizer

/-- A tokenizer over a spec, with the options of the spec. -/
def ofSpec (spec : Spec) : Tokenizer := { spec, options := spec.options }

/-- A tokenizer over a draft. -/
def ofDraft (d : Draft) : Except InvalidPattern Tokenizer := (Spec.normalize d).map ofSpec

/-- Goes back to the start of the input. -/
def reset (t : Tokenizer) : Tokenizer :=
  { spec := t.spec, options := t.options, input := t.input, rest := t.input.toList }

/-- Merges options into those of the tokenizer. -/
def setOptions (t : Tokenizer) (o : Options) : Tokenizer :=
  { t with options := t.options.merge o }

/-- Binds the tokenizer to an input, with further options. -/
def init (t : Tokenizer) (input : String) (o : Option Options) : Tokenizer :=
  let t := match o with
    | some o => t.setOptions o
    | none => t
  reset { t with input }

/-- Whether the end of the input is not reached. -/
def hasMore (t : Tokenizer) : Bool := !t.rest.isEmpty

/-- Ends the run with an error at the position. -/
def fail (t : Tokenizer) (cause : LexCause) : Except LexError (Option Token) × Tokenizer :=
  let e := LexError.at_ t.input t.position cause
  (.error e, { t with failed := some e })

/-- The token that becomes of a matched text at the position. -/
def tokenOf (t : Tokenizer) (emit : Emit) (matched : List Char) : Token where
  kind := emit.kind
  value := emit.value (String.ofList matched)
  loc := if t.options.captures then some (t.position.span (t.position.advance matched)) else none

/-- Moves behind a matched text and makes a token of it. -/
def accept (t : Tokenizer) (emit : Emit) (matched rest : List Char) :
    Except LexError (Option Token) × Tokenizer :=
  (.ok (some (t.tokenOf emit matched)), { t with position := t.position.advance matched, rest })

/-- The next token, or none at the end of the input. -/
def next (t : Tokenizer) : Except LexError (Option Token) × Tokenizer :=
  match t.failed with
  | some e => (.error e, t)
  | none =>
    if t.finished then (.ok none, t)
    else match t.rest with
      | [] => (.ok none, { t with finished := true })
      | c :: _ =>
        match firstMatch? 0 t.spec.rules t.rest with
        | none => t.fail (.unexpectedToken c.toString none)
        | some (index, handler, matched, rest) =>
          if matched.isEmpty then t.fail (.emptyMatch index)
          else match handler.run (String.ofList matched) with
            | none => t.fail (.unexpectedToken (String.ofList matched) (some index))
            | some emit => t.accept emit matched rest

/-- What a step of a tokenizer can do: answer and tokenizer behind it. -/
inductive Step (t : Tokenizer) : Except LexError (Option Token) × Tokenizer → Prop
  /-- The run has failed before. -/
  | again {e : LexError} (failed : t.failed = some e) : Step t (.error e, t)
  /-- Nothing is left. -/
  | stop (failed : t.failed = none) (ended : t.finished = true ∨ t.rest = []) :
      Step t (.ok none, { t with finished := true })
  /-- No rule makes a token of what is left. -/
  | fail (failed : t.failed = none) (finished : t.finished = false) (rest : t.rest ≠ [])
      (cause : LexCause) :
      Step t (.error (.at_ t.input t.position cause),
        { t with failed := some (.at_ t.input t.position cause) })
  /-- The first rule that matches makes a token of the matched text. -/
  | accept {index : Nat} {handler : Handler} {matched rest : List Char} {emit : Emit}
      (failed : t.failed = none) (finished : t.finished = false)
      (first : firstMatch? 0 t.spec.rules t.rest = some (index, handler, matched, rest))
      (nonempty : matched ≠ []) (emits : handler.run (String.ofList matched) = some emit) :
      Step t (.ok (some (t.tokenOf emit matched)),
        { t with position := t.position.advance matched, rest })

theorem step_next (t : Tokenizer) : Step t t.next := by
  unfold next
  split
  · next e hf => exact .again hf
  next hf =>
  split
  · next hfin =>
    have hs := Step.stop hf (.inl hfin)
    rwa [← hfin] at hs
  next hfin =>
  have hfin : t.finished = false := by simpa using hfin
  split
  · next hr => exact .stop hf (.inr hr)
  next c cs hr =>
  have hrest : t.rest ≠ [] := by simp [hr]
  split
  · exact .fail hf hfin hrest _
  next index handler matched rest hm =>
  split
  · exact .fail hf hfin hrest _
  next hne =>
  split
  · exact .fail hf hfin hrest _
  next emit he => exact .accept hf hfin hm (by simpa using hne) he

theorem step_of_next {t t' : Tokenizer} {r : Except LexError (Option Token)}
    (h : t.next = (r, t')) : Step t (r, t') := h ▸ step_next t

theorem length_rest_of_next {t t' : Tokenizer} {token : Token}
    (h : t.next = (.ok (some token), t')) : t'.rest.length < t.rest.length := by
  cases step_of_next h with
  | accept _ _ first nonempty _ =>
    have hpos := List.length_pos_iff.2 nonempty
    have happ := congrArg List.length (firstMatch?_append first)
    simp only [List.length_append] at happ ⊢
    omega

/-- The tokens up to the end of the input. -/
def drain (t : Tokenizer) : Except LexError (List Token) × Tokenizer :=
  match h : t.next with
  | (.error e, t') => (.error e, t')
  | (.ok none, t') => (.ok [], t')
  | (.ok (some token), t') =>
    have := length_rest_of_next h
    let (r, t') := drain t'
    (r.map (token :: ·), t')
termination_by t.rest.length

/-- All tokens that are left; the same ones again if they were given already. -/
def all (t : Tokenizer) : Except LexError (List Token) × Tokenizer :=
  match t.drained with
  | some tokens => (.ok tokens, t)
  | none =>
    match t.drain with
    | (.ok tokens, t) => (.ok tokens, { t with drained := some tokens })
    | (.error e, t) => (.error e, t)

/-! ## Calls -/

/-- Whether the tokenizer has panicked: the error that ended its run cannot be made. -/
def panicked (t : Tokenizer) : Bool := t.failed.any LexError.panics

/-- What the caller gets of a call that leaves a tokenizer; none if the call panics. -/
def returned? {α : Type} (r : α × Tokenizer) : Option (α × Tokenizer) :=
  if r.2.panicked then none else some r

/-- The next token as it is returned. -/
def next? (t : Tokenizer) : Option (Except LexError (Option Token) × Tokenizer) := returned? t.next

/-- All tokens as they are returned. -/
def all? (t : Tokenizer) : Option (Except LexError (List Token) × Tokenizer) := returned? t.all

end Tokenizer

/-! ## Sequences of tokens -/

/-- The tokens that a tokenizer has left, to be taken one by one. -/
structure Tokens where
  tokenizer : Tokenizer
  /-- Whether the sequence has ended. -/
  done : Bool := false

namespace Tokens

/-- The next token or error; nothing behind the first error and behind the end. -/
def next (s : Tokens) : Option (Except LexError Token) × Tokens :=
  if s.done then (none, s)
  else match s.tokenizer.next with
    | (.ok (some token), t) => (some (.ok token), ⟨t, false⟩)
    | (.ok none, t) => (none, ⟨t, true⟩)
    | (.error e, t) => (some (.error e), ⟨t, true⟩)

/-- Takes up to a number of tokens and errors.  The flag says whether the end was met. -/
def take : Nat → Tokens → List (Except LexError Token) × Bool × Tokens
  | 0, s => ([], false, s)
  | n + 1, s =>
    match s.next with
    | (none, s) => ([], true, s)
    | (some item, s) =>
      let (items, ended, s) := take n s
      (item :: items, ended, s)

/-- Takes all tokens, up to an error or the end. -/
def takeAll (s : Tokens) : List (Except LexError Token) × Bool × Tokens :=
  s.take (s.tokenizer.rest.length + 2)

end Tokens

end OrderedLexer
