/-
  Written programs, and a test for the start of the text in front of them.

  The steps of a written program lead to steps of the same program (`Program.closed_ofNode`).  In such
  a program the rounds that `followAll` allows are enough: more of them change nothing (`follow_add`),
  since each round takes an address off the list, and puts two others there only where it marks a
  step that was not marked at this place (`unmarked_set`).

  A test for the start of the text in front of a pattern is one more step behind the code of its
  program (`behindStart`).  No other step leads there, so a search passes it once, and then goes on
  as it does without it (`matchLength?_behindStart`).
-/
import OrderedLexer.Pattern.Search

namespace OrderedLexer.Pattern

/-! ## Addresses -/

/-- A step leads to addresses below a bound. -/
def Step.Below (bound : Nat) : Step → Prop
  | .accept => True
  | .one _ next => next < bound
  | .look _ next => next < bound
  | .fork first second => first < bound ∧ second < bound

theorem Step.Below.mono {s : Step} {m n : Nat} (hs : s.Below m) (h : m ≤ n) : s.Below n := by
  cases s with
  | accept => trivial
  | one set next => exact Nat.lt_of_lt_of_le hs h
  | look l next => exact Nat.lt_of_lt_of_le hs h
  | fork first second => exact ⟨Nat.lt_of_lt_of_le hs.1 h, Nat.lt_of_lt_of_le hs.2 h⟩

theorem Step.below_round {greedy : Bool} {body out bound : Nat} (hbody : body < bound)
    (hout : out < bound) : (Step.round greedy body out).Below bound := by
  cases greedy with
  | true => exact ⟨hbody, hout⟩
  | false => exact ⟨hout, hbody⟩

/-- The steps of a code lead to steps of it. -/
def Code.Closed (code : Code) : Prop := ∀ s ∈ code, s.Below code.size

theorem Code.Closed.push {code : Code} {s : Step} (hc : Closed code) (hs : s.Below (code.size + 1)) :
    Closed (code.push s) := by
  intro s' hs'
  rw [Array.size_push]
  rcases Array.mem_push.1 hs' with h | rfl
  · exact (hc s' h).mono (Nat.le_succ _)
  · exact hs

theorem Code.Closed.set {code : Code} {s : Step} (hc : Closed code) (hs : s.Below code.size)
    (n : Nat) : Closed (code.set! n s) := by
  intro s' hs'
  rw [Array.set!_eq_setIfInBounds] at hs' ⊢
  rw [Array.size_setIfInBounds]
  rcases Array.mem_or_eq_of_mem_setIfInBounds hs' with h | rfl
  · exact hc s' h
  · exact hs

/-! ## Writers -/

/-- An entry and a code that came of writing behind a code. -/
structure Adds (code : Code) (out : Nat × Code) : Prop where
  entry : out.1 < out.2.size
  size : code.size ≤ out.2.size
  closed : Code.Closed out.2

theorem Adds.trans {code : Code} {out out' : Nat × Code} (h : Adds code out)
    (h' : Adds out.2 out') : Adds code out' :=
  ⟨h'.entry, Nat.le_trans h.size h'.size, h'.closed⟩

/-- A writer keeps a code closed, and gives an address of it. -/
def Writer.Sound (w : Writer) : Prop :=
  ∀ next code, next < code.size → Code.Closed code → Adds code (w next code)

namespace Writer

variable {w : Writer} {next out : Nat} {code : Code}

theorem adds_step {s : Step} (hc : Code.Closed code) (hs : s.Below (code.size + 1)) :
    Adds code (step s code) := by
  refine ⟨?_, ?_, hc.push hs⟩
  · simp [step]
  · simp [step]

theorem Sound.times (hw : w.Sound) (n : Nat) : (times w n).Sound := by
  induction n with
  | zero =>
    intro next code hnext hc
    exact ⟨hnext, Nat.le_refl _, hc⟩
  | succ n ih =>
    intro next code hnext hc
    have hfirst := hw next code hnext hc
    exact hfirst.trans (ih _ _ hfirst.entry hfirst.closed)

theorem Sound.optional (hw : w.Sound) (greedy : Bool) (n : Nat) (hout : out < code.size)
    (hnext : next < code.size) (hc : Code.Closed code) :
    Adds code (optional w greedy out n next code) := by
  induction n generalizing next code with
  | zero => exact ⟨hnext, Nat.le_refl _, hc⟩
  | succ n ih =>
    have hbody := hw next code hnext hc
    have hround : (Step.round greedy (w next code).1 out).Below ((w next code).2.size + 1) :=
      Step.below_round (Nat.lt_succ_of_lt hbody.entry)
        (Nat.lt_succ_of_lt (Nat.lt_of_lt_of_le hout hbody.size))
    have hstep := hbody.trans (adds_step hbody.closed hround)
    exact hstep.trans (ih (Nat.lt_of_lt_of_le hout hstep.size) hstep.entry hstep.closed)

theorem Sound.loop (hw : w.Sound) (greedy : Bool) (hnext : next < code.size)
    (hc : Code.Closed code) :
    Adds code ((loop w greedy next code).1, (loop w greedy next code).2.2) ∧
      (loop w greedy next code).2.1 < (loop w greedy next code).2.2.size := by
  have hback : code.size < (code.push .accept).size := by simp
  have hbody := hw code.size (code.push .accept) hback (hc.push trivial)
  have hsize : code.size < (w code.size (code.push .accept)).2.size :=
    Nat.lt_of_lt_of_le hback hbody.size
  have hround : (Step.round greedy (w code.size (code.push .accept)).1 next).Below
      (w code.size (code.push .accept)).2.size :=
    Step.below_round hbody.entry (Nat.lt_trans hnext hsize)
  have hset : ((w code.size (code.push .accept)).2.set! code.size
      (.round greedy (w code.size (code.push .accept)).1 next)).size =
      (w code.size (code.push .accept)).2.size := by
    rw [Array.set!_eq_setIfInBounds, Array.size_setIfInBounds]
  refine ⟨⟨?_, ?_, hbody.closed.set hround _⟩, ?_⟩
  · exact hset.symm ▸ hbody.entry
  · exact hset.symm ▸ Nat.le_of_lt hsize
  · exact hset.symm ▸ hsize

end Writer

theorem Node.sound_write (x : Node) : x.write.Sound := by
  induction x with
  | empty =>
    intro next code hnext hc
    exact ⟨hnext, Nat.le_refl _, hc⟩
  | one s =>
    intro next code hnext hc
    exact Writer.adds_step hc (Nat.lt_succ_of_lt hnext)
  | look l =>
    intro next code hnext hc
    exact Writer.adds_step hc (Nat.lt_succ_of_lt hnext)
  | group x ih => exact ih
  | cat a b iha ihb =>
    intro next code hnext hc
    have hb := ihb next code hnext hc
    exact hb.trans (iha _ _ hb.entry hb.closed)
  | alt a b iha ihb =>
    intro next code hnext hc
    have ha := iha next code hnext hc
    have hb := ihb next _ (Nat.lt_of_lt_of_le hnext ha.size) ha.closed
    have hfork : (Step.fork (a.write next code).1 (b.write next (a.write next code).2).1).Below
        ((b.write next (a.write next code).2).2.size + 1) :=
      ⟨Nat.lt_succ_of_lt (Nat.lt_of_lt_of_le ha.entry hb.size), Nat.lt_succ_of_lt hb.entry⟩
    exact (ha.trans hb).trans (Writer.adds_step hb.closed hfork)
  | rep min max greedy x ih =>
    intro next code hnext hc
    rcases max with _ | max
    · have hloop := ih.loop greedy hnext hc
      rcases min with _ | n
      · -- the entry is the step in front of the loop, or that at which the loop closes
        rw [Node.write]
        dsimp only
        split
        · refine hloop.1.trans (Writer.adds_step hloop.1.closed ?_)
          exact Step.below_round (Nat.lt_succ_of_lt hloop.1.entry)
            (Nat.lt_succ_of_lt (Nat.lt_of_lt_of_le hnext hloop.1.size))
        · exact ⟨hloop.2, hloop.1.size, hloop.1.closed⟩
      · exact hloop.1.trans (ih.times n _ _ hloop.1.entry hloop.1.closed)
    · have hopt := ih.optional greedy (max - min) hnext hnext hc
      exact hopt.trans (ih.times min _ _ hopt.entry hopt.closed)

/-! ## Closed programs -/

namespace Program

/-- A program starts at one of its steps, and its steps lead to steps of it. -/
structure Closed (p : Program) : Prop where
  start : p.start < p.code.size
  steps : Code.Closed p.code

theorem closed_ofNode (x : Node) : (ofNode x).Closed := by
  have hcode : Code.Closed #[.accept] := by
    intro s hs
    rw [List.mem_singleton.1 (Array.mem_def.1 hs)]
    trivial
  have h := x.sound_write 0 #[.accept] Nat.one_pos hcode
  exact ⟨h.entry, h.closed⟩

theorem Closed.at_below {p : Program} (hp : p.Closed) (n : Nat) : (p.at_ n).Below p.code.size := by
  rw [at_, Array.getD_eq_getD_getElem?]
  rcases h : p.code[n]? with _ | s
  · trivial
  · exact hp.steps s (Array.mem_of_getElem? h)

/-! ## Rounds -/

variable {p : Program} {prev next : Option Char} {place fuel n : Nat} {todo threads : List Nat}
  {marks : Array Nat}

/-- What is left to follow, and the threads found, behind the step at an address; nothing if the
    step accepts. -/
def expand (p : Program) (prev next : Option Char) (n : Nat) (todo threads : List Nat) :
    Option (List Nat × List Nat) :=
  match p.at_ n with
  | .accept => none
  | .one s m => some (todo, if next.any s.contains then m :: threads else threads)
  | .look l m => some (if l.holds prev next then m :: todo else todo, threads)
  | .fork first second => some (first :: second :: todo, threads)

theorem follow_nil (p : Program) (prev next : Option Char) (place fuel : Nat) (marks : Array Nat)
    (threads : List Nat) : p.follow prev next place fuel [] marks threads = ⟨marks, threads, false⟩ := by
  cases fuel <;> rfl

/-- One round: a step that is marked is passed over, and another one is marked and expanded. -/
theorem follow_cons (p : Program) (prev next : Option Char) (place fuel n : Nat)
    (todo threads : List Nat) (marks : Array Nat) :
    p.follow prev next place (fuel + 1) (n :: todo) marks threads =
      if marks.getD n 0 = place then p.follow prev next place fuel todo marks threads
      else match p.expand prev next n todo threads with
        | none => ⟨marks.set! n place, threads, true⟩
        | some (todo, threads) => p.follow prev next place fuel todo (marks.set! n place) threads := by
  rw [follow]
  simp only [beq_iff_eq, expand]
  cases p.at_ n <;> rfl

/-- Marks, addresses and threads keep to the steps of a program. -/
structure Within (p : Program) (marks : Array Nat) (todo threads : List Nat) : Prop where
  marks : marks.size = p.code.size
  todo : ∀ m ∈ todo, m < p.code.size
  threads : ∀ m ∈ threads, m < p.code.size

theorem Within.tail (h : p.Within marks (n :: todo) threads) : p.Within marks todo threads :=
  ⟨h.marks, (List.forall_mem_cons.1 h.todo).2, h.threads⟩

theorem Within.head_lt (h : p.Within marks (n :: todo) threads) : n < marks.size :=
  h.marks.symm ▸ (List.forall_mem_cons.1 h.todo).1

theorem Within.set (h : p.Within marks todo threads) (n place : Nat) :
    p.Within (marks.set! n place) todo threads := by
  refine ⟨?_, h.todo, h.threads⟩
  rw [Array.set!_eq_setIfInBounds, Array.size_setIfInBounds, h.marks]

/-- A closed program expands a step to addresses of its own, two of them at most. -/
theorem Within.expand (hp : p.Closed) (h : p.Within marks todo threads) {todo' threads' : List Nat}
    (hexpand : p.expand prev next n todo threads = some (todo', threads')) :
    p.Within marks todo' threads' ∧ todo'.length ≤ todo.length + 2 := by
  have hbelow := hp.at_below n
  unfold Program.expand at hexpand
  split at hexpand
  · cases hexpand
  · next s m hstep =>
    rw [hstep] at hbelow
    cases hexpand
    refine ⟨⟨h.marks, h.todo, ?_⟩, Nat.le_add_right _ _⟩
    split
    · exact List.forall_mem_cons.2 ⟨hbelow, h.threads⟩
    · exact h.threads
  · next l m hstep =>
    rw [hstep] at hbelow
    cases hexpand
    split
    · exact ⟨⟨h.marks, List.forall_mem_cons.2 ⟨hbelow, h.todo⟩, h.threads⟩, by simp⟩
    · exact ⟨h, Nat.le_add_right _ _⟩
  · next first second hstep =>
    rw [hstep] at hbelow
    cases hexpand
    have htodo : ∀ m ∈ first :: second :: todo, m < p.code.size :=
      List.forall_mem_cons.2 ⟨hbelow.1, List.forall_mem_cons.2 ⟨hbelow.2, h.todo⟩⟩
    exact ⟨⟨h.marks, htodo, h.threads⟩, Nat.le_refl _⟩

/-- What is reached keeps to the program, too. -/
theorem Within.follow (hp : p.Closed) (h : p.Within marks todo threads) (prev next : Option Char)
    (place fuel : Nat) :
    p.Within (p.follow prev next place fuel todo marks threads).marks []
      (p.follow prev next place fuel todo marks threads).threads := by
  induction fuel generalizing todo marks threads with
  | zero => exact ⟨h.marks, by simp, h.threads⟩
  | succ fuel ih =>
    rcases todo with _ | ⟨n, todo⟩
    · exact ⟨h.marks, by simp, h.threads⟩
    · rw [follow_cons]
      split
      · exact ih h.tail
      · split
        · exact ⟨(h.set n place).marks, by simp, h.threads⟩
        · next todo' threads' hexpand => exact ih ((h.tail.set n place).expand hp hexpand).1

/-! ## Rounds that are enough -/

/-- The number of steps that are not marked with a place. -/
def unmarked (place : Nat) (marks : Array Nat) : Nat := marks.countP (· != place)

theorem unmarked_set (hn : n < marks.size) (hplace : marks.getD n 0 ≠ place) :
    unmarked place (marks.set! n place) + 1 = unmarked place marks := by
  have hget : marks.getD n 0 = marks[n] := by simp [Array.getD, hn]
  have hne : (marks[n] != place) = true := by rwa [bne_iff_ne, ← hget]
  have hpos : 0 < marks.countP (· != place) :=
    Array.countP_pos_iff.2 ⟨marks[n], Array.getElem_mem hn, hne⟩
  rw [unmarked, unmarked, Array.set!_eq_setIfInBounds, Array.setIfInBounds, dif_pos hn,
    Array.countP_set]
  simp only [hne, if_true, bne_self_eq_false, Bool.false_eq_true, if_false, Nat.add_zero]
  omega

/-- More rounds change nothing if there are as many as addresses to follow and twice as many as steps
    to mark. -/
theorem Within.follow_add (hp : p.Closed) (h : p.Within marks todo threads)
    (hfuel : todo.length + 2 * unmarked place marks ≤ fuel) (more : Nat) :
    p.follow prev next place (fuel + more) todo marks threads =
      p.follow prev next place fuel todo marks threads := by
  induction fuel generalizing todo marks threads with
  | zero =>
    obtain rfl : todo = [] := List.eq_nil_of_length_eq_zero (by omega)
    rw [follow_nil, follow_nil]
  | succ fuel ih =>
    rcases todo with _ | ⟨n, todo⟩
    · rw [follow_nil, follow_nil]
    · rw [List.length_cons] at hfuel
      rw [Nat.add_right_comm, follow_cons, follow_cons]
      split
      · exact ih h.tail (by omega)
      · next hplace =>
        have hcount := unmarked_set h.head_lt hplace
        split
        · rfl
        · next todo' threads' hexpand =>
          obtain ⟨hwithin, hlength⟩ := (h.tail.set n place).expand hp hexpand
          exact ih hwithin (by omega)

theorem Within.followAll_add (hp : p.Closed) (h : p.Within marks todo []) (more : Nat) :
    p.follow prev next place (todo.length + 2 * p.code.size + more) todo marks [] =
      p.followAll prev next place todo marks := by
  have hcount : unmarked place marks ≤ p.code.size := h.marks ▸ Array.countP_le_size
  exact h.follow_add hp (by omega) more

/-! ## A test for the start of the text -/

/-- A program behind a test for the start of the text. -/
def behindStart (p : Program) : Program := ⟨p.code.push (.look .start p.start), p.code.size⟩

theorem at_behindStart (hn : n < p.code.size) : p.behindStart.at_ n = p.at_ n := by
  simp only [at_, behindStart, Array.getD_eq_getD_getElem?, Array.getElem?_push, Nat.ne_of_lt hn, if_false]

theorem expand_behindStart (hn : n < p.code.size) :
    p.behindStart.expand prev next n todo threads = p.expand prev next n todo threads := by
  rw [expand, expand, at_behindStart hn]

end Program

/-- What was reached, with a mark for one more step. -/
def Front.push (f : Front) (mark : Nat) : Front := { f with marks := f.marks.push mark }

namespace Program

variable {p : Program} {prev next : Option Char} {place fuel n : Nat} {todo threads : List Nat}
  {marks : Array Nat}

/-- Behind the test, the program does what it does without it. -/
theorem Within.follow_behindStart (hp : p.Closed) (h : p.Within marks todo threads) (mark : Nat) :
    p.behindStart.follow prev next place fuel todo (marks.push mark) threads =
      (p.follow prev next place fuel todo marks threads).push mark := by
  induction fuel generalizing todo marks threads with
  | zero => rfl
  | succ fuel ih =>
    rcases todo with _ | ⟨n, todo⟩
    · rfl
    · have hn := h.head_lt
      have hget : (marks.push mark).getD n 0 = marks.getD n 0 := by
        simp [Array.getD_eq_getD_getElem?, Array.getElem?_push, Nat.ne_of_lt hn]
      have hset : (marks.push mark).set! n place = (marks.set! n place).push mark := by
        simp only [Array.set!_eq_setIfInBounds, Array.setIfInBounds, hn, dif_pos, Array.size_push,
          Nat.lt_succ_of_lt hn, Array.set_push]
      rw [follow_cons, follow_cons, hget, hset, expand_behindStart (h.marks ▸ hn)]
      by_cases hplace : marks.getD n 0 = place
      · rw [if_pos hplace, if_pos hplace, ih h.tail]
      · rw [if_neg hplace, if_neg hplace]
        rcases hexpand : p.expand prev next n todo threads with _ | ⟨todo', threads'⟩
        · rfl
        · exact ih ((h.tail.set n place).expand hp hexpand).1

theorem Within.followAll_behindStart (hp : p.Closed) (h : p.Within marks todo []) (mark : Nat) :
    p.behindStart.followAll prev next place todo (marks.push mark) =
      (p.followAll prev next place todo marks).push mark := by
  have hsize : p.behindStart.code.size = p.code.size + 1 := Array.size_push _
  rw [followAll, hsize, h.follow_behindStart hp, Nat.mul_add, ← Nat.add_assoc, h.followAll_add hp]

/-- A run that reaches the same at its first place goes on in the same way. -/
theorem Within.run_behindStart (hp : p.Closed) (h : p.Within marks todo []) {todo' : List Nat}
    {marks' : Array Nat} {taken : Nat} (mark : Nat) (best : Option Nat) (text : List Char)
    (hfront : ∀ next, p.behindStart.followAll prev next (taken + 1) todo' marks' =
      (p.followAll prev next (taken + 1) todo marks).push mark) :
    p.behindStart.run todo' marks' prev taken best text = p.run todo marks prev taken best text := by
  induction text generalizing todo marks todo' marks' prev taken best with
  | nil =>
    rw [run, run, hfront]
    rfl
  | cons c text ih =>
    have hreached : p.Within (p.followAll prev (some c) (taken + 1) todo marks).marks []
        (p.followAll prev (some c) (taken + 1) todo marks).threads := h.follow hp ..
    rw [run, run, hfront]
    rcases hf : p.followAll prev (some c) (taken + 1) todo marks with ⟨marks₁, threads, accepted⟩
    rw [hf] at hreached
    have hwithin : p.Within marks₁ threads.reverse [] :=
      ⟨hreached.marks, by simpa using hreached.threads, by simp⟩
    have hrest : ∀ best, p.behindStart.run threads.reverse (marks₁.push mark) (some c) (taken + 1)
        best text = p.run threads.reverse marks₁ (some c) (taken + 1) best text :=
      fun best => ih hwithin best fun next => hwithin.followAll_behindStart hp mark
    simp only [Front.push, hrest]
    rfl

/-- The first place: the test holds there, and the program behind it is entered. -/
theorem Closed.followAll_start (hp : p.Closed) (next : Option Char) :
    p.behindStart.followAll none next 1 [p.code.size] (Array.replicate (p.code.size + 1) 0) =
      (p.followAll none next 1 [p.start] (Array.replicate p.code.size 0)).push 1 := by
  have hwithin : p.Within (Array.replicate p.code.size 0) [p.start] [] :=
    ⟨Array.size_replicate, by simpa using hp.start, by simp⟩
  have hstep : p.behindStart.expand none next p.code.size [] [] = some ([p.start], []) := by
    simp [expand, at_, behindStart, Look.holds]
  have hmarks : (Array.replicate (p.code.size + 1) 0).set! p.code.size 1 =
      (Array.replicate p.code.size 0).push 1 := by
    simp [Array.replicate_succ, Array.setIfInBounds, Array.set_push]
  have hfuel : [p.code.size].length + 2 * p.behindStart.code.size =
      [p.start].length + 2 * p.code.size + 1 + 1 := by
    simp only [behindStart, Array.size_push, List.length_singleton]
    omega
  have hmark : ¬(Array.replicate (p.code.size + 1) 0).getD p.code.size 0 = 1 := by simp
  rw [followAll, hfuel, follow_cons, if_neg hmark, hstep]
  simp only [hmarks]
  rw [hwithin.follow_behindStart hp, hwithin.followAll_add hp]

/-- **A test for the start of the text changes no match at the start of a text.** -/
theorem Closed.matchLength?_behindStart (hp : p.Closed) (text : List Char) :
    p.behindStart.matchLength? text = p.matchLength? text := by
  have hwithin : p.Within (Array.replicate p.code.size 0) [p.start] [] :=
    ⟨Array.size_replicate, by simpa using hp.start, by simp⟩
  refine hwithin.run_behindStart hp 1 none text fun next => ?_
  have hsize : p.behindStart.code.size = p.code.size + 1 := Array.size_push _
  rw [hsize]
  exact hp.followAll_start next

end Program

end OrderedLexer.Pattern
