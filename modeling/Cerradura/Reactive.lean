import Mathlib.Logic.Basic

/-!
# Reactive programs and their weakest preconditions

A reactive program owns a state, reads its inputs one at a time and leaves a
trace of what it did. The list of inputs is finite, so a run stops either
because the program has finished or because it asked for an input that is not
there yet. A statement about every list of inputs is therefore a statement
about every finite prefix of every execution, also of executions that never
leave a loop.

* `Prog`: programs, a monad.
* `Prog.iter`: a `while` loop. Each round has to read something, so the number
  of inputs left bounds the number of rounds (`Prog.wp_iter_total`).
* `Prog.zoom`: a program over a part of the state. What it cannot name, it
  cannot change.
* `Prog.wp`: what holds after the run, with a second condition for the runs
  that stop inside.
-/

namespace Reactive

/-- What a program works on: its state, the inputs it has not read yet, and the
events so far, newest first. -/
structure Config (σ ι ε : Type) where
  st : σ
  inputs : List ι
  trace : List ε
deriving DecidableEq

/-- A program. The result is `none` when the inputs end inside it. -/
def Prog (σ ι ε α : Type) : Type := Config σ ι ε → Option α × Config σ ι ε

namespace Prog

variable {σ τ ι ε δ α β γ : Type}

/-! ## The operations -/

instance : Monad (Prog σ ι ε) where
  pure a := fun c => (some a, c)
  bind m f := fun c =>
    match m c with
    | (some a, c') => f a c'
    | (none, c') => (none, c')

/-- Read the next input. -/
def read : Prog σ ι ε ι := fun c =>
  match c.inputs with
  | [] => (none, c)
  | i :: rest => (some i, { c with inputs := rest })

/-- Record an event. -/
def emit (e : ε) : Prog σ ι ε Unit := fun c => (some (), { c with trace := e :: c.trace })

def get : Prog σ ι ε σ := fun c => (some c.st, c)

def modify (f : σ → σ) : Prog σ ι ε Unit := fun c => (some (), { c with st := f c.st })

/-- At most `n` rounds of a loop. A round answers `inl` to go on and `inr` to
leave. -/
def loop (body : γ → Prog σ ι ε (γ ⊕ β)) : Nat → γ → Prog σ ι ε β
  | 0, _ => fun c => (none, c)
  | n + 1, x => do
      match ← body x with
      | .inl y => loop body n y
      | .inr b => pure b

/-- A loop whose rounds read at least one input each. -/
def iter (body : γ → Prog σ ι ε (γ ⊕ β)) (x : γ) : Prog σ ι ε β := fun c =>
  loop body (c.inputs.length + 1) x c

/-- Run a program over the part `get` of the state, renaming its events. -/
def zoom (get : σ → τ) (put : τ → σ → σ) (ev : δ → ε) (m : Prog τ ι δ α) : Prog σ ι ε α := fun c =>
  match m ⟨get c.st, c.inputs, []⟩ with
  | (r, c') => (r, ⟨put c'.st c.st, c'.inputs, c'.trace.map ev ++ c.trace⟩)

theorem bind_bind (m : Prog σ ι ε α) (f : α → Prog σ ι ε β) (g : β → Prog σ ι ε γ) :
    ((m >>= f) >>= g) = (m >>= fun a => f a >>= g) := by
  funext c
  simp only [bind]
  cases m c with
  | mk r c' => cases r <;> rfl

theorem bind_unit (m : Prog σ ι ε Unit) : (m >>= fun _ => pure ()) = m := by
  funext c
  simp only [bind]
  cases m c with
  | mk r c' => cases r <;> rfl

/-- A program whose first part returns. -/
theorem bind_eq_of {m : Prog σ ι ε α} {f : α → Prog σ ι ε β} {c c' : Config σ ι ε} {a : α}
    (h : m c = (some a, c')) : (m >>= f) c = f a c' := by
  show (match m c with
    | (some a, c') => f a c'
    | (none, c') => (none, c')) = _
  rw [h]

/-- A run that returns has got past its first part. -/
theorem exists_of_bind {m : Prog σ ι ε α} {f : α → Prog σ ι ε β} {c c' : Config σ ι ε} {b : β}
    (h : (m >>= f) c = (some b, c')) : ∃ a c1, m c = (some a, c1) ∧ f a c1 = (some b, c') := by
  simp only [bind] at h
  cases hm : m c with
  | mk r c1 =>
    rw [hm] at h
    cases r with
    | none => cases h
    | some a => exact ⟨a, c1, rfl, h⟩

/-! ## Weakest preconditions -/

/-- `m.wp halt post c`: started in `c`, the program `m` ends in `post` or stops
for lack of inputs in `halt`. -/
def wp (m : Prog σ ι ε α) (halt : Config σ ι ε → Prop) (post : α → Config σ ι ε → Prop)
    (c : Config σ ι ε) : Prop :=
  match m c with
  | (some a, c') => post a c'
  | (none, c') => halt c'

section Rules

variable {halt : Config σ ι ε → Prop}

@[simp] theorem wp_pure {post : α → Config σ ι ε → Prop} {a : α} {c : Config σ ι ε} :
    (pure a : Prog σ ι ε α).wp halt post c ↔ post a c := Iff.rfl

@[simp] theorem wp_bind {post : β → Config σ ι ε → Prop} {m : Prog σ ι ε α}
    {f : α → Prog σ ι ε β} {c : Config σ ι ε} :
    (m >>= f).wp halt post c ↔ m.wp halt (fun a => (f a).wp halt post) c := by
  simp only [wp, bind]
  cases m c with
  | mk r c' => cases r <;> rfl

@[simp] theorem wp_map {post : β → Config σ ι ε → Prop} {m : Prog σ ι ε α}
    {f : α → β} {c : Config σ ι ε} :
    (f <$> m).wp halt post c ↔ m.wp halt (fun a => post (f a)) c := by
  show (m >>= fun a => pure (f a)).wp halt post c ↔ _
  rw [wp_bind]
  exact Iff.rfl

@[simp] theorem wp_emit {post : Unit → Config σ ι ε → Prop} {e : ε} {c : Config σ ι ε} :
    (emit e).wp halt post c ↔ post () { c with trace := e :: c.trace } := Iff.rfl

@[simp] theorem wp_get {post : σ → Config σ ι ε → Prop} {c : Config σ ι ε} :
    get.wp halt post c ↔ post c.st c := Iff.rfl

@[simp] theorem wp_modify {post : Unit → Config σ ι ε → Prop} {f : σ → σ} {c : Config σ ι ε} :
    (modify f).wp halt post c ↔ post () { c with st := f c.st } := Iff.rfl

theorem wp_ite {post : α → Config σ ι ε → Prop} {p : Prop} [Decidable p] {m m' : Prog σ ι ε α}
    {c : Config σ ι ε} (hpos : p → m.wp halt post c) (hneg : ¬ p → m'.wp halt post c) :
    (if p then m else m').wp halt post c := by
  split
  · next h => exact hpos h
  · next h => exact hneg h

theorem wp_read {post : ι → Config σ ι ε → Prop} {c : Config σ ι ε}
    (hhalt : c.inputs = [] → halt c)
    (hpost : ∀ i rest, c.inputs = i :: rest → post i { c with inputs := rest }) :
    read.wp halt post c := by
  unfold wp read
  cases hi : c.inputs with
  | nil => exact hhalt hi
  | cons i rest => exact hpost i rest hi

/-- The next input is there. -/
theorem wp_read_cons {post : ι → Config σ ι ε → Prop} {c : Config σ ι ε} {i : ι} {rest : List ι}
    (h : c.inputs = i :: rest) (hpost : post i { c with inputs := rest }) :
    read.wp halt post c := by
  refine wp_read (fun hnil => absurd (h.symm.trans hnil) (List.cons_ne_nil i rest))
    fun j rest' hj => ?_
  obtain ⟨rfl, rfl⟩ := List.cons.inj (h.symm.trans hj)
  exact hpost

theorem wp_mono {halt' : Config σ ι ε → Prop} {post post' : α → Config σ ι ε → Prop}
    {m : Prog σ ι ε α} {c : Config σ ι ε} (h : m.wp halt post c)
    (hhalt : ∀ c', halt c' → halt' c') (hpost : ∀ a c', post a c' → post' a c') :
    m.wp halt' post' c := by
  unfold wp at h ⊢
  cases hm : m c with
  | mk r c' =>
    rw [hm] at h
    cases r with
    | none => exact hhalt c' h
    | some a => exact hpost a c' h

theorem wp_and {post post' : α → Config σ ι ε → Prop} {m : Prog σ ι ε α} {c : Config σ ι ε}
    (h : m.wp halt post c) (h' : m.wp (fun _ => True) post' c) :
    m.wp halt (fun a c' => post a c' ∧ post' a c') c := by
  unfold wp at h h' ⊢
  cases hm : m c with
  | mk r c' =>
    rw [hm] at h h'
    cases r with
    | none => exact h
    | some a => exact ⟨h, h'⟩

/-- The rule for loops: an invariant kept by every round. -/
theorem wp_iter {body : γ → Prog σ ι ε (γ ⊕ β)} {post : β → Config σ ι ε → Prop}
    (Inv : γ → Config σ ι ε → Prop)
    (hhalt : ∀ x c, Inv x c → halt c)
    (hbody : ∀ x c, Inv x c →
      (body x).wp halt (fun r c' => match r with | .inl y => Inv y c' | .inr b => post b c') c)
    {x : γ} {c : Config σ ι ε} (hx : Inv x c) : (iter body x).wp halt post c := by
  have hloop : ∀ n x c, Inv x c → (loop body n x).wp halt post c := by
    intro n
    induction n with
    | zero => exact hhalt
    | succ n ih =>
      intro x c hx
      simp only [loop, wp_bind]
      refine wp_mono (hbody x c hx) (fun _ h => h) fun r c' hr => ?_
      cases r with
      | inl y => exact ih y c' hr
      | inr b => exact hr
  exact hloop _ x c hx

/-- The same for a condition on the stop that the invariant alone does not
give. Every round that goes on reads an input, so the bound on the rounds never
ends the loop; with `halt` false the loop ends by itself. -/
theorem wp_iter_total {body : γ → Prog σ ι ε (γ ⊕ β)} {post : β → Config σ ι ε → Prop}
    (Inv : γ → Config σ ι ε → Prop)
    (hbody : ∀ x c, Inv x c → (body x).wp halt (fun r c' => match r with
      | .inl y => Inv y c' ∧ c'.inputs.length < c.inputs.length
      | .inr b => post b c') c)
    {x : γ} {c : Config σ ι ε} (hx : Inv x c) : (iter body x).wp halt post c := by
  have hloop : ∀ n x c, Inv x c → c.inputs.length < n → (loop body n x).wp halt post c := by
    intro n
    induction n with
    | zero => intro x c _ hlen; omega
    | succ n ih =>
      intro x c hx hlen
      simp only [loop, wp_bind]
      refine wp_mono (hbody x c hx) (fun _ h => h) fun r c' hr => ?_
      cases r with
      | inl y => exact ih y c' hr.1 (by omega)
      | inr b => exact hr
  exact hloop _ x c hx (Nat.lt_succ_self _)

/-- A program over a part of the state: whatever it does, the rest stays. -/
theorem wp_zoom {get : σ → τ} {put : τ → σ → σ} {ev : δ → ε} {m : Prog τ ι δ α}
    {post : α → Config σ ι ε → Prop} {halt' : Config τ ι δ → Prop}
    {post' : α → Config τ ι δ → Prop} {c : Config σ ι ε}
    (h : m.wp halt' post' ⟨get c.st, c.inputs, []⟩)
    (hhalt : ∀ c', halt' c' → halt ⟨put c'.st c.st, c'.inputs, c'.trace.map ev ++ c.trace⟩)
    (hpost : ∀ a c', post' a c' →
      post a ⟨put c'.st c.st, c'.inputs, c'.trace.map ev ++ c.trace⟩) :
    (zoom get put ev m).wp halt post c := by
  unfold wp at h ⊢
  unfold zoom
  cases hm : m ⟨get c.st, c.inputs, []⟩ with
  | mk r c' =>
    rw [hm] at h
    cases r with
    | none => exact hhalt c' h
    | some a => exact hpost a c' h

/-- The condition on the end may name the run. -/
theorem wp_returned {post : α → Config σ ι ε → Prop} {m : Prog σ ι ε α} {c : Config σ ι ε}
    (h : m.wp halt post c) : m.wp halt (fun a c' => m c = (some a, c') ∧ post a c') c := by
  unfold wp at h ⊢
  cases hm : m c with
  | mk r c' =>
    rw [hm] at h
    cases r with
    | none => exact h
    | some a => exact ⟨rfl, h⟩

/-- What a completed run of `m` ends in. -/
theorem wp_elim {post : α → Config σ ι ε → Prop} {m : Prog σ ι ε α} {c c' : Config σ ι ε} {a : α}
    (h : m.wp halt post c) (hm : m c = (some a, c')) : post a c' := by
  unfold wp at h
  rw [hm] at h
  exact h

/-- What holds wherever the run ends. -/
theorem wp_final {P : Config σ ι ε → Prop} {m : Prog σ ι ε α} {c : Config σ ι ε}
    (h : m.wp P (fun _ => P) c) : P (m c).2 := by
  unfold wp at h
  cases hm : m c with
  | mk r c' =>
    rw [hm] at h
    cases r with
    | none => exact h
    | some a => exact h

/-- A program that cannot stop for lack of inputs returns. -/
theorem wp_returns {post : α → Config σ ι ε → Prop} {m : Prog σ ι ε α} {c : Config σ ι ε}
    (h : m.wp (fun _ => False) post c) : ∃ a c', m c = (some a, c') ∧ post a c' := by
  unfold wp at h
  cases hm : m c with
  | mk r c' =>
    rw [hm] at h
    cases r with
    | none => exact h.elim
    | some a => exact ⟨a, c', rfl, h⟩

theorem wp_true {m : Prog σ ι ε α} {c : Config σ ι ε} :
    m.wp (fun _ => True) (fun _ _ => True) c := by
  unfold wp
  split <;> trivial

/-- What follows does not need the first part. -/
theorem wp_bind_of_forall {post : β → Config σ ι ε → Prop} {m : Prog σ ι ε α}
    {f : α → Prog σ ι ε β} {c : Config σ ι ε} (h : ∀ a c', (f a).wp (fun _ => True) post c') :
    (m >>= f).wp (fun _ => True) post c := by
  rw [wp_bind]
  exact wp_mono wp_true (fun _ h => h) fun a c' _ => h a c'

end Rules

/-! ## What every run keeps -/

/-- Every run of the program, finished or stopped inside, relates its beginning
to its end. -/
def Keeps (R : Config σ ι ε → Config σ ι ε → Prop) (m : Prog σ ι ε α) : Prop := ∀ c, R c (m c).2

/-- Runs can be put one after the other. -/
structure Composable (R : Config σ ι ε → Config σ ι ε → Prop) : Prop where
  refl : ∀ c, R c c
  trans : ∀ {c c' c''}, R c c' → R c' c'' → R c c''

namespace Keeps

variable {R : Config σ ι ε → Config σ ι ε → Prop}

theorem pure (hR : Composable R) (a : α) : Keeps R (pure a : Prog σ ι ε α) := fun c => hR.refl c

theorem bind (hR : Composable R) {m : Prog σ ι ε α} {f : α → Prog σ ι ε β} (hm : Keeps R m)
    (hf : ∀ a, Keeps R (f a)) : Keeps R (m >>= f) := by
  intro c
  have h := hm c
  show R c (match m c with
    | (some a, c') => f a c'
    | (none, c') => (none, c')).2
  cases hr : m c with
  | mk r c' =>
    rw [hr] at h
    cases r with
    | none => exact h
    | some a => exact hR.trans h (hf a c')

theorem ite {p : Prop} [Decidable p] {m m' : Prog σ ι ε α} (hm : p → Keeps R m)
    (hm' : ¬ p → Keeps R m') : Keeps R (if p then m else m') := by
  split
  · next h => exact hm h
  · next h => exact hm' h

theorem iter (hR : Composable R) {body : γ → Prog σ ι ε (γ ⊕ β)} (hbody : ∀ x, Keeps R (body x))
    (x : γ) : Keeps R (iter body x) := by
  have hloop : ∀ n x, Keeps R (loop body n x) := by
    intro n
    induction n with
    | zero => exact fun x c => hR.refl c
    | succ n ih =>
      intro x
      refine bind hR (hbody x) fun r => ?_
      cases r with
      | inl y => exact ih y
      | inr b => exact pure hR b
  exact fun c => hloop _ x c

theorem read (h : ∀ c i rest, c.inputs = i :: rest → R c { c with inputs := rest })
    (hR : Composable R) : Keeps R (read : Prog σ ι ε ι) := by
  intro c
  unfold Prog.read
  cases hi : c.inputs with
  | nil => exact hR.refl c
  | cons i rest => exact h c i rest hi

theorem mono {R' : Config σ ι ε → Config σ ι ε → Prop} (h : ∀ {c c'}, R c c' → R' c c')
    {m : Prog σ ι ε α} (hm : Keeps R m) : Keeps R' m := fun c => h (hm c)

theorem emit {e : ε} (h : ∀ c : Config σ ι ε, R c { c with trace := e :: c.trace }) :
    Keeps R (emit e) := h

theorem modify {f : σ → σ} (h : ∀ c : Config σ ι ε, R c { c with st := f c.st }) :
    Keeps R (modify f) := h

theorem get (hR : Composable R) : Keeps R (get : Prog σ ι ε σ) := hR.refl

/-- A program over a part of the state, whatever it does there. -/
theorem zoom {get : σ → τ} {put : τ → σ → σ} {ev : δ → ε} {m : Prog τ ι δ α}
    (h : ∀ (c : Config σ ι ε) (t : τ) (inputs : List ι) (trace : List δ),
      R c ⟨put t c.st, inputs, trace.map ev ++ c.trace⟩) : Keeps R (zoom get put ev m) :=
  fun c => h c _ _ _

/-- The same for what the program keeps there. -/
theorem zoom_of {S : Config τ ι δ → Config τ ι δ → Prop} {get : σ → τ} {put : τ → σ → σ}
    {ev : δ → ε} {m : Prog τ ι δ α} (hm : Keeps S m)
    (h : ∀ (c : Config σ ι ε) (c' : Config τ ι δ), S ⟨get c.st, c.inputs, []⟩ c' →
      R c ⟨put c'.st c.st, c'.inputs, c'.trace.map ev ++ c.trace⟩) :
    Keeps R (Prog.zoom get put ev m) :=
  fun c => h c _ (hm _)

/-- Runs that go on from the state that they read. -/
theorem get_bind {f : σ → Prog σ ι ε α} (h : ∀ c : Config σ ι ε, R c (f c.st c).2) :
    Keeps R (Prog.get >>= f) := h

/-- The same in the form of a weakest precondition. -/
theorem wp {m : Prog σ ι ε α} (hm : Keeps R m) {c : Config σ ι ε}
    {halt : Config σ ι ε → Prop} {post : α → Config σ ι ε → Prop} (hhalt : ∀ c', R c c' → halt c')
    (hpost : ∀ a c', R c c' → post a c') : m.wp halt post c := by
  have h := hm c
  unfold Prog.wp
  cases hr : m c with
  | mk r c' =>
    rw [hr] at h
    cases r with
    | none => exact hhalt c' h
    | some a => exact hpost a c' h

end Keeps

/-! ## What a run that returns sets up again -/

/-- From `Inv` every run ends in `Inv` or stops inside in `Halt`. -/
def Restores (Inv Halt : Config σ ι ε → Prop) (m : Prog σ ι ε α) : Prop :=
  ∀ c, Inv c → m.wp Halt (fun _ => Inv) c

namespace Restores

variable {Inv Halt : Config σ ι ε → Prop}

theorem pure (a : α) : Restores Inv Halt (pure a : Prog σ ι ε α) := fun _ h => h

theorem get : Restores Inv Halt (get : Prog σ ι ε σ) := fun _ h => h

theorem bind {m : Prog σ ι ε α} {f : α → Prog σ ι ε β} (hm : Restores Inv Halt m)
    (hf : ∀ a, Restores Inv Halt (f a)) : Restores Inv Halt (m >>= f) := by
  intro c hc
  rw [wp_bind]
  exact wp_mono (hm c hc) (fun _ h => h) hf

theorem ite {p : Prop} [Decidable p] {m m' : Prog σ ι ε α} (hm : p → Restores Inv Halt m)
    (hm' : ¬ p → Restores Inv Halt m') : Restores Inv Halt (if p then m else m') :=
  fun c hc => wp_ite (fun h => hm h c hc) fun h => hm' h c hc

theorem iter (hInv : ∀ c, Inv c → Halt c) {body : γ → Prog σ ι ε (γ ⊕ β)}
    (hbody : ∀ x, Restores Inv Halt (body x)) (x : γ) : Restores Inv Halt (iter body x) := by
  intro c hc
  refine wp_iter (fun _ => Inv) (fun _ => hInv) (fun x c h => ?_) hc
  refine wp_mono (hbody x c h) (fun _ h => h) fun r c' h => ?_
  cases r with
  | inl y => exact h
  | inr b => exact h

/-- A program that keeps `Inv` also where it stops. -/
theorem of_keeps {R : Config σ ι ε → Config σ ι ε → Prop} {m : Prog σ ι ε α} (hm : Keeps R m)
    (hInv : ∀ c, Inv c → Halt c) (hR : ∀ {c c'}, R c c' → Inv c → Inv c') :
    Restores Inv Halt m :=
  fun _ hc => hm.wp (fun c' h => hInv c' (hR h hc)) fun _ _ h => hR h hc

end Restores

end Prog

end Reactive
