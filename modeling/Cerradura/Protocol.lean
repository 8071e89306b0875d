import Cerradura.Reactive
import Cerradura.Transition

/-!
# Programs that follow a protocol

A machine over the events of a program is a protocol: it says which event may
come next, and what it does to the one at the other end. A program follows the
protocol if, in every run, each of its events is enabled in the state to which
the events before it have taken the machine. Runs that stop inside count as well.

* `Machine.after`, `Machine.Legal`: a machine along a trace, newest event first.
* `Machine.log`: the machine that remembers, for assertions about all that has
  happened.
* `Prog.Follows`: a triple. Its assertions are about the state of the program and
  that of the machine together.
* `Prog.Built`: programs put together from given parts, and `Built.follows`: they
  keep what the parts keep.
-/

namespace Transition.Machine

variable {κ δ ε : Type} (M : Machine κ ε)

/-- The state after a trace. -/
def after (q : κ) : List ε → κ
  | [] => q
  | e :: es => M.next (after q es) e

/-- Each event of the trace was enabled when it came. -/
def Legal (q : κ) : List ε → Prop
  | [] => True
  | e :: es => Legal q es ∧ M.Enabled (M.after q es) e

variable {M} {q : κ}

theorem after_append (es es' : List ε) :
    M.after q (es ++ es') = M.after (M.after q es') es := by
  induction es with
  | nil => rfl
  | cons e es ih => exact congrArg (M.next · e) ih

theorem legal_append {es es' : List ε} :
    M.Legal q (es ++ es') ↔ M.Legal q es' ∧ M.Legal (M.after q es') es := by
  induction es with
  | nil => exact (and_iff_left trivial).symm
  | cons e es ih =>
    show M.Legal q (es ++ es') ∧ M.Enabled (M.after q (es ++ es')) e ↔ _
    rw [ih, after_append, and_assoc]
    exact Iff.rfl

variable (M) in
/-- The machine as it sees events under other names. -/
def comap (ev : δ → ε) : Machine κ δ := ⟨fun q d => M.Enabled q (ev d), fun q d => M.next q (ev d)⟩

theorem after_map (ev : δ → ε) (ds : List δ) : M.after q (ds.map ev) = (M.comap ev).after q ds := by
  induction ds with
  | nil => rfl
  | cons d ds ih => exact congrArg (M.next · (ev d)) ih

theorem legal_map {ev : δ → ε} {ds : List δ} : M.Legal q (ds.map ev) ↔ (M.comap ev).Legal q ds := by
  induction ds with
  | nil => exact Iff.rfl
  | cons d ds ih =>
    show M.Legal q (ds.map ev) ∧ M.Enabled (M.after q (ds.map ev)) (ev d) ↔ _
    rw [ih, after_map]
    exact Iff.rfl

variable (M) in
/-- An event that is enabled and changes nothing. -/
def Ignores (q : κ) (e : ε) : Prop := M.Enabled q e ∧ M.next q e = q

theorem after_of_ignores {es : List ε} (h : ∀ e ∈ es, M.Ignores q e) : M.after q es = q := by
  induction es with
  | nil => rfl
  | cons e es ih =>
    obtain ⟨he, hes⟩ := List.forall_mem_cons.mp h
    show M.next (M.after q es) e = q
    rw [ih hes]
    exact he.2

theorem legal_of_ignores {es : List ε} (h : ∀ e ∈ es, M.Ignores q e) : M.Legal q es := by
  induction es with
  | nil => exact trivial
  | cons e es ih =>
    obtain ⟨he, hes⟩ := List.forall_mem_cons.mp h
    refine ⟨ih hes, ?_⟩
    rw [after_of_ignores hes]
    exact he.1

theorem legal_of_enabled {es : List ε} (h : ∀ q, ∀ e ∈ es, M.Enabled q e) : M.Legal q es := by
  induction es with
  | nil => exact trivial
  | cons e es ih =>
    exact ⟨ih fun q e he => h q e (.tail _ he), h _ e List.mem_cons_self⟩

/-- What no event of the trace undoes. -/
theorem after_keeps {P : κ → Prop} {es : List ε} (h : ∀ q, ∀ e ∈ es, P q → P (M.next q e))
    (hq : P q) : P (M.after q es) := by
  induction es with
  | nil => exact hq
  | cons e es ih => exact h _ e List.mem_cons_self (ih fun q e he => h q e (.tail _ he))

/-- A machine whose events are lists of events of another: if each event leaves the
two machines in related states, so does a trace. -/
theorem legal_flatMap {κ' : Type} {N : Machine κ' δ} {f : ε → List δ} {R : κ → κ' → Prop}
    (h : ∀ q q' e, R q q' → M.Enabled q e → N.Legal q' (f e) ∧ R (M.next q e) (N.after q' (f e)))
    {q' : κ'} {es : List ε} (hR : R q q') (hes : M.Legal q es) :
    N.Legal q' (es.flatMap f) ∧ R (M.after q es) (N.after q' (es.flatMap f)) := by
  induction es with
  | nil => exact ⟨trivial, hR⟩
  | cons e es ih =>
    obtain ⟨hlegal, hafter⟩ := ih hes.1
    obtain ⟨hlegal', hafter'⟩ := h _ _ e hafter hes.2
    rw [List.flatMap_cons, legal_append, after_append]
    exact ⟨⟨hlegal, hlegal'⟩, hafter'⟩

/-- The machine that remembers all events, and asks `ok` of each of them. -/
def log (ok : List ε → ε → Prop) : Machine (List ε) ε := ⟨ok, fun es e => e :: es⟩

theorem after_log {ok : List ε → ε → Prop} (es es' : List ε) :
    (log ok).after es es' = es' ++ es := by
  induction es' with
  | nil => rfl
  | cons e es' ih => exact congrArg (e :: ·) ih

/-- In a legal trace every event was enabled after those before it. -/
theorem Legal.enabled {es es' : List ε} {e : ε} (h : M.Legal q (es ++ e :: es')) :
    M.Enabled (M.after q es') e := (legal_append.mp h).1.2

end Transition.Machine

namespace Reactive.Prog

open Transition

variable {σ τ ι ε δ κ α β γ : Type}

/-- Started with `P`, the program only does what the protocol allows, and if it
returns, `Q` holds. -/
def Follows (M : Machine κ ε) (P : σ → κ → Prop) (m : Prog σ ι ε α) (Q : α → σ → κ → Prop) : Prop :=
  ∀ c q, P c.st q → m.wp (fun c' => ∃ evs, c'.trace = evs ++ c.trace ∧ M.Legal q evs)
    (fun a c' => ∃ evs, c'.trace = evs ++ c.trace ∧ M.Legal q evs ∧ Q a c'.st (M.after q evs)) c

namespace Follows

variable {M : Machine κ ε} {P P' : σ → κ → Prop} {Q Q' : α → σ → κ → Prop} {m : Prog σ ι ε α}

/-- The rule of consequence. -/
theorem mono (h : Follows M P m Q) (hP : ∀ s q, P' s q → P s q) (hQ : ∀ a s q, Q a s q → Q' a s q) :
    Follows M P' m Q' := by
  intro c q hc
  refine wp_mono (h c q (hP _ _ hc)) (fun _ h => h) fun a c' h' => ?_
  obtain ⟨evs, htrace, hlegal, hq⟩ := h'
  exact ⟨evs, htrace, hlegal, hQ _ _ _ hq⟩

theorem pre (h : Follows M P m Q) (hP : ∀ s q, P' s q → P s q) : Follows M P' m Q :=
  h.mono hP fun _ _ _ h => h

theorem post (h : Follows M P m Q) (hQ : ∀ a s q, Q a s q → Q' a s q) : Follows M P m Q' :=
  h.mono (fun _ _ h => h) hQ

theorem pure {a : α} (h : ∀ s q, P s q → Q a s q) : Follows M P (pure a : Prog σ ι ε α) Q :=
  fun _ _ hc => ⟨[], rfl, trivial, h _ _ hc⟩

theorem bind {R : α → σ → κ → Prop} {Q : β → σ → κ → Prop} {f : α → Prog σ ι ε β}
    (hm : Follows M P m R) (hf : ∀ a, Follows M (R a) (f a) Q) : Follows M P (m >>= f) Q := by
  intro c q hc
  rw [wp_bind]
  refine wp_mono (hm c q hc) (fun _ h => h) fun a c1 h1 => ?_
  obtain ⟨evs, htrace, hlegal, hr⟩ := h1
  have happend : ∀ {c2 : Config σ ι ε} {evs2 : List ε}, c2.trace = evs2 ++ c1.trace →
      c2.trace = (evs2 ++ evs) ++ c.trace := fun h => by rw [h, htrace, List.append_assoc]
  refine wp_mono (hf a c1 _ hr) (fun c2 h2 => ?_) fun b c2 h2 => ?_
  · obtain ⟨evs2, htrace2, hlegal2⟩ := h2
    exact ⟨evs2 ++ evs, happend htrace2, Machine.legal_append.mpr ⟨hlegal, hlegal2⟩⟩
  · obtain ⟨evs2, htrace2, hlegal2, hq⟩ := h2
    refine ⟨evs2 ++ evs, happend htrace2, Machine.legal_append.mpr ⟨hlegal, hlegal2⟩, ?_⟩
    rwa [Machine.after_append]

theorem ite {p : Prop} [Decidable p] {m' : Prog σ ι ε α} (hm : p → Follows M P m Q)
    (hm' : ¬ p → Follows M P m' Q) : Follows M P (if p then m else m') Q := by
  split
  · next h => exact hm h
  · next h => exact hm' h

theorem read {Q : ι → σ → κ → Prop} (h : ∀ i s q, P s q → Q i s q) :
    Follows M P (read : Prog σ ι ε ι) Q :=
  fun _ _ hc => wp_read (fun _ => ⟨[], rfl, trivial⟩) fun _ _ _ => ⟨[], rfl, trivial, h _ _ _ hc⟩

theorem emit {e : ε} {Q : Unit → σ → κ → Prop}
    (h : ∀ s q, P s q → M.Enabled q e ∧ Q () s (M.next q e)) :
    Follows M P (emit e : Prog σ ι ε Unit) Q :=
  fun _ _ hc => ⟨[e], rfl, ⟨trivial, (h _ _ hc).1⟩, (h _ _ hc).2⟩

theorem modify {f : σ → σ} {Q : Unit → σ → κ → Prop} (h : ∀ s q, P s q → Q () (f s) q) :
    Follows M P (modify f : Prog σ ι ε Unit) Q :=
  fun _ _ hc => ⟨[], rfl, trivial, h _ _ hc⟩

/-- What follows knows the state. -/
theorem get_bind {f : σ → Prog σ ι ε α} (h : ∀ s0, Follows M (fun s q => s = s0 ∧ P s q) (f s0) Q) :
    Follows M P (get >>= f) Q :=
  fun c q hc => h c.st c q ⟨rfl, hc⟩

theorem get : Follows M P (get : Prog σ ι ε σ) fun _ => P :=
  fun _ _ hc => ⟨[], rfl, trivial, hc⟩

/-- The rule for loops: an invariant kept by every round. -/
theorem iter {body : γ → Prog σ ι ε (γ ⊕ α)} (Inv : γ → σ → κ → Prop)
    (hbody : ∀ x, Follows M (Inv x) (body x) fun r s q => match r with
      | .inl y => Inv y s q
      | .inr b => Q b s q) (x : γ) : Follows M (Inv x) (iter body x) Q := by
  have hloop : ∀ n x, Follows M (Inv x) (loop body n x) Q := by
    intro n
    induction n with
    | zero => exact fun x c q _ => ⟨[], rfl, trivial⟩
    | succ n ih =>
      intro x
      refine (hbody x).bind fun r => ?_
      cases r with
      | inl y => exact ih y
      | inr b => exact Follows.pure fun _ _ h => h
  exact fun c q hc => hloop _ x c q hc

/-- A program over a part of the state, whose events have other names there. -/
theorem zoom {get : σ → τ} {put : τ → σ → σ} {ev : δ → ε} {m : Prog τ ι δ α}
    (h : ∀ s0, Follows (M.comap ev) (fun t q => t = get s0 ∧ P s0 q) m
      fun a t q => Q a (put t s0) q) : Follows M P (zoom get put ev m) Q := by
  intro c q hc
  refine wp_zoom (h c.st ⟨get c.st, c.inputs, []⟩ q ⟨rfl, hc⟩) (fun c' h' => ?_) fun a c' h' => ?_
  · obtain ⟨evs, htrace, hlegal⟩ := h'
    rw [List.append_nil] at htrace
    exact ⟨evs.map ev, by rw [htrace], Machine.legal_map.mpr hlegal⟩
  · obtain ⟨evs, htrace, hlegal, hq⟩ := h'
    rw [List.append_nil] at htrace
    refine ⟨evs.map ev, by rw [htrace], Machine.legal_map.mpr hlegal, ?_⟩
    rwa [Machine.after_map]

/-- A program whose events the machine ignores. -/
theorem of_keeps {R : Config σ ι ε → Config σ ι ε → Prop} (hm : Keeps R m)
    (hR : ∀ c c', R c c' → ∃ evs, c'.trace = evs ++ c.trace ∧
      ∀ q, P c.st q → (∀ e ∈ evs, M.Ignores q e) ∧ P c'.st q) : Follows M P m fun _ => P := by
  intro c q hc
  refine hm.wp (fun c' h => ?_) fun a c' h => ?_
  · obtain ⟨evs, htrace, hevs⟩ := hR c c' h
    exact ⟨evs, htrace, Machine.legal_of_ignores (hevs q hc).1⟩
  · obtain ⟨evs, htrace, hevs⟩ := hR c c' h
    obtain ⟨hignores, hP⟩ := hevs q hc
    refine ⟨evs, htrace, Machine.legal_of_ignores hignores, ?_⟩
    rwa [Machine.after_of_ignores hignores]

theorem zoom_of_ignores {get : σ → τ} {put : τ → σ → σ} {ev : δ → ε} {m : Prog τ ι δ α}
    (hev : ∀ q d, M.Ignores q (ev d)) (hP : ∀ s t q, P s q → P (put t s) q) :
    Follows M P (Prog.zoom get put ev m) fun _ => P := by
  refine of_keeps (R := fun c c' => ∃ (ds : List δ) (t : τ), c'.trace = ds.map ev ++ c.trace ∧
    c'.st = put t c.st) (Keeps.zoom fun _ t _ trace => ⟨trace, t, rfl, rfl⟩) fun c c' h => ?_
  obtain ⟨ds, t, htrace, hst⟩ := h
  refine ⟨ds.map ev, htrace, fun q hq => ⟨fun e he => ?_, ?_⟩⟩
  · obtain ⟨d, -, rfl⟩ := List.mem_map.mp he
    exact hev q d
  · rw [hst]
    exact hP _ t _ hq

/-- A program over a part of the state, whose events may always be added to the log. -/
theorem zoom_log {ok : List ε → ε → Prop} {P : σ → List ε → Prop} {get : σ → τ} {put : τ → σ → σ}
    {ev : δ → ε} {m : Prog τ ι δ α} (hok : ∀ es d, ok es (ev d))
    (hput : ∀ s t es, P s es → P (put t s) es) (hev : ∀ s es d, P s es → P s (ev d :: es)) :
    Follows (Machine.log ok) P (Prog.zoom get put ev m) fun _ => P := by
  have hlegal (es : List ε) (ds : List δ) : (Machine.log ok).Legal es (ds.map ev) := by
    induction ds with
    | nil => exact trivial
    | cons d ds ih => exact ⟨ih, hok _ d⟩
  have hevs {s : σ} {es : List ε} (hs : P s es) (ds : List δ) : P s (ds.map ev ++ es) := by
    induction ds with
    | nil => exact hs
    | cons d ds ih => exact hev s _ d ih
  intro c q hc
  have hm : m.wp (fun _ => True) (fun _ _ => True) ⟨get c.st, c.inputs, []⟩ := wp_true
  refine wp_zoom hm (fun c' _ => ⟨c'.trace.map ev, rfl, hlegal _ _⟩)
    fun a c' _ => ⟨c'.trace.map ev, rfl, hlegal _ _, ?_⟩
  rw [Machine.after_log]
  exact hput _ _ _ (hevs hc _)

/-- What is known of the result apart from the protocol. -/
theorem and_wp {R : σ → Prop} {Q' : α → σ → Prop} (h : Follows M P m Q)
    (h' : ∀ c, R c.st → m.wp (fun _ => True) (fun a c' => Q' a c'.st) c) :
    Follows M (fun s q => P s q ∧ R s) m fun a s q => Q a s q ∧ Q' a s := by
  intro c q hc
  refine wp_mono (wp_and (h c q hc.1) (h' c hc.2)) (fun _ h => h) fun a c' hboth => ?_
  obtain ⟨⟨evs, htrace, hlegal, hq⟩, hq'⟩ := hboth
  exact ⟨evs, htrace, hlegal, hq, hq'⟩

/-- What the machine is in at the beginning can be given a name. -/
theorem ghost {ν : Type} {f : κ → ν} (h : ∀ x, Follows M (fun s q => P s q ∧ f q = x) m Q) :
    Follows M P m Q := fun c q hc => h (f q) c q ⟨hc, rfl⟩

/-- What does not depend on the run. -/
theorem and_pure {p : Prop} (h : p → Follows M P m Q) : Follows M (fun s q => P s q ∧ p) m Q :=
  fun c q hc => h hc.2 c q hc.1

/-- A program that leaves its state alone. -/
theorem and_st (h : Follows M P m Q) (hm : Keeps (fun c c' => c'.st = c.st) m) (R : σ → Prop) :
    Follows M (fun s q => P s q ∧ R s) m fun a s q => Q a s q ∧ R s :=
  h.and_wp fun c hc => hm.wp (fun _ _ => trivial) fun _ c' hst => by
    rw [hst]
    exact hc

/-- What no event can undo. -/
theorem and_stable {R : κ → Prop} (hR : ∀ q e, R q → R (M.next q e)) (h : Follows M P m Q) :
    Follows M (fun s q => P s q ∧ R q) m fun a s q => Q a s q ∧ R q := by
  intro c q hc
  refine wp_mono (h c q hc.1) (fun _ h => h) fun a c' h' => ?_
  obtain ⟨evs, htrace, hlegal, hq⟩ := h'
  exact ⟨evs, htrace, hlegal, hq, Machine.after_keeps (fun q e _ => hR q e) hc.2⟩

/-- Wherever a run ends, its trace is legal. -/
theorem legal (h : Follows M P m Q) {c : Config σ ι ε} {q : κ} (hc : P c.st q) :
    ∃ evs, (m c).2.trace = evs ++ c.trace ∧ M.Legal q evs :=
  wp_final (wp_mono (h c q hc) (fun _ h => h) fun _ c' h' => by
    obtain ⟨evs, htrace, hlegal, -⟩ := h'
    exact ⟨evs, htrace, hlegal⟩)

/-- A run from the beginning. -/
theorem legal_of_nil (h : Follows M P m Q) {c : Config σ ι ε} {q : κ} (hc : P c.st q)
    (hnil : c.trace = []) : M.Legal q (m c).2.trace := by
  obtain ⟨evs, htrace, hlegal⟩ := h.legal hc
  rw [htrace, hnil, List.append_nil]
  exact hlegal

/-- The end of such a run. -/
theorem after_of_nil (h : Follows M P m Q) {c c' : Config σ ι ε} {q : κ} {a : α} (hc : P c.st q)
    (hnil : c.trace = []) (hm : m c = (some a, c')) : Q a c'.st (M.after q c'.trace) := by
  obtain ⟨evs, htrace, -, hQ⟩ := wp_elim (h c q hc) hm
  rwa [htrace, hnil, List.append_nil]

end Follows

/-! ## Programs made of given parts -/

/-- Programs put together from the parts `A`. -/
inductive Built (A : ∀ α : Type, Prog σ ι ε α → Prop) : ∀ α : Type, Prog σ ι ε α → Prop
  | part {α : Type} {m : Prog σ ι ε α} : A α m → Built A α m
  | pure {α : Type} (a : α) : Built A α (pure a)
  | bind {α β : Type} {m : Prog σ ι ε α} {f : α → Prog σ ι ε β} :
      Built A α m → (∀ a, Built A β (f a)) → Built A β (m >>= f)
  | iter {β γ : Type} {body : γ → Prog σ ι ε (γ ⊕ β)} {x : γ} :
      (∀ x, Built A (γ ⊕ β) (body x)) → Built A β (iter body x)

namespace Built

variable {A : ∀ α : Type, Prog σ ι ε α → Prop} {m : Prog σ ι ε α}

theorem ite {p : Prop} [Decidable p] {m' : Prog σ ι ε α} (hm : Built A α m) (hm' : Built A α m') :
    Built A α (if p then m else m') := by
  split
  · exact hm
  · exact hm'

/-- What each part keeps, the whole keeps. -/
theorem keeps {R : Config σ ι ε → Config σ ι ε → Prop} (hR : Composable R)
    (hA : ∀ (β : Type) (m : Prog σ ι ε β), A β m → Keeps R m) (h : Built A α m) : Keeps R m := by
  induction h with
  | part hm => exact hA _ _ hm
  | pure a => exact .pure hR a
  | bind _ _ ihm ihf => exact .bind hR ihm ihf
  | iter _ ih => exact .iter hR ih _

/-- What each part leaves as it was, the whole does. -/
theorem follows {M : Machine κ ε} {P : σ → κ → Prop}
    (hA : ∀ (β : Type) (m : Prog σ ι ε β), A β m → Follows M P m fun _ => P)
    (h : Built A α m) : Follows M P m fun _ => P := by
  induction h with
  | part hm => exact hA _ _ hm
  | pure a => exact .pure fun _ _ h => h
  | bind _ _ ihm ihf => exact ihm.bind ihf
  | iter _ ih =>
    refine .iter (fun _ => P) (fun x => (ih x).post fun r _ _ h => ?_) _
    cases r with
    | inl y => exact h
    | inr b => exact h

end Built

end Reactive.Prog
