import Mathlib.Logic.Basic

/-!
# Machines and their runs

A machine takes the events that are enabled in its state, in any order. A run
may be restricted to the events that satisfy a condition on the state before
them, so that a law can be stated for the runs in which every step meets it.
-/

namespace Transition

/-- A machine with states `σ` and events `ε`. -/
structure Machine (σ ε : Type) where
  Enabled : σ → ε → Prop
  next : σ → ε → σ

namespace Machine

variable {σ ε : Type} {M : Machine σ ε} {ok ok' : σ → ε → Prop} {s s' s'' : σ}

/-- `s'` can be reached from `s` by events that satisfy `ok`. -/
inductive Reach (M : Machine σ ε) (ok : σ → ε → Prop) (s : σ) : σ → Prop
  | refl : Reach M ok s s
  | step {s' : σ} (e : ε) : Reach M ok s s' → M.Enabled s' e → ok s' e → Reach M ok s (M.next s' e)

/-- Any enabled event. -/
def Any : σ → ε → Prop := fun _ _ => True

namespace Reach

/-- What every step keeps, every run keeps. -/
theorem invariant {P : σ → Prop}
    (hstep : ∀ s e, P s → M.Enabled s e → ok s e → P (M.next s e))
    (h : Reach M ok s s') (h0 : P s) : P s' := by
  induction h with
  | refl => exact h0
  | step e _ henabled hok ih => exact hstep _ e ih henabled hok

theorem mono (hok : ∀ s e, ok s e → ok' s e) (h : Reach M ok s s') : Reach M ok' s s' := by
  induction h with
  | refl => exact .refl
  | step e _ henabled he ih => exact .step e ih henabled (hok _ e he)

theorem trans (h : Reach M ok s s') (h' : Reach M ok s' s'') : Reach M ok s s'' := by
  induction h' with
  | refl => exact h
  | step e _ henabled hok ih => exact .step e ih henabled hok

end Reach

/-- The state after a list of events. -/
def runs (M : Machine σ ε) (s : σ) : List ε → σ
  | [] => s
  | e :: es => runs M (M.next s e) es

/-- Each event of the list is enabled, and satisfies `ok`, when its turn comes. -/
def Allowed (M : Machine σ ε) (ok : σ → ε → Prop) (s : σ) : List ε → Prop
  | [] => True
  | e :: es => (M.Enabled s e ∧ ok s e) ∧ Allowed M ok (M.next s e) es

theorem Allowed.reach {es : List ε} (h : M.Allowed ok s es) : Reach M ok s (M.runs s es) := by
  induction es generalizing s with
  | nil => exact .refl
  | cons e es ih => exact (Reach.step e .refl h.1.1 h.1.2).trans (ih h.2)

end Machine

end Transition
