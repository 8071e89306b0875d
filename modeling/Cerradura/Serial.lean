import Mathlib.Data.List.Basic
import Mathlib.Data.List.Nodup

/-!
# One at a time

Actions on a state, taken one after the other in some order: the state at the
end, and the state that each of them finds.
-/

namespace Serial

variable {σ ι : Type} {act : ι → σ → σ} {s t : σ} {i d : ι} {antes despues orden : List ι}

/-- The state after the actions. -/
def final (act : ι → σ → σ) (s : σ) (orden : List ι) : σ := orden.foldl (fun s i => act i s) s

/-- Each action, with the state it finds. -/
def turns (act : ι → σ → σ) (s : σ) : List ι → List (ι × σ)
  | [] => []
  | i :: rest => (i, s) :: turns act (act i s) rest

theorem final_append (act : ι → σ → σ) (s : σ) (antes despues : List ι) :
    final act s (antes ++ despues) = final act (final act s antes) despues :=
  List.foldl_append

theorem turns_append (act : ι → σ → σ) (s : σ) (antes despues : List ι) :
    turns act s (antes ++ despues) =
      turns act s antes ++ turns act (final act s antes) despues := by
  induction antes generalizing s with
  | nil => rfl
  | cons i antes ih =>
    rw [List.cons_append, turns, turns, List.cons_append, ih]
    rfl

theorem turns_concat (act : ι → σ → σ) (s : σ) (orden : List ι) (i : ι) :
    turns act s (orden ++ [i]) = turns act s orden ++ [(i, final act s orden)] :=
  turns_append act s orden [i]

/-- What an action finds is what those before it have left. -/
theorem mem_turns : (i, t) ∈ turns act s orden ↔
    ∃ antes despues, orden = antes ++ i :: despues ∧ t = final act s antes := by
  constructor
  · intro h
    induction orden generalizing s with
    | nil => cases h
    | cons j orden ih =>
      rcases List.mem_cons.mp h with heq | h
      · cases heq
        exact ⟨[], orden, rfl, rfl⟩
      · obtain ⟨antes, despues, rfl, rfl⟩ := ih h
        exact ⟨j :: antes, despues, rfl, rfl⟩
  · rintro ⟨antes, despues, rfl, rfl⟩
    rw [turns_append]
    exact List.mem_append_right _ List.mem_cons_self

theorem exists_turn (h : i ∈ orden) : ∃ t, (i, t) ∈ turns act s orden := by
  obtain ⟨antes, despues, rfl⟩ := List.append_of_mem h
  exact ⟨_, mem_turns.mpr ⟨antes, despues, rfl, rfl⟩⟩

theorem mem_of_turn (h : (i, t) ∈ turns act s orden) : i ∈ orden := by
  obtain ⟨antes, despues, rfl, -⟩ := mem_turns.mp h
  exact List.mem_append_right _ List.mem_cons_self

/-- In an order without repetitions an action finds one state. -/
theorem turn_unique {t' : σ} (hnodup : orden.Nodup) (h : (i, t) ∈ turns act s orden)
    (h' : (i, t') ∈ turns act s orden) : t = t' := by
  induction orden generalizing s with
  | nil => cases h
  | cons j orden ih =>
    obtain ⟨hj, hnodup⟩ := List.nodup_cons.mp hnodup
    rcases List.mem_cons.mp h with heq | h
    · cases heq
      rcases List.mem_cons.mp h' with heq' | h'
      · cases heq'
        rfl
      · exact absurd (mem_of_turn h') hj
    · rcases List.mem_cons.mp h' with heq' | h'
      · cases heq'
        exact absurd (mem_of_turn h) hj
      · exact ih hnodup h h'

/-- Of two actions the one that comes first leaves its state to the other. -/
theorem turn_after {j : ι} {t' : σ} (hnodup : orden.Nodup) (hi : (i, t) ∈ turns act s orden)
    (hj : (j, t') ∈ turns act s orden) (h : [i, j].Sublist orden) :
    ∃ medio, (∀ k ∈ medio, k ∈ orden) ∧ t' = final act (act i t) medio := by
  induction orden generalizing s with
  | nil => cases hi
  | cons k orden ih =>
    obtain ⟨hk, hnodup⟩ := List.nodup_cons.mp hnodup
    rcases List.sublist_cons_iff.mp h with h | ⟨r, hr, h⟩
    · have hiorden : i ∈ orden := h.subset List.mem_cons_self
      have hjorden : j ∈ orden := h.subset (List.mem_cons_of_mem i List.mem_cons_self)
      rcases List.mem_cons.mp hi with heq | hi
      · cases heq
        exact absurd hiorden hk
      · rcases List.mem_cons.mp hj with heq | hj
        · cases heq
          exact absurd hjorden hk
        · obtain ⟨medio, hmedio, hfinal⟩ := ih hnodup hi hj h
          exact ⟨medio, fun k hk => List.mem_cons_of_mem _ (hmedio k hk), hfinal⟩
    · cases hr
      have hjorden : j ∈ orden := List.singleton_sublist.mp h
      rcases List.mem_cons.mp hi with heq | hi
      · cases heq
        rcases List.mem_cons.mp hj with heq | hj
        · cases heq
          exact absurd hjorden hk
        · obtain ⟨medio, despues, rfl, hfinal⟩ := mem_turns.mp hj
          refine ⟨medio, fun k hk => ?_, hfinal⟩
          exact List.mem_cons_of_mem _ (List.mem_append_left _ hk)
      · exact absurd (mem_of_turn hi) hk

/-- Two members of a list come in some order. -/
theorem pair_sublist {j : ι} (hi : i ∈ orden) (hj : j ∈ orden) (hne : i ≠ j) :
    [i, j].Sublist orden ∨ [j, i].Sublist orden := by
  obtain ⟨antes, despues, rfl⟩ := List.append_of_mem hi
  rcases List.mem_append.mp hj with hj | hj
  · have hpair := (List.singleton_sublist.mpr hj).append
      (List.singleton_sublist.mpr (List.mem_cons_self (a := i) (l := despues)))
    exact .inr hpair
  · have hafter : j ∈ despues := (List.mem_cons.mp hj).resolve_left (Ne.symm hne)
    have hpair := (List.singleton_sublist.mpr hafter).cons_cons i
    exact .inl (hpair.trans (List.sublist_append_right antes _))

theorem final_invariant {P : σ → Prop} (hact : ∀ i s, P s → P (act i s)) (h : P s) :
    P (final act s orden) := by
  induction orden generalizing s with
  | nil => exact h
  | cons i orden ih => exact ih (hact i s h)

section Insert

variable (h : act d (act i (final act s antes)) = act d (final act s antes))
include h

/-- An action that the next one makes vain can be put in before it. -/
theorem final_insert : final act s (antes ++ i :: d :: despues) =
    final act s (antes ++ d :: despues) := by
  rw [final_append, final_append]
  show final act (act d (act i _)) despues = final act (act d _) despues
  rw [h]

/-- The others find what they found before. -/
theorem turns_insert : turns act s (antes ++ i :: d :: despues) = turns act s antes ++
    (i, final act s antes) :: (d, act i (final act s antes)) ::
      turns act (act d (final act s antes)) despues := by
  rw [turns_append, turns, turns, h]

theorem mem_turns_insert {k : ι} {t : σ} (hk : (k, t) ∈ turns act s (antes ++ d :: despues)) :
    (k, t) = (d, final act s antes) ∨ (k, t) ∈ turns act s (antes ++ i :: d :: despues) := by
  rw [turns_append, turns] at hk
  rw [turns_insert h]
  rcases List.mem_append.mp hk with hk | hk
  · exact .inr (List.mem_append_left _ hk)
  · rcases List.mem_cons.mp hk with heq | hk
    · exact .inl heq
    · exact .inr (List.mem_append_right _ (List.mem_cons_of_mem _ (List.mem_cons_of_mem _ hk)))

end Insert

end Serial
