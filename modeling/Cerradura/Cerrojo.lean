import Cerradura.Ronda

/-!
# The bolt

`abrirCerradura` and `cerrarCerradura` of stepperMotor.c drive an open-loop
stepper motor, a fixed number of steps each way. Three states of the machine
open and one closes.

Result: `cerrojo_alterna`. In every run the two calls alternate, beginning with
`abrirCerradura`, a round ends with the bolt open exactly in SENSOR_CIERRE,
nothing else happens while it is open, and the motor stays within one stroke.
-/

namespace Cerradura

open Reactive

/-! ## stepperMotor.c -/

/-- STEPS -/
def steps : ℕ := 100

/-- The loop of `step_move`: the position after each pulse. To open is the
positive direction. -/
def stepMove (dir : Bool) : ℕ → ℤ → List ℤ
  | 0, _ => []
  | i + 1, posicion =>
    let posicion := if dir then posicion + 1 else posicion - 1
    posicion :: stepMove dir i posicion

/-- The positions of the motor in a series of movements. -/
def recorrido : ℤ → List Bool → List ℤ
  | _, [] => []
  | posicion, dir :: rest =>
    stepMove dir steps posicion ++ recorrido ((stepMove dir steps posicion).getLastD posicion) rest

theorem stepMove_mem {dir : Bool} {k : ℕ} {p q : ℤ} (h : q ∈ stepMove dir k p) :
    if dir then p < q ∧ q ≤ p + k else p - k ≤ q ∧ q < p := by
  induction k generalizing p with
  | zero => cases h
  | succ k ih =>
    cases dir with
    | true =>
      rcases List.mem_cons.mp h with rfl | h
      · exact ⟨Int.lt_succ p, by push_cast; omega⟩
      · have hq := ih h
        simp only [if_true] at hq ⊢
        push_cast
        omega
    | false =>
      rcases List.mem_cons.mp h with rfl | h
      · simp only [Bool.false_eq_true, if_false]
        push_cast
        omega
      · have hq := ih h
        simp only [Bool.false_eq_true, if_false] at hq ⊢
        push_cast
        omega

theorem stepMove_last (dir : Bool) (k : ℕ) (p : ℤ) :
    (stepMove dir k p).getLastD p = if dir then p + k else p - k := by
  induction k generalizing p with
  | zero => cases dir <;> simp [stepMove]
  | succ k ih =>
    unfold stepMove
    rw [List.getLastD_cons]
    cases dir with
    | true =>
      refine (ih (p + 1)).trans ?_
      simp only [if_true]
      push_cast
      omega
    | false =>
      refine (ih (p - 1)).trans ?_
      simp only [Bool.false_eq_true, if_false]
      push_cast
      omega

/-! ## The movements of a run -/

def movimiento : MefEv → Option Bool
  | .accion _ .abrirCerradura => some true
  | .accion _ .cerrarCerradura => some false
  | _ => none

/-- The movements of the bolt, the newest first. -/
def movimientos (traza : List MefEv) : List Bool := traza.filterMap movimiento

/-- The last movement has opened the bolt. -/
def Abierta (traza : List MefEv) : Prop := (movimientos traza).head? = some true

/-- The movements open and close in turn, and the first one opens. -/
def Alternan (movs : List Bool) : Prop :=
  ∀ i dir, movs.reverse[i]? = some dir → (dir = true ↔ i % 2 = 0)

/-- While the bolt is open nothing happens but the change to SENSOR_CIERRE and
the closing. -/
def Quieta (traza : List MefEv) : Prop :=
  ∀ despues e antes, traza = despues ++ e :: antes → Abierta antes →
    e = .estado .sensorCierre ∨ ∃ lista, e = .accion lista .cerrarCerradura

theorem alternan_cons {dir : Bool} {movs : List Bool} :
    Alternan (dir :: movs) ↔ Alternan movs ∧ (dir = true ↔ movs.length % 2 = 0) := by
  have hlast : (movs.reverse ++ [dir])[movs.length]? = some dir := by
    rw [← List.length_reverse, List.getElem?_concat_length]
  unfold Alternan
  rw [List.reverse_cons]
  constructor
  · intro h
    refine ⟨fun i d hi => h i d ?_, h _ _ hlast⟩
    rwa [List.getElem?_append_left (List.getElem?_eq_some_iff.mp hi).1]
  · rintro ⟨h, hdir⟩ i d hi
    by_cases hlt : i < movs.reverse.length
    · rw [List.getElem?_append_left hlt] at hi
      exact h i d hi
    · have hlen := (List.getElem?_eq_some_iff.mp hi).1
      rw [List.length_append, List.length_reverse, List.length_singleton] at hlen
      rw [List.length_reverse] at hlt
      obtain rfl : i = movs.length := by omega
      rw [hlast] at hi
      obtain rfl := Option.some.inj hi
      exact hdir

/-- The bolt is open after an odd number of movements. -/
theorem abierta_iff {traza : List MefEv} (h : Alternan (movimientos traza)) :
    Abierta traza ↔ (movimientos traza).length % 2 = 1 := by
  unfold Abierta
  cases hmovs : movimientos traza with
  | nil => simp
  | cons dir movs =>
    rw [hmovs] at h
    have hdir := (alternan_cons.mp h).2
    rw [List.head?_cons, Option.some.injEq, hdir, List.length_cons]
    omega

theorem quieta_cons {e : MefEv} {traza : List MefEv} (h : Quieta traza)
    (he : Abierta traza → e = .estado .sensorCierre ∨ ∃ lista, e = .accion lista .cerrarCerradura) :
    Quieta (e :: traza) := by
  intro despues e' antes heq
  cases despues with
  | nil =>
    obtain ⟨rfl, rfl⟩ := List.cons.inj heq
    exact he
  | cons d despues => exact h despues e' antes (List.cons.inj heq).2

/-- Movements that alternate take the motor from one end to the other. -/
theorem recorrido_acotado {movs : List Bool} {k : ℕ}
    (h : ∀ i dir, movs[i]? = some dir → (dir = true ↔ (i + k) % 2 = 0)) :
    ∀ posicion ∈ recorrido (if k % 2 = 0 then 0 else steps) movs,
      0 ≤ posicion ∧ posicion ≤ steps := by
  induction movs generalizing k with
  | nil => exact fun posicion hp => nomatch hp
  | cons dir movs ih =>
    have hdir : dir = true ↔ k % 2 = 0 := by
      have h0 := h 0 dir rfl
      rwa [Nat.zero_add] at h0
    have hrest := ih (k := k + 1) fun i d hi => by
      rw [h (i + 1) d hi]
      omega
    have hlast : (stepMove dir steps (if k % 2 = 0 then 0 else steps)).getLastD
        (if k % 2 = 0 then 0 else steps) = if (k + 1) % 2 = 0 then 0 else (steps : ℤ) := by
      rw [stepMove_last]
      cases dir with
      | true =>
        have hk := hdir.mp rfl
        rw [if_pos rfl, if_pos hk, if_neg (by omega), zero_add]
      | false =>
        have hk : ¬ k % 2 = 0 := fun hk => Bool.false_ne_true (hdir.mpr hk)
        rw [if_neg Bool.false_ne_true, if_neg hk, if_pos (by omega), sub_self]
    intro posicion hp
    unfold recorrido at hp
    rcases List.mem_append.mp hp with hp | hp
    · have hmem := stepMove_mem hp
      cases dir with
      | true =>
        have hk := hdir.mp rfl
        rw [if_pos rfl, if_pos hk] at hmem
        omega
      | false =>
        have hk : ¬ k % 2 = 0 := fun hk => Bool.false_ne_true (hdir.mpr hk)
        rw [if_neg Bool.false_ne_true, if_neg hk] at hmem
        omega
    · rw [hlast] at hp
      exact hrest posicion hp

/-! ## The bolt in a round -/

/-- The movements alternate and nothing happens under an open bolt. -/
structure Sana (traza : List MefEv) : Prop where
  alternan : Alternan (movimientos traza)
  quieta : Quieta traza

theorem sana_nil : Sana [] where
  alternan _ _ hi := nomatch hi
  quieta despues _ _ heq := by cases despues <;> cases heq

theorem movimiento_corriente {e : MefEv} (h : e.Corriente) : movimiento e = none := by
  cases e with
  | accion _ a => cases a <;> first | rfl | exact h.elim
  | _ => rfl

namespace Sana

variable {traza : List MefEv}

/-- Over a closed bolt whatever does not move it may happen. -/
theorem cerrada {evs : List MefEv} (h : Sana traza) (hcerrada : ¬ Abierta traza)
    (hevs : ∀ e ∈ evs, movimiento e = none) : Sana (evs ++ traza) ∧ ¬ Abierta (evs ++ traza) := by
  induction evs with
  | nil => exact ⟨h, hcerrada⟩
  | cons e evs ih =>
    obtain ⟨ih, hcerr⟩ := ih fun e he => hevs e (List.mem_cons_of_mem _ he)
    have hmovs : movimientos (e :: evs ++ traza) = movimientos (evs ++ traza) :=
      List.filterMap_cons_none (hevs e List.mem_cons_self)
    refine ⟨⟨?_, quieta_cons ih.quieta fun habierta => absurd habierta hcerr⟩, ?_⟩
    · rw [hmovs]
      exact ih.alternan
    · unfold Abierta
      rw [hmovs]
      exact hcerr

theorem abre (h : Sana traza) (hcerrada : ¬ Abierta traza) (lista : ListaPins) :
    Sana (.accion lista .abrirCerradura :: traza) := by
  have hmovs : movimientos (.accion lista .abrirCerradura :: traza) = true :: movimientos traza :=
    rfl
  refine ⟨?_, quieta_cons h.quieta fun habierta => absurd habierta hcerrada⟩
  rw [abierta_iff h.alternan] at hcerrada
  rw [hmovs, alternan_cons]
  exact ⟨h.alternan, iff_of_true rfl (Nat.mod_two_ne_one.mp hcerrada)⟩

/-- The change of state between the opening and the end of the round. -/
theorem trasAbrir (h : Sana traza) : Sana (.estado .sensorCierre :: traza) :=
  ⟨h.alternan, quieta_cons h.quieta fun _ => .inl rfl⟩

theorem cierra (h : Sana traza) (habierta : Abierta traza) (lista : ListaPins) :
    Sana (.accion lista .cerrarCerradura :: traza) := by
  have hmovs : movimientos (.accion lista .cerrarCerradura :: traza) = false :: movimientos traza :=
    rfl
  refine ⟨?_, quieta_cons h.quieta fun _ => .inr ⟨lista, rfl⟩⟩
  rw [abierta_iff h.alternan] at habierta
  rw [hmovs, alternan_cons]
  exact ⟨h.alternan, iff_of_false nofun (Nat.mod_two_ne_zero.mpr habierta)⟩

end Sana

/-- Between two rounds. -/
structure Cerrojo (c : Config Mef Sample MefEv) : Prop where
  sana : Sana c.trace
  lista : c.st.listaPins.ConCodigo
  estado : Abierta c.trace ↔ c.st.estadoActual = .sensorCierre

section Cerrojo

variable {c c' : Config Mef Sample MefEv}

/-- An ordinary step outside SENSOR_CIERRE. -/
theorem Cerrojo.corriente (hc : Cerrojo c) (hcierre : c.st.estadoActual ≠ .sensorCierre)
    (h : Corriente c c') : Cerrojo c' ∧ c'.st.estadoActual ≠ .sensorCierre := by
  have hcalma := h hc.lista
  obtain ⟨evs, htrace, hevs⟩ := hcalma.eventos
  have hestado : c'.st.estadoActual ≠ .sensorCierre := by
    rcases hcalma.estado with heq | ⟨-, hne⟩
    · rwa [heq]
    · exact hne
  obtain ⟨hsana, hcerrada⟩ := hc.sana.cerrada (mt hc.estado.mp hcierre)
    fun e he => movimiento_corriente (hevs e he).1
  rw [← htrace] at hsana hcerrada
  exact ⟨⟨hsana, hcalma.lista, iff_of_false hcerrada hestado⟩, hestado⟩

/-- Some events over a closed bolt that do not move it, and a state other than
SENSOR_CIERRE. -/
theorem Cerrojo.paso {evs : List MefEv} {e : EstadoMEF} {k : ℕ} (hc : Cerrojo c)
    (hcierre : c.st.estadoActual ≠ .sensorCierre) (h : Paso c c' evs e k)
    (hevs : ∀ e ∈ evs, movimiento e = none) (he : e ≠ .sensorCierre) :
    Cerrojo c' ∧ c'.st.estadoActual ≠ .sensorCierre := by
  obtain ⟨hsana, hcerrada⟩ := hc.sana.cerrada (mt hc.estado.mp hcierre) hevs
  rw [← h.trace] at hsana hcerrada
  have hestado : c'.st.estadoActual ≠ .sensorCierre := by rwa [h.estado]
  exact ⟨⟨hsana, h.lista ▸ hc.lista, iff_of_false hcerrada hestado⟩, hestado⟩

/-- The door opens, before or after the change of state. -/
theorem Cerrojo.abre {evs : List MefEv} {k : ℕ} (hc : Cerrojo c)
    (hcierre : c.st.estadoActual ≠ .sensorCierre) (h : Paso c c' evs .sensorCierre k)
    (hevs : (∃ lista, evs = [.estado .sensorCierre, .accion lista .abrirCerradura]) ∨
      ∃ lista, evs = [.accion lista .abrirCerradura, .estado .sensorCierre]) : Cerrojo c' := by
  have hcerrada := mt hc.estado.mp hcierre
  rcases hevs with ⟨lista, rfl⟩ | ⟨lista, rfl⟩
  · refine ⟨?_, h.lista ▸ hc.lista, iff_of_true ?_ h.estado⟩
    · rw [h.trace]
      exact (hc.sana.abre hcerrada lista).trasAbrir
    · rw [h.trace]
      exact rfl
  · refine ⟨?_, h.lista ▸ hc.lista, iff_of_true ?_ h.estado⟩
    · rw [h.trace]
      exact hc.sana.trasAbrir.abre hcerrada lista
    · rw [h.trace]
      exact rfl

theorem Cerrojo.ronda (hc : Cerrojo c) (h : Ronda c c') : Cerrojo c' := by
  cases h with
  | corriente _ hcierre h1 => exact (hc.corriente hcierre h1).1
  | digita hst h1 h2 =>
    obtain ⟨hc1, hcierre⟩ := hc.corriente (by rw [hst]; exact nofun) h1
    exact (hc1.paso hcierre h2 (List.forall_mem_singleton.mpr rfl) nofun).1
  | huella hst h1 h2 =>
    obtain ⟨hc1, hcierre⟩ := hc.corriente (by rw [hst]; exact nofun) h1
    exact hc1.abre hcierre h2 (.inl ⟨_, rfl⟩)
  | tarjeta hst _ h1 => exact hc.abre (by rw [hst]; exact nofun) h1 (.inl ⟨_, rfl⟩)
  | pin hst _ h1 => exact hc.abre (by rw [hst]; exact nofun) h1 (.inr ⟨_, rfl⟩)
  | rechazo hst _ h1 h2 _ =>
    have hevs : ∀ e ∈ (if c.st.intentosFallidos + 1 = 3 then [MefEv.alertaIntruso] else []),
        movimiento e = none := by
      split_ifs
      · exact List.forall_mem_singleton.mpr rfl
      · exact fun e he => nomatch he
    obtain ⟨hc1, hcierre⟩ := hc.paso (by rw [hst]; exact nofun) h1 hevs nofun
    exact (hc1.corriente hcierre h2).1
  | espera hst h1 =>
    have htrace : c'.trace = c.trace := h1.trace
    refine ⟨htrace ▸ hc.sana, h1.lista ▸ hc.lista, iff_of_true ?_ h1.estado⟩
    rw [htrace]
    exact hc.estado.mpr hst
  | cierra hst h1 =>
    have hsana := hc.sana.cierra (hc.estado.mpr hst) c.st.listaPins
    have hcerrada : ¬ Abierta (.accion c.st.listaPins .cerrarCerradura :: c.trace) := by
      unfold Abierta
      exact nofun
    have hevs : ∀ e ∈ [MefEv.peticion, .estado .esperandoAccion], movimiento e = none :=
      List.forall_mem_cons.mpr ⟨rfl, List.forall_mem_singleton.mpr rfl⟩
    obtain ⟨hsana', hcerrada'⟩ := hsana.cerrada hcerrada hevs
    refine ⟨?_, h1.lista ▸ hc.lista, iff_of_false ?_ ?_⟩
    · rw [h1.trace]
      exact hsana'
    · rw [h1.trace]
      exact hcerrada'
    · rw [h1.estado]
      exact nofun

theorem Cerrojo.parada (hc : Cerrojo c) (h : Parada c c') : Sana c'.trace := by
  cases h with
  | corriente hcierre h1 => exact (hc.corriente hcierre h1).1.sana
  | espera _ h1 =>
    rw [h1.trace]
    exact hc.sana
  | cierra hst h1 =>
    rw [h1.trace]
    exact hc.sana.cierra (hc.estado.mpr hst) _

end Cerrojo

/-- From a closed bolt, at any moment of any run: the movements alternate and the
first one opens, while the bolt is open nothing happens but the change to
SENSOR_CIERRE and the closing, the motor stays within one stroke, and between two
rounds the bolt is open exactly in SENSOR_CIERRE. -/
theorem cerrojo_alterna (n : ℕ) (inputs : List Sample) :
    (∀ i dir, (movimientos (principal n ⟨Mef.inicial, inputs, []⟩).2.trace).reverse[i]? = some dir →
      (dir = true ↔ i % 2 = 0)) ∧
    Quieta (principal n ⟨Mef.inicial, inputs, []⟩).2.trace ∧
    (∀ posicion ∈
      recorrido 0 (movimientos (principal n ⟨Mef.inicial, inputs, []⟩).2.trace).reverse,
      0 ≤ posicion ∧ posicion ≤ steps) ∧
    ∀ c, principal n ⟨Mef.inicial, inputs, []⟩ = (some (), c) →
      (Abierta c.trace ↔ c.st.estadoActual = .sensorCierre) := by
  have hnil : ¬ Abierta [] := nofun
  have h0 : Cerrojo ⟨Mef.inicial, inputs, []⟩ :=
    ⟨sana_nil, conCodigo_inicial, iff_of_false hnil nofun⟩
  have hrun : (principal n).wp (fun c => Sana c.trace) (fun _ => Cerrojo)
      ⟨Mef.inicial, inputs, []⟩ :=
    principal_invariant (fun _ h => h.sana) (fun _ h => (h0.corriente nofun h).1)
      (fun _ _ h => h.ronda) (fun _ _ h => h.parada) n
  have hsana : Sana (principal n ⟨Mef.inicial, inputs, []⟩).2.trace :=
    Prog.wp_final (Prog.wp_mono hrun (fun _ h => h) fun _ _ h => h.sana)
  refine ⟨hsana.alternan, hsana.quieta, ?_, fun c hret => ?_⟩
  · exact recorrido_acotado (k := 0) fun i dir hi => hsana.alternan i dir hi
  · unfold Prog.wp at hrun
    rw [hret] at hrun
    exact hrun.estado

end Cerradura
