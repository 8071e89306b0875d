import Cerradura.Ronda

/-!
# The intruder alert

`intentosFallidos` counts the wrong PINs. A granted PIN or fingerprint sets it
back to 0, and so does the alert. A granted card does not.

Result: `alarma_al_tercero`. The counter stays below 3, and as long as every
granted card finds it at 0 the alert is raised by the third wrong PIN since the
last opening or alert, and by no other. `alarma_tras_tarjeta` is a run in which
the first wrong PIN after a card raises it.
-/

namespace Cerradura

open Reactive

/-! ## The history of failures -/

/-- The PINs that have come to VALIDAR since the last opening or alert, in a
trace with the newest event first. A right one opens. -/
def fallos : List MefEv → ℕ
  | [] => 0
  | .accion _ .abrirCerradura :: _ => 0
  | .alertaIntruso :: _ => 0
  | .estado .validar :: antes => fallos antes + 1
  | _ :: antes => fallos antes

def alertas (traza : List MefEv) : ℕ :=
  traza.countP fun
    | .alertaIntruso => true
    | _ => false

theorem fallos_corriente {e : MefEv} {traza : List MefEv} (h : e.Corriente) :
    fallos (e :: traza) = fallos traza := by
  cases e with
  | accion _ a => cases a <;> first | rfl | exact h.elim
  | estado s => cases s <;> first | rfl | exact h.elim
  | alertaIntruso => exact h.elim
  | _ => rfl

theorem fallos_append {evs : List MefEv} (traza : List MefEv) (h : ∀ e ∈ evs, e.Corriente) :
    fallos (evs ++ traza) = fallos traza := by
  induction evs with
  | nil => rfl
  | cons e evs ih =>
    rw [List.cons_append, fallos_corriente (h e List.mem_cons_self)]
    exact ih fun d hd => h d (List.mem_cons_of_mem _ hd)

/-! ## The counter -/

/-- A known card is about to be accepted only with the counter at 0. -/
def TarjetaSinFallos (c : Config Mef Sample MefEv) : Prop :=
  c.st.estadoActual = .validarRfid → (obtenerTagPorRFID c.st.listaPins c.st.rfid).isSome →
    c.st.intentosFallidos = 0

/-- The counter is below 3, and active records have a code. -/
structure Acotado (c : Config Mef Sample MefEv) : Prop where
  lista : c.st.listaPins.ConCodigo
  acotado : c.st.intentosFallidos ≤ 2

/-- The counter is the history. In VALIDAR the PIN on hand is in the history
already. -/
structure Cuenta (c : Config Mef Sample MefEv) : Prop extends Acotado c where
  cuenta : fallos c.trace =
    c.st.intentosFallidos + (if c.st.estadoActual = .validar then 1 else 0)

section Cuenta

variable {c c' : Config Mef Sample MefEv}

theorem Acotado.corriente (hc : Acotado c) (h : Corriente c c') : Acotado c' :=
  ⟨(h hc.lista).lista, (h hc.lista).fallidos ▸ hc.acotado⟩

theorem Acotado.paso {evs : List MefEv} {e : EstadoMEF} {k : ℕ} (hc : Acotado c)
    (h : Paso c c' evs e k) (hk : k ≤ 2) : Acotado c' :=
  ⟨h.lista ▸ hc.lista, h.fallidos ▸ hk⟩

theorem Acotado.ronda (hc : Acotado c) (h : Ronda c c') : Acotado c' := by
  cases h with
  | corriente _ _ h1 => exact hc.corriente h1
  | digita _ h1 h2 => exact (hc.corriente h1).paso h2 (hc.corriente h1).acotado
  | huella _ h1 h2 => exact (hc.corriente h1).paso h2 (Nat.zero_le 2)
  | tarjeta _ _ h1 => exact hc.paso h1 hc.acotado
  | pin _ _ h1 => exact hc.paso h1 (Nat.zero_le 2)
  | rechazo _ _ h1 h2 _ =>
    refine (hc.paso h1 ?_).corriente h2
    have hle := hc.acotado
    split_ifs <;> omega
  | espera _ h1 => exact hc.paso h1 hc.acotado
  | cierra _ h1 => exact hc.paso h1 hc.acotado

/-- An ordinary step does not come to VALIDAR. -/
theorem Cuenta.corriente (hc : Cuenta c) (hvalidar : c.st.estadoActual ≠ .validar)
    (h : Corriente c c') : Cuenta c' ∧ c'.st.estadoActual ≠ .validar := by
  have hcalma := h hc.lista
  obtain ⟨evs, htrace, hevs⟩ := hcalma.eventos
  have hestado : c'.st.estadoActual ≠ .validar := by
    rcases hcalma.estado with heq | ⟨hne, -⟩
    · rwa [heq]
    · exact hne
  refine ⟨⟨hc.toAcotado.corriente h, ?_⟩, hestado⟩
  have hcuenta := hc.cuenta
  rw [if_neg hvalidar] at hcuenta
  rw [htrace, fallos_append c.trace fun e he => (hevs e he).1, if_neg hestado, hcalma.fallidos]
  exact hcuenta

/-- After a round that opens the history is empty. -/
theorem Cuenta.abre {evs : List MefEv} (hc : Acotado c) (h : Paso c c' evs .sensorCierre 0)
    (hevs : fallos (evs ++ c.trace) = 0) : Cuenta c' := by
  refine ⟨hc.paso h (Nat.zero_le 2), ?_⟩
  rw [h.trace, hevs, h.fallidos, if_neg (by rw [h.estado]; exact nofun)]

theorem Cuenta.ronda (hc : Cuenta c) (hok : TarjetaSinFallos c) (h : Ronda c c') : Cuenta c' := by
  have hacotado : Acotado c' := hc.toAcotado.ronda h
  have hcuenta := hc.cuenta
  cases h with
  | corriente hvalidar _ h1 => exact (hc.corriente hvalidar h1).1
  | digita hst h1 h2 =>
    obtain ⟨hc1, hvalidar⟩ := hc.corriente (by rw [hst]; exact nofun) h1
    have hcuenta1 := hc1.cuenta
    rw [if_neg hvalidar] at hcuenta1
    refine ⟨hacotado, ?_⟩
    rw [h2.trace, h2.fallidos, if_pos h2.estado]
    exact congrArg (· + 1) hcuenta1
  | huella hst h1 h2 => exact .abre (hc.toAcotado.corriente h1) h2 rfl
  | tarjeta hst htag h1 =>
    rw [hok hst htag] at h1
    exact .abre hc.toAcotado h1 rfl
  | pin _ _ h1 => exact .abre hc.toAcotado h1 rfl
  | rechazo hst _ h1 h2 hesp =>
    refine ⟨hacotado, ?_⟩
    have hc1 := hc.lista
    rw [← h1.lista] at hc1
    obtain ⟨evs, htrace, hevs⟩ := (h2 hc1).eventos
    have hvalidar : c'.st.estadoActual ≠ .validar := by rw [hesp]; exact nofun
    rw [if_pos hst] at hcuenta
    rw [htrace, fallos_append _ fun e he => (hevs e he).1, h1.trace, (h2 hc1).fallidos,
      h1.fallidos, if_neg hvalidar]
    split_ifs
    · rfl
    · exact hcuenta
  | espera hst h1 =>
    refine ⟨hacotado, ?_⟩
    rw [if_neg (by rw [hst]; exact nofun)] at hcuenta
    rw [h1.trace, h1.fallidos, if_neg (by rw [h1.estado]; exact nofun)]
    exact hcuenta
  | cierra hst h1 =>
    refine ⟨hacotado, ?_⟩
    rw [if_neg (by rw [hst]; exact nofun)] at hcuenta
    rw [h1.trace, h1.fallidos, if_neg (by rw [h1.estado]; exact nofun)]
    exact hcuenta

/-- A wrong PIN leaves these events. -/
theorem mefUpdate_rechazo (hst : c.st.estadoActual = .validar)
    (hpin : validarPin c.st.listaPins c.st.pinIngresado = false) :
    (mefUpdate c).2.trace = .peticion :: .estado .esperandoAccion ::
      ((if c.st.intentosFallidos + 1 = 3 then [.alertaIntruso] else []) ++ c.trace) := by
  refine Prog.wp_final (P := fun c' => c'.trace = _) ?_
  unfold mefUpdate
  rw [Prog.wp_bind, Prog.wp_get, hst]
  show validar.wp _ _ c
  unfold validar
  rw [Prog.wp_bind, Prog.wp_get, if_neg (by rw [hpin]; exact Bool.false_ne_true), Prog.wp_bind]
  refine Prog.wp_mono (contarFallo_wp hst) (fun _ h => h) fun _ c1 h1 => ?_
  rw [Prog.wp_bind, tecladoReset_wp]
  exact congrArg (MefEv.peticion :: MefEv.estado .esperandoAccion :: ·) h1.trace

end Cuenta

/-- When a round has ended the counter is at most 2. In a run in which every card
that was accepted found the counter at 0, a wrong PIN raises the alert exactly if
it is the third since the last opening or alert. -/
theorem alarma_al_tercero (n : ℕ) (inputs : List Sample) :
    (∀ c, principal n ⟨Mef.inicial, inputs, []⟩ = (some (), c) → c.st.intentosFallidos ≤ 2) ∧
    ((∀ m < n, ∀ c, principal m ⟨Mef.inicial, inputs, []⟩ = (some (), c) → TarjetaSinFallos c) →
      ∀ c, principal n ⟨Mef.inicial, inputs, []⟩ = (some (), c) →
        c.st.estadoActual = .validar → validarPin c.st.listaPins c.st.pinIngresado = false →
        (alertas (mefUpdate c).2.trace = alertas c.trace + 1 ↔ fallos c.trace = 3)) := by
  have h0 : Acotado ⟨Mef.inicial, inputs, []⟩ := ⟨conCodigo_inicial, Nat.zero_le 2⟩
  refine ⟨fun c hret => ?_, fun hok c hret hst hpin => ?_⟩
  · exact (principal_returns (fun _ h => h0.corriente h)
      (fun _ _ h (_ : True) => h.ronda) (fun _ _ _ _ => trivial) hret).acotado
  · have hc : Cuenta c := principal_returns
      (fun _ h => (Cuenta.corriente ⟨h0, rfl⟩ nofun h).1) (fun _ _ h => h.ronda) hok hret
    have hcuenta := hc.cuenta
    rw [if_pos hst] at hcuenta
    have halertas : alertas (mefUpdate c).2.trace =
        alertas ((if c.st.intentosFallidos + 1 = 3 then [.alertaIntruso] else []) ++ c.trace) := by
      rw [mefUpdate_rechazo hst hpin]
      rfl
    rw [halertas, hcuenta]
    split_ifs with htres
    · exact iff_of_true (List.countP_cons_of_pos rfl) htres
    · exact iff_of_false (Nat.ne_of_lt (Nat.lt_succ_self _)) htres

/-- The keys 1 2 1 2 1 and a pause. -/
def pinIncorrecto : List Sample :=
  teclas "12121" ++ List.replicate 6 (Sample.quiet 26600)

/-- Two wrong PINs, ana's card, and another wrong PIN. -/
def dosTarjetaYOtro : List Sample :=
  arranque (jsonPins [ana]) ++ pinIncorrecto ++ pinIncorrecto ++
    tarjetaAna ++ pinIncorrecto

/-- The first wrong PIN after the card raises the alert. -/
theorem alarma_tras_tarjeta : ¬ ∀ n inputs c,
    principal n ⟨Mef.inicial, inputs, []⟩ = (some (), c) →
      c.st.estadoActual = .validar → validarPin c.st.listaPins c.st.pinIngresado = false →
      (alertas (mefUpdate c).2.trace = alertas c.trace + 1 ↔ fallos c.trace = 3) := by
  intro h
  obtain ⟨hret, hst, hpin, huno, halerta⟩ :
      (principal 32 ⟨Mef.inicial, dosTarjetaYOtro, []⟩).1 = some () ∧
      (principal 32 ⟨Mef.inicial, dosTarjetaYOtro, []⟩).2.st.estadoActual = .validar ∧
      validarPin (principal 32 ⟨Mef.inicial, dosTarjetaYOtro, []⟩).2.st.listaPins
        (principal 32 ⟨Mef.inicial, dosTarjetaYOtro, []⟩).2.st.pinIngresado = false ∧
      fallos (principal 32 ⟨Mef.inicial, dosTarjetaYOtro, []⟩).2.trace = 1 ∧
      alertas (mefUpdate (principal 32 ⟨Mef.inicial, dosTarjetaYOtro, []⟩).2).2.trace =
        alertas (principal 32 ⟨Mef.inicial, dosTarjetaYOtro, []⟩).2.trace + 1 := by decide +kernel
  have htres := (h 32 dosTarjetaYOtro _ (Prod.fst_eq_iff.mp hret) hst hpin).mp halerta
  rw [huno] at htres
  cases htres

/-- Three wrong PINs. -/
def tresPines : List Sample :=
  arranque (jsonPins [ana]) ++ pinIncorrecto ++ pinIncorrecto ++ pinIncorrecto

theorem alarma_al_tercero_tresPines :
    (principal 30 ⟨Mef.inicial, tresPines, []⟩).2.st.intentosFallidos ≤ 2 ∧
      alertas (mefUpdate (principal 30 ⟨Mef.inicial, tresPines, []⟩).2).2.trace =
        alertas (principal 30 ⟨Mef.inicial, tresPines, []⟩).2.trace + 1 := by
  obtain ⟨hret, hst, hpin, htres, hsin⟩ :
      (principal 30 ⟨Mef.inicial, tresPines, []⟩).1 = some () ∧
      (principal 30 ⟨Mef.inicial, tresPines, []⟩).2.st.estadoActual = .validar ∧
      validarPin (principal 30 ⟨Mef.inicial, tresPines, []⟩).2.st.listaPins
        (principal 30 ⟨Mef.inicial, tresPines, []⟩).2.st.pinIngresado = false ∧
      fallos (principal 30 ⟨Mef.inicial, tresPines, []⟩).2.trace = 3 ∧
      ∀ m < 30, (principal m ⟨Mef.inicial, tresPines, []⟩).2.st.estadoActual ≠ .validarRfid := by
    decide +kernel
  obtain ⟨hacotado, hrun⟩ := alarma_al_tercero 30 tresPines
  have hok : ∀ m < 30, ∀ c, principal m ⟨Mef.inicial, tresPines, []⟩ = (some (), c) →
      TarjetaSinFallos c := fun m hm c hc hst => by
    have hne := hsin m hm
    rw [hc] at hne
    exact absurd hst hne
  have hvuelve := Prod.fst_eq_iff.mp hret
  exact ⟨hacotado _ hvuelve, (hrun hok _ hvuelve hst hpin).mpr htres⟩

end Cerradura
