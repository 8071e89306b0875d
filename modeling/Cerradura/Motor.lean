import Cerradura.Cerrojo
import Cerradura.Protocol

/-!
# The pins of the motor

stepperMotor.c moves the bolt through the three pins of a DRV8825. `drv8825` is
the driver as its comments describe it: active while EN is low, one step for each
pulse of 2 to 10 µs on STEP, in the direction that DIR has at that moment.

Result: `motor_en_orden`. In every run the pins are used as the driver demands and
no pulse takes the motor beyond its stroke. After each round the driver is off, with
the bolt at one end: open in SENSOR_CIERRE, and closed in any other state.
-/

namespace Cerradura

open Reactive Transition

/-! ## stepperMotor.c -/

inductive Pin
  | step | dir | en
deriving DecidableEq

inductive PinEv
  | salida (pin : Pin) -- Chip_GPIO_SetPinDIROutput
  | nivel (pin : Pin) (alto : Bool) -- Chip_GPIO_SetPinState
  | espera (us : ℕ) -- delayInaccurateUs
deriving DecidableEq

abbrev PinProg : Type := Prog Unit Unit PinEv Unit

namespace Pines

/-- STEP_PULSE_HIGH and STEP_PULSE_LOW -/
def stepPulseHigh : ℕ := 5

def stepPulseLow : ℕ := 2500

def driverConfig : PinProg := do
  Prog.emit (.salida .step)
  Prog.emit (.salida .dir)
  Prog.emit (.salida .en)
  Prog.emit (.nivel .en true)

def stepPulse : PinProg := do
  Prog.emit (.nivel .step true)
  Prog.emit (.espera stepPulseHigh)
  Prog.emit (.nivel .step false)

/-- The last `i` rounds of the loop of `step_move`. -/
def pulsos : ℕ → PinProg
  | 0 => pure ()
  | i + 1 => do
    stepPulse
    Prog.emit (.espera stepPulseLow)
    pulsos i

def stepMove (dir : Bool) : PinProg := do
  Prog.emit (.nivel .en false)
  Prog.emit (.nivel .dir (if dir then false else true))
  pulsos steps
  Prog.emit (.nivel .en true)

/-- `step_move(ON)` -/
def abrirCerradura : PinProg := stepMove true

/-- `step_move(OFF)` -/
def cerrarCerradura : PinProg := stepMove false

/-- What a function writes to the pins. -/
def escrito (m : PinProg) : List PinEv := (m ⟨(), [], []⟩).2.trace

end Pines

/-- What a step of the machine writes. -/
def MefEv.pines : MefEv → List PinEv
  | .accion _ .abrirCerradura => Pines.escrito Pines.abrirCerradura
  | .accion _ .cerrarCerradura => Pines.escrito Pines.cerrarCerradura
  | _ => []

/-- All that is written, from `main` on. -/
def pinesDe (traza : List MefEv) : List PinEv :=
  traza.flatMap MefEv.pines ++ Pines.escrito Pines.driverConfig

/-! ## The driver -/

structure Drv8825 where
  -- the pins that have been made outputs
  salidas : List Pin
  en : Bool
  dir : Bool
  step : Bool
  -- for how long STEP has been at its level
  ancho : ℕ
  posicion : ℤ

/-- The levels after a reset are low. -/
def Drv8825.reset : Drv8825 := ⟨[], false, false, false, 0, 0⟩

/-- Where a pulse takes the motor. To open is the positive direction. -/
def Drv8825.avance (q : Drv8825) : ℤ := if q.dir then q.posicion - 1 else q.posicion + 1

/-- A level that may be written to a pin. DIR and EN are left alone during a pulse. -/
def Drv8825.Admite (q : Drv8825) : Pin → Bool → Prop
  | .step, true => q.en = false ∧ q.step = false ∧ 0 ≤ q.avance ∧ q.avance ≤ steps
  | .step, false => 2 ≤ q.ancho ∧ q.ancho ≤ 10
  | _, _ => q.step = false

def Drv8825.escribe (q : Drv8825) : Pin → Bool → Drv8825
  | .step, true => { q with step := true, ancho := 0, posicion := q.avance }
  | .step, false => { q with step := false, ancho := 0 }
  | .dir, alto => { q with dir := alto }
  | .en, alto => { q with en := alto }

def drv8825 : Machine Drv8825 PinEv where
  Enabled q
    | .nivel pin alto => pin ∈ q.salidas ∧ q.Admite pin alto
    | _ => True
  next q
    | .salida pin => { q with salidas := pin :: q.salidas }
    | .nivel pin alto => q.escribe pin alto
    | .espera us => { q with ancho := q.ancho + us }

/-- The driver is off at `p`. -/
structure Parado (p : ℤ) (q : Drv8825) : Prop where
  salidas : ∀ pin, pin ∈ q.salidas
  en : q.en = true
  step : q.step = false
  posicion : q.posicion = p

/-- The driver is on at `p`, between two pulses. -/
structure Girando (dir : Bool) (p : ℤ) (q : Drv8825) : Prop where
  salidas : ∀ pin, pin ∈ q.salidas
  en : q.en = false
  dir : q.dir = !dir
  step : q.step = false
  posicion : q.posicion = p

/-- The position `k` steps after `p`. -/
def trasPasos (dir : Bool) (k : ℕ) (p : ℤ) : ℤ := if dir then p + k else p - k

/-- The position at one end of the stroke. -/
def extremo (abierta : Bool) : ℤ := if abierta then steps else 0

/-! ## The functions -/

theorem driverConfig_sigue : Prog.Follows drv8825 (fun _ q => q = .reset) Pines.driverConfig
    fun _ _ => Parado (extremo false) := by
  refine .bind (R := fun _ _ q => q = { Drv8825.reset with salidas := [.step] }) ?_ fun _ =>
    .bind (R := fun _ _ q => q = { Drv8825.reset with salidas := [.dir, .step] }) ?_ fun _ =>
      .bind (R := fun _ _ q => q = { Drv8825.reset with salidas := [.en, .dir, .step] }) ?_ fun _ =>
        .emit ?_
  · refine .emit ?_
    rintro _ _ rfl
    exact ⟨trivial, rfl⟩
  · refine .emit ?_
    rintro _ _ rfl
    exact ⟨trivial, rfl⟩
  · refine .emit ?_
    rintro _ _ rfl
    exact ⟨trivial, rfl⟩
  · rintro _ _ rfl
    refine ⟨⟨List.mem_cons_self, rfl⟩, fun pin => ?_, rfl, rfl, rfl⟩
    cases pin <;> decide

/-- A pulse that stays within the stroke is a step. -/
theorem stepPulse_sigue {dir : Bool} {p : ℤ} (h0 : 0 ≤ trasPasos dir 1 p)
    (h1 : trasPasos dir 1 p ≤ steps) : Prog.Follows drv8825 (fun _ => Girando dir p) Pines.stepPulse
      fun _ _ => Girando dir (trasPasos dir 1 p) := by
  let Alta (us : ℕ) (q : Drv8825) : Prop :=
    ∃ q0, Girando dir (trasPasos dir 1 p) q0 ∧ q = { q0 with step := true, ancho := us }
  refine .bind (R := fun _ _ => Alta 0) (.emit fun _ q h => ?_) fun _ =>
    .bind (R := fun _ _ => Alta Pines.stepPulseHigh) (.emit fun _ q h => ?_) fun _ =>
      .emit fun _ q h => ?_
  · have havance : q.avance = trasPasos dir 1 p := by
      unfold Drv8825.avance trasPasos
      rw [h.dir, h.posicion]
      cases dir <;> rfl
    refine ⟨⟨h.salidas _, h.en, h.step, havance ▸ h0, havance ▸ h1⟩,
      { q with posicion := q.avance }, ⟨h.salidas, h.en, h.dir, h.step, havance⟩, rfl⟩
  · obtain ⟨q0, hq0, rfl⟩ := h
    exact ⟨trivial, q0, hq0, rfl⟩
  · obtain ⟨q0, hq0, rfl⟩ := h
    have hancho : 2 ≤ Pines.stepPulseHigh ∧ Pines.stepPulseHigh ≤ 10 := by decide
    exact ⟨⟨hq0.salidas _, hancho⟩, hq0.salidas, hq0.en, hq0.dir, rfl, hq0.posicion⟩

theorem trasPasos_succ (dir : Bool) (k : ℕ) (p : ℤ) :
    trasPasos dir (k + 1) p = trasPasos dir k (trasPasos dir 1 p) := by
  cases dir <;> simp only [trasPasos] <;> push_cast <;> ring

/-- The loop takes the motor as many steps, if it stays within its stroke. -/
theorem pulsos_sigue {dir : Bool} {k : ℕ} {p : ℤ}
    (h : ∀ i ≤ k, 0 ≤ trasPasos dir i p ∧ trasPasos dir i p ≤ steps) :
    Prog.Follows drv8825 (fun _ => Girando dir p) (Pines.pulsos k)
      fun _ _ => Girando dir (trasPasos dir k p) := by
  induction k generalizing p with
  | zero =>
    have hp : trasPasos dir 0 p = p := by cases dir <;> simp [trasPasos]
    exact .pure fun _ _ hq => hp.symm ▸ hq
  | succ k ih =>
    obtain ⟨h0, h1⟩ := h 1 (Nat.succ_pos k)
    refine .bind (stepPulse_sigue h0 h1) fun _ => .bind (R := fun _ _ =>
      Girando dir (trasPasos dir 1 p)) (.emit fun _ q hq => ?_) fun _ => ?_
    · exact ⟨trivial, hq.salidas, hq.en, hq.dir, hq.step, hq.posicion⟩
    · rw [trasPasos_succ dir k]
      refine ih fun i hi => ?_
      rw [← trasPasos_succ]
      exact h (i + 1) (Nat.succ_le_succ hi)

theorem pulsos_wp (k : ℕ) (c : Config Unit Unit PinEv) :
    (Pines.pulsos k).wp (fun _ => False) (fun _ _ => True) c := by
  induction k generalizing c with
  | zero => exact trivial
  | succ k ih =>
    unfold Pines.pulsos Pines.stepPulse
    simp only [Prog.wp_bind, Prog.wp_emit]
    exact ih _

-- a hundred rounds are never to be unrolled
attribute [irreducible] Pines.pulsos

/-- A movement takes the bolt from one end to the other. -/
theorem stepMove_sigue (dir : Bool) : Prog.Follows drv8825 (fun _ => Parado (extremo !dir))
    (Pines.stepMove dir) fun _ _ => Parado (extremo dir) := by
  let Activo (q : Drv8825) : Prop := (∀ pin, pin ∈ q.salidas) ∧ q.en = false ∧ q.step = false ∧
    q.posicion = extremo !dir
  have hfin : trasPasos dir steps (extremo !dir) = extremo dir := by
    cases dir <;> simp [trasPasos, extremo]
  have hrange : ∀ i ≤ steps, 0 ≤ trasPasos dir i (extremo !dir) ∧
      trasPasos dir i (extremo !dir) ≤ steps := by
    intro i hi
    cases dir <;> simp [trasPasos, extremo, hi]
  unfold Pines.stepMove
  refine .bind (R := fun _ _ => Activo) (.emit fun _ q h => ?_) fun _ =>
    .bind (R := fun _ _ => Girando dir (extremo !dir)) (.emit fun _ q h => ?_) fun _ =>
      .bind (pulsos_sigue hrange) fun _ => .emit fun _ q h => ?_
  · exact ⟨⟨h.salidas _, h.step⟩, h.salidas, rfl, h.step, h.posicion⟩
  · obtain ⟨hsalidas, hen, hstep, hposicion⟩ := h
    refine ⟨⟨hsalidas _, hstep⟩, hsalidas, hen, ?_, hstep, hposicion⟩
    cases dir <;> rfl
  · exact ⟨⟨h.salidas _, h.step⟩, h.salidas, rfl, h.step, h.posicion.trans hfin⟩

/-- What a function that returns does to the driver. -/
theorem escrito_sigue {m : PinProg} {P Q : Drv8825 → Prop} {q : Drv8825}
    (h : Prog.Follows drv8825 (fun _ => P) m fun _ _ => Q)
    (hm : m.wp (fun _ => False) (fun _ _ => True) ⟨(), [], []⟩) (hq : P q) :
    drv8825.Legal q (Pines.escrito m) ∧ Q (drv8825.after q (Pines.escrito m)) := by
  obtain ⟨a, c', hret, -⟩ := Prog.wp_returns hm
  refine ⟨h.legal_of_nil hq rfl, ?_⟩
  unfold Pines.escrito
  rw [hret]
  exact h.after_of_nil hq rfl hret

theorem stepMove_wp (dir : Bool) (c : Config Unit Unit PinEv) :
    (Pines.stepMove dir).wp (fun _ => False) (fun _ _ => True) c := by
  unfold Pines.stepMove
  simp only [Prog.wp_bind, Prog.wp_emit]
  exact pulsos_wp steps _

theorem driverConfig_wp (c : Config Unit Unit PinEv) :
    Pines.driverConfig.wp (fun _ => False) (fun _ _ => True) c := by
  unfold Pines.driverConfig
  simp only [Prog.wp_bind, Prog.wp_emit]

/-! ## Runs -/

/-- The bolt, which is moved to the other end each time. -/
def bulon : Machine Bool MefEv where
  Enabled abierta e := ∀ dir, movimiento e = some dir → dir = !abierta
  next abierta e := (movimiento e).getD abierta

/-- Movements that alternate. -/
theorem bulon_of_alternan {traza : List MefEv} (h : Alternan (movimientos traza)) :
    bulon.Legal false traza ∧ (bulon.after false traza = true ↔ Abierta traza) := by
  induction traza with
  | nil => exact ⟨trivial, iff_of_false nofun nofun⟩
  | cons e traza ih =>
    cases he : movimiento e with
    | none =>
      have hmovs : movimientos (e :: traza) = movimientos traza := List.filterMap_cons_none he
      rw [hmovs] at h
      obtain ⟨hlegal, hafter⟩ := ih h
      refine ⟨⟨hlegal, fun dir hdir => absurd (he.symm.trans hdir) nofun⟩, ?_⟩
      have hnext : bulon.after false (e :: traza) = bulon.after false traza :=
        congrArg (Option.getD · _) he
      unfold Abierta
      rw [hnext, hmovs]
      exact hafter
    | some dir =>
      have hmovs : movimientos (e :: traza) = dir :: movimientos traza :=
        List.filterMap_cons_some he
      rw [hmovs, alternan_cons] at h
      obtain ⟨hlegal, hafter⟩ := ih h.1
      refine ⟨⟨hlegal, fun dir' hdir => ?_⟩, ?_⟩
      · obtain rfl : dir = dir' := Option.some.inj (he.symm.trans hdir)
        rw [Bool.eq_iff_iff, h.2, Bool.not_eq_true', ← Bool.not_eq_true, hafter, abierta_iff h.1]
        exact Nat.mod_two_ne_one.symm
      · have hnext : bulon.after false (e :: traza) = dir := congrArg (Option.getD · _) he
        unfold Abierta
        rw [hnext, hmovs, List.head?_cons, Option.some.injEq]

/-- An event that the bolt allows leaves the driver off at the end that it says. -/
theorem pines_sigue {abierta : Bool} {q : Drv8825} {e : MefEv} (hq : Parado (extremo abierta) q)
    (he : bulon.Enabled abierta e) : drv8825.Legal q e.pines ∧
      Parado (extremo (bulon.next abierta e)) (drv8825.after q e.pines) := by
  have hmueve (dir : Bool) (hdir : movimiento e = some dir)
      (hpines : e.pines = Pines.escrito (Pines.stepMove dir)) : drv8825.Legal q e.pines ∧
      Parado (extremo (bulon.next abierta e)) (drv8825.after q e.pines) := by
    obtain rfl : abierta = !dir := by rw [he dir hdir, Bool.not_not]
    have hnext : bulon.next (!dir) e = dir := congrArg (Option.getD · _) hdir
    rw [hpines, hnext]
    exact escrito_sigue (stepMove_sigue dir) (stepMove_wp dir _) hq
  cases e with
  | accion lista a =>
    cases a with
    | abrirCerradura => exact hmueve true rfl rfl
    | cerrarCerradura => exact hmueve false rfl rfl
    | _ => exact ⟨trivial, hq⟩
  | _ => exact ⟨trivial, hq⟩

theorem pinesDe_sigue {traza : List MefEv} (h : bulon.Legal false traza) :
    drv8825.Legal .reset (pinesDe traza) ∧
      Parado (extremo (bulon.after false traza)) (drv8825.after .reset (pinesDe traza)) := by
  obtain ⟨hconfig, hparado⟩ := escrito_sigue driverConfig_sigue (driverConfig_wp _) rfl
  obtain ⟨hlegal, hafter⟩ := Machine.legal_flatMap
    (R := fun abierta q => Parado (extremo abierta) q) (fun _ _ _ hq he => pines_sigue hq he)
      hparado h
  unfold pinesDe
  rw [Machine.legal_append, Machine.after_append]
  exact ⟨⟨hconfig, hlegal⟩, hafter⟩

theorem principal_cerrojo (n : ℕ) (inputs : List Sample) :
    (principal n).wp (fun c => Sana c.trace) (fun _ => Cerrojo) ⟨Mef.inicial, inputs, []⟩ := by
  have h0 : Cerrojo ⟨Mef.inicial, inputs, []⟩ :=
    ⟨sana_nil, conCodigo_inicial, iff_of_false nofun nofun⟩
  exact principal_invariant (fun _ h => h.sana) (fun _ h => (h0.corriente nofun h).1)
    (fun _ _ h => h.ronda) (fun _ _ h => h.parada) n

/-- At any moment of any run the pins have been used as the driver demands, and after
each round the driver is off, at the end that SENSOR_CIERRE says. -/
theorem motor_en_orden (n : ℕ) (inputs : List Sample) :
    drv8825.Legal .reset (pinesDe (principal n ⟨Mef.inicial, inputs, []⟩).2.trace) ∧
      ∀ c, principal n ⟨Mef.inicial, inputs, []⟩ = (some (), c) →
        Parado (extremo (c.st.estadoActual = .sensorCierre))
          (drv8825.after .reset (pinesDe c.trace)) := by
  have hrun := principal_cerrojo n inputs
  have hsana : Sana (principal n ⟨Mef.inicial, inputs, []⟩).2.trace :=
    Prog.wp_final (Prog.wp_mono hrun (fun _ h => h) fun _ _ h => h.sana)
  refine ⟨(pinesDe_sigue (bulon_of_alternan hsana.alternan).1).1, fun c hc => ?_⟩
  have hcerrojo : Cerrojo c := Prog.wp_elim hrun hc
  obtain ⟨hlegal, hafter⟩ := bulon_of_alternan hcerrojo.sana.alternan
  have hestado : bulon.after false c.trace = decide (c.st.estadoActual = .sensorCierre) := by
    rw [Bool.eq_iff_iff, decide_eq_true_iff, hafter, hcerrojo.estado]
  rw [← hestado]
  exact (pinesDe_sigue hlegal).2

end Cerradura
