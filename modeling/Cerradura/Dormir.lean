import Cerradura.Transition
import Mathlib.Data.Nat.Notation

/-!
# Going to sleep

`entrarModoSleep` of MEF.c forgets the presence seen so far, enables the
interrupt of the presence sensor, stops the tick, draws a screen and waits for
an interrupt. `GPIO0_IRQHandler` may run before the wait, and then nothing is
left for the wait to see.

Results:
1. `no_sordo`: in every run in which no edge comes before the interrupt is
   clear and the handler waits for the processor to sleep, an edge wakes it;
   any other step can end in a sleep that an edge has preceded.
2. `sordo_alcanzable`: such a sleep.
-/

namespace Cerradura

open Transition

/-! ## The code -/

/-- The next statement of `entrarModoSleep`. -/
inductive Punto
  -- the rest of the program
  | fuera
  -- eventoPresencia = false
  | olvidar
  | clearIntStatus
  | clearPendingIRQ
  | enableIRQ
  -- SysTick->CTRL &= ~SysTick_CTRL_TICKINT_Msk
  | tickOff
  -- SCB->SCR &= ~SCB_SCR_SLEEPDEEP_Msk
  | sleepNormal
  -- display_clear to display_update
  | dibujar
  -- before __WFI and in it
  | wfi
  | dormido
  | disableIRQ
  -- SysTick->CTRL |= SysTick_CTRL_TICKINT_Msk
  | tickOn
deriving DecidableEq, Repr

structure Sueno where
  punto : Punto
  eventoPresencia : Bool
  -- IST, bit PININTCH0
  intStatus : Bool
  -- PIN_INT0_IRQn in the NVIC
  pendiente : Bool
  habilitada : Bool
  tickint : Bool
  sleepdeep : Bool
  -- an edge has come since the last `eventoPresencia = false` before a sleep
  recibida : Bool
deriving DecidableEq, Repr

inductive Suceso
  | paso
  -- an edge of the presence sensor
  | arista
  -- GPIO0_IRQHandler
  | handler
  -- the interrupt of the tick
  | tick
  -- ESPERANDO_ACCION looks at eventoPresencia
  | atender
deriving DecidableEq, Repr

namespace Sueno

/-- An enabled interrupt is pending. -/
def llama (s : Sueno) : Bool := s.habilitada && s.pendiente

/-- One statement. An interrupt whose status is still set stays pending when the
NVIC forgets it, if the NVIC looks at the level of the request (`nivel`). -/
def paso (nivel : Bool) (s : Sueno) : Sueno :=
  match s.punto with
  | .fuera => { s with punto := .olvidar }
  | .olvidar => { s with punto := .clearIntStatus, eventoPresencia := false, recibida := false }
  | .clearIntStatus => { s with punto := .clearPendingIRQ, intStatus := false }
  | .clearPendingIRQ => { s with punto := .enableIRQ, pendiente := nivel && s.intStatus }
  | .enableIRQ => { s with punto := .tickOff, habilitada := true }
  | .tickOff => { s with punto := .sleepNormal, tickint := false }
  | .sleepNormal => { s with punto := .dibujar, sleepdeep := false }
  | .dibujar => { s with punto := .wfi }
  | .wfi => { s with punto := if s.llama then .disableIRQ else .dormido }
  | .dormido => { s with punto := .disableIRQ }
  | .disableIRQ => { s with punto := .tickOn, habilitada := false }
  | .tickOn => { s with punto := .fuera, tickint := true }

/-- In deep sleep the pin interrupts have no clock. -/
def arista (s : Sueno) : Sueno :=
  if s.punto = .dormido ∧ s.sleepdeep = true then { s with recibida := true }
  else { s with intStatus := true, pendiente := true, recibida := true }

/-- An interrupt that has been served ends the wait. -/
def vuelve (s : Sueno) : Sueno :=
  if s.punto = .dormido then { s with punto := .disableIRQ } else s

def handler (s : Sueno) : Sueno :=
  { s with intStatus := false, pendiente := false, eventoPresencia := true }.vuelve

end Sueno

open Sueno in
/-- Edges at any time, and the handlers when they may run. -/
def modoSleep (nivel : Bool) : Machine Sueno Suceso where
  Enabled s
    | .paso => s.punto = .dormido → s.llama = true
    | .arista => True
    | .handler => s.llama = true
    | .tick => s.tickint = true
    | .atender => s.punto = .fuera
  next s
    | .paso => s.paso nivel
    | .arista => s.arista
    | .handler => s.handler
    | .tick => s.vuelve
    | .atender => { s with eventoPresencia := false }

/-- Asleep, and an edge has come that is not going to wake it. -/
def Sueno.Sordo (s : Sueno) : Prop :=
  s.punto = .dormido ∧ s.llama = false ∧ s.recibida = true

instance (s : Sueno) : Decidable s.Sordo :=
  inferInstanceAs (Decidable (s.punto = .dormido ∧ s.llama = false ∧ s.recibida = true))

/-- No edge comes where it is still going to be cleared, and the handler does not
run between `enableIRQ` and the sleep. -/
def ATiempo (nivel : Bool) (s : Sueno) : Suceso → Prop
  | .arista => s.punto ≠ .clearIntStatus ∧ (s.punto = .clearPendingIRQ → nivel = true)
  | .handler => s.punto = .dormido ∨ s.punto = .disableIRQ
  | _ => True

/-! ## What holds at each statement -/

/-- From `enableIRQ` to the wait an edge is a pending interrupt. -/
def Sueno.Sano (nivel : Bool) (s : Sueno) : Prop :=
  match s.punto with
  | .fuera | .olvidar | .tickOn => s.habilitada = false
  | .clearIntStatus => s.habilitada = false ∧ s.recibida = false
  | .clearPendingIRQ =>
    s.habilitada = false ∧ s.recibida = s.intStatus ∧ (s.recibida = true → nivel = true)
  | .enableIRQ => s.habilitada = false ∧ s.recibida = s.pendiente
  | .tickOff | .sleepNormal => s.habilitada = true ∧ s.recibida = s.pendiente
  | .dibujar | .wfi | .dormido =>
    s.habilitada = true ∧ s.recibida = s.pendiente ∧ s.sleepdeep = false
  | .disableIRQ => True

variable {nivel : Bool} {s s0 : Sueno} {e : Suceso}

theorem sano_paso (h : s.Sano nivel) : (s.paso nivel).Sano nivel := by
  unfold Sueno.Sano at h
  unfold Sueno.paso
  cases hp : s.punto <;> simp only [hp] at h ⊢
  case fuera | disableIRQ | tickOn => simp_all [Sueno.Sano]
  case olvidar | sleepNormal | dibujar | dormido => simp_all [Sueno.Sano]
  case clearIntStatus => simp_all [Sueno.Sano]
  case clearPendingIRQ =>
    obtain ⟨hirq, hrecibida, hnivel⟩ := h
    refine ⟨hirq, ?_⟩
    show s.recibida = (nivel && s.intStatus)
    cases hr : s.recibida <;> simp_all
  case enableIRQ => exact ⟨rfl, h.2⟩
  case tickOff => exact h
  case wfi =>
    cases hl : s.llama
    · exact h
    · trivial

theorem sano_arista (h : s.Sano nivel) (hok : ATiempo nivel s .arista) : s.arista.Sano nivel := by
  obtain ⟨hstatus, hpending⟩ := hok
  unfold Sueno.Sano at h
  cases hp : s.punto <;> simp_all [Sueno.arista, Sueno.Sano]

theorem sano_handler (hok : ATiempo nivel s .handler) : s.handler.Sano nivel := by
  rcases hok with hp | hp <;> simp [Sueno.handler, Sueno.vuelve, Sueno.Sano, hp]

theorem sano_step (h : s.Sano nivel) (henabled : (modoSleep nivel).Enabled s e)
    (hok : ATiempo nivel s e) : ((modoSleep nivel).next s e).Sano nivel := by
  cases e with
  | paso => exact sano_paso h
  | arista => exact sano_arista h hok
  | handler => exact sano_handler hok
  | tick =>
    show s.vuelve.Sano nivel
    unfold Sueno.vuelve
    split
    · trivial
    · exact h
  | atender =>
    have hp : s.punto = .fuera := henabled
    show Sueno.Sano nivel { s with eventoPresencia := false }
    simp_all [Sueno.Sano]

theorem Sueno.Sano.not_sordo (h : s.Sano nivel) : ¬ s.Sordo := by
  rintro ⟨hp, hllama, hrecibida⟩
  simp only [Sueno.Sano, hp] at h
  obtain ⟨hirq, hpending, -⟩ := h
  rw [Sueno.llama, hirq, ← hpending, hrecibida] at hllama
  exact absurd hllama (by decide)

/-! ## An edge that is lost -/

/-- The statements up to the wait. -/
def Punto.faltan : Punto → ℕ
  | .clearIntStatus => 7
  | .clearPendingIRQ => 6
  | .enableIRQ => 5
  | .tickOff => 4
  | .sleepNormal => 3
  | .dibujar => 2
  | .wfi => 1
  | _ => 0

/-- An edge has come, and nothing will be pending at the wait. -/
def Sueno.Perdida (nivel : Bool) (s : Sueno) : Prop :=
  s.recibida = true ∧
    match s.punto with
    | .clearIntStatus => True
    | .clearPendingIRQ => (nivel && s.intStatus) = false
    | .enableIRQ | .tickOff | .sleepNormal | .dibujar | .wfi | .dormido => s.pendiente = false
    | _ => False

theorem perdida_paso (h : s.Perdida nivel) (hp : s.punto ≠ .dormido) :
    (s.paso nivel).Perdida nivel ∧ (s.paso nivel).punto.faltan + 1 = s.punto.faltan := by
  unfold Sueno.Perdida at h
  cases hpunto : s.punto <;> simp_all [Sueno.Perdida, Sueno.paso, Punto.faltan, Sueno.llama]

/-- The processor goes to sleep by itself. -/
theorem sordo_of_perdida (h : s.Perdida nivel) :
    (modoSleep nivel).Allowed Machine.Any s (.replicate s.punto.faltan .paso) ∧
      ((modoSleep nivel).runs s (.replicate s.punto.faltan .paso)).Sordo := by
  induction hn : s.punto.faltan generalizing s with
  | zero =>
    refine ⟨trivial, ?_⟩
    show s.Sordo
    unfold Sueno.Perdida at h
    cases hpunto : s.punto <;> simp_all [Sueno.Sordo, Sueno.llama, Punto.faltan]
  | succ n ih =>
    have hp : s.punto ≠ .dormido := by
      rintro hp
      simp [hp, Punto.faltan] at hn
    obtain ⟨hperdida, hfaltan⟩ := perdida_paso h hp
    obtain ⟨hallowed, hsordo⟩ := ih hperdida (Nat.succ.inj (hfaltan.trans hn))
    exact ⟨⟨⟨fun h => absurd h hp, trivial⟩, hallowed⟩, hsordo⟩

/-- A step that is not in time loses an edge. -/
theorem perdida_of_not_aTiempo (h : s.Sano nivel) (henabled : (modoSleep nivel).Enabled s e)
    (hok : ¬ ATiempo nivel s e) : ((modoSleep nivel).next s e).Perdida nivel := by
  unfold Sueno.Sano at h
  cases e with
  | arista =>
    have hp : s.punto = .clearIntStatus ∨ s.punto = .clearPendingIRQ ∧ nivel = false := by
      simpa [ATiempo, -not_and, not_and_or] using hok
    show s.arista.Perdida nivel
    rcases hp with hp | ⟨hp, rfl⟩ <;> simp [Sueno.arista, Sueno.Perdida, hp]
  | handler =>
    obtain ⟨hirq, hpending⟩ : s.habilitada = true ∧ s.pendiente = true := by
      simpa [Sueno.llama] using (show s.llama = true from henabled)
    show s.handler.Perdida nivel
    cases hp : s.punto <;>
      simp_all [ATiempo, Sueno.handler, Sueno.vuelve, Sueno.Perdida]
  | paso | tick | atender => exact absurd trivial hok

/-! ## Runs -/

/-- Every run that starts outside, with the interrupt off, is sound as long as
its steps are in time. A step that is not ends in a sleep that its edge does not
end, if nothing else comes. -/
theorem no_sordo (hfuera : s0.punto = .fuera) (hirq : s0.habilitada = false)
    (h : (modoSleep nivel).Reach (ATiempo nivel) s0 s) :
    ¬ s.Sordo ∧ ∀ e, (modoSleep nivel).Enabled s e → ¬ ATiempo nivel s e →
      ∃ n, (modoSleep nivel).Allowed Machine.Any ((modoSleep nivel).next s e)
          (.replicate n .paso) ∧
        ((modoSleep nivel).runs ((modoSleep nivel).next s e) (.replicate n .paso)).Sordo := by
  have h0 : s0.Sano nivel := by
    unfold Sueno.Sano
    rw [hfuera]
    exact hirq
  have hs : s.Sano nivel := h.invariant (fun _ _ => sano_step) h0
  refine ⟨hs.not_sordo, fun e henabled hok => ⟨_, sordo_of_perdida ?_⟩⟩
  exact perdida_of_not_aTiempo hs henabled hok

/-- The lock waits for a key, with the interrupt off. -/
def despierto : Sueno :=
  { punto := .fuera, eventoPresencia := false, intStatus := false, pendiente := false,
    habilitada := false, tickint := true, sleepdeep := false, recibida := false }

/-- An edge in the wait wakes the processor. -/
theorem no_sordo_arista :
    ¬ ((modoSleep true).runs despierto (.replicate 9 .paso ++ [.arista])).Sordo := by
  have hrun : (modoSleep true).Allowed (ATiempo true) despierto
      (.replicate 9 .paso ++ [.arista]) := by
    simp [Machine.Allowed, modoSleep, despierto, Sueno.paso, Sueno.llama, ATiempo,
      List.replicate]
  exact (no_sordo rfl rfl hrun.reach).1

/-- The handler runs while the screen is drawn. The flag is set, and the
processor sleeps with the tick off. -/
theorem sordo_alcanzable : ¬ ∀ nivel s,
    (modoSleep nivel).Reach Machine.Any despierto s → ¬ s.Sordo := by
  intro h
  have hrun : (modoSleep true).Allowed Machine.Any despierto
      (.replicate 7 .paso ++ [.arista, .handler] ++ .replicate 2 .paso) := by
    simp [Machine.Allowed, Machine.Any, modoSleep, despierto, Sueno.paso, Sueno.llama,
      Sueno.arista, Sueno.handler, Sueno.vuelve, List.replicate]
  exact h true _ hrun.reach (by decide)

end Cerradura
