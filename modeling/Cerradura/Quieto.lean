import Cerradura.Registro
import Cerradura.Rutina

/-!
# A lock that nobody touches

With an idle keypad two loops of the firmware have no end of their own: MENU_ADMIN
waits for a key for ever, and REPOSO sleeps in `__WFI()` until an edge of the
presence sensor comes. All the others end by themselves: the timers of the prompts
run out, a scan takes what it takes, and what the network does not answer is given
up.

**What is assumed of the hardware.**
* The tick counter runs and is below 2^31 (`reloj`). It stands still in the sleep,
  so that the samples of a sleep are among those between two of its values.
* No key goes down.
* Where the lock may sleep, the presence sensor goes off once at least in every `w`
  samples (`Despierta`).

**Results.**
* `mefUpdate_takes`: a round outside MENU_ADMIN returns, with a bound on what it reads.
* `rondas_terminan_iff`: any number of rounds returns, unless the first of them is in
  MENU_ADMIN. Where the presence sensor does not go off, a lock in REPOSO stays there.
-/

namespace Cerradura

open Reactive

variable {σ ε α β γ : Type} {n start least most : ℕ}

/-! ## The clock of an idle keypad -/

/-- The clock of `reloj` with no key down: it has no reading for a sample that has
one. -/
def relojQuieto (n : ℕ) : Timing Sample where
  tick m := if m.tecla = none then m.tick else 2 ^ 31
  pace := n
  limit := 2 ^ 31

section Reloj

variable {inputs : List Sample}

theorem tick_quieto {m : Sample} (h : m.tecla = none) : (relojQuieto n).tick m = m.tick := if_pos h

theorem sin_tecla (h : (relojQuieto n).Runs start inputs) {m : Sample} (hm : m ∈ inputs) :
    m.tecla = none := by
  by_contra hne
  have hlt : (relojQuieto n).tick m < 2 ^ 31 := (h.range m hm).2
  rw [show (relojQuieto n).tick m = 2 ^ 31 from if_neg hne] at hlt
  exact Nat.lt_irrefl _ hlt

/-- An idle keypad and a running clock. -/
theorem relojQuieto_iff : (relojQuieto n).Runs start inputs ↔
    (reloj n).Runs start inputs ∧ ∀ m ∈ inputs, m.tecla = none := by
  have hrange (h : ∀ m ∈ inputs, m.tecla = none) {m : Sample} (hm : m ∈ inputs) :
      (relojQuieto n).tick m = (reloj n).tick m := if_pos (h m hm)
  have hmem {i : ℕ} {m : Sample} (hi : inputs[i]? = some m) : m ∈ inputs :=
    List.mem_of_getElem? hi
  constructor
  · intro h
    have hquieto : ∀ m ∈ inputs, m.tecla = none := fun m hm => sin_tecla h hm
    refine ⟨⟨?_, fun i a b ha hb => ?_, fun a ha => ?_⟩, hquieto⟩
    · exact h.sorted.imp_of_mem fun ha hb hab => by
        rwa [hrange hquieto ha, hrange hquieto hb] at hab
    · have hlt := h.advances i a b ha hb
      rwa [hrange hquieto (hmem ha), hrange hquieto (hmem hb)] at hlt
    · have hr := h.range a ha
      rwa [hrange hquieto ha] at hr
  · rintro ⟨h, hquieto⟩
    refine ⟨?_, fun i a b ha hb => ?_, fun a ha => ?_⟩
    · exact h.sorted.imp_of_mem fun ha hb hab => by
        rwa [hrange hquieto ha, hrange hquieto hb]
    · rw [hrange hquieto (hmem ha), hrange hquieto (hmem hb)]
      exact h.advances i a b ha hb
    · rw [hrange hquieto ha]
      exact h.range a ha

/-- What returns whatever is typed. -/
theorem takes_quieto {m : Prog σ Sample ε α} (h : Prog.Takes (reloj n) start least most m) :
    Prog.Takes (relojQuieto n) start least most m :=
  fun c hc hlen => h c (relojQuieto_iff.mp hc).1 hlen

theorem tickRead_bind_quieto {f : ℕ → Prog σ Sample ε α}
    (hf : ∀ t, Prog.Takes (relojQuieto n) t least most (f t)) :
    Prog.Takes (relojQuieto n) start (least + 1) (most + 1) (tickRead >>= f) := by
  have hread : tickRead >>= f = (Prog.read >>= fun m => f m.tick : Prog σ Sample ε α) := by
    funext c
    obtain ⟨st, inputs, trace⟩ := c
    cases inputs <;> rfl
  rw [hread]
  refine .read_bind_of fun m hlt => ?_
  have hm : m.tecla = none := by
    by_contra hne
    rw [show (relojQuieto n).tick m = 2 ^ 31 from if_neg hne] at hlt
    exact Nat.lt_irrefl _ hlt
  rw [tick_quieto hm]
  exact hf m.tick

end Reloj

/-! ## The keypad -/

section Teclas

variable {m : Sample} {rest : List Sample}

/-- The keypad after a sample without a key. -/
def Teclado.suelto (t : Teclado) : Teclado := { t with keyHeld := false, lastIndex := 0xFFFF }

theorem nuevaTecla_quieto (h : m.tecla = none) (t : Teclado) (trace : List TecladoEv) :
    nuevaTecla ⟨t, m :: rest, trace⟩ = (some none, ⟨t.suelto, rest, trace⟩) := by
  unfold nuevaTecla
  rw [Prog.bind_eq_of (show Prog.read ⟨t, m :: rest, trace⟩ = (some m, ⟨t, rest, trace⟩) from rfl)]
  rw [Prog.bind_eq_of (show Prog.get ⟨t, rest, trace⟩ = (some t, ⟨t, rest, trace⟩) from rfl), h]
  rfl

theorem leerPin_quieto (h : m.tecla = none) (timer : ℤ) (s : Mef) (trace : List MefEv) :
    leerPin timer ⟨s, m :: rest, trace⟩ =
      (some (.incompleto, timer), ⟨{ s with teclado := s.teclado.suelto }, rest, trace⟩) := by
  have hlee : tecladoLeerPin ⟨s.teclado, m :: rest, []⟩ =
      (some (.incompleto, none), ⟨s.teclado.suelto, rest, []⟩) :=
    Prog.bind_eq_of (nuevaTecla_quieto h s.teclado [])
  have hcon : conTeclado tecladoLeerPin ⟨s, m :: rest, trace⟩ =
      (some (.incompleto, none), ⟨{ s with teclado := s.teclado.suelto }, rest, trace⟩) := by
    unfold conTeclado Prog.zoom
    rw [hlee]
    rfl
  exact Prog.bind_eq_of hcon

/-- No PIN is completed and no menu asked for, and the timer stays. -/
theorem leerPin_bind_wp {timer : ℤ} {f : LeerPin × ℤ → MefProg α} {c : Config Mef Sample MefEv}
    {halt : Config Mef Sample MefEv → Prop} {post : α → Config Mef Sample MefEv → Prop}
    (hquieto : ∀ m ∈ c.inputs, m.tecla = none) (hhalt : c.inputs = [] → halt c)
    (h : ∀ m rest s, c.inputs = m :: rest →
      (f (.incompleto, timer)).wp halt post ⟨s, rest, c.trace⟩) :
    (leerPin timer >>= f).wp halt post c := by
  obtain ⟨s, inputs, trace⟩ := c
  cases inputs with
  | nil => exact hhalt rfl
  | cons m rest =>
    have hm := hquieto m List.mem_cons_self
    unfold Prog.wp
    rw [Prog.bind_eq_of (leerPin_quieto hm timer s trace)]
    exact h m rest _ rfl

theorem leerPin_bind_takes {timer : ℤ} {f : LeerPin × ℤ → MefProg α}
    (hf : Prog.Takes (relojQuieto n) start least most (f (.incompleto, timer))) :
    Prog.Takes (relojQuieto n) start (least + 1) (most + 1) (leerPin timer >>= f) := by
  intro c hc hlen
  refine leerPin_bind_wp (relojQuieto_iff.mp hc).2 (fun hnil => ?_) fun m rest s hrest => ?_
  · rw [hnil] at hlen
    exact Nat.not_succ_le_zero most hlen
  · rw [hrest] at hlen hc
    refine Prog.wp_mono (hf _ (hc.drop 1) (Nat.le_of_succ_le_succ hlen)) (fun _ h => h) ?_
    rintro _ c' ⟨p, hp, hp', heq⟩
    refine ⟨p + 1, Nat.add_le_add_right hp 1, Nat.add_le_add_right hp' 1, ?_⟩
    rw [heq, hrest, List.drop_succ_cons]

end Teclas

/-! ## The drivers -/

section Drivers

theorem as608ReadSlice_takes (buf : List UInt8) (maxLen : ℕ) (sliceMs : UInt32) :
    Prog.Takes (reloj n) start 1 (n * sliceMs.toNat + 7) (as608ReadSlice buf maxLen sliceMs) := by
  unfold as608ReadSlice
  refine .mono (tickRead_bind_takes fun t => .iter_until sliceMs.toNat 3 (fun x => ?_)
    (fun x c hc => fin_mientras rfl hc) _) (Nat.le_add_left _ _) le_rfl
  refine tickRead_bind_takes fun now => .ite_else_pure ?_
  refine .upTo (.bind sensorReadByte_takes fun b => ?_ : Prog.Takes _ _ (1 + 0) (1 + 1) _) le_rfl
  cases b with
  | some b =>
    exact .ite_else_pure (.upTo (.bind tickRead_takes fun _ => .bind (.modify _) fun _ => .pure _)
      le_rfl)
  | none => exact .upTo (.pure _) (Nat.zero_le _)

theorem as608ScanStep_takes : Prog.Takes (reloj n) start 0 (n * 4 + 9) as608ScanStep := by
  have henvia (ms : UInt32) (hms : ms.toNat ≤ 2) (payload : List UInt8) (f : Scan → Scan)
      (f' : ℕ → Scan → Scan) (r : ScanStatus × Option (UInt16 × UInt16)) :
      Prog.Takes (reloj n) start 0 (n * 4 + 9) (do
        Prog.modify f
        as608FlushRx ms
        as608WritePacket 0x01 payload
        let t ← tickRead
        Prog.modify (f' t)
        pure r) := by
    refine .upTo (.bind (.modify _) fun _ => .bind (as608FlushRx_takes ms) fun _ =>
      .bind (.emit _) fun _ => .bind tickRead_takes fun t => .bind (.modify _) fun _ => .pure _) ?_
    have hmul : n * ms.toNat ≤ n * 2 := Nat.mul_le_mul_left n hms
    omega
  have hespera (g : Scan) {f : List UInt8 → Scan → Scan}
      {m : List UInt8 → Prog Scan Sample SensorEv (ScanStatus × Option (UInt16 × UInt16))}
      (hm : ∀ resp, Prog.Takes (reloj n) start 0 1 (m resp)) :
      Prog.Takes (reloj n) start 0 (n * 4 + 9) (do
        let resp ← as608ReadSlice g.resp respSize 4
        Prog.modify (f resp)
        m resp) := by
    refine .upTo (.bind (as608ReadSlice_takes _ _ 4) fun resp => .bind (.modify _) fun _ =>
      hm resp) ?_
    show n * 4 + 7 + (0 + 1) ≤ _
    omega
  have hvence (test : TimeTest) (g : Scan) (f : Scan → Scan)
      (r : ScanStatus × Option (UInt16 × UInt16)) : Prog.Takes (reloj n) start 0 1 (do
        let t ← tickRead
        if test.holds t g.tCmdStart then
          Prog.modify f
        pure r : Prog Scan Sample SensorEv (ScanStatus × Option (UInt16 × UInt16))) :=
    .upTo (.bind tickRead_takes fun t => .ite (.bind (.modify _) fun _ => .pure _) (.pure _)) le_rfl
  refine .mono (.bind .get fun g => ?_ : Prog.Takes _ _ (0 + 0) (0 + (n * 4 + 9)) _) le_rfl
    (Nat.zero_add _).le
  cases g.st with
  | idle | doneMatch | doneNoFinger | doneNoMatch | doneError =>
    exact .upTo (.bind (.modify _) fun _ => .pure _) (Nat.zero_le _)
  | sendGetImage => exact henvia 2 (by decide) _ _ _ _
  | sendImage2Tz => exact henvia 2 (by decide) _ _ _ _
  | sendSearch => exact henvia 1 (by decide) _ _ _ _
  | predlyImage2Tz =>
    exact .upTo (.bind tickRead_takes fun t => .ite
      (.bind (.modify _) fun _ => .pure _) (.pure _)) (Nat.le_add_left _ _)
  | waitGetImage =>
    refine hespera g fun resp => .ite (.ite ?_ (.ite ?_ ?_)) ?_
    · exact .upTo (.bind tickRead_takes fun t => .bind (.modify _) fun _ => .pure _) le_rfl
    · exact .upTo (.bind (.modify _) fun _ => .pure _) (Nat.zero_le _)
    · exact .upTo (.bind (.modify _) fun _ => .pure _) (Nat.zero_le _)
    · exact hvence _ _ _ _
  | waitImage2Tz =>
    refine hespera g fun resp => .ite (.ite ?_ ?_) (hvence _ _ _ _)
    · exact .upTo (.bind (.modify _) fun _ => .pure _) (Nat.zero_le _)
    · exact .upTo (.bind (.modify _) fun _ => .pure _) (Nat.zero_le _)
  | waitSearch =>
    refine hespera g fun resp => .ite (.ite (.ite ?_ ?_) ?_) (hvence _ _ _ _)
    · exact .upTo (.bind (.modify _) fun _ => .pure _) (Nat.zero_le _)
    · exact .upTo (.pure _) (Nat.zero_le _)
    · exact .upTo (.bind (.modify _) fun _ => .pure _) (Nat.zero_le _)

theorem esperarOK_takes (timeoutMs : UInt32) : Prog.Takes (reloj n) start 1
    (n * timeoutMs.toNat + (2 * (n * 1000 + 8) + 1))
      (esperarOK timeoutMs : Prog Bool Sample EspEv Bool) := by
  unfold esperarOK
  refine .mono (tickRead_bind_takes fun t => .iter_until timeoutMs.toNat (n * 1000 + 8)
    (fun x => ?_) (fun x c hc => fin_mientras rfl hc) _) (Nat.le_add_left _ _) ?_
  · refine .mono (tickRead_bind_takes fun now => .ite_else_pure (.upTo
      (.bind (enviarComandoAT_takes _ 256 1000) fun resp => .ite (.pure _) (.pure _)) le_rfl))
      (Nat.le_add_left _ _) le_rfl
  · exact le_rfl

theorem esperarIP_takes : Prog.Takes (reloj n) start 1 (n * 19000 + 31) esperarIP := by
  unfold esperarIP
  refine .mono (tickRead_bind_takes fun t => .iter_until 15000 (n * 2000 + 15) (fun x => ?_)
    (fun x c hc => fin_mientras rfl hc) _) (Nat.le_add_left _ _) ?_
  · refine .mono (tickRead_bind_takes fun now => .ite_else_pure (.upTo
      (.bind (enviarComandoAT_takes _ 256 1000) fun resp => ?_ :
        Prog.Takes _ _ (1 + 0) (n * 1000 + 7 + (n * 1000 + 7)) _) le_rfl))
      (Nat.le_add_left _ _) (by omega)
    refine .ite ?_ (.ite ?_ (.upTo (.pure _) (Nat.zero_le _)))
    · exact .upTo (.bind (enviarComandoAT_takes _ 256 1000) fun _ => .bind (.modify _) fun _ =>
        .pure _) le_rfl
    · exact .upTo (.bind (enviarComandoAT_takes _ 256 1000) fun _ => .pure _) le_rfl
  · show n * 15000 + 2 * (n * 2000 + 15) + 1 ≤ _
    omega

theorem inicializarESP_takes (timeoutMs : UInt32) : Prog.Takes (reloj n) start 0
    (n * timeoutMs.toNat + n * 28000 + 90) (inicializarESP timeoutMs) := by
  unfold inicializarESP
  refine .upTo (.bind (esperarOK_takes timeoutMs) fun ok => .ite_pure (.upTo
    (.bind (enviarComandoAT_takes _ 256 1000) fun _ => .bind (enviarComandoAT_takes _ 256 1000)
      fun _ => .bind (enviarComandoAT_takes _ 256 1000) fun _ => .bind esperarIP_takes fun _ =>
        .bind .get fun conectado => .ite_pure (.upTo (.bind (enviarComandoAT_takes _ 256 2000)
          fun _ => .bind (enviarComandoAT_takes _ 256 2000) fun _ => .pure _) le_rfl)) le_rfl)) ?_
  show n * timeoutMs.toNat + (2 * (n * 1000 + 8) + 1) + (n * 1000 + 7 + (n * 1000 + 7 +
    (n * 1000 + 7 + (n * 19000 + 31 + (0 + (n * 2000 + 7 + (n * 2000 + 7 + 0))))))) ≤ _
  omega

theorem espObtenerTiempoServidor_takes : Prog.Takes (reloj n) start 0 (n * 32500 + 35)
    (espObtenerTiempoServidor : Prog Bool Sample EspEv ℚ) := by
  unfold espObtenerTiempoServidor
  refine .mono (.bind (espHTTPGetViaAT_takes _ _) fun r => ?_ :
    Prog.Takes _ _ (1 + 0) (n * 32500 + 35 + 0) _) (Nat.zero_le _) le_rfl
  cases r with
  | none => exact .pure _
  | some resp => exact .pure _

theorem sincronizarConServidor_takes :
    Prog.Takes (reloj n) start 0 (n * 32500 + 35) sincronizarConServidor := by
  have hpins : Prog.Takes (reloj n) start 1 (n * 32500 + 35 + 0)
      (espHTTPGetPins maxPins : Prog ListaPins Sample EspEv (List PinUsuario)) := by
    refine .mono (.bind (espHTTPGetViaAT_takes rutaPins httpRespSize) fun r => ?_ :
      Prog.Takes _ _ (1 + 0) (n * 32500 + 35 + 0) _) le_rfl le_rfl
    cases r with
    | none => exact .pure _
    | some resp => exact .pure _
  exact .upTo (.bind hpins fun bufferUsuarios =>
    .ite (.bind (.modify _) fun _ => .pure _) (.pure _)) le_rfl

theorem obtenerVersion_takes :
    Prog.Takes (reloj n) start 0 (n * 108000 + 160) obtenerVersion := by
  refine .upTo (.bind (.zoom espObtenerTiempoServidor_takes) fun v => .ite_else_pure
    (.bind (.zoom (inicializarESP_takes 15000)) fun ok => .ite_else_pure
      (.zoom espObtenerTiempoServidor_takes))) ?_
  show n * 32500 + 35 + (n * 15000 + n * 28000 + 90 + (n * 32500 + 35)) ≤ _
  omega

end Drivers

/-! ## The sleep -/

/-- Any `w` samples hold an edge of the presence sensor. -/
def Despierta (w : ℕ) (inputs : List Sample) : Prop :=
  ∀ p, w ≤ (inputs.drop p).length → ∃ m ∈ (inputs.drop p).take w, m.presencia = true

section Sueno

variable {w : ℕ} {c c' : Config Mef Sample MefEv}

theorem Despierta.reads (h : Despierta w c.inputs) {most : ℕ} (hc : Prog.Reads most c c') :
    Despierta w c'.inputs := by
  obtain ⟨p, -, hdrop⟩ := hc
  intro q hq
  rw [hdrop, List.drop_drop] at hq ⊢
  exact h (p + q) hq

/-- The first edge ends the wait. -/
theorem esperarInterrupcion_wp (h : ∃ m ∈ c.inputs.take w, m.presencia = true) :
    esperarInterrupcion.wp (fun _ => False) (fun _ => Prog.Reads w c) c := by
  refine Prog.wp_iter_total (fun _ c' => ∃ p, p ≤ w ∧ c'.inputs = c.inputs.drop p ∧
    ∃ m ∈ c'.inputs.take (w - p), m.presencia = true) (fun _ c' hc' => ?_)
      ⟨0, Nat.zero_le w, rfl, h⟩
  obtain ⟨p, hp, hdrop, m, hm, hedge⟩ := hc'
  rw [Prog.wp_bind]
  refine Prog.wp_read (fun hnil => ?_) fun m' rest hrest => ?_
  · rw [hnil, List.take_nil] at hm
    cases hm
  obtain ⟨q, hq⟩ : ∃ q, w - p = q + 1 := by
    refine Nat.exists_eq_succ_of_ne_zero fun hzero => ?_
    rw [hzero] at hm
    cases hm
  have hrest' : rest = c.inputs.drop (p + 1) := by
    rw [← List.drop_drop, ← hdrop, hrest]
    rfl
  have hp' : p + 1 ≤ w := by omega
  refine Prog.wp_ite (fun _ => ⟨p + 1, hp', hrest'⟩) fun hno =>
    ⟨⟨p + 1, hp', hrest', m, ?_, hedge⟩, ?_⟩
  · rw [hrest, hq, List.take_succ_cons] at hm
    rcases List.mem_cons.mp hm with rfl | hm
    · exact absurd hedge hno
    · rwa [show w - (p + 1) = q by omega]
  · rw [hrest]
    exact Nat.lt_succ_self _

/-- The sleep, and what is asked of the server after it. -/
theorem entrarModoSleep_wp (hc : (reloj n).Runs start c.inputs) (hw : Despierta w c.inputs)
    (hlen : w + (n * 140500 + 200) ≤ c.inputs.length) : entrarModoSleep.wp (fun _ => False)
      (fun _ => Prog.Reads (w + (n * 140500 + 200)) c) c := by
  have hdespierta : ∃ m ∈ c.inputs.take w, m.presencia = true :=
    hw 0 (Nat.le_of_add_right_le hlen)
  unfold entrarModoSleep
  rw [Prog.wp_bind, Prog.wp_modify]
  refine Prog.Takes.after (c := ⟨{ c.st with eventoPresencia := false }, c.inputs, c.trace⟩)
    (esperarInterrupcion_wp hdespierta) (fun _ => ?_) hc hlen
  refine .upTo (.bind obtenerVersion_takes fun v => .bind .get fun s => .ite_pure (.ite_else_pure
    (.bind (.zoom sincronizarConServidor_takes) fun r => .ite_else_pure (.modify _)))) ?_
  omega

/-- Without an edge the processor sleeps on. -/
theorem entrarModoSleep_espera (h : ∀ m ∈ c.inputs, m.presencia = false) :
    entrarModoSleep.wp (fun _ => True) (fun _ _ => False) c := by
  have hespera : ∀ c0 : Config Mef Sample MefEv, c0.inputs = c.inputs →
      esperarInterrupcion.wp (fun _ => True) (fun _ _ => False) c0 := by
    intro c0 hc0
    refine Prog.wp_iter (fun _ c' => ∀ m ∈ c'.inputs, m.presencia = false) (fun _ _ _ => trivial)
      (fun _ c' hc' => ?_) (hc0 ▸ h)
    rw [Prog.wp_bind]
    refine Prog.wp_read (fun _ => trivial) fun m rest hrest => ?_
    refine Prog.wp_ite (fun hedge => ?_) fun _ m' hm' => hc' m' (hrest ▸ .tail _ hm')
    rw [hc' m (hrest ▸ List.mem_cons_self)] at hedge
    cases hedge
  unfold entrarModoSleep
  rw [Prog.wp_bind, Prog.wp_modify, Prog.wp_bind]
  exact Prog.wp_mono (hespera _ rfl) (fun _ h => h) fun _ _ h => h.elim

end Sueno

/-! ## The question for a PIN -/

section Preguntas

/-- A round of the question for a PIN. -/
def vuelta (pinValidado : List UInt8) (timer : ℤ) : MefProg (ℤ ⊕ (List UInt8 × ℤ)) := do
  let (res, timer) ← leerPin timer
  match res with
  | .completo pin => pure (.inr (pin, timer))
  | _ =>
    let now ← tickRead
    if TimeTest.pinValidado.holds now timer then
      vencerPeticion
      volverAEsperar
      pure (.inr (pinValidado, timer))
    else pure (.inl timer)

theorem leerPinValidado_eq (pinValidado : List UInt8) (timer : ℤ) :
    leerPinValidado pinValidado timer =
      (Prog.emit .peticion >>= fun _ => Prog.iter (vuelta pinValidado) timer) := rfl

section Vuelta

variable {pinValidado : List UInt8} {timer : ℤ} {c : Config Mef Sample MefEv} {t : ℕ}

theorem vuelta_takes :
    Prog.Takes (relojQuieto n) start 1 3 (vuelta pinValidado timer) :=
  .mono (leerPin_bind_takes (tickRead_bind_quieto fun _ => .ite_else_pure (.upTo
    (.bind (.bind .get fun _ => .emit _) fun _ =>
      .bind (takes_quieto volverAEsperar_takes) fun _ => .pure _) le_rfl)))
    (Nat.le_add_left _ _) le_rfl

/-- The timer is not set again. -/
theorem vuelta_quieto (hquieto : ∀ m ∈ c.inputs, m.tecla = none) :
    (vuelta pinValidado timer).wp (fun _ => True) (fun r c' =>
      (r = .inl timer ∧ ∀ m ∈ c'.inputs, m.tecla = none) ∨ r = .inr (pinValidado, timer)) c := by
  refine leerPin_bind_wp hquieto (fun _ => trivial) fun m rest s hrest => ?_
  dsimp only
  rw [Prog.wp_bind]
  refine wp_tickRead (fun _ => trivial) fun m' rest' hrest' => Prog.wp_ite (fun _ => ?_) fun _ => ?_
  · rw [Prog.wp_bind]
    refine Prog.wp_mono Prog.wp_true (fun _ h => h) fun _ _ _ => ?_
    rw [Prog.wp_bind]
    exact Prog.wp_mono Prog.wp_true (fun _ h => h) fun _ _ _ => .inr rfl
  · obtain rfl : rest = m' :: rest' := hrest'
    exact .inl ⟨rfl, fun i hi => hquieto i (hrest ▸ .tail _ (.tail _ hi))⟩

/-- The time is up. -/
theorem vuelta_tarde (htimer : timer = TimeTest.pinValidado.keep t)
    (hc : (relojQuieto n).Runs (t + (TimeTest.pinValidado.limit + 1)) c.inputs) :
    (vuelta pinValidado timer).wp (fun _ => True) (fun r _ => r.isRight = true) c := by
  obtain ⟨hruns, hquieto⟩ := relojQuieto_iff.mp hc
  refine leerPin_bind_wp hquieto (fun _ => trivial) fun m rest s hrest => ?_
  dsimp only
  rw [Prog.wp_bind]
  refine wp_tickRead (fun _ => trivial) fun m' rest' hrest' => ?_
  have hmem : m' ∈ c.inputs := by
    rw [hrest, show rest = m' :: rest' from hrest']
    exact .tail _ (.head _)
  have htarde : t + (TimeTest.pinValidado.limit + 1) ≤ m'.tick ∧ m'.tick < 2 ^ 31 :=
    hruns.range m' hmem
  have hover : TimeTest.pinValidado.holds m'.tick timer = true := by
    rw [htimer]
    exact TimeTest.holds_of_gt rfl htarde.1 htarde.2
  refine Prog.wp_ite (fun _ => ?_) fun hno => absurd hover hno
  rw [Prog.wp_bind]
  refine Prog.wp_mono Prog.wp_true (fun _ h => h) fun _ _ _ => ?_
  rw [Prog.wp_bind]
  exact Prog.wp_mono Prog.wp_true (fun _ h => h) fun _ _ _ => rfl

end Vuelta

theorem leerPinValidado_quieto (pinValidado : List UInt8) (timer : ℤ)
    {c : Config Mef Sample MefEv} (hquieto : ∀ m ∈ c.inputs, m.tecla = none) :
    (leerPinValidado pinValidado timer).wp (fun _ => True) (fun r _ => r = (pinValidado, timer))
      c := by
  rw [leerPinValidado_eq, Prog.wp_bind, Prog.wp_emit]
  refine Prog.wp_iter (fun x c' => x = timer ∧ ∀ m ∈ c'.inputs, m.tecla = none)
    (fun _ _ _ => trivial) (fun x c' h => ?_) ⟨rfl, hquieto⟩
  obtain ⟨rfl, hquieto'⟩ := h
  refine Prog.wp_mono (vuelta_quieto hquieto') (fun _ h => h) ?_
  rintro _ c'' (⟨rfl, hquieto''⟩ | rfl)
  · exact ⟨rfl, hquieto''⟩
  · rfl

theorem leerPinValidado_takes (pinValidado : List UInt8) {t : ℕ} {timer : ℤ}
    (htimer : timer = TimeTest.pinValidado.keep t) :
    Prog.Takes (relojQuieto n) t 1 (n * 15001 + 6) (leerPinValidado pinValidado timer) := by
  rw [leerPinValidado_eq]
  refine .mono (.bind (.emit _) fun _ => .iter_until_of (· = TimeTest.pinValidado.keep t)
    (TimeTest.pinValidado.limit + 1) 3 (fun timer _ => vuelta_takes) (fun timer htimer c hc => ?_)
    (fun timer htimer c hc => vuelta_tarde htimer hc) htimer) le_rfl ?_
  · refine Prog.wp_mono (vuelta_quieto (relojQuieto_iff.mp hc).2) (fun _ h => h) ?_
    rintro _ _ (⟨rfl, -⟩ | rfl) y hy
    · exact (Sum.inl.inj hy).symm.trans htimer
    · exact absurd hy Sum.inr_ne_inl
  · show 0 + (n * (15000 + 1) + 2 * 3) ≤ _
    omega

/-- An attempt at the PIN. -/
def intento (x : List UInt8 × ℤ × ℕ) : MefProg ((List UInt8 × ℤ × ℕ) ⊕ List UInt8) := do
  let (pinValidado, timer) ← leerPinValidado x.1 x.2.1
  let s ← Prog.get
  if validarPin s.listaPins pinValidado then pure (.inr pinValidado)
  else if x.2.2 + 1 ≥ 3 then
    volverAEsperar
    pure (.inr pinValidado)
  else pure (.inl (pinValidado, timer, x.2.2 + 1))

theorem pedirPinValidado_eq : pedirPinValidado =
    (tickRead >>= fun t => Prog.iter intento ([], TimeTest.pinValidado.keep t, 0)) := rfl

theorem intento_takes {t b : ℕ} {x : List UInt8 × ℤ × ℕ} {c : Config Mef Sample MefEv}
    (hpregunta : Prog.Takes (relojQuieto n) t 1 b (leerPinValidado x.1 x.2.1))
    (hc : (relojQuieto n).Runs t c.inputs) (hlen : b + 1 ≤ c.inputs.length) :
    (intento x).wp (fun _ => False) (fun r c' => ∃ p, p ≤ b + 1 ∧
      c'.inputs = c.inputs.drop p ∧ ∀ y, r = .inl y →
        y.2.1 = x.2.1 ∧ 1 ≤ p ∧ 3 - y.2.2 < 3 - x.2.2) c := by
  unfold intento
  rw [Prog.wp_bind]
  refine Prog.wp_mono (Prog.wp_and (hpregunta c hc (Nat.le_of_succ_le hlen))
    (leerPinValidado_quieto _ _ (relojQuieto_iff.mp hc).2)) (fun _ h => h) ?_
  rintro _ c1 ⟨⟨p, hread, hp, hdrop⟩, rfl⟩
  dsimp only
  rw [Prog.wp_bind, Prog.wp_get]
  refine Prog.wp_ite (fun _ => ⟨p, Nat.le_succ_of_le hp, hdrop, fun _ h => absurd h Sum.inr_ne_inl⟩)
    fun _ => Prog.wp_ite (fun _ => ?_) fun hmas => ⟨p, Nat.le_succ_of_le hp, hdrop, ?_⟩
  · have hlen1 : 1 ≤ c1.inputs.length := by
      rw [hdrop, List.length_drop]
      omega
    rw [Prog.wp_bind]
    refine Prog.wp_mono (volverAEsperar_takes c1 (hdrop ▸ (relojQuieto_iff.mp hc).1.drop p) hlen1)
      (fun _ h => h) ?_
    rintro _ c2 ⟨q, -, hq, hdrop2⟩
    refine ⟨p + q, Nat.add_le_add hp hq, ?_, fun _ h => absurd h Sum.inr_ne_inl⟩
    rw [hdrop2, hdrop, List.drop_drop]
  · rintro _ ⟨⟩
    refine ⟨rfl, hread, ?_⟩
    dsimp only
    omega

theorem pedirPinValidado_takes :
    Prog.Takes (relojQuieto n) start 0 (n * 60004 + 29) pedirPinValidado := by
  rw [pedirPinValidado_eq]
  refine .upTo (tickRead_bind_quieto fun t => ?_ :
    Prog.Takes _ _ (0 + 1) (n * 60004 + 28 + 1) _) le_rfl
  have hpregunta (pin : List UInt8) (timer : ℤ) (h : timer = TimeTest.pinValidado.keep t) :=
    leerPinValidado_takes (n := n) pin h
  generalize TimeTest.pinValidado.keep t = timer at hpregunta
  refine .mono (.iter_count_of (fun x : List UInt8 × ℤ × ℕ => x.2.1 = timer) (n * 15001 + 6 + 1)
    (fun x => 3 - x.2.2) (fun x hx c hc hlen => ?_) rfl) le_rfl ?_
  · refine Prog.wp_mono (intento_takes (hpregunta _ _ hx) hc hlen) (fun _ h => h) ?_
    rintro r c' ⟨p, hp, hdrop, hsigue⟩
    refine ⟨p, hp, hdrop, fun y hy => ?_⟩
    obtain ⟨htimer, hread, hless⟩ := hsigue y hy
    exact ⟨htimer.trans hx, hread, hless⟩
  · show (n * 15001 + 7) * 4 ≤ _
    omega

end Preguntas

/-! ## The rounds -/

section Rondas

/-- The samples that a round takes at most. -/
def plazoRonda (n : ℕ) : ℕ := n * 474032 + 1229

theorem esperarPin_takes : Prog.Takes (reloj n) start 0 0 esperarPin :=
  .bind (.bind (.emit _) fun _ => .modify _) fun _ => .emit _

theorem irA_takes (e : EstadoMEF) : Prog.Takes (reloj n) start 0 0 (irA e) :=
  .bind (.emit _) fun _ => .modify _

theorem esperandoAccion_takes :
    Prog.Takes (relojQuieto n) start 1 6 esperandoAccion := by
  have hpresencia : Prog.Takes (reloj n) start 0 1 atenderPresencia :=
    .upTo (.bind .get fun s => .ite_else_pure (.upTo (.bind (.modify _) fun _ =>
      marcarPresencia_takes) le_rfl)) le_rfl
  have hescaneo {start : ℕ} : Prog.Takes (reloj n) start 0 2 programarEscaneo := by
    refine .upTo (.bind .get fun s => .ite_else_pure (.upTo (.bind tickRead_takes fun t =>
      .ite_else_pure (.upTo (.bind tickRead_takes fun t => .modify _) le_rfl)) le_rfl)) le_rfl
  unfold esperandoAccion
  refine .mono (.bind (takes_quieto hpresencia) fun _ => .bind .get fun s => leerPin_bind_takes
    (.bind (.modify _) fun _ => tickRead_bind_quieto fun now => ?_ :
      Prog.Takes _ _ (0 + (0 + 1)) (0 + (3 + 1)) _))
    (show 1 ≤ 0 + (0 + (0 + (0 + 1) + 1)) by decide) le_rfl
  refine takes_quieto (.ite (.upTo (irA_takes _) (Nat.zero_le _)) ?_)
  refine .upTo (.bind leerRfid_takes fun r => .ite (.upTo (.bind marcarPresencia_takes fun _ =>
    irA_takes _) (by decide)) ?_ : Prog.Takes _ _ (1 + 0) (1 + 2) _) le_rfl
  exact .upTo (.bind hescaneo fun _ => .bind .get fun s => .ite_else_pure (irA_takes _)) le_rfl

theorem leerYValidarHuella_takes :
    Prog.Takes (reloj n) start 0 (n * 4 + 10) leerYValidarHuella := by
  have hbreve {st : MefProg Unit} (h : Prog.Takes (reloj n) start 0 0 st) :
      Prog.Takes (reloj n) start 0 1 st := h.upTo (Nat.zero_le 1)
  unfold leerYValidarHuella
  refine .mono (.bind (.zoom as608ScanStep_takes) fun r => ?_ :
    Prog.Takes _ _ (0 + 0) (n * 4 + 9 + 1) _) le_rfl le_rfl
  obtain ⟨st, salida⟩ := r
  dsimp only
  cases st with
  | scanMatch =>
    exact hbreve (.bind (.emit _) fun _ => .bind .get fun s => .ite (.bind (.modify _) fun _ =>
      .bind (hacer_takes _) fun _ => .bind (irA_takes _) fun _ => .modify _) (irA_takes _))
  | scanNoMatch =>
    exact .upTo (.bind (.modify _) fun _ => .bind marcarPresencia_takes fun _ => irA_takes _) le_rfl
  | scanNoFinger | scanError => exact hbreve (.bind (.modify _) fun _ => irA_takes _)
  | scanIdle | scanInProgress => exact hbreve (irA_takes _)

theorem olvidar_takes {most : ℕ} {m : MefProg Desenlace} (h : Prog.Takes (reloj n) start 0 most m) :
    Prog.Takes (reloj n) start 0 most (olvidar m) := .upTo (.bind h fun _ => .pure ()) le_rfl

theorem validarTarjeta_takes : Prog.Takes (reloj n) start 0 0 validarTarjeta := by
  refine .upTo (.bind .get fun s => ?_ : Prog.Takes _ _ (0 + 0) (0 + 0) _) le_rfl
  cases obtenerTagPorRFID s.listaPins s.rfid with
  | some _ => exact .bind (hacer_takes _) fun _ => .bind (irA_takes _) fun _ => .modify _
  | none => exact .bind (.zoom (.modify _)) fun _ => esperarPin_takes

theorem validar_takes : Prog.Takes (reloj n) start 0 0 validar := by
  have hfallo : Prog.Takes (reloj n) start 0 0 contarFallo :=
    .bind .get fun _ => .ite (.bind (.modify _) fun _ => .emit _) (.modify _)
  exact .bind .get fun _ => .ite
    (.bind (.modify _) fun _ => .bind (irA_takes _) fun _ => hacer_takes _)
    (.bind hfallo fun _ => .bind (.zoom (.modify _)) fun _ => esperarPin_takes)

theorem sensorCierre_takes : Prog.Takes (reloj n) start 0 2 sensorCierre :=
  .upTo (.read_bind fun _ => .ite_else_pure (.upTo (.bind (hacer_takes _) fun _ =>
    volverAEsperar_takes) le_rfl)) le_rfl

/-- A registration that nobody attends to is over when the three questions are. -/
theorem registro_takes {m : List UInt8 → MefProg Desenlace}
    (h : ∀ {start} pin, Prog.Takes (reloj n) start 0 (plazo n) (m pin)) :
    Prog.Takes (relojQuieto n) start 0 (plazoRonda n)
      (pedirPinValidado >>= fun pin => olvidar (m pin)) := by
  refine .upTo (.bind pedirPinValidado_takes fun pin => takes_quieto (olvidar_takes (h pin))) ?_
  unfold plazo plazoRonda
  omega

/-- Without a key a round ends, in every state but MENU_ADMIN. -/
theorem mefUpdate_takes {w : ℕ} {c : Config Mef Sample MefEv}
    (hestado : c.st.estadoActual ≠ .menuAdmin) (hc : (relojQuieto n).Runs start c.inputs)
    (hw : Despierta w c.inputs) (hlen : w + plazoRonda n ≤ c.inputs.length) :
    mefUpdate.wp (fun _ => False) (fun _ => Prog.Reads (w + plazoRonda n) c) c := by
  have hfin {m : MefProg Unit} (h : Prog.Takes (relojQuieto n) start 0 (plazoRonda n) m) :
      m.wp (fun _ => False) (fun _ => Prog.Reads (w + plazoRonda n) c) c :=
    (h.upTo (Nat.le_add_left _ _)).reads hc hlen
  have hcorto : n * 140500 + 200 ≤ plazoRonda n := by
    unfold plazoRonda
    omega
  have hbreve {m : MefProg Unit} {most : ℕ} (h : Prog.Takes (reloj n) start 0 most m)
      (hmost : most ≤ n * 140500 + 200) :
      m.wp (fun _ => False) (fun _ => Prog.Reads (w + plazoRonda n) c) c :=
    hfin (takes_quieto (h.upTo (hmost.trans hcorto)))
  unfold mefUpdate
  rw [Prog.wp_bind, Prog.wp_get]
  cases h : c.st.estadoActual with
  | menuAdmin => exact absurd h hestado
  | reposo =>
    have hlen' : w + (n * 140500 + 200) ≤ c.inputs.length :=
      (Nat.add_le_add_left hcorto w).trans hlen
    refine Prog.wp_mono (Prog.Takes.after (entrarModoSleep_wp (relojQuieto_iff.mp hc).1 hw hlen')
      (fun _ => esperarPin_takes) (relojQuieto_iff.mp hc).1 hlen') (fun _ h => h) fun _ _ h => ?_
    exact h.mono (Nat.add_le_add_left hcorto w)
  | esperandoAccion =>
    refine hfin (esperandoAccion_takes.upTo ?_)
    exact Nat.le_add_left_of_le (by decide)
  | leerYValidarHuella => exact hbreve leerYValidarHuella_takes (by omega)
  | validarRfid => exact hbreve validarTarjeta_takes (Nat.zero_le _)
  | validar => exact hbreve validar_takes (Nat.zero_le _)
  | sensorCierre => exact hbreve sensorCierre_takes (Nat.le_add_left_of_le (by decide))
  | bloqueado => exact hbreve (.pure _) (Nat.zero_le _)
  | registrarRfid =>
    dsimp only
    rw [registrarRfid_eq]
    exact hfin (registro_takes fun _ => altaTarjeta_takes)
  | registrarHuella =>
    dsimp only
    rw [registrarHuella_eq]
    exact hfin (registro_takes fun _ => altaHuella_takes)

end Rondas

/-! ## The menu -/

section Menu

/-- The machine is not in the menu, if it was not there before. -/
def FueraDelMenu (c c' : Config Mef Sample MefEv) : Prop :=
  c.st.estadoActual ≠ .menuAdmin → c'.st.estadoActual ≠ .menuAdmin

theorem fueraDelMenu : Prog.Composable FueraDelMenu :=
  ⟨fun _ h => h, fun h h' hc => h' (h hc)⟩

theorem conTeclado_fuera (m : Prog Teclado Sample TecladoEv α) :
    Prog.Keeps FueraDelMenu (conTeclado m) := .zoom fun _ _ _ _ h => h

theorem conEsp_fuera (m : Prog Bool Sample EspEv α) : Prog.Keeps FueraDelMenu (conEsp m) :=
  .zoom fun _ _ _ _ h => h

theorem conSensor_fuera (m : Prog Unit Sample SensorEv α) : Prog.Keeps FueraDelMenu (conSensor m) :=
  .zoom fun _ _ _ _ h => h

theorem hacer_fuera (a : Accion) : Prog.Keeps FueraDelMenu (hacer a) :=
  .bind fueraDelMenu (.get fueraDelMenu) fun _ => .emit fun _ h => h

/-- Anything but the menu. -/
def Permiso.sinMenu : Permiso := ⟨(· ≠ .menuAdmin), fun _ => True⟩

theorem sinMenu {e : EstadoMEF} (h : e ≠ .menuAdmin) : Permiso.sinMenu.estado e := h

theorem sinMenu_espera : Permiso.sinMenu.estado .esperandoAccion := nofun

theorem sinMenu_cierre : Permiso.sinMenu.estado .sensorCierre := nofun

theorem rutina_fuera {m : MefProg α} (h : Rutina .sinMenu α m) :
    Prog.Keeps FueraDelMenu m := by
  cases h with
  | read => exact .read (fun _ _ _ _ h => h) fueraDelMenu
  | get => exact .get fueraDelMenu
  | emit _ => exact .emit fun _ h => h
  | hacer _ => exact hacer_fuera _
  | irA he => exact .bind fueraDelMenu (.emit fun _ h => h) fun _ => .modify fun _ _ => he
  | modify hf =>
    exact .modify fun c h => by
      rw [(hf c.st).estado]
      exact h
  | leerPin timer =>
    refine .bind fueraDelMenu (conTeclado_fuera _) fun (res, ultimaActividad) => ?_
    dsimp only
    cases res with
    | completo pin => exact .bind fueraDelMenu (.emit fun _ h => h) fun _ => .pure fueraDelMenu _
    | menu => exact .pure fueraDelMenu _
    | incompleto => exact .pure fueraDelMenu _
  | leerTecla => exact conTeclado_fuera _
  | tecladoReset => exact conTeclado_fuera _
  | leerRfid =>
    refine .bind fueraDelMenu (.bind fueraDelMenu (.read (fun _ _ _ _ h => h) fueraDelMenu)
      fun _ => .pure fueraDelMenu _) fun uid => ?_
    cases uid with
    | none => exact .pure fueraDelMenu _
    | some uid =>
      exact .bind fueraDelMenu (.emit fun _ h => h) fun _ =>
        .bind fueraDelMenu (.modify fun _ h => h) fun _ => .pure fueraDelMenu _
  | tiempo => exact conEsp_fuera _
  | inicializar => exact conEsp_fuera _
  | sincronizar => exact .zoom fun _ _ _ _ h => h

theorem DeRutina.fuera {m : MefProg α} (h : DeRutina .sinMenu m) :
    Prog.Keeps FueraDelMenu m := h.keeps fueraDelMenu fun _ _ hm => rutina_fuera hm

theorem siSigue_fuera {m : MefProg Unit} (h : Prog.Keeps FueraDelMenu m) :
    Prog.Keeps FueraDelMenu (siSigue m) :=
  .bind fueraDelMenu (.get fueraDelMenu) fun _ => .ite (fun _ => .pure fueraDelMenu _) fun _ => h

theorem volverAEsperar_fuera : Prog.Keeps FueraDelMenu volverAEsperar :=
  (volverAEsperar_rutina sinMenu_espera).fuera

theorem registrarRfid_fuera : Prog.Keeps FueraDelMenu registrarRfid := by
  refine .bind fueraDelMenu (pedirPinValidado_rutina sinMenu_espera).fuera fun pin =>
    siSigue_fuera ?_
  refine .bind fueraDelMenu (pedirTarjeta_rutina sinMenu_espera).fuera fun _ => siSigue_fuera ?_
  exact .bind fueraDelMenu (.get fueraDelMenu) fun s => .bind fueraDelMenu (hacer_fuera _) fun _ =>
    .bind fueraDelMenu (.modify fun _ h => h) fun _ =>
      .bind fueraDelMenu (conEsp_fuera _) fun _ => volverAEsperar_fuera

theorem registrarHuella_fuera : Prog.Keeps FueraDelMenu registrarHuella := by
  have henrolar (pin : List UInt8) (id : UInt16) : Prog.Keeps FueraDelMenu (enrolar pin id) := by
    refine .iter fueraDelMenu (fun intentos => .ite (fun _ => ?_) fun _ => .pure fueraDelMenu _) _
    refine .bind fueraDelMenu (hacer_fuera _) fun _ =>
      .bind fueraDelMenu (conSensor_fuera _) fun r => ?_
    cases r with
    | none => exact .pure fueraDelMenu _
    | some _ => exact .pure fueraDelMenu _
  refine .bind fueraDelMenu (pedirPinValidado_rutina sinMenu_espera).fuera fun pin =>
    siSigue_fuera ?_
  refine .bind fueraDelMenu (.get fueraDelMenu) fun s => ?_
  cases obtenerHuellaAsignadaPorPin s.listaPins pin with
  | none => exact marcarPresencia_rutina.fuera
  | some idHuellaStr =>
    refine .bind fueraDelMenu (henrolar pin _) fun r => ?_
    cases r with
    | none => exact volverAEsperar_fuera
    | some idResultado =>
      exact .bind fueraDelMenu (.modify fun _ h => h) fun _ =>
        .bind fueraDelMenu (conEsp_fuera _) fun _ =>
          .bind fueraDelMenu (esperarPin_rutina sinMenu_espera).fuera fun _ =>
            marcarPresencia_rutina.fuera

variable {c : Config Mef Sample MefEv}

/-- Up to the keypad a round in ESPERANDO_ACCION changes nothing but the presence. -/
structure Mirada (c c' : Config Mef Sample MefEv) : Prop where
  estado : c'.st.estadoActual = c.st.estadoActual
  evento : c'.st.eventoPresencia = false
  presencia : c.st.eventoPresencia = false ∧ c'.st.ultimaPresencia = c.st.ultimaPresencia ∨
    c.st.eventoPresencia = true ∧ ∃ m, c.inputs.head? = some m ∧
      c'.st.ultimaPresencia = TimeTest.ultimaPresencia.keep m.tick
  inputs : Prog.Reads 2 c c'

/-- A reading of the clock that is stored. -/
theorem tickRead_keep_wp (e : TimeTest) (f : ℤ → Mef → Mef)
    {post : Unit → Config Mef Sample MefEv → Prop}
    (h : ∀ m t, c.inputs.head? = some m → t = e.keep m.tick →
      post () ⟨f t c.st, c.inputs.drop 1, c.trace⟩) :
    (tickRead >>= fun t => Prog.modify (f (e.keep t)) : MefProg Unit).wp
      (fun _ => True) post c := by
  rw [Prog.wp_bind]
  refine wp_tickRead (fun _ => trivial) fun m rest hrest => ?_
  obtain rfl : rest = c.inputs.drop 1 := by
    rw [show c.inputs = m :: rest from hrest, List.drop_one, List.tail_cons]
  refine h m _ ?_ rfl
  rw [show c.inputs = m :: _ from hrest, List.head?_cons]

theorem atenderPresencia_wp :
    atenderPresencia.wp (fun _ => True)
      (fun _ c' => Mirada c c' ∧ Prog.Reads 1 c c') c := by
  unfold atenderPresencia
  rw [Prog.wp_bind, Prog.wp_get]
  refine Prog.wp_ite (fun hevento => ?_) fun hevento => ?_
  · rw [Prog.wp_bind, Prog.wp_modify]
    exact tickRead_keep_wp _ (fun t s => { s with ultimaPresencia := t }) fun m t hm ht =>
      ⟨⟨rfl, rfl, .inr ⟨hevento, m, hm, ht⟩, 1, by decide, rfl⟩, 1, le_rfl, rfl⟩
  · have hevento : c.st.eventoPresencia = false := Bool.eq_false_iff.mpr hevento
    exact ⟨⟨rfl, hevento, .inl ⟨hevento, rfl⟩, 0, Nat.zero_le _, rfl⟩, 0, Nat.zero_le _, rfl⟩

/-- Without a key nothing is typed before the time is looked at. -/
theorem esperandoAccion_quieto {post : Unit → Config Mef Sample MefEv → Prop}
    (hquieto : ∀ m ∈ c.inputs, m.tecla = none)
    (h : ∀ c1, Mirada c c1 → (sinTecla c1.st.ultimaPresencia).wp (fun _ => True) post c1) :
    esperandoAccion.wp (fun _ => True) post c := by
  unfold esperandoAccion
  rw [Prog.wp_bind]
  refine Prog.wp_mono atenderPresencia_wp (fun _ h => h) fun _ c1 hc1 => ?_
  obtain ⟨hmirada, hreads⟩ := hc1
  rw [Prog.wp_bind, Prog.wp_get]
  have hquieto1 : ∀ m ∈ c1.inputs, m.tecla = none := fun m hm => hquieto m (hreads.mem hm)
  obtain ⟨s, inputs, trace⟩ := c1
  cases inputs with
  | nil => exact trivial
  | cons m rest =>
    have hm := hquieto1 m List.mem_cons_self
    unfold Prog.wp
    rw [Prog.bind_eq_of (leerPin_quieto hm s.ultimaPresencia s trace)]
    exact h ⟨{ s with teclado := s.teclado.suelto }, rest, trace⟩
      ⟨hmirada.estado, hmirada.evento, hmirada.presencia, hreads.trans ⟨1, le_rfl, rfl⟩⟩

/-- Without a key no round leads to the menu. -/
theorem mefUpdate_fuera (hquieto : ∀ m ∈ c.inputs, m.tecla = none) :
    mefUpdate.wp (fun _ => True) (fun _ c' => FueraDelMenu c c') c := by
  have hkeeps {m : MefProg Unit} (h : Prog.Keeps FueraDelMenu m) :
      m.wp (fun _ => True) (fun _ c' => FueraDelMenu c c') c :=
    h.wp (fun _ _ => trivial) fun _ _ h => h
  unfold mefUpdate
  rw [Prog.wp_bind, Prog.wp_get]
  cases h : c.st.estadoActual with
  | menuAdmin => exact Prog.wp_mono Prog.wp_true (fun _ h => h) fun _ _ _ hne => absurd h hne
  | reposo =>
    exact hkeeps (.bind fueraDelMenu entrarModoSleep_rutina.fuera fun _ =>
      (esperarPin_rutina sinMenu_espera).fuera)
  | esperandoAccion =>
    refine esperandoAccion_quieto hquieto fun c1 hc1 => ?_
    have hsin := sinTecla_rutina (sinMenu nofun) (sinMenu nofun) (sinMenu nofun)
      c1.st.ultimaPresencia
    refine hsin.fuera.wp (fun _ _ => trivial) fun _ c' hc' hc => ?_
    exact hc' (hc1.estado ▸ hc)
  | leerYValidarHuella =>
    exact hkeeps (.bind fueraDelMenu (.zoom fun _ _ _ _ h => h) fun r =>
      (trasEscaneo_rutina sinMenu_espera sinMenu_cierre trivial r).fuera)
  | validarRfid => exact hkeeps (validarTarjeta_rutina sinMenu_espera sinMenu_cierre trivial).fuera
  | validar => exact hkeeps (validar_rutina sinMenu_espera sinMenu_cierre trivial).fuera
  | sensorCierre => exact hkeeps (sensorCierre_rutina sinMenu_espera trivial).fuera
  | bloqueado => exact hkeeps (.pure fueraDelMenu _)
  | registrarRfid => exact hkeeps registrarRfid_fuera
  | registrarHuella => exact hkeeps registrarHuella_fuera

/-- In the menu the machine waits for a key. -/
theorem menuAdmin_espera (hquieto : ∀ m ∈ c.inputs, m.tecla = none) :
    menuAdmin.wp (fun _ => True) (fun _ _ => False) c := by
  have hopcion : leerOpcion.wp (fun _ => True) (fun _ _ => False) c := by
    refine Prog.wp_iter (fun _ c' => ∀ m ∈ c'.inputs, m.tecla = none) (fun _ _ _ => trivial)
      (fun _ c' h => ?_) hquieto
    obtain ⟨s, inputs, trace⟩ := c'
    cases inputs with
    | nil => exact trivial
    | cons m rest =>
      have hlee : conTeclado tecladoLeerTecla ⟨s, m :: rest, trace⟩ =
          (some none, ⟨{ s with teclado := s.teclado.suelto }, rest, trace⟩) := by
        unfold conTeclado Prog.zoom
        rw [show tecladoLeerTecla = nuevaTecla from rfl,
          nuevaTecla_quieto (h m List.mem_cons_self) s.teclado []]
        rfl
      unfold Prog.wp
      rw [Prog.bind_eq_of hlee]
      exact fun m hm => h m (.tail _ hm)
  unfold menuAdmin
  rw [Prog.wp_bind]
  exact Prog.wp_mono hopcion (fun _ h => h) fun _ _ h => h.elim

end Menu

/-! ## Rounds in a row -/

/-- `k` rounds of the loop of `main`. -/
def rondas : ℕ → MefProg Unit
  | 0 => pure ()
  | k + 1 => do
    mefUpdate
    rondas k

section Seguidas

variable {c : Config Mef Sample MefEv} {k w : ℕ}

/-- Outside the menu an untouched lock goes through any number of rounds. -/
theorem rondas_terminan (hestado : c.st.estadoActual ≠ .menuAdmin)
    (hc : (relojQuieto n).Runs start c.inputs) (hw : Despierta w c.inputs)
    (hlen : k * (w + plazoRonda n) ≤ c.inputs.length) : ∃ c', rondas k c = (some (), c') := by
  induction k generalizing c with
  | zero => exact ⟨c, rfl⟩
  | succ k ih =>
    rw [Nat.succ_mul, Nat.add_comm] at hlen
    obtain ⟨⟨⟩, c1, hronda, hreads, hfuera⟩ := Prog.wp_returns (Prog.wp_and
      (mefUpdate_takes hestado hc hw (Nat.le_of_add_right_le hlen))
      (mefUpdate_fuera (relojQuieto_iff.mp hc).2))
    obtain ⟨c', hresto⟩ := ih (hfuera hestado) (hreads.runs hc) (hw.reads hreads)
      (hreads.length_le hlen)
    exact ⟨c', (Prog.bind_eq_of hronda).trans hresto⟩

/-- A round that does not end. -/
theorem rondas_no_terminan (h : mefUpdate.wp (fun _ => True) (fun _ _ => False) c) :
    (rondas (k + 1) c).1 ≠ some () := by
  intro hreturn
  have hespera : (rondas (k + 1)).wp (fun _ => True) (fun _ _ => False) c := by
    unfold rondas
    rw [Prog.wp_bind]
    exact Prog.wp_mono h (fun _ h => h) fun _ _ h => h.elim
  exact Prog.wp_elim hespera (Prod.ext hreturn rfl)

/-- While no key goes down and the clock runs, the lock goes through any number of
rounds, if the presence sensor wakes it up, unless it is in MENU_ADMIN, where the first
of them does not end. If nothing wakes it up, it does not come out of REPOSO. -/
theorem rondas_terminan_iff (hreloj : (reloj n).Runs start c.inputs)
    (hquieto : ∀ m ∈ c.inputs, m.tecla = none)
    (hlen : (k + 1) * (w + plazoRonda n) ≤ c.inputs.length) :
    (Despierta w c.inputs →
      ((rondas (k + 1) c).1 = some () ↔ c.st.estadoActual ≠ .menuAdmin)) ∧
    ((∀ m ∈ c.inputs, m.presencia = false) → c.st.estadoActual = .reposo →
      (rondas (k + 1) c).1 ≠ some ()) := by
  refine ⟨fun hw => ⟨fun hreturn hmenu => ?_, fun hestado => ?_⟩, fun hcalla hreposo => ?_⟩
  · refine rondas_no_terminan ?_ hreturn
    unfold mefUpdate
    rw [Prog.wp_bind, Prog.wp_get, hmenu]
    exact menuAdmin_espera hquieto
  · obtain ⟨c', h⟩ := rondas_terminan hestado (relojQuieto_iff.mpr ⟨hreloj, hquieto⟩) hw hlen
    rw [h]
  · refine rondas_no_terminan ?_
    unfold mefUpdate
    rw [Prog.wp_bind, Prog.wp_get, hreposo]
    dsimp only
    rw [Prog.wp_bind]
    exact Prog.wp_mono (entrarModoSleep_espera hcalla) (fun _ h => h) fun _ _ h => h.elim

end Seguidas

/-- Somebody is at the door. -/
def Sample.presente (tick : ℕ) : Sample := { Sample.quiet tick with presencia := true }

/-- The lock wakes up, and goes on to the next round. -/
theorem rondas_terminan_dormida :
    (rondas 2 ⟨{ Mef.inicial with estadoActual := .reposo },
      (List.range (2 * (1 + plazoRonda 1))).map Sample.presente, []⟩).1 = some () := by
  have hreloj : (reloj 1).Runs 0 ((List.range (2 * (1 + plazoRonda 1))).map Sample.presente) :=
    reloj_runs (fun _ => rfl) (by decide)
  have hquieto : ∀ m ∈ (List.range (2 * (1 + plazoRonda 1))).map Sample.presente,
      m.tecla = none ∧ m.presencia = true := by
    intro m hm
    obtain ⟨t, -, rfl⟩ := List.mem_map.mp hm
    exact ⟨rfl, rfl⟩
  have hlen : (1 + 1) * (1 + plazoRonda 1) ≤
      ((List.range (2 * (1 + plazoRonda 1))).map Sample.presente).length := by
    rw [List.length_map, List.length_range]
  generalize (List.range (2 * (1 + plazoRonda 1))).map Sample.presente = inputs
    at hreloj hquieto hlen
  have hw : Despierta 1 inputs := by
    intro p hp
    obtain ⟨m, rest, hin⟩ := List.exists_cons_of_length_pos hp
    rw [hin]
    exact ⟨m, List.mem_singleton_self m, (hquieto m (List.mem_of_mem_drop
      (hin ▸ List.mem_cons_self))).2⟩
  exact ((rondas_terminan_iff (c := ⟨{ Mef.inicial with estadoActual := .reposo }, inputs, []⟩)
    hreloj (fun m hm => (hquieto m hm).1) hlen).1 hw).mpr nofun

end Cerradura
