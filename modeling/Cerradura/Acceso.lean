import Cerradura.Menor

/-!
# Authorised opening and authorised administration

A run is judged by its trace: each opening of the bolt by the credential that
was presented last, each administrative step by the PIN checks since the machine
last went back to ESPERANDO_ACCION.

Result: `acciones_autorizadas`. In every run every action is justified by what
came before it.
-/

namespace Cerradura

open Reactive

/-! ## What justifies an action -/

inductive Credencial
  | pin (pin : List UInt8)
  | tarjeta (uid : List UInt8)
  | huella (id : UInt16)
deriving DecidableEq, Repr

/-- An active user of the table has this credential. -/
def Credencial.EnTabla (lista : ListaPins) : Credencial → Prop
  | .pin codigo => codigo.length = 5 ∧ ∃ u ∈ lista.pins, u.activo = true ∧ u.codigo.bytes = codigo
  | .tarjeta uid => ∃ u ∈ lista.pins, u.activo = true ∧ u.rfid.bytes ≠ [] ∧ u.rfid.bytes = uid
  | .huella id =>
    ∃ u ∈ lista.pins, u.activo = true ∧ u.huella.bytes ≠ [] ∧ u.huella.bytes = idStr id

/-- The credential presented last, if the bolt has not been opened since. Traces
have the newest event first. -/
def ultimaCredencial : List MefEv → Option Credencial
  | [] => none
  | .pinLeido pin :: _ => some (.pin pin)
  | .uidLeido uid :: _ => some (.tarjeta uid)
  | .huellaLeida id :: _ => some (.huella id)
  | .accion _ .abrirCerradura :: _ => none
  | _ :: antes => ultimaCredencial antes

/-- The menu was entered with the master PIN, and the machine has not gone back
to ESPERANDO_ACCION since. -/
def EnSesion (traza : List MefEv) : Prop :=
  ∃ desde lista pin antes,
    traza = desde ++ .estado .menuAdmin :: .pinMaster lista pin :: .pinLeido pin :: antes ∧
      esPinMaster lista pin = true ∧ .estado .esperandoAccion ∉ desde

/-- The master PIN was given a second time in the session. -/
def SegundaClave (traza : List MefEv) : Prop :=
  ∃ desde lista pin antes, traza = desde ++ .pinMaster lista pin :: .pinLeido pin :: antes ∧
    esPinMaster lista pin = true ∧ .estado .esperandoAccion ∉ desde ∧ EnSesion antes

def Accion.administrativa : Accion → Bool
  | .abrirCerradura | .cerrarCerradura => false
  | _ => true

def Accion.borrado : Accion → Bool
  | .borrarHuella _ _ | .borrarTodasHuellas => true
  | _ => false

/-- What has to come before an event. -/
def Justificado (antes : List MefEv) : MefEv → Prop
  | .accion lista a =>
    (a = .abrirCerradura → ∃ cred, ultimaCredencial antes = some cred ∧ cred.EnTabla lista) ∧
    (a.administrativa = true → EnSesion antes) ∧ (a.borrado = true → SegundaClave antes)
  | _ => True

/-- Every event of the trace is justified. -/
def Segura (traza : List MefEv) : Prop :=
  ∀ despues e antes, traza = despues ++ e :: antes → Justificado antes e

theorem segura_cons {e : MefEv} {traza : List MefEv} (h : Segura traza)
    (he : Justificado traza e) : Segura (e :: traza) := by
  intro despues e' antes heq
  cases despues with
  | nil =>
    obtain ⟨rfl, rfl⟩ := List.cons.inj heq
    exact he
  | cons d despues => exact h despues e' antes (List.cons.inj heq).2

theorem EnSesion.cons {e : MefEv} {traza : List MefEv} (h : EnSesion traza)
    (he : e ≠ .estado .esperandoAccion) : EnSesion (e :: traza) := by
  obtain ⟨desde, lista, pin, antes, rfl, hmaster, hdesde⟩ := h
  refine ⟨e :: desde, lista, pin, antes, rfl, hmaster, ?_⟩
  rw [List.mem_cons, not_or]
  exact ⟨Ne.symm he, hdesde⟩

theorem SegundaClave.cons {e : MefEv} {traza : List MefEv} (h : SegundaClave traza)
    (he : e ≠ .estado .esperandoAccion) : SegundaClave (e :: traza) := by
  obtain ⟨desde, lista, pin, antes, rfl, hmaster, hdesde, hsesion⟩ := h
  refine ⟨e :: desde, lista, pin, antes, rfl, hmaster, ?_, hsesion⟩
  rw [List.mem_cons, not_or]
  exact ⟨Ne.symm he, hdesde⟩

/-! ## Steps that decide nothing -/

/-- An event that is neither an action nor a change of state. -/
def MefEv.Neutral : MefEv → Prop
  | .accion _ _ | .estado _ => False
  | _ => True

/-- The events of `c'` after `c` are neutral, and the state of the machine is the
same. -/
def Ajeno (c c' : Config Mef Sample MefEv) : Prop :=
  c'.st.estadoActual = c.st.estadoActual ∧
    ∃ evs, c'.trace = evs ++ c.trace ∧ ∀ e ∈ evs, e.Neutral

theorem ajeno : Prog.Composable Ajeno where
  refl c := ⟨rfl, [], rfl, fun _ he => nomatch he⟩
  trans := by
    rintro c c' c'' ⟨hst, evs, htrace, hevs⟩ ⟨hst', evs', htrace', hevs'⟩
    refine ⟨hst'.trans hst, evs' ++ evs, by rw [htrace', htrace, List.append_assoc], ?_⟩
    intro e he
    rcases List.mem_append.mp he with he | he
    · exact hevs' e he
    · exact hevs e he

theorem MefEv.Neutral.justificado {e : MefEv} (h : e.Neutral) (antes : List MefEv) :
    Justificado antes e := by
  cases e with
  | accion => exact h.elim
  | _ => trivial

theorem MefEv.Neutral.ne_estado {e : MefEv} (h : e.Neutral) (s : EstadoMEF) : e ≠ .estado s := by
  rintro rfl
  exact h

namespace Ajeno

variable {c c' : Config Mef Sample MefEv}

/-- What no neutral event destroys. -/
theorem lift {P : List MefEv → Prop} (h : Ajeno c c')
    (hP : ∀ {e : MefEv} {traza : List MefEv}, e.Neutral → P traza → P (e :: traza))
    (hc : P c.trace) : P c'.trace := by
  obtain ⟨-, evs, htrace, hevs⟩ := h
  rw [htrace]
  clear htrace
  induction evs with
  | nil => exact hc
  | cons e evs ih =>
    obtain ⟨he, hrest⟩ := List.forall_mem_cons.mp hevs
    exact hP he (ih hrest)

theorem segura (h : Ajeno c c') (hc : Segura c.trace) : Segura c'.trace :=
  h.lift (fun he ht => segura_cons ht (he.justificado _)) hc

theorem enSesion (h : Ajeno c c') (hc : EnSesion c.trace) : EnSesion c'.trace :=
  h.lift (fun he ht => ht.cons (he.ne_estado _)) hc

theorem segundaClave (h : Ajeno c c') (hc : SegundaClave c.trace) : SegundaClave c'.trace :=
  h.lift (fun he ht => ht.cons (he.ne_estado _)) hc

end Ajeno

section Ajenos

variable {α : Type}

/-- The clock, the drivers and the card reader. -/
theorem Menor.ajeno {c c' : Config Mef Sample MefEv} (h : Menor c c') : Ajeno c c' := by
  obtain ⟨evs, htrace, hevs⟩ := h.eventos
  refine ⟨h.estado, evs, htrace, fun e he => ?_⟩
  have hmenor := hevs e he
  cases e with
  | sensor _ | esp _ | uidLeido _ => trivial
  | _ => cases hmenor

theorem read_ajeno : Prog.Keeps Ajeno (Prog.read : MefProg Sample) :=
  read_menor.mono Menor.ajeno

theorem tickRead_ajeno : Prog.Keeps Ajeno (tickRead : MefProg ℕ) :=
  tickRead_menor.mono Menor.ajeno

theorem modify_ajeno {f : Mef → Mef} (h : ∀ s, (f s).estadoActual = s.estadoActual) :
    Prog.Keeps Ajeno (Prog.modify f : MefProg Unit) :=
  .modify fun c => ⟨h c.st, [], rfl, fun _ he => nomatch he⟩

theorem emit_ajeno {e : MefEv} (h : e.Neutral) : Prog.Keeps Ajeno (Prog.emit e : MefProg Unit) :=
  .emit fun _ => ⟨rfl, [e], rfl, List.forall_mem_singleton.mpr h⟩

theorem neutral_map {δ : Type} (ev : δ → MefEv) (h : ∀ d, (ev d).Neutral) (trace : List δ) :
    ∀ e ∈ trace.map ev, e.Neutral := by
  intro e he
  obtain ⟨d, -, rfl⟩ := List.mem_map.mp he
  exact h d

theorem conTeclado_ajeno (m : Prog Teclado Sample TecladoEv α) : Prog.Keeps Ajeno (conTeclado m) :=
  .zoom fun _ _ _ trace => ⟨rfl, _, rfl, neutral_map MefEv.teclado (fun _ => trivial) trace⟩

theorem conScan_ajeno (m : Prog Scan Sample SensorEv α) : Prog.Keeps Ajeno (conScan m) :=
  (conScan_menor m).mono Menor.ajeno

theorem conSensor_ajeno (m : Prog Unit Sample SensorEv α) : Prog.Keeps Ajeno (conSensor m) :=
  (conSensor_menor m).mono Menor.ajeno

theorem conEsp_ajeno (m : Prog Bool Sample EspEv α) : Prog.Keeps Ajeno (conEsp m) :=
  (conEsp_menor m).mono Menor.ajeno

theorem conLista_ajeno (m : Prog ListaPins Sample EspEv α) : Prog.Keeps Ajeno (conLista m) :=
  .zoom fun _ _ _ trace => ⟨rfl, _, rfl, neutral_map MefEv.esp (fun _ => trivial) trace⟩

theorem marcarPresencia_ajeno : Prog.Keeps Ajeno marcarPresencia :=
  marcarPresencia_menor.mono Menor.ajeno

theorem leerPin_ajeno (timer : ℤ) : Prog.Keeps Ajeno (leerPin timer) := by
  unfold leerPin
  refine .bind ajeno (conTeclado_ajeno _) fun (res, ultimaActividad) => ?_
  dsimp only
  cases res with
  | completo pin => exact .bind ajeno (emit_ajeno trivial) fun _ => .pure ajeno _
  | menu => exact .pure ajeno _
  | incompleto => exact .pure ajeno _

theorem vencerPeticion_ajeno : Prog.Keeps Ajeno vencerPeticion :=
  .bind ajeno (.get ajeno) fun _ => emit_ajeno trivial

theorem leerRfid_ajeno : Prog.Keeps Ajeno leerRfid :=
  leerRfid_menor.mono Menor.ajeno

end Ajenos

/-! ## Prompts -/

/-- A PIN was read last, after neutral events. -/
def Leido (c : Config Mef Sample MefEv) (pin : List UInt8) (c' : Config Mef Sample MefEv) : Prop :=
  pin.length = 5 ∧ ∃ evs, c'.trace = .pinLeido pin :: (evs ++ c.trace) ∧ ∀ e ∈ evs, e.Neutral

theorem Ajeno.leido {c c' c'' : Config Mef Sample MefEv} {pin : List UInt8} (h : Ajeno c c')
    (h' : Leido c' pin c'') : Leido c pin c'' := by
  obtain ⟨-, evs, htrace, hevs⟩ := h
  obtain ⟨hlen, evs', htrace', hevs'⟩ := h'
  refine ⟨hlen, evs' ++ evs, by rw [htrace', htrace, List.append_assoc], fun e he => ?_⟩
  rcases List.mem_append.mp he with he | he
  · exact hevs' e he
  · exact hevs e he

/-- A PIN is complete when it has five digits. -/
theorem tecladoLeerPin_wp {c : Config Teclado Sample TecladoEv} :
    tecladoLeerPin.wp (fun _ => True)
      (fun r _ => ∀ pin, r.1 = .completo pin → pin.length = 5) c := by
  unfold tecladoLeerPin
  rw [Prog.wp_bind]
  refine Prog.wp_mono Prog.wp_true (fun _ _ => trivial) fun tecla c' _ => ?_
  cases tecla with
  | none => exact fun pin hpin => nomatch hpin
  | some teclaChar =>
    dsimp only
    rw [Prog.wp_bind]
    refine wp_tickRead (fun _ => trivial) fun m rest _ => ?_
    refine Prog.wp_ite (fun _ pin hpin => nomatch hpin) fun _ => ?_
    rw [Prog.wp_bind, Prog.wp_get]
    refine Prog.wp_ite (fun hfull pin hpin => ?_) fun _ pin hpin => nomatch hpin
    obtain rfl := LeerPin.completo.inj hpin
    exact hfull

theorem leerPin_wp {timer : ℤ} {c : Config Mef Sample MefEv} :
    (leerPin timer).wp (Ajeno c)
      (fun r c' => Ajeno c c' ∧ ∀ pin, r.1 = .completo pin → Leido c pin c') c := by
  unfold leerPin
  rw [Prog.wp_bind]
  refine Prog.wp_zoom tecladoLeerPin_wp (fun c' _ => ?_) fun (res, ultimaActividad) c' hres => ?_
  · exact ⟨rfl, _, rfl, neutral_map MefEv.teclado (fun _ => trivial) _⟩
  · have hevs := neutral_map MefEv.teclado (fun _ => trivial) c'.trace
    dsimp only
    cases res with
    | completo pin =>
      rw [Prog.wp_bind, Prog.wp_emit, Prog.wp_pure]
      refine ⟨⟨rfl, .pinLeido pin :: c'.trace.map .teclado, rfl, ?_⟩, ?_⟩
      · exact List.forall_mem_cons.mpr ⟨trivial, hevs⟩
      · intro pin' hpin
        obtain rfl := LeerPin.completo.inj hpin
        exact ⟨hres pin rfl, _, rfl, hevs⟩
    | menu => exact ⟨⟨rfl, _, rfl, hevs⟩, fun pin hpin => nomatch hpin⟩
    | incompleto => exact ⟨⟨rfl, _, rfl, hevs⟩, fun pin hpin => nomatch hpin⟩

theorem pedirPin_wp {limite : TimeTest} {c : Config Mef Sample MefEv} :
    (pedirPin limite).wp (Ajeno c)
      (fun r c' => Ajeno c c' ∧ ∀ pin, r = some pin → Leido c pin c') c := by
  unfold pedirPin
  rw [Prog.wp_bind]
  refine tickRead_ajeno.wp (fun _ h => h) fun t c1 h1 => ?_
  rw [Prog.wp_bind]
  refine (emit_ajeno (e := .peticion) trivial).wp (fun _ h => ajeno.trans h1 h) fun _ c1' h1' => ?_
  refine Prog.wp_iter (fun _ => Ajeno c) (fun _ _ h => h) (fun timer c2 h2 => ?_)
    (ajeno.trans h1 h1')
  rw [Prog.wp_bind]
  refine Prog.wp_mono leerPin_wp (fun c3 h3 => ajeno.trans h2 h3) fun (res, timer) c3 h3 => ?_
  have h13 := ajeno.trans h2 h3.1
  cases res
  case completo pin =>
    refine ⟨h13, fun pin' hpin => ?_⟩
    obtain rfl := Option.some.inj hpin
    exact h2.leido (h3.2 pin rfl)
  -- not yet, or an asterisk
  all_goals
    dsimp only
    rw [Prog.wp_bind]
    refine tickRead_ajeno.wp (fun _ h4 => ajeno.trans h13 h4) fun now c4 h4 => ?_
    have h14 := ajeno.trans h13 h4
    refine Prog.wp_ite (fun _ => ?_) fun _ => h14
    rw [Prog.wp_bind]
    exact vencerPeticion_ajeno.wp (fun _ h5 => ajeno.trans h14 h5) fun _ _ h5 =>
      ⟨ajeno.trans h14 h5, fun pin hpin => nomatch hpin⟩

/-- The check of the administrator's PIN as the trace shows it. -/
def Aceptado (c : Config Mef Sample MefEv) (pin : List UInt8)
    (c' : Config Mef Sample MefEv) : Prop :=
  ∃ lista, c'.trace = .pinMaster lista pin :: c.trace ∧ esPinMaster lista pin = true

theorem comprobarPinMaster_wp {pin : List UInt8} {c : Config Mef Sample MefEv} :
    (comprobarPinMaster pin).wp (Ajeno c)
      (fun r c' => Ajeno c c' ∧ (r = true → Aceptado c pin c')) c := by
  unfold comprobarPinMaster
  rw [Prog.wp_bind, Prog.wp_get]
  refine Prog.wp_ite (fun hmaster => ?_) fun _ => ⟨ajeno.refl c, fun h => nomatch h⟩
  exact ⟨⟨rfl, [.pinMaster c.st.listaPins pin], rfl, List.forall_mem_singleton.mpr trivial⟩,
    fun _ => ⟨_, rfl, hmaster⟩⟩

theorem pedirPinAdmin_wp {c : Config Mef Sample MefEv} :
    pedirPinAdmin.wp (Ajeno c) (fun r c' => Ajeno c c' ∧ (r = true → ∃ lista pin antes,
      c'.trace = .pinMaster lista pin :: .pinLeido pin :: antes ∧
        esPinMaster lista pin = true)) c := by
  unfold pedirPinAdmin
  rw [Prog.wp_bind]
  refine tickRead_ajeno.wp (fun _ h => h) fun t c1 h1 => ?_
  rw [Prog.wp_bind]
  refine (conTeclado_ajeno _).wp (fun _ h => ajeno.trans h1 h) fun _ c2 h2 => ?_
  have h12 := ajeno.trans h1 h2
  rw [Prog.wp_bind]
  refine (emit_ajeno (e := .peticion) trivial).wp (fun _ h => ajeno.trans h12 h) fun _ c2' h2' => ?_
  refine Prog.wp_iter (fun _ => Ajeno c) (fun _ _ h => h) (fun timer c3 h3 => ?_)
    (ajeno.trans h12 h2')
  rw [Prog.wp_bind]
  refine tickRead_ajeno.wp (fun _ h => ajeno.trans h3 h) fun now c4 h4 => ?_
  have h14 := ajeno.trans h3 h4
  refine Prog.wp_ite (fun _ => ?_) fun _ => ⟨h14, fun h => nomatch h⟩
  rw [Prog.wp_bind]
  refine Prog.wp_mono leerPin_wp (fun _ h => ajeno.trans h14 h) fun (res, timer) c5 h5 => ?_
  have h15 := ajeno.trans h14 h5.1
  cases res with
  | completo pin =>
    dsimp only
    rw [Prog.wp_bind]
    refine Prog.wp_mono comprobarPinMaster_wp (fun _ h => ajeno.trans h15 h) fun r c6 h6 => ?_
    refine ⟨ajeno.trans h15 h6.1, fun hr => ?_⟩
    obtain ⟨lista, htrace, hmaster⟩ := h6.2 hr
    obtain ⟨-, evs, hleido, -⟩ := h5.2 pin rfl
    exact ⟨lista, pin, _, by rw [htrace, hleido], hmaster⟩
  | menu => exact ⟨h15, fun h => nomatch h⟩
  | incompleto => exact h15

/-! ## Opening -/

/-- What links the state of the machine to what led to it. -/
def Enlace (s : Mef) (traza : List MefEv) : Prop :=
  match s.estadoActual with
  | .validar => ultimaCredencial traza = some (.pin s.pinIngresado) ∧ s.pinIngresado.length = 5
  | .validarRfid => ultimaCredencial traza = some (.tarjeta s.rfid)
  | .menuAdmin | .registrarRfid | .registrarHuella => EnSesion traza
  | _ => True

/-- The invariant of the machine. -/
structure Vigilado (c : Config Mef Sample MefEv) : Prop where
  segura : Segura c.trace
  enlace : Enlace c.st c.trace

section Estados

variable {c c' : Config Mef Sample MefEv}

theorem Segura.estado (h : Segura c.trace) (e : EstadoMEF) : Segura (.estado e :: c.trace) :=
  segura_cons h trivial

theorem esperarPin_wp {halt : Config Mef Sample MefEv → Prop} (h : Segura c.trace) :
    esperarPin.wp halt (fun _ => Vigilado) c :=
  ⟨segura_cons (h.estado _) trivial, trivial⟩

theorem volverAEsperar_wp (h : Segura c.trace) :
    volverAEsperar.wp (fun c' => Segura c'.trace) (fun _ => Vigilado) c := by
  unfold volverAEsperar
  rw [Prog.wp_bind]
  exact marcarPresencia_ajeno.wp (fun _ h1 => h1.segura h) fun _ c1 h1 =>
    esperarPin_wp (h1.segura h)

theorem atenderPresencia_ajeno : Prog.Keeps Ajeno atenderPresencia :=
  atenderPresencia_menor.mono Menor.ajeno

theorem programarEscaneo_ajeno : Prog.Keeps Ajeno programarEscaneo :=
  programarEscaneo_menor.mono Menor.ajeno

theorem leerRfid_wp : leerRfid.wp (Ajeno c) (fun r c' => Ajeno c c' ∧
    (r = true → ∃ traza, c'.trace = .uidLeido c'.st.rfid :: traza)) c := by
  unfold leerRfid
  rw [Prog.wp_bind]
  have hread : Prog.Keeps Ajeno (leerRfidStr : MefProg _) :=
    .bind ajeno read_ajeno fun _ => .pure ajeno _
  refine hread.wp (fun _ h => h) fun uid c1 h1 => ?_
  cases uid with
  | none => exact ⟨h1, fun h => nomatch h⟩
  | some uid =>
    refine ⟨ajeno.trans h1 ⟨rfl, [.uidLeido uid], rfl, List.forall_mem_singleton.mpr trivial⟩, ?_⟩
    exact fun _ => ⟨c1.trace, rfl⟩

theorem esperandoAccion_wp (hst : c.st.estadoActual = .esperandoAccion) (h : Segura c.trace) :
    esperandoAccion.wp (fun c' => Segura c'.trace) (fun _ => Vigilado) c := by
  unfold esperandoAccion
  rw [Prog.wp_bind]
  refine atenderPresencia_ajeno.wp (fun _ h1 => h1.segura h) fun _ c1 h1 => ?_
  rw [Prog.wp_bind, Prog.wp_get, Prog.wp_bind]
  refine Prog.wp_mono leerPin_wp (fun _ h2 => (ajeno.trans h1 h2).segura h)
    fun (resultado, ultimaPresencia) c2 h2 => ?_
  have h12 := ajeno.trans h1 h2.1
  rw [Prog.wp_bind, Prog.wp_modify]
  have hc2 : Segura c2.trace := h12.segura h
  cases resultado with
  | completo pin =>
    obtain ⟨hlen, evs, htrace, -⟩ := h2.2 pin rfl
    dsimp only
    rw [Prog.wp_bind, Prog.wp_modify, Prog.wp_bind]
    refine marcarPresencia_wp hc2 fun t inputs => ⟨hc2.estado _, ?_, hlen⟩
    show ultimaCredencial (.estado .validar :: c2.trace) = _
    rw [htrace]
    rfl
  | menu =>
    dsimp only
    rw [Prog.wp_bind]
    refine Prog.wp_mono pedirPinAdmin_wp (fun _ h3 => h3.segura hc2) fun acceso c3 h3 => ?_
    have hc3 : Segura c3.trace := h3.1.segura hc2
    refine Prog.wp_ite (fun hacceso => ?_) fun _ => ?_
    · obtain ⟨lista, pin, antes, htrace, hmaster⟩ := h3.2 hacceso
      rw [Prog.wp_bind]
      refine marcarPresencia_wp hc3 fun t inputs => ⟨hc3.estado _, ?_⟩
      exact ⟨[], lista, pin, antes, congrArg _ htrace, hmaster, List.not_mem_nil⟩
    · rw [Prog.wp_bind]
      refine (conTeclado_ajeno _).wp (fun _ h4 => h4.segura hc3) fun _ c4 h4 => ?_
      refine ⟨segura_cons (h4.segura hc3) trivial, ?_⟩
      have hst4 : c4.st.estadoActual = .esperandoAccion :=
        h4.1.trans (h3.1.1.trans (h12.1.trans hst))
      show Enlace c4.st _
      unfold Enlace
      rw [hst4]
      trivial
  | incompleto =>
    dsimp only
    rw [Prog.wp_bind]
    refine tickRead_ajeno.wp (fun _ h3 => h3.segura hc2) fun now c3 h3 => ?_
    have hc3 : Segura c3.trace := h3.segura hc2
    refine Prog.wp_ite (fun _ => ⟨hc3.estado _, trivial⟩) fun _ => ?_
    rw [Prog.wp_bind]
    refine Prog.wp_mono leerRfid_wp (fun _ h4 => h4.segura hc3) fun leido c4 h4 => ?_
    have hc4 : Segura c4.trace := h4.1.segura hc3
    refine Prog.wp_ite (fun hleido => ?_) fun _ => ?_
    · obtain ⟨traza, htrace⟩ := h4.2 hleido
      rw [Prog.wp_bind]
      refine marcarPresencia_wp hc4 fun t inputs => ⟨hc4.estado _, ?_⟩
      show ultimaCredencial (.estado .validarRfid :: c4.trace) = _
      rw [htrace]
      rfl
    · rw [Prog.wp_bind]
      refine programarEscaneo_ajeno.wp (fun _ h5 => h5.segura hc4) fun _ c5 h5 => ?_
      have hc5 : Segura c5.trace := h5.segura hc4
      rw [Prog.wp_bind, Prog.wp_get]
      refine Prog.wp_ite (fun _ => ⟨hc5.estado _, trivial⟩) fun _ => ⟨hc5, ?_⟩
      have hst5 : c5.st.estadoActual = .esperandoAccion :=
        h5.1.trans (h4.1.1.trans (h3.1.trans (h12.1.trans hst)))
      unfold Enlace
      rw [hst5]
      trivial

/-- An opening that the last credential justifies. -/
theorem Segura.abrir {traza : List MefEv} {lista : ListaPins} (h : Segura traza) {cred : Credencial}
    (hcred : ultimaCredencial traza = some cred) (htabla : cred.EnTabla lista) :
    Segura (.accion lista .abrirCerradura :: traza) :=
  segura_cons h ⟨fun _ => ⟨cred, hcred, htabla⟩, (fun h => nomatch h), (fun h => nomatch h)⟩

theorem leerYValidarHuella_wp (h : Segura c.trace) :
    leerYValidarHuella.wp (fun c' => Segura c'.trace) (fun _ => Vigilado) c := by
  unfold leerYValidarHuella
  rw [Prog.wp_bind]
  refine (conScan_ajeno _).wp (fun _ h1 => h1.segura h) fun (st, salida) c1 h1 => ?_
  have hc1 : Segura c1.trace := h1.segura h
  cases st with
  | scanMatch =>
    dsimp only
    rw [Prog.wp_bind, Prog.wp_emit, Prog.wp_bind, Prog.wp_get]
    refine Prog.wp_ite (fun hvalida => ?_) fun _ => ?_
    · have hleida : Segura (.huellaLeida (idLeido salida) :: c1.trace) := segura_cons hc1 trivial
      have htabla : (Credencial.huella (idLeido salida)).EnTabla c1.st.listaPins :=
        validarHuella_iff.mp hvalida
      exact ⟨segura_cons (hleida.abrir rfl htabla) trivial, trivial⟩
    · exact ⟨segura_cons (segura_cons hc1 trivial) trivial, trivial⟩
  | scanNoMatch =>
    dsimp only
    rw [Prog.wp_bind, Prog.wp_modify, Prog.wp_bind]
    exact marcarPresencia_wp hc1 fun t inputs => ⟨hc1.estado _, trivial⟩
  | scanNoFinger => exact ⟨hc1.estado _, trivial⟩
  | scanError => exact ⟨hc1.estado _, trivial⟩
  | scanIdle => exact ⟨hc1.estado _, trivial⟩
  | scanInProgress => exact ⟨hc1.estado _, trivial⟩

theorem validarTarjeta_wp (hst : c.st.estadoActual = .validarRfid) (h : Vigilado c) :
    validarTarjeta.wp (fun c' => Segura c'.trace) (fun _ => Vigilado) c := by
  have hcred := h.enlace
  unfold Enlace at hcred
  rw [hst] at hcred
  unfold validarTarjeta
  rw [Prog.wp_bind, Prog.wp_get]
  cases htag : obtenerTagPorRFID c.st.listaPins c.st.rfid with
  | some tag =>
    have htabla : (Credencial.tarjeta c.st.rfid).EnTabla c.st.listaPins := by
      obtain ⟨u, hu, -⟩ := Option.bind_eq_some_iff.mp htag
      exact ⟨u, List.mem_of_find?_eq_some hu, conRFID_iff.mp (List.find?_some hu)⟩
    exact ⟨segura_cons (h.segura.abrir hcred htabla) trivial, trivial⟩
  | none =>
    dsimp only
    rw [Prog.wp_bind]
    exact (conTeclado_ajeno _).wp (fun _ h1 => h1.segura h.segura) fun _ c1 h1 =>
      esperarPin_wp (h1.segura h.segura)

theorem contarFallo_ajeno : Prog.Keeps Ajeno contarFallo :=
  .bind ajeno (.get ajeno) fun _ => .ite
    (fun _ => .bind ajeno (modify_ajeno fun _ => rfl) fun _ => emit_ajeno trivial)
    fun _ => modify_ajeno fun _ => rfl

theorem validar_wp (hst : c.st.estadoActual = .validar) (h : Vigilado c) :
    validar.wp (fun c' => Segura c'.trace) (fun _ => Vigilado) c := by
  have hcred := h.enlace
  unfold Enlace at hcred
  rw [hst] at hcred
  unfold validar
  rw [Prog.wp_bind, Prog.wp_get]
  refine Prog.wp_ite (fun hvalido => ?_) fun _ => ?_
  · have htabla : (Credencial.pin c.st.pinIngresado).EnTabla c.st.listaPins :=
      ⟨hcred.2, validarPin_iff.mp hvalido⟩
    exact ⟨(h.segura.estado _).abrir hcred.1 htabla, trivial⟩
  · rw [Prog.wp_bind]
    refine contarFallo_ajeno.wp (fun _ h1 => h1.segura h.segura) fun _ c1 h1 => ?_
    have hc1 : Segura c1.trace := h1.segura h.segura
    rw [Prog.wp_bind]
    exact (conTeclado_ajeno _).wp (fun _ h2 => h2.segura hc1) fun _ c2 h2 =>
      esperarPin_wp (h2.segura hc1)

theorem sensorCierre_wp (hst : c.st.estadoActual = .sensorCierre) (h : Segura c.trace) :
    sensorCierre.wp (fun c' => Segura c'.trace) (fun _ => Vigilado) c := by
  unfold sensorCierre
  rw [Prog.wp_bind]
  refine read_ajeno.wp (fun _ h1 => h1.segura h) fun m c1 h1 => ?_
  have hc1 : Segura c1.trace := h1.segura h
  refine Prog.wp_ite (fun _ => ?_) fun _ => ⟨hc1, ?_⟩
  · rw [Prog.wp_bind]
    exact volverAEsperar_wp (segura_cons hc1
      ⟨(fun h => nomatch h), (fun h => nomatch h), (fun h => nomatch h)⟩)
  · unfold Enlace
    rw [h1.1.trans hst]
    trivial

end Estados

/-! ## Administration -/

/-- A question to the administrator: afterwards the machine is back in
ESPERANDO_ACCION, or nothing was decided. -/
def Pregunta (c c' : Config Mef Sample MefEv) : Prop :=
  (Segura c.trace → Segura c'.trace) ∧ (c'.st.estadoActual = .esperandoAccion ∨ Ajeno c c')

theorem Ajeno.pregunta {c c' : Config Mef Sample MefEv} (h : Ajeno c c') : Pregunta c c' :=
  ⟨h.segura, .inr h⟩

theorem pregunta : Prog.Composable Pregunta where
  refl c := (ajeno.refl c).pregunta
  trans := by
    rintro c c' c'' ⟨hseg, hst⟩ ⟨hseg', hst'⟩
    refine ⟨fun h => hseg' (hseg h), ?_⟩
    rcases hst' with hst' | hst'
    · exact .inl hst'
    · rcases hst with hst | hst
      · exact .inl (hst'.1.trans hst)
      · exact .inr (ajeno.trans hst hst')

section Preguntas

variable {α : Type}

theorem keeps_pregunta {m : MefProg α} (h : Prog.Keeps Ajeno m) : Prog.Keeps Pregunta m :=
  h.mono Ajeno.pregunta

theorem volverAEsperar_pregunta : Prog.Keeps Pregunta volverAEsperar := by
  refine .bind pregunta (keeps_pregunta marcarPresencia_ajeno) fun _ c => ?_
  exact ⟨fun h => segura_cons (segura_cons h trivial) trivial, .inl rfl⟩

theorem leerPinValidado_pregunta (pinValidado : List UInt8) (timer : ℤ) :
    Prog.Keeps Pregunta (leerPinValidado pinValidado timer) := by
  refine .bind pregunta (keeps_pregunta (emit_ajeno trivial)) fun _ => ?_
  refine .iter pregunta (fun timer => ?_) timer
  refine .bind pregunta (keeps_pregunta (leerPin_ajeno timer)) fun (res, timer) => ?_
  cases res
  case completo => exact .pure pregunta _
  -- not yet, or an asterisk
  all_goals
    exact .bind pregunta (keeps_pregunta tickRead_ajeno) fun _ => .ite
      (fun _ => .bind pregunta (keeps_pregunta vencerPeticion_ajeno) fun _ =>
        .bind pregunta volverAEsperar_pregunta fun _ => .pure pregunta _)
      fun _ => .pure pregunta _

theorem pedirPinValidado_pregunta : Prog.Keeps Pregunta pedirPinValidado := by
  refine .bind pregunta (keeps_pregunta tickRead_ajeno) fun t => ?_
  refine .iter pregunta (fun (pinValidado, timer, intentos) => ?_) _
  refine .bind pregunta (leerPinValidado_pregunta pinValidado timer) fun _ => ?_
  refine .bind pregunta (.get pregunta) fun _ => .ite (fun _ => .pure pregunta _) fun _ => ?_
  exact .ite (fun _ => .bind pregunta volverAEsperar_pregunta fun _ => .pure pregunta _)
    fun _ => .pure pregunta _

theorem pedirTarjeta_pregunta : Prog.Keeps Pregunta pedirTarjeta := by
  refine .bind pregunta (keeps_pregunta tickRead_ajeno) fun t => .iter pregunta (fun _ => ?_) _
  refine .bind pregunta (keeps_pregunta leerRfid_ajeno) fun _ => .ite
    (fun _ => .pure pregunta _) fun _ => ?_
  refine .bind pregunta (keeps_pregunta tickRead_ajeno) fun _ => ?_
  exact .ite (fun _ => .bind pregunta volverAEsperar_pregunta fun _ => .pure pregunta _)
    fun _ => .pure pregunta _

end Preguntas

theorem SegundaClave.enSesion {traza : List MefEv} (h : SegundaClave traza) : EnSesion traza := by
  obtain ⟨desde, lista, pin, antes, rfl, -, hdesde, hsesion⟩ := h
  induction desde with
  | nil =>
    have hleido : EnSesion (.pinLeido pin :: antes) := hsesion.cons nofun
    exact hleido.cons nofun
  | cons e desde ih =>
    rw [List.mem_cons, not_or] at hdesde
    exact (ih hdesde.2).cons (Ne.symm hdesde.1)

section Sesion

variable {c c' : Config Mef Sample MefEv} {traza : List MefEv} {lista : ListaPins}

theorem Segura.administrar {a : Accion} (h : Segura traza) (hsesion : EnSesion traza)
    (habrir : a ≠ .abrirCerradura) (hborrar : a.borrado = false) :
    Segura (.accion lista a :: traza) :=
  segura_cons h ⟨fun ha => (habrir ha).elim, fun _ => hsesion,
    fun ha => (Bool.false_ne_true (hborrar.symm.trans ha)).elim⟩

theorem Segura.borrar {a : Accion} (h : Segura traza) (hclave : SegundaClave traza)
    (habrir : a ≠ .abrirCerradura) : Segura (.accion lista a :: traza) :=
  segura_cons h ⟨fun ha => (habrir ha).elim, fun _ => hclave.enSesion, fun _ => hclave⟩

/-- After the question the registration goes on only if nothing was decided. -/
theorem siSigue_wp {m : MefProg Unit} (hpregunta : Pregunta c c') (h : Segura c.trace)
    (hm : Ajeno c c' → m.wp (fun c' => Segura c'.trace) (fun _ => Vigilado) c') :
    (siSigue m).wp (fun c' => Segura c'.trace) (fun _ => Vigilado) c' := by
  unfold siSigue
  rw [Prog.wp_bind, Prog.wp_get]
  refine Prog.wp_ite (fun hesp => ⟨hpregunta.1 h, ?_⟩) fun hsigue => ?_
  · unfold Enlace
    rw [hesp]
    trivial
  · rcases hpregunta.2 with hesp | hajeno
    · exact absurd hesp hsigue
    · exact hm hajeno

theorem registrarRfid_wp (h : Segura c.trace) (hsesion : EnSesion c.trace) :
    registrarRfid.wp (fun c' => Segura c'.trace) (fun _ => Vigilado) c := by
  unfold registrarRfid
  rw [Prog.wp_bind]
  refine pedirPinValidado_pregunta.wp (fun _ h1 => h1.1 h) fun pinValidado c1 h1 => ?_
  refine siSigue_wp h1 h fun ha1 => ?_
  have hc1 : Segura c1.trace := ha1.segura h
  rw [Prog.wp_bind]
  refine pedirTarjeta_pregunta.wp (fun _ h2 => h2.1 hc1) fun _ c2 h2 => ?_
  refine siSigue_wp h2 hc1 fun ha2 => ?_
  have hc2 : Segura c2.trace := ha2.segura hc1
  have hsesion2 : EnSesion c2.trace := ha2.enSesion (ha1.enSesion hsesion)
  have hhecho : Segura (.accion c2.st.listaPins (.registrarRfid pinValidado c2.st.rfid) ::
      c2.trace) := hc2.administrar hsesion2 nofun rfl
  rw [Prog.wp_bind, Prog.wp_get, Prog.wp_bind]
  show ((Prog.modify _ : MefProg Unit) >>= _).wp _ _ _
  rw [Prog.wp_bind, Prog.wp_modify, Prog.wp_bind]
  refine (conEsp_ajeno _).wp (fun _ h3 => h3.segura hhecho) fun _ c3 h3 => ?_
  exact volverAEsperar_wp (h3.segura hhecho)

theorem enrolar_wp {pin : List UInt8} {id : UInt16} (h : Segura c.trace)
    (hsesion : EnSesion c.trace) :
    (enrolar pin id).wp (fun c' => Segura c'.trace) (fun _ c' => Segura c'.trace) c := by
  refine Prog.wp_iter (fun _ c => Segura c.trace ∧ EnSesion c.trace) (fun _ _ hinv => hinv.1)
    (fun intentos c1 hinv => ?_) ⟨h, hsesion⟩
  obtain ⟨hc1, hsesion1⟩ := hinv
  refine Prog.wp_ite (fun _ => ?_) fun _ => hc1
  have hhecho : Segura (.accion c1.st.listaPins (.enrolarHuella pin id) :: c1.trace) :=
    hc1.administrar hsesion1 nofun rfl
  have hsesion2 : EnSesion (.accion c1.st.listaPins (.enrolarHuella pin id) :: c1.trace) :=
    hsesion1.cons nofun
  rw [Prog.wp_bind]
  show ((conSensor _ : MefProg _) >>= _).wp _ _ _
  rw [Prog.wp_bind]
  refine (conSensor_ajeno _).wp (fun _ h2 => h2.segura hhecho) fun r c2 h2 => ?_
  cases r with
  | some idResultado => exact h2.segura hhecho
  | none => exact ⟨h2.segura hhecho, h2.enSesion hsesion2⟩

theorem registrarHuella_wp (hst : c.st.estadoActual = .registrarHuella) (h : Segura c.trace)
    (hsesion : EnSesion c.trace) :
    registrarHuella.wp (fun c' => Segura c'.trace) (fun _ => Vigilado) c := by
  unfold registrarHuella
  rw [Prog.wp_bind]
  refine pedirPinValidado_pregunta.wp (fun _ h1 => h1.1 h) fun pinValidado c1 h1 => ?_
  refine siSigue_wp h1 h fun ha1 => ?_
  have hc1 : Segura c1.trace := ha1.segura h
  have hsesion1 : EnSesion c1.trace := ha1.enSesion hsesion
  rw [Prog.wp_bind, Prog.wp_get]
  cases obtenerHuellaAsignadaPorPin c1.st.listaPins pinValidado with
  | some idHuellaStr =>
    dsimp only
    rw [Prog.wp_bind]
    refine Prog.wp_mono (enrolar_wp hc1 hsesion1) (fun _ h2 => h2) fun r c2 hc2 => ?_
    cases r with
    | none => exact volverAEsperar_wp hc2
    | some idResultado =>
      dsimp only
      rw [Prog.wp_bind, Prog.wp_modify, Prog.wp_bind]
      refine (conEsp_ajeno _).wp (fun _ h3 => h3.segura hc2) fun _ c3 h3 => ?_
      have hc3 : Segura (.peticion :: .estado .esperandoAccion :: c3.trace) :=
        segura_cons ((h3.segura hc2).estado _) trivial
      exact marcarPresencia_wp hc3 fun t inputs => ⟨hc3, trivial⟩
  | none =>
    refine marcarPresencia_wp hc1 fun t inputs => ⟨hc1, ?_⟩
    unfold Enlace
    rw [show _ = EstadoMEF.registrarHuella from ha1.1.trans hst]
    exact hsesion1

theorem borrarTodas_wp (h : Segura c.trace) (hclave : SegundaClave c.trace) :
    borrarTodas.wp (fun c' => Segura c'.trace) (fun _ c' => Segura c'.trace) c := by
  have hhecho : Segura (.accion c.st.listaPins .borrarTodasHuellas :: c.trace) :=
    h.borrar hclave nofun
  unfold borrarTodas
  rw [Prog.wp_bind]
  show ((conSensor _ : MefProg _) >>= _).wp _ _ _
  rw [Prog.wp_bind]
  refine (conSensor_ajeno _).wp (fun _ h1 => h1.segura hhecho) fun _ c1 h1 => ?_
  have hc1 : Segura c1.trace := h1.segura hhecho
  refine Prog.wp_ite (fun _ => ?_) fun _ => hc1
  rw [Prog.wp_bind, Prog.wp_modify, Prog.wp_bind]
  exact (conEsp_ajeno _).wp (fun _ h2 => h2.segura hc1) fun _ _ h2 => h2.segura hc1

theorem borrarUna_wp (h : Segura c.trace) (hclave : SegundaClave c.trace) :
    borrarUna.wp (fun c' => Segura c'.trace) (fun _ c' => Segura c'.trace) c := by
  unfold borrarUna
  rw [Prog.wp_bind]
  refine Prog.wp_mono pedirPin_wp (fun _ h1 => h1.segura h) fun r c1 h1 => ?_
  have hc1 : Segura c1.trace := h1.1.segura h
  rw [Prog.wp_bind, Prog.wp_get]
  refine Prog.wp_ite (fun _ => ?_) fun _ => segura_cons hc1 trivial
  cases obtenerHuellaAsignadaPorPin c1.st.listaPins (r.getD []) with
  | none => exact segura_cons hc1 trivial
  | some idStr =>
    have hhecho : Segura (.accion c1.st.listaPins (.borrarHuella (r.getD []) (idSensor idStr)) ::
        c1.trace) := hc1.borrar (h1.1.segundaClave hclave) nofun
    dsimp only
    rw [Prog.wp_bind]
    show ((conSensor _ : MefProg _) >>= _).wp _ _ _
    rw [Prog.wp_bind]
    refine (conSensor_ajeno _).wp (fun _ h2 => h2.segura hhecho) fun _ c2 h2 => ?_
    have hc2 : Segura c2.trace := h2.segura hhecho
    refine Prog.wp_ite (fun _ => ?_) fun _ => hc2
    rw [Prog.wp_bind, Prog.wp_modify, Prog.wp_bind]
    exact (conEsp_ajeno _).wp (fun _ h3 => h3.segura hc2) fun _ _ h3 => h3.segura hc2

theorem borrarSegun_wp {subOp : UInt8} (h : Segura c.trace) (hclave : SegundaClave c.trace) :
    (borrarSegun subOp).wp (fun c' => Segura c'.trace) (fun _ c' => Segura c'.trace) c :=
  Prog.wp_ite (fun _ => borrarTodas_wp h hclave) fun _ =>
    Prog.wp_ite (fun _ => borrarUna_wp h hclave) fun _ => h

theorem pedirSubOp_ajeno : Prog.Keeps Ajeno pedirSubOp := by
  refine .bind ajeno tickRead_ajeno fun t => .iter ajeno (fun _ => ?_) _
  refine .bind ajeno tickRead_ajeno fun _ => .ite (fun _ => ?_) fun _ => .pure ajeno _
  refine .bind ajeno (conTeclado_ajeno _) fun k => ?_
  cases k with
  | none => exact .pure ajeno _
  | some k => exact .ite (fun _ => .pure ajeno _) fun _ => .pure ajeno _

theorem borrarHuellas_wp (hst : c.st.estadoActual = .menuAdmin) (h : Segura c.trace)
    (hsesion : EnSesion c.trace) :
    borrarHuellas.wp (fun c' => Segura c'.trace) (fun _ => Vigilado) c := by
  -- without the second PIN the menu stays, and the session with it
  have hmenu : ∀ {c'}, Ajeno c c' → Vigilado c' := by
    intro c' h'
    refine ⟨h'.segura h, ?_⟩
    unfold Enlace
    rw [h'.1.trans hst]
    exact h'.enSesion hsesion
  unfold borrarHuellas
  rw [Prog.wp_bind]
  refine Prog.wp_mono pedirPin_wp (fun _ h1 => h1.segura h) fun r c1 h1 => ?_
  cases r with
  | none => exact hmenu h1.1
  | some pinAuth =>
    have hc1 : Segura c1.trace := h1.1.segura h
    dsimp only
    rw [Prog.wp_bind]
    refine Prog.wp_mono comprobarPinMaster_wp (fun _ h2 => h2.segura hc1) fun r c2 h2 => ?_
    have hc2 : Segura c2.trace := h2.1.segura hc1
    refine Prog.wp_ite (fun hr => ?_) fun _ => hmenu (ajeno.trans h1.1 h2.1)
    have hclave : SegundaClave c2.trace := by
      obtain ⟨lista, htrace, hmaster⟩ := h2.2 hr
      obtain ⟨-, evs, hleido, hevs⟩ := h1.2 pinAuth rfl
      have hantes : Ajeno c ⟨c.st, c.inputs, evs ++ c.trace⟩ := ⟨rfl, evs, rfl, hevs⟩
      exact ⟨[], lista, pinAuth, evs ++ c.trace, by rw [htrace, hleido]; rfl, hmaster,
        List.not_mem_nil, hantes.enSesion hsesion⟩
    rw [Prog.wp_bind]
    refine pedirSubOp_ajeno.wp (fun _ h3 => h3.segura hc2) fun subOp c3 h3 => ?_
    rw [Prog.wp_bind]
    refine Prog.wp_mono (borrarSegun_wp (h3.segura hc2) (h3.segundaClave hclave)) (fun _ h4 => h4)
      fun _ c4 hc4 => ?_
    exact volverAEsperar_wp hc4

theorem leerOpcion_ajeno : Prog.Keeps Ajeno leerOpcion := by
  refine .iter ajeno (fun _ => .bind ajeno (conTeclado_ajeno _) fun tecla => ?_) _
  cases tecla with
  | none => exact .pure ajeno _
  | some tecla => exact .pure ajeno _

theorem resetWifi_wp (h : Segura c.trace) (hsesion : EnSesion c.trace) :
    resetWifi.wp (fun c' => Segura c'.trace) (fun _ c' => Segura c'.trace) c := by
  have hhecho : Segura (.accion c.st.listaPins .resetWifi :: c.trace) :=
    h.administrar hsesion nofun rfl
  have hresto : Prog.Keeps Ajeno (do
      if ← conEsp resetearCredencialesESP then
        let _ ← conEsp (inicializarESP 60000) : MefProg Unit) :=
    .bind ajeno (conEsp_ajeno _) fun _ => .ite
      (fun _ => .bind ajeno (conEsp_ajeno _) fun _ => .pure ajeno _) fun _ => .pure ajeno _
  exact hresto.wp (fun _ h1 => h1.segura hhecho) fun _ _ h1 => h1.segura hhecho

theorem menuAdmin_wp (hst : c.st.estadoActual = .menuAdmin) (h : Segura c.trace)
    (hsesion : EnSesion c.trace) :
    menuAdmin.wp (fun c' => Segura c'.trace) (fun _ => Vigilado) c := by
  unfold menuAdmin
  rw [Prog.wp_bind]
  refine leerOpcion_ajeno.wp (fun _ h1 => h1.segura h) fun opcion c1 h1 => ?_
  have hc1 : Segura c1.trace := h1.segura h
  have hsesion1 : EnSesion c1.trace := h1.enSesion hsesion
  refine Prog.wp_ite (fun _ => ⟨hc1.estado _, hsesion1.cons nofun⟩) fun _ => ?_
  refine Prog.wp_ite (fun _ => ⟨hc1.estado _, hsesion1.cons nofun⟩) fun _ => ?_
  refine Prog.wp_ite (fun _ => ?_) fun _ => ?_
  · rw [Prog.wp_bind]
    refine Prog.wp_mono (resetWifi_wp hc1 hsesion1) (fun _ h2 => h2) fun _ c2 hc2 => ?_
    exact volverAEsperar_wp hc2
  refine Prog.wp_ite (fun _ => borrarHuellas_wp (h1.1.trans hst) hc1 hsesion1) fun _ => ?_
  refine Prog.wp_ite (fun _ => ?_) fun _ => volverAEsperar_wp hc1
  have hhecho : Segura (.accion c1.st.listaPins .sincronizar :: c1.trace) :=
    hc1.administrar hsesion1 nofun rfl
  rw [Prog.wp_bind]
  show ((conLista _ : MefProg _) >>= _).wp _ _ _
  rw [Prog.wp_bind]
  refine (conLista_ajeno _).wp (fun _ h2 => h2.segura hhecho) fun _ c2 h2 => ?_
  exact volverAEsperar_wp (h2.segura hhecho)

end Sesion

/-! ## The whole run -/

section Corrida

variable {c : Config Mef Sample MefEv}

theorem obtenerVersion_ajeno : Prog.Keeps Ajeno obtenerVersion :=
  obtenerVersion_menor.mono Menor.ajeno

theorem entrarModoSleep_ajeno : Prog.Keeps Ajeno entrarModoSleep := by
  refine .bind ajeno (modify_ajeno fun _ => rfl) fun _ =>
    .bind ajeno (esperarInterrupcion_menor.mono Menor.ajeno) fun _ => ?_
  refine .bind ajeno obtenerVersion_ajeno fun versionServer => .bind ajeno (.get ajeno) fun s => ?_
  refine .ite (fun _ => .pure ajeno _) fun _ => .ite (fun _ => ?_) fun _ => .pure ajeno _
  exact .bind ajeno (conLista_ajeno _) fun _ => .ite (fun _ => modify_ajeno fun _ => rfl)
    fun _ => .pure ajeno _

theorem mefInit_wp (h : Segura c.trace) :
    mefInit.wp (fun c' => Segura c'.trace) (fun _ => Vigilado) c := by
  have hwifi (wifiOk : Bool) : Prog.Keeps Ajeno (Prog.iter (fun wifiOk : Bool => do
      if wifiOk then pure (.inr ())
      else
        let wifiOk ← conEsp (inicializarESP 5000)
        pure (.inl wifiOk)) wifiOk : MefProg Unit) :=
    .iter ajeno (fun _ => .ite (fun _ => .pure ajeno _) fun _ =>
      .bind ajeno (conEsp_ajeno _) fun _ => .pure ajeno _) wifiOk
  unfold mefInit
  rw [Prog.wp_bind]
  refine (conEsp_ajeno _).wp (fun _ h1 => h1.segura h) fun _ c1 h1 => ?_
  rw [Prog.wp_bind]
  refine (conEsp_ajeno _).wp (fun _ h2 => h2.segura (h1.segura h)) fun wifiOk c2 h2 => ?_
  have hc2 : Segura c2.trace := h2.segura (h1.segura h)
  rw [Prog.wp_bind]
  refine (hwifi wifiOk).wp (fun _ h3 => h3.segura hc2) fun _ c3 h3 => ?_
  rw [Prog.wp_bind]
  refine (conLista_ajeno _).wp (fun _ h4 => h4.segura (h3.segura hc2)) fun _ c4 h4 => ?_
  have hc4 : Segura c4.trace := h4.segura (h3.segura hc2)
  rw [Prog.wp_bind]
  refine (conSensor_ajeno _).wp (fun _ h5 => h5.segura hc4) fun _ c5 h5 => ?_
  rw [Prog.wp_bind, Prog.wp_modify]
  exact volverAEsperar_wp (h5.segura hc4)

/-- One round. -/
theorem mefUpdate_wp (h : Vigilado c) :
    mefUpdate.wp (fun c' => Segura c'.trace) (fun _ => Vigilado) c := by
  have henlace := h.enlace
  unfold mefUpdate
  rw [Prog.wp_bind, Prog.wp_get]
  unfold Enlace at henlace
  cases hst : c.st.estadoActual with
  | reposo =>
    dsimp only
    rw [Prog.wp_bind]
    exact entrarModoSleep_ajeno.wp (fun _ h1 => h1.segura h.segura) fun _ c1 h1 =>
      esperarPin_wp (h1.segura h.segura)
  | esperandoAccion => exact esperandoAccion_wp hst h.segura
  | leerYValidarHuella => exact leerYValidarHuella_wp h.segura
  | validarRfid => exact validarTarjeta_wp hst h
  | validar => exact validar_wp hst h
  | sensorCierre => exact sensorCierre_wp hst h.segura
  | bloqueado => exact h
  | menuAdmin =>
    rw [hst] at henlace
    exact menuAdmin_wp hst h.segura henlace
  | registrarRfid =>
    rw [hst] at henlace
    exact registrarRfid_wp h.segura henlace
  | registrarHuella =>
    rw [hst] at henlace
    exact registrarHuella_wp hst h.segura henlace

/-- Any number of rounds. -/
theorem principal_wp {inputs : List Sample} (n : ℕ) :
    (principal n).wp (fun c' => Segura c'.trace) (fun _ => Vigilado) ⟨Mef.inicial, inputs, []⟩ := by
  induction n with
  | zero => exact mefInit_wp fun despues e antes heq => by simp at heq
  | succ n ih =>
    show (principal n >>= fun _ => mefUpdate).wp _ _ _
    rw [Prog.wp_bind]
    exact Prog.wp_mono ih (fun _ h1 => h1) fun _ c1 h1 => mefUpdate_wp h1

end Corrida

/-- In every run the bolt opens for a credential of the table, and the
administrator's actions belong to the session of the administrator. -/
theorem acciones_autorizadas (n : ℕ) (inputs : List Sample) :
    (∀ despues lista a antes,
      (principal n ⟨Mef.inicial, inputs, []⟩).2.trace = despues ++ .accion lista a :: antes →
      (a = .abrirCerradura → ∃ cred, ultimaCredencial antes = some cred ∧ cred.EnTabla lista) ∧
        (a.administrativa = true → EnSesion antes) ∧ (a.borrado = true → SegundaClave antes)) ∧
      ∀ id : UInt16, id.toNat < 163 → idStr id = sprintf04 id.toNat := by
  refine ⟨fun despues lista a antes htrace => ?_, fun id hid => idStr_eq (by omega)⟩
  have hsegura : Segura (principal n ⟨Mef.inicial, inputs, []⟩).2.trace :=
    Prog.wp_final (Prog.wp_mono (principal_wp n) (fun _ h => h) fun _ _ h => h.segura)
  exact hsegura despues _ antes htrace

end Cerradura
