import Cerradura.Mef
import Cerradura.Protocol

/-!
# What every state of the machine is made of

The prompts, the timers, the card reader and the questions to the server are the
same few operations again and again. `Rutina` lists them, and each function of
MEF.c that needs no other is shown to be made of them, so that what the
operations keep, all these functions keep (`Prog.Built.follows`). `Conserva` adds
the functions that do more, and `Conserva.principal` is the rule for whole runs.
-/

namespace Cerradura

open Reactive

/-- An event that is nothing but a record of what the machine does: not traffic
on a line, no change of state and no action. -/
def MefEv.Rutina : MefEv → Prop
  | .sensor _ | .esp _ | .teclado _ | .uidLeido _ | .estado _ | .accion _ _ => False
  | _ => True

/-- The states that a program may go to, and the actions that it may take. -/
structure Permiso where
  estado : EstadoMEF → Prop
  accion : Accion → Prop

/-- Any state, and no action but those of the bolt. -/
def Permiso.cerrojo : Permiso :=
  ⟨fun _ => True, fun a => a = .abrirCerradura ∨ a = .cerrarCerradura⟩

theorem Permiso.cerrojo_abre : Permiso.cerrojo.accion .abrirCerradura := .inl rfl

theorem Permiso.cerrojo_cierra : Permiso.cerrojo.accion .cerrarCerradura := .inr rfl

/-- The state, the table and what the drivers keep stay, and a scan or a card is at
most forgotten. -/
structure Aparte (s s' : Mef) : Prop where
  estado : s'.estadoActual = s.estadoActual
  lista : s'.listaPins = s.listaPins
  teclado : s'.teclado = s.teclado
  conectado : s'.conectado = s.conectado
  scan : s'.scan = s.scan ∨ s'.scan = as608ScanReset
  rfid : s'.rfid = s.rfid ∨ s'.rfid = []

/-- The operations of a program that does no more than it may. -/
inductive Rutina (R : Permiso) : ∀ α : Type, MefProg α → Prop
  | read : Rutina R Sample Prog.read
  | get : Rutina R Mef Prog.get
  | emit {e : MefEv} : e.Rutina → Rutina R Unit (Prog.emit e)
  | irA {e : EstadoMEF} : R.estado e → Rutina R Unit (irA e)
  | hacer {a : Accion} : R.accion a → Rutina R Unit (hacer a)
  | modify {f : Mef → Mef} : (∀ s, Aparte s (f s)) → Rutina R Unit (Prog.modify f)
  | leerPin (timer : ℤ) : Rutina R (LeerPin × ℤ) (leerPin timer)
  | leerTecla : Rutina R (Option UInt8) (conTeclado tecladoLeerTecla)
  | tecladoReset : Rutina R Unit (conTeclado tecladoReset)
  | leerRfid : Rutina R Bool leerRfid
  | tiempo : Rutina R ℚ (conEsp espObtenerTiempoServidor)
  | inicializar (timeoutMs : UInt32) : Rutina R Bool (conEsp (inicializarESP timeoutMs))
  | sincronizar : Rutina R ℕ (conLista sincronizarConServidor)

/-- A program that needs nothing else. -/
abbrev DeRutina (R : Permiso) {α : Type} (m : MefProg α) : Prop :=
  Prog.Built (Rutina R) α m

variable {R : Permiso}

section Operaciones

theorem get_rutina : DeRutina R (Prog.get : MefProg Mef) := .part .get

theorem modify_rutina {f : Mef → Mef} (h : ∀ s, Aparte s (f s)) :
    DeRutina R (Prog.modify f : MefProg Unit) := .part (.modify h)

theorem emit_rutina {e : MefEv} (h : e.Rutina) : DeRutina R (Prog.emit e : MefProg Unit) :=
  .part (.emit h)

theorem irA_rutina {e : EstadoMEF} (h : R.estado e) : DeRutina R (irA e) := .part (.irA h)

theorem leerPin_rutina (timer : ℤ) : DeRutina R (leerPin timer) := .part (.leerPin timer)

theorem leerTecla_rutina : DeRutina R (conTeclado tecladoLeerTecla) := .part .leerTecla

theorem tecladoReset_rutina : DeRutina R (conTeclado tecladoReset) := .part .tecladoReset

theorem tickRead_rutina : DeRutina R (tickRead : MefProg ℕ) :=
  .bind (.part .read) fun m => .pure m.tick

theorem leerRfid_rutina : DeRutina R leerRfid := .part .leerRfid

theorem hacer_rutina {a : Accion} (h : R.accion a) : DeRutina R (hacer a) := .part (.hacer h)

end Operaciones

/-- The clock is no event. -/
theorem tickRead_follows {σ ε κ : Type} {M : Transition.Machine κ ε} {P : σ → κ → Prop} :
    Prog.Follows M P (tickRead : Prog σ Sample ε ℕ) fun _ => P :=
  .bind (.read fun _ _ _ h => h) fun _ => .pure fun _ _ h => h

/-! ## The lines -/

section Lineas

variable {σ κ α : Type}

section Sensor

variable {M : Transition.Machine κ SensorEv} {P : σ → κ → Prop} {Q : α → σ → κ → Prop}

theorem mem_rxTrace {bs : List UInt8} {e : SensorEv} (h : e ∈ rxTrace bs) : ∃ b, e = .rx b := by
  obtain ⟨b, -, rfl⟩ := List.mem_map.mp (List.mem_reverse.mp h)
  exact ⟨b, rfl⟩

/-- A program that only takes bytes off the line of the sensor, where a byte may
always come. -/
theorem Took.follows {R : α → List UInt8 → σ → σ → Prop} {m : Prog σ Sample SensorEv α}
    (hrx : ∀ q b, M.Enabled q (.rx b))
    (hm : ∀ c q, P c.st q → m.wp (fun c' => ∃ bs, Took c bs c')
      (fun a c' => ∃ bs, Took c bs c' ∧ R a bs c.st c'.st) c)
    (hQ : ∀ a bs s s' q, P s q → R a bs s s' → Q a s' (M.after q (rxTrace bs))) :
    Prog.Follows M P m Q := by
  have hlegal (q : κ) (bs : List UInt8) : M.Legal q (rxTrace bs) :=
    Transition.Machine.legal_of_enabled fun q e he => by
      obtain ⟨b, rfl⟩ := mem_rxTrace he
      exact hrx q b
  intro c q hc
  refine Prog.wp_mono (hm c q hc) (fun c' h => ?_) fun a c' h => ?_
  · obtain ⟨bs, htook⟩ := h
    exact ⟨rxTrace bs, htook.trace, hlegal q bs⟩
  · obtain ⟨bs, htook, hR⟩ := h
    exact ⟨rxTrace bs, htook.trace, hlegal q bs, hQ a bs _ _ q hc hR⟩

theorem as608FlushRx_follows (hrx : ∀ q b, M.Enabled q (.rx b))
    (hP : ∀ s q b, P s q → P s (M.next q (.rx b))) (ms : UInt32) :
    Prog.Follows M P (as608FlushRx ms) fun _ => P := by
  refine Took.follows (R := fun _ _ s s' => s' = s) hrx (fun c q _ => as608FlushRx_took ms) ?_
  rintro _ bs s _ q hq rfl
  refine Transition.Machine.after_keeps (fun q e he hq => ?_) hq
  obtain ⟨b, rfl⟩ := mem_rxTrace he
  exact hP _ q b hq

theorem as608Recv_follows {Q : List UInt8 → σ → κ → Prop} (hrx : ∀ q b, M.Enabled q (.rx b))
    {maxLen : ℕ} (h : ∀ s q bs, P s q → Q (bs.take maxLen) s (M.after q (rxTrace bs)))
    (timeoutMs : UInt32) : Prog.Follows M P (as608Recv maxLen timeoutMs) Q := by
  refine Took.follows (R := fun buf bs s s' => s' = s ∧ buf = bs.take maxLen) hrx
    (fun c q _ => as608Recv_took maxLen timeoutMs) ?_
  rintro _ bs s _ q hq ⟨rfl, rfl⟩
  exact h _ q bs hq

end Sensor

/-- A command to the module, and all that comes back before the function returns. -/
theorem enviarComandoAT_follows {M : Transition.Machine κ EspEv} {P : σ → κ → Prop}
    {Q : List UInt8 → σ → κ → Prop} {cmd : List UInt8} {maxLen : ℕ} (hmax : 2 ≤ maxLen)
    (h : ∀ s q resp, P s q → M.Legal q (tramaComando cmd resp) ∧
      Q resp s (M.after q (tramaComando cmd resp))) (timeoutMs : UInt32) :
    Prog.Follows M P (enviarComandoAT cmd maxLen timeoutMs) Q := by
  intro c q hc
  refine Prog.wp_mono (enviarComandoAT_traza hmax) (fun c' hc' => ?_) fun resp c' hc' => ?_
  · obtain ⟨-, resp, htraza⟩ := hc'
    exact ⟨_, htraza, (h _ q resp hc).1⟩
  · obtain ⟨hst, -, htraza⟩ := hc'
    obtain ⟨hlegal, hQ⟩ := h _ q resp hc
    exact ⟨_, htraza, hlegal, hst.symm ▸ hQ⟩

end Lineas

/-! ## Timers and prompts -/

theorem marcarPresencia_rutina : DeRutina R marcarPresencia :=
  .bind tickRead_rutina fun _ => modify_rutina fun _ => ⟨rfl, rfl, rfl, rfl, .inl rfl, .inl rfl⟩

theorem esperarPin_rutina (hE : R.estado .esperandoAccion) : DeRutina R esperarPin :=
  .bind (irA_rutina hE) fun _ => emit_rutina trivial

theorem volverAEsperar_rutina (hE : R.estado .esperandoAccion) : DeRutina R volverAEsperar :=
  .bind marcarPresencia_rutina fun _ => esperarPin_rutina hE

theorem vencerPeticion_rutina : DeRutina R vencerPeticion :=
  .bind get_rutina fun _ => emit_rutina trivial

theorem comprobarPinMaster_rutina (pin : List UInt8) : DeRutina R (comprobarPinMaster pin) :=
  .bind get_rutina fun _ => .ite (.bind (emit_rutina trivial) fun _ => .pure _) (.pure _)

theorem pedirPinAdmin_rutina : DeRutina R pedirPinAdmin := by
  refine .bind tickRead_rutina fun t => .bind tecladoReset_rutina fun _ =>
    .bind (emit_rutina trivial) fun _ => .iter fun tAuth => ?_
  refine .bind tickRead_rutina fun now => .ite ?_ (.pure _)
  refine .bind (leerPin_rutina _) fun (res, tAuth) => ?_
  dsimp only
  cases res with
  | completo pinAdmin => exact .bind (comprobarPinMaster_rutina _) fun _ => .pure _
  | menu => exact .pure _
  | incompleto => exact .pure _

theorem pedirPin_rutina (limite : TimeTest) : DeRutina R (pedirPin limite) := by
  refine .bind tickRead_rutina fun t => .bind (emit_rutina trivial) fun _ => .iter fun timer => ?_
  refine .bind (leerPin_rutina _) fun (res, timer) => ?_
  dsimp only
  cases res
  case completo pin => exact .pure _
  all_goals
    exact .bind tickRead_rutina fun _ =>
      .ite (.bind vencerPeticion_rutina fun _ => .pure _) (.pure _)

theorem pedirSubOp_rutina : DeRutina R pedirSubOp := by
  refine .bind tickRead_rutina fun t => .iter fun _ => ?_
  refine .bind tickRead_rutina fun _ => .ite ?_ (.pure _)
  refine .bind leerTecla_rutina fun k => ?_
  cases k with
  | none => exact .pure _
  | some k => exact .ite (.pure _) (.pure _)

theorem leerOpcion_rutina : DeRutina R leerOpcion := by
  refine .iter fun _ => .bind leerTecla_rutina fun tecla => ?_
  cases tecla with
  | none => exact .pure _
  | some tecla => exact .pure _

theorem leerPinValidado_rutina (hE : R.estado .esperandoAccion) (pinValidado : List UInt8)
    (timer : ℤ) : DeRutina R (leerPinValidado pinValidado timer) := by
  refine .bind (emit_rutina trivial) fun _ => .iter fun timer => ?_
  refine .bind (leerPin_rutina _) fun (res, timer) => ?_
  dsimp only
  cases res
  case completo pin => exact .pure _
  all_goals
    exact .bind tickRead_rutina fun _ => .ite (.bind vencerPeticion_rutina fun _ =>
      .bind (volverAEsperar_rutina hE) fun _ => .pure _) (.pure _)

theorem pedirPinValidado_rutina (hE : R.estado .esperandoAccion) : DeRutina R pedirPinValidado := by
  refine .bind tickRead_rutina fun t => .iter fun (pinValidado, timer, intentos) => ?_
  refine .bind (leerPinValidado_rutina hE _ _) fun (pinValidado, timer) => ?_
  refine .bind get_rutina fun s => .ite (.pure _) (.ite ?_ (.pure _))
  exact .bind (volverAEsperar_rutina hE) fun _ => .pure _

theorem pedirTarjeta_rutina (hE : R.estado .esperandoAccion) : DeRutina R pedirTarjeta := by
  refine .bind tickRead_rutina fun t => .iter fun _ => ?_
  refine .bind leerRfid_rutina fun r => .ite (.pure _) ?_
  exact .bind tickRead_rutina fun _ =>
    .ite (.bind (volverAEsperar_rutina hE) fun _ => .pure _) (.pure _)

/-! ## Sleep -/

theorem obtenerVersion_rutina : DeRutina R obtenerVersion :=
  .bind (.part .tiempo) fun _ => .ite
    (.bind (.part (.inicializar _)) fun _ => .ite (.part .tiempo) (.pure _)) (.pure _)

theorem esperarInterrupcion_rutina : DeRutina R esperarInterrupcion := by
  refine .iter fun _ => .bind (.part .read) fun m => .ite ?_ (.pure _)
  exact .bind (modify_rutina fun _ => ⟨rfl, rfl, rfl, rfl, .inl rfl, .inl rfl⟩) fun _ => .pure _

theorem entrarModoSleep_rutina : DeRutina R entrarModoSleep := by
  refine .bind (modify_rutina fun _ => ⟨rfl, rfl, rfl, rfl, .inl rfl, .inl rfl⟩) fun _ =>
    .bind esperarInterrupcion_rutina fun _ => .bind obtenerVersion_rutina fun versionServer => ?_
  refine .bind get_rutina fun s => .ite (.pure _) (.ite ?_ (.pure _))
  exact .bind (.part .sincronizar) fun _ =>
    .ite (modify_rutina fun _ => ⟨rfl, rfl, rfl, rfl, .inl rfl, .inl rfl⟩) (.pure _)

/-! ## The states -/

theorem atenderPresencia_rutina : DeRutina R atenderPresencia :=
  .bind get_rutina fun _ => .ite
    (.bind (modify_rutina fun _ => ⟨rfl, rfl, rfl, rfl, .inl rfl, .inl rfl⟩) fun _ =>
      marcarPresencia_rutina)
    (.pure _)

theorem programarEscaneo_rutina : DeRutina R programarEscaneo :=
  .bind get_rutina fun _ => .ite
    (.bind tickRead_rutina fun _ => .ite
      (.bind tickRead_rutina fun _ =>
        modify_rutina fun _ => ⟨rfl, rfl, rfl, rfl, .inr rfl, .inl rfl⟩)
      (.pure _))
    (.pure _)

/-- ESPERANDO_ACCION when no key is down. -/
def sinTecla (ultimaPresencia : ℤ) : MefProg Unit := do
  let now ← tickRead
  if TimeTest.ultimaPresencia.holds now ultimaPresencia then irA .reposo
  else if ← leerRfid then
    marcarPresencia
    irA .validarRfid
  else
    programarEscaneo
    let s ← Prog.get
    if s.escaneoActivo then irA .leerYValidarHuella

theorem sinTecla_rutina (hreposo : R.estado .reposo) (htarjeta : R.estado .validarRfid)
    (hhuella : R.estado .leerYValidarHuella) (ultimaPresencia : ℤ) :
    DeRutina R (sinTecla ultimaPresencia) := by
  refine .bind tickRead_rutina fun now => .ite (irA_rutina hreposo) ?_
  refine .bind leerRfid_rutina fun r => .ite ?_ ?_
  · exact .bind marcarPresencia_rutina fun _ => irA_rutina htarjeta
  · exact .bind programarEscaneo_rutina fun _ => .bind get_rutina fun _ =>
      .ite (irA_rutina hhuella) (.pure _)

theorem esperandoAccion_rutina (hE : ∀ e, e ≠ .esperandoAccion → R.estado e) :
    DeRutina R esperandoAccion := by
  refine .bind atenderPresencia_rutina fun _ => .bind get_rutina fun s => ?_
  refine .bind (leerPin_rutina _) fun (resultado, ultimaPresencia) => ?_
  dsimp only
  refine .bind (modify_rutina fun _ => ⟨rfl, rfl, rfl, rfl, .inl rfl, .inl rfl⟩) fun _ => ?_
  cases resultado with
  | completo pin =>
    exact .bind (modify_rutina fun _ => ⟨rfl, rfl, rfl, rfl, .inl rfl, .inl rfl⟩) fun _ =>
      .bind marcarPresencia_rutina fun _ => irA_rutina (hE _ nofun)
  | menu =>
    exact .bind pedirPinAdmin_rutina fun _ => .ite
      (.bind marcarPresencia_rutina fun _ => irA_rutina (hE _ nofun))
      (.bind tecladoReset_rutina fun _ => emit_rutina trivial)
  | incompleto => exact sinTecla_rutina (hE _ nofun) (hE _ nofun) (hE _ nofun) ultimaPresencia

theorem validarTarjeta_rutina (hE : R.estado .esperandoAccion)
    (hcierre : R.estado .sensorCierre) (habre : R.accion .abrirCerradura) :
    DeRutina R validarTarjeta := by
  refine .bind get_rutina fun s => ?_
  cases obtenerTagPorRFID s.listaPins s.rfid with
  | some _ =>
    exact .bind (hacer_rutina habre) fun _ => .bind (irA_rutina hcierre) fun _ =>
      modify_rutina fun _ => ⟨rfl, rfl, rfl, rfl, .inl rfl, .inr rfl⟩
  | none => exact .bind tecladoReset_rutina fun _ => esperarPin_rutina hE

theorem contarFallo_rutina : DeRutina R contarFallo :=
  .bind get_rutina fun _ => .ite
    (.bind (modify_rutina fun _ => ⟨rfl, rfl, rfl, rfl, .inl rfl, .inl rfl⟩) fun _ =>
      emit_rutina trivial)
    (modify_rutina fun _ => ⟨rfl, rfl, rfl, rfl, .inl rfl, .inl rfl⟩)

theorem validar_rutina (hE : R.estado .esperandoAccion)
    (hcierre : R.estado .sensorCierre) (habre : R.accion .abrirCerradura) :
    DeRutina R validar :=
  .bind get_rutina fun _ => .ite
    (.bind (modify_rutina fun _ => ⟨rfl, rfl, rfl, rfl, .inl rfl, .inl rfl⟩) fun _ =>
      .bind (irA_rutina hcierre) fun _ => hacer_rutina habre)
    (.bind contarFallo_rutina fun _ => .bind tecladoReset_rutina fun _ => esperarPin_rutina hE)

theorem sensorCierre_rutina (hE : R.estado .esperandoAccion)
    (hcierra : R.accion .cerrarCerradura) : DeRutina R sensorCierre :=
  .bind (.part .read) fun _ => .ite
    (.bind (hacer_rutina hcierra) fun _ => volverAEsperar_rutina hE) (.pure _)

/-- LEER_Y_VALIDAR_HUELLA after the step of the scan. -/
theorem trasEscaneo_rutina (hE : R.estado .esperandoAccion)
    (hcierre : R.estado .sensorCierre) (habre : R.accion .abrirCerradura)
    (r : ScanStatus × Option (UInt16 × UInt16)) : DeRutina R (do
    let id := idLeido r.2
    match r.1 with
    | .scanMatch =>
      Prog.emit (.huellaLeida id)
      let s ← Prog.get
      if validarHuella s.listaPins (idStr id) then
        Prog.modify ({ · with intentosFallidos := 0 })
        hacer .abrirCerradura
        irA .sensorCierre
        Prog.modify ({ · with escaneoActivo := false })
      else irA .esperandoAccion
    | .scanNoMatch =>
      Prog.modify ({ · with escaneoActivo := false })
      marcarPresencia
      irA .esperandoAccion
    | .scanNoFinger | .scanError =>
      Prog.modify ({ · with escaneoActivo := false })
      irA .esperandoAccion
    | .scanIdle | .scanInProgress => irA .esperandoAccion) := by
  obtain ⟨st, salida⟩ := r
  cases st with
  | scanMatch =>
    refine .bind (emit_rutina trivial) fun _ => .bind get_rutina fun s => .ite ?_ (irA_rutina hE)
    exact .bind (modify_rutina fun _ => ⟨rfl, rfl, rfl, rfl, .inl rfl, .inl rfl⟩) fun _ =>
      .bind (hacer_rutina habre) fun _ => .bind (irA_rutina hcierre) fun _ =>
        modify_rutina fun _ => ⟨rfl, rfl, rfl, rfl, .inl rfl, .inl rfl⟩
  | scanNoMatch =>
    exact .bind (modify_rutina fun _ => ⟨rfl, rfl, rfl, rfl, .inl rfl, .inl rfl⟩) fun _ =>
      .bind marcarPresencia_rutina fun _ => irA_rutina hE
  | scanNoFinger | scanError =>
    exact .bind (modify_rutina fun _ => ⟨rfl, rfl, rfl, rfl, .inl rfl, .inl rfl⟩) fun _ =>
      irA_rutina hE
  | scanIdle | scanInProgress => exact irA_rutina hE

/-! ## The whole machine -/

/-- The state of the machine after a question is not asked for here. -/
theorem siSigue_follows {κ : Type} {M : Transition.Machine κ MefEv} {P Q : Mef → κ → Prop}
    {m : MefProg Unit} (hQ : ∀ s q, P s q → Q s q) (h : Prog.Follows M P m fun _ => Q) :
    Prog.Follows M P (siSigue m) fun _ => Q :=
  .bind .get fun _ => .ite (fun _ => .pure hQ) fun _ => h

/-- The operations keep `P`, and so do the functions that need more than them. -/
structure Conserva {κ : Type} (M : Transition.Machine κ MefEv) (P : Mef → κ → Prop) : Prop where
  operacion : ∀ (α : Type) (m : MefProg α), Rutina .cerrojo α m →
    Prog.Follows M P m fun _ => P
  escaneo : Prog.Follows M P (conScan as608ScanStep) fun _ => P
  resetWifi : Prog.Follows M P resetWifi fun _ => P
  sincronizar : Prog.Follows M P (hacer .sincronizar) fun _ => P
  borrarTodas : Prog.Follows M P borrarTodas fun _ => P
  borrarUna : Prog.Follows M P borrarUna fun _ => P
  registrarRfid : Prog.Follows M P registrarRfid fun _ => P
  registrarHuella : Prog.Follows M P registrarHuella fun _ => P

namespace Conserva

variable {κ : Type} {M : Transition.Machine κ MefEv} {P P0 : Mef → κ → Prop}

theorem rutina {α : Type} {m : MefProg α} (h : Conserva M P) (hm : DeRutina .cerrojo m) :
    Prog.Follows M P m fun _ => P := hm.follows h.operacion

theorem borrarHuellas (h : Conserva M P) : Prog.Follows M P borrarHuellas fun _ => P := by
  refine .bind (h.rutina (pedirPin_rutina _)) fun pinAuth => ?_
  cases pinAuth with
  | none => exact .pure fun _ _ hP => hP
  | some pinAuth =>
    refine .bind (h.rutina (comprobarPinMaster_rutina _)) fun _ => .ite (fun _ => ?_) fun _ =>
      .pure fun _ _ hP => hP
    refine .bind (h.rutina pedirSubOp_rutina) fun subOp => .bind ?_ fun _ =>
      h.rutina (volverAEsperar_rutina trivial)
    exact .ite (fun _ => h.borrarTodas) fun _ =>
      .ite (fun _ => h.borrarUna) fun _ => .pure fun _ _ hP => hP

theorem menuAdmin (h : Conserva M P) : Prog.Follows M P menuAdmin fun _ => P := by
  refine .bind (h.rutina leerOpcion_rutina) fun opcion => ?_
  refine .ite (fun _ => h.rutina (irA_rutina trivial)) fun _ =>
    .ite (fun _ => h.rutina (irA_rutina trivial)) fun _ => .ite (fun _ => ?_) fun _ => ?_
  · exact .bind h.resetWifi fun _ => h.rutina (volverAEsperar_rutina trivial)
  · refine .ite (fun _ => h.borrarHuellas) fun _ => .ite (fun _ => ?_) fun _ =>
      h.rutina (volverAEsperar_rutina trivial)
    exact .bind h.sincronizar fun _ => .bind (h.operacion _ _ .sincronizar) fun _ =>
      h.rutina (volverAEsperar_rutina trivial)

theorem mefUpdate (h : Conserva M P) : Prog.Follows M P mefUpdate fun _ => P := by
  refine .bind .get fun s => ?_
  cases s.estadoActual with
  | reposo =>
    exact .bind (h.rutina entrarModoSleep_rutina) fun _ => h.rutina (esperarPin_rutina trivial)
  | esperandoAccion => exact h.rutina (esperandoAccion_rutina fun _ _ => trivial)
  | leerYValidarHuella =>
    exact .bind h.escaneo fun r =>
      h.rutina (trasEscaneo_rutina trivial trivial Permiso.cerrojo_abre r)
  | validarRfid => exact h.rutina (validarTarjeta_rutina trivial trivial Permiso.cerrojo_abre)
  | validar => exact h.rutina (validar_rutina trivial trivial Permiso.cerrojo_abre)
  | sensorCierre => exact h.rutina (sensorCierre_rutina trivial Permiso.cerrojo_cierra)
  | bloqueado => exact .pure fun _ _ hP => hP
  | menuAdmin => exact h.menuAdmin
  | registrarRfid => exact h.registrarRfid
  | registrarHuella => exact h.registrarHuella

/-- The rule for runs: `mefInit` makes `P` true, and each round keeps it. -/
theorem principal (h : Conserva M P) (hinit : Prog.Follows M P0 mefInit fun _ => P) (n : ℕ) :
    Prog.Follows M P0 (principal n) fun _ => P := by
  induction n with
  | zero => exact hinit
  | succ n ih => exact .bind ih fun _ => h.mefUpdate

end Conserva

end Cerradura
