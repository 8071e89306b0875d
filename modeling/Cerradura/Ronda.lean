import Cerradura.Menor
import Cerradura.Tabla

/-!
# A round of the main loop

Most of what `mefUpdate` does neither moves the bolt nor decides on a PIN. One
relation, `Corriente`, says so for all of it, and `Ronda` lists what a round can
do besides.

Results:
1. `mefUpdate_ronda`: every round is one of `Ronda`.
2. `pin_vacio_de_nadie`: in the table, whatever is done with it, and in every
   run of the firmware the empty PIN is nobody's.
-/

namespace Cerradura

open Reactive

/-! ## Ordinary steps -/

/-- An event that neither moves the bolt nor belongs to the decision on a PIN. -/
def MefEv.Corriente : MefEv → Prop
  | .accion _ .abrirCerradura | .accion _ .cerrarCerradura | .alertaIntruso
  | .estado .validar | .estado .sensorCierre => False
  | _ => True

/-- The PIN that an event is about is not empty. -/
def MefEv.ConPin : MefEv → Prop
  | .accion _ (.registrarRfid pin _) | .accion _ (.enrolarHuella pin _)
  | .accion _ (.borrarHuella pin _) | .pinMaster _ pin => pin ≠ []
  | _ => True

/-- The counter stays, active records keep a code, and the machine is left in no
state in which the bolt moves or a PIN is decided, unless it was there before. -/
structure Calma (c c' : Config Mef Sample MefEv) : Prop where
  fallidos : c'.st.intentosFallidos = c.st.intentosFallidos
  lista : c'.st.listaPins.ConCodigo
  estado : c'.st.estadoActual = c.st.estadoActual ∨
    c'.st.estadoActual ≠ .validar ∧ c'.st.estadoActual ≠ .sensorCierre
  eventos : ∃ evs, c'.trace = evs ++ c.trace ∧ ∀ e ∈ evs, e.Corriente ∧ e.ConPin

/-- What an ordinary step does when the active records have a code. -/
def Corriente (c c' : Config Mef Sample MefEv) : Prop := c.st.listaPins.ConCodigo → Calma c c'

theorem corriente : Prog.Composable Corriente where
  refl c hc := ⟨rfl, hc, .inl rfl, [], rfl, fun _ he => nomatch he⟩
  trans := by
    rintro c c' c'' hcc hcc' hc
    have h := hcc hc
    have h' := hcc' h.lista
    refine ⟨h'.fallidos.trans h.fallidos, h'.lista, ?_, ?_⟩
    · rcases h'.estado with heq | hcalm
      · rw [heq]
        exact h.estado
      · exact .inr hcalm
    · obtain ⟨evs, htrace, hevs⟩ := h.eventos
      obtain ⟨evs', htrace', hevs'⟩ := h'.eventos
      refine ⟨evs' ++ evs, by rw [htrace', htrace, List.append_assoc], fun e he => ?_⟩
      rcases List.mem_append.mp he with he | he
      · exact hevs' e he
      · exact hevs e he

/-- The machine stays where it is. -/
theorem Corriente.of_eventos {c c' : Config Mef Sample MefEv} {evs : List MefEv}
    (hfallidos : c'.st.intentosFallidos = c.st.intentosFallidos)
    (hlista : c.st.listaPins.ConCodigo → c'.st.listaPins.ConCodigo)
    (hestado : c'.st.estadoActual = c.st.estadoActual) (htrace : c'.trace = evs ++ c.trace)
    (hevs : ∀ e ∈ evs, e.Corriente ∧ e.ConPin) : Corriente c c' :=
  fun hc => ⟨hfallidos, hlista hc, .inl hestado, evs, htrace, hevs⟩

section Pasos

variable {α : Type} {c : Config Mef Sample MefEv}

/-- The clock, the drivers and the card reader. -/
theorem Menor.corriente {c c' : Config Mef Sample MefEv} (h : Menor c c') : Corriente c c' := by
  obtain ⟨evs, htrace, hevs⟩ := h.eventos
  refine .of_eventos h.fallidos (fun hcodigo => h.lista ▸ hcodigo) h.estado htrace fun e he => ?_
  have hmenor := hevs e he
  cases e with
  | sensor _ | esp _ | uidLeido _ => exact ⟨trivial, trivial⟩
  | _ => cases hmenor

theorem tickRead_corriente : Prog.Keeps Corriente (tickRead : MefProg ℕ) :=
  tickRead_menor.mono Menor.corriente

theorem modify_corriente {f : Mef → Mef} (hf : ∀ s,
    (f s).intentosFallidos = s.intentosFallidos ∧
      (s.listaPins.ConCodigo → (f s).listaPins.ConCodigo) ∧
      (f s).estadoActual = s.estadoActual) :
    Prog.Keeps Corriente (Prog.modify f : MefProg Unit) :=
  .modify fun c => .of_eventos (hf c.st).1 (hf c.st).2.1 (hf c.st).2.2 (List.nil_append _).symm
    fun _ he => nomatch he

theorem emit_corriente {e : MefEv} (h : e.Corriente) (hpin : e.ConPin) :
    Prog.Keeps Corriente (Prog.emit e : MefProg Unit) :=
  .emit fun _ => .of_eventos rfl id rfl List.singleton_append.symm
    (List.forall_mem_singleton.mpr ⟨h, hpin⟩)

theorem irA_corriente {e : EstadoMEF} (hvalidar : e ≠ .validar) (hcierre : e ≠ .sensorCierre) :
    Prog.Keeps Corriente (irA e) := by
  have he : (MefEv.estado e).Corriente := by
    cases e with
    | validar => exact absurd rfl hvalidar
    | sensorCierre => exact absurd rfl hcierre
    | _ => trivial
  exact fun c hc => ⟨rfl, hc, .inr ⟨hvalidar, hcierre⟩, [.estado e], rfl,
    List.forall_mem_singleton.mpr ⟨he, trivial⟩⟩

/-- An action on the credentials. -/
theorem hacer_corriente {a : Accion} (habrir : a ≠ .abrirCerradura) (hcerrar : a ≠ .cerrarCerradura)
    (hpin : c.st.listaPins.ConCodigo → (MefEv.accion c.st.listaPins a).ConPin) :
    Corriente c (hacer a c).2 := by
  have ha : (MefEv.accion c.st.listaPins a).Corriente := by
    cases a with
    | abrirCerradura => exact absurd rfl habrir
    | cerrarCerradura => exact absurd rfl hcerrar
    | _ => trivial
  exact fun hc => ⟨rfl, hc, .inl rfl, [.accion c.st.listaPins a], rfl,
    List.forall_mem_singleton.mpr ⟨ha, hpin hc⟩⟩

theorem corriente_map {δ : Type} (ev : δ → MefEv) (h : ∀ d, (ev d).Corriente ∧ (ev d).ConPin)
    (trace : List δ) : ∀ e ∈ trace.map ev, e.Corriente ∧ e.ConPin := by
  intro e he
  obtain ⟨d, -, rfl⟩ := List.mem_map.mp he
  exact h d

theorem conTeclado_corriente (m : Prog Teclado Sample TecladoEv α) :
    Prog.Keeps Corriente (conTeclado m) :=
  .zoom fun _ _ _ trace =>
    .of_eventos rfl id rfl rfl (corriente_map MefEv.teclado (fun _ => ⟨trivial, trivial⟩) trace)

theorem conScan_corriente (m : Prog Scan Sample SensorEv α) : Prog.Keeps Corriente (conScan m) :=
  (conScan_menor m).mono Menor.corriente

theorem conSensor_corriente (m : Prog Unit Sample SensorEv α) :
    Prog.Keeps Corriente (conSensor m) :=
  (conSensor_menor m).mono Menor.corriente

theorem conEsp_corriente (m : Prog Bool Sample EspEv α) : Prog.Keeps Corriente (conEsp m) :=
  (conEsp_menor m).mono Menor.corriente

theorem sincronizarConServidor_keeps : Prog.Keeps
    (fun c c' : Config ListaPins Sample EspEv => c.st.ConCodigo → c'.st.ConCodigo)
    sincronizarConServidor := by
  intro c hc
  have hsize : 2 ≤ httpRespSize := by decide
  have hwp : sincronizarConServidor.wp (fun c' => c'.st.ConCodigo)
      (fun _ c' => c'.st.ConCodigo) c := by
    unfold sincronizarConServidor
    rw [Prog.wp_bind]
    unfold espHTTPGetPins
    rw [if_neg (show maxPins ≠ 0 by decide), Prog.wp_bind]
    refine (espHTTPGetViaAT_keeps hsize).wp (fun c1 h1 => ?_) fun r c1 h1 => ?_
    · rw [h1]
      exact hc
    · have hc1 : c1.st.ConCodigo := by rwa [h1]
      cases r with
      | none => exact hc1
      | some httpResp =>
        refine Prog.wp_ite (fun _ => ?_) fun _ => hc1
        exact conCodigo_actualizar (extraerPins_stored httpResp maxPins).2
  exact Prog.wp_final hwp

theorem sincronizar_corriente : Prog.Keeps Corriente (conLista sincronizarConServidor) :=
  .zoom_of sincronizarConServidor_keeps fun _ _ h =>
    .of_eventos rfl h rfl rfl (corriente_map MefEv.esp (fun _ => ⟨trivial, trivial⟩) _)

end Pasos

/-! ## The programs that neither move the bolt nor decide on a PIN -/

section Programas

variable {c : Config Mef Sample MefEv}

theorem marcarPresencia_corriente : Prog.Keeps Corriente marcarPresencia :=
  marcarPresencia_menor.mono Menor.corriente

theorem esperarPin_corriente : Prog.Keeps Corriente esperarPin :=
  .bind corriente (irA_corriente nofun nofun) fun _ => emit_corriente trivial trivial

theorem volverAEsperar_corriente : Prog.Keeps Corriente volverAEsperar :=
  .bind corriente marcarPresencia_corriente fun _ => esperarPin_corriente

theorem vencerPeticion_corriente : Prog.Keeps Corriente vencerPeticion :=
  .bind corriente (.get corriente) fun _ => emit_corriente trivial trivial

theorem volverAEsperar_estado : volverAEsperar.wp (Corriente c)
    (fun _ c' => Corriente c c' ∧ c'.st.estadoActual = .esperandoAccion) c := by
  unfold volverAEsperar
  rw [Prog.wp_bind]
  refine marcarPresencia_corriente.wp (fun _ h1 => h1) fun _ c1 h1 => ⟨?_, rfl⟩
  exact corriente.trans h1 (esperarPin_corriente c1)

theorem leerPin_corriente (timer : ℤ) : Prog.Keeps Corriente (leerPin timer) := by
  refine .bind corriente (conTeclado_corriente _) fun (res, ultimaActividad) => ?_
  dsimp only
  cases res with
  | completo pin =>
    exact .bind corriente (emit_corriente trivial trivial) fun _ => .pure corriente _
  | menu => exact .pure corriente _
  | incompleto => exact .pure corriente _

theorem leerRfid_corriente : Prog.Keeps Corriente leerRfid :=
  leerRfid_menor.mono Menor.corriente

/-- A PIN that is the master's is not empty. -/
theorem comprobarPinMaster_corriente (pin : List UInt8) :
    Prog.Keeps Corriente (comprobarPinMaster pin) := by
  refine .get_bind fun c => ?_
  cases hmaster : esPinMaster c.st.listaPins pin with
  | false =>
    rw [if_neg Bool.false_ne_true]
    exact corriente.refl c
  | true =>
    rw [if_pos rfl]
    refine fun hc => ⟨rfl, hc, .inl rfl, [.pinMaster c.st.listaPins pin], rfl,
      List.forall_mem_singleton.mpr ⟨trivial, fun hnil => ?_⟩⟩
    rw [hnil, hc.esPinMaster_nil] at hmaster
    cases hmaster

theorem obtenerVersion_corriente : Prog.Keeps Corriente obtenerVersion :=
  obtenerVersion_menor.mono Menor.corriente

theorem entrarModoSleep_corriente : Prog.Keeps Corriente entrarModoSleep := by
  refine .bind corriente (modify_corriente fun _ => ⟨rfl, id, rfl⟩) fun _ =>
    .bind corriente (esperarInterrupcion_menor.mono Menor.corriente) fun _ => ?_
  refine .bind corriente obtenerVersion_corriente fun versionServer => ?_
  refine .bind corriente (.get corriente) fun s => ?_
  refine .ite (fun _ => .pure corriente _) fun _ => .ite (fun _ => ?_) fun _ => .pure corriente _
  exact .bind corriente sincronizar_corriente fun _ =>
    .ite (fun _ => modify_corriente fun _ => ⟨rfl, id, rfl⟩) fun _ => .pure corriente _

theorem mefInit_corriente : Prog.Keeps Corriente mefInit := by
  refine .bind corriente (conEsp_corriente _) fun _ => .bind corriente (conEsp_corriente _)
    fun wifiOk => ?_
  refine .bind corriente (.iter corriente (fun _ => .ite (fun _ => .pure corriente _) fun _ =>
    .bind corriente (conEsp_corriente _) fun _ => .pure corriente _) wifiOk) fun _ => ?_
  refine .bind corriente sincronizar_corriente fun _ => .bind corriente (conSensor_corriente _)
    fun _ => ?_
  exact .bind corriente (modify_corriente fun _ => ⟨rfl, id, rfl⟩) fun _ => volverAEsperar_corriente

theorem pedirPinAdmin_corriente : Prog.Keeps Corriente pedirPinAdmin := by
  refine .bind corriente tickRead_corriente fun t => .bind corriente (conTeclado_corriente _)
    fun _ => .bind corriente (emit_corriente trivial trivial) fun _ =>
      .iter corriente (fun tAuth => ?_) _
  refine .bind corriente tickRead_corriente fun now => .ite (fun _ => ?_) fun _ => .pure corriente _
  refine .bind corriente (leerPin_corriente _) fun (res, tAuth) => ?_
  dsimp only
  cases res with
  | completo pinAdmin =>
    exact .bind corriente (comprobarPinMaster_corriente _) fun _ => .pure corriente _
  | menu => exact .pure corriente _
  | incompleto => exact .pure corriente _

theorem programarEscaneo_corriente : Prog.Keeps Corriente programarEscaneo :=
  programarEscaneo_menor.mono Menor.corriente

theorem atenderPresencia_corriente : Prog.Keeps Corriente atenderPresencia :=
  atenderPresencia_menor.mono Menor.corriente

theorem pedirPin_corriente (limite : TimeTest) : Prog.Keeps Corriente (pedirPin limite) := by
  refine .bind corriente tickRead_corriente fun t =>
    .bind corriente (emit_corriente trivial trivial) fun _ => .iter corriente (fun timer => ?_) _
  refine .bind corriente (leerPin_corriente _) fun (res, timer) => ?_
  dsimp only
  cases res
  case completo pin => exact .pure corriente _
  all_goals
    exact .bind corriente tickRead_corriente fun _ => .ite
      (fun _ => .bind corriente vencerPeticion_corriente fun _ => .pure corriente _)
      fun _ => .pure corriente _

theorem pedirSubOp_corriente : Prog.Keeps Corriente pedirSubOp := by
  refine .bind corriente tickRead_corriente fun t => .iter corriente (fun _ => ?_) _
  refine .bind corriente tickRead_corriente fun _ => .ite (fun _ => ?_) fun _ => .pure corriente _
  refine .bind corriente (conTeclado_corriente _) fun k => ?_
  cases k with
  | none => exact .pure corriente _
  | some k => exact .ite (fun _ => .pure corriente _) fun _ => .pure corriente _

theorem borrarTodas_corriente : Prog.Keeps Corriente borrarTodas := by
  refine .bind corriente (fun c => hacer_corriente nofun nofun fun _ => trivial) fun _ => ?_
  refine .bind corriente (conSensor_corriente _) fun _ => .ite (fun _ => ?_) fun _ =>
    .pure corriente _
  exact .bind corriente (modify_corriente fun _ => ⟨rfl, fun h => h.eliminarTodas, rfl⟩) fun _ =>
    .bind corriente (conEsp_corriente _) fun _ => .pure corriente _

/-- A PIN that is valid is not empty. -/
theorem borrarUna_corriente : Prog.Keeps Corriente borrarUna := by
  refine .bind corriente (pedirPin_corriente _) fun pinTarget => .get_bind fun c => ?_
  have herror : Corriente c (Prog.emit .noTieneHuella c : _ × Config Mef Sample MefEv).2 :=
    emit_corriente (e := .noTieneHuella) trivial trivial c
  refine Prog.wp_final (Prog.wp_ite (fun hvalid => ?_) fun _ => herror)
  have hpin : c.st.listaPins.ConCodigo → pinTarget.getD [] ≠ [] := fun hc hnil => by
    rw [hnil, hc.validarPin_nil] at hvalid
    cases hvalid
  cases obtenerHuellaAsignadaPorPin c.st.listaPins (pinTarget.getD []) with
  | none => exact herror
  | some idStr =>
    have h1 : Corriente c (hacer (.borrarHuella (pinTarget.getD []) (idSensor idStr)) c).2 :=
      hacer_corriente nofun nofun hpin
    have hresto : Prog.Keeps Corriente (do
        if ← conSensor (as608DeleteId (idSensor idStr)) then
          Prog.modify fun s =>
            { s with listaPins := (eliminarHuellaLocal s.listaPins (pinTarget.getD [])).2 }
          let _ ← conEsp (espBorrarHuellaServidor (pinTarget.getD [])) : MefProg Unit) :=
      .bind corriente (conSensor_corriente _) fun _ => .ite
        (fun _ => .bind corriente
          (modify_corriente fun _ => ⟨rfl, fun h => h.actualizar fun _ hu => hu, rfl⟩) fun _ =>
            .bind corriente (conEsp_corriente _) fun _ => .pure corriente _)
        fun _ => .pure corriente _
    dsimp only
    rw [Prog.wp_bind]
    exact hresto.wp (fun _ h2 => corriente.trans h1 h2) fun _ _ h2 => corriente.trans h1 h2

theorem borrarSegun_corriente (subOp : UInt8) : Prog.Keeps Corriente (borrarSegun subOp) :=
  .ite (fun _ => borrarTodas_corriente) fun _ =>
    .ite (fun _ => borrarUna_corriente) fun _ => .pure corriente _

theorem borrarHuellas_corriente : Prog.Keeps Corriente borrarHuellas := by
  refine .bind corriente (pedirPin_corriente _) fun pinAuth => ?_
  cases pinAuth with
  | none => exact .pure corriente _
  | some pinAuth =>
    refine .bind corriente (comprobarPinMaster_corriente _) fun _ => .ite (fun _ => ?_) fun _ =>
      .pure corriente _
    exact .bind corriente pedirSubOp_corriente fun subOp =>
      .bind corriente (borrarSegun_corriente _) fun _ => volverAEsperar_corriente

theorem leerOpcion_corriente : Prog.Keeps Corriente leerOpcion := by
  refine .iter corriente (fun _ => .bind corriente (conTeclado_corriente _) fun tecla => ?_) _
  cases tecla with
  | none => exact .pure corriente _
  | some tecla => exact .pure corriente _

theorem resetWifi_corriente : Prog.Keeps Corriente resetWifi := by
  refine .bind corriente (fun c => hacer_corriente nofun nofun fun _ => trivial) fun _ => ?_
  exact .bind corriente (conEsp_corriente _) fun _ => .ite
    (fun _ => .bind corriente (conEsp_corriente _) fun _ => .pure corriente _)
    fun _ => .pure corriente _

theorem menuAdmin_corriente : Prog.Keeps Corriente menuAdmin := by
  refine .bind corriente leerOpcion_corriente fun opcion => ?_
  refine .ite (fun _ => irA_corriente nofun nofun) fun _ => ?_
  refine .ite (fun _ => irA_corriente nofun nofun) fun _ => ?_
  refine .ite (fun _ => .bind corriente resetWifi_corriente fun _ => volverAEsperar_corriente)
    fun _ => ?_
  refine .ite (fun _ => borrarHuellas_corriente) fun _ => .ite (fun _ => ?_) fun _ =>
    volverAEsperar_corriente
  exact .bind corriente (fun c => hacer_corriente nofun nofun fun _ => trivial) fun _ =>
    .bind corriente sincronizar_corriente fun _ => volverAEsperar_corriente

theorem leerPinValidado_corriente (pinValidado : List UInt8) (timer : ℤ) :
    Prog.Keeps Corriente (leerPinValidado pinValidado timer) := by
  refine .bind corriente (emit_corriente trivial trivial) fun _ =>
    .iter corriente (fun timer => ?_) _
  refine .bind corriente (leerPin_corriente _) fun (res, timer) => ?_
  dsimp only
  cases res
  case completo pin => exact .pure corriente _
  all_goals
    exact .bind corriente tickRead_corriente fun _ => .ite
      (fun _ => .bind corriente vencerPeticion_corriente fun _ =>
        .bind corriente volverAEsperar_corriente fun _ => .pure corriente _)
      fun _ => .pure corriente _

/-- The PIN that the question gives is valid, or the machine has gone back. -/
theorem pedirPinValidado_wp : pedirPinValidado.wp (Corriente c) (fun pin c' => Corriente c c' ∧
    (c'.st.estadoActual = .esperandoAccion ∨ validarPin c'.st.listaPins pin = true)) c := by
  unfold pedirPinValidado
  rw [Prog.wp_bind]
  refine tickRead_corriente.wp (fun _ h => h) fun t c1 h1 => ?_
  refine Prog.wp_iter (fun _ => Corriente c) (fun _ _ h => h)
    (fun (pinValidado, timer, intentos) c2 h2 => ?_) h1
  rw [Prog.wp_bind]
  refine (leerPinValidado_corriente _ _).wp (fun _ h => corriente.trans h2 h)
    fun (pinValidado, timer) c3 h3 => ?_
  have h13 := corriente.trans h2 h3
  dsimp only
  rw [Prog.wp_bind, Prog.wp_get]
  refine Prog.wp_ite (fun hvalid => ⟨h13, .inr hvalid⟩) fun _ => Prog.wp_ite (fun _ => ?_)
    fun _ => h13
  rw [Prog.wp_bind]
  exact Prog.wp_mono volverAEsperar_estado (fun _ h => corriente.trans h13 h) fun _ c4 h4 =>
    ⟨corriente.trans h13 h4.1, .inl h4.2⟩

theorem pedirTarjeta_corriente : Prog.Keeps Corriente pedirTarjeta := by
  refine .bind corriente tickRead_corriente fun t => .iter corriente (fun _ => ?_) _
  refine .bind corriente leerRfid_corriente fun r => .ite (fun _ => .pure corriente _) fun _ => ?_
  exact .bind corriente tickRead_corriente fun _ => .ite
    (fun _ => .bind corriente volverAEsperar_corriente fun _ => .pure corriente _)
    fun _ => .pure corriente _

theorem siSigue_corriente {m : MefProg Unit}
    (hm : c.st.estadoActual ≠ .esperandoAccion → Corriente c (m c).2) :
    Corriente c (siSigue m c).2 := by
  show Corriente c ((if c.st.estadoActual = .esperandoAccion then pure () else m) c).2
  split_ifs with hesp
  · exact corriente.refl c
  · exact hm hesp

/-- A run that goes on after a question. -/
theorem bind_wp_corriente {α β : Type} {m : MefProg α} {f : α → MefProg β}
    {post : α → Config Mef Sample MefEv → Prop} (hm : m.wp (Corriente c) post c)
    (hf : ∀ a c', post a c' → Corriente c (f a c').2) : Corriente c ((m >>= f) c).2 := by
  refine Prog.wp_final ?_
  rw [Prog.wp_bind]
  refine Prog.wp_mono hm (fun _ h => h) fun a c' h => ?_
  have hfin := hf a c' h
  unfold Prog.wp
  cases hr : f a c' with
  | mk r c'' =>
    rw [hr] at hfin
    cases r <;> exact hfin

theorem registrarRfid_corriente : Prog.Keeps Corriente registrarRfid := by
  intro c hc
  refine bind_wp_corriente pedirPinValidado_wp (fun pinValidado c1 h1 => ?_) hc
  refine corriente.trans h1.1 (siSigue_corriente fun hsigue => ?_)
  have hpin : pinValidado ≠ [] := by
    rintro rfl
    rcases h1.2 with hesp | hvalid
    · exact hsigue hesp
    · rw [(h1.1 hc).lista.validarPin_nil] at hvalid
      cases hvalid
  refine Prog.Keeps.bind corriente pedirTarjeta_corriente (fun _ => fun c2 => ?_) c1
  refine siSigue_corriente fun _ => ?_
  refine Prog.Keeps.get_bind (fun c3 => ?_) c2
  have hhacer : Prog.Keeps Corriente (hacer (.registrarRfid pinValidado c3.st.rfid)) :=
    fun c4 => hacer_corriente nofun nofun fun _ => hpin
  refine Prog.Keeps.bind corriente hhacer (fun _ => ?_) c3
  exact .bind corriente
    (modify_corriente fun _ => ⟨rfl, fun h => h.actualizar fun _ hu => hu, rfl⟩) fun _ =>
      .bind corriente (conEsp_corriente _) fun _ => volverAEsperar_corriente

theorem enrolar_corriente {pin : List UInt8} {id : UInt16} (hpin : pin ≠ []) :
    Prog.Keeps Corriente (enrolar pin id) := by
  refine .iter corriente (fun intentos => .ite (fun _ => ?_) fun _ => .pure corriente _) _
  refine .bind corriente (fun c => hacer_corriente nofun nofun fun _ => hpin) fun _ => ?_
  refine .bind corriente (conSensor_corriente _) fun r => ?_
  cases r with
  | some idResultado => exact .pure corriente _
  | none => exact .pure corriente _

theorem registrarHuella_corriente : Prog.Keeps Corriente registrarHuella := by
  intro c hc
  refine bind_wp_corriente pedirPinValidado_wp (fun pinValidado c1 h1 => ?_) hc
  refine corriente.trans h1.1 (siSigue_corriente fun hsigue => ?_)
  have hpin : pinValidado ≠ [] := by
    rintro rfl
    rcases h1.2 with hesp | hvalid
    · exact hsigue hesp
    · rw [(h1.1 hc).lista.validarPin_nil] at hvalid
      cases hvalid
  refine Prog.Keeps.get_bind (fun c2 => ?_) c1
  cases obtenerHuellaAsignadaPorPin c2.st.listaPins pinValidado with
  | none => exact marcarPresencia_corriente c2
  | some idHuellaStr =>
    refine Prog.Keeps.bind corriente (enrolar_corriente hpin) (fun r => ?_) c2
    cases r with
    | none => exact volverAEsperar_corriente
    | some idResultado =>
      exact .bind corriente
        (modify_corriente fun _ => ⟨rfl, fun h => h.actualizar fun _ hu => hu, rfl⟩) fun _ =>
          .bind corriente (conEsp_corriente _) fun _ =>
            .bind corriente esperarPin_corriente fun _ => marcarPresencia_corriente

end Programas

/-! ## What a round does -/

/-- These events, this state and this counter, with the same table. -/
structure Paso (c c' : Config Mef Sample MefEv) (evs : List MefEv) (e : EstadoMEF) (k : ℕ) :
    Prop where
  trace : c'.trace = evs ++ c.trace
  estado : c'.st.estadoActual = e
  fallidos : c'.st.intentosFallidos = k
  lista : c'.st.listaPins = c.st.listaPins

/-- A round that returns. -/
inductive Ronda (c c' : Config Mef Sample MefEv) : Prop
  | corriente : c.st.estadoActual ≠ .validar → c.st.estadoActual ≠ .sensorCierre →
      Corriente c c' → Ronda c c'
  | digita {c1 : Config Mef Sample MefEv} : c.st.estadoActual = .esperandoAccion →
      Corriente c c1 →
      Paso c1 c' [.estado .validar] .validar c1.st.intentosFallidos → Ronda c c'
  | huella {c1 : Config Mef Sample MefEv} : c.st.estadoActual = .leerYValidarHuella →
      Corriente c c1 →
      Paso c1 c' [.estado .sensorCierre, .accion c1.st.listaPins .abrirCerradura] .sensorCierre 0 →
      Ronda c c'
  | tarjeta : c.st.estadoActual = .validarRfid →
      (obtenerTagPorRFID c.st.listaPins c.st.rfid).isSome →
      Paso c c' [.estado .sensorCierre, .accion c.st.listaPins .abrirCerradura] .sensorCierre
        c.st.intentosFallidos → Ronda c c'
  | pin : c.st.estadoActual = .validar → validarPin c.st.listaPins c.st.pinIngresado = true →
      Paso c c' [.accion c.st.listaPins .abrirCerradura, .estado .sensorCierre] .sensorCierre 0 →
      Ronda c c'
  | rechazo {c1 : Config Mef Sample MefEv} : c.st.estadoActual = .validar →
      validarPin c.st.listaPins c.st.pinIngresado = false →
      Paso c c1 (if c.st.intentosFallidos + 1 = 3 then [.alertaIntruso] else []) .validar
        (if c.st.intentosFallidos + 1 = 3 then 0 else c.st.intentosFallidos + 1) →
      Corriente c1 c' → c'.st.estadoActual = .esperandoAccion → Ronda c c'
  | espera : c.st.estadoActual = .sensorCierre →
      Paso c c' [] .sensorCierre c.st.intentosFallidos → Ronda c c'
  | cierra : c.st.estadoActual = .sensorCierre →
      Paso c c' [.peticion, .estado .esperandoAccion, .accion c.st.listaPins .cerrarCerradura]
        .esperandoAccion c.st.intentosFallidos → Ronda c c'

/-- A round that stops inside for lack of inputs. -/
inductive Parada (c c' : Config Mef Sample MefEv) : Prop
  | corriente : c.st.estadoActual ≠ .sensorCierre → Corriente c c' → Parada c c'
  | espera : c.st.estadoActual = .sensorCierre →
      Paso c c' [] .sensorCierre c.st.intentosFallidos → Parada c c'
  | cierra : c.st.estadoActual = .sensorCierre →
      Paso c c' [.accion c.st.listaPins .cerrarCerradura] .sensorCierre c.st.intentosFallidos →
      Parada c c'

section Rondas

variable {c : Config Mef Sample MefEv}

theorem Prog.Keeps.ronda {m : MefProg Unit} (h : Prog.Keeps Corriente m)
    (hvalidar : c.st.estadoActual ≠ .validar) (hcierre : c.st.estadoActual ≠ .sensorCierre) :
    m.wp (Parada c) (fun _ => Ronda c) c :=
  h.wp (fun _ h1 => .corriente hcierre h1) fun _ _ h1 => .corriente hvalidar hcierre h1

theorem esperandoAccion_ronda (hst : c.st.estadoActual = .esperandoAccion) :
    esperandoAccion.wp (Parada c) (fun _ => Ronda c) c := by
  have hvalidar : c.st.estadoActual ≠ .validar := by rw [hst]; exact nofun
  have hcierre : c.st.estadoActual ≠ .sensorCierre := by rw [hst]; exact nofun
  unfold esperandoAccion
  rw [Prog.wp_bind]
  refine atenderPresencia_corriente.wp (fun _ h1 => .corriente hcierre h1) fun _ c1 h1 => ?_
  rw [Prog.wp_bind, Prog.wp_get, Prog.wp_bind]
  refine (leerPin_corriente _).wp (fun _ h2 => .corriente hcierre (corriente.trans h1 h2))
    fun (resultado, ultimaPresencia) c2 h2 => ?_
  dsimp only
  rw [Prog.wp_bind, Prog.wp_modify]
  have h3 : Corriente c ⟨{ c2.st with ultimaPresencia := ultimaPresencia }, c2.inputs, c2.trace⟩ :=
    corriente.trans (corriente.trans h1 h2)
      (.of_eventos rfl id rfl (List.nil_append _).symm fun _ he => nomatch he)
  cases resultado with
  | completo pin =>
    dsimp only
    rw [Prog.wp_bind, Prog.wp_modify, Prog.wp_bind]
    have h4 : Corriente c ⟨{ c2.st with ultimaPresencia := ultimaPresencia, pinIngresado := pin },
        c2.inputs, c2.trace⟩ :=
      corriente.trans h3 (.of_eventos rfl id rfl (List.nil_append _).symm fun _ he => nomatch he)
    refine marcarPresencia_corriente.wp (fun _ h5 => .corriente hcierre (corriente.trans h4 h5))
      fun _ c5 h5 => ?_
    exact .digita hst (corriente.trans h4 h5) ⟨rfl, rfl, rfl, rfl⟩
  | menu =>
    have hmenu : Prog.Keeps Corriente (do
        if ← pedirPinAdmin then
          marcarPresencia
          irA .menuAdmin
        else
          conTeclado tecladoReset
          Prog.emit .peticion : MefProg Unit) :=
      .bind corriente pedirPinAdmin_corriente fun _ => .ite
        (fun _ => .bind corriente marcarPresencia_corriente fun _ => irA_corriente nofun nofun)
        fun _ => .bind corriente (conTeclado_corriente _) fun _ => emit_corriente trivial trivial
    exact hmenu.wp (fun _ h4 => .corriente hcierre (corriente.trans h3 h4)) fun _ _ h4 =>
      .corriente hvalidar hcierre (corriente.trans h3 h4)
  | incompleto =>
    have hresto : Prog.Keeps Corriente (do
        let now ← tickRead
        if TimeTest.ultimaPresencia.holds now ultimaPresencia then irA .reposo
        else if ← leerRfid then
          marcarPresencia
          irA .validarRfid
        else
          programarEscaneo
          let s ← Prog.get
          if s.escaneoActivo then irA .leerYValidarHuella : MefProg Unit) := by
      refine .bind corriente tickRead_corriente fun now => .ite
        (fun _ => irA_corriente nofun nofun) fun _ => ?_
      refine .bind corriente leerRfid_corriente fun r => .ite
        (fun _ => .bind corriente marcarPresencia_corriente fun _ => irA_corriente nofun nofun)
        fun _ => ?_
      exact .bind corriente programarEscaneo_corriente fun _ => .bind corriente (.get corriente)
        fun s => .ite (fun _ => irA_corriente nofun nofun) fun _ => .pure corriente _
    exact hresto.wp (fun _ h4 => .corriente hcierre (corriente.trans h3 h4)) fun _ _ h4 =>
      .corriente hvalidar hcierre (corriente.trans h3 h4)

theorem leerYValidarHuella_ronda (hst : c.st.estadoActual = .leerYValidarHuella) :
    leerYValidarHuella.wp (Parada c) (fun _ => Ronda c) c := by
  have hvalidar : c.st.estadoActual ≠ .validar := by rw [hst]; exact nofun
  have hcierre : c.st.estadoActual ≠ .sensorCierre := by rw [hst]; exact nofun
  unfold leerYValidarHuella
  rw [Prog.wp_bind]
  refine (conScan_corriente _).wp (fun _ h1 => .corriente hcierre h1) fun (st, salida) c1 h1 => ?_
  have hsigue : ∀ {m : MefProg Unit}, Prog.Keeps Corriente m →
      m.wp (Parada c) (fun _ => Ronda c) c1 := fun hm =>
    hm.wp (fun _ h2 => .corriente hcierre (corriente.trans h1 h2)) fun _ _ h2 =>
      .corriente hvalidar hcierre (corriente.trans h1 h2)
  dsimp only
  cases st with
  | scanMatch =>
    have h2 : Corriente c ⟨c1.st, c1.inputs, .huellaLeida (idLeido salida) :: c1.trace⟩ :=
      corriente.trans h1 (emit_corriente (e := .huellaLeida (idLeido salida)) trivial trivial c1)
    dsimp only
    rw [Prog.wp_bind, Prog.wp_emit, Prog.wp_bind, Prog.wp_get]
    refine Prog.wp_ite (fun _ => ?_) fun _ => ?_
    · exact .huella hst h2 ⟨rfl, rfl, rfl, rfl⟩
    · exact (irA_corriente (e := .esperandoAccion) nofun nofun).wp
        (fun _ h3 => .corriente hcierre (corriente.trans h2 h3)) fun _ _ h3 =>
          .corriente hvalidar hcierre (corriente.trans h2 h3)
  | scanNoMatch =>
    exact hsigue (.bind corriente (modify_corriente fun _ => ⟨rfl, id, rfl⟩) fun _ =>
      .bind corriente marcarPresencia_corriente fun _ => irA_corriente nofun nofun)
  | scanNoFinger | scanError =>
    exact hsigue (.bind corriente (modify_corriente fun _ => ⟨rfl, id, rfl⟩) fun _ =>
      irA_corriente nofun nofun)
  | scanIdle | scanInProgress => exact hsigue (irA_corriente nofun nofun)

theorem validarTarjeta_ronda (hst : c.st.estadoActual = .validarRfid) :
    validarTarjeta.wp (Parada c) (fun _ => Ronda c) c := by
  have hvalidar : c.st.estadoActual ≠ .validar := by rw [hst]; exact nofun
  have hcierre : c.st.estadoActual ≠ .sensorCierre := by rw [hst]; exact nofun
  unfold validarTarjeta
  rw [Prog.wp_bind, Prog.wp_get]
  cases htag : obtenerTagPorRFID c.st.listaPins c.st.rfid with
  | some tag => exact .tarjeta hst (by rw [htag]; rfl) ⟨rfl, rfl, rfl, rfl⟩
  | none =>
    exact Prog.Keeps.ronda (.bind corriente (conTeclado_corriente _) fun _ =>
      esperarPin_corriente) hvalidar hcierre

theorem contarFallo_wp {halt : Config Mef Sample MefEv → Prop}
    (hst : c.st.estadoActual = .validar) :
    contarFallo.wp halt (fun _ c' => Paso c c'
      (if c.st.intentosFallidos + 1 = 3 then [.alertaIntruso] else []) .validar
      (if c.st.intentosFallidos + 1 = 3 then 0 else c.st.intentosFallidos + 1)) c := by
  unfold contarFallo
  rw [Prog.wp_bind, Prog.wp_get]
  split_ifs
  · exact ⟨rfl, hst, rfl, rfl⟩
  · exact ⟨rfl, hst, rfl, rfl⟩

/-- `tecladoReset` empties the buffer and cannot stop. -/
theorem tecladoReset_wp {halt : Config Mef Sample MefEv → Prop}
    {post : Unit → Config Mef Sample MefEv → Prop} : (conTeclado tecladoReset).wp halt post c ↔
      post () ⟨{ c.st with teclado := { c.st.teclado with pinIngresado := [] } }, c.inputs,
        c.trace⟩ := Iff.rfl

theorem validar_ronda (hst : c.st.estadoActual = .validar) :
    validar.wp (Parada c) (fun _ => Ronda c) c := by
  unfold validar
  rw [Prog.wp_bind, Prog.wp_get]
  refine Prog.wp_ite (fun hvalid => .pin hst hvalid ⟨rfl, rfl, rfl, rfl⟩) fun hvalid => ?_
  rw [Prog.wp_bind]
  refine Prog.wp_mono (contarFallo_wp hst) (fun _ h => h) fun _ c1 h1 => ?_
  rw [Prog.wp_bind, tecladoReset_wp]
  have h2 : Corriente c1 ⟨{ c1.st with teclado := { c1.st.teclado with pinIngresado := [] } },
      c1.inputs, c1.trace⟩ :=
    .of_eventos rfl id rfl (List.nil_append _).symm fun _ he => nomatch he
  exact .rechazo hst (eq_false_of_ne_true hvalid) h1
    (corriente.trans h2 (esperarPin_corriente _)) rfl

theorem sensorCierre_ronda (hst : c.st.estadoActual = .sensorCierre) :
    sensorCierre.wp (Parada c) (fun _ => Ronda c) c := by
  unfold sensorCierre
  rw [Prog.wp_bind]
  refine Prog.wp_read (fun _ => .espera hst ⟨rfl, hst, rfl, rfl⟩) fun m rest _ => ?_
  refine Prog.wp_ite (fun _ => ?_) fun _ => .espera hst ⟨rfl, hst, rfl, rfl⟩
  rw [Prog.wp_bind]
  show (volverAEsperar).wp _ _ ⟨c.st, rest, .accion c.st.listaPins .cerrarCerradura :: c.trace⟩
  unfold volverAEsperar
  rw [Prog.wp_bind]
  exact marcarPresencia_wp (.cierra hst ⟨rfl, hst, rfl, rfl⟩) fun _ _ =>
    .cierra hst ⟨rfl, rfl, rfl, rfl⟩

/-- Every round is one of these. -/
theorem mefUpdate_ronda : mefUpdate.wp (Parada c) (fun _ => Ronda c) c := by
  unfold mefUpdate
  rw [Prog.wp_bind, Prog.wp_get]
  cases hst : c.st.estadoActual with
  | esperandoAccion => exact esperandoAccion_ronda hst
  | leerYValidarHuella => exact leerYValidarHuella_ronda hst
  | validarRfid => exact validarTarjeta_ronda hst
  | validar => exact validar_ronda hst
  | sensorCierre => exact sensorCierre_ronda hst
  | reposo =>
    exact Prog.Keeps.ronda (.bind corriente entrarModoSleep_corriente fun _ =>
      esperarPin_corriente) (by rw [hst]; exact nofun) (by rw [hst]; exact nofun)
  | bloqueado =>
    exact Prog.Keeps.ronda (.pure corriente _) (by rw [hst]; exact nofun) (by rw [hst]; exact nofun)
  | menuAdmin =>
    exact Prog.Keeps.ronda menuAdmin_corriente (by rw [hst]; exact nofun) (by rw [hst]; exact nofun)
  | registrarRfid =>
    exact Prog.Keeps.ronda registrarRfid_corriente (by rw [hst]; exact nofun)
      (by rw [hst]; exact nofun)
  | registrarHuella =>
    exact Prog.Keeps.ronda registrarHuella_corriente (by rw [hst]; exact nofun)
      (by rw [hst]; exact nofun)

end Rondas

/-! ## Runs -/

/-- An invariant of the runs: `mefInit` sets it up, every round keeps it, and `P`
holds as well of a run that stops inside a round. -/
theorem principal_invariant {Inv P : Config Mef Sample MefEv → Prop} {inputs : List Sample}
    (hinv : ∀ c, Inv c → P c)
    (hinit : ∀ c, Corriente ⟨Mef.inicial, inputs, []⟩ c → Inv c)
    (hronda : ∀ c c', Inv c → Ronda c c' → Inv c') (hparada : ∀ c c', Inv c → Parada c c' → P c')
    (n : ℕ) : (principal n).wp P (fun _ => Inv) ⟨Mef.inicial, inputs, []⟩ := by
  induction n with
  | zero => exact mefInit_corriente.wp (fun c h => hinv c (hinit c h)) fun _ c h => hinit c h
  | succ n ih =>
    show (principal n >>= fun _ => mefUpdate).wp _ _ _
    rw [Prog.wp_bind]
    exact Prog.wp_mono ih (fun _ h => h) fun _ c1 h1 =>
      Prog.wp_mono mefUpdate_ronda (fun c2 h2 => hparada c1 c2 h1 h2)
        fun _ c2 h2 => hronda c1 c2 h1 h2

/-- The same for the runs that return, whose earlier rounds began as `Ok` asks. -/
theorem principal_returns {Inv Ok : Config Mef Sample MefEv → Prop} {inputs : List Sample}
    (hinit : ∀ c, Corriente ⟨Mef.inicial, inputs, []⟩ c → Inv c)
    (hronda : ∀ c c', Inv c → Ok c → Ronda c c' → Inv c') {n : ℕ}
    (hok : ∀ m < n, ∀ c, principal m ⟨Mef.inicial, inputs, []⟩ = (some (), c) → Ok c)
    {c : Config Mef Sample MefEv} (h : principal n ⟨Mef.inicial, inputs, []⟩ = (some (), c)) :
    Inv c := by
  induction n generalizing c with
  | zero =>
    refine hinit c ?_
    have hkeeps := mefInit_corriente ⟨Mef.inicial, inputs, []⟩
    rwa [show mefInit ⟨Mef.inicial, inputs, []⟩ = (some (), c) from h] at hkeeps
  | succ n ih =>
    obtain ⟨_, c1, hn, hround⟩ := Prog.exists_of_bind (m := principal n) h
    have h1 := ih (fun m hm => hok m (hm.trans (Nat.lt_succ_self n))) hn
    have h2 := Prog.wp_elim mefUpdate_ronda hround
    exact hronda c1 c h1 (hok n (Nat.lt_succ_self n) c1 hn) h2

/-! ## A start -/

/-- What the ESP sends in answer to a command given at `t`, which is over at
`fin`. -/
def orden (t : ℕ) (bs : List UInt8) (fin : ℕ) : List Sample :=
  Sample.quiet t :: bs.flatMap (fun b =>
    [Sample.quiet t, { Sample.quiet t with espRx := some b }, Sample.quiet t]) ++ [Sample.quiet fin]

/-- A start with the network up, which downloads the users of `body`, and the
first scan, without a finger. -/
def arranque (body : List UInt8) : List Sample :=
  List.replicate 3 (Sample.quiet 0) ++ orden 0 (ascii "OK") 1000 ++ orden 1000 [] 2000 ++
    orden 2000 [] 3000 ++ orden 3000 [] 4000 ++ List.replicate 2 (Sample.quiet 4000) ++
    orden 4000 (ascii "STATUS:2") 5000 ++ orden 5000 [] 6000 ++ orden 6000 body 16000 ++
    (List.range 17).map (fun i => Sample.quiet (16000 + 500 * i)) ++
    (List.range 27).map (fun i => Sample.quiet (26000 + 20 * i))

/-- Keys pressed after the start. -/
def teclas (ks : String) : List Sample :=
  (ascii ks).flatMap fun k => ((List.finRange 12).filter (keypadMap.get · = k)).flatMap fun i =>
    List.replicate 5 { Sample.quiet 26600 with tecla := some i }

/-- The card 9A3B11C2 on the reader. -/
def tarjetaAna : List Sample :=
  List.replicate 4 { Sample.quiet 26600 with uid := some #v[0x9A, 0x3B, 0x11, 0xC2] }

/-! ## The empty PIN -/

/-- Active records have a code, and so has had every PIN that counted. -/
def SinVacio (c : Config Mef Sample MefEv) : Prop :=
  c.st.listaPins.ConCodigo ∧ ∀ e ∈ c.trace, e.ConPin

section SinVacio

variable {c c' : Config Mef Sample MefEv}

theorem SinVacio.corriente (hc : SinVacio c) (h : Corriente c c') : SinVacio c' := by
  obtain ⟨evs, htrace, hevs⟩ := (h hc.1).eventos
  refine ⟨(h hc.1).lista, fun e he => ?_⟩
  rw [htrace] at he
  rcases List.mem_append.mp he with he | he
  · exact (hevs e he).2
  · exact hc.2 e he

theorem SinVacio.paso {evs : List MefEv} {s : EstadoMEF} {k : ℕ} (hc : SinVacio c)
    (h : Paso c c' evs s k) (hevs : ∀ e ∈ evs, e.ConPin) : SinVacio c' := by
  refine ⟨h.lista ▸ hc.1, fun e he => ?_⟩
  rw [h.trace] at he
  rcases List.mem_append.mp he with he | he
  · exact hevs e he
  · exact hc.2 e he

theorem SinVacio.ronda (hc : SinVacio c) (h : Ronda c c') : SinVacio c' := by
  have hdos : ∀ {e e' : MefEv}, e.ConPin → e'.ConPin → ∀ d ∈ [e, e'], d.ConPin := fun he he' =>
    List.forall_mem_cons.mpr ⟨he, List.forall_mem_singleton.mpr he'⟩
  cases h with
  | corriente _ _ h1 => exact hc.corriente h1
  | digita _ h1 h2 => exact (hc.corriente h1).paso h2 (List.forall_mem_singleton.mpr trivial)
  | huella _ h1 h2 => exact (hc.corriente h1).paso h2 (hdos trivial trivial)
  | tarjeta _ _ h1 => exact hc.paso h1 (hdos trivial trivial)
  | pin _ _ h1 => exact hc.paso h1 (hdos trivial trivial)
  | rechazo _ _ h1 h2 _ =>
    refine (hc.paso h1 ?_).corriente h2
    split_ifs
    · exact List.forall_mem_singleton.mpr trivial
    · exact fun e he => nomatch he
  | espera _ h1 => exact hc.paso h1 fun e he => nomatch he
  | cierra _ h1 =>
    exact hc.paso h1 (List.forall_mem_cons.mpr ⟨trivial, hdos trivial trivial⟩)

theorem SinVacio.parada (hc : SinVacio c) (h : Parada c c') : SinVacio c' := by
  cases h with
  | corriente _ h1 => exact hc.corriente h1
  | espera _ h1 => exact hc.paso h1 fun e he => nomatch he
  | cierra _ h1 => exact hc.paso h1 (List.forall_mem_singleton.mpr trivial)

end SinVacio

/-- The table is well formed after any operations on it, whatever the parser is
given it stores no more than the table holds, and in every run of the firmware
the empty PIN is nobody's, so that no question that timed out has named a user. -/
theorem pin_vacio_de_nadie :
    (∀ ms : List Mutacion, ∃ t, ms.foldlM Memoria.aplica Memoria.listaPins = some t ∧
      Memoria.BienFormada t) ∧
    (∀ httpResp, ∃ rs, Memoria.extraerPins httpResp maxPins = some rs ∧ rs.length ≤ maxPins) ∧
    ∀ n inputs, validarPin (principal n ⟨Mef.inicial, inputs, []⟩).2.st.listaPins [] = false ∧
      esPinMaster (principal n ⟨Mef.inicial, inputs, []⟩).2.st.listaPins [] = false ∧
      ∀ e ∈ (principal n ⟨Mef.inicial, inputs, []⟩).2.trace, e.ConPin := by
  refine ⟨Memoria.tabla_bien_formada, fun httpResp => Memoria.extraerPins_cabe httpResp maxPins,
    fun n inputs => ?_⟩
  have h0 : SinVacio ⟨Mef.inicial, inputs, []⟩ := ⟨conCodigo_inicial, fun e he => nomatch he⟩
  obtain ⟨hlista, htrace⟩ : SinVacio (principal n ⟨Mef.inicial, inputs, []⟩).2 :=
    Prog.wp_final (principal_invariant (fun _ h => h) (fun _ h => h0.corriente h)
      (fun _ _ h => h.ronda) (fun _ _ h => h.parada) n)
  exact ⟨hlista.validarPin_nil, hlista.esPinMaster_nil, htrace⟩

end Cerradura
