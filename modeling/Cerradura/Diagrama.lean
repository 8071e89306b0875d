import Cerradura.Rutina

/-!
# The diagram of the states

`diagrama` says where each state of the machine may lead, and which actions are
taken in which state. Every run keeps to it (`diagrama_en_orden`).
-/

namespace Cerradura

open Reactive Transition

/-- The states that follow. In a registration the time for the PIN may be up more
than once, and each time the machine goes to ESPERANDO_ACCION. -/
def EstadoMEF.siguientes : EstadoMEF → List EstadoMEF
  | .reposo | .sensorCierre | .registrarRfid | .registrarHuella => [.esperandoAccion]
  | .esperandoAccion =>
    [.reposo, .leerYValidarHuella, .validarRfid, .validar, .menuAdmin, .esperandoAccion]
  | .leerYValidarHuella | .validarRfid | .validar => [.esperandoAccion, .sensorCierre]
  | .menuAdmin => [.esperandoAccion, .registrarRfid, .registrarHuella]
  | .bloqueado => []

/-- The state in which an action is taken. VALIDAR has left for SENSOR_CIERRE when
it opens the door. -/
def Accion.En : Accion → EstadoMEF → Prop
  | .abrirCerradura, e => e = .leerYValidarHuella ∨ e = .validarRfid ∨ e = .sensorCierre
  | .cerrarCerradura, e => e = .sensorCierre
  | .registrarRfid _ _, e => e = .registrarRfid
  | .enrolarHuella _ _, e => e = .registrarHuella
  | .borrarHuella _ _, e | .borrarTodasHuellas, e | .resetWifi, e | .sincronizar, e =>
    e = .menuAdmin

def diagrama : Machine EstadoMEF MefEv where
  Enabled q
    | .estado e => e ∈ q.siguientes
    | .accion _ a => a.En q
    | _ => True
  next q
    | .estado e => e
    | _ => q

/-! ## Steps -/

/-- The machine is in the state `e`, and so it is in the diagram. -/
def En (e : EstadoMEF) (s : Mef) (q : EstadoMEF) : Prop := s.estadoActual = e ∧ q = e

/-- In `e`, or back in ESPERANDO_ACCION. -/
def EnOEspera (e : EstadoMEF) (s : Mef) (q : EstadoMEF) : Prop := En e s q ∨ En .esperandoAccion s q

/-- The diagram has gone where the machine has. -/
abbrev Sigue (s : Mef) (q : EstadoMEF) : Prop := s.estadoActual = q

section Pasos

variable {α τ δ : Type} {e e' : EstadoMEF} {a : Accion} {P : Mef → EstadoMEF → Prop}

theorem En.sigue {s : Mef} {q : EstadoMEF} (h : En e s q) : Sigue s q := h.1.trans h.2.symm

theorem EnOEspera.sigue {s : Mef} {q : EstadoMEF} (h : EnOEspera e s q) : Sigue s q := by
  rcases h with h | h
  · exact h.sigue
  · exact h.sigue

theorem irA_diagrama (h : e' ∈ e.siguientes) :
    Prog.Follows diagrama (En e) (irA e') fun _ => En e' :=
  .bind (R := fun _ _ q => q = e') (.emit fun _ _ hq => ⟨hq.2 ▸ h, rfl⟩) fun _ =>
    .modify fun _ _ hq => ⟨rfl, hq⟩

theorem hacer_diagrama (h : a.En e) : Prog.Follows diagrama (En e) (hacer a) fun _ => En e :=
  .bind .get fun _ => .emit fun _ _ hq => ⟨hq.2 ▸ h, hq⟩

/-- What does not name the state of the machine. -/
theorem modify_diagrama {f : Mef → Mef} (hf : ∀ s, (f s).estadoActual = s.estadoActual) :
    Prog.Follows diagrama (En e) (Prog.modify f : MefProg Unit) fun _ => En e :=
  .modify fun s _ h => ⟨(hf s).trans h.1, h.2⟩

theorem conEsp_diagrama (h : ∀ s b q, P s q → P { s with conectado := b } q)
    (m : Prog Bool Sample EspEv α) :
    Prog.Follows diagrama P (conEsp m) fun _ => P :=
  .zoom_of_ignores (fun _ _ => ⟨trivial, rfl⟩) h

theorem conSensor_diagrama (m : Prog Unit Sample SensorEv α) :
    Prog.Follows diagrama P (conSensor m) fun _ => P :=
  .zoom_of_ignores (fun _ _ => ⟨trivial, rfl⟩) fun _ _ _ h => h

theorem conTeclado_diagrama (h : ∀ s t q, P s q → P { s with teclado := t } q)
    (m : Prog Teclado Sample TecladoEv α) : Prog.Follows diagrama P (conTeclado m) fun _ => P :=
  .zoom_of_ignores (fun _ _ => ⟨trivial, rfl⟩) h

/-- The operations, where every state that they go to may follow any other that
they go to. -/
theorem rutina_diagrama {R : Permiso} {P : EstadoMEF → Prop} {m : MefProg α} (h : Rutina R α m)
    (hestado : ∀ q e, P q → R.estado e → e ∈ q.siguientes ∧ P e)
    (haccion : ∀ q a, P q → R.accion a → a.En q) :
    Prog.Follows diagrama (fun s q => s.estadoActual = q ∧ P q) m
      fun _ s q => s.estadoActual = q ∧ P q := by
  cases h with
  | read => exact .read fun _ _ _ h => h
  | get => exact .get
  | @emit e he =>
    refine .emit fun s q h => ?_
    cases e with
    | sensor _ | esp _ | teclado _ | uidLeido _ | estado _ | accion _ _ => exact he.elim
    | _ => exact ⟨trivial, h⟩
  | @irA e he =>
    refine .bind (R := fun _ _ q => q = e ∧ P q) (.emit fun _ q h => ?_) fun _ =>
      .modify fun _ _ h => ⟨h.1.symm, h.2⟩
    obtain ⟨hsigue, hP⟩ := hestado q e h.2 he
    exact ⟨hsigue, rfl, hP⟩
  | @hacer a ha => exact .bind .get fun _ => .emit fun _ q h => ⟨haccion q a h.2 ha, h⟩
  | modify hf => exact .modify fun s _ h => ⟨(hf s).estado.trans h.1, h.2⟩
  | leerPin timer =>
    refine .bind (conTeclado_diagrama (fun _ _ _ h => h) _) fun (res, ultimaActividad) => ?_
    dsimp only
    cases res with
    | completo pin =>
      exact .bind (R := fun _ s q => s.estadoActual = q ∧ P q) (.emit fun _ _ h => ⟨trivial, h⟩)
        fun _ => .pure fun _ _ h => h
    | menu => exact .pure fun _ _ h => h
    | incompleto => exact .pure fun _ _ h => h
  | leerTecla => exact conTeclado_diagrama (fun _ _ _ h => h) _
  | tecladoReset => exact conTeclado_diagrama (fun _ _ _ h => h) _
  | leerRfid =>
    refine .bind (R := fun _ s q => s.estadoActual = q ∧ P q)
      (.bind (R := fun _ s q => s.estadoActual = q ∧ P q) (.read fun _ _ _ h => h)
        fun _ => .pure fun _ _ h => h) fun uid => ?_
    cases uid with
    | none => exact .pure fun _ _ h => h
    | some uid =>
      exact .bind (R := fun _ s q => s.estadoActual = q ∧ P q) (.emit fun _ _ h => ⟨trivial, h⟩)
        fun _ => .bind (R := fun _ s q => s.estadoActual = q ∧ P q) (.modify fun _ _ h => h)
          fun _ => .pure fun _ _ h => h
  | tiempo => exact conEsp_diagrama (fun _ _ _ h => h) _
  | inicializar => exact conEsp_diagrama (fun _ _ _ h => h) _
  | sincronizar => exact .zoom_of_ignores (fun _ _ => ⟨trivial, rfl⟩) fun _ _ _ h => h

/-- No state and no action. -/
def Permiso.nada : Permiso := ⟨fun _ => False, fun _ => False⟩

/-- Back to ESPERANDO_ACCION. -/
def Permiso.espera : Permiso := ⟨(· = .esperandoAccion), fun _ => False⟩

theorem Permiso.espera_estado : Permiso.espera.estado .esperandoAccion := rfl

theorem DeRutina.queda {m : MefProg α} (h : DeRutina .nada m) :
    Prog.Follows diagrama (En e) m fun _ => En e := by
  refine (h.follows (P := fun s q => s.estadoActual = q ∧ q = e) fun _ _ hm => ?_).mono
    (fun _ _ h => ⟨h.sigue, h.2⟩) fun _ _ _ h => ⟨h.1.trans h.2, h.2⟩
  exact rutina_diagrama hm (fun _ _ _ h => h.elim) fun _ _ _ h => h.elim

theorem DeRutina.vuelve {m : MefProg α} (h : DeRutina .espera m)
    (he : .esperandoAccion ∈ e.siguientes) :
    Prog.Follows diagrama (EnOEspera e) m fun _ => EnOEspera e := by
  refine (h.follows (P := fun s q => s.estadoActual = q ∧ (q = e ∨ q = .esperandoAccion))
    fun _ _ hm => ?_).mono (fun _ _ h => ⟨h.sigue, h.imp And.right And.right⟩) fun _ _ _ h =>
      h.2.imp (fun hq => ⟨h.1.trans hq, hq⟩) fun hq => ⟨h.1.trans hq, hq⟩
  refine rutina_diagrama hm (fun q e' hq he' => ⟨?_, .inr he'⟩) fun _ _ _ h => h.elim
  rw [show e' = .esperandoAccion from he']
  rcases hq with rfl | rfl
  · exact he
  · decide

/-- A function that ends with the question for a PIN. -/
theorem esperarPin_diagrama (he : .esperandoAccion ∈ e.siguientes) :
    Prog.Follows diagrama (En e) esperarPin fun _ => Sigue :=
  .bind (irA_diagrama he) fun _ =>
    (emit_rutina (e := .peticion) trivial).queda.post fun _ _ _ h => h.sigue

theorem volverAEsperar_diagrama (he : .esperandoAccion ∈ e.siguientes) :
    Prog.Follows diagrama (En e) volverAEsperar fun _ => Sigue :=
  .bind marcarPresencia_rutina.queda fun _ => esperarPin_diagrama he

/-- What comes after a question that may have been given up. -/
theorem siSigue_diagrama {m : MefProg Unit} (h : Prog.Follows diagrama (En e) m fun _ => Sigue) :
    Prog.Follows diagrama (EnOEspera e) (siSigue m) fun _ => Sigue := by
  refine .get_bind fun s0 => .ite (fun _ => .pure fun _ _ h => h.2.sigue) fun hs0 => ?_
  refine h.pre fun s q hs => hs.2.resolve_right fun hespera => hs0 ?_
  rw [← hs.1]
  exact hespera.1

end Pasos

/-! ## The states -/

section Estados

theorem reposo_diagrama : Prog.Follows diagrama (En .reposo) (do
    entrarModoSleep
    esperarPin) fun _ => Sigue :=
  .bind entrarModoSleep_rutina.queda fun _ => esperarPin_diagrama (by decide)

theorem sinTecla_diagrama (ultimaPresencia : ℤ) :
    Prog.Follows diagrama (En .esperandoAccion) (sinTecla ultimaPresencia) fun _ => Sigue := by
  have hva {e : EstadoMEF} (he : e ∈ EstadoMEF.esperandoAccion.siguientes) :=
    (irA_diagrama he).post fun _ _ _ h => h.sigue
  refine .bind tickRead_rutina.queda fun now => .ite (fun _ => hva (by decide)) fun _ => ?_
  refine .bind leerRfid_rutina.queda fun r => .ite (fun _ => ?_) fun _ => ?_
  · exact .bind marcarPresencia_rutina.queda fun _ => hva (by decide)
  · exact .bind programarEscaneo_rutina.queda fun _ => .bind get_rutina.queda fun _ =>
      .ite (fun _ => hva (by decide)) fun _ => .pure fun _ _ h => h.sigue

theorem esperandoAccion_diagrama :
    Prog.Follows diagrama (En .esperandoAccion) esperandoAccion fun _ => Sigue := by
  refine .bind atenderPresencia_rutina.queda fun _ => .bind get_rutina.queda fun s => ?_
  refine .bind (leerPin_rutina _).queda fun (resultado, ultimaPresencia) => ?_
  dsimp only
  refine .bind (modify_diagrama fun _ => rfl) fun _ => ?_
  cases resultado with
  | completo pin =>
    exact .bind (modify_diagrama fun _ => rfl) fun _ => .bind marcarPresencia_rutina.queda fun _ =>
      (irA_diagrama (by decide)).post fun _ _ _ h => h.sigue
  | menu =>
    refine .bind pedirPinAdmin_rutina.queda fun _ => .ite (fun _ => ?_) fun _ => ?_
    · exact .bind marcarPresencia_rutina.queda fun _ =>
        (irA_diagrama (by decide)).post fun _ _ _ h => h.sigue
    · exact .bind tecladoReset_rutina.queda fun _ =>
        (emit_rutina (e := .peticion) trivial).queda.post fun _ _ _ h => h.sigue
  | incompleto => exact sinTecla_diagrama ultimaPresencia

theorem leerYValidarHuella_diagrama :
    Prog.Follows diagrama (En .leerYValidarHuella) leerYValidarHuella fun _ => Sigue := by
  have hespera : Prog.Follows diagrama (En .leerYValidarHuella) (irA .esperandoAccion)
      fun _ => Sigue := (irA_diagrama (by decide)).post fun _ _ _ h => h.sigue
  refine .bind (.zoom_of_ignores (fun _ _ => ⟨trivial, rfl⟩) fun _ _ _ h => h)
    fun (st, salida) => ?_
  dsimp only
  cases st with
  | scanMatch =>
    refine .bind (emit_rutina (e := .huellaLeida _) trivial).queda fun _ =>
      .bind get_rutina.queda fun s => .ite (fun _ => ?_) fun _ => hespera
    exact .bind (modify_diagrama fun _ => rfl) fun _ => .bind (hacer_diagrama (.inl rfl)) fun _ =>
      .bind (irA_diagrama (by decide)) fun _ =>
        (modify_diagrama fun _ => rfl).post fun _ _ _ h => h.sigue
  | scanNoMatch =>
    exact .bind (modify_diagrama fun _ => rfl) fun _ =>
      .bind marcarPresencia_rutina.queda fun _ => hespera
  | scanNoFinger | scanError => exact .bind (modify_diagrama fun _ => rfl) fun _ => hespera
  | scanIdle | scanInProgress => exact hespera

theorem validarTarjeta_diagrama :
    Prog.Follows diagrama (En .validarRfid) validarTarjeta fun _ => Sigue := by
  refine .bind get_rutina.queda fun s => ?_
  cases obtenerTagPorRFID s.listaPins s.rfid with
  | some _ =>
    exact .bind (hacer_diagrama (.inr (.inl rfl))) fun _ => .bind (irA_diagrama (by decide))
      fun _ => (modify_diagrama fun _ => rfl).post fun _ _ _ h => h.sigue
  | none => exact .bind tecladoReset_rutina.queda fun _ => esperarPin_diagrama (by decide)

theorem validar_diagrama : Prog.Follows diagrama (En .validar) validar fun _ => Sigue := by
  refine .bind get_rutina.queda fun _ => .ite (fun _ => ?_) fun _ => ?_
  · exact .bind (modify_diagrama fun _ => rfl) fun _ => .bind (irA_diagrama (by decide)) fun _ =>
      (hacer_diagrama (a := .abrirCerradura) (.inr (.inr rfl))).post fun _ _ _ h => h.sigue
  · exact .bind contarFallo_rutina.queda fun _ => .bind tecladoReset_rutina.queda fun _ =>
      esperarPin_diagrama (by decide)

theorem sensorCierre_diagrama :
    Prog.Follows diagrama (En .sensorCierre) sensorCierre fun _ => Sigue :=
  .bind (.read fun _ _ _ h => h) fun _ => .ite (fun _ => .bind (hacer_diagrama rfl) fun _ =>
    volverAEsperar_diagrama (by decide)) fun _ => .pure fun _ _ h => h.sigue

theorem borrarHuellas_diagrama :
    Prog.Follows diagrama (En .menuAdmin) borrarHuellas fun _ => Sigue := by
  have htodas : Prog.Follows diagrama (En .menuAdmin) borrarTodas fun _ => En .menuAdmin := by
    refine .bind (hacer_diagrama rfl) fun _ => .bind (conSensor_diagrama _) fun ok =>
      .ite (fun _ => ?_) fun _ => .pure fun _ _ h => h
    exact .bind (modify_diagrama fun _ => rfl) fun _ =>
      .bind (conEsp_diagrama (fun _ _ _ h => h) _) fun _ => .pure fun _ _ h => h
  have huna : Prog.Follows diagrama (En .menuAdmin) borrarUna fun _ => En .menuAdmin := by
    refine .bind (pedirPin_rutina _).queda fun pinTarget => .bind get_rutina.queda fun s =>
      .ite (fun _ => ?_) fun _ => (emit_rutina (e := .noTieneHuella) trivial).queda
    cases obtenerHuellaAsignadaPorPin s.listaPins (pinTarget.getD []) with
    | none => exact (emit_rutina (e := .noTieneHuella) trivial).queda
    | some idStr =>
      refine .bind (hacer_diagrama rfl) fun _ => .bind (conSensor_diagrama _) fun ok =>
        .ite (fun _ => ?_) fun _ => .pure fun _ _ h => h
      exact .bind (modify_diagrama fun _ => rfl) fun _ =>
        .bind (conEsp_diagrama (fun _ _ _ h => h) _) fun _ => .pure fun _ _ h => h
  refine .bind (pedirPin_rutina _).queda fun pinAuth => ?_
  cases pinAuth with
  | none => exact .pure fun _ _ h => h.sigue
  | some pinAuth =>
    refine .bind (comprobarPinMaster_rutina _).queda fun _ => .ite (fun _ => ?_) fun _ =>
      .pure fun _ _ h => h.sigue
    refine .bind pedirSubOp_rutina.queda fun subOp => .bind (R := fun _ => En .menuAdmin) ?_
      fun _ => volverAEsperar_diagrama (by decide)
    exact .ite (fun _ => htodas) fun _ => .ite (fun _ => huna) fun _ => .pure fun _ _ h => h

theorem menuAdmin_diagrama : Prog.Follows diagrama (En .menuAdmin) menuAdmin fun _ => Sigue := by
  have hvuelve : Prog.Follows diagrama (En .menuAdmin) volverAEsperar fun _ => Sigue :=
    volverAEsperar_diagrama (by decide)
  have hva {e : EstadoMEF} (he : e ∈ EstadoMEF.menuAdmin.siguientes) :=
    (irA_diagrama he).post fun _ _ _ h => h.sigue
  refine .bind leerOpcion_rutina.queda fun opcion => .ite (fun _ => hva (by decide)) fun _ =>
    .ite (fun _ => hva (by decide)) fun _ => .ite (fun _ => ?_) fun _ =>
      .ite (fun _ => borrarHuellas_diagrama) fun _ => .ite (fun _ => ?_) fun _ => hvuelve
  · refine .bind (R := fun _ => En .menuAdmin) (.bind (hacer_diagrama rfl) fun _ =>
      .bind (conEsp_diagrama (fun _ _ _ h => h) _) fun ok => .ite (fun _ => ?_) fun _ =>
        .pure fun _ _ h => h) fun _ => hvuelve
    exact .bind (conEsp_diagrama (fun _ _ _ h => h) _) fun _ => .pure fun _ _ h => h
  · exact .bind (hacer_diagrama rfl) fun _ =>
      .bind (.zoom_of_ignores (fun _ _ => ⟨trivial, rfl⟩) fun _ _ _ h => h) fun _ => hvuelve

theorem pedirPinValidado_diagrama {e : EstadoMEF} (he : .esperandoAccion ∈ e.siguientes) :
    Prog.Follows diagrama (En e) pedirPinValidado fun _ => EnOEspera e :=
  ((pedirPinValidado_rutina Permiso.espera_estado).vuelve he).pre fun _ _ h => .inl h

theorem registrarRfid_diagrama :
    Prog.Follows diagrama (En .registrarRfid) registrarRfid fun _ => Sigue := by
  refine .bind (pedirPinValidado_diagrama (by decide)) fun pin => siSigue_diagrama ?_
  refine .bind (((pedirTarjeta_rutina Permiso.espera_estado).vuelve (by decide)).pre
    fun _ _ h => .inl h) fun _ => siSigue_diagrama (.bind get_rutina.queda fun s => ?_)
  exact .bind (hacer_diagrama rfl) fun _ => .bind (modify_diagrama fun _ => rfl) fun _ =>
    .bind (conEsp_diagrama (fun _ _ _ h => h) _) fun _ => volverAEsperar_diagrama (by decide)

theorem registrarHuella_diagrama :
    Prog.Follows diagrama (En .registrarHuella) registrarHuella fun _ => Sigue := by
  have henrolar (pin : List UInt8) (id : UInt16) : Prog.Follows diagrama (En .registrarHuella)
      (enrolar pin id) fun _ => En .registrarHuella := by
    refine .iter (fun _ => En .registrarHuella) (fun intentos => .ite (fun _ => ?_) fun _ =>
      .pure fun _ _ h => h) 0
    refine .bind (hacer_diagrama rfl) fun _ => .bind (conSensor_diagrama _) fun r => ?_
    cases r with
    | none => exact .pure fun _ _ h => h
    | some _ => exact .pure fun _ _ h => h
  refine .bind (pedirPinValidado_diagrama (by decide)) fun pin =>
    siSigue_diagrama (.bind get_rutina.queda fun s => ?_)
  cases obtenerHuellaAsignadaPorPin s.listaPins pin with
  | none => exact marcarPresencia_rutina.queda.post fun _ _ _ h => h.sigue
  | some idHuellaStr =>
    refine .bind (henrolar pin _) fun r => ?_
    cases r with
    | none => exact volverAEsperar_diagrama (by decide)
    | some idResultado =>
      refine .bind (modify_diagrama fun _ => rfl) fun _ =>
        .bind (conEsp_diagrama (fun _ _ _ h => h) _) fun _ => ?_
      refine .bind (R := fun _ => En .esperandoAccion) ?_ fun _ =>
        marcarPresencia_rutina.queda.post fun _ _ _ h => h.sigue
      exact .bind (irA_diagrama (by decide)) fun _ => (emit_rutina (e := .peticion) trivial).queda

theorem mefInit_diagrama : Prog.Follows diagrama (En .reposo) mefInit fun _ => Sigue := by
  have hwifi (ms : UInt32) : DeRutina .nada (conEsp (inicializarESP ms)) := .part (.inicializar ms)
  have hbucle (wifiOk : Bool) : DeRutina .nada (Prog.iter (fun wifiOk => do
      if wifiOk then pure (.inr ())
      else
        let wifiOk ← conEsp (inicializarESP 5000)
        pure (.inl wifiOk)) wifiOk : MefProg Unit) :=
    .iter fun _ => .ite (.pure _) (.bind (hwifi 5000) fun _ => .pure _)
  refine .bind (conEsp_diagrama (fun _ _ _ h => h) _) fun _ => .bind (hwifi 10000).queda fun _ =>
    .bind (hbucle _).queda fun _ => ?_
  have hsincroniza : DeRutina .nada (conLista sincronizarConServidor) := .part .sincronizar
  exact .bind hsincroniza.queda fun _ => .bind (conSensor_diagrama _) fun _ =>
    .bind (modify_diagrama fun _ => rfl) fun _ => volverAEsperar_diagrama (by decide)

theorem mefUpdate_diagrama : Prog.Follows diagrama Sigue mefUpdate fun _ => Sigue := by
  refine .get_bind fun s0 => .pre (P := En s0.estadoActual) ?_ fun s q h => ?_
  · cases s0.estadoActual with
    | reposo => exact reposo_diagrama
    | esperandoAccion => exact esperandoAccion_diagrama
    | leerYValidarHuella => exact leerYValidarHuella_diagrama
    | validarRfid => exact validarTarjeta_diagrama
    | validar => exact validar_diagrama
    | sensorCierre => exact sensorCierre_diagrama
    | bloqueado => exact .pure fun _ _ h => h.sigue
    | menuAdmin => exact menuAdmin_diagrama
    | registrarRfid => exact registrarRfid_diagrama
    | registrarHuella => exact registrarHuella_diagrama
  · obtain ⟨rfl, hsigue⟩ := h
    exact ⟨rfl, hsigue.symm⟩

theorem principal_diagrama (n : ℕ) :
    Prog.Follows diagrama (En .reposo) (principal n) fun _ => Sigue := by
  induction n with
  | zero => exact mefInit_diagrama
  | succ n ih => exact .bind ih fun _ => mefUpdate_diagrama

end Estados

/-! ## Runs -/

/-- No state leads to BLOQUEADO. -/
theorem no_bloqueado {traza : List MefEv} {q : EstadoMEF} (h : diagrama.Legal q traza) :
    MefEv.estado .bloqueado ∉ traza := by
  intro hmem
  obtain ⟨despues, antes, rfl⟩ := List.append_of_mem hmem
  have hsigue : EstadoMEF.bloqueado ∈ (diagrama.after q antes).siguientes := h.enabled
  revert hsigue
  cases diagrama.after q antes with
  | _ => decide

/-- Every run follows the diagram, from REPOSO on, and takes each action in a state
that is meant for it. After each round the diagram is in the state of the machine.
The machine never goes to BLOQUEADO. -/
theorem diagrama_en_orden (n : ℕ) (inputs : List Sample) :
    diagrama.Legal .reposo (principal n ⟨Mef.inicial, inputs, []⟩).2.trace ∧
      (∀ c, principal n ⟨Mef.inicial, inputs, []⟩ = (some (), c) →
        diagrama.after .reposo c.trace = c.st.estadoActual) ∧
      MefEv.estado .bloqueado ∉ (principal n ⟨Mef.inicial, inputs, []⟩).2.trace := by
  have h0 : En .reposo Mef.inicial .reposo := ⟨rfl, rfl⟩
  have hlegal := (principal_diagrama n).legal_of_nil
    (c := ⟨Mef.inicial, inputs, []⟩) (q := .reposo) h0 rfl
  refine ⟨hlegal, fun c hc => ?_, no_bloqueado hlegal⟩
  obtain ⟨evs, htrace, -, hsigue⟩ :=
    Prog.wp_elim (principal_diagrama n ⟨Mef.inicial, inputs, []⟩ _ h0) hc
  rw [htrace, List.append_nil]
  exact hsigue.symm

end Cerradura
