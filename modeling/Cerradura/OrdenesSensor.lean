import Cerradura.ModuloSensor

/-!
# What the sensor is told to do

Whatever the states of the machine ask of the fingerprint sensor, they ask in an
order that makes sense to it (`lineaSensor`).

Results:

* `sensor_en_orden`: every run follows the protocol, so that a template is only
  stored after the sensor has confirmed two images of the finger, the features of
  both and the model made of them. A search may find something else than the finger
  of its own scan if the administrator has used the sensor in between.
* `memoria_autorizada`: what is stored or deleted is what the last action asks for,
  and no action is carried out twice.
-/

namespace Cerradura

open Reactive Transition

/-! ## The machine -/

/-- What is known of the sensor, given the scan. -/
def ConScan (R : Scan → Modulo → Prop) (s : Mef) (q : Modulo) : Prop := R s.scan q

/-- Between two commands of the menu. -/
abbrev Libre : Mef → Modulo → Prop := ConScan EnEscaneo

theorem esp_ignora (q : Modulo) (e : EspEv) : lineaSensor.Ignores q (.esp e) := ⟨trivial, rfl⟩

theorem rutina_ignora {e : MefEv} (h : e.Rutina) (q : Modulo) : lineaSensor.Ignores q e := by
  cases e with
  | sensor _ | esp _ | teclado _ | uidLeido _ | estado _ | accion _ _ => exact h.elim
  | _ => exact ⟨trivial, rfl⟩

section Maquina

variable {α : Type} {P Q : Mef → Modulo → Prop} {pin : List UInt8} {id : UInt16}

/-- A field that is not the scan. -/
theorem campo_sigue {R : Scan → Modulo → Prop} {f : Mef → Mef} (hf : ∀ s, (f s).scan = s.scan) :
    Prog.Follows lineaSensor (ConScan R) (Prog.modify f : MefProg Unit) fun _ => ConScan R :=
  .modify fun s q h => by
    unfold ConScan
    rw [hf]
    exact h

theorem conTeclado_sigue (m : Prog Teclado Sample TecladoEv α) :
    Prog.Follows lineaSensor Libre (conTeclado m) fun _ => Libre :=
  .zoom_of_ignores (fun _ _ => ⟨trivial, rfl⟩) fun _ _ _ h => h

theorem conEsp_sigue (m : Prog Bool Sample EspEv α)
    (h : ∀ s b q, P s q → P { s with conectado := b } q) :
    Prog.Follows lineaSensor P (conEsp m) fun _ => P :=
  .zoom_of_ignores esp_ignora h

theorem conSensor_sigue {Q : α → Mef → Modulo → Prop} {m : Prog Unit Sample SensorEv α}
    (h : ∀ s0, Prog.Follows enLinea (fun _ q => P s0 q) m fun a _ q => Q a s0 q) :
    Prog.Follows lineaSensor P (conSensor m) Q :=
  .zoom fun s0 => (h s0).pre fun _ _ h => h.2

/-- An action that does not concern the sensor. -/
theorem hacer_sigue {a : Accion}
    (h : ∀ lista q, lineaSensor.next q (.accion lista a) = q.libera) :
    Prog.Follows lineaSensor Libre (hacer a) fun _ => Libre := by
  refine .get_bind fun s0 => .emit fun s q hq => ⟨trivial, ?_⟩
  rw [h, show q.libera = q from if_pos hq.2.1]
  exact hq.2

theorem rutina_sigue {m : MefProg α} (h : Rutina .cerrojo α m) :
    Prog.Follows lineaSensor Libre m fun _ => Libre := by
  cases h with
  | read => exact .read fun _ _ _ h => h
  | get => exact .get
  | emit he =>
    refine .emit fun s q h => ?_
    obtain ⟨henabled, hnext⟩ := rutina_ignora he q
    exact ⟨henabled, hnext.symm ▸ h⟩
  | hacer ha =>
    rcases ha with rfl | rfl
    · exact hacer_sigue fun _ _ => rfl
    · exact hacer_sigue fun _ _ => rfl
  | @irA e he =>
    refine .bind (R := fun _ => Libre) (.emit fun s q h => ⟨trivial, ?_⟩) fun _ =>
      .modify fun _ _ h => h
    cases e with
    | esperandoAccion =>
      rw [show lineaSensor.next q (.estado .esperandoAccion) = q from if_pos h.1]
      exact h
    | _ => exact h
  | modify hf =>
    refine .modify fun s q h => ?_
    unfold Libre ConScan
    rcases (hf s).scan with hscan | hscan
    · rw [hscan]
      exact h
    · rw [hscan]
      exact ⟨h.1, .de_nada (Nat.zero_le _) rfl⟩
  | leerPin timer =>
    refine .bind (conTeclado_sigue _) fun (res, ultimaActividad) => ?_
    dsimp only
    cases res with
    | completo pin =>
      exact .bind (R := fun _ => Libre) (.emit fun _ _ h => ⟨trivial, h⟩) fun _ =>
        .pure fun _ _ h => h
    | menu => exact .pure fun _ _ h => h
    | incompleto => exact .pure fun _ _ h => h
  | leerTecla => exact conTeclado_sigue _
  | tecladoReset => exact conTeclado_sigue _
  | leerRfid =>
    refine .bind (R := fun _ => Libre) (.bind (R := fun _ => Libre) (.read fun _ _ _ h => h)
      fun _ => .pure fun _ _ h => h) fun uid => ?_
    cases uid with
    | none => exact .pure fun _ _ h => h
    | some uid =>
      exact .bind (R := fun _ => Libre) (.emit fun _ _ h => ⟨trivial, h⟩) fun _ =>
        .bind (R := fun _ => Libre) (.modify fun _ _ h => h) fun _ => .pure fun _ _ h => h
  | tiempo => exact conEsp_sigue _ fun _ _ _ h => h
  | inicializar => exact conEsp_sigue _ fun _ _ _ h => h
  | sincronizar => exact .zoom_of_ignores esp_ignora fun _ _ _ h => h

theorem DeRutina.sigue {m : MefProg α} (h : DeRutina .cerrojo m) :
    Prog.Follows lineaSensor Libre m fun _ => Libre :=
  h.follows fun _ _ hm => rutina_sigue hm

theorem escaneo_sigue : Prog.Follows lineaSensor Libre (conScan as608ScanStep) fun _ => Libre :=
  .zoom fun _ => as608ScanStep_sigue.pre fun _ _ h => h.1 ▸ h.2

/-! ### Enrolling and deleting -/

theorem enrolar_sigue : Prog.Follows lineaSensor (ConScan (DeAlta pin id)) (enrolar pin id)
    fun _ => ConScan (DeAlta pin id) := by
  refine .iter (fun _ => ConScan (DeAlta pin id)) (fun intentos => .ite (fun _ => ?_) fun _ =>
    .pure fun _ _ h => h) 0
  refine .bind (R := fun _ => ConScan (EnAlta pin id)) (.get_bind fun s0 => ?_) fun _ => ?_
  · refine .emit fun s q h => ⟨trivial, ?_⟩
    rcases h.2 with hlibre | halta
    · exact ⟨rfl, hlibre.2.cabe, hlibre.2.aMedias⟩
    · refine ⟨rfl, halta.cabe, fun hmedias => ?_⟩
      show (q.imagen || q.char1 || q.enCurso.isSome || q.interrumpido) = true
      rw [halta.interrumpido hmedias, Bool.or_true]
  · refine .bind (conSensor_sigue fun s0 => as608EnrollAtId_sigue) fun r => ?_
    cases r with
    | some idResultado => exact .pure fun _ _ h => h
    | none => exact .pure fun _ _ h => h

/-- Back in ESPERANDO_ACCION the enrolment is over. -/
theorem esperarPin_libera :
    Prog.Follows lineaSensor (ConScan (DeAlta pin id)) esperarPin fun _ => Libre :=
  .bind (.bind (R := fun _ => Libre) (.emit fun _ _ h => ⟨trivial, DeAlta.libera h⟩)
    fun _ => campo_sigue fun _ => rfl) fun _ => (emit_rutina (e := .peticion) trivial).sigue

theorem marcarPresencia_alta :
    Prog.Follows lineaSensor (ConScan (DeAlta pin id)) marcarPresencia
      fun _ => ConScan (DeAlta pin id) :=
  .bind tickRead_follows fun _ => campo_sigue fun _ => rfl

theorem registrarHuella_sigue : Prog.Follows lineaSensor Libre registrarHuella fun _ => Libre := by
  refine .bind (pedirPinValidado_rutina trivial).sigue fun pinValidado =>
    siSigue_follows (fun _ _ h => h) (.bind .get fun s => ?_)
  cases obtenerHuellaAsignadaPorPin s.listaPins pinValidado with
  | none => exact marcarPresencia_rutina.sigue
  | some idHuellaStr =>
    refine .bind (enrolar_sigue.pre fun _ _ h => .inl h) fun r => ?_
    cases r with
    | none => exact .bind marcarPresencia_alta fun _ => esperarPin_libera
    | some idResultado =>
      refine .bind (campo_sigue fun _ => rfl) fun _ =>
        .bind (conEsp_sigue _ fun _ _ _ h => h) fun _ => ?_
      exact .bind esperarPin_libera fun _ => marcarPresencia_rutina.sigue

theorem anuncia_sigue {a : Accion}
    (h : ∀ lista q, lineaSensor.next q (.accion lista a) = q.borra a) :
    Prog.Follows lineaSensor Libre (hacer a) fun _ => ConScan (EnBorrado a) := by
  refine .get_bind fun s0 => .emit fun s q hq => ⟨trivial, ?_⟩
  rw [h]
  exact EnEscaneo.borra hq.2 a

theorem borrarTodas_sigue : Prog.Follows lineaSensor Libre borrarTodas fun _ => Libre := by
  refine .bind (anuncia_sigue fun _ _ => rfl) fun _ =>
    .bind (R := fun _ => Libre) (conSensor_sigue fun _ => as608ClearAllTemplates_sigue) fun ok => ?_
  refine .ite (fun _ => ?_) fun _ => .pure fun _ _ h => h
  exact .bind (campo_sigue fun _ => rfl) fun _ =>
    .bind (conEsp_sigue _ fun _ _ _ h => h) fun _ => .pure fun _ _ h => h

theorem borrarUna_sigue : Prog.Follows lineaSensor Libre borrarUna fun _ => Libre := by
  refine .bind (pedirPin_rutina _).sigue fun pinTarget => .bind .get fun s => ?_
  refine .ite (fun _ => ?_) fun _ => (emit_rutina (e := .noTieneHuella) trivial).sigue
  cases obtenerHuellaAsignadaPorPin s.listaPins (pinTarget.getD []) with
  | none => exact (emit_rutina (e := .noTieneHuella) trivial).sigue
  | some idStr =>
    refine .bind (anuncia_sigue fun _ _ => rfl) fun _ =>
      .bind (R := fun _ => Libre) (conSensor_sigue fun _ => as608DeleteId_sigue) fun ok => ?_
    refine .ite (fun _ => ?_) fun _ => .pure fun _ _ h => h
    exact .bind (campo_sigue fun _ => rfl) fun _ =>
      .bind (conEsp_sigue _ fun _ _ _ h => h) fun _ => .pure fun _ _ h => h

theorem resetWifi_sigue : Prog.Follows lineaSensor Libre resetWifi fun _ => Libre :=
  .bind (hacer_sigue fun _ _ => rfl) fun _ => .bind (conEsp_sigue _ fun _ _ _ h => h) fun _ =>
    .ite (fun _ => .bind (conEsp_sigue _ fun _ _ _ h => h) fun _ => .pure fun _ _ h => h)
      fun _ => .pure fun _ _ h => h

theorem registrarRfid_sigue : Prog.Follows lineaSensor Libre registrarRfid fun _ => Libre := by
  refine .bind (pedirPinValidado_rutina trivial).sigue fun pinValidado =>
    siSigue_follows (fun _ _ h => h) ?_
  refine .bind (pedirTarjeta_rutina trivial).sigue fun _ =>
    siSigue_follows (fun _ _ h => h) (.bind .get fun s => ?_)
  exact .bind (hacer_sigue fun _ _ => rfl) fun _ =>
    .bind (campo_sigue fun _ => rfl) fun _ =>
      .bind (conEsp_sigue _ fun _ _ _ h => h) fun _ => (volverAEsperar_rutina trivial).sigue

theorem libre_conserva : Conserva lineaSensor Libre where
  operacion := fun _ _ h => rutina_sigue h
  escaneo := escaneo_sigue
  resetWifi := resetWifi_sigue
  sincronizar := hacer_sigue fun _ _ => rfl
  borrarTodas := borrarTodas_sigue
  borrarUna := borrarUna_sigue
  registrarRfid := registrarRfid_sigue
  registrarHuella := registrarHuella_sigue

theorem mefInit_sigue : Prog.Follows lineaSensor Libre mefInit fun _ => Libre := by
  refine .bind (conEsp_sigue _ fun _ _ _ h => h) fun _ =>
    .bind (rutina_sigue (.inicializar _)) fun wifiOk => .bind (R := fun _ => Libre) ?_ fun _ => ?_
  · refine .iter (fun _ => Libre) (fun wifiOk => .ite (fun _ => .pure fun _ _ h => h) fun _ => ?_) _
    exact .bind (rutina_sigue (.inicializar _)) fun _ => .pure fun _ _ h => h
  · refine .bind (rutina_sigue .sincronizar) fun _ =>
      .bind (R := fun _ _ q => q.accion = none) ?_ fun _ => ?_
    · exact conSensor_sigue fun _ => as608Init_sigue.pre fun _ _ h => h.1
    · refine .bind (R := fun _ => Libre) (.modify fun s q h => ⟨h, ?_⟩) fun _ =>
        (volverAEsperar_rutina trivial).sigue
      exact .de_nada (Nat.zero_le _) rfl

end Maquina

theorem principal_legal (n : ℕ) (inputs : List Sample) :
    lineaSensor.Legal .inicial (principal n ⟨Mef.inicial, inputs, []⟩).2.trace := by
  have h0 : Libre Mef.inicial .inicial := ⟨rfl, .de_nada (Nat.zero_le _) rfl⟩
  exact (libre_conserva.principal mefInit_sigue n).legal_of_nil h0 rfl

/-! ## The memory of the sensor -/

/-- A command that changes what is stored. -/
def Comando.escribe : Comando → Bool
  | .store _ _ | .deletChar _ _ | .empty => true
  | _ => false

def MefEv.escribe : MefEv → Bool
  | .sensor (.tx frame) => (comando (carga frame)).escribe
  | _ => false

/-- What an action asks of the memory. -/
def Accion.Pide : Accion → Comando → Prop
  | .enrolarHuella _ id, c => c = .store 0x01 id ∧ id ≤ 0x00A3
  | .borrarHuella _ id, c => c = .deletChar id 1
  | .borrarTodasHuellas, c => c = .empty
  | _, _ => False

/-- `a` is the last action, and it has neither written anything yet nor ended. -/
def Pendiente (traza : List MefEv) (a : Accion) : Prop :=
  ∃ desde lista antes, traza = desde ++ .accion lista a :: antes ∧
    ∀ e ∈ desde, e.escribe = false ∧ e ≠ .estado .esperandoAccion ∧ ∀ lista b, e ≠ .accion lista b

/-- Each change of the memory is what the action in progress asks for. -/
def Autorizada (traza : List MefEv) : Prop :=
  ∀ despues frame antes, traza = despues ++ .sensor (.tx frame) :: antes →
    (comando (carga frame)).escribe = true →
    ∃ a, Pendiente antes a ∧ a.Pide (comando (carga frame))

theorem Pendiente.cons {traza : List MefEv} {a : Accion} {e : MefEv} (h : Pendiente traza a)
    (hescribe : e.escribe = false) (hestado : e ≠ .estado .esperandoAccion)
    (haccion : ∀ lista b, e ≠ .accion lista b) : Pendiente (e :: traza) a := by
  obtain ⟨desde, lista, antes, rfl, hdesde⟩ := h
  exact ⟨e :: desde, lista, antes, rfl,
    List.forall_mem_cons.mpr ⟨⟨hescribe, hestado, haccion⟩, hdesde⟩⟩

theorem libera_accion (q : Modulo) : q.libera.accion = none := by
  unfold Modulo.libera
  split
  · assumption
  · rfl

theorem recibe_accion {q : Modulo} {c : Comando} {a : Accion} (h : (q.recibe c).accion = some a) :
    q.accion = some a ∧ c.escribe = false := by
  cases c with
  | getImage =>
    by_cases hq : q.accion = none
    · simp [Modulo.recibe, Modulo.empieza, hq] at h
    · simp [Modulo.recibe, Modulo.empieza, hq] at h
      exact ⟨h, rfl⟩
  | image2Tz slot =>
    by_cases hslot : slot = 0x01
    · simp [Modulo.recibe, Modulo.empieza, hslot] at h
      exact ⟨h, rfl⟩
    · simp [Modulo.recibe, Modulo.empieza, hslot] at h
      exact ⟨h, rfl⟩
  | store buffer page => exact absurd ((libera_accion q).symm.trans h) (Option.some_ne_none a).symm
  | deletChar page n => exact absurd h (Option.some_ne_none a).symm
  | empty => exact absurd h (Option.some_ne_none a).symm
  | regModel | vfyPwd | search buffer | templateCount | otro => exact ⟨h, rfl⟩

/-- Where an action in progress comes from. -/
theorem next_accion {q : Modulo} {e : MefEv} {a : Accion}
    (h : (lineaSensor.next q e).accion = some a) :
    (∃ lista, e = .accion lista a) ∨ q.accion = some a ∧ e.escribe = false ∧
      e ≠ .estado .esperandoAccion ∧ ∀ lista b, e ≠ .accion lista b := by
  have hlibera (h : q.libera.accion = some a) : False :=
    absurd ((libera_accion q).symm.trans h) (Option.some_ne_none a).symm
  cases e with
  | sensor d =>
    cases d with
    | tx frame =>
      obtain ⟨hq, hescribe⟩ := recibe_accion h
      exact .inr ⟨hq, hescribe, nofun, nofun⟩
    | rx b => exact .inr ⟨(responde_gana q b).accion.symm.trans h, rfl, nofun, nofun⟩
  | accion lista b =>
    cases b with
    | enrolarHuella pin id => exact .inl ⟨lista, congrArg _ (Option.some_inj.mp h)⟩
    | borrarHuella pin id => exact .inl ⟨lista, congrArg _ (Option.some_inj.mp h)⟩
    | borrarTodasHuellas => exact .inl ⟨lista, congrArg _ (Option.some_inj.mp h)⟩
    | _ => exact (hlibera h).elim
  | estado e =>
    cases e with
    | esperandoAccion => exact (hlibera h).elim
    | _ => exact .inr ⟨h, rfl, nofun, nofun⟩
  | _ => exact .inr ⟨h, rfl, nofun, nofun⟩

theorem pendiente_de_accion {traza : List MefEv} {a : Accion}
    (h : (lineaSensor.after .inicial traza).accion = some a) : Pendiente traza a := by
  induction traza with
  | nil => exact absurd h (Option.some_ne_none a).symm
  | cons e traza ih =>
    rcases next_accion h with ⟨lista, rfl⟩ | ⟨haccion, hescribe, hestado, hotra⟩
    · exact ⟨[], lista, traza, rfl, fun _ h => absurd h List.not_mem_nil⟩
    · exact (ih haccion).cons hescribe hestado hotra

/-- A command that writes is accepted only for the action that asks for it. -/
theorem Modulo.Acepta.pide {q : Modulo} {c : Comando} (h : q.Acepta c)
    (hescribe : c.escribe = true) : ∃ a, q.accion = some a ∧ a.Pide c := by
  cases c with
  | store buffer page =>
    obtain ⟨rfl, -, hpage, pin, haccion⟩ := h
    exact ⟨_, haccion, rfl, hpage⟩
  | deletChar page n =>
    obtain ⟨rfl, pin, haccion⟩ := h
    exact ⟨_, haccion, rfl⟩
  | empty => exact ⟨_, h, rfl⟩
  | _ => exact absurd hescribe Bool.false_ne_true

/-! ## Runs -/

/-- The memory of the sensor changes only as the last action of the administrator
asks for it, and once at most for each action. -/
theorem memoria_autorizada (n : ℕ) (inputs : List Sample) :
    Autorizada (principal n ⟨Mef.inicial, inputs, []⟩).2.trace := by
  intro despues frame antes htraza hescribe
  have hlegal := principal_legal n inputs
  rw [htraza] at hlegal
  obtain ⟨payload, rfl, hacepta⟩ := hlegal.enabled
  rw [carga_as608Frame] at hescribe ⊢
  obtain ⟨a, haccion, hpide⟩ := hacepta.pide hescribe
  exact ⟨a, pendiente_de_accion haccion, hpide⟩

end Cerradura
