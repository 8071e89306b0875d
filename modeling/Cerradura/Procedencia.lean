import Cerradura.LineaEsp
import Cerradura.Tabla

/-!
# Where the table comes from

Who may open the door is what the table in memory says. `Procede` tells which
tables a history accounts for: the empty one of the start, what the server has
answered to a request for the users, and what the administrator has changed at the
lock, where a fingerprint is entered or erased only after the sensor has confirmed
it. In any run the table of each action, and that of the machine after each round,
is one of these (`tabla_procede`).
-/

namespace Cerradura

open Reactive Transition CText

/-! ## What was said last -/

/-- The last command to the ESP module. -/
def dichoEsp : List MefEv → List UInt8
  | [] => []
  | .esp (.tx s) :: traza => if s = [0x0D, 0x0A] then dichoEsp traza else s
  | _ :: traza => dichoEsp traza

/-- What the module has answered to it. -/
def oidoEsp : List MefEv → List UInt8
  | [] => []
  | .esp (.tx s) :: traza => if s = [0x0D, 0x0A] then oidoEsp traza else []
  | .esp (.rx b) :: traza => oidoEsp traza ++ [b]
  | _ :: traza => oidoEsp traza

/-- The last frame to the fingerprint sensor. -/
def dichoSensor : List MefEv → List UInt8
  | [] => []
  | .sensor (.tx frame) :: _ => frame
  | _ :: traza => dichoSensor traza

/-- What the sensor has answered to it. -/
def oidoSensor : List MefEv → List UInt8
  | [] => []
  | .sensor (.tx _) :: _ => []
  | .sensor (.rx b) :: traza => oidoSensor traza ++ [b]
  | _ :: traza => oidoSensor traza

/-- The sensor has confirmed the command. -/
def Confirmado (payload : List UInt8) (traza : List MefEv) : Prop :=
  dichoSensor traza = as608Frame 0x01 payload ∧
    as608TryParseAck ((oidoSensor traza).take 32) = 0x00

/-- The last card. -/
def ultimaTarjeta : List MefEv → Option (List UInt8)
  | [] => none
  | .uidLeido uid :: _ => some uid
  | _ :: traza => ultimaTarjeta traza

/-! ## Why the table changes -/

/-- What a change of the table is due to. No PIN is ever added. -/
inductive Mutacion.Causa (traza : List MefEv) : Mutacion → Prop
  | sincronizar : dichoEsp traza = httpCGet rutaPins ∨ dichoEsp traza = peticionGet rutaPins →
      Causa traza (.sincronizar (oidoEsp traza))
  | asociarRFID {pin : List UInt8} {uid : Vector UInt8 4} :
      EnMarcha traza (.registrarRfid pin (uidStr uid)) → ultimaTarjeta traza = some (uidStr uid) →
      Causa traza (.asociarRFID pin uid)
  | asociarHuella {pin : List UInt8} {id : UInt16} : EnMarcha traza (.enrolarHuella pin id) →
      Confirmado (0x06 :: 0x01 :: bytesBe id) traza →
      Causa traza (.asociarHuella pin ((sprintf04 id.toNat).take 4))
  | eliminarHuella {pin : List UInt8} {id : UInt16} : EnMarcha traza (.borrarHuella pin id) →
      Confirmado (0x0C :: (bytesBe id ++ bytesBe 1)) traza → Causa traza (.eliminarHuella pin)
  | eliminarTodas : EnMarcha traza .borrarTodasHuellas → Confirmado [0x0D] traza →
      Causa traza .eliminarTodas

/-- The history accounts for the table. -/
inductive Procede : List MefEv → ListaPins → Prop
  | inicial : Procede [] listaPinsInicial
  | suceso {traza : List MefEv} {lista : ListaPins} (e : MefEv) : Procede traza lista →
      Procede (e :: traza) lista
  | muta {traza : List MefEv} {lista : ListaPins} {m : Mutacion} : Procede traza lista →
      m.Causa traza → Procede traza (lista.aplica m)

/-- The table of the machine is accounted for. -/
def Justificada (s : Mef) (traza : List MefEv) : Prop := Procede traza s.listaPins

/-- The table with which an action is taken is accounted for. -/
def MefEv.Cuadra (antes : List MefEv) : MefEv → Prop
  | .accion lista _ => Procede antes lista
  | _ => True

/-- The history, with that demand on it. -/
abbrev diario : Machine (List MefEv) MefEv := Machine.log MefEv.Cuadra

/-! ## The fingerprint sensor -/

section Sensor

variable {σ α : Type} {P : List MefEv → Prop}

/-- Along the history, for the driver of the sensor. -/
abbrev enSensor : Machine (List MefEv) SensorEv := diario.comap .sensor

/-- A statement that no traffic with the sensor changes. -/
def SinSensor (P : List MefEv → Prop) : Prop := ∀ traza e, P traza → P (.sensor e :: traza)

/-- What the sensor says is added to its answer. -/
theorem oidoSensor_rxTrace (bs : List UInt8) (traza : List MefEv) :
    dichoSensor ((rxTrace bs).map .sensor ++ traza) = dichoSensor traza ∧
      oidoSensor ((rxTrace bs).map .sensor ++ traza) = oidoSensor traza ++ bs := by
  induction bs using List.reverseRecOn with
  | nil => exact ⟨rfl, (List.append_nil _).symm⟩
  | append_singleton bs b ih =>
    rw [rxTrace_concat, ← List.append_assoc, ← ih.2]
    exact ⟨ih.1, rfl⟩

theorem as608FlushRx_oye (hP : SinSensor P) (ms : UInt32) :
    Prog.Follows enSensor (fun _ => P) (as608FlushRx ms : Prog σ Sample SensorEv Unit)
      fun _ _ => P :=
  as608FlushRx_follows (fun _ _ => trivial) (fun _ traza b => hP traza (.rx b)) ms

/-- What is received is what the sensor has said since the last frame, but for the
bytes that do not fit. -/
theorem as608Recv_oye (hP : SinSensor P) (frame : List UInt8) (maxLen : ℕ) (timeoutMs : UInt32) :
    Prog.Follows enSensor
      (fun _ traza => P traza ∧ dichoSensor traza = frame ∧ oidoSensor traza = [])
      (as608Recv maxLen timeoutMs : Prog σ Sample SensorEv (List UInt8))
      fun resp _ traza => P traza ∧ dichoSensor traza = frame ∧
        (oidoSensor traza).take maxLen = resp := by
  refine as608Recv_follows (fun _ _ => trivial) (fun _ traza bs h => ?_) timeoutMs
  obtain ⟨hP', hdicho, hoido⟩ := h
  refine ⟨Machine.after_keeps (fun traza e _ => hP traza e) hP', ?_⟩
  rw [← Machine.after_map, Machine.after_log]
  obtain ⟨hdicho', hoido'⟩ := oidoSensor_rxTrace bs traza
  rw [hdicho', hoido', hoido]
  exact ⟨hdicho, rfl⟩

/-- The code of a command is in the answer to it. -/
theorem as608CmdAck_oye (hP : SinSensor P) {instr : UInt8} {extra : List UInt8}
    {timeoutMs flushMs : UInt32} : Prog.Follows enSensor (fun _ => P)
      (as608CmdAck instr extra timeoutMs flushMs : Prog σ Sample SensorEv UInt8)
      fun code _ traza => P traza ∧
        (code = 0x00 → Confirmado (instr :: extra.take 7) traza) := by
  refine .bind (as608FlushRx_oye hP flushMs) fun _ => .bind (R := fun _ _ traza => P traza ∧
    dichoSensor traza = as608Frame 0x01 (instr :: extra.take 7) ∧ oidoSensor traza = [])
      (.emit fun _ traza h => ⟨trivial, hP traza _ h, rfl, rfl⟩) fun _ => ?_
  refine .bind (as608Recv_oye hP _ 32 timeoutMs) fun resp => .pure fun _ traza h => ?_
  obtain ⟨hP', hdicho, rfl⟩ := h
  exact ⟨hP', fun hcode => ⟨hdicho, hcode⟩⟩

theorem as608ClearAllTemplates_oye (hP : SinSensor P) :
    Prog.Follows enSensor (fun _ => P) (as608ClearAllTemplates : Prog σ Sample SensorEv Bool)
      fun ok _ traza => P traza ∧ (ok = true → Confirmado [0x0D] traza) :=
  .bind (as608CmdAck_oye hP) fun _ => .pure fun _ _ h =>
    ⟨h.1, fun hok => h.2 (of_decide_eq_true hok)⟩

theorem as608DeleteId_oye (hP : SinSensor P) (id : UInt16) :
    Prog.Follows enSensor (fun _ => P) (as608DeleteId id : Prog σ Sample SensorEv Bool)
      fun ok _ traza => P traza ∧
        (ok = true → Confirmado (0x0C :: (bytesBe id ++ bytesBe 1)) traza) :=
  .bind (as608CmdAck_oye hP) fun _ => .pure fun _ _ h =>
    ⟨h.1, fun hok => h.2 (of_decide_eq_true hok)⟩

theorem as608EnrollCapture_oye (hP : SinSensor P) (slot : UInt8) :
    Prog.Follows enSensor (fun _ => P) (as608EnrollCapture slot : Prog σ Sample SensorEv Bool)
      fun _ _ => P := by
  refine .bind (as608FlushRx_oye hP 50) fun _ => .bind tickRead_follows fun t =>
    .iter (fun _ _ => P) (fun lastAttempt => ?_) _
  refine .bind tickRead_follows fun now => .ite (fun _ => ?_) fun _ => .pure fun _ _ h => h
  refine .bind tickRead_follows fun now => .ite (fun _ => .pure fun _ _ h => h) fun _ => ?_
  refine .bind tickRead_follows fun _ => .bind (as608FlushRx_oye hP 10) fun _ =>
    .bind (as608CmdAck_oye hP) fun r => .ite (fun _ => ?_) fun _ => .pure fun _ _ h => h.1
  refine .pre (.bind (as608FlushRx_oye hP 20) fun _ => .bind (as608CmdAck_oye hP) fun tz => ?_)
    fun _ _ h => h.1
  exact .pure fun _ _ h => h.1

/-- The id is given back when the sensor has confirmed that it is stored. -/
theorem as608EnrollAtId_oye (hP : SinSensor P) (id : UInt16) :
    Prog.Follows enSensor (fun _ => P) (as608EnrollAtId id : Prog σ Sample SensorEv _)
      fun r _ traza => P traza ∧ ∀ idOut, r = some idOut →
        idOut = (sprintf04 id.toNat).take 4 ∧ Confirmado (0x06 :: 0x01 :: bytesBe id) traza := by
  have hno : Prog.Follows enSensor (fun _ => P)
      (pure none : Prog σ Sample SensorEv (Option (List UInt8))) fun r _ traza => P traza ∧
        ∀ idOut, r = some idOut → idOut = (sprintf04 id.toNat).take 4 ∧
          Confirmado (0x06 :: 0x01 :: bytesBe id) traza := .pure fun _ _ h => ⟨h, nofun⟩
  refine .bind (as608FlushRx_oye hP 100) fun _ => .bind (as608EnrollCapture_oye hP _) fun ok1 =>
    .ite (fun _ => hno) fun _ => ?_
  refine .bind (as608FlushRx_oye hP 50) fun _ => .bind (as608EnrollCapture_oye hP _) fun ok2 =>
    .ite (fun _ => hno) fun _ => ?_
  refine .bind (as608CmdAck_oye hP) fun r => .pre (.ite (fun _ => hno) fun _ =>
    .ite (fun _ => hno) fun _ => ?_) fun _ _ h => h.1
  refine .bind (as608CmdAck_oye hP) fun r => .ite (fun _ => hno.pre fun _ _ h => h.1) fun hr => ?_
  refine .pure fun _ traza h => ⟨h.1, ?_⟩
  rintro _ ⟨⟩
  exact ⟨rfl, h.2 (not_not.mp hr)⟩

end Sensor

/-! ## The answers of the server -/

section Red

variable {σ α : Type} {P : σ → List MefEv → Prop}

/-- Along the history, for espAT.c. -/
abbrev enRed : Machine (List MefEv) EspEv := diario.comap .esp

/-- A statement that no traffic with the module changes. -/
def SinRed (P : σ → List MefEv → Prop) : Prop := ∀ s traza e, P s traza → P s (.esp e :: traza)

theorem oidoEsp_tramaComando {cmd : List UInt8} (hcmd : cmd ≠ [0x0D, 0x0A]) (resp : List UInt8)
    (traza : List MefEv) : dichoEsp ((tramaComando cmd resp).map .esp ++ traza) = cmd ∧
      oidoEsp ((tramaComando cmd resp).map .esp ++ traza) = resp := by
  induction resp using List.reverseRecOn with
  | nil =>
    show (if cmd = [0x0D, 0x0A] then _ else _) = _ ∧ (if cmd = [0x0D, 0x0A] then _ else _) = _
    rw [if_neg hcmd, if_neg hcmd]
    exact ⟨rfl, rfl⟩
  | append_singleton resp b ih =>
    have hmas : tramaComando cmd (resp ++ [b]) = .rx b :: tramaComando cmd resp := by
      unfold tramaComando
      rw [List.reverse_concat, List.map_cons, List.cons_append]
    rw [hmas]
    exact ⟨ih.1, congrArg (· ++ [b]) ih.2⟩

/-- The answer is what the module has said since the command. -/
theorem enviarComandoAT_oye (hP : SinRed P) {cmd : List UInt8} (hcmd : cmd ≠ [0x0D, 0x0A])
    {maxLen : ℕ} (hmax : 2 ≤ maxLen) (timeoutMs : UInt32) :
    Prog.Follows enRed P (enviarComandoAT cmd maxLen timeoutMs) fun resp s traza =>
      P s traza ∧ dichoEsp traza = cmd ∧ oidoEsp traza = resp := by
  refine enviarComandoAT_follows hmax (fun s traza resp h => ?_) timeoutMs
  refine ⟨Machine.legal_of_enabled fun _ _ _ => trivial,
    Machine.after_keeps (fun traza e _ => hP s traza e) h, ?_⟩
  rw [← Machine.after_map, Machine.after_log]
  exact oidoEsp_tramaComando hcmd resp traza

/-- Neither the commands nor the requests are an end of line. -/
theorem append_ne_crlf {s : List UInt8} (h : 3 ≤ s.length) (s' : List UInt8) :
    s ++ s' ≠ [0x0D, 0x0A] := by
  intro heq
  have hlen := congrArg List.length heq
  rw [List.length_append] at hlen
  have htwo : [(0x0D : UInt8), 0x0A].length = 2 := rfl
  omega

/-- What is given back is the answer to the request, however it was made. -/
theorem espHTTPGetViaAT_oye (hP : SinRed P) (path : List UInt8) {n : ℕ} (hn : 2 ≤ n) :
    Prog.Follows enRed P (espHTTPGetViaAT path n) fun r s traza => P s traza ∧
      ∀ resp, r = some resp → oidoEsp traza = resp ∧
        (dichoEsp traza = httpCGet path ∨ dichoEsp traza = peticionGet path) := by
  have hno : Prog.Follows enRed P (pure none : Prog σ Sample EspEv (Option (List UInt8)))
      fun r s traza => P s traza ∧ ∀ resp, r = some resp → oidoEsp traza = resp ∧
        (dichoEsp traza = httpCGet path ∨ dichoEsp traza = peticionGet path) :=
    .pure fun _ _ h => ⟨h, nofun⟩
  have hget : httpCGet path ≠ [0x0D, 0x0A] := by
    unfold httpCGet
    simp only [List.append_assoc]
    exact append_ne_crlf (by decide) _
  have hraw : peticionGet path ≠ [0x0D, 0x0A] := by
    unfold peticionGet
    simp only [List.append_assoc]
    exact append_ne_crlf (by decide) _
  have hstart : cipStart ≠ [0x0D, 0x0A] := by decide
  refine .bind (enviarComandoAT_oye hP hget hn 10000) fun resp => .ite (fun _ => ?_) fun _ => ?_
  · refine .pure fun s traza h => ⟨h.1, ?_⟩
    rintro _ ⟨⟩
    exact ⟨h.2.2, .inl h.2.1⟩
  refine .pre (.bind (enviarComandoAT_oye hP (by decide) (by decide) 500) fun _ => ?_)
    fun _ _ h => h.1
  refine .pre (.bind (enviarComandoAT_oye hP hstart (by decide) 15000) fun aux => ?_)
    fun _ _ h => h.1
  refine .pre (.ite (fun _ => hno) fun _ => ?_) fun _ _ h => h.1
  refine .bind (enviarComandoAT_oye hP (append_ne_crlf (by decide) _) (by decide) 2000)
    fun aux => .pre (.ite (fun _ => hno) fun _ => ?_) fun _ _ h => h.1
  refine .bind (enviarComandoAT_oye hP hraw hn 5000) fun resp => .ite (fun _ => ?_) fun _ =>
    hno.pre fun _ _ h => h.1
  refine .pure fun s traza h => ⟨h.1, ?_⟩
  rintro _ ⟨⟩
  exact ⟨h.2.2, .inr h.2.1⟩

/-- The table becomes what the answer says. -/
theorem sincronizarConServidor_oye :
    Prog.Follows enRed (fun lista traza => Procede traza lista) sincronizarConServidor
      fun _ lista traza => Procede traza lista := by
  have hP : SinRed fun (lista : ListaPins) traza => Procede traza lista :=
    fun _ _ e h => .suceso (.esp e) h
  refine .bind (R := fun usuarios lista traza => Procede traza lista ∧
    (0 < usuarios.length → Procede traza (actualizarBaseDeDatos usuarios))) ?_ fun usuarios =>
      .ite (fun hlen => ?_) fun _ => .pure fun _ _ h => h.1
  · refine .bind (espHTTPGetViaAT_oye hP rutaPins (by decide)) fun r => ?_
    cases r with
    | none => exact .pure fun _ _ h => ⟨h.1, fun hlen => absurd hlen (Nat.lt_irrefl 0)⟩
    | some httpResp =>
      refine .pure fun lista traza h => ⟨h.1, fun hlen => ?_⟩
      obtain ⟨rfl, hdicho⟩ := h.2 httpResp rfl
      have haplica : lista.aplica (.sincronizar (oidoEsp traza)) = _ := if_pos hlen
      exact haplica ▸ .muta h.1 (.sincronizar hdicho)
  · exact .bind (R := fun _ lista traza => Procede traza lista)
      (.modify fun _ _ h => h.2 hlen) fun _ => .pure fun _ _ h => h

end Red

/-! ## The machine -/

section Maquina

variable {α : Type} {P : Mef → List MefEv → Prop}

theorem conTeclado_justifica (m : Prog Teclado Sample TecladoEv α) :
    Prog.Follows diario Justificada (conTeclado m) fun _ => Justificada :=
  .zoom_log (fun _ _ => trivial) (fun _ _ _ h => h) fun _ _ _ h => .suceso _ h

theorem conEsp_justifica (m : Prog Bool Sample EspEv α) :
    Prog.Follows diario Justificada (conEsp m) fun _ => Justificada :=
  .zoom_log (fun _ _ => trivial) (fun _ _ _ h => h) fun _ _ _ h => .suceso _ h

theorem conScan_justifica (m : Prog Scan Sample SensorEv α) :
    Prog.Follows diario Justificada (conScan m) fun _ => Justificada :=
  .zoom_log (fun _ _ => trivial) (fun _ _ _ h => h) fun _ _ _ h => .suceso _ h

theorem emit_justifica {e : MefEv} (he : ∀ antes, e.Cuadra antes) :
    Prog.Follows diario Justificada (Prog.emit e : MefProg Unit) fun _ => Justificada :=
  .emit fun _ antes h => ⟨he antes, .suceso e h⟩

theorem MefEv.Rutina.cuadra {e : MefEv} (h : e.Rutina) (antes : List MefEv) : e.Cuadra antes := by
  cases e with
  | accion => exact h.elim
  | _ => exact trivial

/-- An action, which is from now on the one in progress. -/
theorem hacer_justifica (a : Accion) : Prog.Follows diario Justificada (hacer a)
    fun _ s traza => Justificada s traza ∧ EnMarcha traza a :=
  .get_bind fun s => .emit fun _ traza h => ⟨h.1 ▸ h.2, .suceso _ h.2, [], s.listaPins, traza, rfl,
    fun _ h => absurd h List.not_mem_nil⟩

theorem rutina_justifica {m : MefProg α} (h : Rutina .cerrojo α m) :
    Prog.Follows diario Justificada m fun _ => Justificada := by
  cases h with
  | read => exact .read fun _ _ _ h => h
  | get => exact .get
  | emit he => exact emit_justifica he.cuadra
  | hacer _ => exact (hacer_justifica _).post fun _ _ _ h => h.1
  | irA _ =>
    exact .bind (R := fun _ => Justificada) (emit_justifica fun _ => trivial) fun _ =>
      .modify fun _ _ h => h
  | modify hf =>
    refine .modify fun s traza h => ?_
    unfold Justificada
    rw [(hf s).lista]
    exact h
  | leerPin timer =>
    refine .bind (conTeclado_justifica _) fun (res, ultimaActividad) => ?_
    dsimp only
    cases res with
    | completo pin => exact .bind (emit_justifica fun _ => trivial) fun _ => .pure fun _ _ h => h
    | menu => exact .pure fun _ _ h => h
    | incompleto => exact .pure fun _ _ h => h
  | leerTecla => exact conTeclado_justifica _
  | tecladoReset => exact conTeclado_justifica _
  | leerRfid =>
    refine .bind (R := fun _ => Justificada) (.bind (R := fun _ => Justificada)
      (.read fun _ _ _ h => h) fun _ => .pure fun _ _ h => h) fun uid => ?_
    cases uid with
    | none => exact .pure fun _ _ h => h
    | some uid =>
      exact .bind (emit_justifica fun _ => trivial) fun _ => .bind (R := fun _ => Justificada)
        (.modify fun _ _ h => h) fun _ => .pure fun _ _ h => h
  | tiempo => exact conEsp_justifica _
  | inicializar => exact conEsp_justifica _
  | sincronizar =>
    exact .zoom fun s0 => sincronizarConServidor_oye.pre fun _ _ h => h.1 ▸ h.2

theorem DeRutina.justifica {m : MefProg α} (h : DeRutina .cerrojo m) :
    Prog.Follows diario Justificada m fun _ => Justificada :=
  h.follows fun _ _ hm => rutina_justifica hm

/-! ### The changes of the administrator -/

/-- The table is accounted for, and the action goes on. -/
def Cambiando (a : Accion) (s : Mef) (traza : List MefEv) : Prop :=
  Justificada s traza ∧ EnMarcha traza a

theorem conSensor_cambia {a : Accion} {m : Prog Unit Sample SensorEv α}
    {Q : α → List MefEv → Prop} (h : ∀ P, SinSensor P → Prog.Follows enSensor (fun _ => P) m
      fun r _ traza => P traza ∧ Q r traza) :
    Prog.Follows diario (Cambiando a) (conSensor m)
      fun r s traza => Cambiando a s traza ∧ Q r traza := by
  refine .zoom fun s0 => (h (Cambiando a s0) fun traza e hP => ?_).pre fun _ _ h => h.2
  exact ⟨.suceso _ hP.1, hP.2.cons (by simp) (by simp)⟩

/-- The change, and the request that tells the server of it. -/
theorem cambia_justifica {f : Mef → ListaPins} {m : Prog Bool Sample EspEv α}
    (h : ∀ s traza, P s traza → Procede traza (f s)) :
    Prog.Follows diario P (do
      Prog.modify fun s => { s with listaPins := f s }
      let _ ← conEsp m) fun _ => Justificada :=
  .bind (R := fun _ => Justificada) (.modify fun s traza hP => h s traza hP) fun _ =>
    .bind (conEsp_justifica _) fun _ => .pure fun _ _ h => h

theorem borrarTodas_justifica :
    Prog.Follows diario Justificada borrarTodas fun _ => Justificada := by
  refine .bind (hacer_justifica _) fun _ => .bind (conSensor_cambia fun P hP =>
    as608ClearAllTemplates_oye hP) fun ok => .ite (fun hok => ?_) fun _ => .pure fun _ _ h => h.1.1
  exact cambia_justifica fun s traza h => .muta h.1.1 (.eliminarTodas h.1.2 (h.2 hok))

theorem borrarUna_justifica :
    Prog.Follows diario Justificada borrarUna fun _ => Justificada := by
  refine .bind (pedirPin_rutina _).justifica fun pinTarget => .bind .get fun s =>
    .ite (fun _ => ?_) fun _ => emit_justifica fun _ => trivial
  cases obtenerHuellaAsignadaPorPin s.listaPins (pinTarget.getD []) with
  | none => exact emit_justifica fun _ => trivial
  | some idStr =>
    refine .bind (hacer_justifica _) fun _ => .bind (conSensor_cambia fun P hP =>
      as608DeleteId_oye hP _) fun ok => .ite (fun hok => ?_) fun _ => .pure fun _ _ h => h.1.1
    exact cambia_justifica fun s traza h => .muta h.1.1 (.eliminarHuella h.1.2 (h.2 hok))

theorem volverAEsperar_justifica : Prog.Follows diario Justificada volverAEsperar
    fun _ s traza => Justificada s traza ∧ s.estadoActual = .esperandoAccion := by
  refine .bind marcarPresencia_rutina.justifica fun _ => .bind (R := fun _ s traza =>
    Justificada s traza ∧ s.estadoActual = .esperandoAccion) ?_ fun _ =>
      .emit fun _ _ h => ⟨trivial, .suceso _ h.1, h.2⟩
  exact .bind (emit_justifica fun _ => trivial) fun _ => .modify fun _ _ h => ⟨h, rfl⟩

/-- The card that was waited for, unless the time was up. -/
theorem pedirTarjeta_justifica : Prog.Follows diario Justificada pedirTarjeta
    fun _ s traza => Justificada s traza ∧ (s.estadoActual = .esperandoAccion ∨
      ∃ uid, s.rfid = uidStr uid ∧ ultimaTarjeta traza = some (uidStr uid)) := by
  refine .bind tickRead_rutina.justifica fun t => ?_
  dsimp only
  generalize TimeTest.tarjeta.keep t = timer
  refine .iter (fun _ => Justificada) (fun _ => ?_) ()
  refine .bind (R := fun ok s traza => Justificada s traza ∧ (ok = true →
    ∃ uid, s.rfid = uidStr uid ∧ ultimaTarjeta traza = some (uidStr uid))) ?_ fun ok => ?_
  · refine .bind (R := fun r s traza =>
        Justificada s traza ∧ ∀ u, r = some u → ∃ uid, u = uidStr uid)
      (.bind (R := fun _ => Justificada) (.read fun _ _ _ h => h) fun m => .pure fun _ _ h =>
        ⟨h, fun u hu => ?_⟩) fun r => ?_
    · obtain ⟨uid, -, rfl⟩ := Option.map_eq_some_iff.mp hu
      exact ⟨uid, rfl⟩
    cases r with
    | none => exact .pure fun _ _ h => ⟨h.1, fun hok => absurd hok Bool.false_ne_true⟩
    | some u =>
      refine .bind (R := fun _ s traza => Justificada s traza ∧ ultimaTarjeta traza = some u ∧
        ∃ uid, u = uidStr uid) (.emit fun _ _ h => ⟨trivial, .suceso _ h.1, rfl, h.2 u rfl⟩)
          fun _ => .bind (R := fun _ s traza => Justificada s traza ∧
            ∃ uid, s.rfid = uidStr uid ∧ ultimaTarjeta traza = some (uidStr uid))
              (.modify fun s traza h => ⟨h.1, ?_⟩) fun _ => .pure fun _ _ h => ⟨h.1, fun _ => h.2⟩
      obtain ⟨hultima, uid, rfl⟩ := h.2
      exact ⟨uid, rfl, hultima⟩
  · refine .ite (fun hok => .pure fun _ _ h => ⟨h.1, .inr (h.2 hok)⟩) fun _ => .pre
      (.bind tickRead_rutina.justifica fun _ => .ite (fun _ => ?_) fun _ => .pure fun _ _ h => h)
        fun _ _ h => h.1
    exact .bind volverAEsperar_justifica fun _ => .pure fun _ _ h => ⟨h.1, .inl h.2⟩

theorem registrarRfid_justifica :
    Prog.Follows diario Justificada registrarRfid fun _ => Justificada := by
  refine .bind (pedirPinValidado_rutina trivial).justifica fun pin =>
    siSigue_follows (fun _ _ h => h) ?_
  refine .bind pedirTarjeta_justifica fun _ => .get_bind fun s0 =>
    .ite (fun _ => .pure fun _ _ h => h.2.1) fun hsigue => .get_bind fun s1 => ?_
  -- the card is still the last one that was read when the action is announced
  refine .bind (R := fun _ (s : Mef) traza => Procede traza
    (asociarRFIDaPin s.listaPins pin (.copy 19 s.rfid)).2) (.get_bind fun s2 => .emit
      fun s traza h => ?_) fun _ => .bind (R := fun _ => Justificada)
        (.modify fun _ _ h => h) fun _ => .bind (conEsp_justifica _) fun _ =>
          (volverAEsperar_rutina trivial).justifica
  obtain ⟨rfl, rfl, rfl, hjustificada, htarjeta⟩ := h
  obtain ⟨uid, hrfid, hultima⟩ := htarjeta.resolve_left hsigue
  refine ⟨hjustificada, ?_⟩
  rw [hrfid]
  exact .muta (.suceso _ hjustificada) (.asociarRFID ⟨[], _, _, rfl,
    fun _ h => absurd h List.not_mem_nil⟩ hultima)

theorem enrolar_justifica (pin : List UInt8) (id : UInt16) :
    Prog.Follows diario Justificada (enrolar pin id) fun r s traza =>
      Justificada s traza ∧ ∀ idOut, r = some idOut →
        Procede traza (asociarHuellaaPin s.listaPins pin idOut).2 := by
  refine .iter (fun _ => Justificada) (fun intentos => ?_) 0
  refine .ite (fun _ => ?_) fun _ => .pure fun _ _ h => ⟨h, nofun⟩
  refine .bind (hacer_justifica _) fun _ => .bind (conSensor_cambia fun P hP =>
    as608EnrollAtId_oye hP id) fun r => ?_
  cases r with
  | none => exact .pure fun _ _ h => h.1.1
  | some idResultado =>
    refine .pure fun s traza h => ⟨h.1.1, ?_⟩
    rintro _ ⟨⟩
    obtain ⟨rfl, hconfirmado⟩ := h.2 _ rfl
    exact .muta h.1.1 (.asociarHuella h.1.2 hconfirmado)

theorem registrarHuella_justifica :
    Prog.Follows diario Justificada registrarHuella fun _ => Justificada := by
  refine .bind (pedirPinValidado_rutina trivial).justifica fun pin =>
    siSigue_follows (fun _ _ h => h) (.bind .get fun s => ?_)
  cases obtenerHuellaAsignadaPorPin s.listaPins pin with
  | none => exact marcarPresencia_rutina.justifica
  | some idHuellaStr =>
    refine .bind (enrolar_justifica pin _) fun r => ?_
    cases r with
    | none => exact (volverAEsperar_rutina trivial).justifica.pre fun _ _ h => h.1
    | some idResultado =>
      refine .bind (R := fun _ => Justificada) (.modify fun _ _ h => h.2 _ rfl) fun _ =>
        .bind (conEsp_justifica _) fun _ => ?_
      exact .bind (esperarPin_rutina trivial).justifica fun _ => marcarPresencia_rutina.justifica

theorem resetWifi_justifica :
    Prog.Follows diario Justificada resetWifi fun _ => Justificada := by
  refine .bind ((hacer_justifica _).post fun _ _ _ h => h.1) fun _ =>
    .bind (conEsp_justifica _) fun _ => .ite (fun _ => ?_) fun _ => .pure fun _ _ h => h
  exact .bind (conEsp_justifica _) fun _ => .pure fun _ _ h => h

theorem justificada_conserva : Conserva diario Justificada where
  operacion := fun _ _ h => rutina_justifica h
  escaneo := conScan_justifica _
  resetWifi := resetWifi_justifica
  sincronizar := (hacer_justifica _).post fun _ _ _ h => h.1
  borrarTodas := borrarTodas_justifica
  borrarUna := borrarUna_justifica
  registrarRfid := registrarRfid_justifica
  registrarHuella := registrarHuella_justifica

theorem mefInit_justifica :
    Prog.Follows diario (fun s traza => s = .inicial ∧ traza = []) mefInit
      fun _ => Justificada := by
  have hinicial : ∀ (s : Mef) (traza : List MefEv), s = .inicial ∧ traza = [] →
      Justificada s traza := by
    rintro _ _ ⟨rfl, rfl⟩
    exact .inicial
  have hsensor {m : Prog Unit Sample SensorEv Unit} :
      Prog.Follows diario Justificada (conSensor m) fun _ => Justificada :=
    .zoom_log (fun _ _ => trivial) (fun _ _ _ h => h) fun _ _ _ h => .suceso _ h
  refine .pre (.bind (conEsp_justifica _) fun _ => .bind (conEsp_justifica _) fun wifiOk =>
    .bind (R := fun _ => Justificada) ?_ fun _ => ?_) hinicial
  · refine .iter (fun _ => Justificada) (fun wifiOk => .ite (fun _ => .pure fun _ _ h => h)
      fun _ => ?_) _
    exact .bind (conEsp_justifica _) fun _ => .pure fun _ _ h => h
  · exact .bind (rutina_justifica .sincronizar) fun _ => .bind hsensor fun _ =>
      .bind (R := fun _ => Justificada) (.modify fun _ _ h => h) fun _ =>
        (volverAEsperar_rutina trivial).justifica

end Maquina

theorem principal_justifica (n : ℕ) : Prog.Follows diario
    (fun s traza => s = .inicial ∧ traza = []) (principal n) fun _ => Justificada :=
  justificada_conserva.principal mefInit_justifica n

theorem accion_procede {n : ℕ} {inputs : List Sample} {despues antes : List MefEv}
    {lista : ListaPins} {a : Accion}
    (h : (principal n ⟨Mef.inicial, inputs, []⟩).2.trace = despues ++ .accion lista a :: antes) :
    Procede antes lista := by
  have hlegal : diario.Legal [] (principal n ⟨Mef.inicial, inputs, []⟩).2.trace :=
    (principal_justifica n).legal_of_nil ⟨rfl, rfl⟩ rfl
  rw [h] at hlegal
  have hcuadra : Procede (diario.after [] antes) lista := hlegal.enabled
  rwa [Machine.after_log, List.append_nil] at hcuadra

/-- In any run the history accounts for the table with which each action is taken,
and after each round for that of the machine. -/
theorem tabla_procede (n : ℕ) (inputs : List Sample) :
    (∀ despues lista a antes,
      (principal n ⟨Mef.inicial, inputs, []⟩).2.trace = despues ++ .accion lista a :: antes →
        Procede antes lista) ∧
      ∀ c, principal n ⟨Mef.inicial, inputs, []⟩ = (some (), c) →
        Procede c.trace c.st.listaPins := by
  refine ⟨fun despues lista a antes htraza => accion_procede htraza, fun c hc => ?_⟩
  obtain ⟨evs, htrace, -, hprocede⟩ :=
    Prog.wp_elim (principal_justifica n ⟨Mef.inicial, inputs, []⟩ [] ⟨rfl, rfl⟩) hc
  rw [htrace]
  rwa [Machine.after_log] at hprocede

end Cerradura
