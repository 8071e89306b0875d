import Cerradura.As608Enroll
import Cerradura.Sync
import Cerradura.Teclado

/-!
# The main state machine

`mefInit` and `mefUpdate` of MEF.c over the drivers. Each driver runs on its own
part of the state. Of the display only the prompts for a PIN are modelled. The
trace keeps what crosses the border of the firmware (keys, cards, the two serial
lines, the bolt) and the steps of the machine itself.
-/

namespace Cerradura

open Reactive

/-! ## State and events -/

/-- `EstadoMEF_t` -/
inductive EstadoMEF
  | reposo
  | esperandoAccion
  | leerYValidarHuella
  | validarRfid
  | validar
  | sensorCierre
  | bloqueado
  | menuAdmin
  | registrarRfid
  | registrarHuella
deriving DecidableEq, Repr

/-- The global variables of the firmware. -/
structure Mef where
  estadoActual : EstadoMEF
  pinIngresado : List UInt8
  intentosFallidos : ℕ
  ultimaPresencia : ℤ
  ultimaVersionConocida : ℚ
  rfid : List UInt8
  agendaHuella : ℤ
  escaneoActivo : Bool
  eventoPresencia : Bool
  teclado : Teclado
  listaPins : ListaPins
  scan : Scan
  conectado : Bool

/-- After the reset. The scan machine is all zeros. -/
def Mef.inicial : Mef where
  estadoActual := .reposo
  pinIngresado := []
  intentosFallidos := 0
  ultimaPresencia := 0
  ultimaVersionConocida := 0
  rfid := []
  agendaHuella := 0
  escaneoActivo := false
  eventoPresencia := false
  teclado := .inicial
  listaPins := listaPinsInicial
  scan := { as608ScanReset with st := .idle }
  conectado := false

/-- What the firmware does with the bolt, the credentials and the table. -/
inductive Accion
  | abrirCerradura
  | cerrarCerradura
  | registrarRfid (pin rfid : List UInt8)
  | enrolarHuella (pin : List UInt8) (id : UInt16)
  | borrarHuella (pin : List UInt8) (id : UInt16)
  | borrarTodasHuellas
  | resetWifi
  | sincronizar
deriving DecidableEq, Repr

inductive MefEv
  | teclado (e : TecladoEv)
  | sensor (e : SensorEv)
  | esp (e : EspEv)
  | pinLeido (pin : List UInt8) -- tecladoLeerPin returned 1
  | uidLeido (uid : List UInt8) -- leer_rfid_str returned true
  | huellaLeida (id : UInt16) -- as608ScanStep returned AS608_SCAN_MATCH
  | pinMaster (lista : ListaPins) (pin : List UInt8) -- esPinMaster returned true
  | peticion -- the display asks for a PIN, and a new prompt begins
  | vencida (pendientes : List UInt8) -- a request timed out, with these digits in the buffer
  | estado (e : EstadoMEF) -- an assignment to estadoActual
  | alertaIntruso
  | accion (lista : ListaPins) (a : Accion) -- with the table at that moment
  | noTieneHuella -- the error of the deletion
deriving DecidableEq

abbrev MefProg (α : Type) : Type := Prog Mef Sample MefEv α

/-! ## The parts of the state -/

/-- A driver of the keypad. -/
def conTeclado {α : Type} (m : Prog Teclado Sample TecladoEv α) : MefProg α :=
  Prog.zoom (·.teclado) (fun t s => { s with teclado := t }) .teclado m

def conScan {α : Type} (m : Prog Scan Sample SensorEv α) : MefProg α :=
  Prog.zoom (·.scan) (fun g s => { s with scan := g }) .sensor m

/-- A command of the sensor outside the scan machine. -/
def conSensor {α : Type} (m : Prog Unit Sample SensorEv α) : MefProg α :=
  Prog.zoom (fun _ => ()) (fun _ s => s) .sensor m

def conEsp {α : Type} (m : Prog Bool Sample EspEv α) : MefProg α :=
  Prog.zoom (·.conectado) (fun b s => { s with conectado := b }) .esp m

def conLista {α : Type} (m : Prog ListaPins Sample EspEv α) : MefProg α :=
  Prog.zoom (·.listaPins) (fun l s => { s with listaPins := l }) .esp m

def irA (e : EstadoMEF) : MefProg Unit := do
  Prog.emit (.estado e)
  Prog.modify ({ · with estadoActual := e })

def hacer (a : Accion) : MefProg Unit := do
  let s ← Prog.get
  Prog.emit (.accion s.listaPins a)

/-- `ultimaPresencia = tickRead();` -/
def marcarPresencia : MefProg Unit := do
  let t ← tickRead
  Prog.modify ({ · with ultimaPresencia := TimeTest.ultimaPresencia.keep t })

/-- It leaves no event. -/
theorem marcarPresencia_wp {c : Config Mef Sample MefEv} {halt : Config Mef Sample MefEv → Prop}
    {post : Unit → Config Mef Sample MefEv → Prop} (hhalt : halt c)
    (hpost : ∀ t inputs, post () ⟨{ c.st with ultimaPresencia := t }, inputs, c.trace⟩) :
    marcarPresencia.wp halt post c := by
  unfold marcarPresencia
  rw [Prog.wp_bind]
  exact wp_tickRead (fun _ => hhalt) fun m rest _ => hpost _ _

/-- To ESPERANDO_ACCION from a state other than LEER_Y_VALIDAR_HUELLA. -/
def esperarPin : MefProg Unit := do
  irA .esperandoAccion
  Prog.emit .peticion

def volverAEsperar : MefProg Unit := do
  marcarPresencia
  esperarPin

/-- `if ((tickRead() - timer) > ..)`, after which the digits stay in the buffer. -/
def vencerPeticion : MefProg Unit := do
  let s ← Prog.get
  Prog.emit (.vencida s.teclado.pinIngresado)

/-- `tecladoLeerPin(pin, &timer)` -/
def leerPin (timer : ℤ) : MefProg (LeerPin × ℤ) := do
  let (res, ultimaActividad) ← conTeclado tecladoLeerPin
  match res with
  | .completo pin => Prog.emit (.pinLeido pin)
  | _ => pure ()
  pure (res, ultimaActividad.getD timer)

/-- `leer_rfid_str(rfid, sizeof(rfid))` -/
def leerRfid : MefProg Bool := do
  match ← leerRfidStr with
  | some uid =>
    Prog.emit (.uidLeido uid)
    Prog.modify ({ · with rfid := uid })
    pure true
  | none => pure false

def comprobarPinMaster (pin : List UInt8) : MefProg Bool := do
  let s ← Prog.get
  if esPinMaster s.listaPins pin then
    Prog.emit (.pinMaster s.listaPins pin)
    pure true
  else pure false

/-! ## Sleep and start -/

/-- The version of the server, asked for again after a reconnection. -/
def obtenerVersion : MefProg ℚ := do
  let versionServer ← conEsp espObtenerTiempoServidor
  if versionServer < 0 then
    if ← conEsp (inicializarESP 15000) then conEsp espObtenerTiempoServidor
    else pure versionServer
  else pure versionServer

/-- `__WFI()`, with no interrupt enabled but that of the presence sensor: the processor
sleeps until an edge comes, and GPIO0_IRQHandler runs. -/
def esperarInterrupcion : MefProg Unit :=
  Prog.iter (fun _ => do
    let m ← Prog.read
    if m.presencia then
      Prog.modify ({ · with eventoPresencia := true })
      pure (.inr ())
    else pure (.inl ())) ()

def entrarModoSleep : MefProg Unit := do
  Prog.modify ({ · with eventoPresencia := false })
  -- an edge that comes before the wait sets the flag as well, but does not end it
  esperarInterrupcion
  let versionServer ← obtenerVersion
  let s ← Prog.get
  if versionServer < 0 then pure ()
  else if versionServer > s.ultimaVersionConocida then
    let valor ← conLista sincronizarConServidor
    if valor = 0 then Prog.modify ({ · with ultimaVersionConocida := versionServer })

/-- `while(uartReadByte(ESP_UART, &dummy));` -/
def vaciarEsp : Prog Bool Sample EspEv Unit :=
  Prog.iter (fun _ => do
    match ← espReadByte with
    | some _ => pure (.inl ())
    | none => pure (.inr ())) ()

def espATInit : Prog Bool Sample EspEv Unit := do
  Prog.emit (.tx (ascii "+++"))
  Prog.emit (.tx (ascii "AT+RST\r\n"))
  vaciarEsp

def mefInit : MefProg Unit := do
  conEsp espATInit
  let wifiOk ← conEsp (inicializarESP 10000)
  Prog.iter (fun wifiOk => do
    if wifiOk then pure (.inr ())
    else
      let wifiOk ← conEsp (inicializarESP 5000)
      pure (.inl wifiOk)) wifiOk
  let _ ← conLista sincronizarConServidor
  conSensor as608Init
  Prog.modify ({ · with scan := as608ScanReset })
  volverAEsperar

/-! ## The states -/

/-- The administrator's PIN, asked for with `*`: whether it was accepted. -/
def pedirPinAdmin : MefProg Bool := do
  let tAuth := TimeTest.pinAdmin.keep (← tickRead)
  conTeclado tecladoReset
  Prog.emit .peticion
  Prog.iter (fun tAuth => do
    let now ← tickRead
    if TimeTest.pinAdmin.holds now tAuth then
      let (res, tAuth) ← leerPin tAuth
      match res with
      | .completo pinAdmin =>
        let accesoConcedido ← comprobarPinMaster pinAdmin
        pure (.inr accesoConcedido)
      | .menu => pure (.inr false)
      | .incompleto => pure (.inl tAuth)
    else pure (.inr false)) tAuth

/-- A scan is due every INTERVALO_HUELLA_MS. -/
def programarEscaneo : MefProg Unit := do
  let s ← Prog.get
  if !s.escaneoActivo then
    let now ← tickRead
    if TimeTest.agendaHuella.holds now s.agendaHuella then
      let t ← tickRead
      Prog.modify ({ · with
        scan := as608ScanReset, escaneoActivo := true,
        agendaHuella := TimeTest.agendaHuella.keep t })

/-- A presence counts as activity. -/
def atenderPresencia : MefProg Unit := do
  let s ← Prog.get
  if s.eventoPresencia then
    Prog.modify ({ · with eventoPresencia := false })
    marcarPresencia

def esperandoAccion : MefProg Unit := do
  atenderPresencia
  let s ← Prog.get
  let (resultado, ultimaPresencia) ← leerPin s.ultimaPresencia
  Prog.modify ({ · with ultimaPresencia := ultimaPresencia })
  match resultado with
  | .completo pin =>
    Prog.modify ({ · with pinIngresado := pin })
    marcarPresencia
    irA .validar
  | .menu =>
    if ← pedirPinAdmin then
      marcarPresencia
      irA .menuAdmin
    else
      conTeclado tecladoReset
      Prog.emit .peticion
  | .incompleto =>
    let now ← tickRead
    if TimeTest.ultimaPresencia.holds now ultimaPresencia then irA .reposo
    else if ← leerRfid then
      marcarPresencia
      irA .validarRfid
    else
      programarEscaneo
      let s ← Prog.get
      if s.escaneoActivo then irA .leerYValidarHuella

/-- `snprintf(idStr, 5, "%04u", (unsigned)id)`, `id` being a `short int`. -/
def idStr (id : UInt16) : List UInt8 :=
  let sinSigno := if id.toNat < 2 ^ 15 then id.toNat else 2 ^ 32 - 2 ^ 16 + id.toNat
  (sprintf04 sinSigno).take 4

theorem idStr_eq {id : UInt16} (h : id.toNat < 10000) : idStr id = sprintf04 id.toNat := by
  unfold idStr
  rw [if_pos (by omega), List.take_of_length_le (sprintf04_length h).le]

/-- `short int id=0`, and what the scan writes there. -/
def idLeido (salida : Option (UInt16 × UInt16)) : UInt16 := (salida.map Prod.fst).getD 0

def leerYValidarHuella : MefProg Unit := do
  let (st, salida) ← conScan as608ScanStep
  let id := idLeido salida
  match st with
  | .scanMatch =>
    Prog.emit (.huellaLeida id)
    let s ← Prog.get
    if validarHuella s.listaPins (idStr id) then
      Prog.modify ({ · with intentosFallidos := 0 })
      hacer .abrirCerradura
      irA .sensorCierre
      Prog.modify ({ · with escaneoActivo := false })
    -- the scan stays active
    else irA .esperandoAccion
  | .scanNoMatch =>
    Prog.modify ({ · with escaneoActivo := false })
    marcarPresencia
    irA .esperandoAccion
  | .scanNoFinger | .scanError =>
    Prog.modify ({ · with escaneoActivo := false })
    irA .esperandoAccion
  | .scanIdle | .scanInProgress => irA .esperandoAccion

def validarTarjeta : MefProg Unit := do
  let s ← Prog.get
  match obtenerTagPorRFID s.listaPins s.rfid with
  | some _ =>
    hacer .abrirCerradura
    irA .sensorCierre
    Prog.modify ({ · with rfid := [] })
  | none =>
    conTeclado tecladoReset
    esperarPin

/-- The third failure raises the alert. -/
def contarFallo : MefProg Unit := do
  let s ← Prog.get
  if s.intentosFallidos + 1 = 3 then
    Prog.modify ({ · with intentosFallidos := 0 })
    Prog.emit .alertaIntruso
  else Prog.modify ({ · with intentosFallidos := s.intentosFallidos + 1 })

def validar : MefProg Unit := do
  let s ← Prog.get
  if validarPin s.listaPins s.pinIngresado then
    Prog.modify ({ · with intentosFallidos := 0 })
    irA .sensorCierre
    hacer .abrirCerradura
  else
    contarFallo
    conTeclado tecladoReset
    esperarPin

/-- The door is closed when the pin reads low. -/
def sensorCierre : MefProg Unit := do
  let m ← Prog.read
  if !m.sensorHall then
    hacer .cerrarCerradura
    volverAEsperar

/-! ## Administration -/

/-- A PIN typed before the time `limite` is up. Asterisks are ignored. -/
def pedirPin (limite : TimeTest) : MefProg (Option (List UInt8)) := do
  let t := limite.keep (← tickRead)
  Prog.emit .peticion
  Prog.iter (fun timer => do
    let (res, timer) ← leerPin timer
    match res with
    | .completo pin => pure (.inr (some pin))
    | _ =>
      let now ← tickRead
      if limite.holds now timer then
        vencerPeticion
        pure (.inr none)
      else pure (.inl timer)) t

/-- Which fingerprints to delete, `1` or `2`, or 0 when the time is up. -/
def pedirSubOp : MefProg UInt8 := do
  let tSub := TimeTest.subOp.keep (← tickRead)
  Prog.iter (fun _ => do
    let now ← tickRead
    if TimeTest.subOp.holds now tSub then
      match ← conTeclado tecladoLeerTecla with
      | some k => if k = 0x31 ∨ k = 0x32 then pure (.inr k) else pure (.inl ())
      | none => pure (.inl ())
    else pure (.inr 0)) ()

def borrarTodas : MefProg Unit := do
  hacer .borrarTodasHuellas
  if ← conSensor as608ClearAllTemplates then
    Prog.modify fun s => { s with listaPins := eliminarTodasHuellasLocal s.listaPins }
    let _ ← conEsp espBorrarTodasHuellasServidor

/-- `(uint16_t)atoi(idStr)` -/
def idSensor (idStr : List UInt8) : UInt16 := UInt16.ofInt (atoi idStr)

theorem idSensor_sprintf04 {n : ℕ} (h : n < 65536) : (idSensor (sprintf04 n)).toNat = n := by
  unfold idSensor
  rw [atoi_sprintf04, UInt16.ofInt, UInt16.toNat_ofNat']
  omega

def borrarUna : MefProg Unit := do
  let pinTarget := (← pedirPin .pinTarget).getD []
  let s ← Prog.get
  if validarPin s.listaPins pinTarget then
    match obtenerHuellaAsignadaPorPin s.listaPins pinTarget with
    | some idStr =>
      hacer (.borrarHuella pinTarget (idSensor idStr))
      if ← conSensor (as608DeleteId (idSensor idStr)) then
        Prog.modify fun s => { s with listaPins := (eliminarHuellaLocal s.listaPins pinTarget).2 }
        let _ ← conEsp (espBorrarHuellaServidor pinTarget)
    | none => Prog.emit .noTieneHuella
  else Prog.emit .noTieneHuella

def borrarSegun (subOp : UInt8) : MefProg Unit :=
  if subOp = 0x31 then borrarTodas
  else if subOp = 0x32 then borrarUna
  else pure ()

/-- Option 4. Without the master PIN the menu stays. -/
def borrarHuellas : MefProg Unit := do
  match ← pedirPin .pinAuth with
  | none => pure ()
  | some pinAuth =>
    if ← comprobarPinMaster pinAuth then
      let subOp ← pedirSubOp
      borrarSegun subOp
      volverAEsperar

def leerOpcion : MefProg UInt8 :=
  Prog.iter (fun _ => do
    match ← conTeclado tecladoLeerTecla with
    | some tecla => pure (.inr tecla)
    | none => pure (.inl ())) ()

def resetWifi : MefProg Unit := do
  hacer .resetWifi
  if ← conEsp resetearCredencialesESP then
    let _ ← conEsp (inicializarESP 60000)

def menuAdmin : MefProg Unit := do
  let opcion ← leerOpcion
  if opcion = 0x31 then irA .registrarRfid
  else if opcion = 0x32 then irA .registrarHuella
  else if opcion = 0x33 then
    resetWifi
    volverAEsperar
  else if opcion = 0x34 then borrarHuellas
  else if opcion = 0x35 then
    hacer .sincronizar
    let _ ← conLista sincronizarConServidor
    volverAEsperar
  else volverAEsperar

/-- The inner loop of both registrations. When the time is up it goes back to
ESPERANDO_ACCION, and the outer loop goes on. -/
def leerPinValidado (pinValidado : List UInt8) (timer : ℤ) : MefProg (List UInt8 × ℤ) := do
  Prog.emit .peticion
  Prog.iter (fun timer => do
    let (res, timer) ← leerPin timer
    match res with
    | .completo pin => pure (.inr (pin, timer))
    | _ =>
      let now ← tickRead
      if TimeTest.pinValidado.holds now timer then
        vencerPeticion
        volverAEsperar
        pure (.inr (pinValidado, timer))
      else pure (.inl timer)) timer

/-- The PIN of the user to register: three attempts, and one timer for them all. -/
def pedirPinValidado : MefProg (List UInt8) := do
  let timer := TimeTest.pinValidado.keep (← tickRead)
  Prog.iter (fun (pinValidado, timer, intentos) => do
    let (pinValidado, timer) ← leerPinValidado pinValidado timer
    let s ← Prog.get
    if validarPin s.listaPins pinValidado then pure (.inr pinValidado)
    else if intentos + 1 ≥ 3 then
      volverAEsperar
      pure (.inr pinValidado)
    else pure (.inl (pinValidado, timer, intentos + 1))) ([], timer, 0)

/-- Wait for a card. -/
def pedirTarjeta : MefProg Unit := do
  let timer := TimeTest.tarjeta.keep (← tickRead)
  Prog.iter (fun _ => do
    if ← leerRfid then pure (.inr ())
    else
      let now ← tickRead
      if TimeTest.tarjeta.holds now timer then
        volverAEsperar
        pure (.inr ())
      else pure (.inl ())) ()

/-- `if (estadoActual == ESPERANDO_ACCION) break;` -/
def siSigue (m : MefProg Unit) : MefProg Unit := do
  let s ← Prog.get
  if s.estadoActual = .esperandoAccion then pure () else m

def registrarRfid : MefProg Unit := do
  let pinValidado ← pedirPinValidado
  siSigue do
    pedirTarjeta
    siSigue do
      let s ← Prog.get
      hacer (.registrarRfid pinValidado s.rfid)
      Prog.modify fun s =>
        { s with listaPins := (asociarRFIDaPin s.listaPins pinValidado (.copy 19 s.rfid)).2 }
      let _ ← conEsp (espEnviarNuevoRFID pinValidado s.rfid)
      volverAEsperar

/-- Five attempts to store the finger: the four digits of the id. -/
def enrolar (pin : List UInt8) (idObjetivo : UInt16) : MefProg (Option (List UInt8)) :=
  Prog.iter (fun intentos => do
    if intentos < 5 then
      hacer (.enrolarHuella pin idObjetivo)
      match ← conSensor (as608EnrollAtId idObjetivo) with
      | some idResultado => pure (.inr (some idResultado))
      | none => pure (.inl (intentos + 1))
    else pure (.inr none)) 0

def registrarHuella : MefProg Unit := do
  let pinValidado ← pedirPinValidado
  siSigue do
    let s ← Prog.get
    match obtenerHuellaAsignadaPorPin s.listaPins pinValidado with
    | some idHuellaStr =>
      match ← enrolar pinValidado (idSensor idHuellaStr) with
      | none => volverAEsperar
      | some idResultado =>
        Prog.modify fun s =>
          { s with listaPins := (asociarHuellaaPin s.listaPins pinValidado idResultado).2 }
        let _ ← conEsp (espEnviarNuevaHuella pinValidado idResultado)
        esperarPin
        marcarPresencia
    -- the machine stays in this state
    | none => marcarPresencia

/-! ## mefUpdate -/

def mefUpdate : MefProg Unit := do
  let s ← Prog.get
  match s.estadoActual with
  | .reposo =>
    entrarModoSleep
    esperarPin
  | .esperandoAccion => esperandoAccion
  | .leerYValidarHuella => leerYValidarHuella
  | .validarRfid => validarTarjeta
  | .validar => validar
  | .sensorCierre => sensorCierre
  | .bloqueado => pure ()
  | .menuAdmin => menuAdmin
  | .registrarRfid => registrarRfid
  | .registrarHuella => registrarHuella

/-- `mefInit` and the first `n` rounds of the loop of `main`. -/
def principal : ℕ → MefProg Unit
  | 0 => mefInit
  | n + 1 => do
    principal n
    mefUpdate

end Cerradura
