import Cerradura.Enrolado
import Cerradura.Rutina

/-!
# What is said to the ESP module

Everything the lock wants from the network goes through one serial line, as a
dialogue of AT commands: the greeting, the connection, and the requests to the
server, by the module itself or over TCP. `lineaEsp` is that dialogue as a
protocol. A command may depend on the command before it, on what has come back
since, and, where it changes something on the server or in the module, on what
the administrator has just decided.

Results:

* `dialogo_en_orden`: every run follows the dialogue, so that nothing is asked of
  the server before the module has reported a connection, a request goes over TCP
  only after the module itself has failed, and each TCP request has the length
  that was announced.
* `peticiones_debidas`: a request that changes something on the server repeats the
  administrator's last action, with a PIN of keypad digits and a UID in
  hexadecimal.
-/

namespace Cerradura

open Reactive Transition CText

/-! ## Requests -/

/-- What the server is asked for. -/
inductive Ruta
  | pins
  | estado
  | rfid (pin rfidHex : List UInt8)
  | huella (pin idHuella : List UInt8)
  | borrarHuella (pin : List UInt8)
  | borrarTodas
deriving DecidableEq, Repr

def Ruta.texto : Ruta → List UInt8
  | .pins => rutaPins
  | .estado => ascii "/check-status"
  | .rfid pin rfidHex => ascii "/update-rfid?pin=" ++ pin ++ ascii "&rfid=" ++ rfidHex
  | .huella pin idHuella => ascii "/update-huella?pin=" ++ pin ++ ascii "&huella=" ++ idHuella
  | .borrarHuella pin => ascii "/delete-huella?pin=" ++ pin
  | .borrarTodas => ascii "/clear-all-huellas"

/-- Reading is always allowed. A change is one that the administrator has made at
the lock, with the same data. -/
def Ruta.Corresponde (accion : Option Accion) : Ruta → Prop
  | .pins | .estado => True
  | .rfid pin rfidHex => accion = some (.registrarRfid pin rfidHex)
  | .huella pin idHuella =>
    ∃ page, accion = some (.enrolarHuella pin page) ∧ idHuella = (sprintf04 page.toNat).take 4
  | .borrarHuella pin => ∃ page, accion = some (.borrarHuella pin page)
  | .borrarTodas => accion = some .borrarTodasHuellas

/-- The request made by the module itself. -/
def httpCGet (path : List UInt8) : List UInt8 :=
  ascii "AT+HTTPCGET=\"http://" ++ serverIp ++ ascii ":" ++ serverPort ++ path ++ ascii "\""

/-- The request over TCP. -/
def peticionGet (path : List UInt8) : List UInt8 :=
  ascii "GET " ++ path ++ ascii " HTTP/1.1\r\nHost: " ++ serverIp ++ ascii ":" ++
    serverPort ++ ascii "\r\nConnection: close\r\n\r\n"

def cipStart : List UInt8 := ascii "AT+CIPSTART=\"TCP\",\"" ++ serverIp ++ ascii "\"," ++ serverPort

def cipSend (path : List UInt8) : List UInt8 :=
  ascii "AT+CIPSEND=" ++ decimal (peticionGet path).length

/-! ## The dialogue -/

inductive FaseAT
  | saludo -- nothing has been said
  | reinicio
  | lista -- the next command may come
  | abierta -- a command whose end of line is missing
deriving DecidableEq

/-- The module and what it knows of the lock. -/
structure Dialogo where
  fase : FaseAT
  -- what the administrator does, until the lock is idle again
  accion : Option Accion
  -- a connection has been reported
  conectado : Bool
  -- the last command, and what has been answered since
  previa : List UInt8
  respuesta : List UInt8
  -- the last request made by the module itself
  consulta : List UInt8

def Dialogo.inicial : Dialogo := ⟨.saludo, none, false, [], [], []⟩

/-- `STATUS:2` or `STATUS:3` -/
def conIP (resp : List UInt8) : Prop := contiene resp "STATUS:2" ∨ contiene resp "STATUS:3"

/-- The answer of the module to a request of its own. -/
def respondida (resp : List UInt8) : Prop :=
  0 < resp.length ∧ ((strchr llaveIzq (cString resp)).isSome ∨ contiene resp "HTTP/" ∨
    contiene resp "+HTTPCGET:")

/-- A round of the wait for an IP may begin. -/
def Dialogo.Espera (q : Dialogo) : Prop :=
  q.previa = ascii "AT+CWAUTOCONN=1" ∨ q.previa = ascii "AT+RST" ∨
    q.previa = ascii "AT+CIPSTATUS" ∧ ¬ conIP q.respuesta

/-- The next command of the dialogue. -/
inductive Dialogo.Acepta (q : Dialogo) : List UInt8 → Prop
  | hola : Acepta q (ascii "AT")
  | modo : q.previa = ascii "AT" → contiene q.respuesta "OK" → Acepta q (ascii "AT+CWMODE=1")
  | mux : q.previa = ascii "AT+CWMODE=1" → Acepta q (ascii "AT+CIPMUX=0")
  | autoconn : q.previa = ascii "AT+CIPMUX=0" → Acepta q (ascii "AT+CWAUTOCONN=1")
  | estado : q.Espera → Acepta q (ascii "AT+CIPSTATUS")
  | ip : q.previa = ascii "AT+CIPSTATUS" → conIP q.respuesta → Acepta q (ascii "AT+CIFSR")
  | reinicia : q.previa = ascii "AT+CIPSTATUS" → ¬ conIP q.respuesta → Acepta q (ascii "AT+RST")
  | nombre : q.Espera → q.conectado = false → Acepta q (ascii "AT+BLUFINAME=\"cerradura\"")
  | blufi : q.previa = ascii "AT+BLUFINAME=\"cerradura\"" → Acepta q (ascii "AT+BLUFI=1")
  | restaura : q.accion = some .resetWifi → Acepta q (ascii "AT+RESTORE")
  | consulta {ruta : Ruta} : q.conectado = true → ruta.Corresponde q.accion →
      Acepta q (httpCGet ruta.texto)
  -- the module has not answered, and the request is made again over TCP
  | cierra : q.previa = q.consulta → ¬ respondida q.respuesta → Acepta q (ascii "AT+CIPCLOSE")
  | abre : q.previa = ascii "AT+CIPCLOSE" → Acepta q cipStart
  | envia {ruta : Ruta} : q.previa = cipStart → q.respuesta ≠ [] → ¬ contiene q.respuesta "ERROR" →
      q.consulta = httpCGet ruta.texto → Acepta q (cipSend ruta.texto)
  | pide {ruta : Ruta} : q.previa = cipSend ruta.texto → contiene q.respuesta ">" →
      q.consulta = httpCGet ruta.texto → ruta.Corresponde q.accion →
      Acepta q (peticionGet ruta.texto)

/-- A command that makes a request. -/
def esConsulta (s : List UInt8) : Bool := s.take 8 = ascii "AT+HTTPC"

/-- A command and its answer. -/
def Dialogo.tras (q : Dialogo) (cmd resp : List UInt8) : Dialogo :=
  { q with
    previa := cmd
    respuesta := resp
    conectado := q.conectado || cmd = ascii "AT+CIFSR"
    consulta := if esConsulta cmd then cmd else q.consulta }

/-- Characters that mean nothing in a path. -/
def Cifras (s : List UInt8) : Prop := ∀ b ∈ s, b ∈ ascii "0123456789ABCDEF"

/-- What the administrator has typed, and the card, are digits. -/
def Accion.Limpia : Accion → Prop
  | .registrarRfid pin rfid => (pin.length ≤ 5 ∧ Cifras pin) ∧ rfid.length ≤ 8 ∧ Cifras rfid
  | .enrolarHuella pin _ | .borrarHuella pin _ => pin.length ≤ 5 ∧ Cifras pin
  | _ => True

/-- The line of the module. -/
def lineaEsp : Machine Dialogo MefEv where
  Enabled q
    | .esp (.tx s) =>
      match q.fase with
      | .saludo => s = ascii "+++"
      | .reinicio => s = ascii "AT+RST\r\n"
      | .lista => q.Acepta s
      | .abierta => s = [0x0D, 0x0A]
    | .accion _ a => a.Limpia
    | _ => True
  next q
    | .esp (.tx s) =>
      match q.fase with
      | .saludo => { q with fase := .reinicio }
      | .reinicio | .abierta => { q with fase := .lista }
      | .lista => { q.tras s [] with fase := .abierta }
    | .esp (.rx b) => { q with respuesta := q.respuesta ++ [b] }
    | .accion _ a => { q with accion := some a }
    | .estado .esperandoAccion => { q with accion := none }
    | _ => q

/-! ## A command -/

section Comandos

variable {σ : Type} {P : σ → Dialogo → Prop}

/-- The same line for espAT.c. -/
abbrev enDialogo : Machine Dialogo EspEv := lineaEsp.comap .esp

theorem after_respuesta (q : Dialogo) (resp : List UInt8) :
    enDialogo.after q (resp.reverse.map .rx) = { q with respuesta := q.respuesta ++ resp } := by
  induction resp using List.reverseRecOn with
  | nil => rw [List.append_nil]; rfl
  | append_singleton resp b ih =>
    rw [List.reverse_concat, List.map_cons, ← List.append_assoc]
    show enDialogo.next (enDialogo.after q _) (.rx b) = _
    rw [ih]
    rfl

/-- A command with its end of line, and what comes back. -/
theorem tramaComando_habla {q : Dialogo} {cmd : List UInt8} (hfase : q.fase = .lista)
    (hacepta : q.Acepta cmd) (resp : List UInt8) :
    enDialogo.Legal q (tramaComando cmd resp) ∧
      enDialogo.after q (tramaComando cmd resp) = q.tras cmd resp := by
  obtain ⟨fase, accion, conectado, previa, respuesta, consulta⟩ := q
  obtain rfl : fase = .lista := hfase
  unfold tramaComando
  rw [Machine.legal_append, Machine.after_append, after_respuesta]
  refine ⟨⟨⟨⟨trivial, hacepta⟩, rfl⟩, ?_⟩, rfl⟩
  refine Machine.legal_of_enabled fun q e he => ?_
  obtain ⟨b, -, rfl⟩ := List.mem_map.mp he
  exact trivial

/-- The command, and all that comes back before the function returns. -/
theorem enviarComandoAT_habla {cmd : List UInt8} {maxLen : ℕ} {timeoutMs : UInt32}
    {Q : List UInt8 → σ → Dialogo → Prop} (hmax : 2 ≤ maxLen)
    (h : ∀ s q, P s q → q.fase = .lista ∧ q.Acepta cmd ∧ ∀ resp, Q resp s (q.tras cmd resp)) :
    Prog.Follows enDialogo P (enviarComandoAT cmd maxLen timeoutMs) Q := by
  refine enviarComandoAT_follows hmax (fun s q resp hq => ?_) timeoutMs
  obtain ⟨hfase, hacepta, hresp⟩ := h s q hq
  obtain ⟨hlegal, hafter⟩ := tramaComando_habla hfase hacepta resp
  exact ⟨hlegal, hafter ▸ hresp resp⟩

end Comandos

/-! ## The functions of espAT.c -/

/-- Between two commands, during the action `a`. -/
structure Habla (a : Option Accion) (b : Bool) (q : Dialogo) : Prop where
  fase : q.fase = .lista
  accion : q.accion = a
  conectado : q.conectado = b

section Funciones

variable {σ : Type} {a : Option Accion} {b : Bool} {ruta : Ruta} {q : Dialogo}

theorem Habla.tras {cmd resp : List UInt8} (h : Habla a b q)
    (hcmd : b = true ∨ cmd ≠ ascii "AT+CIFSR") : Habla a b (q.tras cmd resp) := by
  refine ⟨h.fase, h.accion, ?_⟩
  show (q.conectado || _) = b
  rw [h.conectado]
  rcases hcmd with rfl | hcmd
  · exact Bool.true_or _
  · rw [decide_eq_false hcmd, Bool.or_false]

/-- The first characters tell a request. -/
theorem esConsulta_append {s : List UInt8} (h : 8 ≤ s.length) (s' : List UInt8) :
    esConsulta (s ++ s') = esConsulta s := by
  unfold esConsulta
  rw [List.take_append_of_le_length h]

theorem esConsulta_httpCGet (path : List UInt8) : esConsulta (httpCGet path) = true := by
  unfold httpCGet
  simp only [List.append_assoc]
  rw [esConsulta_append (by decide)]
  decide

theorem esConsulta_cipSend (path : List UInt8) : esConsulta (cipSend path) = false := by
  unfold cipSend
  rw [esConsulta_append (by decide)]
  decide

theorem consulta_tras {cmd resp : List UInt8} (h : esConsulta cmd = true) :
    (q.tras cmd resp).consulta = cmd := if_pos h

theorem consulta_tras_of_not {cmd resp : List UInt8} (h : esConsulta cmd = false) :
    (q.tras cmd resp).consulta = q.consulta := if_neg (Bool.eq_false_iff.mp h)

/-- The command `previa` has been sent to repeat the request over TCP. -/
structure Repite (a : Option Accion) (ruta : Ruta) (previa : List UInt8) (q : Dialogo) : Prop where
  habla : Habla a true q
  previa : q.previa = previa
  consulta : q.consulta = httpCGet ruta.texto

theorem Repite.sigue {previa cmd resp : List UInt8} (h : Repite a ruta previa q)
    (hcmd : esConsulta cmd = false) : Repite a ruta cmd (q.tras cmd resp) :=
  ⟨h.habla.tras (.inl rfl), rfl, (consulta_tras_of_not hcmd).trans h.consulta⟩

theorem espRawHTTPGet_habla (hruta : ruta.Corresponde a) {n : ℕ} (hn : 2 ≤ n) :
    Prog.Follows enDialogo
      (fun _ q => Repite a ruta (httpCGet ruta.texto) q ∧ ¬ respondida q.respuesta)
      (espRawHTTPGet ruta.texto n : Prog σ Sample EspEv _) fun _ _ => Habla a true := by
  refine .bind (R := fun _ _ => Repite a ruta (ascii "AT+CIPCLOSE"))
    (enviarComandoAT_habla (by decide) fun _ q h => ?_) fun _ => ?_
  · obtain ⟨hq, hresp⟩ := h
    exact ⟨hq.habla.fase, .cierra (hq.previa.trans hq.consulta.symm) hresp, fun _ =>
      hq.sigue (by decide)⟩
  refine .bind (R := fun aux _ q => Repite a ruta cipStart q ∧ q.respuesta = aux)
    (enviarComandoAT_habla (by decide) fun _ q hq =>
      ⟨hq.habla.fase, .abre hq.previa, fun _ => ⟨hq.sigue (by decide), rfl⟩⟩) fun aux => ?_
  refine .ite (fun _ => .pure fun _ _ h => h.1.habla) fun haux => ?_
  refine .bind (R := fun aux _ q => Repite a ruta (cipSend ruta.texto) q ∧ q.respuesta = aux)
    (enviarComandoAT_habla (by decide) fun _ q h => ?_) fun aux => ?_
  · obtain ⟨hq, rfl⟩ := h
    rw [not_or, List.length_eq_zero_iff] at haux
    exact ⟨hq.habla.fase, .envia hq.previa haux.1 haux.2 hq.consulta, fun _ =>
      ⟨hq.sigue (esConsulta_cipSend _), rfl⟩⟩
  refine .ite (fun _ => .pure fun _ _ h => h.1.habla) fun hmas => ?_
  refine .bind (R := fun _ _ => Habla a true) (enviarComandoAT_habla hn fun _ q h => ?_) fun resp =>
    .ite (fun _ => .pure fun _ _ h => h) fun _ => .pure fun _ _ h => h
  obtain ⟨hq, rfl⟩ := h
  rw [Bool.not_eq_true', Bool.not_eq_false] at hmas
  exact ⟨hq.habla.fase, .pide hq.previa hmas hq.consulta (hq.habla.accion ▸ hruta), fun _ =>
    hq.habla.tras (.inl rfl)⟩

theorem espHTTPGetViaAT_habla (ruta : Ruta) (hruta : ruta.Corresponde a) {n : ℕ} (hn : 2 ≤ n) :
    Prog.Follows enDialogo (fun _ => Habla a true)
      (espHTTPGetViaAT ruta.texto n : Prog σ Sample EspEv _) fun _ _ => Habla a true := by
  refine .bind (R := fun resp _ q => Repite a ruta (httpCGet ruta.texto) q ∧ q.respuesta = resp)
    (enviarComandoAT_habla hn fun _ q h =>
      ⟨h.fase, .consulta h.conectado (h.accion ▸ hruta), fun _ =>
        ⟨⟨h.tras (.inl rfl), rfl, consulta_tras (esConsulta_httpCGet _)⟩, rfl⟩⟩) fun resp => ?_
  refine .ite (fun _ => .pure fun _ _ h => h.1.habla) fun hresp => ?_
  refine (espRawHTTPGet_habla hruta hn).pre fun _ q h => ?_
  obtain ⟨hq, rfl⟩ := h
  exact ⟨hq, hresp⟩

theorem pedirConfirmacion_habla (ruta : Ruta) (hruta : ruta.Corresponde a) {n : ℕ} (hn : 2 ≤ n)
    (textos : List String) : Prog.Follows enDialogo (fun _ => Habla a true)
      (pedirConfirmacion ruta.texto n textos : Prog σ Sample EspEv Bool)
      fun _ _ => Habla a true := by
  refine .bind (espHTTPGetViaAT_habla ruta hruta hn) fun resp => ?_
  cases resp with
  | none => exact .pure fun _ _ h => h
  | some resp => exact .pure fun _ _ h => h

theorem pedirBorrado_habla (ruta : Ruta) (hruta : ruta.Corresponde a) (texto : String) :
    Prog.Follows enDialogo (fun _ => Habla a true)
      (pedirBorrado ruta.texto texto : Prog σ Sample EspEv Bool) fun _ _ => Habla a true := by
  have hcmd : ascii "AT+HTTPCGET=\"" ++ (ascii "http://" ++ serverIp ++ ascii ":" ++ serverPort ++
      ruta.texto) ++ ascii "\"" = httpCGet ruta.texto := by
    unfold httpCGet
    rw [show ascii "AT+HTTPCGET=\"http://" = ascii "AT+HTTPCGET=\"" ++ ascii "http://" by decide]
    simp only [List.append_assoc]
  unfold pedirBorrado
  dsimp only
  rw [hcmd]
  exact .bind (enviarComandoAT_habla (by decide) fun _ q h =>
    ⟨h.fase, .consulta h.conectado (h.accion ▸ hruta), fun _ => h.tras (.inl rfl)⟩) fun _ =>
      .pure fun _ _ h => h

theorem sincronizarConServidor_habla :
    Prog.Follows enDialogo (fun _ => Habla a true) sincronizarConServidor
      fun _ _ => Habla a true := by
  have hpins : Prog.Follows enDialogo (fun _ => Habla a true)
      (espHTTPGetPins maxPins : Prog ListaPins Sample EspEv _) fun _ _ => Habla a true := by
    refine .bind (espHTTPGetViaAT_habla .pins trivial (by decide)) fun resp => ?_
    cases resp with
    | none => exact .pure fun _ _ h => h
    | some httpResp => exact .pure fun _ _ h => h
  refine .bind hpins fun bufferUsuarios => .ite (fun _ => ?_) fun _ => .pure fun _ _ h => h
  exact .bind (R := fun _ _ => Habla a true) (.modify fun _ _ h => h) fun _ => .pure fun _ _ h => h

theorem espObtenerTiempoServidor_habla : Prog.Follows enDialogo (fun _ => Habla a true)
    (espObtenerTiempoServidor : Prog σ Sample EspEv ℚ) fun _ _ => Habla a true := by
  refine .bind (espHTTPGetViaAT_habla .estado trivial (by decide)) fun resp => ?_
  cases resp with
  | none => exact .pure fun _ _ h => h
  | some resp => exact .pure fun _ _ h => h

/-! ### The connection -/

theorem esperarOK_habla (timeoutMs : UInt32) : Prog.Follows enDialogo (fun b q => Habla a b q)
    (esperarOK timeoutMs : Prog Bool Sample EspEv Bool) fun ok b q => Habla a b q ∧
      (ok = true → q.previa = ascii "AT" ∧ contiene q.respuesta "OK" = true) := by
  refine .bind tickRead_follows fun t => .iter (fun _ b q => Habla a b q) (fun _ => ?_) ()
  refine .bind tickRead_follows fun now => .ite (fun _ => ?_) fun _ => .pure fun _ _ h =>
    ⟨h, fun hok => absurd hok Bool.false_ne_true⟩
  refine .bind (R := fun resp b q => Habla a b q ∧ q.previa = ascii "AT" ∧ q.respuesta = resp)
    (enviarComandoAT_habla (by decide) fun _ q h =>
      ⟨h.fase, .hola, fun _ => ⟨h.tras (.inr (by decide)), rfl, rfl⟩⟩) fun resp => ?_
  refine .ite (fun hresp => .pure fun _ q h => ?_) fun _ => .pure fun _ _ h => h.1
  obtain ⟨hq, hprevia, rfl⟩ := h
  exact ⟨hq, fun _ => ⟨hprevia, hresp.2⟩⟩

theorem esperarIP_habla : Prog.Follows enDialogo (fun b q => Habla a b q ∧ q.Espera) esperarIP
    fun _ b q => Habla a b q ∧ (b = false → q.Espera) := by
  refine .bind tickRead_follows fun t => .iter (fun _ b q => Habla a b q ∧ q.Espera)
    (fun count => ?_) 0
  refine .bind tickRead_follows fun now => .ite (fun _ => ?_) fun _ => .pure fun _ _ h =>
    ⟨h.1, fun _ => h.2⟩
  refine .bind (R := fun resp b q => Habla a b q ∧ q.previa = ascii "AT+CIPSTATUS" ∧
    q.respuesta = resp) (enviarComandoAT_habla (by decide) fun b q h =>
      ⟨h.1.fase, .estado h.2, fun _ => ⟨h.1.tras (.inr (by decide)), rfl, rfl⟩⟩) fun resp => ?_
  refine .ite (fun hip => ?_) fun hip => ?_
  · refine .bind (R := fun _ _ => Habla a true) (enviarComandoAT_habla (by decide) fun b q h => ?_)
      fun _ => .bind (R := fun _ b q => b = true ∧ Habla a b q)
        (.modify fun _ _ h => ⟨rfl, h⟩) fun _ => .pure fun b q h =>
          ⟨h.2, fun hb => absurd (h.1.symm.trans hb) Bool.false_ne_true.symm⟩
    obtain ⟨hq, hprevia, rfl⟩ := h
    exact ⟨hq.fase, .ip hprevia hip, fun _ => ⟨hq.fase, hq.accion, by simp [Dialogo.tras]⟩⟩
  · have hespera (q : Dialogo) (h : q.previa = ascii "AT+CIPSTATUS" ∧ q.respuesta = resp) :
        q.Espera := by
      obtain ⟨hprevia, rfl⟩ := h
      exact .inr (.inr ⟨hprevia, hip⟩)
    refine .ite (fun _ => ?_) fun _ => .pure fun _ q h => ⟨h.1, hespera q h.2⟩
    refine .bind (R := fun _ b q => Habla a b q ∧ q.Espera) (enviarComandoAT_habla (by decide)
      fun b q h => ?_) fun _ => .pure fun _ _ h => h
    obtain ⟨hq, hprevia, rfl⟩ := h
    exact ⟨hq.fase, .reinicia hprevia hip, fun _ => ⟨hq.tras (.inr (by decide)), .inr (.inl rfl)⟩⟩

theorem inicializarESP_habla (timeoutMs : UInt32) : Prog.Follows enDialogo (fun b q => Habla a b q)
    (inicializarESP timeoutMs) fun ok b q => Habla a b q ∧ (ok = true → b = true) := by
  refine .bind (esperarOK_habla timeoutMs) fun ok => .ite (fun _ => .pure fun _ _ h =>
    ⟨h.1, fun hok => absurd hok Bool.false_ne_true⟩) fun hok => ?_
  refine .bind (R := fun _ b q => Habla a b q ∧ q.previa = ascii "AT+CWMODE=1")
    (enviarComandoAT_habla (by decide) fun b q h => ?_) fun _ => ?_
  · obtain ⟨hprevia, hresp⟩ := h.2 (by simpa using hok)
    exact ⟨h.1.fase, .modo hprevia hresp, fun _ => ⟨h.1.tras (.inr (by decide)), rfl⟩⟩
  refine .bind (R := fun _ b q => Habla a b q ∧ q.previa = ascii "AT+CIPMUX=0")
    (enviarComandoAT_habla (by decide) fun b q h =>
      ⟨h.1.fase, .mux h.2, fun _ => ⟨h.1.tras (.inr (by decide)), rfl⟩⟩) fun _ => ?_
  refine .bind (R := fun _ b q => Habla a b q ∧ q.Espera)
    (enviarComandoAT_habla (by decide) fun b q h =>
      ⟨h.1.fase, .autoconn h.2, fun _ => ⟨h.1.tras (.inr (by decide)), .inl rfl⟩⟩) fun _ => ?_
  refine .bind esperarIP_habla fun _ => .get_bind fun conectado =>
    .ite (fun hcon => ?_) fun hcon => ?_
  · exact .pure fun b q h => ⟨h.2.1, fun _ => h.1.trans hcon⟩
  refine .bind (R := fun _ b q => Habla a b q ∧ q.previa = ascii "AT+BLUFINAME=\"cerradura\"")
    (enviarComandoAT_habla (by decide) fun b q h => ?_) fun _ =>
      .bind (R := fun _ b q => Habla a b q) (enviarComandoAT_habla (by decide) fun b q h =>
        ⟨h.1.fase, .blufi h.2, fun _ => h.1.tras (.inr (by decide))⟩) fun _ =>
          .pure fun b q h => ⟨h, fun hr => absurd hr Bool.false_ne_true⟩
  obtain ⟨rfl, hq, hespera⟩ := h
  have hb : b = false := Bool.eq_false_iff.mpr hcon
  exact ⟨hq.fase, .nombre (hespera hb) (hq.conectado.trans hb), fun _ =>
    ⟨hq.tras (.inr (by decide)), rfl⟩⟩

theorem resetearCredencialesESP_habla : Prog.Follows enDialogo
    (fun b q => Habla (some .resetWifi) b q) resetearCredencialesESP
    fun _ b q => Habla (some .resetWifi) b q := by
  refine .bind (R := fun _ b q => Habla (some .resetWifi) b q) (enviarComandoAT_habla (by decide)
    fun b q h => ⟨h.fase, .restaura h.accion, fun _ => h.tras (.inr (by decide))⟩) fun resp => ?_
  refine .ite (fun _ => .pure fun _ _ h => h) fun _ =>
    .bind (R := fun _ b q => Habla (some .resetWifi) b q) (.read fun _ _ _ h => h) fun m => ?_
  refine .ite (fun _ => ?_) fun _ => .pure fun _ _ h => h
  exact .bind (inicializarESP_habla 10000) fun _ => .pure fun _ _ h => h.1

end Funciones

/-! ## The keypad and the card -/

/-- What the firmware keeps of its user is digits. -/
structure DeCifras (s : Mef) : Prop where
  rfid : s.rfid.length ≤ 8 ∧ Cifras s.rfid
  buffer : Cifras s.teclado.pinIngresado

/-- A PIN that was typed. -/
def DeTeclado (pin : List UInt8) : Prop := pin.length ≤ 5 ∧ Cifras pin

theorem cifras_nil : Cifras [] := fun _ h => absurd h List.not_mem_nil

theorem mem_cifras {b : UInt8}
    (h : (0x30 ≤ b.toNat ∧ b.toNat ≤ 0x39) ∨ (0x41 ≤ b.toNat ∧ b.toNat ≤ 0x46)) :
    b ∈ ascii "0123456789ABCDEF" := by
  have hrango : ∀ n < 0x47, (0x30 ≤ n ∧ n ≤ 0x39) ∨ (0x41 ≤ n ∧ n ≤ 0x46) →
      UInt8.ofNat n ∈ ascii "0123456789ABCDEF" := by decide
  have hmem := hrango b.toNat (by omega) h
  rwa [UInt8.ofNat_toNat] at hmem

theorem cifras_concat {s : List UInt8} {b : UInt8} (hs : Cifras s) (hb : isDecimalDigit b = true) :
    Cifras (s ++ [b]) := by
  have hb' : 48 ≤ b ∧ b ≤ 57 := by simpa [isDecimalDigit] using hb
  refine List.forall_mem_append.mpr ⟨hs, List.forall_mem_singleton.mpr (mem_cifras (.inl ?_))⟩
  exact ⟨UInt8.le_iff_toNat_le.mp hb'.1, UInt8.le_iff_toNat_le.mp hb'.2⟩

theorem cifras_uidStr (uid : Vector UInt8 4) : Cifras (uidStr uid) :=
  fun b hb => mem_cifras ((uidStr_hex uid).2 b hb)

section Teclas

variable {κ : Type} {M : Machine κ TecladoEv}

/-- The buffer of the keypad holds digits. -/
def EnBuffer (t : Teclado) (_ : κ) : Prop := Cifras t.pinIngresado

theorem nuevaTecla_habla (hM : ∀ q e, M.Ignores q e) :
    Prog.Follows M EnBuffer nuevaTecla fun _ => EnBuffer := by
  refine .bind (R := fun _ => EnBuffer) (.read fun _ _ _ h => h) fun m => .bind .get fun t => ?_
  cases m.tecla with
  | none =>
    exact .bind (R := fun _ => EnBuffer) (.modify fun _ _ h => h) fun _ => .pure fun _ _ h => h
  | some teclaIndex =>
    refine .ite (fun _ => ?_) fun _ => .pure fun _ _ h => h
    refine .bind (R := fun _ => EnBuffer) (.modify fun _ _ h => h) fun _ =>
      .bind (R := fun _ => EnBuffer) (.emit fun s q h => ?_) fun _ => .pure fun _ _ h => h
    exact ⟨(hM q _).1, h⟩

theorem tecladoReset_habla : Prog.Follows M EnBuffer tecladoReset fun _ => EnBuffer :=
  .modify fun _ _ _ => cifras_nil

theorem tecladoLeerPin_habla (hM : ∀ q e, M.Ignores q e) :
    Prog.Follows M EnBuffer tecladoLeerPin fun r t q => EnBuffer t q ∧
      ∀ pin, r.1 = .completo pin → DeTeclado pin := by
  refine .bind (nuevaTecla_habla hM) fun tecla => ?_
  cases tecla with
  | none => exact .pure fun _ _ h => ⟨h, nofun⟩
  | some teclaChar =>
    refine .bind tickRead_follows fun t => .ite (fun _ => ?_) fun _ => .get_bind fun t => ?_
    · exact .bind tecladoReset_habla fun _ => .pure fun _ _ h => ⟨h, nofun⟩
    dsimp only
    set pin := if t.pinIngresado.length < pinLength ∧ isDecimalDigit teclaChar then
      t.pinIngresado ++ [teclaChar] else t.pinIngresado with hdef
    have hpin : ∀ (s : Teclado) (q : κ), s = t ∧ EnBuffer s q → Cifras pin := by
      rintro s q ⟨rfl, hs⟩
      rw [hdef]
      split
      · next h => exact cifras_concat hs h.2
      · exact hs
    refine .ite (fun hlleno => ?_) fun _ => ?_
    · refine .bind (R := fun _ t q => EnBuffer t q ∧ Cifras pin)
        (.modify fun s q h => ⟨cifras_nil, hpin s q h⟩) fun _ => .pure fun _ _ h => ⟨h.1, ?_⟩
      intro pin' hpin'
      obtain rfl := LeerPin.completo.inj hpin'
      exact ⟨hlleno.le, h.2⟩
    · exact .bind (R := fun _ => EnBuffer) (.modify fun s q h => hpin s q h) fun _ =>
        .pure fun _ _ h => ⟨h, nofun⟩

end Teclas

/-! ## The machine -/

section Maquina

variable {α : Type} {a : Option Accion}

/-- After the start. -/
structure Comunica (s : Mef) (q : Dialogo) : Prop where
  fase : q.fase = .lista
  conectado : q.conectado = true
  mismo : s.conectado = true
  cifras : DeCifras s

/-- The same for espAT.c. -/
def Conectada (a : Option Accion) (b : Bool) (q : Dialogo) : Prop := Habla a true q ∧ b = true

/-- A request. -/
theorem peticion_habla {m : Prog Bool Sample EspEv α}
    (h : Prog.Follows enDialogo (fun _ => Habla a true) m fun _ _ => Habla a true)
    (hm : Prog.Keeps MismoEstado m) :
    Prog.Follows enDialogo (Conectada a) m fun _ => Conectada a := h.and_st hm (· = true)

theorem conectado_next (q : Dialogo) (e : MefEv) (h : q.conectado = true) :
    (lineaEsp.next q e).conectado = true := by
  cases e with
  | esp e =>
    cases e with
    | tx s =>
      obtain ⟨fase, accion, conectado, previa, respuesta, consulta⟩ := q
      cases fase with
      | lista => exact Bool.or_eq_true_iff.mpr (.inl h)
      | _ => exact h
    | rx b => exact h
  | accion lista a => exact h
  | estado e => cases e <;> exact h
  | _ => exact h

/-- A function of the connection. -/
theorem conexion_habla {m : Prog Bool Sample EspEv α}
    (h : Prog.Follows enDialogo (fun b q => Habla a b q) m fun _ b q => Habla a b q) :
    Prog.Follows enDialogo (Conectada a) m fun _ => Conectada a := by
  refine (h.and_stable (R := (·.conectado = true)) fun q e hq => conectado_next q (.esp e) hq).mono
    (fun b q hq => ?_) fun _ b q hq => ?_
  · obtain ⟨hq, rfl⟩ := hq
    exact ⟨hq, hq.conectado⟩
  · obtain ⟨hq, hcon⟩ := hq
    have hb : b = true := hq.conectado.symm.trans hcon
    exact ⟨hb ▸ hq, hb⟩

theorem conEsp_habla {m : Prog Bool Sample EspEv α}
    (h : Prog.Follows enDialogo (Conectada a) m fun _ => Conectada a) :
    Prog.Follows lineaEsp (fun s q => Comunica s q ∧ q.accion = a) (conEsp m)
      fun _ s q => Comunica s q ∧ q.accion = a := by
  refine .zoom fun s0 => .pre (.and_pure (p := DeCifras s0) fun hs0 => h.post fun _ b q hq => ?_)
    fun b q hq => ?_
  · obtain ⟨hq, hb⟩ := hq
    exact ⟨⟨hq.fase, hq.conectado, hb, hs0.rfid, hs0.buffer⟩, hq.accion⟩
  · obtain ⟨rfl, hq, haccion⟩ := hq
    exact ⟨⟨⟨hq.fase, haccion, hq.conectado⟩, hq.mismo⟩, hq.cifras⟩

theorem conEsp_libre {m : Prog Bool Sample EspEv α}
    (h : ∀ a, Prog.Follows enDialogo (Conectada a) m fun _ => Conectada a) :
    Prog.Follows lineaEsp Comunica (conEsp m) fun _ => Comunica :=
  .ghost fun a => (conEsp_habla (h a)).post fun _ _ _ h => h.1

theorem sincronizar_habla :
    Prog.Follows lineaEsp Comunica (conLista sincronizarConServidor) fun _ => Comunica := by
  refine .ghost (f := Dialogo.accion) fun a => .zoom fun s0 =>
    .pre (.and_pure (p := s0.conectado = true ∧ DeCifras s0) fun hs0 =>
      (sincronizarConServidor_habla (a := a)).post fun _ _ q hq => ?_) fun _ q hq => ?_
  · exact ⟨hq.fase, hq.conectado, hs0.1, hs0.2.rfid, hs0.2.buffer⟩
  · obtain ⟨-, hq, haccion⟩ := hq
    exact ⟨⟨hq.fase, haccion, hq.conectado⟩, hq.mismo, hq.cifras⟩

theorem conTeclado_habla {m : Prog Teclado Sample TecladoEv α}
    {Q : α → Prop} (h : Prog.Follows (lineaEsp.comap .teclado) EnBuffer m
      fun r t q => EnBuffer t q ∧ Q r) :
    Prog.Follows lineaEsp Comunica (conTeclado m) fun r s q => Comunica s q ∧ Q r := by
  have hlinea := h.and_stable (R := fun q => q.fase = .lista ∧ q.conectado = true) fun _ _ hq => hq
  refine .zoom fun s0 => .pre (.and_pure (p := s0.conectado = true ∧ DeCifras s0) fun hs0 =>
    hlinea.post fun _ t q hq => ?_) fun t q hq => ?_
  · obtain ⟨⟨hbuffer, hr⟩, hfase, hcon⟩ := hq
    exact ⟨⟨hfase, hcon, hs0.1, hs0.2.rfid, hbuffer⟩, hr⟩
  · obtain ⟨rfl, hq⟩ := hq
    exact ⟨⟨hq.cifras.buffer, hq.fase, hq.conectado⟩, hq.mismo, hq.cifras⟩

theorem leerPin_habla (timer : ℤ) : Prog.Follows lineaEsp Comunica (leerPin timer)
    fun r s q => Comunica s q ∧ ∀ pin, r.1 = .completo pin → DeTeclado pin := by
  refine .bind (conTeclado_habla (Q := fun r => ∀ pin, r.1 = .completo pin → DeTeclado pin)
    (tecladoLeerPin_habla fun _ _ => ⟨trivial, rfl⟩)) fun (res, ultimaActividad) => ?_
  dsimp only
  cases res with
  | completo pin =>
    exact .bind (R := fun _ s q => Comunica s q ∧ DeTeclado pin)
      (.emit fun _ _ h => ⟨trivial, h.1, h.2 pin rfl⟩) fun _ => .pure fun _ _ h => ⟨h.1, by
        rintro _ ⟨⟩
        exact h.2⟩
  | menu => exact .pure fun _ _ h => ⟨h.1, nofun⟩
  | incompleto => exact .pure fun _ _ h => ⟨h.1, nofun⟩

theorem leerRfid_habla : Prog.Follows lineaEsp Comunica leerRfid fun _ => Comunica := by
  refine .bind (R := fun uid s q => Comunica s q ∧
    ∀ u, uid = some u → u.length ≤ 8 ∧ Cifras u) (.bind (.read (Q := fun _ => Comunica)
      fun _ _ _ h => h) fun m => .pure fun _ _ h => ⟨h, ?_⟩) fun uid => ?_
  · intro u hu
    obtain ⟨uid, -, rfl⟩ := Option.map_eq_some_iff.mp hu
    exact ⟨(uidStr_hex uid).1.le, cifras_uidStr uid⟩
  · cases uid with
    | none => exact .pure fun _ _ h => h.1
    | some uid =>
      refine .bind (R := fun _ s q => Comunica s q ∧ uid.length ≤ 8 ∧ Cifras uid)
        (.emit fun _ _ h => ⟨trivial, h.1, h.2 uid rfl⟩) fun _ =>
          .bind (R := fun _ => Comunica) (.modify fun s q h => ?_) fun _ => .pure fun _ _ h => h
      obtain ⟨hq, huid⟩ := h
      exact ⟨hq.fase, hq.conectado, hq.mismo, huid, hq.cifras.buffer⟩

theorem conSensor_habla {P : Mef → Dialogo → Prop} (m : Prog Unit Sample SensorEv α) :
    Prog.Follows lineaEsp P (conSensor m) fun _ => P :=
  .zoom_of_ignores (fun _ _ => ⟨trivial, rfl⟩) fun _ _ _ h => h

theorem conScan_habla (m : Prog Scan Sample SensorEv α) :
    Prog.Follows lineaEsp Comunica (conScan m) fun _ => Comunica :=
  .zoom_of_ignores (fun _ _ => ⟨trivial, rfl⟩) fun _ _ _ h =>
    ⟨h.fase, h.conectado, h.mismo, h.cifras.rfid, h.cifras.buffer⟩

theorem MefEv.Rutina.habla {e : MefEv} (h : e.Rutina) {s : Mef} {q : Dialogo}
    (hq : Comunica s q) : lineaEsp.Enabled q e ∧ Comunica s (lineaEsp.next q e) := by
  cases e with
  | sensor _ | esp _ | teclado _ | uidLeido _ | estado _ | accion _ _ => exact h.elim
  | _ => exact ⟨trivial, hq⟩

/-- An action is announced. -/
theorem hacer_habla {a : Accion} (ha : a.Limpia) : Prog.Follows lineaEsp Comunica (hacer a)
    fun _ s q => Comunica s q ∧ q.accion = some a :=
  .bind .get fun _ => .emit fun _ _ hq =>
    ⟨ha, ⟨hq.fase, hq.conectado, hq.mismo, hq.cifras⟩, rfl⟩

theorem Rutina.habla {m : MefProg α} (h : Rutina .cerrojo α m) :
    Prog.Follows lineaEsp Comunica m fun _ => Comunica := by
  cases h with
  | read => exact .read fun _ _ _ h => h
  | get => exact .get
  | emit he => exact .emit fun _ _ hq => he.habla hq
  | hacer ha =>
    rcases ha with rfl | rfl
    · exact (hacer_habla (a := .abrirCerradura) trivial).post fun _ _ _ h => h.1
    · exact (hacer_habla (a := .cerrarCerradura) trivial).post fun _ _ _ h => h.1
  | @irA e he =>
    refine .bind (R := fun _ => Comunica) (.emit fun s q h => ⟨trivial, ?_⟩) fun _ =>
      .modify fun _ _ h => ⟨h.fase, h.conectado, h.mismo, h.cifras.rfid, h.cifras.buffer⟩
    cases e with
    | esperandoAccion => exact ⟨h.fase, h.conectado, h.mismo, h.cifras⟩
    | _ => exact h
  | modify hf =>
    refine .modify fun s q h => ⟨h.fase, h.conectado, (hf s).conectado.trans h.mismo, ?_, ?_⟩
    · rcases (hf s).rfid with hrfid | hrfid
      · rw [hrfid]
        exact h.cifras.rfid
      · rw [hrfid]
        exact ⟨Nat.zero_le _, cifras_nil⟩
    · rw [(hf s).teclado]
      exact h.cifras.buffer
  | leerPin timer => exact (leerPin_habla timer).post fun _ _ _ h => h.1
  | leerTecla =>
    exact (conTeclado_habla (Q := fun _ => True) ((nuevaTecla_habla fun _ _ => ⟨trivial, rfl⟩).post
      fun _ _ _ h => ⟨h, trivial⟩)).post fun _ _ _ h => h.1
  | tecladoReset =>
    exact (conTeclado_habla (Q := fun _ => True) (tecladoReset_habla.post
      fun _ _ _ h => ⟨h, trivial⟩)).post fun _ _ _ h => h.1
  | leerRfid => exact leerRfid_habla
  | tiempo =>
    exact conEsp_libre fun _ => peticion_habla espObtenerTiempoServidor_habla (.bind mismoEstado
      (espHTTPGetViaAT_keeps (by decide)) fun r => by cases r <;> exact .pure mismoEstado _)
  | inicializar timeoutMs =>
    exact conEsp_libre fun _ => conexion_habla ((inicializarESP_habla timeoutMs).post
      fun _ _ _ h => h.1)
  | sincronizar => exact sincronizar_habla

/-! ### The actions of the administrator -/

/-- The table changes. -/
theorem lista_habla {P : Mef → Dialogo → Prop} {f : Mef → ListaPins}
    (h : ∀ s q l, P s q → P { s with listaPins := l } q) :
    Prog.Follows lineaEsp P (Prog.modify fun s => { s with listaPins := f s } : MefProg Unit)
      fun _ => P := .modify fun _ _ hq => h _ _ _ hq

theorem Comunica.con_lista {s : Mef} {q : Dialogo} (h : Comunica s q) (l : ListaPins) :
    Comunica { s with listaPins := l } q :=
  ⟨h.fase, h.conectado, h.mismo, h.cifras.rfid, h.cifras.buffer⟩

theorem pedirConfirmacion_keeps {path : List UInt8} {n : ℕ} (hn : 2 ≤ n) (textos : List String) :
    Prog.Keeps (@MismoEstado Bool) (pedirConfirmacion path n textos) :=
  .bind mismoEstado (espHTTPGetViaAT_keeps hn) fun r => by
    cases r <;> exact .pure mismoEstado _

theorem pedirBorrado_keeps (path : List UInt8) (texto : String) :
    Prog.Keeps (@MismoEstado Bool) (pedirBorrado path texto) :=
  .bind mismoEstado (enviarComandoAT_keeps (by decide)) fun _ => .pure mismoEstado _

theorem resetWifi_habla : Prog.Follows lineaEsp Comunica resetWifi fun _ => Comunica := by
  refine .bind (hacer_habla trivial) fun _ => .bind
    (conEsp_habla (conexion_habla resetearCredencialesESP_habla)) fun _ => ?_
  refine .ite (fun _ => ?_) fun _ => .pure fun _ _ h => h.1
  exact .bind (conEsp_habla (conexion_habla ((inicializarESP_habla 60000).post
    fun _ _ _ h => h.1))) fun _ => .pure fun _ _ h => h.1

theorem borrarTodas_habla : Prog.Follows lineaEsp Comunica borrarTodas fun _ => Comunica := by
  refine .bind (hacer_habla trivial) fun _ => .bind (conSensor_habla _) fun ok => ?_
  refine .ite (fun _ => ?_) fun _ => .pure fun _ _ h => h.1
  refine .bind (lista_habla fun _ _ l h => ⟨h.1.con_lista l, h.2⟩) fun _ => .bind
    (conEsp_habla (peticion_habla (pedirBorrado_habla .borrarTodas rfl _)
      (pedirBorrado_keeps _ _))) fun _ => .pure fun _ _ h => h.1

theorem DeRutina.habla {m : MefProg α} (h : DeRutina .cerrojo m) :
    Prog.Follows lineaEsp Comunica m fun _ => Comunica := h.follows fun _ _ hm => hm.habla

theorem pedirPin_habla (limite : TimeTest) : Prog.Follows lineaEsp Comunica (pedirPin limite)
    fun r s q => Comunica s q ∧ DeTeclado (r.getD []) := by
  have hnil : DeTeclado [] := ⟨Nat.zero_le _, cifras_nil⟩
  refine .bind tickRead_rutina.habla fun t => .bind (emit_rutina (e := .peticion) trivial).habla
    fun _ => .iter (fun _ => Comunica) (fun timer => ?_) _
  refine .bind (leerPin_habla _) fun (res, timer) => ?_
  dsimp only
  cases res
  case completo pin => exact .pure fun _ _ h => ⟨h.1, h.2 pin rfl⟩
  all_goals
    refine .pre (.bind tickRead_rutina.habla fun _ => .ite (fun _ => ?_) fun _ =>
      .pure fun _ _ h => h) fun _ _ h => h.1
    exact .bind vencerPeticion_rutina.habla fun _ => .pure fun _ _ h => ⟨h, hnil⟩

theorem leerPinValidado_habla {pinValidado : List UInt8} (hpin : DeTeclado pinValidado)
    (timer : ℤ) : Prog.Follows lineaEsp Comunica (leerPinValidado pinValidado timer)
      fun r s q => Comunica s q ∧ DeTeclado r.1 := by
  refine .bind (emit_rutina (e := .peticion) trivial).habla fun _ =>
    .iter (fun _ => Comunica) (fun timer => ?_) _
  refine .bind (leerPin_habla _) fun (res, timer) => ?_
  dsimp only
  cases res
  case completo pin => exact .pure fun _ _ h => ⟨h.1, h.2 pin rfl⟩
  all_goals
    refine .pre (.bind tickRead_rutina.habla fun _ => .ite (fun _ => ?_) fun _ =>
      .pure fun _ _ h => h) fun _ _ h => h.1
    exact .bind vencerPeticion_rutina.habla fun _ =>
      .bind (volverAEsperar_rutina trivial).habla fun _ => .pure fun _ _ h => ⟨h, hpin⟩

theorem pedirPinValidado_habla : Prog.Follows lineaEsp Comunica pedirPinValidado
    fun pin s q => Comunica s q ∧ DeTeclado pin := by
  refine .bind tickRead_rutina.habla fun t =>
    .pre (.iter (fun x s q => Comunica s q ∧ DeTeclado x.1)
      (fun (pinValidado, timer, intentos) => ?_) _) fun _ _ h => ⟨h, Nat.zero_le _, cifras_nil⟩
  refine .and_pure fun hpin => .bind (leerPinValidado_habla hpin _) fun (pin, timer) =>
    .and_pure fun hpin => .bind get_rutina.habla fun s => ?_
  refine .ite (fun _ => .pure fun _ _ h => ⟨h, hpin⟩) fun _ => .ite (fun _ => ?_) fun _ =>
    .pure fun _ _ h => ⟨h, hpin⟩
  exact .bind (volverAEsperar_rutina trivial).habla fun _ => .pure fun _ _ h => ⟨h, hpin⟩

theorem borrarUna_habla : Prog.Follows lineaEsp Comunica borrarUna fun _ => Comunica := by
  refine .bind (pedirPin_habla _) fun pinTarget => .and_pure fun hpin => .bind .get fun s => ?_
  refine .ite (fun _ => ?_) fun _ => (emit_rutina (e := .noTieneHuella) trivial).habla
  cases obtenerHuellaAsignadaPorPin s.listaPins (pinTarget.getD []) with
  | none => exact (emit_rutina (e := .noTieneHuella) trivial).habla
  | some idStr =>
    refine .bind (hacer_habla (a := .borrarHuella (pinTarget.getD []) (idSensor idStr)) hpin)
      fun _ => .bind (conSensor_habla _) fun ok =>
        .ite (fun _ => ?_) fun _ => .pure fun _ _ h => h.1
    refine .bind (lista_habla fun _ _ l h => ⟨h.1.con_lista l, h.2⟩) fun _ => .bind
      (conEsp_habla (peticion_habla (pedirBorrado_habla (.borrarHuella _) ⟨_, rfl⟩ _)
        (pedirBorrado_keeps _ _))) fun _ => .pure fun _ _ h => h.1

theorem registrarRfid_habla : Prog.Follows lineaEsp Comunica registrarRfid fun _ => Comunica := by
  refine .bind pedirPinValidado_habla fun pin => .and_pure fun hpin =>
    siSigue_follows (fun _ _ h => h) ?_
  refine .bind (pedirTarjeta_rutina trivial).habla fun _ =>
    siSigue_follows (fun _ _ h => h) (.get_bind fun s => ?_)
  refine .bind (R := fun _ t q => Comunica t q ∧ q.accion = some (.registrarRfid pin s.rfid))
    (fun c q hc => hacer_habla (a := .registrarRfid pin s.rfid) ?_ c q hc.2) fun _ => ?_
  · rw [← hc.1]
    exact ⟨hpin, hc.2.cifras.rfid⟩
  refine .bind (lista_habla fun _ _ l h => ⟨h.1.con_lista l, h.2⟩) fun _ => .bind
    (conEsp_habla (peticion_habla (pedirConfirmacion_habla (.rfid pin s.rfid) rfl
      (by decide) _) (pedirConfirmacion_keeps (by decide) _))) fun _ => ?_
  exact (volverAEsperar_rutina trivial).habla.pre fun _ _ h => h.1

theorem enrolar_habla {pin : List UInt8} (hpin : DeTeclado pin) (id : UInt16) :
    Prog.Follows lineaEsp Comunica (enrolar pin id) fun r s q => Comunica s q ∧
      ∀ idOut, r = some idOut → (Ruta.huella pin idOut).Corresponde q.accion := by
  refine .iter (fun _ => Comunica) (fun intentos => ?_) 0
  refine .ite (fun _ => ?_) fun _ => .pure fun _ _ h => ⟨h, nofun⟩
  refine .bind (hacer_habla (a := .enrolarHuella pin id) hpin) fun _ => .bind
    (R := fun r s q => (Comunica s q ∧ q.accion = some (.enrolarHuella pin id)) ∧
      ∀ idOut, r = some idOut → idOut = (sprintf04 id.toNat).take 4) ?_ fun r => ?_
  · refine ((conSensor_habla _).and_wp (R := fun _ => True) fun c _ => Prog.wp_zoom
      (as608EnrollAtId_wp id) (fun _ _ => trivial) fun r _ h idOut hr => ?_).pre
        fun _ _ h => ⟨h, trivial⟩
    exact (h idOut hr).2.1
  · cases r with
    | none => exact .pure fun _ _ h => h.1.1
    | some idResultado =>
      refine .pure fun _ _ h => ⟨h.1.1, ?_⟩
      rintro _ ⟨⟩
      exact ⟨id, h.1.2, h.2 _ rfl⟩

theorem registrarHuella_habla :
    Prog.Follows lineaEsp Comunica registrarHuella fun _ => Comunica := by
  refine .bind pedirPinValidado_habla fun pin => .and_pure fun hpin =>
    siSigue_follows (fun _ _ h => h) (.bind .get fun s => ?_)
  cases obtenerHuellaAsignadaPorPin s.listaPins pin with
  | none => exact marcarPresencia_rutina.habla
  | some idHuellaStr =>
    refine .bind (enrolar_habla hpin _) fun r => ?_
    cases r with
    | none => exact (volverAEsperar_rutina trivial).habla.pre fun _ _ h => h.1
    | some idResultado =>
      refine .bind (R := fun _ s q => Comunica s q ∧ (Ruta.huella pin idResultado).Corresponde
        q.accion) (.modify fun _ _ h => ⟨h.1.con_lista _, h.2 _ rfl⟩) fun _ =>
          .ghost (f := Dialogo.accion) fun a => ?_
      have hsube (hruta : (Ruta.huella pin idResultado).Corresponde a) :=
        conEsp_habla (peticion_habla (pedirConfirmacion_habla _ (n := 512) hruta (by decide)
          ["UPDATED OK"]) (pedirConfirmacion_keeps (by decide) _))
      refine .pre (.and_pure fun hruta => .bind (hsube hruta) fun _ => ?_) fun _ q h =>
        ⟨⟨h.1.1, h.2⟩, h.2 ▸ h.1.2⟩
      exact .bind ((esperarPin_rutina trivial).habla.pre fun _ _ h => h.1) fun _ =>
        marcarPresencia_rutina.habla

/-! ### The start -/

theorem espReadByte_habla : Prog.Follows enDialogo (fun b q => Habla none b q)
    (espReadByte : Prog Bool Sample EspEv _) fun _ b q => Habla none b q := by
  refine .bind (.read fun _ _ _ h => h) fun m => ?_
  cases m.espRx with
  | none => exact .pure fun _ _ h => h
  | some b =>
    exact .bind (.emit fun _ _ h => ⟨trivial, ⟨h.fase, h.accion, h.conectado⟩⟩) fun _ =>
      .pure fun _ _ h => h

theorem espATInit_habla : Prog.Follows enDialogo (fun b q => b = false ∧ q = .inicial) espATInit
    fun _ b q => Habla none b q := by
  refine .bind (R := fun _ b q => b = false ∧ q = { Dialogo.inicial with fase := .reinicio })
    (.emit fun _ q h => ?_) fun _ => .bind (.emit fun b q h => ?_) fun _ =>
      .iter (fun _ b q => Habla none b q) (fun _ => .bind espReadByte_habla fun r => ?_) ()
  · obtain ⟨hb, rfl⟩ := h
    exact ⟨rfl, hb, rfl⟩
  · obtain ⟨rfl, rfl⟩ := h
    exact ⟨rfl, rfl, rfl, rfl⟩
  · cases r with
    | none => exact .pure fun _ _ h => h
    | some _ => exact .pure fun _ _ h => h

/-- Before the connection. -/
def Inicia (s : Mef) (q : Dialogo) : Prop := Habla none s.conectado q ∧ DeCifras s

theorem inicia_habla {P : Bool → Dialogo → Prop} {Q : α → Bool → Dialogo → Prop}
    {m : Prog Bool Sample EspEv α}
    (h : Prog.Follows enDialogo P m fun r b q => Habla none b q ∧ Q r b q) :
    Prog.Follows lineaEsp (fun s q => P s.conectado q ∧ DeCifras s) (conEsp m)
      fun r s q => Inicia s q ∧ Q r s.conectado q := by
  refine .zoom fun s0 => .pre (.and_pure (p := DeCifras s0) fun hs0 => h.post fun _ b q hq =>
    ⟨⟨hq.1, hs0.rfid, hs0.buffer⟩, hq.2⟩) fun b q hq => ?_
  obtain ⟨rfl, hq⟩ := hq
  exact hq

theorem mefInit_habla : Prog.Follows lineaEsp (fun s q => s = .inicial ∧ q = .inicial) mefInit
    fun _ => Comunica := by
  have hwifi (ms : UInt32) : Prog.Follows lineaEsp Inicia (conEsp (inicializarESP ms))
      fun ok s q => Inicia s q ∧ (ok = true → s.conectado = true) :=
    inicia_habla (inicializarESP_habla ms)
  have hinit : Prog.Follows lineaEsp (fun s q => (s.conectado = false ∧ q = .inicial) ∧ DeCifras s)
      (conEsp espATInit) fun _ s q => Inicia s q ∧ True :=
    inicia_habla (espATInit_habla.post fun _ _ _ h => ⟨h, trivial⟩)
  refine .bind (R := fun _ => Inicia) (hinit.mono (fun s q h => ?_) fun _ _ _ h => h.1) fun _ =>
    .bind (hwifi 10000) fun wifiOk => .bind (R := fun _ => Comunica) ?_ fun _ => ?_
  · obtain ⟨rfl, rfl⟩ := h
    exact ⟨⟨rfl, rfl⟩, ⟨Nat.zero_le _, cifras_nil⟩, cifras_nil⟩
  · refine .iter (fun wifiOk s q => Inicia s q ∧ (wifiOk = true → s.conectado = true))
      (fun wifiOk => .ite (fun hok => .pure fun s q h => ?_) fun _ => ?_) _
    · have hcon := h.2 hok
      exact ⟨h.1.1.fase, h.1.1.conectado.trans hcon, hcon, h.1.2⟩
    · exact .bind ((hwifi 5000).pre fun _ _ h => h.1) fun _ => .pure fun _ _ h => h
  · refine .bind sincronizar_habla fun _ => .bind (conSensor_habla _) fun _ =>
      .bind (R := fun _ => Comunica) (.modify fun _ _ h => ?_) fun _ =>
        (volverAEsperar_rutina trivial).habla
    exact ⟨h.fase, h.conectado, h.mismo, h.cifras.rfid, h.cifras.buffer⟩

theorem comunica_conserva : Conserva lineaEsp Comunica where
  operacion := fun _ _ h => h.habla
  escaneo := conScan_habla _
  resetWifi := resetWifi_habla
  sincronizar := (hacer_habla (a := .sincronizar) trivial).post fun _ _ _ h => h.1
  borrarTodas := borrarTodas_habla
  borrarUna := borrarUna_habla
  registrarRfid := registrarRfid_habla
  registrarHuella := registrarHuella_habla

end Maquina

/-! ## Who asks -/

/-- The last action is `a`, and the lock has not been idle since. -/
def EnMarcha (traza : List MefEv) (a : Accion) : Prop :=
  ∃ desde lista antes, traza = desde ++ .accion lista a :: antes ∧
    ∀ e ∈ desde, e ≠ .estado .esperandoAccion ∧ ∀ lista b, e ≠ .accion lista b

/-- The request reads, or repeats what the administrator has done with the digits
that were typed and the card that was read. -/
def Ruta.Pedida (antes : List MefEv) (ruta : Ruta) : Prop :=
  ruta = .pins ∨ ruta = .estado ∨
    ∃ a, EnMarcha antes a ∧ a.Limpia ∧ ruta.Corresponde (some a)

def esGet (s : List UInt8) : Bool := s.take 4 = ascii "GET "

/-- What the rest of the world may be told. -/
def Debida (traza : List MefEv) : Prop :=
  ∀ despues s antes, traza = despues ++ .esp (.tx s) :: antes →
    ((esConsulta s ∨ esGet s) → ∃ ruta : Ruta,
      (s = httpCGet ruta.texto ∨ s = peticionGet ruta.texto) ∧ ruta.Pedida antes) ∧
    (s = ascii "AT+RESTORE" → EnMarcha antes .resetWifi)

theorem EnMarcha.cons {traza : List MefEv} {a : Accion} {e : MefEv} (h : EnMarcha traza a)
    (hestado : e ≠ .estado .esperandoAccion) (haccion : ∀ lista b, e ≠ .accion lista b) :
    EnMarcha (e :: traza) a := by
  obtain ⟨desde, lista, antes, rfl, hdesde⟩ := h
  exact ⟨e :: desde, lista, antes, rfl, List.forall_mem_cons.mpr ⟨⟨hestado, haccion⟩, hdesde⟩⟩

theorem next_accionEsp {q : Dialogo} {e : MefEv} {a : Accion}
    (h : (lineaEsp.next q e).accion = some a) : (∃ lista, e = .accion lista a) ∨
      q.accion = some a ∧ e ≠ .estado .esperandoAccion ∧ ∀ lista b, e ≠ .accion lista b := by
  cases e with
  | accion lista b => exact .inl ⟨lista, congrArg _ (Option.some_inj.mp h)⟩
  | estado e =>
    cases e with
    | esperandoAccion => exact absurd h (Option.some_ne_none a).symm
    | _ => exact .inr ⟨h, by simp, by simp⟩
  | esp e =>
    refine .inr ⟨?_, by simp, by simp⟩
    cases e with
    | tx s =>
      obtain ⟨fase, accion, conectado, previa, respuesta, consulta⟩ := q
      cases fase <;> exact h
    | rx b => exact h
  | _ => exact .inr ⟨h, by simp, by simp⟩

/-- The action in progress is the last one, and it is made of digits. -/
theorem enMarcha_de_accion {traza : List MefEv} {a : Accion}
    (hlegal : lineaEsp.Legal .inicial traza)
    (h : (lineaEsp.after .inicial traza).accion = some a) : EnMarcha traza a ∧ a.Limpia := by
  induction traza with
  | nil => exact absurd h (Option.some_ne_none a).symm
  | cons e traza ih =>
    obtain ⟨hantes, he⟩ := hlegal
    rcases next_accionEsp h with ⟨lista, rfl⟩ | ⟨haccion, hotro⟩
    · exact ⟨⟨[], lista, traza, rfl, fun _ h => absurd h List.not_mem_nil⟩, he⟩
    · obtain ⟨hmarcha, hlimpia⟩ := ih hantes haccion
      exact ⟨hmarcha.cons hotro.1 hotro.2, hlimpia⟩

theorem Ruta.Corresponde.pedida {ruta : Ruta} {traza : List MefEv}
    (hlegal : lineaEsp.Legal .inicial traza)
    (h : ruta.Corresponde (lineaEsp.after .inicial traza).accion) : ruta.Pedida traza := by
  have hpedida {a : Accion} (ha : (lineaEsp.after .inicial traza).accion = some a) :
      ruta.Pedida traza := by
    obtain ⟨hmarcha, hlimpia⟩ := enMarcha_de_accion hlegal ha
    exact .inr (.inr ⟨a, hmarcha, hlimpia, ha ▸ h⟩)
  cases ruta with
  | pins => exact .inl rfl
  | estado => exact .inr (.inl rfl)
  | rfid pin rfidHex => exact hpedida h
  | huella pin idHuella =>
    obtain ⟨page, ha, -⟩ := h
    exact hpedida ha
  | borrarHuella pin =>
    obtain ⟨page, ha⟩ := h
    exact hpedida ha
  | borrarTodas => exact hpedida h

theorem esGet_cipSend (path : List UInt8) : esGet (cipSend path) = false := by
  unfold esGet cipSend
  rw [List.take_append_of_le_length (by decide)]
  decide

/-- The commands that ask the server for something. -/
theorem Dialogo.Acepta.ruta {q : Dialogo} {s : List UInt8} (h : q.Acepta s)
    (hs : esConsulta s ∨ esGet s) : ∃ ruta : Ruta,
      (s = httpCGet ruta.texto ∨ s = peticionGet ruta.texto) ∧ ruta.Corresponde q.accion := by
  cases h with
  | consulta hcon hruta => exact ⟨_, .inl rfl, hruta⟩
  | pide hprevia hresp hconsulta hruta => exact ⟨_, .inr rfl, hruta⟩
  | envia =>
    rw [esConsulta_cipSend, esGet_cipSend] at hs
    exact absurd hs (by decide)
  | _ => exact absurd hs (by decide)

theorem esGet_peticionGet (path : List UInt8) : esGet (peticionGet path) = true := by
  unfold esGet peticionGet
  simp only [List.append_assoc]
  rw [List.take_append_of_le_length (by decide)]
  decide

theorem Dialogo.Acepta.accion_restore {q : Dialogo} {s : List UInt8} (h : q.Acepta s)
    (hs : s = ascii "AT+RESTORE") : q.accion = some .resetWifi := by
  have hcmd : esConsulta s = false ∧ esGet s = false ∧ s.take 6 ≠ ascii "AT+CIP" := by
    rw [hs]
    decide
  cases h with
  | restaura haccion => exact haccion
  | consulta =>
    rw [esConsulta_httpCGet] at hcmd
    exact absurd hcmd.1 (by decide)
  | pide =>
    rw [esGet_peticionGet] at hcmd
    exact absurd hcmd.2.1 (by decide)
  | envia =>
    refine absurd ?_ hcmd.2.2
    rw [cipSend, List.take_append_of_le_length (by decide)]
    decide
  | _ => exact absurd hs (by decide)

/-- They are commands of the dialogue, and no greeting and no end of line. -/
theorem acepta_of_enabled {q : Dialogo} {s : List UInt8} (h : lineaEsp.Enabled q (.esp (.tx s)))
    (hs : (esConsulta s ∨ esGet s) ∨ s = ascii "AT+RESTORE") : q.Acepta s := by
  obtain ⟨fase, accion, conectado, previa, respuesta, consulta⟩ := q
  cases fase with
  | lista => exact h
  | _ =>
    rw [show s = _ from h] at hs
    exact absurd hs (by decide)

/-! ## Runs -/

theorem comunica_legal (n : ℕ) (inputs : List Sample) :
    lineaEsp.Legal .inicial (principal n ⟨Mef.inicial, inputs, []⟩).2.trace :=
  (comunica_conserva.principal mefInit_habla n).legal_of_nil ⟨rfl, rfl⟩ rfl

/-- At any moment of any run the traffic to the module follows the dialogue. -/
theorem dialogo_en_orden (n : ℕ) (inputs : List Sample) :
    lineaEsp.Legal .inicial (principal n ⟨Mef.inicial, inputs, []⟩).2.trace :=
  comunica_legal n inputs

/-- The server is asked for a change, and the module for its reset, only in the
course of the action of the administrator that says so. -/
theorem peticiones_debidas (n : ℕ) (inputs : List Sample) :
    Debida (principal n ⟨Mef.inicial, inputs, []⟩).2.trace := by
  intro despues s antes htraza
  have hlegal := comunica_legal n inputs
  rw [htraza] at hlegal
  have hantes : lineaEsp.Legal .inicial antes := (Machine.legal_append.mp hlegal).1.1
  have hacepta := acepta_of_enabled hlegal.enabled
  refine ⟨fun hs => ?_, fun hs => ?_⟩
  · obtain ⟨ruta, htexto, hruta⟩ := (hacepta (.inl hs)).ruta hs
    exact ⟨ruta, htexto, hruta.pedida hantes⟩
  · exact (enMarcha_de_accion hantes ((hacepta (.inr hs)).accion_restore hs)).1

end Cerradura
