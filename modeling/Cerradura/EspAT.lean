import Cerradura.EspJson
import Cerradura.Hardware
import Mathlib.Data.Int.Log
import Mathlib.Data.Rat.Floor

/-!
# The AT commands of the ESP module

`enviarComandoAT` sends a command and collects what comes back until its buffer
is full, nothing has come for a second, or the time is up. Everything else of
espAT.c goes through it. `delay` is not modelled: the clock of the samples
advances as it likes.

Results:
1. `enviarComandoAT_wp`: the answer is what arrived, and fits its buffer.
2. `entrega_posible`: any answer can be delivered, up to the size of the buffer.
-/

namespace Cerradura

open Reactive CText

variable {σ : Type}

/-! ## enviarComandoAT -/

/-- The bytes of `respuesta`, a buffer of `maxLen` bytes. -/
def enviarComandoAT (cmd : List UInt8) (maxLen : ℕ) (timeoutMs : UInt32) :
    Prog σ Sample EspEv (List UInt8) := do
  Prog.emit (.tx cmd)
  Prog.emit (.tx [0x0D, 0x0A])
  let t ← tickRead
  let start := (TimeTest.comandoAT timeoutMs).keep t
  Prog.iter (fun (respuesta, lastByteTime) => do
    let now ← tickRead
    if (TimeTest.comandoAT timeoutMs).holds now start then
      match ← espReadByte with
      | some b =>
        let respuesta := if respuesta.length < maxLen - 1 then respuesta ++ [b] else respuesta
        if maxLen - 1 ≤ respuesta.length then pure (.inr respuesta)
        else
          let t ← tickRead
          pure (.inl (respuesta, TimeTest.comandoATIdle.keep t))
      | none =>
        if 0 < respuesta.length then
          let now ← tickRead
          if TimeTest.comandoATIdle.holds now lastByteTime then pure (.inr respuesta)
          else pure (.inl (respuesta, lastByteTime))
        else pure (.inl (respuesta, lastByteTime))
    else pure (.inr respuesta)) ([], TimeTest.comandoATIdle.keep t)

/-- `strstr(resp, pat) != NULL` -/
def contiene (resp : List UInt8) (pat : String) : Bool := (strstr (ascii pat) (cString resp)).isSome

/-! ## HTTP -/

/-- SERVER_IP and SERVER_PORT of mef_config.h -/
def serverIp : List UInt8 := ascii "10.42.46.87"

def serverPort : List UInt8 := ascii "8000"

/-- A GET over a TCP connection: the answer, if there is one. -/
def espRawHTTPGet (path : List UInt8) (bufferSize : ℕ) :
    Prog σ Sample EspEv (Option (List UInt8)) := do
  let _ ← enviarComandoAT (ascii "AT+CIPCLOSE") 128 500
  let cmd := ascii "AT+CIPSTART=\"TCP\",\"" ++ serverIp ++ ascii "\"," ++ serverPort
  let aux ← enviarComandoAT cmd 128 15000
  if aux.length = 0 ∨ contiene aux "ERROR" then pure none
  else
    let request := ascii "GET " ++ path ++ ascii " HTTP/1.1\r\nHost: " ++ serverIp ++ ascii ":" ++
      serverPort ++ ascii "\r\nConnection: close\r\n\r\n"
    let aux ← enviarComandoAT (ascii "AT+CIPSEND=" ++ decimal request.length) 128 2000
    if !contiene aux ">" then pure none
    else
      let resp ← enviarComandoAT request bufferSize 5000
      if 0 < resp.length then pure (some resp) else pure none

/-- A GET by the module itself, and over TCP if that gives nothing. -/
def espHTTPGetViaAT (path : List UInt8) (bufferSize : ℕ) :
    Prog σ Sample EspEv (Option (List UInt8)) := do
  let cmd := ascii "AT+HTTPCGET=\"http://" ++ serverIp ++ ascii ":" ++ serverPort ++ path ++
    ascii "\""
  let resp ← enviarComandoAT cmd bufferSize 10000
  if 0 < resp.length ∧
      ((strchr llaveIzq (cString resp)).isSome ∨ contiene resp "HTTP/" ∨
        contiene resp "+HTTPCGET:") then
    pure (some resp)
  else espRawHTTPGet path bufferSize

/-! ## The requests of the lock -/

/-- The buffer for the list of users, `httpResp[2048]`. -/
def httpRespSize : ℕ := 2048

def rutaPins : List UInt8 := ascii "/syncPins/?allPins=true"

def espHTTPGetPins (maxPins : ℕ) : Prog σ Sample EspEv (List PinUsuario) := do
  if maxPins = 0 then pure []
  else
    match ← espHTTPGetViaAT rutaPins httpRespSize with
    | none => pure []
    | some httpResp => pure (extraerPins httpResp maxPins)

/-- A request that succeeds when the answer holds one of some texts. -/
def pedirConfirmacion (path : List UInt8) (bufferSize : ℕ) (textos : List String) :
    Prog σ Sample EspEv Bool := do
  match ← espHTTPGetViaAT path bufferSize with
  | some resp => pure (textos.any (contiene resp))
  | none => pure false

def espEnviarNuevaHuella (pin idHuella : List UInt8) : Prog σ Sample EspEv Bool :=
  pedirConfirmacion (ascii "/update-huella?pin=" ++ pin ++ ascii "&huella=" ++ idHuella) 512
    ["UPDATED OK"]

def espEnviarNuevoRFID (pin rfidHex : List UInt8) : Prog σ Sample EspEv Bool :=
  pedirConfirmacion (ascii "/update-rfid?pin=" ++ pin ++ ascii "&rfid=" ++ rfidHex) 256
    ["UPDATED OK", "200 OK", "\"ok\"", "UPDATED"]

/-- A deletion, which does not fall back on TCP. -/
def pedirBorrado (ruta : List UInt8) (texto : String) : Prog σ Sample EspEv Bool := do
  let url := ascii "http://" ++ serverIp ++ ascii ":" ++ serverPort ++ ruta
  let resp ← enviarComandoAT (ascii "AT+HTTPCGET=\"" ++ url ++ ascii "\"") 128 4000
  pure (0 < resp.length && contiene resp texto)

def espBorrarHuellaServidor (pin : List UInt8) : Prog σ Sample EspEv Bool :=
  pedirBorrado (ascii "/delete-huella?pin=" ++ pin) "DELETED OK"

def espBorrarTodasHuellasServidor : Prog σ Sample EspEv Bool :=
  pedirBorrado (ascii "/clear-all-huellas") "ALL CLEARED OK"

/-! ## The version of the table -/

/-- The double nearest to a positive number, the even one of two. From `2^1024`
on it is infinity. -/
def redondear (x : ℚ) : ℚ :=
  let e : ℤ := max (-1074) (Int.log 2 x - 52)
  let m := x / 2 ^ e
  let resto := m - ⌊m⌋
  let n := if resto < 1 / 2 ∨ (resto = 1 / 2 ∧ ⌊m⌋ % 2 = 0) then ⌊m⌋ else ⌊m⌋ + 1
  min (2 ^ 1024) (n * 2 ^ e)

/-- `atof` of a decimal: blanks, a sign, digits, a fraction and an exponent. -/
def atof (s : List UInt8) : ℚ :=
  let s := s.dropWhile isspace
  let (negativo, s) := match s with
    | 45 :: rest => (true, rest)
    | 43 :: rest => (false, rest)
    | s => (false, s)
  let entero := s.takeWhile isDecimalDigit
  let s := s.dropWhile isDecimalDigit
  let fraccion := match s with
    | 46 :: rest => rest.takeWhile isDecimalDigit
    | _ => []
  let s := match s with
    | 46 :: rest => rest.dropWhile isDecimalDigit
    | s => s
  let exponente := match s with
    | 101 :: rest | 69 :: rest => atoiExponente rest
    | _ => 0
  let valor : ℚ := numero (entero ++ fraccion) * 10 ^ (exponente - fraccion.length)
  if valor = 0 then 0 else if negativo then - redondear valor else redondear valor
where
  -- no blanks between the `e` and its digits
  atoiExponente : List UInt8 → ℤ
    | [] => 0
    | b :: rest => if isspace b then 0 else atoi (b :: rest)

/-- The `last_update` that the server gives, and a negative number where there is
none. -/
def espObtenerTiempoServidor : Prog σ Sample EspEv ℚ := do
  match ← espHTTPGetViaAT (ascii "/check-status") 1024 with
  | none => pure (-1)
  | some resp =>
    let val := do
      let jsonBody ← strchr llaveIzq (cString resp)
      let ptr ← strstr (quoted comilla (ascii "last_update")) jsonBody
      let ptr ← strchr dosPuntos ptr
      let val := atof ptr.tail
      if val > 1000000 then some val else none
    pure (val.getD (-1))

/-! ## The connection -/

/-- Wait until the module answers `OK`. -/
def esperarOK (timeoutMs : UInt32) : Prog σ Sample EspEv Bool := do
  let start := (TimeTest.inicializarESP timeoutMs).keep (← tickRead)
  Prog.iter (fun _ => do
    let now ← tickRead
    if (TimeTest.inicializarESP timeoutMs).holds now start then
      let resp ← enviarComandoAT (ascii "AT") 256 1000
      if 0 < resp.length ∧ contiene resp "OK" then pure (.inr true) else pure (.inl ())
    else pure (.inr false)) ()

/-- Wait for an IP, resetting the module after four rounds. -/
def esperarIP : Prog Bool Sample EspEv Unit := do
  let waitStart := TimeTest.inicializarESPWait.keep (← tickRead)
  Prog.iter (fun count => do
    let now ← tickRead
    if TimeTest.inicializarESPWait.holds now waitStart then
      let resp ← enviarComandoAT (ascii "AT+CIPSTATUS") 256 1000
      if contiene resp "STATUS:2" ∨ contiene resp "STATUS:3" then
        let _ ← enviarComandoAT (ascii "AT+CIFSR") 256 1000
        Prog.modify fun _ => true
        pure (.inr ())
      else
        if count + 1 = 4 then
          let _ ← enviarComandoAT (ascii "AT+RST") 256 1000
        pure (.inl (count + 1))
    else pure (.inr ())) 0

/-- The state is the variable `conectado`, which nothing clears. -/
def inicializarESP (timeoutMs : UInt32) : Prog Bool Sample EspEv Bool := do
  let ok ← esperarOK timeoutMs
  if !ok then pure false
  else
    let _ ← enviarComandoAT (ascii "AT+CWMODE=1") 256 1000
    let _ ← enviarComandoAT (ascii "AT+CIPMUX=0") 256 1000
    let _ ← enviarComandoAT (ascii "AT+CWAUTOCONN=1") 256 1000
    esperarIP
    let conectado ← Prog.get
    if conectado then pure true
    else
      let _ ← enviarComandoAT (ascii "AT+BLUFINAME=\"cerradura\"") 256 2000
      let _ ← enviarComandoAT (ascii "AT+BLUFI=1") 256 2000
      pure false

/-- The loop over the reply to AT+RESTORE, for a reply of at least three bytes. -/
def buscarOK (resp : List UInt8) : Bool :=
  (List.range (resp.length - 3)).any fun i =>
    resp[i]? = some 0x4F ∧ resp[i + 1]? = some 0x4B ∧
      (resp[i + 2]? = some 0x0D ∨ resp[i + 2]? = some 0x0A)

def resetearCredencialesESP : Prog Bool Sample EspEv Bool := do
  let resp ← enviarComandoAT (ascii "AT+RESTORE") 512 5000
  if resp.length = 0 then pure false
  else
    -- below three bytes `n - 3` wraps, and the loop runs past the reply
    let m ← Prog.read
    let foundOK := if resp.length < 3 then m.basura else buscarOK resp
    if foundOK then
      let _ ← inicializarESP 10000
      pure true
    else pure false

/-! ## The answer of a command -/

/-- The bytes that arrived, the last one first. -/
def recibidos (trace : List EspEv) : List UInt8 :=
  trace.filterMap fun
    | .rx b => some b
    | .tx _ => none

theorem recibidos_append (evs evs' : List EspEv) :
    recibidos (evs ++ evs') = recibidos evs ++ recibidos evs' := List.filterMap_append

theorem recibidos_map_rx (bs : List UInt8) : recibidos (bs.map EspEv.rx) = bs := by
  induction bs with
  | nil => rfl
  | cons b bs ih =>
    show b :: recibidos (bs.map EspEv.rx) = b :: bs
    rw [ih]

/-- What a command leaves on the line: itself, and what arrived in the meantime. -/
def tramaComando (cmd resp : List UInt8) : List EspEv :=
  resp.reverse.map EspEv.rx ++ [.tx [0x0D, 0x0A], .tx cmd]

/-- The answer is all that has arrived since the command, and fits its buffer. -/
theorem enviarComandoAT_traza {cmd : List UInt8} {maxLen : ℕ} (hmax : 2 ≤ maxLen)
    {timeoutMs : UInt32} {c : Config σ Sample EspEv} :
    (enviarComandoAT cmd maxLen timeoutMs).wp
      (fun c' => c'.st = c.st ∧ ∃ resp, c'.trace = tramaComando cmd resp ++ c.trace)
      (fun resp c' => c'.st = c.st ∧ resp.length ≤ maxLen - 1 ∧
        c'.trace = tramaComando cmd resp ++ c.trace) c := by
  unfold enviarComandoAT
  simp only [Prog.wp_bind, Prog.wp_emit]
  refine wp_tickRead (fun _ => ⟨rfl, [], rfl⟩) fun m rest _ => ?_
  refine Prog.wp_iter (fun x c' => c'.st = c.st ∧ x.1.length < maxLen - 1 ∧
    c'.trace = tramaComando cmd x.1 ++ c.trace) (fun x c' h => ⟨h.1, x.1, h.2.2⟩) ?_
    ⟨rfl, Nat.le_sub_of_add_le hmax, rfl⟩
  rintro ⟨respuesta, lastByteTime⟩ c' ⟨hst, hlen, htraza⟩
  dsimp only at hlen htraza ⊢
  rw [Prog.wp_bind]
  refine wp_tickRead (fun _ => ⟨hst, _, htraza⟩) fun m rest _ => ?_
  refine Prog.wp_ite (fun _ => ?_) fun _ => ⟨hst, Nat.le_of_lt hlen, htraza⟩
  rw [Prog.wp_bind]
  refine wp_espReadByte (fun _ => ⟨hst, _, htraza⟩) (fun m rest _ _ => ?_) fun m rest b _ _ => ?_
  · refine Prog.wp_ite (fun _ => ?_) fun _ => ⟨hst, hlen, htraza⟩
    rw [Prog.wp_bind]
    refine wp_tickRead (fun _ => ⟨hst, _, htraza⟩) fun m rest _ => ?_
    exact Prog.wp_ite (fun _ => ⟨hst, Nat.le_of_lt hlen, htraza⟩) fun _ => ⟨hst, hlen, htraza⟩
  · have hmas : EspEv.rx b :: c'.trace = tramaComando cmd (respuesta ++ [b]) ++ c.trace := by
      rw [htraza, tramaComando, tramaComando, List.reverse_append]
      rfl
    dsimp only
    simp only [if_pos hlen]
    refine Prog.wp_ite (fun _ => ⟨hst, ?_, hmas⟩) fun hroom => ?_
    · rw [List.length_append]
      exact hlen
    · rw [Prog.wp_bind]
      exact wp_tickRead (fun _ => ⟨hst, _, hmas⟩) fun m rest _ => ⟨hst, not_le.mp hroom, hmas⟩

/-- The answer fits its buffer, and is what arrived in the meantime. -/
theorem enviarComandoAT_wp {cmd : List UInt8} {maxLen : ℕ} (hmax : 2 ≤ maxLen)
    {timeoutMs : UInt32} {c : Config σ Sample EspEv} :
    (enviarComandoAT cmd maxLen timeoutMs).wp (fun c' => c'.st = c.st)
      (fun resp c' => c'.st = c.st ∧ resp.length ≤ maxLen - 1 ∧
        recibidos c'.trace = resp.reverse ++ recibidos c.trace) c := by
  refine Prog.wp_mono (enviarComandoAT_traza hmax) (fun _ h => h.1) fun resp c' h => ?_
  obtain ⟨hst, hlen, htraza⟩ := h
  refine ⟨hst, hlen, ?_⟩
  rw [htraza, tramaComando, recibidos_append, recibidos_append, recibidos_map_rx]
  exact congrArg (· ++ recibidos c.trace) (List.append_nil _)

/-! ## What the commands leave alone -/

/-- The state is the same before and after. -/
def MismoEstado (c c' : Config σ Sample EspEv) : Prop := c'.st = c.st

theorem mismoEstado : Prog.Composable (@MismoEstado σ) :=
  ⟨fun _ => rfl, fun h h' => h'.trans h⟩

theorem enviarComandoAT_keeps {cmd : List UInt8} {maxLen : ℕ} (hmax : 2 ≤ maxLen)
    {timeoutMs : UInt32} :
    Prog.Keeps (@MismoEstado σ) (enviarComandoAT cmd maxLen timeoutMs) := by
  intro c
  have h : (enviarComandoAT cmd maxLen timeoutMs).wp _ _ c := enviarComandoAT_wp hmax
  unfold Prog.wp at h
  split at h
  · next heq =>
    rw [heq]
    exact h.1
  · next heq =>
    rw [heq]
    exact h

theorem espRawHTTPGet_keeps {path : List UInt8} {bufferSize : ℕ} (hsize : 2 ≤ bufferSize) :
    Prog.Keeps (@MismoEstado σ) (espRawHTTPGet path bufferSize) := by
  unfold espRawHTTPGet
  refine .bind mismoEstado (enviarComandoAT_keeps (by decide)) fun _ => ?_
  refine .bind mismoEstado (enviarComandoAT_keeps (by decide)) fun aux => ?_
  refine .ite (fun _ => .pure mismoEstado _) fun _ => ?_
  refine .bind mismoEstado (enviarComandoAT_keeps (by decide)) fun aux => ?_
  refine .ite (fun _ => .pure mismoEstado _) fun _ => ?_
  refine .bind mismoEstado (enviarComandoAT_keeps hsize) fun resp => ?_
  exact .ite (fun _ => .pure mismoEstado _) fun _ => .pure mismoEstado _

/-- A download leaves the state of the lock alone. -/
theorem espHTTPGetViaAT_keeps {path : List UInt8} {bufferSize : ℕ} (hsize : 2 ≤ bufferSize) :
    Prog.Keeps (@MismoEstado σ) (espHTTPGetViaAT path bufferSize) := by
  unfold espHTTPGetViaAT
  refine .bind mismoEstado (enviarComandoAT_keeps hsize) fun resp => ?_
  exact .ite (fun _ => .pure mismoEstado _) fun _ => espRawHTTPGet_keeps hsize

/-! ## Deliveries -/

/-- Bytes that arrive at once, and a last look at the clock. -/
def llegada (bs : List UInt8) (fin : ℕ) : List Sample :=
  bs.flatMap (fun b => [Sample.quiet 0, { Sample.quiet 0 with espRx := some b }, Sample.quiet 0]) ++
    [Sample.quiet fin]

theorem llegada_cons (b : UInt8) (bs : List UInt8) (fin : ℕ) : llegada (b :: bs) fin =
    Sample.quiet 0 :: { Sample.quiet 0 with espRx := some b } :: Sample.quiet 0 ::
      llegada bs fin := rfl

theorem enviarComandoAT_llegada {cmd : List UInt8} {maxLen : ℕ} (hmax : 2 ≤ maxLen)
    {timeoutMs : UInt32} (htime : 0 < timeoutMs.toNat) {bs : List UInt8}
    {c : Config σ Sample EspEv}
    (hc : c.inputs = Sample.quiet 0 :: llegada bs timeoutMs.toNat) :
    (enviarComandoAT cmd maxLen timeoutMs).wp (fun _ => False)
      (fun resp _ => resp = bs.take (maxLen - 1)) c := by
  have hgoing : (TimeTest.comandoAT timeoutMs).holds 0 0 = true := decide_eq_true htime
  have hover : (TimeTest.comandoAT timeoutMs).holds timeoutMs.toNat 0 = false := by
    have hlt : timeoutMs.toNat < 2 ^ 64 := lt_trans timeoutMs.toNat_lt (by decide)
    have hsince : Elapsed.since 64 timeoutMs.toNat ((0 : ℕ) : ℤ) = timeoutMs.toNat - 0 :=
      Elapsed.since_exact (Nat.zero_le _) hlt
    rw [Nat.cast_zero] at hsince
    refine decide_eq_false ?_
    rw [hsince]
    exact Nat.lt_irrefl _
  unfold enviarComandoAT
  simp only [Prog.wp_bind, Prog.wp_emit]
  refine wp_tickRead_cons hc ?_
  refine Prog.wp_iter_total (fun x c' => ∃ ys, bs = x.1 ++ ys ∧ x.1.length < maxLen - 1 ∧
    c'.inputs = llegada ys timeoutMs.toNat) ?_
    ⟨bs, rfl, Nat.le_sub_of_add_le hmax, rfl⟩
  rintro ⟨respuesta, lastByteTime⟩ c' ⟨ys, hbs, hlen, hin⟩
  dsimp only at hbs hlen ⊢
  rw [Prog.wp_bind]
  cases ys with
  | nil =>
    refine wp_tickRead_cons hin ?_
    refine Prog.wp_ite (fun hgo => ?_) fun _ => ?_
    · exact absurd (hover.symm.trans hgo) Bool.false_ne_true
    · rw [hbs, List.append_nil]
      exact (List.take_of_length_le (Nat.le_of_lt hlen)).symm
  | cons b ys =>
    rw [llegada_cons] at hin
    refine wp_tickRead_cons hin ?_
    refine Prog.wp_ite (fun _ => ?_) fun hstop => absurd hgoing hstop
    rw [Prog.wp_bind]
    refine wp_espReadByte (fun h => List.cons_ne_nil _ _ h) (fun m rest hm hnone => ?_)
      fun m rest b' hm hb => ?_
    · obtain ⟨rfl, rfl⟩ := List.cons.inj hm
      cases hnone
    · obtain ⟨rfl, rfl⟩ := List.cons.inj hm
      obtain rfl := Option.some.inj hb
      dsimp only
      simp only [if_pos hlen]
      have hsplit : bs = (respuesta ++ [b]) ++ ys := by
        rw [hbs, List.append_assoc, List.singleton_append]
      refine Prog.wp_ite (fun hfull => ?_) fun hroom => ?_
      · have hexact : (respuesta ++ [b]).length = maxLen - 1 := by
          refine le_antisymm ?_ hfull
          rw [List.length_append]
          exact hlen
        show respuesta ++ [b] = _
        rw [hsplit, ← hexact, List.take_left]
      · rw [Prog.wp_bind]
        refine wp_tickRead_cons rfl ?_
        refine ⟨⟨ys, hsplit, not_le.mp hroom, rfl⟩, ?_⟩
        show (llegada ys timeoutMs.toNat).length < c'.inputs.length
        rw [hin]
        simp only [List.length_cons]
        omega

/-- An answer with an opening brace in it is delivered, up to the buffer's size. -/
theorem entrega_posible (path : List UInt8) {bufferSize : ℕ} (hsize : 2 ≤ bufferSize)
    {respuesta : List UInt8} (hllave : llaveIzq ∈ cString (respuesta.take (bufferSize - 1)))
    (st : σ) : ∃ inputs c', espHTTPGetViaAT path bufferSize ⟨st, inputs, []⟩ =
      (some (some (respuesta.take (bufferSize - 1))), c') := by
  have hwp : (espHTTPGetViaAT path bufferSize).wp (fun _ => False)
      (fun r _ => r = some (respuesta.take (bufferSize - 1)))
      ⟨st, Sample.quiet 0 :: llegada respuesta (10000 : UInt32).toNat, []⟩ := by
    unfold espHTTPGetViaAT
    rw [Prog.wp_bind]
    refine Prog.wp_mono (enviarComandoAT_llegada hsize (by decide) rfl) (fun _ h => h) ?_
    rintro resp c' rfl
    have hlen : 0 < (respuesta.take (bufferSize - 1)).length :=
      List.length_pos_of_mem ((List.takeWhile_sublist _).mem hllave)
    refine Prog.wp_ite (fun _ => rfl) fun hno => ?_
    obtain ⟨x, y, hsplit, hx⟩ := strchr_split hllave
    refine absurd ⟨hlen, .inl ?_⟩ hno
    rw [hsplit, strchr_append_of_notMem hx, strchr_cons_self]
    rfl
  obtain ⟨r, c', hr, rfl⟩ := Prog.wp_returns hwp
  exact ⟨_, c', hr⟩

end Cerradura
