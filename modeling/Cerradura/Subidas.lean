import Cerradura.Conmuta
import Cerradura.EspAT

/-!
# An upload and the answer that confirms it

`espEnviarNuevaHuella` and `espEnviarNuevoRFID` send a request to the server and
look for a text in what they read next. The module answers when it has something
to say, also after `enviarComandoAT` has given up, and nothing takes a late
answer off the line.

Results:
1. `subida_propia`: if no call reads from a positive answer to another call, a
   call that returns `true` has had its own request done by the server.
2. `confirma_ajena`: one late answer, and the call after it is told that its
   upload was done, which the server has not even received.
-/

namespace Cerradura

open Reactive CText

variable {σ : Type}

/-! ## The calls -/

/-- A call of one of the two functions. -/
inductive Subida
  | huella (pin idHuella : List UInt8)
  | rfid (pin rfidHex : List UInt8)
deriving DecidableEq, Repr

namespace Subida

def sube : Subida → Prog Unit Sample EspEv Bool
  | .huella pin idHuella => espEnviarNuevaHuella pin idHuella
  | .rfid pin rfidHex => espEnviarNuevoRFID pin rfidHex

def ruta : Subida → List UInt8
  | .huella pin idHuella => ascii "/update-huella?pin=" ++ pin ++ ascii "&huella=" ++ idHuella
  | .rfid pin rfidHex => ascii "/update-rfid?pin=" ++ pin ++ ascii "&rfid=" ++ rfidHex

/-- The size of the buffer for the answer. -/
def bufferSize : Subida → ℕ
  | .huella _ _ => 512
  | .rfid _ _ => 256

/-- The texts that make an answer positive. -/
def textos : Subida → List String
  | .huella _ _ => ["UPDATED OK"]
  | .rfid _ _ => ["UPDATED OK", "200 OK", "\"ok\"", "UPDATED"]

theorem sube_eq (s : Subida) : s.sube = pedirConfirmacion s.ruta s.bufferSize s.textos := by
  cases s <;> rfl

/-- What the server reads in the path. -/
def solicitud : Subida → Request
  | .huella pin idHuella => .updateHuella (some (texto pin)) (some (texto idHuella))
  | .rfid pin rfidHex => .updateRfid (some (texto pin)) (some (texto rfidHex))

/-- The arguments of the callers: the digits of a PIN, and an index in decimal or
a UID in hexadecimal. None of them has a meaning of its own in a path. -/
def Limpia : Subida → Prop
  | .huella pin valor | .rfid pin valor => ∀ b ∈ pin ++ valor, b ∈ ascii "0123456789ABCDEF"

instance : (s : Subida) → Decidable s.Limpia
  | .huella pin valor | .rfid pin valor =>
    inferInstanceAs (Decidable (∀ b ∈ pin ++ valor, b ∈ ascii "0123456789ABCDEF"))

end Subida

/-- The command by which the module itself makes a request. -/
def comandoGet (path : List UInt8) : List UInt8 :=
  ascii "AT+HTTPCGET=\"http://" ++ serverIp ++ ascii ":" ++ serverPort ++ path ++ ascii "\""

/-- The request over a TCP connection. -/
def peticionTCP (path : List UInt8) : List UInt8 :=
  ascii "GET " ++ path ++ ascii " HTTP/1.1\r\nHost: " ++ serverIp ++ ascii ":" ++ serverPort ++
    ascii "\r\nConnection: close\r\n\r\n"

/-- What is sent is the request of `s`. -/
def Lleva (t : List UInt8) (s : Subida) : Prop := t = comandoGet s.ruta ∨ t = peticionTCP s.ruta

/-! ## The line -/

/-- A line sent to the module, and by which call. -/
structure Orden where
  llamada : ℕ
  texto : List UInt8
deriving DecidableEq, Repr

/-- A request that reached the server, and its response. -/
structure Atendida where
  orden : Orden
  subida : Subida
  respuesta : Response

/-- Something that the module says, and the call it answers. -/
structure Mensaje where
  llamada : ℕ
  bytes : List UInt8
deriving DecidableEq, Repr

/-- The line to the module and what is at its other end: everything sent, done
and answered so far, and how many bytes have been read. -/
structure Linea where
  db : Db
  ordenes : List Orden
  atendidas : List Atendida
  mensajes : List Mensaje
  leidos : ℕ

/-- The bytes that have come, in order, each with its message. -/
def flujo (ms : List Mensaje) : List (UInt8 × Mensaje) :=
  ms.flatMap fun m => m.bytes.map (·, m)

/-- The request has been done: a user with the PIN exists, and has the value that it
brings (`hecho_db`). -/
def hecho : Response := .text 200 "UPDATED OK".toList

theorem hecho_db {s : Subida} {db : Db} (h : (handle s.solicitud db).response = hecho) :
    (handle s.solicitud db).db = match s with
      | .huella pin valor => db.update (fun row => row.codigo = texto pin)
          ({ · with huella := texto valor })
      | .rfid pin valor => db.update (fun row => row.codigo = texto pin)
          ({ · with rfid := texto valor }) := by
  cases s with
  | huella pin valor => exact (updateByPin_updated h).2
  | rfid pin valor => exact (updateByPin_updated h).2

/-- One of the texts is in it. -/
def Positivo (textos : List String) (bytes : List UInt8) : Prop :=
  ∃ t ∈ textos, ascii t <:+: bytes

/-- The texts that either function looks for. -/
def marcas : List String := ["UPDATED OK", "200 OK", "\"ok\"", "UPDATED"]

/-- What the module may say about a line that was sent. It is positive only if the
server has done its request, and it ends with a line feed or a prompt, at any rate
with a byte of none of the texts. -/
structure Dice (e : Linea) (o : Orden) (bytes : List UInt8) : Prop where
  cierto : Positivo marcas bytes → ∃ a ∈ e.atendidas, a.orden = o ∧ a.respuesta = hecho
  fin : ∀ b ∈ bytes.getLast?, ∀ t ∈ marcas, b ∉ ascii t

/-- What happens at the other end: a request reaches the server, someone else
changes the table, or something is said about a line, at any time and more than
once. What never happens is lost. -/
inductive Linea.Paso : Linea → Linea → Prop
  | atiende {e : Linea} {o : Orden} {s : Subida} : o ∈ e.ordenes → Lleva o.texto s →
      Paso e { e with
        db := (handle s.solicitud e.db).db
        atendidas := ⟨o, s, (handle s.solicitud e.db).response⟩ :: e.atendidas }
  | otra {e : Linea} (req : Request) : Paso e { e with db := (handle req e.db).db }
  | dice {e : Linea} {o : Orden} {bytes : List UInt8} : o ∈ e.ordenes → Dice e o bytes →
      Paso e { e with mensajes := e.mensajes ++ [⟨o.llamada, bytes⟩] }

/-- A line is sent. The end of the line, sent on its own, completes it. -/
def Linea.envia (e : Linea) (n : ℕ) (t : List UInt8) : Linea :=
  if t = [0x0D, 0x0A] then e else { e with ordenes := ⟨n, t⟩ :: e.ordenes }

/-- The events of call `n` on the line, the last one first, with the bytes read. -/
inductive Pasa (n : ℕ) (e : Linea) : List EspEv → List (UInt8 × Mensaje) → Linea → Prop
  | nada : Pasa n e [] [] e
  | paso {evs : List EspEv} {bs : List (UInt8 × Mensaje)} {e1 e2 : Linea} :
      Pasa n e evs bs e1 → e1.Paso e2 → Pasa n e evs bs e2
  | tx {evs : List EspEv} {bs : List (UInt8 × Mensaje)} {e1 : Linea} {t : List UInt8} :
      Pasa n e evs bs e1 → Pasa n e (.tx t :: evs) bs (e1.envia n t)
  | rx {evs : List EspEv} {bs : List (UInt8 × Mensaje)} {e1 : Linea} {x : UInt8 × Mensaje} :
      Pasa n e evs bs e1 → (flujo e1.mensajes)[e1.leidos]? = some x →
      Pasa n e (.rx x.1 :: evs) (x :: bs) { e1 with leidos := e1.leidos + 1 }

/-- A call that has returned. -/
structure Subido where
  numero : ℕ
  subida : Subida
  leido : List (UInt8 × Mensaje)
  devuelve : Bool

/-- The calls so far, the last one first, and the line after them. -/
inductive Historia : List Subido → Linea → Prop
  | inicio (db : Db) : Historia [] ⟨db, [], [], [], 0⟩
  | llamada {antes : List Subido} {e e' : Linea} {s : Subida} {inputs : List Sample} {r : Bool}
      {leido : List (UInt8 × Mensaje)} {c' : Config Unit Sample EspEv} :
      Historia antes e → s.Limpia → s.sube ⟨(), inputs, []⟩ = (some r, c') →
      Pasa antes.length e c'.trace leido e' →
      Historia (⟨antes.length, s, leido, r⟩ :: antes) e'

/-- The server has done the request `s` of call `n`. -/
def Hecha (e : Linea) (n : ℕ) (s : Subida) : Prop :=
  ∃ a ∈ e.atendidas, a.orden.llamada = n ∧ a.subida = s ∧ a.respuesta = hecho

/-- Of the answers that it would take for its own, the call reads none to another. -/
def Subido.SinAjenas (l : Subido) : Prop :=
  ∀ x ∈ l.leido, Positivo l.subida.textos x.2.bytes → x.2.llamada = l.numero

/-! ## What a call sends and reads -/

/-- The lines that a request for a path takes. -/
def Envia (path t : List UInt8) : Prop :=
  t = [0x0D, 0x0A] ∨ t = comandoGet path ∨ t = peticionTCP path ∨
    ∃ resto, t = ascii "AT+CIP" ++ resto

theorem tx_tramaComando {cmd resp t : List UInt8} (h : EspEv.tx t ∈ tramaComando cmd resp) :
    t = [0x0D, 0x0A] ∨ t = cmd := by
  rcases List.mem_append.mp h with h | h
  · obtain ⟨b, -, hb⟩ := List.mem_map.mp h
    cases hb
  · rcases List.mem_pair.mp h with h | h
    · exact .inl (EspEv.tx.inj h)
    · exact .inr (EspEv.tx.inj h)

/-- A command of the request adds no other line. -/
theorem enviarComandoAT_envia {path cmd : List UInt8} (hcmd : Envia path cmd) {maxLen : ℕ}
    (hmax : 2 ≤ maxLen) {timeoutMs : UInt32} {c : Config σ Sample EspEv}
    (hc : ∀ t, .tx t ∈ c.trace → Envia path t) :
    (enviarComandoAT cmd maxLen timeoutMs).wp (fun _ => True)
      (fun resp c' => (∀ t, .tx t ∈ c'.trace → Envia path t) ∧
        recibidos c'.trace = resp.reverse ++ recibidos c.trace) c := by
  refine Prog.wp_mono (Prog.wp_returned (enviarComandoAT_traza hmax)) (fun _ _ => trivial) ?_
  rintro resp c' ⟨hrun, -, -, htraza⟩
  refine ⟨fun t ht => ?_, (Prog.wp_elim (enviarComandoAT_wp hmax) hrun).2.2⟩
  rw [htraza] at ht
  rcases List.mem_append.mp ht with ht | ht
  · rcases tx_tramaComando ht with rfl | rfl
    · exact .inl rfl
    · exact hcmd
  · exact hc t ht

/-- The answer that a request returns is the last thing it read. -/
theorem espHTTPGetViaAT_envia {path : List UInt8} {bufferSize : ℕ} (hsize : 2 ≤ bufferSize)
    {c : Config σ Sample EspEv} (hc : ∀ t, .tx t ∈ c.trace → Envia path t) :
    (espHTTPGetViaAT path bufferSize).wp (fun _ => True)
      (fun r c' => (∀ t, .tx t ∈ c'.trace → Envia path t) ∧
        ∀ resp ∈ r, resp.reverse <+: recibidos c'.trace) c := by
  unfold espHTTPGetViaAT
  rw [Prog.wp_bind]
  refine Prog.wp_mono (enviarComandoAT_envia (.inr (.inl rfl)) hsize hc) (fun _ h => h) ?_
  rintro resp c1 ⟨h1, hleido⟩
  refine Prog.wp_ite (fun _ => ⟨h1, ?_⟩) fun _ => ?_
  · rintro _ ⟨⟩
    exact ⟨_, hleido.symm⟩
  unfold espRawHTTPGet
  rw [Prog.wp_bind]
  refine Prog.wp_mono (enviarComandoAT_envia (.inr (.inr (.inr ⟨ascii "CLOSE", rfl⟩))) (by decide)
    h1) (fun _ h => h) ?_
  rintro _ c2 ⟨h2, -⟩
  rw [Prog.wp_bind]
  refine Prog.wp_mono (enviarComandoAT_envia (.inr (.inr (.inr ⟨_, rfl⟩))) (by decide) h2)
    (fun _ h => h) ?_
  rintro aux c3 ⟨h3, -⟩
  refine Prog.wp_ite (fun _ => ⟨h3, nofun⟩) fun _ => ?_
  rw [Prog.wp_bind]
  refine Prog.wp_mono (enviarComandoAT_envia (.inr (.inr (.inr ⟨_, rfl⟩))) (by decide) h3)
    (fun _ h => h) ?_
  rintro aux c4 ⟨h4, -⟩
  refine Prog.wp_ite (fun _ => ⟨h4, nofun⟩) fun _ => ?_
  rw [Prog.wp_bind]
  refine Prog.wp_mono (enviarComandoAT_envia (.inr (.inr (.inl rfl))) hsize h4) (fun _ h => h) ?_
  rintro resp c5 ⟨h5, hleido⟩
  refine Prog.wp_ite (fun _ => ⟨h5, ?_⟩) fun _ => ⟨h5, nofun⟩
  rintro _ ⟨⟩
  exact ⟨_, hleido.symm⟩

theorem infix_of_contiene {resp : List UInt8} {t : String} (h : contiene resp t = true) :
    ascii t <:+: resp := by
  obtain ⟨p, hp⟩ := Option.isSome_iff_exists.mp h
  obtain ⟨hsuffix, hempieza⟩ := strstr_eq_some hp
  exact (hempieza.isInfix.trans hsuffix.isInfix).trans (List.takeWhile_prefix _).isInfix

/-- A call sends only what its request takes, and returns `true` only if one of its
texts is in what it has read. -/
theorem sube_envia (s : Subida) {inputs : List Sample} :
    s.sube.wp (fun _ => True)
      (fun r c' => (∀ t, .tx t ∈ c'.trace → Envia s.ruta t) ∧
        (r = true → Positivo s.textos (recibidos c'.trace).reverse)) ⟨(), inputs, []⟩ := by
  have hsize : 2 ≤ s.bufferSize := by
    cases s with
    | huella => exact Nat.le_add_left 2 510
    | rfid => exact Nat.le_add_left 2 254
  rw [Subida.sube_eq]
  unfold pedirConfirmacion
  rw [Prog.wp_bind]
  refine Prog.wp_mono (espHTTPGetViaAT_envia hsize nofun) (fun _ h => h) fun r c' h => ?_
  cases r with
  | none => exact ⟨h.1, nofun⟩
  | some resp =>
    refine ⟨h.1, fun hr => ?_⟩
    obtain ⟨t, ht, hcontiene⟩ := List.any_eq_true.mp hr
    have hresp : resp <:+ (recibidos c'.trace).reverse :=
      List.reverse_prefix.mp (by rw [List.reverse_reverse]; exact h.2 resp rfl)
    exact ⟨t, ht, (infix_of_contiene hcontiene).trans hresp.isInfix⟩

/-! ## Whose a request is -/

theorem comandoGet_inj {path path' : List UInt8} (h : comandoGet path = comandoGet path') :
    path = path' := by
  unfold comandoGet at h
  exact List.append_cancel_left (List.append_cancel_right h)

theorem peticionTCP_inj {path path' : List UInt8} (h : peticionTCP path = peticionTCP path') :
    path = path' := by
  unfold peticionTCP at h
  iterate 5 replace h := List.append_cancel_right h
  exact List.append_cancel_left h

/-- Two arguments that hold no ampersand can be told from what is sent of them. -/
theorem argumentos_inj (inicio : List UInt8) {resto pin valor pin' valor' : List UInt8}
    (hresto : 0x26 ∉ resto) (hlimpia : ∀ b ∈ pin ++ valor, b ∈ ascii "0123456789ABCDEF")
    (h : inicio ++ pin ++ (0x26 :: resto) ++ valor = inicio ++ pin' ++ (0x26 :: resto) ++ valor') :
    pin = pin' ∧ valor = valor' := by
  have hamp : 0x26 ∉ pin ++ valor := fun hmem => absurd (hlimpia _ hmem) (by decide)
  rw [List.mem_append, not_or] at hamp
  have hvalor : 0x26 ∉ resto ++ valor := fun hmem => (List.mem_append.mp hmem).elim hresto hamp.2
  simp only [List.append_assoc, List.cons_append] at h
  obtain ⟨hpin, -, hcola⟩ := (List.append_cons_inj_of_notMem hamp.1 hvalor).mp
    (List.append_cancel_left h)
  exact ⟨hpin, List.append_cancel_left hcola⟩

theorem ruta_inj {s s' : Subida} (hs : s.Limpia) (h : s.ruta = s'.ruta) : s = s' := by
  have hhuella : 0x26 ∉ ascii "huella=" := by decide
  have hrfid : 0x26 ∉ ascii "rfid=" := by decide
  cases s with
  | huella pin valor =>
    cases s' with
    | huella pin' valor' =>
      obtain ⟨rfl, rfl⟩ := argumentos_inj (ascii "/update-huella?pin=") hhuella hs h
      rfl
    | rfid pin' valor' =>
      refine absurd (congrArg (·[8]?) h) ?_
      show some (0x68 : UInt8) ≠ some 0x72
      decide
  | rfid pin valor =>
    cases s' with
    | huella pin' valor' =>
      refine absurd (congrArg (·[8]?) h) ?_
      show some (0x72 : UInt8) ≠ some 0x68
      decide
    | rfid pin' valor' =>
      obtain ⟨rfl, rfl⟩ := argumentos_inj (ascii "/update-rfid?pin=") hrfid hs h
      rfl

/-- The first bytes of a request, by which it is no other line. -/
theorem Lleva.inicio {s : Subida} {t : List UInt8} (h : Lleva t s) :
    t[3]? = some 0x48 ∨ t[3]? = some 0x20 := by
  rcases h with rfl | rfl
  · exact .inl rfl
  · exact .inr rfl

/-- A line of a call carries no request but its own. -/
theorem lleva_propia {s s' : Subida} (hs : s.Limpia) {t : List UInt8} (ht : Envia s.ruta t)
    (h : Lleva t s') : s' = s := by
  have hcruz : ∀ {path path' : List UInt8}, comandoGet path ≠ peticionTCP path' := by
    intro path path' heq
    refine absurd (congrArg (·[3]?) heq) ?_
    show some (0x48 : UInt8) ≠ some 0x20
    decide
  rcases ht with rfl | rfl | rfl | ⟨resto, rfl⟩
  · exact absurd h.inicio (by decide)
  · rcases h with h | h
    · exact (ruta_inj hs (comandoGet_inj h)).symm
    · exact absurd h hcruz
  · rcases h with h | h
    · exact absurd h.symm hcruz
    · exact (ruta_inj hs (peticionTCP_inj h)).symm
  · have hotra : (ascii "AT+CIP" ++ resto)[3]? = some 0x43 := rfl
    rcases h.inicio with h | h
    · exact absurd (hotra.symm.trans h) (by decide)
    · exact absurd (hotra.symm.trans h) (by decide)

/-! ## What holds of the line -/

/-- What holds of the line after `n` calls: the lines are of these calls, each
request that was done had been sent, what the module says is true and the messages
are told apart by their ends, and no byte is read before it has come. -/
structure Linea.Sana (e : Linea) (n : ℕ) : Prop where
  ordenes : ∀ o ∈ e.ordenes, o.llamada < n
  atendidas : ∀ a ∈ e.atendidas, a.orden ∈ e.ordenes ∧ Lleva a.orden.texto a.subida
  mensajes : ∀ m ∈ e.mensajes, Positivo marcas m.bytes →
    ∃ a ∈ e.atendidas, a.orden.llamada = m.llamada ∧ a.respuesta = hecho
  fin : ∀ m ∈ e.mensajes, ∀ b ∈ m.bytes.getLast?, ∀ t ∈ marcas, b ∉ ascii t
  leidos : e.leidos ≤ (flujo e.mensajes).length

theorem Linea.Sana.paso {e e' : Linea} {n : ℕ} (h : e.Sana n) (hpaso : e.Paso e') : e'.Sana n := by
  cases hpaso with
  | @atiende o s ho hlleva =>
    refine ⟨h.ordenes, ?_, fun m hm hpos => ?_, h.fin, h.leidos⟩
    · rw [List.forall_mem_cons]
      exact ⟨⟨ho, hlleva⟩, h.atendidas⟩
    · obtain ⟨a, ha, hde⟩ := h.mensajes m hm hpos
      exact ⟨a, List.mem_cons_of_mem _ ha, hde⟩
  | otra => exact ⟨h.ordenes, h.atendidas, h.mensajes, h.fin, h.leidos⟩
  | @dice o bytes ho hdice =>
    refine ⟨h.ordenes, h.atendidas, ?_, ?_, ?_⟩
    · rw [List.forall_mem_append, List.forall_mem_singleton]
      refine ⟨h.mensajes, fun hpos => ?_⟩
      obtain ⟨a, ha, rfl, hres⟩ := hdice.cierto hpos
      exact ⟨a, ha, rfl, hres⟩
    · rw [List.forall_mem_append, List.forall_mem_singleton]
      exact ⟨h.fin, hdice.fin⟩
    · rw [flujo, List.flatMap_append, List.length_append]
      exact Nat.le_add_right_of_le h.leidos

theorem Linea.Sana.envia {e : Linea} {n : ℕ} (h : e.Sana (n + 1)) (t : List UInt8) :
    (e.envia n t).Sana (n + 1) := by
  unfold Linea.envia
  split
  · exact h
  · refine ⟨?_, fun a ha => ?_, h.mensajes, h.fin, h.leidos⟩
    · rw [List.forall_mem_cons]
      exact ⟨Nat.lt_succ_self n, h.ordenes⟩
    · exact ⟨List.mem_cons_of_mem _ (h.atendidas a ha).1, (h.atendidas a ha).2⟩

theorem Linea.Sana.pasa {e e' : Linea} {n : ℕ} (h : e.Sana n) {evs : List EspEv}
    {bs : List (UInt8 × Mensaje)} (hpasa : Pasa n e evs bs e') : e'.Sana (n + 1) := by
  induction hpasa with
  | nada =>
    exact ⟨fun o ho => Nat.lt_succ_of_lt (h.ordenes o ho), h.atendidas, h.mensajes, h.fin, h.leidos⟩
  | paso _ hpaso ih => exact ih.paso hpaso
  | tx _ ih => exact ih.envia _
  | rx _ hx ih =>
    refine ⟨ih.ordenes, ih.atendidas, ih.mensajes, ih.fin, ?_⟩
    obtain ⟨hlt, -⟩ := List.getElem?_eq_some_iff.mp hx
    exact hlt

/-! ## What a call does to the line -/

theorem Linea.Paso.flujo {e e' : Linea} (h : e.Paso e') :
    flujo e.mensajes <+: flujo e'.mensajes := by
  cases h with
  | atiende | otra => exact List.prefix_refl _
  | dice =>
    rw [Cerradura.flujo, Cerradura.flujo, List.flatMap_append]
    exact List.prefix_append _ _

theorem Linea.envia_leidos (e : Linea) (n : ℕ) (t : List UInt8) :
    (e.envia n t).leidos = e.leidos ∧ (e.envia n t).mensajes = e.mensajes := by
  unfold Linea.envia
  split <;> exact ⟨rfl, rfl⟩

/-- The bytes read are the next ones that came. -/
theorem Pasa.leidos {n : ℕ} {e e' : Linea} (hsana : e.Sana n) {evs : List EspEv}
    {bs : List (UInt8 × Mensaje)} (h : Pasa n e evs bs e') : bs.map Prod.fst = recibidos evs ∧
      (flujo e'.mensajes).take e'.leidos = (flujo e.mensajes).take e.leidos ++ bs.reverse := by
  induction h with
  | nada => exact ⟨rfl, (List.append_nil _).symm⟩
  | @paso evs bs e1 e2 hpasa hpaso ih =>
    have hleidos : e2.leidos = e1.leidos := by cases hpaso <;> rfl
    obtain ⟨mas, hmas⟩ := hpaso.flujo
    rw [hleidos, ← hmas, List.take_append_of_le_length (hsana.pasa hpasa).leidos]
    exact ih
  | @tx evs bs e1 t _ ih =>
    obtain ⟨hleidos, hmensajes⟩ := e1.envia_leidos n t
    rw [hleidos, hmensajes]
    exact ih
  | @rx evs bs e1 x _ hx ih =>
    refine ⟨congrArg (x.1 :: ·) ih.1, ?_⟩
    show (flujo e1.mensajes).take (e1.leidos + 1) = _
    rw [List.take_add_one, hx, ih.2, List.reverse_cons, List.append_assoc]
    rfl

/-- The lines after a call are those before and those that it sent. -/
theorem Pasa.ordenes {n : ℕ} {e e' : Linea} {evs : List EspEv} {bs : List (UInt8 × Mensaje)}
    (h : Pasa n e evs bs e') {o : Orden} (ho : o ∈ e'.ordenes) :
    o ∈ e.ordenes ∨ .tx o.texto ∈ evs := by
  induction h with
  | nada => exact .inl ho
  | paso _ hpaso ih =>
    refine ih ?_
    cases hpaso <;> exact ho
  | @tx evs bs e1 t _ ih =>
    unfold Linea.envia at ho
    split at ho
    · exact (ih ho).imp id (List.mem_cons_of_mem _)
    · rcases List.mem_cons.mp ho with rfl | ho
      · exact .inr List.mem_cons_self
      · exact (ih ho).imp id (List.mem_cons_of_mem _)
  | rx _ _ ih => exact (ih ho).imp id (List.mem_cons_of_mem _)

theorem marcas_ne_nil : ∀ t ∈ marcas, ascii t ≠ [] := by decide

/-- A positive text that a call reads is in one message. -/
theorem Linea.Sana.positivo {e : Linea} {n : ℕ} (h : e.Sana n) {textos : List String}
    (hmarcas : textos ⊆ marcas) {leido : List (UInt8 × Mensaje)}
    (hleido : leido <:+: flujo e.mensajes) (hpos : Positivo textos (leido.map Prod.fst)) :
    ∃ x ∈ leido, x.2 ∈ e.mensajes ∧ Positivo textos x.2.bytes := by
  obtain ⟨t, ht, x, y, hxy⟩ := hpos
  obtain ⟨xv, b, rfl, hxv, -⟩ := List.map_eq_append_iff.mp hxy.symm
  obtain ⟨a, v, rfl, -, hv⟩ := List.map_eq_append_iff.mp hxv
  have hne : v ≠ [] := by
    rintro rfl
    exact marcas_ne_nil t (hmarcas ht) hv.symm
  have hfin : ∀ m ∈ e.mensajes, ∀ z ∈ (m.bytes.map (·, m)).getLast?, z ∉ v := by
    intro m hm z hz hmem
    rw [List.getLast?_map] at hz
    obtain ⟨c, hc, rfl⟩ := Option.map_eq_some_iff.mp hz
    refine h.fin m hm c hc t (hmarcas ht) ?_
    rw [← hv]
    exact List.mem_map_of_mem hmem
  obtain ⟨m, hm, hvm⟩ := infix_flatMap_of_end hne hfin (List.IsInfix.trans ⟨a, b, rfl⟩ hleido)
  obtain ⟨z, hz⟩ := List.exists_mem_of_ne_nil v hne
  obtain ⟨c, -, rfl⟩ := List.mem_map.mp (hvm.subset hz)
  refine ⟨(c, m), List.mem_append_left b (List.mem_append_right a hz), hm, t, ht, ?_⟩
  have hbytes : (m.bytes.map (·, m)).map Prod.fst = m.bytes := by
    rw [List.map_map]
    exact List.map_id m.bytes
  rw [← hv, ← hbytes]
  exact hvm.map Prod.fst

/-! ## The calls one after the other -/

theorem Linea.Paso.atendidas {e e' : Linea} (h : e.Paso e') : e.atendidas ⊆ e'.atendidas := by
  cases h with
  | atiende => exact List.subset_cons_self _ _
  | otra | dice => exact List.Subset.refl _

theorem Pasa.atendidas {n : ℕ} {e e' : Linea} {evs : List EspEv} {bs : List (UInt8 × Mensaje)}
    (h : Pasa n e evs bs e') : e.atendidas ⊆ e'.atendidas := by
  induction h with
  | nada => exact List.Subset.refl _
  | paso _ hpaso ih => exact List.Subset.trans ih hpaso.atendidas
  | @tx evs bs e1 t _ ih =>
    have hsame : (e1.envia n t).atendidas = e1.atendidas := by
      unfold Linea.envia
      split <;> rfl
    rw [hsame]
    exact ih
  | rx _ _ ih => exact ih

theorem Historia.sana {llamadas : List Subido} {e : Linea} (h : Historia llamadas e) :
    e.Sana llamadas.length := by
  induction h with
  | inicio => exact ⟨nofun, nofun, nofun, nofun, Nat.zero_le _⟩
  | llamada _ _ _ hpasa ih => exact ih.pasa hpasa

/-- A call that reads no positive answer to another returns `true` only if its own
request has been done. -/
theorem llamada_hecha {n : ℕ} {e e' : Linea} (hsana : e.Sana n) {s : Subida} (hs : s.Limpia)
    {inputs : List Sample} {c' : Config Unit Sample EspEv}
    (hrun : s.sube ⟨(), inputs, []⟩ = (some true, c')) {leido : List (UInt8 × Mensaje)}
    (hpasa : Pasa n e c'.trace leido e')
    (hajenas : ∀ x ∈ leido, Positivo s.textos x.2.bytes → x.2.llamada = n) : Hecha e' n s := by
  have hmarcas : s.textos ⊆ marcas := by
    cases s with
    | huella => exact fun t ht => List.mem_cons.mpr (.inl (List.mem_singleton.mp ht))
    | rfid => exact List.Subset.refl _
  obtain ⟨henvia, hpos⟩ := Prog.wp_elim (sube_envia s) hrun
  obtain ⟨hbytes, hleidos⟩ := hpasa.leidos hsana
  have hinfix : leido.reverse <:+: flujo e'.mensajes :=
    List.IsInfix.trans (hleidos ▸ List.suffix_append _ _).isInfix (List.take_prefix _ _).isInfix
  have hsana' := hsana.pasa hpasa
  obtain ⟨x, hx, hm, hxpos⟩ := hsana'.positivo hmarcas hinfix
    (by rw [List.map_reverse, hbytes]; exact hpos rfl)
  have hpropia := hajenas x (List.mem_reverse.mp hx) hxpos
  obtain ⟨a, ha, hllamada, hres⟩ := hsana'.mensajes x.2 hm
    (hxpos.imp fun _ h => ⟨hmarcas h.1, h.2⟩)
  obtain ⟨horden, hlleva⟩ := hsana'.atendidas a ha
  have hsuya : a.orden.llamada = n := hllamada.trans hpropia
  refine ⟨a, ha, hsuya, ?_, hres⟩
  rcases hpasa.ordenes horden with hantes | hahora
  · exact absurd (hsana.ordenes _ hantes) (hsuya ▸ Nat.lt_irrefl _)
  · exact lleva_propia hs (henvia _ hahora) hlleva

/-- In a life in which no call reads a positive answer to another, each call that
returned `true` has had its request done. -/
theorem subida_propia {llamadas : List Subido} {e : Linea} (h : Historia llamadas e)
    (hajenas : ∀ l ∈ llamadas, l.SinAjenas) :
    ∀ l ∈ llamadas, l.devuelve = true → Hecha e l.numero l.subida := by
  induction h with
  | inicio => exact nofun
  | @llamada antes e e' s inputs r leido c' hantes hs hrun hpasa ih =>
    rw [List.forall_mem_cons] at hajenas ⊢
    refine ⟨fun hr => ?_, fun l hl hr => ?_⟩
    · obtain rfl : r = true := hr
      exact llamada_hecha hantes.sana hs hrun hpasa hajenas.1
    · obtain ⟨a, ha, hde⟩ := ih hajenas.2 l hl hr
      exact ⟨a, hpasa.atendidas ha, hde⟩

/-! ## A late answer -/

/-- What the module says when a request of its own was done. -/
def confirmacion : List UInt8 := ascii "+HTTPCGET:10,UPDATED OK\r\nOK\r\n"

/-- The samples of a command that is answered at `t`, and then nothing until the
time is up. -/
def entrega (t : ℕ) (resp : List UInt8) : List Sample :=
  Sample.quiet t :: resp.flatMap (fun b =>
    [Sample.quiet t, { Sample.quiet t with espRx := some b }, Sample.quiet t]) ++
    [Sample.quiet (t + 10000)]

theorem Pasa.lee {n : ℕ} {e e1 : Linea} {evs : List EspEv} {bs : List (UInt8 × Mensaje)}
    (h : Pasa n e evs bs e1) {leido resto : List (UInt8 × Mensaje)}
    (hviene : (flujo e1.mensajes).drop e1.leidos = leido ++ resto) :
    Pasa n e ((leido.map fun x => .rx x.1).reverse ++ evs) (leido.reverse ++ bs)
      { e1 with leidos := e1.leidos + leido.length } := by
  induction leido generalizing evs bs e1 with
  | nil => exact h
  | cons x leido ih =>
    have hx : (flujo e1.mensajes)[e1.leidos]? = some x := by
      rw [← List.head?_drop, hviene]
      rfl
    have hresto : (flujo e1.mensajes).drop (e1.leidos + 1) = leido ++ resto := by
      rw [← List.tail_drop, hviene]
      rfl
    have htodo := ih (h.rx hx) hresto
    rw [List.map_cons, List.reverse_cons, List.reverse_cons, List.append_assoc, List.append_assoc,
      List.length_cons, Nat.add_comm leido.length, ← Nat.add_assoc]
    exact htodo

theorem Pasa.orden {n : ℕ} {e e1 : Linea} {evs : List EspEv} {bs : List (UInt8 × Mensaje)}
    (h : Pasa n e evs bs e1) {t : List UInt8} (ht : t ≠ [0x0D, 0x0A]) :
    Pasa n e ([.tx [0x0D, 0x0A], .tx t] ++ evs) bs
      { e1 with ordenes := ⟨n, t⟩ :: e1.ordenes } := by
  have hcmd : e1.envia n t = { e1 with ordenes := ⟨n, t⟩ :: e1.ordenes } := if_neg ht
  have htx := h.tx (t := t)
  rw [hcmd] at htx
  exact htx.tx

/-- All that came has been read, and now a request that was done is confirmed. -/
theorem Pasa.confirma {n : ℕ} {e e1 : Linea} {evs : List EspEv} {bs : List (UInt8 × Mensaje)}
    (h : Pasa n e evs bs e1) {a : Atendida} (ha : a ∈ e1.atendidas) (ho : a.orden ∈ e1.ordenes)
    (hres : a.respuesta = hecho) (hleidos : e1.leidos = (flujo e1.mensajes).length) :
    ∃ leido e', Pasa n e (confirmacion.reverse.map EspEv.rx ++ evs) (leido ++ bs) e' ∧
      (∀ x ∈ leido, x.2.llamada = a.orden.llamada) ∧ e'.atendidas = e1.atendidas := by
  let m : Mensaje := ⟨a.orden.llamada, confirmacion⟩
  have hdice : Dice e1 a.orden confirmacion := by
    refine ⟨fun _ => ⟨a, ha, rfl, hres⟩, fun b hb => ?_⟩
    obtain rfl : 0x0A = b := Option.some.inj hb
    decide
  have hviene : (flujo (e1.mensajes ++ [m])).drop e1.leidos = confirmacion.map (·, m) ++ [] := by
    rw [flujo, List.flatMap_append, hleidos]
    exact List.drop_left
  have hlee := (h.paso (.dice ho hdice)).lee hviene
  have hevs : ((confirmacion.map (·, m)).map fun x => EspEv.rx x.1).reverse =
      confirmacion.reverse.map EspEv.rx := by
    rw [List.map_map, ← List.map_reverse]
    rfl
  rw [hevs] at hlee
  refine ⟨_, _, hlee, fun x hx => ?_, rfl⟩
  obtain ⟨b, -, rfl⟩ := List.mem_map.mp (List.mem_reverse.mp hx)
  rfl

/-- The server does the request of the administrator's PIN, and its answer comes in
time. -/
theorem subida_confirmada : ∃ llamadas e, Historia llamadas e ∧
    ∃ l ∈ llamadas, l.devuelve = true ∧ Hecha e l.numero l.subida := by
  let s : Subida := .huella (ascii "11111") (ascii "3")
  have hrun : let run := s.sube ⟨(), entrega 0 confirmacion, []⟩
      run.1 = some true ∧ run.2.trace = tramaComando (comandoGet s.ruta) confirmacion := by
    decide +kernel
  generalize hsube : s.sube ⟨(), entrega 0 confirmacion, []⟩ = run at hrun
  obtain ⟨_, c'⟩ := run
  obtain ⟨rfl, htraza⟩ := hrun
  have horden := (Pasa.nada (n := 0) (e := ⟨initDb, [], [], [], 0⟩)).orden
    (t := comandoGet s.ruta) (by decide)
  have hatiende := horden.paso (.atiende (s := s) List.mem_cons_self (.inl rfl))
  obtain ⟨leido, e, hpasa, hleido, -⟩ := hatiende.confirma List.mem_cons_self List.mem_cons_self
    (by decide +kernel) rfl
  simp only [List.append_nil] at hpasa
  have hhistoria : Historia [⟨0, s, leido, true⟩] e :=
    .llamada (.inicio initDb) (by decide) hsube (htraza ▸ hpasa)
  have hpropia := subida_propia hhistoria
    (List.forall_mem_singleton.mpr fun x hx _ => hleido x hx)
  exact ⟨_, e, hhistoria, _, List.mem_cons_self, rfl, hpropia _ List.mem_cons_self rfl⟩

/-- The same request, but nothing is heard of it in time: the call gives up, also
over TCP. -/
theorem primera_calla : ∃ e, Historia [⟨0, .huella (ascii "11111") (ascii "3"), [], false⟩] e ∧
    e.mensajes = [] ∧ e.leidos = 0 ∧ ∃ a, e.atendidas = [a] ∧ a.orden ∈ e.ordenes ∧
      a.subida = .huella (ascii "11111") (ascii "3") ∧ a.respuesta = hecho := by
  let s : Subida := .huella (ascii "11111") (ascii "3")
  let silencio := [0, 10000, 10000, 10500, 10500, 25500].map Sample.quiet
  let cierra := ascii "AT+CIPCLOSE"
  let abre := ascii "AT+CIPSTART=\"TCP\",\"" ++ serverIp ++ ascii "\"," ++ serverPort
  have hrun : let run := s.sube ⟨(), silencio, []⟩
      run.1 = some false ∧ run.2.trace = tramaComando abre [] ++
        (tramaComando cierra [] ++ (tramaComando (comandoGet s.ruta) [] ++ [])) := by
    decide +kernel
  generalize hsube : s.sube ⟨(), silencio, []⟩ = run at hrun
  obtain ⟨_, c⟩ := run
  obtain ⟨rfl, htraza⟩ := hrun
  have horden := (Pasa.nada (n := 0) (e := ⟨initDb, [], [], [], 0⟩)).orden
    (t := comandoGet s.ruta) (by decide)
  have hatiende := horden.paso (.atiende (s := s) List.mem_cons_self (.inl rfl))
  have hfin := (hatiende.orden (t := cierra) (by decide)).orden (t := abre) (by decide)
  refine ⟨_, (Historia.inicio initDb).llamada (by decide) hsube (htraza ▸ hfin), rfl, rfl, _, rfl,
    ?_, rfl, ?_⟩
  · exact .tail _ (.tail _ (.head _))
  · decide +kernel

/-- The answer comes when the first call has given up. The next one takes it for
its own, and the server has never seen its request. -/
theorem confirma_ajena : ∃ llamadas e, Historia llamadas e ∧
    ∃ l ∈ llamadas, l.devuelve = true ∧ ∀ a ∈ e.atendidas, a.subida ≠ l.subida := by
  let s : Subida := .huella (ascii "11111") (ascii "3")
  let s' : Subida := .huella (ascii "10007") (ascii "4")
  have hrun : let run := s'.sube ⟨(), entrega 26000 confirmacion, []⟩
      run.1 = some true ∧ run.2.trace = tramaComando (comandoGet s'.ruta) confirmacion := by
    decide +kernel
  generalize hsube : s'.sube ⟨(), entrega 26000 confirmacion, []⟩ = run at hrun
  obtain ⟨_, c'⟩ := run
  obtain ⟨rfl, htraza⟩ := hrun
  obtain ⟨e, hprimera, hmensajes, hleidos, a, ha, horden, hsubida, hres⟩ := primera_calla
  have hleidos : e.leidos = (flujo e.mensajes).length := by rw [hleidos, hmensajes]; rfl
  -- the module confirms the request of the first call during the second
  obtain ⟨leido, e', hpasa, -, hatendidas⟩ :=
    ((Pasa.nada (n := 1) (e := e)).orden (t := comandoGet s'.ruta) (by decide)).confirma
      (ha ▸ List.mem_cons_self) (List.mem_cons_of_mem _ horden) hres hleidos
  simp only [List.append_nil] at hpasa
  change c'.trace = _ at htraza
  have hpasa : Pasa 1 e c'.trace leido e' := by
    rw [htraza]
    exact hpasa
  refine ⟨_, e', hprimera.llamada (by decide) hsube hpasa, _, List.mem_cons_self, rfl, ?_⟩
  rw [hatendidas, ha, List.forall_mem_singleton, hsubida]
  show s ≠ s'
  decide

end Cerradura
