import Cerradura.As608Frame
import Cerradura.Rutina

/-!
# The sensor's side of the line

The scans and the blocking commands share one sensor, with one image, two
character buffers and a memory of templates. `lineaSensor` is the sensor as a
protocol: which command makes sense in which state, and which ones may change the
memory for which action of the administrator. What a command brings is there when
the sensor has confirmed it in its answer, and not before.

Results, for each function of the driver that talks to the sensor:

* `as608ScanStep_sigue`: a scan counts on what the sensor has confirmed to it, unless
  an enrolment or a deletion has come in between.
* `as608EnrollAtId_sigue`: an enrolment stores a model of two confirmed images.
* `as608DeleteId_sigue`, `as608ClearAllTemplates_sigue`: a deletion disturbs a scan
  only while it waits for an answer.
-/

namespace Cerradura

open Reactive Transition

/-! ## Commands -/

/-- A command, as the sensor reads it. -/
inductive Comando
  | getImage
  | image2Tz (slot : UInt8)
  | regModel
  | store (buffer : UInt8) (page : UInt16)
  | deletChar (page n : UInt16)
  | empty
  | vfyPwd
  | search (buffer : UInt8)
  | templateCount
  | otro
deriving DecidableEq, Repr

/-- The payload of a frame. -/
def carga (frame : List UInt8) : List UInt8 := (frame.drop 9).take (frame.length - 11)

def comando (payload : List UInt8) : Comando :=
  let instr := payload.getD 0 0
  let palabra (i : ℕ) := be16 (payload.getD i 0) (payload.getD (i + 1) 0)
  if instr = 0x01 then .getImage
  else if instr = 0x02 then .image2Tz (payload.getD 1 0)
  else if instr = 0x05 then .regModel
  else if instr = 0x06 then .store (payload.getD 1 0) (palabra 2)
  else if instr = 0x0C then .deletChar (palabra 1) (palabra 3)
  else if instr = 0x0D then .empty
  else if instr = 0x13 then .vfyPwd
  else if instr = 0x1B then .search (payload.getD 1 0)
  else if instr = 0x1D then .templateCount
  else .otro

theorem carga_as608Frame (packetType : UInt8) (payload : List UInt8) :
    carga (as608Frame packetType payload) = payload := by
  unfold carga
  rw [drop_as608Frame, as608Frame_length, Nat.add_sub_cancel_left, List.take_left]

theorem comando_store (id : UInt16) : comando (0x06 :: 0x01 :: bytesBe id) = .store 0x01 id :=
  congrArg (Comando.store 0x01) (be16_bytes id)

theorem comando_deletChar (id n : UInt16) :
    comando (0x0C :: (bytesBe id ++ bytesBe n)) = .deletChar id n :=
  congrArg₂ Comando.deletChar (be16_bytes id) (be16_bytes n)

/-! ## The sensor -/

/-- The sensor, with the enrolment or deletion that is in progress. -/
structure Modulo where
  accion : Option Accion
  -- the last command while it is not confirmed, and what has been answered since
  enCurso : Option (Comando × List UInt8)
  -- an image that has not been converted yet
  imagen : Bool
  char1 : Bool
  char2 : Bool
  -- the buffers hold a model made of both
  modelo : Bool
  -- another use of the sensor has come in the middle of a scan
  interrumpido : Bool
deriving DecidableEq

def Modulo.inicial : Modulo := ⟨none, none, false, false, false, false, false⟩

/-- The commands that make sense. -/
def Modulo.Acepta (q : Modulo) : Comando → Prop
  | .vfyPwd | .templateCount | .getImage => True
  | .image2Tz slot =>
    (q.imagen = true ∨ q.accion = none ∧ q.interrumpido = true) ∧
      (slot = 0x01 ∨ slot = 0x02 ∧ q.accion ≠ none)
  | .search buffer =>
    buffer = 0x01 ∧ q.accion = none ∧ (q.char1 = true ∨ q.interrumpido = true)
  | .regModel => q.accion ≠ none ∧ q.char1 = true ∧ q.char2 = true
  | .store buffer page =>
    buffer = 0x01 ∧ q.modelo = true ∧ page ≤ 0x00A3 ∧
      ∃ pin, q.accion = some (.enrolarHuella pin page)
  | .deletChar page n => n = 1 ∧ ∃ pin, q.accion = some (.borrarHuella pin page)
  | .empty => q.accion = some .borrarTodasHuellas
  | .otro => False

/-- An action is over. -/
def Modulo.libera (q : Modulo) : Modulo :=
  if q.accion = none then q else ⟨none, none, false, false, false, false, q.interrumpido⟩

/-- What a command takes away, whether it succeeds or not. The image of a scan takes
the place of whatever the sensor held; the second image of an enrolment leaves the
first buffer alone. -/
def Modulo.empieza (q : Modulo) : Comando → Modulo
  | .getImage =>
    if q.accion = none then ⟨none, none, false, false, false, false, false⟩
    else { q with imagen := false }
  | .image2Tz slot =>
    if slot = 0x01 then { q with imagen := false, char1 := false, modelo := false }
    else { q with imagen := false, char2 := false, modelo := false }
  | .search _ => { q with char1 := false }
  | .regModel => { q with char1 := false, char2 := false, modelo := false }
  | .store _ _ => q.libera
  | .deletChar _ _ | .empty => { q with accion := none }
  | .vfyPwd | .templateCount | .otro => q

/-- What a command brings when it succeeds. -/
def Modulo.consigue (q : Modulo) : Comando → Modulo
  | .getImage => { q with imagen := true }
  | .image2Tz slot => if slot = 0x01 then { q with char1 := true } else { q with char2 := true }
  | .regModel => { q with modelo := true }
  | _ => q

theorem consigue_image2Tz (q : Modulo) (slot : UInt8) : q.consigue (.image2Tz slot) =
    if slot = 0x01 then { q with char1 := true } else { q with char2 := true } :=
  rfl

/-- A command arrives, and the answer begins. -/
def Modulo.recibe (q : Modulo) (c : Comando) : Modulo :=
  { q.empieza c with enCurso := some (c, []) }

/-- The sensor has confirmed the command. -/
def Modulo.confirma (q : Modulo) (c : Comando) : Modulo := { q.consigue c with enCurso := none }

/-- A byte of the answer, which may complete the confirmation. -/
def Modulo.responde (q : Modulo) (b : UInt8) : Modulo :=
  match q.enCurso with
  | none => q
  | some (c, resp) =>
    if as608TryParseAck (resp ++ [b]) = 0x00 then q.confirma c
    else { q with enCurso := some (c, resp ++ [b]) }

/-- An enrolment begins, with nothing of what the sensor held. -/
def Modulo.enrola (q : Modulo) (a : Accion) : Modulo :=
  ⟨some a, none, false, false, false, false,
    q.imagen || q.char1 || q.enCurso.isSome || q.interrumpido⟩

/-- A deletion begins. It gets in the way of an answer only. -/
def Modulo.borra (q : Modulo) (a : Accion) : Modulo :=
  { q with accion := some a, enCurso := none, interrumpido := q.enCurso.isSome || q.interrumpido }

/-- The line of the sensor. A command is allowed if it is a frame that the sensor
accepts; the actions say for what. -/
def lineaSensor : Machine Modulo MefEv where
  Enabled q
    | .sensor (.tx frame) =>
      ∃ payload, frame = as608Frame 0x01 payload ∧ q.Acepta (comando payload)
    | _ => True
  next q
    | .sensor (.tx frame) => q.recibe (comando (carga frame))
    | .sensor (.rx b) => q.responde b
    | .accion _ a =>
      match a with
      | .enrolarHuella _ _ => q.enrola a
      | .borrarHuella _ _ | .borrarTodasHuellas => q.borra a
      | _ => q.libera
    | .estado .esperandoAccion => q.libera
    | _ => q

/-- The same line for the driver, whose events are on it. -/
abbrev enLinea : Machine Modulo SensorEv := lineaSensor.comap .sensor

/-! ### The answer -/

section Respuesta

variable {q : Modulo} {c : Comando}

/-- The confirmation is in the first bytes. -/
theorem as608TryParseAck_append {buf : List UInt8} (h : 12 ≤ buf.length) (bs : List UInt8) :
    as608TryParseAck (buf ++ bs) = as608TryParseAck buf := by
  have hget {i : ℕ} (hi : i < 12) : (buf ++ bs).getD i 0 = buf.getD i 0 := by
    rw [List.getD_eq_getElem?_getD, List.getD_eq_getElem?_getD,
      List.getElem?_append_left (hi.trans_le h)]
  unfold as608TryParseAck
  rw [hget (by decide), hget (by decide), hget (by decide), hget (by decide),
    if_neg (not_lt.mpr h),
    if_neg (not_lt.mpr (h.trans (List.length_append ▸ Nat.le_add_right _ _)))]

theorem length_of_ack {buf : List UInt8} (h : as608TryParseAck buf = 0x00) : 12 ≤ buf.length := by
  by_contra hlt
  rw [as608TryParseAck, if_pos (not_le.mp hlt)] at h
  exact absurd h (by decide)

theorem as608TryParseAck_take {n : ℕ} (hn : 12 ≤ n) (buf : List UInt8) :
    as608TryParseAck (buf.take n) = as608TryParseAck buf := by
  by_cases hlen : buf.length ≤ n
  · rw [List.take_of_length_le hlen]
  · rw [← List.take_append_drop n buf, List.take_append_of_le_length, List.take_take, min_self]
    · refine (as608TryParseAck_append ?_ _).symm
      rw [List.length_take]
      exact le_min hn (hn.trans (not_le.mp hlen).le)
    · rw [List.length_take]
      exact le_min le_rfl (not_le.mp hlen).le

theorem responde_none (h : q.enCurso = none) (b : UInt8) : q.responde b = q := by
  unfold Modulo.responde
  rw [h]

theorem responde_some {resp : List UInt8} (h : q.enCurso = some (c, resp)) (b : UInt8) :
    q.responde b = if as608TryParseAck (resp ++ [b]) = 0x00 then q.confirma c
      else { q with enCurso := some (c, resp ++ [b]) } := by
  unfold Modulo.responde
  rw [h]

theorem confirma_enCurso (x : Option (Comando × List UInt8)) :
    ({ q with enCurso := x } : Modulo).confirma c = q.confirma c := by
  cases c with
  | image2Tz slot =>
    by_cases hslot : slot = 0x01
    · simp [Modulo.confirma, consigue_image2Tz, hslot]
    · simp [Modulo.confirma, consigue_image2Tz, hslot]
  | _ => rfl

/-- The answer to a command: it is confirmed, or it goes on. -/
theorem after_respuestaSensor {resp : List UInt8} (h : q.enCurso = some (c, resp))
    (hresp : as608TryParseAck resp ≠ 0x00) (bs : List UInt8) :
    enLinea.after q (rxTrace bs) =
      if as608TryParseAck (resp ++ bs) = 0x00 then q.confirma c
      else { q with enCurso := some (c, resp ++ bs) } := by
  induction bs using List.reverseRecOn with
  | nil =>
    rw [List.append_nil, if_neg hresp, ← h]
    rfl
  | append_singleton bs b ih =>
    rw [rxTrace_concat, ← List.append_assoc]
    show (enLinea.after q (rxTrace bs)).responde b = _
    rw [ih]
    by_cases hack : as608TryParseAck (resp ++ bs) = 0x00
    · rw [if_pos hack, responde_none rfl, as608TryParseAck_append (length_of_ack hack), if_pos hack]
    · rw [if_neg hack, responde_some rfl, confirma_enCurso]

/-- An answer only brings something. -/
structure Modulo.Gana (q q' : Modulo) : Prop where
  accion : q'.accion = q.accion
  interrumpido : q'.interrumpido = q.interrumpido
  imagen : q.imagen = true → q'.imagen = true
  char1 : q.char1 = true → q'.char1 = true
  char2 : q.char2 = true → q'.char2 = true
  modelo : q.modelo = true → q'.modelo = true

theorem confirma_gana (q : Modulo) (c : Comando) : q.Gana (q.confirma c) := by
  cases c with
  | getImage => exact ⟨rfl, rfl, fun _ => rfl, id, id, id⟩
  | image2Tz slot =>
    by_cases hslot : slot = 0x01
    · rw [Modulo.confirma, consigue_image2Tz, if_pos hslot]
      exact ⟨rfl, rfl, id, fun _ => rfl, id, id⟩
    · rw [Modulo.confirma, consigue_image2Tz, if_neg hslot]
      exact ⟨rfl, rfl, id, id, fun _ => rfl, id⟩
  | regModel => exact ⟨rfl, rfl, id, id, id, fun _ => rfl⟩
  | _ => exact ⟨rfl, rfl, id, id, id, id⟩

theorem responde_gana (q : Modulo) (b : UInt8) : q.Gana (q.responde b) := by
  cases h : q.enCurso with
  | none =>
    rw [responde_none h]
    exact ⟨rfl, rfl, id, id, id, id⟩
  | some curso =>
    rw [responde_some h]
    split
    · exact confirma_gana q _
    · exact ⟨rfl, rfl, id, id, id, id⟩

end Respuesta

/-! ## The driver -/

section Driver

variable {σ α : Type} {P : σ → Modulo → Prop}

theorem as608FlushRx_sigue (hP : ∀ s q b, P s q → P s (q.responde b)) (ms : UInt32) :
    Prog.Follows enLinea P (as608FlushRx ms) fun _ => P :=
  as608FlushRx_follows (fun _ _ => trivial) hP ms

theorem as608WritePacket_sigue {Q : σ → Modulo → Prop} {payload : List UInt8} {c : Comando}
    (hc : comando payload = c) (h : ∀ s q, P s q → q.Acepta c ∧ Q s (q.recibe c)) :
    Prog.Follows enLinea P (as608WritePacket 0x01 payload) fun _ => Q := by
  subst hc
  refine .emit fun s q hP => ⟨⟨payload, rfl, (h s q hP).1⟩, ?_⟩
  show Q s (q.recibe (comando (carga (as608Frame 0x01 payload))))
  rw [carga_as608Frame]
  exact (h s q hP).2

/-- A command of the driver and its answer. The code tells whether the sensor has
confirmed it. -/
theorem as608CmdAck_sigue {Q : UInt8 → σ → Modulo → Prop} {instr : UInt8} {extra : List UInt8}
    {timeoutMs flushMs : UInt32} {c : Comando} (hc : comando (instr :: extra.take 7) = c)
    (hP : ∀ s q b, P s q → P s (q.responde b))
    (h : ∀ s q, P s q → q.Acepta c ∧ Q 0x00 s ((q.recibe c).confirma c) ∧
      ∀ code resp, code ≠ 0x00 → Q code s { q.recibe c with enCurso := some (c, resp) }) :
    Prog.Follows enLinea P (as608CmdAck instr extra timeoutMs flushMs) Q := by
  refine .bind (as608FlushRx_sigue hP flushMs) fun _ => .bind
    (R := fun _ s q => ∃ q0, P s q0 ∧ q = q0.recibe c)
    (as608WritePacket_sigue hc fun s q hq => ⟨(h s q hq).1, q, hq, rfl⟩) fun _ => ?_
  refine .bind (as608Recv_follows (Q := fun resp => Q (as608TryParseAck resp))
    (fun _ _ => trivial) (fun s q bs hq => ?_) timeoutMs) fun resp => .pure fun _ _ h => h
  obtain ⟨q0, hq0, rfl⟩ := hq
  obtain ⟨-, hsi, hno⟩ := h s q0 hq0
  rw [as608TryParseAck_take (by decide), after_respuestaSensor rfl (by decide), List.nil_append]
  by_cases hack : as608TryParseAck bs = 0x00
  · rw [if_pos hack, hack]
    exact hsi
  · rw [if_neg hack]
    exact hno _ bs hack

/-- The two commands of the start. -/
theorem as608Init_sigue : Prog.Follows enLinea (fun _ q => q.accion = none)
    (as608Init : Prog σ Sample SensorEv Unit) fun _ _ q => q.accion = none := by
  have hP (_ : σ) (q : Modulo) (b : UInt8) (h : q.accion = none) : (q.responde b).accion = none :=
    (responde_gana q b).accion.trans h
  have hrecv : Prog.Follows enLinea (fun _ q => q.accion = none)
      (as608Recv 32 3000 : Prog σ Sample SensorEv (List UInt8)) fun _ _ q => q.accion = none :=
    as608Recv_follows (fun _ _ => trivial) (fun s q bs hq => Machine.after_keeps
      (fun q e he h => by obtain ⟨b, rfl⟩ := mem_rxTrace he; exact hP s q b h) hq) 3000
  have hcheck : Prog.Follows enLinea (fun _ q => q.accion = none)
      (as608Check : Prog σ Sample SensorEv Bool) fun _ _ q => q.accion = none := by
    have hclave : Prog.Follows enLinea (fun _ q => q.accion = none)
        (as608WritePacket 0x01 [0x13, 0, 0, 0, 0] : Prog σ Sample SensorEv Unit)
        fun _ _ q => q.accion = none :=
      as608WritePacket_sigue (c := .vfyPwd) rfl fun _ _ h => ⟨trivial, h⟩
    exact .bind (as608FlushRx_sigue hP 1) fun _ => .bind hclave fun _ => .bind hrecv fun _ =>
      .pure fun _ _ h => h
  have hcount : Prog.Follows enLinea (fun _ q => q.accion = none)
      (as608CmdTemplateCount : Prog σ Sample SensorEv _) fun _ _ q => q.accion = none := by
    have hcuenta : Prog.Follows enLinea (fun _ q => q.accion = none)
        (as608WritePacket 0x01 [0x1D] : Prog σ Sample SensorEv Unit) fun _ _ q => q.accion = none :=
      as608WritePacket_sigue (c := .templateCount) rfl fun _ _ h => ⟨trivial, h⟩
    refine .bind (as608FlushRx_sigue hP 1) fun _ => .bind hcuenta fun _ => .bind hrecv fun resp =>
      .ite (fun _ => .pure fun _ _ h => h) fun _ => ?_
    exact .ite (fun _ => .pure fun _ _ h => h) fun _ => .pure fun _ _ h => h
  exact .bind (as608FlushRx_sigue hP 10) fun _ => .bind hcheck fun _ => .bind hcount fun _ =>
    .pure fun _ _ h => h

end Driver

/-! ## A scan -/

/-- The scan counts on the image that it has taken. -/
def ScanSt.conImagen : ScanSt → Bool
  | .predlyImage2Tz | .sendImage2Tz => true
  | _ => false

/-- The scan counts on the features of its image. -/
def ScanSt.conRasgos : ScanSt → Bool
  | .sendSearch => true
  | _ => false

/-- The command whose success the scan waits for. -/
def ScanSt.espera : ScanSt → Option Comando
  | .waitGetImage => some .getImage
  | .waitImage2Tz => some (.image2Tz 0x01)
  | _ => none

/-- The scan is in the middle of something. -/
def ScanSt.aMedias (st : ScanSt) : Bool := st.conImagen || st.conRasgos || st.espera.isSome

/-- What the scan counts on is in the sensor, and it has read the whole answer,
unless something has come in between. -/
structure Creencia (g : Scan) (q : Modulo) : Prop where
  cabe : g.resp.length ≤ respSize
  imagen : g.st.conImagen = true → q.imagen = true ∨ q.interrumpido = true
  rasgos : g.st.conRasgos = true → q.char1 = true ∨ q.interrumpido = true
  espera : ∀ c, g.st.espera = some c → q.interrumpido = true ∨
    ∃ resp, q.enCurso = some (c, resp) ∧ as608TryParseAck resp ≠ 0x00 ∧ g.resp = resp.take respSize

/-- No enrolment and no deletion is going on. -/
def EnEscaneo (g : Scan) (q : Modulo) : Prop := q.accion = none ∧ Creencia g q

section Creencia

variable {g : Scan} {q q' : Modulo}

theorem Creencia.de_interrumpido (hcabe : g.resp.length ≤ respSize)
    (h : g.st.aMedias = true → q.interrumpido = true) : Creencia g q := by
  unfold ScanSt.aMedias at h
  refine ⟨hcabe, fun hi => .inr (h ?_), fun hr => .inr (h ?_), fun c hc => .inl (h ?_)⟩
  · rw [hi, Bool.true_or, Bool.true_or]
  · rw [hr, Bool.or_true, Bool.true_or]
  · rw [hc, Option.isSome_some, Bool.or_true]

/-- A scan that counts on nothing. -/
theorem Creencia.de_nada (hcabe : g.resp.length ≤ respSize) (h : g.st.aMedias = false) :
    Creencia g q := .de_interrumpido hcabe fun hm => absurd (h.symm.trans hm) Bool.false_ne_true

theorem Creencia.aMedias (h : Creencia g q) (hmedias : g.st.aMedias = true) :
    (q.imagen || q.char1 || q.enCurso.isSome || q.interrumpido) = true := by
  unfold ScanSt.aMedias at hmedias
  rw [Bool.or_eq_true, Bool.or_eq_true] at hmedias
  rcases hmedias with (hi | hr) | he
  · rcases h.imagen hi with h | h <;> simp [h]
  · rcases h.rasgos hr with h | h <;> simp [h]
  · obtain ⟨c, hc⟩ := Option.isSome_iff_exists.mp he
    rcases h.espera c hc with h | ⟨resp, h, -⟩ <;> simp [h]

/-- A scan that waits for no answer does not mind one. -/
theorem EnEscaneo.responde (h : EnEscaneo g q) (hst : g.st.espera = none) (b : UInt8) :
    EnEscaneo g (q.responde b) := by
  have hgana := responde_gana q b
  refine ⟨hgana.accion.trans h.1, h.2.cabe, fun hi => ?_, fun hr => ?_, fun c hc => ?_⟩
  · exact (h.2.imagen hi).imp hgana.imagen hgana.interrumpido.trans
  · exact (h.2.rasgos hr).imp hgana.char1 hgana.interrumpido.trans
  · rw [hst] at hc
    cases hc

end Creencia

/-- What the command was meant to bring. -/
def Modulo.Tiene (q : Modulo) : Comando → Prop
  | .getImage => q.imagen = true
  | .image2Tz slot => if slot = 0x01 then q.char1 = true else q.char2 = true
  | .regModel => q.modelo = true
  | _ => True

theorem confirma_tiene (q : Modulo) (c : Comando) : (q.confirma c).Tiene c := by
  cases c with
  | image2Tz slot =>
    show if slot = 0x01 then (q.consigue (.image2Tz slot)).char1 = true
      else (q.consigue (.image2Tz slot)).char2 = true
    by_cases hslot : slot = 0x01
    · simp [consigue_image2Tz, hslot]
    · simp [consigue_image2Tz, hslot]
  | getImage | regModel => exact rfl
  | _ => exact trivial

/-- The scan has listened, and the answer to the command `c` is now `resp`. -/
structure Escucha (c : Comando) (resp : List UInt8) (q : Modulo) : Prop where
  libre : q.accion = none
  cabe : resp.length ≤ respSize
  confirmado : as608TryParseAck resp = 0x00 → q.Tiene c ∨ q.interrumpido = true
  sigue : as608TryParseAck resp ≠ 0x00 → q.interrumpido = true ∨ ∃ resp',
    q.enCurso = some (c, resp') ∧ as608TryParseAck resp' ≠ 0x00 ∧ resp = resp'.take respSize

section Escaneo

variable {α : Type} {st : ScanSt} {c : Comando} {P : Scan → Modulo → Prop}

/-- The scan goes on to a state in which it counts on nothing. -/
theorem olvida_sigue {f : Scan → Scan} {a : α}
    (hf : ∀ g, (f g).st.aMedias = false ∧ (f g).resp = g.resp)
    (hP : ∀ g q, P g q → q.accion = none ∧ g.resp.length ≤ respSize) :
    Prog.Follows enLinea P (Prog.modify f >>= fun _ => pure a : Prog Scan Sample SensorEv α)
      fun _ => EnEscaneo := by
  refine .bind (R := fun _ => EnEscaneo) (.modify fun g q h => ?_) fun _ => .pure fun _ _ h => h
  obtain ⟨hst, hresp⟩ := hf g
  obtain ⟨hlibre, hcabe⟩ := hP g q h
  exact ⟨hlibre, .de_nada (hresp ▸ hcabe) hst⟩

/-- The flush, the command and the next state. -/
theorem envia_sigue (st : ScanSt) {st' : ScanSt} {f : Scan → Scan} {f' : ℕ → Scan → Scan} {a : α}
    {payload : List UInt8} {ms : UInt32} (hc : comando payload = c)
    (hf : ∀ g, (f g).st = g.st ∧ (f g).resp = [])
    (hf' : ∀ t g, (f' t g).st = st' ∧ (f' t g).resp = g.resp) (hst : st.espera = none)
    (hst' : st'.conImagen = false ∧ st'.conRasgos = false ∧ ∀ c', st'.espera = some c' → c' = c)
    (h : ∀ g q, g.st = st → EnEscaneo g q → q.Acepta c ∧ (q.recibe c).accion = none) :
    Prog.Follows enLinea (fun g q => g.st = st ∧ EnEscaneo g q) (do
      Prog.modify f
      as608FlushRx ms
      as608WritePacket 0x01 payload
      let t ← tickRead
      Prog.modify (f' t)
      pure a) fun _ => EnEscaneo := by
  refine .bind (R := fun _ g q => (g.st = st ∧ g.resp = []) ∧ EnEscaneo g q)
    (.modify fun g q hg => ?_) fun _ => ?_
  · obtain ⟨rfl, haccion, hcree⟩ := hg
    obtain ⟨hfst, hfresp⟩ := hf g
    refine ⟨⟨hfst, hfresp⟩, haccion, by rw [hfresp]; exact Nat.zero_le _, ?_, ?_, ?_⟩
    · exact hfst ▸ hcree.imagen
    · exact hfst ▸ hcree.rasgos
    · rw [hfst, hst]
      exact nofun
  refine .bind (as608FlushRx_sigue (fun g q b hg => ⟨hg.1, hg.2.responde (hg.1.1 ▸ hst) b⟩) ms)
    fun _ => .bind (R := fun _ g q => g.resp = [] ∧ q.accion = none ∧ q.enCurso = some (c, []))
      (as608WritePacket_sigue hc fun g q hg => ?_) fun _ => ?_
  · obtain ⟨hacepta, hlibre⟩ := h g q hg.1.1 hg.2
    exact ⟨hacepta, hg.1.2, hlibre, rfl⟩
  refine .bind tickRead_follows fun t => .bind (R := fun _ => EnEscaneo)
    (.modify fun g q hg => ?_) fun _ => .pure fun _ _ h => h
  obtain ⟨hresp, hlibre, hcurso⟩ := hg
  obtain ⟨hfst, hfresp⟩ := hf' t g
  obtain ⟨himagen, hrasgos, hespera⟩ := hst'
  refine ⟨hlibre, by rw [hfresp, hresp]; exact Nat.zero_le _, ?_, ?_, fun c' hc' => .inr ?_⟩
  · rw [hfst, himagen]
    exact nofun
  · rw [hfst, hrasgos]
    exact nofun
  · obtain rfl := hespera c' (hfst ▸ hc')
    exact ⟨[], hcurso, by decide, by rw [hfresp, hresp]; rfl⟩

theorem take_append_of_take (n : ℕ) (xs ys : List UInt8) :
    (xs.take n ++ ys).take n = (xs ++ ys).take n := by
  rw [List.take_append, List.take_append, List.take_take, min_self, List.length_take]
  congr 2
  omega

/-- A slice leaves the scan where it was. -/
theorem as608ReadSlice_sigue (g0 : Scan) {Q : List UInt8 → Modulo → Prop}
    (h : ∀ q bs, EnEscaneo g0 q →
      Q ((g0.resp ++ bs).take respSize) (enLinea.after q (rxTrace bs))) (sliceMs : UInt32) :
    Prog.Follows enLinea (fun g q => g = g0 ∧ EnEscaneo g q)
      (as608ReadSlice g0.resp respSize sliceMs) fun resp g q => g.st = g0.st ∧ Q resp q := by
  refine Took.follows (R := fun resp bs g g' => g'.st = g.st ∧
    resp = (g0.resp ++ bs).take respSize) (fun _ _ => trivial) (fun cfg q hg => ?_) ?_
  · obtain ⟨hg0, -, hcree⟩ := hg
    refine Prog.wp_mono (as608ReadSlice_took (hg0 ▸ hcree.cabe)) (fun _ h => h) ?_
    rintro resp c' ⟨bs, htook, -, ⟨tl, hst⟩, hresp⟩
    exact ⟨bs, htook, by rw [hst], hresp⟩
  · rintro _ bs _ g' q ⟨rfl, hq⟩ ⟨hst, rfl⟩
    exact ⟨hst, h q bs hq⟩

theorem after_accion {q : Modulo} (h : q.accion = none) (bs : List UInt8) :
    (enLinea.after q (rxTrace bs)).accion = none :=
  Machine.after_keeps (P := fun q : Modulo => q.accion = none) (fun q e he h => by
    obtain ⟨b, rfl⟩ := mem_rxTrace he
    exact (responde_gana q b).accion.trans h) h

theorem after_interrumpido {q : Modulo} (h : q.interrumpido = true) (bs : List UInt8) :
    (enLinea.after q (rxTrace bs)).interrumpido = true :=
  Machine.after_keeps (P := fun q : Modulo => q.interrumpido = true) (fun q e he h => by
    obtain ⟨b, rfl⟩ := mem_rxTrace he
    exact (responde_gana q b).interrumpido.trans h) h

/-- What a slice brings while the scan waits for its answer. -/
theorem EnEscaneo.escucha {g : Scan} {q : Modulo} (h : EnEscaneo g q) (hc : g.st.espera = some c)
    (bs : List UInt8) :
    Escucha c ((g.resp ++ bs).take respSize) (enLinea.after q (rxTrace bs)) := by
  have hlibre := after_accion h.1 bs
  have hcabe : ((g.resp ++ bs).take respSize).length ≤ respSize := List.length_take_le _ _
  rcases h.2.espera c hc with hint | ⟨resp, hcurso, hack, hresp⟩
  · have hint := after_interrumpido hint bs
    exact ⟨hlibre, hcabe, fun _ => .inr hint, fun _ => .inl hint⟩
  · rw [hresp, take_append_of_take] at hcabe ⊢
    rw [after_respuestaSensor hcurso hack] at hlibre ⊢
    refine ⟨hlibre, hcabe, fun hsi => .inl ?_, fun hno => .inr ?_⟩
    · rw [as608TryParseAck_take (by decide)] at hsi
      rw [if_pos hsi]
      exact confirma_tiene q c
    · rw [as608TryParseAck_take (by decide)] at hno
      rw [if_neg hno]
      exact ⟨resp ++ bs, rfl, hno, rfl⟩

/-- The answer is kept, and the scan looks at its code. -/
theorem espera_sigue {g0 : Scan} (hc : g0.st.espera = some c) {sliceMs : UInt32}
    {f : List UInt8 → Scan → Scan} {m : List UInt8 → Prog Scan Sample SensorEv α}
    (hf : ∀ resp g, (f resp g).st = g.st ∧ (f resp g).resp = resp)
    (hm : ∀ resp, Prog.Follows enLinea
      (fun g q => (g.st = g0.st ∧ g.resp = resp) ∧ Escucha c resp q) (m resp)
        fun _ => EnEscaneo) :
    Prog.Follows enLinea (fun g q => g = g0 ∧ EnEscaneo g q) (do
      let resp ← as608ReadSlice g0.resp respSize sliceMs
      Prog.modify (f resp)
      m resp) fun _ => EnEscaneo := by
  refine .bind (as608ReadSlice_sigue g0 (Q := Escucha c) (fun q bs h => h.escucha hc bs) sliceMs)
    fun resp => .bind (R := fun _ g q => (g.st = g0.st ∧ g.resp = resp) ∧ Escucha c resp q)
      (.modify fun g q h => ?_) fun _ => hm resp
  obtain ⟨hst, hresp⟩ := hf resp g
  exact ⟨⟨hst.trans h.1, hresp⟩, h.2⟩

/-- No code yet: the scan goes on waiting, or gives up. -/
theorem vence_sigue {resp : List UInt8} (hc : st.espera = some c)
    (himagen : st.conImagen = false) (hrasgos : st.conRasgos = false)
    (hack : ¬ as608TryParseAck resp ≠ 0xFF) {test : TimeTest} {t0 : ℤ} {f : Scan → Scan} {a : α}
    (hf : ∀ g, (f g).st.aMedias = false ∧ (f g).resp = g.resp) :
    Prog.Follows enLinea (fun g q => (g.st = st ∧ g.resp = resp) ∧ Escucha c resp q) (do
      let t ← tickRead
      if test.holds t t0 then
        Prog.modify f
      pure a) fun _ => EnEscaneo := by
  refine .bind tickRead_follows fun t => .ite (fun _ => olvida_sigue hf fun g q h =>
    ⟨h.2.libre, h.1.2 ▸ h.2.cabe⟩) fun _ => .pure fun g q h => ?_
  obtain ⟨⟨rfl, rfl⟩, h⟩ := h
  refine ⟨h.libre, h.cabe, ?_, ?_, fun c' hc' => ?_⟩
  · rw [himagen]
    exact nofun
  · rw [hrasgos]
    exact nofun
  · obtain rfl : c = c' := Option.some_inj.mp (hc.symm.trans hc')
    refine h.sigue fun hcero => ?_
    rw [not_not.mp hack] at hcero
    exact absurd hcero (by decide)

theorem as608ScanStep_sigue :
    Prog.Follows enLinea EnEscaneo as608ScanStep fun _ => EnEscaneo := by
  refine .get_bind fun g0 => ?_
  have hsuelta {c : Comando} (resp : List UInt8) (g : Scan) (q : Modulo)
      (h : (g.st = g0.st ∧ g.resp = resp) ∧ Escucha c resp q) :
      q.accion = none ∧ g.resp.length ≤ respSize := ⟨h.2.libre, h.1.2 ▸ h.2.cabe⟩
  cases hst : g0.st with
  | idle | doneMatch | doneNoFinger | doneNoMatch | doneError =>
    exact olvida_sigue (fun _ => ⟨rfl, rfl⟩) fun _ _ h => ⟨h.2.1, h.2.2.cabe⟩
  | predlyImage2Tz =>
    refine .bind tickRead_follows fun t => .ite (fun _ => .bind (R := fun _ => EnEscaneo)
      (.modify fun g q h => ?_) fun _ => .pure fun _ _ h => h) fun _ => .pure fun _ _ h => h.2
    obtain ⟨rfl, haccion, hcree⟩ := h
    exact ⟨haccion, hcree.cabe, fun _ => hcree.imagen (by rw [hst]; rfl), nofun, nofun⟩
  | sendGetImage =>
    refine .pre (envia_sigue .sendGetImage (c := .getImage) rfl (fun _ => ⟨rfl, rfl⟩)
      (fun _ _ => ⟨rfl, rfl⟩) rfl ⟨rfl, rfl, fun _ h => (Option.some_inj.mp h).symm⟩
        fun g q _ h => ⟨trivial, ?_⟩) fun g q h => ⟨h.1 ▸ hst, h.2⟩
    show (if q.accion = none then _ else _ : Modulo).accion = none
    rw [if_pos h.1]
  | sendImage2Tz =>
    refine .pre (envia_sigue .sendImage2Tz (c := .image2Tz 0x01) rfl (fun _ => ⟨rfl, rfl⟩)
      (fun _ _ => ⟨rfl, rfl⟩) rfl ⟨rfl, rfl, fun _ h => (Option.some_inj.mp h).symm⟩
        fun g q hg h => ⟨⟨?_, .inl rfl⟩, h.1⟩) fun g q h => ⟨h.1 ▸ hst, h.2⟩
    exact (h.2.imagen (by rw [hg]; rfl)).imp_right fun hint => ⟨h.1, hint⟩
  | sendSearch =>
    refine .pre (envia_sigue .sendSearch (c := .search 0x01) rfl (fun _ => ⟨rfl, rfl⟩)
      (fun _ _ => ⟨rfl, rfl⟩) rfl ⟨rfl, rfl, nofun⟩ fun g q hg h => ⟨⟨rfl, h.1, ?_⟩, h.1⟩)
        fun g q h => ⟨h.1 ▸ hst, h.2⟩
    exact h.2.rasgos (by rw [hg]; rfl)
  | waitGetImage =>
    refine espera_sigue (c := .getImage) (by rw [hst]; rfl) (fun _ _ => ⟨rfl, rfl⟩) fun resp => ?_
    refine .ite (fun _ => .ite (fun hcero => ?_) fun _ => .ite (fun _ => ?_) fun _ => ?_)
      fun hack => ?_
    · refine .bind tickRead_follows fun t => .bind (R := fun _ => EnEscaneo)
        (.modify fun g q h => ?_) fun _ => .pure fun _ _ h => h
      obtain ⟨⟨-, rfl⟩, h⟩ := h
      exact ⟨h.libre, h.cabe, fun _ => h.confirmado hcero, nofun, nofun⟩
    · exact olvida_sigue (fun _ => ⟨rfl, rfl⟩) (hsuelta resp)
    · exact olvida_sigue (fun _ => ⟨rfl, rfl⟩) (hsuelta resp)
    · rw [hst]
      exact vence_sigue rfl rfl rfl hack fun _ => ⟨rfl, rfl⟩
  | waitImage2Tz =>
    refine espera_sigue (c := .image2Tz 0x01) (by rw [hst]; rfl) (fun _ _ => ⟨rfl, rfl⟩)
      fun resp => ?_
    refine .ite (fun _ => .ite (fun hcero => ?_) fun _ => ?_) fun hack => ?_
    · refine .bind (R := fun _ => EnEscaneo) (.modify fun g q h => ?_) fun _ => .pure fun _ _ h => h
      obtain ⟨⟨-, rfl⟩, h⟩ := h
      exact ⟨h.libre, h.cabe, nofun, fun _ => h.confirmado hcero, nofun⟩
    · exact olvida_sigue (fun _ => ⟨rfl, rfl⟩) (hsuelta resp)
    · rw [hst]
      exact vence_sigue rfl rfl rfl hack fun _ => ⟨rfl, rfl⟩
  | waitSearch =>
    have hlee := as608ReadSlice_sigue g0
      (Q := fun resp q => resp.length ≤ respSize ∧ q.accion = none)
        (fun q bs h => ⟨List.length_take_le _ _, after_accion h.1 bs⟩) 4
    refine .bind hlee fun resp => .bind (R := fun _ => EnEscaneo) (.modify fun g q h => ?_)
      fun _ => ?_
    · obtain ⟨hg, hcabe, hlibre⟩ := h
      refine ⟨hlibre, .de_nada hcabe ?_⟩
      show g.st.aMedias = false
      rw [hg, hst]
      rfl
    have hcabe (g : Scan) (q : Modulo) (h : EnEscaneo g q) :
        q.accion = none ∧ g.resp.length ≤ respSize := ⟨h.1, h.2.cabe⟩
    refine .ite (fun _ => .ite (fun _ => .ite (fun _ => ?_) fun _ => ?_) fun _ => ?_) fun _ => ?_
    · exact olvida_sigue (fun _ => ⟨rfl, rfl⟩) hcabe
    · exact .pure fun _ _ h => h
    · exact olvida_sigue (fun _ => ⟨rfl, rfl⟩) hcabe
    · exact .bind tickRead_follows fun t => .ite
        (fun _ => olvida_sigue (fun _ => ⟨rfl, rfl⟩) hcabe) fun _ => .pure fun _ _ h => h

end Escaneo

/-! ## An enrolment -/

/-- The enrolment of `pin` at page `id` is going on. It is known to have
interrupted the scan `g`. -/
structure EnAlta (pin : List UInt8) (id : UInt16) (g : Scan) (q : Modulo) : Prop where
  accion : q.accion = some (.enrolarHuella pin id)
  cabe : g.resp.length ≤ respSize
  interrumpido : g.st.aMedias = true → q.interrumpido = true

/-- During the enrolment, before it or after it. -/
def DeAlta (pin : List UInt8) (id : UInt16) (g : Scan) (q : Modulo) : Prop :=
  EnEscaneo g q ∨ EnAlta pin id g q

section Alta

variable {σ : Type} {pin : List UInt8} {id : UInt16} {g : Scan} {q q' : Modulo}

theorem EnAlta.congr (h : EnAlta pin id g q) (haccion : q'.accion = q.accion)
    (hint : q'.interrumpido = q.interrumpido) : EnAlta pin id g q' :=
  ⟨haccion.trans h.accion, h.cabe, fun hg => hint.trans (h.interrumpido hg)⟩

theorem EnAlta.responde (h : EnAlta pin id g q) (b : UInt8) : EnAlta pin id g (q.responde b) :=
  h.congr (responde_gana q b).accion (responde_gana q b).interrumpido

/-- After the enrolment the scan goes on, if it can. -/
theorem EnAlta.enEscaneo (h : EnAlta pin id g q) (haccion : q'.accion = none)
    (hint : q'.interrumpido = q.interrumpido) : EnEscaneo g q' :=
  ⟨haccion, .de_interrumpido h.cabe fun hg => hint.trans (h.interrumpido hg)⟩

theorem EnAlta.ne_none (h : EnAlta pin id g q) : q.accion ≠ none := by
  rw [h.accion]
  exact Option.some_ne_none _

theorem EnAlta.libera_eq (h : EnAlta pin id g q) :
    q.libera = ⟨none, none, false, false, false, false, q.interrumpido⟩ := if_neg h.ne_none

theorem DeAlta.libera (h : DeAlta pin id g q) : EnEscaneo g q.libera := by
  rcases h with hlibre | halta
  · rw [show q.libera = q from if_pos hlibre.1]
    exact hlibre
  · rw [halta.libera_eq]
    exact halta.enEscaneo rfl rfl

theorem EnAlta.empieza_getImage (h : EnAlta pin id g q) :
    q.empieza .getImage = { q with imagen := false } := if_neg h.ne_none

/-- An image of the finger in the buffer `slot`, the second one on top of the
first. -/
theorem as608EnrollCapture_sigue {slot : UInt8} (hslot : slot = 0x01 ∨ slot = 0x02) :
    Prog.Follows enLinea (fun _ q => EnAlta pin id g q ∧ (slot = 0x02 → q.char1 = true))
      (as608EnrollCapture slot : Prog σ Sample SensorEv Bool)
      fun ok _ q => EnAlta pin id g q ∧
        (ok = true → q.char1 = true ∧ (slot = 0x02 → q.char2 = true)) := by
  have hfirme (_ : σ) (q : Modulo) (b : UInt8)
      (h : EnAlta pin id g q ∧ (slot = 0x02 → q.char1 = true)) :
      EnAlta pin id g (q.responde b) ∧ (slot = 0x02 → (q.responde b).char1 = true) :=
    ⟨h.1.responde b, fun hs => (responde_gana q b).char1 (h.2 hs)⟩
  have hsin : ∀ (_ : σ) q, EnAlta pin id g q ∧ (slot = 0x02 → q.char1 = true) →
      EnAlta pin id g q ∧ (false = true → q.char1 = true ∧ (slot = 0x02 → q.char2 = true)) :=
    fun _ _ h => ⟨h.1, fun hf => absurd hf Bool.false_ne_true⟩
  refine .bind (as608FlushRx_sigue hfirme 50) fun _ => .bind tickRead_follows fun t =>
    .iter (fun _ _ q => EnAlta pin id g q ∧ (slot = 0x02 → q.char1 = true))
      (fun lastAttempt => ?_) _
  refine .bind tickRead_follows fun now => .ite (fun _ => ?_) fun _ => .pure hsin
  refine .bind tickRead_follows fun now => .ite (fun _ => .pure fun _ _ h => h) fun _ => ?_
  refine .bind tickRead_follows fun lastAttempt => .bind (as608FlushRx_sigue hfirme 10) fun _ => ?_
  -- the image is taken if the sensor says so, and the first buffer stays
  refine .bind (R := fun r _ q => (EnAlta pin id g q ∧ (slot = 0x02 → q.char1 = true)) ∧
    (r = 0x00 → q.imagen = true)) (as608CmdAck_sigue (c := .getImage) rfl hfirme
      fun s q h => ⟨trivial, ?_⟩) fun r => ?_
  · rw [Modulo.recibe, h.1.empieza_getImage]
    exact ⟨⟨⟨h.1.congr rfl rfl, h.2⟩, fun _ => rfl⟩, fun code resp hcode =>
      ⟨⟨h.1.congr rfl rfl, h.2⟩, fun hr => absurd hr hcode⟩⟩
  refine .ite (fun hr => ?_) fun _ => .pure fun _ _ h => h.1
  have hfirme' (_ : σ) (q : Modulo) (b : UInt8)
      (h : (EnAlta pin id g q ∧ (slot = 0x02 → q.char1 = true)) ∧ (r = 0x00 → q.imagen = true)) :
      (EnAlta pin id g (q.responde b) ∧ (slot = 0x02 → (q.responde b).char1 = true)) ∧
        (r = 0x00 → (q.responde b).imagen = true) :=
    ⟨⟨h.1.1.responde b, fun hs => (responde_gana q b).char1 (h.1.2 hs)⟩,
      fun hr => (responde_gana q b).imagen (h.2 hr)⟩
  refine .bind (as608FlushRx_sigue hfirme' 20) fun _ => .bind
    (R := fun tz _ q => EnAlta pin id g q ∧
      (tz = 0x00 → q.char1 = true ∧ (slot = 0x02 → q.char2 = true)))
    (as608CmdAck_sigue (c := .image2Tz slot) rfl hfirme' fun s q h => ?_)
      fun tz => .pure fun _ _ h => ⟨h.1, fun ok => h.2 (of_decide_eq_true ok)⟩
  obtain ⟨⟨halta, hchar⟩, himagen⟩ := h
  refine ⟨⟨.inl (himagen hr), hslot.imp_right fun h => ⟨h, halta.ne_none⟩⟩, ?_⟩
  rcases hslot with rfl | rfl
  · exact ⟨⟨halta.congr rfl rfl, fun _ => ⟨rfl, fun h => absurd h (by decide)⟩⟩,
      fun _ _ hcode => ⟨halta.congr rfl rfl, fun h => absurd h hcode⟩⟩
  · exact ⟨⟨halta.congr rfl rfl, fun _ => ⟨hchar rfl, fun _ => rfl⟩⟩,
      fun _ _ hcode => ⟨halta.congr rfl rfl, fun h => absurd h hcode⟩⟩

/-- Two images, a model of both, and only then the page. -/
theorem as608EnrollAtId_sigue : Prog.Follows enLinea (fun _ q => EnAlta pin id g q)
    (as608EnrollAtId id : Prog σ Sample SensorEv _) fun _ _ q => DeAlta pin id g q := by
  have hneg {b : Bool} (h : ¬ (!b) = true) : b = true := by simpa using h
  refine .bind (as608FlushRx_sigue (fun _ _ b h => h.responde b) 100) fun _ => .bind
    ((as608EnrollCapture_sigue (.inl rfl)).pre fun _ _ h => ⟨h, fun h => absurd h (by decide)⟩)
    fun ok1 => .ite (fun _ => .pure fun _ _ h => .inr h.1) fun h1 => ?_
  refine .bind (R := fun _ _ q => EnAlta pin id g q ∧ q.char1 = true)
    ((as608FlushRx_sigue (P := fun _ q => EnAlta pin id g q ∧ q.char1 = true) (fun _ q b h =>
      ⟨h.1.responde b, (responde_gana q b).char1 h.2⟩) 50).pre
        fun _ _ h => ⟨h.1, (h.2 (hneg h1)).1⟩) fun _ => ?_
  refine .bind ((as608EnrollCapture_sigue (.inr rfl)).pre fun _ _ h => ⟨h.1, fun _ => h.2⟩)
    fun ok2 => .ite (fun _ => .pure fun _ _ h => .inr h.1) fun h2 => ?_
  refine .pre (P := fun _ q => EnAlta pin id g q ∧ q.char1 = true ∧ q.char2 = true) ?_
    fun _ _ h => ⟨h.1, (h.2 (hneg h2)).1, (h.2 (hneg h2)).2 rfl⟩
  refine .bind (R := fun rm _ q => EnAlta pin id g q ∧ (rm = 0x00 → q.modelo = true))
    (as608CmdAck_sigue (c := .regModel) rfl (fun _ q b h => ⟨h.1.responde b,
      (responde_gana q b).char1 h.2.1, (responde_gana q b).char2 h.2.2⟩) fun s q h =>
        ⟨⟨h.1.ne_none, h.2⟩, ⟨h.1.congr rfl rfl, fun _ => rfl⟩, fun _ _ hcode =>
          ⟨h.1.congr rfl rfl, fun hr => absurd hr hcode⟩⟩) fun rm => ?_
  refine .ite (fun _ => .pure fun _ _ h => .inr h.1) fun hrm =>
    .ite (fun _ => .pure fun _ _ h => .inr h.1) fun hrango => ?_
  refine .bind (R := fun _ _ q => EnEscaneo g q) (as608CmdAck_sigue (comando_store id)
    (fun _ q b h => ⟨h.1.responde b, fun hr => (responde_gana q b).modelo (h.2 hr)⟩)
      fun s q h => ?_) fun st => .ite (fun _ => .pure fun _ _ h => .inl h)
        fun _ => .pure fun _ _ h => .inl h
  obtain ⟨halta, hmodelo⟩ := h
  refine ⟨⟨rfl, hmodelo (not_not.mp hrm), UInt16.not_lt.mp hrango, pin, halta.accion⟩, ?_⟩
  rw [Modulo.recibe, Modulo.empieza, halta.libera_eq]
  exact ⟨halta.enEscaneo rfl rfl, fun _ _ _ => halta.enEscaneo rfl rfl⟩

end Alta

/-! ## Deletions -/

/-- A deletion is announced, and nothing is said to the sensor yet. -/
structure EnBorrado (a : Accion) (g : Scan) (q : Modulo) : Prop where
  accion : q.accion = some a
  calla : q.enCurso = none
  creencia : Creencia g q

theorem EnEscaneo.borra {g : Scan} {q : Modulo} (h : EnEscaneo g q) (a : Accion) :
    EnBorrado a g (q.borra a) := by
  obtain ⟨-, hcabe, himagen, hrasgos, hespera⟩ := h
  have hint (h : q.interrumpido = true) : (q.borra a).interrumpido = true := by
    simp [Modulo.borra, h]
  refine ⟨rfl, rfl, hcabe, fun hi => (himagen hi).imp_right hint,
    fun hr => (hrasgos hr).imp_right hint, fun c hc => .inl ?_⟩
  rcases hespera c hc with h | ⟨resp, hcurso, -⟩
  · exact hint h
  · simp [Modulo.borra, hcurso]

/-- The deletion does not touch what a scan counts on, and no scan waits for an
answer. -/
theorem EnBorrado.enEscaneo {a : Accion} {g : Scan} {q : Modulo} (h : EnBorrado a g q)
    (curso : Option (Comando × List UInt8)) :
    EnEscaneo g { q with accion := none, enCurso := curso } := by
  refine ⟨rfl, h.creencia.cabe, h.creencia.imagen, h.creencia.rasgos, fun c hc => .inl ?_⟩
  rcases h.creencia.espera c hc with hint | ⟨resp, hcurso, -⟩
  · exact hint
  · exact absurd (h.calla.symm.trans hcurso) (Option.some_ne_none _).symm

/-- A deletion of the action in progress, which it ends. -/
theorem borra_sigue {σ : Type} {a : Accion} {g : Scan} {instr : UInt8} {extra : List UInt8}
    {timeoutMs flushMs : UInt32} {c : Comando} (hc : comando (instr :: extra.take 7) = c)
    (h : ∀ q : Modulo, q.accion = some a → q.Acepta c ∧ q.recibe c =
      { q with accion := none, enCurso := some (c, []) }) (hnada : ∀ q : Modulo, q.consigue c = q) :
    Prog.Follows enLinea (fun _ q => EnBorrado a g q)
      (as608CmdAck instr extra timeoutMs flushMs : Prog σ Sample SensorEv UInt8)
      fun _ _ q => EnEscaneo g q := by
  refine as608CmdAck_sigue hc (fun _ q b hq => ?_) fun s q hq => ?_
  · rw [responde_none hq.calla]
    exact hq
  · obtain ⟨hacepta, hrecibe⟩ := h q hq.accion
    rw [Modulo.confirma, hnada, hrecibe]
    exact ⟨hacepta, hq.enEscaneo _, fun _ _ _ => hq.enEscaneo _⟩

theorem as608DeleteId_sigue {σ : Type} {pin : List UInt8} {id : UInt16} {g : Scan} :
    Prog.Follows enLinea (fun _ q => EnBorrado (.borrarHuella pin id) g q)
      (as608DeleteId id : Prog σ Sample SensorEv Bool) fun _ _ q => EnEscaneo g q :=
  .bind (borra_sigue (comando_deletChar id 1) (fun _ hq => ⟨⟨rfl, pin, hq⟩, rfl⟩) fun _ => rfl)
    fun _ => .pure fun _ _ h => h

theorem as608ClearAllTemplates_sigue {σ : Type} {g : Scan} :
    Prog.Follows enLinea (fun _ q => EnBorrado .borrarTodasHuellas g q)
      (as608ClearAllTemplates : Prog σ Sample SensorEv Bool) fun _ _ q => EnEscaneo g q :=
  .bind (borra_sigue (c := .empty) rfl (fun _ hq => ⟨hq, rfl⟩) fun _ => rfl)
    fun _ => .pure fun _ _ h => h

end Cerradura
