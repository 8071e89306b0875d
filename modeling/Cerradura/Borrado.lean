import Cerradura.As608Frame
import Cerradura.IdLibre

/-!
# Deleting one fingerprint

Option 4 of the menu looks the fingerprint up with the function that enrolment
uses, which finds an id for every user.

Results:
1. `borrado_iff`: for a target PIN the deletion touches that user's fingerprint
   and nothing else exactly if the user of the PIN has one.
2. `borrado_ajeno`: the PIN of a user who has none.
-/

namespace Cerradura

open Reactive ListaPins

/-! ## The command on the line -/

/-- DeletChar of one page. -/
def tramaDelete (id : UInt16) : List UInt8 :=
  as608Frame 0x01 (0x0C :: (bytesBe id ++ bytesBe 1).take 7)

/-- The page that a frame deletes. -/
def paginaBorrada (trama : List UInt8) : Option UInt16 :=
  if trama[9]? = some 0x0C then some (be16 (trama.getD 10 0) (trama.getD 11 0)) else none

theorem paginaBorrada_tramaDelete (id : UInt16) : paginaBorrada (tramaDelete id) = some id :=
  (if_pos rfl).trans (congrArg some (be16_bytes id))

/-! ## A command and its reply -/

section Sensor

variable {σ : Type} {c : Config σ Sample SensorEv}

/-- Bytes have come, the last one first, and nothing was sent. -/
def SoloLee (c c' : Config σ Sample SensorEv) : Prop :=
  ∃ bs : List UInt8, c'.trace = bs.map .rx ++ c.trace

theorem Took.soloLee {bs : List UInt8} {c' : Config σ Sample SensorEv} (h : Took c bs c') :
    SoloLee c c' := by
  refine ⟨bs.reverse, ?_⟩
  rw [h.trace, rxTrace, List.map_reverse]

theorem as608FlushRx_soloLee (ms : UInt32) :
    (as608FlushRx ms).wp (SoloLee c) (fun _ => SoloLee c) c :=
  Prog.wp_mono (as608FlushRx_took ms) (fun _ ⟨_, h⟩ => h.soloLee) fun _ _ ⟨_, h, _⟩ => h.soloLee

/-- The buffer is what came first. A byte may be lost when it is full. -/
theorem as608Recv_wp {maxLen : ℕ} {timeoutMs : UInt32} :
    (as608Recv maxLen timeoutMs).wp (SoloLee c)
      (fun buf c' => ∃ bs : List UInt8, c'.trace = bs.map .rx ++ c.trace ∧ buf <+: bs.reverse)
      c := by
  refine Prog.wp_mono (as608Recv_took maxLen timeoutMs) (fun _ ⟨_, h⟩ => h.soloLee) ?_
  rintro _ c' ⟨bs, htook, -, rfl⟩
  refine ⟨bs.reverse, ?_, ?_⟩
  · rw [htook.trace, rxTrace, List.map_reverse]
  · rw [List.reverse_reverse]
    exact List.take_prefix _ _

/-- The events of a deletion: what was flushed, the command, and the reply. -/
def Enviada (id : UInt16) (despues antes : List UInt8) : List SensorEv :=
  despues.map .rx ++ .tx (tramaDelete id) :: antes.map .rx

/-- One command is sent. It is taken for done if what comes then begins with a
confirmation. -/
theorem as608DeleteId_wp (id : UInt16) : (as608DeleteId id).wp
    (fun c' => SoloLee c c' ∨ ∃ despues antes, c'.trace = Enviada id despues antes ++ c.trace)
    (fun r c' => ∃ despues antes, c'.trace = Enviada id despues antes ++ c.trace ∧
      (r = true → ∃ resp, resp <+: despues.reverse ∧ as608TryParseAck resp = 0x00)) c := by
  unfold as608DeleteId as608CmdDelete as608CmdAck
  rw [Prog.wp_bind, Prog.wp_bind]
  refine Prog.wp_mono (as608FlushRx_soloLee 2) (fun _ h => .inl h) fun _ c1 h1 => ?_
  obtain ⟨antes, hantes⟩ := h1
  unfold as608WritePacket as608GetAck
  rw [Prog.wp_bind, Prog.wp_emit, Prog.wp_bind]
  have henviada : ∀ despues : List UInt8,
      despues.map SensorEv.rx ++ .tx (tramaDelete id) :: c1.trace =
        Enviada id despues antes ++ c.trace := by
    intro despues
    rw [Enviada, hantes, List.append_assoc, List.cons_append]
  refine Prog.wp_mono as608Recv_wp (fun c2 h2 => .inr ?_) fun buf c2 h2 => ?_
  · obtain ⟨despues, hdespues⟩ := h2
    exact ⟨despues, antes, hdespues.trans (henviada despues)⟩
  · obtain ⟨despues, hdespues, hbuf⟩ := h2
    exact ⟨despues, antes, hdespues.trans (henviada despues),
      fun hr => ⟨buf, hbuf, of_decide_eq_true hr⟩⟩

end Sensor

/-! ## What the trace says -/

/-- The page of a DeletChar command. -/
def MefEv.borrada : MefEv → Option UInt16
  | .sensor (.tx trama) => paginaBorrada trama
  | _ => none

def borrados (traza : List MefEv) : List UInt16 := traza.filterMap MefEv.borrada

/-- What the sensor has answered to the last command. -/
def leidos : List MefEv → List UInt8
  | [] | .sensor (.tx _) :: _ => []
  | .sensor (.rx b) :: antes => leidos antes ++ [b]
  | _ :: antes => leidos antes

/-- It has confirmed it. -/
def Reconocido (traza : List MefEv) : Prop :=
  ∃ resp, resp <+: leidos traza ∧ as608TryParseAck resp = 0x00

theorem borrados_append (evs traza : List MefEv) :
    borrados (evs ++ traza) = borrados evs ++ borrados traza := List.filterMap_append

theorem borrados_rx (bs : List UInt8) : borrados ((bs.map SensorEv.rx).map .sensor) = [] := by
  refine List.filterMap_eq_nil_iff.mpr fun e he => ?_
  obtain ⟨d, hd, rfl⟩ := List.mem_map.mp he
  obtain ⟨b, -, rfl⟩ := List.mem_map.mp hd
  rfl

theorem borrados_esp (evs : List EspEv) : borrados (evs.map .esp) = [] := by
  refine List.filterMap_eq_nil_iff.mpr fun e he => ?_
  obtain ⟨d, -, rfl⟩ := List.mem_map.mp he
  rfl

theorem borrados_enviada (id : UInt16) (despues antes : List UInt8) :
    borrados ((Enviada id despues antes).map .sensor) = [id] := by
  have htrama : borrados (MefEv.sensor (.tx (tramaDelete id)) ::
      (antes.map SensorEv.rx).map .sensor) = [id] := by
    have hpagina : (MefEv.sensor (.tx (tramaDelete id))).borrada = some id :=
      paginaBorrada_tramaDelete id
    rw [borrados, List.filterMap_cons_some hpagina]
    exact congrArg (id :: ·) (borrados_rx antes)
  rw [Enviada, List.map_append, borrados_append, borrados_rx, List.map_cons, htrama]
  rfl

theorem leidos_esp (evs : List EspEv) (traza : List MefEv) :
    leidos (evs.map .esp ++ traza) = leidos traza := by
  induction evs with
  | nil => rfl
  | cons e evs ih => exact ih

theorem leidos_enviada (id : UInt16) (despues antes : List UInt8) (traza : List MefEv) :
    leidos ((Enviada id despues antes).map .sensor ++ traza) = despues.reverse := by
  induction despues with
  | nil => rfl
  | cons b despues ih =>
    rw [List.reverse_cons, ← ih]
    rfl

/-! ## The deletion of one PIN -/

/-- `borrarUna` once the PIN is there. -/
def borrarDe (pinTarget : List UInt8) : MefProg Unit := do
  let s ← Prog.get
  if validarPin s.listaPins pinTarget then
    match obtenerHuellaAsignadaPorPin s.listaPins pinTarget with
    | some idStr =>
      hacer (.borrarHuella pinTarget (idSensor idStr))
      if ← conSensor (as608DeleteId (idSensor idStr)) then
        Prog.modify fun s => { s with listaPins := (eliminarHuellaLocal s.listaPins pinTarget).2 }
        let _ ← conEsp (espBorrarHuellaServidor pinTarget)
    | none => Prog.emit .noTieneHuella
  else Prog.emit .noTieneHuella

theorem borrarUna_eq :
    borrarUna = pedirPin .pinTarget >>= fun pinTarget => borrarDe (pinTarget.getD []) := rfl

/-- The table with the first record of the PIN cleared, and no other. -/
def SinSuHuella (lista : ListaPins) (pin : List UInt8) (lista' : ListaPins) : Prop :=
  ∀ j : ℕ, lista'.pins[j]? = if lista.pins.findIdx (conPin pin) = j then
    lista.pins[j]?.map ({ · with huella := .vacio 4 }) else lista.pins[j]?

/-- The end of a deletion: what it has done since `c`. -/
structure SoloLaSuya (pinTarget : List UInt8) (c : Config Mef Sample MefEv)
    (fin : Option Unit × Config Mef Sample MefEv) (evs : List MefEv) : Prop where
  traza : fin.2.trace = evs ++ c.trace
  -- the user has a fingerprint: its page at most, and on the sensor's word the record
  pagina : ∀ u, c.st.listaPins.pins.find? (conPin pinTarget) = some u → u.huella.bytes ≠ [] →
    borrados evs = [idSensor u.huella.bytes] ∨ (fin.1 = none ∧ borrados evs = [])
  tabla : ∀ u, c.st.listaPins.pins.find? (conPin pinTarget) = some u → u.huella.bytes ≠ [] →
    fin.2.st.listaPins = c.st.listaPins ∨
      (Reconocido evs ∧ SinSuHuella c.st.listaPins pinTarget fin.2.st.listaPins)
  -- the user has none, or there is no such user
  sin : (∀ u, c.st.listaPins.pins.find? (conPin pinTarget) = some u → u.huella.bytes = []) →
    borrados evs = [] ∧ fin.2.st.listaPins = c.st.listaPins ∧
      (fin.1 = some () → .noTieneHuella ∈ evs)

section Borrar

variable {pinTarget : List UInt8} {c : Config Mef Sample MefEv}

theorem conEsp_sinSensor {α : Type} (m : Prog Bool Sample EspEv α) :
    Prog.Keeps (fun c c' => c'.st.listaPins = c.st.listaPins ∧
      ∃ evs : List EspEv, c'.trace = evs.map .esp ++ c.trace) (conEsp m) :=
  .zoom fun _ _ _ trace => ⟨rfl, trace, rfl⟩

/-- The PIN is not valid: the error, and nothing else. -/
theorem borrarDe_invalido (h : c.st.listaPins.pins.find? (conPin pinTarget) = none) :
    ∃ evs, SoloLaSuya pinTarget c (borrarDe pinTarget c) evs := by
  have hvalida : validarPin c.st.listaPins pinTarget = false := by
    refine eq_false_of_ne_true fun ht => ?_
    obtain ⟨u, hu⟩ := any_iff_find?.mp ht
    rw [h] at hu
    cases hu
  have hrun : borrarDe pinTarget c =
      (some (), { c with trace := .noTieneHuella :: c.trace }) := by
    show (if validarPin c.st.listaPins pinTarget then _
      else Prog.emit .noTieneHuella : MefProg Unit) c = _
    rw [hvalida]
    rfl
  have hnadie : ∀ u, c.st.listaPins.pins.find? (conPin pinTarget) ≠ some u := by
    intro u hu
    rw [h] at hu
    cases hu
  refine ⟨[.noTieneHuella], ?_⟩
  rw [hrun]
  exact ⟨rfl, fun u hu => absurd hu (hnadie u), fun u hu => absurd hu (hnadie u),
    fun _ => ⟨rfl, rfl, fun _ => List.mem_singleton_self _⟩⟩

/-- What has been sent since `c`, and what has become of the table. -/
def BorraHasta (pinTarget : List UInt8) (c : Config Mef Sample MefEv)
    (enviado : List UInt16 → Prop) (c' : Config Mef Sample MefEv) : Prop :=
  ∃ evs, c'.trace = evs ++ c.trace ∧ enviado (borrados evs) ∧
    (c'.st.listaPins = c.st.listaPins ∨
      (Reconocido evs ∧ SinSuHuella c.st.listaPins pinTarget c'.st.listaPins))

theorem BorraHasta.imp {enviado enviado' : List UInt16 → Prop} {c' : Config Mef Sample MefEv}
    (h : BorraHasta pinTarget c enviado c') (himp : ∀ ps, enviado ps → enviado' ps) :
    BorraHasta pinTarget c enviado' c' := by
  obtain ⟨evs, htrace, henviado, htabla⟩ := h
  exact ⟨evs, htrace, himp _ henviado, htabla⟩

/-- The events of a command that was begun with the action. -/
def eventosBorrado (lista : ListaPins) (pin : List UInt8) (id : UInt16)
    (despues antes : List UInt8) : List MefEv :=
  (Enviada id despues antes).map .sensor ++ [.accion lista (.borrarHuella pin id)]

theorem borrados_eventos (lista : ListaPins) (pin : List UInt8) (id : UInt16)
    (despues antes : List UInt8) : borrados (eventosBorrado lista pin id despues antes) = [id] := by
  unfold eventosBorrado
  rw [borrados_append, borrados_enviada]
  rfl

/-- In the trace of the machine. -/
theorem eventosBorrado_trace (lista : ListaPins) (pin : List UInt8) (traza : List MefEv)
    {id : UInt16} {despues antes : List UInt8} {evs : List SensorEv}
    (h : evs = Enviada id despues antes ++ []) :
    evs.map .sensor ++ .accion lista (.borrarHuella pin id) :: traza =
      eventosBorrado lista pin id despues antes ++ traza := by
  rw [h, List.append_nil, eventosBorrado, List.append_assoc]
  rfl

/-- The sensor has confirmed: the record is cleared, and the server is told. -/
theorem BorraHasta.confirmada {id : UInt16} {despues antes resp : List UInt8}
    {c' : Config Mef Sample MefEv} {evs : List EspEv} (hresp : resp <+: despues.reverse)
    (hack : as608TryParseAck resp = 0x00)
    (hlista : c'.st.listaPins = (eliminarHuellaLocal c.st.listaPins pinTarget).2)
    (htrace : c'.trace = evs.map .esp ++
      (eventosBorrado c.st.listaPins pinTarget id despues antes ++ c.trace)) :
    BorraHasta pinTarget c (· = [id]) c' := by
  refine ⟨evs.map .esp ++ eventosBorrado c.st.listaPins pinTarget id despues antes, ?_, ?_,
    .inr ⟨⟨resp, ?_, hack⟩, fun j => ?_⟩⟩
  · rw [htrace, List.append_assoc]
  · rw [borrados_append, borrados_esp, borrados_eventos]
    rfl
  · rw [leidos_esp, eventosBorrado, leidos_enviada]
    exact hresp
  · rw [hlista]
    exact getElem?_modifyFirst _ _ _ _

/-- The lookup has found an id: one command at most is sent, and it names that page. -/
theorem borrarDe_wp {idStr : List UInt8} (hvalida : validarPin c.st.listaPins pinTarget = true)
    (hid : obtenerHuellaAsignadaPorPin c.st.listaPins pinTarget = some idStr) :
    (borrarDe pinTarget).wp
      (BorraHasta pinTarget c fun ps => ps = [idSensor idStr] ∨ ps = [])
      (fun _ => BorraHasta pinTarget c (· = [idSensor idStr])) c := by
  unfold borrarDe
  rw [Prog.wp_bind, Prog.wp_get, hvalida, hid]
  refine Prog.wp_ite (fun _ => ?_) fun hno => absurd rfl hno
  dsimp only
  rw [Prog.wp_bind]
  show ((conSensor _ : MefProg _) >>= _).wp _ _ ⟨c.st, c.inputs,
    .accion c.st.listaPins (.borrarHuella pinTarget (idSensor idStr)) :: c.trace⟩
  rw [Prog.wp_bind]
  refine Prog.wp_zoom (as608DeleteId_wp (idSensor idStr)) (fun c' h' => ?_) fun r c' h' => ?_
  · rcases h' with ⟨bs, hbs⟩ | ⟨despues, antes, hev⟩
    · refine ⟨(bs.map .rx).map .sensor ++
        [.accion c.st.listaPins (.borrarHuella pinTarget (idSensor idStr))], ?_, .inr ?_, .inl rfl⟩
      · rw [hbs, List.append_nil, List.append_assoc]
        rfl
      · rw [borrados_append, borrados_rx]
        rfl
    · exact ⟨_, eventosBorrado_trace _ _ c.trace hev, .inl (borrados_eventos _ _ _ _ _), .inl rfl⟩
  · obtain ⟨despues, antes, hev, hack⟩ := h'
    have htraza := eventosBorrado_trace c.st.listaPins pinTarget c.trace hev
    refine Prog.wp_ite (fun hr => ?_) fun _ =>
      ⟨_, htraza, borrados_eventos _ _ _ _ _, .inl rfl⟩
    obtain ⟨resp, hresp, hcero⟩ := hack hr
    rw [Prog.wp_bind, Prog.wp_modify, Prog.wp_bind]
    refine (conEsp_sinSensor _).wp (fun c'' h'' => ?_) fun _ c'' h'' => ?_
    · obtain ⟨hlista, evs, htrace⟩ := h''
      have htraza' := htrace.trans (congrArg (evs.map MefEv.esp ++ ·) htraza)
      have hfin : BorraHasta pinTarget c (· = [idSensor idStr]) c'' :=
        .confirmada hresp hcero hlista htraza'
      exact hfin.imp fun _ h => .inl h
    · obtain ⟨hlista, evs, htrace⟩ := h''
      have htraza' := htrace.trans (congrArg (evs.map MefEv.esp ++ ·) htraza)
      exact .confirmada hresp hcero hlista htraza'

/-- The same of the run as a whole. -/
theorem borrarDe_envia {u : PinUsuario} {idStr : List UInt8}
    (h : c.st.listaPins.pins.find? (conPin pinTarget) = some u)
    (hid : obtenerHuellaAsignadaPorPin c.st.listaPins pinTarget = some idStr) :
    ∃ evs, (borrarDe pinTarget c).2.trace = evs ++ c.trace ∧
      (borrados evs = [idSensor idStr] ∨ ((borrarDe pinTarget c).1 = none ∧ borrados evs = [])) ∧
      ((borrarDe pinTarget c).2.st.listaPins = c.st.listaPins ∨ (Reconocido evs ∧
        SinSuHuella c.st.listaPins pinTarget (borrarDe pinTarget c).2.st.listaPins)) := by
  have hwp := borrarDe_wp (any_iff_find?.mpr ⟨u, h⟩) hid
  unfold Prog.wp at hwp
  cases hrun : borrarDe pinTarget c with
  | mk r c' =>
    rw [hrun] at hwp
    cases r with
    | none =>
      obtain ⟨evs, htrace, henviado, htabla⟩ := hwp
      exact ⟨evs, htrace, henviado.imp_right fun h => ⟨rfl, h⟩, htabla⟩
    | some _ =>
      obtain ⟨evs, htrace, henviado, htabla⟩ := hwp
      exact ⟨evs, htrace, .inl henviado, htabla⟩

/-- The user has a fingerprint, or there is no such user. -/
theorem borrarDe_respeta
    (h : ∀ u, c.st.listaPins.pins.find? (conPin pinTarget) = some u → u.huella.bytes ≠ []) :
    ∃ evs, SoloLaSuya pinTarget c (borrarDe pinTarget c) evs := by
  cases hfind : c.st.listaPins.pins.find? (conPin pinTarget) with
  | none => exact borrarDe_invalido hfind
  | some u =>
    have hne := h u hfind
    obtain ⟨evs, htrace, hpagina, htabla⟩ :=
      borrarDe_envia hfind (obtenerHuella_propia hfind hne)
    have hunico : ∀ v, c.st.listaPins.pins.find? (conPin pinTarget) = some v → v = u := by
      intro v hv
      exact Option.some.inj (hv.symm.trans hfind)
    refine ⟨evs, htrace, fun v hv _ => ?_, fun _ _ _ => htabla, fun hsin => ?_⟩
    · rw [hunico v hv]
      exact hpagina
    · exact absurd (hsin u hfind) hne

end Borrar

/-! ## A user without a fingerprint -/

/-- The sensor does not answer. -/
def sinRespuesta (lista : ListaPins) : Config Mef Sample MefEv :=
  ⟨{ Mef.inicial with listaPins := lista },
    [Sample.quiet 0, Sample.quiet 5, Sample.quiet 5, Sample.quiet 5000], []⟩

/-- The lookup finds an id that nobody has, and its page is deleted. -/
theorem not_soloLaSuya_vacia {lista : ListaPins} {pinTarget : List UInt8} {u : PinUsuario}
    (hfind : lista.pins.find? (conPin pinTarget) = some u) (hvacia : u.huella.bytes = []) :
    ¬ ∃ evs, SoloLaSuya pinTarget (sinRespuesta lista) (borrarDe pinTarget (sinRespuesta lista))
      evs := by
  rintro ⟨evs, h⟩
  obtain ⟨n, hmax, hn⟩ := exists_menorLibre (List.mem_of_find?_eq_some hfind) hvacia
  have hid := obtenerHuella_vacia hfind hvacia hn hmax
  have hvalida : validarPin lista pinTarget = true := any_iff_find?.mpr ⟨u, hfind⟩
  have hrun : (borrarDe pinTarget (sinRespuesta lista)).1 = some () := by
    show ((if validarPin lista pinTarget then
      match obtenerHuellaAsignadaPorPin lista pinTarget with
      | some idStr => _
      | none => _
      else _ : MefProg Unit) (sinRespuesta lista)).1 = some ()
    rw [hvalida, hid]
    rfl
  obtain ⟨evs', htrace, henviado, -⟩ := borrarDe_envia (c := sinRespuesta lista) hfind hid
  have hmismo : evs' = evs := List.append_cancel_right (htrace.symm.trans h.traza)
  have hsin := (h.sin fun v hv => Option.some.inj (hv.symm.trans hfind) ▸ hvacia).1
  rcases henviado with henviado | ⟨hnone, -⟩
  · rw [hmismo, hsin] at henviado
    cases henviado
  · rw [hrun] at hnone
    cases hnone

/-- For any table and target PIN: in every run the deletion touches that user's
fingerprint and nothing else exactly if the user of the PIN has one. -/
theorem borrado_iff (lista : ListaPins) (pinTarget : List UInt8) :
    (∀ c : Config Mef Sample MefEv, c.st.listaPins = lista →
      ∃ evs, SoloLaSuya pinTarget c (borrarDe pinTarget c) evs) ↔
      ∀ u, lista.pins.find? (conPin pinTarget) = some u → u.huella.bytes ≠ [] := by
  constructor
  · intro h u hfind hvacia
    exact not_soloLaSuya_vacia hfind hvacia (h (sinRespuesta lista) rfl)
  · rintro h c rfl
    exact borrarDe_respeta h

/-- The last user of the table that the firmware starts with. -/
theorem borrado_ajeno : ¬ ∀ (c : Config Mef Sample MefEv) (pinTarget : List UInt8),
    ∃ evs, SoloLaSuya pinTarget c (borrarDe pinTarget c) evs := by
  intro h
  have hfind : listaPinsInicial.pins.find? (conPin (ascii "66666")) = some usuario6 := by
    decide +kernel
  exact not_soloLaSuya_vacia hfind rfl (h (sinRespuesta listaPinsInicial) (ascii "66666"))

end Cerradura
