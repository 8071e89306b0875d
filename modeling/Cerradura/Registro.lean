import Cerradura.IdLibre
import Cerradura.Menor
import Cerradura.Plazos
import Mathlib.Data.Fin.Basic

/-!
# A registration is done or not

REGISTRAR_RFID and REGISTRAR_HUELLA ask for a PIN, for a card or a finger, and
then change the table and tell the server. They leave at several points, by the
variable `estadoActual`. `alta` is the same program and says where it left.

Result: `registro_atomico`. A call that returns has gone back to
ESPERANDO_ACCION, and the table is as before unless it went through. Once the
question for the PIN is over, it returns.
-/

namespace Cerradura

open Reactive ListaPins

/-! ## Where a call leaves -/

/-- Where a registration leaves. -/
inductive Desenlace
  | sinPin -- the time for the PIN was up, or three PINs were wrong
  | sinTarjeta
  | sinHuella -- five attempts failed
  | errorBaseDatos
  | completo (pin valor : List UInt8)
deriving DecidableEq, Repr

/-- `siSigue` in a program that says where it leaves. -/
def siSigueO (d : Desenlace) (m : MefProg Desenlace) : MefProg Desenlace := do
  let s ← Prog.get
  if s.estadoActual = .esperandoAccion then pure d else m

/-- REGISTRAR_RFID after the question for the PIN. -/
def altaTarjeta (pinValidado : List UInt8) : MefProg Desenlace :=
  siSigueO .sinPin do
    pedirTarjeta
    siSigueO .sinTarjeta do
      let s ← Prog.get
      hacer (.registrarRfid pinValidado s.rfid)
      Prog.modify fun s =>
        { s with listaPins := (asociarRFIDaPin s.listaPins pinValidado (.copy 19 s.rfid)).2 }
      let _ ← conEsp (espEnviarNuevoRFID pinValidado s.rfid)
      volverAEsperar
      pure (.completo pinValidado s.rfid)

/-- REGISTRAR_HUELLA after the question for the PIN. -/
def altaHuella (pinValidado : List UInt8) : MefProg Desenlace :=
  siSigueO .sinPin do
    let s ← Prog.get
    match obtenerHuellaAsignadaPorPin s.listaPins pinValidado with
    | some idHuellaStr =>
      match ← enrolar pinValidado (idSensor idHuellaStr) with
      | none =>
        volverAEsperar
        pure .sinHuella
      | some idResultado =>
        Prog.modify fun s =>
          { s with listaPins := (asociarHuellaaPin s.listaPins pinValidado idResultado).2 }
        let _ ← conEsp (espEnviarNuevaHuella pinValidado idResultado)
        esperarPin
        marcarPresencia
        pure (.completo pinValidado idResultado)
    | none =>
      marcarPresencia
      pure .errorBaseDatos

/-- A call in REGISTRAR_RFID or REGISTRAR_HUELLA that says where it leaves. -/
def alta : MefProg Desenlace := do
  let s ← Prog.get
  let pinValidado ← pedirPinValidado
  if s.estadoActual = .registrarRfid then altaTarjeta pinValidado else altaHuella pinValidado

section Igual

/-- Forget where a program leaves. -/
def olvidar (m : MefProg Desenlace) : MefProg Unit := m >>= fun _ => pure ()

theorem olvidar_bind {α : Type} (m : MefProg α) (f : α → MefProg Desenlace) :
    olvidar (m >>= f) = m >>= fun a => olvidar (f a) := Prog.bind_bind m f _

theorem olvidar_pure (d : Desenlace) : olvidar (pure d) = pure () := rfl

theorem olvidar_siSigueO (d : Desenlace) (m : MefProg Desenlace) :
    olvidar (siSigueO d m) = siSigue (olvidar m) := by
  unfold siSigueO siSigue
  rw [olvidar_bind]
  congr 1
  funext s
  split <;> rfl

theorem registrarRfid_eq :
    registrarRfid = pedirPinValidado >>= fun pin => olvidar (altaTarjeta pin) := by
  unfold registrarRfid altaTarjeta
  simp only [olvidar_siSigueO, olvidar_bind, olvidar_pure, Prog.bind_unit]

theorem registrarHuella_eq :
    registrarHuella = pedirPinValidado >>= fun pin => olvidar (altaHuella pin) := by
  unfold registrarHuella altaHuella
  simp only [olvidar_siSigueO, olvidar_bind]
  congr 1
  funext pin
  congr 2
  funext s
  cases obtenerHuellaAsignadaPorPin s.listaPins pin with
  | none => simp only [olvidar_bind, olvidar_pure, Prog.bind_unit]
  | some idHuellaStr =>
    simp only [olvidar_bind]
    congr 1
    funext r
    cases r <;> simp only [olvidar_bind, olvidar_pure, Prog.bind_unit]

/-- The call of `mefUpdate` is a registration. -/
theorem mefUpdate_alta {c : Config Mef Sample MefEv}
    (hestado : c.st.estadoActual = .registrarRfid ∨ c.st.estadoActual = .registrarHuella) :
    mefUpdate c = olvidar alta c := by
  have hget : (Prog.get : MefProg Mef) c = (some c.st, c) := rfl
  unfold mefUpdate alta
  rw [olvidar_bind, Prog.bind_eq_of hget, Prog.bind_eq_of hget, olvidar_bind]
  rcases hestado with h | h
  · rw [h]
    exact congrFun registrarRfid_eq c
  · rw [h]
    exact congrFun registrarHuella_eq c

end Igual

/-! ## Attempts -/

/-- An attempt at the PIN is over. -/
def MefEv.esIntento : MefEv → Bool
  | .pinLeido _ | .vencida _ => true
  | _ => false

/-- An attempt at the finger begins. -/
def MefEv.esEnrolar : MefEv → Bool
  | .accion _ (.enrolarHuella _ _) => true
  | _ => false

/-- The PIN that was typed last. -/
def ultimoPin (evs : List MefEv) : Option (List UInt8) :=
  evs.findSome? fun
    | .pinLeido pin => some pin
    | _ => none

/-- The table is the same, and the new events `evs` have at most `k` attempts at
the PIN and `m` at the finger. -/
structure Tramo (c c' : Config Mef Sample MefEv) (evs : List MefEv) (k m : ℕ) : Prop where
  trace : c'.trace = evs ++ c.trace
  lista : c'.st.listaPins = c.st.listaPins
  intentos : evs.countP MefEv.esIntento ≤ k
  enrola : evs.countP MefEv.esEnrolar ≤ m

section Tramos

variable {c c' c'' : Config Mef Sample MefEv} {evs evs' : List MefEv} {k k' m m' : ℕ}

theorem Tramo.refl : Tramo c c [] 0 0 := ⟨rfl, rfl, Nat.le_refl _, Nat.le_refl _⟩

theorem Tramo.trans (h : Tramo c c' evs k m) (h' : Tramo c' c'' evs' k' m') :
    Tramo c c'' (evs' ++ evs) (k + k') (m + m') where
  trace := by rw [h'.trace, h.trace, List.append_assoc]
  lista := h'.lista.trans h.lista
  intentos := by
    rw [List.countP_append, Nat.add_comm]
    exact Nat.add_le_add h.intentos h'.intentos
  enrola := by
    rw [List.countP_append, Nat.add_comm]
    exact Nat.add_le_add h.enrola h'.enrola

theorem Tramo.mono (h : Tramo c c' evs k m) (hk : k ≤ k') (hm : m ≤ m') :
    Tramo c c' evs k' m' := ⟨h.trace, h.lista, h.intentos.trans hk, h.enrola.trans hm⟩

theorem Tramo.emit {e : MefEv} :
    Tramo c { c with trace := e :: c.trace } [e] e.esIntento.toNat e.esEnrolar.toNat :=
  ⟨rfl, rfl, by rw [List.countP_singleton]; cases e.esIntento <;> rfl,
    by rw [List.countP_singleton]; cases e.esEnrolar <;> rfl⟩

/-- Events that are no attempts. -/
theorem Tramo.de_eventos (htrace : c'.trace = evs ++ c.trace)
    (hlista : c'.st.listaPins = c.st.listaPins)
    (hevs : ∀ e ∈ evs, e.esIntento = false ∧ e.esEnrolar = false) : Tramo c c' evs 0 0 where
  trace := htrace
  lista := hlista
  intentos := Nat.le_of_eq (List.countP_eq_zero.mpr fun e he => ne_true_of_eq_false (hevs e he).1)
  enrola := Nat.le_of_eq (List.countP_eq_zero.mpr fun e he => ne_true_of_eq_false (hevs e he).2)

theorem Menor.tramo (h : Menor c c') : ∃ evs, Tramo c c' evs 0 0 := by
  obtain ⟨evs, htrace, hevs⟩ := h.eventos
  refine ⟨evs, .de_eventos htrace h.lista fun e he => ?_⟩
  have hmenor := hevs e he
  cases e with
  | sensor _ | esp _ | uidLeido _ => exact ⟨rfl, rfl⟩
  | _ => cases hmenor

theorem ultimoPin_append (h : ultimoPin evs' = some pin) : ultimoPin (evs' ++ evs) = some pin := by
  unfold ultimoPin at h ⊢
  rw [List.findSome?_append, h]
  rfl

/-! ## What the parts of a registration do -/

/-- The machine has gone back, or what `h` says of its new events holds. -/
def Vuelve (c c' : Config Mef Sample MefEv) (h : Prop) : Prop :=
  c'.st.estadoActual = .esperandoAccion ∨ c'.st.estadoActual = c.st.estadoActual ∧ h

theorem leerPin_tramo {timer : ℤ} : (leerPin timer).wp (fun _ => True)
    (fun r c' => c'.st.estadoActual = c.st.estadoActual ∧ ∃ evs, match r.1 with
      | .completo pin => Tramo c c' evs 1 0 ∧ ultimoPin evs = some pin
      | _ => Tramo c c' evs 0 0) c := by
  unfold leerPin
  rw [Prog.wp_bind]
  refine Prog.wp_zoom Prog.wp_true (fun _ _ => trivial) fun (res, ultimaActividad) c' _ => ?_
  have hteclas : Tramo c ⟨{ c.st with teclado := c'.st }, c'.inputs,
      c'.trace.map MefEv.teclado ++ c.trace⟩ (c'.trace.map MefEv.teclado) 0 0 := by
    refine .de_eventos rfl rfl fun e he => ?_
    obtain ⟨d, -, rfl⟩ := List.mem_map.mp he
    exact ⟨rfl, rfl⟩
  cases res with
  | incompleto => exact ⟨rfl, _, hteclas⟩
  | menu => exact ⟨rfl, _, hteclas⟩
  | completo pin =>
    have hpin := hteclas.trans (.emit (e := .pinLeido pin))
    exact ⟨rfl, _, hpin, rfl⟩

theorem volverAEsperar_tramo : volverAEsperar.wp (fun _ => True)
    (fun _ c' => c'.st.estadoActual = .esperandoAccion ∧ ∃ evs, Tramo c c' evs 0 0) c := by
  unfold volverAEsperar
  rw [Prog.wp_bind]
  refine marcarPresencia_menor.wp (fun _ _ => trivial) fun _ c1 h1 => ?_
  obtain ⟨evs, htramo⟩ := h1.tramo
  have hvuelta : Tramo c1 ⟨{ c1.st with estadoActual := .esperandoAccion }, c1.inputs,
      .peticion :: .estado .esperandoAccion :: c1.trace⟩
      [.peticion, .estado .esperandoAccion] 0 0 := ⟨rfl, rfl, Nat.le_refl 0, Nat.le_refl 0⟩
  exact ⟨rfl, _, htramo.trans hvuelta⟩

theorem vencerPeticion_tramo : vencerPeticion.wp (fun _ => True)
    (fun _ c' => ∃ evs, Tramo c c' evs 1 0) c := by
  unfold vencerPeticion
  rw [Prog.wp_bind, Prog.wp_get, Prog.wp_emit]
  exact ⟨_, .emit⟩

/-- One round of the question: a PIN is typed, or the time is up. -/
theorem leerPinValidado_tramo {pinValidado : List UInt8} {timer : ℤ} :
    (leerPinValidado pinValidado timer).wp (fun _ => True)
      (fun r c' => ∃ evs, Tramo c c' evs 1 0 ∧ Vuelve c c' (ultimoPin evs = some r.1)) c := by
  unfold leerPinValidado
  rw [Prog.wp_bind, Prog.wp_emit]
  refine Prog.wp_iter
    (fun _ c1 => c1.st.estadoActual = c.st.estadoActual ∧ ∃ evs, Tramo c c1 evs 0 0)
    (fun _ _ _ => trivial) (fun timer c1 h1 => ?_) ⟨rfl, _, .emit⟩
  obtain ⟨hestado, evs1, htramo1⟩ := h1
  rw [Prog.wp_bind]
  refine Prog.wp_mono leerPin_tramo (fun _ h => h) fun (res, timer) c2 h2 => ?_
  obtain ⟨hestado2, evs2, h2⟩ := h2
  cases res with
  | completo pin =>
    obtain ⟨htramo2, hpin⟩ := h2
    exact ⟨_, htramo1.trans htramo2, .inr ⟨hestado2.trans hestado, ultimoPin_append hpin⟩⟩
  -- an asterisk ends nothing
  | incompleto | menu =>
    have htramo2 : Tramo c1 c2 evs2 0 0 := h2
    rw [Prog.wp_bind]
    refine tickRead_menor.wp (fun _ _ => trivial) fun now c3 h3 => ?_
    obtain ⟨evs3, htramo3⟩ := h3.tramo
    have htramo := htramo1.trans (htramo2.trans htramo3)
    refine Prog.wp_ite (fun _ => ?_) fun _ =>
      ⟨h3.estado.trans (hestado2.trans hestado), _, htramo⟩
    rw [Prog.wp_bind]
    refine Prog.wp_mono vencerPeticion_tramo (fun _ h => h) fun _ c4 ⟨_, h4⟩ => ?_
    rw [Prog.wp_bind]
    refine Prog.wp_mono volverAEsperar_tramo (fun _ h => h) fun _ c5 ⟨hvuelta, _, h5⟩ => ?_
    exact ⟨_, htramo.trans (h4.trans h5), .inl hvuelta⟩

/-- Three rounds at most. -/
theorem pedirPinValidado_tramo : pedirPinValidado.wp (fun _ => True)
    (fun pin c' => ∃ evs, Tramo c c' evs 3 0 ∧
      Vuelve c c' (ultimoPin evs = some pin ∧ validarPin c.st.listaPins pin = true)) c := by
  unfold pedirPinValidado
  rw [Prog.wp_bind]
  refine tickRead_menor.wp (fun _ _ => trivial) fun now c0 h0 => ?_
  obtain ⟨evs0, htramo0⟩ := h0.tramo
  refine Prog.wp_iter
    (fun x c1 => x.2.2 < 3 ∧ ∃ evs, Tramo c c1 evs x.2.2 0 ∧ Vuelve c c1 True)
    (fun _ _ _ => trivial) (fun x c1 h1 => ?_)
    ⟨Nat.succ_pos 2, evs0, htramo0, .inr ⟨h0.estado, trivial⟩⟩
  obtain ⟨pinValidado, timer, intentos⟩ := x
  obtain ⟨hlt, evs1, htramo1, hvuelve1⟩ := h1
  rw [Prog.wp_bind]
  refine Prog.wp_mono leerPinValidado_tramo (fun _ h => h) fun r c2 h2 => ?_
  obtain ⟨pin, timer⟩ := r
  obtain ⟨evs2, htramo2, hvuelve2⟩ := h2
  have htramo := htramo1.trans htramo2
  -- once the machine has gone back, it stays there
  have hvuelve : Vuelve c c2 (ultimoPin (evs2 ++ evs1) = some pin) := by
    rcases hvuelve2 with hvuelta | ⟨hestado, hpin⟩
    · exact .inl hvuelta
    · rcases hvuelve1 with hvuelta | ⟨hestado1, -⟩
      · exact .inl (hestado.trans hvuelta)
      · exact .inr ⟨hestado.trans hestado1, ultimoPin_append hpin⟩
  rw [Prog.wp_bind, Prog.wp_get]
  refine Prog.wp_ite (fun hvalido => ?_) fun _ => Prog.wp_ite (fun _ => ?_) fun hmenos => ?_
  · refine ⟨_, htramo.mono hlt (Nat.le_refl 0), hvuelve.imp_right fun ⟨hestado, hpin⟩ => ?_⟩
    exact ⟨hestado, hpin, htramo.lista ▸ hvalido⟩
  · rw [Prog.wp_bind]
    refine Prog.wp_mono volverAEsperar_tramo (fun _ h => h) fun _ c3 ⟨hvuelta, _, h3⟩ => ?_
    exact ⟨_, (htramo.trans h3).mono hlt (Nat.le_refl 0), .inl hvuelta⟩
  · exact ⟨Nat.lt_of_not_le hmenos, _, htramo, hvuelve.imp_right fun h => ⟨h.1, trivial⟩⟩

theorem pedirTarjeta_tramo : pedirTarjeta.wp (fun _ => True)
    (fun _ c' => ∃ evs, Tramo c c' evs 0 0 ∧ Vuelve c c' True) c := by
  unfold pedirTarjeta
  rw [Prog.wp_bind]
  refine tickRead_menor.wp (fun _ _ => trivial) fun now c0 h0 => ?_
  obtain ⟨evs0, htramo0⟩ := h0.tramo
  refine Prog.wp_iter
    (fun _ c1 => c1.st.estadoActual = c.st.estadoActual ∧ ∃ evs, Tramo c c1 evs 0 0)
    (fun _ _ _ => trivial) (fun _ c1 h1 => ?_) ⟨h0.estado, evs0, htramo0⟩
  obtain ⟨hestado1, evs1, htramo1⟩ := h1
  rw [Prog.wp_bind]
  refine leerRfid_menor.wp (fun _ _ => trivial) fun leida c2 h2 => ?_
  obtain ⟨evs2, htramo2⟩ := h2.tramo
  have hestado2 := h2.estado.trans hestado1
  refine Prog.wp_ite (fun _ => ⟨_, htramo1.trans htramo2, .inr ⟨hestado2, trivial⟩⟩) fun _ => ?_
  rw [Prog.wp_bind]
  refine tickRead_menor.wp (fun _ _ => trivial) fun now c3 h3 => ?_
  generalize TimeTest.tarjeta.holds _ _ = vencida
  obtain ⟨evs3, htramo3⟩ := h3.tramo
  have htramo := htramo1.trans (htramo2.trans htramo3)
  refine Prog.wp_ite (fun _ => ?_) fun _ => ⟨h3.estado.trans hestado2, _, htramo⟩
  rw [Prog.wp_bind]
  refine Prog.wp_mono volverAEsperar_tramo (fun _ h => h) fun _ c4 ⟨hvuelta, _, h4⟩ => ?_
  exact ⟨_, htramo.trans h4, .inl hvuelta⟩

/-- Five attempts at most. -/
theorem enrolar_tramo {pin : List UInt8} {id : UInt16} : (enrolar pin id).wp (fun _ => True)
    (fun _ c' => c'.st.estadoActual = c.st.estadoActual ∧ ∃ evs, Tramo c c' evs 0 5) c := by
  unfold enrolar
  refine Prog.wp_iter (fun intentos c1 => intentos ≤ 5 ∧
      c1.st.estadoActual = c.st.estadoActual ∧ ∃ evs, Tramo c c1 evs 0 intentos)
    (fun _ _ _ => trivial) (fun intentos c1 h1 => ?_) ⟨Nat.zero_le 5, rfl, _, .refl⟩
  obtain ⟨hle, hestado1, evs1, htramo1⟩ := h1
  refine Prog.wp_ite (fun hlt => ?_) fun _ =>
    ⟨hestado1, _, htramo1.mono (Nat.le_refl 0) hle⟩
  rw [Prog.wp_bind]
  show Prog.wp _ _ _ ⟨c1.st, c1.inputs, .accion c1.st.listaPins (.enrolarHuella pin id) :: c1.trace⟩
  rw [Prog.wp_bind]
  refine (conSensor_menor _).wp (fun _ _ => trivial) fun r c2 h2 => ?_
  obtain ⟨evs2, htramo2⟩ := h2.tramo
  have hintento := Tramo.emit (c := c1) (e := .accion c1.st.listaPins (.enrolarHuella pin id))
  have htramo : Tramo c c2 _ 0 (intentos + 1) := htramo1.trans (hintento.trans htramo2)
  have hestado2 : c2.st.estadoActual = c.st.estadoActual := h2.estado.trans hestado1
  cases r with
  | none => exact ⟨hlt, hestado2, _, htramo⟩
  | some idResultado => exact ⟨hestado2, _, htramo.mono (Nat.le_refl 0) hlt⟩

end Tramos

/-! ## What a registration does -/

/-- `pins'` is `pins` but for the first record with `p`, where `f` is done. -/
def SoloPrimero (p : PinUsuario → Bool) (f : PinUsuario → PinUsuario)
    (pins pins' : List PinUsuario) : Prop :=
  ∃ antes u despues, pins = antes ++ u :: despues ∧ (∀ v ∈ antes, p v = false) ∧ p u = true ∧
    pins' = antes ++ f u :: despues

theorem modifyFirst_primero {p : PinUsuario → Bool} {f : PinUsuario → PinUsuario}
    {pins : List PinUsuario} (h : pins.any p = true) :
    SoloPrimero p f pins (modifyFirst p f pins) := by
  induction pins with
  | nil => cases h
  | cons pin rest ih =>
    unfold modifyFirst
    cases hp : p pin with
    | true => exact ⟨[], pin, rest, rfl, fun _ hv => absurd hv List.not_mem_nil, hp, rfl⟩
    | false =>
      rw [List.any_cons, hp, Bool.false_or] at h
      obtain ⟨antes, u, despues, hpins, hantes, hu, hpins'⟩ := ih h
      refine ⟨pin :: antes, u, despues, by rw [hpins]; rfl, List.forall_mem_cons.mpr ⟨hp, hantes⟩,
        hu, ?_⟩
      rw [if_neg Bool.false_ne_true, hpins']
      rfl

/-- What is written to the record: the card, or the id of the finger. -/
def EstadoMEF.guarda (e : EstadoMEF) (valor : List UInt8) (u : PinUsuario) : PinUsuario :=
  if e = .registrarRfid then { u with rfid := .copy 19 valor }
  else { u with huella := .copy 4 valor }

/-- What comes of a registration begun in the state `e`. -/
def Desenlace.Hace (e : EstadoMEF) (evs : List MefEv) (pins pins' : List PinUsuario) :
    Desenlace → Prop
  | .sinPin | .sinTarjeta | .sinHuella => pins' = pins
  | .errorBaseDatos => False
  | .completo pin valor =>
    ultimoPin evs = some pin ∧ SoloPrimero (conPin pin) (e.guarda valor) pins pins'

/-- A whole call: it is back in ESPERANDO_ACCION after at most three attempts at
the PIN and five at the finger, and the table is as `d` says. -/
structure Registrada (d : Desenlace) (evs : List MefEv) (c c' : Config Mef Sample MefEv) :
    Prop where
  trace : c'.trace = evs ++ c.trace
  estado : c'.st.estadoActual = .esperandoAccion
  intentos : evs.countP MefEv.esIntento ≤ 3
  enrola : evs.countP MefEv.esEnrolar ≤ 5
  hace : d.Hace c.st.estadoActual evs c.st.listaPins.pins c'.st.listaPins.pins

/-- The PIN has been typed and accepted. -/
structure PinAceptado (c c' : Config Mef Sample MefEv) (evs : List MefEv) (m : ℕ)
    (pin : List UInt8) : Prop where
  tramo : Tramo c c' evs 3 m
  tecleado : ultimoPin evs = some pin
  valido : validarPin c.st.listaPins pin = true

section Altas

variable {c c1 c' : Config Mef Sample MefEv} {evs evs' : List MefEv} {m m' : ℕ}
  {pin : List UInt8} {d : Desenlace}

theorem ultimoPin_sin_intentos (h : evs'.countP MefEv.esIntento ≤ 0) :
    ultimoPin (evs' ++ evs) = ultimoPin evs := by
  have hnone : ultimoPin evs' = none := by
    refine List.findSome?_eq_none_iff.mpr fun e he => ?_
    have hno := List.countP_eq_zero.mp (Nat.le_zero.mp h) e he
    cases e with
    | pinLeido pin => exact absurd rfl hno
    | _ => rfl
  unfold ultimoPin at hnone ⊢
  rw [List.findSome?_append, hnone, Option.none_or]

theorem PinAceptado.trans (h : PinAceptado c c1 evs m pin) (h' : Tramo c1 c' evs' 0 m') :
    PinAceptado c c' (evs' ++ evs) (m + m') pin :=
  ⟨h.tramo.trans h', (ultimoPin_sin_intentos h'.intentos).trans h.tecleado, h.valido⟩

theorem Tramo.aborta (h : Tramo c c' evs 3 5) (hestado : c'.st.estadoActual = .esperandoAccion)
    (hd : d = .sinPin ∨ d = .sinTarjeta ∨ d = .sinHuella) : Registrada d evs c c' where
  trace := h.trace
  estado := hestado
  intentos := h.intentos
  enrola := h.enrola
  hace := by
    rcases hd with rfl | rfl | rfl <;> exact congrArg ListaPins.pins h.lista

/-- The record is written, and what follows leaves it so. -/
theorem PinAceptado.completo {valor : List UInt8} {f : PinUsuario → PinUsuario}
    (h : PinAceptado c c1 evs 5 pin) (hf : c.st.estadoActual.guarda valor = f)
    (h' : Tramo { c1 with st := { c1.st with
      listaPins := (c1.st.listaPins.actualizar (conPin pin) f).2 } } c' evs' 0 0)
    (hestado : c'.st.estadoActual = .esperandoAccion) :
    Registrada (.completo pin valor) (evs' ++ evs) c c' where
  trace := by rw [h'.trace, h.tramo.trace, List.append_assoc]
  estado := hestado
  intentos := by
    rw [List.countP_append, Nat.add_comm]
    exact Nat.add_le_add h.tramo.intentos h'.intentos
  enrola := by
    rw [List.countP_append, Nat.add_comm]
    exact Nat.add_le_add h.tramo.enrola h'.enrola
  hace := by
    refine ⟨(ultimoPin_sin_intentos h'.intentos).trans h.tecleado, ?_⟩
    rw [hf, h'.lista, ← h.tramo.lista]
    refine modifyFirst_primero ?_
    rw [h.tramo.lista]
    exact h.valido

theorem PinAceptado.mono (h : PinAceptado c c1 evs m pin) (hm : m ≤ m') :
    PinAceptado c c1 evs m' pin := ⟨h.tramo.mono le_rfl hm, h.tecleado, h.valido⟩

/-- A PIN that is accepted has a record, and so an id for the finger: its own,
or the lowest that is free. -/
theorem obtenerHuella_de_valido {lista : ListaPins} (h : validarPin lista pin = true) :
    ∃ idHuellaStr, obtenerHuellaAsignadaPorPin lista pin = some idHuellaStr := by
  obtain ⟨u, hfind⟩ := any_iff_find?.mp h
  by_cases hvacia : u.huella.bytes = []
  · obtain ⟨n, hmax, hn⟩ := exists_menorLibre (List.mem_of_find?_eq_some hfind) hvacia
    exact ⟨_, obtenerHuella_vacia hfind hvacia hn hmax⟩
  · exact ⟨_, obtenerHuella_propia hfind hvacia⟩

theorem siSigueO_wp {halt : Config Mef Sample MefEv → Prop} {m : MefProg Desenlace}
    {post : Desenlace → Config Mef Sample MefEv → Prop}
    (hvuelta : c.st.estadoActual = .esperandoAccion → post d c)
    (hm : c.st.estadoActual ≠ .esperandoAccion → m.wp halt post c) :
    (siSigueO d m).wp halt post c := by
  unfold siSigueO
  rw [Prog.wp_bind, Prog.wp_get]
  exact Prog.wp_ite hvuelta hm

/-- After the question for the PIN. -/
theorem siSigueO_pin {m : MefProg Desenlace} (htramo : Tramo c c1 evs 3 0)
    (hvuelve : Vuelve c c1 (ultimoPin evs = some pin ∧ validarPin c.st.listaPins pin = true))
    (hm : PinAceptado c c1 evs 0 pin →
      m.wp (fun _ => True) (fun d c' => ∃ evs, Registrada d evs c c') c1) :
    (siSigueO .sinPin m).wp (fun _ => True) (fun d c' => ∃ evs, Registrada d evs c c') c1 := by
  refine siSigueO_wp (fun h1 => ⟨_, (htramo.mono le_rfl (Nat.zero_le 5)).aborta h1 (.inl rfl)⟩)
    fun h1 => ?_
  obtain ⟨-, htecleado, hvalido⟩ := hvuelve.resolve_left h1
  exact hm ⟨htramo, htecleado, hvalido⟩

theorem altaTarjeta_wp (hestado : c.st.estadoActual = .registrarRfid) (htramo : Tramo c c1 evs 3 0)
    (hvuelve : Vuelve c c1 (ultimoPin evs = some pin ∧ validarPin c.st.listaPins pin = true)) :
    (altaTarjeta pin).wp (fun _ => True) (fun d c' => ∃ evs, Registrada d evs c c') c1 := by
  unfold altaTarjeta
  refine siSigueO_pin htramo hvuelve fun hcurso => ?_
  rw [Prog.wp_bind]
  refine Prog.wp_mono pedirTarjeta_tramo (fun _ h => h) fun _ c2 ⟨evs2, htramo2, _⟩ => ?_
  have hcurso2 := hcurso.trans htramo2
  refine siSigueO_wp (fun h2 => ⟨_, (hcurso2.tramo.mono le_rfl (Nat.zero_le 5)).aborta h2
    (.inr (.inl rfl))⟩) fun h2 => ?_
  rw [Prog.wp_bind, Prog.wp_get, Prog.wp_bind]
  show Prog.wp _ _ _ ⟨c2.st, c2.inputs,
    .accion c2.st.listaPins (.registrarRfid pin c2.st.rfid) :: c2.trace⟩
  have hcurso3 := hcurso2.trans (.emit (e := .accion c2.st.listaPins
    (.registrarRfid pin c2.st.rfid)))
  rw [Prog.wp_bind, Prog.wp_modify, Prog.wp_bind]
  refine (conEsp_menor _).wp (fun _ _ => trivial) fun _ c4 h4 => ?_
  obtain ⟨evs4, htramo4⟩ := h4.tramo
  rw [Prog.wp_bind]
  refine Prog.wp_mono volverAEsperar_tramo (fun _ h => h) fun _ c5 ⟨hvuelta, _, htramo5⟩ => ?_
  have hguarda : c.st.estadoActual.guarda c2.st.rfid =
      ({ · with rfid := .copy 19 c2.st.rfid }) := by
    rw [hestado]
    rfl
  exact ⟨_, (hcurso3.mono (Nat.zero_le 5)).completo hguarda (htramo4.trans htramo5) hvuelta⟩

theorem altaHuella_wp (hestado : c.st.estadoActual = .registrarHuella) (htramo : Tramo c c1 evs 3 0)
    (hvuelve : Vuelve c c1 (ultimoPin evs = some pin ∧ validarPin c.st.listaPins pin = true)) :
    (altaHuella pin).wp (fun _ => True) (fun d c' => ∃ evs, Registrada d evs c c') c1 := by
  unfold altaHuella
  refine siSigueO_pin htramo hvuelve fun hcurso => ?_
  obtain ⟨idHuellaStr, hid⟩ := obtenerHuella_de_valido (htramo.lista ▸ hcurso.valido)
  rw [Prog.wp_bind, Prog.wp_get, hid, Prog.wp_bind]
  refine Prog.wp_mono enrolar_tramo (fun _ h => h) fun r c2 ⟨_, _, htramo2⟩ => ?_
  have hcurso2 := hcurso.trans htramo2
  cases r with
  | none =>
    rw [Prog.wp_bind]
    refine Prog.wp_mono volverAEsperar_tramo (fun _ h => h) fun _ c3 ⟨hvuelta, _, htramo3⟩ => ?_
    exact ⟨_, (hcurso2.tramo.trans htramo3).aborta hvuelta (.inr (.inr rfl))⟩
  | some idResultado =>
    rw [Prog.wp_bind, Prog.wp_modify, Prog.wp_bind]
    refine (conEsp_menor _).wp (fun _ _ => trivial) fun _ c3 h3 => ?_
    obtain ⟨evs3, htramo3⟩ := h3.tramo
    rw [Prog.wp_bind]
    show Prog.wp _ _ _ ⟨{ c3.st with estadoActual := .esperandoAccion }, c3.inputs,
      .peticion :: .estado .esperandoAccion :: c3.trace⟩
    have hvuelta : Tramo c3 ⟨{ c3.st with estadoActual := .esperandoAccion }, c3.inputs,
        .peticion :: .estado .esperandoAccion :: c3.trace⟩
        [.peticion, .estado .esperandoAccion] 0 0 := ⟨rfl, rfl, Nat.le_refl 0, Nat.le_refl 0⟩
    rw [Prog.wp_bind]
    refine marcarPresencia_menor.wp (fun _ _ => trivial) fun _ c4 h4 => ?_
    obtain ⟨evs4, htramo4⟩ := h4.tramo
    have hguarda : c.st.estadoActual.guarda idResultado =
        ({ · with huella := .copy 4 idResultado }) := by
      rw [hestado]
      rfl
    exact ⟨_, hcurso2.completo hguarda (htramo3.trans (hvuelta.trans htramo4)) h4.estado⟩

theorem alta_wp
    (hestado : c.st.estadoActual = .registrarRfid ∨ c.st.estadoActual = .registrarHuella) :
    alta.wp (fun _ => True) (fun d c' => ∃ evs, Registrada d evs c c') c := by
  unfold alta
  rw [Prog.wp_bind, Prog.wp_get, Prog.wp_bind]
  refine Prog.wp_mono pedirPinValidado_tramo (fun _ h => h) fun pin c1 ⟨_, htramo, hvuelve⟩ => ?_
  rcases hestado with h | h
  · rw [if_pos h]
    exact altaTarjeta_wp h htramo hvuelve
  · rw [if_neg (by rw [h]; decide)]
    exact altaHuella_wp h htramo hvuelve

/-! ## How long it takes -/

section Tiempo

variable {n start most : ℕ}

theorem siSigueO_takes {m : MefProg Desenlace} (hm : Prog.Takes (reloj n) start 0 most m) :
    Prog.Takes (reloj n) start 0 most (siSigueO d m) := by
  refine .mono (.bind .get fun s => .ite_pure hm) le_rfl ?_
  rw [Nat.zero_add]

/-- The samples that the rest of a registration takes at most, after the question
for the PIN. -/
def plazo (n : ℕ) : ℕ := n * 414028 + 1200

theorem hacer_takes (a : Accion) : Prog.Takes (reloj n) start 0 0 (hacer a) :=
  .bind .get fun _ => .emit _

theorem altaTarjeta_takes : Prog.Takes (reloj n) start 0 (plazo n) (altaTarjeta pin) := by
  have hsube (rfid : List UInt8) : Prog.Takes (reloj n) start 1 (n * 32500 + 35)
      (conEsp (espEnviarNuevoRFID pin rfid)) := .zoom (pedirConfirmacion_takes _ _ _)
  unfold altaTarjeta
  refine siSigueO_takes (.mono (.bind pedirTarjeta_takes fun _ => siSigueO_takes ?_ :
    Prog.Takes _ _ (1 + 0) (n * 15001 + 7 + (n * 32500 + 36)) _) (Nat.zero_le _) ?_)
  · refine .mono (.bind .get fun s => .bind (hacer_takes _) fun _ => .bind (.modify _) fun _ =>
      .bind (hsube s.rfid) fun _ => .bind volverAEsperar_takes fun _ => .pure _) (Nat.zero_le _) ?_
    omega
  · unfold plazo
    omega

theorem altaHuella_takes : Prog.Takes (reloj n) start 0 (plazo n) (altaHuella pin) := by
  have hsube (id : List UInt8) : Prog.Takes (reloj n) start 1 (n * 32500 + 35)
      (conEsp (espEnviarNuevaHuella pin id)) := .zoom (pedirConfirmacion_takes _ _ _)
  unfold altaHuella
  refine siSigueO_takes (.mono (.bind .get fun s => ?_ :
    Prog.Takes _ _ (0 + 0) (0 + plazo n) _) le_rfl (Nat.zero_add _).le)
  cases obtenerHuellaAsignadaPorPin s.listaPins pin with
  | none =>
    refine .mono (.bind marcarPresencia_takes fun _ => .pure _) (Nat.zero_le _) ?_
    unfold plazo
    omega
  | some idHuellaStr =>
    refine .mono (.bind (enrolar_takes pin _) fun r => ?_ :
      Prog.Takes _ _ (0 + 1) (n * 381528 + 1164 + (n * 32500 + 36)) _) (Nat.zero_le _) ?_
    · cases r with
      | none =>
        refine .mono (.bind volverAEsperar_takes fun _ => .pure _) le_rfl ?_
        omega
      | some idResultado =>
        have hvuelta : Prog.Takes (reloj n) start 0 0 esperarPin :=
          .bind (.bind (.emit _) fun _ => .modify _) fun _ => .emit _
        refine .mono (.bind (.modify _) fun _ => .bind (hsube idResultado) fun _ =>
          .bind hvuelta fun _ => .bind marcarPresencia_takes fun _ => .pure _) ?_ ?_ <;> omega
    · unfold plazo
      omega

end Tiempo

/-- A call in REGISTRAR_RFID or REGISTRAR_HUELLA. If it returns, `Registrada` holds of
it; and it returns if the question for the PIN ends and the clock runs. -/
theorem registro_atomico
    (hestado : c.st.estadoActual = .registrarRfid ∨ c.st.estadoActual = .registrarHuella) :
    (∀ c', mefUpdate c = (some (), c') → ∃ d evs, alta c = (some d, c') ∧ Registrada d evs c c') ∧
      ∀ n pin c1, pedirPinValidado c = (some pin, c1) → (reloj n).Runs 0 c1.inputs →
        plazo n ≤ c1.inputs.length → ∃ c', mefUpdate c = (some (), c') := by
  rw [mefUpdate_alta hestado]
  constructor
  · intro c' hreturn
    obtain ⟨d, c1, halta, hpure⟩ := Prog.exists_of_bind hreturn
    obtain rfl : c1 = c' := congrArg Prod.snd hpure
    obtain ⟨evs, h⟩ := Prog.wp_elim (alta_wp hestado) halta
    exact ⟨d, evs, halta, h⟩
  · intro n pin c1 hpin hruns hlen
    have hresto : Prog.Takes (reloj n) 0 0 (plazo n)
        (if c.st.estadoActual = .registrarRfid then altaTarjeta pin else altaHuella pin) :=
      .ite altaTarjeta_takes altaHuella_takes
    obtain ⟨d, c', hd, -⟩ := Prog.wp_returns (hresto c1 hruns hlen)
    have halta : alta c = (some d, c') := (Prog.bind_eq_of hpin).trans hd
    exact ⟨c', Prog.bind_eq_of halta⟩

end Altas

/-! ## A card for a user -/

/-- A clock that moves on with every sample. -/
theorem reloj_runs {f : ℕ → Sample} (hf : ∀ i, (f i).tick = i) {len : ℕ} (hlen : len ≤ 2 ^ 31) :
    (reloj 1).Runs 0 ((List.range len).map f) where
  sorted := by
    refine List.pairwise_map.mpr (List.Pairwise.imp (fun hlt => ?_) List.pairwise_lt_range)
    show (f _).tick ≤ (f _).tick
    rw [hf, hf]
    exact Nat.le_of_lt hlt
  advances := by
    have htick : ∀ (i : ℕ) (a : Sample), ((List.range len).map f)[i]? = some a → a.tick = i := by
      intro i a ha
      obtain ⟨hi, rfl⟩ := List.getElem?_eq_some_iff.mp ha
      rw [List.getElem_map, List.getElem_range, hf]
    intro i a b ha hb
    show a.tick < b.tick
    rw [htick i a ha, htick _ b hb]
    exact Nat.lt_succ_self i
  range := by
    intro a ha
    obtain ⟨i, hi, rfl⟩ := List.mem_map.mp ha
    refine ⟨Nat.zero_le _, ?_⟩
    show (f i).tick < 2 ^ 31
    rw [hf]
    exact Nat.lt_of_lt_of_le (List.mem_range.mp hi) hlen

/-- A user with the PIN 12345 and no card. -/
def sinTarjeta : PinUsuario where
  codigo := .copy 5 (ascii "12345")
  activo := true
  rfid := .vacio 19
  huella := .vacio 4
  tag := .vacio 19

/-- REGISTRAR_RFID with the keys 1 2 3 4 5, and what comes after them. -/
def conPinTecleado (resto : List Sample) : Config Mef Sample MefEv where
  st := { Mef.inicial with
    estadoActual := .registrarRfid, listaPins := .ofList [sinTarjeta] }
  inputs := Sample.quiet 0 :: ([0, 0, 0, 1, 1, 1, 2, 2, 2, 3, 3, 3, 4, 4].map fun i =>
    { Sample.quiet 0 with tecla := some i }) ++ resto
  trace := []

/-- The card 11111111 on the reader. -/
def acercada (t : ℕ) : Sample := { Sample.quiet t with uid := some (.replicate 4 0x11) }

theorem conPinTecleado_pide (resto : List Sample) :
    (pedirPinValidado (conPinTecleado resto)).1 = some (ascii "12345") ∧
      (pedirPinValidado (conPinTecleado resto)).2.inputs = resto := by
  have hpin : ascii "12345" = [0x31, 0x32, 0x33, 0x34, 0x35] := by decide
  have hvalido : validarPin (.ofList [sinTarjeta]) [0x31, 0x32, 0x33, 0x34, 0x35] = true := by
    decide
  have hplazo : TimeTest.pinValidado.holds 0 (Storage.long.keep 0) = false := by decide
  -- the loop of the prompt, key by key
  simp [hpin, hvalido, hplazo, conPinTecleado, pedirPinValidado, leerPinValidado, leerPin,
    conTeclado, tecladoLeerPin, nuevaTecla, tecladoReset, tickRead, keypadMap, asterisco,
    pinLength, isDecimalDigit, Sample.quiet, Mef.inicial, Teclado.inicial, bind, pure, Prog.read,
    Prog.get, Prog.modify, Prog.emit, Prog.zoom, Prog.iter, Prog.loop, Fin.coe_ofNat_eq_mod]

/-- The card is stored, though the server does not answer. With a clock that runs
the call always returns. -/
theorem registro_atomico_tarjeta :
    (∃ c' evs, mefUpdate (conPinTecleado
        ([0, 0, 0, 10000, 10000, 10500, 10500, 25500, 25500].map acercada)) = (some (), c') ∧
      Registrada (.completo (ascii "12345") (ascii "11111111")) evs (conPinTecleado
        ([0, 0, 0, 10000, 10000, 10500, 10500, 25500, 25500].map acercada)) c') ∧
    ∃ c', mefUpdate (conPinTecleado ((List.range (plazo 1)).map acercada)) = (some (), c') := by
  constructor
  · obtain ⟨hreturn, hcompleto⟩ :
        (mefUpdate (conPinTecleado
          ([0, 0, 0, 10000, 10000, 10500, 10500, 25500, 25500].map acercada))).1 = some () ∧
        (alta (conPinTecleado
          ([0, 0, 0, 10000, 10000, 10500, 10500, 25500, 25500].map acercada))).1 =
            some (.completo (ascii "12345") (ascii "11111111")) := by decide +kernel
    obtain ⟨d, evs, halta, h⟩ := (registro_atomico (.inl rfl)).1 _ (Prod.fst_eq_iff.mp hreturn)
    rw [halta] at hcompleto
    obtain rfl := Option.some.inj hcompleto
    exact ⟨_, evs, Prod.fst_eq_iff.mp hreturn, h⟩
  · obtain ⟨hpin, hresto⟩ := conPinTecleado_pide ((List.range (plazo 1)).map acercada)
    refine (registro_atomico (.inl rfl)).2 1 _ _ (Prod.fst_eq_iff.mp hpin) ?_ ?_
    · rw [hresto]
      exact reloj_runs (fun _ => rfl) (by decide)
    · rw [hresto, List.length_map, List.length_range]

end Cerradura
