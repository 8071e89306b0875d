import Cerradura.Mef

/-!
# The slot of an enrolled finger

REGISTRAR_HUELLA stores the template in the slot that the user's `huella` text
gives, which `as608EnrollAtId` accepts up to page `0x00A3`. The search of a scan
asks for `0x00A3` pages from page 0 on.

Result: `enrolado_entra_iff`. An enrolled finger is looked for, and its id
accepted, exactly if its slot is not `0x00A3`. `enrolado_fuera` is a user of
whom REGISTRAR_HUELLA reports success in that slot.
-/

namespace Cerradura

open Reactive ListaPins

/-! ## What the sensor is told -/

/-- Store the template in page `id`. -/
def tramaStore (id : UInt16) : List UInt8 := as608Frame 0x01 (0x06 :: 0x01 :: bytesBe id)

/-- A page that ST_SEND_SEARCH asks to search. -/
def EnBusqueda (pagina : UInt16) : Prop :=
  let startPage := be16 (searchPayload.getD 2 0) (searchPayload.getD 3 0)
  let pageCount := be16 (searchPayload.getD 4 0) (searchPayload.getD 5 0)
  startPage.toNat ≤ pagina.toNat ∧ pagina.toNat < startPage.toNat + pageCount.toNat

instance (pagina : UInt16) : Decidable (EnBusqueda pagina) := instDecidableAnd

theorem enBusqueda_iff {pagina : UInt16} : EnBusqueda pagina ↔ pagina.toNat < 163 := by
  have hstart : (be16 (searchPayload.getD 2 0) (searchPayload.getD 3 0)).toNat = 0 := by decide
  have hcount : (be16 (searchPayload.getD 4 0) (searchPayload.getD 5 0)).toNat = 163 := by decide
  unfold EnBusqueda
  simp only [hstart, hcount, Nat.zero_le, Nat.zero_add, true_and]

/-! ## A successful enrolment -/

section Sensor

variable {σ : Type} {c : Config σ Sample SensorEv}

theorem as608CmdStore_wp (id : UInt16) : (as608CmdStore id).wp (fun _ => True)
    (fun _ c' => .tx (tramaStore id) ∈ c'.trace) c := by
  unfold as608CmdStore as608CmdAck
  rw [Prog.wp_bind]
  refine Prog.wp_mono Prog.wp_true (fun _ h => h) fun _ c1 _ => ?_
  unfold as608WritePacket as608GetAck
  rw [Prog.wp_bind, Prog.wp_emit, Prog.wp_bind]
  refine Prog.wp_mono (as608Recv_took 32 500) (fun _ _ => trivial) ?_
  rintro _ c2 ⟨bs, htook, -, -⟩
  show .tx (tramaStore id) ∈ c2.trace
  rw [htook.trace]
  exact List.mem_append_right _ List.mem_cons_self

/-- On success the id was in range, the template was stored there, and the text
is the id. -/
theorem as608EnrollAtId_wp (idTarget : UInt16) : (as608EnrollAtId idTarget).wp (fun _ => True)
    (fun r c' => ∀ idOut, r = some idOut → idTarget ≤ 0x00A3 ∧
      idOut = (sprintf04 idTarget.toNat).take 4 ∧ .tx (tramaStore idTarget) ∈ c'.trace) c := by
  unfold as608EnrollAtId
  rw [Prog.wp_bind]
  refine Prog.wp_mono Prog.wp_true (fun _ h => h) fun _ c1 _ => ?_
  rw [Prog.wp_bind]
  refine Prog.wp_mono Prog.wp_true (fun _ h => h) fun _ c2 _ =>
    Prog.wp_ite (fun _ => nofun) fun _ => ?_
  rw [Prog.wp_bind]
  refine Prog.wp_mono Prog.wp_true (fun _ h => h) fun _ c3 _ => ?_
  rw [Prog.wp_bind]
  refine Prog.wp_mono Prog.wp_true (fun _ h => h) fun _ c4 _ =>
    Prog.wp_ite (fun _ => nofun) fun _ => ?_
  rw [Prog.wp_bind]
  refine Prog.wp_mono Prog.wp_true (fun _ h => h) fun _ c5 _ =>
    Prog.wp_ite (fun _ => nofun) fun _ => ?_
  refine Prog.wp_ite (fun _ => nofun) fun hrango => ?_
  rw [Prog.wp_bind]
  refine Prog.wp_mono (as608CmdStore_wp idTarget) (fun _ h => h) fun _ c6 h6 =>
    Prog.wp_ite (fun _ => nofun) fun _ => ?_
  rintro idOut hout
  obtain rfl := Option.some.inj hout
  exact ⟨UInt16.not_lt.mp hrango, rfl, h6⟩

end Sensor

section Enrolar

variable {c c' : Config Mef Sample MefEv}

/-- The template was stored in the slot, in the last of the attempts. -/
theorem enrolar_wp_exito {pin : List UInt8} {id : UInt16} : (enrolar pin id).wp (fun _ => True)
    (fun r c' => c'.st.listaPins = c.st.listaPins ∧ ∀ idOut, r = some idOut → id ≤ 0x00A3 ∧
      idOut = (sprintf04 id.toNat).take 4 ∧
      ∃ evs, c'.trace = evs ++ c.trace ∧ .sensor (.tx (tramaStore id)) ∈ evs) c := by
  unfold enrolar
  refine Prog.wp_iter
    (fun _ c1 => c1.st.listaPins = c.st.listaPins ∧ ∃ evs, c1.trace = evs ++ c.trace)
    (fun _ _ _ => trivial) (fun intentos c1 h1 => ?_) ⟨rfl, [], rfl⟩
  obtain ⟨hlista, evs1, htrace1⟩ := h1
  refine Prog.wp_ite (fun _ => ?_) fun _ => ⟨hlista, nofun⟩
  rw [Prog.wp_bind]
  show Prog.wp _ _ _ ⟨c1.st, c1.inputs, .accion c1.st.listaPins (.enrolarHuella pin id) :: c1.trace⟩
  rw [Prog.wp_bind]
  refine Prog.wp_zoom (as608EnrollAtId_wp id) (fun _ _ => trivial) fun r c2 h2 => ?_
  have htrace2 : c2.trace.map MefEv.sensor ++
      .accion c1.st.listaPins (.enrolarHuella pin id) :: c1.trace =
      (c2.trace.map MefEv.sensor ++ .accion c1.st.listaPins (.enrolarHuella pin id) :: evs1) ++
        c.trace := by
    rw [htrace1, List.append_assoc, List.cons_append]
  cases r with
  | none => exact ⟨hlista, _, htrace2⟩
  | some idOut =>
    refine ⟨hlista, ?_⟩
    rintro _ ⟨⟩
    obtain ⟨hrango, hout, htx⟩ := h2 idOut rfl
    exact ⟨hrango, hout, _, htrace2, List.mem_append_left _ (List.mem_map_of_mem htx)⟩

/-- A user of whom REGISTRAR_HUELLA reports success: the template was stored in the
slot of the user's text, and it is in the range of a search, with its id accepted
for as long as the record keeps its text, exactly if it is not slot `0x00A3`. -/
theorem enrolado_entra_iff {pin idHuellaStr idResultado : List UInt8}
    (hasignada : obtenerHuellaAsignadaPorPin c.st.listaPins pin = some idHuellaStr)
    (henrola : enrolar pin (idSensor idHuellaStr) c = (some (some idResultado), c')) :
    ∃ u, (asociarHuellaaPin c'.st.listaPins pin idResultado).2.pins.find? (conPin pin) = some u ∧
      (∃ evs, c'.trace = evs ++ c.trace ∧ .sensor (.tx (tramaStore (idSensor idHuellaStr))) ∈ evs) ∧
      ((EnBusqueda (idSensor idHuellaStr) ∧
        ∀ (lista : ListaPins) (v : PinUsuario), v ∈ lista.pins → v.activo = true →
          v.huella = u.huella → validarHuella lista (idStr (idSensor idHuellaStr)) = true) ↔
        idSensor idHuellaStr ≠ 0x00A3) := by
  obtain ⟨hlista, hexito⟩ := Prog.wp_elim enrolar_wp_exito henrola
  obtain ⟨hrango, hout, htx⟩ := hexito idResultado rfl
  obtain ⟨u, hfind, -⟩ := Option.bind_eq_some_iff.mp hasignada
  rw [← hlista] at hfind
  have hasocia : (asociarHuellaaPin c'.st.listaPins pin idResultado).2.pins.find? (conPin pin) =
      some { u with huella := .copy 4 idResultado } := by
    have hpins := find?_modifyFirst (f := ({ · with huella := .copy 4 idResultado }))
      (fun u (hu : conPin pin u = true) => hu) c'.st.listaPins.pins
    rw [hfind] at hpins
    exact hpins
  have hrango' : (idSensor idHuellaStr).toNat ≤ 163 := UInt16.le_iff_toNat_le.mp hrango
  have hid : idStr (idSensor idHuellaStr) = sprintf04 (idSensor idHuellaStr).toNat :=
    idStr_eq (by omega)
  have hlen := sprintf04_length (show (idSensor idHuellaStr).toNat < 10000 by omega)
  have htexto : (CStr.copy 4 idResultado).bytes = sprintf04 (idSensor idHuellaStr).toNat := by
    rw [hout, List.take_of_length_le hlen.le]
    refine CStr.copy_bytes (fun h0 => ?_) hlen.le
    exact absurd (sprintf04_digits 0 h0).1 (by decide)
  refine ⟨_, hasocia, htx, ?_⟩
  constructor
  · rintro ⟨hbusca, -⟩ heq
    rw [heq] at hbusca
    exact absurd hbusca (by decide)
  · intro hne
    refine ⟨enBusqueda_iff.mpr ?_, fun lista v hv hactivo hhuella => ?_⟩
    · have hne' : (idSensor idHuellaStr).toNat ≠ 163 := fun h => hne (UInt16.toNat_inj.mp h)
      omega
    · have hbytes : v.huella.bytes = sprintf04 (idSensor idHuellaStr).toNat := by
        rw [hhuella]
        exact htexto
      refine validarHuella_iff.mpr ⟨v, hv, hactivo, ?_, hbytes.trans hid.symm⟩
      rw [hbytes]
      exact List.ne_nil_of_length_pos (by omega)

end Enrolar

/-! ## Two users -/

/-- `as608FlushRx` with a silent line. -/
def silencio (t ms : ℕ) : List Sample := [Sample.quiet t, Sample.quiet (t + ms)]

/-- The sensor confirms a command. -/
def acuse (t fin : ℕ) : List Sample :=
  Sample.quiet t :: (as608Frame 0x07 [0x00]).flatMap (fun b =>
    [Sample.quiet t, { Sample.quiet t with sensorRx := some b }, Sample.quiet t]) ++
    [Sample.quiet fin]

/-- An image of the finger at the first attempt. -/
def imagen (t : ℕ) : List Sample :=
  silencio t 50 ++ List.replicate 4 (Sample.quiet (t + 50)) ++ silencio (t + 50) 10 ++
    silencio (t + 60) 2 ++ acuse (t + 62) (t + 262) ++ silencio (t + 262) 20 ++
    silencio (t + 282) 2 ++ acuse (t + 284) (t + 684)

/-- An enrolment in which everything succeeds. -/
def enrolamiento : List Sample :=
  silencio 20000 100 ++ imagen 20100 ++ silencio 20784 50 ++ imagen 20834 ++
    silencio 21518 1 ++ acuse 21519 21819 ++ silencio 21819 1 ++ acuse 21820 22320

/-- The lock after a sync with one user, `12345`, with this `huella`. -/
def unUsuario (huella : String) : Config Mef Sample MefEv where
  st := { Mef.inicial with
    listaPins := actualizarBaseDeDatos
      (extraerPins (jsonPins [{ ana with huella := huella.toList }]) maxPins) }
  inputs := enrolamiento
  trace := []

/-- Slot `0x00A3` is accepted, and no scan looks there. -/
theorem enrolado_fuera : ¬ ∀ (c c' : Config Mef Sample MefEv) (pin idHuellaStr idResultado),
    obtenerHuellaAsignadaPorPin c.st.listaPins pin = some idHuellaStr →
      enrolar pin (idSensor idHuellaStr) c = (some (some idResultado), c') →
      EnBusqueda (idSensor idHuellaStr) := by
  intro h
  obtain ⟨hasignada, henrola, hfuera⟩ :
      obtenerHuellaAsignadaPorPin (unUsuario "0163").st.listaPins (ascii "12345") =
        some (ascii "0163") ∧
      (enrolar (ascii "12345") (idSensor (ascii "0163")) (unUsuario "0163")).1 =
        some (some (ascii "0163")) ∧
      ¬ EnBusqueda (idSensor (ascii "0163")) := by decide +kernel
  exact hfuera (h _ _ _ _ _ hasignada (Prod.fst_eq_iff.mp henrola))

theorem enrolado_entra_siete : EnBusqueda (idSensor (ascii "7")) ∧
    validarHuella (asociarHuellaaPin
      (enrolar (ascii "12345") (idSensor (ascii "7")) (unUsuario "7")).2.st.listaPins
      (ascii "12345") (ascii "0007")).2 (idStr (idSensor (ascii "7"))) = true := by
  obtain ⟨hasignada, henrola⟩ :
      obtenerHuellaAsignadaPorPin (unUsuario "7").st.listaPins (ascii "12345") =
        some (ascii "7") ∧
      (enrolar (ascii "12345") (idSensor (ascii "7")) (unUsuario "7")).1 =
        some (some (ascii "0007")) := by decide +kernel
  obtain ⟨u, hfind, -, hiff⟩ := enrolado_entra_iff hasignada (Prod.fst_eq_iff.mp henrola)
  obtain ⟨hbusca, hentra⟩ := hiff.mpr (by decide)
  exact ⟨hbusca, hentra _ u (List.mem_of_find?_eq_some hfind)
    (conPin_iff.mp (List.find?_some hfind)).1 rfl⟩

end Cerradura
