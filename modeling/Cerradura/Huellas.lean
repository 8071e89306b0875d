import Cerradura.Conmuta
import Cerradura.Mef
import Cerradura.Transition

/-!
# Whose finger is it

A fingerprint has three traces: the template in a slot of the sensor, the id in
the user's record on the lock, and the id in the user's row on the server. They
change one after the other, and the requests to the server may be lost.

Results:
1. `huella_identifica`: an accepted finger is that of the user in whose name the
   door opens, in every run in which an id is only given where the server has it
   for nobody else and an upload only reaches the row of the user enrolled. The
   finger of a deleted user no longer opens after a sync.
2. `huella_ajena`: a deletion that does not reach the server, and what follows.
3. `huella_heredada`: an upload for a PIN that has changed hands.
-/

namespace Cerradura

open Transition ListaPins

/-! ## The three stores -/

/-- Who a record of the lock belongs to: a place of the table the firmware
starts with, or a row of the server. -/
inductive Usuario
  | fabrica (posicion : ℕ)
  | fila (id : ℕ)
deriving DecidableEq, Repr

/-- The server, the lock and the sensor. `duenos` says whose record is at a
position of the table, and `ranuras` who has put the finger of a slot there. -/
structure Sistema where
  db : Db
  lista : ListaPins
  duenos : ℕ → Usuario
  ranuras : UInt16 → Option Usuario

namespace Sistema

/-- An empty sensor, and the tables after the reset and `init_db`. -/
def inicial : Sistema where
  db := initDb
  lista := listaPinsInicial
  duenos := .fabrica
  ranuras := fun _ => none

/-- The user whose PIN is typed. -/
def quien (s : Sistema) (pin : List UInt8) : Usuario := s.duenos (s.lista.pins.findIdx (conPin pin))

end Sistema

inductive Operacion
  | enrolar (pin : List UInt8) (sube : Bool) -- REGISTRAR_HUELLA, and whether the upload arrives
  | borrarUna (pin : List UInt8) (llega : Bool) -- MENU_ADMIN option 4, and whether the request does
  | borrarTodas (llega : Bool)
  | agregar (codigo tag rfid : Texto) -- on the panel
  | eliminar (userId : ℕ)
  | sincronizar (pins : List PinUsuario)

namespace Sistema

/-- `as608EnrollAtId` at slot `id`, `asociarHuellaaPin` and the upload. -/
def enrolar (s : Sistema) (pin : List UInt8) (id : UInt16) (sube : Bool) : Sistema :=
  let idResultado := (sprintf04 id.toNat).take 4
  { s with
    ranuras := Function.update s.ranuras id (some (s.quien pin))
    lista := (asociarHuellaaPin s.lista pin idResultado).2
    db := if sube then
        (updateHuellaEndpoint (some (texto pin)) (some (texto idResultado)) s.db).db
      else s.db }

def borrarUna (s : Sistema) (pin : List UInt8) (id : UInt16) (llega : Bool) : Sistema :=
  { s with
    ranuras := Function.update s.ranuras id none
    lista := (eliminarHuellaLocal s.lista pin).2
    db := if llega then (deleteHuellaEndpoint (some (texto pin)) s.db).db else s.db }

def borrarTodas (s : Sistema) (llega : Bool) : Sistema :=
  { s with
    ranuras := fun _ => none
    lista := eliminarTodasHuellasLocal s.lista
    db := if llega then (clearAllHuellasEndpoint s.db).db else s.db }

/-- The records that came take the place of the table, each for the row it was
made from. -/
def sincronizar (s : Sistema) (pins : List PinUsuario) : Sistema :=
  { s with
    lista := actualizarBaseDeDatos pins
    duenos := fun i => (s.db.active[i]?.map fun row => Usuario.fila row.id).getD (.fabrica i) }

/-- Every active user of the server has come, and nobody else. -/
def Completa (s : Sistema) (pins : List PinUsuario) : Prop :=
  List.Forall₂ (fun row pin => Registra (conTag row) pin) s.db.active pins ∧ pins.length ≤ maxPins

/-- The slot for a PIN. -/
def ranura (s : Sistema) (pin : List UInt8) : Option UInt16 :=
  (obtenerHuellaAsignadaPorPin s.lista pin).map idSensor

end Sistema

/-- The three stores as one machine. Enrolment ends in success only for the
slots that `as608EnrollAtId` takes. -/
def sistema : Machine Sistema Operacion where
  Enabled s
    | .enrolar pin _ => ∃ id, s.ranura pin = some id ∧ id ≤ 0xA3
    | .borrarUna pin _ => (s.ranura pin).isSome
    | .sincronizar pins => s.Completa pins
    | _ => True
  next s
    | .enrolar pin sube => s.enrolar pin ((s.ranura pin).getD 0) sube
    | .borrarUna pin llega => s.borrarUna pin ((s.ranura pin).getD 0) llega
    | .borrarTodas llega => s.borrarTodas llega
    | .agregar codigo tag rfid =>
      { s with db := (panelPost (some codigo) (some tag) (some rfid) (some []) s.db).db }
    | .eliminar userId => { s with db := (deleteUser userId s.db).db }
    | .sincronizar pins => s.sincronizar pins

/-- If the finger in a slot opens, it is that of an active user of the table, and
the record found is that user's. -/
def Sistema.Identifica (s : Sistema) : Prop :=
  ∀ id u, s.ranuras id = some u → validarHuella s.lista (idStr id) = true →
    ∃ i pin, s.lista.pins[i]? = some pin ∧ s.duenos i = u ∧ pin.activo = true ∧
      s.lista.pins.find? (conHuella (idStr id)) = some pin ∧
      obtenerTagPorHuella s.lista (idStr id) = some (tagOr pin)

/-- No other row of the server has the id that is given. -/
def IdPropio (s : Sistema) : Operacion → Prop
  | .enrolar pin _ => ∀ id, s.ranura pin = some id → ∀ row ∈ s.db.usuarios,
      row.huella = texto (sprintf04 id.toNat) → .fila row.id = s.quien pin
  | _ => True

/-- No other user of the server has the PIN by now. -/
def PinPropio (s : Sistema) : Operacion → Prop
  | .enrolar pin sube => sube = true → ∀ row ∈ s.db.usuarios, row.codigo = texto pin →
      .fila row.id = s.quien pin
  | _ => True

/-! ## The invariant -/

/-- The text of an id that a slot can have. -/
def TextoId (s : List UInt8) : Prop := s = [] ∨ ∃ n ≤ 163, s = sprintf04 n

/-- No two active records have the same id. -/
def Unicas (pins : List PinUsuario) : Prop :=
  pins.Pairwise fun a b => a.activo = true → b.activo = true → a.huella.bytes ≠ [] →
    a.huella.bytes ≠ b.huella.bytes

instance (pins : List PinUsuario) : Decidable (Unicas pins) :=
  inferInstanceAs (Decidable (List.Pairwise _ _))

theorem unicas_iff {pins : List PinUsuario} : Unicas pins ↔
    ∀ (i j : ℕ) (a b : PinUsuario), pins[i]? = some a → pins[j]? = some b → a.activo = true →
      b.activo = true → a.huella.bytes ≠ [] → a.huella.bytes = b.huella.bytes → i = j := by
  unfold Unicas
  rw [List.pairwise_iff_getElem]
  constructor
  · intro h i j a b hi hj ha hb hne heq
    obtain ⟨hilt, rfl⟩ := List.getElem?_eq_some_iff.mp hi
    obtain ⟨hjlt, rfl⟩ := List.getElem?_eq_some_iff.mp hj
    rcases Nat.lt_trichotomy i j with hlt | rfl | hgt
    · exact absurd heq (h i j hilt hjlt hlt ha hb hne)
    · rfl
    · exact absurd heq.symm (h j i hjlt hilt hgt hb ha (heq ▸ hne))
  · intro h i j hi hj hlt ha hb hne heq
    exact absurd (h i j _ _ (List.getElem?_eq_getElem hi) (List.getElem?_eq_getElem hj) ha hb hne
      heq) (Nat.ne_of_lt hlt)

/-- The three stores agree about the fingers in the slots. -/
structure Concuerda (s : Sistema) : Prop where
  texto_lista : ∀ pin ∈ s.lista.pins, TextoId pin.huella.bytes
  texto_db : ∀ row ∈ s.db.usuarios, ∃ t, TextoId t ∧ row.huella = texto t
  ranura_le : ∀ id u, s.ranuras id = some u → id.toNat ≤ 163
  -- no two records, and no two rows, have the same id
  unica_lista : Unicas s.lista.pins
  unica_db : ∀ a ∈ s.db.usuarios, ∀ b ∈ s.db.usuarios, a.huella ≠ [] → a.huella = b.huella →
    a.id = b.id
  -- a record, and a row, with the id of a slot is that of the user whose finger is there
  de_lista : ∀ id u i pin, s.ranuras id = some u → s.lista.pins[i]? = some pin →
    pin.activo = true → pin.huella.bytes = sprintf04 id.toNat → s.duenos i = u
  de_db : ∀ id u, s.ranuras id = some u → ∀ row ∈ s.db.usuarios,
    row.huella = texto (sprintf04 id.toNat) → .fila row.id = u

theorem sprintf04_ne_nil (n : ℕ) : sprintf04 n ≠ [] :=
  List.ne_nil_of_length_pos (Nat.lt_of_lt_of_le (by decide) (four_le_sprintf04 n))

theorem texto_injective {s t : List UInt8} (h : texto s = texto t) : s = t := by
  rw [← asciiBytes_texto s, h, asciiBytes_texto]

theorem texto_eq_nil {s : List UInt8} : texto s = [] ↔ s = [] := List.map_eq_nil_iff

/-- What an accepted finger says, from the invariant. -/
theorem Concuerda.identifica {s : Sistema} (h : Concuerda s) : s.Identifica := by
  intro id u hranura hvalida
  have hid : idStr id = sprintf04 id.toNat :=
    idStr_eq (Nat.lt_of_le_of_lt (h.ranura_le id u hranura) (by decide))
  obtain ⟨pin, hfind⟩ := Option.isSome_iff_exists.mp (List.find?_isSome.mpr
    (List.any_eq_true.mp hvalida))
  have hcon := conHuella_iff.mp (List.find?_some hfind)
  obtain ⟨i, hi⟩ := List.mem_iff_getElem?.mp (List.mem_of_find?_eq_some hfind)
  refine ⟨i, pin, hi, ?_, hcon.1, hfind, ?_⟩
  · exact h.de_lista id u i pin hranura hi hcon.1 (hcon.2.2.trans hid)
  · unfold obtenerTagPorHuella
    rw [hfind]
    rfl

theorem concuerda_inicial : Concuerda Sistema.inicial where
  texto_lista := by
    have hall : ∀ pin ∈ listaPinsInicial.pins, pin.huella.bytes = [] ∨
        ∃ n ∈ [1, 2, 3, 4], pin.huella.bytes = sprintf04 n := by decide +kernel
    intro pin hpin
    refine (hall pin hpin).imp id fun ⟨n, hn, heq⟩ => ⟨n, ?_, heq⟩
    rcases List.mem_cons.mp hn with rfl | hn
    · decide
    · simp only [List.mem_cons, List.not_mem_nil, or_false] at hn
      omega
  texto_db := by
    intro row hrow
    rw [List.mem_singleton.mp hrow]
    exact ⟨[], .inl rfl, rfl⟩
  ranura_le id u h := nomatch h
  unica_lista := by decide +kernel
  unica_db := by
    intro a ha b hb _ _
    rw [List.mem_singleton.mp ha, List.mem_singleton.mp hb]
  de_lista id u i pin h := nomatch h
  de_db id u h := nomatch h

/-! ## Steps -/

/-- Ids may have gone, but none has come. -/
structure Mengua (s s' : Sistema) : Prop where
  lista : ∀ (j : ℕ) (a : PinUsuario), s'.lista.pins[j]? = some a →
    ∃ a0 : PinUsuario, s.lista.pins[j]? = some a0 ∧ a.activo = a0.activo ∧
      (a.huella.bytes = [] ∨ a.huella.bytes = a0.huella.bytes)
  db : ∀ row ∈ s'.db.usuarios, row.huella = [] ∨
    ∃ row0 ∈ s.db.usuarios, row0.id = row.id ∧ row0.huella = row.huella
  duenos : s'.duenos = s.duenos
  ranuras : ∀ id u, s'.ranuras id = some u → s.ranuras id = some u

theorem Concuerda.mengua {s s' : Sistema} (h : Concuerda s) (hm : Mengua s s') : Concuerda s' where
  texto_lista := by
    intro pin hpin
    obtain ⟨j, hj⟩ := List.mem_iff_getElem?.mp hpin
    obtain ⟨a0, ha0, -, hnil | heq⟩ := hm.lista j pin hj
    · exact .inl hnil
    · rw [heq]
      exact h.texto_lista a0 (List.mem_of_getElem? ha0)
  texto_db := by
    intro row hrow
    rcases hm.db row hrow with hnil | ⟨row0, hrow0, -, heq⟩
    · exact ⟨[], .inl rfl, hnil⟩
    · rw [← heq]
      exact h.texto_db row0 hrow0
  ranura_le id u hr := h.ranura_le id u (hm.ranuras id u hr)
  unica_lista := by
    rw [unicas_iff]
    intro i j a b hi hj ha hb hne heq
    obtain ⟨a0, ha0, hact, hnil | hea⟩ := hm.lista i a hi
    · exact absurd hnil hne
    obtain ⟨b0, hb0, hbct, hnil | heb⟩ := hm.lista j b hj
    · exact absurd (heq.trans hnil) hne
    exact unicas_iff.mp h.unica_lista i j a0 b0 ha0 hb0 (hact ▸ ha) (hbct ▸ hb) (hea ▸ hne)
      (hea ▸ heb ▸ heq)
  unica_db := by
    intro a ha b hb hne heq
    rcases hm.db a ha with hnil | ⟨a0, ha0, hida, hea⟩
    · exact absurd hnil hne
    rcases hm.db b hb with hnil | ⟨b0, hb0, hidb, heb⟩
    · exact absurd (heq.trans hnil) hne
    rw [← hida, ← hidb]
    exact h.unica_db a0 ha0 b0 hb0 (hea ▸ hne) (hea.trans (heq.trans heb.symm))
  de_lista := by
    intro id u i pin hr hi hactivo heq
    obtain ⟨a0, ha0, hact, hnil | hea⟩ := hm.lista i pin hi
    · exact absurd (heq.symm.trans hnil) (sprintf04_ne_nil _)
    · rw [hm.duenos]
      exact h.de_lista id u i a0 (hm.ranuras id u hr) ha0 (hact ▸ hactivo) (hea ▸ heq)
  de_db := by
    intro id u hr row hrow heq
    rcases hm.db row hrow with hnil | ⟨row0, hrow0, hid, he⟩
    · exact absurd (texto_eq_nil.mp (heq.symm.trans hnil)) (sprintf04_ne_nil _)
    · rw [← hid]
      exact h.de_db id u (hm.ranuras id u hr) row0 hrow0 (he.trans heq)

/-- The record that a change by PIN has changed, and the others. -/
theorem getElem?_actualizar {lista : ListaPins} {p : PinUsuario → Bool}
    {f : PinUsuario → PinUsuario} {j : ℕ} {a : PinUsuario}
    (h : (lista.actualizar p f).2.pins[j]? = some a) :
    (lista.pins.findIdx p = j ∧ ∃ a0, lista.pins[j]? = some a0 ∧ a = f a0) ∨
      (lista.pins.findIdx p ≠ j ∧ lista.pins[j]? = some a) := by
  simp only [ListaPins.actualizar, getElem?_modifyFirst] at h
  split_ifs at h with hj
  · obtain ⟨a0, ha0, rfl⟩ := Option.map_eq_some_iff.mp h
    exact .inl ⟨hj, a0, ha0, rfl⟩
  · exact .inr ⟨hj, h⟩

/-- The rows after a statement. -/
theorem mengua_update {db : Db} {donde : Row → Bool} :
    ∀ row ∈ (db.update donde ({ · with huella := [] })).usuarios, row.huella = [] ∨
      ∃ row0 ∈ db.usuarios, row0.id = row.id ∧ row0.huella = row.huella := by
  intro row hrow
  obtain ⟨row0, hrow0, ⟨-, rfl⟩ | ⟨-, rfl⟩⟩ := mem_update hrow
  · exact .inl rfl
  · exact .inr ⟨row, hrow0, rfl, rfl⟩

theorem mengua_deleteHuella (pin : Option Texto) (db : Db) :
    ∀ row ∈ (deleteHuellaEndpoint pin db).db.usuarios, row.huella = [] ∨
      ∃ row0 ∈ db.usuarios, row0.id = row.id ∧ row0.huella = row.huella := by
  unfold deleteHuellaEndpoint
  split_ifs
  · exact fun row hrow => .inr ⟨row, hrow, rfl, rfl⟩
  · exact mengua_update

theorem mengua_borrarUna (s : Sistema) (pin : List UInt8) (id : UInt16) (llega : Bool) :
    Mengua s (s.borrarUna pin id llega) where
  lista := by
    intro j a hj
    rcases getElem?_actualizar hj with ⟨-, a0, ha0, rfl⟩ | ⟨-, ha⟩
    · exact ⟨a0, ha0, rfl, .inl rfl⟩
    · exact ⟨a, ha, rfl, .inr rfl⟩
  db := by
    cases llega with
    | true => exact mengua_deleteHuella _ _
    | false => exact fun row hrow => .inr ⟨row, hrow, rfl, rfl⟩
  duenos := rfl
  ranuras := by
    intro id' u hr
    simp only [Sistema.borrarUna, Function.update_apply] at hr
    split_ifs at hr
    exact hr

theorem mengua_borrarTodas (s : Sistema) (llega : Bool) : Mengua s (s.borrarTodas llega) where
  lista := by
    intro j a hj
    simp only [Sistema.borrarTodas, eliminarTodasHuellasLocal, List.getElem?_map] at hj
    obtain ⟨a0, ha0, rfl⟩ := Option.map_eq_some_iff.mp hj
    exact ⟨a0, ha0, rfl, .inl rfl⟩
  db := by
    cases llega with
    | true => exact mengua_update
    | false => exact fun row hrow => .inr ⟨row, hrow, rfl, rfl⟩
  duenos := rfl
  ranuras id u hr := nomatch hr

/-- A change of the server that gives nobody an id. -/
theorem mengua_db (s : Sistema) {db : Db} (h : ∀ row ∈ db.usuarios, row.huella = [] ∨
    ∃ row0 ∈ s.db.usuarios, row0.id = row.id ∧ row0.huella = row.huella) :
    Mengua s { s with db := db } where
  lista _ a hj := ⟨a, hj, rfl, .inr rfl⟩
  db := h
  duenos := rfl
  ranuras _ _ hr := hr

theorem mengua_panelPost (codigo tag rfid : Texto) (db : Db) :
    ∀ row ∈ (panelPost (some codigo) (some tag) (some rfid) (some []) db).db.usuarios,
      row.huella = [] ∨ ∃ row0 ∈ db.usuarios, row0.id = row.id ∧ row0.huella = row.huella := by
  intro row hrow
  unfold panelPost at hrow
  dsimp only at hrow
  split at hrow
  · exact .inr ⟨row, hrow, rfl, rfl⟩
  · rcases List.mem_append.mp hrow with hrow | hrow
    · exact .inr ⟨row, hrow, rfl, rfl⟩
    · rw [List.mem_singleton.mp hrow]
      exact .inl rfl

theorem mengua_deleteUser (userId : ℕ) (db : Db) :
    ∀ row ∈ (deleteUser userId db).db.usuarios, row.huella = [] ∨
      ∃ row0 ∈ db.usuarios, row0.id = row.id ∧ row0.huella = row.huella := by
  intro row hrow
  refine .inr ⟨row, ?_, rfl, rfl⟩
  unfold deleteUser at hrow
  split_ifs at hrow
  · exact hrow
  · exact List.mem_of_mem_filter hrow

section Enrolar

variable {s : Sistema} {pin : List UInt8} {id : UInt16}

/-- The slot that a PIN gets: nobody else on the lock has its id. -/
theorem Concuerda.ranura_spec (h : Concuerda s) (hr : s.ranura pin = some id) :
    id.toNat ≤ 163 ∧ ∀ (j : ℕ) (a : PinUsuario), s.lista.pins[j]? = some a → a.activo = true →
      a.huella.bytes = sprintf04 id.toNat → s.lista.pins.findIdx (conPin pin) = j := by
  obtain ⟨idStr, hasignada, rfl⟩ := Option.map_eq_some_iff.mp hr
  obtain ⟨u, hfind, hu⟩ := Option.bind_eq_some_iff.mp hasignada
  have hcon := conPin_iff.mp (List.find?_some hfind)
  have hi := hfind
  rw [List.find?_eq_getElem?_findIdx] at hi
  split_ifs at hu with hlen
  · -- the id the user has
    obtain rfl := Option.some.inj hu
    rcases h.texto_lista u (List.mem_of_find?_eq_some hfind) with hnil | ⟨n, hn, heq⟩
    · rw [hnil] at hlen
      cases hlen
    · rw [heq, idSensor_sprintf04 (by omega)]
      refine ⟨hn, fun j a hj hactivo hhuella => ?_⟩
      refine unicas_iff.mp h.unica_lista _ j u a hi hj hcon.1 hactivo ?_ (heq.trans hhuella.symm)
      rw [heq]
      exact sprintf04_ne_nil n
  · -- the lowest id that no active record has
    obtain ⟨n, hbuscar, rfl⟩ := Option.map_eq_some_iff.mp hu
    obtain ⟨hlibre, hn⟩ := buscarIdLibre_spec hbuscar
    have hn' : n ≤ 163 := by
      have hmax : maxPins = 99 := rfl
      omega
    rw [idSensor_sprintf04 (by omega)]
    refine ⟨hn', fun j a hj hactivo hhuella => ?_⟩
    have huso : huellaEnUso s.lista (sprintf04 n) = true :=
      List.any_eq_true.mpr ⟨a, List.mem_of_getElem? hj, by simp [hactivo, hhuella]⟩
    rw [hlibre] at huso
    cases huso

theorem copy_sprintf04 {n : ℕ} (h : n ≤ 163) :
    (CStr.copy 4 ((sprintf04 n).take 4)).bytes = sprintf04 n := by
  have hlen : (sprintf04 n).length = 4 := sprintf04_length (by omega)
  rw [List.take_of_length_le hlen.le]
  refine CStr.copy_bytes (fun h0 => ?_) hlen.le
  exact absurd (sprintf04_digits 0 h0).1 (by decide)

/-- The rows after an upload. -/
theorem mem_enrolar {sube : Bool} {row : Row} (hid : id.toNat ≤ 163)
    (h : row ∈ (s.enrolar pin id sube).db.usuarios) :
    (sube = true ∧ row.huella = texto (sprintf04 id.toNat) ∧
      ∃ row0 ∈ s.db.usuarios, row0.codigo = texto pin ∧ row0.id = row.id) ∨
    row ∈ s.db.usuarios := by
  have hlen : (sprintf04 id.toNat).length = 4 := sprintf04_length (by omega)
  cases sube with
  | false => exact .inr h
  | true =>
    simp only [Sistema.enrolar, if_true, updateHuellaEndpoint, updateByPin, argument,
      Option.getD_some, List.take_of_length_le hlen.le] at h
    split_ifs at h
    · exact .inr h
    · split at h
      · obtain ⟨row0, hrow0, ⟨hcodigo, rfl⟩ | ⟨-, rfl⟩⟩ := mem_update h
        · exact .inl ⟨rfl, rfl, row0, hrow0, of_decide_eq_true hcodigo, rfl⟩
        · exact .inr hrow0
      · exact .inr h

theorem Concuerda.enrolar {sube : Bool} (h : Concuerda s) (hr : s.ranura pin = some id)
    (hpropio : IdPropio s (.enrolar pin sube)) (hpin : PinPropio s (.enrolar pin sube)) :
    Concuerda (s.enrolar pin id sube) := by
  obtain ⟨hid, hunica⟩ := h.ranura_spec hr
  -- the records: that of the PIN has the id, and the others are as before
  have hlista : ∀ (j : ℕ) (a : PinUsuario), (s.enrolar pin id sube).lista.pins[j]? = some a →
      (s.lista.pins.findIdx (conPin pin) = j ∧ a.huella.bytes = sprintf04 id.toNat) ∨
        (s.lista.pins.findIdx (conPin pin) ≠ j ∧ s.lista.pins[j]? = some a) := by
    intro j a hj
    rcases getElem?_actualizar hj with ⟨hidx, a0, -, rfl⟩ | hotro
    · exact .inl ⟨hidx, copy_sprintf04 hid⟩
    · exact .inr hotro
  -- the rows with the id are the user's
  have hdb : ∀ row ∈ (s.enrolar pin id sube).db.usuarios,
      row.huella = texto (sprintf04 id.toNat) → Usuario.fila row.id = s.quien pin := by
    intro row hrow heq
    rcases mem_enrolar hid hrow with ⟨hsube, -, row0, hrow0, hcodigo, hide⟩ | hrow
    · rw [← hide]
      exact hpin hsube row0 hrow0 hcodigo
    · exact hpropio id hr row hrow heq
  have hviejo : ∀ row ∈ (s.enrolar pin id sube).db.usuarios,
      row.huella = texto (sprintf04 id.toNat) ∨ row ∈ s.db.usuarios := by
    intro row hrow
    exact (mem_enrolar hid hrow).imp (fun hnuevo => hnuevo.2.1) fun hrow => hrow
  constructor
  case texto_lista =>
    intro a ha
    obtain ⟨j, hj⟩ := List.mem_iff_getElem?.mp ha
    rcases hlista j a hj with ⟨-, heq⟩ | ⟨-, ha⟩
    · exact .inr ⟨id.toNat, hid, heq⟩
    · exact h.texto_lista a (List.mem_of_getElem? ha)
  case texto_db =>
    intro row hrow
    rcases hviejo row hrow with heq | hrow
    · exact ⟨_, .inr ⟨id.toNat, hid, rfl⟩, heq⟩
    · exact h.texto_db row hrow
  case ranura_le =>
    intro id' u hr'
    simp only [Sistema.enrolar, Function.update_apply] at hr'
    split_ifs at hr' with heq
    · rw [heq]
      exact hid
    · exact h.ranura_le id' u hr'
  case unica_lista =>
    rw [unicas_iff]
    intro i j a b hi hj ha hb hne heq
    rcases hlista i a hi with ⟨hii, heqa⟩ | ⟨hii, ha0⟩
    · rcases hlista j b hj with ⟨hjj, -⟩ | ⟨hjj, hb0⟩
      · exact hii.symm.trans hjj
      · exact absurd (hunica j b hb0 hb (heq.symm.trans heqa)) hjj
    · rcases hlista j b hj with ⟨hjj, heqb⟩ | ⟨hjj, hb0⟩
      · exact absurd (hunica i a ha0 ha (heq.trans heqb)) hii
      · exact unicas_iff.mp h.unica_lista i j a b ha0 hb0 ha hb hne heq
  case unica_db =>
    intro a ha b hb hne heq
    by_cases hnuevo : a.huella = texto (sprintf04 id.toNat)
    · have hquien := (hdb a ha hnuevo).trans (hdb b hb (heq.symm.trans hnuevo)).symm
      exact Usuario.fila.inj hquien
    · have ha0 := (hviejo a ha).resolve_left hnuevo
      have hb0 := (hviejo b hb).resolve_left fun hb => hnuevo (heq.trans hb)
      exact h.unica_db a ha0 b hb0 hne heq
  case de_lista =>
    intro id' u i a hr' hi hactivo heq
    simp only [Sistema.enrolar, Function.update_apply] at hr'
    rcases hlista i a hi with ⟨hidx, heqa⟩ | ⟨hidx, ha0⟩
    · have hmismo : id' = id :=
        UInt16.toNat_inj.mp (sprintf04_injective (heq.symm.trans heqa))
      rw [if_pos hmismo] at hr'
      rw [← Option.some.inj hr', ← hidx]
      rfl
    · split_ifs at hr' with hmismo
      · exact absurd (hunica i a ha0 hactivo (hmismo ▸ heq)) hidx
      · exact h.de_lista id' u i a hr' ha0 hactivo heq
  case de_db =>
    intro id' u hr' row hrow heq
    simp only [Sistema.enrolar, Function.update_apply] at hr'
    split_ifs at hr' with hmismo
    · rw [← Option.some.inj hr']
      exact hdb row hrow (hmismo ▸ heq)
    · refine h.de_db id' u hr' row ((hviejo row hrow).resolve_left fun hnuevo => hmismo ?_) heq
      exact UInt16.toNat_inj.mp (sprintf04_injective (texto_injective (heq.symm.trans hnuevo)))

end Enrolar

/-! ## A sync -/

section Sincronizar

variable {s : Sistema} {pins : List PinUsuario}

/-- An active record after a sync is that of an active row. -/
theorem Sistema.Completa.registro (h : s.Completa pins) {i : ℕ} {a : PinUsuario}
    (hi : (s.sincronizar pins).lista.pins[i]? = some a) (ha : a.activo = true) :
    ∃ row, s.db.active[i]? = some row ∧ a.huella.bytes = asciiBytes row.huella ∧
      (s.sincronizar pins).duenos i = .fila row.id := by
  obtain ⟨hpins, hcaben⟩ := h
  simp only [Sistema.sincronizar, actualizarBaseDeDatos, ListaPins.ofList,
    List.take_of_length_le hcaben] at hi
  have hilt : i < pins.length := by
    by_contra hge
    rw [List.getElem?_append_right (not_lt.mp hge)] at hi
    rw [List.eq_of_mem_replicate (List.mem_of_getElem? hi)] at ha
    cases ha
  rw [List.getElem?_append_left hilt, List.getElem?_eq_getElem hilt] at hi
  have hirow : i < s.db.active.length := hpins.length_eq ▸ hilt
  have hreg := hpins.get hirow hilt
  refine ⟨s.db.active[i], List.getElem?_eq_getElem hirow, ?_, ?_⟩
  · rw [← Option.some.inj hi]
    exact hreg.huella
  · simp only [Sistema.sincronizar, List.getElem?_eq_getElem hirow, Option.map_some,
      Option.getD_some]

/-- A position is that of one row. -/
theorem active_index {db : Db} {i j : ℕ} {a b : Row} (hi : db.active[i]? = some a)
    (hj : db.active[j]? = some b) (h : a.id = b.id) : i = j := by
  have hordered : db.active.Pairwise fun a b => a.id < b.id := db.ordered.filter _
  obtain ⟨hilt, rfl⟩ := List.getElem?_eq_some_iff.mp hi
  obtain ⟨hjlt, rfl⟩ := List.getElem?_eq_some_iff.mp hj
  rw [List.pairwise_iff_getElem] at hordered
  rcases Nat.lt_trichotomy i j with hlt | rfl | hgt
  · exact absurd h (Nat.ne_of_lt (hordered i j hilt hjlt hlt))
  · rfl
  · exact absurd h.symm (Nat.ne_of_lt (hordered j i hjlt hilt hgt))

theorem mem_of_active {db : Db} {i : ℕ} {row : Row} (h : db.active[i]? = some row) :
    row ∈ db.usuarios :=
  List.mem_of_mem_filter (List.mem_of_getElem? h)

theorem Concuerda.sincronizar (h : Concuerda s) (hcompleta : s.Completa pins) :
    Concuerda (s.sincronizar pins) := by
  -- a row has the text that its record has
  have htexto : ∀ row ∈ s.db.usuarios, TextoId (asciiBytes row.huella) ∧
      row.huella = texto (asciiBytes row.huella) := by
    intro row hrow
    obtain ⟨t, ht, heq⟩ := h.texto_db row hrow
    rw [heq, asciiBytes_texto]
    exact ⟨ht, rfl⟩
  constructor
  case texto_lista =>
    intro a ha
    obtain ⟨i, hi⟩ := List.mem_iff_getElem?.mp ha
    cases hactivo : a.activo with
    | true =>
      obtain ⟨row, hrow, heq, -⟩ := hcompleta.registro hi hactivo
      rw [heq]
      exact (htexto row (mem_of_active hrow)).1
    | false =>
      -- the rest of the table is empty
      rcases List.mem_append.mp ha with ha | ha
      · obtain ⟨k, hk⟩ := List.mem_iff_getElem?.mp (List.mem_of_mem_take ha)
        obtain ⟨hklt, rfl⟩ := List.getElem?_eq_some_iff.mp hk
        have hreg := hcompleta.1.get (hcompleta.1.length_eq ▸ hklt) hklt
        exact absurd (hactivo.symm.trans hreg.activo) Bool.false_ne_true
      · rw [List.eq_of_mem_replicate ha]
        exact .inl rfl
  case texto_db => exact h.texto_db
  case ranura_le => exact h.ranura_le
  case unica_lista =>
    rw [unicas_iff]
    intro i j a b hi hj ha hb hne heq
    obtain ⟨rowa, hrowa, heqa, -⟩ := hcompleta.registro hi ha
    obtain ⟨rowb, hrowb, heqb, -⟩ := hcompleta.registro hj hb
    have hmema := mem_of_active hrowa
    have hmemb := mem_of_active hrowb
    have hhuella : rowa.huella = rowb.huella := by
      rw [(htexto rowa hmema).2, (htexto rowb hmemb).2, ← heqa, ← heqb, heq]
    refine active_index hrowa hrowb (h.unica_db rowa hmema rowb hmemb (fun hnil => hne ?_) hhuella)
    rw [heqa, hnil]
    rfl
  case unica_db => exact h.unica_db
  case de_lista =>
    intro id u i a hr hi hactivo heq
    obtain ⟨row, hrow, heqa, hdueno⟩ := hcompleta.registro hi hactivo
    rw [hdueno]
    refine h.de_db id u hr row (mem_of_active hrow) ?_
    rw [(htexto row (mem_of_active hrow)).2, ← heqa, heq]
  case de_db => exact h.de_db

end Sincronizar

/-! ## Runs -/

/-- An id is only given where nobody else has it on the server, and an upload
only reaches the user's row. -/
def Ordenada (s : Sistema) (op : Operacion) : Prop := IdPropio s op ∧ PinPropio s op

theorem concuerda_paso {s : Sistema} (op : Operacion) (h : Concuerda s)
    (hposible : sistema.Enabled s op) (hok : Ordenada s op) : Concuerda (sistema.next s op) := by
  cases op with
  | enrolar pin sube =>
    obtain ⟨id, hid, -⟩ := hposible
    show Concuerda (s.enrolar pin ((s.ranura pin).getD 0) sube)
    rw [hid, Option.getD_some]
    exact h.enrolar hid hok.1 hok.2
  | borrarUna pin llega => exact h.mengua (mengua_borrarUna s pin _ llega)
  | borrarTodas llega => exact h.mengua (mengua_borrarTodas s llega)
  | agregar codigo tag rfid => exact h.mengua (mengua_db s (mengua_panelPost codigo tag rfid s.db))
  | eliminar userId => exact h.mengua (mengua_db s (mengua_deleteUser userId s.db))
  | sincronizar pins => exact h.sincronizar hposible

/-- Each step is a request or leaves the server alone. -/
theorem paso_db (s : Sistema) (op : Operacion) :
    (sistema.next s op).db = s.db ∨ ∃ req, (sistema.next s op).db = (handle req s.db).db := by
  cases op with
  | enrolar pin sube =>
    cases sube with
    | true => exact .inr ⟨.updateHuella _ _, rfl⟩
    | false => exact .inl rfl
  | borrarUna pin llega =>
    cases llega with
    | true => exact .inr ⟨.deleteHuella _, rfl⟩
    | false => exact .inl rfl
  | borrarTodas llega =>
    cases llega with
    | true => exact .inr ⟨.clearAllHuellas, rfl⟩
    | false => exact .inl rfl
  | agregar codigo tag rfid => exact .inr ⟨.panelPost _ _ _ _, rfl⟩
  | eliminar userId => exact .inr ⟨.deleteUser userId, rfl⟩
  | sincronizar pins => exact .inl rfl

/-- No active record of the lock is the user's. -/
def Ausente (s : Sistema) (id : ℕ) : Prop :=
  ∀ (i : ℕ) (a : PinUsuario), s.lista.pins[i]? = some a → a.activo = true → s.duenos i ≠ .fila id

theorem Sistema.Completa.ausente {s : Sistema} {pins : List PinUsuario} {id : ℕ}
    (h : s.Completa pins) (hid : Retirado s.db id) : Ausente (s.sincronizar pins) id := by
  intro i a hi hactivo heq
  obtain ⟨row, hrow, -, hdueno⟩ := h.registro hi hactivo
  rw [hdueno] at heq
  exact hid.2 row (mem_of_active hrow) (Usuario.fila.inj heq)

theorem ausente_paso {s : Sistema} {id : ℕ} (op : Operacion)
    (h : Retirado s.db id ∧ Ausente s id) (hposible : sistema.Enabled s op) :
    Retirado (sistema.next s op).db id ∧ Ausente (sistema.next s op) id := by
  obtain ⟨hretirado, hausente⟩ := h
  constructor
  · rcases paso_db s op with heq | ⟨req, heq⟩
    · rw [heq]
      exact hretirado
    · rw [heq]
      exact hretirado.handle req
  -- the records keep their users, except in a sync
  · have hmengua : ∀ {s' : Sistema}, Mengua s s' → Ausente s' id := by
      intro s' hm i a hi hactivo
      obtain ⟨a0, ha0, heq, -⟩ := hm.lista i a hi
      rw [hm.duenos]
      exact hausente i a0 ha0 (heq ▸ hactivo)
    cases op with
    | enrolar pin sube =>
      intro i a hi hactivo
      rcases getElem?_actualizar hi with ⟨-, a0, ha0, rfl⟩ | ⟨-, ha0⟩
      · exact hausente i a0 ha0 hactivo
      · exact hausente i a ha0 hactivo
    | borrarUna pin llega => exact hmengua (mengua_borrarUna s pin _ llega)
    | borrarTodas llega => exact hmengua (mengua_borrarTodas s llega)
    | agregar codigo tag rfid => exact hausente
    | eliminar userId => exact hausente
    | sincronizar pins => exact hposible.ausente hretirado

/-- In every orderly run an accepted finger is that of the user in whose name
the door opens, and once a user has been deleted and the lock has been
synchronised, the finger no longer opens. -/
theorem huella_identifica {s : Sistema} (h : sistema.Reach Ordenada .inicial s) :
    s.Identifica ∧ ∀ userId pins s', Retirado s.db userId → s.Completa pins →
      sistema.Reach Ordenada (s.sincronizar pins) s' →
      ∀ id, s'.ranuras id = some (.fila userId) → validarHuella s'.lista (idStr id) = false := by
  have hconcuerda := h.invariant (fun s op => concuerda_paso op) concuerda_inicial
  refine ⟨hconcuerda.identifica, fun userId pins s' hretirado hcompleta hreach id hranura => ?_⟩
  have hconcuerda' : Concuerda s' :=
    hreach.invariant (fun s op => concuerda_paso op) (hconcuerda.sincronizar hcompleta)
  let Fuera (s : Sistema) : Prop := Retirado s.db userId ∧ Ausente s userId
  have hausente : Fuera s' :=
    hreach.invariant (fun s op hinv hposible _ => ausente_paso op hinv hposible)
      ⟨hretirado, hcompleta.ausente hretirado⟩
  refine eq_false_of_ne_true fun hvalida => ?_
  obtain ⟨i, pin, hi, hdueno, hactivo, -⟩ := hconcuerda'.identifica id _ hranura hvalida
  exact hausente.2 i pin hi hactivo hdueno

/-! ## Examples and what can go wrong -/

/-- What the firmware stores from a whole body is a complete sync. -/
theorem completa_registroDe {s : Sistema} (h : TablaPlana s.db) :
    s.Completa (s.db.active.map registroDe) ∧
      (s.sincronizar (s.db.active.map registroDe)).lista = sync s.db := by
  refine ⟨⟨?_, ?_⟩, (sync_eq h).symm⟩
  · rw [List.forall₂_map_right_iff, List.forall₂_same]
    intro row hrow
    obtain ⟨hmem, hactivo⟩ := List.mem_filter.mp hrow
    obtain ⟨pin, -, hpin⟩ :=
      registro_objeto ((h.filas row hmem).bienFormado (of_decide_eq_true hactivo))
    rw [← hpin.eq_registroDe]
    exact hpin
  · rw [List.length_map]
    exact h.caben

namespace Sistema

def alDia (s : Sistema) : Sistema := s.sincronizar (s.db.active.map registroDe)

/-- Two users besides the administrator, and a sync. -/
def dosUsuarios : Sistema :=
  (sistema.runs .inicial [.agregar "22222".toList "ursula".toList [],
    .agregar "33333".toList "vera".toList []]).alDia

end Sistema

theorem reach_alDia {ok : Sistema → Operacion → Prop} {s0 s : Sistema} (h : sistema.Reach ok s0 s)
    (hplana : TablaPlana s.db) (hok : ∀ pins, ok s (.sincronizar pins)) :
    sistema.Reach ok s0 s.alDia := by
  have hposible : sistema.Enabled s (.sincronizar (s.db.active.map registroDe)) :=
    (completa_registroDe hplana).1
  exact .step _ h hposible (hok _)

theorem reach_dosUsuarios {ok : Sistema → Operacion → Prop}
    (hok : ∀ s op, (∀ pin sube, op ≠ .enrolar pin sube) → ok s op) :
    sistema.Reach ok .inicial .dosUsuarios := by
  refine reach_alDia (Machine.Allowed.reach ⟨⟨trivial, hok _ _ nofun⟩, ⟨trivial, hok _ _ nofun⟩,
    trivial⟩) (by decide +kernel) fun _ => hok _ _ nofun

theorem idPropio_sin (s : Sistema) (op : Operacion) (h : ∀ pin sube, op ≠ .enrolar pin sube) :
    IdPropio s op := by
  cases op with
  | enrolar pin sube => exact absurd rfl (h pin sube)
  | _ => trivial

theorem pinPropio_sin (s : Sistema) (op : Operacion) (h : ∀ pin sube, op ≠ .enrolar pin sube) :
    PinPropio s op := by
  cases op with
  | enrolar pin sube => exact absurd rfl (h pin sube)
  | _ => trivial

/-- The slot that is given, where it is known. -/
theorem idPropio_enrolar {s : Sistema} {pin : List UInt8} {sube : Bool} {id : UInt16}
    (hranura : s.ranura pin = some id) (h : ∀ row ∈ s.db.usuarios,
      row.huella = texto (sprintf04 id.toNat) → .fila row.id = s.quien pin) :
    IdPropio s (.enrolar pin sube) := by
  intro id' hid'
  obtain rfl := Option.some.inj (hranura.symm.trans hid')
  exact h

/-- A user who is enrolled, deleted on the server, and gone after the sync. -/
theorem huella_identifica_borrado :
    (sistema.runs .dosUsuarios [.enrolar (ascii "22222") true, .eliminar 2]).Identifica ∧
      validarHuella (sistema.runs .dosUsuarios
        [.enrolar (ascii "22222") true, .eliminar 2]).alDia.lista (idStr 1) = false := by
  have hranura : Sistema.dosUsuarios.ranura (ascii "22222") = some 1 := by decide +kernel
  have hreach : sistema.Reach Ordenada .inicial
      (sistema.runs .dosUsuarios [.enrolar (ascii "22222") true, .eliminar 2]) := by
    refine (reach_dosUsuarios fun s op hop => ⟨idPropio_sin s op hop, pinPropio_sin s op hop⟩).trans
      (Machine.Allowed.reach ⟨⟨⟨1, hranura, by decide⟩, idPropio_enrolar hranura ?_, fun _ => ?_⟩,
        ⟨trivial, trivial, trivial⟩, trivial⟩)
    · decide +kernel
    · decide +kernel
  obtain ⟨hidentifica, hborrado⟩ := huella_identifica hreach
  have hplana : TablaPlana
      (sistema.runs .dosUsuarios [.enrolar (ascii "22222") true, .eliminar 2]).db := by
    decide +kernel
  exact ⟨hidentifica, hborrado 2 _ _ (by decide +kernel) (completa_registroDe hplana).1 .refl 1
    (by decide +kernel)⟩

/-- The first user's id is given to the second one's finger, since the deletion
has not reached the server, and the next sync gives it back to the first. -/
def trasBorradoPerdido : Sistema :=
  (sistema.runs .dosUsuarios [.enrolar (ascii "22222") true, .borrarUna (ascii "22222") false,
    .enrolar (ascii "33333") true]).alDia

theorem reach_trasBorradoPerdido : sistema.Reach PinPropio .inicial trasBorradoPerdido := by
  refine reach_alDia ((reach_dosUsuarios pinPropio_sin).trans (Machine.Allowed.reach
    ⟨⟨?_, ?_⟩, ⟨?_, trivial⟩, ⟨?_, ?_⟩, trivial⟩)) (by decide +kernel) fun _ => trivial
  · exact ⟨1, by decide +kernel, by decide⟩
  · exact fun _ => by decide +kernel
  · exact show Option.isSome _ = true by decide +kernel
  · exact ⟨1, by decide +kernel, by decide⟩
  · exact fun _ => by decide +kernel

/-- The second user's finger opens in the name of the first. -/
theorem trasBorradoPerdido_ajena : ¬ trasBorradoPerdido.Identifica := by
  intro h
  obtain ⟨i, pin, hi, hdueno, -, hfind, -⟩ := h 1 (.fila 3) (by decide +kernel) (by decide +kernel)
  have hother : ∀ i < maxPins, trasBorradoPerdido.duenos i = .fila 3 →
      trasBorradoPerdido.lista.pins.find? (conHuella (idStr 1)) ≠
        trasBorradoPerdido.lista.pins[i]? := by decide +kernel
  have hlt : i < maxPins := by
    rw [← trasBorradoPerdido.lista.size]
    exact (List.getElem?_eq_some_iff.mp hi).1
  exact hother i hlt hdueno (hfind.trans hi.symm)

/-- The law fails without the condition on the ids. -/
theorem huella_ajena : ¬ ∀ s, sistema.Reach Machine.Any .inicial s → s.Identifica :=
  fun h => trasBorradoPerdido_ajena (h _ (reach_trasBorradoPerdido.mono fun _ _ _ => trivial))

/-- The PIN of a deleted user is given to another one before the lock has been
synchronised, and the upload of the first one's finger goes to the second. -/
def trasPinHeredado : Sistema :=
  (sistema.runs .dosUsuarios [.eliminar 2, .agregar "22222".toList "uriel".toList [],
    .enrolar (ascii "22222") true]).alDia

/-- Nor is the condition on the ids enough: the finger of a user that was deleted
before the sync opens after it. -/
theorem huella_heredada : ¬ ∀ s, sistema.Reach IdPropio .inicial s → s.Identifica := by
  intro h
  have hranura : (sistema.runs .dosUsuarios [.eliminar 2,
      .agregar "22222".toList "uriel".toList []]).ranura (ascii "22222") = some 1 := by
    decide +kernel
  have hreach : sistema.Reach IdPropio .inicial trasPinHeredado := by
    refine reach_alDia ((reach_dosUsuarios idPropio_sin).trans (Machine.Allowed.reach
      ⟨⟨trivial, trivial⟩, ⟨trivial, trivial⟩, ⟨⟨1, hranura, by decide⟩,
        idPropio_enrolar hranura ?_⟩, trivial⟩)) (by decide +kernel) fun _ => trivial
    decide +kernel
  obtain ⟨i, pin, hi, hdueno, -⟩ :=
    h _ hreach 1 (.fila 2) (by decide +kernel) (by decide +kernel)
  have hnobody : ∀ i < maxPins, trasPinHeredado.duenos i ≠ .fila 2 := by decide +kernel
  have hlt : i < maxPins := by
    rw [← trasPinHeredado.lista.size]
    exact (List.getElem?_eq_some_iff.mp hi).1
  exact hnobody i hlt hdueno

end Cerradura
