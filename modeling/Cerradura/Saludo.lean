import Cerradura.IdLibre

/-!
# The greeting

A credential is checked by one loop over the table and greeted with the tag that
another loop finds. The texts are then formatted into buffers whose sizes are
chosen apart from those of the fields.

Results:
1. `coinciden_iff`: check and lookup agree in exactly the tables in which nobody
   who has a card is without a tag. `tarjeta_sin_tag` is one in which they do not.
2. `caben_iff`: everything that is formatted from the table fits its buffer
   exactly if the tags of those who are greeted have at most 17 characters.
   `saludo_desborda` is a longer one.
-/

namespace Cerradura

open ListaPins

/-! ## Check and lookup -/

/-- A credential is accepted exactly if it has a tag, which is that of the first
record that `q` holds of. -/
structure Coincide (lista : ListaPins) (q : PinUsuario → Bool) (valida : Bool)
    (tag : Option (List UInt8)) : Prop where
  acepta : valida = true ↔ tag ≠ none
  primero : ∀ t, tag = some t → ∃ u, lista.pins.find? q = some u ∧ t = tagOr u

/-- For the three credentials. -/
structure Coinciden (lista : ListaPins) : Prop where
  pin : ∀ pin, Coincide lista (conPin pin) (validarPin lista pin) (obtenerTagPorPin lista pin)
  rfid : ∀ rfid, Coincide lista (conRFID rfid) (validarRFID lista rfid)
    (obtenerTagPorRFID lista rfid)
  huella : ∀ huellaId, Coincide lista (conHuella huellaId) (validarHuella lista huellaId)
    (obtenerTagPorHuella lista huellaId)

/-- The lookups of a PIN and of a fingerprint. -/
theorem coincide_tagOr (lista : ListaPins) (q : PinUsuario → Bool) :
    Coincide lista q (lista.pins.any q) ((lista.pins.find? q).map tagOr) where
  acepta := by
    rw [any_iff_find?, ← Option.isSome_iff_ne_none, Option.isSome_map, Option.isSome_iff_exists]
  primero := by
    intro t ht
    obtain ⟨u, hu, rfl⟩ := Option.map_eq_some_iff.mp ht
    exact ⟨u, hu, rfl⟩

theorem tagOr_of_ne_nil {u : PinUsuario} (h : u.tag.bytes ≠ []) : tagOr u = u.tag.bytes :=
  if_pos (List.length_pos_iff.mpr h)

theorem obtenerTagPorRFID_eq_some_iff {lista : ListaPins} {rfid t : List UInt8} :
    obtenerTagPorRFID lista rfid = some t ↔
      ∃ u, lista.pins.find? (conRFID rfid) = some u ∧ u.tag.bytes ≠ [] ∧ u.tag.bytes = t := by
  unfold obtenerTagPorRFID
  rw [Option.bind_eq_some_iff]
  refine exists_congr fun u => and_congr_right fun _ => ?_
  split_ifs with hlen
  · rw [Option.some.injEq]
    exact (and_iff_right (List.length_pos_iff.mp hlen)).symm
  · exact iff_of_false nofun fun h => hlen (List.length_pos_iff.mpr h.1)

/-- The lookup of a card has no answer for a record without a tag. -/
theorem coincide_rfid_iff {lista : ListaPins} {rfid : List UInt8} :
    Coincide lista (conRFID rfid) (validarRFID lista rfid) (obtenerTagPorRFID lista rfid) ↔
      ∀ u, lista.pins.find? (conRFID rfid) = some u → u.tag.bytes ≠ [] := by
  constructor
  · intro h u hfind
    have hvalida : validarRFID lista rfid = true := any_iff_find?.mpr ⟨u, hfind⟩
    obtain ⟨t, ht⟩ := Option.ne_none_iff_exists'.mp (h.acepta.mp hvalida)
    obtain ⟨u', hfind', hne, -⟩ := obtenerTagPorRFID_eq_some_iff.mp ht
    rw [hfind] at hfind'
    exact Option.some.inj hfind' ▸ hne
  · intro h
    refine ⟨⟨fun hvalida => ?_, fun hne => ?_⟩, fun t ht => ?_⟩
    · obtain ⟨u, hfind⟩ := any_iff_find?.mp hvalida
      rw [obtenerTagPorRFID_eq_some_iff.mpr ⟨u, hfind, h u hfind, rfl⟩]
      exact Option.some_ne_none _
    · obtain ⟨t, ht⟩ := Option.ne_none_iff_exists'.mp hne
      obtain ⟨u, hfind, -⟩ := obtenerTagPorRFID_eq_some_iff.mp ht
      exact any_iff_find?.mpr ⟨u, hfind⟩
    · obtain ⟨u, hfind, hne, rfl⟩ := obtenerTagPorRFID_eq_some_iff.mp ht
      exact ⟨u, hfind, (tagOr_of_ne_nil hne).symm⟩

/-- The two loops agree for every credential in exactly the tables in which the
first active user of each card has a tag. -/
theorem coinciden_iff (lista : ListaPins) : Coinciden lista ↔
    ∀ u, lista.pins.find? (conRFID u.rfid.bytes) = some u → u.tag.bytes ≠ [] := by
  constructor
  · intro h u hfind
    exact coincide_rfid_iff.mp (h.rfid u.rfid.bytes) u hfind
  · intro h
    refine ⟨fun pin => coincide_tagOr lista _, fun rfid => coincide_rfid_iff.mpr fun u hfind => ?_,
      fun huellaId => coincide_tagOr lista _⟩
    obtain rfl : u.rfid.bytes = rfid := (conRFID_iff.mp (List.find?_some hfind)).2.2
    exact h u hfind

/-- A tag that begins with a closing brace ends the object before the tag: the
card is accepted by the one loop and unknown to the other. -/
theorem tarjeta_sin_tag : ¬ ∀ reqs, Coinciden (sync (serve initDb reqs)) := by
  intro h
  have hrfid := (h [.panelPost (some "22222".toList) (some [Char.ofNat 0x7D])
    (some "9A3B11C2".toList) (some [])]).rfid (ascii "9A3B11C2")
  have hnone := hrfid.acepta.mp (by decide +kernel)
  revert hnone
  decide +kernel

/-! ## What is formatted -/

/-- `sprintf` or `strcpy`: the text, and the size of the buffer it goes to. -/
structure Escritura where
  texto : List UInt8
  destino : ℕ
deriving DecidableEq

/-- With the terminator. -/
def Escritura.Cabe (e : Escritura) : Prop := e.texto.length + 1 ≤ e.destino

instance (e : Escritura) : Decidable e.Cabe := inferInstanceAs (Decidable (_ ≤ _))

/-- `%d` of a negative number too. -/
def decimalInt (z : ℤ) : List UInt8 :=
  if z < 0 then 0x2D :: decimal z.natAbs else decimal z.natAbs

/-- `char buffer[30]; sprintf(buffer, "BIENVENIDO, %s", tag);` -/
def bienvenido (tag : List UInt8) : Escritura := ⟨ascii "BIENVENIDO, " ++ tag, 30⟩

/-- `obtenerHuellaAsignadaPorPin`, with `tempId[10]` and the `char [5]` of its
callers. -/
def escribeHuellaAsignada (lista : ListaPins) (pin : List UInt8) : List Escritura :=
  match lista.pins.find? (conPin pin) with
  | none => []
  | some u =>
    if 0 < u.huella.bytes.length then [⟨u.huella.bytes, 5⟩]
    else
      let idLibre := (buscarIdLibre lista (maxPins + 1) 1).getD 0
      (List.range' 1 idLibre).map (fun i => ⟨sprintf04 i, 10⟩) ++ [⟨sprintf04 idLibre, 5⟩]

/-- `espRawHTTPGet` -/
def escribeRawHTTPGet (path : List UInt8) : List Escritura :=
  let request := ascii "GET " ++ path ++ ascii " HTTP/1.1\r\nHost: " ++ serverIp ++ ascii ":" ++
    serverPort ++ ascii "\r\nConnection: close\r\n\r\n"
  [⟨ascii "AT+CIPSTART=\"TCP\",\"" ++ serverIp ++ ascii "\"," ++ serverPort, 256⟩, ⟨request, 300⟩,
    ⟨ascii "AT+CIPSEND=" ++ decimal request.length, 256⟩]

/-- An upload: the path, and the request if the module needs the fallback. -/
def escribeSubida (path : List UInt8) : List Escritura := ⟨path, 200⟩ :: escribeRawHTTPGet path

def escribeNuevaHuella (pin idHuella : List UInt8) : List Escritura :=
  escribeSubida (ascii "/update-huella?pin=" ++ pin ++ ascii "&huella=" ++ idHuella)

def escribeNuevoRFID (pin rfidHex : List UInt8) : List Escritura :=
  escribeSubida (ascii "/update-rfid?pin=" ++ pin ++ ascii "&rfid=" ++ rfidHex)

/-- `espBorrarHuellaServidor` -/
def escribeBorrarHuella (pin : List UInt8) : List Escritura :=
  [⟨ascii "http://" ++ serverIp ++ ascii ":" ++ serverPort ++ ascii "/delete-huella?pin=" ++ pin,
    256⟩]

/-- A PIN that the keypad gives. -/
structure PinTecleado where
  bytes : List UInt8
  cinco : bytes.length = pinLength
  cifras : ∀ b ∈ bytes, isDecimalDigit b = true

/-- The states of `mefUpdate` that use a record, with what they have read. -/
inductive Camino
  | leerYValidarHuella (id : UInt16) -- the match of the sensor
  | validarRfid (uid : Vector UInt8 4)
  | validar (pin : PinTecleado)
  | borrarUna (pin : Option PinTecleado) -- none if the time was up
  | registrarRfid (pin : PinTecleado) (uid : Vector UInt8 4)
  | registrarHuella (pin : PinTecleado)

def escribeBorrarUna (lista : ListaPins) (pinTarget : List UInt8) : List Escritura :=
  match obtenerHuellaAsignadaPorPin lista pinTarget with
  | none => []
  | some idStr => escribeHuellaAsignada lista pinTarget ++
      ⟨ascii "ID = , " ++ decimal (idSensor idStr).toNat, 30⟩ :: escribeBorrarHuella pinTarget

/-- The `strcpy` of `asociarRFIDaPin`, and the upload. -/
def escribeRegistrarRfid (pin rfid : List UInt8) : List Escritura :=
  ⟨rfid, 20⟩ :: escribeNuevoRFID pin rfid

/-- The slot is a `short int`. -/
def escribeRegistrarHuella (lista : ListaPins) (pin : List UInt8) : List Escritura :=
  match obtenerHuellaAsignadaPorPin lista pin with
  | none => []
  | some idHuellaStr =>
    let idObjetivo := idSensor idHuellaStr
    escribeHuellaAsignada lista pin ++
      ⟨ascii "ID ASIGNADO: " ++ decimalInt idObjetivo.toInt16.toInt, 20⟩ ::
        escribeNuevaHuella pin (CStr.copy 4 (sprintf04 idObjetivo.toNat)).bytes

def escrituras (lista : ListaPins) : Camino → List Escritura
  | .leerYValidarHuella id =>
    if validarHuella lista (idStr id) then
      (obtenerTagPorHuella lista (idStr id)).toList.map bienvenido
    else []
  | .validarRfid uid => (obtenerTagPorRFID lista (uidStr uid)).toList.map bienvenido
  | .validar pin =>
    if validarPin lista pin.bytes then (obtenerTagPorPin lista pin.bytes).toList.map bienvenido
    else []
  | .borrarUna pin =>
    let pinTarget := (pin.map PinTecleado.bytes).getD []
    if validarPin lista pinTarget then escribeBorrarUna lista pinTarget else []
  | .registrarRfid pin uid =>
    if validarPin lista pin.bytes then escribeRegistrarRfid pin.bytes (uidStr uid) else []
  | .registrarHuella pin =>
    if validarPin lista pin.bytes then escribeRegistrarHuella lista pin.bytes else []

/-! ## Everything but the greetings fits -/

theorem length_decimal {n k : ℕ} (hk : 0 < k) (h : n < 10 ^ k) : (decimal n).length ≤ k :=
  decimalAux_length hk h

theorem length_decimalInt {z : ℤ} {k : ℕ} (hk : 0 < k) (h : z.natAbs < 10 ^ k) :
    (decimalInt z).length ≤ k + 1 := by
  have hlen := length_decimal hk h
  unfold decimalInt
  split_ifs
  · exact Nat.succ_le_succ hlen
  · exact Nat.le_succ_of_le hlen

theorem cabe_escribeHuellaAsignada {lista : ListaPins} {pin : List UInt8} :
    ∀ e ∈ escribeHuellaAsignada lista pin, e.Cabe := by
  intro e he
  unfold escribeHuellaAsignada at he
  split at he
  · exact absurd he List.not_mem_nil
  next u hfind =>
  split_ifs at he with hlen
  · rw [List.mem_singleton.mp he]
    exact u.huella.fits
  -- the numbers tried are those of the search, at most as many as there are records
  · have hvacia : u.huella.bytes = [] := List.length_eq_zero_iff.mp (Nat.eq_zero_of_not_pos hlen)
    obtain ⟨k, hmax, hk⟩ := exists_menorLibre (List.mem_of_find?_eq_some hfind) hvacia
    have hcota : k ≤ 99 := hmax
    rw [buscarIdLibre_iff.mpr ⟨hk, by omega⟩, Option.getD_some] at he
    have hcuatro : ∀ i ≤ k, (sprintf04 i).length = 4 := fun i hi => sprintf04_length (by omega)
    rcases List.mem_append.mp he with he | he
    · obtain ⟨i, hi, rfl⟩ := List.mem_map.mp he
      have hik : i ≤ k := by
        have := List.mem_range'_1.mp hi
        omega
      show (sprintf04 i).length + 1 ≤ 10
      rw [hcuatro i hik]
      decide
    · rw [List.mem_singleton.mp he]
      show (sprintf04 k).length + 1 ≤ 5
      rw [hcuatro k le_rfl]

/-- The request is the path and 60 characters more. -/
theorem cabe_escribeSubida {path : List UInt8} (h : path.length ≤ 199) :
    ∀ e ∈ escribeSubida path, e.Cabe := by
  intro e he
  simp only [escribeSubida, escribeRawHTTPGet, List.mem_cons, List.not_mem_nil, or_false] at he
  have hrequest : (ascii "GET " ++ path ++ ascii " HTTP/1.1\r\nHost: " ++ serverIp ++ ascii ":" ++
      serverPort ++ ascii "\r\nConnection: close\r\n\r\n").length = path.length + 60 := by
    simp only [List.length_append]
    rw [show (ascii "GET ").length = 4 from rfl,
      show (ascii " HTTP/1.1\r\nHost: ").length = 17 from rfl, show serverIp.length = 11 from rfl,
      show (ascii ":").length = 1 from rfl, show serverPort.length = 4 from rfl,
      show (ascii "\r\nConnection: close\r\n\r\n").length = 23 from rfl]
    omega
  rcases he with rfl | rfl | rfl | rfl
  · exact Nat.succ_le_succ h
  · decide
  · show _ + 1 ≤ 300
    rw [hrequest]
    omega
  · have hlen : (decimal (path.length + 60)).length ≤ 3 := length_decimal (by decide) (by omega)
    show (ascii "AT+CIPSEND=" ++ decimal _).length + 1 ≤ 256
    rw [hrequest, List.length_append, show (ascii "AT+CIPSEND=").length = 11 from rfl]
    omega

theorem cabe_escribeBorrarUna {lista : ListaPins} {pinTarget : List UInt8}
    (hpin : pinTarget.length ≤ 5) : ∀ e ∈ escribeBorrarUna lista pinTarget, e.Cabe := by
  intro e he
  unfold escribeBorrarUna at he
  split at he
  · exact absurd he List.not_mem_nil
  next idStr _ =>
  rcases List.mem_append.mp he with he | he
  · exact cabe_escribeHuellaAsignada e he
  simp only [escribeBorrarHuella, List.mem_cons, List.not_mem_nil, or_false] at he
  rcases he with rfl | rfl
  · have hlen : (decimal (idSensor idStr).toNat).length ≤ 5 :=
      length_decimal (by decide) ((idSensor idStr).toNat_lt.trans (by decide))
    show (ascii "ID = , " ++ decimal _).length + 1 ≤ 30
    rw [List.length_append, show (ascii "ID = , ").length = 7 from rfl]
    omega
  · show List.length _ + 1 ≤ 256
    rw [List.length_append, show (ascii "http://" ++ serverIp ++ ascii ":" ++ serverPort ++
      ascii "/delete-huella?pin=").length = 42 from rfl]
    omega

theorem cabe_escribeRegistrarRfid {pin rfid : List UInt8} (hpin : pin.length ≤ 5)
    (hrfid : rfid.length ≤ 9) : ∀ e ∈ escribeRegistrarRfid pin rfid, e.Cabe := by
  intro e he
  rcases List.mem_cons.mp he with rfl | he
  · exact Nat.succ_le_succ (hrfid.trans (by decide))
  · refine cabe_escribeSubida ?_ e he
    simp only [List.length_append]
    rw [show (ascii "/update-rfid?pin=").length = 17 from rfl,
      show (ascii "&rfid=").length = 6 from rfl]
    omega

theorem cabe_escribeRegistrarHuella {lista : ListaPins} {pin : List UInt8} (hpin : pin.length ≤ 5) :
    ∀ e ∈ escribeRegistrarHuella lista pin, e.Cabe := by
  intro e he
  unfold escribeRegistrarHuella at he
  split at he
  · exact absurd he List.not_mem_nil
  next idHuellaStr _ =>
  rcases List.mem_append.mp he with he | he
  · exact cabe_escribeHuellaAsignada e he
  rcases List.mem_cons.mp he with rfl | he
  -- `%d` of a `short int` is at most `-32768`, which fills the buffer
  · have hlen : (decimalInt (idSensor idHuellaStr).toInt16.toInt).length ≤ 6 := by
      refine length_decimalInt (by decide) ?_
      have hlo := (idSensor idHuellaStr).toInt16.le_toInt
      have hhi := (idSensor idHuellaStr).toInt16.toInt_lt
      omega
    show (ascii "ID ASIGNADO: " ++ decimalInt _).length + 1 ≤ 20
    rw [List.length_append, show (ascii "ID ASIGNADO: ").length = 13 from rfl]
    omega
  · refine cabe_escribeSubida ?_ e he
    have hid := (CStr.copy 4 (sprintf04 (idSensor idHuellaStr).toNat)).fits
    simp only [List.length_append]
    rw [show (ascii "/update-huella?pin=").length = 19 from rfl,
      show (ascii "&huella=").length = 8 from rfl]
    omega

/-! ## The greetings -/

/-- The first active record of a credential that is accepted. -/
inductive Saludado (lista : ListaPins) (u : PinUsuario) : Prop
  | huella (id : UInt16) : lista.pins.find? (conHuella (idStr id)) = some u → Saludado lista u
  | rfid (uid : Vector UInt8 4) : lista.pins.find? (conRFID (uidStr uid)) = some u →
      Saludado lista u
  | pin (pin : PinTecleado) : lista.pins.find? (conPin pin.bytes) = some u → Saludado lista u

theorem bienvenido_cabe_iff {tag : List UInt8} : (bienvenido tag).Cabe ↔ tag.length ≤ 17 := by
  show (ascii "BIENVENIDO, " ++ tag).length + 1 ≤ 30 ↔ _
  rw [List.length_append, show (ascii "BIENVENIDO, ").length = 12 from rfl]
  omega

theorem tagOr_length_le {u : PinUsuario} (h : u.tag.bytes.length ≤ 17) :
    (tagOr u).length ≤ 17 := by
  unfold tagOr
  split_ifs
  · exact h
  · decide

/-- A greeting is that of a record. -/
theorem saludo_cabe {tag : Option (List UInt8)} (h : ∀ t, tag = some t → t.length ≤ 17) :
    ∀ e ∈ tag.toList.map bienvenido, e.Cabe := by
  intro e he
  obtain ⟨t, ht, rfl⟩ := List.mem_map.mp he
  exact bienvenido_cabe_iff.mpr (h t (Option.mem_toList.mp ht))

theorem tag_length_le {lista : ListaPins} {q : PinUsuario → Bool} {t : List UInt8}
    (h : ∀ u, lista.pins.find? q = some u → u.tag.bytes.length ≤ 17)
    (ht : (lista.pins.find? q).map tagOr = some t) : t.length ≤ 17 := by
  obtain ⟨u, hu, rfl⟩ := Option.map_eq_some_iff.mp ht
  exact tagOr_length_le (h u hu)

/-- The greeting of a record with a tag. -/
theorem tag_length_of_saludo {tag : Option (List UInt8)} {u : PinUsuario}
    (htag : u.tag.bytes ≠ [] → tag = some u.tag.bytes)
    (h : ∀ e ∈ tag.toList.map bienvenido, e.Cabe) : u.tag.bytes.length ≤ 17 := by
  by_cases hne : u.tag.bytes = []
  · rw [hne]
    decide
  · refine bienvenido_cabe_iff.mp (h _ (List.mem_map_of_mem ?_))
    rw [htag hne]
    exact List.mem_singleton_self _

theorem cabe_si {b : Bool} {escritas : List Escritura} :
    (∀ e ∈ if b then escritas else [], e.Cabe) ↔ (b = true → ∀ e ∈ escritas, e.Cabe) := by
  cases b with
  | true => exact ⟨fun h _ => h, fun h => h rfl⟩
  | false => exact iff_of_true (fun e he => absurd he List.not_mem_nil) fun h => nomatch h

/-- Everything that is formatted fits its buffer exactly if those who are
greeted have tags of at most 17 characters. The field takes 19. -/
theorem caben_iff (lista : ListaPins) :
    (∀ camino, ∀ e ∈ escrituras lista camino, e.Cabe) ↔
      ∀ u, Saludado lista u → u.tag.bytes.length ≤ 17 := by
  constructor
  · intro h u hu
    cases hu with
    | huella id hfind =>
      have he := cabe_si.mp (h (.leerYValidarHuella id)) (any_iff_find?.mpr ⟨u, hfind⟩)
      refine tag_length_of_saludo (fun hne => ?_) he
      rw [obtenerTagPorHuella, hfind, Option.map_some, tagOr_of_ne_nil hne]
    | rfid uid hfind =>
      exact tag_length_of_saludo
        (fun hne => obtenerTagPorRFID_eq_some_iff.mpr ⟨u, hfind, hne, rfl⟩) (h (.validarRfid uid))
    | pin pin hfind =>
      have he := cabe_si.mp (h (.validar pin)) (any_iff_find?.mpr ⟨u, hfind⟩)
      refine tag_length_of_saludo (fun hne => ?_) he
      rw [obtenerTagPorPin, hfind, Option.map_some, tagOr_of_ne_nil hne]
  · intro h camino
    have hpin : ∀ pin : PinTecleado, pin.bytes.length ≤ 5 := fun pin => pin.cinco.le
    cases camino with
    | leerYValidarHuella id =>
      exact cabe_si.mpr fun _ => saludo_cabe fun t ht =>
        tag_length_le (fun u hu => h u (.huella id hu)) ht
    | validarRfid uid =>
      refine saludo_cabe fun t ht => ?_
      obtain ⟨u, hu, -, rfl⟩ := obtenerTagPorRFID_eq_some_iff.mp ht
      exact h u (.rfid uid hu)
    | validar pin =>
      exact cabe_si.mpr fun _ => saludo_cabe fun t ht =>
        tag_length_le (fun u hu => h u (.pin pin hu)) ht
    | borrarUna pin =>
      have hlen : ((pin.map PinTecleado.bytes).getD []).length ≤ 5 := by
        cases pin with
        | none => exact Nat.zero_le 5
        | some pin => exact hpin pin
      exact cabe_si.mpr fun _ => cabe_escribeBorrarUna hlen
    | registrarRfid pin uid =>
      exact cabe_si.mpr fun _ =>
        cabe_escribeRegistrarRfid (hpin pin) ((uidStr_hex uid).1.le.trans (by decide))
    | registrarHuella pin => exact cabe_si.mpr fun _ => cabe_escribeRegistrarHuella (hpin pin)

/-- A tag of eighteen characters. -/
theorem saludo_desborda : ¬ ∀ reqs camino,
    ∀ e ∈ escrituras (sync (serve initDb reqs)) camino, e.Cabe := by
  intro h
  let pin : PinTecleado := ⟨ascii "22222", rfl, by decide⟩
  have hcabe := h [.panelPost (some "22222".toList) (some "maria de los milag".toList) (some [])
    (some [])] (.validar pin) (bienvenido (ascii "maria de los milag")) (by decide +kernel)
  revert hcabe
  decide +kernel

end Cerradura
