import Cerradura.Sync
import Cerradura.Teclado

/-!
# Local changes and the server

A change of a credential is made twice: in the table of the lock and, by a
request, in the table of the server. `sync` is the table of the lock after a
complete transfer of the body of `/syncPins/`.

Results:
1. `sync_eq`: the records are those of the active users, in order.
2. `sincronizarConServidor_eq_sync`: what the firmware stores when the body fits
   the receive buffer.
3. `sync_commutes`: each change and its request commute with `sync`.
-/

namespace Cerradura

open Reactive CText ListaPins

/-- The table of the lock after the whole body has come. -/
def sync (db : Db) : ListaPins := actualizarBaseDeDatos (extraerPins (syncBody db) maxPins)

/-- A text of the lock as the server reads it. -/
def texto (s : List UInt8) : Texto := s.map fun b => Char.ofNat b.toNat

theorem texto_toNat (b : UInt8) : (Char.ofNat b.toNat).toNat = b.toNat := by
  have hlt := b.toNat_lt
  have hvalid : b.toNat.isValidChar := .inl (by omega)
  rw [Char.ofNat, dif_pos hvalid]
  rfl

theorem asciiBytes_texto (s : List UInt8) : asciiBytes (texto s) = s := by
  unfold asciiBytes texto
  rw [List.map_map]
  refine (List.map_congr_left fun b _ => ?_).trans (List.map_id s)
  simp only [Function.comp_apply, texto_toNat, UInt8.ofNat_toNat, id]

theorem texto_asciiBytes {t : Texto} (h : ∀ c ∈ t, c.toNat < 256) : texto (asciiBytes t) = t := by
  unfold asciiBytes texto
  rw [List.map_map]
  refine (List.map_congr_left fun c hc => ?_).trans (List.map_id t)
  simp only [Function.comp_apply, UInt8.toNat_ofNat_of_lt' (h c hc), Char.ofNat_toNat, id]

theorem mem_texto {s : List UInt8} {c : Char} (h : c ∈ texto s) : ∃ b ∈ s, c.toNat = b.toNat := by
  obtain ⟨b, hb, rfl⟩ := List.mem_map.mp h
  exact ⟨b, hb, texto_toNat b⟩

/-! ## The records of a table -/

/-- A row whose fields fit the record. Unlike that of a `BienFormado` user, the
tag may be empty. -/
structure Fila (row : Row) : Prop where
  codigo : CincoDigitos row.codigo
  rfid : row.rfid.length ≤ 19 ∧
    ∀ c ∈ row.rfid, (0x30 ≤ c.toNat ∧ c.toNat ≤ 0x39) ∨ (0x41 ≤ c.toNat ∧ c.toNat ≤ 0x46)
  huella : row.huella.length ≤ 4 ∧ ∀ c ∈ row.huella, 0x30 ≤ c.toNat ∧ c.toNat ≤ 0x39
  tag : row.tag.length ≤ 19 ∧ ∀ c ∈ row.tag, Plano c ∧ c.toNat ≠ 0x7B ∧ c.toNat ≠ 0x7D

instance (row : Row) : Decidable (Fila row) :=
  decidable_of_iff (CincoDigitos row.codigo ∧
      (row.rfid.length ≤ 19 ∧ ∀ c ∈ row.rfid,
        (0x30 ≤ c.toNat ∧ c.toNat ≤ 0x39) ∨ (0x41 ≤ c.toNat ∧ c.toNat ≤ 0x46)) ∧
      (row.huella.length ≤ 4 ∧ ∀ c ∈ row.huella, 0x30 ≤ c.toNat ∧ c.toNat ≤ 0x39) ∧
      row.tag.length ≤ 19 ∧ ∀ c ∈ row.tag, Plano c ∧ c.toNat ≠ 0x7B ∧ c.toNat ≠ 0x7D)
    ⟨fun ⟨hcodigo, hrfid, hhuella, htag⟩ => ⟨hcodigo, hrfid, hhuella, htag⟩,
      fun h => ⟨h.codigo, h.rfid, h.huella, h.tag⟩⟩

/-- The row with the tag that is sent. -/
def conTag (row : Row) : Row := { row with tag := tagDe row }

theorem tagDe_conTag (row : Row) : tagDe (conTag row) = tagDe row := by
  have hne : tagDe row ≠ [] := by
    unfold tagDe
    split_ifs with hnil
    · decide
    · exact hnil
  exact if_neg hne

theorem objeto_conTag (row : Row) : objeto (conTag row) = objeto row := by
  unfold objeto
  rw [tagDe_conTag]
  rfl

theorem jsonPins_conTag (rows : List Row) : jsonPins (rows.map conTag) = jsonPins rows := by
  have hmap : (rows.map conTag).map objeto = rows.map objeto := by
    rw [List.map_map]
    exact List.map_congr_left fun row _ => objeto_conTag row
  unfold jsonPins objetos
  rw [hmap]

theorem Fila.bienFormado {row : Row} (h : Fila row) (hactivo : row.activo = 1) :
    BienFormado (conTag row) where
  activo := hactivo
  codigo := h.codigo
  rfid := h.rfid
  huella := h.huella
  tag := by
    show 1 ≤ (tagDe row).length ∧ (tagDe row).length ≤ 19 ∧ ∀ c ∈ tagDe row, _
    unfold tagDe
    split_ifs with hnil
    · decide
    · exact ⟨List.length_pos_iff.mpr hnil, h.tag⟩

/-- The record of a row. -/
def registroDe (row : Row) : PinUsuario where
  codigo := .copy 5 (asciiBytes row.codigo)
  activo := true
  rfid := .copy 19 (asciiBytes row.rfid)
  huella := .copy 4 (asciiBytes row.huella)
  tag := .copy 19 (asciiBytes (tagDe row))

theorem CStr.eq_copy {n : ℕ} {c : CStr (n + 1)} {s : List UInt8} (h : c.bytes = s) :
    c = .copy n s := by
  obtain ⟨bytes, noNul, fits⟩ := c
  subst h
  simp only [CStr.mk.injEq, CStr.copy]
  rw [cString_of_notMem noNul, List.take_of_length_le (Nat.le_of_lt_succ fits)]

theorem Registra.eq_registroDe {row : Row} {pin : PinUsuario} (h : Registra (conTag row) pin) :
    pin = registroDe row := by
  obtain ⟨codigo, activo, rfid, huella, tag⟩ := pin
  simp only [registroDe, PinUsuario.mk.injEq]
  exact ⟨CStr.eq_copy h.codigo, h.activo, CStr.eq_copy h.rfid, CStr.eq_copy h.huella,
    CStr.eq_copy h.tag⟩

/-- A server table whose active users fit the table of the lock. -/
structure TablaPlana (db : Db) : Prop where
  unicos : PinsUnique db
  alguno : 1 ≤ db.active.length
  caben : db.active.length ≤ maxPins
  filas : ∀ row ∈ db.usuarios, Fila row

instance (db : Db) : Decidable (TablaPlana db) :=
  decidable_of_iff (PinsUnique db ∧ 1 ≤ db.active.length ∧ db.active.length ≤ maxPins ∧
      ∀ row ∈ db.usuarios, Fila row)
    ⟨fun ⟨hunicos, halguno, hcaben, hfilas⟩ => ⟨hunicos, halguno, hcaben, hfilas⟩,
      fun h => ⟨h.unicos, h.alguno, h.caben, h.filas⟩⟩

/-- The array in a body that came whole, whatever stands around it. -/
theorem extraerPins_entero {rows : List Row} (hrows : ∀ row ∈ rows, BienFormado row)
    {pre post : List UInt8} (hpre : Marco pre) (hpost : Marco post) {n : ℕ}
    (hn : (pre ++ jsonPins rows).length ≤ n) (maxPins : ℕ) :
    ∃ pins, extraerPins ((pre ++ (jsonPins rows ++ post)).take n) maxPins = pins.take maxPins ∧
      List.Forall₂ Registra rows pins := by
  have hresto : llaveIzq ∉ cierre ++ post := by
    rw [List.mem_append, not_or]
    exact ⟨by decide, hpost.sinIzq⟩
  have hregistros := registros_completos hrows hresto (n - (pre.length + apertura.length))
  have htodos : completos rows (n - (pre.length + apertura.length)) = rows := by
    refine completos_eq ?_
    simp only [jsonPins, List.length_append] at hn
    omega
  rw [htodos] at hregistros
  exact ⟨_, extraerPins_jsonPins hpre hpost.noNul, hregistros⟩

theorem forall₂_eq_map {α β : Type} {R : α → β → Prop} {f : α → β} {l : List α} {m : List β}
    (h : List.Forall₂ R l m) (hR : ∀ a b, R a b → b = f a) : m = l.map f := by
  induction h with
  | nil => rfl
  | cons hab _ ih => rw [List.map_cons, ← hR _ _ hab, ← ih]

section Tabla

variable {db : Db}

theorem TablaPlana.bienFormado (h : TablaPlana db) :
    ∀ row ∈ db.active.map conTag, BienFormado row := by
  intro row hrow
  obtain ⟨row, hactivo, rfl⟩ := List.mem_map.mp hrow
  obtain ⟨hmem, hone⟩ := List.mem_filter.mp hactivo
  exact (h.filas row hmem).bienFormado (of_decide_eq_true hone)

/-- The records that come with a whole body. -/
theorem TablaPlana.extraerPins_eq (h : TablaPlana db) {pre post : List UInt8} (hpre : Marco pre)
    (hpost : Marco post) {n : ℕ} (hn : (pre ++ syncBody db).length ≤ n) :
    extraerPins ((pre ++ (syncBody db ++ post)).take n) maxPins = db.active.map registroDe := by
  unfold syncBody at hn ⊢
  rw [← jsonPins_conTag] at hn ⊢
  obtain ⟨pins, heq, hpins⟩ := extraerPins_entero h.bienFormado hpre hpost hn maxPins
  have hmap : pins = db.active.map registroDe :=
    forall₂_eq_map (List.forall₂_map_left_iff.mp hpins) fun _ _ hr => hr.eq_registroDe
  rw [heq, hmap, List.take_of_length_le]
  rw [List.length_map]
  exact h.caben

theorem sync_eq (h : TablaPlana db) : sync db = .ofList (db.active.map registroDe) := by
  have hnada : Marco [] := by decide
  have heq := h.extraerPins_eq hnada hnada (le_refl _)
  rw [List.append_nil, List.take_of_length_le (le_refl _)] at heq
  exact congrArg ListaPins.ofList heq

/-- What the firmware stores when the body fits its receive buffer. -/
theorem sincronizarConServidor_eq_sync (h : TablaPlana db) {pre post : List UInt8}
    (hpre : Marco pre) (hpost : Marco post) (hfits : (pre ++ syncBody db).length < httpRespSize)
    {c c' : Config ListaPins Sample EspEv} (hc : Entrega (pre ++ (syncBody db ++ post)) c c') :
    sincronizarConServidor c = (some 0, { c' with st := sync db }) := by
  obtain ⟨heq, -⟩ := sincronizarConServidor_eq hc
  have hn : (pre ++ syncBody db).length ≤ httpRespSize - 1 := Nat.le_sub_one_of_lt hfits
  rw [Option.map_some, Option.getD_some, h.extraerPins_eq hpre hpost hn, List.length_map,
    if_pos (show 0 < db.active.length from h.alguno)] at heq
  rw [heq, sync_eq h]
  rfl

end Tabla

/-! ## Changes of the table of the lock -/

theorem modifyFirst_eq_self {p : PinUsuario → Bool} {f : PinUsuario → PinUsuario}
    {pins : List PinUsuario} (h : ∀ pin ∈ pins, p pin = false) : modifyFirst p f pins = pins := by
  induction pins with
  | nil => rfl
  | cons pin rest ih =>
    obtain ⟨hpin, hrest⟩ := List.forall_mem_cons.mp h
    unfold modifyFirst
    rw [hpin, ih hrest]
    rfl

theorem modifyFirst_append {p : PinUsuario → Bool} {f : PinUsuario → PinUsuario}
    {pins resto : List PinUsuario} (h : ∀ pin ∈ resto, p pin = false) :
    modifyFirst p f (pins ++ resto) = modifyFirst p f pins ++ resto := by
  induction pins with
  | nil => exact modifyFirst_eq_self h
  | cons pin rest ih =>
    rw [List.cons_append]
    unfold modifyFirst
    split_ifs
    · rfl
    · rw [ih, List.cons_append]

/-- Where only one record can be meant, the first is the only one. -/
theorem modifyFirst_map {α : Type} {p : PinUsuario → Bool} {f : PinUsuario → PinUsuario}
    {g : α → PinUsuario} {l : List α} (h : l.Pairwise fun a b => p (g a) = true → p (g b) = false) :
    modifyFirst p f (l.map g) = l.map fun a => if p (g a) then f (g a) else g a := by
  induction l with
  | nil => rfl
  | cons a l ih =>
    obtain ⟨ha, hl⟩ := List.pairwise_cons.mp h
    rw [List.map_cons, List.map_cons]
    unfold modifyFirst
    split_ifs with hp
    · congr 1
      refine List.map_congr_left fun b hb => ?_
      rw [ha b hb hp]
      rfl
    · rw [ih hl]

theorem actualizar_ofList {p : PinUsuario → Bool} {f : PinUsuario → PinUsuario}
    {pins : List PinUsuario} (hcaben : pins.length ≤ maxPins) (hvacio : p .vacio = false) :
    ((ListaPins.ofList pins).actualizar p f).2 = .ofList (modifyFirst p f pins) := by
  have hrelleno : ∀ pin ∈ List.replicate (maxPins - pins.length) PinUsuario.vacio,
      p pin = false := by
    intro pin hpin
    rw [List.eq_of_mem_replicate hpin]
    exact hvacio
  simp only [ListaPins.actualizar, ListaPins.ofList, ListaPins.mk.injEq]
  rw [modifyFirst_append hrelleno, modifyFirst_length, List.take_of_length_le hcaben,
    List.take_of_length_le ((modifyFirst_length p f pins).trans_le hcaben)]

/-! ## Changes of the table of the server -/

theorem Db.update_eq_self {db : Db} {donde : Row → Bool} {set : Row → Row}
    (h : ∀ row ∈ db.usuarios, donde row = false) : db.update donde set = db := by
  obtain ⟨usuarios, seq, ordered, numbered⟩ := db
  simp only [Db.update, Db.mk.injEq, and_true]
  refine (List.map_congr_left fun row hrow => ?_).trans (List.map_id usuarios)
  rw [h row hrow]
  rfl

/-- With a value to set, an unknown PIN or an empty one changes nothing, as the
statement would. -/
theorem updateByPin_db {db : Db} (pin : Texto) {value : Texto} (set : Texto → Row → Row)
    (hvalue : value ≠ []) (hcodigo : ∀ row ∈ db.usuarios, row.codigo ≠ []) :
    (updateByPin pin value set db).db = db.update (fun row => row.codigo = pin) (set value) := by
  unfold updateByPin
  split_ifs with hfalta
  · rcases hfalta with rfl | hnil
    · exact (Db.update_eq_self fun row hrow => decide_eq_false (hcodigo row hrow)).symm
    · exact absurd hnil hvalue
  · cases hfind : db.byCodigo pin with
    | some row => rfl
    | none =>
      refine (Db.update_eq_self fun row hrow => ?_).symm
      exact Bool.eq_false_of_not_eq_true (List.find?_eq_none.mp hfind row hrow)

theorem deleteHuella_db {db : Db} {pin : Texto} (hcodigo : ∀ row ∈ db.usuarios, row.codigo ≠ []) :
    (deleteHuellaEndpoint (some pin) db).db =
      db.update (fun row => row.codigo = pin) ({ · with huella := [] }) := by
  unfold deleteHuellaEndpoint argument
  rw [Option.getD_some]
  split_ifs with hnil
  · refine (Db.update_eq_self fun row hrow => ?_).symm
    rw [hnil]
    exact decide_eq_false (hcodigo row hrow)
  · rfl

section Actualizar

variable {db : Db} {donde : Row → Bool} {set : Row → Row}

theorem Db.update_active (hactivo : ∀ row, (set row).activo = row.activo) :
    (db.update donde set).active =
      db.active.map fun row => if donde row then { set row with id := row.id } else row := by
  simp only [Db.active, Db.update, List.filter_map]
  congr 1
  refine List.filter_congr fun row _ => ?_
  simp only [Function.comp_apply]
  split_ifs
  · rw [hactivo]
  · rfl

theorem TablaPlana.update (h : TablaPlana db) (hactivo : ∀ row, (set row).activo = row.activo)
    (hcodigo : ∀ row, (set row).codigo = row.codigo)
    (hset : ∀ row, Fila row → Fila { set row with id := row.id }) :
    TablaPlana (db.update donde set) where
  unicos := h.unicos.update hcodigo
  alguno := by
    rw [Db.update_active hactivo, List.length_map]
    exact h.alguno
  caben := by
    rw [Db.update_active hactivo, List.length_map]
    exact h.caben
  filas := by
    intro row hrow
    obtain ⟨row, hmem, rfl⟩ := List.mem_map.mp hrow
    split_ifs
    · exact hset row (h.filas row hmem)
    · exact h.filas row hmem

end Actualizar

/-! ## The squares -/

theorem copy_asciiBytes {n : ℕ} {t : Texto} (hlen : t.length ≤ n)
    (h : ∀ c ∈ t, c.toNat < 256 ∧ c.toNat ≠ 0) :
    (CStr.copy n (asciiBytes t)).bytes = asciiBytes t :=
  CStr.copy_bytes (asciiBytes_notMem h) (by rwa [asciiBytes, List.length_map])

theorem Fila.codigo_bytes {row : Row} (h : Fila row) :
    (registroDe row).codigo.bytes = asciiBytes row.codigo := by
  refine copy_asciiBytes h.codigo.1.le fun c hc => ?_
  have hdigit := h.codigo.2 c hc
  omega

/-- The firmware and the server mean the same users by a PIN. -/
theorem Fila.conPin_registroDe {row : Row} (h : Fila row) (pin : List UInt8) :
    conPin pin (registroDe row) = decide (row.codigo = texto pin) := by
  rw [Bool.eq_iff_iff, conPin_iff, h.codigo_bytes, decide_eq_true_iff]
  constructor
  · rintro ⟨-, rfl⟩
    refine (texto_asciiBytes fun c hc => ?_).symm
    have hdigit := h.codigo.2 c hc
    omega
  · rintro heq
    exact ⟨rfl, by rw [heq, asciiBytes_texto]⟩

section Cuadrados

variable {db : Db} (h : TablaPlana db)
include h

theorem TablaPlana.codigo_ne_nil : ∀ row ∈ db.usuarios, row.codigo ≠ [] := by
  intro row hrow hnil
  have hlen := (h.filas row hrow).codigo.1
  rw [hnil] at hlen
  cases hlen

/-- A statement over the rows with a PIN, and the loop that changes the first
record with it. -/
theorem sync_update {set : Row → Row} {f : PinUsuario → PinUsuario} {pin : List UInt8}
    (hactivo : ∀ row, (set row).activo = row.activo)
    (hcodigo : ∀ row, (set row).codigo = row.codigo)
    (hset : ∀ row, Fila row → Fila { set row with id := row.id })
    (hf : ∀ row, registroDe { set row with id := row.id } = f (registroDe row)) :
    sync (db.update (fun row => row.codigo = texto pin) set) =
      ((sync db).actualizar (conPin pin) f).2 := by
  have hfila : ∀ row ∈ db.active, Fila row := fun row hrow =>
    h.filas row (List.mem_of_mem_filter hrow)
  have hdistintos : db.active.Pairwise fun a b =>
      conPin pin (registroDe a) = true → conPin pin (registroDe b) = false := by
    have hcodigos : db.active.Pairwise fun a b => a.codigo ≠ b.codigo :=
      (List.pairwise_map.mp h.unicos).filter _
    refine hcodigos.imp_of_mem fun {a b} ha hb hne => ?_
    rw [(hfila a ha).conPin_registroDe, (hfila b hb).conPin_registroDe, decide_eq_true_iff]
    exact fun heq => decide_eq_false fun heq' => hne (heq.trans heq'.symm)
  have hcaben : (db.active.map registroDe).length ≤ maxPins := by
    rw [List.length_map]
    exact h.caben
  rw [sync_eq (h.update hactivo hcodigo hset), sync_eq h, actualizar_ofList hcaben rfl,
    modifyFirst_map hdistintos, Db.update_active hactivo, List.map_map]
  refine congrArg ListaPins.ofList (List.map_congr_left fun row hrow => ?_)
  simp only [Function.comp_apply]
  rw [(hfila row hrow).conPin_registroDe]
  split_ifs
  · exact hf row
  · rfl

theorem sync_clearAll :
    sync (clearAllHuellasEndpoint db).db = eliminarTodasHuellasLocal (sync db) := by
  have hplana : TablaPlana (clearAllHuellasEndpoint db).db :=
    h.update (fun _ => rfl) (fun _ => rfl) fun row hrow =>
      ⟨hrow.codigo, hrow.rfid, ⟨Nat.zero_le _, fun _ hc => nomatch hc⟩, hrow.tag⟩
  have hcaben : (db.active.map registroDe).length ≤ maxPins := by
    rw [List.length_map]
    exact h.caben
  have hactive : (clearAllHuellasEndpoint db).db.active = db.active.map ({ · with huella := [] }) :=
    Db.update_active fun _ => rfl
  rw [sync_eq hplana, sync_eq h, hactive]
  simp only [eliminarTodasHuellasLocal, ListaPins.ofList, ListaPins.mk.injEq, List.map_append,
    List.length_map, List.map_take, List.map_map, List.map_replicate]
  rfl

end Cuadrados

/-- Each change of a credential and its request give the same table, whatever
the PIN. -/
theorem sync_commutes {db : Db} (h : TablaPlana db) (pin : List UInt8) :
    (∀ uid, sync (updateRfidEndpoint (some (texto pin)) (some (texto (uidStr uid))) db).db =
      (asociarRFIDaPin (sync db) pin (.copy 19 (uidStr uid))).2) ∧
    (∀ id : UInt16, sync (updateHuellaEndpoint (some (texto pin))
        (some (texto ((sprintf04 id.toNat).take 4))) db).db =
      (asociarHuellaaPin (sync db) pin ((sprintf04 id.toNat).take 4)).2) ∧
    sync (deleteHuellaEndpoint (some (texto pin)) db).db = (eliminarHuellaLocal (sync db) pin).2 ∧
    sync (clearAllHuellasEndpoint db).db = eliminarTodasHuellasLocal (sync db) := by
  refine ⟨fun uid => ?_, fun id => ?_, ?_, sync_clearAll h⟩
  · obtain ⟨hlen, hhex⟩ := uidStr_hex uid
    have hvalue : texto (uidStr uid) ≠ [] := by
      rw [Ne, ← List.length_eq_zero_iff, texto, List.length_map, hlen]
      decide
    have hrfid : (texto (uidStr uid)).length ≤ 19 ∧ ∀ c ∈ texto (uidStr uid),
        (0x30 ≤ c.toNat ∧ c.toNat ≤ 0x39) ∨ (0x41 ≤ c.toNat ∧ c.toNat ≤ 0x46) := by
      rw [texto, List.length_map, hlen]
      refine ⟨by decide, fun c hc => ?_⟩
      obtain ⟨b, hb, heq⟩ := mem_texto hc
      rw [heq]
      exact hhex b hb
    have hdb := updateByPin_db (texto pin) (fun value row => { row with rfid := value }) hvalue
      h.codigo_ne_nil
    refine (congrArg sync hdb).trans (sync_update h (fun _ => rfl) (fun _ => rfl)
      (fun row hrow => ⟨hrow.codigo, hrfid, hrow.huella, hrow.tag⟩) fun row => ?_)
    simp only [registroDe, asciiBytes_texto]
    rfl
  · have hdigits : ∀ b ∈ (sprintf04 id.toNat).take 4, 48 ≤ b.toNat ∧ b.toNat ≤ 57 :=
      fun b hb => sprintf04_digits b (List.mem_of_mem_take hb)
    have hvalue : texto ((sprintf04 id.toNat).take 4) ≠ [] := by
      rw [Ne, ← List.length_eq_zero_iff, texto, List.length_map, List.length_take,
        min_eq_left (four_le_sprintf04 _)]
      decide
    have hhuella : (texto ((sprintf04 id.toNat).take 4)).length ≤ 4 ∧
        ∀ c ∈ texto ((sprintf04 id.toNat).take 4), 0x30 ≤ c.toNat ∧ c.toNat ≤ 0x39 := by
      rw [texto, List.length_map]
      refine ⟨List.length_take_le _ _, fun c hc => ?_⟩
      obtain ⟨b, hb, heq⟩ := mem_texto hc
      rw [heq]
      exact hdigits b hb
    have hdb := updateByPin_db (texto pin) (fun value row => { row with huella := value }) hvalue
      h.codigo_ne_nil
    refine (congrArg sync hdb).trans (sync_update h (fun _ => rfl) (fun _ => rfl)
      (fun row hrow => ⟨hrow.codigo, hrow.rfid, hhuella, hrow.tag⟩) fun row => ?_)
    simp only [registroDe, asciiBytes_texto]
    rfl
  · rw [deleteHuella_db h.codigo_ne_nil]
    exact sync_update h (fun _ => rfl) (fun _ => rfl) (fun row hrow =>
      ⟨hrow.codigo, hrow.rfid, ⟨Nat.zero_le _, fun _ hc => nomatch hc⟩, hrow.tag⟩) fun _ => rfl

/-- Thirty users, and a card for one of them. -/
theorem sync_commutes_treintaUsuarios :
    sync (updateRfidEndpoint (some (texto (ascii "10007")))
        (some (texto (uidStr #v[0x9A, 0x3B, 0x11, 0xC2]))) treintaUsuarios).db =
      (asociarRFIDaPin (sync treintaUsuarios) (ascii "10007")
        (.copy 19 (uidStr #v[0x9A, 0x3B, 0x11, 0xC2]))).2 :=
  (sync_commutes (by decide +kernel) (ascii "10007")).1 _

end Cerradura
