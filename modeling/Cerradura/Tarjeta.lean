import Cerradura.Conmuta

/-!
# The owner of a card

A card is registered for a PIN in the table of the lock and, by a request, in
that of the server. Neither looks whether somebody else has it, and a lookup
takes the first record with the card.

Result: `tarjeta_identifica_iff`. After a registration the card resolves to the
record of the PIN exactly if no active record before it has the card, and the
upload and the next complete sync leave it so. `tarjeta_de_otro` is a card that
stays with its earlier owner.
-/

namespace Cerradura

open CText ListaPins

/-! ## First matches -/

/-- The first element with `p` is the first with `q` unless one before it has `q`. -/
theorem find?_eq_some_iff_takeWhile {α : Type} {p q : α → Bool} {l : List α} {a : α}
    (hp : l.find? p = some a) (hq : q a = true) :
    l.find? q = some a ↔ ∀ b ∈ l.takeWhile (fun b => !p b), q b = false := by
  induction l with
  | nil => cases hp
  | cons b l ih =>
    cases hpb : p b with
    | true =>
      rw [List.find?_cons_of_pos hpb] at hp
      obtain rfl := Option.some.inj hp
      rw [List.find?_cons_of_pos hq, List.takeWhile_cons_of_neg (by rw [hpb]; exact nofun)]
      exact iff_of_true rfl nofun
    | false =>
      rw [List.find?_cons_of_neg (by rw [hpb]; exact nofun)] at hp
      rw [List.takeWhile_cons_of_pos (by rw [hpb]; rfl), List.forall_mem_cons]
      cases hqb : q b with
      | true =>
        rw [List.find?_cons_of_pos hqb]
        refine iff_of_false (fun heq => ?_) fun h => nomatch h.1
        have hpa := List.find?_some hp
        rw [← Option.some.inj heq, hpb] at hpa
        cases hpa
      | false =>
        rw [List.find?_cons_of_neg (by rw [hqb]; exact nofun), ih hp]
        exact ⟨fun h => ⟨rfl, h⟩, fun h => h.2⟩

theorem takeWhile_modifyFirst {p : PinUsuario → Bool} {f : PinUsuario → PinUsuario}
    (hf : ∀ u, p u = true → p (f u) = true) (pins : List PinUsuario) :
    (modifyFirst p f pins).takeWhile (fun u => !p u) = pins.takeWhile fun u => !p u := by
  induction pins with
  | nil => rfl
  | cons pin rest ih =>
    unfold modifyFirst
    split_ifs with hp
    · rw [List.takeWhile_cons_of_neg (by rw [hf pin hp]; exact Bool.false_ne_true),
        List.takeWhile_cons_of_neg (by rw [hp]; exact Bool.false_ne_true)]
    · rw [List.takeWhile_cons_of_pos (by rw [eq_false_of_ne_true hp]; rfl),
        List.takeWhile_cons_of_pos (by rw [eq_false_of_ne_true hp]; rfl), ih]

/-! ## The card of a PIN -/

/-- The record that `obtenerTagPorRFID` stops at is the record of the PIN. -/
def TarjetaDe (lista : ListaPins) (rfid pin : List UInt8) : Prop :=
  ∃ u, lista.pins.find? (conPin pin) = some u ∧ lista.pins.find? (conRFID rfid) = some u ∧
    obtenerTagPorRFID lista rfid = if 0 < u.tag.bytes.length then some u.tag.bytes else none

theorem tarjetaDe_iff {lista : ListaPins} {rfid pin : List UInt8} {u : PinUsuario}
    (hpin : lista.pins.find? (conPin pin) = some u) (hrfid : conRFID rfid u = true) :
    TarjetaDe lista rfid pin ↔
      ∀ v ∈ lista.pins.takeWhile (fun v => !conPin pin v), conRFID rfid v = false := by
  rw [← find?_eq_some_iff_takeWhile hpin hrfid]
  constructor
  · rintro ⟨u', hpin', hrfid', -⟩
    obtain rfl := Option.some.inj (hpin.symm.trans hpin')
    exact hrfid'
  · intro hfind
    refine ⟨u, hpin, hfind, ?_⟩
    unfold obtenerTagPorRFID
    rw [hfind]
    rfl

theorem uidStr_ne_nil (uid : Vector UInt8 4) : uidStr uid ≠ [] := by
  refine List.ne_nil_of_length_pos ?_
  rw [(uidStr_hex uid).1]
  decide

/-- A UID fits its field. -/
theorem copy_uidStr (uid : Vector UInt8 4) : (CStr.copy 19 (uidStr uid)).bytes = uidStr uid := by
  obtain ⟨hlen, hhex⟩ := uidStr_hex uid
  refine CStr.copy_bytes (fun h0 => ?_) (by rw [hlen]; decide)
  rcases hhex 0 h0 with h | h <;> exact absurd h.1 (by decide)

/-- In the lock. -/
theorem asociarRFIDaPin_identifica {lista : ListaPins} {pin : List UInt8} {uid : Vector UInt8 4}
    (h : (asociarRFIDaPin lista pin (.copy 19 (uidStr uid))).1 = true) :
    TarjetaDe (asociarRFIDaPin lista pin (.copy 19 (uidStr uid))).2 (uidStr uid) pin ↔
      ∀ v ∈ lista.pins.takeWhile (fun v => !conPin pin v), conRFID (uidStr uid) v = false := by
  have hf : ∀ u, conPin pin u = true →
      conPin pin { u with rfid := .copy 19 (uidStr uid) } = true := fun _ hu => hu
  obtain ⟨u, hfind⟩ := Option.isSome_iff_exists.mp (List.find?_isSome.mpr (List.any_eq_true.mp h))
  have hpin : (asociarRFIDaPin lista pin (.copy 19 (uidStr uid))).2.pins.find? (conPin pin) =
      some { u with rfid := .copy 19 (uidStr uid) } := by
    have hmod := find?_modifyFirst hf lista.pins
    rw [hfind] at hmod
    exact hmod
  have hrfid : conRFID (uidStr uid) { u with rfid := .copy 19 (uidStr uid) } = true :=
    conRFID_iff.mpr ⟨(conPin_iff.mp (List.find?_some hfind)).1,
      by rw [copy_uidStr]; exact uidStr_ne_nil uid, copy_uidStr uid⟩
  rw [tarjetaDe_iff hpin hrfid]
  show (∀ v ∈ (modifyFirst _ _ lista.pins).takeWhile _, _) ↔ _
  rw [takeWhile_modifyFirst hf]

/-! ## A complete sync -/

/-- The record of an active user has come with its PIN and its card. -/
structure Llega (row : Row) (u : PinUsuario) : Prop where
  activo : u.activo = true
  conCodigo : u.codigo.bytes ≠ []
  codigo : texto u.codigo.bytes = row.codigo
  rfid : texto u.rfid.bytes = row.rfid

/-- The records of all active users have come, in order. -/
def SyncCompleta (db : Db) (lista : ListaPins) : Prop :=
  ∃ pins, lista = actualizarBaseDeDatos pins ∧ pins.length ≤ maxPins ∧
    List.Forall₂ Llega db.active pins

theorem texto_inj {s t : List UInt8} : texto s = texto t ↔ s = t :=
  ⟨fun h => by rw [← asciiBytes_texto s, h, asciiBytes_texto], congrArg texto⟩

theorem Llega.conPin_eq {row : Row} {u : PinUsuario} (h : Llega row u) (pin : List UInt8) :
    conPin pin u = decide (row.codigo = texto pin) := by
  rw [Bool.eq_iff_iff, conPin_iff, decide_eq_true_iff, ← h.codigo, texto_inj]
  exact and_iff_right h.activo

theorem Llega.conRFID_eq {row : Row} {u : PinUsuario} (h : Llega row u) {rfid : List UInt8}
    (hne : rfid ≠ []) : conRFID rfid u = decide (row.rfid = texto rfid) := by
  rw [Bool.eq_iff_iff, conRFID_iff, decide_eq_true_iff, ← h.rfid, texto_inj]
  exact ⟨fun hu => hu.2.2, fun heq => ⟨h.activo, heq ▸ hne, heq⟩⟩

theorem codigo_ne_nil {rows : List Row} {pins : List PinUsuario}
    (h : List.Forall₂ Llega rows pins) : ∀ row ∈ rows, row.codigo ≠ [] := by
  induction h with
  | nil => exact nofun
  | cons hu _ ih =>
    refine List.forall_mem_cons.mpr ⟨fun hnil => ?_, ih⟩
    rw [← hu.codigo] at hnil
    exact hu.conCodigo (List.map_eq_nil_iff.mp hnil)

/-- The records before that of a PIN are those of the rows before its row. -/
theorem takeWhile_llega {rows : List Row} {pins resto : List PinUsuario} {pin rfid : List UInt8}
    (h : List.Forall₂ Llega rows pins) (hpin : ∃ row ∈ rows, row.codigo = texto pin)
    (hne : rfid ≠ []) :
    (∀ v ∈ (pins ++ resto).takeWhile (fun v => !conPin pin v), conRFID rfid v = false) ↔
      ∀ row ∈ rows.takeWhile (fun row => row.codigo ≠ texto pin), row.rfid ≠ texto rfid := by
  induction h with
  | nil =>
    obtain ⟨row, hrow, -⟩ := hpin
    cases hrow
  | @cons row u rows pins hu _ ih =>
    have hconPin := hu.conPin_eq pin
    by_cases hcodigo : row.codigo = texto pin
    · rw [decide_eq_true hcodigo] at hconPin
      rw [List.cons_append, List.takeWhile_cons_of_neg (by rw [hconPin]; exact nofun),
        List.takeWhile_cons_of_neg (by simpa using hcodigo)]
      exact iff_of_true nofun nofun
    · rw [decide_eq_false hcodigo] at hconPin
      have hrest : ∃ row ∈ rows, row.codigo = texto pin := by
        obtain ⟨row', hrow', heq⟩ := hpin
        rcases List.mem_cons.mp hrow' with rfl | hrow'
        · exact absurd heq hcodigo
        · exact ⟨row', hrow', heq⟩
      rw [List.cons_append, List.takeWhile_cons_of_pos (by rw [hconPin]; rfl),
        List.takeWhile_cons_of_pos (by simpa using hcodigo), List.forall_mem_cons,
        List.forall_mem_cons, ih hrest, hu.conRFID_eq hne, decide_eq_false_iff_not]

/-- The record of a PIN. -/
theorem find?_llega {rows : List Row} {pins resto : List PinUsuario} {pin rfid : List UInt8}
    (h : List.Forall₂ Llega rows pins) (hpin : ∃ row ∈ rows, row.codigo = texto pin)
    (hne : rfid ≠ []) (hrfid : ∀ row ∈ rows, row.codigo = texto pin → row.rfid = texto rfid) :
    ∃ u, (pins ++ resto).find? (conPin pin) = some u ∧ conRFID rfid u = true := by
  induction h with
  | nil =>
    obtain ⟨row, hrow, -⟩ := hpin
    cases hrow
  | @cons row u rows pins hu _ ih =>
    have hconPin := hu.conPin_eq pin
    obtain ⟨hrow, hrows⟩ := List.forall_mem_cons.mp hrfid
    by_cases hcodigo : row.codigo = texto pin
    · rw [decide_eq_true hcodigo] at hconPin
      refine ⟨u, ?_, ?_⟩
      · rw [List.cons_append, List.find?_cons_of_pos hconPin]
      · rw [hu.conRFID_eq hne]
        exact decide_eq_true (hrow hcodigo)
    · rw [decide_eq_false hcodigo] at hconPin
      obtain ⟨row', hrow', heq⟩ := hpin
      rcases List.mem_cons.mp hrow' with rfl | hrow'
      · exact absurd heq hcodigo
      · rw [List.cons_append, List.find?_cons_of_neg (by rw [hconPin]; exact nofun)]
        exact ih ⟨row', hrow', heq⟩ hrows

/-- The statement of the upload. A PIN that is known is not empty. -/
theorem updateRfid_db {db : Db} {pin rfid : Texto} (hpin : ∃ row ∈ db.usuarios, row.codigo = pin)
    (hne : pin ≠ []) (hrfid : rfid ≠ []) :
    (updateRfidEndpoint (some pin) (some rfid) db).db =
      db.update (fun row => row.codigo = pin) ({ · with rfid := rfid }) := by
  obtain ⟨row, hrow, hcodigo⟩ := hpin
  unfold updateRfidEndpoint updateByPin argument
  rw [Option.getD_some, Option.getD_some, if_neg (not_or.mpr ⟨hne, hrfid⟩)]
  cases hfind : db.byCodigo pin with
  | some row' => rfl
  | none => exact absurd (decide_eq_true hcodigo) (List.find?_eq_none.mp hfind row hrow)

/-- The upload moves nobody, and leaves the rows before that of the PIN. -/
theorem takeWhile_update {rows : List Row} {pin rfid : Texto} :
    (∀ row ∈ (rows.map fun row : Row =>
        if row.codigo = pin then { row with rfid := rfid } else row).takeWhile
          (fun row => row.codigo ≠ pin), row.rfid ≠ rfid) ↔
      ∀ row ∈ rows.takeWhile (fun row => row.codigo ≠ pin), row.rfid ≠ rfid := by
  induction rows with
  | nil => exact Iff.rfl
  | cons row rows ih =>
    rw [List.map_cons]
    by_cases hcodigo : row.codigo = pin
    · rw [if_pos hcodigo, List.takeWhile_cons_of_neg (by simpa using hcodigo),
        List.takeWhile_cons_of_neg (by simpa using hcodigo)]
    · rw [if_neg hcodigo, List.takeWhile_cons_of_pos (by simpa using hcodigo),
        List.takeWhile_cons_of_pos (by simpa using hcodigo), List.forall_mem_cons,
        List.forall_mem_cons, ih]

/-- After the upload, and the sync that follows it. -/
theorem sync_identifica {db : Db} {lista : ListaPins} {pin : List UInt8} {uid : Vector UInt8 4}
    (hpin : ∃ row ∈ db.active, row.codigo = texto pin)
    (h : SyncCompleta (updateRfidEndpoint (some (texto pin)) (some (texto (uidStr uid))) db).db
      lista) :
    TarjetaDe lista (uidStr uid) pin ↔
      ∀ row ∈ db.active.takeWhile (fun row => row.codigo ≠ texto pin),
        row.rfid ≠ texto (uidStr uid) := by
  obtain ⟨row, hrow, hcodigo⟩ := hpin
  obtain ⟨pins, rfl, hcaben, hllega⟩ := h
  have hrfid : texto (uidStr uid) ≠ [] := fun h => uidStr_ne_nil uid (texto_inj.mp h)
  have hne : texto pin ≠ [] := by
    intro hnil
    have hdb : (updateRfidEndpoint (some (texto pin)) (some (texto (uidStr uid))) db).db = db := by
      unfold updateRfidEndpoint updateByPin argument
      rw [if_pos (.inl hnil)]
      rfl
    rw [hdb] at hllega
    exact codigo_ne_nil hllega row hrow (hcodigo.trans hnil)
  have hactive : (updateRfidEndpoint (some (texto pin)) (some (texto (uidStr uid))) db).db.active =
      db.active.map fun row =>
        if row.codigo = texto pin then { row with rfid := texto (uidStr uid) } else row := by
    rw [updateRfid_db ⟨row, List.mem_of_mem_filter hrow, hcodigo⟩ hne hrfid]
    refine Eq.trans (Db.update_active fun _ => rfl) (List.map_congr_left fun row _ => ?_)
    simp only [decide_eq_true_eq]
  rw [hactive] at hllega
  have hexists : ∃ row' ∈ db.active.map fun row : Row =>
      if row.codigo = texto pin then { row with rfid := texto (uidStr uid) } else row,
      row'.codigo = texto pin := by
    refine ⟨_, List.mem_map_of_mem hrow, ?_⟩
    rw [if_pos hcodigo]
    exact hcodigo
  have hpuesto : ∀ row' ∈ db.active.map fun row : Row =>
      if row.codigo = texto pin then { row with rfid := texto (uidStr uid) } else row,
      row'.codigo = texto pin → row'.rfid = texto (uidStr uid) := by
    intro row' hrow' hcodigo'
    obtain ⟨row0, -, rfl⟩ := List.mem_map.mp hrow'
    split_ifs at hcodigo' ⊢ with h0
    · rfl
    · exact absurd hcodigo' h0
  have hlista : (actualizarBaseDeDatos pins).pins =
      pins ++ List.replicate (maxPins - pins.length) .vacio := by
    show pins.take maxPins ++ _ = _
    rw [List.take_of_length_le hcaben]
  obtain ⟨u, hfind, hu⟩ := find?_llega hllega hexists (uidStr_ne_nil uid) hpuesto
  rw [← hlista] at hfind
  rw [tarjetaDe_iff hfind hu, hlista, takeWhile_llega hllega hexists (uidStr_ne_nil uid),
    takeWhile_update]

theorem Fila.llega {row : Row} (h : Fila row) : Llega row (registroDe row) where
  activo := rfl
  conCodigo hnil := by
    have hlen := congrArg List.length (h.codigo_bytes.symm.trans hnil)
    rw [asciiBytes, List.length_map, h.codigo.1] at hlen
    cases hlen
  codigo := by
    rw [h.codigo_bytes]
    refine texto_asciiBytes fun c hc => ?_
    have hdigit := h.codigo.2 c hc
    omega
  rfid := by
    have hhex : ∀ c ∈ row.rfid, c.toNat < 256 ∧ c.toNat ≠ 0 := fun c hc => by
      have hdigit := h.rfid.2 c hc
      omega
    show texto (CStr.copy 19 (asciiBytes row.rfid)).bytes = row.rfid
    rw [copy_asciiBytes h.rfid.1 hhex]
    exact texto_asciiBytes fun c hc => (hhex c hc).1

/-- A sync of a table whose users fit the lock is complete. -/
theorem TablaPlana.syncCompleta {db : Db} (h : TablaPlana db) : SyncCompleta db (sync db) := by
  refine ⟨db.active.map registroDe, sync_eq h, ?_, ?_⟩
  · rw [List.length_map]
    exact h.caben
  · rw [List.forall₂_map_right_iff, List.forall₂_same]
    exact fun row hrow => (h.filas row (List.mem_of_mem_filter hrow)).llega

theorem TablaPlana.updateRfid {db : Db} (h : TablaPlana db) (pin : Texto) (uid : Vector UInt8 4) :
    TablaPlana (updateRfidEndpoint (some pin) (some (texto (uidStr uid))) db).db := by
  obtain ⟨hlen, hhex⟩ := uidStr_hex uid
  have hrfid : (texto (uidStr uid)).length ≤ 19 ∧ ∀ c ∈ texto (uidStr uid),
      (0x30 ≤ c.toNat ∧ c.toNat ≤ 0x39) ∨ (0x41 ≤ c.toNat ∧ c.toNat ≤ 0x46) := by
    rw [texto, List.length_map, hlen]
    refine ⟨by decide, fun c hc => ?_⟩
    obtain ⟨b, hb, heq⟩ := mem_texto hc
    rw [heq]
    exact hhex b hb
  have hdb : (updateRfidEndpoint (some pin) (some (texto (uidStr uid))) db).db =
      db.update (fun row => row.codigo = pin) ({ · with rfid := texto (uidStr uid) }) :=
    updateByPin_db pin (fun value row => { row with rfid := value })
      (fun hnil => uidStr_ne_nil uid (texto_inj.mp hnil)) h.codigo_ne_nil
  rw [hdb]
  exact h.update (fun _ => rfl) (fun _ => rfl) fun row hrow =>
    ⟨hrow.codigo, hrfid, hrow.huella, hrow.tag⟩

/-- A record that came belongs to a row. -/
theorem exists_row {rows : List Row} {pins : List PinUsuario} {pin : List UInt8}
    (h : List.Forall₂ Llega rows pins) {u : PinUsuario} (hu : u ∈ pins)
    (hpin : conPin pin u = true) : ∃ row ∈ rows, row.codigo = texto pin := by
  induction h with
  | nil => cases hu
  | @cons row v rows pins hv _ ih =>
    rcases List.mem_cons.mp hu with rfl | hu
    · rw [hv.conPin_eq] at hpin
      exact ⟨row, List.mem_cons_self, of_decide_eq_true hpin⟩
    · obtain ⟨row', hrow', heq⟩ := ih hu
      exact ⟨row', List.mem_cons_of_mem _ hrow', heq⟩

/-- A card that is registered with the lock and the server in step has the same
owner before and after the next complete sync. -/
theorem sync_conserva {db : Db} {lista lista' : ListaPins} {pin : List UInt8} {uid : Vector UInt8 4}
    (hlista : SyncCompleta db lista)
    (h : (asociarRFIDaPin lista pin (.copy 19 (uidStr uid))).1 = true)
    (hlista' : SyncCompleta
      (updateRfidEndpoint (some (texto pin)) (some (texto (uidStr uid))) db).db lista') :
    TarjetaDe lista' (uidStr uid) pin ↔
      TarjetaDe (asociarRFIDaPin lista pin (.copy 19 (uidStr uid))).2 (uidStr uid) pin := by
  obtain ⟨pins, rfl, hcaben, hllega⟩ := hlista
  have hpins : (actualizarBaseDeDatos pins).pins =
      pins ++ List.replicate (maxPins - pins.length) .vacio := by
    show pins.take maxPins ++ _ = _
    rw [List.take_of_length_le hcaben]
  have hpin : ∃ row ∈ db.active, row.codigo = texto pin := by
    obtain ⟨u, hu, hconPin⟩ := List.any_eq_true.mp h
    rw [hpins] at hu
    rcases List.mem_append.mp hu with hu | hu
    · exact exists_row hllega hu hconPin
    · rw [List.eq_of_mem_replicate hu] at hconPin
      cases hconPin
  rw [sync_identifica hpin hlista', asociarRFIDaPin_identifica h, hpins,
    takeWhile_llega hllega hpin (uidStr_ne_nil uid)]

/-- After a registration the card resolves to the record of the PIN exactly if no
active record before it has the card. After the upload and a complete sync it does
exactly if no active row before that of the PIN has it. Where the lock and the
server were in step the answer is the same. -/
theorem tarjeta_identifica_iff (pin : List UInt8) (uid : Vector UInt8 4) :
    (∀ lista, (asociarRFIDaPin lista pin (.copy 19 (uidStr uid))).1 = true →
      (TarjetaDe (asociarRFIDaPin lista pin (.copy 19 (uidStr uid))).2 (uidStr uid) pin ↔
        ∀ v ∈ lista.pins.takeWhile (fun v => !conPin pin v), conRFID (uidStr uid) v = false)) ∧
    (∀ db lista, (∃ row ∈ db.active, row.codigo = texto pin) →
      SyncCompleta (updateRfidEndpoint (some (texto pin)) (some (texto (uidStr uid))) db).db lista →
      (TarjetaDe lista (uidStr uid) pin ↔
        ∀ row ∈ db.active.takeWhile (fun row => row.codigo ≠ texto pin),
          row.rfid ≠ texto (uidStr uid))) ∧
    (∀ db lista lista', SyncCompleta db lista →
      (asociarRFIDaPin lista pin (.copy 19 (uidStr uid))).1 = true →
      SyncCompleta (updateRfidEndpoint (some (texto pin)) (some (texto (uidStr uid))) db).db
        lista' →
      (TarjetaDe lista' (uidStr uid) pin ↔
        TarjetaDe (asociarRFIDaPin lista pin (.copy 19 (uidStr uid))).2 (uidStr uid) pin)) ∧
    ∀ db, TablaPlana db → SyncCompleta db (sync db) ∧
      SyncCompleta (updateRfidEndpoint (some (texto pin)) (some (texto (uidStr uid))) db).db
        (sync (updateRfidEndpoint (some (texto pin)) (some (texto (uidStr uid))) db).db) :=
  ⟨fun _ h => asociarRFIDaPin_identifica h, fun _ _ hpin h => sync_identifica hpin h,
    fun _ _ _ hlista h hlista' => sync_conserva hlista h hlista',
    fun _ h => ⟨h.syncCompleta, (h.updateRfid (texto pin) uid).syncCompleta⟩⟩

/-- The administrator, ana with her card, and juan without one. -/
def anaYJuan : Db where
  usuarios := initDb.usuarios ++ [{ ana with id := 2 }, { juan with id := 3 }]
  seq := 3
  ordered := by decide
  numbered := by decide

/-- Ana's card, registered for juan, resolves to ana, in the lock and after the
sync. -/
theorem tarjeta_de_otro : ¬ ∀ (db : Db) (pin : List UInt8) (uid : Vector UInt8 4),
    (asociarRFIDaPin (sync db) pin (.copy 19 (uidStr uid))).1 = true →
      TarjetaDe (asociarRFIDaPin (sync db) pin (.copy 19 (uidStr uid))).2 (uidStr uid) pin ∨
      TarjetaDe (sync (updateRfidEndpoint (some (texto pin)) (some (texto (uidStr uid))) db).db)
        (uidStr uid) pin := by
  intro h
  obtain ⟨hasocia, hlock, hsync⟩ :
      (asociarRFIDaPin (sync anaYJuan) (ascii "54321")
        (.copy 19 (uidStr #v[0x9A, 0x3B, 0x11, 0xC2]))).1 = true ∧
      (asociarRFIDaPin (sync anaYJuan) (ascii "54321")
          (.copy 19 (uidStr #v[0x9A, 0x3B, 0x11, 0xC2]))).2.pins.find? (conPin (ascii "54321")) ≠
        (asociarRFIDaPin (sync anaYJuan) (ascii "54321")
          (.copy 19 (uidStr #v[0x9A, 0x3B, 0x11, 0xC2]))).2.pins.find?
            (conRFID (uidStr #v[0x9A, 0x3B, 0x11, 0xC2])) ∧
      (sync (updateRfidEndpoint (some (texto (ascii "54321")))
          (some (texto (uidStr #v[0x9A, 0x3B, 0x11, 0xC2]))) anaYJuan).db).pins.find?
            (conPin (ascii "54321")) ≠
        (sync (updateRfidEndpoint (some (texto (ascii "54321")))
          (some (texto (uidStr #v[0x9A, 0x3B, 0x11, 0xC2]))) anaYJuan).db).pins.find?
            (conRFID (uidStr #v[0x9A, 0x3B, 0x11, 0xC2])) := by decide +kernel
  rcases h anaYJuan (ascii "54321") #v[0x9A, 0x3B, 0x11, 0xC2] hasocia with
    ⟨u, hpin, hrfid, -⟩ | ⟨u, hpin, hrfid, -⟩
  · exact hlock (hpin.trans hrfid.symm)
  · exact hsync (hpin.trans hrfid.symm)

/-- A new card for juan. -/
theorem tarjeta_identifica_nueva :
    TarjetaDe (asociarRFIDaPin (sync anaYJuan) (ascii "54321")
      (.copy 19 (uidStr #v[0x04, 0x05, 0x06, 0x07]))).2 (uidStr #v[0x04, 0x05, 0x06, 0x07])
      (ascii "54321") ∧
    TarjetaDe (sync (updateRfidEndpoint (some (texto (ascii "54321")))
      (some (texto (uidStr #v[0x04, 0x05, 0x06, 0x07]))) anaYJuan).db)
      (uidStr #v[0x04, 0x05, 0x06, 0x07]) (ascii "54321") := by
  obtain ⟨hlock, -, hsync, hplana⟩ :=
    tarjeta_identifica_iff (ascii "54321") #v[0x04, 0x05, 0x06, 0x07]
  obtain ⟨hcompleta, hcompleta'⟩ := hplana anaYJuan (by decide +kernel)
  have hasocia : (asociarRFIDaPin (sync anaYJuan) (ascii "54321")
      (.copy 19 (uidStr #v[0x04, 0x05, 0x06, 0x07]))).1 = true := by decide +kernel
  have hde := (hlock _ hasocia).mpr (by decide +kernel)
  exact ⟨hde, (hsync _ _ _ hcompleta hasocia hcompleta').mpr hde⟩

end Cerradura
