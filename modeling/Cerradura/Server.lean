import Mathlib.Data.Int.Notation
import Mathlib.Data.List.Nodup
import Mathlib.Data.List.Basic
import Mathlib.Order.Basic

/-!
# The user server

`server.py` keeps the users in one SQLite table and serves the web panel and the
lock. A request handler is a function of the table: it gives the new table, the
response, and whether it called `notificar_cambio`.

Results:
1. `pins_unique_iff`: for every sequence of requests, no two rows ever share a
   PIN if and only if the administrator's PIN is never changed to that of
   another user.
2. `admin_pin_collides`: one request after the other, on the table of `init_db`.
-/

namespace Cerradura

/-- A Python `str`. -/
abbrev Texto := List Char

/-! ## The table -/

/-- A row of `usuarios`. -/
structure Row where
  id : ℕ
  codigo : Texto
  activo : ℤ
  rfid : Texto
  huella : Texto
  tag : Texto
deriving DecidableEq, Repr

/-- The table, in the order of its primary key, and the last id that
AUTOINCREMENT gave. -/
structure Db where
  usuarios : List Row
  seq : ℕ
  ordered : usuarios.Pairwise fun a b => a.id < b.id
  numbered : ∀ row ∈ usuarios, 1 ≤ row.id ∧ row.id ≤ seq
deriving DecidableEq

namespace Db

/-- `INSERT INTO usuarios`: the row gets the next id. -/
def insert (db : Db) (row : Row) : Db where
  usuarios := db.usuarios ++ [{ row with id := db.seq + 1 }]
  seq := db.seq + 1
  ordered := by
    refine List.pairwise_append.mpr ⟨db.ordered, List.pairwise_singleton _ _, ?_⟩
    intro a ha b hb
    rw [List.mem_singleton.mp hb]
    exact Nat.lt_succ_of_le (db.numbered a ha).2
  numbered := by
    intro a ha
    rcases List.mem_append.mp ha with ha | ha
    · exact ⟨(db.numbered a ha).1, Nat.le_succ_of_le (db.numbered a ha).2⟩
    · rw [List.mem_singleton.mp ha]
      exact ⟨Nat.succ_pos _, Nat.le_refl _⟩

/-- `UPDATE usuarios SET .. WHERE ..`, on columns other than the key. -/
def update (db : Db) (donde : Row → Bool) (set : Row → Row) : Db where
  usuarios := db.usuarios.map fun row =>
    if donde row then { set row with id := row.id } else row
  seq := db.seq
  ordered := by
    refine List.pairwise_map.mpr (db.ordered.imp fun {a b} hab => ?_)
    split <;> split <;> exact hab
  numbered := by
    intro a ha
    obtain ⟨row, hrow, rfl⟩ := List.mem_map.mp ha
    split <;> exact db.numbered row hrow

/-- `DELETE FROM usuarios WHERE id = ?` -/
def delete (db : Db) (userId : ℕ) : Db where
  usuarios := db.usuarios.filter fun row => row.id ≠ userId
  seq := db.seq
  ordered := db.ordered.filter _
  numbered row hrow := db.numbered row (List.mem_of_mem_filter hrow)

/-- `SELECT * FROM usuarios WHERE codigo = ?`, `fetchone()` -/
def byCodigo (db : Db) (codigo : Texto) : Option Row :=
  db.usuarios.find? fun row => row.codigo = codigo

/-- `SELECT * FROM usuarios WHERE id = ?`, `fetchone()` -/
def byId (db : Db) (userId : ℕ) : Option Row := db.usuarios.find? fun row => row.id = userId

/-- `SELECT * FROM usuarios WHERE activo = 1`, `fetchall()` -/
def active (db : Db) : List Row := db.usuarios.filter fun row => row.activo = 1

end Db

theorem activo_ne_zero {db : Db} {row : Row} (hrow : row ∈ db.active) : row.activo ≠ 0 := by
  have hactivo : row.activo = 1 := of_decide_eq_true (List.mem_filter.mp hrow).2
  rw [hactivo]
  decide

/-- The table that `init_db` creates. -/
def initDb : Db where
  usuarios := [{ id := 1, codigo := "11111".toList, activo := 1, rfid := [], huella := [],
                 tag := "ADMIN".toList }]
  seq := 1
  ordered := List.pairwise_singleton _ _
  numbered row hrow := by
    rw [List.mem_singleton.mp hrow]
    exact ⟨Nat.le_refl _, Nat.le_refl _⟩

/-! ## Texts -/

/-- The code points of `str.isdigit`, as ranges. -/
def digitRanges : List (ℕ × ℕ) :=
  [(0x30, 0x39), (0xb2, 0xb3), (0xb9, 0xb9), (0x660, 0x669), (0x6f0, 0x6f9), (0x7c0, 0x7c9),
   (0x966, 0x96f), (0x9e6, 0x9ef), (0xa66, 0xa6f), (0xae6, 0xaef), (0xb66, 0xb6f), (0xbe6, 0xbef),
   (0xc66, 0xc6f), (0xce6, 0xcef), (0xd66, 0xd6f), (0xde6, 0xdef), (0xe50, 0xe59), (0xed0, 0xed9),
   (0xf20, 0xf29), (0x1040, 0x1049), (0x1090, 0x1099), (0x1369, 0x1371), (0x17e0, 0x17e9),
   (0x1810, 0x1819), (0x1946, 0x194f), (0x19d0, 0x19da), (0x1a80, 0x1a89), (0x1a90, 0x1a99),
   (0x1b50, 0x1b59), (0x1bb0, 0x1bb9), (0x1c40, 0x1c49), (0x1c50, 0x1c59), (0x2070, 0x2070),
   (0x2074, 0x2079), (0x2080, 0x2089), (0x2460, 0x2468), (0x2474, 0x247c), (0x2488, 0x2490),
   (0x24ea, 0x24ea), (0x24f5, 0x24fd), (0x24ff, 0x24ff), (0x2776, 0x277e), (0x2780, 0x2788),
   (0x278a, 0x2792), (0xa620, 0xa629), (0xa8d0, 0xa8d9), (0xa900, 0xa909), (0xa9d0, 0xa9d9),
   (0xa9f0, 0xa9f9), (0xaa50, 0xaa59), (0xabf0, 0xabf9), (0xff10, 0xff19), (0x104a0, 0x104a9),
   (0x10a40, 0x10a43), (0x10d30, 0x10d39), (0x10e60, 0x10e68), (0x11052, 0x1105a),
   (0x11066, 0x1106f), (0x110f0, 0x110f9), (0x11136, 0x1113f), (0x111d0, 0x111d9),
   (0x112f0, 0x112f9), (0x11450, 0x11459), (0x114d0, 0x114d9), (0x11650, 0x11659),
   (0x116c0, 0x116c9), (0x11730, 0x11739), (0x118e0, 0x118e9), (0x11950, 0x11959),
   (0x11c50, 0x11c59), (0x11d50, 0x11d59), (0x11da0, 0x11da9), (0x16a60, 0x16a69),
   (0x16ac0, 0x16ac9), (0x16b50, 0x16b59), (0x1d7ce, 0x1d7ff), (0x1e140, 0x1e149),
   (0x1e2f0, 0x1e2f9), (0x1e950, 0x1e959), (0x1f100, 0x1f10a), (0x1fbf0, 0x1fbf9)]

/-- `str.isdigit` of Python: not empty, and digits of any script. -/
def isdigit (s : Texto) : Bool :=
  !s.isEmpty && s.all fun c => digitRanges.any fun (lo, hi) => lo ≤ c.toNat && c.toNat ≤ hi

/-! ## The requests -/

/-- A request, with the parameters it has. -/
inductive Request
  | deleteUser (userId : ℕ)
  | syncPins
  | deleteRfid (userId : ℕ)
  | updateAdminPin (pinAdmin : Option Texto)
  | updateRfid (pin rfid : Option Texto)
  | deleteHuella (pin : Option Texto)
  | clearAllHuellas
  | updateHuella (pin huella : Option Texto)
  | checkStatus
  | panelGet
  | panelPost (codigo tag rfid huella : Option Texto)

inductive Response
  | text (status : ℕ) (body : Texto)
  | toPanel (flash : Option (Texto × Texto)) -- redirect to `panel_admin`, message and category
  | missingField -- 400
  | pins (usuarios : List Row)
  | lastUpdate
  | panel (usuarios : List Row)
deriving DecidableEq

/-- What a handler does: the table it leaves, its response, and whether it
called `notificar_cambio`. -/
structure Outcome where
  db : Db
  response : Response
  cambio : Bool
deriving DecidableEq

def unchanged (db : Db) (response : Response) : Outcome := ⟨db, response, false⟩

def flash (message category : String) : Response :=
  .toPanel (some (message.toList, category.toList))

/-- `request.args.get`: a missing argument counts as an empty one. -/
def argument (value : Option Texto) : Texto := value.getD []

def deleteUser (userId : ℕ) (db : Db) : Outcome :=
  if userId = 1 then
    unchanged db (.text 403 "ERROR: No se puede borrar al usuario Maestro (ID 1)".toList)
  else ⟨db.delete userId, .toPanel none, true⟩

def syncPins (db : Db) : Outcome := unchanged db (.pins db.active)

def deleteRfid (userId : ℕ) (db : Db) : Outcome :=
  match db.byId userId with
  | some user =>
    ⟨db.update (fun row => row.id = userId) ({ · with rfid := [] }),
      .toPanel (some ("RFID desvinculado del usuario ".toList ++ user.tag ++ ['.'],
        "warning".toList)), true⟩
  | none => unchanged db (flash "Usuario no encontrado." "error")

/-- The check of `update_admin_pin`. -/
def adminPinAccepted (nuevoPin : Texto) : Bool := nuevoPin.length = 5 && isdigit nuevoPin

def updateAdminPin (pinAdmin : Option Texto) (db : Db) : Outcome :=
  match pinAdmin with
  | none =>
    unchanged db (flash ("Error al actualizar: 400 Bad Request: The browser (or proxy) sent "
      ++ "a request that this server could not understand.") "danger")
  | some nuevoPin =>
    if adminPinAccepted nuevoPin then
      ⟨db.update (fun row => row.id = 1) ({ · with codigo := nuevoPin }),
        flash "¡Clave de Administrador actualizada con éxito!" "success", true⟩
    else unchanged db (flash "Error: El PIN Admin debe tener 5 números." "danger")

/-- `update_rfid_endpoint` and `update_huella_endpoint`: set a field of the
users with a PIN. -/
def updateByPin (pin value : Texto) (set : Texto → Row → Row) (db : Db) : Outcome :=
  if pin = [] ∨ value = [] then unchanged db (.text 400 "ERROR: Faltan parametros".toList)
  else
    match db.byCodigo pin with
    | some _ =>
      ⟨db.update (fun row => row.codigo = pin) (set value), .text 200 "UPDATED OK".toList, true⟩
    | none => unchanged db (.text 404 "ERROR: PIN NO EXISTE".toList)

def updateRfidEndpoint (pin rfid : Option Texto) (db : Db) : Outcome :=
  updateByPin (argument pin) (argument rfid) (fun value row => { row with rfid := value }) db

def updateHuellaEndpoint (pin huella : Option Texto) (db : Db) : Outcome :=
  updateByPin (argument pin) (argument huella) (fun value row => { row with huella := value }) db

def deleteHuellaEndpoint (pin : Option Texto) (db : Db) : Outcome :=
  if argument pin = [] then unchanged db (.text 400 "ERROR: Falta PIN".toList)
  else
    ⟨db.update (fun row => row.codigo = argument pin) ({ · with huella := [] }),
      .text 200 "DELETED OK".toList, true⟩

def clearAllHuellasEndpoint (db : Db) : Outcome :=
  ⟨db.update (fun _ => true) ({ · with huella := [] }), .text 200 "ALL CLEARED OK".toList, true⟩

def checkStatus (db : Db) : Outcome := unchanged db .lastUpdate

def panelGet (db : Db) : Outcome := unchanged db (.panel db.usuarios)

/-- The POST of `panel_admin`. Without a `codigo` it shows the panel. -/
def panelPost (codigo tag rfid huella : Option Texto) (db : Db) : Outcome :=
  match codigo with
  | none => panelGet db
  | some codigo =>
    match tag, rfid, huella with
    | some tag, some rfid, some huella =>
      match db.byCodigo codigo with
      | some _ => unchanged db (.toPanel (some ("¡Error! El PIN ".toList ++ codigo ++
          " ya existe.".toList, "danger".toList)))
      | none =>
        ⟨db.insert { id := 0, codigo := codigo, activo := 1, rfid := rfid, huella := huella,
                     tag := tag },
          flash "Usuario agregado correctamente." "success", true⟩
    | _, _, _ => unchanged db .missingField

def handle : Request → Db → Outcome
  | .deleteUser userId => deleteUser userId
  | .syncPins => syncPins
  | .deleteRfid userId => deleteRfid userId
  | .updateAdminPin pinAdmin => updateAdminPin pinAdmin
  | .updateRfid pin rfid => updateRfidEndpoint pin rfid
  | .deleteHuella pin => deleteHuellaEndpoint pin
  | .clearAllHuellas => clearAllHuellasEndpoint
  | .updateHuella pin huella => updateHuellaEndpoint pin huella
  | .checkStatus => checkStatus
  | .panelGet => panelGet
  | .panelPost codigo tag rfid huella => panelPost codigo tag rfid huella

/-- The table after the requests, one after the other. -/
def serve (db : Db) (reqs : List Request) : Db := reqs.foldl (fun db req => (handle req db).db) db

/-- A request that is answered with UPDATED OK has set the field of the users with
its PIN, and there is one. -/
theorem updateByPin_updated {pin value : Texto} {set : Texto → Row → Row} {db : Db}
    (h : (updateByPin pin value set db).response = .text 200 "UPDATED OK".toList) :
    (∃ row, db.byCodigo pin = some row) ∧
      (updateByPin pin value set db).db = db.update (fun row => row.codigo = pin) (set value) := by
  unfold updateByPin at h ⊢
  split_ifs at h ⊢ with hfalta
  · exact absurd (Response.text.inj h).1 (by decide)
  · cases hfound : db.byCodigo pin with
    | some row => exact ⟨⟨row, rfl⟩, rfl⟩
    | none =>
      rw [hfound] at h
      exact absurd (Response.text.inj h).1 (by decide)

/-- A handler that does not call `notificar_cambio` has not changed the table. -/
theorem handle_unchanged (req : Request) (db : Db) (h : (handle req db).cambio = false) :
    (handle req db).db = db := by
  revert h
  cases req with
  | syncPins | checkStatus | panelGet => exact fun _ => rfl
  | clearAllHuellas => exact fun h => nomatch h
  | deleteUser | deleteHuella | updateRfid | updateHuella | updateAdminPin | deleteRfid
  | panelPost =>
    simp only [handle, deleteUser, deleteHuellaEndpoint, updateRfidEndpoint,
      updateHuellaEndpoint, updateByPin, updateAdminPin, deleteRfid, panelPost, panelGet]
    repeat' split
    all_goals first | exact fun _ => rfl | exact fun h => nomatch h

/-- What a request can do to the table. -/
inductive Cambio (req : Request) (db : Db) : Db → Prop
  | nada : Cambio req db db
  | borra {userId : ℕ} : userId ≠ 1 → Cambio req db (db.delete userId)
  | agrega {row : Row} : row.activo = 1 → db.byCodigo row.codigo = none →
      Cambio req db (db.insert row)
  | credencial {donde : Row → Bool} {set : Row → Row} : (∀ row, (set row).codigo = row.codigo) →
      (∀ row, (set row).activo = row.activo) → Cambio req db (db.update donde set)
  | admin {nuevoPin : Texto} : req = .updateAdminPin (some nuevoPin) →
      adminPinAccepted nuevoPin = true →
      Cambio req db (db.update (fun row => row.id = 1) ({ · with codigo := nuevoPin }))

theorem handle_cambio (req : Request) (db : Db) : Cambio req db (handle req db).db := by
  cases req with
  | syncPins | checkStatus | panelGet => exact .nada
  | clearAllHuellas => exact .credencial (fun _ => rfl) fun _ => rfl
  | deleteUser userId =>
    simp only [handle, deleteUser]
    split_ifs with hmaster
    · exact .nada
    · exact .borra hmaster
  | panelPost =>
    simp only [handle, panelPost, panelGet]
    repeat' split
    all_goals first | exact .nada | skip
    next hnew => exact .agrega rfl hnew
  | updateAdminPin pinAdmin =>
    simp only [handle, updateAdminPin]
    split
    · exact .nada
    · split_ifs with hvalid
      · exact .admin rfl hvalid
      · exact .nada
  | deleteHuella | updateRfid | updateHuella | deleteRfid =>
    simp only [handle, deleteHuellaEndpoint, updateRfidEndpoint, updateHuellaEndpoint, updateByPin,
      deleteRfid]
    repeat' split
    all_goals first | exact .nada | exact .credencial (fun _ => rfl) fun _ => rfl

theorem mem_update {db : Db} {donde : Row → Bool} {set : Row → Row} {row : Row}
    (h : row ∈ (db.update donde set).usuarios) : ∃ row0 ∈ db.usuarios,
      (donde row0 = true ∧ row = { set row0 with id := row0.id }) ∨
        (donde row0 = false ∧ row = row0) := by
  obtain ⟨row0, hrow0, rfl⟩ := List.mem_map.mp h
  refine ⟨row0, hrow0, ?_⟩
  cases hd : donde row0 with
  | true => exact .inl ⟨rfl, rfl⟩
  | false => exact .inr ⟨rfl, rfl⟩

/-- The row has been deleted: its id does not come back. -/
def Retirado (db : Db) (id : ℕ) : Prop := id ≤ db.seq ∧ ∀ row ∈ db.usuarios, row.id ≠ id

instance (db : Db) (id : ℕ) : Decidable (Retirado db id) := inferInstanceAs (Decidable (_ ∧ _))

theorem Retirado.handle {db : Db} {id : ℕ} (req : Request) (h : Retirado db id) :
    Retirado (handle req db).db id := by
  have hcambio := handle_cambio req db
  generalize (Cerradura.handle req db).db = db' at hcambio ⊢
  have hupdate : ∀ donde set, Retirado (db.update donde set) id := by
    intro donde set
    refine ⟨h.1, fun row hrow => ?_⟩
    obtain ⟨row0, hrow0, ⟨-, rfl⟩ | ⟨-, rfl⟩⟩ := mem_update hrow
    · exact h.2 row0 hrow0
    · exact h.2 row hrow0
  cases hcambio with
  | nada => exact h
  | borra => exact ⟨h.1, fun row hrow => h.2 row (List.mem_of_mem_filter hrow)⟩
  | agrega =>
    refine ⟨Nat.le_succ_of_le h.1, fun row hrow => ?_⟩
    rcases List.mem_append.mp hrow with hrow | hrow
    · exact h.2 row hrow
    · rw [List.mem_singleton.mp hrow]
      exact Nat.ne_of_gt (Nat.lt_succ_of_le h.1)
  | credencial => exact hupdate _ _
  | admin => exact hupdate _ _

/-! ## Unique PINs -/

/-- No two rows have the same PIN. -/
def PinsUnique (db : Db) : Prop := (db.usuarios.map (·.codigo)).Nodup

instance (db : Db) : Decidable (PinsUnique db) := inferInstanceAs (Decidable (List.Nodup _))

/-- The request does not give the administrator the PIN of another user. -/
def KeepsPinsApart (req : Request) (db : Db) : Prop :=
  match req with
  | .updateAdminPin (some nuevoPin) =>
    adminPinAccepted nuevoPin = true → ∀ row ∈ db.usuarios, row.codigo = nuevoPin → row.id = 1
  | _ => True

theorem update_codigos {db : Db} {donde : Row → Bool} {set : Row → Row}
    (hset : ∀ row, (set row).codigo = row.codigo) :
    (db.update donde set).usuarios.map (·.codigo) = db.usuarios.map (·.codigo) := by
  simp only [Db.update, List.map_map]
  refine List.map_congr_left fun row _ => ?_
  simp only [Function.comp_apply]
  split
  · exact hset row
  · rfl

theorem PinsUnique.update {db : Db} {donde : Row → Bool} {set : Row → Row}
    (hset : ∀ row, (set row).codigo = row.codigo) (h : PinsUnique db) :
    PinsUnique (db.update donde set) := by
  unfold PinsUnique
  rw [update_codigos hset]
  exact h

theorem PinsUnique.delete {db : Db} {userId : ℕ} (h : PinsUnique db) :
    PinsUnique (db.delete userId) :=
  h.sublist (List.filter_sublist.map _)

theorem byCodigo_eq_none {db : Db} {codigo : Texto} (h : db.byCodigo codigo = none) :
    codigo ∉ db.usuarios.map (·.codigo) := by
  intro hmem
  obtain ⟨row, hrow, rfl⟩ := List.mem_map.mp hmem
  have hno := List.find?_eq_none.mp h row hrow
  exact hno (decide_eq_true rfl)

theorem PinsUnique.insert {db : Db} {row : Row} (hnew : db.byCodigo row.codigo = none)
    (h : PinsUnique db) : PinsUnique (db.insert row) := by
  unfold PinsUnique Db.insert
  rw [List.map_append]
  refine List.Nodup.append h (List.nodup_singleton _) ?_
  intro codigo hold hone
  rw [List.mem_singleton.mp hone] at hold
  exact byCodigo_eq_none hnew hold

/-- Rows that share an id are one row. -/
theorem eq_of_id_eq {db : Db} {a b : Row} (ha : a ∈ db.usuarios) (hb : b ∈ db.usuarios)
    (hid : a.id = b.id) : a = b := by
  have hnodup : (db.usuarios.map (·.id)).Nodup :=
    List.pairwise_map.mpr (db.ordered.imp fun hlt => Nat.ne_of_lt hlt)
  exact List.inj_on_of_nodup_map hnodup ha hb hid

/-- Distinct rows have distinct PINs. -/
theorem pinsUnique_iff {db : Db} : PinsUnique db ↔
    ∀ a ∈ db.usuarios, ∀ b ∈ db.usuarios, a.codigo = b.codigo → a.id = b.id := by
  constructor
  · intro h a ha b hb hab
    exact congrArg Row.id (List.inj_on_of_nodup_map h ha hb hab)
  · intro h
    have hnodup : db.usuarios.Nodup := db.ordered.imp fun hlt heq => by simp [heq] at hlt
    exact hnodup.map_on fun a ha b hb hab => eq_of_id_eq ha hb (h a ha b hb hab)

/-- What `update_admin_pin` does to a row. -/
def withAdminPin (nuevoPin : Texto) (row : Row) : Row :=
  if row.id = 1 then { row with codigo := nuevoPin } else row

theorem mem_update_admin {db : Db} {nuevoPin : Texto} {row : Row} :
    row ∈ (db.update (fun row => row.id = 1) ({ · with codigo := nuevoPin })).usuarios ↔
      ∃ old ∈ db.usuarios, withAdminPin nuevoPin old = row := by
  simp [Db.update, withAdminPin]

theorem withAdminPin_id {nuevoPin : Texto} {row : Row} :
    (withAdminPin nuevoPin row).id = row.id := by
  unfold withAdminPin
  split <;> rfl

/-- The new administrator's PIN keeps the PINs apart exactly when no other user
has it. -/
theorem update_admin_unique_iff {db : Db} {nuevoPin : Texto} (h : PinsUnique db)
    (hadmin : ∃ row ∈ db.usuarios, row.id = 1) :
    PinsUnique (db.update (fun row => row.id = 1) ({ · with codigo := nuevoPin })) ↔
      ∀ row ∈ db.usuarios, row.codigo = nuevoPin → row.id = 1 := by
  rw [pinsUnique_iff] at h ⊢
  constructor
  · intro hnew row hrow hpin
    obtain ⟨admin, hadmin, hone⟩ := hadmin
    by_contra hother
    have hsame := hnew _ (mem_update_admin.mpr ⟨admin, hadmin, rfl⟩)
      _ (mem_update_admin.mpr ⟨row, hrow, rfl⟩) (by simp [withAdminPin, hone, hother, hpin])
    rw [withAdminPin_id, withAdminPin_id, hone] at hsame
    exact hother hsame.symm
  · intro hapart a ha b hb hab
    obtain ⟨olda, holda, rfl⟩ := mem_update_admin.mp ha
    obtain ⟨oldb, holdb, rfl⟩ := mem_update_admin.mp hb
    rw [withAdminPin_id, withAdminPin_id]
    unfold withAdminPin at hab
    split_ifs at hab with ha1 hb1 hb1
    · rw [ha1, hb1]
    · rw [ha1, hapart oldb holdb hab.symm]
    · rw [hb1, hapart olda holda hab]
    · exact h olda holda oldb holdb hab

/-- The administrator is in the table. -/
def HasAdmin (db : Db) : Prop := ∃ row ∈ db.usuarios, row.id = 1

theorem HasAdmin.update {db : Db} {donde : Row → Bool} {set : Row → Row} (h : HasAdmin db) :
    HasAdmin (db.update donde set) := by
  obtain ⟨row, hrow, hone⟩ := h
  refine ⟨_, List.mem_map_of_mem hrow, ?_⟩
  split <;> exact hone

theorem HasAdmin.handle {db : Db} (req : Request) (h : HasAdmin db) :
    HasAdmin (handle req db).db := by
  have hcambio := handle_cambio req db
  generalize (Cerradura.handle req db).db = db' at hcambio ⊢
  cases hcambio with
  | nada => exact h
  | borra hmaster =>
    obtain ⟨row, hrow, hone⟩ := h
    refine ⟨row, List.mem_filter.mpr ⟨hrow, decide_eq_true fun hid => ?_⟩, hone⟩
    exact hmaster (hid.symm.trans hone)
  | agrega =>
    obtain ⟨row, hrow, hone⟩ := h
    exact ⟨row, List.mem_append_left _ hrow, hone⟩
  | credencial => exact h.update
  | admin => exact h.update

/-- One request keeps the PINs unique exactly when it does not give the
administrator the PIN of another user. -/
theorem handle_unique_iff {db : Db} (req : Request) (h : PinsUnique db) (hadmin : HasAdmin db) :
    PinsUnique (handle req db).db ↔ KeepsPinsApart req db := by
  cases req with
  | updateAdminPin pinAdmin =>
    cases pinAdmin with
    | none => exact iff_of_true h trivial
    | some nuevoPin =>
      simp only [handle, Cerradura.updateAdminPin, KeepsPinsApart]
      split_ifs with hvalid
      · rw [update_admin_unique_iff h hadmin]
        exact ⟨fun hapart _ => hapart, fun hapart => hapart hvalid⟩
      · exact iff_of_true h fun hyes => absurd hyes hvalid
  | syncPins | checkStatus | panelGet => exact iff_of_true h trivial
  | clearAllHuellas => exact iff_of_true (h.update fun _ => rfl) trivial
  | deleteUser userId =>
    refine iff_of_true ?_ trivial
    simp only [handle, Cerradura.deleteUser]
    split_ifs
    · exact h
    · exact h.delete
  | panelPost =>
    refine iff_of_true ?_ trivial
    simp only [handle, Cerradura.panelPost, Cerradura.panelGet]
    repeat' split
    all_goals first | exact h | skip
    next hnew => exact h.insert hnew
  | deleteHuella | updateRfid | updateHuella | deleteRfid =>
    refine iff_of_true ?_ trivial
    simp only [handle, deleteHuellaEndpoint, updateRfidEndpoint, updateHuellaEndpoint,
      updateByPin, Cerradura.deleteRfid]
    repeat' split
    all_goals first | exact h | exact h.update fun _ => rfl

theorem serve_take_succ {db : Db} {reqs : List Request} {n : ℕ} {req : Request}
    (h : reqs[n]? = some req) :
    serve db (reqs.take (n + 1)) = (handle req (serve db (reqs.take n))).db := by
  rw [List.take_add_one, h, serve, List.foldl_append]
  rfl

/-- What every request keeps. -/
theorem serve_invariant {I : Db → Prop} (hkeep : ∀ req db, I db → I (handle req db).db) {db : Db}
    (hI : I db) (reqs : List Request) : I (serve db reqs) := by
  induction reqs generalizing db with
  | nil => exact hI
  | cons req rest ih => exact ih (hkeep req db hI)

/-- A law that holds after each request of a sequence, from what one request
needs to keep it. -/
theorem serve_forall_iff {I P : Db → Prop} {Q : Request → Db → Prop}
    (hkeep : ∀ req db, I db → I (handle req db).db)
    (hstep : ∀ req db, I db → P db → (P (handle req db).db ↔ Q req db)) {db : Db} (hI : I db)
    (hP : P db) (reqs : List Request) : (∀ n, P (serve db (reqs.take n))) ↔
      ∀ n req, reqs[n]? = some req → Q req (serve db (reqs.take n)) := by
  have hnext : ∀ n req, reqs[n]? = some req → P (serve db (reqs.take n)) →
      (P (serve db (reqs.take (n + 1))) ↔ Q req (serve db (reqs.take n))) := by
    intro n req hreq hn
    rw [serve_take_succ hreq]
    exact hstep req _ (serve_invariant hkeep hI _) hn
  constructor
  · intro h n req hreq
    exact (hnext n req hreq (h n)).mp (h (n + 1))
  · intro h n
    induction n with
    | zero => exact hP
    | succ n ih =>
      cases hreq : reqs[n]? with
      | some req => exact (hnext n req hreq ih).mpr (h n req hreq)
      | none =>
        have hlen := List.getElem?_eq_none_iff.mp hreq
        rw [List.take_of_length_le (Nat.le_succ_of_le hlen)]
        rwa [List.take_of_length_le hlen] at ih

theorem initDb_hasAdmin : HasAdmin initDb := ⟨_, List.mem_singleton.mpr rfl, rfl⟩

/-- For every sequence of requests: the PINs are unique after each of them if
and only if no accepted change of the administrator's PIN takes the PIN of
another user. -/
theorem pins_unique_iff (reqs : List Request) :
    (∀ n, PinsUnique (serve initDb (reqs.take n))) ↔
      ∀ n req, reqs[n]? = some req → KeepsPinsApart req (serve initDb (reqs.take n)) :=
  serve_forall_iff (fun req _ => HasAdmin.handle req)
    (fun req _ hadmin hunique => handle_unique_iff req hunique hadmin) initDb_hasAdmin
    (List.nodup_singleton _) reqs

/-- A user is added with the PIN 22222, and then the administrator takes it. -/
theorem admin_pin_collides : ¬ ∀ reqs : List Request, PinsUnique (serve initDb reqs) := by
  intro h
  have hclash := h [.panelPost (some "22222".toList) (some []) (some []) (some []),
    .updateAdminPin (some "22222".toList)]
  revert hclash
  decide

end Cerradura
