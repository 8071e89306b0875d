import Cerradura.JsonObject

/-!
# The master account

Row 1 of the server is the administrator's, and no constraint of the table
protects it. Its PIN has to be typed on the keypad of the lock, which has the
digits 0 to 9 only.

Results:
1. `cuenta_maestra_iff`: after every request there is exactly one row 1, it is
   active and its PIN can be typed, if and only if every accepted change of the
   administrator's PIN is to one that can be typed.
2. `maestro_intecleable`: a PIN in other digits.
-/

namespace Cerradura

/-- Exactly one row has the id 1, and it is active. -/
def UnaMaestra (db : Db) : Prop :=
  ∃ row, (db.usuarios.filter fun row => row.id = 1) = [row] ∧ row.activo = 1

/-- Its PIN consists of five keys of the keypad. -/
def CuentaMaestra (db : Db) : Prop :=
  ∃ row, (db.usuarios.filter fun row => row.id = 1) = [row] ∧ row.activo = 1 ∧
    CincoDigitos row.codigo

theorem CuentaMaestra.una {db : Db} (h : CuentaMaestra db) : UnaMaestra db := by
  obtain ⟨row, hrow, hactivo, -⟩ := h
  exact ⟨row, hrow, hactivo⟩

/-- A change of the administrator's PIN is to five keys of the keypad. -/
def Tecleable : Request → Prop
  | .updateAdminPin (some nuevoPin) => adminPinAccepted nuevoPin = true → CincoDigitos nuevoPin
  | _ => True

/-- Row 1 after a statement. -/
theorem filter_update {db : Db} {donde : Row → Bool} {set : Row → Row} {row : Row}
    (h : (db.usuarios.filter fun row => row.id = 1) = [row]) :
    ((db.update donde set).usuarios.filter fun row => row.id = 1) =
      [if donde row then { set row with id := row.id } else row] := by
  have hid : (fun row : Row => decide (row.id = 1)) ∘
      (fun row => if donde row then { set row with id := row.id } else row) =
      fun row => decide (row.id = 1) := by
    funext row
    simp only [Function.comp_apply]
    split_ifs <;> rfl
  rw [Db.update, List.filter_map, hid, h]
  rfl

theorem filter_delete {db : Db} {userId : ℕ} (hmaster : userId ≠ 1) :
    ((db.delete userId).usuarios.filter fun row => row.id = 1) =
      db.usuarios.filter fun row => row.id = 1 := by
  rw [Db.delete, List.filter_filter]
  refine List.filter_congr fun row _ => ?_
  by_cases hid : row.id = 1
  · simp [hid, Ne.symm hmaster]
  · simp [hid]

theorem id_of_filter {db : Db} {row : Row}
    (h : (db.usuarios.filter fun row => row.id = 1) = [row]) : row ∈ db.usuarios ∧ row.id = 1 := by
  have hmem : row ∈ db.usuarios.filter fun row => row.id = 1 := h ▸ List.mem_singleton_self row
  exact ⟨List.mem_of_mem_filter hmem, of_decide_eq_true (List.mem_filter.mp hmem).2⟩

/-- The key counter is past 1 once there is a row 1. -/
theorem filter_insert {db : Db} {row nueva : Row}
    (h : (db.usuarios.filter fun row => row.id = 1) = [row]) :
    ((db.insert nueva).usuarios.filter fun row => row.id = 1) = [row] := by
  obtain ⟨hmem, hone⟩ := id_of_filter h
  have hseq := (db.numbered row hmem).2
  have hnueva : db.seq ≠ 0 := by omega
  rw [Db.insert, List.filter_append, h]
  simp [hnueva]

theorem UnaMaestra.handle (req : Request) (db : Db) (h : UnaMaestra db) :
    UnaMaestra (handle req db).db := by
  obtain ⟨row, hrow, hactivo⟩ := h
  have hcambio := handle_cambio req db
  generalize (Cerradura.handle req db).db = db' at hcambio ⊢
  cases hcambio with
  | nada => exact ⟨row, hrow, hactivo⟩
  | borra hmaster => exact ⟨row, (filter_delete hmaster).trans hrow, hactivo⟩
  | agrega => exact ⟨row, filter_insert hrow, hactivo⟩
  | credencial _ hset =>
    refine ⟨_, filter_update hrow, ?_⟩
    split_ifs
    · exact (hset row).trans hactivo
    · exact hactivo
  | admin =>
    refine ⟨_, filter_update hrow, ?_⟩
    split_ifs
    · exact hactivo
    · exact hactivo

/-- One request keeps the account exactly when the PIN it sets can be typed. -/
theorem handle_cuenta_iff (req : Request) (db : Db) (h : CuentaMaestra db) :
    CuentaMaestra (handle req db).db ↔ Tecleable req := by
  obtain ⟨row, hrow, hactivo, hcodigo⟩ := h
  by_cases hadmin : ∃ nuevoPin, req = .updateAdminPin (some nuevoPin) ∧
      adminPinAccepted nuevoPin = true
  · obtain ⟨nuevoPin, rfl, hvalid⟩ := hadmin
    have hdb : (handle (.updateAdminPin (some nuevoPin)) db).db =
        db.update (fun row => row.id = 1) ({ · with codigo := nuevoPin }) := by
      show (if adminPinAccepted nuevoPin then _ else _ : Outcome).db = _
      rw [if_pos hvalid]
    have hone : decide (row.id = 1) = true := decide_eq_true (id_of_filter hrow).2
    have hnueva :
        ((db.update (fun row => row.id = 1) ({ · with codigo := nuevoPin })).usuarios.filter
          fun row => row.id = 1) = [{ row with codigo := nuevoPin }] := by
      rw [filter_update hrow, if_pos hone]
    rw [hdb]
    constructor
    · rintro ⟨row', hrow', -, hcodigo'⟩ _
      rw [hnueva] at hrow'
      rw [← (List.cons.inj hrow').1] at hcodigo'
      exact hcodigo'
    · intro hteclas
      exact ⟨_, hnueva, hactivo, hteclas hvalid⟩
  · refine iff_of_true ?_ ?_
    · have hcambio := handle_cambio req db
      generalize (handle req db).db = db' at hcambio ⊢
      cases hcambio with
      | nada => exact ⟨row, hrow, hactivo, hcodigo⟩
      | borra hmaster => exact ⟨row, (filter_delete hmaster).trans hrow, hactivo, hcodigo⟩
      | agrega => exact ⟨row, filter_insert hrow, hactivo, hcodigo⟩
      | credencial hset hset' =>
        refine ⟨_, filter_update hrow, ?_⟩
        split_ifs
        · exact ⟨(hset' row).trans hactivo, (congrArg CincoDigitos (hset row)).mpr hcodigo⟩
        · exact ⟨hactivo, hcodigo⟩
      | admin hreq hvalid => exact absurd ⟨_, hreq, hvalid⟩ hadmin
    · unfold Tecleable
      split
      · next nuevoPin => exact fun hvalid => absurd ⟨nuevoPin, rfl, hvalid⟩ hadmin
      · trivial

/-- For every sequence of requests: the master account is as it should be after
each of them if and only if every accepted change of its PIN is to one that can
be typed. -/
theorem cuenta_maestra_iff (reqs : List Request) :
    (∀ n, CuentaMaestra (serve initDb (reqs.take n))) ↔ ∀ req ∈ reqs, Tecleable req := by
  have hinit : CuentaMaestra initDb := ⟨_, rfl, rfl, by decide⟩
  rw [serve_forall_iff (I := fun _ => True) (Q := fun req _ => Tecleable req) (fun _ _ _ => trivial)
    (fun req db _ h => handle_cuenta_iff req db h) trivial hinit reqs]
  constructor
  · intro h req hreq
    obtain ⟨n, hn⟩ := List.mem_iff_getElem?.mp hreq
    exact h n req hn
  · exact fun h n req hreq => h req (List.mem_of_getElem? hreq)

/-- Whatever is requested, row 1 stays, alone and active. -/
theorem una_maestra (reqs : List Request) : UnaMaestra (serve initDb reqs) :=
  serve_invariant (fun req db h => UnaMaestra.handle req db h) ⟨_, rfl, rfl⟩ reqs

/-- The PIN 12345 in Arabic-Indic digits. -/
def pinArabigo : Texto := [0x661, 0x662, 0x663, 0x664, 0x665].map Char.ofNat

/-- It is accepted, and has no keys. -/
theorem maestro_intecleable : ¬ ∀ reqs : List Request, CuentaMaestra (serve initDb reqs) := by
  intro h
  obtain ⟨row, hrow, -, hcodigo⟩ := h [.updateAdminPin (some pinArabigo)]
  have husuarios : (serve initDb [.updateAdminPin (some pinArabigo)]).usuarios =
      [{ id := 1, codigo := pinArabigo, activo := 1, rfid := [], huella := [],
         tag := "ADMIN".toList }] := by decide +kernel
  have hmem := (id_of_filter hrow).1
  rw [husuarios, List.mem_singleton] at hmem
  rw [hmem] at hcodigo
  exact absurd hcodigo (by decide)

end Cerradura
