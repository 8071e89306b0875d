import Cerradura.Hilos

/-!
# Who a row is about

Whatever the statements of the requests that come between the check and the write of
a handler, the rows of the server keep their meaning: an id is given to one user only,
even after that user has been deleted, and the user keeps the tag and the PIN. Only
the administrator's PIN changes, and the administrator stays.

Result: `identidad_estable`, for any two moments of any run, those included in which
handlers write on checks that no longer hold.
-/

namespace Cerradura

open Transition

/-! ## What becomes of a table -/

/-- The same user. -/
structure Row.Misma (row row' : Row) : Prop where
  id : row'.id = row.id
  tag : row'.tag = row.tag
  activo : row'.activo = row.activo
  codigo : row.id ≠ 1 → row'.codigo = row.codigo

/-- The table `db'` may come from `db`. -/
structure Hereda (db db' : Db) : Prop where
  seq : db.seq ≤ db'.seq
  viejas : ∀ row' ∈ db'.usuarios, row'.id ≤ db.seq → ∃ row ∈ db.usuarios, row.Misma row'
  nuevas : ∀ row' ∈ db'.usuarios, db.seq < row'.id → row'.activo = 1
  admin : HasAdmin db → HasAdmin db'

theorem Row.Misma.refl (row : Row) : row.Misma row := ⟨rfl, rfl, rfl, fun _ => rfl⟩

theorem Row.Misma.trans {row row' row'' : Row} (h : row.Misma row') (h' : row'.Misma row'') :
    row.Misma row'' where
  id := h'.id.trans h.id
  tag := h'.tag.trans h.tag
  activo := h'.activo.trans h.activo
  codigo hmaster := (h'.codigo fun h1 => hmaster (h.id.symm.trans h1)).trans (h.codigo hmaster)

variable {db db' db'' : Db}

namespace Hereda

theorem refl (db : Db) : Hereda db db where
  seq := Nat.le_refl _
  viejas row hrow _ := ⟨row, hrow, .refl row⟩
  nuevas row hrow hnew := absurd (db.numbered row hrow).2 (Nat.not_le_of_lt hnew)
  admin h := h

theorem trans (h : Hereda db db') (h' : Hereda db' db'') : Hereda db db'' where
  seq := Nat.le_trans h.seq h'.seq
  viejas row'' hrow'' hid := by
    obtain ⟨row', hrow', hmisma'⟩ := h'.viejas row'' hrow'' (Nat.le_trans hid h.seq)
    obtain ⟨row, hrow, hmisma⟩ := h.viejas row' hrow' (hmisma'.id ▸ hid)
    exact ⟨row, hrow, hmisma.trans hmisma'⟩
  nuevas row'' hrow'' hnew := by
    rcases Nat.lt_or_ge db'.seq row''.id with hlate | hearly
    · exact h'.nuevas row'' hrow'' hlate
    · obtain ⟨row', hrow', hmisma⟩ := h'.viejas row'' hrow'' hearly
      exact hmisma.activo.trans (h.nuevas row' hrow' (hmisma.id ▸ hnew))
  admin hadmin := h'.admin (h.admin hadmin)

theorem insert {row : Row} (hactivo : row.activo = 1) : Hereda db (db.insert row) where
  seq := Nat.le_succ _
  viejas row' hrow' hid := by
    rcases List.mem_append.mp hrow' with hrow' | hrow'
    · exact ⟨row', hrow', .refl row'⟩
    · rw [List.mem_singleton.mp hrow'] at hid
      exact absurd hid (Nat.not_succ_le_self _)
  nuevas row' hrow' hnew := by
    rcases List.mem_append.mp hrow' with hrow' | hrow'
    · exact absurd (db.numbered row' hrow').2 (Nat.not_le_of_lt hnew)
    · rw [List.mem_singleton.mp hrow']
      exact hactivo
  admin := by
    rintro ⟨row, hrow, hid⟩
    exact ⟨row, List.mem_append_left _ hrow, hid⟩

theorem delete {userId : ℕ} (hmaster : userId ≠ 1) : Hereda db (db.delete userId) where
  seq := Nat.le_refl _
  viejas row hrow _ := ⟨row, List.mem_of_mem_filter hrow, .refl row⟩
  nuevas row hrow hnew :=
    absurd (db.numbered row (List.mem_of_mem_filter hrow)).2 (Nat.not_le_of_lt hnew)
  admin := by
    rintro ⟨row, hrow, hid⟩
    exact ⟨row, List.mem_filter.mpr ⟨hrow, decide_eq_true (hid ▸ Ne.symm hmaster)⟩, hid⟩

/-- An UPDATE that sets neither the tag nor, but for the administrator, the PIN. -/
theorem update {donde : Row → Bool} {set : Row → Row} (htag : ∀ row, (set row).tag = row.tag)
    (hactivo : ∀ row, (set row).activo = row.activo)
    (hcodigo : ∀ row, donde row = true → row.id ≠ 1 → (set row).codigo = row.codigo) :
    Hereda db (db.update donde set) where
  seq := Nat.le_refl _
  viejas row' hrow' _ := by
    obtain ⟨row, hrow, ⟨hdonde, rfl⟩ | ⟨-, rfl⟩⟩ := mem_update hrow'
    · exact ⟨row, hrow, rfl, htag row, hactivo row, hcodigo row hdonde⟩
    · exact ⟨row', hrow, .refl row'⟩
  nuevas row' hrow' hnew := by
    obtain ⟨row, hrow, ⟨-, rfl⟩ | ⟨-, rfl⟩⟩ := mem_update hrow'
    · exact absurd (db.numbered row hrow).2 (Nat.not_le_of_lt hnew)
    · exact absurd (db.numbered row' hrow).2 (Nat.not_le_of_lt hnew)
  admin h := h.update

/-- An UPDATE of a card or a fingerprint. -/
theorem credencial {donde : Row → Bool} {set : Row → Row}
    (h : ∀ row, (set row).tag = row.tag ∧ (set row).activo = row.activo ∧
      (set row).codigo = row.codigo) : Hereda db (db.update donde set) :=
  update (fun row => (h row).1) (fun row => (h row).2.1) fun row _ _ => (h row).2.2

/-- The id of a deleted user is not given again. -/
theorem retirado (h : Hereda db db') {id : ℕ} (hid : Retirado db id) : Retirado db' id := by
  refine ⟨Nat.le_trans hid.1 h.seq, fun row' hrow' heq => ?_⟩
  obtain ⟨row, hrow, hmisma⟩ := h.viejas row' hrow' (heq ▸ hid.1)
  exact hid.2 row hrow (hmisma.id.symm.trans heq)

end Hereda

/-! ## Statements -/

/-- A write that is left to be done by the PIN sets a card or a fingerprint. -/
theorem pendiente_credencial {req : Request} {pin : Texto} {set : Row → Row}
    (h : pendiente req db = some (.pone pin set)) (row : Row) :
    (set row).tag = row.tag ∧ (set row).activo = row.activo ∧ (set row).codigo = row.codigo := by
  unfold pendiente pendienteByPin at h
  repeat' split at h
  all_goals first | cases h; exact ⟨rfl, rfl, rfl⟩ | cases h

/-- The write, on whatever the table has become. -/
theorem escribe_hereda {req : Request} {resto : Resto} (h : pendiente req db = some resto)
    (db' : Db) : Hereda db' (resto.escribe db').db := by
  cases resto with
  | agrega codigo tag rfid huella => exact .insert rfl
  | pone pin set => exact .credencial (pendiente_credencial h)
  | quitaRfid userId tag => exact .credencial fun _ => ⟨rfl, rfl, rfl⟩

/-- A request in one piece. -/
theorem handle_hereda (req : Request) (db : Db) : Hereda db (handle req db).db := by
  cases req with
  | syncPins | checkStatus | panelGet => exact .refl db
  | clearAllHuellas => exact .credencial fun _ => ⟨rfl, rfl, rfl⟩
  | deleteUser userId =>
    simp only [handle, deleteUser]
    split_ifs with hmaster
    · exact .refl db
    · exact .delete hmaster
  | updateAdminPin pinAdmin =>
    simp only [handle, updateAdminPin]
    repeat' split
    all_goals first | exact .refl db | skip
    exact .update (fun _ => rfl) (fun _ => rfl) fun row hdonde hmaster =>
      absurd (of_decide_eq_true hdonde) hmaster
  | panelPost =>
    simp only [handle, panelPost, panelGet]
    repeat' split
    all_goals first | exact .refl db | exact .insert rfl
  | deleteHuella | updateRfid | updateHuella | deleteRfid =>
    simp only [handle, deleteHuellaEndpoint, updateRfidEndpoint, updateHuellaEndpoint, updateByPin,
      deleteRfid]
    repeat' split
    all_goals first | exact .refl db | exact .credencial fun _ => ⟨rfl, rfl, rfl⟩

variable {ι : Type} [DecidableEq ι] {reqs : ι → Request} {s s' : Estado ι}

/-- Each write that is left to be done was so on some table. -/
def Leidos (reqs : ι → Request) (s : Estado ι) : Prop :=
  ∀ i resto, s.fase i = .leido resto → ∃ db, pendiente (reqs i) db = some resto

theorem Leidos.termina (h : Leidos reqs s) (i : ι) (salida : Outcome) :
    Leidos reqs (s.termina i salida) := by
  intro j resto hj
  have hj : Function.update s.fase i (.respondio salida.response) j = .leido resto := hj
  by_cases hij : j = i
  · rw [hij, Function.update_self] at hj
    cases hj
  · rw [Function.update_of_ne hij] at hj
    exact h j resto hj

theorem Leidos.lee {i : ι} {resto : Resto} (h : Leidos reqs s)
    (hresto : pendiente (reqs i) s.db = some resto) : Leidos reqs (s.lee i resto) := by
  intro j resto' hj
  have hj : Function.update s.fase i (.leido resto) j = .leido resto' := hj
  by_cases hij : j = i
  · subst hij
    rw [Function.update_self] at hj
    cases hj
    exact ⟨s.db, hresto⟩
  · rw [Function.update_of_ne hij] at hj
    exact h j resto' hj

/-- One statement of any thread. -/
theorem Leidos.sentencia (h : Leidos reqs s) (i : ι) :
    Leidos reqs (s.sentencia reqs i) ∧ Hereda s.db (s.sentencia reqs i).db := by
  unfold Estado.sentencia
  cases hfase : s.fase i with
  | nuevo =>
    dsimp only
    cases hresto : pendiente (reqs i) s.db with
    | some resto => exact ⟨h.lee hresto, .refl s.db⟩
    | none => exact ⟨h.termina i _, handle_hereda (reqs i) s.db⟩
  | leido resto =>
    obtain ⟨db, hresto⟩ := h i resto hfase
    exact ⟨h.termina i _, escribe_hereda hresto s.db⟩
  | respondio response => exact ⟨h, .refl s.db⟩

/-! ## Runs -/

theorem reach_leidos (h : (concurrencia reqs).Reach Machine.Any (.inicial db) s) :
    Leidos reqs s :=
  h.invariant (fun _ i hs _ _ => (hs.sentencia i).1) fun _ _ hfase => nomatch hfase

theorem Leidos.reach (h : Leidos reqs s) (h' : (concurrencia reqs).Reach Machine.Any s s') :
    Leidos reqs s' ∧ Hereda s.db s'.db := by
  refine h'.invariant (P := fun s' => Leidos reqs s' ∧ Hereda s.db s'.db) ?_ ⟨h, .refl s.db⟩
  rintro s1 i ⟨hleidos, hhereda⟩ - -
  obtain ⟨hleidos', hhereda'⟩ := hleidos.sentencia i
  exact ⟨hleidos', hhereda.trans hhereda'⟩

/-- Between any two moments of any run of the threads, in whatever order they take
their statements, each row stays the same user's and the ids of the deleted users do
not come back. -/
theorem identidad_estable (h : (concurrencia reqs).Reach Machine.Any (.inicial db) s)
    (h' : (concurrencia reqs).Reach Machine.Any s s') :
    Hereda s.db s'.db ∧ ∀ id, Retirado s.db id → Retirado s'.db id := by
  have hhereda : Hereda s.db s'.db := ((reach_leidos h).reach h').2
  exact ⟨hhereda, fun _ hid => hhereda.retirado hid⟩

/-- The user is deleted between the check and the write of another request. -/
theorem identidad_estable_borraEnMedio :
    Hereda conUsuario ((concurrencia borraEnMedio).runs (.inicial conUsuario)
      [false, true, false]).db := by
  have hrun : (concurrencia borraEnMedio).Allowed Machine.Any (.inicial conUsuario)
      [false, true, false] := by
    refine ⟨⟨?_, trivial⟩, ⟨?_, trivial⟩, ⟨?_, trivial⟩, trivial⟩
    all_goals exact fun _ => nofun
  exact (identidad_estable .refl hrun.reach).1

end Cerradura
