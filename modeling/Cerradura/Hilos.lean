import Cerradura.Serial
import Cerradura.Server
import Cerradura.Transition
import Mathlib.Logic.Function.Basic

/-!
# Requests in threads

The server runs each request in a thread with a connection of its own. A SELECT
does not open a transaction, and so the statements of other requests can come
between the check of a handler and the write that it is for. A write and its
`commit` are one step, since SQLite keeps every other write out from the one to
the other and the others read the table as it was until the `commit`.

Results:
1. `en_serie`: in every run in which each handler that adds or changes a user
   writes while its check would still pass, the table and the replies are those
   of the requests one after the other.
2. `alta_doble`: two requests that add the same PIN, both with success.
-/

namespace Cerradura

open Transition Serial

/-! ## Statements -/

/-- The write that a handler still has to make when its SELECT has passed. -/
inductive Resto
  | agrega (codigo tag rfid huella : Texto)
  | pone (pin : Texto) (set : Row → Row)
  | quitaRfid (userId : ℕ) (tag : Texto)

def Resto.escribe (db : Db) : Resto → Outcome
  | .agrega codigo tag rfid huella =>
    ⟨db.insert { id := 0, codigo := codigo, activo := 1, rfid := rfid, huella := huella,
                 tag := tag },
      flash "Usuario agregado correctamente." "success", true⟩
  | .pone pin set =>
    ⟨db.update (fun row => row.codigo = pin) set, .text 200 "UPDATED OK".toList, true⟩
  | .quitaRfid userId tag =>
    ⟨db.update (fun row => row.id = userId) ({ · with rfid := [] }),
      .toPanel (some ("RFID desvinculado del usuario ".toList ++ tag ++ ['.'],
        "warning".toList)), true⟩

def pendienteByPin (pin value : Texto) (set : Texto → Row → Row) (db : Db) : Option Resto :=
  if pin = [] ∨ value = [] then none
  else
    match db.byCodigo pin with
    | some _ => some (.pone pin (set value))
    | none => none

/-- What the SELECT of a handler leaves to be done. The handlers without one, and
those whose SELECT settles the request, are a single statement. -/
def pendiente : Request → Db → Option Resto
  | .panelPost (some codigo) (some tag) (some rfid) (some huella), db =>
    match db.byCodigo codigo with
    | some _ => none
    | none => some (.agrega codigo tag rfid huella)
  | .updateRfid pin rfid, db =>
    pendienteByPin (argument pin) (argument rfid) (fun value row => { row with rfid := value }) db
  | .updateHuella pin huella, db =>
    pendienteByPin (argument pin) (argument huella) (fun value row => { row with huella := value })
      db
  | .deleteRfid userId, db =>
    match db.byId userId with
    | some user => some (.quitaRfid userId user.tag)
    | none => none
  | _, _ => none

/-- How far a request is. -/
inductive Fase
  | nuevo
  | leido (resto : Resto)
  | respondio (response : Response)

/-- The table, the requests in progress, and those that are finished, in the
order in which they finished. -/
structure Estado (ι : Type) where
  db : Db
  fase : ι → Fase
  terminados : List ι

variable {ι : Type} [DecidableEq ι]

namespace Estado

def inicial (db : Db) : Estado ι := ⟨db, fun _ => .nuevo, []⟩

def lee (s : Estado ι) (i : ι) (resto : Resto) : Estado ι :=
  { s with fase := Function.update s.fase i (.leido resto) }

def termina (s : Estado ι) (i : ι) (salida : Outcome) : Estado ι :=
  ⟨salida.db, Function.update s.fase i (.respondio salida.response), s.terminados ++ [i]⟩

/-- The next statement of a thread. -/
def sentencia (reqs : ι → Request) (s : Estado ι) (i : ι) : Estado ι :=
  match s.fase i with
  | .nuevo =>
    match pendiente (reqs i) s.db with
    | some resto => s.lee i resto
    | none => s.termina i (handle (reqs i) s.db)
  | .leido resto => s.termina i (resto.escribe s.db)
  | .respondio _ => s

end Estado

/-- The threads take their statements in any order. -/
def concurrencia (reqs : ι → Request) : Machine (Estado ι) ι where
  Enabled s i := ∀ response, s.fase i ≠ .respondio response
  next := Estado.sentencia reqs

/-- A handler that adds a user or changes one by the PIN writes while its check
would still pass. -/
def Vigente (reqs : ι → Request) (s : Estado ι) (i : ι) : Prop :=
  match s.fase i with
  | .leido (.quitaRfid _ _) => True
  | .leido _ => (pendiente (reqs i) s.db).isSome
  | _ => True

/-! ## One after the other -/

/-- The requests as actions on the table. -/
def atiende (reqs : ι → Request) (i : ι) (db : Db) : Db := (handle (reqs i) db).db

def esDeleteRfid : Request → Bool
  | .deleteRfid _ => true
  | _ => false

/-- The table and the replies are those of the finished requests in this order.
Only the requests to delete a card may have another place in it than the one
they finished at. -/
structure EnSerie (reqs : ι → Request) (db : Db) (s : Estado ι) (orden : List ι) : Prop where
  nodup : orden.Nodup
  terminados : orden.Perm s.terminados
  mismoOrden : (orden.filter fun i => !esDeleteRfid (reqs i)) =
    s.terminados.filter fun i => !esDeleteRfid (reqs i)
  tabla : final (atiende reqs) db orden = s.db
  respuestas : ∀ i response, s.fase i = .respondio response ↔
    ∃ t, (i, t) ∈ turns (atiende reqs) db orden ∧ (handle (reqs i) t).response = response

/-- A handler whose check passes does what is left to do on the same table. -/
theorem handle_of_pendiente {req : Request} {db : Db} {resto : Resto}
    (h : pendiente req db = some resto) : handle req db = resto.escribe db := by
  have hpin : ∀ {pin value : Texto} {set : Texto → Row → Row},
      pendienteByPin pin value set db = some resto →
        updateByPin pin value set db = resto.escribe db := by
    intro pin value set hresto
    unfold pendienteByPin at hresto
    unfold updateByPin
    split_ifs at hresto ⊢ with hfalta
    cases hfound : db.byCodigo pin with
    | none =>
      rw [hfound] at hresto
      cases hresto
    | some user =>
      rw [hfound] at hresto
      cases hresto
      rfl
  unfold pendiente at h
  split at h
  · next codigo tag rfid huella =>
    show panelPost (some codigo) (some tag) (some rfid) (some huella) db = _
    unfold panelPost
    dsimp only
    cases hfound : db.byCodigo codigo with
    | none =>
      rw [hfound] at h
      cases h
      rfl
    | some user =>
      rw [hfound] at h
      cases h
  · exact hpin h
  · exact hpin h
  · next userId =>
    show deleteRfid userId db = _
    unfold deleteRfid
    cases hfound : db.byId userId with
    | none =>
      rw [hfound] at h
      cases h
    | some user =>
      rw [hfound] at h
      cases h
      rfl
  · cases h

/-- A row stays, with the same tag and the same PIN, until its user is deleted or
the administrator's PIN is changed. -/
theorem handle_row {db : Db} {row : Row} (req : Request) (hrow : row ∈ db.usuarios) :
    (req = .deleteUser row.id ∧ row.id ≠ 1) ∨
      ∃ row' ∈ (handle req db).db.usuarios, row'.id = row.id ∧ row'.tag = row.tag ∧
        (row'.codigo = row.codigo ∨ ∃ pinAdmin, req = .updateAdminPin pinAdmin) := by
  have hupdate : ∀ {donde : Row → Bool} {set : Row → Row},
      (∀ row, (set row).tag = row.tag) →
      (∀ row, (set row).codigo = row.codigo ∨ ∃ pinAdmin, req = .updateAdminPin pinAdmin) →
      ∃ row' ∈ (db.update donde set).usuarios, row'.id = row.id ∧ row'.tag = row.tag ∧
        (row'.codigo = row.codigo ∨ ∃ pinAdmin, req = .updateAdminPin pinAdmin) := by
    intro donde set htag hcodigo
    refine ⟨_, List.mem_map_of_mem hrow, ?_⟩
    split
    · exact ⟨rfl, htag row, hcodigo row⟩
    · exact ⟨rfl, rfl, .inl rfl⟩
  have hsame : ∃ row' ∈ db.usuarios, row'.id = row.id ∧ row'.tag = row.tag ∧
      (row'.codigo = row.codigo ∨ ∃ pinAdmin, req = .updateAdminPin pinAdmin) :=
    ⟨row, hrow, rfl, rfl, .inl rfl⟩
  cases req with
  | syncPins | checkStatus | panelGet => exact .inr hsame
  | clearAllHuellas => exact .inr (hupdate (fun _ => rfl) fun _ => .inl rfl)
  | deleteUser userId =>
    have hdb : (handle (.deleteUser userId) db).db =
        if userId = 1 then db else db.delete userId := by
      simp only [handle, deleteUser]
      split_ifs <;> rfl
    rw [hdb]
    by_cases hmaster : userId = 1
    · rw [if_pos hmaster]
      exact .inr hsame
    · rw [if_neg hmaster]
      by_cases hid : userId = row.id
      · exact .inl ⟨congrArg Request.deleteUser hid, hid ▸ hmaster⟩
      · exact .inr ⟨row, List.mem_filter.mpr ⟨hrow, decide_eq_true (Ne.symm hid)⟩, rfl, rfl,
          .inl rfl⟩
  | panelPost =>
    refine .inr ?_
    simp only [handle, panelPost, panelGet]
    repeat' split
    all_goals first | exact hsame | skip
    exact ⟨row, List.mem_append_left _ hrow, rfl, rfl, .inl rfl⟩
  | updateAdminPin pinAdmin =>
    refine .inr ?_
    simp only [handle, updateAdminPin]
    repeat' split
    all_goals first | exact hsame | exact hupdate (fun _ => rfl) fun _ => .inr ⟨_, rfl⟩
  | deleteHuella | updateRfid | updateHuella | deleteRfid =>
    refine .inr ?_
    simp only [handle, deleteHuellaEndpoint, updateRfidEndpoint, updateHuellaEndpoint, updateByPin,
      deleteRfid]
    repeat' split
    all_goals first | exact hsame | exact hupdate (fun _ => rfl) fun _ => .inl rfl

/-- The user of a row that has the tag. -/
def Tiene (db : Db) (userId : ℕ) (tag : Texto) : Prop :=
  ∃ row ∈ db.usuarios, row.id = userId ∧ row.tag = tag

/-- A user stays, with the tag, until the user is deleted. -/
theorem Tiene.handle {db : Db} {userId : ℕ} {tag : Texto} (req : Request)
    (h : Tiene db userId tag) :
    Tiene (handle req db).db userId tag ∨ (req = .deleteUser userId ∧ userId ≠ 1) := by
  obtain ⟨row, hrow, rfl, rfl⟩ := h
  rcases handle_row req hrow with hdelete | ⟨row', hrow', hid, htag, -⟩
  · exact .inr hdelete
  · exact .inl ⟨row', hrow', hid, htag⟩

theorem byId_some {db : Db} {userId : ℕ} {user : Row} (h : db.byId userId = some user) :
    user.id = userId := by
  have hfound := List.find?_some h
  exact of_decide_eq_true hfound

theorem pendiente_quitaRfid {req : Request} {db : Db} {userId : ℕ} {tag : Texto}
    (h : pendiente req db = some (.quitaRfid userId tag)) :
    req = .deleteRfid userId ∧ Tiene db userId tag := by
  have hpin : ∀ {pin value : Texto} {set : Texto → Row → Row},
      pendienteByPin pin value set db ≠ some (.quitaRfid userId tag) := by
    intro pin value set heq
    unfold pendienteByPin at heq
    repeat' split at heq
    all_goals cases heq
  unfold pendiente at h
  split at h
  · split at h <;> cases h
  · exact absurd h hpin
  · exact absurd h hpin
  · next id =>
    cases hfound : db.byId id with
    | none =>
      rw [hfound] at h
      cases h
    | some user =>
      rw [hfound] at h
      cases h
      exact ⟨rfl, user, List.mem_of_find?_eq_some hfound,
        byId_some hfound, rfl⟩
  · cases h

theorem pendiente_of_tiene {db : Db} {userId : ℕ} {tag : Texto} (h : Tiene db userId tag) :
    pendiente (.deleteRfid userId) db = some (.quitaRfid userId tag) := by
  obtain ⟨row, hrow, hid, htag⟩ := h
  simp only [pendiente]
  cases hfound : db.byId userId with
  | none =>
    have hno := List.find?_eq_none.mp hfound row hrow
    exact absurd (decide_eq_true hid) hno
  | some user =>
    have hsame := eq_of_id_eq (List.mem_of_find?_eq_some hfound) hrow
      ((byId_some hfound).trans hid.symm)
    simp only [hsame, htag]

/-- For a user by the PIN, what is left to do does not depend on the table. -/
theorem pendiente_vigente {req : Request} {db db' : Db} {resto : Resto}
    (hresto : ∀ userId tag, resto ≠ .quitaRfid userId tag) (h : pendiente req db = some resto)
    (hvigente : (pendiente req db').isSome) : pendiente req db' = some resto := by
  have hpin : ∀ {pin value : Texto} {set : Texto → Row → Row},
      pendienteByPin pin value set db = some resto →
      (pendienteByPin pin value set db').isSome →
        pendienteByPin pin value set db' = some resto := by
    intro pin value set hresto hvigente
    unfold pendienteByPin at hresto hvigente ⊢
    repeat' split at hresto
    all_goals cases hresto
    next hfalta _ _ _ =>
      rw [if_neg hfalta] at hvigente ⊢
      split at hvigente
      · rfl
      · cases hvigente
  cases req with
  | updateRfid pin rfid =>
    simp only [pendiente] at h hvigente ⊢
    exact hpin h hvigente
  | updateHuella pin huella =>
    simp only [pendiente] at h hvigente ⊢
    exact hpin h hvigente
  | deleteRfid userId =>
    simp only [pendiente] at h
    split at h
    · cases h
      exact absurd rfl (hresto _ _)
    · cases h
  | panelPost codigo tag rfid huella =>
    cases codigo <;> cases tag <;> cases rfid <;> cases huella
    all_goals simp only [pendiente] at h hvigente ⊢
    all_goals first | cases h | skip
    split at h
    · cases h
    · split at hvigente
      · cases hvigente
      · exact h
  | deleteUser | syncPins | updateAdminPin | deleteHuella | clearAllHuellas | checkStatus
  | panelGet => cases h

/-! ## A deleted user -/

theorem Db.eq_of {db db' : Db} (husuarios : db.usuarios = db'.usuarios) (hseq : db.seq = db'.seq) :
    db = db' := by
  cases db
  cases db'
  cases husuarios
  cases hseq
  rfl

/-- An UPDATE of a user who is about to be deleted. -/
theorem delete_update (db : Db) (userId : ℕ) (set : Row → Row) :
    (db.update (fun row => row.id = userId) set).delete userId = db.delete userId := by
  refine Db.eq_of ?_ rfl
  simp only [Db.delete, Db.update, List.filter_map]
  have hfilter : ((fun row : Row => decide (row.id ≠ userId)) ∘ fun row =>
      if decide (row.id = userId) = true then { set row with id := row.id } else row) =
      fun row => decide (row.id ≠ userId) := by
    funext row
    simp only [Function.comp_apply]
    split_ifs <;> rfl
  rw [hfilter]
  refine (List.map_congr_left fun row hrow => if_neg ?_).trans (List.map_id _)
  have hne := (List.mem_filter.mp hrow).2
  simpa using hne

/-- An UPDATE of a user who has been deleted. -/
theorem update_retirado {db : Db} {userId : ℕ} (set : Row → Row) (h : Retirado db userId) :
    db.update (fun row => row.id = userId) set = db := by
  refine Db.eq_of ?_ rfl
  refine (List.map_congr_left fun row hrow => if_neg ?_).trans (List.map_id _)
  simpa using h.2 row hrow

theorem handle_deleteUser {userId : ℕ} (db : Db) (hmaster : userId ≠ 1) :
    handle (.deleteUser userId) db = ⟨db.delete userId, .toPanel none, true⟩ := if_neg hmaster

theorem retirado_delete {db : Db} {userId : ℕ} {tag : Texto} (h : Tiene db userId tag) :
    Retirado (db.delete userId) userId := by
  obtain ⟨row, hrow, rfl, -⟩ := h
  refine ⟨(db.numbered row hrow).2, fun row' hrow' => ?_⟩
  exact of_decide_eq_true (List.mem_filter.mp hrow').2

/-! ## The run -/

section Run

variable {reqs : ι → Request} {db : Db} {s : Estado ι} {orden orden' : List ι} {i : ι}

omit [DecidableEq ι] in
/-- The user stays away, whatever is requested after the deletion. -/
theorem retirado_final {userId : ℕ} {tag : Texto} {t : Db} (h : Tiene t userId tag)
    (despues : List ι) : Retirado (final (atiende reqs) (t.delete userId) despues) userId :=
  final_invariant (P := fun t => Retirado t userId) (fun i _ ht => ht.handle (reqs i))
    (retirado_delete h)

omit [DecidableEq ι] in
theorem EnSerie.notMem (h : EnSerie reqs db s orden)
    (hi : ∀ response, s.fase i ≠ .respondio response) : i ∉ orden := by
  intro hmem
  obtain ⟨t, ht⟩ := exists_turn hmem
  exact hi _ ((h.respuestas i _).mpr ⟨t, ht, rfl⟩)

/-- A request finishes, and the order takes it in where its reply is the right
one and those of the others stay what they are. -/
theorem EnSerie.termina {salida : Outcome} (h : EnSerie reqs db s orden) (hi : i ∉ orden)
    (hperm : orden'.Perm (orden ++ [i]))
    (hmismo : (orden'.filter fun i => !esDeleteRfid (reqs i)) =
      (orden ++ [i]).filter fun i => !esDeleteRfid (reqs i))
    (htabla : final (atiende reqs) db orden' = salida.db)
    (hturno : ∃ t, (i, t) ∈ turns (atiende reqs) db orden' ∧
      (handle (reqs i) t).response = salida.response)
    (hdemas : ∀ k ≠ i, ∀ response,
      (∃ t, (k, t) ∈ turns (atiende reqs) db orden' ∧ (handle (reqs k) t).response = response) ↔
        ∃ t, (k, t) ∈ turns (atiende reqs) db orden ∧ (handle (reqs k) t).response = response) :
    EnSerie reqs db (s.termina i salida) orden' := by
  have hnodup : orden'.Nodup := by
    refine hperm.nodup_iff.mpr (List.Nodup.append h.nodup (List.nodup_singleton i) ?_)
    intro k hk hone
    exact hi (List.mem_singleton.mp hone ▸ hk)
  refine ⟨hnodup, hperm.trans (h.terminados.append_right [i]), ?_, htabla, ?_⟩
  · rw [hmismo, List.filter_append, h.mismoOrden]
    exact (List.filter_append ..).symm
  · intro k response
    by_cases hk : k = i
    · subst hk
      obtain ⟨t, ht, hresponse⟩ := hturno
      simp only [Estado.termina, Function.update_self, Fase.respondio.injEq]
      constructor
      · intro heq
        exact ⟨t, ht, hresponse.trans heq⟩
      · rintro ⟨t', ht', rfl⟩
        rw [turn_unique hnodup ht' ht, hresponse]
    · simp only [Estado.termina, Function.update_of_ne hk]
      rw [hdemas k hk, h.respuestas]

/-- Along a run: what each handler still has to do comes from its SELECT, and the
users whose card is to be deleted are there, or were when they were deleted. -/
structure EnCurso (reqs : ι → Request) (db : Db) (s : Estado ι) (orden : List ι) : Prop where
  serie : EnSerie reqs db s orden
  leidos : ∀ i resto, s.fase i = .leido resto → ∃ t, pendiente (reqs i) t = some resto
  tarjetas : ∀ i userId tag, s.fase i = .leido (.quitaRfid userId tag) → Tiene s.db userId tag ∨
    ∃ j t, (j, t) ∈ turns (atiende reqs) db orden ∧ reqs j = .deleteUser userId ∧ userId ≠ 1 ∧
      Tiene t userId tag

omit [DecidableEq ι] in
theorem enCurso_inicial : EnCurso reqs db (Estado.inicial db) [] where
  serie :=
    { nodup := List.nodup_nil
      terminados := .refl _
      mismoOrden := rfl
      tabla := rfl
      respuestas := fun i response => by simp [Estado.inicial, turns] }
  leidos i resto h := by cases h
  tarjetas i userId tag h := by cases h

/-- A SELECT that passes. -/
theorem EnCurso.lee {resto : Resto} (h : EnCurso reqs db s orden)
    (hi : ∀ response, s.fase i ≠ .respondio response)
    (hresto : pendiente (reqs i) s.db = some resto) : EnCurso reqs db (s.lee i resto) orden where
  serie :=
    { nodup := h.serie.nodup
      terminados := h.serie.terminados
      mismoOrden := h.serie.mismoOrden
      tabla := h.serie.tabla
      respuestas := fun k response => by
        rw [← h.serie.respuestas k response]
        by_cases hk : k = i
        · subst hk
          simp [Estado.lee, hi]
        · simp [Estado.lee, hk] }
  leidos k resto' hk := by
    by_cases hki : k = i
    · subst hki
      simp only [Estado.lee, Function.update_self, Fase.leido.injEq] at hk
      exact ⟨s.db, hk ▸ hresto⟩
    · simp only [Estado.lee, Function.update_of_ne hki] at hk
      exact h.leidos k resto' hk
  tarjetas k userId tag hk := by
    by_cases hki : k = i
    · subst hki
      simp only [Estado.lee, Function.update_self, Fase.leido.injEq] at hk
      exact .inl (pendiente_quitaRfid (hk ▸ hresto)).2
    · simp only [Estado.lee, Function.update_of_ne hki] at hk
      exact h.tarjetas k userId tag hk

/-- A handler that is still in progress when another one ends was so before. -/
theorem Estado.leido_of_termina {k : ι} {salida : Outcome} {resto : Resto}
    (hk : (s.termina i salida).fase k = .leido resto) : s.fase k = .leido resto := by
  by_cases hki : k = i
  · subst hki
    simp [Estado.termina] at hk
  · simp only [Estado.termina, Function.update_of_ne hki] at hk
    exact hk

/-- A statement that does on the table what the whole request would do. -/
theorem EnCurso.termina (h : EnCurso reqs db s orden)
    (hi : ∀ response, s.fase i ≠ .respondio response) :
    EnCurso reqs db (s.termina i (handle (reqs i) s.db)) (orden ++ [i]) where
  serie := by
    have hno := h.serie.notMem hi
    refine h.serie.termina hno (.refl _) rfl ?_ ⟨s.db, ?_, rfl⟩ ?_
    · rw [final_append, h.serie.tabla]
      rfl
    · rw [turns_concat, h.serie.tabla]
      exact List.mem_append_right _ List.mem_cons_self
    · intro k hk response
      simp [turns_concat, hk]
  leidos k resto hk := h.leidos k resto (Estado.leido_of_termina hk)
  tarjetas k userId tag hk := by
    rw [turns_concat, h.serie.tabla]
    rcases h.tarjetas k userId tag (Estado.leido_of_termina hk) with htiene | ⟨j, t, hj, hrest⟩
    · rcases htiene.handle (reqs i) with htiene' | ⟨hreq, hmaster⟩
      · exact .inl htiene'
      · exact .inr ⟨i, s.db, List.mem_append_right _ List.mem_cons_self, hreq, hmaster, htiene⟩
    · exact .inr ⟨j, t, List.mem_append_left _ hj, hrest⟩

/-- The write of a handler whose user has been deleted changes nothing, and the
request counts as one that came right before the deletion. -/
theorem EnCurso.terminaBorrado {userId : ℕ} {tag : Texto} {t : Db} {j : ι}
    (h : EnCurso reqs db s orden) (hi : ∀ response, s.fase i ≠ .respondio response)
    (hreq : reqs i = .deleteRfid userId) (hj : (j, t) ∈ turns (atiende reqs) db orden)
    (hdelete : reqs j = .deleteUser userId) (hmaster : userId ≠ 1) (htiene : Tiene t userId tag) :
    ∃ orden', EnCurso reqs db (s.termina i ((Resto.quitaRfid userId tag).escribe s.db)) orden' := by
  have hno := h.serie.notMem hi
  obtain ⟨antes, despues, rfl, rfl⟩ := mem_turns.mp hj
  have hborra : ∀ t, atiende reqs j t = t.delete userId := fun t => by
    rw [atiende, hdelete, handle_deleteUser t hmaster]
  have hpierde : handle (reqs i) (final (atiende reqs) db antes) =
      (Resto.quitaRfid userId tag).escribe (final (atiende reqs) db antes) :=
    hreq ▸ handle_of_pendiente (pendiente_of_tiene htiene)
  have hvano : atiende reqs j (atiende reqs i (final (atiende reqs) db antes)) =
      atiende reqs j (final (atiende reqs) db antes) := by
    rw [hborra, hborra, atiende, hpierde]
    exact delete_update _ userId _
  -- the user has been gone since the deletion
  have hretirado : Retirado s.db userId := by
    rw [← h.serie.tabla, final_append]
    show Retirado (final (atiende reqs) (atiende reqs j _) despues) userId
    rw [hborra]
    exact retirado_final htiene despues
  have hturns : turns (atiende reqs) db (antes ++ i :: j :: despues) = _ := turns_insert hvano
  have hantes : turns (atiende reqs) db (antes ++ j :: despues) = turns (atiende reqs) db antes ++
      (j, final (atiende reqs) db antes) ::
        turns (atiende reqs) (atiende reqs j (final (atiende reqs) db antes)) despues := by
    rw [turns_append, turns]
  refine ⟨antes ++ i :: j :: despues, ?_, ?_, ?_⟩
  · refine h.serie.termina hno ?_ ?_ ?_ ⟨final (atiende reqs) db antes, ?_, ?_⟩ ?_
    · rw [List.append_assoc]
      refine List.Perm.append_left antes ?_
      exact (List.perm_append_singleton i (j :: despues)).symm
    · have hskip : ∀ l : List ι, ((i :: l).filter fun i => !esDeleteRfid (reqs i)) =
          l.filter fun i => !esDeleteRfid (reqs i) :=
        fun l => List.filter_cons_of_neg (by simp [hreq, esDeleteRfid])
      simp only [List.filter_append, hskip, List.filter_nil, List.append_nil]
    · rw [final_insert hvano, h.serie.tabla]
      exact (update_retirado _ hretirado).symm
    · rw [hturns]
      exact List.mem_append_right _ List.mem_cons_self
    · rw [hpierde]
      rfl
    · intro k hk response
      by_cases hkj : k = j
      · subst hkj
        have hreply : ∀ t, (handle (reqs k) t).response = .toPanel none := fun t => by
          rw [hdelete, handle_deleteUser t hmaster]
        simp only [hreply, exists_and_right]
        exact and_congr_left fun _ => iff_of_true (exists_turn (by simp)) (exists_turn (by simp))
      · rw [hturns, hantes]
        simp [hk, hkj]
  · exact fun k resto hk => h.leidos k resto (Estado.leido_of_termina hk)
  · intro k userId' tag' hk
    rcases h.tarjetas k userId' tag' (Estado.leido_of_termina hk) with
      htiene' | ⟨j', t, hj', hdelete', hmaster', htiene'⟩
    · left
      show Tiene (s.db.update _ _) userId' tag'
      rw [update_retirado _ hretirado]
      exact htiene'
    · right
      rcases mem_turns_insert hvano hj' with heq | hj'
      · cases heq
        have hmem : (j, atiende reqs i (final (atiende reqs) db antes)) ∈
            turns (atiende reqs) db (antes ++ i :: j :: despues) := by
          rw [hturns]
          exact List.mem_append_right _ (List.mem_cons_of_mem _ List.mem_cons_self)
        refine ⟨j, _, hmem, hdelete', hmaster', ?_⟩
        rcases htiene'.handle (reqs i) with hstays | ⟨hother, -⟩
        · exact hstays
        · rw [hreq] at hother
          cases hother
      · exact ⟨j', t, hj', hdelete', hmaster', htiene'⟩

/-- One statement. -/
theorem EnCurso.sentencia (h : EnCurso reqs db s orden)
    (hi : ∀ response, s.fase i ≠ .respondio response) (hok : Vigente reqs s i) :
    ∃ orden', EnCurso reqs db (s.sentencia reqs i) orden' := by
  unfold Vigente at hok
  unfold Estado.sentencia
  cases hfase : s.fase i with
  | nuevo =>
    dsimp only
    cases hresto : pendiente (reqs i) s.db with
    | some resto => exact ⟨orden, h.lee hi hresto⟩
    | none => exact ⟨orden ++ [i], h.termina hi⟩
  | respondio response => exact absurd hfase (hi response)
  | leido resto =>
    dsimp only
    obtain ⟨t, ht⟩ := h.leidos i resto hfase
    rw [hfase] at hok
    cases resto with
    | quitaRfid userId tag =>
      obtain ⟨hreq, -⟩ := pendiente_quitaRfid ht
      rcases h.tarjetas i userId tag hfase with htiene | ⟨j, t, hj, hdelete, hmaster, htiene⟩
      · rw [← handle_of_pendiente (hreq ▸ pendiente_of_tiene htiene)]
        exact ⟨orden ++ [i], h.termina hi⟩
      · exact h.terminaBorrado hi hreq hj hdelete hmaster htiene
    | agrega | pone =>
      rw [← handle_of_pendiente (pendiente_vigente (by rintro _ _ ⟨⟩) ht hok)]
      exact ⟨orden ++ [i], h.termina hi⟩

theorem reach_enCurso (h : (concurrencia reqs).Reach (Vigente reqs) (.inicial db) s) :
    ∃ orden, EnCurso reqs db s orden := by
  refine h.invariant (P := fun s => ∃ orden, EnCurso reqs db s orden) ?_ ⟨[], enCurso_inicial⟩
  rintro s i ⟨orden, hcurso⟩ henabled hok
  exact hcurso.sentencia henabled hok

/-! ## Additions and updates -/

/-- A request to add a user with the PIN. -/
def Alta (codigo : Texto) (req : Request) : Prop :=
  ∃ tag rfid huella, req = .panelPost (some codigo) (some tag) (some rfid) (some huella)

def agregado : Response := flash "Usuario agregado correctamente." "success"

/-- A request after which a PIN may be free again. -/
def Libera : Request → Prop
  | .deleteUser _ | .updateAdminPin _ => True
  | _ => False

/-- An update of the user with the PIN. -/
def Actualiza (pin : Texto) (req : Request) : Prop :=
  ∃ value, req = .updateRfid (some pin) value ∨ req = .updateHuella (some pin) value

/-- Two additions of one PIN do not both succeed, unless the PIN can have become
free in between. -/
def AltasDistintas (reqs : ι → Request) (s : Estado ι) : Prop :=
  ∀ i j codigo, i ≠ j → Alta codigo (reqs i) → Alta codigo (reqs j) →
    s.fase i = .respondio agregado → s.fase j = .respondio agregado →
      ∃ k ∈ s.terminados, Libera (reqs k)

/-- A request that is answered with UPDATED OK has updated a user, and not one
whose deletion was finished before. -/
def ActualizadosPresentes (reqs : ι → Request) (db : Db) (s : Estado ι) (orden : List ι) : Prop :=
  ∀ i pin, Actualiza pin (reqs i) → s.fase i = .respondio (.text 200 "UPDATED OK".toList) →
    ∃ t row, (i, t) ∈ turns (atiende reqs) db orden ∧ t.byCodigo pin = some row ∧
      ∀ j t' borrado, (j, t') ∈ turns (atiende reqs) db orden → borrado ∈ t'.usuarios →
        reqs j = .deleteUser borrado.id → borrado.id ≠ 1 → [j, i].Sublist s.terminados →
          row.id ≠ borrado.id

theorem alta_agregado {codigo : Texto} {req : Request} {t : Db} (halta : Alta codigo req)
    (h : (handle req t).response = agregado) :
    t.byCodigo codigo = none ∧ ((handle req t).db.byCodigo codigo).isSome := by
  obtain ⟨tag, rfid, huella, rfl⟩ := halta
  simp only [handle, panelPost] at h ⊢
  cases hfound : t.byCodigo codigo with
  | some user =>
    rw [hfound] at h
    have hcategory : "danger".toList = "success".toList :=
      congrArg Prod.snd (Option.some.inj (Response.toPanel.inj h))
    exact absurd hcategory (by decide)
  | none =>
    refine ⟨rfl, List.find?_isSome.mpr ⟨_, List.mem_append_right _ List.mem_cons_self, ?_⟩⟩
    exact decide_eq_true rfl

theorem byCodigo_handle {codigo : Texto} {req : Request} {t : Db} (hreq : ¬ Libera req)
    (h : (t.byCodigo codigo).isSome) : ((handle req t).db.byCodigo codigo).isSome := by
  obtain ⟨row, hrow, hcodigo⟩ := List.find?_isSome.mp h
  rcases handle_row req hrow with ⟨rfl, -⟩ | ⟨row', hrow', -, -, hcodigo' | ⟨pinAdmin, rfl⟩⟩
  · exact absurd trivial hreq
  · refine List.find?_isSome.mpr ⟨row', hrow', decide_eq_true ?_⟩
    exact hcodigo'.trans (of_decide_eq_true hcodigo)
  · exact absurd trivial hreq

omit [DecidableEq ι] in
theorem final_byCodigo {codigo : Texto} (hno : ∀ k ∈ orden, ¬ Libera (reqs k))
    (h : (db.byCodigo codigo).isSome) :
    ((final (atiende reqs) db orden).byCodigo codigo).isSome := by
  induction orden generalizing db with
  | nil => exact h
  | cons i orden ih =>
    obtain ⟨hi, hno⟩ := List.forall_mem_cons.mp hno
    exact ih hno (byCodigo_handle hi h)

omit [DecidableEq ι] in
theorem EnSerie.altasDistintas (h : EnSerie reqs db s orden) : AltasDistintas reqs s := by
  -- the one that comes second in the order finds the PIN of the other
  have hsegunda : ∀ i j codigo, Alta codigo (reqs i) → Alta codigo (reqs j) →
      s.fase i = .respondio agregado → s.fase j = .respondio agregado → [i, j].Sublist orden →
        ∃ k ∈ s.terminados, Libera (reqs k) := by
    intro i j codigo hi hj hfasei hfasej hsub
    by_contra hno
    obtain ⟨t, ht, hresponse⟩ := (h.respuestas i _).mp hfasei
    obtain ⟨t', ht', hresponse'⟩ := (h.respuestas j _).mp hfasej
    obtain ⟨medio, hmedio, rfl⟩ := turn_after h.nodup ht ht' hsub
    have hqueda : ((final (atiende reqs) (atiende reqs i t) medio).byCodigo codigo).isSome :=
      final_byCodigo (fun k hk hlibera =>
        hno ⟨k, h.terminados.mem_iff.mp (hmedio k hk), hlibera⟩) (alta_agregado hi hresponse).2
    rw [(alta_agregado hj hresponse').1] at hqueda
    cases hqueda
  intro i j codigo hne hi hj hfasei hfasej
  obtain ⟨t, ht, -⟩ := (h.respuestas i _).mp hfasei
  obtain ⟨t', ht', -⟩ := (h.respuestas j _).mp hfasej
  rcases pair_sublist (mem_of_turn ht) (mem_of_turn ht') hne with hsub | hsub
  · exact hsegunda i j codigo hi hj hfasei hfasej hsub
  · exact hsegunda j i codigo hj hi hfasej hfasei hsub

theorem actualiza_updated {pin : Texto} {req : Request} {t : Db} (hreq : Actualiza pin req)
    (h : (handle req t).response = .text 200 "UPDATED OK".toList) :
    ∃ row, t.byCodigo pin = some row := by
  obtain ⟨value, rfl | rfl⟩ := hreq
  · exact (updateByPin_updated h).1
  · exact (updateByPin_updated h).1

omit [DecidableEq ι] in
theorem EnSerie.actualizadosPresentes (h : EnSerie reqs db s orden) :
    ActualizadosPresentes reqs db s orden := by
  intro i pin hi hfase
  obtain ⟨t, ht, hresponse⟩ := (h.respuestas i _).mp hfase
  obtain ⟨row, hrow⟩ := actualiza_updated hi hresponse
  refine ⟨t, row, ht, hrow, ?_⟩
  intro j t' borrado hj hborrado hdelete hmaster hsub
  -- neither of the two deletes a card, and so they stand in the order as they finished
  have hsub' : [j, i].Sublist orden := by
    have hkeep : [j, i].filter (fun i => !esDeleteRfid (reqs i)) = [j, i] := by
      obtain ⟨value, hi | hi⟩ := hi <;> simp [hdelete, hi, esDeleteRfid]
    rw [← hkeep]
    exact ((h.mismoOrden ▸ hsub.filter _ :)).trans List.filter_sublist
  obtain ⟨medio, -, rfl⟩ := turn_after h.nodup hj ht hsub'
  rw [atiende, hdelete, handle_deleteUser t' hmaster] at hrow
  have hretirado : Retirado (final (atiende reqs) (t'.delete borrado.id) medio) borrado.id :=
    retirado_final ⟨borrado, hborrado, rfl, rfl⟩ medio
  exact hretirado.2 row (List.mem_of_find?_eq_some hrow)

/-- In every run in which each handler that adds or changes a user writes while
its check would still pass, the table and the replies are those of the requests
one after the other. -/
theorem en_serie (h : (concurrencia reqs).Reach (Vigente reqs) (.inicial db) s) :
    ∃ orden, EnSerie reqs db s orden ∧ AltasDistintas reqs s ∧
      ActualizadosPresentes reqs db s orden := by
  obtain ⟨orden, hcurso⟩ := reach_enCurso h
  exact ⟨orden, hcurso.serie, hcurso.serie.altasDistintas, hcurso.serie.actualizadosPresentes⟩

end Run

/-- A user is deleted between the SELECT and the UPDATE that takes away the card:
the order has the UPDATE first. -/
def borraEnMedio : Bool → Request
  | false => .deleteRfid 2
  | true => .deleteUser 2

def conUsuario : Db :=
  serve initDb [.panelPost (some "22222".toList) (some "uma".toList) (some "04A1".toList) (some [])]

theorem en_serie_borraEnMedio : ∃ orden,
    EnSerie borraEnMedio conUsuario
      ((concurrencia borraEnMedio).runs (.inicial conUsuario) [false, true, false]) orden ∧
    AltasDistintas borraEnMedio
      ((concurrencia borraEnMedio).runs (.inicial conUsuario) [false, true, false]) ∧
    ActualizadosPresentes borraEnMedio conUsuario
      ((concurrencia borraEnMedio).runs (.inicial conUsuario) [false, true, false]) orden := by
  refine en_serie (Machine.Allowed.reach ⟨⟨?_, ?_⟩, ⟨?_, ?_⟩, ⟨?_, ?_⟩, trivial⟩)
  · exact fun _ => nofun
  · exact trivial
  · exact fun _ => nofun
  · exact trivial
  · exact fun _ => nofun
  · exact trivial

/-- Both requests find the PIN free before either of them adds it. -/
theorem alta_doble : ¬ ∀ (reqs : Bool → Request) (db : Db) (s : Estado Bool),
    (concurrencia reqs).Reach Machine.Any (.inicial db) s → ∃ orden, EnSerie reqs db s orden := by
  intro h
  let alta : Request := .panelPost (some "22222".toList) (some []) (some []) (some [])
  have hreach : (concurrencia fun _ : Bool => alta).Reach Machine.Any (.inicial initDb)
      ((concurrencia fun _ => alta).runs (.inicial initDb) [false, true, false, true]) :=
    Machine.Allowed.reach ⟨⟨fun _ => nofun, trivial⟩, ⟨fun _ => nofun, trivial⟩,
      ⟨fun _ => nofun, trivial⟩, ⟨fun _ => nofun, trivial⟩, trivial⟩
  obtain ⟨orden, hserie⟩ := h _ _ _ hreach
  have hlength : orden.length = 2 := hserie.terminados.length_eq
  obtain ⟨i, j, rfl⟩ := List.length_eq_two.mp hlength
  have hfilas : (final (atiende fun _ => alta) initDb [i, j]).usuarios.length = 3 := by
    rw [hserie.tabla]
    decide
  have hdos : (final (atiende fun _ => alta) initDb [i, j]).usuarios.length = 2 := by
    cases i <;> cases j <;> decide
  omega

end Cerradura
