import Cerradura.Acceso
import Cerradura.Procedencia
import Cerradura.Tarjeta

/-!
# Whose credentials open the door

The bolt opens for the credential that was presented last, if the table has it,
and the history accounts for the table. So in any run the door only opens to a
credential that the firmware comes with, that the server has sent, or that the
administrator has registered at the lock (`apertura_procede`).
-/

namespace Cerradura

open Reactive Transition CText ListaPins

/-! ## Where a credential comes from -/

/-- A credential of this user. -/
def Credencial.De (u : PinUsuario) : Credencial → Prop
  | .pin codigo => codigo.length = 5 ∧ u.activo = true ∧ u.codigo.bytes = codigo
  | .tarjeta uid => u.activo = true ∧ u.rfid.bytes ≠ [] ∧ u.rfid.bytes = uid
  | .huella id => u.activo = true ∧ u.huella.bytes ≠ [] ∧ u.huella.bytes = idStr id

/-- A user in the answer to a request for the users has it. -/
def Credencial.DelServidor (traza : List MefEv) (cred : Credencial) : Prop :=
  ∃ antes, antes <:+ traza ∧
    (dichoEsp antes = httpCGet rutaPins ∨ dichoEsp antes = peticionGet rutaPins) ∧
      ∃ u ∈ extraerPins (oidoEsp antes) maxPins, cred.De u

/-- It is being registered: the card is the last one that was read, and the sensor
has confirmed the fingerprint. No PIN is registered at the lock. -/
def Credencial.Alta (antes : List MefEv) : Credencial → Prop
  | .pin _ => False
  | .tarjeta uid => ∃ pin, EnMarcha antes (.registrarRfid pin uid) ∧ ultimaTarjeta antes = some uid
  | .huella id => ∃ pin page, EnMarcha antes (.enrolarHuella pin page) ∧
      Confirmado (0x06 :: 0x01 :: bytesBe page) antes ∧ idStr id = (sprintf04 page.toNat).take 4

/-- It was registered in a session that the master PIN had opened. -/
def Credencial.DelAdministrador (traza : List MefEv) (cred : Credencial) : Prop :=
  ∃ antes, antes <:+ traza ∧ EnSesion antes ∧ cred.Alta antes

/-- Where a credential may come from. -/
inductive Credencial.Origen (traza : List MefEv) (cred : Credencial) : Prop
  | deFabrica : cred.EnTabla listaPinsInicial → Origen traza cred
  | delServidor : cred.DelServidor traza → Origen traza cred
  | delAdministrador : cred.DelAdministrador traza → Origen traza cred

variable {traza : List MefEv} {lista : ListaPins} {cred : Credencial}

theorem Credencial.Origen.cons (e : MefEv) (h : cred.Origen traza) : cred.Origen (e :: traza) := by
  cases h with
  | deFabrica h => exact .deFabrica h
  | delServidor h =>
    obtain ⟨antes, hantes, hanswer⟩ := h
    exact .delServidor ⟨antes, hantes.trans (List.suffix_cons e traza), hanswer⟩
  | delAdministrador h =>
    obtain ⟨antes, hantes, halta⟩ := h
    exact .delAdministrador ⟨antes, hantes.trans (List.suffix_cons e traza), halta⟩

/-! ## Changes of the table -/

theorem enTabla_iff : cred.EnTabla lista ↔ ∃ u ∈ lista.pins, cred.De u := by
  cases cred with
  | pin codigo =>
    constructor
    · rintro ⟨hlen, u, hu, hde⟩
      exact ⟨u, hu, hlen, hde⟩
    · rintro ⟨u, hu, hlen, hde⟩
      exact ⟨hlen, u, hu, hde⟩
  | tarjeta uid => exact Iff.rfl
  | huella id => exact Iff.rfl

/-- A change of one record gives somebody what the change writes. -/
theorem enTabla_actualizar {p : PinUsuario → Bool} {f : PinUsuario → PinUsuario} {R : Prop}
    (hf : ∀ u, cred.De (f u) → cred.De u ∨ R) (h : cred.EnTabla (lista.actualizar p f).2) :
    cred.EnTabla lista ∨ R := by
  obtain ⟨u, hu, hde⟩ := enTabla_iff.mp h
  have hkeep : ∀ u ∈ modifyFirst p f lista.pins, cred.De u → cred.EnTabla lista ∨ R := by
    refine modifyFirst_forall (fun u ih hde => (hf u hde).elim ih .inr) fun u hu hde => ?_
    exact .inl (enTabla_iff.mpr ⟨u, hu, hde⟩)
  exact hkeep u hu hde

theorem enTabla_asociarRFID {pin : List UInt8} {uid : Vector UInt8 4}
    (h : cred.EnTabla (asociarRFIDaPin lista pin (.copy 19 (uidStr uid))).2) :
    cred.EnTabla lista ∨ cred = .tarjeta (uidStr uid) := by
  refine enTabla_actualizar (fun u hde => ?_) h
  cases cred with
  | tarjeta rfid =>
    have hrfid : (CStr.copy 19 (uidStr uid)).bytes = rfid := hde.2.2
    rw [copy_uidStr] at hrfid
    exact .inr (congrArg Credencial.tarjeta hrfid.symm)
  | _ => exact .inl hde

theorem enTabla_asociarHuella {pin idHuella : List UInt8}
    (h : cred.EnTabla (asociarHuellaaPin lista pin idHuella).2) :
    cred.EnTabla lista ∨ ∃ id, cred = .huella id ∧ idStr id = (CStr.copy 4 idHuella).bytes := by
  refine enTabla_actualizar (fun u hde => ?_) h
  cases cred with
  | huella id => exact .inr ⟨id, rfl, hde.2.2.symm⟩
  | _ => exact .inl hde

/-- Nobody has the fingerprint that has been erased. -/
theorem Credencial.de_of_sin_huella {u : PinUsuario} (h : cred.De { u with huella := .vacio 4 }) :
    cred.De u := by
  cases cred with
  | huella id => exact absurd rfl h.2.1
  | _ => exact h

theorem enTabla_eliminarHuella {pin : List UInt8}
    (h : cred.EnTabla (eliminarHuellaLocal lista pin).2) : cred.EnTabla lista := by
  have hno : cred.EnTabla lista ∨ False :=
    enTabla_actualizar (fun _ hde => .inl (Credencial.de_of_sin_huella hde)) h
  exact hno.resolve_right id

theorem enTabla_eliminarTodas (h : cred.EnTabla (eliminarTodasHuellasLocal lista)) :
    cred.EnTabla lista := by
  obtain ⟨v, hv, hde⟩ := enTabla_iff.mp h
  obtain ⟨u, hu, rfl⟩ := List.mem_map.mp hv
  exact enTabla_iff.mpr ⟨u, hu, Credencial.de_of_sin_huella hde⟩

/-- The records that are not filled in are nobody's. -/
theorem enTabla_actualizarBase {nuevos : List PinUsuario}
    (h : cred.EnTabla (actualizarBaseDeDatos nuevos)) : ∃ u ∈ nuevos, cred.De u := by
  obtain ⟨u, hu, hde⟩ := enTabla_iff.mp h
  rcases List.mem_append.mp hu with hu | hu
  · exact ⟨u, List.mem_of_mem_take hu, hde⟩
  · rw [List.eq_of_mem_replicate hu] at hde
    cases cred with
    | pin codigo => exact absurd hde.2.1 Bool.false_ne_true
    | _ => exact absurd hde.1 Bool.false_ne_true

/-- The digits of a page fit the field of the fingerprint. -/
theorem copy_page (page : UInt16) :
    (CStr.copy 4 ((sprintf04 page.toNat).take 4)).bytes = (sprintf04 page.toNat).take 4 := by
  refine CStr.copy_bytes (fun h0 => ?_) (List.length_take_le _ _)
  exact absurd (sprintf04_digits 0 (List.mem_of_mem_take h0)).1 (by decide)

/-- A credential that a change brings. -/
theorem Mutacion.Causa.origen {m : Mutacion} (hcausa : m.Causa traza)
    (h : cred.EnTabla (lista.aplica m)) :
    cred.EnTabla lista ∨ cred.DelServidor traza ∨ cred.Alta traza := by
  cases hcausa with
  | sincronizar hdicho =>
    by_cases hlen : 0 < (extraerPins (oidoEsp traza) maxPins).length
    · have haplica : lista.aplica (.sincronizar (oidoEsp traza)) = _ := if_pos hlen
      rw [haplica] at h
      exact .inr (.inl ⟨traza, List.suffix_rfl, hdicho, enTabla_actualizarBase h⟩)
    · have haplica : lista.aplica (.sincronizar (oidoEsp traza)) = lista := if_neg hlen
      exact .inl (haplica ▸ h)
  | asociarRFID hmarcha hultima =>
    rcases enTabla_asociarRFID h with h | rfl
    · exact .inl h
    · exact .inr (.inr ⟨_, hmarcha, hultima⟩)
  | asociarHuella hmarcha hconfirmado =>
    rcases enTabla_asociarHuella h with h | ⟨id, rfl, hid⟩
    · exact .inl h
    · exact .inr (.inr ⟨_, _, hmarcha, hconfirmado, hid.trans (copy_page _)⟩)
  | eliminarHuella _ _ => exact .inl (enTabla_eliminarHuella h)
  | eliminarTodas _ _ => exact .inl (enTabla_eliminarTodas h)

/-! ## The session -/

theorem Segura.suffix {antes : List MefEv} (h : Segura traza) (hantes : antes <:+ traza) :
    Segura antes := by
  obtain ⟨despues, rfl⟩ := hantes
  rintro desde e inicio rfl
  exact h (despues ++ desde) e inicio (List.append_assoc _ _ _).symm

/-- An action of the administrator goes on in its session. -/
theorem EnMarcha.enSesion {a : Accion} (h : EnMarcha traza a) (hsegura : Segura traza)
    (hadmin : a.administrativa = true) : EnSesion traza := by
  obtain ⟨desde, lista, antes, rfl, hdesde⟩ := h
  have hantes : EnSesion antes := (hsegura desde _ antes rfl).2.1 hadmin
  clear hsegura
  induction desde with
  | nil => exact hantes.cons nofun
  | cons e desde ih =>
    obtain ⟨he, hdesde⟩ := List.forall_mem_cons.mp hdesde
    exact (ih hdesde).cons he.1

theorem Credencial.Alta.enSesion (h : cred.Alta traza) (hsegura : Segura traza) :
    EnSesion traza := by
  cases cred with
  | pin codigo => exact h.elim
  | tarjeta uid =>
    obtain ⟨pin, hmarcha, -⟩ := h
    exact hmarcha.enSesion hsegura rfl
  | huella id =>
    obtain ⟨pin, page, hmarcha, -⟩ := h
    exact hmarcha.enSesion hsegura rfl

/-! ## Runs -/

/-- A credential of a table that the history accounts for. -/
theorem Procede.origen (h : Procede traza lista) (hsegura : Segura traza)
    (hcred : cred.EnTabla lista) : cred.Origen traza := by
  induction h with
  | inicial => exact .deFabrica hcred
  | @suceso traza lista e _ ih =>
    exact .cons e (ih (hsegura.suffix (List.suffix_cons e traza)) hcred)
  | @muta traza lista m _ hcausa ih =>
    rcases hcausa.origen hcred with hcred | hservidor | halta
    · exact ih hsegura hcred
    · exact .delServidor hservidor
    · exact .delAdministrador ⟨traza, List.suffix_rfl, halta.enSesion hsegura, halta⟩

/-- Each opening was for the credential that had been presented last, and the table
had it for one of these reasons. -/
def AperturasDebidas (traza : List MefEv) : Prop :=
  ∀ despues lista antes, traza = despues ++ .accion lista .abrirCerradura :: antes →
    ∃ cred, ultimaCredencial antes = some cred ∧ cred.EnTabla lista ∧ cred.Origen antes

/-- In any run the door opens only to a credential of the firmware's own, or one that
the server has sent or the administrator has registered. -/
theorem apertura_procede (n : ℕ) (inputs : List Sample) :
    AperturasDebidas (principal n ⟨Mef.inicial, inputs, []⟩).2.trace := by
  intro despues lista antes h
  have hsegura : Segura (principal n ⟨Mef.inicial, inputs, []⟩).2.trace :=
    Prog.wp_final (Prog.wp_mono (principal_wp n) (fun _ h => h) fun _ _ h => h.segura)
  obtain ⟨cred, hultima, hcred⟩ := (hsegura despues _ antes h).1 rfl
  have hantes : antes <:+ (principal n ⟨Mef.inicial, inputs, []⟩).2.trace :=
    ⟨despues ++ [.accion lista .abrirCerradura], by rw [h, List.append_assoc]; rfl⟩
  exact ⟨cred, hultima, hcred, (accion_procede h).origen (hsegura.suffix hantes) hcred⟩

end Cerradura
