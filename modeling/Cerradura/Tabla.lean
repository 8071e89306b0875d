import Cerradura.CBuffer
import Cerradura.EspJson
import Cerradura.Teclado

/-!
# The table in memory

The records of `listaPins` are structs of character arrays. Here the functions
of PinTable and EspJson are taken down to the bytes: each write is checked
against the array it goes to, each string that is read has to have its
terminator, and each round of the parser costs fuel. A run that breaks one of
these is `none`.

Results:
1. `aplica_guarda`: on the bytes the operations do what they do on the records.
2. `tabla_bien_formada`: after any operations the strings are terminated, the
   active records have a code, and the empty PIN is nobody's.
-/

namespace Cerradura

open CText CBuffer ListaPins

/-! ## The operations on the table -/

/-- What the firmware does with `listaPins`. A PIN that is added has one to five
characters. -/
inductive Mutacion
  | sincronizar (httpResp : List UInt8)
  | asociarRFID (pin : List UInt8) (uid : Vector UInt8 4)
  | asociarHuella (pin idHuella : List UInt8)
  | eliminarHuella (pin : List UInt8)
  | eliminarTodas
  | agregar (nuevoPin : CStr 6) (noVacio : nuevoPin.bytes ≠ [])

def ListaPins.aplica (lista : ListaPins) : Mutacion → ListaPins
  | .sincronizar httpResp =>
    if 0 < (extraerPins httpResp maxPins).length then
      actualizarBaseDeDatos (extraerPins httpResp maxPins)
    else lista
  | .asociarRFID pin uid => (asociarRFIDaPin lista pin (.copy 19 (uidStr uid))).2
  | .asociarHuella pin idHuella => (asociarHuellaaPin lista pin idHuella).2
  | .eliminarHuella pin => (eliminarHuellaLocal lista pin).2
  | .eliminarTodas => eliminarTodasHuellasLocal lista
  | .agregar nuevoPin _ => (agregarPin lista nuevoPin).2

/-- Every active record has a code. -/
def ListaPins.ConCodigo (lista : ListaPins) : Prop :=
  ∀ u ∈ lista.pins, u.activo = true → u.codigo.bytes ≠ []

theorem modifyFirst_forall {P : PinUsuario → Prop} {p : PinUsuario → Bool}
    {f : PinUsuario → PinUsuario} (hf : ∀ u, P u → P (f u)) {pins : List PinUsuario}
    (h : ∀ u ∈ pins, P u) : ∀ u ∈ modifyFirst p f pins, P u := by
  induction pins with
  | nil => exact h
  | cons u rest ih =>
    obtain ⟨hu, hrest⟩ := List.forall_mem_cons.mp h
    unfold modifyFirst
    split_ifs
    · exact List.forall_mem_cons.mpr ⟨hf u hu, hrest⟩
    · exact List.forall_mem_cons.mpr ⟨hu, ih hrest⟩

theorem recorrerObjetos_stored {fin ptr : List UInt8} {maxPins fuel : ℕ}
    {pinsOut : List PinUsuario} (hlen : pinsOut.length ≤ maxPins)
    (h : ∀ u ∈ pinsOut, u.codigo.bytes ≠ []) :
    (recorrerObjetos fin maxPins fuel ptr pinsOut).length ≤ maxPins ∧
      ∀ u ∈ recorrerObjetos fin maxPins fuel ptr pinsOut, u.codigo.bytes ≠ [] := by
  induction fuel generalizing ptr pinsOut with
  | zero => exact ⟨hlen, h⟩
  | succ fuel ih =>
    unfold recorrerObjetos
    split_ifs with hgo
    · cases siguienteObjeto ptr fin with
      | none => exact ⟨hlen, h⟩
      | some par =>
        dsimp only
        split_ifs with hcodigo
        · refine ih ?_ fun u hu => ?_
          · rw [List.length_append]
            exact hgo.2
          · rcases List.mem_append.mp hu with hu | hu
            · exact h u hu
            · rw [List.mem_singleton.mp hu]
              exact List.length_pos_iff.mp hcodigo
        · exact ih hlen h
    · exact ⟨hlen, h⟩

/-- What is extracted fits the table, and every record has a code. -/
theorem extraerPins_stored (httpResp : List UInt8) (maxPins : ℕ) :
    (extraerPins httpResp maxPins).length ≤ maxPins ∧
      ∀ u ∈ extraerPins httpResp maxPins, u.codigo.bytes ≠ [] := by
  have hnone : ([] : List PinUsuario).length ≤ maxPins ∧
      ∀ u ∈ ([] : List PinUsuario), u.codigo.bytes ≠ [] := ⟨Nat.zero_le _, fun u hu => nomatch hu⟩
  have hjson : ∀ json jsonLen, (parsearJSONPins json jsonLen maxPins).length ≤ maxPins ∧
      ∀ u ∈ parsearJSONPins json jsonLen maxPins, u.codigo.bytes ≠ [] := by
    intro json jsonLen
    unfold parsearJSONPins
    dsimp only
    split
    · exact hnone
    · exact recorrerObjetos_stored hnone.1 hnone.2
  unfold extraerPins
  dsimp only
  split
  · split_ifs
    · exact hnone
    · exact hjson _ _
  · exact hnone

theorem conCodigo_actualizar {nuevos : List PinUsuario} (h : ∀ u ∈ nuevos, u.codigo.bytes ≠ []) :
    (actualizarBaseDeDatos nuevos).ConCodigo := by
  intro u hu hactivo
  rcases List.mem_append.mp hu with hu | hu
  · exact h u (List.mem_of_mem_take hu)
  · rw [List.eq_of_mem_replicate hu] at hactivo
    cases hactivo

theorem ListaPins.ConCodigo.actualizar {lista : ListaPins} {p : PinUsuario → Bool}
    {f : PinUsuario → PinUsuario} (h : lista.ConCodigo)
    (hf : ∀ u, (u.activo = true → u.codigo.bytes ≠ []) →
      (f u).activo = true → (f u).codigo.bytes ≠ []) : (lista.actualizar p f).2.ConCodigo :=
  modifyFirst_forall hf h

theorem ListaPins.ConCodigo.eliminarTodas {lista : ListaPins} (h : lista.ConCodigo) :
    (eliminarTodasHuellasLocal lista).ConCodigo := by
  intro u hu
  obtain ⟨u0, hu0, rfl⟩ := List.mem_map.mp hu
  exact h u0 hu0

theorem ListaPins.ConCodigo.aplica {lista : ListaPins} (m : Mutacion) (h : lista.ConCodigo) :
    (lista.aplica m).ConCodigo := by
  cases m with
  | sincronizar httpResp =>
    unfold ListaPins.aplica
    dsimp only
    split_ifs
    · exact conCodigo_actualizar (extraerPins_stored httpResp maxPins).2
    · exact h
  | asociarRFID | asociarHuella | eliminarHuella => exact h.actualizar fun _ hu => hu
  | eliminarTodas => exact h.eliminarTodas
  | agregar nuevoPin noVacio => exact h.actualizar fun _ _ _ => noVacio

theorem conCodigo_inicial : listaPinsInicial.ConCodigo := by
  unfold ListaPins.ConCodigo
  decide

/-- The empty PIN is nobody's. -/
theorem ListaPins.ConCodigo.validarPin_nil {lista : ListaPins} (h : lista.ConCodigo) :
    validarPin lista [] = false := by
  refine eq_false_of_ne_true fun hvalid => ?_
  obtain ⟨u, hu, hactivo, hcodigo⟩ := validarPin_iff.mp hvalid
  exact h u hu hactivo hcodigo

theorem ListaPins.ConCodigo.esPinMaster_nil {lista : ListaPins} (h : lista.ConCodigo) :
    esPinMaster lista [] = false := by
  refine eq_false_of_ne_true fun hmaster => ?_
  obtain ⟨u, hu, hactivo, hcodigo⟩ := esPinMaster_iff.mp hmaster
  exact h u (List.mem_of_getElem? hu) hactivo hcodigo

/-! ## The code on the bytes -/

namespace Memoria

/-- `PinUsuario_t` -/
structure Registro where
  codigo : Vector UInt8 6
  activo : Bool
  rfid : Vector UInt8 20
  huella : Vector UInt8 5
  tag : Vector UInt8 20

/-- After `memset`. -/
def Registro.cero : Registro := ⟨zeros 6, false, zeros 20, zeros 5, zeros 20⟩

/-- An array that is initialised with a text. -/
def literal (n : ℕ) (s : String) : Vector UInt8 n := (strcpy (zeros n) (ascii s)).getD (zeros n)

/-- The table the firmware starts with. -/
def listaPins : List Registro :=
  ([("11111", "", "", "master"), ("22222", "9876543210FF", "0001", "andy"),
    ("33333", "1234567890AB", "0002", "pepe"), ("44444", "1211899891AA", "0003", "juan"),
    ("55555", "", "0004", "invitado"), ("66666", "", "", "usuario6")] :
      List (String × String × String × String)).map (fun (codigo, rfid, huella, tag) =>
    { codigo := literal 6 codigo, activo := true, rfid := literal 20 rfid,
      huella := literal 5 huella, tag := literal 20 tag }) ++ List.replicate 93 .cero

/-- `listaPins[i].activo && strcmp(listaPins[i].codigo, pin) == 0` -/
def conPin (pin : List UInt8) (r : Registro) : Option Bool :=
  if r.activo then (string r.codigo).map fun codigo => decide (codigo = pin) else some false

def validarPin (t : List Registro) (pin : List UInt8) : Option Bool := t.anyM (conPin pin)

def esPinMaster (t : List Registro) (pin : List UInt8) : Option Bool := t.head?.bind (conPin pin)

/-- The loop that changes the first record that `p` holds of. -/
def cambiaPrimero (p : Registro → Option Bool) (f : Registro → Option Registro) :
    List Registro → Option (List Registro)
  | [] => some []
  | r :: rest => do
    if ← p r then
      let r' ← f r
      pure (r' :: rest)
    else
      let rest' ← cambiaPrimero p f rest
      pure (r :: rest')

def agregarPin (t : List Registro) (nuevoPin : List UInt8) : Option (List Registro) :=
  cambiaPrimero (fun r => some !r.activo) (fun r => do
    let codigo ← strcpy r.codigo nuevoPin
    pure { r with codigo := codigo, activo := true }) t

def asociarRFIDaPin (t : List Registro) (pin rfid : List UInt8) : Option (List Registro) :=
  cambiaPrimero (conPin pin) (fun r => do
    let rfid ← strcpy r.rfid rfid
    pure { r with rfid := rfid }) t

def asociarHuellaaPin (t : List Registro) (pin idHuella : List UInt8) : Option (List Registro) :=
  cambiaPrimero (conPin pin) (fun r => do
    let huella ← strncpy r.huella (cString idHuella) 4
    let huella ← put huella 4 0
    pure { r with huella := huella }) t

def eliminarHuellaLocal (t : List Registro) (pin : List UInt8) : Option (List Registro) :=
  cambiaPrimero (conPin pin) (fun r => some { r with huella := zeros 5 }) t

def eliminarTodasHuellasLocal (t : List Registro) : List Registro :=
  t.map ({ · with huella := zeros 5 })

/-- The value of a key: what the loop copies, up to `fin`, a quotation mark or
`maxLen` characters. -/
def valorJSON (fuente fin : List UInt8) (clave : String) (maxLen : ℕ) : Option (List UInt8) := do
  let k ← within fin (strstr (quoted comilla (ascii clave)) fuente)
  let dos ← within fin (strchr dosPuntos (k.drop (quoted comilla (ascii clave)).length))
  let inicioValor ← within fin (strchr comilla dos)
  pure (copiarValor fin maxLen inicioValor.tail)

/-- `destino[i++] = *inicioValor++`, and the terminator. -/
def buscarValorJSON {n : ℕ} (fuente fin : List UInt8) (clave : String) (destino : Vector UInt8 n)
    (maxLen : ℕ) : Option (Vector UInt8 n) :=
  match valorJSON fuente fin clave maxLen with
  | some valor => copyAt destino 0 valor
  | none => some destino

def parsearObjeto (objStart objEnd : List UInt8) : Option Registro := do
  let codigo ← buscarValorJSON objStart objEnd "codigo" Registro.cero.codigo 5
  let rfid ← buscarValorJSON objStart objEnd "rfid" Registro.cero.rfid 19
  let huella ← buscarValorJSON objStart objEnd "huella" Registro.cero.huella 4
  let tag ← buscarValorJSON objStart objEnd "tag" Registro.cero.tag 19
  pure ⟨codigo, buscarActivo objStart objEnd, rfid, huella, tag⟩

/-- The loop over the objects. -/
def recorrerObjetos (fin : List UInt8) (maxPins : ℕ) :
    ℕ → List UInt8 → List Registro → Option (List Registro)
  | 0, _, _ => none
  | fuel + 1, ptr, pinsOut =>
    if before ptr fin ∧ pinsOut.length < maxPins then
      match siguienteObjeto ptr fin with
      | none => some pinsOut
      | some (objStart, objEnd) => do
        let pin ← parsearObjeto objStart objEnd
        let codigo ← string pin.codigo
        recorrerObjetos fin maxPins fuel objEnd.tail
          (if 0 < codigo.length then pinsOut ++ [pin] else pinsOut)
    else some pinsOut

def parsearJSONPins (json : List UInt8) (jsonLen maxPins : ℕ) : Option (List Registro) :=
  let fin := json.drop jsonLen
  let arrayStart := do
    let keyPins ← strstr (quoted comilla (ascii "pins")) json
    within fin (strchr corchete keyPins)
  match arrayStart with
  | none => some []
  | some arrayStart => recorrerObjetos fin maxPins (jsonLen + 1) arrayStart.tail []

def extraerPins (httpResp : List UInt8) (maxPins : ℕ) : Option (List Registro) :=
  let texto := cString httpResp
  match strchr llaveIzq texto, strrchr llaveDer texto with
  | some jsonStart, some jsonEnd =>
    if before jsonEnd jsonStart then some []
    else parsearJSONPins jsonStart (jsonStart.length - jsonEnd.length + 1) maxPins
  | _, _ => some []

/-- `memset(listaPins, 0, ..)` and `memcpy` of the records. -/
def actualizarBaseDeDatos (nuevosUsuarios : List Registro) : List Registro :=
  nuevosUsuarios.take maxPins ++ List.replicate (maxPins - nuevosUsuarios.length) .cero

def aplica (t : List Registro) : Mutacion → Option (List Registro)
  | .sincronizar httpResp => do
    let bufferUsuarios ← extraerPins httpResp maxPins
    if 0 < bufferUsuarios.length then pure (actualizarBaseDeDatos bufferUsuarios) else pure t
  | .asociarRFID pin uid => asociarRFIDaPin t pin (uidStr uid)
  | .asociarHuella pin idHuella => asociarHuellaaPin t pin idHuella
  | .eliminarHuella pin => eliminarHuellaLocal t pin
  | .eliminarTodas => some (eliminarTodasHuellasLocal t)
  | .agregar nuevoPin _ => agregarPin t nuevoPin.bytes

/-! ## Bytes and records -/

/-- The bytes of a record hold its strings. -/
structure Guarda (r : Registro) (u : PinUsuario) : Prop where
  codigo : Holds r.codigo u.codigo.bytes
  activo : r.activo = u.activo
  rfid : Holds r.rfid u.rfid.bytes
  huella : Holds r.huella u.huella.bytes
  tag : Holds r.tag u.tag.bytes

theorem guarda_cero : Guarda .cero .vacio :=
  ⟨holds_zeros, rfl, holds_zeros, holds_zeros, holds_zeros⟩

theorem conPin_guarda {pin : List UInt8} {r : Registro} {u : PinUsuario} (h : Guarda r u) :
    conPin pin r = some (ListaPins.conPin pin u) := by
  unfold conPin ListaPins.conPin
  rw [h.activo, h.codigo.string_eq]
  cases u.activo <;> rfl

theorem cambiaPrimero_guarda {p : Registro → Option Bool} {q : PinUsuario → Bool}
    {f : Registro → Option Registro} {g : PinUsuario → PinUsuario}
    (hp : ∀ r u, Guarda r u → p r = some (q u))
    (hf : ∀ r u, Guarda r u → ∃ r', f r = some r' ∧ Guarda r' (g u)) {t : List Registro}
    {pins : List PinUsuario} (h : List.Forall₂ Guarda t pins) :
    ∃ t', cambiaPrimero p f t = some t' ∧ List.Forall₂ Guarda t' (modifyFirst q g pins) := by
  induction h with
  | nil => exact ⟨[], rfl, .nil⟩
  | @cons r u t pins hr hrest ih =>
    simp only [cambiaPrimero, hp r u hr, Option.bind_eq_bind, Option.bind_some]
    unfold modifyFirst
    cases q u with
    | true =>
      obtain ⟨r', hr', hguarda⟩ := hf r u hr
      exact ⟨r' :: t, by rw [if_pos rfl, hr']; rfl, .cons hguarda hrest⟩
    | false =>
      obtain ⟨t', ht', hguarda⟩ := ih
      exact ⟨r :: t', by rw [if_neg Bool.false_ne_true, ht']; rfl, .cons hr hguarda⟩

theorem anyM_guarda {p : Registro → Option Bool} {q : PinUsuario → Bool}
    (hp : ∀ r u, Guarda r u → p r = some (q u)) {t : List Registro} {pins : List PinUsuario}
    (h : List.Forall₂ Guarda t pins) : t.anyM p = some (pins.any q) := by
  induction h with
  | nil => rfl
  | @cons r u t pins hr hrest ih =>
    simp only [List.anyM, hp r u hr, Option.bind_eq_bind, Option.bind_some, List.any_cons]
    cases q u with
    | true => rfl
    | false => exact ih

/-! ## The parser -/

section Parser

variable {fin : List UInt8}

/-- The copied text is part of the string, and at most `maxLen` long. -/
theorem copiarValor_sublist (fin : List UInt8) (maxLen : ℕ) (s : List UInt8) :
    (copiarValor fin maxLen s).Sublist s ∧ (copiarValor fin maxLen s).length ≤ maxLen := by
  induction s generalizing maxLen with
  | nil => cases maxLen <;> exact ⟨List.Sublist.refl _, Nat.zero_le _⟩
  | cons b s ih =>
    cases maxLen with
    | zero => exact ⟨List.nil_sublist _, Nat.le_refl _⟩
    | succ maxLen =>
      unfold copiarValor
      split_ifs
      · exact ⟨(ih maxLen).1.cons_cons b, Nat.succ_le_succ (ih maxLen).2⟩
      · exact ⟨List.nil_sublist _, Nat.zero_le _⟩

theorem within_eq_some {p : Option (List UInt8)} {q : List UInt8} (h : within fin p = some q) :
    p = some q := (Option.filter_eq_some_iff.mp h).1

theorem valorJSON_spec {fuente valor : List UInt8} {clave : String} {maxLen : ℕ} (h0 : 0 ∉ fuente)
    (h : valorJSON fuente fin clave maxLen = some valor) : 0 ∉ valor ∧ valor.length ≤ maxLen := by
  unfold valorJSON at h
  simp only [Option.bind_eq_bind, Option.bind_eq_some_iff, Option.pure_def, Option.some.injEq] at h
  obtain ⟨k, hk, dos, hdos, inicioValor, hinicio, rfl⟩ := h
  obtain ⟨hcopia, hlen⟩ := copiarValor_sublist fin maxLen inicioValor.tail
  have hsub : inicioValor.tail.Sublist fuente :=
    (List.tail_sublist _).trans <| (strchr_suffix (within_eq_some hinicio)).sublist.trans <|
      (strchr_suffix (within_eq_some hdos)).sublist.trans <| (List.drop_sublist _ _).trans
        (strstr_eq_some (within_eq_some hk)).1.sublist
  exact ⟨fun hmem => h0 ((hcopia.trans hsub).subset hmem), hlen⟩

/-- The array of a field has room for the value and its terminator. -/
theorem buscarValorJSON_guarda {fuente : List UInt8} (fin : List UInt8) (clave : String)
    (maxLen : ℕ) (h0 : 0 ∉ fuente) :
    ∃ buf, buscarValorJSON fuente fin clave (zeros (maxLen + 1)) maxLen = some buf ∧
      Holds buf (Cerradura.buscarValorJSON fuente fin clave (.vacio maxLen)).bytes := by
  have heq : Cerradura.buscarValorJSON fuente fin clave (.vacio maxLen) =
      match valorJSON fuente fin clave maxLen with
      | some valor => .copy maxLen valor
      | none => .vacio maxLen := rfl
  rw [heq]
  unfold buscarValorJSON
  cases hvalor : valorJSON fuente fin clave maxLen with
  | none => exact ⟨_, rfl, holds_zeros⟩
  | some valor =>
    obtain ⟨hnul, hlen⟩ := valorJSON_spec h0 hvalor
    obtain ⟨buf, hbuf, hholds⟩ := holds_strcpy (zeros (maxLen + 1)) hnul (Nat.lt_succ_of_le hlen)
    refine ⟨buf, hbuf, ?_⟩
    rwa [CStr.copy_bytes hnul hlen]

theorem parsearObjeto_guarda {objStart : List UInt8} (objEnd : List UInt8) (h0 : 0 ∉ objStart) :
    ∃ r, parsearObjeto objStart objEnd = some r ∧
      Guarda r (Cerradura.parsearObjeto objStart objEnd) := by
  obtain ⟨codigo, hcodigo, hc⟩ := buscarValorJSON_guarda objEnd "codigo" 5 h0
  obtain ⟨rfid, hrfid, hr⟩ := buscarValorJSON_guarda objEnd "rfid" 19 h0
  obtain ⟨huella, hhuella, hh⟩ := buscarValorJSON_guarda objEnd "huella" 4 h0
  obtain ⟨tag, htag, ht⟩ := buscarValorJSON_guarda objEnd "tag" 19 h0
  refine ⟨⟨codigo, buscarActivo objStart objEnd, rfid, huella, tag⟩, ?_, hc, rfl, hr, hh, ht⟩
  simp only [parsearObjeto, Registro.cero, hcodigo, hrfid, hhuella, htag, Option.bind_eq_bind,
    Option.bind_some, Option.pure_def]

theorem siguienteObjeto_suffix {ptr objStart objEnd : List UInt8}
    (h : siguienteObjeto ptr fin = some (objStart, objEnd)) :
    objStart <:+ ptr ∧ objEnd <:+ ptr ∧ objEnd ≠ [] := by
  unfold siguienteObjeto at h
  simp only [Option.bind_eq_bind, Option.bind_eq_some_iff, Option.pure_def, Option.some.injEq,
    Prod.mk.injEq] at h
  obtain ⟨_, hstart, _, hend, rfl, rfl⟩ := h
  have hsuffix := strchr_suffix (within_eq_some hstart)
  obtain ⟨_, _, -, rfl, -⟩ := strchr_eq_some (within_eq_some hend)
  exact ⟨hsuffix, (strchr_suffix (within_eq_some hend)).trans hsuffix, List.cons_ne_nil _ _⟩

/-- Each round ends past a closing brace, so one more round than there are bytes
up to `fin` is enough. -/
theorem recorrerObjetos_guarda {maxPins fuel : ℕ} {ptr : List UInt8} {pinsOut : List Registro}
    {pins : List PinUsuario} (h0 : 0 ∉ ptr) (hfuel : ptr.length ≤ fin.length + fuel)
    (h : List.Forall₂ Guarda pinsOut pins) :
    ∃ rs, recorrerObjetos fin maxPins (fuel + 1) ptr pinsOut = some rs ∧
      List.Forall₂ Guarda rs (Cerradura.recorrerObjetos fin maxPins fuel ptr pins) := by
  induction fuel generalizing ptr pinsOut pins with
  | zero =>
    have hend : ¬ (before ptr fin ∧ pinsOut.length < maxPins) := fun hgo =>
      Nat.not_lt.mpr hfuel hgo.1
    exact ⟨pinsOut, if_neg hend, h⟩
  | succ fuel ih =>
    unfold recorrerObjetos Cerradura.recorrerObjetos
    rw [h.length_eq]
    by_cases hgo : before ptr fin ∧ pins.length < maxPins
    · rw [if_pos hgo, if_pos hgo]
      cases hnext : siguienteObjeto ptr fin with
      | none => exact ⟨pinsOut, rfl, h⟩
      | some par =>
        obtain ⟨objStart, objEnd⟩ := par
        obtain ⟨hstart, hend, hne⟩ := siguienteObjeto_suffix hnext
        obtain ⟨pin, hpin, hguarda⟩ := parsearObjeto_guarda objEnd
          (fun hmem => h0 (hstart.subset hmem))
        have hrest : 0 ∉ objEnd.tail := fun hmem => h0 (hend.subset (List.mem_of_mem_tail hmem))
        have hshort : objEnd.tail.length ≤ fin.length + fuel := by
          have hle := hend.length_le
          have hpos := List.length_pos_iff.mpr hne
          rw [List.length_tail]
          omega
        simp only [hpin, hguarda.codigo.string_eq, Option.bind_eq_bind, Option.bind_some]
        refine ih hrest hshort ?_
        split_ifs
        · exact List.rel_append h (.cons hguarda .nil)
        · exact h
    · rw [if_neg hgo, if_neg hgo]
      exact ⟨pinsOut, rfl, h⟩

theorem parsearJSONPins_guarda {json : List UInt8} {jsonLen maxPins : ℕ} (h0 : 0 ∉ json) :
    ∃ rs, parsearJSONPins json jsonLen maxPins = some rs ∧
      List.Forall₂ Guarda rs (Cerradura.parsearJSONPins json jsonLen maxPins) := by
  unfold parsearJSONPins Cerradura.parsearJSONPins
  dsimp only
  generalize harray : (do
    let keyPins ← strstr (quoted comilla (ascii "pins")) json
    within (json.drop jsonLen) (strchr corchete keyPins)) = arrayStart
  cases arrayStart with
  | none => exact ⟨[], rfl, .nil⟩
  | some arrayStart =>
    simp only [Option.bind_eq_bind, Option.bind_eq_some_iff] at harray
    obtain ⟨keyPins, hkey, hstart⟩ := harray
    have hsuffix : arrayStart <:+ json :=
      (strchr_suffix (within_eq_some hstart)).trans (strstr_eq_some hkey).1
    refine recorrerObjetos_guarda (fun hmem => h0 (hsuffix.subset (List.mem_of_mem_tail hmem))) ?_
      .nil
    have hle := hsuffix.length_le
    rw [List.length_tail, List.length_drop]
    omega

theorem extraerPins_guarda (httpResp : List UInt8) (maxPins : ℕ) :
    ∃ rs, extraerPins httpResp maxPins = some rs ∧
      List.Forall₂ Guarda rs (Cerradura.extraerPins httpResp maxPins) := by
  unfold extraerPins Cerradura.extraerPins
  dsimp only
  cases hstart : strchr llaveIzq (cString httpResp) with
  | none => exact ⟨[], rfl, .nil⟩
  | some jsonStart =>
    cases strrchr llaveDer (cString httpResp) with
    | none => exact ⟨[], rfl, .nil⟩
    | some jsonEnd =>
      dsimp only
      split_ifs
      · exact ⟨[], rfl, .nil⟩
      · exact parsearJSONPins_guarda fun hmem =>
          cString_noNul httpResp ((strchr_suffix hstart).subset hmem)

end Parser

/-! ## The operations -/

theorem forall₂_replicate (k : ℕ) :
    List.Forall₂ Guarda (List.replicate k .cero) (List.replicate k .vacio) := by
  induction k with
  | zero => exact .nil
  | succ k ih => exact .cons guarda_cero ih

/-- On the bytes an operation does what it does on the records. -/
theorem aplica_guarda {t : List Registro} {lista : ListaPins} (m : Mutacion)
    (h : List.Forall₂ Guarda t lista.pins) :
    ∃ t', aplica t m = some t' ∧ List.Forall₂ Guarda t' (lista.aplica m).pins := by
  cases m with
  | sincronizar httpResp =>
    obtain ⟨rs, hrs, hguarda⟩ := extraerPins_guarda httpResp maxPins
    simp only [aplica, ListaPins.aplica, hrs, Option.bind_eq_bind, Option.bind_some,
      hguarda.length_eq]
    split_ifs
    · refine ⟨_, rfl, ?_⟩
      unfold actualizarBaseDeDatos
      rw [hguarda.length_eq]
      exact List.rel_append (List.forall₂_take maxPins hguarda) (forall₂_replicate _)
    · exact ⟨t, rfl, h⟩
  | asociarRFID pin uid =>
    refine cambiaPrimero_guarda (fun r u => conPin_guarda) (fun r u hr => ?_) h
    obtain ⟨hlen, hhex⟩ := uidStr_hex uid
    have h0 : 0 ∉ uidStr uid := fun hmem => by
      rcases hhex 0 hmem with hdigit | hletter
      · exact absurd hdigit.1 (by decide)
      · exact absurd hletter.1 (by decide)
    obtain ⟨rfid, hrfid, hholds⟩ := holds_strcpy r.rfid h0 (by omega)
    refine ⟨{ r with rfid := rfid }, by rw [hrfid]; rfl,
    ⟨hr.codigo, hr.activo, ?_, hr.huella, hr.tag⟩⟩
    rwa [CStr.copy_bytes h0 (by omega)]
  | asociarHuella pin idHuella =>
    refine cambiaPrimero_guarda (fun r u => conPin_guarda) (fun r u hr => ?_) h
    obtain ⟨huella1, huella, hcopy, hput, hholds⟩ := holds_strncpy r.huella (cString_noNul idHuella)
    refine ⟨{ r with huella := huella }, ?_, ⟨hr.codigo, hr.activo, hr.rfid, hholds, hr.tag⟩⟩
    simp only [hcopy, hput, Option.bind_eq_bind, Option.bind_some, Option.pure_def]
  | eliminarHuella pin =>
    refine cambiaPrimero_guarda (fun r u => conPin_guarda) (fun r u hr => ?_) h
    exact ⟨_, rfl, hr.codigo, hr.activo, hr.rfid, holds_zeros, hr.tag⟩
  | eliminarTodas =>
    refine ⟨_, rfl, ?_⟩
    unfold eliminarTodasHuellasLocal
    refine List.forall₂_map_left_iff.mpr (List.forall₂_map_right_iff.mpr (h.imp ?_))
    exact fun r u hr => ⟨hr.codigo, hr.activo, hr.rfid, holds_zeros, hr.tag⟩
  | agregar nuevoPin noVacio =>
    refine cambiaPrimero_guarda (fun r u hr => by rw [hr.activo]) (fun r u hr => ?_) h
    obtain ⟨codigo, hcodigo, hholds⟩ := holds_strcpy r.codigo nuevoPin.noNul nuevoPin.fits
    refine ⟨{ r with codigo := codigo, activo := true }, by rw [hcodigo]; rfl, ?_⟩
    exact ⟨hholds, rfl, hr.rfid, hr.huella, hr.tag⟩

theorem literal_holds {n : ℕ} {s : String} (h0 : 0 ∉ ascii s) (hlen : (ascii s).length < n) :
    Holds (literal n s) (ascii s) := by
  obtain ⟨buf, hbuf, hholds⟩ := holds_strcpy (zeros n) h0 hlen
  unfold literal
  rwa [hbuf]

theorem guarda_literal {codigo rfid huella tag : String}
    (h0 : 0 ∉ ascii codigo ++ ascii rfid ++ ascii huella ++ ascii tag)
    (hcodigo : (ascii codigo).length ≤ 5) (hrfid : (ascii rfid).length ≤ 19)
    (hhuella : (ascii huella).length ≤ 4) (htag : (ascii tag).length ≤ 19) :
    Guarda ⟨literal 6 codigo, true, literal 20 rfid, literal 5 huella, literal 20 tag⟩
      { codigo := .copy 5 (ascii codigo), activo := true, rfid := .copy 19 (ascii rfid),
        huella := .copy 4 (ascii huella), tag := .copy 19 (ascii tag) } := by
  simp only [List.mem_append, not_or] at h0
  obtain ⟨⟨⟨hc, hr⟩, hh⟩, ht⟩ := h0
  have hcampo : ∀ {n : ℕ} {s : String}, 0 ∉ ascii s → (ascii s).length ≤ n →
      Holds (literal (n + 1) s) (CStr.copy n (ascii s)).bytes := by
    intro n s h0 hlen
    rw [CStr.copy_bytes h0 hlen]
    exact literal_holds h0 (Nat.lt_succ_of_le hlen)
  exact ⟨hcampo hc hcodigo, rfl, hcampo hr hrfid, hcampo hh hhuella, hcampo ht htag⟩

theorem guarda_inicial : List.Forall₂ Guarda listaPins listaPinsInicial.pins := by
  refine List.rel_append ?_ (forall₂_replicate 93)
  refine .cons ?_ (.cons ?_ (.cons ?_ (.cons ?_ (.cons ?_ (.cons ?_ .nil)))))
  all_goals exact guarda_literal (by decide) (by decide) (by decide) (by decide) (by decide)

/-- After any operations the bytes hold a table in which every active record has
a code. -/
theorem foldlM_guarda {t : List Registro} {lista : ListaPins} (ms : List Mutacion)
    (h : List.Forall₂ Guarda t lista.pins) (hcodigo : lista.ConCodigo) :
    ∃ (t' : List Registro) (lista' : ListaPins), ms.foldlM aplica t = some t' ∧
      List.Forall₂ Guarda t' lista'.pins ∧ lista'.ConCodigo := by
  induction ms generalizing t lista with
  | nil => exact ⟨t, lista, rfl, h, hcodigo⟩
  | cons m ms ih =>
    obtain ⟨t1, ht1, h1⟩ := aplica_guarda m h
    obtain ⟨t', lista', ht', hrest⟩ := ih h1 (hcodigo.aplica m)
    exact ⟨t', lista', by rw [List.foldlM_cons, ht1]; exact ht', hrest⟩

/-- The strings end inside their arrays, and an active record has a code. -/
structure Registro.BienFormado (r : Registro) : Prop where
  codigo : ∃ s, string r.codigo = some s ∧ s.length ≤ 5 ∧ (r.activo = true → s ≠ [])
  rfid : ∃ s, string r.rfid = some s ∧ s.length ≤ 19
  huella : ∃ s, string r.huella = some s ∧ s.length ≤ 4
  tag : ∃ s, string r.tag = some s ∧ s.length ≤ 19

theorem Guarda.bienFormado {r : Registro} {u : PinUsuario} (h : Guarda r u)
    (hcodigo : u.activo = true → u.codigo.bytes ≠ []) : r.BienFormado where
  codigo := ⟨_, h.codigo.string_eq, Nat.le_of_lt_succ h.codigo.length_lt,
    fun hactivo => hcodigo (h.activo ▸ hactivo)⟩
  rfid := ⟨_, h.rfid.string_eq, Nat.le_of_lt_succ h.rfid.length_lt⟩
  huella := ⟨_, h.huella.string_eq, Nat.le_of_lt_succ h.huella.length_lt⟩
  tag := ⟨_, h.tag.string_eq, Nat.le_of_lt_succ h.tag.length_lt⟩

/-- What a table of bytes has to be. -/
structure BienFormada (t : List Registro) : Prop where
  registros : ∀ r ∈ t, r.BienFormado
  tamano : t.length = maxPins
  validarPin : validarPin t [] = some false
  esPinMaster : esPinMaster t [] = some false

theorem forall₂_bienFormado {t : List Registro} {pins : List PinUsuario}
    (h : List.Forall₂ Guarda t pins)
    (hcodigo : ∀ u ∈ pins, u.activo = true → u.codigo.bytes ≠ []) : ∀ r ∈ t, r.BienFormado := by
  induction h with
  | nil => exact fun r hr => nomatch hr
  | cons hr _ ih =>
    obtain ⟨hu, hrest⟩ := List.forall_mem_cons.mp hcodigo
    exact List.forall_mem_cons.mpr ⟨hr.bienFormado hu, ih hrest⟩

theorem bienFormada_of_guarda {t : List Registro} {lista : ListaPins}
    (h : List.Forall₂ Guarda t lista.pins) (hcodigo : lista.ConCodigo) : BienFormada t where
  registros := forall₂_bienFormado h hcodigo
  tamano := h.length_eq.trans lista.size
  validarPin := by
    unfold Memoria.validarPin
    rw [anyM_guarda (fun r u => conPin_guarda) h]
    exact congrArg some hcodigo.validarPin_nil
  esPinMaster := by
    have hmaster := hcodigo.esPinMaster_nil
    have hsize := lista.size
    unfold Cerradura.esPinMaster at hmaster
    unfold Memoria.esPinMaster
    generalize lista.pins = pins at h hmaster hsize
    cases h with
    | nil => exact absurd hsize (by decide)
    | cons hr _ => exact (conPin_guarda hr).trans (congrArg some hmaster)

/-- What the parser extracts of an answer, whatever its bytes. -/
theorem extraerPins_cabe (httpResp : List UInt8) (maxPins : ℕ) :
    ∃ rs, extraerPins httpResp maxPins = some rs ∧ rs.length ≤ maxPins := by
  obtain ⟨rs, hrs, hguarda⟩ := extraerPins_guarda httpResp maxPins
  exact ⟨rs, hrs, hguarda.length_eq ▸ (extraerPins_stored httpResp maxPins).1⟩

/-- After any operations no write has gone past an array, no string lacks its
terminator, and the table is as it has to be. -/
theorem tabla_bien_formada (ms : List Mutacion) :
    ∃ t, ms.foldlM aplica listaPins = some t ∧ BienFormada t := by
  obtain ⟨t, lista, ht, hguarda, hcodigo⟩ := foldlM_guarda ms guarda_inicial conCodigo_inicial
  exact ⟨t, ht, bienFormada_of_guarda hguarda hcodigo⟩

end Memoria

end Cerradura
