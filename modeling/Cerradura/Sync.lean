import Cerradura.EspAT
import Cerradura.JsonArray

/-!
# Synchronising the table with the server

`sincronizarConServidor` of validacion.c asks the server for its users and
replaces the table if any came. The answer of the server may be longer than the
receive buffer, and the connection may break off anywhere.

Results:
1. `pins_of_received`: of well-formed users it yields the records of those whose
   closing brace has arrived, character for character.
2. `only_row_one_is_master`: whatever the other fields hold and wherever the
   answer was cut, position 0 belongs to row 1.
3. `sync_fiel_iff`: a sync loses no user if and only if the body fits the
   receive buffer or no brace of it has arrived.
-/

namespace Cerradura

open Reactive CText

/-! ## The code -/

/-- 0 after a successful download. The state is `listaPins`. -/
def sincronizarConServidor : Prog ListaPins Sample EspEv ℕ := do
  let bufferUsuarios ← espHTTPGetPins maxPins
  if 0 < bufferUsuarios.length then
    Prog.modify fun _ => actualizarBaseDeDatos bufferUsuarios
    pure 0
  else pure 1

theorem espHTTPGetPins_eq {σ : Type} {maxPins : ℕ} (hmax : maxPins ≠ 0)
    {c c' : Config σ Sample EspEv} {r : Option (List UInt8)}
    (h : espHTTPGetViaAT rutaPins httpRespSize c = (some r, c')) :
    espHTTPGetPins maxPins c = (some ((r.map (extraerPins · maxPins)).getD []), c') := by
  unfold espHTTPGetPins
  rw [if_neg hmax, Prog.bind_eq_of h]
  cases r <;> rfl

/-- What a sync does with what the download gave. -/
theorem sincronizarConServidor_eq {c c' : Config ListaPins Sample EspEv}
    {r : Option (List UInt8)} (h : espHTTPGetViaAT rutaPins httpRespSize c = (some r, c')) :
    sincronizarConServidor c =
      (if 0 < ((r.map (extraerPins · maxPins)).getD []).length then
        (some 0, { c' with
          st := actualizarBaseDeDatos ((r.map (extraerPins · maxPins)).getD []) })
      else (some 1, c')) ∧ c'.st = c.st := by
  have hpins := espHTTPGetPins_eq (show maxPins ≠ 0 by decide) h
  have hst : c'.st = c.st := by
    have hsize : 2 ≤ httpRespSize := by decide
    have hkeeps : MismoEstado c (espHTTPGetViaAT rutaPins httpRespSize c).2 :=
      espHTTPGetViaAT_keeps hsize c
    rwa [h] at hkeeps
  refine ⟨?_, hst⟩
  unfold sincronizarConServidor
  rw [Prog.bind_eq_of hpins]
  split_ifs <;> rfl

/-- The answer that the ESP delivers to a request for the users, as far as the
receive buffer holds it. -/
def Entrega (respuesta : List UInt8) (c c' : Config ListaPins Sample EspEv) : Prop :=
  espHTTPGetViaAT rutaPins httpRespSize c = (some (some (respuesta.take (httpRespSize - 1))), c')

/-! ## The answer -/

/-- What can stand before and after the body: neither braces nor NUL. -/
structure Marco (s : List UInt8) : Prop where
  noNul : 0 ∉ s
  sinIzq : llaveIzq ∉ s
  sinDer : llaveDer ∉ s

instance (s : List UInt8) : Decidable (Marco s) :=
  decidable_of_iff (0 ∉ s ∧ llaveIzq ∉ s ∧ llaveDer ∉ s)
    ⟨fun ⟨h0, hi, hd⟩ => ⟨h0, hi, hd⟩, fun h => ⟨h.noNul, h.sinIzq, h.sinDer⟩⟩

/-- The records are those of the part of the array that arrived. -/
theorem extraerPins_jsonPins {pre post : List UInt8} {rows : List Row} {n maxPins : ℕ}
    (hpre : Marco pre) (hpost : 0 ∉ post) :
    extraerPins ((pre ++ (jsonPins rows ++ post)).take n) maxPins =
      ((blocks llaveIzq llaveDer ((objetos rows ++ (cierre ++ post)).take
        (n - (pre.length + apertura.length)))).filterMap registro).take maxPins := by
  have hsplit : jsonPins rows ++ post = apertura ++ (objetos rows ++ (cierre ++ post)) := by
    simp only [jsonPins, List.append_assoc]
  have hnul : 0 ∉ pre ++ (jsonPins rows ++ post) := by
    simp only [List.mem_append, not_or]
    exact ⟨hpre.noNul, jsonPins_noNul rows, hpost⟩
  rw [hsplit] at hnul ⊢
  exact extraerPins_recibido hnul hpre.sinIzq hpre.sinDer

/-! ## Well-formed users -/

/-- Where the object of user `i` ends in the body: its closing brace is the last
of so many bytes. -/
def finObjeto (rows : List Row) (i : ℕ) : ℕ := (apertura ++ objetos (rows.take (i + 1))).length

/-- What HTTPCGET puts around a body. -/
def marcoPre : List UInt8 := ascii "+HTTPCGET:"

def marcoPost : List UInt8 := ascii "\r\n\r\nOK\r\n"

def ana : Row :=
  { id := 1, codigo := "12345".toList, activo := 1, rfid := "9A3B11C2".toList,
    huella := "0001".toList, tag := "ana".toList }

def juan : Row :=
  { id := 2, codigo := "54321".toList, activo := 1, rfid := [], huella := [],
    tag := "juan (taller)".toList }

theorem finObjeto_le_iff {rows : List Row} {i n k : ℕ} (hi : i < rows.length) :
    i < (completos rows (n - (k + apertura.length))).length ↔ k + finObjeto rows i ≤ n := by
  have hne : rows.take (i + 1) ≠ [] := by
    rw [Ne, List.take_eq_nil_iff, not_or]
    exact ⟨Nat.succ_ne_zero i, List.ne_nil_of_length_pos (Nat.zero_lt_of_lt hi)⟩
  have hpos := objetos_length_pos hne
  rw [lt_length_completos hi, finObjeto, List.length_append]
  omega

/-- Of well-formed users, the records are exactly those whose closing brace has
arrived, character for character, wherever the answer was cut. -/
theorem pins_of_received {σ : Type} {rows : List Row} (hrows : ∀ row ∈ rows, BienFormado row)
    {pre post : List UInt8} (hpre : Marco pre) (hpost : Marco post) (n maxPins : ℕ)
    {c c' : Config σ Sample EspEv} (h : espHTTPGetViaAT rutaPins httpRespSize c =
      (some (some ((pre ++ (jsonPins rows ++ post)).take n)), c')) :
    ∃ pins k, (espHTTPGetPins maxPins c).1 = some pins ∧ k ≤ rows.length ∧
      (∀ i < rows.length, i < k ↔ pre.length + finObjeto rows i ≤ n) ∧
      List.Forall₂ Registra ((rows.take k).take maxPins) pins := by
  have hresto : llaveIzq ∉ cierre ++ post := by
    rw [List.mem_append, not_or]
    exact ⟨by decide, hpost.sinIzq⟩
  have hregistros := registros_completos hrows hresto (n - (pre.length + apertura.length))
  have hprefix := completos_prefix rows (n - (pre.length + apertura.length))
  rw [List.prefix_iff_eq_take.mp hprefix] at hregistros
  refine ⟨_, _, ?_, hprefix.length_le, fun i hi => finObjeto_le_iff hi,
    List.forall₂_take maxPins hregistros⟩
  rw [← extraerPins_jsonPins hpre hpost.noNul]
  cases maxPins with
  | zero =>
    rw [extraerPins_jsonPins hpre hpost.noNul]
    rfl
  | succ m =>
    rw [espHTTPGetPins_eq (Nat.succ_ne_zero m) h]
    rfl

/-- Two users, the second of them cut off in the middle. -/
theorem pins_of_received_two : ∃ (c : Config Unit Sample EspEv) (pins : List PinUsuario) (k : ℕ),
    (espHTTPGetViaAT rutaPins httpRespSize c).1 =
        some (some ((marcoPre ++ (jsonPins [ana, juan] ++ marcoPost)).take 150)) ∧
      (espHTTPGetPins maxPins c).1 = some pins ∧ k ≤ [ana, juan].length ∧
      (∀ i < [ana, juan].length, i < k ↔ marcoPre.length + finObjeto [ana, juan] i ≤ 150) ∧
      List.Forall₂ Registra (([ana, juan].take k).take maxPins) pins := by
  have hrows : ∀ row ∈ [ana, juan], BienFormado row := by decide +kernel
  have hpre : Marco marcoPre := by decide
  have hpost : Marco marcoPost := by decide
  have hllave : llaveIzq ∈ cString (((marcoPre ++ (jsonPins [ana, juan] ++ marcoPost)).take
      150).take (httpRespSize - 1)) := by decide +kernel
  obtain ⟨inputs, c', h⟩ := entrega_posible rutaPins
    (show 2 ≤ httpRespSize by decide) hllave ()
  rw [List.take_take] at h
  obtain ⟨pins, k, hpins⟩ := pins_of_received hrows hpre hpost 150 maxPins h
  exact ⟨_, pins, k, congrArg Prod.fst h, hpins⟩

/-! ## The administrator -/

/-- Row 1 comes first. -/
theorem active_eq_cons {db : Db} {row : Row} (hrow : row ∈ db.usuarios) (hid : row.id = 1)
    (hactivo : row.activo = 1) : ∃ rest, db.active = row :: rest := by
  have hmem : row ∈ db.active := List.mem_filter.mpr ⟨hrow, decide_eq_true hactivo⟩
  have hordered : db.active.Pairwise fun a b => a.id < b.id := db.ordered.filter _
  cases hlist : db.active with
  | nil =>
    rw [hlist] at hmem
    cases hmem
  | cons a rest =>
    rw [hlist] at hmem hordered
    rcases List.mem_cons.mp hmem with rfl | hlater
    · exact ⟨rest, rfl⟩
    · have ha : a ∈ db.usuarios := by
        have hin : a ∈ db.active := hlist ▸ List.mem_cons_self
        exact List.mem_of_mem_filter hin
      have hlt := (List.pairwise_cons.mp hordered).1 row hlater
      rw [hid] at hlt
      exact absurd (db.numbered a ha).1 (Nat.not_le_of_lt hlt)

/-- Whatever the other rows and fields hold, and wherever the answer was cut:
after a sync the table is as before, or position 0 is active and has the PIN of
row 1, and no other PIN is the administrator's. -/
theorem only_row_one_is_master {db : Db} {row : Row} (hrow : row ∈ db.usuarios) (hid : row.id = 1)
    (hactivo : row.activo = 1) (hcodigo : CincoDigitos row.codigo)
    {c c' : Config ListaPins Sample EspEv} {recibido : Option (List UInt8)}
    (h : espHTTPGetViaAT rutaPins httpRespSize c = (some recibido, c'))
    (hrecibido : ∀ r, recibido = some r → ∃ pre post n, Marco pre ∧ Marco post ∧
      r = (pre ++ (syncBody db ++ post)).take n) :
    ∃ valor c'', sincronizarConServidor c = (some valor, c'') ∧
      ((valor = 1 ∧ c''.st = c.st) ∨
        (∃ master, c''.st.pins[0]? = some master ∧ master.activo = true ∧
          master.codigo.bytes = asciiBytes row.codigo) ∧
        ∀ pin, esPinMaster c''.st pin = true ↔ pin = asciiBytes row.codigo) := by
  obtain ⟨heq, hst⟩ := sincronizarConServidor_eq h
  cases recibido with
  | none => exact ⟨1, c', heq, .inl ⟨rfl, hst⟩⟩
  | some r =>
    obtain ⟨pre, post, n, hpre, hpost, rfl⟩ := hrecibido r rfl
    obtain ⟨rest, hrest⟩ := active_eq_cons hrow hid hactivo
    rw [Option.map_some, Option.getD_some, syncBody, extraerPins_jsonPins hpre hpost.noNul, hrest,
      objetos_cons, List.append_assoc] at heq
    by_cases hmem : llaveDer ∈ (objeto row ++ (cola rest ++ (cierre ++ post))).take
        (n - (pre.length + apertura.length))
    · obtain ⟨parte, partes, pin, hpartes, hpin, hpinactivo, hpincodigo⟩ :=
        blocks_primero (by rw [hactivo]; decide) hcodigo hmem
      have hpos : 0 < ((pin :: partes.filterMap registro).take maxPins).length := Nat.succ_pos _
      rw [hpartes, List.filterMap_cons_some hpin, if_pos hpos] at heq
      have hfirst : (actualizarBaseDeDatos
          ((pin :: partes.filterMap registro).take maxPins)).pins[0]? = some pin := rfl
      refine ⟨0, _, heq, .inr ⟨⟨pin, hfirst, hpinactivo, hpincodigo⟩, fun p => ?_⟩⟩
      rw [esPinMaster_iff]
      constructor
      · rintro ⟨u, hu, -, rfl⟩
        obtain rfl := Option.some.inj (hfirst.symm.trans hu)
        exact hpincodigo
      · rintro rfl
        exact ⟨pin, hfirst, hpinactivo, hpincodigo⟩
    · rw [blocks_of_no_close hmem] at heq
      exact ⟨1, c', heq, .inl ⟨rfl, hst⟩⟩

/-- The table of `init_db`, delivered whole. -/
theorem only_row_one_is_master_initDb : ∃ (c c' : Config ListaPins Sample EspEv) (valor : ℕ)
    (c'' : Config ListaPins Sample EspEv),
    Entrega (marcoPre ++ (syncBody initDb ++ marcoPost)) c c' ∧
      sincronizarConServidor c = (some valor, c'') ∧
      ((valor = 1 ∧ c''.st = c.st) ∨
        (∃ master, c''.st.pins[0]? = some master ∧ master.activo = true ∧
          master.codigo.bytes = asciiBytes "11111".toList) ∧
        ∀ pin, esPinMaster c''.st pin = true ↔ pin = asciiBytes "11111".toList) := by
  have hllave : llaveIzq ∈ cString ((marcoPre ++ (syncBody initDb ++ marcoPost)).take
      (httpRespSize - 1)) := by decide +kernel
  obtain ⟨inputs, c', h⟩ := entrega_posible rutaPins
    (show 2 ≤ httpRespSize by decide) hllave listaPinsInicial
  obtain ⟨admin, hadmin, hid, hactivo, hcodigo⟩ : ∃ row ∈ initDb.usuarios, row.id = 1 ∧
      row.activo = 1 ∧ row.codigo = "11111".toList := ⟨_, List.mem_singleton.mpr rfl, rfl, rfl, rfl⟩
  rw [← hcodigo]
  obtain ⟨valor, c'', heq, hmaster⟩ := only_row_one_is_master hadmin hid hactivo
    (by rw [hcodigo]; decide) h fun r hr =>
      ⟨marcoPre, marcoPost, _, by decide, by decide, (Option.some.inj hr).symm⟩
  exact ⟨_, c', valor, c'', h, heq, hmaster⟩

/-! ## Losing users -/

/-- What a sync promises: after a success every active user is in the table, and
a body that did not arrive whole leaves the table as it is. -/
structure SyncFiel (db : Db) (entero : Prop) (antes : ListaPins) (valor : ℕ) (despues : ListaPins) :
    Prop where
  completa : valor = 0 → ∀ row ∈ db.active, ∃ pin ∈ despues.pins,
    pin.activo = true ∧ pin.codigo.bytes = asciiBytes row.codigo
  cortada : ¬ entero → valor = 1 ∧ despues = antes

theorem mem_ofList {pin : PinUsuario} {pins : List PinUsuario} (h : pin ∈ pins.take maxPins) :
    pin ∈ (ListaPins.ofList pins).pins := List.mem_append_left _ h

/-- A body that arrived whole: every user is among the first 99 records. -/
theorem registro_en_tabla {rows : List Row}
    (hrows : ∀ row ∈ rows, row.activo ≠ 0 ∧ CincoDigitos row.codigo)
    (hlen : (objetos rows).length ≤ 2036) (t : List UInt8) : ∀ row ∈ rows,
    ∃ pin ∈ ((blocks llaveIzq llaveDer (objetos rows ++ t)).filterMap registro).take maxPins,
      pin.activo = true ∧ pin.codigo.bytes = asciiBytes row.codigo := by
  intro row hrow
  have hne : rows ≠ [] := List.ne_nil_of_mem hrow
  obtain ⟨pin, hpin, hvale⟩ := registro_de_todos hrows [] row hrow
  rw [List.append_nil] at hpin
  refine ⟨pin, ?_, hvale⟩
  rw [blocks_objetos_append hne (fun row hrow => (hrows row hrow).1), List.filterMap_append,
    List.take_append, List.take_of_length_le (registros_le hrows hlen)]
  exact List.mem_append_left _ hpin

section Cortado

variable {db : Db} {pre post : List UInt8} {c c' : Config ListaPins Sample EspEv}

/-- A body that arrived whole gives every user a record. -/
theorem sync_entero (hcodigo : ∀ row ∈ db.active, CincoDigitos row.codigo) (hpre : Marco pre)
    (hpost : 0 ∉ post) (h : Entrega (pre ++ (syncBody db ++ post)) c c')
    (hfits : (pre ++ syncBody db).length < httpRespSize) :
    ∃ valor c'', sincronizarConServidor c = (some valor, c'') ∧
      (valor = 0 → ∀ row ∈ db.active, ∃ pin ∈ c''.st.pins,
        pin.activo = true ∧ pin.codigo.bytes = asciiBytes row.codigo) := by
  have hlen : pre.length + apertura.length + (objetos db.active).length + 2 ≤ 2047 := by
    have hlt : (pre ++ syncBody db).length < 2048 := hfits
    have hcierre : cierre.length = 2 := rfl
    simp only [syncBody, jsonPins, List.length_append, hcierre] at hlt
    omega
  have hapertura : apertura.length = 9 := by decide
  have htodos : ∀ t, ∀ row ∈ db.active, _ := registro_en_tabla
    (fun row hrow => ⟨activo_ne_zero hrow, hcodigo row hrow⟩) (by omega)
  obtain ⟨heq, -⟩ := sincronizarConServidor_eq h
  have harray : (objetos db.active).length ≤ httpRespSize - 1 - (pre.length + apertura.length) := by
    show _ ≤ 2047 - (pre.length + apertura.length)
    omega
  rw [Option.map_some, Option.getD_some, syncBody, extraerPins_jsonPins hpre hpost,
    List.take_append, List.take_of_length_le harray] at heq
  split_ifs at heq
  · refine ⟨0, _, heq, fun _ row hrow => ?_⟩
    obtain ⟨pin, hpin, hvale⟩ := htodos _ row hrow
    have htake : ∀ l : List PinUsuario, (l.take maxPins).take maxPins = l.take maxPins := by
      intro l
      rw [List.take_take, Nat.min_self]
    exact ⟨pin, mem_ofList (by rw [htake]; exact hpin), hvale⟩
  · exact ⟨1, c', heq, fun h0 => absurd h0 Nat.one_ne_zero⟩

/-- Without a closing brace there is no record, and the table stays. -/
theorem sync_sinLlave (h : Entrega (pre ++ (syncBody db ++ post)) c c')
    (hnone : llaveDer ∉ (pre ++ (syncBody db ++ post)).take (httpRespSize - 1)) :
    ∃ c'', sincronizarConServidor c = (some 1, c'') ∧ c''.st = c.st := by
  obtain ⟨heq, hst⟩ := sincronizarConServidor_eq h
  have hsin : extraerPins ((pre ++ (syncBody db ++ post)).take (httpRespSize - 1)) maxPins = [] :=
    extraerPins_sinLlave fun hmem => hnone ((List.takeWhile_sublist _).mem hmem)
  rw [Option.map_some, Option.getD_some, hsin] at heq
  exact ⟨c', heq, hst⟩

/-- A body that was cut after a brace passes for a success. -/
theorem sync_cortado (hcodigo : ∀ row ∈ db.active, CincoDigitos row.codigo) (hpre : Marco pre)
    (hpost : 0 ∉ post) (h : Entrega (pre ++ (syncBody db ++ post)) c c')
    (hcut : httpRespSize ≤ (pre ++ syncBody db).length)
    (hmem : llaveDer ∈ (pre ++ syncBody db).take (httpRespSize - 1)) :
    ∃ c'', sincronizarConServidor c = (some 0, c'') := by
  obtain ⟨heq, -⟩ := sincronizarConServidor_eq h
  rw [Option.map_some, Option.getD_some, syncBody, extraerPins_jsonPins hpre hpost] at heq
  have hapertura : llaveDer ∉ pre ++ apertura := by
    rw [List.mem_append, not_or]
    exact ⟨hpre.sinDer, by decide⟩
  -- the last byte of the body has not arrived
  have hsplit : pre ++ syncBody db =
      (pre ++ apertura) ++ ((objetos db.active ++ [0x5D]) ++ [llaveDer]) := by
    simp [syncBody, jsonPins, cierre]
  have hshort : httpRespSize - 1 ≤ ((pre ++ apertura) ++ (objetos db.active ++ [0x5D])).length := by
    rw [hsplit, ← List.append_assoc, List.length_append] at hcut
    exact Nat.sub_le_of_le_add hcut
  rw [hsplit, ← List.append_assoc, List.take_append_of_le_length hshort, List.take_append] at hmem
  have hrecibido : llaveDer ∈ (objetos db.active ++ [0x5D]).take
      (httpRespSize - 1 - (pre ++ apertura).length) := by
    rcases List.mem_append.mp hmem with hmem | hmem
    · exact absurd (List.mem_of_mem_take hmem) hapertura
    · exact hmem
  cases hactive : db.active with
  | nil =>
    rw [hactive] at hrecibido
    have hno : llaveDer ∉ objetos [] ++ [0x5D] := by decide
    exact absurd (List.mem_of_mem_take hrecibido) hno
  | cons row rest =>
    have hrow : row ∈ db.active := hactive ▸ List.mem_cons_self
    have hllegado : llaveDer ∈ (objeto row ++ (cola rest ++ (cierre ++ post))).take
        (httpRespSize - 1 - (pre.length + apertura.length)) := by
      have hjoin : objetos db.active ++ (cierre ++ post) =
          (objetos db.active ++ [0x5D]) ++ (llaveDer :: post) := by
        simp [cierre]
      rw [← List.length_append, ← List.append_assoc, ← objetos_cons, ← hactive, hjoin,
        List.take_append]
      exact List.mem_append_left _ hrecibido
    obtain ⟨parte, partes, pin, hpartes, hpin, -⟩ :=
      blocks_primero (activo_ne_zero hrow) (hcodigo row hrow) hllegado
    have hpos : 0 < ((pin :: partes.filterMap registro).take maxPins).length := Nat.succ_pos _
    rw [hactive, objetos_cons, List.append_assoc, hpartes, List.filterMap_cons_some hpin,
      if_pos hpos] at heq
    exact ⟨_, heq⟩

end Cortado

/-- A sync keeps its promise if and only if the body fits the receive buffer or
no brace of it has arrived. -/
theorem sync_fiel_iff {db : Db} (hcodigo : ∀ row ∈ db.active, CincoDigitos row.codigo)
    {pre post : List UInt8} (hpre : Marco pre) (hpost : 0 ∉ post)
    {c c' : Config ListaPins Sample EspEv}
    (h : Entrega (pre ++ (syncBody db ++ post)) c c') :
    (∃ valor c'', sincronizarConServidor c = (some valor, c'') ∧
      SyncFiel db ((pre ++ syncBody db).length < httpRespSize) c.st valor c''.st) ↔
    (pre ++ syncBody db).length < httpRespSize ∨
      llaveDer ∉ (pre ++ syncBody db).take (httpRespSize - 1) := by
  by_cases hfits : (pre ++ syncBody db).length < httpRespSize
  · refine iff_of_true ?_ (.inl hfits)
    obtain ⟨valor, c'', heq, hcompleta⟩ := sync_entero hcodigo hpre hpost h hfits
    exact ⟨valor, c'', heq, hcompleta, fun hno => absurd hfits hno⟩
  · have hcut := not_lt.mp hfits
    by_cases hmem : llaveDer ∈ (pre ++ syncBody db).take (httpRespSize - 1)
    · refine iff_of_false ?_ (not_or.mpr ⟨hfits, fun hno => hno hmem⟩)
      rintro ⟨valor, c'', heq, hfiel⟩
      obtain ⟨c0, heq0⟩ := sync_cortado hcodigo hpre hpost h hcut hmem
      obtain rfl := Option.some.inj (Prod.mk.inj (heq.symm.trans heq0)).1
      exact absurd (hfiel.cortada hfits).1 Nat.zero_ne_one
    · refine iff_of_true ?_ (.inr hmem)
      have hrecibido : (pre ++ (syncBody db ++ post)).take (httpRespSize - 1) =
          (pre ++ syncBody db).take (httpRespSize - 1) := by
        rw [← List.append_assoc, List.take_append_of_le_length (le_trans (Nat.sub_le _ 1) hcut)]
      obtain ⟨c'', heq, hst⟩ := sync_sinLlave h (hrecibido ▸ hmem)
      exact ⟨1, c'', heq, fun h0 => absurd h0 Nat.one_ne_zero, fun _ => ⟨rfl, hst⟩⟩

/-- The body of `init_db`, which fits. -/
theorem sync_fiel_iff_initDb : ∃ c c' : Config ListaPins Sample EspEv,
    Entrega (marcoPre ++ (syncBody initDb ++ marcoPost)) c c' ∧
    ((∃ valor c'', sincronizarConServidor c = (some valor, c'') ∧
      SyncFiel initDb ((marcoPre ++ syncBody initDb).length < httpRespSize) c.st valor c''.st) ↔
    (marcoPre ++ syncBody initDb).length < httpRespSize ∨
      llaveDer ∉ (marcoPre ++ syncBody initDb).take (httpRespSize - 1)) := by
  have hllave : llaveIzq ∈ cString ((marcoPre ++ (syncBody initDb ++ marcoPost)).take
      (httpRespSize - 1)) := by decide +kernel
  obtain ⟨inputs, c', h⟩ := entrega_posible rutaPins
    (show 2 ≤ httpRespSize by decide) hllave listaPinsInicial
  exact ⟨_, c', h, sync_fiel_iff (by decide) (by decide) (by decide) h⟩

/-- Thirty users with PINs of five digits and no other credential. -/
def treintaUsuarios : Db where
  usuarios := (List.range 30).map fun i =>
    { id := i + 1, codigo := (toString (10000 + i)).toList, activo := 1, rfid := [], huella := [],
      tag := "usuario".toList }
  seq := 30
  ordered := by decide +kernel
  numbered := by decide +kernel

/-- The body of thirty users does not fit: the sync reports success, and the
last users are gone. -/
theorem cut_sync_reports_success : ¬ ∀ (db : Db) (pre post : List UInt8)
    (c c' : Config ListaPins Sample EspEv), db.active.length ≤ maxPins →
    (∀ row ∈ db.active, BienFormado row) → Marco pre → Marco post →
    Entrega (pre ++ (syncBody db ++ post)) c c' →
    ∃ valor c'', sincronizarConServidor c = (some valor, c'') ∧
      SyncFiel db ((pre ++ syncBody db).length < httpRespSize) c.st valor c''.st := by
  intro hall
  have hcut : httpRespSize ≤ (marcoPre ++ syncBody treintaUsuarios).length := by decide +kernel
  have hmem : llaveDer ∈ (marcoPre ++ syncBody treintaUsuarios).take (httpRespSize - 1) := by
    decide +kernel
  have hllave : llaveIzq ∈ cString ((marcoPre ++ (syncBody treintaUsuarios ++ marcoPost)).take
      (httpRespSize - 1)) := by decide +kernel
  have hrows : ∀ row ∈ treintaUsuarios.active, BienFormado row := by decide +kernel
  have hcount : treintaUsuarios.active.length ≤ maxPins := by decide +kernel
  have hpre : Marco marcoPre := by decide
  have hpost : Marco marcoPost := by decide
  obtain ⟨inputs, c', h⟩ := entrega_posible rutaPins
    (show 2 ≤ httpRespSize by decide) hllave listaPinsInicial
  obtain ⟨valor, c'', heq, hfiel⟩ := hall _ _ _ _ c' hcount hrows hpre hpost h
  obtain ⟨c0, heq0⟩ := sync_cortado (fun row hrow => (hrows row hrow).codigo) hpre hpost.noNul h
    hcut hmem
  obtain rfl := Option.some.inj (Prod.mk.inj (heq.symm.trans heq0)).1
  exact absurd (hfiel.cortada (not_lt.mpr hcut)).1 Nat.zero_ne_one

end Cerradura
