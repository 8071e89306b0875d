import Cerradura.JsonKeys

/-!
# Forged credentials

The encoder escapes quotation marks but not braces, and the parser looks for
braces first. A brace in a value ends the object, and at the next opening brace
a part begins that has only some of the keys. With a key that a value holds it
is a record, of a code that no user has.

Results:
1. `credenciales_iff`: exactly when each active record holds the code of an
   active user.
2. `acreditado_objeto`: the codes of the active records of one object.
3. `credencial_forjada`: a user whose other fields make a second PIN.
-/

namespace Cerradura

open CText

/-! ## Forging a code -/

/-- The text of `rfid` in which a part can begin: not where one that began before goes on. -/
def libre (c r : List UInt8) : List UInt8 :=
  if llaveDer ∈ c ∧ abierta (tras c) = none then r else tras r

/-- The codes, other than its own, that the values `c`, `r`, `h` and `t` of an
object put into active records. It takes a brace that closes in `c`, or one that
opens in `r` (`not_forja`). -/
inductive Forja (c r h t : List UInt8) : List UInt8 → Prop
  -- a part begins in `codigo`: it has the key `activo`, and lacks the key `codigo`
  | enCodigo {p : List UInt8} : abierta (tras c) = some p → clave "codigo" <:+ p →
      Forja c r h t (ascii "rfid")
  | enRfid {p : List UInt8} : abierta (tras c) = some p → ¬ clave "codigo" <:+ p →
      llaveDer ∉ r → clave "codigo" <:+ comilla :: r → Forja c r h t (leido h)
  | enHuella {p : List UInt8} : abierta (tras c) = some p → ¬ clave "codigo" <:+ p →
      llaveDer ∉ r → ¬ clave "codigo" <:+ comilla :: r →
      llaveDer ∉ h → clave "codigo" <:+ comilla :: h → Forja c r h t (leido t)
  -- a part begins in `rfid`: it lacks both keys
  | activoPrimero {p : List UInt8} : abierta (libre c r) = some p → clave "activo" <:+ p →
      llaveDer ∉ h → clave "codigo" <:+ comilla :: h →
      Contiene (ascii "true") h ∨ Contiene (ascii "true") (hasta t) → Forja c r h t (leido t)
  | codigoPrimero {p : List UInt8} : abierta (libre c r) = some p → clave "codigo" <:+ p →
      llaveDer ∉ h → clave "activo" <:+ comilla :: h →
      Contiene (ascii "true") (hasta t) → Forja c r h t (leido h)

theorem not_forja {c r h t cod : List UInt8} (hc : llaveDer ∉ c) (hr : llaveIzq ∉ r) :
    ¬ Forja c r h t cod := by
  have hcodigo : ∀ p, abierta (tras c) ≠ some p := by
    intro p hp
    rw [tras, past_of_notMem hc] at hp
    cases hp
  have hrfid : ∀ p, abierta (libre c r) ≠ some p := by
    intro p hp
    rw [libre, if_neg fun hmem => hc hmem.1] at hp
    obtain ⟨x, y, hs, -⟩ := opened_eq_some hp
    have hmem : llaveIzq ∈ tras r := hs ▸ List.mem_append_right x List.mem_cons_self
    exact hr ((List.dropWhile_subset _) (List.mem_of_mem_tail hmem))
  intro hforja
  cases hforja with
  | enCodigo hp => exact hcodigo _ hp
  | enRfid hp => exact hcodigo _ hp
  | enHuella hp => exact hcodigo _ hp
  | activoPrimero hp => exact hrfid _ hp
  | codigoPrimero hp => exact hrfid _ hp

/-! ## The parts of an object -/

/-- A text with a part that gives an active record with this code. -/
def Acreditado (s cod : List UInt8) : Prop :=
  ∃ parte ∈ blocks llaveIzq llaveDer s, Acredita parte cod

section Acreditado

variable {c r h t cod : List UInt8}

theorem not_acreditado {s : List UInt8} (hs : llaveIzq ∉ s) : ¬ Acreditado s cod := by
  rintro ⟨parte, hparte, -⟩
  rw [blocks_of_notMem hs] at hparte
  cases hparte

/-- What lies within a value gives no record. The rest depends on the part that
the value leaves open. -/
theorem acreditado_tramo {x z : List UInt8} {ys : List (List UInt8)} (hx : Escaped comilla barra x)
    (hys : ∀ y ∈ ys, llaveIzq ∉ y ∧ llaveDer ∉ y) (hz : llaveDer ∈ z) :
    Acreditado (x ++ chain comilla ys z) cod ↔
      abierta x = none ∧ Acreditado z cod ∨
      ∃ p, abierta x = some p ∧
        (Acredita (p ++ chain comilla ys (hasta z)) cod ∨ Acreditado (tras z) cod) := by
  have hclose : ∀ y ∈ ys, llaveDer ∉ y := fun y hy => (hys y hy).2
  have hopen : llaveIzq ∉ chain comilla ys [] :=
    notMem_chain (by decide) (fun y hy => (hys y hy).1) List.not_mem_nil
  have hmem : llaveDer ∈ chain comilla ys z := by
    rw [chain_eq_append]
    exact List.mem_append_right _ hz
  have hdentro : ∀ parte ∈ blocks llaveIzq llaveDer x, ¬ Acredita parte cod := by
    intro parte hparte
    exact not_acredita (hx.blocks (by decide) (by decide) (by decide) (by decide) hparte)
  have hparts := blocks_append_opened (x := x) (show llaveDer ≠ llaveIzq by decide) hmem
  unfold Acreditado abierta
  cases hp : opened llaveIzq llaveDer x with
  | none =>
    have hskip : blocks llaveIzq llaveDer (chain comilla ys z) = blocks llaveIzq llaveDer z := by
      rw [chain_eq_append, blocks_skip hopen]
    rw [hp, hskip] at hparts
    rw [hparts]
    constructor
    · rintro ⟨parte, hparte, hacr⟩
      rcases List.mem_append.mp hparte with hparte | hparte
      · exact absurd hacr (hdentro parte hparte)
      · exact .inl ⟨rfl, parte, hparte, hacr⟩
    · rintro (⟨-, parte, hparte, hacr⟩ | ⟨p, hnone, -⟩)
      · exact ⟨parte, List.mem_append_right _ hparte, hacr⟩
      · cases hnone
  | some p =>
    rw [hp, upTo_chain (by decide) hclose, past_chain (by decide) hclose] at hparts
    rw [hparts]
    constructor
    · rintro ⟨parte, hparte, hacr⟩
      rcases List.mem_append.mp hparte with hparte | hparte
      · exact absurd hacr (hdentro parte hparte)
      · refine .inr ⟨p, rfl, ?_⟩
        rcases List.mem_cons.mp hparte with rfl | hparte
        · exact .inl hacr
        · exact .inr ⟨parte, hparte, hacr⟩
    · rintro (⟨hsome, -⟩ | ⟨p', hp', hacr⟩)
      · cases hsome
      · cases hp'
        rcases hacr with hacr | ⟨parte, hparte, hacr⟩
        · exact ⟨_, List.mem_append_right _ List.mem_cons_self, hacr⟩
        · exact ⟨parte, List.mem_append_right _ (List.mem_cons_of_mem _ hparte), hacr⟩

theorem llaveDer_mem_desdeTag : llaveDer ∈ desdeTag t := by simp [desdeTag]

theorem llaveDer_mem_desdeHuella : llaveDer ∈ desdeHuella h t := by
  rw [desdeHuella, chain_eq_append]
  exact List.mem_append_right _ (List.mem_append_right _ llaveDer_mem_desdeTag)

theorem llaveDer_mem_desdeRfid : llaveDer ∈ desdeRfid r h t := by
  rw [desdeRfid, chain_eq_append]
  exact List.mem_append_right _ (List.mem_append_right _ llaveDer_mem_desdeHuella)

/-- No credential begins in `tag`. -/
theorem not_acreditado_desdeTag (ht : Escaped comilla barra t) :
    ¬ Acreditado (desdeTag t) cod := by
  rw [desdeTag, acreditado_tramo ht (List.forall_mem_nil _) (by decide)]
  rintro (⟨-, hacr⟩ | ⟨p, hp, hacr | hacr⟩)
  · exact not_acreditado (by decide) hacr
  · exact not_acredita_cierre (ht.opened (by decide) (by decide) hp) hacr
  · exact not_acreditado (by decide) hacr

theorem not_acreditado_tras_desdeTag (ht : Escaped comilla barra t) :
    ¬ Acreditado (tras (desdeTag t)) cod := by
  by_cases hd : llaveDer ∈ t
  · rw [tras, desdeTag, past_append_of_mem hd]
    exact not_acreditado_desdeTag (ht.past (by decide) (by decide))
  · rw [tras, desdeTag, past_append_of_notMem hd]
    exact not_acreditado (by decide)

/-- None begins in `huella`. -/
theorem not_acreditado_desdeHuella (hh : Escaped comilla barra h) (ht : Escaped comilla barra t) :
    ¬ Acreditado (desdeHuella h t) cod := by
  rw [desdeHuella, acreditado_tramo hh (by decide) llaveDer_mem_desdeTag]
  rintro (⟨-, hacr⟩ | ⟨p, hp, hacr | hacr⟩)
  · exact not_acreditado_desdeTag ht hacr
  · exact not_acredita_desdeTag (hh.opened (by decide) (by decide) hp) ht hacr
  · exact not_acreditado_tras_desdeTag ht hacr

theorem not_acreditado_tras_desdeHuella (hh : Escaped comilla barra h)
    (ht : Escaped comilla barra t) : ¬ Acreditado (tras (desdeHuella h t)) cod := by
  by_cases hd : llaveDer ∈ h
  · rw [tras, desdeHuella, past_append_of_mem hd]
    exact not_acreditado_desdeHuella (hh.past (by decide) (by decide)) ht
  · rw [tras, desdeHuella, past_append_of_notMem hd, past_chain (by decide) (by decide)]
    exact not_acreditado_tras_desdeTag ht

theorem acreditado_desdeRfid (hr : Escaped comilla barra r) (hh : Escaped comilla barra h)
    (ht : Escaped comilla barra t) : Acreditado (desdeRfid r h t) cod ↔
      ∃ p, abierta r = some p ∧
        Acredita (p ++ chain comilla hastaHuella (hasta (desdeHuella h t))) cod := by
  rw [desdeRfid, acreditado_tramo hr (by decide) llaveDer_mem_desdeHuella,
    or_iff_right fun hacr => not_acreditado_desdeHuella hh ht hacr.2]
  refine exists_congr fun p => and_congr_right fun _ => ?_
  exact or_iff_left (not_acreditado_tras_desdeHuella hh ht)

theorem acreditado_tras_desdeRfid (hr : Escaped comilla barra r) (hh : Escaped comilla barra h)
    (ht : Escaped comilla barra t) : Acreditado (tras (desdeRfid r h t)) cod ↔
      ∃ p, abierta (tras r) = some p ∧
        Acredita (p ++ chain comilla hastaHuella (hasta (desdeHuella h t))) cod := by
  by_cases hd : llaveDer ∈ r
  · rw [tras, desdeRfid, past_append_of_mem hd]
    exact acreditado_desdeRfid (hr.past (by decide) (by decide)) hh ht
  · rw [tras, desdeRfid, past_append_of_notMem hd, past_chain (by decide) (by decide), tras,
      past_of_notMem hd]
    refine iff_of_false (not_acreditado_tras_desdeHuella hh ht) ?_
    rintro ⟨p, hp, -⟩
    cases hp

theorem acreditado_tras_desdeCodigo (hc : Escaped comilla barra c) (hr : Escaped comilla barra r)
    (hh : Escaped comilla barra h) (ht : Escaped comilla barra t) :
    Acreditado (tras (desdeCodigo c r h t)) cod ↔
      (∃ p, abierta (tras c) = some p ∧
        Acredita (p ++ chain comilla hastaRfid (hasta (desdeRfid r h t))) cod) ∨
      ∃ p, abierta (libre c r) = some p ∧
        Acredita (p ++ chain comilla hastaHuella (hasta (desdeHuella h t))) cod := by
  unfold libre
  by_cases hd : llaveDer ∈ c
  · have hc' := hc.past (c := llaveDer) (by decide) (by decide)
    have htras : tras (desdeCodigo c r h t) = tras c ++ chain comilla hastaRfid (desdeRfid r h t) :=
      past_append_of_mem hd _
    rw [htras, acreditado_tramo hc' (by decide) llaveDer_mem_desdeRfid,
      acreditado_desdeRfid hr hh ht, acreditado_tras_desdeRfid hr hh ht]
    cases hp : abierta (tras c) with
    | none =>
      rw [if_pos ⟨hd, rfl⟩]
      constructor
      · rintro (⟨-, hacr⟩ | ⟨p, hsome, -⟩)
        · exact .inr hacr
        · cases hsome
      · rintro (⟨p, hsome, -⟩ | hacr)
        · cases hsome
        · exact .inl ⟨rfl, hacr⟩
    | some p =>
      rw [if_neg fun hnone => Option.some_ne_none p hnone.2]
      constructor
      · rintro (⟨hsome, -⟩ | ⟨p', hp', hacr | hacr⟩)
        · cases hsome
        · exact .inl ⟨p', hp', hacr⟩
        · exact .inr hacr
      · rintro (⟨p', hp', hacr⟩ | hacr)
        · exact .inr ⟨p', hp', .inl hacr⟩
        · exact .inr ⟨p, rfl, .inr hacr⟩
  · have htras : tras (desdeCodigo c r h t) = tras (desdeRfid r h t) :=
      (past_append_of_notMem hd _).trans (past_chain (by decide) (by decide) _)
    rw [htras, acreditado_tras_desdeRfid hr hh ht, if_neg fun hmem => hd hmem.1]
    refine (or_iff_right ?_).symm
    rintro ⟨p, hp, -⟩
    rw [tras, past_of_notMem hd] at hp
    cases hp

/-- The five ways, together. -/
theorem forja_iff (hc : Escaped comilla barra c) (hr : Escaped comilla barra r)
    (hh : Escaped comilla barra h) (ht : Escaped comilla barra t) :
    Acreditado (tras (desdeCodigo c r h t)) cod ↔ cod ≠ [] ∧ Forja c r h t cod := by
  have hlibre : Escaped comilla barra (libre c r) := by
    unfold libre
    split_ifs
    · exact hr
    · exact hr.past (by decide) (by decide)
  rw [acreditado_tras_desdeCodigo hc hr hh ht]
  constructor
  · rintro (⟨p, hp, hacr⟩ | ⟨p, hp, hacr⟩)
    · have hp' := (hc.past (by decide) (by decide)).opened (by decide) (by decide) hp
      obtain ⟨hne, ⟨hcp, rfl⟩ | ⟨hcp, hdr, hcase⟩⟩ := (acredita_desdeRfid hp' hr hh ht).mp hacr
      · exact ⟨hne, .enCodigo hp hcp⟩
      rcases hcase with ⟨hcr, rfl⟩ | ⟨hcr, hdh, hch, rfl⟩
      · exact ⟨hne, .enRfid hp hcp hdr hcr⟩
      · exact ⟨hne, .enHuella hp hcp hdr hcr hdh hch⟩
    · have hp' := hlibre.opened (by decide) (by decide) hp
      obtain ⟨hne, hdh, ⟨hap, hch, htrue, rfl⟩ | ⟨hcp, hah, htrue, rfl⟩⟩ :=
        (acredita_desdeHuella hp' hh ht).mp hacr
      · exact ⟨hne, .activoPrimero hp hap hdh hch htrue⟩
      · exact ⟨hne, .codigoPrimero hp hcp hdh hah htrue⟩
  · rintro ⟨hne, hforja⟩
    have hc' : Escaped comilla barra (tras c) := hc.past (by decide) (by decide)
    cases hforja with
    | enCodigo hp hcp =>
      have hp' := hc'.opened (by decide) (by decide) hp
      exact .inl ⟨_, hp, (acredita_desdeRfid hp' hr hh ht).mpr ⟨hne, .inl ⟨hcp, rfl⟩⟩⟩
    | enRfid hp hcp hdr hcr =>
      have hp' := hc'.opened (by decide) (by decide) hp
      refine .inl ⟨_, hp, (acredita_desdeRfid hp' hr hh ht).mpr ⟨hne, .inr ⟨hcp, hdr, ?_⟩⟩⟩
      exact .inl ⟨hcr, rfl⟩
    | enHuella hp hcp hdr hcr hdh hch =>
      have hp' := hc'.opened (by decide) (by decide) hp
      refine .inl ⟨_, hp, (acredita_desdeRfid hp' hr hh ht).mpr ⟨hne, .inr ⟨hcp, hdr, ?_⟩⟩⟩
      exact .inr ⟨hcr, hdh, hch, rfl⟩
    | activoPrimero hp hap hdh hch htrue =>
      have hp' := hlibre.opened (by decide) (by decide) hp
      refine .inr ⟨_, hp, (acredita_desdeHuella hp' hh ht).mpr ⟨hne, hdh, ?_⟩⟩
      exact .inl ⟨hap, hch, htrue, rfl⟩
    | codigoPrimero hp hcp hdh hah htrue =>
      have hp' := hlibre.opened (by decide) (by decide) hp
      refine .inr ⟨_, hp, (acredita_desdeHuella hp' hh ht).mpr ⟨hne, hdh, ?_⟩⟩
      exact .inr ⟨hcp, hah, htrue, rfl⟩

end Acreditado

/-! ## The table -/

/-- The codes that the fields of a user forge. -/
def ForjaDe (row : Row) (cod : List UInt8) : Prop :=
  Forja (escape row.codigo) (escape row.rfid) (escape row.huella) (escape (tagDe row)) cod

/-- The codes of the active records of one object: its own, and those forged. -/
theorem acreditado_objeto {row : Row} (hactivo : row.activo ≠ 0) {cod : List UInt8} :
    Acreditado (objeto row) cod ↔ cod ≠ [] ∧
      (llaveDer ∉ escape row.codigo ∧ leido (escape row.codigo) = cod ∨ ForjaDe row cod) := by
  have hc := escape_escaped row.codigo
  have hr := escape_escaped row.rfid
  have hh := escape_escaped row.huella
  have ht := escape_escaped (tagDe row)
  have hopen : Escaped comilla barra [llaveIzq] := .plain (by decide) .nil
  have hsplit : objeto row = [llaveIzq] ++ chain comilla [ascii "codigo", [dosPuntos]]
      (desdeCodigo (escape row.codigo) (escape row.rfid) (escape row.huella)
        (escape (tagDe row))) := objeto_eq hactivo
  have hmem : llaveDer ∈ desdeCodigo (escape row.codigo) (escape row.rfid) (escape row.huella)
      (escape (tagDe row)) := by
    rw [desdeCodigo, chain_eq_append]
    exact List.mem_append_right _ (List.mem_append_right _ llaveDer_mem_desdeRfid)
  have hllave : abierta [llaveIzq] = some [llaveIzq] := by decide
  rw [hsplit, acreditado_tramo hopen (by decide) hmem, hllave, and_or_left,
    or_iff_right fun hnone => Option.some_ne_none _ hnone.1]
  constructor
  · rintro ⟨p, hp, hacr | hacr⟩
    · cases hp
      obtain ⟨hne, hpropio⟩ := (acredita_desdeCodigo hc).mp hacr
      exact .inl ⟨hne, hpropio⟩
    · exact .inr ((forja_iff hc hr hh ht).mp hacr)
  · rintro (⟨hne, hpropio⟩ | hforja)
    · exact ⟨_, rfl, .inl ((acredita_desdeCodigo hc).mpr ⟨hne, hpropio⟩)⟩
    · exact ⟨_, rfl, .inr ((forja_iff hc hr hh ht).mpr hforja)⟩

/-- Each object begins anew: no record takes from two of them. -/
theorem acreditado_objetos {rows : List Row} (hrows : ∀ row ∈ rows, row.activo ≠ 0)
    {z : List UInt8} (hz : llaveIzq ∉ z) {cod : List UInt8} :
    Acreditado (objetos rows ++ z) cod ↔ ∃ row ∈ rows, Acreditado (objeto row) cod := by
  induction rows with
  | nil =>
    refine iff_of_false (not_acreditado hz) ?_
    rintro ⟨row, hrow, -⟩
    cases hrow
  | cons row rows ih =>
    obtain ⟨hrow, hrest⟩ := List.forall_mem_cons.mp hrows
    obtain ⟨resto, hresto⟩ := objeto_cabeza hrow
    have hcola : blocks llaveIzq llaveDer (cola rows ++ z) =
        blocks llaveIzq llaveDer (objetos rows ++ z) := by
      have hcoma : llaveIzq ∉ [coma] := by decide
      unfold cola
      split_ifs with hnil
      · rw [hnil]
        rfl
      · exact blocks_skip hcoma
    have hpartes : blocks llaveIzq llaveDer (objetos (row :: rows) ++ z) =
        blocks llaveIzq llaveDer (objeto row) ++ blocks llaveIzq llaveDer (objetos rows ++ z) := by
      rw [objetos_cons, List.append_assoc, ← hcola, hresto, ← List.append_assoc _ resto,
        List.append_assoc, List.singleton_append, blocks_append (by decide)]
    have hih := ih hrest
    unfold Acreditado at hih ⊢
    simp only [hpartes, List.mem_append, or_and_right, exists_or, hih, List.exists_mem_cons_iff]

/-- The code of the record that begins with an object is that of an active user
when no quotation mark is among the first five characters. -/
theorem leido_iff {db : Db} {row : Row} (hrow : row ∈ db.active)
    (hd : llaveDer ∉ escape row.codigo) :
    (leido (escape row.codigo) ≠ [] →
        ∃ row' ∈ db.active, leido (escape row.codigo) = (escape row'.codigo).take 5) ↔
      comilla ∉ (escape row.codigo).take 5 := by
  have hleido : leido (escape row.codigo) = (upTo comilla (escape row.codigo)).take 5 := by
    rw [leido, hasta, upTo_of_notMem hd]
  constructor
  · intro h hq
    -- cut there, the text ends in a backslash that stands alone
    obtain ⟨x, hx, htake⟩ := (escape_paired row.codigo).takeWhile (by decide)
      (List.mem_of_mem_take hq)
    have hlen : (x ++ [barra]).length < 5 := htake ▸ length_upTo_lt hq
    have hcorto : leido (escape row.codigo) = x ++ [barra] := by
      rw [hleido, upTo, htake, List.take_of_length_le hlen.le]
    obtain ⟨row', -, hrow'⟩ := h (by rw [hcorto]; simp)
    rw [hcorto] at hrow'
    have hentero : (escape row'.codigo).length ≤ 5 := by
      rw [hrow', List.length_take] at hlen
      omega
    rw [List.take_of_length_le hentero] at hrow'
    exact hx.not_concat (hrow' ▸ escape_paired row'.codigo)
  · intro hq _
    exact ⟨row, hrow, hleido.trans (take_upTo hq)⟩

/-- The parser stores the records of all parts of the body. -/
theorem parsearJSONPins_syncBody (db : Db) (maxPins : ℕ) :
    parsearJSONPins (syncBody db) (syncBody db).length maxPins =
      ((blocks llaveIzq llaveDer (objetos db.active ++ cierre)).filterMap registro).take
        maxPins := by
  have hclosed : Cerrado (objetos db.active ++ cierre) := by
    intro b hb
    rw [List.getLast?_append] at hb
    exact (Option.some.inj hb).symm
  have hparse : parsearJSONPins (apertura ++ (objetos db.active ++ cierre ++ []))
      (apertura ++ (objetos db.active ++ cierre)).length maxPins = _ :=
    parsearJSONPins_apertura hclosed
  rw [List.append_nil] at hparse
  exact hparse

theorem credenciales_acreditado (db : Db) {Q : List UInt8 → Prop} :
    (∀ maxPins, ∀ pin ∈ parsearJSONPins (syncBody db) (syncBody db).length maxPins,
      pin.activo = true → Q pin.codigo.bytes) ↔
    ∀ cod, Acreditado (objetos db.active ++ cierre) cod → Q cod := by
  have h0 : ∀ parte ∈ blocks llaveIzq llaveDer (objetos db.active ++ cierre), 0 ∉ parte := by
    intro parte hparte hmem
    obtain ⟨x, y, z, hs, rfl⟩ := exists_of_mem_blocks hparte
    have hsplit : x ++ llaveIzq :: (y ++ llaveDer :: z) =
        x ++ ((llaveIzq :: y) ++ llaveDer :: z) := rfl
    refine jsonPins_noNul db.active ?_
    rw [jsonPins, hs, hsplit]
    exact List.mem_append_right _ (List.mem_append_right _ (List.mem_append_left _ hmem))
  constructor
  · intro h cod hacr
    obtain ⟨parte, hparte, hacr⟩ := hacr
    obtain ⟨pin, hpin, hactivo, rfl⟩ := (acredita_iff (h0 parte hparte)).mpr hacr
    have hmem : pin ∈ (blocks llaveIzq llaveDer (objetos db.active ++ cierre)).filterMap registro :=
      List.mem_filterMap.mpr ⟨parte, hparte, hpin⟩
    obtain ⟨n, hn⟩ : ∃ n, pin ∈
        ((blocks llaveIzq llaveDer (objetos db.active ++ cierre)).filterMap registro).take n :=
      ⟨_, by rwa [List.take_length]⟩
    rw [← parsearJSONPins_syncBody] at hn
    exact h n pin hn hactivo
  · intro h maxPins pin hpin hactivo
    rw [parsearJSONPins_syncBody] at hpin
    obtain ⟨parte, hparte, hpin⟩ := List.mem_filterMap.mp (List.mem_of_mem_take hpin)
    exact h _ ⟨parte, hparte, (acredita_iff (h0 parte hparte)).mp ⟨pin, hpin, hactivo, rfl⟩⟩

/-- Each active record that the parser stores has the code of an active user
exactly when no active user's code has a quotation mark among its first five
characters, and no active user's fields forge another code. -/
theorem credenciales_iff (db : Db) :
    (∀ maxPins, ∀ pin ∈ parsearJSONPins (syncBody db) (syncBody db).length maxPins,
      pin.activo = true → ∃ row ∈ db.active, pin.codigo.bytes = (escape row.codigo).take 5) ↔
    ∀ row ∈ db.active,
      (llaveDer ∉ escape row.codigo → comilla ∉ (escape row.codigo).take 5) ∧
      ∀ cod, ForjaDe row cod → cod ≠ [] →
        ∃ row' ∈ db.active, cod = (escape row'.codigo).take 5 := by
  have hcierre : llaveIzq ∉ cierre := by decide
  rw [credenciales_acreditado db
    (Q := fun cod => ∃ row ∈ db.active, cod = (escape row.codigo).take 5)]
  simp only [acreditado_objetos (fun row hrow => activo_ne_zero hrow) hcierre]
  constructor
  · intro h row hrow
    have hactivo := activo_ne_zero hrow
    refine ⟨fun hd => (leido_iff hrow hd).mp fun hne => ?_, fun cod hforja hne => ?_⟩
    · exact h _ ⟨row, hrow, (acreditado_objeto hactivo).mpr ⟨hne, .inl ⟨hd, rfl⟩⟩⟩
    · exact h cod ⟨row, hrow, (acreditado_objeto hactivo).mpr ⟨hne, .inr hforja⟩⟩
  · rintro h cod ⟨row, hrow, hacr⟩
    obtain ⟨hpropio, hforjado⟩ := h row hrow
    obtain ⟨hne, ⟨hd, rfl⟩ | hforja⟩ := (acreditado_objeto (activo_ne_zero hrow)).mp hacr
    · exact (leido_iff hrow hd).mpr (hpropio hd) hne
    · exact hforjado cod hforja hne

/-- A user whose other fields make the PIN 12345. -/
def altaFalsa : Request :=
  .panelPost (some "67890".toList) (some "12345true".toList) (some "\x7d\x7b\"activo".toList)
    (some "codigo".toList)

/-- The user's PIN is 67890, and 12345 is stored as an active record as well. -/
theorem credencial_forjada :
    ¬ ∀ (db : Db) (maxPins : ℕ), ∀ pin ∈ parsearJSONPins (syncBody db) (syncBody db).length maxPins,
      pin.activo = true → ∃ row ∈ db.active, pin.codigo.bytes = (escape row.codigo).take 5 := by
  intro h
  have hpin := h (serve initDb [altaFalsa]) 99
  revert hpin
  decide +kernel

end Cerradura
