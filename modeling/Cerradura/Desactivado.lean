import Cerradura.JsonKeys

/-!
# The flag of a deactivated user

The parser takes a user for active if the word `true` stands anywhere between
the colon after `"activo"` and the end of the object. The fields that follow are
in between.

Results:
1. `activos_iff`: each record has the flag of its object exactly if the word is
   in no field of a user that is not active.
2. `desactivado_entra`: an object in which it is.
-/

namespace Cerradura

open CText

/-! ## Bodies -/

/-- A value that JSON writes as it is, and that has no braces. -/
def SinEscape (s : List UInt8) : Prop :=
  ∀ b ∈ s, b ≠ 0 ∧ b ≠ comilla ∧ b ≠ barra ∧ b ≠ llaveIzq ∧ b ≠ llaveDer

instance (s : List UInt8) : Decidable (SinEscape s) :=
  inferInstanceAs (Decidable (∀ b ∈ s, _))

/-- A user of the body, whatever the flag. -/
structure UsuarioJson where
  codigo : List UInt8
  activo : Bool
  rfid : List UInt8
  huella : List UInt8
  tag : List UInt8
  cinco : codigo.length = 5
  cifras : ∀ b ∈ codigo, isDecimalDigit b = true
  limpios : SinEscape rfid ∧ SinEscape huella ∧ SinEscape tag

namespace UsuarioJson

/-- `true` or `false` -/
def valorActivo (u : UsuarioJson) : List UInt8 := ascii (if u.activo then "true" else "false")

def objeto (u : UsuarioJson) : List UInt8 :=
  llaveIzq :: (campo "codigo" (quoted comilla u.codigo) ++
    coma :: campo "activo" u.valorActivo ++
    coma :: campo "rfid" (quoted comilla u.rfid) ++
    coma :: campo "huella" (quoted comilla u.huella) ++
    coma :: campo "tag" (quoted comilla u.tag) ++ [llaveDer])

/-- The texts between quotation marks, after the key `activo`. -/
def trasActivo (u : UsuarioJson) : List (List UInt8) :=
  [dosPuntos :: (u.valorActivo ++ [coma]), ascii "rfid", [dosPuntos], u.rfid, [coma],
    ascii "huella", [dosPuntos], u.huella, [coma], ascii "tag", [dosPuntos], u.tag]

def textos (u : UsuarioJson) : List (List UInt8) :=
  [ascii "codigo", [dosPuntos], u.codigo, [coma]] ++ ascii "activo" :: u.trasActivo

/-- What the parser reads as one object: up to the closing brace. -/
def parte (u : UsuarioJson) : List UInt8 := llaveIzq :: chain comilla u.textos []

/-- The word is in a field. -/
def DiceTrue (u : UsuarioJson) : Prop :=
  Contiene (ascii "true") u.rfid ∨ Contiene (ascii "true") u.huella ∨ Contiene (ascii "true") u.tag

end UsuarioJson

/-- The body for some users, active or not. -/
def cuerpoJson (us : List UsuarioJson) : List UInt8 :=
  apertura ++ ([coma].intercalate (us.map UsuarioJson.objeto) ++ cierre)

/-! ## One object -/

section Objeto

variable (u : UsuarioJson)

theorem objeto_eq_parte : u.objeto = u.parte ++ [llaveDer] := by
  simp [UsuarioJson.objeto, UsuarioJson.parte, UsuarioJson.textos, UsuarioJson.trasActivo, campo,
    quoted]

/-- A digit is none of the special characters. -/
theorem notMem_codigo {b : UInt8} (hb : isDecimalDigit b = false) : b ∉ u.codigo := by
  intro hmem
  rw [u.cifras b hmem] at hb
  cases hb

theorem notMem_valorActivo {b : UInt8} (htrue : b ∉ ascii "true") (hfalse : b ∉ ascii "false") :
    b ∉ dosPuntos :: (u.valorActivo ++ [coma]) ↔ b ≠ dosPuntos ∧ b ≠ coma := by
  have hvalor : b ∉ u.valorActivo := by
    unfold UsuarioJson.valorActivo
    split_ifs
    · exact htrue
    · exact hfalse
  simp only [List.mem_cons, List.mem_append, List.not_mem_nil, or_false, not_or]
  exact and_congr_right fun _ => and_iff_right hvalor

/-- Quotation marks and closing braces only stand where JSON puts them. -/
theorem notMem_textos {b : UInt8} (hb : b = comilla ∨ b = llaveDer) : ∀ y ∈ u.textos, b ∉ y := by
  obtain ⟨hrfid, hhuella, htag⟩ := u.limpios
  have hcampo : ∀ {s : List UInt8}, SinEscape s → b ∉ s := by
    intro s hs hmem
    rcases hb with rfl | rfl
    · exact (hs _ hmem).2.1 rfl
    · exact (hs _ hmem).2.2.2.2 rfl
  have hcodigo : b ∉ u.codigo := by
    refine notMem_codigo u ?_
    rcases hb with rfl | rfl <;> decide
  have hactivo : b ∉ dosPuntos :: (u.valorActivo ++ [coma]) := by
    rcases hb with rfl | rfl
    · exact (notMem_valorActivo u (by decide) (by decide)).mpr (by decide)
    · exact (notMem_valorActivo u (by decide) (by decide)).mpr (by decide)
  have hfijo : ∀ {s : List UInt8}, comilla ∉ s ∧ llaveDer ∉ s → b ∉ s := by
    intro s hs
    rcases hb with rfl | rfl
    · exact hs.1
    · exact hs.2
  simp only [UsuarioJson.textos, UsuarioJson.trasActivo, List.cons_append, List.nil_append,
    List.forall_mem_cons]
  exact ⟨hfijo (by decide), hfijo (by decide), hcodigo, hfijo (by decide), hfijo (by decide),
    hactivo, hfijo (by decide), hfijo (by decide), hcampo hrfid, hfijo (by decide),
    hfijo (by decide), hfijo (by decide), hcampo hhuella, hfijo (by decide), hfijo (by decide),
    hfijo (by decide), hcampo htag, List.forall_mem_nil _⟩

theorem blocks_objeto_limpio (t : List UInt8) :
    blocks llaveIzq llaveDer (u.objeto ++ t) = u.parte :: blocks llaveIzq llaveDer t := by
  have hcierra : llaveDer ∉ chain comilla u.textos [] :=
    notMem_chain (by decide) (notMem_textos u (.inr rfl)) List.not_mem_nil
  rw [objeto_eq_parte, List.append_assoc]
  exact blocks_cons (x := []) List.not_mem_nil hcierra

/-- Every object has a code, so every object is stored. -/
theorem registro_parte : registro u.parte = some (pinEn u.parte) := by
  have hcomilla : comilla ∉ u.codigo := notMem_codigo u (by decide)
  have hvalor : valorEn u.parte "codigo" 5 = some (u.codigo.take 5) :=
    valorEn_chain hcomilla ((strstr_llave _ _).trans strstr_chain_hit)
  have hnul : 0 ∉ u.codigo := notMem_codigo u (by decide)
  have hcodigo : (pinEn u.parte).codigo.bytes = u.codigo := by
    show (CStr.copy 5 ((valorEn u.parte "codigo" 5).getD [])).bytes = u.codigo
    rw [hvalor, Option.getD_some, List.take_of_length_le u.cinco.le]
    exact CStr.copy_bytes hnul u.cinco.le
  unfold registro
  rw [if_pos]
  rw [hcodigo, u.cinco]
  exact Nat.succ_pos 4

theorem contiene_valorActivo :
    Contiene (ascii "true") (dosPuntos :: (u.valorActivo ++ [coma])) ↔ u.activo = true := by
  unfold UsuarioJson.valorActivo
  cases u.activo with
  | true => exact iff_of_true (by decide) rfl
  | false => exact iff_of_false (by decide) Bool.false_ne_true

/-- The word after the flag's key: in the flag itself, or in a field. -/
theorem contiene_trasActivo :
    Contiene (ascii "true") (chain comilla u.trasActivo []).tail ↔
      u.activo = true ∨ u.DiceTrue := by
  have hrfid : ¬ Contiene (ascii "true") (ascii "rfid") := by decide
  have hhuella : ¬ Contiene (ascii "true") (ascii "huella") := by decide
  have htag : ¬ Contiene (ascii "true") (ascii "tag") := by decide
  have hdos : ¬ Contiene (ascii "true") [dosPuntos] := by decide
  have hcoma : ¬ Contiene (ascii "true") [coma] := by decide
  rw [contiene_chain_iff, or_iff_left (by decide)]
  simp only [UsuarioJson.trasActivo, List.exists_mem_cons_iff, List.not_mem_nil, false_and,
    exists_false, or_false, contiene_valorActivo, hrfid, hhuella, htag, hdos, hcoma, false_or]
  rfl

/-- The flag of the record. -/
theorem activoEn_parte : activoEn u.parte = true ↔ u.activo = true ∨ u.DiceTrue := by
  have hcinco : ascii "activo" ≠ u.codigo := by
    intro heq
    have hlen := u.cinco
    rw [← heq] at hlen
    exact absurd hlen (by decide)
  have hsaltos : ∀ y ∈ [ascii "codigo", [dosPuntos], u.codigo, [coma]],
      comilla ∉ y ∧ ascii "activo" ≠ y := by
    simp only [List.forall_mem_cons]
    exact ⟨by decide, by decide, ⟨notMem_codigo u (by decide), hcinco⟩, by decide,
      List.forall_mem_nil _⟩
  have hkey : trasClave "activo" u.parte = some (chain comilla u.trasActivo []).tail := by
    unfold trasClave UsuarioJson.parte UsuarioJson.textos
    rw [strstr_llave, strstr_chain (by decide) hsaltos, Option.map_some]
    exact congrArg some (chain_drop_quoted _ _ _ _ _)
  rw [activoEn_eq, hkey, ← contiene_trasActivo]
  rfl

end Objeto

/-! ## The whole body -/

theorem blocks_objetos_limpios (us : List UsuarioJson) {t : List UInt8} (ht : llaveIzq ∉ t) :
    blocks llaveIzq llaveDer ([coma].intercalate (us.map UsuarioJson.objeto) ++ t) =
      us.map UsuarioJson.parte := by
  induction us with
  | nil => exact blocks_of_notMem ht
  | cons u us ih =>
    cases us with
    | nil =>
      have huno : [coma].intercalate ([u].map UsuarioJson.objeto) = u.objeto := by
        simp [List.intercalate]
      rw [huno, blocks_objeto_limpio, blocks_of_notMem ht]
      rfl
    | cons v us =>
      have hdos : [coma].intercalate ((u :: v :: us).map UsuarioJson.objeto) =
          u.objeto ++ ([coma] ++ [coma].intercalate ((v :: us).map UsuarioJson.objeto)) := by
        simp [List.intercalate]
      rw [hdos, List.append_assoc, blocks_objeto_limpio, List.append_assoc,
        blocks_skip (by decide), ih]
      rfl

/-- The records of a body, one for each object. -/
theorem parsearJSONPins_cuerpo (us : List UsuarioJson) (maxPins : ℕ) :
    parsearJSONPins (cuerpoJson us) (cuerpoJson us).length maxPins =
      (us.take maxPins).map fun u => pinEn u.parte := by
  have hcerrado : Cerrado ([coma].intercalate (us.map UsuarioJson.objeto) ++ cierre) := by
    intro b hb
    rw [List.getLast?_append] at hb
    exact (Option.some.inj hb).symm
  have hregistros : ((us.map UsuarioJson.parte).filterMap registro) =
      us.map fun u => pinEn u.parte := by
    have htodos : registro ∘ UsuarioJson.parte = some ∘ fun u => pinEn u.parte :=
      funext registro_parte
    rw [List.filterMap_map, htodos, List.filterMap_eq_map]
  have hcuerpo : parsearJSONPins (apertura ++ (_ ++ [])) _ maxPins = _ :=
    parsearJSONPins_apertura hcerrado
  rw [List.append_nil, blocks_objetos_limpios us (by decide), hregistros] at hcuerpo
  rw [List.map_take]
  exact hcuerpo

/-- Each record stored has the flag of its object exactly if no user who is not
active has the word `true` in a field. -/
theorem activos_iff (us : List UsuarioJson) (maxPins : ℕ) :
    List.Forall₂ (fun u pin => pin.activo = u.activo) (us.take maxPins)
        (parsearJSONPins (cuerpoJson us) (cuerpoJson us).length maxPins) ↔
      ∀ u ∈ us.take maxPins, u.activo = false → ¬ u.DiceTrue := by
  rw [parsearJSONPins_cuerpo, List.forall₂_map_right_iff, List.forall₂_same]
  refine forall₂_congr fun u _ => ?_
  show activoEn u.parte = u.activo ↔ _
  have hflag := activoEn_parte u
  cases hactivo : u.activo with
  | true => exact iff_of_true (hflag.mpr (.inl hactivo)) nofun
  | false =>
    rw [hactivo, or_iff_right Bool.false_ne_true] at hflag
    rw [← hflag, Bool.not_eq_true, forall_prop_of_true rfl]

/-- A user called `true`. -/
def usuarioTrue : UsuarioJson where
  codigo := ascii "22222"
  activo := false
  rfid := []
  huella := []
  tag := ascii "true"
  cinco := rfl
  cifras := by decide
  limpios := by decide

theorem desactivado_entra : ¬ ∀ us maxPins,
    List.Forall₂ (fun u pin => pin.activo = u.activo) (us.take maxPins)
      (parsearJSONPins (cuerpoJson us) (cuerpoJson us).length maxPins) := by
  intro h
  have huno := h [usuarioTrue] 99
  cases huno with
  | cons hflag _ =>
    revert hflag
    decide +kernel

/-- The object of a row is that of a user. -/
structure UsuarioJson.DeFila (row : Row) (u : UsuarioJson) : Prop where
  codigo : escape row.codigo = u.codigo
  activo : u.activo = true ↔ row.activo ≠ 0
  rfid : escape row.rfid = u.rfid
  huella : escape row.huella = u.huella
  tag : escape (tagDe row) = u.tag

theorem UsuarioJson.DeFila.objeto_eq {row : Row} {u : UsuarioJson} (h : UsuarioJson.DeFila row u) :
    Cerradura.objeto row = u.objeto := by
  have hactivo : ascii (if row.activo = 0 then "false" else "true") = u.valorActivo := by
    unfold UsuarioJson.valorActivo
    by_cases h0 : row.activo = 0
    · rw [if_pos h0, if_neg fun ht => h.activo.mp ht h0]
    · rw [if_neg h0, if_pos (h.activo.mpr h0)]
  unfold Cerradura.objeto UsuarioJson.objeto
  rw [h.codigo, hactivo, h.rfid, h.huella, h.tag]

/-- The bodies of the server are among these where the fields are plain. -/
theorem jsonPins_eq_cuerpoJson {rows : List Row} {us : List UsuarioJson}
    (h : List.Forall₂ UsuarioJson.DeFila rows us) : jsonPins rows = cuerpoJson us := by
  have hobjetos : rows.map objeto = us.map UsuarioJson.objeto := by
    induction h with
    | nil => rfl
    | cons hu _ ih => rw [List.map_cons, List.map_cons, hu.objeto_eq, ih]
  unfold jsonPins cuerpoJson objetos
  rw [hobjetos]

end Cerradura
