import Cerradura.CQuote
import Cerradura.JsonArray

/-!
# Keys that the parser finds in values

A value is escaped, so a quotation mark inside it comes after a backslash. The
parser does not look at the backslash, and the quotation mark that closes the
value closes the key as well: a value that ends in the name of a key is taken
for the key, and the next value for what belongs to it.

Results:
1. `valorEn_desdeRfid`, `activoEn_desdeHuella`: what is read when the search
   begins at a value.
2. `acredita_desdeCodigo`, `acredita_desdeRfid`, `acredita_desdeHuella`,
   `not_acredita_desdeTag`: which parts give an active record, and with what
   code, by the value in which they begin.
-/

namespace Cerradura

open CText

/-! ## The fields of an object -/

/-- Up to the first closing brace, and what comes after it. -/
abbrev hasta (s : List UInt8) : List UInt8 := upTo llaveDer s

abbrev tras (s : List UInt8) : List UInt8 := past llaveDer s

/-- The part that the end of a text leaves open. -/
abbrev abierta (s : List UInt8) : Option (List UInt8) := opened llaveIzq llaveDer s

/-- A key and the quotation mark before it. -/
def clave (k : String) : List UInt8 := comilla :: ascii k

/-- What the parser takes for the code where a text begins. -/
def leido (s : List UInt8) : List UInt8 := (upTo comilla (hasta s)).take 5

def Contiene (pat s : List UInt8) : Prop := (strstr pat s).isSome

instance (pat s : List UInt8) : Decidable (Contiene pat s) :=
  inferInstanceAs (Decidable (_ = true))

/-- From the value of `codigo` to that of `rfid`. -/
def hastaRfid : List (List UInt8) :=
  [[coma], ascii "activo", ascii ":true,", ascii "rfid", [dosPuntos]]

/-- The rest of an object, from the value of each field on. -/
def desdeTag (t : List UInt8) : List UInt8 := t ++ chain comilla [] [llaveDer]

def desdeHuella (h t : List UInt8) : List UInt8 := h ++ chain comilla hastaTag (desdeTag t)

def desdeRfid (r h t : List UInt8) : List UInt8 :=
  r ++ chain comilla hastaHuella (desdeHuella h t)

def desdeCodigo (c r h t : List UInt8) : List UInt8 :=
  c ++ chain comilla hastaRfid (desdeRfid r h t)

/-! ## Searching for a key -/

/-- What comes after the first occurrence of a key. -/
def trasClave (k : String) (parte : List UInt8) : Option (List UInt8) :=
  (strstr (quoted comilla (ascii k)) parte).map (·.drop (quoted comilla (ascii k)).length)

/-- Whether `true` comes after the colon. -/
def dicenTrue (s : List UInt8) : Bool :=
  ((strchr dosPuntos s).bind fun dos => strstr (ascii "true") dos).isSome

/-- The value after the colon. -/
def valorTras (s : List UInt8) : Option (List UInt8) :=
  (strchr dosPuntos s).bind fun dos =>
    (strchr comilla dos).map fun inicioValor => (upTo comilla inicioValor.tail).take 5

theorem valorEn_eq (parte : List UInt8) :
    valorEn parte "codigo" 5 = (trasClave "codigo" parte).bind valorTras := by
  unfold valorEn trasClave
  cases strstr (quoted comilla (ascii "codigo")) parte <;> rfl

theorem activoEn_eq (parte : List UInt8) :
    activoEn parte = ((trasClave "activo" parte).map dicenTrue).getD false := by
  unfold activoEn trasClave dicenTrue
  cases hk : strstr (quoted comilla (ascii "activo")) parte with
  | none => rfl
  | some k =>
    obtain ⟨s, rfl⟩ := (strstr_eq_some hk).2
    have hcolon : dosPuntos ∉ quoted comilla (ascii "activo") := by decide
    rw [Option.bind_some, strchr_append_of_notMem hcolon, Option.map_some, Option.map_some,
      List.drop_left]
    rfl

/-- A key of the parser has no quotation mark and no backslash. -/
def Llave (k : String) : Prop := comilla ∉ ascii k ∧ barra ∉ ascii k

section Clave

variable {k : String} {x z : List UInt8} {ys : List (List UInt8)}

theorem trasClave_append (hk : Llave k) (hx : Escaped comilla barra x) :
    trasClave k (x ++ chain comilla ys z) =
      if clave k <:+ x then some (chain comilla ys z).tail
      else trasClave k (chain comilla ys z) := by
  obtain ⟨s, hs⟩ := exists_chain_eq comilla ys z
  unfold trasClave clave
  rw [hs, hx.strstr_append hk.1 hk.2 (by decide)]
  split_ifs
  · rw [Option.map_some, List.drop_left]
    rfl
  · rfl

theorem trasClave_cons (hk : Llave k) (hx : Escaped comilla barra x) :
    trasClave k (comilla :: (x ++ chain comilla ys z)) =
      if clave k <:+ comilla :: x then some (chain comilla ys z).tail
      else trasClave k (chain comilla ys z) := by
  obtain ⟨s, hs⟩ := exists_chain_eq comilla ys z
  unfold trasClave clave
  rw [hs, hx.strstr_cons hk.1 hk.2 (by decide)]
  split_ifs
  · rw [Option.map_some, List.drop_left]
    rfl
  · rfl

theorem trasClave_eq_none (hk : Llave k) (hx : Escaped comilla barra x) :
    trasClave k x = none := by
  rw [trasClave, hx.strstr_eq_none hk.1 hk.2 (by decide)]
  rfl

theorem trasClave_cons_eq_none (hk : Llave k) (hx : Escaped comilla barra x) :
    trasClave k (comilla :: x) = none := by
  rw [trasClave, hx.strstr_cons_eq_none hk.1 hk.2 (by decide)]
  rfl

/-- The texts of the object that are not the key are skipped. -/
theorem trasClave_skip (hk : Llave k) (hys : ∀ y ∈ ys, comilla ∉ y ∧ ascii k ≠ y) :
    trasClave k (chain comilla ys z) = trasClave k (comilla :: z) := by
  induction ys with
  | nil => rfl
  | cons y ys ih =>
    obtain ⟨hy, hrest⟩ := List.forall_mem_cons.mp hys
    rw [← ih hrest]
    unfold trasClave
    rw [strstr_chain_skip hk.1 hy.1 hy.2]

/-- A search that begins at a value and ends at the first closing brace. -/
theorem trasClave_hasta (hk : Llave k) (hx : Escaped comilla barra x)
    (hys : ∀ y ∈ ys, llaveDer ∉ y) :
    trasClave k (comilla :: hasta (x ++ chain comilla ys z)) =
      if llaveDer ∈ x then none
      else if clave k <:+ comilla :: x then some (chain comilla ys (hasta z)).tail
      else trasClave k (chain comilla ys (hasta z)) := by
  split_ifs with hd hsuffix
  · rw [hasta, upTo_append_of_mem hd]
    exact trasClave_cons_eq_none hk (hx.upTo (by decide) (by decide))
  · rw [hasta, upTo_append_of_notMem hd, upTo_chain (by decide) hys, trasClave_cons hk hx,
      if_pos hsuffix]
  · rw [hasta, upTo_append_of_notMem hd, upTo_chain (by decide) hys, trasClave_cons hk hx,
      if_neg hsuffix]

end Clave

/-! ## What comes after a key -/

theorem strchr_dosPuntos {y₁ y₂ w : List UInt8} (h₁ : dosPuntos ∉ y₁) (h₂ : dosPuntos ∉ y₂)
    (z : List UInt8) :
    strchr dosPuntos (chain comilla [y₁, y₂, dosPuntos :: w] z).tail =
      some (dosPuntos :: (w ++ comilla :: z)) := by
  have hskip : dosPuntos ∉ y₁ ++ comilla :: (y₂ ++ [comilla]) := by
    simp only [List.mem_append, List.mem_cons, List.not_mem_nil, or_false, not_or]
    exact ⟨h₁, by decide, h₂, by decide⟩
  have hsplit : (chain comilla [y₁, y₂, dosPuntos :: w] z).tail =
      (y₁ ++ comilla :: (y₂ ++ [comilla])) ++ (dosPuntos :: (w ++ comilla :: z)) := by simp
  rw [hsplit, strchr_append_of_notMem hskip, strchr_cons_self]

/-- The value is the text after the next field's key. -/
theorem valorTras_eq {y₁ y₂ w : List UInt8} (h₁ : dosPuntos ∉ y₁) (h₂ : dosPuntos ∉ y₂)
    (hw : comilla ∉ w) (z : List UInt8) :
    valorTras (chain comilla [y₁, y₂, dosPuntos :: w] z).tail = some ((upTo comilla z).take 5) := by
  have hskip : comilla ∉ dosPuntos :: w := by
    rw [List.mem_cons, not_or]
    exact ⟨by decide, hw⟩
  rw [valorTras, strchr_dosPuntos h₁ h₂, Option.bind_some, ← List.cons_append,
    strchr_append_of_notMem hskip, strchr_cons_self]
  rfl

theorem dicenTrue_eq {y₁ y₂ w : List UInt8} (h₁ : dosPuntos ∉ y₁) (h₂ : dosPuntos ∉ y₂)
    (z : List UInt8) :
    dicenTrue (chain comilla [y₁, y₂, dosPuntos :: w] z).tail = true ↔
      Contiene (ascii "true") (dosPuntos :: w) ∨ Contiene (ascii "true") z := by
  rw [dicenTrue, strchr_dosPuntos h₁ h₂, Option.bind_some, ← List.cons_append,
    strstr_isSome_append (by decide) (by decide)]
  rfl

/-! ## The keys in the rest of an object -/

section Resto

variable {p r h t cod : List UInt8} {k : String}

theorem llave_codigo : Llave "codigo" := by unfold Llave; decide

theorem llave_activo : Llave "activo" := by unfold Llave; decide

/-- After `tag` no value follows. -/
theorem trasClave_desdeTag (hk : Llave k) (ht : Escaped comilla barra t) :
    ∀ s, trasClave k (comilla :: hasta (desdeTag t)) = some s → s = [] := by
  intro s hs
  rw [desdeTag, trasClave_hasta hk ht (List.forall_mem_nil _)] at hs
  split_ifs at hs
  · exact (Option.some.inj hs).symm
  · have hnone : trasClave k [comilla] = none := trasClave_cons_eq_none hk .nil
    exact absurd (hnone.symm.trans hs) (Option.some_ne_none s).symm

theorem valorEn_desdeTag (ht : Escaped comilla barra t) :
    valorEn (comilla :: hasta (desdeTag t)) "codigo" 5 = none := by
  rw [valorEn_eq]
  cases hs : trasClave "codigo" (comilla :: hasta (desdeTag t)) with
  | none => rfl
  | some s =>
    rw [trasClave_desdeTag llave_codigo ht s hs]
    rfl

theorem activoEn_desdeTag (ht : Escaped comilla barra t) :
    activoEn (comilla :: hasta (desdeTag t)) = false := by
  rw [activoEn_eq]
  cases hs : trasClave "activo" (comilla :: hasta (desdeTag t)) with
  | none => rfl
  | some s =>
    rw [trasClave_desdeTag llave_activo ht s hs]
    rfl

/-- What is read where the value of a field begins. -/
theorem upTo_desde {x z : List UInt8} {ys : List (List UInt8)} (hys : ∀ y ∈ ys, llaveDer ∉ y) :
    (upTo comilla (hasta (x ++ chain comilla ys z))).take 5 = leido x := by
  obtain ⟨s, hs⟩ := exists_chain_eq comilla ys (hasta z)
  unfold leido
  by_cases hd : llaveDer ∈ x
  · rw [hasta, upTo_append_of_mem hd]
  · rw [hasta, upTo_append_of_notMem hd, upTo_chain (by decide) hys, hs, hasta, upTo_of_notMem hd]
    by_cases hq : comilla ∈ x
    · rw [upTo_append_of_mem hq]
    · rw [upTo_append_cons hq, upTo_of_notMem hq]

/-- A word without quotation marks lies within one of the texts. -/
theorem contiene_chain_iff (ys : List (List UInt8)) (z : List UInt8) :
    Contiene (ascii "true") (chain comilla ys z).tail ↔
      (∃ y ∈ ys, Contiene (ascii "true") y) ∨ Contiene (ascii "true") z := by
  induction ys with
  | nil => exact (or_iff_right (by rintro ⟨y, hy, -⟩; cases hy)).symm
  | cons y ys ih =>
    obtain ⟨s, hs⟩ := exists_chain_eq comilla ys z
    rw [hs, List.tail_cons] at ih
    rw [chain_cons, hs, List.tail_cons, Contiene, strstr_isSome_append (by decide) (by decide),
      List.exists_mem_cons_iff, or_assoc, ← ih]
    rfl

theorem contiene_chain {ys : List (List UInt8)} (hys : ∀ y ∈ ys, ¬ Contiene (ascii "true") y)
    (z : List UInt8) :
    Contiene (ascii "true") (chain comilla ys z).tail ↔ Contiene (ascii "true") z := by
  rw [contiene_chain_iff, or_iff_right fun ⟨y, hy, h⟩ => hys y hy h]

theorem contiene_desde {x z : List UInt8} {ys : List (List UInt8)} (hys : ∀ y ∈ ys, llaveDer ∉ y) :
    Contiene (ascii "true") (hasta (x ++ chain comilla ys z)) ↔
      Contiene (ascii "true") (hasta x) ∨
        llaveDer ∉ x ∧ Contiene (ascii "true") (chain comilla ys (hasta z)).tail := by
  obtain ⟨s, hs⟩ := exists_chain_eq comilla ys (hasta z)
  by_cases hd : llaveDer ∈ x
  · rw [hasta, upTo_append_of_mem hd]
    exact (or_iff_left fun h => h.1 hd).symm
  · rw [hasta, upTo_append_of_notMem hd, upTo_chain (by decide) hys, hs, List.tail_cons, hasta,
      upTo_of_notMem hd, Contiene, strstr_isSome_append (by decide) (by decide)]
    exact or_congr_right (and_iff_right hd).symm

theorem valorTras_hastaTag : valorTras (chain comilla hastaTag (hasta (desdeTag t))).tail =
    some (leido t) := by
  rw [hastaTag, valorTras_eq (by decide) (by decide) List.not_mem_nil, desdeTag,
    upTo_desde (List.forall_mem_nil _)]

theorem valorTras_hastaHuella :
    valorTras (chain comilla hastaHuella (hasta (desdeHuella h t))).tail = some (leido h) := by
  rw [hastaHuella, valorTras_eq (by decide) (by decide) List.not_mem_nil, desdeHuella,
    upTo_desde (by decide)]

theorem contiene_desdeTag :
    Contiene (ascii "true") (hasta (desdeTag t)) ↔ Contiene (ascii "true") (hasta t) := by
  have hnada : ¬ Contiene (ascii "true") (chain comilla [] (hasta [llaveDer])).tail := by decide
  rw [desdeTag, contiene_desde (List.forall_mem_nil _), or_iff_left fun h => hnada h.2]

theorem dicenTrue_hastaTag : dicenTrue (chain comilla hastaTag (hasta (desdeTag t))).tail = true ↔
    Contiene (ascii "true") (hasta t) := by
  have hcolon : ¬ Contiene (ascii "true") [dosPuntos] := by decide
  rw [hastaTag, dicenTrue_eq (by decide) (by decide), or_iff_right hcolon, contiene_desdeTag]

theorem dicenTrue_hastaHuella :
    dicenTrue (chain comilla hastaHuella (hasta (desdeHuella h t))).tail = true ↔
      Contiene (ascii "true") (hasta h) ∨ llaveDer ∉ h ∧ Contiene (ascii "true") (hasta t) := by
  have hcolon : ¬ Contiene (ascii "true") [dosPuntos] := by decide
  rw [hastaHuella, dicenTrue_eq (by decide) (by decide), or_iff_right hcolon, desdeHuella,
    contiene_desde (by decide), contiene_chain (by decide), contiene_desdeTag]

theorem valorEn_desdeHuella (hh : Escaped comilla barra h) (ht : Escaped comilla barra t) :
    valorEn (comilla :: hasta (desdeHuella h t)) "codigo" 5 = some cod ↔
      llaveDer ∉ h ∧ clave "codigo" <:+ comilla :: h ∧ leido t = cod := by
  have htag := valorEn_desdeTag ht
  rw [valorEn_eq] at htag ⊢
  rw [desdeHuella, trasClave_hasta llave_codigo hh (by decide),
    trasClave_skip llave_codigo (by decide)]
  split_ifs with hd hcod
  · simp [hd]
  · simp [hd, hcod, valorTras_hastaTag]
  · simp [hcod, htag]

theorem valorEn_desdeRfid (hr : Escaped comilla barra r) (hh : Escaped comilla barra h)
    (ht : Escaped comilla barra t) :
    valorEn (comilla :: hasta (desdeRfid r h t)) "codigo" 5 = some cod ↔
      llaveDer ∉ r ∧ (clave "codigo" <:+ comilla :: r ∧ leido h = cod ∨
        ¬ clave "codigo" <:+ comilla :: r ∧
          llaveDer ∉ h ∧ clave "codigo" <:+ comilla :: h ∧ leido t = cod) := by
  have hhuella : valorEn (comilla :: hasta (desdeHuella h t)) "codigo" 5 = some cod ↔ _ :=
    valorEn_desdeHuella hh ht
  rw [valorEn_eq] at hhuella ⊢
  rw [desdeRfid, trasClave_hasta llave_codigo hr (by decide),
    trasClave_skip llave_codigo (by decide)]
  split_ifs with hd hcod
  · simp [hd]
  · simp [hd, hcod, valorTras_hastaHuella]
  · simp [hd, hcod, hhuella]

/-- Only `huella` can hold the key before a value with `true`. -/
theorem activoEn_desdeHuella (hh : Escaped comilla barra h) (ht : Escaped comilla barra t) :
    activoEn (comilla :: hasta (desdeHuella h t)) = true ↔
      llaveDer ∉ h ∧ clave "activo" <:+ comilla :: h ∧ Contiene (ascii "true") (hasta t) := by
  have htag := activoEn_desdeTag ht
  rw [activoEn_eq] at htag ⊢
  rw [desdeHuella, trasClave_hasta llave_activo hh (by decide),
    trasClave_skip llave_activo (by decide)]
  split_ifs with hd hact
  · simp [hd]
  · simp [hd, hact, dicenTrue_hastaTag]
  · simp [hact, htag]

theorem dicenTrue_append {y : List UInt8} (hy : dosPuntos ∉ y) (s : List UInt8) :
    dicenTrue (y ++ (ascii ":true," ++ s)) = true := by
  have hsplit : ascii ":true," ++ s = dosPuntos :: (ascii "true" ++ coma :: s) := by
    have htrue : ascii ":true," = dosPuntos :: (ascii "true" ++ [coma]) := by decide
    simp [htrue]
  rw [hsplit, dicenTrue, strchr_append_of_notMem hy, strchr_cons_self, Option.bind_some,
    strstr_cons_of_not, strstr_self_append (by decide)]
  · rfl
  · intro hpre
    exact absurd (List.cons_prefix_cons.mp hpre).1 (by decide)

/-- The key `activo` of the object is there, whatever comes before it. -/
theorem trasClave_hastaRfid (z : List UInt8) :
    ∃ s, trasClave "activo" (chain comilla hastaRfid z) = some s ∧ dicenTrue s = true := by
  refine ⟨ascii ":true," ++ chain comilla [ascii "rfid", [dosPuntos]] z, ?_,
    dicenTrue_append List.not_mem_nil _⟩
  rw [trasClave, hastaRfid, strstr_chain_skip (by decide) (by decide) (by decide),
    strstr_chain_hit, Option.map_some, chain_drop_quoted]

theorem dicenTrue_hastaRfid (z : List UInt8) :
    dicenTrue (chain comilla hastaRfid z).tail = true := by
  have hsplit : (chain comilla hastaRfid z).tail = ([coma] ++ quoted comilla (ascii "activo")) ++
      (ascii ":true," ++ chain comilla [ascii "rfid", [dosPuntos]] z) := by
    simp [hastaRfid, quoted]
  rw [hsplit]
  exact dicenTrue_append (by decide) _

theorem valorTras_hastaRfid (z : List UInt8) :
    valorTras (chain comilla hastaRfid z).tail = some (ascii "rfid") := by
  have hsplit : chain comilla hastaRfid z = chain comilla [[coma], ascii "activo", ascii ":true,"]
      (ascii "rfid" ++ chain comilla [[dosPuntos]] z) := rfl
  have htrue : ascii ":true," = dosPuntos :: (ascii "true" ++ [coma]) := by decide
  rw [hsplit, htrue, valorTras_eq (by decide) (by decide) (by decide), chain_cons,
    upTo_append_cons (by decide)]
  decide

end Resto

/-! ## The record of a part -/

/-- A part that gives an active record with this code. -/
def Acredita (parte cod : List UInt8) : Prop :=
  activoEn parte = true ∧ valorEn parte "codigo" 5 = some cod ∧ cod ≠ []

/-- A value is a piece of the part. -/
theorem valorEn_spec {parte v : List UInt8} {k : String} {n : ℕ} (h : valorEn parte k n = some v) :
    v.length ≤ n ∧ v ⊆ parte := by
  unfold valorEn at h
  simp only [Option.bind_eq_some_iff, Option.map_eq_some_iff] at h
  obtain ⟨found, hfound, dos, hdos, inicioValor, hinicio, rfl⟩ := h
  refine ⟨List.length_take_le _ _, fun b hb => ?_⟩
  have htail := (List.takeWhile_sublist _).subset (List.mem_of_mem_take hb)
  have hdos' := (strchr_suffix hinicio).subset (List.mem_of_mem_tail htail)
  have hdrop := List.mem_of_mem_drop ((strchr_suffix hdos).subset hdos')
  exact (strstr_eq_some hfound).1.subset hdrop

theorem acredita_iff {parte cod : List UInt8} (h0 : 0 ∉ parte) :
    (∃ pin, registro parte = some pin ∧ pin.activo = true ∧ pin.codigo.bytes = cod) ↔
      Acredita parte cod := by
  have hcodigo : (pinEn parte).codigo.bytes = (valorEn parte "codigo" 5).getD [] := by
    show (CStr.copy 5 ((valorEn parte "codigo" 5).getD [])).bytes = _
    cases hv : valorEn parte "codigo" 5 with
    | none => exact CStr.copy_bytes List.not_mem_nil (Nat.zero_le 5)
    | some v =>
      obtain ⟨hlen, hsub⟩ := valorEn_spec hv
      exact CStr.copy_bytes (fun hmem => h0 (hsub hmem)) hlen
  unfold registro Acredita
  rw [hcodigo]
  constructor
  · rintro ⟨pin, hpin, hactivo, rfl⟩
    split_ifs at hpin with hpos
    cases hpin
    rw [hcodigo]
    refine ⟨hactivo, ?_, List.length_pos_iff.mp hpos⟩
    cases hv : valorEn parte "codigo" 5 with
    | none =>
      rw [hv] at hpos
      exact absurd hpos (Nat.lt_irrefl 0)
    | some v => rfl
  · rintro ⟨hactivo, hv, hne⟩
    rw [hv] at hcodigo ⊢
    exact ⟨pinEn parte, if_pos (List.length_pos_iff.mpr hne), hactivo, hcodigo⟩

/-- A text cannot end in both keys. -/
theorem clave_unica {x : List UInt8} (hcod : clave "codigo" <:+ x) : ¬ clave "activo" <:+ x := by
  intro hact
  have hlen : (clave "codigo").length = (clave "activo").length := by decide
  exact absurd (List.suffix_of_suffix_length_le hcod hact hlen.le |>.eq_of_length hlen) (by decide)

section Acredita

variable {p c r h t cod : List UInt8}

theorem valorEn_append (hp : Escaped comilla barra p) {ys : List (List UInt8)} {z : List UInt8}
    (hys : ∀ y ∈ ys, comilla ∉ y ∧ ascii "codigo" ≠ y) :
    valorEn (p ++ chain comilla ys z) "codigo" 5 =
      if clave "codigo" <:+ p then valorTras (chain comilla ys z).tail
      else valorEn (comilla :: z) "codigo" 5 := by
  rw [valorEn_eq, valorEn_eq, trasClave_append llave_codigo hp, trasClave_skip llave_codigo hys]
  split_ifs <;> rfl

theorem activoEn_append (hp : Escaped comilla barra p) {ys : List (List UInt8)} {z : List UInt8}
    (hys : ∀ y ∈ ys, comilla ∉ y ∧ ascii "activo" ≠ y) :
    activoEn (p ++ chain comilla ys z) =
      if clave "activo" <:+ p then dicenTrue (chain comilla ys z).tail
      else activoEn (comilla :: z) := by
  rw [activoEn_eq, activoEn_eq, trasClave_append llave_activo hp, trasClave_skip llave_activo hys]
  split_ifs <;> rfl

theorem not_acredita (hp : Escaped comilla barra p) : ¬ Acredita p cod := by
  rintro ⟨-, hcod, -⟩
  rw [valorEn_eq, trasClave_eq_none llave_codigo hp] at hcod
  cases hcod

/-- A part that begins in `tag` has no value after a key. -/
theorem not_acredita_cierre (hp : Escaped comilla barra p) : ¬ Acredita (p ++ [comilla]) cod := by
  rintro ⟨-, hcod, -⟩
  have hnada : valorEn [comilla] "codigo" 5 = none := by decide
  have hfin : valorTras (chain comilla [] []).tail = none := rfl
  rw [← chain_nil, valorEn_append hp (List.forall_mem_nil _), hnada, hfin, ite_self] at hcod
  cases hcod

/-- One that begins in `huella` lacks one of the keys. -/
theorem not_acredita_desdeTag (hp : Escaped comilla barra p) (ht : Escaped comilla barra t) :
    ¬ Acredita (p ++ chain comilla hastaTag (hasta (desdeTag t))) cod := by
  rintro ⟨hact, hcod, -⟩
  rw [valorEn_append hp (by decide), valorEn_desdeTag ht] at hcod
  rw [activoEn_append hp (by decide), activoEn_desdeTag ht] at hact
  split_ifs at hcod with hcp
  rw [if_neg (clave_unica hcp)] at hact
  cases hact

/-- One that begins in `rfid` needs a key in `huella`. -/
theorem acredita_desdeHuella (hp : Escaped comilla barra p) (hh : Escaped comilla barra h)
    (ht : Escaped comilla barra t) :
    Acredita (p ++ chain comilla hastaHuella (hasta (desdeHuella h t))) cod ↔
      cod ≠ [] ∧ llaveDer ∉ h ∧
        (clave "activo" <:+ p ∧ clave "codigo" <:+ comilla :: h ∧
            (Contiene (ascii "true") h ∨ Contiene (ascii "true") (hasta t)) ∧ leido t = cod ∨
          clave "codigo" <:+ p ∧ clave "activo" <:+ comilla :: h ∧
            Contiene (ascii "true") (hasta t) ∧ leido h = cod) := by
  unfold Acredita
  rw [valorEn_append hp (by decide), activoEn_append hp (by decide), valorTras_hastaHuella]
  by_cases hcp : clave "codigo" <:+ p
  · rw [if_pos hcp, if_neg (clave_unica hcp), activoEn_desdeHuella hh ht, Option.some.injEq]
    have hap := clave_unica hcp
    constructor
    · rintro ⟨⟨hd, hah, htrue⟩, hcod, hne⟩
      exact ⟨hne, hd, .inr ⟨hcp, hah, htrue, hcod⟩⟩
    · rintro ⟨hne, hd, ⟨hact, -⟩ | ⟨-, hah, htrue, hcod⟩⟩
      · exact absurd hact hap
      · exact ⟨⟨hd, hah, htrue⟩, hcod, hne⟩
  · rw [if_neg hcp, valorEn_desdeHuella hh ht]
    constructor
    · rintro ⟨hact, ⟨hd, hch, hcod⟩, hne⟩
      split_ifs at hact with hap
      · have htrue := dicenTrue_hastaHuella.mp hact
        rw [hasta, upTo_of_notMem hd] at htrue
        exact ⟨hne, hd, .inl ⟨hap, hch, htrue.imp_right And.right, hcod⟩⟩
      · exact absurd ((activoEn_desdeHuella hh ht).mp hact).2.1 (clave_unica hch)
    · rintro ⟨hne, hd, ⟨hap, hch, htrue, hcod⟩ | ⟨hcod, -⟩⟩
      · refine ⟨?_, ⟨hd, hch, hcod⟩, hne⟩
        rw [if_pos hap, dicenTrue_hastaHuella, hasta, upTo_of_notMem hd]
        exact htrue.imp_right fun h => ⟨hd, h⟩
      · exact absurd hcod hcp

/-- One that begins in `codigo` needs the key `codigo` only. -/
theorem acredita_desdeRfid (hp : Escaped comilla barra p) (hr : Escaped comilla barra r)
    (hh : Escaped comilla barra h) (ht : Escaped comilla barra t) :
    Acredita (p ++ chain comilla hastaRfid (hasta (desdeRfid r h t))) cod ↔
      cod ≠ [] ∧ (clave "codigo" <:+ p ∧ ascii "rfid" = cod ∨
        ¬ clave "codigo" <:+ p ∧ llaveDer ∉ r ∧
          (clave "codigo" <:+ comilla :: r ∧ leido h = cod ∨
            ¬ clave "codigo" <:+ comilla :: r ∧
              llaveDer ∉ h ∧ clave "codigo" <:+ comilla :: h ∧ leido t = cod)) := by
  have hact : activoEn (p ++ chain comilla hastaRfid (hasta (desdeRfid r h t))) = true := by
    obtain ⟨s, hs, htrue⟩ := trasClave_hastaRfid (hasta (desdeRfid r h t))
    rw [activoEn_eq, trasClave_append llave_activo hp]
    split_ifs
    · exact dicenTrue_hastaRfid _
    · rw [hs]
      exact htrue
  unfold Acredita
  rw [and_iff_right hact, valorEn_append hp (by decide), and_comm]
  refine and_congr_right fun _ => ?_
  split_ifs with hcp
  · rw [valorTras_hastaRfid]
    simp [hcp]
  · rw [valorEn_desdeRfid hr hh ht]
    simp [hcp]

/-- The part that begins with the object. -/
theorem acredita_desdeCodigo (hc : Escaped comilla barra c) :
    Acredita ([llaveIzq] ++ chain comilla [ascii "codigo", [dosPuntos]]
        (hasta (desdeCodigo c r h t))) cod ↔
      cod ≠ [] ∧ llaveDer ∉ c ∧ leido c = cod := by
  have hopen : Escaped comilla barra [llaveIzq] := .plain (by decide) .nil
  have hcod : valorEn ([llaveIzq] ++ chain comilla [ascii "codigo", [dosPuntos]]
      (hasta (desdeCodigo c r h t))) "codigo" 5 = some (leido c) := by
    rw [valorEn_eq, trasClave_append llave_codigo hopen, if_neg (by decide), trasClave,
      strstr_chain_hit, Option.map_some, chain_drop_quoted, Option.bind_some, valorTras,
      List.singleton_append, strchr_cons_self, Option.bind_some, strchr_cons_of_ne (by decide),
      chain_nil, strchr_cons_self, Option.map_some, List.tail_cons, desdeCodigo,
      upTo_desde (by decide)]
  have hact : activoEn ([llaveIzq] ++ chain comilla [ascii "codigo", [dosPuntos]]
      (hasta (desdeCodigo c r h t))) = true ↔ llaveDer ∉ c := by
    obtain ⟨s, hs, htrue⟩ := trasClave_hastaRfid (hasta (desdeRfid r h t))
    rw [activoEn_append hopen (by decide), if_neg (by decide), activoEn_eq, desdeCodigo,
      trasClave_hasta llave_activo hc (by decide), hs]
    split_ifs with hd
    · simp [hd]
    · simp [hd, dicenTrue_hastaRfid]
    · simp [hd, htrue]
  unfold Acredita
  rw [hcod, hact, Option.some.injEq]
  constructor
  · rintro ⟨hd, hleido, hne⟩
    exact ⟨hne, hd, hleido⟩
  · rintro ⟨hne, hd, hleido⟩
    exact ⟨hd, hleido, hne⟩

end Acredita

end Cerradura
