import Cerradura.SyncBody

/-!
# The parser of the server's answer

`buscarValorJSON` and `parsearJSONPins` of espAT.c look for keys and braces with
`strchr` and `strstr`, and compare the pointers they get with the end of the
object and of the text. `extraerPins` is the part of `espHTTPGetPins` that
follows the download.

Results:
1. `extraerPins_eq`: the records are those of the parts between an opening brace
   and the next closing one, up to the last closing brace received.
2. `parsearObjeto_eq`: a record depends on its own part alone.
-/

namespace Cerradura

open CText

/-! ## The code -/

/-- The loop that copies a value: up to `fin`, a quotation mark or `maxLen`
characters. -/
def copiarValor (fin : List UInt8) : ℕ → List UInt8 → List UInt8
  | 0, _ => []
  | _, [] => []
  | maxLen + 1, b :: s =>
    if before (b :: s) fin ∧ b ≠ comilla then b :: copiarValor fin maxLen s else []

/-- `destino` afterwards. It stays as it is when the key or its value is not
found before `fin`. -/
def buscarValorJSON (fuente fin : List UInt8) (clave : String) {maxLen : ℕ}
    (destino : CStr (maxLen + 1)) : CStr (maxLen + 1) :=
  let keyPatron := quoted comilla (ascii clave)
  let valor := do
    let k ← within fin (strstr keyPatron fuente)
    let dos ← within fin (strchr dosPuntos (k.drop keyPatron.length))
    let inicioValor ← within fin (strchr comilla dos)
    pure (copiarValor fin maxLen inicioValor.tail)
  match valor with
  | some valor => .copy maxLen valor
  | none => destino

/-- The field `activo`: is there a `true` after its colon? -/
def buscarActivo (objStart objEnd : List UInt8) : Bool :=
  let verdadero := do
    let pActivo ← within objEnd (strstr (quoted comilla (ascii "activo")) objStart)
    let dos ← within objEnd (strchr dosPuntos pActivo)
    within objEnd (strstr (ascii "true") dos)
  verdadero.isSome

/-- The record of one object. -/
def parsearObjeto (objStart objEnd : List UInt8) : PinUsuario :=
  { codigo := buscarValorJSON objStart objEnd "codigo" (.vacio 5)
    rfid := buscarValorJSON objStart objEnd "rfid" (.vacio 19)
    huella := buscarValorJSON objStart objEnd "huella" (.vacio 4)
    tag := buscarValorJSON objStart objEnd "tag" (.vacio 19)
    activo := buscarActivo objStart objEnd }

/-- The next object: its opening and its closing brace. -/
def siguienteObjeto (ptr fin : List UInt8) : Option (List UInt8 × List UInt8) := do
  let objStart ← within fin (strchr llaveIzq ptr)
  let objEnd ← within fin (strchr llaveDer objStart)
  pure (objStart, objEnd)

/-- The loop over the objects. A round takes at least two characters. -/
def recorrerObjetos (fin : List UInt8) (maxPins : ℕ) :
    ℕ → List UInt8 → List PinUsuario → List PinUsuario
  | 0, _, pinsOut => pinsOut
  | fuel + 1, ptr, pinsOut =>
    if before ptr fin ∧ pinsOut.length < maxPins then
      match siguienteObjeto ptr fin with
      | none => pinsOut
      | some (objStart, objEnd) =>
        let pin := parsearObjeto objStart objEnd
        recorrerObjetos fin maxPins fuel objEnd.tail
          -- without a code it is not stored
          (if 0 < pin.codigo.bytes.length then pinsOut ++ [pin] else pinsOut)
    else pinsOut

def parsearJSONPins (json : List UInt8) (jsonLen maxPins : ℕ) : List PinUsuario :=
  let fin := json.drop jsonLen
  let arrayStart := do
    let keyPins ← strstr (quoted comilla (ascii "pins")) json
    within fin (strchr corchete keyPins)
  match arrayStart with
  | none => []
  | some arrayStart => recorrerObjetos fin maxPins jsonLen arrayStart.tail []

/-- `espHTTPGetPins` once the answer is in `httpResp`: from the first opening
brace to the last closing one. -/
def extraerPins (httpResp : List UInt8) (maxPins : ℕ) : List PinUsuario :=
  let texto := cString httpResp
  match strchr llaveIzq texto, strrchr llaveDer texto with
  | some jsonStart, some jsonEnd =>
    if before jsonEnd jsonStart then []
    else parsearJSONPins jsonStart (jsonStart.length - jsonEnd.length + 1) maxPins
  | _, _ => []

/-! ## One object -/

/-- What `buscarValorJSON` reads in a part of the text that ends at `fin`. -/
def valorEn (parte : List UInt8) (clave : String) (maxLen : ℕ) : Option (List UInt8) :=
  (strstr (quoted comilla (ascii clave)) parte).bind fun k =>
    (strchr dosPuntos (k.drop (quoted comilla (ascii clave)).length)).bind fun dos =>
      (strchr comilla dos).map fun inicioValor =>
        (inicioValor.tail.takeWhile (· ≠ comilla)).take maxLen

def activoEn (parte : List UInt8) : Bool :=
  ((strstr (quoted comilla (ascii "activo")) parte).bind fun pActivo =>
    (strchr dosPuntos pActivo).bind fun dos => strstr (ascii "true") dos).isSome

/-- The record of a part. -/
def pinEn (parte : List UInt8) : PinUsuario :=
  let leer {n : ℕ} (clave : String) : CStr (n + 1) := .copy n ((valorEn parte clave n).getD [])
  { codigo := leer "codigo", rfid := leer "rfid", huella := leer "huella", tag := leer "tag",
    activo := activoEn parte }

theorem copiarValor_append {fin : List UInt8} (maxLen : ℕ) (s : List UInt8) :
    copiarValor fin maxLen (s ++ fin) = (s.takeWhile (· ≠ comilla)).take maxLen := by
  induction s generalizing maxLen with
  | nil =>
    cases maxLen with
    | zero => rfl
    | succ maxLen =>
      cases fin with
      | nil => rfl
      | cons b fin => exact if_neg fun h => Nat.lt_irrefl _ h.1
  | cons b s ih =>
    cases maxLen with
    | zero => rfl
    | succ maxLen =>
      have hb : before (b :: (s ++ fin)) fin := before_append (List.cons_ne_nil b s)
      rw [List.cons_append, copiarValor]
      by_cases hq : b = comilla
      · rw [if_neg fun h => h.2 hq, List.takeWhile_cons_of_neg (by simp [hq])]
        rfl
      · rw [if_pos ⟨hb, hq⟩, List.takeWhile_cons_of_pos (by simp [hq]), ih]
        rfl

section Parte

variable {parte rest : List UInt8}

/-- What is found holds at least the pattern. -/
theorem drop_append_of_strstr {pat k fin : List UInt8} (h : strstr pat parte = some k) :
    (k ++ fin).drop pat.length = k.drop pat.length ++ fin :=
  List.drop_append_of_le_length (strstr_eq_some h).2.length_le

theorem notMem_quoted {clave : String} (h : llaveDer ∉ ascii clave) :
    llaveDer ∉ quoted comilla (ascii clave) := by
  simp only [quoted, List.mem_cons, List.mem_append, List.not_mem_nil, or_false, not_or]
  exact ⟨by decide, h, by decide⟩

theorem buscarValorJSON_eq {clave : String} {maxLen : ℕ} (h : llaveDer ∉ ascii clave) :
    buscarValorJSON (parte ++ llaveDer :: rest) (llaveDer :: rest) clave (.vacio maxLen) =
      .copy maxLen ((valorEn parte clave maxLen).getD []) := by
  have hvacio : CStr.copy maxLen [] = .vacio maxLen := by
    simp [CStr.copy, CStr.vacio, cString]
  have hpat : quoted comilla (ascii clave) ≠ [] := List.cons_ne_nil _ _
  unfold buscarValorJSON valorEn
  dsimp only
  rw [strstr_within hpat (notMem_quoted h)]
  cases hk : strstr (quoted comilla (ascii clave)) parte with
  | none => exact hvacio.symm
  | some k =>
    simp only [Option.map_some, Option.bind_eq_bind, Option.bind_some, drop_append_of_strstr hk]
    rw [strchr_within (by decide)]
    cases hdos : strchr dosPuntos (k.drop (quoted comilla (ascii clave)).length) with
    | none => exact hvacio.symm
    | some dos =>
      simp only [Option.map_some, Option.bind_some]
      rw [strchr_within (by decide)]
      cases hinicio : strchr comilla dos with
      | none => exact hvacio.symm
      | some inicioValor =>
        obtain ⟨x, valor, -, rfl, -⟩ := strchr_eq_some hinicio
        simp only [Option.map_some, Option.bind_some, Option.pure_def, List.cons_append,
          List.tail_cons, copiarValor_append, Option.getD_some]

theorem buscarActivo_eq :
    buscarActivo (parte ++ llaveDer :: rest) (llaveDer :: rest) = activoEn parte := by
  have hpat : quoted comilla (ascii "activo") ≠ [] := List.cons_ne_nil _ _
  unfold buscarActivo activoEn
  dsimp only
  rw [strstr_within hpat (notMem_quoted (by decide))]
  cases strstr (quoted comilla (ascii "activo")) parte with
  | none => rfl
  | some pActivo =>
    simp only [Option.map_some, Option.bind_eq_bind, Option.bind_some]
    rw [strchr_within (by decide)]
    cases strchr dosPuntos pActivo with
    | none => rfl
    | some dos =>
      simp only [Option.map_some, Option.bind_some]
      rw [strstr_within (by decide) (by decide), Option.isSome_map]

/-- A record depends on its own part alone. -/
theorem parsearObjeto_eq :
    parsearObjeto (parte ++ llaveDer :: rest) (llaveDer :: rest) = pinEn parte := by
  unfold parsearObjeto pinEn
  rw [buscarValorJSON_eq (by decide), buscarValorJSON_eq (by decide),
    buscarValorJSON_eq (by decide), buscarValorJSON_eq (by decide), buscarActivo_eq]

end Parte

/-! ## The loop -/

/-- The record that a part gives, if it has a code. -/
def registro (parte : List UInt8) : Option PinUsuario :=
  if 0 < (pinEn parte).codigo.bytes.length then some (pinEn parte) else none

/-- Text that ends with a closing brace, or is empty. -/
def Cerrado (s : List UInt8) : Prop := ∀ b, s.getLast? = some b → b = llaveDer

theorem Cerrado.tail {x s : List UInt8} (h : Cerrado (x ++ s)) : Cerrado s := by
  intro b hb
  refine h b ?_
  rw [List.getLast?_append, hb]
  rfl

/-- What the loop does next. -/
theorem siguienteObjeto_cases {s : List UInt8} (fin : List UInt8) (h : Cerrado s) :
    (blocks llaveIzq llaveDer s = [] ∧ siguienteObjeto (s ++ fin) fin = none) ∨
    ∃ x y w, s = x ++ llaveIzq :: (y ++ llaveDer :: w) ∧
      blocks llaveIzq llaveDer s = (llaveIzq :: y) :: blocks llaveIzq llaveDer w ∧
      siguienteObjeto (s ++ fin) fin =
        some (llaveIzq :: y ++ llaveDer :: (w ++ fin), llaveDer :: (w ++ fin)) := by
  by_cases hopen : llaveIzq ∈ s
  · right
    obtain ⟨x, y', rfl, hx⟩ := strchr_split hopen
    have hclose : llaveDer ∈ y' := by
      cases hlast : y'.getLast? with
      | none =>
        rw [List.getLast?_eq_none_iff.mp hlast] at h
        exact absurd (h llaveIzq (by simp)) (by decide)
      | some b =>
        have hb := h b (by
          rw [List.getLast?_append, List.getLast?_cons, hlast]
          rfl)
        exact hb ▸ List.mem_of_getLast? hlast
    obtain ⟨y, w, rfl, hy⟩ := strchr_split hclose
    refine ⟨x, y, w, rfl, blocks_cons hx hy, ?_⟩
    have hstart : strchr llaveIzq (x ++ llaveIzq :: (y ++ llaveDer :: w) ++ fin) =
        some ((llaveIzq :: (y ++ llaveDer :: w)) ++ fin) := by
      rw [List.append_assoc, strchr_append_of_notMem hx, List.cons_append, strchr_cons_self]
    have hend : strchr llaveDer ((llaveIzq :: (y ++ llaveDer :: w)) ++ fin) =
        some ((llaveDer :: w) ++ fin) := by
      rw [List.cons_append, strchr_cons_of_ne (by decide), List.append_assoc,
        strchr_append_of_notMem hy, List.cons_append, strchr_cons_self]
    unfold siguienteObjeto
    rw [hstart, within_append (List.cons_ne_nil _ _)]
    simp only [Option.bind_eq_bind, Option.bind_some]
    rw [hend, within_append (List.cons_ne_nil _ _)]
    simp
  · left
    refine ⟨blocks_of_notMem hopen, ?_⟩
    unfold siguienteObjeto
    rw [strchr_append_of_notMem hopen, within_of_suffix fun t ht => strchr_suffix ht]
    rfl

/-- The loop stores the records of the parts, up to `maxPins`. -/
theorem recorrerObjetos_eq {fin : List UInt8} {maxPins fuel : ℕ} {s : List UInt8}
    {pinsOut : List PinUsuario} (h : Cerrado s) (hfuel : s.length ≤ fuel)
    (hroom : pinsOut.length ≤ maxPins) :
    recorrerObjetos fin maxPins fuel (s ++ fin) pinsOut =
      pinsOut ++ ((blocks llaveIzq llaveDer s).filterMap registro).take
        (maxPins - pinsOut.length) := by
  induction fuel generalizing s pinsOut with
  | zero =>
    rw [List.eq_nil_of_length_eq_zero (Nat.le_zero.mp hfuel)]
    simp [recorrerObjetos, blocks, blocksFrom]
  | succ fuel ih =>
    unfold recorrerObjetos
    split_ifs with hgo
    · rcases siguienteObjeto_cases fin h with ⟨hnone, hnext⟩ | ⟨x, y, w, rfl, hparts, hnext⟩
      · rw [hnext, hnone]
        simp
      · have hw : Cerrado w := by
          have hsplit : x ++ llaveIzq :: (y ++ llaveDer :: w) =
              (x ++ llaveIzq :: (y ++ [llaveDer])) ++ w := by simp
          rw [hsplit] at h
          exact h.tail
        have hshort : w.length ≤ fuel := by
          simp only [List.length_append, List.length_cons] at hfuel
          omega
        rw [hnext, hparts]
        dsimp only
        rw [parsearObjeto_eq, List.tail_cons, List.filterMap_cons]
        unfold registro
        split_ifs with hcodigo
        · rw [ih hw hshort (by rw [List.length_append]; exact hgo.2), List.append_assoc]
          congr 1
          obtain ⟨k, hk⟩ := Nat.exists_eq_add_of_lt hgo.2
          have hleft : maxPins - pinsOut.length = k + 1 := by omega
          have hleft' : maxPins - (pinsOut ++ [pinEn (llaveIzq :: y)]).length = k := by
            rw [List.length_append, List.length_singleton]
            omega
          rw [hleft, hleft', List.take_succ_cons]
          rfl
        · exact ih hw hshort hroom
    · rw [not_and_or] at hgo
      rcases hgo with hend | hfull
      · have hnil : s = [] := by
          by_contra hne
          exact hend (before_append hne)
        rw [hnil]
        simp [blocks, blocksFrom]
      · have hzero : maxPins - pinsOut.length = 0 := Nat.sub_eq_zero_of_le (not_lt.mp hfull)
        rw [hzero, List.take_zero, List.append_nil]

/-- The answer from its opening brace on: the array begins right after. -/
theorem parsearJSONPins_apertura {s fin : List UInt8} {maxPins : ℕ} (h : Cerrado s) :
    parsearJSONPins (apertura ++ (s ++ fin)) (apertura ++ s).length maxPins =
      ((blocks llaveIzq llaveDer s).filterMap registro).take maxPins := by
  have hpins : strstr (quoted comilla (ascii "pins")) (apertura ++ (s ++ fin)) =
      some (quoted comilla (ascii "pins") ++ (dosPuntos :: corchete :: (s ++ fin))) := by
    have hsplit : apertura ++ (s ++ fin) = [llaveIzq] ++ (quoted comilla (ascii "pins") ++
        (dosPuntos :: corchete :: (s ++ fin))) := by simp [apertura, campo]
    have hskip : strstr (quoted comilla (ascii "pins")) (apertura ++ (s ++ fin)) =
        strstr (quoted comilla (ascii "pins")) (quoted comilla (ascii "pins") ++
          (dosPuntos :: corchete :: (s ++ fin))) := by
      rw [hsplit]
      exact strstr_append_of_notMem (by decide)
    exact hskip.trans (strstr_self_append (List.cons_ne_nil _ _))
  have hcorchete : strchr corchete (quoted comilla (ascii "pins") ++
      (dosPuntos :: corchete :: (s ++ fin))) = some ([corchete] ++ (s ++ fin)) := by
    rw [strchr_append_of_notMem (by decide), strchr_cons_of_ne (by decide)]
    exact strchr_cons_self
  have hfin : (apertura ++ (s ++ fin)).drop (apertura ++ s).length = fin := by
    rw [← List.append_assoc, List.drop_left]
  have hbound : within fin (some ([corchete] ++ (s ++ fin))) = some ([corchete] ++ (s ++ fin)) := by
    rw [← List.append_assoc]
    exact within_append (List.cons_ne_nil _ _)
  have hlen : s.length ≤ (apertura ++ s).length := by
    rw [List.length_append]
    exact Nat.le_add_left _ _
  unfold parsearJSONPins
  dsimp only
  rw [hfin, hpins]
  simp only [Option.bind_eq_bind, Option.bind_some]
  rw [hcorchete, hbound]
  exact recorrerObjetos_eq h hlen (Nat.zero_le _)

/-- The records are those of the parts up to the last closing brace. -/
theorem extraerPins_eq {p s fin : List UInt8} {maxPins : ℕ} (h0 : 0 ∉ p ++ (apertura ++ (s ++ fin)))
    (hp : llaveIzq ∉ p) (hfin : llaveDer ∉ fin) (hs : Cerrado s) (hne : s ≠ []) :
    extraerPins (p ++ (apertura ++ (s ++ fin))) maxPins =
      ((blocks llaveIzq llaveDer s).filterMap registro).take maxPins := by
  rcases List.eq_nil_or_concat s with rfl | ⟨s0, b, rfl⟩
  · exact absurd rfl hne
  rw [List.concat_eq_append] at *
  have hb : b = llaveDer := hs b (by simp)
  subst hb
  have hstart : strchr llaveIzq (p ++ (apertura ++ (s0 ++ [llaveDer] ++ fin))) =
      some (apertura ++ (s0 ++ [llaveDer] ++ fin)) := by
    rw [strchr_append_of_notMem hp]
    exact strchr_cons_self
  have hend : strrchr llaveDer (p ++ (apertura ++ (s0 ++ [llaveDer] ++ fin))) =
      some (llaveDer :: fin) := by
    have hsplit : p ++ (apertura ++ (s0 ++ [llaveDer] ++ fin)) =
        (p ++ apertura ++ s0) ++ llaveDer :: fin := by simp
    rw [hsplit, strrchr_append_cons hfin]
  have horder : ¬ before (llaveDer :: fin) (apertura ++ (s0 ++ [llaveDer] ++ fin)) := by
    unfold before
    simp only [List.length_append, List.length_cons]
    omega
  have hlen : (apertura ++ (s0 ++ [llaveDer] ++ fin)).length - (llaveDer :: fin).length + 1 =
      (apertura ++ (s0 ++ [llaveDer])).length := by
    simp only [List.length_append, List.length_cons, List.length_nil]
    omega
  unfold extraerPins
  dsimp only
  rw [cString_of_notMem h0, hstart, hend]
  dsimp only
  rw [if_neg horder, hlen]
  exact parsearJSONPins_apertura hs

theorem extraerPins_sinLlave {httpResp : List UInt8} {maxPins : ℕ}
    (h : llaveDer ∉ cString httpResp) : extraerPins httpResp maxPins = [] := by
  unfold extraerPins
  dsimp only
  rw [strrchr_of_notMem h]
  cases strchr llaveIzq (cString httpResp) <;> rfl

/-- The same for an answer of which only the first `n` bytes arrived: what counts
is the part of the array that arrived. -/
theorem extraerPins_recibido {pre cuerpo : List UInt8} {n maxPins : ℕ}
    (h0 : 0 ∉ pre ++ (apertura ++ cuerpo)) (hpre : llaveIzq ∉ pre) (hpre' : llaveDer ∉ pre) :
    extraerPins ((pre ++ (apertura ++ cuerpo)).take n) maxPins =
      ((blocks llaveIzq llaveDer (cuerpo.take (n - (pre.length + apertura.length)))).filterMap
        registro).take maxPins := by
  have hapertura : llaveDer ∉ pre ++ apertura := by
    rw [List.mem_append, not_or]
    exact ⟨hpre', by decide⟩
  have h0' : 0 ∉ (pre ++ (apertura ++ cuerpo)).take n := fun h => h0 (List.mem_of_mem_take h)
  have htake : (pre ++ (apertura ++ cuerpo)).take n =
      (pre ++ apertura).take n ++ cuerpo.take (n - (pre.length + apertura.length)) := by
    rw [← List.append_assoc, List.take_append, List.length_append]
  by_cases hmem : llaveDer ∈ cuerpo.take (n - (pre.length + apertura.length))
  · -- a closing brace has arrived, and so all that comes before the array
    have hlong : (pre ++ apertura).length ≤ n := by
      by_contra hshort
      rw [List.length_append] at hshort
      rw [Nat.sub_eq_zero_of_le (by omega), List.take_zero] at hmem
      cases hmem
    obtain ⟨s0, fin, hsplit, hfin⟩ := strrchr_split hmem
    have hclosed : Cerrado (s0 ++ [llaveDer]) := by
      intro b hb
      rw [List.getLast?_append] at hb
      exact (Option.some.inj hb).symm
    have hjoin : (pre ++ (apertura ++ cuerpo)).take n =
        pre ++ (apertura ++ (s0 ++ [llaveDer] ++ fin)) := by
      rw [htake, List.take_of_length_le hlong, hsplit]
      simp
    have hparts : blocks llaveIzq llaveDer (s0 ++ llaveDer :: fin) =
        blocks llaveIzq llaveDer (s0 ++ [llaveDer]) :=
      (blocks_append (by decide)).trans (by rw [blocks_of_no_close hfin, List.append_nil])
    rw [hjoin] at h0' ⊢
    rw [extraerPins_eq h0' hpre hfin hclosed (by simp), hsplit, hparts]
  · have hnone : llaveDer ∉ cString ((pre ++ (apertura ++ cuerpo)).take n) := by
      rw [cString_of_notMem h0', htake, List.mem_append, not_or]
      exact ⟨fun h => hapertura (List.mem_of_mem_take h), hmem⟩
    rw [extraerPins_sinLlave hnone, blocks_of_no_close hmem, List.filterMap_nil, List.take_nil]

end Cerradura
