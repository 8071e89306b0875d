import Cerradura.JsonObject

/-!
# The array of users, read by the parser

The objects follow one another with commas between them, and the text may have
been cut anywhere. Whatever the values hold, an object begins anew after the
last brace of the one before.

Results:
1. `registro_de_todos`: of the whole array, each user has a record.
2. `registros_le`: an array that fits the receive buffer gives no more records
   than the table has.
3. `registros_primero`: however it was cut, the first record is that of the
   first user.
4. `registros_completos`: of well-formed users it gives the records of those
   whose object has arrived.
-/

namespace Cerradura

open CText

theorem objeto_length_pos (row : Row) : 0 < (objeto row).length := Nat.succ_pos _

theorem objetos_length_pos {rows : List Row} (hne : rows ≠ []) : 0 < (objetos rows).length := by
  cases rows with
  | nil => exact absurd rfl hne
  | cons row rows =>
    rw [objetos_cons, List.length_append]
    exact Nat.add_pos_left (objeto_length_pos row) _

/-- An array of `n` bytes gives at most `4 (n + 1) / 82` records. -/
theorem occurrences_objetos_le {rows : List Row}
    (h : ∀ row ∈ rows, row.activo ≠ 0 ∧ CincoDigitos row.codigo) (s : List UInt8) :
    82 * occurrences (quoted comilla (ascii "codigo")) (objetos rows ++ s) ≤
      4 * ((objetos rows).length + 1) +
        82 * occurrences (quoted comilla (ascii "codigo")) s := by
  induction rows with
  | nil => exact Nat.le_add_left _ _
  | cons row rows ih =>
    obtain ⟨hrow, hrows⟩ := List.forall_mem_cons.mp h
    obtain ⟨n, hn, hlen, hocc⟩ := occurrences_objeto hrow.1 hrow.2 (cola rows ++ s)
    rw [objetos_cons, List.append_assoc, hocc, List.length_append]
    unfold cola
    split_ifs with hnil
    · rw [List.nil_append, List.length_nil]
      omega
    · have hskip : comilla ∉ [coma] := by decide
      have hcoma : occurrences (quoted comilla (ascii "codigo")) (coma :: objetos rows ++ s) =
          occurrences (quoted comilla (ascii "codigo")) (objetos rows ++ s) :=
        occurrences_append_of_notMem hskip
      rw [hcoma, List.length_cons]
      have hrest := ih hrows
      omega

/-- The head of an object, up to the value of `rfid`. -/
theorem objeto_cabeza {row : Row} (hactivo : row.activo ≠ 0) : ∃ resto, objeto row =
    (llaveIzq :: chain comilla (cabeza (escape row.codigo)) []) ++ (resto ++ [llaveDer]) := by
  refine ⟨escape row.rfid ++ chain comilla hastaHuella (escape row.huella ++
    chain comilla hastaTag (escape (tagDe row) ++ [comilla])), ?_⟩
  rw [objeto_eq hactivo, List.cons_append, chain_append_tail]
  simp [chain_append_tail]

/-- The record of the first object of a text that was cut after a closing brace. -/
theorem blocks_primero {row : Row} (hactivo : row.activo ≠ 0) (h : CincoDigitos row.codigo)
    {t : List UInt8} {n : ℕ} (hmem : llaveDer ∈ (objeto row ++ t).take n) :
    ∃ parte partes pin, blocks llaveIzq llaveDer ((objeto row ++ t).take n) = parte :: partes ∧
      registro parte = some pin ∧ pin.activo = true ∧
      pin.codigo.bytes = asciiBytes row.codigo := by
  obtain ⟨resto, hresto⟩ := objeto_cabeza hactivo
  have hcab : llaveDer ∉ llaveIzq :: chain comilla (cabeza (escape row.codigo)) [] := by
    rw [List.mem_cons, not_or]
    exact ⟨by decide, h.cabeza_cerrada List.not_mem_nil⟩
  rw [hresto, List.append_assoc, List.take_append] at hmem ⊢
  rcases List.mem_append.mp hmem with hmem | hmem
  · exact absurd (List.mem_of_mem_take hmem) hcab
  have hlong : (llaveIzq :: chain comilla (cabeza (escape row.codigo)) []).length ≤ n := by
    by_contra hshort
    rw [Nat.sub_eq_zero_of_le (le_of_not_ge hshort), List.take_zero] at hmem
    cases hmem
  obtain ⟨z, w, hzw, hz⟩ := strchr_split hmem
  obtain ⟨pin, hpin, hpinactivo, hcodigo⟩ := registro_cabeza h z
  refine ⟨_, blocks llaveIzq llaveDer w, pin, ?_, hpin, hpinactivo, hcodigo⟩
  rw [List.take_of_length_le hlong, hzw, List.cons_append, chain_append_tail]
  exact blocks_cabeza h hz

/-- A brace inside a value cuts an object into several parts. The first is its
record, and the object after it starts anew. -/
theorem blocks_objeto {row : Row} (hactivo : row.activo ≠ 0) (h : CincoDigitos row.codigo)
    (t : List UInt8) : ∃ parte partes pin, blocks llaveIzq llaveDer (objeto row ++ t) =
      parte :: partes ++ blocks llaveIzq llaveDer t ∧ registro parte = some pin ∧
      pin.activo = true ∧ pin.codigo.bytes = asciiBytes row.codigo := by
  obtain ⟨resto, hresto⟩ := objeto_cabeza hactivo
  have hwhole : (objeto row ++ []).take (objeto row).length = objeto row := by simp
  have hmem : llaveDer ∈ (objeto row ++ []).take (objeto row).length := by
    rw [hwhole, hresto]
    simp
  obtain ⟨parte, partes, pin, hpartes, hpin⟩ := blocks_primero hactivo h hmem
  refine ⟨parte, partes, pin, ?_, hpin⟩
  rw [hwhole] at hpartes
  rw [← hpartes, hresto, List.append_assoc, List.append_assoc, ← List.append_assoc _ resto,
    List.singleton_append, blocks_append (by decide), List.append_assoc]

/-- With the whole array, each user has a record. -/
theorem registro_de_todos {rows : List Row}
    (h : ∀ row ∈ rows, row.activo ≠ 0 ∧ CincoDigitos row.codigo) (t : List UInt8) :
    ∀ row ∈ rows, ∃ pin ∈ (blocks llaveIzq llaveDer (objetos rows ++ t)).filterMap registro,
      pin.activo = true ∧ pin.codigo.bytes = asciiBytes row.codigo := by
  induction rows with
  | nil => exact fun row hrow => nomatch hrow
  | cons row rows ih =>
    obtain ⟨hrow, hrows⟩ := List.forall_mem_cons.mp h
    obtain ⟨parte, partes, pin, hpartes, hpin, hvale⟩ :=
      blocks_objeto hrow.1 hrow.2 (cola rows ++ t)
    rw [objetos_cons, List.append_assoc, hpartes]
    intro row' hrow'
    rcases List.mem_cons.mp hrow' with rfl | hrow'
    · refine ⟨pin, List.mem_filterMap.mpr ⟨parte, ?_, hpin⟩, hvale⟩
      exact List.mem_append_left _ List.mem_cons_self
    · obtain ⟨pin', hpin', hvale'⟩ := ih hrows row' hrow'
      refine ⟨pin', ?_, hvale'⟩
      have hskip : llaveIzq ∉ [coma] := by decide
      have hcola : blocks llaveIzq llaveDer (cola rows ++ t) =
          blocks llaveIzq llaveDer (objetos rows ++ t) := by
        rw [cola, if_neg (List.ne_nil_of_mem hrow')]
        exact blocks_skip hskip
      rw [hcola, List.filterMap_append]
      exact List.mem_append_right _ hpin'

/-- Only a part with the key `codigo` gives a record. -/
theorem strstr_of_registro {parte : List UInt8} (h : (registro parte).isSome) :
    (strstr (quoted comilla (ascii "codigo")) parte).isSome := by
  cases hk : strstr (quoted comilla (ascii "codigo")) parte with
  | some k => rfl
  | none =>
    have hvacio : (pinEn parte).codigo.bytes = [] := by
      show (CStr.copy 5 ((valorEn parte "codigo" 5).getD [])).bytes = []
      rw [valorEn, hk]
      rfl
    rw [registro, if_neg (by rw [hvacio]; decide)] at h
    exact h

theorem registros_le_occurrences (s : List UInt8) :
    ((blocks llaveIzq llaveDer s).filterMap registro).length ≤
      occurrences (quoted comilla (ascii "codigo")) s := by
  have hparts : ((blocks llaveIzq llaveDer s).filter fun parte =>
      (strstr (quoted comilla (ascii "codigo")) parte).isSome).length ≤ _ :=
    blocks_filter_length_le (List.cons_ne_nil _ _)
  refine le_trans ?_ hparts
  rw [List.length_filterMap_eq_countP, ← List.countP_eq_length_filter]
  exact List.countP_mono_left fun parte _ h => strstr_of_registro h

/-- An array that fits the receive buffer gives no more records than the table
holds. -/
theorem registros_le {rows : List Row}
    (h : ∀ row ∈ rows, row.activo ≠ 0 ∧ CincoDigitos row.codigo)
    (hlen : (objetos rows).length ≤ 2036) :
    ((blocks llaveIzq llaveDer (objetos rows)).filterMap registro).length ≤ maxPins := by
  have hocc := occurrences_objetos_le h []
  have hle := registros_le_occurrences (objetos rows)
  have hcero : occurrences (quoted comilla (ascii "codigo")) [] = 0 := rfl
  rw [List.append_nil, hcero] at hocc
  show _ ≤ 99
  omega

/-- Nothing of the array goes on after its last brace. -/
theorem blocks_objetos_append {rows : List Row} (hne : rows ≠ [])
    (h : ∀ row ∈ rows, row.activo ≠ 0) (t : List UInt8) :
    blocks llaveIzq llaveDer (objetos rows ++ t) =
      blocks llaveIzq llaveDer (objetos rows) ++ blocks llaveIzq llaveDer t := by
  obtain ⟨u, hu⟩ : ∃ u, objetos rows = u ++ [llaveDer] := by
    induction rows with
    | nil => exact absurd rfl hne
    | cons row rows ih =>
      obtain ⟨hrow, hrows⟩ := List.forall_mem_cons.mp h
      obtain ⟨resto, hresto⟩ := objeto_cabeza hrow
      rw [objetos_cons, cola]
      split_ifs with hnil
      · exact ⟨_, by rw [hresto, List.append_nil, ← List.append_assoc]⟩
      · obtain ⟨u, hu⟩ := ih hnil hrows
        exact ⟨objeto row ++ coma :: u, by rw [hu]; simp⟩
  rw [hu, List.append_assoc, List.singleton_append]
  exact blocks_append (by decide)

/-! ## Well-formed users -/

/-- The users whose object lies within the first `n` bytes of the array. -/
def completos : List Row → ℕ → List Row
  | [], _ => []
  | row :: rows, n =>
    if (objeto row).length ≤ n then row :: completos rows (n - (objeto row).length - 1) else []

theorem completos_prefix (rows : List Row) (n : ℕ) : completos rows n <+: rows := by
  induction rows generalizing n with
  | nil => exact List.prefix_refl _
  | cons row rows ih =>
    unfold completos
    split_ifs
    · exact List.cons_prefix_cons.mpr ⟨rfl, ih _⟩
    · exact List.nil_prefix

theorem completos_eq {rows : List Row} {n : ℕ} (h : (objetos rows).length ≤ n) :
    completos rows n = rows := by
  induction rows generalizing n with
  | nil => rfl
  | cons row rows ih =>
    rw [objetos_cons, List.length_append] at h
    unfold completos
    rw [if_pos (le_trans (Nat.le_add_right _ _) h)]
    congr 1
    refine ih ?_
    unfold cola at h
    split_ifs at h with hnil
    · rw [hnil]
      exact Nat.zero_le _
    · rw [List.length_cons] at h
      omega

/-- Those are the users whose closing brace has arrived. -/
theorem lt_length_completos {rows : List Row} {n i : ℕ} (hi : i < rows.length) :
    i < (completos rows n).length ↔ (objetos (rows.take (i + 1))).length ≤ n := by
  induction rows generalizing n i with
  | nil => cases hi
  | cons row rows ih =>
    rw [List.take_succ_cons, objetos_cons, List.length_append, cola]
    unfold completos
    cases i with
    | zero => split_ifs <;> simp_all
    | succ i =>
      have hi' : i < rows.length := Nat.lt_of_succ_lt_succ hi
      have hne : rows.take (i + 1) ≠ [] := by
        rw [Ne, List.take_eq_nil_iff, not_or]
        exact ⟨Nat.succ_ne_zero i, List.ne_nil_of_length_pos (Nat.zero_lt_of_lt hi')⟩
      rw [if_neg hne, List.length_cons]
      split_ifs with hfits
      · rw [List.length_cons, Nat.succ_lt_succ_iff, ih hi']
        -- with one byte left the comma has arrived, but no object has
        have hpos : 0 < (objetos (rows.take (i + 1))).length := objetos_length_pos hne
        omega
      · refine iff_of_false (Nat.not_lt_zero _) fun hle => hfits ?_
        exact (Nat.le_add_right _ _).trans hle

theorem blocks_objeto_bienFormado {row : Row} (h : BienFormado row) (t : List UInt8) :
    blocks llaveIzq llaveDer (objeto row ++ t) =
      (llaveIzq :: chain comilla (textos row) []) :: blocks llaveIzq llaveDer t := by
  have hclose : llaveDer ∉ chain comilla (textos row) [] :=
    notMem_chain (by decide) (h.special (.inr (.inr rfl))) List.not_mem_nil
  rw [objeto_textos (by rw [h.activo]; decide), List.append_assoc, List.singleton_append]
  exact blocks_cons (x := []) List.not_mem_nil hclose

theorem blocks_objeto_cortado {row : Row} (h : BienFormado row) {n : ℕ}
    (hn : n < (objeto row).length) : blocks llaveIzq llaveDer ((objeto row).take n) = [] := by
  have hclose : llaveDer ∉ llaveIzq :: chain comilla (textos row) [] := by
    rw [List.mem_cons, not_or]
    exact ⟨by decide, notMem_chain (by decide) (h.special (.inr (.inr rfl))) List.not_mem_nil⟩
  rw [objeto_textos (by rw [h.activo]; decide), List.length_append] at hn
  rw [objeto_textos (by rw [h.activo]; decide),
    List.take_append_of_le_length (Nat.le_of_lt_succ hn)]
  exact blocks_of_no_close fun hmem => hclose (List.mem_of_mem_take hmem)

/-- The comma before an object is skipped. -/
theorem blocks_cola {t : List UInt8} (ht : llaveIzq ∉ t) (rows : List Row) (n : ℕ) :
    blocks llaveIzq llaveDer ((cola rows ++ t).take n) =
      blocks llaveIzq llaveDer ((objetos rows ++ t).take (n - 1)) := by
  have hcut : ∀ n, llaveIzq ∉ t.take n := fun n hmem => ht (List.mem_of_mem_take hmem)
  have hcoma : llaveIzq ∉ [coma] := by decide
  unfold cola
  split_ifs with hnil
  · rw [hnil, List.nil_append, blocks_of_notMem (hcut n)]
    exact (blocks_of_notMem (hcut (n - 1))).symm
  · cases n with
    | zero => rfl
    | succ n => exact blocks_skip hcoma

/-- An array of well-formed users, cut anywhere: the records of those whose
object has arrived. -/
theorem registros_completos {rows : List Row} (h : ∀ row ∈ rows, BienFormado row)
    {t : List UInt8} (ht : llaveIzq ∉ t) (n : ℕ) :
    List.Forall₂ Registra (completos rows n)
      ((blocks llaveIzq llaveDer ((objetos rows ++ t).take n)).filterMap registro) := by
  induction rows generalizing n with
  | nil =>
    have hopen : llaveIzq ∉ t.take n := fun hmem => ht (List.mem_of_mem_take hmem)
    show List.Forall₂ _ [] ((blocks llaveIzq llaveDer (t.take n)).filterMap registro)
    rw [blocks_of_notMem hopen]
    exact .nil
  | cons row rows ih =>
    obtain ⟨hrow, hrows⟩ := List.forall_mem_cons.mp h
    obtain ⟨pin, hpin, hregistra⟩ := registro_objeto hrow
    rw [objetos_cons, List.append_assoc, List.take_append]
    unfold completos
    split_ifs with hfits
    · rw [List.take_of_length_le hfits, blocks_objeto_bienFormado hrow, blocks_cola ht,
        List.filterMap_cons_some hpin]
      exact .cons hregistra (ih hrows _)
    · have hshort := not_le.mp hfits
      rw [Nat.sub_eq_zero_of_le (Nat.le_of_lt hshort), List.take_zero, List.append_nil,
        blocks_objeto_cortado hrow hshort]
      exact .nil

end Cerradura
