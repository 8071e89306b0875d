import Cerradura.Pantalla

/-!
# What the display shows

A screen of MEF.c is `display_clear`, and `display_println` once for each line. The
image is read back as a person would: six columns at a time, each of them looked up
in the font.

Result: `pantalla_legible`. Lines that fit, in pages of their own, can all be read,
whatever the image was before, and everything else is blank.
-/

namespace Cerradura

open CBuffer

/-! ## The code -/

def displayClear (d : Display) : Display := { d with buffer := .replicate 1024 0 }

/-- A line of a screen, and its row. -/
abbrev Renglon : Type := Cadena × UInt8

/-- One `display_println` after another. -/
def displayPrintlns (fuel : ℕ) (lineas : List Renglon) (d : Display) : Option Display :=
  lineas.foldlM (fun d (str, y) => displayPrintln fuel str y d) d

/-! ## Reading -/

def glifo (c : UInt8) : List UInt8 := font6x8.getD (imprimible c - 32).toNat []

def columnas (str : List UInt8) : List UInt8 := str.flatMap glifo

/-- The character with this glyph. -/
def leerGlifo (cols : List UInt8) : Option UInt8 :=
  (font6x8.idxOf? cols).map fun i => UInt8.ofNat (i + 32)

def leerTexto : ℕ → List UInt8 → Option (List UInt8)
  | 0, _ => some []
  | n + 1, cols => do
    let c ← leerGlifo (cols.take 6)
    let str ← leerTexto n (cols.drop 6)
    pure (c :: str)

/-- The columns from `i` on. -/
def Display.franja (d : Display) (i n : ℕ) : List UInt8 := (d.buffer.toList.drop i).take n

theorem getElem?_glifo (c : UInt8) : font6x8[(imprimible c - 32).toNat]? = some (glifo c) := by
  obtain ⟨row, hrow, -⟩ := exists_glifo c
  rw [hrow, glifo, List.getD_eq_getElem?_getD, hrow, Option.getD_some]

theorem glifo_length (c : UInt8) : (glifo c).length = 6 :=
  length_of_mem_font6x8 _ (List.mem_of_getElem? (getElem?_glifo c))

theorem columnas_length (str : List UInt8) : (columnas str).length = 6 * str.length := by
  induction str with
  | nil => rfl
  | cons c str ih =>
    rw [columnas, List.flatMap_cons, List.length_append, glifo_length, ← columnas, ih,
      List.length_cons, Nat.mul_succ, Nat.add_comm]

/-- No two characters look the same. -/
theorem leerGlifo_getD : ∀ i < 95, leerGlifo (font6x8.getD i []) = some (UInt8.ofNat (i + 32)) := by
  decide +kernel

theorem leerGlifo_glifo (c : UInt8) : leerGlifo (glifo c) = some (imprimible c) := by
  have hle : (32 : UInt8) ≤ imprimible c := by
    unfold imprimible
    split
    · decide
    · next h => exact UInt8.not_lt.mp (not_or.mp h).1
  rw [glifo, leerGlifo_getD _ (imprimible_lt c), UInt8.toNat_sub_of_le _ _ hle]
  have hval : (imprimible c).toNat - (32 : UInt8).toNat + 32 = (imprimible c).toNat :=
    Nat.sub_add_cancel (UInt8.le_iff_toNat_le.mp hle)
  rw [hval, UInt8.ofNat_toNat]

/-- What is drawn can be read. -/
theorem leerTexto_columnas (str : List UInt8) :
    leerTexto str.length (columnas str) = some (str.map imprimible) := by
  induction str with
  | nil => rfl
  | cons c str ih =>
    have hcols : columnas (c :: str) = glifo c ++ columnas str := List.flatMap_cons
    rw [List.length_cons, leerTexto, hcols, List.take_left' (glifo_length c),
      List.drop_left' (glifo_length c), leerGlifo_glifo, ih]
    rfl

/-! ## Drawing -/

theorem getElem?_pintaGlifo {c : UInt8} {d : Display} {buffer : Vector UInt8 1024}
    (h : pintaGlifo c d = some buffer) (j : ℕ) : buffer[j]? =
      let base := d.cursorX.toNat + d.cursorY.toNat / 8 * 128
      if base ≤ j ∧ j < base + 6 then (glifo c)[j - base]? else d.buffer[j]? := by
  rw [pintaGlifo, getElem?_glifo, Option.bind_eq_bind, Option.bind_some,
    show (d.cursorY / 8).toNat = d.cursorY.toNat / 8 from UInt8.toNat_div _ _] at h
  exact getElem?_foldlM_put (glifo_length c).ge h j

/-- A string that ends before the cursor wraps. -/
theorem getElem?_displayPrint {str : List UInt8} {d d' : Display}
    (hcol : d.cursorX.toNat + 6 * str.length ≤ 256) (h : displayPrint str d = some d') (j : ℕ) :
    d'.buffer[j]? =
      let base := d.cursorX.toNat + d.cursorY.toNat / 8 * 128
      if base ≤ j ∧ j < base + 6 * str.length then (columnas str)[j - base]? else d.buffer[j]? := by
  induction str generalizing d with
  | nil =>
    obtain rfl := Option.some.inj h
    exact (if_neg fun hj => absurd (hj.1.trans_lt hj.2) (Nat.lt_irrefl _)).symm
  | cons c str ih =>
    rw [displayPrint] at h
    cases hpinta : pintaGlifo c d with
    | none =>
      rw [hpinta] at h
      cases h
    | some buffer =>
      rw [hpinta, Option.bind_eq_bind, Option.bind_some] at h
      have hcols : columnas (c :: str) = glifo c ++ columnas str := List.flatMap_cons
      have hglifo := getElem?_pintaGlifo hpinta j
      rw [List.length_cons] at hcol ⊢
      cases str with
      | nil =>
        obtain rfl := Option.some.inj h
        rw [hcols, show columnas [] = [] from rfl, List.append_nil]
        exact hglifo
      | cons c' str =>
        have hnext : (d.cursorX + 6).toNat = d.cursorX.toNat + 6 := by
          rw [List.length_cons] at hcol
          have hlt : d.cursorX.toNat + 6 < 256 := by omega
          exact (UInt8.toNat_add _ 6).trans (Nat.mod_eq_of_lt hlt)
        have ih := ih (d := { d with buffer := buffer, cursorX := d.cursorX + 6 })
          (by rw [hnext]; omega) h
        dsimp only at ih hglifo ⊢
        rw [ih, hnext, hcols, hglifo]
        generalize d.cursorX.toNat = x
        generalize d.cursorY.toNat / 8 * 128 = y
        by_cases hj : x + 6 + y ≤ j
        · rw [List.getElem?_append_right (by rw [glifo_length]; omega), glifo_length]
          by_cases hfin : j < x + 6 + y + 6 * (c' :: str).length
          · rw [if_pos ⟨hj, hfin⟩, if_pos (by omega)]
            congr 1
            omega
          · rw [if_neg (by omega), if_neg (by omega), if_neg (by omega)]
        · rw [if_neg (by omega)]
          by_cases hini : x + y ≤ j
          · rw [if_pos (by omega), if_pos (by omega), List.getElem?_append_left]
            rw [glifo_length]
            omega
          · rw [if_neg (by omega), if_neg (by omega)]

/-! ## Lines -/

namespace Renglon

/-- Inside the display. -/
def Cabe (l : Renglon) : Prop := l.1.length ≤ 21 ∧ l.2.toNat ≤ 63

def pagina (l : Renglon) : ℕ := l.2.toNat / 8

/-- The first column, that of a centred text. -/
def inicio (l : Renglon) : ℕ := 64 - 3 * l.1.length + l.pagina * 128

def Ocupa (l : Renglon) (j : ℕ) : Prop := l.inicio ≤ j ∧ j < l.inicio + 6 * l.1.length

/-- The line as it is read from the display. -/
def leida (l : Renglon) (d : Display) : Option (List UInt8) :=
  leerTexto l.1.length (d.franja l.inicio (6 * l.1.length))

instance (l : Renglon) (j : ℕ) : Decidable (l.Ocupa j) := inferInstanceAs (Decidable (_ ∧ _))

variable {l l' : Renglon}

/-- A line stays in its page. -/
theorem Ocupa.pagina_eq {j : ℕ} (h : l.Ocupa j) (hcabe : l.Cabe) : j / 128 = l.pagina := by
  obtain ⟨hini, hfin⟩ := h
  obtain ⟨hlen, -⟩ := hcabe
  unfold inicio at hini hfin
  omega

theorem println (hcabe : l.Cabe) (d : Display) : ∃ d', displayPrintln 256 l.1 l.2 d = some d' ∧
    ∀ j, d'.buffer[j]? = if l.Ocupa j then (columnas l.1.val)[j - l.inicio]? else d.buffer[j]? := by
  obtain ⟨hlen, hy⟩ := hcabe
  have hlargo := largo_zero l.1 (hlen.trans (by decide)) 256
  rw [if_pos (Nat.lt_of_le_of_lt hlen (by decide))] at hlargo
  have hx : (centrado l.1.length.toUInt8).toNat = 64 - 3 * l.1.length :=
    (centrado_toNat (hlen.trans (by decide))).trans (if_pos hlen)
  have hsome : (displayPrintAt l.1 (centrado l.1.length.toUInt8) l.2 d).isSome := by
    rw [displayPrintAt_isSome, dentro_iff (by omega) hy]
    omega
  obtain ⟨d', hd'⟩ := Option.isSome_iff_exists.mp hsome
  refine ⟨d', (displayPrintln_eq l.2 d hlargo).trans hd', fun j => ?_⟩
  have hcol : (displaySetCursor (centrado l.1.length.toUInt8) l.2 d).cursorX.toNat +
      6 * l.1.val.length ≤ 256 := by
    show (centrado l.1.length.toUInt8).toNat + 6 * l.1.length ≤ 256
    omega
  have hprint := getElem?_displayPrint hcol hd' j
  dsimp only [displaySetCursor] at hprint
  rw [hx] at hprint
  exact hprint

/-- What a line is read from. -/
theorem leida_of_columnas {d : Display}
    (h : ∀ j, l.Ocupa j → d.buffer[j]? = (columnas l.1.val)[j - l.inicio]?) :
    l.leida d = some (l.1.val.map imprimible) := by
  have hfranja : d.franja l.inicio (6 * l.1.length) = columnas l.1.val := by
    refine List.ext_getElem? fun i => ?_
    by_cases hi : i < 6 * l.1.length
    · have hj := h (l.inicio + i) ⟨Nat.le_add_right _ _, Nat.add_lt_add_left hi _⟩
      rw [Nat.add_sub_cancel_left] at hj
      rw [Display.franja, List.getElem?_take_of_lt hi, List.getElem?_drop, ← hj]
      exact Vector.getElem?_toList
    · have hcols : (columnas l.1.val).length ≤ i := (columnas_length _).trans_le (not_lt.mp hi)
      rw [List.getElem?_eq_none hcols, List.getElem?_eq_none]
      exact (List.length_take_le _ _).trans (not_lt.mp hi)
  rw [leida, hfranja]
  exact leerTexto_columnas l.1.val

end Renglon

/-- Lines in pages of their own leave each other alone. -/
theorem displayPrintlns_dibuja {lineas : List Renglon} (hcabe : ∀ l ∈ lineas, l.Cabe)
    (hpaginas : (lineas.map Renglon.pagina).Nodup) (d : Display) :
    ∃ d', displayPrintlns 256 lineas d = some d' ∧
      (∀ l ∈ lineas, ∀ j, l.Ocupa j → d'.buffer[j]? = (columnas l.1.val)[j - l.inicio]?) ∧
      ∀ j, (∀ l ∈ lineas, ¬ l.Ocupa j) → d'.buffer[j]? = d.buffer[j]? := by
  induction lineas generalizing d with
  | nil => exact ⟨d, rfl, fun _ hl => absurd hl List.not_mem_nil, fun _ _ => rfl⟩
  | cons l lineas ih =>
    obtain ⟨hl, hresto⟩ := List.forall_mem_cons.mp hcabe
    obtain ⟨hpagina, hpaginas⟩ := List.nodup_cons.mp hpaginas
    obtain ⟨d1, hd1, hbuffer⟩ := Renglon.println hl d
    obtain ⟨d', hd', hlineas, hotros⟩ := ih hresto hpaginas d1
    refine ⟨d', ?_, List.forall_mem_cons.mpr ⟨fun j hj => ?_, hlineas⟩, fun j hj => ?_⟩
    · rw [displayPrintlns, List.foldlM_cons]
      exact Option.bind_eq_some_iff.mpr ⟨d1, hd1, hd'⟩
    · rw [hotros j fun l' hl' hj' => hpagina (List.mem_map.mpr ⟨l', hl', ?_⟩), hbuffer, if_pos hj]
      exact (hj'.pagina_eq (hresto l' hl')).symm.trans (hj.pagina_eq hl)
    · obtain ⟨hno, hresto'⟩ := List.forall_mem_cons.mp hj
      rw [hotros j hresto', hbuffer, if_neg hno]

/-! ## Screens -/

/-- A screen of lines that fit, each in a page of its own, shows all of them, with a
question mark for what the font does not have, and nothing else. -/
theorem pantalla_legible {lineas : List Renglon} (hcabe : ∀ l ∈ lineas, l.Cabe)
    (hpaginas : (lineas.map Renglon.pagina).Nodup) (d : Display) :
    ∃ d', displayPrintlns 256 lineas (displayClear d) = some d' ∧
      (∀ l ∈ lineas, l.leida d' = some (l.1.val.map imprimible)) ∧
      ∀ j < 1024, (∀ l ∈ lineas, ¬ l.Ocupa j) → d'.buffer[j]? = some 0 := by
  obtain ⟨d', hd', hlineas, hotros⟩ := displayPrintlns_dibuja hcabe hpaginas (displayClear d)
  refine ⟨d', hd', fun l hl => Renglon.leida_of_columnas (hlineas l hl), ?_⟩
  intro j hj hno
  rw [hotros j hno]
  exact Vector.getElem?_replicate.trans (if_pos hj)

/-- Two lines. -/
theorem pantalla_legible_hola : ∃ d',
    displayPrintlns 256 [(hola, 10), (hola, 30)] (displayClear displayVacio) = some d' ∧
      Renglon.leida (hola, 10) d' = some hola.val ∧
        Renglon.leida (hola, 30) d' = some hola.val := by
  have hcabe : ∀ l ∈ [(hola, 10), (hola, 30)], Renglon.Cabe l :=
    List.forall_mem_cons.mpr ⟨⟨by decide, by decide⟩,
      List.forall_mem_singleton.mpr ⟨by decide, by decide⟩⟩
  obtain ⟨d', hd', hleida, -⟩ := pantalla_legible hcabe (by decide) displayVacio
  obtain ⟨h10, h30⟩ := List.forall_mem_cons.mp hleida
  exact ⟨d', hd', h10, h30 _ List.mem_cons_self⟩

end Cerradura
