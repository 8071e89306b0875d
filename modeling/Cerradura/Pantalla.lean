import Cerradura.CBuffer

/-!
# Text on the display

display.c writes the glyphs of a string into the image of the display, 128
columns by eight pages of eight rows. The length of a string and the column of
the cursor have eight bits.

Results:
1. `display_iff`: for which strings and positions `display_println` and
   `display_printAt` end without a write outside the image.
2. `display_falla`: a string of 22 characters in the last page.
-/

namespace Cerradura

open CBuffer

/-! ## The code -/

/-- font6x8.inc -/
def font6x8 : List (List UInt8) := [
  [0x00, 0x00, 0x00, 0x00, 0x00, 0x00], [0x00, 0x00, 0x5F, 0x00, 0x00, 0x00],
  [0x00, 0x07, 0x00, 0x07, 0x00, 0x00], [0x14, 0x7F, 0x14, 0x7F, 0x14, 0x00],
  [0x24, 0x2A, 0x7F, 0x2A, 0x12, 0x00], [0x23, 0x13, 0x08, 0x64, 0x62, 0x00],
  [0x36, 0x49, 0x55, 0x22, 0x50, 0x00], [0x00, 0x05, 0x03, 0x00, 0x00, 0x00],
  [0x00, 0x1C, 0x22, 0x41, 0x00, 0x00], [0x00, 0x41, 0x22, 0x1C, 0x00, 0x00],
  [0x14, 0x08, 0x3E, 0x08, 0x14, 0x00], [0x08, 0x08, 0x3E, 0x08, 0x08, 0x00],
  [0x00, 0x50, 0x30, 0x00, 0x00, 0x00], [0x08, 0x08, 0x08, 0x08, 0x08, 0x00],
  [0x00, 0x60, 0x60, 0x00, 0x00, 0x00], [0x20, 0x10, 0x08, 0x04, 0x02, 0x00],
  [0x3E, 0x51, 0x49, 0x45, 0x3E, 0x00], [0x00, 0x42, 0x7F, 0x40, 0x00, 0x00],
  [0x42, 0x61, 0x51, 0x49, 0x46, 0x00], [0x21, 0x41, 0x45, 0x4B, 0x31, 0x00],
  [0x18, 0x14, 0x12, 0x7F, 0x10, 0x00], [0x27, 0x45, 0x45, 0x45, 0x39, 0x00],
  [0x3C, 0x4A, 0x49, 0x49, 0x30, 0x00], [0x01, 0x71, 0x09, 0x05, 0x03, 0x00],
  [0x36, 0x49, 0x49, 0x49, 0x36, 0x00], [0x06, 0x49, 0x49, 0x29, 0x1E, 0x00],
  [0x00, 0x36, 0x36, 0x00, 0x00, 0x00], [0x00, 0x56, 0x36, 0x00, 0x00, 0x00],
  [0x08, 0x14, 0x22, 0x41, 0x00, 0x00], [0x14, 0x14, 0x14, 0x14, 0x14, 0x00],
  [0x00, 0x41, 0x22, 0x14, 0x08, 0x00], [0x02, 0x01, 0x51, 0x09, 0x06, 0x00],
  [0x32, 0x49, 0x79, 0x41, 0x3E, 0x00], [0x7E, 0x11, 0x11, 0x11, 0x7E, 0x00],
  [0x7F, 0x49, 0x49, 0x49, 0x36, 0x00], [0x3E, 0x41, 0x41, 0x41, 0x22, 0x00],
  [0x7F, 0x41, 0x41, 0x22, 0x1C, 0x00], [0x7F, 0x49, 0x49, 0x49, 0x41, 0x00],
  [0x7F, 0x09, 0x09, 0x09, 0x01, 0x00], [0x3E, 0x41, 0x49, 0x49, 0x7A, 0x00],
  [0x7F, 0x08, 0x08, 0x08, 0x7F, 0x00], [0x00, 0x41, 0x7F, 0x41, 0x00, 0x00],
  [0x20, 0x40, 0x41, 0x3F, 0x01, 0x00], [0x7F, 0x08, 0x14, 0x22, 0x41, 0x00],
  [0x7F, 0x40, 0x40, 0x40, 0x40, 0x00], [0x7F, 0x02, 0x0C, 0x02, 0x7F, 0x00],
  [0x7F, 0x04, 0x08, 0x10, 0x7F, 0x00], [0x3E, 0x41, 0x41, 0x41, 0x3E, 0x00],
  [0x7F, 0x09, 0x09, 0x09, 0x06, 0x00], [0x3E, 0x41, 0x51, 0x21, 0x5E, 0x00],
  [0x7F, 0x09, 0x19, 0x29, 0x46, 0x00], [0x46, 0x49, 0x49, 0x49, 0x31, 0x00],
  [0x01, 0x01, 0x7F, 0x01, 0x01, 0x00], [0x3F, 0x40, 0x40, 0x40, 0x3F, 0x00],
  [0x1F, 0x20, 0x40, 0x20, 0x1F, 0x00], [0x3F, 0x40, 0x38, 0x40, 0x3F, 0x00],
  [0x63, 0x14, 0x08, 0x14, 0x63, 0x00], [0x07, 0x08, 0x70, 0x08, 0x07, 0x00],
  [0x61, 0x51, 0x49, 0x45, 0x43, 0x00], [0x00, 0x7F, 0x41, 0x41, 0x00, 0x00],
  [0x02, 0x04, 0x08, 0x10, 0x20, 0x00], [0x00, 0x41, 0x41, 0x7F, 0x00, 0x00],
  [0x04, 0x02, 0x01, 0x02, 0x04, 0x00], [0x40, 0x40, 0x40, 0x40, 0x40, 0x00],
  [0x00, 0x03, 0x05, 0x00, 0x00, 0x00], [0x20, 0x54, 0x54, 0x54, 0x78, 0x00],
  [0x7F, 0x48, 0x44, 0x44, 0x38, 0x00], [0x38, 0x44, 0x44, 0x44, 0x20, 0x00],
  [0x38, 0x44, 0x44, 0x48, 0x7F, 0x00], [0x38, 0x54, 0x54, 0x54, 0x18, 0x00],
  [0x08, 0x7E, 0x09, 0x01, 0x02, 0x00], [0x08, 0x54, 0x54, 0x54, 0x3C, 0x00],
  [0x7F, 0x08, 0x04, 0x04, 0x78, 0x00], [0x00, 0x44, 0x7D, 0x40, 0x00, 0x00],
  [0x20, 0x40, 0x44, 0x3D, 0x00, 0x00], [0x7F, 0x10, 0x28, 0x44, 0x00, 0x00],
  [0x00, 0x41, 0x7F, 0x40, 0x00, 0x00], [0x7C, 0x04, 0x18, 0x04, 0x78, 0x00],
  [0x7C, 0x08, 0x04, 0x04, 0x78, 0x00], [0x38, 0x44, 0x44, 0x44, 0x38, 0x00],
  [0x7C, 0x14, 0x14, 0x14, 0x08, 0x00], [0x08, 0x14, 0x14, 0x18, 0x7C, 0x00],
  [0x7C, 0x08, 0x04, 0x04, 0x08, 0x00], [0x48, 0x54, 0x54, 0x54, 0x20, 0x00],
  [0x04, 0x3F, 0x44, 0x40, 0x20, 0x00], [0x3C, 0x40, 0x40, 0x20, 0x7C, 0x00],
  [0x1C, 0x20, 0x40, 0x20, 0x1C, 0x00], [0x3C, 0x40, 0x30, 0x40, 0x3C, 0x00],
  [0x44, 0x28, 0x10, 0x28, 0x44, 0x00], [0x0C, 0x50, 0x50, 0x50, 0x3C, 0x00],
  [0x44, 0x64, 0x54, 0x4C, 0x44, 0x00], [0x00, 0x08, 0x36, 0x41, 0x00, 0x00],
  [0x00, 0x00, 0x7F, 0x00, 0x00, 0x00], [0x00, 0x41, 0x36, 0x08, 0x00, 0x00],
  [0x10, 0x08, 0x08, 0x10, 0x08, 0x00]]

/-- The image and the cursor. -/
structure Display where
  buffer : Vector UInt8 1024
  cursorX : UInt8
  cursorY : UInt8

/-- A C string, without its terminator. -/
def Cadena : Type := {str : List UInt8 // 0 ∉ str}

def Cadena.length (str : Cadena) : ℕ := str.val.length

def displaySetCursor (x y : UInt8) (d : Display) : Display := { d with cursorX := x, cursorY := y }

/-- `if(c < 32 || c > 126) c = '?'` -/
def imprimible (c : UInt8) : UInt8 := if c < 32 ∨ 126 < c then 0x3F else c

/-- The six columns of a character. A write outside `buffer` or a read outside
the font is `none`. -/
def pintaGlifo (c : UInt8) (d : Display) : Option (Vector UInt8 1024) := do
  let row ← font6x8[(imprimible c - 32).toNat]?
  (List.range 6).foldlM (fun buffer i => do
    put buffer (d.cursorX.toNat + (d.cursorY / 8).toNat * 128 + i) (← row[i]?)) d.buffer

def displayPrint : List UInt8 → Display → Option Display
  | [], d => some d
  | c :: str, d => do
    let buffer ← pintaGlifo c d
    displayPrint str { d with buffer := buffer, cursorX := d.cursorX + 6 }

def displayPrintAt (str : Cadena) (x y : UInt8) (d : Display) : Option Display :=
  displayPrint str.val (displaySetCursor x y d)

/-- `while(str[len]) len++`, `none` when `fuel` rounds are not enough. -/
def largo (str : Cadena) : ℕ → UInt8 → Option UInt8
  | 0, _ => none
  | fuel + 1, len => if str.val.getD len.toNat 0 ≠ 0 then largo str fuel (len + 1) else some len

/-- `(128 - (len * 6)) / 2`, or 0 if that is negative -/
def centrado (len : UInt8) : UInt8 :=
  let x : ℤ := (128 - (len.toNat : ℤ) * 6).tdiv 2
  UInt8.ofNat (if x < 0 then 0 else x).toNat

def displayPrintln (fuel : ℕ) (str : Cadena) (y : UInt8) (d : Display) : Option Display := do
  let len ← largo str fuel 0
  displayPrint str.val (displaySetCursor (centrado len) y d)

/-! ## The font -/

theorem font6x8_length : font6x8.length = 95 := by decide

theorem length_of_mem_font6x8 : ∀ row ∈ font6x8, row.length = 6 := by decide

/-- Every character has a glyph. -/
theorem imprimible_lt (c : UInt8) : (imprimible c - 32).toNat < 95 := by
  unfold imprimible
  split
  · decide
  · next h =>
    obtain ⟨hlo, hhi⟩ := not_or.mp h
    rw [UInt8.toNat_sub_of_le _ _ (UInt8.not_lt.mp hlo)]
    have hle : c.toNat ≤ 126 := UInt8.le_iff_toNat_le.mp (UInt8.not_lt.mp hhi)
    exact Nat.lt_of_le_of_lt (Nat.sub_le_sub_right hle 32) (by decide)

theorem exists_glifo (c : UInt8) :
    ∃ row, font6x8[(imprimible c - 32).toNat]? = some row ∧ row.length = 6 := by
  have hlt : (imprimible c - 32).toNat < font6x8.length := by
    rw [font6x8_length]
    exact imprimible_lt c
  exact ⟨_, List.getElem?_eq_getElem hlt, length_of_mem_font6x8 _ (List.getElem_mem hlt)⟩

/-! ## What is drawn inside the image -/

theorem pintaGlifo_isSome (c : UInt8) (d : Display) : (pintaGlifo c d).isSome ↔
    d.cursorX.toNat + (d.cursorY / 8).toNat * 128 + 6 ≤ 1024 := by
  obtain ⟨row, hrow, hlength⟩ := exists_glifo c
  rw [pintaGlifo, hrow, Option.bind_eq_bind, Option.bind_some,
    isSome_foldlM_put (by rw [hlength])]
  exact or_iff_right (by decide)

/-- The glyphs of `len` characters, from column `x` of a page on, are inside the
image. -/
def Dentro (x pagina len : ℕ) : Prop := ∀ k < len, (x + 6 * k) % 256 + pagina * 128 + 6 ≤ 1024

theorem dentro_succ {x pagina len : ℕ} (hx : x < 256) : Dentro x pagina (len + 1) ↔
    x + pagina * 128 + 6 ≤ 1024 ∧ Dentro ((x + 6) % 256) pagina len := by
  have hnext (k : ℕ) : (x + 6 * (k + 1)) % 256 = ((x + 6) % 256 + 6 * k) % 256 := by
    rw [Nat.mod_add_mod, Nat.mul_succ, Nat.add_right_comm, ← Nat.add_assoc]
  constructor
  · intro h
    refine ⟨?_, fun k hk => ?_⟩
    · simpa [Nat.mod_eq_of_lt hx] using h 0 (Nat.succ_pos len)
    · rw [← hnext]
      exact h (k + 1) (Nat.succ_lt_succ hk)
  · rintro ⟨h0, h⟩ k hk
    cases k with
    | zero => simpa [Nat.mod_eq_of_lt hx] using h0
    | succ k =>
      rw [hnext]
      exact h k (Nat.lt_of_succ_lt_succ hk)

/-- A string is drawn exactly if each of its glyphs is inside the image. -/
theorem displayPrint_isSome (str : List UInt8) (d : Display) : (displayPrint str d).isSome ↔
    Dentro d.cursorX.toNat (d.cursorY.toNat / 8) str.length := by
  induction str generalizing d with
  | nil => exact ⟨fun _ _ hk => absurd hk (Nat.not_lt_zero _), fun _ => rfl⟩
  | cons c str ih =>
    rw [List.length_cons, dentro_succ d.cursorX.toNat_lt, displayPrint]
    have hglifo := pintaGlifo_isSome c d
    rw [show (d.cursorY / 8).toNat = d.cursorY.toNat / 8 from UInt8.toNat_div _ _] at hglifo
    rw [← hglifo]
    cases hpinta : pintaGlifo c d with
    | none => exact ⟨nofun, fun h => absurd h.1 Bool.false_ne_true⟩
    | some buffer =>
      rw [Option.bind_eq_bind, Option.bind_some, ih]
      exact (and_iff_right rfl).symm

theorem displayPrintAt_isSome (str : Cadena) (x y : UInt8) (d : Display) :
    (displayPrintAt str x y d).isSome ↔ Dentro x.toNat (y.toNat / 8) str.length :=
  displayPrint_isSome str.val (displaySetCursor x y d)

/-! ## Columns -/

variable {x len : ℕ}

/-- Up to the sixth page a column that wraps is still in the image. -/
theorem dentro_arriba {pagina : ℕ} (h : pagina < 6) : Dentro x pagina len := by
  intro k _
  have hlt : (x + 6 * k) % 256 < 256 := Nat.mod_lt _ (by decide)
  omega

/-- In the page before the last one the last five columns of the cursor are
outside, and a cursor that is a multiple of six from 256 misses them once. -/
theorem dentro_penultima (hx : x < 128) :
    Dentro x 6 len ↔ x + 6 * len ≤ 256 ∨ x % 6 = 4 ∧ x + 6 * len ≤ 508 := by
  constructor
  · intro h
    by_contra hno
    obtain ⟨h256, h508⟩ := not_or.mp hno
    by_cases h4 : x % 6 = 4
    · have hk := h ((508 - x) / 6) (by omega)
      omega
    · have hk := h ((256 - x) / 6) (by omega)
      omega
  · rintro (h | ⟨h4, h⟩) k hk
    · omega
    · rcases Nat.lt_or_ge (x + 6 * k) 256 with hlow | hwrap
      · rw [Nat.mod_eq_of_lt hlow]
        omega
      · rw [Nat.mod_eq_sub_mod hwrap, Nat.mod_eq_of_lt (by omega)]
        omega

theorem dentro_ultima (hx : x < 128) : Dentro x 7 len ↔ x + 6 * len ≤ 128 := by
  constructor
  · intro h
    by_contra hno
    have hk := h ((128 - x) / 6) (by omega)
    omega
  · intro h k hk
    omega

/-- The three kinds of page. -/
theorem dentro_iff {y : ℕ} (hx : x < 128) (hy : y ≤ 63) : Dentro x (y / 8) len ↔
    y < 48 ∨ y < 56 ∧ (x + 6 * len ≤ 256 ∨ x % 6 = 4 ∧ x + 6 * len ≤ 508) ∨
      x + 6 * len ≤ 128 := by
  rcases Nat.lt_or_ge y 48 with h48 | h48
  · exact iff_of_true (dentro_arriba (Nat.div_lt_of_lt_mul h48)) (.inl h48)
  rcases Nat.lt_or_ge y 56 with h56 | h56
  · have hpagina : y / 8 = 6 := by omega
    rw [hpagina, dentro_penultima hx]
    omega
  · have hpagina : y / 8 = 7 := by omega
    rw [hpagina, dentro_ultima hx]
    omega

/-! ## The length of a string -/

theorem Cadena.getD_ne_zero (str : Cadena) {i : ℕ} (hi : i < str.length) :
    str.val.getD i 0 ≠ 0 := by
  intro h0
  have hmem : str.val.getD i 0 ∈ str.val := by
    rw [List.getD_eq_getElem?_getD, List.getElem?_eq_getElem hi]
    exact List.getElem_mem hi
  rw [h0] at hmem
  exact str.property hmem

/-- A length that fits is found when there are rounds enough. -/
theorem largo_eq (str : Cadena) (hlength : str.length ≤ 255) (fuel : ℕ) {len : UInt8}
    (hlen : len.toNat ≤ str.length) : largo str fuel len =
      if str.length - len.toNat < fuel then some str.length.toUInt8 else none := by
  induction fuel generalizing len with
  | zero => exact (if_neg (Nat.not_lt_zero _)).symm
  | succ fuel ih =>
    rw [largo]
    rcases Nat.eq_or_lt_of_le hlen with heq | hlt
    · have hfin : str.val.getD len.toNat 0 = 0 := by
        rw [List.getD_eq_getElem?_getD, List.getElem?_eq_none (Nat.le_of_eq heq.symm)]
        rfl
      rw [if_neg (not_not.mpr hfin), heq, Nat.sub_self, if_pos (Nat.succ_pos fuel), ← heq]
      exact congrArg some (UInt8.ofNat_toNat).symm
    · have hnext : (len + 1).toNat = len.toNat + 1 :=
        (UInt8.toNat_add len 1).trans (Nat.mod_eq_of_lt (Nat.lt_of_le_of_lt hlt (by omega)))
      rw [if_pos (str.getD_ne_zero hlt), ih (by omega), hnext]
      exact if_congr (by omega) rfl rfl

theorem largo_zero (str : Cadena) (hlength : str.length ≤ 255) (fuel : ℕ) : largo str fuel 0 =
    if str.length < fuel then some str.length.toUInt8 else none :=
  largo_eq str hlength fuel (Nat.zero_le _)

/-- A longer one never is: the eight bits wrap before the terminator. -/
theorem largo_none (str : Cadena) (hlength : 256 ≤ str.length) (fuel : ℕ) (len : UInt8) :
    largo str fuel len = none := by
  induction fuel generalizing len with
  | zero => rfl
  | succ fuel ih =>
    have hlt : len.toNat < str.length := Nat.lt_of_lt_of_le len.toNat_lt hlength
    rw [largo, if_pos (str.getD_ne_zero hlt), ih]

theorem centrado_toNat {n : ℕ} (hn : n ≤ 255) :
    (centrado n.toUInt8).toNat = if n ≤ 21 then 64 - 3 * n else 0 := by
  have hval : n.toUInt8.toNat = n := Nat.mod_eq_of_lt (Nat.lt_succ_of_le hn)
  have heven : 128 - (n : ℤ) * 6 = 2 * (64 - 3 * n) := by omega
  have hx : (128 - (n : ℤ) * 6).tdiv 2 = 64 - 3 * n := by
    rw [heven]
    exact Int.mul_tdiv_cancel_left _ (by decide)
  rw [centrado, hval, hx]
  rw [UInt8.toNat_ofNat']
  split <;> split <;> omega

theorem displayPrintln_eq {fuel : ℕ} {str : Cadena} {len : UInt8} (y : UInt8) (d : Display)
    (h : largo str fuel 0 = some len) :
    displayPrintln fuel str y d = displayPrintAt str (centrado len) y d := by
  rw [displayPrintln, h]
  rfl

theorem displayPrintln_iff (str : Cadena) (y : UInt8) (d : Display) :
    (∃ fuel, (displayPrintln fuel str y d).isSome) ↔ str.length ≤ 255 ∧
      Dentro (centrado str.length.toUInt8).toNat (y.toNat / 8) str.length := by
  constructor
  · rintro ⟨fuel, h⟩
    rcases Nat.lt_or_ge str.length 256 with hshort | hlong
    · have hlength : str.length ≤ 255 := Nat.le_of_lt_succ hshort
      have hlargo := largo_zero str hlength fuel
      split at hlargo
      · rw [displayPrintln_eq y d hlargo, displayPrintAt_isSome] at h
        exact ⟨hlength, h⟩
      · rw [displayPrintln, hlargo] at h
        cases h
    · rw [displayPrintln, largo_none str hlong] at h
      cases h
  · rintro ⟨hlength, hdentro⟩
    have hlargo := largo_zero str hlength (str.length + 1)
    rw [if_pos (Nat.lt_succ_self _)] at hlargo
    refine ⟨str.length + 1, ?_⟩
    rw [displayPrintln_eq y d hlargo, displayPrintAt_isSome]
    exact hdentro

/-! ## The image -/

/-- For every string, row and column: `display_println` and `display_printAt` end
and stay inside the font and the image exactly in these cases. -/
theorem display_iff (str : Cadena) (d : Display) {y : UInt8} (hy : y.toNat ≤ 63) :
    ((∃ fuel, (displayPrintln fuel str y d).isSome) ↔
      str.length ≤ 21 ∨ str.length ≤ 42 ∧ y.toNat < 56 ∨ str.length ≤ 255 ∧ y.toNat < 48) ∧
    ∀ x : UInt8, x.toNat ≤ 127 → ((displayPrintAt str x y d).isSome ↔
      y.toNat < 48 ∨
      y.toNat < 56 ∧ (x.toNat + 6 * str.length ≤ 256 ∨
        x.toNat % 6 = 4 ∧ x.toNat + 6 * str.length ≤ 508) ∨
      x.toNat + 6 * str.length ≤ 128) := by
  refine ⟨?_, fun x hx => ?_⟩
  · rw [displayPrintln_iff]
    constructor
    · rintro ⟨hlength, hdentro⟩
      rw [centrado_toNat hlength, dentro_iff (by split <;> omega) hy] at hdentro
      split at hdentro <;> omega
    · intro h
      have hlength : str.length ≤ 255 := by omega
      refine ⟨hlength, ?_⟩
      rw [centrado_toNat hlength, dentro_iff (by split <;> omega) hy]
      split <;> omega
  · rw [displayPrintAt_isSome]
    exact dentro_iff (Nat.lt_succ_of_le hx) hy

/-- An image without anything on it. -/
def displayVacio : Display := ⟨.replicate 1024 0, 0, 0⟩

/-- HOLA -/
def hola : Cadena := ⟨[0x48, 0x4F, 0x4C, 0x41], by decide⟩

theorem display_hola : (∃ fuel, (displayPrintln fuel hola 60 displayVacio).isSome) ∧
    (displayPrintAt hola 100 60 displayVacio).isSome := by
  obtain ⟨hprintln, hprintAt⟩ := display_iff hola displayVacio (y := 60) (by decide)
  exact ⟨hprintln.mpr (.inl (by decide)),
    (hprintAt 100 (by decide)).mpr (.inr (.inr (by decide)))⟩

/-- 22 characters -/
def ancha : Cadena := ⟨.replicate 22 0x41, by decide⟩

/-- The last glyph ends past the last column of the last page. -/
theorem display_falla : ¬ ∀ (str : Cadena) (d : Display) (y : UInt8), y.toNat ≤ 63 →
    (∃ fuel, (displayPrintln fuel str y d).isSome) ∧
      ∀ x : UInt8, x.toNat ≤ 127 → (displayPrintAt str x y d).isSome := by
  intro h
  obtain ⟨hprintln, -⟩ := h ancha displayVacio 56 (by decide)
  obtain ⟨-, hdentro⟩ := (displayPrintln_iff ancha 56 displayVacio).mp hprintln
  exact absurd (hdentro 21 (by decide)) (by decide)

end Cerradura
