import Cerradura.EspAT

/-!
# The reply to AT+RESTORE

`resetearCredencialesESP` looks for an OK at each position below `n - 3`. The
difference is unsigned, and the last position where an OK fits is `n - 3`.

Results:
1. `restoreOK_iff`: when the search stays inside the reply and tells whether
   there is an OK in it.
2. `restoreOK_corta`, `restoreOK_cortada`: a reply that is too short, and one
   that ends in its OK.
-/

namespace Cerradura

/-! ## The code -/

/-- What stands in memory from `resp` on: the reply, its terminator and whatever
comes after them. -/
def memoria (resp : List UInt8) (resto : ℕ → UInt8) (i : ℕ) : UInt8 :=
  (resp ++ [0]).getD i (resto i)

/-- The condition of the loop at `i`, and the positions that it reads. -/
def comparaOK (mem : ℕ → UInt8) (i : ℕ) : List ℕ × Bool :=
  if mem i = 0x4F then
    if mem (i + 1) = 0x4B then ([i, i + 1, i + 2], mem (i + 2) = 0x0D || mem (i + 2) = 0x0A)
    else ([i, i + 1], false)
  else ([i], false)

/-- The loop from `i` on: the positions read, and `foundOK`. -/
def buscaOK (mem : ℕ → UInt8) (fin i : ℕ) : List ℕ × Bool :=
  if i < fin then
    if (comparaOK mem i).2 then ((comparaOK mem i).1, true)
    else ((comparaOK mem i).1 ++ (buscaOK mem fin (i + 1)).1, (buscaOK mem fin (i + 1)).2)
  else ([], false)
termination_by fin - i

/-- The search of `resetearCredencialesESP`. `size_t` has 32 bits. -/
def restoreOK (resp : List UInt8) (resto : ℕ → UInt8) : List ℕ × Bool :=
  let n : UInt32 := resp.length.toUInt32
  if 0 < n then buscaOK (memoria resp resto) (n - 3).toNat 0 else ([], false)

/-! ## The loop -/

section Bucle

variable {mem : ℕ → UInt8} {fin i p : ℕ}

def CoincideOK (mem : ℕ → UInt8) (i : ℕ) : Prop :=
  mem i = 0x4F ∧ mem (i + 1) = 0x4B ∧ (mem (i + 2) = 0x0D ∨ mem (i + 2) = 0x0A)

theorem comparaOK_iff : (comparaOK mem i).2 = true ↔ CoincideOK mem i := by
  unfold comparaOK CoincideOK
  split
  · split <;> simp_all
  · simp_all

theorem mem_comparaOK : i ∈ (comparaOK mem i).1 := by
  unfold comparaOK
  split
  · split <;> exact List.mem_cons_self
  · exact List.mem_cons_self

theorem le_of_mem_comparaOK (h : p ∈ (comparaOK mem i).1) : p ≤ i + 2 := by
  have hall : ∀ q ∈ [i, i + 1, i + 2], q ≤ i + 2 := by simp
  unfold comparaOK at h
  split at h
  · split at h
    · exact hall p h
    · exact hall p (List.mem_of_mem_take (i := 2) h)
  · exact hall p (List.mem_of_mem_take (i := 1) h)

/-- A match is read to its end. -/
theorem CoincideOK.mem_comparaOK (h : CoincideOK mem i) : i + 2 ∈ (comparaOK mem i).1 := by
  rw [comparaOK, if_pos h.1, if_pos h.2.1]
  simp

theorem buscaOK_iff :
    (buscaOK mem fin i).2 = true ↔ ∃ j, i ≤ j ∧ j < fin ∧ CoincideOK mem j := by
  fun_induction buscaOK mem fin i with
  | case1 i hlt hok => exact ⟨fun _ => ⟨i, Nat.le_refl i, hlt, comparaOK_iff.mp hok⟩, fun _ => rfl⟩
  | case2 i hlt hok ih =>
    rw [ih]
    constructor
    · rintro ⟨j, hij, hj⟩
      exact ⟨j, Nat.le_of_succ_le hij, hj⟩
    · rintro ⟨j, hij, hj, hcoincide⟩
      refine ⟨j, Nat.lt_of_le_of_ne hij ?_, hj, hcoincide⟩
      rintro rfl
      exact hok (comparaOK_iff.mpr hcoincide)
  | case3 i hge =>
    constructor
    · exact nofun
    · rintro ⟨j, hij, hj, -⟩
      exact absurd (Nat.lt_of_le_of_lt hij hj) hge

/-- Up to two positions past the bound are read. -/
theorem lt_of_mem_buscaOK (h : p ∈ (buscaOK mem fin i).1) : p < fin + 2 := by
  fun_induction buscaOK mem fin i with
  | case1 i hlt hok => exact Nat.lt_of_le_of_lt (le_of_mem_comparaOK h) (Nat.add_lt_add_right hlt 2)
  | case2 i hlt hok ih =>
    rcases List.mem_append.mp h with h | h
    · exact Nat.lt_of_le_of_lt (le_of_mem_comparaOK h) (Nat.add_lt_add_right hlt 2)
    · exact ih h
  | case3 i hge => exact absurd h List.not_mem_nil

/-- A position below the bound is read, unless a match before it ends the loop. -/
theorem mem_buscaOK (hip : i ≤ p) (hp : p < fin) :
    p ∈ (buscaOK mem fin i).1 ∨ ∃ j, i ≤ j ∧ j < p ∧ j + 2 ∈ (buscaOK mem fin i).1 := by
  fun_induction buscaOK mem fin i with
  | case1 i hlt hok =>
    rcases Nat.eq_or_lt_of_le hip with rfl | hlt
    · exact .inl mem_comparaOK
    · exact .inr ⟨i, Nat.le_refl i, hlt, (comparaOK_iff.mp hok).mem_comparaOK⟩
  | case2 i hlt hok ih =>
    rcases Nat.eq_or_lt_of_le hip with rfl | hlt
    · exact .inl (List.mem_append_left _ mem_comparaOK)
    · rcases ih hlt with h | ⟨j, hij, hjp, h⟩
      · exact .inl (List.mem_append_right _ h)
      · exact .inr ⟨j, Nat.le_of_succ_le hij, hjp, List.mem_append_right _ h⟩
  | case3 i hge => exact absurd (Nat.lt_of_le_of_lt hip hp) hge

end Bucle

/-! ## The reply -/

variable {resp : List UInt8} {resto : ℕ → UInt8}

def FinDeLinea (c : UInt8) : Prop := c = 0x0D ∨ c = 0x0A

/-- OK and a carriage return or a line feed. -/
def TieneOK (resp : List UInt8) : Prop := ∃ c, FinDeLinea c ∧ [0x4F, 0x4B, c] <:+: resp

def AcabaEnOK (resp : List UInt8) : Prop := ∃ c, FinDeLinea c ∧ [0x4F, 0x4B, c] <:+ resp

theorem getElem?_eq_memoria {i : ℕ} (hi : i < resp.length) :
    resp[i]? = some (memoria resp resto i) := by
  rw [memoria, List.getD_eq_getElem?_getD, List.getElem?_append_left hi,
    List.getElem?_eq_getElem hi]
  rfl

/-- An OK in the first `m` bytes. -/
theorem tieneOK_take (resto : ℕ → UInt8) {m : ℕ} (hm : m ≤ resp.length) :
    TieneOK (resp.take m) ↔ ∃ j, j + 2 < m ∧ CoincideOK (memoria resp resto) j := by
  have hget : ∀ i, i < m → (resp.take m)[i]? = some (memoria resp resto i) := fun i hi => by
    rw [List.getElem?_take_of_lt hi, getElem?_eq_memoria (Nat.lt_of_lt_of_le hi hm)]
  constructor
  · rintro ⟨c, hc, hinfix⟩
    obtain ⟨j, hj, hletras⟩ := List.infix_iff_getElem?.mp hinfix
    have hjm : j + 2 < m := by
      rw [List.length_take_of_le hm] at hj
      exact Nat.lt_of_succ_le (Nat.le_trans (Nat.le_of_eq (Nat.add_comm j 3)) hj)
    have hO := hletras 0 (Nat.zero_lt_succ 2)
    have hK := hletras 1 (Nat.one_lt_succ_succ 1)
    have hfin := hletras 2 (Nat.lt_succ_self 2)
    rw [hget _ (by omega)] at hO hK hfin
    rw [Nat.zero_add] at hO
    rw [Nat.add_comm 1 j] at hK
    rw [Nat.add_comm 2 j] at hfin
    refine ⟨j, hjm, Option.some.inj hO, Option.some.inj hK, ?_⟩
    rw [show memoria resp resto (j + 2) = c from Option.some.inj hfin]
    exact hc
  · rintro ⟨j, hjm, hO, hK, hc⟩
    refine ⟨_, hc, List.infix_iff_getElem?.mpr ⟨j, ?_, ?_⟩⟩
    · rw [List.length_take_of_le hm]
      exact Nat.le_trans (Nat.le_of_eq (Nat.add_comm 3 j)) hjm
    · intro i hi
      have hi3 : i < 3 := hi
      rw [hget _ (by omega)]
      match i, hi with
      | 0, _ => rw [Nat.zero_add, hO]; rfl
      | 1, _ => rw [Nat.add_comm, hK]; rfl
      | 2, _ => rw [Nat.add_comm]; rfl

/-- The last OK is the end of the reply. -/
theorem tieneOK_iff_dropLast : TieneOK resp ↔ AcabaEnOK resp ∨ TieneOK resp.dropLast := by
  rcases List.eq_nil_or_concat resp with rfl | ⟨bs, b, rfl⟩
  · simp [TieneOK, AcabaEnOK]
  · rw [List.concat_eq_append, List.dropLast_concat]
    simp only [TieneOK, AcabaEnOK, List.infix_concat_iff, and_or_left, exists_or]

/-! ## The search -/

theorem longitud_toNat (hlen : resp.length ≤ 511) : resp.length.toUInt32.toNat = resp.length :=
  Nat.mod_eq_of_lt (Nat.lt_of_le_of_lt hlen (by decide))

theorem restoreOK_eq (hlen : resp.length ≤ 511) (hpos : 0 < resp.length) :
    restoreOK resp resto =
      buscaOK (memoria resp resto) ((2 ^ 32 - 3 + resp.length) % 2 ^ 32) 0 := by
  have hn : 0 < resp.length.toUInt32 := by
    rw [UInt32.lt_iff_toNat_lt, longitud_toNat hlen]
    exact hpos
  unfold restoreOK
  rw [if_pos hn, UInt32.toNat_sub, longitud_toNat hlen]
  rfl

theorem restoreOK_eq_of_le (hlen : resp.length ≤ 511) (h3 : 3 ≤ resp.length) :
    restoreOK resp resto = buscaOK (memoria resp resto) (resp.length - 3) 0 := by
  have hfin : (2 ^ 32 - 3 + resp.length) % 2 ^ 32 = resp.length - 3 := by omega
  rw [restoreOK_eq hlen (Nat.lt_of_lt_of_le (by decide) h3), hfin]

/-- The bound of a short reply is no bound. -/
theorem restoreOK_corta (resto : ℕ → UInt8) (hpos : 0 < resp.length) (hcorta : resp.length < 3) :
    ∃ p ∈ (restoreOK resp resto).1, resp.length ≤ p := by
  rw [restoreOK_eq (by omega) hpos]
  have hbound : resp.length < (2 ^ 32 - 3 + resp.length) % 2 ^ 32 := by omega
  rcases mem_buscaOK (Nat.zero_le resp.length) hbound with h | ⟨j, -, -, h⟩
  · exact ⟨_, h, Nat.le_refl _⟩
  · exact ⟨_, h, by omega⟩

/-- A longer reply is searched up to its last byte but one. -/
theorem restoreOK_larga (resto : ℕ → UInt8) (hlen : resp.length ≤ 511)
    (h3 : 3 ≤ resp.length) :
    (∀ p ∈ (restoreOK resp resto).1, p < resp.length) ∧
      ((restoreOK resp resto).2 = true ↔ TieneOK resp.dropLast) := by
  rw [restoreOK_eq_of_le hlen h3]
  refine ⟨fun p hp => ?_, ?_⟩
  · have hlt := lt_of_mem_buscaOK hp
    omega
  · rw [buscaOK_iff, List.dropLast_eq_take, tieneOK_take resto (Nat.sub_le _ 1)]
    constructor
    · rintro ⟨j, -, hj, hcoincide⟩
      exact ⟨j, by omega, hcoincide⟩
    · rintro ⟨j, hj, hcoincide⟩
      exact ⟨j, Nat.zero_le j, by omega, hcoincide⟩

/-- From three bytes on `buscarOK` is this search. -/
theorem restoreOK_eq_buscarOK (hlen : resp.length ≤ 511) (h3 : 3 ≤ resp.length) :
    (restoreOK resp resto).2 = buscarOK resp := by
  have hcoincide : ∀ i, i < resp.length - 3 → (CoincideOK (memoria resp resto) i ↔
      resp[i]? = some 0x4F ∧ resp[i + 1]? = some 0x4B ∧
        (resp[i + 2]? = some 0x0D ∨ resp[i + 2]? = some 0x0A)) := by
    intro i hi
    have hget : ∀ k, k ≤ 2 → resp[i + k]? = some (memoria resp resto (i + k)) := fun k hk =>
      getElem?_eq_memoria (by omega)
    rw [show resp[i]? = _ from hget 0 (by decide), hget 1 (by decide), hget 2 (by decide)]
    simp only [CoincideOK, Option.some.injEq, Nat.add_zero]
  rw [Bool.eq_iff_iff, restoreOK_eq_of_le hlen h3, buscaOK_iff]
  simp only [buscarOK, List.any_eq_true, List.mem_range, decide_eq_true_eq]
  constructor
  · rintro ⟨i, -, hi, h⟩
    exact ⟨i, hi, (hcoincide i hi).mp h⟩
  · rintro ⟨i, hi, h⟩
    exact ⟨i, Nat.zero_le i, hi, (hcoincide i hi).mpr h⟩

/-- For every reply and whatever comes after it in memory. -/
theorem restoreOK_iff (resp : List UInt8) (resto : ℕ → UInt8) (hlen : resp.length ≤ 511) :
    ((∀ p ∈ (restoreOK resp resto).1, p < resp.length) ∧
        ((restoreOK resp resto).2 = true ↔ TieneOK resp)) ↔
      resp.length = 0 ∨
        3 ≤ resp.length ∧ ¬ (AcabaEnOK resp ∧ ¬ TieneOK resp.dropLast) := by
  rcases Nat.eq_zero_or_pos resp.length with hnil | hpos
  · obtain rfl := List.eq_nil_of_length_eq_zero hnil
    simp [restoreOK, TieneOK]
  rcases Nat.lt_or_ge resp.length 3 with hcorta | hlarga
  · obtain ⟨p, hp, hfuera⟩ := restoreOK_corta resto hpos hcorta
    constructor
    · rintro ⟨hsafe, -⟩
      exact absurd (hsafe p hp) (Nat.not_lt.mpr hfuera)
    · rintro (hnil | ⟨h3, -⟩)
      · exact absurd hnil (Nat.ne_of_gt hpos)
      · exact absurd h3 (Nat.not_le.mpr hcorta)
  · obtain ⟨hsafe, hfound⟩ := restoreOK_larga resto hlen hlarga
    rw [hfound, @tieneOK_iff_dropLast resp]
    constructor
    · rintro ⟨-, hiff⟩
      exact .inr ⟨hlarga, fun ⟨hacaba, hno⟩ => hno (hiff.mpr (.inl hacaba))⟩
    · rintro (hnil | ⟨-, hno⟩)
      · exact absurd hnil (Nat.ne_of_gt hpos)
      · refine ⟨hsafe, .inr, ?_⟩
        rintro (hacaba | htiene)
        · exact Classical.byContradiction fun h => hno ⟨hacaba, h⟩
        · exact htiene

theorem restoreOK_ok :
    (∀ p ∈ (restoreOK (ascii "\r\nOK\r\n") fun _ => 0).1, p < 6) ∧
      ((restoreOK (ascii "\r\nOK\r\n") fun _ => 0).2 = true ↔ TieneOK (ascii "\r\nOK\r\n")) :=
  (restoreOK_iff (ascii "\r\nOK\r\n") (fun _ => 0) (by decide)).mpr
    (.inr ⟨by decide, fun h => h.2 ⟨0x0D, .inl rfl, ascii "\r\n", [], by decide⟩⟩)

/-- A reply that has arrived up to its OK and the carriage return. -/
theorem restoreOK_cortada : ¬ ∀ (resp : List UInt8) (resto : ℕ → UInt8), resp.length ≤ 511 →
    (∀ p ∈ (restoreOK resp resto).1, p < resp.length) ∧
      ((restoreOK resp resto).2 = true ↔ TieneOK resp) := by
  intro h
  obtain ⟨-, hfound⟩ := h (ascii "OK\r") (fun _ => 0) (by decide)
  have htrue := hfound.mpr ⟨0x0D, .inl rfl, [], [], by decide⟩
  rw [restoreOK_eq (by decide) (by decide), buscaOK_iff] at htrue
  obtain ⟨j, -, hj, -⟩ := htrue
  exact absurd hj (Nat.not_lt_zero j)

end Cerradura
