import Cerradura.Huellas

/-!
# The id of a new fingerprint

`obtenerHuellaAsignadaPorPin` gives a user without a fingerprint the lowest
number whose four-digit text no active record has. The table has fewer other
records than it has places, so such a number is found within `maxPins`.

The ids of the table are texts, and the sensor is addressed by number. Two
texts can stand for one number, and the server takes any text for an id.

Results:
1. `id_libre`: the id of a user without one, for every table.
2. `noPisa_iff`: the enrolment of a user spares the slots of the others in
   exactly the tables of `SinChoque`. `pisa_ajena` is one that it does not spare.
3. `Concuerda.sinChoque`: the ids of the firmware itself never collide.
-/

namespace Cerradura

open ListaPins

/-! ## The search -/

theorem any_iff_find? {pins : List PinUsuario} {q : PinUsuario → Bool} :
    pins.any q = true ↔ ∃ u, pins.find? q = some u := by
  rw [List.any_eq_true, ← Option.isSome_iff_exists, List.find?_isSome]

theorem huellaEnUso_iff {lista : ListaPins} {s : List UInt8} : huellaEnUso lista s = true ↔
    ∃ u ∈ lista.pins, u.activo = true ∧ u.huella.bytes = s := by
  simp only [huellaEnUso, List.any_eq_true, Bool.and_eq_true, decide_eq_true_eq]

/-- Every number below `n` is in use, and `n` is not. -/
structure MenorLibre (lista : ListaPins) (i n : ℕ) : Prop where
  desde : i ≤ n
  libre : huellaEnUso lista (sprintf04 n) = false
  menores : ∀ m, i ≤ m → m < n → huellaEnUso lista (sprintf04 m) = true

/-- The outer loop: what it has passed is in use. -/
theorem buscarIdLibre_iff {lista : ListaPins} {fuel i n : ℕ} :
    buscarIdLibre lista fuel i = some n ↔ MenorLibre lista i n ∧ n < i + fuel := by
  induction fuel generalizing i with
  | zero =>
    constructor
    · intro h
      cases h
    · rintro ⟨h, hlt⟩
      exact absurd h.desde (Nat.not_le_of_lt hlt)
  | succ fuel ih =>
    unfold buscarIdLibre
    split_ifs with huso
    · rw [ih]
      constructor
      · rintro ⟨h, hlt⟩
        refine ⟨⟨Nat.le_of_succ_le h.desde, h.libre, fun m hi hm => ?_⟩, by omega⟩
        rcases Nat.eq_or_lt_of_le hi with rfl | hi
        · exact huso
        · exact h.menores m hi hm
      · rintro ⟨h, hlt⟩
        have hne : i ≠ n := by
          rintro rfl
          exact absurd huso (ne_true_of_eq_false h.libre)
        exact ⟨⟨Nat.lt_of_le_of_ne h.desde hne, h.libre,
          fun m hi hm => h.menores m (Nat.le_of_succ_le hi) hm⟩, by omega⟩
    · rw [Option.some.injEq]
      constructor
      · rintro rfl
        exact ⟨⟨le_rfl, eq_false_of_ne_true huso, fun m hi hm => absurd hm (Nat.not_lt_of_le hi)⟩,
          Nat.lt_add_of_pos_right (Nat.succ_pos fuel)⟩
      · rintro ⟨h, -⟩
        refine Nat.le_antisymm h.desde (Nat.le_of_not_lt fun hlt => huso (h.menores i le_rfl hlt))

theorem MenorLibre.unico {lista : ListaPins} {i m n : ℕ} (hm : MenorLibre lista i m)
    (hn : MenorLibre lista i n) : m = n := by
  rcases Nat.lt_trichotomy m n with hlt | rfl | hgt
  · exact absurd (hn.menores m hm.desde hlt) (ne_true_of_eq_false hm.libre)
  · rfl
  · exact absurd (hm.menores n hn.desde hgt) (ne_true_of_eq_false hn.libre)

/-- The numbers that a table of `maxPins` records, one of them without an id,
cannot all have. -/
theorem exists_libre {lista : ListaPins} {u : PinUsuario} (hu : u ∈ lista.pins)
    (hvacia : u.huella.bytes = []) :
    ∃ n, 1 ≤ n ∧ n ≤ maxPins ∧ huellaEnUso lista (sprintf04 n) = false := by
  by_contra hnone
  have huso : ∀ n, 1 ≤ n → n ≤ maxPins → huellaEnUso lista (sprintf04 n) = true := by
    intro n h1 hmax
    by_contra hlibre
    exact hnone ⟨n, h1, hmax, eq_false_of_ne_true hlibre⟩
  -- the empty text and those of the numbers are one more than the records
  let textos := [] :: (List.range' 1 maxPins).map sprintf04
  have hdistintos : textos.Nodup := by
    refine List.nodup_cons.mpr
      ⟨fun hmem => ?_, List.Nodup.map sprintf04_injective List.nodup_range'⟩
    obtain ⟨n, -, hn⟩ := List.mem_map.mp hmem
    exact sprintf04_ne_nil n hn
  have htodos : textos ⊆ lista.pins.map (·.huella.bytes) := by
    intro s hs
    rcases List.mem_cons.mp hs with rfl | hs
    · exact List.mem_map.mpr ⟨u, hu, hvacia⟩
    · obtain ⟨n, hn, rfl⟩ := List.mem_map.mp hs
      have hrango := List.mem_range'_1.mp hn
      obtain ⟨v, hv, -, heq⟩ := huellaEnUso_iff.mp (huso n hrango.1 (by omega))
      exact List.mem_map.mpr ⟨v, hv, heq⟩
  have hlen := hdistintos.length_le_of_subset htodos
  rw [List.length_cons, List.length_map, List.length_range', List.length_map, lista.size] at hlen
  exact absurd hlen (Nat.not_succ_le_self maxPins)

/-- The least number that is free, of those from 1 on. -/
theorem exists_menorLibre {lista : ListaPins} {u : PinUsuario} (hu : u ∈ lista.pins)
    (hvacia : u.huella.bytes = []) : ∃ n, n ≤ maxPins ∧ MenorLibre lista 1 n := by
  have hexists := exists_libre hu hvacia
  let p := fun n => 1 ≤ n ∧ n ≤ maxPins ∧ huellaEnUso lista (sprintf04 n) = false
  obtain ⟨h1, hmax, hlibre⟩ := Nat.find_spec (p := p) hexists
  refine ⟨Nat.find (p := p) hexists, hmax, h1, hlibre, fun m hm hlt => ?_⟩
  by_contra hfalse
  exact Nat.find_min (p := p) hexists hlt
    ⟨hm, (Nat.le_of_lt hlt).trans hmax, eq_false_of_ne_true hfalse⟩

/-- What a user without a fingerprint gets. -/
theorem obtenerHuella_vacia {lista : ListaPins} {pin : List UInt8} {u : PinUsuario}
    (hfind : lista.pins.find? (conPin pin) = some u) (hvacia : u.huella.bytes = []) {n : ℕ}
    (hn : MenorLibre lista 1 n) (hmax : n ≤ maxPins) :
    obtenerHuellaAsignadaPorPin lista pin = some (sprintf04 n) := by
  have hbuscar : buscarIdLibre lista (maxPins + 1) 1 = some n :=
    buscarIdLibre_iff.mpr ⟨hn, by omega⟩
  unfold obtenerHuellaAsignadaPorPin
  rw [hfind, Option.bind_some, hvacia, hbuscar]
  rfl

/-- The search for the id of a user without a fingerprint ends. Its result is
the lowest number whose text no active record has, and both the buffers and
`as608EnrollAtId` take it. -/
theorem id_libre {lista : ListaPins} {pin : List UInt8} {u : PinUsuario}
    (hfind : lista.pins.find? (conPin pin) = some u) (hvacia : u.huella.bytes = []) :
    ∃ k, 1 ≤ k ∧ k ≤ maxPins ∧
      (∀ fuel, k ≤ fuel → buscarIdLibre lista fuel 1 = some k) ∧
      obtenerHuellaAsignadaPorPin lista pin = some (sprintf04 k) ∧
      huellaEnUso lista (sprintf04 k) = false ∧
      (∀ m, 1 ≤ m → m < k → huellaEnUso lista (sprintf04 m) = true) ∧
      (sprintf04 k).length = 4 ∧
      (idSensor (sprintf04 k)).toNat = k ∧ ¬ idSensor (sprintf04 k) > 0x00A3 := by
  obtain ⟨k, hmax, hk⟩ := exists_menorLibre (List.mem_of_find?_eq_some hfind) hvacia
  have hcota : k ≤ 99 := hmax
  have hslot : (idSensor (sprintf04 k)).toNat = k := idSensor_sprintf04 (by omega)
  refine ⟨k, hk.desde, hmax, fun fuel hfuel => buscarIdLibre_iff.mpr ⟨hk, by omega⟩,
    obtenerHuella_vacia hfind hvacia hk hmax, hk.libre, hk.menores, sprintf04_length (by omega),
    hslot, fun hgt => ?_⟩
  have hgt' := UInt16.lt_iff_toNat_lt.mp hgt
  rw [hslot] at hgt'
  exact absurd hgt' (Nat.not_lt_of_le (Nat.le_trans hcota (by decide)))

/-- The last user of the table that the firmware starts with. -/
def usuario6 : PinUsuario where
  codigo := .copy 5 (ascii "66666")
  activo := true
  rfid := .vacio 19
  huella := .vacio 4
  tag := .copy 19 (ascii "usuario6")

theorem id_libre_usuario6 : ∃ k, 1 ≤ k ∧ k ≤ maxPins ∧
    (∀ fuel, k ≤ fuel → buscarIdLibre listaPinsInicial fuel 1 = some k) ∧
    obtenerHuellaAsignadaPorPin listaPinsInicial (ascii "66666") = some (sprintf04 k) ∧
    huellaEnUso listaPinsInicial (sprintf04 k) = false ∧
    (∀ m, 1 ≤ m → m < k → huellaEnUso listaPinsInicial (sprintf04 m) = true) ∧
    (sprintf04 k).length = 4 ∧
    (idSensor (sprintf04 k)).toNat = k ∧ ¬ idSensor (sprintf04 k) > 0x00A3 :=
  id_libre (u := usuario6) (by decide +kernel) rfl

/-! ## Texts and slots -/

/-- A text of digits, and not the empty one. -/
def esNumerica (s : List UInt8) : Bool := !s.isEmpty && s.all isDecimalDigit

theorem esNumerica_ne_nil {s : List UInt8} (h : esNumerica s = true) : s ≠ [] := by
  rintro rfl
  cases h

theorem numero_lt {s : List UInt8} (h : ∀ b ∈ s, isDecimalDigit b = true) :
    numero s < 10 ^ s.length := by
  induction s using List.reverseRecOn with
  | nil => decide
  | append_singleton s b ih =>
    have hprevio := ih fun c hc => h c (List.mem_append_left _ hc)
    have hb := h b (List.mem_append_right _ (List.mem_singleton_self b))
    simp only [isDecimalDigit, Bool.and_eq_true, decide_eq_true_eq, UInt8.le_iff_toNat_le] at hb
    have hcifra : b.toNat ≤ 57 := hb.2
    rw [numero_append, List.length_append, List.length_singleton, Nat.pow_succ]
    simp only [List.foldl_cons, List.foldl_nil]
    omega

theorem numero_takeWhile_lt {s : List UInt8} {n : ℕ} (h : s.length ≤ n) :
    numero (s.takeWhile isDecimalDigit) < 10 ^ n :=
  Nat.lt_of_lt_of_le (numero_lt fun _ hb => List.mem_takeWhile_imp hb)
    (Nat.pow_le_pow_right (by decide) ((List.takeWhile_sublist _).length_le.trans h))

/-- The number of a text that fits `huella`. -/
theorem atoi_rango {s : List UInt8} (h : s.length ≤ 4) : -10000 < atoi s ∧ atoi s < 10000 := by
  have hresto : ∀ rest : List UInt8, rest.length ≤ (s.dropWhile isspace).length →
      numero (rest.takeWhile isDecimalDigit) < 10000 := fun _ hle =>
    numero_takeWhile_lt (n := 4) (hle.trans ((List.length_dropWhile_le _ _).trans h))
  unfold atoi
  dsimp only
  split
  · next rest heq =>
    have := hresto rest (by rw [heq]; exact Nat.le_succ _)
    omega
  · next rest heq =>
    have := hresto rest (by rw [heq]; exact Nat.le_succ _)
    omega
  · have := hresto (s.dropWhile isspace) le_rfl
    omega

theorem atoi_nonneg {s : List UInt8} (h : esNumerica s = true) : 0 ≤ atoi s := by
  have hdigitos : ∀ b ∈ s, 48 ≤ b.toNat ∧ b.toNat ≤ 57 := by
    intro b hb
    have hall := List.all_eq_true.mp (Bool.and_eq_true_iff.mp h).2 b hb
    simp only [isDecimalDigit, Bool.and_eq_true, decide_eq_true_eq, UInt8.le_iff_toNat_le] at hall
    exact hall
  rw [atoi_digits (esNumerica_ne_nil h) hdigitos]
  exact Int.natCast_nonneg _

/-- The cast keeps the numbers apart: a negative one becomes a slot that no
text of digits stands for. -/
theorem idSensor_eq_atoi_iff {s t : List UInt8} (hs : s.length ≤ 4) (ht : t.length ≤ 4)
    (hnum : esNumerica t = true) : ((idSensor s).toNat : ℤ) = atoi t ↔ atoi s = atoi t := by
  have hrs := atoi_rango hs
  have hrt := atoi_rango ht
  have hpos := atoi_nonneg hnum
  unfold idSensor
  rw [UInt16.ofInt, UInt16.toNat_ofNat']
  omega

/-! ## The slots of the others -/

/-- The slot that enrolment hands to the sensor, for the PIN of any active user,
is not that of another one. -/
def NoPisa (lista : ListaPins) : Prop :=
  ∀ pin u idHuellaStr, lista.pins.find? (conPin pin) = some u →
    obtenerHuellaAsignadaPorPin lista pin = some idHuellaStr →
    ∀ (j : ℕ) (v : PinUsuario), lista.pins[j]? = some v → j ≠ lista.pins.findIdx (conPin pin) →
      v.activo = true → esNumerica v.huella.bytes = true →
      ((idSensor idHuellaStr).toNat : ℤ) ≠ atoi v.huella.bytes

/-- What the ids of the table must be like. -/
structure SinChoque (lista : ListaPins) : Prop where
  -- the ids of two users are not two texts of one number
  propias : ∀ u, lista.pins.find? (conPin u.codigo.bytes) = some u → u.huella.bytes ≠ [] →
    ∀ (j : ℕ) (v : PinUsuario), lista.pins[j]? = some v →
      j ≠ lista.pins.findIdx (conPin u.codigo.bytes) → v.activo = true →
      esNumerica v.huella.bytes = true → atoi u.huella.bytes ≠ atoi v.huella.bytes
  -- where somebody has no id, the number of another text is not the next to be given
  libres : ∀ u, lista.pins.find? (conPin u.codigo.bytes) = some u → u.huella.bytes = [] →
    ∀ v ∈ lista.pins, v.activo = true → esNumerica v.huella.bytes = true →
      ∀ n : ℕ, 1 ≤ n → atoi v.huella.bytes = n → huellaEnUso lista (sprintf04 n) = false →
        ∃ m, 1 ≤ m ∧ m < n ∧ huellaEnUso lista (sprintf04 m) = false

theorem getElem?_findIdx {pins : List PinUsuario} {p : PinUsuario → Bool} {u : PinUsuario}
    (h : pins.find? p = some u) : pins[pins.findIdx p]? = some u := by
  rw [← List.find?_eq_getElem?_findIdx]
  exact h

theorem obtenerHuella_propia {lista : ListaPins} {pin : List UInt8} {u : PinUsuario}
    (hfind : lista.pins.find? (conPin pin) = some u) (hne : u.huella.bytes ≠ []) :
    obtenerHuellaAsignadaPorPin lista pin = some u.huella.bytes := by
  unfold obtenerHuellaAsignadaPorPin
  rw [hfind, Option.bind_some, if_pos (List.length_pos_iff.mpr hne)]

theorem PinUsuario.huella_length (u : PinUsuario) : u.huella.bytes.length ≤ 4 :=
  Nat.le_of_lt_succ u.huella.fits

theorem NoPisa.sinChoque {lista : ListaPins} (h : NoPisa lista) : SinChoque lista where
  propias := by
    intro u hfind hne j v hj hji hactivo hnum heq
    refine h _ u _ hfind (obtenerHuella_propia hfind hne) j v hj hji hactivo hnum ?_
    exact (idSensor_eq_atoi_iff u.huella_length v.huella_length hnum).mpr heq
  libres := by
    intro u hfind hvacia v hv hactivo hnum n h1 heq hlibre
    by_contra hnone
    have hn : MenorLibre lista 1 n := by
      refine ⟨h1, hlibre, fun m hm hlt => ?_⟩
      by_contra hm'
      exact hnone ⟨m, hm, hlt, eq_false_of_ne_true hm'⟩
    obtain ⟨k, hmax, hk⟩ := exists_menorLibre (List.mem_of_find?_eq_some hfind) hvacia
    rw [hk.unico hn] at hmax
    have hcota : n ≤ 99 := hmax
    obtain ⟨j, hj⟩ := List.mem_iff_getElem?.mp hv
    have hji : j ≠ lista.pins.findIdx (conPin u.codigo.bytes) := by
      rintro rfl
      rw [getElem?_findIdx hfind] at hj
      exact esNumerica_ne_nil hnum (Option.some.inj hj ▸ hvacia)
    refine h _ u _ hfind (obtenerHuella_vacia hfind hvacia hn hmax) j v hj hji hactivo hnum ?_
    rw [idSensor_sprintf04 (by omega), heq]

theorem SinChoque.noPisa {lista : ListaPins} (h : SinChoque lista) : NoPisa lista := by
  intro pin u idHuellaStr hfind hid j v hj hji hactivo hnum heq
  obtain rfl : u.codigo.bytes = pin := (conPin_iff.mp (List.find?_some hfind)).2
  by_cases hvacia : u.huella.bytes = []
  · obtain ⟨k, hmax, hk⟩ := exists_menorLibre (List.mem_of_find?_eq_some hfind) hvacia
    have hcota : k ≤ 99 := hmax
    rw [obtenerHuella_vacia hfind hvacia hk hmax] at hid
    rw [← Option.some.inj hid, idSensor_sprintf04 (by omega)] at heq
    obtain ⟨m, h1, hlt, hlibre⟩ := h.libres u hfind hvacia v (List.mem_of_getElem? hj) hactivo hnum
      k hk.desde heq.symm hk.libre
    exact absurd (hk.menores m h1 hlt) (ne_true_of_eq_false hlibre)
  · rw [obtenerHuella_propia hfind hvacia] at hid
    rw [← Option.some.inj hid] at heq
    exact h.propias u hfind hvacia j v hj hji hactivo hnum
      ((idSensor_eq_atoi_iff u.huella_length v.huella_length hnum).mp heq)

/-- Enrolment spares the slots of the others in exactly these tables. -/
theorem noPisa_iff (lista : ListaPins) : NoPisa lista ↔ SinChoque lista :=
  ⟨NoPisa.sinChoque, SinChoque.noPisa⟩

/-- On the panel, a user with the id 1, and then one without. The second gets
`0001`, which is the same slot. -/
theorem pisa_ajena : ¬ ∀ reqs, NoPisa (sync (serve initDb reqs)) := by
  intro h
  have hpisa := h [.panelPost (some "22222".toList) (some "ana".toList) (some []) (some ['1']),
    .panelPost (some "33333".toList) (some "juan".toList) (some []) (some [])]
  exact hpisa (ascii "33333") (registroDe ⟨3, "33333".toList, 1, [], [], "juan".toList⟩)
    (ascii "0001") (by decide +kernel) (by decide +kernel) 1
    (registroDe ⟨2, "22222".toList, 1, [], ['1'], "ana".toList⟩) (by decide +kernel)
    (by decide +kernel) rfl (by decide +kernel) (by decide +kernel)

/-- The ids of the firmware are four digits each, and no two alike. -/
theorem Concuerda.sinChoque {s : Sistema} (h : Concuerda s) : SinChoque s.lista where
  propias := by
    intro u hfind hne j v hj hji hactivo hnum heq
    have hi := getElem?_findIdx hfind
    rcases h.texto_lista u (List.mem_of_getElem? hi) with hnil | ⟨n, -, hu⟩
    · exact hne hnil
    rcases h.texto_lista v (List.mem_of_getElem? hj) with hnil | ⟨m, -, hv⟩
    · exact esNumerica_ne_nil hnum hnil
    rw [hu, hv, atoi_sprintf04, atoi_sprintf04] at heq
    have hmismo : v.huella.bytes = u.huella.bytes := by rw [hu, hv, Int.ofNat_inj.mp heq]
    exact hji (unicas_iff.mp h.unica_lista j _ v u hj hi hactivo
      (conPin_iff.mp (List.find?_some hfind)).1 (hmismo ▸ hne) hmismo)
  libres := by
    intro u _ _ v hv hactivo hnum n _ heq hlibre
    rcases h.texto_lista v hv with hnil | ⟨m, -, hm⟩
    · exact absurd hnil (esNumerica_ne_nil hnum)
    rw [hm, atoi_sprintf04] at heq
    have huso : huellaEnUso s.lista (sprintf04 n) = true :=
      huellaEnUso_iff.mpr ⟨v, hv, hactivo, Int.ofNat_inj.mp heq ▸ hm⟩
    exact absurd huso (ne_true_of_eq_false hlibre)

/-- In a run in which the server gives no id of its own, no enrolment reaches
the slot of another user. -/
theorem sistema_noPisa {s : Sistema} (h : sistema.Reach Ordenada .inicial s) : NoPisa s.lista :=
  (h.invariant (fun _ op => concuerda_paso op) concuerda_inicial).sinChoque.noPisa

end Cerradura
