import Cerradura.Quieto

/-!
# A lock that is left alone

Without a key and without a card ESPERANDO_ACCION and LEER_Y_VALIDAR_HUELLA take
turns, whatever the fingerprint sensor answers, and nothing else keeps the lock
awake. It goes to sleep when it looks at the time after TIMEOUT_MS, and not before,
unless a finger turns up on the sensor first (`acaba_durmiendo`).

The tick counter runs and is below 2^31 (`reloj`). From there on the variable does
not hold the instant of the last presence, and the lock sleeps at its first look.
-/

namespace Cerradura

open Reactive

variable {n start : ℕ} {c c' : Config Mef Sample MefEv}

/-- No key, no card, and a running clock. -/
structure Sola (n start : ℕ) (inputs : List Sample) : Prop where
  reloj : (relojQuieto n).Runs start inputs
  uid : ∀ m ∈ inputs, m.uid = none

theorem Sola.drop {inputs : List Sample} (h : Sola n start inputs) (p : ℕ) :
    Sola n start (inputs.drop p) :=
  ⟨h.reloj.drop p, fun m hm => h.uid m (List.mem_of_mem_drop hm)⟩

theorem Sola.tick_lt {inputs : List Sample} (h : Sola n start inputs) {m : Sample}
    (hm : m ∈ inputs) : m.tick < 2 ^ 31 := ((relojQuieto_iff.mp h.reloj).1.range m hm).2

/-- The clock may be counted from a later instant, if no reading comes before it. -/
theorem Sola.desde {inputs : List Sample} (h : Sola n start inputs) {t : ℕ}
    (ht : ∀ m ∈ inputs, t ≤ m.tick) : Sola n t inputs := by
  obtain ⟨hreloj, hquieto⟩ := relojQuieto_iff.mp h.reloj
  exact ⟨relojQuieto_iff.mpr ⟨⟨hreloj.sorted, hreloj.advances,
    fun m hm => ⟨ht m hm, (hreloj.range m hm).2⟩⟩, hquieto⟩, h.uid⟩

/-! ## A scan without a finger -/

/-- The memory of the sensor has been searched. -/
def ScanSt.buscado : ScanSt → Bool
  | .waitSearch | .doneMatch | .doneNoMatch => true
  | _ => false

theorem as608ScanStep_sin_dedo {c : Config Scan Sample SensorEv} (h : c.st.st.buscado = false) :
    as608ScanStep.wp (fun _ => True) (fun r _ => r.1 ≠ .scanMatch ∧ r.1 ≠ .scanNoMatch) c := by
  have hfin {c : Config Scan Sample SensorEv} {m : Prog Scan Sample SensorEv Unit}
      {st : ScanStatus} (hst : st ≠ .scanMatch ∧ st ≠ .scanNoMatch) :
      (m >>= fun _ => pure (st, none) :
        Prog Scan Sample SensorEv (ScanStatus × Option (UInt16 × UInt16))).wp (fun _ => True)
          (fun r _ => r.1 ≠ .scanMatch ∧ r.1 ≠ .scanNoMatch) c :=
    Prog.wp_bind_of_forall fun _ _ => hst
  have hsigue : ScanStatus.scanInProgress ≠ .scanMatch ∧ ScanStatus.scanInProgress ≠ .scanNoMatch :=
    ⟨nofun, nofun⟩
  unfold as608ScanStep
  rw [Prog.wp_bind, Prog.wp_get]
  cases hst : c.st.st with
  | waitSearch | doneMatch | doneNoMatch =>
    rw [hst] at h
    exact absurd h Bool.false_ne_true.symm
  | idle => exact hfin hsigue
  | doneNoFinger => exact hfin ⟨nofun, nofun⟩
  | doneError => exact hfin ⟨nofun, nofun⟩
  | sendGetImage | sendImage2Tz | sendSearch =>
    exact Prog.wp_bind_of_forall fun _ _ => Prog.wp_bind_of_forall fun _ _ =>
      Prog.wp_bind_of_forall fun _ _ => Prog.wp_bind_of_forall fun _ _ => hfin hsigue
  | predlyImage2Tz =>
    exact Prog.wp_bind_of_forall fun _ _ => Prog.wp_ite (fun _ => hfin hsigue) fun _ => hsigue
  | waitGetImage =>
    refine Prog.wp_bind_of_forall fun _ _ => Prog.wp_bind_of_forall fun _ _ =>
      Prog.wp_ite (fun _ => Prog.wp_ite (fun _ => ?_) fun _ =>
        Prog.wp_ite (fun _ => ?_) fun _ => ?_) fun _ => ?_
    · exact Prog.wp_bind_of_forall fun _ _ => hfin hsigue
    · exact hfin hsigue
    · exact hfin hsigue
    · exact Prog.wp_bind_of_forall fun _ _ => Prog.wp_ite (fun _ => hfin hsigue) fun _ => hsigue
  | waitImage2Tz =>
    refine Prog.wp_bind_of_forall fun _ _ => Prog.wp_bind_of_forall fun _ _ => Prog.wp_ite
      (fun _ => Prog.wp_ite (fun _ => hfin hsigue) fun _ => hfin hsigue) fun _ => ?_
    exact Prog.wp_bind_of_forall fun _ _ => Prog.wp_ite (fun _ => hfin hsigue) fun _ => hsigue

/-- A round of the scan, which gives the turn back. -/
theorem leerYValidarHuella_sola (h : c.st.scan.st.buscado = false) :
    leerYValidarHuella.wp (fun _ => True) (fun _ c' =>
      c'.st.estadoActual = .esperandoAccion ∧ c'.st.eventoPresencia = c.st.eventoPresencia ∧
        c'.st.ultimaPresencia = c.st.ultimaPresencia) c := by
  unfold leerYValidarHuella
  rw [Prog.wp_bind]
  refine Prog.wp_zoom (as608ScanStep_sin_dedo h) (fun _ _ => trivial) fun r c1 hr => ?_
  obtain ⟨st, salida⟩ := r
  obtain ⟨hmatch, hnoMatch⟩ := hr
  cases st with
  | scanMatch => exact absurd rfl hmatch
  | scanNoMatch => exact absurd rfl hnoMatch
  | scanNoFinger | scanError | scanIdle | scanInProgress => exact ⟨rfl, rfl, rfl⟩

/-! ## A round in ESPERANDO_ACCION -/

/-- One of the two states that take turns. -/
def EnVela (s : Mef) : Prop :=
  s.estadoActual = .esperandoAccion ∨ s.estadoActual = .leerYValidarHuella

/-- Still awake. The last presence was at `t0`, and is at `t1` now. -/
structure Vela (t0 t1 : ℕ) (c c' : Config Mef Sample MefEv) : Prop where
  estado : EnVela c'.st
  evento : c'.st.eventoPresencia = false
  presencia : c'.st.ultimaPresencia = TimeTest.ultimaPresencia.keep t1
  antes : t0 ≤ t1
  igual : c.st.eventoPresencia = false → t1 = t0
  -- the time was not up when it was looked at
  mira : ∃ m ∈ c.inputs, m.tick ≤ t1 + timeoutMs
  tarde : ∀ m ∈ c'.inputs, t1 ≤ m.tick

/-- Asleep after `p` samples, and the time since `t0` was up. -/
structure Duerme (t0 p : ℕ) (c c' : Config Mef Sample MefEv) : Prop where
  estado : c'.st.estadoActual = .reposo
  mira : ∃ m ∈ c.inputs.take p, t0 + timeoutMs < m.tick

theorem mira_iff {t0 t1 : ℕ} (h01 : t0 ≤ t1) (h1 : t1 < 2 ^ 31) :
    TimeTest.ultimaPresencia.holds t1 (TimeTest.ultimaPresencia.keep t0) = true ↔
      t0 + timeoutMs < t1 := by
  have hlimit : TimeTest.ultimaPresencia.limit = timeoutMs := rfl
  rw [TimeTest.holds_gt_iff rfl h01 h1, hlimit]

/-- Where the last presence is, once the machine has looked for another. -/
theorem Mirada.presente {c1 : Config Mef Sample MefEv} (h : Mirada c c1)
    (hreloj : (reloj n).Runs start c.inputs) {t0 : ℕ} (ht0 : t0 ≤ start)
    (hinicio : c.st.ultimaPresencia = TimeTest.ultimaPresencia.keep t0) :
    ∃ t1, t0 ≤ t1 ∧ (c.st.eventoPresencia = false → t1 = t0) ∧
      c1.st.ultimaPresencia = TimeTest.ultimaPresencia.keep t1 ∧
      ∀ m ∈ c1.inputs, t1 ≤ m.tick := by
  rcases h.presencia with ⟨-, hpresencia⟩ | ⟨hevento, m, hm, hpresencia⟩
  · exact ⟨t0, le_rfl, fun _ => rfl, hpresencia.trans hinicio,
      fun m hm => ht0.trans (hreloj.range m (h.inputs.mem hm)).1⟩
  · obtain ⟨rest, hin⟩ := List.head?_eq_some_iff.mp hm
    have hmem : m ∈ c.inputs := hin ▸ List.mem_cons_self
    refine ⟨m.tick, ht0.trans (hreloj.range m hmem).1, fun hno => ?_, hpresencia, fun m' hm' => ?_⟩
    · exact absurd (hno.symm.trans hevento) Bool.false_ne_true
    · have hm' := h.inputs.mem hm'
      rw [hin] at hm' hreloj
      exact (hreloj.head.range m' hm').1

theorem leerRfid_sola (h : ∀ m ∈ c.inputs, m.uid = none) : leerRfid.wp (fun _ => True)
    (fun r c' => r = false ∧ c'.st = c.st ∧ c'.inputs = c.inputs.drop 1) c := by
  obtain ⟨s, inputs, trace⟩ := c
  cases inputs with
  | nil => exact trivial
  | cons m rest =>
    have hlee : leerRfidStr ⟨s, m :: rest, trace⟩ = (some none, ⟨s, rest, trace⟩) := by
      show (some (m.uid.map uidStr), _) = _
      rw [h m List.mem_cons_self]
      rfl
    unfold leerRfid Prog.wp
    rw [Prog.bind_eq_of hlee]
    exact ⟨rfl, rfl, rfl⟩

theorem programarEscaneo_sola : programarEscaneo.wp (fun _ => True) (fun _ c' =>
    c'.st.estadoActual = c.st.estadoActual ∧ c'.st.eventoPresencia = c.st.eventoPresencia ∧
      c'.st.ultimaPresencia = c.st.ultimaPresencia ∧ Prog.Reads 2 c c') c := by
  unfold programarEscaneo
  rw [Prog.wp_bind, Prog.wp_get]
  refine Prog.wp_ite (fun _ => ?_) fun _ => ⟨rfl, rfl, rfl, 0, Nat.zero_le _, rfl⟩
  rw [Prog.wp_bind]
  refine wp_tickRead (fun _ => trivial) fun m rest hrest => ?_
  obtain rfl : rest = c.inputs.drop 1 := by
    rw [show c.inputs = m :: rest from hrest, List.drop_one, List.tail_cons]
  refine Prog.wp_ite (fun _ => ?_) fun _ => ⟨rfl, rfl, rfl, 1, by decide, rfl⟩
  exact tickRead_keep_wp _ (fun t s => { s with
    scan := as608ScanReset, escaneoActivo := true, agendaHuella := t })
      fun _ _ _ _ => ⟨rfl, rfl, rfl, 1 + 1, le_rfl, List.drop_drop⟩

theorem esperandoAccion_sola (hestado : c.st.estadoActual = .esperandoAccion)
    (h : Sola n start c.inputs) {t0 : ℕ} (ht0 : t0 ≤ start)
    (hinicio : c.st.ultimaPresencia = TimeTest.ultimaPresencia.keep t0) :
    esperandoAccion.wp (fun _ => True) (fun _ c' => ∃ p, 1 ≤ p ∧ p ≤ 6 ∧
      c'.inputs = c.inputs.drop p ∧ (Duerme t0 p c c' ∨ ∃ t1, Vela t0 t1 c c')) c := by
  obtain ⟨hreloj, hquieto⟩ := relojQuieto_iff.mp h.reloj
  refine esperandoAccion_quieto hquieto fun c1 hc1 => ?_
  obtain ⟨t1, hantes, higual, hpresencia1, htarde1⟩ := hc1.presente hreloj ht0 hinicio
  obtain ⟨p, hp, hdrop1⟩ := hc1.inputs
  have h1 : Sola n start c1.inputs := hdrop1 ▸ h.drop p
  unfold sinTecla
  rw [Prog.wp_bind]
  refine wp_tickRead (fun _ => trivial) fun m rest hrest => ?_
  have hm1 : m ∈ c1.inputs := hrest ▸ List.mem_cons_self
  have hdrop2 : rest = c.inputs.drop (p + 1) := by
    rw [← List.drop_drop, ← hdrop1, show c1.inputs = m :: rest from hrest]
    rfl
  have hmira : TimeTest.ultimaPresencia.holds m.tick c1.st.ultimaPresencia = true ↔
      t1 + timeoutMs < m.tick := by
    rw [hpresencia1]
    exact mira_iff (htarde1 m hm1) (h1.tick_lt hm1)
  refine Prog.wp_ite (fun hsi => ⟨p + 1, Nat.le_add_left 1 p, by omega, hdrop2,
    .inl ⟨rfl, m, ?_, ?_⟩⟩) fun hno => ?_
  · rw [List.take_add, ← hdrop1, show c1.inputs = m :: rest from hrest]
    exact List.mem_append_right _ (.head _)
  · exact (Nat.add_le_add_right hantes timeoutMs).trans_lt (hmira.mp hsi)
  have huid : ∀ m' ∈ rest, m'.uid = none := fun m' hm' => h1.uid m' (hrest ▸ .tail _ hm')
  rw [Prog.wp_bind]
  refine Prog.wp_mono (leerRfid_sola huid) (fun _ h => h) ?_
  rintro _ c2 ⟨rfl, hst2, hdrop3⟩
  refine Prog.wp_ite (fun hsi => absurd hsi Bool.false_ne_true) fun _ => ?_
  rw [Prog.wp_bind]
  refine Prog.wp_mono programarEscaneo_sola (fun _ h => h) fun _ c3 hc3 => ?_
  obtain ⟨hestado3, hevento3, hpresencia3, q, hq, hdrop4⟩ := hc3
  rw [Prog.wp_bind, Prog.wp_get]
  have hvela {c4 : Config Mef Sample MefEv} (hestado4 : EnVela c4.st)
      (hevento4 : c4.st.eventoPresencia = c3.st.eventoPresencia)
      (hpresencia4 : c4.st.ultimaPresencia = c3.st.ultimaPresencia) (hin : c4.inputs = c3.inputs) :
      ∃ p, 1 ≤ p ∧ p ≤ 6 ∧ c4.inputs = c.inputs.drop p ∧
        (Duerme t0 p c c4 ∨ ∃ t1, Vela t0 t1 c c4) := by
    have hdrop : c4.inputs = c.inputs.drop (p + 1 + (1 + q)) := by
      rw [hin, hdrop4, hdrop3, hdrop2, List.drop_drop, List.drop_drop]
    have htarde : ∀ m' ∈ c4.inputs, t1 ≤ m'.tick := by
      intro m' hm'
      refine htarde1 m' ?_
      rw [hdrop1]
      rw [hdrop, Nat.add_assoc, ← List.drop_drop] at hm'
      exact List.mem_of_mem_drop hm'
    refine ⟨_, by omega, by omega, hdrop, .inr ⟨t1, hestado4, ?_, ?_, hantes, higual, ?_, htarde⟩⟩
    · rw [hevento4, hevento3, hst2]
      exact hc1.evento
    · rw [hpresencia4, hpresencia3, hst2]
      exact hpresencia1
    · exact ⟨m, hc1.inputs.mem hm1, Nat.le_of_not_lt fun hlt => hno (hmira.mpr hlt)⟩
  refine Prog.wp_ite (fun _ => hvela (.inr rfl) rfl rfl rfl) fun _ => hvela (.inl ?_) rfl rfl rfl
  rw [hestado3, hst2]
  exact hc1.estado.trans hestado

/-! ## To sleep -/

/-- Within `most` samples the lock is asleep, the time since `t0` being up, or a finger
has been looked for, and until then it stays awake. -/
def Dormira (t0 most : ℕ) (c : Config Mef Sample MefEv) : Prop :=
  ∃ k c' p, rondas k c = (some (), c') ∧ p ≤ most ∧ c'.inputs = c.inputs.drop p ∧
    (c'.st.scan.st.buscado = true ∨ Duerme t0 p c c') ∧
    ∀ j < k, ∀ cj, rondas j c = (some (), cj) → EnVela cj.st

section Dormir

variable {t0 t1 most p : ℕ}

theorem Dormira.antes (h : Dormira t1 most c) (hle : t0 ≤ t1) : Dormira t0 most c := by
  obtain ⟨k, c', p, hrondas, hp, hdrop, hfin, hvela⟩ := h
  refine ⟨k, c', p, hrondas, hp, hdrop, hfin.imp_right fun hd => ⟨hd.estado, ?_⟩, hvela⟩
  obtain ⟨m, hm, hlt⟩ := hd.mira
  exact ⟨m, hm, (Nat.add_le_add_right hle timeoutMs).trans_lt hlt⟩

theorem Dormira.mono {most' : ℕ} (h : Dormira t0 most c) (hle : most ≤ most') :
    Dormira t0 most' c := by
  obtain ⟨k, c', p, hrondas, hp, hfin⟩ := h
  exact ⟨k, c', p, hrondas, hp.trans hle, hfin⟩

theorem Dormira.ya (h : c.st.scan.st.buscado = true) : Dormira t0 most c :=
  ⟨0, c, 0, rfl, Nat.zero_le most, rfl, .inl h, fun _ hj => absurd hj (Nat.not_lt_zero _)⟩

/-- No round, or one more. -/
theorem enVela_succ {k : ℕ} (hvela : EnVela c.st) (hronda : mefUpdate c = (some (), c'))
    (h : ∀ j < k, ∀ cj, rondas j c' = (some (), cj) → EnVela cj.st) :
    ∀ j < k + 1, ∀ cj, rondas j c = (some (), cj) → EnVela cj.st := by
  intro j hj cj hrondas
  cases j with
  | zero =>
    obtain rfl : c = cj := congrArg Prod.snd hrondas
    exact hvela
  | succ j => exact h j (Nat.lt_of_succ_lt_succ hj) cj ((Prog.bind_eq_of hronda).symm.trans hrondas)

theorem Duerme.dormira (h : Duerme t0 p c c') (hvela : EnVela c.st)
    (hronda : mefUpdate c = (some (), c')) (hdrop : c'.inputs = c.inputs.drop p) :
    Dormira t0 p c :=
  ⟨1, c', p, Prog.bind_eq_of hronda, le_rfl, hdrop, .inr h,
    enVela_succ hvela hronda fun _ hj => absurd hj (Nat.not_lt_zero _)⟩

/-- After a round the vigil goes on. -/
theorem Dormira.tras_ronda (h : Dormira t0 most c') (hvela : EnVela c.st)
    (hronda : mefUpdate c = (some (), c')) (hdrop : c'.inputs = c.inputs.drop p) :
    Dormira t0 (p + most) c := by
  obtain ⟨k, c'', q, hrondas, hq, hdrop', hfin, hvelas⟩ := h
  refine ⟨k + 1, c'', p + q, (Prog.bind_eq_of hronda).trans hrondas, Nat.add_le_add_left hq p,
    ?_, hfin.imp_right fun hd => ⟨hd.estado, ?_⟩, enVela_succ hvela hronda hvelas⟩
  · rw [hdrop', hdrop, List.drop_drop]
  · obtain ⟨m, hm, hlt⟩ := hd.mira
    refine ⟨m, ?_, hlt⟩
    rw [List.take_add, ← hdrop]
    exact List.mem_append_right _ hm

/-- The samples that the two states take together at most. -/
def plazoTurno (n : ℕ) : ℕ := n * 4 + 16

/-- LEER_Y_VALIDAR_HUELLA gives the turn back. -/
theorem turno_huella (hestado : c.st.estadoActual = .leerYValidarHuella) (h : Sola n start c.inputs)
    (hlen : n * 4 + 10 ≤ c.inputs.length) : c.st.scan.st.buscado = true ∨ ∃ c' p,
      mefUpdate c = (some (), c') ∧ c'.st.estadoActual = .esperandoAccion ∧
      c'.st.eventoPresencia = c.st.eventoPresencia ∧
      c'.st.ultimaPresencia = c.st.ultimaPresencia ∧
      p ≤ n * 4 + 10 ∧ c'.inputs = c.inputs.drop p := by
  have hupdate : mefUpdate c = leerYValidarHuella c := by
    rw [show mefUpdate c = _ from Prog.bind_eq_of (show Prog.get c = (some c.st, c) from rfl),
      hestado]
  cases hbuscado : c.st.scan.st.buscado with
  | true => exact .inl rfl
  | false =>
    obtain ⟨⟨⟩, c', hronda, ⟨p, -, hp, hdrop⟩, hestado', hevento, hpresencia⟩ :=
      Prog.wp_returns (Prog.wp_and
        (leerYValidarHuella_takes (n := n) c (relojQuieto_iff.mp h.reloj).1 hlen)
        (leerYValidarHuella_sola hbuscado))
    exact .inr ⟨c', p, hupdate.trans hronda, hestado', hevento, hpresencia, hp, hdrop⟩

/-- It sleeps, or ESPERANDO_ACCION has its turn again. -/
theorem turno (hestado : c.st.estadoActual = .esperandoAccion) (h : Sola n start c.inputs)
    (ht0 : t0 ≤ start) (hinicio : c.st.ultimaPresencia = TimeTest.ultimaPresencia.keep t0)
    (hlen : plazoTurno n ≤ c.inputs.length) : Dormira t0 (plazoTurno n) c ∨ ∃ c' t1 p,
      Vela t0 t1 c c' ∧ c'.st.estadoActual = .esperandoAccion ∧ 1 ≤ p ∧ p ≤ plazoTurno n ∧
      c'.inputs = c.inputs.drop p ∧ ∀ t most, Dormira t most c' → Dormira t (p + most) c := by
  have hupdate : mefUpdate c = esperandoAccion c := by
    rw [show mefUpdate c = _ from Prog.bind_eq_of (show Prog.get c = (some c.st, c) from rfl),
      hestado]
  unfold plazoTurno at hlen ⊢
  obtain ⟨⟨⟩, c1, hronda, -, p, hpos, hp, hdrop, hfin⟩ := Prog.wp_returns (Prog.wp_and
    (esperandoAccion_takes (n := n) c h.reloj (by omega))
    (esperandoAccion_sola hestado h ht0 hinicio))
  have hronda : mefUpdate c = (some (), c1) := hupdate.trans hronda
  rcases hfin with hduerme | ⟨t1, hvela⟩
  · exact .inl ((hduerme.dormira (.inl hestado) hronda hdrop).mono (by omega))
  · have htras (t most : ℕ) (hc1 : Dormira t most c1) : Dormira t (p + most) c :=
      hc1.tras_ronda (.inl hestado) hronda hdrop
    rcases hvela.estado with hestado1 | hestado1
    · exact .inr ⟨c1, t1, p, hvela, hestado1, hpos, by omega, hdrop, htras⟩
    · have hlen1 : n * 4 + 10 ≤ c1.inputs.length := by
        rw [hdrop, List.length_drop]
        omega
      rcases turno_huella hestado1 (hdrop ▸ h.drop p) hlen1 with hbuscado | ⟨c2, q, hronda2,
        hestado2, hevento2, hpresencia2, hq, hdrop2⟩
      · exact .inl ((htras t0 0 (.ya hbuscado)).mono (by omega))
      · refine .inr ⟨c2, t1, p + q, ⟨.inl hestado2, hevento2.trans hvela.evento,
          hpresencia2.trans hvela.presencia, hvela.antes, hvela.igual, hvela.mira, fun m hm => ?_⟩,
          hestado2, Nat.le_add_right_of_le hpos, by omega, ?_, fun t most hc2 => ?_⟩
        · exact hvela.tarde m (List.mem_of_mem_drop (hdrop2 ▸ hm))
        · rw [hdrop2, hdrop, List.drop_drop]
        · rw [Nat.add_assoc]
          exact htras t _ (hc2.tras_ronda hvela.estado hronda2 hdrop2)

/-- From the last presence on, along the samples that come after it. -/
theorem dormira_de_espera {todo : List Sample} (htodo : Sola n t0 todo)
    (hlen : n * (timeoutMs + 1) + 2 * plazoTurno n ≤ todo.length)
    (hinputs : c.inputs = todo.drop p) (hp : p ≤ n * (timeoutMs + 1) + plazoTurno n)
    (hestado : c.st.estadoActual = .esperandoAccion) (hevento : c.st.eventoPresencia = false)
    (hinicio : c.st.ultimaPresencia = TimeTest.ultimaPresencia.keep t0)
    (hmost : n * (timeoutMs + 1) + 2 * plazoTurno n ≤ most + p) : Dormira t0 most c := by
  induction hm : todo.length - p using Nat.strongRecOn generalizing c p most with
  | ind m ih =>
    have hlen1 : plazoTurno n ≤ c.inputs.length := by
      rw [hinputs, List.length_drop]
      omega
    have hpos : 0 < plazoTurno n := Nat.lt_of_lt_of_le (by decide : 0 < 16) (Nat.le_add_left _ _)
    rcases turno hestado (hinputs ▸ htodo.drop p) le_rfl hinicio hlen1 with
      hfin | ⟨c', t1, q, hvela, hestado', hleast, hq, hdrop, htras⟩
    · exact hfin.mono (by omega)
    · obtain rfl := hvela.igual hevento
      by_cases hlast : n * (timeoutMs + 1) ≤ p
      · -- the time has been up since before the turn
        obtain ⟨i, hi, hno⟩ := hvela.mira
        have hquieto : i.tecla = none := (relojQuieto_iff.mp htodo.reloj).2 i
          (List.mem_of_mem_drop (hinputs ▸ hi))
        have hlate := htodo.reloj.reached_of_mem_drop hlast (hinputs ▸ hi)
        rw [tick_quieto hquieto] at hlate
        exact absurd hno (Nat.not_le_of_lt hlate)
      · have hinputs' : c'.inputs = todo.drop (p + q) := by
          rw [hdrop, hinputs, List.drop_drop]
        have hresto : Dormira t1 (most - q) c' := ih (todo.length - (p + q)) (by omega) hinputs'
          (by omega) hestado' hvela.evento hvela.presencia (by omega) rfl
        exact (htras t1 _ hresto).mono (by omega)

/-- The samples that it takes at most. -/
def plazoDormir (n : ℕ) : ℕ := n * (timeoutMs + 1) + 5 * plazoTurno n

/-- Whether or not a presence has just been noticed. -/
theorem dormira_de_esperando (hestado : c.st.estadoActual = .esperandoAccion)
    (h : Sola n start c.inputs) (ht0 : t0 ≤ start)
    (hinicio : c.st.ultimaPresencia = TimeTest.ultimaPresencia.keep t0)
    (hlen : n * (timeoutMs + 1) + 4 * plazoTurno n ≤ c.inputs.length) :
    Dormira t0 (n * (timeoutMs + 1) + 4 * plazoTurno n) c := by
  rcases turno hestado h ht0 hinicio (by omega) with
    hfin | ⟨c', t1, p, hvela, hestado', -, hp, hdrop, htras⟩
  · exact hfin.mono (by omega)
  · have hleft : n * (timeoutMs + 1) + 2 * plazoTurno n ≤ c'.inputs.length := by
      rw [hdrop, List.length_drop]
      omega
    have htodo : Sola n t1 c'.inputs := (hdrop ▸ h.drop p : Sola n start _).desde hvela.tarde
    have hresto : Dormira t1 (n * (timeoutMs + 1) + 2 * plazoTurno n) c' :=
      dormira_de_espera (p := 0) htodo hleft rfl (Nat.zero_le _) hestado' hvela.evento
        hvela.presencia (Nat.le_add_right _ _)
    exact (htras t0 _ (hresto.antes hvela.antes)).mono (by omega)

end Dormir

/-- Left alone in ESPERANDO_ACCION or LEER_Y_VALIDAR_HUELLA, with the last presence at
`t0`, the lock goes to sleep after TIMEOUT_MS, whatever else it reads, or finds a finger
on the sensor before. The clock is below 2^31. -/
theorem acaba_durmiendo {t0 : ℕ} (hestado : EnVela c.st)
    (hinicio : c.st.ultimaPresencia = TimeTest.ultimaPresencia.keep t0) (ht0 : t0 ≤ start)
    (hreloj : (reloj n).Runs start c.inputs)
    (hsola : ∀ m ∈ c.inputs, m.tecla = none ∧ m.uid = none)
    (hlen : plazoDormir n ≤ c.inputs.length) : Dormira t0 (plazoDormir n) c := by
  have h : Sola n start c.inputs := ⟨relojQuieto_iff.mpr ⟨hreloj, fun m hm => (hsola m hm).1⟩,
    fun m hm => (hsola m hm).2⟩
  unfold plazoDormir at hlen ⊢
  rcases hestado with hestado | hestado
  · exact (dormira_de_esperando hestado h ht0 hinicio (by omega)).mono (by omega)
  · have hturno : n * 4 + 10 ≤ plazoTurno n := Nat.add_le_add_left (by decide) _
    rcases turno_huella hestado h (by omega) with
      hbuscado | ⟨c', p, hronda, hestado', -, hpresencia, hp, hdrop⟩
    · exact .ya hbuscado
    · have hleft : n * (timeoutMs + 1) + 4 * plazoTurno n ≤ c'.inputs.length := by
        rw [hdrop, List.length_drop]
        omega
      have hresto := dormira_de_esperando hestado' (hdrop ▸ h.drop p) ht0
        (hpresencia.trans hinicio) hleft
      exact (hresto.tras_ronda (.inr hestado) hronda hdrop).mono (by omega)

/-- Nothing but the time. -/
theorem acaba_durmiendo_quieta : Dormira 0 (plazoDormir 1)
    ⟨{ Mef.inicial with estadoActual := .esperandoAccion },
      (List.range (plazoDormir 1)).map Sample.quiet, []⟩ := by
  have hreloj : (reloj 1).Runs 0 ((List.range (plazoDormir 1)).map Sample.quiet) :=
    reloj_runs (fun _ => rfl) (by decide)
  have hsola : ∀ m ∈ (List.range (plazoDormir 1)).map Sample.quiet,
      m.tecla = none ∧ m.uid = none := by
    intro m hm
    obtain ⟨t, -, rfl⟩ := List.mem_map.mp hm
    exact ⟨rfl, rfl⟩
  have hlen : plazoDormir 1 ≤ ((List.range (plazoDormir 1)).map Sample.quiet).length := by
    rw [List.length_map, List.length_range]
  generalize (List.range (plazoDormir 1)).map Sample.quiet = inputs at hreloj hsola hlen
  exact acaba_durmiendo (c := ⟨{ Mef.inicial with estadoActual := .esperandoAccion }, inputs, []⟩)
    (.inl rfl) rfl le_rfl hreloj hsola hlen

end Cerradura
