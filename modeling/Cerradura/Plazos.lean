import Cerradura.Deadline
import Cerradura.Mef

/-!
# How long the drivers take

Outside the prompts for a PIN no driver waits longer than its timeouts. With the
clock below 2^31 ms, and at most `n` samples to the millisecond, each function
returns within a number of samples that does not depend on what arrives.

Results: `as608EnrollAtId_takes`, `enrolar_takes`, `pedirConfirmacion_takes`,
`pedirTarjeta_takes`.
-/

namespace Cerradura

open Reactive

/-- The tick counter below 2^31, with less than `n` samples between one
millisecond and the next. -/
def reloj (n : ℕ) : Timing Sample where
  tick := Sample.tick
  pace := n
  limit := 2 ^ 31

variable {σ ε α β γ : Type} {n start least most : ℕ}

/-! ## Reading -/

theorem tickRead_bind_takes {f : ℕ → Prog σ Sample ε α}
    (hf : ∀ t, Prog.Takes (reloj n) t least most (f t)) :
    Prog.Takes (reloj n) start (least + 1) (most + 1) (tickRead >>= f) := by
  have hread : tickRead >>= f = (Prog.read >>= fun m => f m.tick : Prog σ Sample ε α) := by
    funext c
    obtain ⟨st, inputs, trace⟩ := c
    cases inputs <;> rfl
  rw [hread]
  exact .read_bind fun m => hf m.tick

theorem tickRead_takes : Prog.Takes (reloj n) start 1 1 (tickRead : Prog σ Sample ε ℕ) :=
  .read_bind fun m => .pure m.tick

theorem sensorReadByte_takes :
    Prog.Takes (reloj n) start 1 1 (sensorReadByte : Prog σ Sample SensorEv (Option UInt8)) := by
  refine .read_bind fun m => ?_
  cases m.sensorRx with
  | none => exact .pure none
  | some b => exact .bind (.emit _) fun _ => .pure (some b)

theorem espReadByte_takes :
    Prog.Takes (reloj n) start 1 1 (espReadByte : Prog σ Sample EspEv (Option UInt8)) := by
  refine .read_bind fun m => ?_
  cases m.espRx with
  | none => exact .pure none
  | some b => exact .bind (.emit _) fun _ => .pure (some b)

/-! ## Loops with a deadline -/

/-- Below 2^31 a test decides as the true difference does. -/
theorem TimeTest.holds_eq {e : TimeTest} {t0 t1 : ℕ} (h01 : t0 ≤ t1) (h1 : t1 < 2 ^ 31) :
    e.holds t1 (e.keep t0) = e.ideal (t1 - t0) := by
  have hfits : e.Fits t0 := by
    unfold TimeTest.Fits
    cases e.storage with
    | u32 => show t0 < 2 ^ 32; omega
    | long => exact .inl (Nat.lt_of_le_of_lt h01 h1)
  unfold TimeTest.holds TimeTest.ideal
  rw [TimeTest.since_keep_of_fits h01 (by omega) hfits]

theorem TimeTest.holds_gt_iff {e : TimeTest} (hgt : e.comparison = .gt) {t0 t1 : ℕ}
    (h01 : t0 ≤ t1) (h1 : t1 < 2 ^ 31) : e.holds t1 (e.keep t0) = true ↔ t0 + e.limit < t1 := by
  rw [TimeTest.holds_eq h01 h1]
  unfold TimeTest.ideal
  rw [hgt]
  exact decide_eq_true_iff.trans Nat.lt_sub_iff_add_lt'

theorem TimeTest.holds_of_gt {e : TimeTest} (hgt : e.comparison = .gt) {t0 t1 : ℕ}
    (h : t0 + (e.limit + 1) ≤ t1) (h1 : t1 < 2 ^ 31) : e.holds t1 (e.keep t0) = true :=
  (TimeTest.holds_gt_iff hgt (Nat.le_of_add_right_le h) h1).mpr h

/-- A loop that goes on while less than the limit has passed leaves at its first
reading after the limit. -/
theorem fin_mientras {test : TimeTest} (hlt : test.comparison = .lt) {m : Prog σ Sample ε (γ ⊕ β)}
    {b : β} {c : Config σ Sample ε} (hc : (reloj n).Runs (start + test.limit) c.inputs) :
    (tickRead >>= fun now => if test.holds now (test.keep start) then m else pure (.inr b)).wp
      (fun _ => True) (fun r _ => r.isRight = true) c := by
  rw [Prog.wp_bind]
  refine wp_tickRead (fun _ => trivial) fun i rest hin => ?_
  obtain ⟨hlate, hlimit⟩ := hc.range i (hin ▸ List.mem_cons_self)
  have hlate : start + test.limit ≤ i.tick := hlate
  have hover : test.holds i.tick (test.keep start) = false := by
    rw [TimeTest.holds_eq (Nat.le_of_add_right_le hlate) hlimit]
    unfold TimeTest.ideal
    rw [hlt]
    exact decide_eq_false (by omega)
  rw [hover]
  rfl

/-! ## The fingerprint sensor -/

theorem as608FlushRx_takes (ms : UInt32) : Prog.Takes (reloj n) start 1 (n * ms.toNat + 5)
    (as608FlushRx ms : Prog σ Sample SensorEv Unit) := by
  unfold as608FlushRx
  refine .mono (tickRead_bind_takes fun t => .iter_until ms.toNat 2 (fun _ => ?_)
    (fun _ c hc => fin_mientras rfl hc) ()) (Nat.le_add_left _ _) le_rfl
  exact tickRead_bind_takes fun now =>
    .ite_else_pure (.upTo (.bind sensorReadByte_takes fun _ => .pure _) le_rfl)

theorem as608Recv_takes (maxLen : ℕ) (timeoutMs : UInt32) :
    Prog.Takes (reloj n) start 1 (n * timeoutMs.toNat + 7)
      (as608Recv maxLen timeoutMs : Prog σ Sample SensorEv (List UInt8)) := by
  unfold as608Recv
  refine .mono (tickRead_bind_takes fun t => .iter_until timeoutMs.toNat 3 (fun x => ?_)
    (fun x c hc => fin_mientras rfl hc) _) (Nat.le_add_left _ _) le_rfl
  refine tickRead_bind_takes fun now => .ite_else_pure ?_
  refine .upTo (.bind sensorReadByte_takes fun b => ?_ : Prog.Takes _ _ (1 + 0) (1 + 1) _) le_rfl
  cases b with
  | some b => exact .ite_else_pure (.upTo (.bind tickRead_takes fun _ => .pure _) le_rfl)
  | none =>
    exact .ite_else_pure (.upTo (.bind tickRead_takes fun _ => .ite (.pure _) (.pure _)) le_rfl)

theorem as608CmdAck_takes (instr : UInt8) (extra : List UInt8) (timeoutMs flushMs : UInt32) :
    Prog.Takes (reloj n) start 1 (n * flushMs.toNat + 5 + (n * timeoutMs.toNat + 7))
      (as608CmdAck instr extra timeoutMs flushMs : Prog σ Sample SensorEv UInt8) := by
  unfold as608CmdAck
  refine .mono (.bind (as608FlushRx_takes flushMs) fun _ => .bind (.emit _) fun _ =>
    .bind (as608Recv_takes 32 timeoutMs) fun resp => .pure _) (Nat.le_add_right _ _) ?_
  rw [Nat.zero_add, Nat.add_zero]

theorem as608EnrollCapture_takes (slot : UInt8) :
    Prog.Takes (reloj n) start 1 (n * 31318 + 80)
      (as608EnrollCapture slot : Prog σ Sample SensorEv Bool) := by
  unfold as608EnrollCapture
  refine .mono (.bind (as608FlushRx_takes 50) fun _ => tickRead_bind_takes fun t =>
    .iter_until 30000 (n * 634 + 37) (fun x => ?_) (fun x c hc => fin_mientras rfl hc) _)
    (Nat.le_add_right _ _) ?_
  · refine .mono (tickRead_bind_takes fun now => .ite_else_pure (.upTo
      (tickRead_bind_takes fun now => .ite_pure (.upTo (tickRead_bind_takes fun t =>
        .bind (as608FlushRx_takes 10) fun _ => .bind (as608CmdAck_takes 0x01 [] 200 2) fun r =>
          .ite_else_pure (.upTo (.bind (as608FlushRx_takes 20) fun _ =>
            .bind (as608CmdAck_takes 0x02 [slot] 400 2) fun tz => .pure _) le_rfl)) le_rfl))
      le_rfl)) (Nat.le_add_left _ _) ?_
    show n * 10 + 5 + (n * 2 + 5 + (n * 200 + 7) + (n * 20 + 5 + (n * 2 + 5 + (n * 400 + 7) + 0))) +
      1 + 1 + 1 ≤ _
    omega
  · show n * 50 + 5 + (n * 30000 + 2 * (n * 634 + 37) + 1) ≤ _
    omega

theorem as608EnrollAtId_takes (idTarget : UInt16) :
    Prog.Takes (reloj n) start 1 (n * 63588 + 194)
      (as608EnrollAtId idTarget : Prog σ Sample SensorEv (Option (List UInt8))) := by
  unfold as608EnrollAtId
  refine .mono (.bind (as608FlushRx_takes 100) fun _ =>
    .bind (as608EnrollCapture_takes 0x01) fun ok => .ite_pure (.upTo
      (.bind (as608FlushRx_takes 50) fun _ => .bind (as608EnrollCapture_takes 0x02) fun ok =>
        .ite_pure (.upTo (.bind (as608CmdAck_takes 0x05 [] 300 1) fun r => .ite_pure (.ite_pure
          (.upTo (.bind (as608CmdAck_takes 0x06 (0x01 :: bytesBe idTarget) 500 1) fun r =>
            .ite_pure (.pure _)) le_rfl))) le_rfl)) le_rfl)) (Nat.le_add_right _ _) ?_
  show n * 100 + 5 + (n * 31318 + 80 + (n * 50 + 5 + (n * 31318 + 80 +
    (n * 1 + 5 + (n * 300 + 7) + (n * 1 + 5 + (n * 500 + 7) + 0))))) ≤ _
  omega

/-! ## The ESP module -/

theorem enviarComandoAT_takes (cmd : List UInt8) (maxLen : ℕ) (timeoutMs : UInt32) :
    Prog.Takes (reloj n) start 1 (n * timeoutMs.toNat + 7)
      (enviarComandoAT cmd maxLen timeoutMs : Prog σ Sample EspEv (List UInt8)) := by
  unfold enviarComandoAT
  refine .mono (.bind (.emit _) fun _ => .bind (.emit _) fun _ => tickRead_bind_takes fun t =>
    .iter_until timeoutMs.toNat 3 (fun x => ?_) (fun x c hc => fin_mientras rfl hc) _)
    (by decide) ?_
  · refine tickRead_bind_takes fun now => .ite_else_pure ?_
    refine .upTo (.bind espReadByte_takes fun b => ?_ : Prog.Takes _ _ (1 + 0) (1 + 1) _) le_rfl
    cases b with
    | some b => exact .ite_pure (.upTo (.bind tickRead_takes fun _ => .pure _) le_rfl)
    | none =>
      exact .ite_else_pure (.upTo (.bind tickRead_takes fun _ => .ite (.pure _) (.pure _)) le_rfl)
  · show 0 + (0 + (n * timeoutMs.toNat + 2 * 3 + 1)) ≤ _
    omega

theorem espHTTPGetViaAT_takes (path : List UInt8) (bufferSize : ℕ) :
    Prog.Takes (reloj n) start 1 (n * 32500 + 35)
      (espHTTPGetViaAT path bufferSize : Prog σ Sample EspEv (Option (List UInt8))) := by
  unfold espHTTPGetViaAT espRawHTTPGet
  refine .mono (.bind (enviarComandoAT_takes _ bufferSize 10000) fun resp => .ite_pure (.upTo
    (.bind (enviarComandoAT_takes _ 128 500) fun _ =>
      .bind (enviarComandoAT_takes _ 128 15000) fun aux => .ite_pure (.upTo
        (.bind (enviarComandoAT_takes _ 128 2000) fun aux => .ite_pure (.upTo
          (.bind (enviarComandoAT_takes _ bufferSize 5000) fun resp => .ite (.pure _) (.pure _))
          le_rfl)) le_rfl)) le_rfl)) (Nat.le_add_right _ _) ?_
  show n * 10000 + 7 + (n * 500 + 7 + (n * 15000 + 7 + (n * 2000 + 7 + (n * 5000 + 7 + 0)))) ≤ _
  omega

theorem pedirConfirmacion_takes (path : List UInt8) (bufferSize : ℕ) (textos : List String) :
    Prog.Takes (reloj n) start 1 (n * 32500 + 35)
      (pedirConfirmacion path bufferSize textos : Prog σ Sample EspEv Bool) := by
  unfold pedirConfirmacion
  refine .mono (.bind (espHTTPGetViaAT_takes path bufferSize) fun r => ?_ :
    Prog.Takes _ _ (1 + 0) (n * 32500 + 35 + 0) _) le_rfl le_rfl
  cases r with
  | none => exact .pure _
  | some resp => exact .pure _

/-! ## The registrations -/

theorem marcarPresencia_takes : Prog.Takes (reloj n) start 1 1 marcarPresencia :=
  .bind tickRead_takes fun _ => .modify _

theorem volverAEsperar_takes : Prog.Takes (reloj n) start 1 1 volverAEsperar :=
  .bind marcarPresencia_takes fun _ => .bind (.bind (.emit _) fun _ => .modify _) fun _ => .emit _

theorem leerRfid_takes : Prog.Takes (reloj n) start 1 1 leerRfid := by
  refine .mono (.bind (.read_bind fun m => .pure _) fun r => ?_ : Prog.Takes _ _ (1 + 0) (1 + 0) _)
    le_rfl le_rfl
  cases r with
  | none => exact .pure _
  | some uid => exact .bind (.emit _) fun _ => .bind (.modify _) fun _ => .pure _

/-- A card comes within 15 s, or the machine goes back. -/
theorem pedirTarjeta_takes : Prog.Takes (reloj n) start 1 (n * 15001 + 7) pedirTarjeta := by
  unfold pedirTarjeta
  refine .mono (tickRead_bind_takes fun t => .iter_until (TimeTest.tarjeta.limit + 1) 3
    (fun _ => ?_) (fun _ c hc => ?_) ()) (Nat.le_add_left _ _) ?_
  · refine .mono (.bind leerRfid_takes fun ok => ?_ : Prog.Takes _ _ (1 + 0) (1 + 2) _) le_rfl
      le_rfl
    refine .ite_pure (.upTo (tickRead_bind_takes fun now => ?_ : Prog.Takes _ _ (0 + 1) (1 + 1) _)
      le_rfl)
    refine .ite ?_ ?_
    · exact .upTo (.bind volverAEsperar_takes fun _ => .pure _) le_rfl
    · exact .upTo (.pure _) (Nat.zero_le _)
  · have hrest : ∀ m rest, c.inputs = m :: rest → ∀ i ∈ rest,
        t + (TimeTest.tarjeta.limit + 1) ≤ i.tick ∧ i.tick < 2 ^ 31 :=
      fun m rest hm i hi => hc.range i (hm ▸ List.mem_cons_of_mem m hi)
    unfold leerRfid leerRfidStr
    simp only [Prog.wp_bind]
    refine Prog.wp_read (fun _ => trivial) fun m rest hm => ?_
    cases m.uid with
    | some uid => exact rfl
    | none =>
      refine Prog.wp_ite (fun h => absurd h Bool.false_ne_true) fun _ => ?_
      rw [Prog.wp_bind]
      refine wp_tickRead (fun _ => trivial) fun i rest' hi => ?_
      obtain rfl : rest = i :: rest' := hi
      have htarde := hrest m _ hm i List.mem_cons_self
      have hover := TimeTest.holds_of_gt (e := .tarjeta) rfl htarde.1 htarde.2
      rw [if_pos hover, Prog.wp_bind]
      exact Prog.wp_mono Prog.wp_true (fun _ h => h) fun _ _ _ => rfl
  · show n * (15000 + 1) + 2 * 3 + 1 ≤ _
    omega

theorem enrolar_takes (pin : List UInt8) (idObjetivo : UInt16) :
    Prog.Takes (reloj n) start 0 (n * 381528 + 1164) (enrolar pin idObjetivo) := by
  unfold enrolar
  refine .mono (.iter_count (n * 63588 + 194) (5 - ·) (fun intentos c hc hlen => ?_) 0) le_rfl ?_
  · have hsale (o : Option (List UInt8)) (n x : ℕ) :
        ∀ y, (.inr o : ℕ ⊕ Option (List UInt8)) = .inl y → 1 ≤ n ∧ 5 - y < 5 - x :=
      fun _ h => absurd h Sum.inr_ne_inl
    refine Prog.wp_ite (fun hlt => ?_) fun _ => ⟨0, Nat.zero_le _, rfl, hsale none 0 intentos⟩
    unfold hacer conSensor
    simp only [Prog.wp_bind, Prog.wp_get, Prog.wp_emit]
    refine Prog.wp_mono ((Prog.Takes.zoom (as608EnrollAtId_takes idObjetivo)) _ hc hlen)
      (fun _ h => h) ?_
    rintro r c' ⟨p, hread, hp, hdrop⟩
    cases r with
    | none => exact ⟨p, hp, hdrop, fun y hy => ⟨hread, by obtain rfl := Sum.inl.inj hy; omega⟩⟩
    | some idResultado => exact ⟨p, hp, hdrop, hsale idResultado p intentos⟩
  · omega

end Cerradura
