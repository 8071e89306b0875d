import Cerradura.Teclado
import Cerradura.Elapsed

/-!
# The card reader

`transceive` of rc522_drv.c copies as many bytes into the array of its caller as
the chip says that it has received. The callers look at the number of bits
afterwards, and that number has eight bits.

Results:
1. `rc522_cabe_iff`: when the bytes of a reply fit the arrays of
   `rc522_requestA` and `rc522_anticoll_cl1` and their number is the right one.
2. `rc522_desborda`: 34 bytes.
3. `rc522LeerRfidStr_sample`: what `leer_rfid_str` gives is what the samples of
   the rest of the firmware say.
-/

namespace Cerradura

open Reactive Elapsed

/-! ## The code -/

inductive Reg
  | commandReg
  | commIrqReg
  | divIrqReg
  | errorReg
  | fifoDataReg
  | fifoLevelReg
  | controlReg
  | bitFramingReg
  | collReg
deriving DecidableEq, Repr

/-- What the chip answers to the reads of each register, one after the other. -/
def Chip : Type := Reg → ℕ → UInt8

/-- After a read of `reg`. -/
def Chip.leido (chip : Chip) (reg : Reg) : Chip := fun r =>
  if r = reg then fun k => chip r (k + 1) else chip r

theorem Chip.leido_self (chip : Chip) (reg : Reg) :
    chip.leido reg reg = fun k => chip reg (k + 1) := if_pos rfl

theorem Chip.leido_of_ne (chip : Chip) {reg r : Reg} (h : r ≠ reg) :
    chip.leido reg r = chip r := if_neg h

inductive Rc522Ev
  | write (reg : Reg) (val : UInt8)
  -- back[i] = b
  | back (i : ℕ) (b : UInt8)
deriving DecidableEq, Repr

/-- A program over the chip. The inputs are the readings of the tick counter. -/
abbrev Rc522Prog := Prog Chip ℕ Rc522Ev

def rc522WriteReg (reg : Reg) (val : UInt8) : Rc522Prog Unit := Prog.emit (.write reg val)

def rc522ReadReg (reg : Reg) : Rc522Prog UInt8 := do
  let chip ← Prog.get
  Prog.modify (·.leido reg)
  pure (chip reg 0)

def rc522SetBits (reg : Reg) (m : UInt8) : Rc522Prog Unit := do
  rc522WriteReg reg ((← rc522ReadReg reg) ||| m)

def rc522ClrBits (reg : Reg) (m : UInt8) : Rc522Prog Unit := do
  rc522WriteReg reg ((← rc522ReadReg reg) &&& ~~~m)

/-- `for (i < sendLen) rc522_write_reg(FIFODataReg, send[i])` -/
def escribirFIFO : List UInt8 → Rc522Prog Unit
  | [] => pure ()
  | b :: send => do
    rc522WriteReg .fifoDataReg b
    escribirFIFO send

/-- `for (i < nBytes) back[i] = rc522_read_reg(FIFODataReg)`, with `k` rounds to
go. -/
def leerFIFO : ℕ → ℕ → Rc522Prog (List UInt8)
  | _, 0 => pure []
  | i, k + 1 => do
    let b ← rc522ReadReg .fifoDataReg
    Prog.emit (.back i b)
    let back ← leerFIFO (i + 1) k
    pure (b :: back)

/-- RxIRq or IdleIRq, the timer of the chip, or 50 ms. -/
def esperarIRQ : Rc522Prog Unit := do
  let transStart ← Prog.read
  Prog.iter (fun _ => do
    let now ← Prog.read
    if since 64 now transStart < 50 then
      let irq ← rc522ReadReg .commIrqReg
      if irq &&& 0x30 ≠ 0 then pure (.inr ())
      else
        let divIrq ← rc522ReadReg .divIrqReg
        if divIrq &&& 0x01 ≠ 0 then pure (.inr ()) else pure (.inl ())
    else pure (.inr ())) ()

/-- `transceive` up to the end of the wait. -/
def enviar (send : List UInt8) : Rc522Prog Unit := do
  rc522WriteReg .commandReg 0x00
  rc522WriteReg .commIrqReg 0x7F
  rc522WriteReg .fifoLevelReg 0x80
  escribirFIFO send
  rc522WriteReg .commandReg 0x0C
  rc522SetBits .bitFramingReg 0x80
  esperarIRQ
  rc522ClrBits .bitFramingReg 0x80

/-- What `transceive` returns, what it has stored through `back`, and what it
leaves in `*backBits`, which is 0 before. -/
structure Transaccion where
  ok : Bool
  back : List UInt8
  backBits : UInt8
deriving DecidableEq, Repr

def nBits (fifo lastBits : UInt8) : UInt8 :=
  if lastBits ≠ 0 then (fifo - 1) * 8 + lastBits else fifo * 8

def transceive (send : List UInt8) : Rc522Prog Transaccion := do
  enviar send
  let error ← rc522ReadReg .errorReg
  if error &&& 0x1B ≠ 0 then pure ⟨false, [], 0⟩
  else
    let fifo ← rc522ReadReg .fifoLevelReg
    let control ← rc522ReadReg .controlReg
    let back ← leerFIFO 0 fifo.toNat
    pure ⟨decide (0 < fifo), back, nBits fifo (control &&& 0x07)⟩

/-- `atqa`, if the result is true. `back` has 3 bytes, zero at first. -/
def rc522RequestA : Rc522Prog (Option (List UInt8)) := do
  rc522WriteReg .collReg 0x80
  rc522WriteReg .bitFramingReg 0x07
  let r ← transceive [0x26]
  rc522WriteReg .bitFramingReg 0x00
  if r.ok = false ∨ r.backBits ≠ 16 then pure none
  else pure (some ((List.range 2).map fun i => r.back.getD i 0))

/-- `uid5`, if the result is true. `back` has 10 bytes. -/
def rc522AnticollCl1 : Rc522Prog (Option (List UInt8)) := do
  rc522WriteReg .bitFramingReg 0x00
  let r ← transceive [0x93, 0x20]
  if r.ok = false then pure none
  else if r.backBits ≠ 40 then pure none
  else pure (some ((List.range 5).map fun i => r.back.getD i 0))

/-- `leer_rfid_str`, into an array with room for it. -/
def rc522LeerRfidStr : Rc522Prog (Option (List UInt8)) := do
  match ← rc522RequestA with
  | none => pure none
  | some _ =>
    match ← rc522AnticollCl1 with
    | none => pure none
    | some uid5 =>
      pure (some ((uid5.take 4).flatMap fun b : UInt8 => [hexMayuscula (b >>> 4), hexMayuscula b]))

/-! ## What is stored -/

/-- The bytes stored through `back`, the last one first. -/
def guardados (trace : List Rc522Ev) : List UInt8 :=
  trace.filterMap fun
    | .back _ b => some b
    | .write _ _ => none

/-- At most `size` bytes are stored, and a result that is true has received
`bytes` of them. -/
def Cabe (size bytes : ℕ) (run : Option (Option (List UInt8)) × Config Chip ℕ Rc522Ev) : Prop :=
  (guardados run.2.trace).length ≤ size ∧
    ∀ out, run.1 = some (some out) →
      (guardados run.2.trace).length = bytes ∧ guardados run.2.trace = out.reverse

/-- The registers of the reply are not read, and nothing is stored. -/
def Previo (c c' : Config Chip ℕ Rc522Ev) : Prop :=
  (∀ reg, reg ≠ .bitFramingReg → reg ≠ .commIrqReg → reg ≠ .divIrqReg → c'.st reg = c.st reg) ∧
    guardados c'.trace = guardados c.trace

theorem previo : Prog.Composable Previo where
  refl _ := ⟨fun _ _ _ _ => rfl, rfl⟩
  trans h h' :=
    ⟨fun reg hb hc hd => (h'.1 reg hb hc hd).trans (h.1 reg hb hc hd), h'.2.trans h.2⟩

theorem rc522WriteReg_previo (reg : Reg) (val : UInt8) :
    Prog.Keeps Previo (rc522WriteReg reg val) :=
  .emit fun _ => ⟨fun _ _ _ _ => rfl, rfl⟩

theorem rc522ReadReg_previo {reg : Reg}
    (hreg : reg = .bitFramingReg ∨ reg = .commIrqReg ∨ reg = .divIrqReg) :
    Prog.Keeps Previo (rc522ReadReg reg) := by
  refine .bind previo (.get previo) fun chip => .bind previo (.modify fun c => ⟨?_, rfl⟩)
    fun _ => .pure previo _
  intro r hb hc hd
  refine Chip.leido_of_ne _ ?_
  rintro rfl
  rcases hreg with h | h | h
  · exact hb h
  · exact hc h
  · exact hd h

theorem rc522SetBits_previo {reg : Reg} (m : UInt8)
    (hreg : reg = .bitFramingReg ∨ reg = .commIrqReg ∨ reg = .divIrqReg) :
    Prog.Keeps Previo (rc522SetBits reg m) :=
  .bind previo (rc522ReadReg_previo hreg) fun _ => rc522WriteReg_previo _ _

theorem rc522ClrBits_previo {reg : Reg} (m : UInt8)
    (hreg : reg = .bitFramingReg ∨ reg = .commIrqReg ∨ reg = .divIrqReg) :
    Prog.Keeps Previo (rc522ClrBits reg m) :=
  .bind previo (rc522ReadReg_previo hreg) fun _ => rc522WriteReg_previo _ _

theorem escribirFIFO_previo (send : List UInt8) : Prog.Keeps Previo (escribirFIFO send) := by
  induction send with
  | nil => exact .pure previo ()
  | cons b send ih => exact .bind previo (rc522WriteReg_previo _ _) fun _ => ih

theorem tick_previo : Prog.Keeps Previo Prog.read :=
  .read (fun _ _ _ _ => ⟨fun _ _ _ _ => rfl, rfl⟩) previo

theorem esperarIRQ_previo : Prog.Keeps Previo esperarIRQ := by
  refine .bind previo tick_previo fun transStart => .iter previo (fun _ => ?_) ()
  refine .bind previo tick_previo fun now => .ite (fun _ => ?_) fun _ => .pure previo _
  refine .bind previo (rc522ReadReg_previo (.inr (.inl rfl))) fun irq => ?_
  refine .ite (fun _ => .pure previo _) fun _ => ?_
  refine .bind previo (rc522ReadReg_previo (.inr (.inr rfl))) fun divIrq => ?_
  exact .ite (fun _ => .pure previo _) fun _ => .pure previo _

theorem enviar_previo (send : List UInt8) : Prog.Keeps Previo (enviar send) := by
  refine .bind previo (rc522WriteReg_previo _ _) fun _ => ?_
  refine .bind previo (rc522WriteReg_previo _ _) fun _ => ?_
  refine .bind previo (rc522WriteReg_previo _ _) fun _ => ?_
  refine .bind previo (escribirFIFO_previo send) fun _ => ?_
  refine .bind previo (rc522WriteReg_previo _ _) fun _ => ?_
  refine .bind previo (rc522SetBits_previo _ (.inl rfl)) fun _ => ?_
  exact .bind previo esperarIRQ_previo fun _ => rc522ClrBits_previo _ (.inl rfl)

/-! ## The reply -/

variable {chip : Chip} {ticks : List ℕ} {c : Config Chip ℕ Rc522Ev}

/-- What the chip makes of a reply. -/
def Chip.respuesta (chip : Chip) : Transaccion :=
  if chip .errorReg 0 &&& 0x1B ≠ 0 then ⟨false, [], 0⟩
  else
    ⟨decide (0 < chip .fifoLevelReg 0), (List.range (chip .fifoLevelReg 0).toNat).map
      (chip .fifoDataReg), nBits (chip .fifoLevelReg 0) (chip .controlReg 0 &&& 0x07)⟩

theorem wp_rc522ReadReg {reg : Reg} {halt : Config Chip ℕ Rc522Ev → Prop}
    {post : UInt8 → Config Chip ℕ Rc522Ev → Prop} :
    (rc522ReadReg reg).wp halt post c ↔ post (c.st reg 0)
      { c with st := c.st.leido reg } := Iff.rfl

/-- The loop stores what the chip hands out, in order. -/
theorem wp_leerFIFO (i k : ℕ) : (leerFIFO i k).wp (fun _ => False)
    (fun back c' => back = (List.range k).map (c.st .fifoDataReg) ∧
      guardados c'.trace = back.reverse ++ guardados c.trace) c := by
  induction k generalizing i c with
  | zero => exact ⟨rfl, rfl⟩
  | succ k ih =>
    rw [leerFIFO, Prog.wp_bind, wp_rc522ReadReg, Prog.wp_bind, Prog.wp_emit, Prog.wp_bind]
    refine Prog.wp_mono (ih (i + 1)) (fun _ h => h) fun back c' h => ?_
    obtain ⟨hback, hguarda⟩ := h
    dsimp only at hback
    rw [Chip.leido_self] at hback
    refine ⟨?_, ?_⟩
    · rw [hback, List.range_succ_eq_map, List.map_cons, List.map_map]
      rfl
    · rw [hguarda, List.reverse_cons, List.append_assoc]
      rfl

/-- The reply in full, or nothing stored yet. -/
theorem wp_transceive (send : List UInt8) : (transceive send).wp
    (fun c' => guardados c'.trace = guardados c.trace)
    (fun r c' => r = c.st.respuesta ∧
      guardados c'.trace = r.back.reverse ++ guardados c.trace) c := by
  rw [transceive, Prog.wp_bind]
  refine (enviar_previo send).wp (fun c' h => h.2) fun _ c1 h1 => ?_
  obtain ⟨hst, hguarda⟩ := h1
  have herror : c1.st .errorReg = c.st .errorReg := hst _ nofun nofun nofun
  have hlevel : c1.st .fifoLevelReg = c.st .fifoLevelReg := hst _ nofun nofun nofun
  have hcontrol : c1.st .controlReg = c.st .controlReg := hst _ nofun nofun nofun
  have hdata : c1.st .fifoDataReg = c.st .fifoDataReg := hst _ nofun nofun nofun
  rw [Prog.wp_bind, wp_rc522ReadReg, herror]
  refine Prog.wp_ite (fun herr => ?_) fun hok => ?_
  · exact ⟨(if_pos herr).symm, hguarda⟩
  · rw [Prog.wp_bind, wp_rc522ReadReg, Prog.wp_bind, wp_rc522ReadReg, Prog.wp_bind]
    refine Prog.wp_mono (wp_leerFIFO 0 _) (fun _ h => h.elim) fun back c' h => ?_
    obtain ⟨hback, hguardados⟩ := h
    simp only [Chip.leido_of_ne, ne_eq, reduceCtorEq, not_false_eq_true, hlevel, hcontrol,
      hdata] at hback ⊢
    refine ⟨?_, hguardados.trans (congrArg _ hguarda)⟩
    rw [Chip.respuesta, if_neg hok, hback]

/-- Eight bits of the number of bits. -/
theorem nBits_eq_iff {fifo control : UInt8} {k : ℕ} (hk : k < 32) :
    nBits fifo (control &&& 0x07) = (8 * k).toUInt8 ↔
      control &&& 0x07 = 0 ∧ fifo.toNat % 32 = k := by
  have hbits : (8 * k).toUInt8.toNat = 8 * k := Nat.mod_eq_of_lt (by omega)
  have hlast : (control &&& 0x07).toNat ≤ 7 := by
    rw [UInt8.toNat_and]
    exact Nat.and_le_right
  rw [← UInt8.toNat_inj, hbits]
  unfold nBits
  by_cases h0 : control &&& 0x07 = 0
  · have hval : (fifo * 8).toNat = fifo.toNat * 8 % 2 ^ 8 := UInt8.toNat_mul fifo 8
    rw [if_neg (not_not.mpr h0), hval]
    refine ⟨fun h => ⟨h0, by omega⟩, fun h => by omega⟩
  · -- a number of bits that is no multiple of eight stays one below 256
    have hpos : (control &&& 0x07).toNat ≠ 0 := fun h => h0 (UInt8.toNat_inj.mp h)
    have hval : ((fifo - 1) * 8 + (control &&& 0x07)).toNat =
        ((fifo - 1).toNat * 8 % 2 ^ 8 + (control &&& 0x07).toNat) % 2 ^ 8 := by
      rw [UInt8.toNat_add, UInt8.toNat_mul]
      rfl
    rw [if_pos h0, hval]
    refine ⟨fun h => absurd h (by omega), fun h => absurd h.1 h0⟩

/-! ## The callers -/

/-- Neither an error nor more bytes than there is room for. -/
def Chip.Entra (chip : Chip) (size : ℕ) : Prop :=
  chip .errorReg 0 &&& 0x1B ≠ 0 ∨ (chip .fifoLevelReg 0).toNat ≤ size

theorem respuesta_length (chip : Chip) : chip.respuesta.back.length =
    if chip .errorReg 0 &&& 0x1B ≠ 0 then 0 else (chip .fifoLevelReg 0).toNat := by
  unfold Chip.respuesta
  split <;> simp

theorem respuesta_length_le_iff {size : ℕ} :
    chip.respuesta.back.length ≤ size ↔ chip.Entra size := by
  rw [respuesta_length, Chip.Entra]
  split
  · next h => exact ⟨fun _ => .inl h, fun _ => Nat.zero_le _⟩
  · next h => exact ⟨.inr, fun h' => h'.resolve_left h⟩

/-- A reply with the right number of bits that fits has the right number of
bytes. -/
theorem respuesta_length_eq {k size : ℕ} (hk : k < 32) (hsize : size < 32 + k)
    (hle : chip.respuesta.back.length ≤ size) (hok : chip.respuesta.ok = true)
    (hbits : chip.respuesta.backBits = (8 * k).toUInt8) : chip.respuesta.back.length = k := by
  rw [respuesta_length] at hle ⊢
  unfold Chip.respuesta at hok hbits
  split at hok
  · exact absurd hok Bool.false_ne_true
  · next h =>
    rw [if_neg h] at hbits hle ⊢
    obtain ⟨-, hmod⟩ := (nBits_eq_iff hk).mp hbits
    omega

theorem map_getD_range {back : List UInt8} {k : ℕ} (h : back.length = k) :
    ((List.range k).map fun i => back.getD i 0) = back := by
  subst h
  refine List.ext_getElem (by simp) fun i hi hback => ?_
  simp [List.getD_eq_getElem?_getD, List.getElem?_eq_getElem hback]

/-- What a caller that expects `k` bytes makes of a reply: it looks at the number of
bits. -/
def Chip.salida (chip : Chip) (k : ℕ) : Option (List UInt8) :=
  if chip.respuesta.ok = false ∨ chip.respuesta.backBits ≠ (8 * k).toUInt8 then none
  else some ((List.range k).map fun i => chip.respuesta.back.getD i 0)

/-- If the reply fits, the result is the reply. -/
theorem salida_eq {k size : ℕ} (hk : k < 32) (hsize : size < 32 + k)
    (hle : chip.respuesta.back.length ≤ size) {out : List UInt8} (h : chip.salida k = some out) :
    chip.respuesta.back.length = k ∧ out = chip.respuesta.back := by
  unfold Chip.salida at h
  split at h
  · cases h
  · next hok =>
    obtain ⟨hok, hbits⟩ := not_or.mp hok
    have hlength := respuesta_length_eq hk hsize hle (Bool.eq_true_of_not_eq_false hok)
      (not_not.mp hbits)
    exact ⟨hlength, (Option.some.inj h).symm.trans (map_getD_range hlength)⟩

/-- The whole reply has been stored, whatever the result. -/
def Recoge (k : ℕ) (c : Config Chip ℕ Rc522Ev) (out : Option (List UInt8))
    (c' : Config Chip ℕ Rc522Ev) : Prop :=
  guardados c'.trace = c.st.respuesta.back.reverse ++ guardados c.trace ∧ out = c.st.salida k

theorem wp_rc522RequestA : rc522RequestA.wp (fun c' => guardados c'.trace = guardados c.trace)
    (Recoge 2 c) c := by
  simp only [rc522RequestA, rc522WriteReg, Prog.wp_bind, Prog.wp_emit]
  refine Prog.wp_mono (wp_transceive _) (fun _ h => h) fun r c' h => ?_
  obtain ⟨rfl, hguarda⟩ := h
  refine Prog.wp_ite (fun hno => ⟨hguarda, (if_pos hno).symm⟩) fun hok => ?_
  exact ⟨hguarda, (if_neg hok).symm⟩

theorem wp_rc522AnticollCl1 : rc522AnticollCl1.wp
    (fun c' => guardados c'.trace = guardados c.trace) (Recoge 5 c) c := by
  simp only [rc522AnticollCl1, rc522WriteReg, Prog.wp_bind, Prog.wp_emit]
  refine Prog.wp_mono (wp_transceive _) (fun _ h => h) fun r c' h => ?_
  obtain ⟨rfl, hguarda⟩ := h
  refine Prog.wp_ite (fun hno => ⟨hguarda, (if_pos (.inl hno)).symm⟩) fun hok => ?_
  refine Prog.wp_ite (fun hbits => ⟨hguarda, (if_pos (.inr hbits)).symm⟩) fun hbits => ?_
  exact ⟨hguarda, (if_neg (not_or.mpr ⟨hok, hbits⟩)).symm⟩

/-! ## The wait ends -/

theorem wp_escribirFIFO (send : List UInt8) : (escribirFIFO send).wp (fun _ => False)
    (fun _ c' => c'.inputs = c.inputs) c := by
  induction send generalizing c with
  | nil => exact rfl
  | cons b send ih =>
    rw [escribirFIFO, Prog.wp_bind, rc522WriteReg, Prog.wp_emit]
    exact ih

/-- Fifty milliseconds end the wait. -/
theorem wp_esperarIRQ (h : c.inputs = [0, 50]) :
    esperarIRQ.wp (fun _ => False) (fun _ _ => True) c := by
  rw [esperarIRQ, Prog.wp_bind]
  refine Prog.wp_read_cons h ?_
  refine Prog.wp_iter_total (fun _ c' => c'.inputs = [50]) ?_ rfl
  rintro - c' hc'
  rw [Prog.wp_bind]
  refine Prog.wp_read_cons hc' ?_
  exact Prog.wp_ite (fun hlt => absurd hlt (by decide)) fun _ => trivial

theorem wp_transceive_vuelve (send : List UInt8) (h : c.inputs = [0, 50]) :
    (transceive send).wp (fun _ => False) (fun _ _ => True) c := by
  rw [transceive, Prog.wp_bind]
  simp only [enviar, rc522WriteReg, rc522SetBits, rc522ClrBits, Prog.wp_bind, Prog.wp_emit]
  refine Prog.wp_mono (wp_escribirFIFO send) (fun _ h => h) fun _ c1 h1 => ?_
  simp only [Prog.wp_bind, Prog.wp_emit, wp_rc522ReadReg]
  refine Prog.wp_mono (wp_esperarIRQ (h1.trans h)) (fun _ h => h) fun _ c2 _ => ?_
  refine Prog.wp_ite (fun _ => trivial) fun _ => ?_
  rw [Prog.wp_bind, wp_rc522ReadReg, Prog.wp_bind, wp_rc522ReadReg, Prog.wp_bind]
  exact Prog.wp_mono (wp_leerFIFO 0 _) (fun _ h => h) fun _ _ _ => trivial

theorem wp_rc522RequestA_vuelve (h : c.inputs = [0, 50]) :
    rc522RequestA.wp (fun _ => False) (fun _ _ => True) c := by
  simp only [rc522RequestA, rc522WriteReg, Prog.wp_bind, Prog.wp_emit]
  refine Prog.wp_mono (wp_transceive_vuelve _ h) (fun _ h => h) fun r c' _ => ?_
  exact Prog.wp_ite (fun _ => trivial) fun _ => trivial

theorem wp_rc522AnticollCl1_vuelve (h : c.inputs = [0, 50]) :
    rc522AnticollCl1.wp (fun _ => False) (fun _ _ => True) c := by
  simp only [rc522AnticollCl1, rc522WriteReg, Prog.wp_bind, Prog.wp_emit]
  refine Prog.wp_mono (wp_transceive_vuelve _ h) (fun _ h => h) fun r c' _ => ?_
  refine Prog.wp_ite (fun _ => trivial) fun _ => ?_
  exact Prog.wp_ite (fun _ => trivial) fun _ => trivial

/-! ## The arrays -/

section Caller

variable {m : Rc522Prog (Option (List UInt8))} {size k : ℕ}

theorem cabe_of_le (hk : k < 32) (hsize : size < 32 + k)
    (hle : chip.respuesta.back.length ≤ size)
    (hwp : m.wp (fun c' => guardados c'.trace = []) (Recoge k ⟨chip, ticks, []⟩)
      ⟨chip, ticks, []⟩) : Cabe size k (m ⟨chip, ticks, []⟩) := by
  unfold Prog.wp at hwp
  cases hm : m ⟨chip, ticks, []⟩ with
  | mk r c' =>
    rw [hm] at hwp
    cases r with
    | none =>
      have hnil : guardados c'.trace = [] := hwp
      refine ⟨?_, nofun⟩
      rw [hnil]
      exact Nat.zero_le _
    | some out =>
      obtain ⟨hguarda, hout⟩ := hwp
      have hback : guardados c'.trace = chip.respuesta.back.reverse :=
        hguarda.trans (List.append_nil _)
      refine ⟨by rwa [hback, List.length_reverse], fun bytes hbytes => ?_⟩
      obtain rfl : out = some bytes := Option.some.inj hbytes
      obtain ⟨hlength, rfl⟩ := salida_eq hk hsize hle hout.symm
      exact ⟨by rw [hback, List.length_reverse, hlength], hback⟩

theorem le_of_cabe (hvuelve : m.wp (fun _ => False) (fun _ _ => True) ⟨chip, ticks, []⟩)
    (hwp : m.wp (fun c' => guardados c'.trace = []) (Recoge k ⟨chip, ticks, []⟩)
      ⟨chip, ticks, []⟩) (h : Cabe size k (m ⟨chip, ticks, []⟩)) :
    chip.respuesta.back.length ≤ size := by
  obtain ⟨out, c', hrun, -⟩ := Prog.wp_returns hvuelve
  obtain ⟨hguarda, -⟩ := Prog.wp_elim hwp hrun
  have hback : guardados c'.trace = chip.respuesta.back.reverse :=
    hguarda.trans (List.append_nil _)
  have hle := h.1
  rwa [hrun, hback, List.length_reverse] at hle

/-- For a caller with an array of `size` bytes that expects `k` of them. -/
theorem cabe_iff (hk : k < 32) (hsize : size < 32 + k)
    (hwp : ∀ c, m.wp (fun c' => guardados c'.trace = guardados c.trace) (Recoge k c) c)
    (hvuelve : ∀ c, c.inputs = [0, 50] → m.wp (fun _ => False) (fun _ _ => True) c) :
    (∀ ticks, Cabe size k (m ⟨chip, ticks, []⟩)) ↔ chip.Entra size := by
  rw [← respuesta_length_le_iff]
  constructor
  · exact fun h => le_of_cabe (hvuelve _ rfl) (hwp _) (h [0, 50])
  · exact fun hle ticks => cabe_of_le hk hsize hle (hwp _)

end Caller

/-- For every stream of answers of the chip: the arrays are large enough, and a
result that is true has the right number of bytes, exactly if the chip reports an
error or no more bytes than the array holds. -/
theorem rc522_cabe_iff (chip : Chip) :
    ((∀ ticks, Cabe 3 2 (rc522RequestA ⟨chip, ticks, []⟩)) ↔ chip.Entra 3) ∧
      ((∀ ticks, Cabe 10 5 (rc522AnticollCl1 ⟨chip, ticks, []⟩)) ↔ chip.Entra 10) :=
  ⟨cabe_iff (by decide) (by decide) (fun _ => wp_rc522RequestA)
      fun _ => wp_rc522RequestA_vuelve,
    cabe_iff (by decide) (by decide) (fun _ => wp_rc522AnticollCl1)
      fun _ => wp_rc522AnticollCl1_vuelve⟩

/-- A chip with 34 bytes in its queue. -/
def llena : Chip := fun
  | .fifoLevelReg => fun _ => 34
  | _ => fun _ => 0

/-- Both arrays overflow, and 34 bytes are taken for 2. -/
theorem rc522_desborda : ¬ ∀ (chip : Chip) (ticks : List ℕ),
    Cabe 3 2 (rc522RequestA ⟨chip, ticks, []⟩) ∧
      Cabe 10 5 (rc522AnticollCl1 ⟨chip, ticks, []⟩) := by
  intro h
  have hle : (guardados (rc522RequestA ⟨llena, [0, 50], []⟩).2.trace).length ≤ 3 :=
    (h llena [0, 50]).1.1
  exact absurd hle (by decide +kernel)

/-! ## The UID as text -/

/-- The first four bytes of a list that has them. -/
def uidOf (uid5 : List UInt8) (h : uid5.length = 5) : Vector UInt8 4 :=
  ⟨(uid5.take 4).toArray, by rw [List.size_toArray, List.length_take, h]; rfl⟩

theorem wp_rc522LeerRfidStr : rc522LeerRfidStr.wp (fun _ => True)
    (fun out _ => ∃ uid : Option (Vector UInt8 4), out = uid.map uidStr) c := by
  rw [rc522LeerRfidStr, Prog.wp_bind]
  refine Prog.wp_mono wp_rc522RequestA (fun _ _ => trivial) fun atqa c1 _ => ?_
  cases atqa with
  | none => exact ⟨none, rfl⟩
  | some atqa =>
    dsimp only
    rw [Prog.wp_bind]
    refine Prog.wp_mono wp_rc522AnticollCl1 (fun _ _ => trivial) fun uid5 c2 h => ?_
    obtain ⟨-, huid⟩ := h
    cases uid5 with
    | none => exact ⟨none, rfl⟩
    | some uid5 =>
      have hlength : uid5.length = 5 := by
        unfold Chip.salida at huid
        split at huid
        · cases huid
        · rw [Option.some.inj huid, List.length_map, List.length_range]
      exact ⟨some (uidOf uid5 hlength), rfl⟩

/-- The rest of the firmware asks for the UID of a card that answers, and gets what
`leer_rfid_str` makes of the chip. -/
theorem rc522LeerRfidStr_sample {σ ε : Type} {c' : Config Chip ℕ Rc522Ev}
    {out : Option (List UInt8)} (h : rc522LeerRfidStr c = (some out, c')) :
    ∃ m : Sample, ∀ (s : σ) (rest : List Sample) (trace : List ε),
      leerRfidStr ⟨s, m :: rest, trace⟩ = (some out, ⟨s, rest, trace⟩) := by
  obtain ⟨uid, rfl⟩ := Prog.wp_elim wp_rc522LeerRfidStr h
  exact ⟨{ Sample.quiet 0 with uid := uid }, fun _ _ _ => rfl⟩

end Cerradura
