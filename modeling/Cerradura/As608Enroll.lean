import Cerradura.As608Scan
import Cerradura.PinTable

/-!
# The blocking commands of the AS608 fingerprint sensor

Enrolment and deletion wait for the sensor's reply before they go on. They use
the line of the scan machine, but neither its state nor its buffer.
-/

namespace Cerradura

open Reactive

variable {σ : Type}

/-! ## Commands -/

/-- The bytes received, until the buffer is full, nothing has come for 30 ms, or
the time is up. -/
def as608Recv (maxLen : ℕ) (timeoutMs : UInt32) : Prog σ Sample SensorEv (List UInt8) := do
  let t ← tickRead
  let start := (TimeTest.recv timeoutMs).keep t
  Prog.iter (fun (buf, lastByte) => do
    let now ← tickRead
    if (TimeTest.recv timeoutMs).holds now start then
      match ← sensorReadByte with
      | some b =>
        if buf.length < maxLen then
          let t ← tickRead
          pure (.inl (buf ++ [b], TimeTest.recvIdle.keep t))
        else pure (.inr buf)
      | none =>
        if 0 < buf.length then
          let now ← tickRead
          if TimeTest.recvIdle.holds now lastByte then pure (.inr buf)
          else pure (.inl (buf, lastByte))
        else pure (.inl (buf, lastByte))
    else pure (.inr buf)) ([], TimeTest.recvIdle.keep t)

/-- What is received is what arrives, but for a byte that does not fit. -/
theorem as608Recv_took {c : Config σ Sample SensorEv} (maxLen : ℕ) (timeoutMs : UInt32) :
    (as608Recv maxLen timeoutMs).wp (fun c' => ∃ bs, Took c bs c')
      (fun buf c' => ∃ bs, Took c bs c' ∧ c'.st = c.st ∧ buf = bs.take maxLen) c := by
  simp only [as608Recv, Prog.wp_bind]
  refine wp_tickRead (fun _ => ⟨[], Took.refl⟩) fun m0 rest0 h0 => ?_
  refine Prog.wp_iter
    (fun x c' => Took c x.1 c' ∧ c'.st = c.st ∧ x.1.length ≤ maxLen)
    (fun x c' h => ⟨x.1, h.1⟩) ?_ ⟨Took.refl.read h0, rfl, Nat.zero_le _⟩
  rintro ⟨bs, lastByte⟩ c1 ⟨htook, hst, hlen⟩
  have hall : bs = bs.take maxLen := (List.take_of_length_le hlen).symm
  rw [Prog.wp_bind]
  refine wp_tickRead (fun _ => ⟨bs, htook⟩) fun m1 rest1 h1 => ?_
  have htook1 := htook.read h1
  refine Prog.wp_ite (fun _ => ?_) fun _ => ⟨bs, htook1, hst, hall⟩
  rw [Prog.wp_bind]
  refine wp_sensorReadByte (fun _ => ⟨bs, htook1⟩) (fun m2 rest2 h2 => ?_)
    fun m2 rest2 b h2 => ?_
  · have htook2 := htook1.read h2
    refine Prog.wp_ite (fun _ => ?_) fun _ => ⟨htook2, hst, hlen⟩
    rw [Prog.wp_bind]
    refine wp_tickRead (fun _ => ⟨bs, htook2⟩) fun m3 rest3 h3 => ?_
    exact Prog.wp_ite (fun _ => ⟨bs, htook2.read h3, hst, hall⟩)
      fun _ => ⟨htook2.read h3, hst, hlen⟩
  · have htook2 := (htook1.read h2).rx b
    refine Prog.wp_ite (fun hroom => ?_) fun hfull => ⟨bs ++ [b], htook2, hst, ?_⟩
    · rw [Prog.wp_bind]
      refine wp_tickRead (fun _ => ⟨_, htook2⟩) fun m3 rest3 h3 => ?_
      refine ⟨htook2.read h3, hst, ?_⟩
      rw [List.length_append]
      exact hroom
    · show bs = (bs ++ [b]).take maxLen
      rw [List.take_append_of_le_length (not_lt.mp hfull)]
      exact hall

/-- `respMax` is the size of the caller's buffer. -/
def as608GetAck (respMax : ℕ) (timeoutMs : UInt32) : Prog σ Sample SensorEv UInt8 := do
  let respBuf ← as608Recv respMax timeoutMs
  pure (as608TryParseAck respBuf)

/-- A command and its confirmation code. -/
def as608CmdAck (instr : UInt8) (extra : List UInt8) (timeoutMs flushMs : UInt32) :
    Prog σ Sample SensorEv UInt8 := do
  as608FlushRx flushMs
  as608WritePacket 0x01 (instr :: extra.take 7)
  as608GetAck 32 timeoutMs

/-- `(uint8_t)(n >> 8), (uint8_t)(n & 0xFF)` -/
def bytesBe (n : UInt16) : List UInt8 := [(n >>> 8).toUInt8, (n &&& 0xFF).toUInt8]

def as608CmdGetImageLong : Prog σ Sample SensorEv UInt8 := as608CmdAck 0x01 [] 200 2

def as608CmdImage2Tz (slot : UInt8) : Prog σ Sample SensorEv UInt8 := as608CmdAck 0x02 [slot] 400 2

def as608CmdRegModel : Prog σ Sample SensorEv UInt8 := as608CmdAck 0x05 [] 300 1

def as608CmdStore (id : UInt16) : Prog σ Sample SensorEv UInt8 :=
  as608CmdAck 0x06 (0x01 :: bytesBe id) 500 1

def as608CmdEmpty : Prog σ Sample SensorEv UInt8 := as608CmdAck 0x0D [] 2000 2

def as608CmdDelete (pageId n : UInt16) : Prog σ Sample SensorEv UInt8 :=
  as608CmdAck 0x0C (bytesBe pageId ++ bytesBe n) 1000 2

/-- The number of templates. The firmware only prints it. -/
def as608CmdTemplateCount : Prog σ Sample SensorEv (Option UInt16) := do
  as608FlushRx 1
  as608WritePacket 0x01 [0x1D]
  let resp ← as608Recv 32 3000
  if resp.length < 14 then pure none
  else if as608TryParseAck resp ≠ 0x00 then pure none
  else pure (some (be16 (resp.getD 10 0) (resp.getD 11 0)))

/-! ## Init -/

/-- VfyPwd with the password 0. -/
def cmdVfyPwd : List UInt8 :=
  [0xEF, 0x01, 0xFF, 0xFF, 0xFF, 0xFF, 0x01, 0x00, 0x07, 0x13, 0x00, 0x00, 0x00, 0x00, 0x00, 0x1B]

def as608Check : Prog σ Sample SensorEv Bool := do
  as608FlushRx 1
  Prog.emit (.tx cmdVfyPwd)
  let resp ← as608Recv 32 3000
  pure (as608TryParseAck resp = 0x00)

def as608Init : Prog σ Sample SensorEv Unit := do
  as608FlushRx 10
  let _ ← as608Check
  let _ ← as608CmdTemplateCount

/-! ## Enrolment and deletion -/

def as608ClearAllTemplates : Prog σ Sample SensorEv Bool := do
  let r ← as608CmdEmpty
  pure (r = 0x00)

def as608DeleteId (id : UInt16) : Prog σ Sample SensorEv Bool := do
  let r ← as608CmdDelete id 1
  pure (r = 0x00)

/-- An image of the finger, converted into the buffer `slot`. -/
def as608EnrollCapture (slot : UInt8) : Prog σ Sample SensorEv Bool := do
  as608FlushRx 50
  let start := TimeTest.enrollCapture.keep (← tickRead)
  Prog.iter (fun lastAttempt => do
    let now ← tickRead
    if TimeTest.enrollCapture.holds now start then
      let now ← tickRead
      if TimeTest.enrollAttempt.holds now lastAttempt then pure (.inl lastAttempt)
      else
        let lastAttempt := TimeTest.enrollAttempt.keep (← tickRead)
        as608FlushRx 10
        let r ← as608CmdGetImageLong
        if r = 0x00 then
          as608FlushRx 20
          let tz ← as608CmdImage2Tz slot
          pure (.inr (tz = 0x00))
        -- no finger yet, or an error
        else pure (.inl lastAttempt)
    else pure (.inr false)) 0

/-- The four digits of the id, once the template is stored. -/
def as608EnrollAtId (idTarget : UInt16) : Prog σ Sample SensorEv (Option (List UInt8)) := do
  as608FlushRx 100
  if !(← as608EnrollCapture 0x01) then pure none
  else
    as608FlushRx 50
    if !(← as608EnrollCapture 0x02) then pure none
    else if (← as608CmdRegModel) ≠ 0x00 then pure none
    else if idTarget > 0x00A3 then pure none
    else if (← as608CmdStore idTarget) ≠ 0x00 then pure none
    else pure (some ((sprintf04 idTarget.toNat).take 4))

end Cerradura
