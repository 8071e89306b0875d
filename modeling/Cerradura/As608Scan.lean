import Cerradura.Hardware

/-!
# The scan machine of the AS608 fingerprint sensor

`as608ScanStep` of as608.c advances a scan (GetImage, Image2Tz, HiSpeedSearch)
in short steps. The first part is the code. The second part gives a step as a
function of what the step received and of the clock (`Scan.next`), and
`as608ScanStep_eq_next` shows that the code computes it.
-/

namespace Cerradura

open Reactive

variable {σ : Type}

/-! ## Frames -/

/-- The bytes `as608WritePacket` puts on the line. -/
def as608Frame (packetType : UInt8) (payload : List UInt8) : List UInt8 :=
  -- the length covers the checksum, and both are 16-bit
  let len : UInt16 := payload.length.toUInt16 + 2
  let lenHi := (len >>> 8).toUInt8
  let lenLo := (len &&& 0xFF).toUInt8
  let sum := payload.foldl (fun s b => s + b.toUInt16)
    (packetType.toUInt16 + lenHi.toUInt16 + lenLo.toUInt16)
  [0xEF, 0x01, 0xFF, 0xFF, 0xFF, 0xFF, packetType, lenHi, lenLo] ++ payload ++
    [(sum >>> 8).toUInt8, (sum &&& 0xFF).toUInt8]

def as608WritePacket (packetType : UInt8) (payload : List UInt8) : Prog σ Sample SensorEv Unit :=
  Prog.emit (.tx (as608Frame packetType payload))

/-- The payloads of the three commands of a scan. -/
def getImagePayload : List UInt8 := [0x01]

def image2TzPayload : List UInt8 := [0x02, 0x01]

/-- HiSpeedSearch over the pages `0x0000 .. 0x00A2`. -/
def searchPayload : List UInt8 := [0x1B, 0x01, 0x00, 0x00, 0x00, 0xA3]

/-- `((uint16_t)hi << 8) | lo` -/
def be16 (hi lo : UInt8) : UInt16 := (hi.toUInt16 <<< 8) ||| lo.toUInt16

/-- The confirmation code of an accumulated reply, `0xFF` while there is none. -/
def as608TryParseAck (buf : List UInt8) : UInt8 :=
  if buf.length < 12 then 0xFF
  else if buf.getD 0 0 ≠ 0xEF ∨ buf.getD 1 0 ≠ 0x01 then 0xFF
  else if buf.getD 6 0 ≠ 0x07 then 0xFF
  else buf.getD 9 0

/-- The length of the frame that its header announces, 0 while unknown. -/
def as608ExpectedFrameLen (buf : List UInt8) : UInt16 :=
  if buf.length < 9 then 0
  else if buf.getD 0 0 ≠ 0xEF ∨ buf.getD 1 0 ≠ 0x01 then 0
  else 9 + be16 (buf.getD 7 0) (buf.getD 8 0)

/-! ## Receiving -/

def as608FlushRx (ms : UInt32) : Prog σ Sample SensorEv Unit := do
  let start := (TimeTest.flushRx ms).keep (← tickRead)
  Prog.iter (fun _ => do
    let now ← tickRead
    if (TimeTest.flushRx ms).holds now start then
      let _ ← sensorReadByte
      pure (.inl ())
    else pure (.inr ())) ()

/-! ## The machine -/

inductive ScanSt
  | idle
  | sendGetImage
  | waitGetImage
  | predlyImage2Tz
  | sendImage2Tz
  | waitImage2Tz
  | sendSearch
  | waitSearch
  | doneNoFinger
  | doneMatch
  | doneNoMatch
  | doneError
deriving DecidableEq, Repr

/-- `as608ScanStatus_t` -/
inductive ScanStatus
  | scanIdle
  | scanInProgress
  | scanMatch
  | scanNoMatch
  | scanError
  | scanNoFinger
deriving DecidableEq, Repr

/-- `g_scan`. The first `respLen` bytes of the reply buffer are a list. -/
structure Scan where
  st : ScanSt
  tCmdStart : ℤ
  tLastByte : ℤ
  resp : List UInt8
  lastId : UInt16
  lastScore : UInt16
deriving DecidableEq, Repr

def respSize : ℕ := 64

def as608ScanReset : Scan :=
  { st := .sendGetImage, tCmdStart := 0, tLastByte := 0, resp := [], lastId := 0, lastScore := 0 }

def as608ReadSlice (buf : List UInt8) (maxLen : ℕ) (sliceMs : UInt32) :
    Prog Scan Sample SensorEv (List UInt8) := do
  let start := (TimeTest.readSlice sliceMs).keep (← tickRead)
  Prog.iter (fun buf => do
    let now ← tickRead
    if (TimeTest.readSlice sliceMs).holds now start then
      match ← sensorReadByte with
      | some b =>
        if buf.length < maxLen then
          let t ← tickRead
          Prog.modify fun g => { g with tLastByte := Storage.u32.keep t }
          pure (.inl (buf ++ [b]))
        -- the buffer is full: `b` is lost
        else pure (.inr buf)
      | none => pure (.inl buf)
    else pure (.inr buf)) buf

/-- One call of `as608ScanStep`: the status it returns and, when it writes
them, `*idOut` and `*scoreOut`. -/
def as608ScanStep : Prog Scan Sample SensorEv (ScanStatus × Option (UInt16 × UInt16)) := do
  let g ← Prog.get
  match g.st with
  | .idle =>
    Prog.modify ({ · with st := .sendGetImage })
    pure (.scanInProgress, none)
  | .sendGetImage =>
    Prog.modify ({ · with resp := [] })
    as608FlushRx 2
    as608WritePacket 0x01 getImagePayload
    let t ← tickRead
    Prog.modify ({ · with tCmdStart := TimeTest.waitGetImage.keep t, st := .waitGetImage })
    pure (.scanInProgress, none)
  | .waitGetImage =>
    let resp ← as608ReadSlice g.resp respSize 4
    Prog.modify ({ · with resp := resp })
    let code := as608TryParseAck resp
    if code ≠ 0xFF then
      if code = 0x00 then
        let t ← tickRead
        Prog.modify ({ · with st := .predlyImage2Tz, tCmdStart := TimeTest.predlyImage2Tz.keep t })
      else if code = 0x02 then Prog.modify ({ · with st := .doneNoFinger })
      else Prog.modify ({ · with st := .doneError })
    else
      let t ← tickRead
      if TimeTest.waitGetImage.holds t g.tCmdStart then
        Prog.modify ({ · with st := .doneNoFinger })
    pure (.scanInProgress, none)
  | .predlyImage2Tz =>
    let t ← tickRead
    if TimeTest.predlyImage2Tz.holds t g.tCmdStart then
      Prog.modify ({ · with st := .sendImage2Tz })
    pure (.scanInProgress, none)
  | .sendImage2Tz =>
    Prog.modify ({ · with resp := [] })
    as608FlushRx 2
    as608WritePacket 0x01 image2TzPayload
    let t ← tickRead
    Prog.modify ({ · with tCmdStart := TimeTest.waitImage2Tz.keep t, st := .waitImage2Tz })
    pure (.scanInProgress, none)
  | .waitImage2Tz =>
    let resp ← as608ReadSlice g.resp respSize 4
    Prog.modify ({ · with resp := resp })
    let code := as608TryParseAck resp
    if code ≠ 0xFF then
      if code = 0x00 then Prog.modify ({ · with st := .sendSearch })
      else Prog.modify ({ · with st := .doneError })
    else
      let t ← tickRead
      if TimeTest.waitImage2Tz.holds t g.tCmdStart then
        Prog.modify ({ · with st := .doneError })
    pure (.scanInProgress, none)
  | .sendSearch =>
    Prog.modify ({ · with resp := [] })
    as608FlushRx 1
    as608WritePacket 0x01 searchPayload
    let t ← tickRead
    Prog.modify ({ · with tCmdStart := TimeTest.waitSearch.keep t, st := .waitSearch })
    pure (.scanInProgress, none)
  | .waitSearch =>
    let resp ← as608ReadSlice g.resp respSize 4
    Prog.modify ({ · with resp := resp })
    let code := as608TryParseAck resp
    if code ≠ 0xFF then
      let expect := as608ExpectedFrameLen resp
      if code = 0x00 then
        if expect ≠ 0 ∧ expect.toNat ≤ resp.length ∧ 14 ≤ resp.length then
          let lastId := be16 (resp.getD 10 0) (resp.getD 11 0)
          let lastScore := be16 (resp.getD 12 0) (resp.getD 13 0)
          Prog.modify ({ · with lastId := lastId, lastScore := lastScore, st := .doneMatch })
          pure (.scanInProgress, some (lastId, lastScore))
        -- wait for the rest of the frame; the timeout is not looked at here
        else pure (.scanInProgress, none)
      else
        Prog.modify ({ · with st := .doneNoMatch })
        pure (.scanInProgress, none)
    else
      let t ← tickRead
      if TimeTest.waitSearch.holds t g.tCmdStart then
        Prog.modify ({ · with st := .doneNoFinger })
      pure (.scanInProgress, none)
  | .doneMatch =>
    Prog.modify ({ · with st := .idle })
    pure (.scanMatch, some (g.lastId, g.lastScore))
  | .doneNoFinger =>
    Prog.modify ({ · with st := .idle })
    pure (.scanNoFinger, none)
  | .doneNoMatch =>
    Prog.modify ({ · with st := .idle })
    pure (.scanNoMatch, none)
  | .doneError =>
    Prog.modify ({ · with st := .idle })
    pure (.scanError, none)

/-! ## A step as a function -/

/-- The reply buffer after a slice in which the bytes `bs` arrived. -/
def Scan.accumulate (g : Scan) (bs : List UInt8) : List UInt8 := (g.resp ++ bs).take respSize

/-- The reply to a search is complete: the frame its header announces is there
and holds an id and a score. -/
def SearchComplete (resp : List UInt8) : Prop :=
  as608ExpectedFrameLen resp ≠ 0 ∧ (as608ExpectedFrameLen resp).toNat ≤ resp.length ∧
    14 ≤ resp.length

instance (resp : List UInt8) : Decidable (SearchComplete resp) :=
  inferInstanceAs (Decidable (_ ∧ _ ∧ _))

structure ScanResult where
  scan : Scan
  status : ScanStatus
  out : Option (UInt16 × UInt16)
  sent : Option (List UInt8)
deriving DecidableEq, Repr

/-- The scan goes on in `g`. -/
def inProgress (g : Scan) : ScanResult := ⟨g, .scanInProgress, none, none⟩

/-- The scan has ended with `status`. -/
def finished (g : Scan) (status : ScanStatus) (out : Option (UInt16 × UInt16)) : ScanResult :=
  ⟨{ g with st := .idle }, status, out, none⟩

/-- The command `payload` was sent at `t`. -/
def sending (g : Scan) (st : ScanSt) (payload : List UInt8) (t : ℕ) : ScanResult :=
  ⟨{ g with resp := [], tCmdStart := Storage.u32.keep t, st := st }, .scanInProgress, none,
    some (as608Frame 0x01 payload)⟩

/-- A step in which the bytes `bs` arrived and the clock read `t`, apart from
`tLastByte`, which nothing reads. -/
def Scan.next (g : Scan) (bs : List UInt8) (t : ℕ) : ScanResult :=
  let resp := g.accumulate bs
  let code := as608TryParseAck resp
  match g.st with
  | .idle => inProgress { g with st := .sendGetImage }
  | .sendGetImage => sending g .waitGetImage getImagePayload t
  | .waitGetImage =>
    if code = 0xFF then
      if TimeTest.waitGetImage.holds t g.tCmdStart then
        inProgress { g with resp := resp, st := .doneNoFinger }
      else inProgress { g with resp := resp }
    else if code = 0x00 then
      inProgress { g with resp := resp, st := .predlyImage2Tz, tCmdStart := Storage.u32.keep t }
    else if code = 0x02 then inProgress { g with resp := resp, st := .doneNoFinger }
    else inProgress { g with resp := resp, st := .doneError }
  | .predlyImage2Tz =>
    if TimeTest.predlyImage2Tz.holds t g.tCmdStart then inProgress { g with st := .sendImage2Tz }
    else inProgress g
  | .sendImage2Tz => sending g .waitImage2Tz image2TzPayload t
  | .waitImage2Tz =>
    if code = 0xFF then
      if TimeTest.waitImage2Tz.holds t g.tCmdStart then
        inProgress { g with resp := resp, st := .doneError }
      else inProgress { g with resp := resp }
    else if code = 0x00 then inProgress { g with resp := resp, st := .sendSearch }
    else inProgress { g with resp := resp, st := .doneError }
  | .sendSearch => sending g .waitSearch searchPayload t
  | .waitSearch =>
    if code = 0xFF then
      if TimeTest.waitSearch.holds t g.tCmdStart then
        inProgress { g with resp := resp, st := .doneNoFinger }
      else inProgress { g with resp := resp }
    else if code = 0x00 then
      if SearchComplete resp then
        let id := be16 (resp.getD 10 0) (resp.getD 11 0)
        let score := be16 (resp.getD 12 0) (resp.getD 13 0)
        ⟨{ g with resp := resp, lastId := id, lastScore := score, st := .doneMatch },
          .scanInProgress, some (id, score), none⟩
      else inProgress { g with resp := resp }
    else inProgress { g with resp := resp, st := .doneNoMatch }
  | .doneMatch => finished g .scanMatch (some (g.lastId, g.lastScore))
  | .doneNoFinger => finished g .scanNoFinger none
  | .doneNoMatch => finished g .scanNoMatch none
  | .doneError => finished g .scanError none

/-- The states whose step reads the clock. -/
def ScanSt.timed : ScanSt → Bool
  | .idle | .doneNoFinger | .doneMatch | .doneNoMatch | .doneError => false
  | _ => true

/-- The arrivals `bs` as a trace, newest first. -/
def rxTrace (bs : List UInt8) : List SensorEv := (bs.map .rx).reverse

/-- The frame a step sent as a trace. -/
def txTrace (sent : Option (List UInt8)) : List SensorEv := sent.toList.map .tx

@[simp] theorem rxTrace_nil : rxTrace [] = [] := rfl

@[simp] theorem rxTrace_concat (bs : List UInt8) (b : UInt8) :
    rxTrace (bs ++ [b]) = .rx b :: rxTrace bs := by
  simp [rxTrace]

/-- From `c` to `c'` the bytes `bs` arrived and nothing was sent. -/
structure Took (c : Config σ Sample SensorEv) (bs : List UInt8) (c' : Config σ Sample SensorEv) :
    Prop where
  suffix : c'.inputs <:+ c.inputs
  trace : c'.trace = rxTrace bs ++ c.trace

section Took

variable {c c' : Config σ Sample SensorEv} {bs : List UInt8} {m : Sample} {rest : List Sample}

theorem Took.refl : Took c [] c := ⟨List.suffix_refl _, rfl⟩

theorem Took.read (h : Took c bs c') (hm : c'.inputs = m :: rest) :
    Took c bs { c' with inputs := rest } :=
  ⟨(hm ▸ List.suffix_cons m rest : rest <:+ c'.inputs).trans h.suffix, h.trace⟩

theorem Took.rx (h : Took c bs c') (b : UInt8) :
    Took c (bs ++ [b]) { c' with trace := .rx b :: c'.trace } :=
  ⟨h.suffix, by simp [h.trace]⟩

theorem Took.modify (h : Took c bs c') (f : σ → σ) : Took c bs { c' with st := f c'.st } :=
  ⟨h.suffix, h.trace⟩

theorem Took.mem (h : Took c bs c') (hm : c'.inputs = m :: rest) : m ∈ c.inputs :=
  h.suffix.subset (hm ▸ List.mem_cons_self)

end Took

section Specs

/-- A flush only takes bytes off the line. -/
theorem as608FlushRx_took {c : Config σ Sample SensorEv} (ms : UInt32) :
    (as608FlushRx ms).wp (fun c' => ∃ bs, Took c bs c')
      (fun _ c' => ∃ bs, Took c bs c' ∧ c'.st = c.st) c := by
  simp only [as608FlushRx, Prog.wp_bind]
  refine wp_tickRead (fun _ => ⟨[], Took.refl⟩) fun m0 rest0 h0 => ?_
  refine Prog.wp_iter (fun _ c' => ∃ bs, Took c bs c' ∧ c'.st = c.st)
    (fun _ c' h => h.imp fun _ h => h.1) ?_ ⟨[], Took.refl.read h0, rfl⟩
  rintro _ c1 ⟨bs, htook, hst⟩
  rw [Prog.wp_bind]
  refine wp_tickRead (fun _ => ⟨bs, htook⟩) fun m1 rest1 h1 => ?_
  have htook1 := htook.read h1
  refine Prog.wp_ite (fun _ => ?_) fun _ => ⟨bs, htook1, hst⟩
  rw [Prog.wp_bind]
  refine wp_sensorReadByte (fun _ => ⟨bs, htook1⟩) (fun m2 rest2 h2 => ?_)
    fun m2 rest2 b h2 => ?_
  · exact ⟨bs, htook1.read h2, hst⟩
  · exact ⟨bs ++ [b], (htook1.read h2).rx b, hst⟩

theorem take_concat_of_lt {buf bs : List UInt8} {b : UInt8} {n : ℕ}
    (h : ((buf ++ bs).take n).length < n) :
    (buf ++ bs).take n ++ [b] = (buf ++ (bs ++ [b])).take n := by
  rw [List.length_take] at h
  rw [List.take_of_length_le (by omega), List.take_of_length_le (by simp at *; omega),
    List.append_assoc]

theorem take_concat_of_le {buf bs : List UInt8} (b : UInt8) {n : ℕ}
    (h : n ≤ ((buf ++ bs).take n).length) :
    (buf ++ bs).take n = (buf ++ (bs ++ [b])).take n := by
  rw [List.length_take] at h
  have hlen : n ≤ (buf ++ bs).length := by omega
  rw [← List.append_assoc, List.take_append_of_le_length hlen]

/-- A slice appends what arrives, up to the size of the buffer. -/
theorem as608ReadSlice_took {c : Config Scan Sample SensorEv} {buf : List UInt8} {maxLen : ℕ}
    {sliceMs : UInt32} (hbuf : buf.length ≤ maxLen) :
    (as608ReadSlice buf maxLen sliceMs).wp (fun c' => ∃ bs, Took c bs c')
      (fun resp c' => ∃ bs, Took c bs c' ∧ c.inputs ≠ [] ∧
        (∃ tl, c'.st = { c.st with tLastByte := tl }) ∧ resp = (buf ++ bs).take maxLen) c := by
  simp only [as608ReadSlice, Prog.wp_bind]
  refine wp_tickRead (fun _ => ⟨[], Took.refl⟩) fun m0 rest0 h0 => ?_
  have hne : c.inputs ≠ [] := by simp [h0]
  refine Prog.wp_iter
    (fun buf' c' => ∃ bs, Took c bs c' ∧ (∃ tl, c'.st = { c.st with tLastByte := tl }) ∧
      buf' = (buf ++ bs).take maxLen)
    (fun _ c' h => h.imp fun _ h => h.1) ?_
    ⟨[], Took.refl.read h0, ⟨c.st.tLastByte, rfl⟩, by
      rw [List.append_nil, List.take_of_length_le hbuf]⟩
  rintro buf' c1 ⟨bs, htook, ⟨tl, hst⟩, rfl⟩
  rw [Prog.wp_bind]
  refine wp_tickRead (fun _ => ⟨bs, htook⟩) fun m1 rest1 h1 => ?_
  have htook1 := htook.read h1
  refine Prog.wp_ite (fun _ => ?_) fun _ => ⟨bs, htook1, hne, ⟨tl, hst⟩, rfl⟩
  rw [Prog.wp_bind]
  refine wp_sensorReadByte (fun _ => ⟨bs, htook1⟩) (fun m2 rest2 h2 => ?_)
    fun m2 rest2 b h2 => ?_
  · exact ⟨bs, htook1.read h2, ⟨tl, hst⟩, rfl⟩
  have htook2 := (htook1.read h2).rx b
  refine Prog.wp_ite (fun hroom => ?_) fun hfull => ?_
  · rw [Prog.wp_bind]
    refine wp_tickRead (fun _ => ⟨_, htook2⟩) fun m3 rest3 h3 => ?_
    exact ⟨bs ++ [b],
      (htook2.read h3).modify fun g => { g with tLastByte := Storage.u32.keep m3.tick },
      ⟨Storage.u32.keep m3.tick, by simp [hst]⟩, take_concat_of_lt hroom⟩
  · exact ⟨bs ++ [b], htook2, hne, ⟨tl, hst⟩, take_concat_of_le b (by omega)⟩

/-- From `c` a step returned `r` in `c'`: the bytes `bs` arrived in it, it read
the clock at `t`, and all it did is `Scan.next`. -/
def Stepped (c : Config Scan Sample SensorEv) (bs : List UInt8) (t : ℕ)
    (r : ScanStatus × Option (UInt16 × UInt16)) (c' : Config Scan Sample SensorEv) : Prop :=
  (c.st.st.timed → ∃ m ∈ c.inputs, m.tick = t) ∧ c'.inputs <:+ c.inputs ∧
    r = ((c.st.next bs t).status, (c.st.next bs t).out) ∧
    c'.trace = txTrace (c.st.next bs t).sent ++ (rxTrace bs ++ c.trace) ∧
    ∃ tl, c'.st = { (c.st.next bs t).scan with tLastByte := tl }

/-- A step that sends nothing. -/
theorem Stepped.quiet {c c' : Config Scan Sample SensorEv}
    {r : ScanStatus × Option (UInt16 × UInt16)} (bs : List UInt8) (t : ℕ) (tl : ℤ)
    (res : ScanResult) (hnext : c.st.next bs t = res)
    (htime : c.st.st.timed → ∃ m ∈ c.inputs, m.tick = t) (htook : Took c bs c')
    (hr : r = (res.status, res.out)) (hsent : res.sent = none)
    (hst : c'.st = { res.scan with tLastByte := tl }) : ∃ bs t, Stepped c bs t r c' := by
  subst hnext
  refine ⟨bs, t, htime, htook.suffix, hr, ?_, tl, hst⟩
  rw [hsent, htook.trace]
  rfl

/-- A step of the code is `Scan.next` of the bytes that arrived in it and of a
reading of the clock in it. -/
theorem as608ScanStep_wp {c : Config Scan Sample SensorEv} (hresp : c.st.resp.length ≤ respSize) :
    as608ScanStep.wp (fun _ => True) (fun r c' => ∃ bs t, Stepped c bs t r c') c := by
  unfold as608ScanStep
  rw [Prog.wp_bind, Prog.wp_get]
  cases hst : c.st.st with
  | idle | doneMatch | doneNoFinger | doneNoMatch | doneError =>
    simp only [Prog.wp_bind, Prog.wp_modify, Prog.wp_pure]
    exact Stepped.quiet [] 0 c.st.tLastByte _ (by rw [Scan.next, hst])
      (by simp [hst, ScanSt.timed]) ⟨List.suffix_refl _, rfl⟩ rfl rfl rfl
  | predlyImage2Tz =>
    simp only [Prog.wp_bind]
    refine wp_tickRead (fun _ => trivial) fun m rest hm => ?_
    have htime : c.st.st.timed → ∃ m' ∈ c.inputs, m'.tick = m.tick :=
      fun _ => ⟨m, hm ▸ List.mem_cons_self, rfl⟩
    have hread := Took.refl.read hm
    refine Prog.wp_ite (fun hlate => ?_) fun hearly => ?_
    · exact Stepped.quiet [] m.tick c.st.tLastByte (inProgress { c.st with st := .sendImage2Tz })
        (by rw [Scan.next, hst]; exact if_pos hlate) htime ⟨hread.suffix, hread.trace⟩ rfl rfl rfl
    · exact Stepped.quiet [] m.tick c.st.tLastByte (inProgress c.st)
        (by rw [Scan.next, hst]; exact if_neg hearly) htime ⟨hread.suffix, hread.trace⟩ rfl rfl rfl
  | sendGetImage | sendImage2Tz | sendSearch =>
    simp only [Prog.wp_bind, Prog.wp_modify]
    refine Prog.wp_mono (as608FlushRx_took _) (fun _ _ => trivial) ?_
    rintro _ c1 ⟨bs, htook, hst1⟩
    simp only [Prog.wp_bind, as608WritePacket, Prog.wp_emit]
    refine wp_tickRead (fun _ => trivial) fun m rest hm => ?_
    have hmem : m ∈ c.inputs := htook.mem hm
    refine ⟨bs, m.tick, fun _ => ⟨m, hmem, rfl⟩, (htook.read hm).suffix, ?_, ?_,
      c.st.tLastByte, ?_⟩
    · simp [Scan.next, hst, sending]
    · simp [Scan.next, hst, sending, txTrace, htook.trace]
    · simp [Scan.next, hst, sending, hst1, TimeTest.keep, TimeTest.storage]
  | waitGetImage =>
    simp only [Prog.wp_bind]
    refine Prog.wp_mono (as608ReadSlice_took hresp) (fun _ _ => trivial) ?_
    rintro _ c1 ⟨bs, htook, hne, ⟨tl, hst1⟩, rfl⟩
    obtain ⟨m0, hm0⟩ := List.exists_mem_of_ne_nil _ hne
    have hnext := fun t => Scan.next.eq_def c.st bs t
    simp only [hst, Scan.accumulate] at hnext
    refine Prog.wp_ite (fun hcode => ?_) fun hcode => ?_
    · refine Prog.wp_ite (fun hzero => ?_) fun hzero => ?_
      · rw [Prog.wp_bind]
        refine wp_tickRead (fun _ => trivial) fun m rest hm => ?_
        exact Stepped.quiet bs m.tick tl _ ((hnext _).trans ((if_neg hcode).trans (if_pos hzero)))
          (fun _ => ⟨m, htook.mem hm, rfl⟩) ⟨(htook.read hm).suffix, htook.trace⟩ rfl rfl
          (by simp [hst1, inProgress, TimeTest.keep, TimeTest.storage])
      · refine Prog.wp_ite (fun htwo => ?_) fun htwo => ?_
        · exact Stepped.quiet bs m0.tick tl _
            ((hnext _).trans ((if_neg hcode).trans ((if_neg hzero).trans (if_pos htwo))))
            (fun _ => ⟨m0, hm0, rfl⟩) ⟨htook.suffix, htook.trace⟩ rfl rfl
            (by simp [hst1, inProgress])
        · exact Stepped.quiet bs m0.tick tl _
            ((hnext _).trans ((if_neg hcode).trans ((if_neg hzero).trans (if_neg htwo))))
            (fun _ => ⟨m0, hm0, rfl⟩) ⟨htook.suffix, htook.trace⟩ rfl rfl
            (by simp [hst1, inProgress])
    · rw [not_not] at hcode
      rw [Prog.wp_bind]
      refine wp_tickRead (fun _ => trivial) fun m rest hm => ?_
      refine Prog.wp_ite (fun hlate => ?_) fun hearly => ?_
      · exact Stepped.quiet bs m.tick tl _ ((hnext _).trans ((if_pos hcode).trans (if_pos hlate)))
          (fun _ => ⟨m, htook.mem hm, rfl⟩) ⟨(htook.read hm).suffix, htook.trace⟩ rfl rfl
          (by simp [hst1, inProgress])
      · exact Stepped.quiet bs m.tick tl _ ((hnext _).trans ((if_pos hcode).trans (if_neg hearly)))
          (fun _ => ⟨m, htook.mem hm, rfl⟩) ⟨(htook.read hm).suffix, htook.trace⟩ rfl rfl
          (by simp [hst1, hst, inProgress])
  | waitImage2Tz =>
    simp only [Prog.wp_bind]
    refine Prog.wp_mono (as608ReadSlice_took hresp) (fun _ _ => trivial) ?_
    rintro _ c1 ⟨bs, htook, hne, ⟨tl, hst1⟩, rfl⟩
    obtain ⟨m0, hm0⟩ := List.exists_mem_of_ne_nil _ hne
    have hnext := fun t => Scan.next.eq_def c.st bs t
    simp only [hst, Scan.accumulate] at hnext
    refine Prog.wp_ite (fun hcode => ?_) fun hcode => ?_
    · refine Prog.wp_ite (fun hzero => ?_) fun hzero => ?_
      · exact Stepped.quiet bs m0.tick tl _
          ((hnext _).trans ((if_neg hcode).trans (if_pos hzero)))
          (fun _ => ⟨m0, hm0, rfl⟩) ⟨htook.suffix, htook.trace⟩ rfl rfl
          (by simp [hst1, inProgress])
      · exact Stepped.quiet bs m0.tick tl _
          ((hnext _).trans ((if_neg hcode).trans (if_neg hzero)))
          (fun _ => ⟨m0, hm0, rfl⟩) ⟨htook.suffix, htook.trace⟩ rfl rfl
          (by simp [hst1, inProgress])
    · rw [not_not] at hcode
      rw [Prog.wp_bind]
      refine wp_tickRead (fun _ => trivial) fun m rest hm => ?_
      refine Prog.wp_ite (fun hlate => ?_) fun hearly => ?_
      · exact Stepped.quiet bs m.tick tl _ ((hnext _).trans ((if_pos hcode).trans (if_pos hlate)))
          (fun _ => ⟨m, htook.mem hm, rfl⟩) ⟨(htook.read hm).suffix, htook.trace⟩ rfl rfl
          (by simp [hst1, inProgress])
      · exact Stepped.quiet bs m.tick tl _ ((hnext _).trans ((if_pos hcode).trans (if_neg hearly)))
          (fun _ => ⟨m, htook.mem hm, rfl⟩) ⟨(htook.read hm).suffix, htook.trace⟩ rfl rfl
          (by simp [hst1, hst, inProgress])
  | waitSearch =>
    simp only [Prog.wp_bind]
    refine Prog.wp_mono (as608ReadSlice_took hresp) (fun _ _ => trivial) ?_
    rintro _ c1 ⟨bs, htook, hne, ⟨tl, hst1⟩, rfl⟩
    obtain ⟨m0, hm0⟩ := List.exists_mem_of_ne_nil _ hne
    have hnext := fun t => Scan.next.eq_def c.st bs t
    simp only [hst, Scan.accumulate] at hnext
    refine Prog.wp_ite (fun hcode => ?_) fun hcode => ?_
    · refine Prog.wp_ite (fun hzero => ?_) fun hzero => ?_
      · refine Prog.wp_ite (fun hfull => ?_) fun hfull => ?_
        · exact Stepped.quiet bs m0.tick tl _
            ((hnext _).trans ((if_neg hcode).trans ((if_pos hzero).trans
              (if_pos (show SearchComplete _ from hfull)))))
            (fun _ => ⟨m0, hm0, rfl⟩) ⟨htook.suffix, htook.trace⟩ rfl rfl (by simp [hst1])
        · exact Stepped.quiet bs m0.tick tl _
            ((hnext _).trans ((if_neg hcode).trans ((if_pos hzero).trans
              (if_neg (show ¬ SearchComplete _ from hfull)))))
            (fun _ => ⟨m0, hm0, rfl⟩) ⟨htook.suffix, htook.trace⟩ rfl rfl
            (by simp [hst1, hst, inProgress])
      · exact Stepped.quiet bs m0.tick tl _
          ((hnext _).trans ((if_neg hcode).trans (if_neg hzero)))
          (fun _ => ⟨m0, hm0, rfl⟩) ⟨htook.suffix, htook.trace⟩ rfl rfl
          (by simp [hst1, inProgress])
    · rw [not_not] at hcode
      rw [Prog.wp_bind]
      refine wp_tickRead (fun _ => trivial) fun m rest hm => ?_
      refine Prog.wp_ite (fun hlate => ?_) fun hearly => ?_
      · exact Stepped.quiet bs m.tick tl _ ((hnext _).trans ((if_pos hcode).trans (if_pos hlate)))
          (fun _ => ⟨m, htook.mem hm, rfl⟩) ⟨(htook.read hm).suffix, htook.trace⟩ rfl rfl
          (by simp [hst1, inProgress])
      · exact Stepped.quiet bs m.tick tl _ ((hnext _).trans ((if_pos hcode).trans (if_neg hearly)))
          (fun _ => ⟨m, htook.mem hm, rfl⟩) ⟨(htook.read hm).suffix, htook.trace⟩ rfl rfl
          (by simp [hst1, hst, inProgress])

end Specs

end Cerradura
