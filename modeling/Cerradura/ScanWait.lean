import Cerradura.As608Scan

/-!
# No scan waits for ever, unless a search reply stays incomplete

The three waiting states of the scan machine give up after a timeout. The
timeout is looked at on the paths without a confirmation code. ST_WAIT_SEARCH
has one more path: a reply with confirmation code 0 whose frame is not complete
yet returns "in progress" without a look at the clock.

Results:
1. `leaves_iff_of_late`: a call made after the timeout leaves
   the waiting state exactly when it is not held by such a reply.
2. `ScanRun.ends`: a scan that is never held so ends within 821 calls.
3. `as608ScanStep_returns`: each call returns once its clock has advanced.
4. `partial_reply_waits`: twelve bytes of a search reply, and then silence.
-/

namespace Cerradura

open Reactive Elapsed

/-! ## Definitions -/

/-- The states of the scan machine between two calls. -/
inductive ScanReachable : Scan → Prop
  | reset : ScanReachable as608ScanReset
  | step {c c' : Config Scan Sample SensorEv} {r : ScanStatus × Option (UInt16 × UInt16)} :
      ScanReachable c.st → as608ScanStep c = (some r, c') → ScanReachable c'.st

/-- The bytes that arrived in a trace, oldest first. -/
def arrivals (trace : List SensorEv) : List UInt8 :=
  (trace.filterMap fun e => match e with
    | .rx b => some b
    | .tx _ => none).reverse

/-- The timeout test of a waiting state. -/
def ScanSt.wait : ScanSt → Option TimeTest
  | .waitGetImage => some .waitGetImage
  | .waitImage2Tz => some .waitImage2Tz
  | .waitSearch => some .waitSearch
  | _ => none

def ScanSt.isDone : ScanSt → Bool
  | .doneNoFinger | .doneMatch | .doneNoMatch | .doneError => true
  | _ => false

/-- Where a waiting state goes on with the next command. -/
def ScanSt.nextCommand : ScanSt → Option ScanSt
  | .waitGetImage => some .predlyImage2Tz
  | .waitImage2Tz => some .sendSearch
  | _ => none

/-- From the waiting state `st` to a DONE state or to the next command. -/
def ScanSt.Leaves (st st' : ScanSt) : Prop := st'.isDone ∨ st.nextCommand = some st'

/-- The bytes accumulated once `bs` has arrived are a positive reply to the
search whose frame is not complete. -/
def Scan.HeldByPartialReply (g : Scan) (bs : List UInt8) : Prop :=
  g.st = .waitSearch ∧ as608TryParseAck (g.accumulate bs) = 0x00 ∧
    ¬ SearchComplete (g.accumulate bs)

/-- A call of `as608ScanStep` in a run: it found `before`, returned `result` and
left `after`. -/
structure ScanCall where
  before : Config Scan Sample SensorEv
  result : ScanStatus × Option (UInt16 × UInt16)
  after : Config Scan Sample SensorEv

/-- `ScanRun clock calls g`: the calls made since the reset, newest first. The
clock has moved on before each call and has reached `clock` after the last. -/
inductive ScanRun : ℕ → List ScanCall → Scan → Prop
  | reset (clock : ℕ) : ScanRun clock [] as608ScanReset
  | call {clock clock' : ℕ} {calls : List ScanCall} {c c' : Config Scan Sample SensorEv}
      {r : ScanStatus × Option (UInt16 × UInt16)} :
      ScanRun clock calls c.st → c.trace = [] →
      (∀ m ∈ c.inputs, clock < m.tick ∧ m.tick ≤ clock') → clock' < 2 ^ 32 →
      as608ScanStep c = (some r, c') → ScanRun clock' (⟨c, r, c'⟩ :: calls) c'.st

/-- The call is made after the timeout of its waiting state. -/
def LateIn (c : Config Scan Sample SensorEv) (test : TimeTest) : Prop :=
  ∀ m ∈ c.inputs, c.st.tCmdStart + test.limit < m.tick ∧ m.tick < 2 ^ 32

/-- The call is not held by a partial reply after the timeout. -/
def ScanCall.Prompt (call : ScanCall) : Prop :=
  LateIn call.before .waitSearch →
    ¬ call.before.st.HeldByPartialReply (arrivals call.after.trace)

/-- MATCH, NOMATCH, NOFINGER or ERROR -/
def ScanStatus.ended : ScanStatus → Bool
  | .scanMatch | .scanNoMatch | .scanNoFinger | .scanError => true
  | .scanIdle | .scanInProgress => false

/-- The calls of `as608ScanStep` on the given samples, one list a call. -/
def scanCalls (g : Scan) : List (List Sample) → Option Scan
  | [] => some g
  | inputs :: rest =>
    match as608ScanStep ⟨g, inputs, []⟩ with
    | (some _, c) => scanCalls c.st rest
    | (none, _) => none

/-- A call that begins at `t` and in which the bytes `bs` arrive. -/
def callSamples (t : ℕ) (bs : List UInt8) : List Sample :=
  Sample.quiet t ::
    bs.flatMap (fun b => [Sample.quiet t, { Sample.quiet t with sensorRx := some b },
      Sample.quiet t]) ++
    [Sample.quiet (t + 4), Sample.quiet (t + 4)]

/-- What every reachable scan satisfies. -/
structure ScanOk (g : Scan) : Prop where
  resp : g.resp.length ≤ respSize
  start : 0 ≤ g.tCmdStart

/-! ## Reachable scans -/

theorem accumulate_length (g : Scan) (bs : List UInt8) : (g.accumulate bs).length ≤ respSize :=
  List.length_take_le _ _

theorem keep_u32_nonneg (t : ℕ) : 0 ≤ Storage.u32.keep t :=
  Int.emod_nonneg _ (by decide)

theorem ScanOk.next {g : Scan} (h : ScanOk g) (bs : List UInt8) (t : ℕ) :
    ScanOk (g.next bs t).scan := by
  have hacc := accumulate_length g bs
  have hkeep := keep_u32_nonneg t
  unfold Scan.next
  cases g.st with
  | idle | doneMatch | doneNoFinger | doneNoMatch | doneError => exact ⟨h.resp, h.start⟩
  | sendGetImage | sendImage2Tz | sendSearch => exact ⟨Nat.zero_le _, hkeep⟩
  | predlyImage2Tz => dsimp only; split <;> exact ⟨h.resp, h.start⟩
  | waitGetImage =>
    dsimp only
    split_ifs
    · exact ⟨hacc, h.start⟩
    · exact ⟨hacc, h.start⟩
    · exact ⟨hacc, hkeep⟩
    · exact ⟨hacc, h.start⟩
    · exact ⟨hacc, h.start⟩
  | waitImage2Tz | waitSearch => dsimp only; split_ifs <;> exact ⟨hacc, h.start⟩

theorem stepped_of_run {c c' : Config Scan Sample SensorEv}
    {r : ScanStatus × Option (UInt16 × UInt16)} (hresp : c.st.resp.length ≤ respSize)
    (hrun : as608ScanStep c = (some r, c')) : ∃ bs t, Stepped c bs t r c' :=
  Prog.wp_elim (as608ScanStep_wp hresp) hrun

theorem ScanReachable.ok {g : Scan} (h : ScanReachable g) : ScanOk g := by
  induction h with
  | reset => exact ⟨Nat.zero_le _, le_refl _⟩
  | @step c c' r _ hrun ih =>
    obtain ⟨bs, t, -, -, -, -, tl, hst⟩ := stepped_of_run ih.resp hrun
    have hnext := ih.next bs t
    rw [hst]
    exact ⟨hnext.resp, hnext.start⟩

theorem ScanReachable.calls {g g' : Scan} (h : ScanReachable g) (calls : List (List Sample))
    (hrun : scanCalls g calls = some g') : ScanReachable g' := by
  induction calls generalizing g with
  | nil =>
    cases hrun
    exact h
  | cons inputs rest ih =>
    unfold scanCalls at hrun
    cases hstep : as608ScanStep ⟨g, inputs, []⟩ with
    | mk r c =>
      rw [hstep] at hrun
      cases r with
      | none => cases hrun
      | some r => exact ih (ScanReachable.step (c := ⟨g, inputs, []⟩) h hstep) hrun

theorem arrivals_stepped {c c' : Config Scan Sample SensorEv}
    {r : ScanStatus × Option (UInt16 × UInt16)} {bs : List UInt8} {t : ℕ}
    (h : Stepped c bs t r c') (hfresh : c.trace = []) : arrivals c'.trace = bs := by
  obtain ⟨-, -, -, htr, -⟩ := h
  rw [htr, hfresh, arrivals, List.append_nil, List.filterMap_append, List.reverse_append]
  have hrx : ((rxTrace bs).filterMap fun e => match e with
      | .rx b => some b
      | .tx _ => none) = bs.reverse := by
    rw [rxTrace, List.filterMap_reverse, List.filterMap_map]
    exact congrArg List.reverse List.filterMap_some
  have htx : ((txTrace (c.st.next bs t).sent).filterMap fun e => match e with
      | .rx b => some b
      | .tx _ => none) = [] := by
    cases (c.st.next bs t).sent <;> rfl
  rw [hrx, htx, List.reverse_reverse, List.reverse_nil, List.append_nil]

/-! ## A call made after the timeout -/

/-- The stored start instant is exact while the clock is below `2 ^ 32`. -/
theorem wait_holds_of_late {st : ScanSt} {test : TimeTest} {start : ℤ} {t : ℕ}
    (hwait : st.wait = some test) (hstart : 0 ≤ start) (hlate : start + test.limit < t)
    (ht : t < 2 ^ 32) : test.holds t start = true := by
  obtain ⟨n, rfl⟩ := Int.eq_ofNat_of_zero_le hstart
  have hcmp : test.comparison = .gt := by
    cases st <;> simp only [ScanSt.wait, reduceCtorEq, Option.some.injEq] at hwait <;>
      subst hwait <;> rfl
  have hsince : since 64 t (n : ℤ) = t - n := since_exact (by omega) (by omega)
  unfold TimeTest.holds
  rw [hcmp]
  simp only [Comparison.holds, gt_iff_lt, decide_eq_true_eq]
  omega

theorem next_leaves_iff {g : Scan} {bs : List UInt8} {t : ℕ} {test : TimeTest}
    (hwait : g.st.wait = some test) (hlate : test.holds t g.tCmdStart = true) :
    g.st.Leaves (g.next bs t).scan.st ↔ ¬ g.HeldByPartialReply bs := by
  unfold ScanSt.Leaves Scan.HeldByPartialReply Scan.next
  cases hst : g.st with
  | waitGetImage | waitImage2Tz =>
    rw [hst] at hwait
    simp only [ScanSt.wait, Option.some.injEq] at hwait
    subst hwait
    dsimp only
    split_ifs <;> simp [inProgress, ScanSt.isDone, ScanSt.nextCommand]
  | waitSearch =>
    rw [hst] at hwait
    simp only [ScanSt.wait, Option.some.injEq] at hwait
    subst hwait
    dsimp only
    split_ifs with hcode hzero hfull
    · simp [inProgress, ScanSt.isDone, hcode]
    · simp [ScanSt.isDone, hfull]
    · simp [inProgress, ScanSt.isDone, ScanSt.nextCommand, hzero, hfull]
    · simp [inProgress, ScanSt.isDone, hzero]
  | _ => simp [hst, ScanSt.wait] at hwait

/-- A call made after the timeout leaves its waiting state if and only if it is
not held by a partial reply to the search. -/
theorem leaves_iff_of_late {c c' : Config Scan Sample SensorEv}
    {r : ScanStatus × Option (UInt16 × UInt16)} {test : TimeTest} (hok : ScanOk c.st)
    (hfresh : c.trace = []) (hwait : c.st.st.wait = some test) (hlate : LateIn c test)
    (hrun : as608ScanStep c = (some r, c')) :
    c.st.st.Leaves c'.st.st ↔ ¬ c.st.HeldByPartialReply (arrivals c'.trace) := by
  obtain ⟨bs, t, hstep⟩ := stepped_of_run hok.resp hrun
  rw [arrivals_stepped hstep hfresh]
  obtain ⟨htime, -, -, -, tl, hst⟩ := hstep
  have htimed : c.st.st.timed = true := by
    cases hg : c.st.st <;> simp_all [ScanSt.wait, ScanSt.timed]
  obtain ⟨m, hm, rfl⟩ := htime htimed
  have hholds := wait_holds_of_late hwait hok.start (hlate m hm).1 (hlate m hm).2
  rw [hst]
  exact next_leaves_iff hwait hholds

/-! ## A whole scan -/

/-- The milliseconds until a test against `limit` fires, on a clock at `now`. -/
def left (limit : ℕ) (start : ℤ) (now : ℕ) : ℕ := (start + limit + 1 - now).toNat

/-- A bound on the calls a scan still makes. -/
def Scan.rank (g : Scan) (now : ℕ) : ℕ :=
  match g.st with
  | .doneNoFinger | .doneMatch | .doneNoMatch | .doneError => 1
  | .waitSearch => 2 + left 200 g.tCmdStart now
  | .sendSearch => 204
  | .waitImage2Tz => 205 + left 400 g.tCmdStart now
  | .sendImage2Tz => 607
  | .predlyImage2Tz => 608 + left 9 g.tCmdStart now
  | .waitGetImage => 619 + left 200 g.tCmdStart now
  | .sendGetImage => 821
  | .idle => 822

theorem left_lt {limit : ℕ} {start : ℤ} {clock clock' t : ℕ} (h0 : clock < t) (h1 : t ≤ clock')
    (hearly : (t : ℤ) ≤ start + limit) : left limit start clock' < left limit start clock := by
  unfold left
  omega

theorem left_le (limit : ℕ) {t clock' : ℕ} (h1 : t ≤ clock') (ht : t < 2 ^ 32) :
    left limit (Storage.u32.keep t) clock' ≤ limit + 1 := by
  have hkeep : Storage.u32.keep t = t := Int.emod_eq_of_lt (by omega) (by omega)
  unfold left
  omega

theorem predly_early {start : ℤ} {t : ℕ} (hstart : 0 ≤ start) (ht : t < 2 ^ 32)
    (h : TimeTest.predlyImage2Tz.holds t start = false) : (t : ℤ) ≤ start + (9 : ℕ) := by
  obtain ⟨n, rfl⟩ := Int.eq_ofNat_of_zero_le hstart
  by_contra hlate
  have hsince : since 64 t (n : ℤ) = t - n := since_exact (by omega) (by omega)
  simp only [TimeTest.holds, TimeTest.comparison, Comparison.holds, TimeTest.limit, hsince,
    ge_iff_le, decide_eq_false_iff_not] at h
  omega

theorem wait_early (st : ScanSt) {test : TimeTest} {start : ℤ} {t : ℕ}
    (hwait : st.wait = some test) (hstart : 0 ≤ start) (ht : t < 2 ^ 32)
    (h : test.holds t start = false) : (t : ℤ) ≤ start + test.limit := by
  by_contra hlate
  rw [wait_holds_of_late hwait hstart (by omega) ht] at h
  cases h

/-- Every call that does not end the scan lowers its rank. -/
theorem rank_lt {g : Scan} {bs : List UInt8} {t clock clock' : ℕ} (hok : ScanOk g)
    (h0 : g.st.timed → clock < t ∧ t ≤ clock') (ht : clock' < 2 ^ 32)
    (hheld : g.HeldByPartialReply bs →
      ∃ u : ℕ, clock < u ∧ u ≤ clock' ∧ (u : ℤ) ≤ g.tCmdStart + (200 : ℕ))
    (hgo : (g.next bs t).status.ended = false) :
    (g.next bs t).scan.rank clock' < g.rank clock := by
  revert hheld hgo
  unfold Scan.HeldByPartialReply Scan.next
  cases hst : g.st with
  | doneMatch | doneNoFinger | doneNoMatch | doneError =>
    intro _ hgo
    simp [finished, ScanStatus.ended] at hgo
  | idle =>
    intro _ _
    simp [inProgress, Scan.rank, hst]
  | sendGetImage | sendImage2Tz | sendSearch =>
    intro _ _
    obtain ⟨hclock, hclock'⟩ := h0 (by rw [hst]; rfl)
    have h200 := left_le 200 hclock' (by omega)
    have h400 := left_le 400 hclock' (by omega)
    simp only [sending, Scan.rank, hst]
    omega
  | predlyImage2Tz =>
    intro _ _
    obtain ⟨hclock, hclock'⟩ := h0 (by rw [hst]; rfl)
    dsimp only
    split_ifs with hlate
    · simp only [inProgress, Scan.rank, hst]
      omega
    · have hearly := predly_early hok.start (by omega) (Bool.eq_false_iff.mpr hlate)
      simp only [inProgress, Scan.rank, hst]
      exact Nat.add_lt_add_left (left_lt hclock hclock' hearly) _
  | waitGetImage =>
    intro _ _
    obtain ⟨hclock, hclock'⟩ := h0 (by rw [hst]; rfl)
    have h9 := left_le 9 hclock' (by omega)
    dsimp only
    split_ifs with hcode hlate
    · simp only [inProgress, Scan.rank, hst]
      omega
    · have hearly := wait_early .waitGetImage rfl hok.start (by omega)
        (Bool.eq_false_iff.mpr hlate)
      simp only [inProgress, Scan.rank, hst]
      exact Nat.add_lt_add_left (left_lt hclock hclock' hearly) _
    all_goals simp only [inProgress, Scan.rank, hst]; omega
  | waitImage2Tz =>
    intro _ _
    obtain ⟨hclock, hclock'⟩ := h0 (by rw [hst]; rfl)
    dsimp only
    split_ifs with hcode hlate
    · simp only [inProgress, Scan.rank, hst]
      omega
    · have hearly := wait_early .waitImage2Tz rfl hok.start (by omega)
        (Bool.eq_false_iff.mpr hlate)
      simp only [inProgress, Scan.rank, hst]
      exact Nat.add_lt_add_left (left_lt hclock hclock' hearly) _
    all_goals simp only [inProgress, Scan.rank, hst]; omega
  | waitSearch =>
    intro hheld _
    obtain ⟨hclock, hclock'⟩ := h0 (by rw [hst]; rfl)
    dsimp only
    split_ifs with hcode hlate hzero hfull
    · simp only [inProgress, Scan.rank, hst]
      omega
    · have hearly := wait_early .waitSearch rfl hok.start (by omega)
        (Bool.eq_false_iff.mpr hlate)
      simp only [inProgress, Scan.rank, hst]
      exact Nat.add_lt_add_left (left_lt hclock hclock' hearly) _
    · simp only [Scan.rank, hst]
      omega
    · obtain ⟨u, hu, hu', hearly⟩ := hheld ⟨rfl, hzero, hfull⟩
      simp only [inProgress, Scan.rank, hst]
      exact Nat.add_lt_add_left (left_lt hu hu' hearly) _
    · simp only [inProgress, Scan.rank, hst]
      omega

theorem ScanRun.reachable {clock : ℕ} {calls : List ScanCall} {g : Scan}
    (h : ScanRun clock calls g) : ScanReachable g := by
  induction h with
  | reset => exact ScanReachable.reset
  | call _ _ _ _ hrun ih => exact ScanReachable.step ih hrun

/-- While no call has ended the scan, its calls and its rank stay in budget. -/
theorem ScanRun.rank_le {clock : ℕ} {calls : List ScanCall} {g : Scan}
    (h : ScanRun clock calls g) (hprompt : ∀ call ∈ calls, call.Prompt)
    (hgo : ∀ call ∈ calls, call.result.1.ended = false) : calls.length + g.rank clock ≤ 821 := by
  induction h with
  | reset => exact Nat.le_refl _
  | @call clock clock' calls c c' r hprev hfresh hclock hclock' hrun ih =>
    have hbudget := ih (fun call hc => hprompt call (List.mem_cons_of_mem _ hc))
      fun call hc => hgo call (List.mem_cons_of_mem _ hc)
    have hok := hprev.reachable.ok
    have hpr : (⟨c, r, c'⟩ : ScanCall).Prompt := hprompt _ List.mem_cons_self
    have hend : r.1.ended = false := hgo ⟨c, r, c'⟩ List.mem_cons_self
    obtain ⟨bs, t, hstep⟩ := stepped_of_run hok.resp hrun
    have harr := arrivals_stepped hstep hfresh
    obtain ⟨htime, -, rfl, -, tl, hst⟩ := hstep
    have hrank : (c.st.next bs t).scan.rank clock' < c.st.rank clock := by
      refine rank_lt hok (fun htimed => ?_) hclock' (fun hheld => ?_) hend
      · obtain ⟨m, hm, rfl⟩ := htime htimed
        exact hclock m hm
      · -- a held call was made in time, by one of its samples at least
        by_contra hnone
        refine hpr (fun m hm => ⟨?_, ?_⟩) (harr ▸ hheld)
        · by_contra hearly
          exact hnone ⟨m.tick, (hclock m hm).1, (hclock m hm).2, not_lt.mp hearly⟩
        · exact lt_of_le_of_lt (hclock m hm).2 hclock'
    have hsame : c'.st.rank clock' = (c.st.next bs t).scan.rank clock' := by
      rw [hst]
      rfl
    rw [List.length_cons, hsame]
    omega

theorem rank_pos (g : Scan) (now : ℕ) : 1 ≤ g.rank now := by
  unfold Scan.rank
  cases g.st <;> dsimp only <;> omega

/-- A scan none of whose calls is held ends within 821 calls. -/
theorem ScanRun.ends {clock : ℕ} {calls : List ScanCall} {g : Scan} (h : ScanRun clock calls g)
    (hprompt : ∀ call ∈ calls, call.Prompt) (hlong : 821 ≤ calls.length) :
    ∃ call ∈ calls, call.result.1.ended = true := by
  by_contra hnone
  have hgo : ∀ call ∈ calls, call.result.1.ended = false := by
    intro call hc
    refine Bool.eq_false_iff.mpr fun hend => hnone ⟨call, hc, hend⟩
  have hbudget := h.rank_le hprompt hgo
  have hpos := rank_pos g clock
  omega

/-! ## A call returns -/

/-- At most `k` of the samples `late` have been read. -/
def Ahead (late : List Sample) (k : ℕ) (inputs : List Sample) : Prop :=
  late <:+ inputs ∨ inputs <:+ late ∧ late.length ≤ inputs.length + k

section Returns

variable {late rest inputs : List Sample} {m : Sample} {k k' : ℕ}

theorem Ahead.mono (h : Ahead late k inputs) (hk : k ≤ k') : Ahead late k' inputs :=
  h.imp_right fun ⟨hsuffix, hlen⟩ => ⟨hsuffix, by omega⟩

theorem Ahead.ne_nil (h : Ahead late k inputs) (hk : k < late.length) : inputs ≠ [] := by
  rintro rfl
  rcases h with hsuffix | ⟨-, hlen⟩
  · rw [List.suffix_nil.mp hsuffix] at hk
    cases hk
  · rw [List.length_nil] at hlen
    omega

/-- The next sample is late, or none of the late ones has been read. -/
theorem Ahead.read (h : Ahead late k (m :: rest)) :
    m ∈ late ∧ Ahead late (k + 1) rest ∨ Ahead late 0 rest := by
  rcases h with hsuffix | ⟨hsuffix, hlen⟩
  · rcases List.suffix_cons_iff.mp hsuffix with rfl | hrest
    · exact .inl ⟨List.mem_cons_self, .inr ⟨List.suffix_cons m rest, by simp⟩⟩
    · exact .inr (.inl hrest)
  · rw [List.length_cons] at hlen
    exact .inl ⟨hsuffix.subset List.mem_cons_self,
      .inr ⟨(List.suffix_cons m rest).trans hsuffix, by omega⟩⟩

theorem Ahead.tail (h : Ahead late k (m :: rest)) : Ahead late (k + 1) rest :=
  h.read.elim And.right fun h0 => h0.mono (Nat.zero_le _)

/-- A receive loop is over at the first late sample. -/
theorem loop_over (test : TimeTest) {start : ℕ} (hstorage : test.storage = .u32)
    (hcmp : test.comparison = .lt) (hstart : start < 2 ^ 32) (hlate : start + test.limit ≤ m.tick)
    (hm : m.tick < 2 ^ 32) : test.holds m.tick (test.keep start) = false := by
  have hsince : since 64 m.tick (test.keep start) = m.tick - start := by
    unfold TimeTest.keep Storage.keep
    rw [hstorage]
    exact since_unsigned_exact (by omega) (by omega) hstart
  simp only [TimeTest.holds, hcmp, Comparison.holds, hsince, decide_eq_false_iff_not]
  omega

theorem as608FlushRx_returns {σ : Type} {ms : UInt32} {c : Config σ Sample SensorEv}
    {post : Unit → Config σ Sample SensorEv → Prop} {first : Sample}
    (hfirst : c.inputs.head? = some first) (hlen : late.length = 4)
    (hahead : Ahead late 0 c.inputs.tail)
    (htick : first.tick < 2 ^ 32)
    (hlate : ∀ m ∈ late, first.tick + ms.toNat ≤ m.tick ∧ m.tick < 2 ^ 32)
    (hpost : ∀ c', Ahead late 3 c'.inputs → post () c') :
    (as608FlushRx ms).wp (fun _ => False) post c := by
  simp only [as608FlushRx, Prog.wp_bind]
  refine wp_tickRead (fun h => by simp [h] at hfirst) fun m0 rest0 h0 => ?_
  rw [h0] at hfirst hahead
  cases hfirst
  refine Prog.wp_iter_total (fun _ c' => Ahead late 2 c'.inputs) ?_ (hahead.mono (by omega))
  intro _ c1 h1
  rw [Prog.wp_bind]
  refine wp_tickRead (fun h => h1.ne_nil (by omega) h) fun m rest hm => ?_
  rw [hm] at h1
  refine Prog.wp_ite (fun hgo => ?_) fun _ => hpost _ h1.tail
  rcases h1.read with ⟨hmem, -⟩ | h2
  · rw [loop_over (.flushRx ms) rfl rfl htick (hlate m hmem).1 (hlate m hmem).2] at hgo
    cases hgo
  rw [Prog.wp_bind]
  refine wp_sensorReadByte (fun h => h2.ne_nil (by omega) h) (fun m' rest' hm' => ?_)
    fun m' rest' b hm' => ?_
  all_goals
    simp only at hm'
    subst hm'
    exact ⟨h2.tail.mono (by omega), by rw [hm]; simp only [List.length_cons]; omega⟩

theorem as608ReadSlice_returns {buf : List UInt8} {maxLen : ℕ} {sliceMs : UInt32}
    {c : Config Scan Sample SensorEv}
    {post : List UInt8 → Config Scan Sample SensorEv → Prop} {first : Sample}
    (hfirst : c.inputs.head? = some first) (hlen : late.length = 4)
    (hahead : Ahead late 0 c.inputs.tail) (htick : first.tick < 2 ^ 32)
    (hlate : ∀ m ∈ late, first.tick + sliceMs.toNat ≤ m.tick ∧ m.tick < 2 ^ 32)
    (hpost : ∀ buf' c', Ahead late 3 c'.inputs → post buf' c') :
    (as608ReadSlice buf maxLen sliceMs).wp (fun _ => False) post c := by
  simp only [as608ReadSlice, Prog.wp_bind]
  refine wp_tickRead (fun h => by simp [h] at hfirst) fun m0 rest0 h0 => ?_
  rw [h0] at hfirst hahead
  cases hfirst
  refine Prog.wp_iter_total (fun _ c' => Ahead late 2 c'.inputs) ?_ (hahead.mono (by omega))
  intro buf' c1 h1
  rw [Prog.wp_bind]
  refine wp_tickRead (fun h => h1.ne_nil (by omega) h) fun m rest hm => ?_
  rw [hm] at h1
  refine Prog.wp_ite (fun hgo => ?_) fun _ => hpost _ _ h1.tail
  rcases h1.read with ⟨hmem, -⟩ | h2
  · rw [loop_over (.readSlice sliceMs) rfl rfl htick (hlate m hmem).1 (hlate m hmem).2] at hgo
    cases hgo
  rw [Prog.wp_bind]
  refine wp_sensorReadByte (fun h => h2.ne_nil (by omega) h) (fun m' rest' hm' => ?_)
    fun m' rest' b hm' => ?_
  · simp only at hm'
    subst hm'
    exact ⟨h2.tail.mono (by omega), by rw [hm]; simp only [List.length_cons]; omega⟩
  · simp only at hm'
    subst hm'
    refine Prog.wp_ite (fun _ => ?_) fun _ => hpost _ _ (h2.tail.mono (by omega))
    rw [Prog.wp_bind]
    refine wp_tickRead (fun h => h2.tail.ne_nil (by omega) h) fun m'' rest'' hm'' => ?_
    simp only at hm''
    subst hm''
    exact ⟨h2.tail.tail, by rw [hm]; simp only [List.length_cons]; omega⟩

/-- A call returns once the clock has advanced by a slice: four samples that
late are enough for it. -/
theorem as608ScanStep_returns {c : Config Scan Sample SensorEv} {first : Sample}
    (hfirst : c.inputs.head? = some first) (hlen : late.length = 4)
    (hsuffix : late <:+ c.inputs.tail) (htick : first.tick < 2 ^ 32)
    (hlate : ∀ m ∈ late, first.tick + 4 ≤ m.tick ∧ m.tick < 2 ^ 32) :
    ∃ r c', as608ScanStep c = (some r, c') := by
  have hne : c.inputs ≠ [] := by
    rintro h
    rw [h] at hfirst
    cases hfirst
  have hnext : ∀ c' : Config Scan Sample SensorEv, Ahead late 3 c'.inputs → c'.inputs ≠ [] :=
    fun c' h => h.ne_nil (by omega)
  have hflush : ∀ ms : UInt32, ms.toNat ≤ 4 →
      ∀ m ∈ late, first.tick + ms.toNat ≤ m.tick ∧ m.tick < 2 ^ 32 :=
    fun ms hms m hm => ⟨le_trans (by omega) (hlate m hm).1, (hlate m hm).2⟩
  have hslice : ∀ post : List UInt8 → Config Scan Sample SensorEv → Prop,
      (∀ buf c', Ahead late 3 c'.inputs → post buf c') →
      (as608ReadSlice c.st.resp respSize 4).wp (fun _ => False) post c :=
    fun post => as608ReadSlice_returns hfirst hlen (.inl hsuffix) htick (hflush 4 (by decide))
  have hwp : as608ScanStep.wp (fun _ => False) (fun _ _ => True) c := by
    unfold as608ScanStep
    rw [Prog.wp_bind, Prog.wp_get]
    cases hst : c.st.st with
    | idle | doneMatch | doneNoFinger | doneNoMatch | doneError =>
      simp only [Prog.wp_bind, Prog.wp_modify, Prog.wp_pure]
    | predlyImage2Tz =>
      simp only [Prog.wp_bind]
      refine wp_tickRead hne fun m rest hm => ?_
      exact Prog.wp_ite (fun _ => trivial) fun _ => trivial
    | sendGetImage | sendImage2Tz | sendSearch =>
      simp only [Prog.wp_bind, Prog.wp_modify]
      refine as608FlushRx_returns hfirst hlen (.inl hsuffix) htick (hflush _ (by decide))
        fun c1 h1 => ?_
      simp only [Prog.wp_bind, as608WritePacket, Prog.wp_emit]
      exact wp_tickRead (hnext c1 h1) fun m rest hm => trivial
    | waitGetImage =>
      simp only [Prog.wp_bind]
      refine hslice _ fun buf c1 h1 => Prog.wp_ite (fun _ => ?_) fun _ => ?_
      · refine Prog.wp_ite (fun _ => ?_) fun _ => Prog.wp_ite (fun _ => trivial) fun _ => trivial
        rw [Prog.wp_bind]
        exact wp_tickRead (hnext c1 h1) fun m rest hm => trivial
      · rw [Prog.wp_bind]
        refine wp_tickRead (hnext c1 h1) fun m rest hm => ?_
        exact Prog.wp_ite (fun _ => trivial) fun _ => trivial
    | waitImage2Tz =>
      simp only [Prog.wp_bind]
      refine hslice _ fun buf c1 h1 => Prog.wp_ite (fun _ => ?_) fun _ => ?_
      · exact Prog.wp_ite (fun _ => trivial) fun _ => trivial
      · rw [Prog.wp_bind]
        refine wp_tickRead (hnext c1 h1) fun m rest hm => ?_
        exact Prog.wp_ite (fun _ => trivial) fun _ => trivial
    | waitSearch =>
      simp only [Prog.wp_bind]
      refine hslice _ fun buf c1 h1 => Prog.wp_ite (fun _ => ?_) fun _ => ?_
      · refine Prog.wp_ite (fun _ => ?_) fun _ => trivial
        exact Prog.wp_ite (fun _ => trivial) fun _ => trivial
      · rw [Prog.wp_bind]
        refine wp_tickRead (hnext c1 h1) fun m rest hm => ?_
        exact Prog.wp_ite (fun _ => trivial) fun _ => trivial
  obtain ⟨r, c', hrun, -⟩ := Prog.wp_returns hwp
  exact ⟨r, c', hrun⟩

end Returns

/-! ## The result -/

/-- A call after the timeout leaves its waiting state if and only if it is not
held by a partial reply to the search; a scan that is never held so ends within
821 calls; and every call returns once the clock has advanced by a slice. -/
theorem scan_ends_unless_held (c : Config Scan Sample SensorEv) :
    (∀ (c' : Config Scan Sample SensorEv) (r : ScanStatus × Option (UInt16 × UInt16))
        (test : TimeTest), ScanReachable c.st → c.trace = [] → c.st.st.wait = some test →
      LateIn c test → as608ScanStep c = (some r, c') →
      (c.st.st.Leaves c'.st.st ↔ ¬ c.st.HeldByPartialReply (arrivals c'.trace))) ∧
    (∀ (clock : ℕ) (calls : List ScanCall) (g : Scan), ScanRun clock calls g →
      (∀ call ∈ calls, call.Prompt) →
      calls.length ≤ 820 ∨ ∃ call ∈ calls, call.result.1.ended = true) ∧
    (∀ (first : Sample) (late : List Sample),
      c.inputs.head? = some first → late.length = 4 → late <:+ c.inputs.tail →
      first.tick < 2 ^ 32 → (∀ m ∈ late, first.tick + 4 ≤ m.tick ∧ m.tick < 2 ^ 32) →
      ∃ r c', as608ScanStep c = (some r, c')) := by
  refine ⟨fun c' r test hreach hfresh hwait hlate hrun => ?_,
    fun clock calls g hrun hprompt => ?_, fun first late hfirst hlen hsuffix htick hlate => ?_⟩
  · exact leaves_iff_of_late hreach.ok hfresh hwait hlate hrun
  · rcases Nat.lt_or_ge 820 calls.length with hlong | hshort
    · exact .inr (hrun.ends hprompt hlong)
    · exact .inl hshort
  · exact as608ScanStep_returns hfirst hlen hsuffix htick hlate

/-- The replies to GetImage and to Image2Tz. -/
def ackOk : List UInt8 := [0xEF, 0x01, 0xFF, 0xFF, 0xFF, 0xFF, 0x07, 0x00, 0x03, 0x00, 0x00, 0x0A]

/-- The first twelve bytes of a positive reply to the search. -/
def partialReply : List UInt8 :=
  [0xEF, 0x01, 0xFF, 0xFF, 0xFF, 0xFF, 0x07, 0x00, 0x07, 0x00, 0x00, 0x05]

/-- A scan up to ST_WAIT_SEARCH, in which the bytes `bs` arrive then. -/
def searchCalls (bs : List UInt8) : List (List Sample) :=
  [callSamples 0 [], callSamples 10 ackOk, callSamples 30 [], callSamples 40 [],
    callSamples 50 ackOk, callSamples 60 [], callSamples 70 bs]

/-- ST_WAIT_SEARCH with the reply `resp` so far. -/
def searching (resp : List UInt8) (tLastByte : ℤ) : Scan :=
  { st := .waitSearch, tCmdStart := 64, tLastByte := tLastByte, resp := resp, lastId := 0,
    lastScore := 0 }

/-- Twelve bytes of a reply, and then silence: a call half a second later stays
in ST_WAIT_SEARCH. -/
theorem partial_reply_waits :
    ¬ ∀ (c c' : Config Scan Sample SensorEv) (r : ScanStatus × Option (UInt16 × UInt16))
        (test : TimeTest), ScanReachable c.st → c.trace = [] → c.st.st.wait = some test →
      LateIn c test → as608ScanStep c = (some r, c') → c.st.st.Leaves c'.st.st := by
  intro h
  have hreach : ScanReachable (searching partialReply 70) :=
    ScanReachable.reset.calls (searchCalls partialReply) (by decide +kernel)
  have hleaves := h ⟨searching partialReply 70, callSamples 500 [], []⟩
    ⟨searching partialReply 70, [Sample.quiet 504], []⟩ (.scanInProgress, none) .waitSearch hreach
    rfl rfl (by unfold LateIn; decide) (by decide +kernel)
  rcases hleaves with hdone | hcommand
  · cases hdone
  · cases hcommand

/-- The clock, the calls and the scan after `k` calls in which nothing arrives, one a
second. -/
def silentCalls : ℕ → ℕ × List ScanCall × Scan
  | 0 => (0, [], as608ScanReset)
  | k + 1 =>
    let (clock, calls, g) := silentCalls k
    let c : Config Scan Sample SensorEv := ⟨g, callSamples (1000 * (k + 1)) [], []⟩
    match as608ScanStep c with
    | (some r, c') => (1000 * (k + 1) + 4, ⟨c, r, c'⟩ :: calls, c'.st)
    | (none, _) => (clock, calls, g)

theorem silentCalls_run {k : ℕ} (hk : k ≤ 4000000) : (silentCalls k).1 ≤ 1000 * k + 4 ∧
    ScanRun (silentCalls k).1 (silentCalls k).2.1 (silentCalls k).2.2 := by
  induction k with
  | zero => exact ⟨Nat.zero_le _, .reset 0⟩
  | succ k ih =>
    obtain ⟨hclock, hrun⟩ := ih (Nat.le_of_succ_le hk)
    have hclock' : (silentCalls k).1 ≤ 1000 * (k + 1) + 4 := by omega
    simp only [silentCalls]
    cases hstep : as608ScanStep ⟨(silentCalls k).2.2, callSamples (1000 * (k + 1)) [], []⟩ with
    | mk r c' =>
      cases r with
      | none => exact ⟨hclock', hrun⟩
      | some r =>
        have hlimit : 1000 * (k + 1) + 4 < 2 ^ 32 := by omega
        refine ⟨le_rfl, hrun.call rfl (fun m hm => ?_) hlimit hstep⟩
        simp only [callSamples, List.flatMap_nil, List.cons_append, List.nil_append,
          List.mem_cons, List.not_mem_nil, or_false] at hm
        have hnext : (silentCalls k).1 < 1000 * (k + 1) := by omega
        rcases hm with rfl | rfl | rfl
        · exact ⟨hnext, Nat.le_add_right _ 4⟩
        · exact ⟨Nat.lt_add_right 4 hnext, le_rfl⟩
        · exact ⟨Nat.lt_add_right 4 hnext, le_rfl⟩

/-- Without the twelve bytes the same call gives up. A sensor that never answers ends
a scan, and a call returns if its samples reach four milliseconds on. -/
theorem scan_ends_unless_held_silent :
    (ScanSt.Leaves .waitSearch .doneNoFinger ↔ ¬ (searching [] 50).HeldByPartialReply []) ∧
    (∃ call ∈ (silentCalls 821).2.1, call.result.1.ended = true) ∧
    ∃ r c', as608ScanStep ⟨searching [] 50, [1, 1, 5, 5, 5, 5].map Sample.quiet, []⟩ =
      (some r, c') := by
  refine ⟨?_, ?_, ?_⟩
  · exact (scan_ends_unless_held ⟨searching [] 50, callSamples 500 [], []⟩).1
      ⟨{ searching [] 50 with st := .doneNoFinger }, [], []⟩ (.scanInProgress, none) .waitSearch
      (ScanReachable.reset.calls (searchCalls []) (by decide +kernel)) rfl rfl
      (by unfold LateIn; decide) (by decide +kernel)
  · have hlong : ¬ (silentCalls 821).2.1.length ≤ 820 := by decide +kernel
    have hprompt : ∀ call ∈ (silentCalls 821).2.1, call.before.st.st ≠ .waitSearch := by
      decide +kernel
    refine ((scan_ends_unless_held ⟨as608ScanReset, [], []⟩).2.1 _ _ _
      (silentCalls_run (by decide)).2 fun call hcall => ?_).resolve_left hlong
    exact fun _ hheld => hprompt call hcall hheld.1
  · exact (scan_ends_unless_held _).2.2 (Sample.quiet 1) ([5, 5, 5, 5].map Sample.quiet) rfl rfl
      ⟨[Sample.quiet 1], rfl⟩ (by decide) (by decide)

end Cerradura
