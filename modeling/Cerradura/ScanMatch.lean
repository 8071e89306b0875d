import Cerradura.ScanWait
import Mathlib.Data.List.GetD

/-!
# A match is the answer to the search of the same scan

The sensor answers each command, in order, by one reply, whose bytes arrive
after a delay of their own. The scan machine pairs a reply with a command by
arrival alone: before it sends a command it takes what has arrived off the
line, and what arrives afterwards is the answer.

Results:
1. `match_is_answer`: when each search goes out on an empty line, every MATCH
   carries the page of a positive answer to that search.
2. `stale_reply_matches`: one GetImage reply that arrives after its timeout
   makes a later scan match, though its search found nothing.
-/

namespace Cerradura

open Reactive

/-! ## The sensor -/

/-- What the sensor answers to a command: a confirmation code and, to a search,
a page and a score. -/
structure Reply where
  code : UInt8
  pageHi : UInt8
  pageLo : UInt8
  scoreHi : UInt8
  scoreLo : UInt8
deriving DecidableEq, Repr

def Reply.page (reply : Reply) : UInt16 := be16 reply.pageHi reply.pageLo

/-- The 12 bytes that answer GetImage or Image2Tz. -/
def Reply.ackBytes (reply : Reply) : List UInt8 := as608Frame 0x07 [reply.code]

/-- The 16 bytes that answer HiSpeedSearch. -/
def Reply.searchBytes (reply : Reply) : List UInt8 :=
  as608Frame 0x07 [reply.code, reply.pageHi, reply.pageLo, reply.scoreHi, reply.scoreLo]

def searchFrame : List UInt8 := as608Frame 0x01 searchPayload

def getImageFrame : List UInt8 := as608Frame 0x01 getImagePayload

/-- The bytes that answer the command `frame`. -/
def Reply.to (reply : Reply) (frame : List UInt8) : List UInt8 :=
  if frame = searchFrame then reply.searchBytes else reply.ackBytes

/-! ## The exchange -/

/-- A call of `as608ScanStep` in an exchange: what was on the line before it,
the answer to the search of the current scan, the bytes that arrived and what
the call returned. -/
structure ExchangeCall where
  scan : Scan
  inFlight : List UInt8
  answer : Option Reply
  arrived : List UInt8
  result : ScanStatus × Option (UInt16 × UInt16)
deriving DecidableEq

/-- The firmware's scan, the bytes on the line, the answer to the search of the
current scan once it has been sent, and the calls so far, newest first. -/
structure Exchange where
  scan : Scan
  inFlight : List UInt8
  answer : Option Reply
  calls : List ExchangeCall
deriving DecidableEq

inductive Move
  | reset
  | call (inputs : List Sample) (reply : Reply) -- the answer, if it sends a command

/-- The commands in a trace, oldest first. -/
def commands (trace : List SensorEv) : List (List UInt8) :=
  (trace.filterMap fun e => match e with
    | .tx frame => some frame
    | .rx _ => none).reverse

/-- The sensor answers the command `frame`. A GetImage begins a new scan. -/
def Exchange.answered (s : Exchange) (reply : Reply) (frame : List UInt8) : Exchange :=
  { s with
    inFlight := s.inFlight ++ reply.to frame
    answer := if frame = searchFrame then some reply
      else if frame = getImageFrame then none else s.answer }

/-- Bytes arrive in the order they were sent, so those that arrive in a call
are the first ones on the line. -/
def Exchange.move (s : Exchange) : Move → Option Exchange
  | .reset => some { s with scan := as608ScanReset, answer := none }
  | .call inputs reply =>
    match as608ScanStep ⟨s.scan, inputs, []⟩ with
    | (none, _) => none
    | (some r, c) =>
      let bs := arrivals c.trace
      if bs <+: s.inFlight then
        some ((commands c.trace).foldl (·.answered reply)
          { scan := c.st
            inFlight := s.inFlight.drop bs.length
            answer := s.answer
            calls := ⟨s.scan, s.inFlight, s.answer, bs, r⟩ :: s.calls })
      else none

def Exchange.run (s : Exchange) : List Move → Option Exchange
  | [] => some s
  | m :: rest => (s.move m).bind fun s' => s'.run rest

/-- After the reset, with nothing on the line. -/
def Exchange.start : Exchange := ⟨as608ScanReset, [], none, []⟩

/-- A MATCH carries the page of a positive answer to the search of its scan. -/
def ExchangeCall.Honest (call : ExchangeCall) : Prop :=
  call.result.1 = .scanMatch →
    ∃ reply score, call.answer = some reply ∧ reply.code = 0x00 ∧
      call.result.2 = some (reply.page, score)

/-- The search goes out on an empty line: its flush has taken all earlier
replies. -/
def ExchangeCall.Flushed (call : ExchangeCall) : Prop :=
  call.scan.st = .sendSearch → call.arrived = call.inFlight

/-! ## Replies -/

theorem searchBytes_eq (reply : Reply) : ∃ sumHi sumLo, reply.searchBytes =
    [0xEF, 0x01, 0xFF, 0xFF, 0xFF, 0xFF, 0x07, 0x00, 0x07, reply.code, reply.pageHi, reply.pageLo,
      reply.scoreHi, reply.scoreLo, sumHi, sumLo] := by
  have hlen : ((5 : ℕ).toUInt16 + 2 : UInt16) = 7 := by decide
  have hhi : ((7 : UInt16) >>> 8).toUInt8 = 0 := by decide
  have hlo : ((7 : UInt16) &&& 0xFF).toUInt8 = 7 := by decide
  simp only [Reply.searchBytes, as608Frame, List.cons_append, List.nil_append, List.length_cons,
    List.length_nil, Nat.zero_add, Nat.reduceAdd, hlen, hhi, hlo]
  exact ⟨_, _, rfl⟩

theorem searchBytes_length (reply : Reply) : reply.searchBytes.length = 16 := by
  obtain ⟨sumHi, sumLo, hbytes⟩ := searchBytes_eq reply
  rw [hbytes]
  rfl

/-- The bytes read before stay in front of those that arrive now. -/
theorem accumulate_append_drop {g : Scan} {bs inFlight : List UInt8} {reply : Reply}
    (hbytes : g.resp ++ inFlight = reply.searchBytes) (hpre : bs <+: inFlight) :
    g.accumulate bs ++ inFlight.drop bs.length = reply.searchBytes := by
  obtain ⟨rest, rfl⟩ := hpre
  have hlen := congrArg List.length hbytes
  rw [searchBytes_length, List.length_append, List.length_append] at hlen
  have hshort : (g.resp ++ bs).length ≤ respSize := by
    rw [List.length_append]
    unfold respSize
    omega
  rw [Scan.accumulate, List.take_of_length_le hshort, List.drop_left, List.append_assoc, hbytes]

/-- A complete reply to a search is the whole frame the sensor sent. -/
theorem eq_of_searchComplete {reply : Reply} {resp rest : List UInt8}
    (hframe : resp ++ rest = reply.searchBytes) (hfull : SearchComplete resp) :
    resp = reply.searchBytes := by
  obtain ⟨sumHi, sumLo, hbytes⟩ := searchBytes_eq reply
  have hlen : (resp ++ rest).length = 16 := by rw [hframe, hbytes]; rfl
  have hget : ∀ i, i < resp.length → resp.getD i 0 = reply.searchBytes.getD i 0 := by
    intro i hi
    rw [← hframe, List.getD_append _ _ _ _ hi]
  obtain ⟨-, hexpect, h14⟩ := hfull
  have hexact : as608ExpectedFrameLen resp = 16 := by
    unfold as608ExpectedFrameLen
    rw [if_neg (by omega), hget 0 (by omega), hget 1 (by omega), hget 7 (by omega),
      hget 8 (by omega), hbytes]
    simp [be16]
  rw [hexact] at hexpect
  have hrest : rest = [] := by
    rw [List.length_append] at hlen
    exact List.eq_nil_of_length_eq_zero (by simp at hexpect; omega)
  rw [← hframe, hrest, List.append_nil]

/-- The id and the code the firmware reads are those of the reply. -/
theorem read_searchBytes (reply : Reply) :
    as608TryParseAck reply.searchBytes = reply.code ∧
      be16 (reply.searchBytes.getD 10 0) (reply.searchBytes.getD 11 0) = reply.page :=
  ⟨rfl, rfl⟩

theorem commands_stepped {c c' : Config Scan Sample SensorEv}
    {r : ScanStatus × Option (UInt16 × UInt16)} {bs : List UInt8} {t : ℕ}
    (h : Stepped c bs t r c') (hfresh : c.trace = []) :
    commands c'.trace = (c.st.next bs t).sent.toList := by
  obtain ⟨-, -, -, htr, -⟩ := h
  rw [htr, hfresh, commands, List.append_nil, List.filterMap_append, List.reverse_append]
  have hrx : ((rxTrace bs).filterMap fun e => match e with
      | .tx frame => some frame
      | .rx _ => none) = [] := by
    simp [rxTrace, List.filterMap_reverse, List.filterMap_map]
  rw [hrx, List.reverse_nil, List.nil_append]
  cases (c.st.next bs t).sent <;> rfl

/-! ## What a step can do -/

theorem next_waitSearch {g : Scan} {bs : List UInt8} {t : ℕ}
    (h : (g.next bs t).scan.st = .waitSearch) :
    (g.st = .sendSearch ∧ (g.next bs t).scan.resp = [] ∧ (g.next bs t).sent = some searchFrame) ∨
    (g.st = .waitSearch ∧ (g.next bs t).scan.resp = g.accumulate bs ∧
      (g.next bs t).sent = none) := by
  revert h
  unfold Scan.next
  cases hst : g.st with
  | sendSearch => exact fun _ => .inl ⟨rfl, rfl, rfl⟩
  | waitSearch =>
    dsimp only
    split_ifs <;> exact fun _ => .inr ⟨rfl, rfl, rfl⟩
  | idle | sendGetImage | sendImage2Tz | doneNoFinger | doneNoMatch | doneError | doneMatch =>
    intro h
    cases h
  | predlyImage2Tz | waitGetImage | waitImage2Tz =>
    dsimp only
    split_ifs <;> intro h <;> simp [inProgress, hst] at h

theorem next_doneMatch {g : Scan} {bs : List UInt8} {t : ℕ}
    (h : (g.next bs t).scan.st = .doneMatch) :
    g.st = .waitSearch ∧ as608TryParseAck (g.accumulate bs) = 0x00 ∧
      SearchComplete (g.accumulate bs) ∧ (g.next bs t).scan.lastId =
        be16 ((g.accumulate bs).getD 10 0) ((g.accumulate bs).getD 11 0) ∧
      (g.next bs t).sent = none := by
  revert h
  unfold Scan.next
  cases hst : g.st with
  | waitSearch =>
    dsimp only
    split_ifs with hcode hlate hzero hfull <;> intro h <;>
      first | exact ⟨rfl, hzero, hfull, rfl, rfl⟩ | simp [inProgress] at h
  | idle | sendGetImage | sendImage2Tz | doneNoFinger | doneNoMatch | doneError | sendSearch
  | doneMatch =>
    intro h
    cases h
  | predlyImage2Tz | waitGetImage | waitImage2Tz =>
    dsimp only
    split_ifs <;> intro h <;> simp [inProgress, hst] at h

theorem next_scanMatch {g : Scan} {bs : List UInt8} {t : ℕ}
    (h : (g.next bs t).status = .scanMatch) :
    g.st = .doneMatch ∧ (g.next bs t).out = some (g.lastId, g.lastScore) := by
  revert h
  unfold Scan.next
  cases hst : g.st with
  | doneMatch => exact fun _ => ⟨rfl, rfl⟩
  | idle | sendGetImage | sendImage2Tz | doneNoFinger | doneNoMatch | doneError | sendSearch =>
    intro h
    cases h
  | predlyImage2Tz | waitGetImage | waitImage2Tz | waitSearch =>
    dsimp only
    split_ifs
    all_goals
      intro h
      cases h

/-! ## The invariant -/

/-- While a search is under way the bytes read and those on the line make up
its answer; once it has matched, the id read is that of a positive answer. -/
structure Exchange.Inv (s : Exchange) : Prop where
  ok : ScanOk s.scan
  searching : s.scan.st = .waitSearch →
    ∃ reply, s.answer = some reply ∧ s.scan.resp ++ s.inFlight = reply.searchBytes
  matched : s.scan.st = .doneMatch →
    ∃ reply, s.answer = some reply ∧ reply.code = 0x00 ∧ s.scan.lastId = reply.page
  honest : ∀ call ∈ s.calls, call.Honest

theorem Exchange.start_inv : Exchange.start.Inv where
  ok := ⟨Nat.zero_le _, le_refl _⟩
  searching h := nomatch h
  matched h := nomatch h
  honest _ hc := nomatch hc

/-- A call of the exchange in terms of `Scan.next`. -/
theorem Exchange.move_call {s s' : Exchange} {inputs : List Sample} {reply : Reply}
    (hresp : s.scan.resp.length ≤ respSize) (h : s.move (.call inputs reply) = some s') :
    ∃ bs t tl, bs <+: s.inFlight ∧
      s' = (s.scan.next bs t).sent.toList.foldl (·.answered reply)
        { scan := { (s.scan.next bs t).scan with tLastByte := tl }
          inFlight := s.inFlight.drop bs.length
          answer := s.answer
          calls := ⟨s.scan, s.inFlight, s.answer, bs,
            ((s.scan.next bs t).status, (s.scan.next bs t).out)⟩ :: s.calls } := by
  unfold Exchange.move at h
  dsimp only at h
  cases hrun : as608ScanStep ⟨s.scan, inputs, []⟩ with
  | mk r c =>
    rw [hrun] at h
    cases r with
    | none => cases h
    | some r =>
      obtain ⟨bs, t, hstep⟩ := stepped_of_run (c := ⟨s.scan, inputs, []⟩) hresp hrun
      have harr := arrivals_stepped hstep rfl
      have hcmd := commands_stepped hstep rfl
      obtain ⟨-, -, rfl, -, tl, hst⟩ := hstep
      dsimp only at h
      rw [harr, hcmd] at h
      split_ifs at h with hpre
      cases h
      exact ⟨bs, t, tl, hpre, by rw [hst]⟩

theorem foldl_answered (reply : Reply) (frames : List (List UInt8)) (s : Exchange) :
    (frames.foldl (·.answered reply) s).scan = s.scan ∧
      (frames.foldl (·.answered reply) s).calls = s.calls := by
  induction frames generalizing s with
  | nil => exact ⟨rfl, rfl⟩
  | cons frame frames ih => exact ih (s.answered reply frame)

theorem Exchange.Inv.move {s s' : Exchange} {m : Move} (hinv : s.Inv) (h : s.move m = some s')
    (hflushed : ∀ call ∈ s'.calls, call.Flushed) : s'.Inv := by
  cases m with
  | reset =>
    cases h
    exact ⟨Exchange.start_inv.ok, (fun h => nomatch h), (fun h => nomatch h), hinv.honest⟩
  | call inputs reply =>
    obtain ⟨bs, t, tl, hpre, rfl⟩ := Exchange.move_call hinv.ok.resp h
    obtain ⟨hscan, hcalls⟩ := foldl_answered reply (s.scan.next bs t).sent.toList
      { scan := { (s.scan.next bs t).scan with tLastByte := tl }
        inFlight := s.inFlight.drop bs.length
        answer := s.answer
        calls := ⟨s.scan, s.inFlight, s.answer, bs,
          ((s.scan.next bs t).status, (s.scan.next bs t).out)⟩ :: s.calls }
    have hok := hinv.ok.next bs t
    refine ⟨?_, ?_, ?_, ?_⟩
    · rw [hscan]
      exact ⟨hok.resp, hok.start⟩
    · rw [hscan]
      intro hst
      rcases next_waitSearch hst with ⟨hsend, hresp, hsent⟩ | ⟨hwait, hresp, hsent⟩
      · -- the search goes out on an empty line
        have hempty : bs = s.inFlight :=
          hflushed ⟨s.scan, s.inFlight, s.answer, bs, _⟩ (by rw [hcalls]; exact List.mem_cons_self)
            hsend
        subst hempty
        refine ⟨reply, ?_, ?_⟩
        · simp [hsent, Exchange.answered]
        · simp [hsent, hresp, Exchange.answered, Reply.to]
      · obtain ⟨answer, hans, hbytes⟩ := hinv.searching hwait
        refine ⟨answer, ?_, ?_⟩
        · rw [hsent]
          exact hans
        · rw [hsent]
          simp only [Option.toList_none, List.foldl_nil, hresp]
          exact accumulate_append_drop hbytes hpre
    · rw [hscan]
      intro hst
      obtain ⟨hwait, hcode, hfull, hid, hsent⟩ := next_doneMatch hst
      obtain ⟨answer, hans, hbytes⟩ := hinv.searching hwait
      have hall := eq_of_searchComplete (accumulate_append_drop hbytes hpre) hfull
      have hread := read_searchBytes answer
      rw [hall] at hcode hid
      refine ⟨answer, ?_, hread.1 ▸ hcode, hid.trans hread.2⟩
      rw [hsent]
      exact hans
    · rw [hcalls]
      intro call hcall
      rcases List.mem_cons.mp hcall with rfl | hcall
      · intro hmatch
        obtain ⟨hst, hout⟩ := next_scanMatch hmatch
        obtain ⟨answer, hans, hcode, hid⟩ := hinv.matched hst
        exact ⟨answer, s.scan.lastScore, hans, hcode, hid ▸ hout⟩
      · exact hinv.honest call hcall

theorem calls_suffix {s s' : Exchange} {m : Move} (h : s.move m = some s') :
    s.calls <:+ s'.calls := by
  cases m with
  | reset =>
    cases h
    exact List.suffix_refl _
  | call inputs reply =>
    unfold Exchange.move at h
    dsimp only at h
    split at h
    · cases h
    · split_ifs at h
      cases h
      rw [(foldl_answered reply _ _).2]
      exact List.suffix_cons _ _

theorem run_calls_suffix {s s' : Exchange} {moves : List Move} (h : s.run moves = some s') :
    s.calls <:+ s'.calls := by
  induction moves generalizing s with
  | nil =>
    cases h
    exact List.suffix_refl _
  | cons m rest ih =>
    obtain ⟨s1, hm, hrest⟩ := Option.bind_eq_some_iff.mp h
    exact (calls_suffix hm).trans (ih hrest)

theorem Exchange.Inv.run {s s' : Exchange} {moves : List Move} (hinv : s.Inv)
    (h : s.run moves = some s') (hflushed : ∀ call ∈ s'.calls, call.Flushed) : s'.Inv := by
  induction moves generalizing s with
  | nil =>
    cases h
    exact hinv
  | cons m rest ih =>
    obtain ⟨s1, hm, hrest⟩ := Option.bind_eq_some_iff.mp h
    have hsub := (run_calls_suffix hrest).subset
    exact ih (hinv.move hm fun call hc => hflushed call (hsub hc)) hrest

/-! ## The result -/

/-- In every exchange, whatever the replies and their delays: when each search
goes out on an empty line, every MATCH carries the page of a positive answer to
the search of its scan. -/
theorem match_is_answer {s : Exchange} {moves : List Move} (h : Exchange.start.run moves = some s)
    (hflushed : ∀ call ∈ s.calls, call.Flushed) : ∀ call ∈ s.calls, call.Honest :=
  (Exchange.start_inv.run h hflushed).honest

/-- A call that begins at `t`, in which the bytes `bs` arrive. A search it sends
is answered with the confirmation code `code`. -/
def calling (t : ℕ) (bs : List UInt8) (code : UInt8) : Move :=
  .call (callSamples t bs) ⟨code, 0x00, 0x05, 0x00, 0x64⟩

/-- A scan that finds the finger of page 5, every reply in time. -/
def promptScan : List Move :=
  [calling 0 [] 0x00, calling 10 ackOk 0x00, calling 30 [] 0x00, calling 50 [] 0x00,
    calling 60 ackOk 0x00, calling 70 [] 0x00,
    calling 80 (Reply.searchBytes ⟨0x00, 0x00, 0x05, 0x00, 0x64⟩) 0x00, calling 90 [] 0x00]

theorem match_is_answer_promptScan : ∃ s ∈ Exchange.start.run promptScan,
    (∀ call ∈ s.calls, call.Honest) ∧ ∃ call ∈ s.calls, call.result.1 = .scanMatch := by
  have hrun : ∃ s ∈ Exchange.start.run promptScan,
      (∀ call ∈ s.calls, call.scan.st = .sendSearch → call.arrived = call.inFlight) ∧
        ∃ call ∈ s.calls, call.result.1 = .scanMatch := by
    decide +kernel
  obtain ⟨s, hs, hflushed, hmatch⟩ := hrun
  exact ⟨s, hs, match_is_answer hs hflushed, hmatch⟩

/-- A GetImage reply comes after its timeout, and each later reply is taken for
the answer to the next command. The search finds nothing (code 0x09). -/
def staleScan : List Move :=
  [calling 0 [] 0x00, calling 300 [] 0x00, calling 310 [] 0x00, .reset, calling 320 [] 0x00,
    calling 330 ackOk 0x00, calling 350 [] 0x00, calling 370 [] 0x00,
    calling 380 ackOk 0x00, calling 400 [] 0x09,
    calling 410 (ackOk ++ Reply.searchBytes ⟨0x09, 0x00, 0x05, 0x00, 0x64⟩) 0x00,
    calling 420 [] 0x00]

/-- The id of that match is the checksum of the reply to Image2Tz. -/
theorem stale_reply_matches : ¬ ∀ (s : Exchange) (moves : List Move),
    Exchange.start.run moves = some s → ∀ call ∈ s.calls, call.Honest := by
  intro h
  have hmatch : ∃ s ∈ Exchange.start.run staleScan, ∃ call ∈ s.calls,
      call.result = (.scanMatch, some (0x000A, 0xEF01)) ∧
        call.answer = some ⟨0x09, 0x00, 0x05, 0x00, 0x64⟩ := by
    decide +kernel
  obtain ⟨s, hrun, call, hcall, hresult, hanswer⟩ := hmatch
  obtain ⟨reply, score, hreply, hcode, -⟩ := h s staleScan hrun call hcall (by rw [hresult])
  rw [hanswer] at hreply
  cases hreply
  exact absurd hcode (by decide)

end Cerradura
