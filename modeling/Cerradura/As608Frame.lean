import Cerradura.As608Scan
import Cerradura.CBuffer

/-!
# The frames of the fingerprint sensor

`as608WritePacket` of as608.c builds a frame in a local array and sends it in
one go. `as608Packet` is the array being filled. What is sent from it is
`as608Frame` (`as608Packet_eq`), so the header, the length, the checksum and
the length that `as608ExpectedFrameLen` reads back can be compared.
-/

namespace Cerradura

open Reactive CBuffer

/-! ## The code -/

/-- `uint8_t frame[9 + 256 + 2]` -/
def frameSize : ℕ := 9 + 256 + 2

def as608Header (packetType : UInt8) (payloadLen : UInt16) : List UInt8 :=
  let len := payloadLen + 2
  [0xEF, 0x01, 0xFF, 0xFF, 0xFF, 0xFF, packetType, (len >>> 8).toUInt8, (len &&& 0xFF).toUInt8]

/-- The checksum: type, length bytes and payload. -/
def as608Sum (packetType : UInt8) (payload : List UInt8) : UInt16 :=
  let header := as608Header packetType payload.length.toUInt16
  payload.foldl (fun s b => s + b.toUInt16)
    (packetType.toUInt16 + (header.getD 7 0).toUInt16 + (header.getD 8 0).toUInt16)

/-- What `as608WritePacket` sends, `none` if it writes past the end of `frame`.
The array is not initialised. -/
def as608Packet (frame : Vector UInt8 frameSize) (packetType : UInt8) (payload : List UInt8) :
    Option (List UInt8) := do
  let header := as608Header packetType payload.length.toUInt16
  let sum := as608Sum packetType payload
  let frame ← memcpy frame 0 header
  let idx := header.length
  let frame ← memcpy frame idx payload
  let idx := idx + payload.length
  let frame ← put frame idx (sum >>> 8).toUInt8
  let frame ← put frame (idx + 1) (sum &&& 0xFF).toUInt8
  pure (frame.toList.take (idx + 2))

/-! ## Bytes of a 16-bit number -/

theorem hiByte_toNat (n : UInt16) : (n >>> 8).toUInt8.toNat = n.toNat / 256 := by
  have hlt := n.toNat_lt
  have hhi : n.toNat / 256 < 256 := Nat.div_lt_of_lt_mul hlt
  simp [Nat.shiftRight_eq_div_pow, Nat.mod_eq_of_lt hhi]

theorem loByte_toNat (n : UInt16) : (n &&& 0xFF).toUInt8.toNat = n.toNat % 256 := by
  have hand (m : ℕ) : m &&& 255 = m % 256 := Nat.and_two_pow_sub_one_eq_mod m 8
  simp [hand]

/-- The two bytes of a number, read back. -/
theorem be16_bytes (n : UInt16) : be16 (n >>> 8).toUInt8 (n &&& 0xFF).toUInt8 = n := by
  have hhi : ((n >>> 8).toUInt8.toUInt16 <<< 8).toNat = (n.toNat / 256) <<< 8 := by
    have hlt := n.toNat_lt
    rw [UInt16.toNat_shiftLeft, UInt8.toNat_toUInt16, hiByte_toNat]
    simp [Nat.shiftLeft_eq]
    omega
  have hlo : (n &&& 0xFF).toUInt8.toUInt16.toNat = n.toNat % 256 := by
    rw [UInt8.toNat_toUInt16, loByte_toNat]
  apply UInt16.toNat_inj.mp
  rw [be16, UInt16.toNat_or, hhi, hlo,
    ← Nat.shiftLeft_add_eq_or_of_lt (Nat.mod_lt _ (by decide)), Nat.shiftLeft_eq]
  exact Nat.div_add_mod' n.toNat 256

/-- A sum of bytes in 16 bits. -/
theorem foldl_sum_toNat (bs : List UInt8) (s : UInt16) :
    (bs.foldl (fun s b => s + b.toUInt16) s).toNat =
      (s.toNat + (bs.map UInt8.toNat).sum) % 2 ^ 16 := by
  induction bs generalizing s with
  | nil => exact (Nat.mod_eq_of_lt s.toNat_lt).symm
  | cons b bs ih =>
    rw [List.foldl_cons, ih, UInt16.toNat_add, UInt8.toNat_toUInt16, Nat.mod_add_mod,
      List.map_cons, List.sum_cons, Nat.add_assoc]

theorem as608Sum_toNat (packetType : UInt8) (payload : List UInt8) :
    (as608Sum packetType payload).toNat = (packetType.toNat +
      (((as608Header packetType payload.length.toUInt16).getD 7 0).toNat +
        ((as608Header packetType payload.length.toUInt16).getD 8 0).toNat) +
      (payload.map UInt8.toNat).sum) % 2 ^ 16 := by
  rw [as608Sum, foldl_sum_toNat, UInt16.toNat_add, UInt16.toNat_add, Nat.mod_add_mod,
    Nat.add_assoc (_ % _), Nat.mod_add_mod, UInt8.toNat_toUInt16, UInt8.toNat_toUInt16,
    UInt8.toNat_toUInt16]
  simp only [Nat.add_assoc]

/-! ## The frame -/

variable {packetType : UInt8} {payload : List UInt8}

theorem as608Header_length (packetType : UInt8) (payloadLen : UInt16) :
    (as608Header packetType payloadLen).length = 9 := rfl

theorem as608Frame_eq (packetType : UInt8) (payload : List UInt8) :
    as608Frame packetType payload =
      as608Header packetType payload.length.toUInt16 ++ payload ++
        [(as608Sum packetType payload >>> 8).toUInt8,
          (as608Sum packetType payload &&& 0xFF).toUInt8] := rfl

theorem as608Frame_length (packetType : UInt8) (payload : List UInt8) :
    (as608Frame packetType payload).length = 11 + payload.length := by
  rw [as608Frame_eq, List.length_append, List.length_append, as608Header_length]
  exact Nat.add_right_comm 9 payload.length 2

theorem drop_as608Frame (packetType : UInt8) (payload : List UInt8) :
    (as608Frame packetType payload).drop 9 = payload ++
      [(as608Sum packetType payload >>> 8).toUInt8,
        (as608Sum packetType payload &&& 0xFF).toUInt8] := by
  rw [as608Frame_eq, List.append_assoc]
  exact List.drop_left' (as608Header_length packetType _)

theorem exists_cons_cons {bs : List UInt8} (h : 2 ≤ bs.length) :
    ∃ c d rest, bs = c :: d :: rest :=
  match bs, h with
  | c :: d :: rest, _ => ⟨c, d, rest, rfl⟩

/-- The array holds the frame, if the payload leaves room for the rest. -/
theorem as608Packet_eq (frame : Vector UInt8 frameSize) (packetType : UInt8)
    (hlen : payload.length ≤ 256) :
    as608Packet frame packetType payload = some (as608Frame packetType payload) := by
  set header := as608Header packetType payload.length.toUInt16 with hheader
  set hi := (as608Sum packetType payload >>> 8).toUInt8 with hhi
  set lo := (as608Sum packetType payload &&& 0xFF).toUInt8 with hlo
  have h9 : header.length = 9 := as608Header_length packetType _
  have hsize : frame.toList.length = 267 := Vector.length_toList
  have hframe : frame.toList = [] ++ frame.toList := (List.nil_append _).symm
  obtain ⟨frame1, hcopy1, hframe1⟩ := memcpy_spec (s := header) hframe
    (by rw [h9, hsize]; decide)
  obtain ⟨frame2, hcopy2, hframe2⟩ := memcpy_spec (s := payload) hframe1
    (by rw [List.length_drop, hsize, h9]; exact Nat.le_trans hlen (by decide))
  have hroom : 2 ≤ ((frame.toList.drop header.length).drop payload.length).length := by
    rw [List.length_drop, List.length_drop, hsize, h9]
    exact Nat.le_sub_of_add_le (Nat.add_le_add_left hlen 2)
  obtain ⟨c, d, rest, hrest⟩ := exists_cons_cons hroom
  rw [hrest] at hframe2
  obtain ⟨frame3, hput3, hframe3⟩ := put_spec (b := hi) hframe2
  obtain ⟨frame4, hput4, hframe4⟩ := put_spec (b := lo) (x := header ++ payload ++ [hi])
    (by rw [hframe3]; exact (List.append_assoc _ [hi] _).symm)
  have hframe4' : frame4.toList = as608Frame packetType payload ++ rest := by
    rw [hframe4, as608Frame_eq, ← hheader, ← hhi, ← hlo]
    simp only [List.append_assoc, List.cons_append, List.nil_append]
  have hidx : header.length + payload.length + 2 = (as608Frame packetType payload).length := by
    rw [as608Frame_length, h9]
    exact Nat.add_right_comm 9 payload.length 2
  simp only [List.nil_append, List.length_append, List.length_singleton] at hcopy2 hput3 hput4
  unfold as608Packet
  simp only [← hheader, ← hhi, ← hlo, Option.bind_eq_bind, Option.pure_def]
  rw [show memcpy frame 0 header = some frame1 from hcopy1, Option.bind_some, hcopy2,
    Option.bind_some, hput3, Option.bind_some, hput4, Option.bind_some, hidx, hframe4',
    List.take_left]

/-! ## The reader -/

/-- Nine bytes of a frame are enough to tell its length. -/
theorem as608ExpectedFrameLen_eq (payloadLen : UInt16) (rest : List UInt8) :
    as608ExpectedFrameLen (as608Header packetType payloadLen ++ rest) = 9 + (payloadLen + 2) := by
  have hlong : ¬ (as608Header packetType payloadLen ++ rest).length < 9 := by
    rw [List.length_append, as608Header_length]
    exact Nat.not_lt.mpr (Nat.le_add_right 9 _)
  rw [as608ExpectedFrameLen, if_neg hlong, if_neg (by simp [as608Header])]
  exact congrArg (9 + ·) (be16_bytes (payloadLen + 2))

theorem expected_of_isPrefix {p : List UInt8} (hp : p <+: as608Frame packetType payload)
    (h9 : 9 ≤ p.length) : as608ExpectedFrameLen p = 9 + (payload.length.toUInt16 + 2) := by
  rw [as608Frame_eq, List.append_assoc] at hp
  obtain ⟨rest, rfl⟩ : as608Header packetType payload.length.toUInt16 <+: p :=
    List.prefix_of_prefix_length_le (List.prefix_append _ _) hp h9
  exact as608ExpectedFrameLen_eq _ rest

/-- No carry is lost in the length. -/
theorem expectedLen_toNat {n : ℕ} (hn : n ≤ 256) : (9 + (n.toUInt16 + 2)).toNat = 11 + n := by
  have hlt (k : ℕ) (hk : k ≤ 11) : n + k < 2 ^ 16 :=
    Nat.lt_of_le_of_lt (Nat.add_le_add hn hk) (by decide)
  have h16 : n.toUInt16.toNat = n := Nat.mod_eq_of_lt (hlt 0 (Nat.zero_le 11))
  have h2 : (n.toUInt16 + 2).toNat = n + 2 := by
    rw [UInt16.toNat_add, h16]
    exact Nat.mod_eq_of_lt (hlt 2 (by decide))
  rw [UInt16.toNat_add, h2, Nat.add_comm _ (n + 2), Nat.add_comm 11 n]
  exact Nat.mod_eq_of_lt (hlt 11 (Nat.le_refl 11))

/-- A frame says what it carries. -/
theorem as608Frame_injective {packetType' : UInt8} {payload' : List UInt8}
    (h : as608Frame packetType payload = as608Frame packetType' payload') :
    packetType = packetType' ∧ payload = payload' := by
  have hlength : payload.length = payload'.length := by
    have hlen := congrArg List.length h
    rw [as608Frame_length, as608Frame_length] at hlen
    exact Nat.add_left_cancel hlen
  refine ⟨?_, ?_⟩
  · exact congrArg (·.getD 6 0) h
  · have hdrop := congrArg (List.drop 9) h
    rw [drop_as608Frame, drop_as608Frame] at hdrop
    exact (List.append_inj hdrop hlength).1

/-- Up to 256 bytes of payload fit, and header, length and checksum agree. -/
theorem as608WritePacket_exact {σ : Type} (packetType : UInt8) (payload : List UInt8)
    (hlen : payload.length ≤ 256) (frame : Vector UInt8 frameSize) :
    ∃ sent, as608Packet frame packetType payload = some sent ∧
      (as608WritePacket packetType payload : Prog σ Sample SensorEv Unit) =
        Prog.emit (.tx sent) ∧
      sent.length = 11 + payload.length ∧ sent.length ≤ frameSize ∧
      (sent.drop 9).take payload.length = payload ∧
      (∃ hi lo, sent.drop (9 + payload.length) = [hi, lo] ∧
        256 * hi.toNat + lo.toNat = (packetType.toNat +
          ((sent.getD 7 0).toNat + (sent.getD 8 0).toNat) +
          (payload.map UInt8.toNat).sum) % 2 ^ 16) ∧
      (∀ p, p <+: sent → 9 ≤ p.length → (as608ExpectedFrameLen p).toNat = sent.length) ∧
      ∀ packetType' payload' frame', payload'.length ≤ 256 →
        as608Packet frame' packetType' payload' = some sent →
        packetType = packetType' ∧ payload = payload' := by
  refine ⟨as608Frame packetType payload, as608Packet_eq frame packetType hlen, rfl,
    as608Frame_length packetType payload, ?_, ?_, ?_, ?_, ?_⟩
  · rw [as608Frame_length]
    exact Nat.add_le_add_left hlen 11
  · rw [drop_as608Frame, List.take_left]
  · refine ⟨_, _, by rw [← List.drop_drop, drop_as608Frame, List.drop_left], ?_⟩
    rw [hiByte_toNat, loByte_toNat, Nat.div_add_mod]
    exact as608Sum_toNat packetType payload
  · intro p hp h9
    rw [expected_of_isPrefix hp h9, as608Frame_length]
    exact expectedLen_toNat hlen
  · intro packetType' payload' frame' hlen' hsent
    rw [as608Packet_eq frame' packetType' hlen'] at hsent
    exact as608Frame_injective (Option.some.inj hsent).symm

/-- The longest payload fills the array. -/
theorem as608WritePacket_full : ∃ sent,
    as608Packet (zeros frameSize) 0x01 (List.replicate 256 0xFF) = some sent ∧
      sent.length = frameSize ∧ (as608ExpectedFrameLen (sent.take 9)).toNat = frameSize := by
  obtain ⟨sent, hsent, -, hlength, -, -, -, hexpect, -⟩ :=
    as608WritePacket_exact (σ := Unit) 0x01 (List.replicate 256 0xFF) List.length_replicate.le
      (zeros frameSize)
  rw [List.length_replicate] at hlength
  refine ⟨sent, hsent, hlength, ?_⟩
  rw [hexpect _ (List.take_prefix 9 sent) (by rw [List.length_take, hlength]; decide), hlength]
  rfl

end Cerradura
