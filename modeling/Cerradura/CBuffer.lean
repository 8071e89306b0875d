import Mathlib.Data.List.Basic
import Mathlib.Data.List.TakeWhile

/-!
# C strings in buffers

A buffer is an array of bytes. A write past its end is undefined, and so is
reading a string that has no terminator in it: both are `none`.

* `put`, `memcpy`, `copyAt`, `strcpy`, `strncpy`: the writes.
* `string`: the string a buffer holds.
* `Holds`: the buffer holds this string, and `holds_strcpy`, `holds_strncpy`:
  what the copies leave.
-/

namespace CBuffer

variable {n : ℕ} {buf : Vector UInt8 n} {s x y : List UInt8}

/-- `buf[i] = b` -/
def put (buf : Vector UInt8 n) (i : ℕ) (b : UInt8) : Option (Vector UInt8 n) :=
  if h : i < n then some (buf.set i b h) else none

/-- `while (*s) buf[i++] = *s++; buf[i] = 0;` -/
def copyAt (buf : Vector UInt8 n) (i : ℕ) : List UInt8 → Option (Vector UInt8 n)
  | [] => put buf i 0
  | b :: s => do copyAt (← put buf i b) (i + 1) s

def strcpy (buf : Vector UInt8 n) (s : List UInt8) : Option (Vector UInt8 n) := copyAt buf 0 s

/-- `k` bytes from `i` on: those of `s`, and zeros once it has ended. -/
def copyN (buf : Vector UInt8 n) (i : ℕ) : ℕ → List UInt8 → Option (Vector UInt8 n)
  | 0, _ => some buf
  | k + 1, [] => do copyN (← put buf i 0) (i + 1) k []
  | k + 1, b :: s => do copyN (← put buf i b) (i + 1) k s

def strncpy (buf : Vector UInt8 n) (s : List UInt8) (k : ℕ) : Option (Vector UInt8 n) :=
  copyN buf 0 k s

/-- `memcpy(&buf[i], s, n)`, all the `n` bytes of `s` -/
def memcpy (buf : Vector UInt8 n) (i : ℕ) (s : List UInt8) : Option (Vector UInt8 n) :=
  copyN buf i s.length s

/-- `memset(buf, 0, sizeof(buf))` -/
def zeros (n : ℕ) : Vector UInt8 n := .replicate n 0

/-- The string in a buffer. -/
def string (buf : Vector UInt8 n) : Option (List UInt8) :=
  if 0 ∈ buf.toList then some (buf.toList.takeWhile (· ≠ 0)) else none

/-- The buffer holds the string and a terminator after it. -/
def Holds (buf : Vector UInt8 n) (s : List UInt8) : Prop :=
  0 ∉ s ∧ ∃ rest, buf.toList = s ++ 0 :: rest

theorem Holds.string_eq (h : Holds buf s) : string buf = some s := by
  obtain ⟨h0, rest, hbuf⟩ := h
  unfold string
  have hall : ∀ b ∈ s, decide (b ≠ 0) = true := fun b hb =>
    decide_eq_true fun hzero => h0 (hzero ▸ hb)
  rw [hbuf, if_pos (List.mem_append_right _ List.mem_cons_self),
    List.takeWhile_append_of_pos hall, List.takeWhile_cons_of_neg (by simp), List.append_nil]

theorem Holds.length_lt (h : Holds buf s) : s.length < n := by
  obtain ⟨-, rest, hbuf⟩ := h
  have hlength : n = (s ++ 0 :: rest).length := by rw [← hbuf, Vector.length_toList]
  rw [List.length_append, List.length_cons] at hlength
  omega

theorem holds_zeros : Holds (zeros (n + 1)) [] :=
  ⟨List.not_mem_nil, List.replicate n 0, Vector.toList_replicate⟩

/-- A write inside the buffer. -/
theorem put_spec {b c : UInt8} (h : buf.toList = x ++ c :: y) :
    ∃ buf', put buf x.length b = some buf' ∧ buf'.toList = x ++ b :: y := by
  have hlt : x.length < n := by
    have hlength : n = (x ++ c :: y).length := by rw [← h, Vector.length_toList]
    rw [List.length_append, List.length_cons] at hlength
    omega
  refine ⟨_, dif_pos hlt, ?_⟩
  rw [Vector.toList_set, h, List.set_append_right _ _ (Nat.le_refl _), Nat.sub_self]
  rfl

theorem copyAt_spec (h : buf.toList = x ++ y) (hlen : s.length < y.length) :
    ∃ buf', copyAt buf x.length s = some buf' ∧
      buf'.toList = x ++ s ++ 0 :: y.drop (s.length + 1) := by
  induction s generalizing buf x y with
  | nil =>
    obtain ⟨c, y, rfl⟩ := List.exists_cons_of_length_pos hlen
    obtain ⟨buf', hput, hbuf'⟩ := put_spec (b := 0) h
    refine ⟨buf', hput, ?_⟩
    rw [hbuf', List.append_nil]
    rfl
  | cons b s ih =>
    obtain ⟨c, y, rfl⟩ := List.exists_cons_of_length_pos (Nat.zero_lt_of_lt hlen)
    obtain ⟨buf1, hput, hbuf1⟩ := put_spec (b := b) h
    have hbuf1' : buf1.toList = (x ++ [b]) ++ y := by rw [hbuf1, List.append_assoc]; rfl
    obtain ⟨buf', hcopy, hbuf'⟩ := ih hbuf1' (Nat.lt_of_succ_lt_succ hlen)
    refine ⟨buf', ?_, ?_⟩
    · rw [copyAt, hput, Option.bind_eq_bind, Option.bind_some]
      rwa [List.length_append] at hcopy
    · rw [hbuf', List.append_assoc x]
      rfl

/-- A string that fits is copied. -/
theorem holds_strcpy (buf : Vector UInt8 n) (h0 : 0 ∉ s) (hlen : s.length < n) :
    ∃ buf', strcpy buf s = some buf' ∧ Holds buf' s := by
  have hlen' : s.length < buf.toList.length := by rwa [Vector.length_toList]
  obtain ⟨buf', hcopy, hbuf'⟩ := copyAt_spec (x := []) (List.nil_append _).symm hlen'
  exact ⟨buf', hcopy, h0, _, hbuf'⟩

theorem copyN_spec {k : ℕ} (h : buf.toList = x ++ y) (hk : k ≤ y.length) :
    ∃ buf', copyN buf x.length k s = some buf' ∧
      buf'.toList = x ++ (s.take k ++ List.replicate (k - s.length) 0) ++ y.drop k := by
  induction k generalizing buf x y s with
  | zero =>
    refine ⟨buf, rfl, ?_⟩
    rw [h, List.take_zero, Nat.zero_sub]
    simp
  | succ k ih =>
    obtain ⟨c, y, rfl⟩ := List.exists_cons_of_length_pos (Nat.zero_lt_of_lt hk)
    cases s with
    | nil =>
      obtain ⟨buf1, hput, hbuf1⟩ := put_spec (b := 0) h
      have hbuf1' : buf1.toList = (x ++ [0]) ++ y := by rw [hbuf1, List.append_assoc]; rfl
      obtain ⟨buf', hcopy, hbuf'⟩ := ih (s := []) hbuf1' (Nat.le_of_succ_le_succ hk)
      refine ⟨buf', ?_, ?_⟩
      · rw [copyN, hput, Option.bind_eq_bind, Option.bind_some]
        rwa [List.length_append] at hcopy
      · rw [hbuf', List.append_assoc x]
        simp [List.replicate_succ]
    | cons b s =>
      obtain ⟨buf1, hput, hbuf1⟩ := put_spec (b := b) h
      have hbuf1' : buf1.toList = (x ++ [b]) ++ y := by rw [hbuf1, List.append_assoc]; rfl
      obtain ⟨buf', hcopy, hbuf'⟩ := ih (s := s) hbuf1' (Nat.le_of_succ_le_succ hk)
      refine ⟨buf', ?_, ?_⟩
      · rw [copyN, hput, Option.bind_eq_bind, Option.bind_some]
        rwa [List.length_append] at hcopy
      · rw [hbuf', List.append_assoc x]
        simp

theorem memcpy_spec (h : buf.toList = x ++ y) (hlen : s.length ≤ y.length) :
    ∃ buf', memcpy buf x.length s = some buf' ∧ buf'.toList = x ++ s ++ y.drop s.length := by
  obtain ⟨buf', hcopy, hbuf'⟩ := copyN_spec (s := s) h hlen
  refine ⟨buf', hcopy, ?_⟩
  rw [hbuf', List.take_length, Nat.sub_self, List.replicate_zero, List.append_nil]

theorem isSome_put {i : ℕ} {b : UInt8} : (put buf i b).isSome ↔ i < n := by
  unfold put
  split
  · next h => exact ⟨fun _ => h, fun _ => rfl⟩
  · next h => exact ⟨nofun, fun h' => absurd h' h⟩

/-- `for (i < k) buf[base + i] = row[i]` -/
theorem isSome_foldlM_put {row : List UInt8} {base k : ℕ} (hk : k ≤ row.length) :
    ((List.range k).foldlM (fun buf i => do put buf (base + i) (← row[i]?)) buf).isSome ↔
      k = 0 ∨ base + k ≤ n := by
  induction k with
  | zero => exact ⟨fun _ => .inl rfl, fun _ => rfl⟩
  | succ k ih =>
    have ih := ih (Nat.le_of_succ_le hk)
    have hrow : row[k]? = some row[k] := List.getElem?_eq_getElem hk
    rw [List.range_succ, List.foldlM_append]
    cases hfold : (List.range k).foldlM (fun buf i => do put buf (base + i) (← row[i]?)) buf with
    | none =>
      rw [hfold] at ih
      obtain ⟨hpos, hlong⟩ := not_or.mp fun h => Bool.false_ne_true (ih.mpr h)
      refine ⟨nofun, ?_⟩
      rintro (hzero | hle)
      · exact absurd hzero (Nat.succ_ne_zero k)
      · exact absurd (Nat.le_of_succ_le hle) hlong
    | some buf1 =>
      have hlast : ([k].foldlM (fun buf i => do put buf (base + i) (← row[i]?)) buf1) =
          put buf1 (base + k) row[k] := by
        simp [hrow]
      rw [Option.bind_eq_bind, Option.bind_some, hlast, isSome_put]
      exact (or_iff_right (Nat.succ_ne_zero k)).symm

theorem getElem?_put {i : ℕ} {b : UInt8} {buf' : Vector UInt8 n} (h : put buf i b = some buf')
    (j : ℕ) : buf'[j]? = if i = j then some b else buf[j]? := by
  unfold put at h
  split at h
  · next hi =>
    rw [← Option.some.inj h]
    exact Vector.getElem?_set hi
  · cases h

/-- What that loop leaves. -/
theorem getElem?_foldlM_put {row : List UInt8} {base k : ℕ} {buf' : Vector UInt8 n}
    (hk : k ≤ row.length)
    (h : (List.range k).foldlM (fun buf i => do put buf (base + i) (← row[i]?)) buf = some buf')
    (j : ℕ) : buf'[j]? = if base ≤ j ∧ j < base + k then row[j - base]? else buf[j]? := by
  induction k generalizing buf' with
  | zero =>
    obtain rfl := Option.some.inj h
    rw [if_neg fun hj => absurd (hj.1.trans_lt hj.2) (Nat.lt_irrefl base)]
  | succ k ih =>
    have hrow : row[k]? = some row[k] := List.getElem?_eq_getElem hk
    rw [List.range_succ, List.foldlM_append] at h
    cases hfold : (List.range k).foldlM (fun buf i => do put buf (base + i) (← row[i]?)) buf with
    | none =>
      rw [hfold] at h
      cases h
    | some buf1 =>
      rw [hfold] at h
      have hput : put buf1 (base + k) row[k] = some buf' := by simpa [hrow] using h
      rw [getElem?_put hput, ih (Nat.le_of_succ_le hk) hfold]
      by_cases hj : base + k = j
      · subst hj
        rw [if_pos rfl, if_pos ⟨Nat.le_add_right _ _, Nat.lt_succ_self _⟩, Nat.add_sub_cancel_left]
        exact hrow.symm
      · rw [if_neg hj]
        exact if_congr (by omega) rfl rfl

/-- The first `k` characters, and the terminator that is put after them. -/
theorem holds_strncpy (buf : Vector UInt8 (n + 1)) (h0 : 0 ∉ s) :
    ∃ buf1 buf', strncpy buf s n = some buf1 ∧ put buf1 n 0 = some buf' ∧
      Holds buf' (s.take n) := by
  have hlength : buf.toList.length = n + 1 := Vector.length_toList
  obtain ⟨buf1, hcopy, hbuf1⟩ := copyN_spec (s := s) (x := []) (List.nil_append _).symm
    (show n ≤ buf.toList.length by omega)
  obtain ⟨c, hc⟩ : ∃ c, buf.toList.drop n = [c] := by
    refine List.length_eq_one_iff.mp ?_
    rw [List.length_drop, hlength]
    omega
  have hpad : (s.take n ++ List.replicate (n - s.length) 0).length = n := by
    rw [List.length_append, List.length_take, List.length_replicate]
    omega
  rw [hc, List.nil_append] at hbuf1
  obtain ⟨buf', hput, hbuf'⟩ := put_spec (b := 0) hbuf1
  rw [hpad] at hput
  refine ⟨buf1, buf', hcopy, hput, fun hmem => h0 (List.mem_of_mem_take hmem), ?_⟩
  -- a short string has its terminator already
  cases hshort : n - s.length with
  | zero => exact ⟨[], by rw [hbuf', hshort]; simp⟩
  | succ k => exact ⟨List.replicate k 0 ++ [0], by rw [hbuf', hshort]; simp [List.replicate_succ]⟩

end CBuffer
