import Mathlib.Data.Int.ModEq
import Mathlib.Tactic.Ring

/-!
# Elapsed time between an `n`-bit clock and a narrower start instant

A clock counts in `n` bits. A program stores the instant it started at in a
variable of `w` bits, unsigned or signed, and later subtracts it from the
clock in `n`-bit arithmetic. The stored value always differs from the true
instant by a multiple of `2 ^ w`, and that multiple is what the difference is
off by (`since_shift`).
-/

namespace Elapsed

/-- The `n`-bit difference between the clock and a stored instant. -/
def since (n now : ℕ) (start : ℤ) : ℕ := (((now : ℤ) - start) % 2 ^ n).toNat

/-- The value an unsigned `w`-bit variable keeps of `t`. -/
def unsigned (w t : ℕ) : ℤ := (t : ℤ) % 2 ^ w

/-- The value a signed `w`-bit variable keeps of `t`. -/
def signed (w t : ℕ) : ℤ := (t : ℤ).bmod (2 ^ w)

variable {n w t0 t1 k : ℕ}

theorem since_shift (h01 : t0 ≤ t1) :
    since n t1 ((t0 : ℤ) - (k * 2 ^ w : ℕ)) = (t1 - t0 + k * 2 ^ w) % 2 ^ n := by
  have hval : ((t1 : ℤ) - ((t0 : ℤ) - (k * 2 ^ w : ℕ))) % 2 ^ n =
      (((t1 - t0 + k * 2 ^ w) % 2 ^ n : ℕ) : ℤ) := by
    push_cast [h01]
    ring_nf
  rw [since, hval, Int.toNat_natCast]

/-- A stored instant that is the true one gives the true difference. -/
theorem since_exact (h01 : t0 ≤ t1) (h1 : t1 < 2 ^ n) : since n t1 (t0 : ℤ) = t1 - t0 := by
  have hval : ((t1 : ℤ) - (t0 : ℤ)) % 2 ^ n = (((t1 - t0) % 2 ^ n : ℕ) : ℤ) := by
    push_cast [h01]
    rfl
  rw [since, hval, Int.toNat_natCast, Nat.mod_eq_of_lt (by omega)]

/-! ## What the narrow variable keeps -/

theorem unsigned_eq_sub (t : ℕ) : unsigned w t = (t : ℤ) - (t / 2 ^ w * 2 ^ w : ℕ) := by
  have hdiv : (t / 2 ^ w * 2 ^ w : ℕ) + t % 2 ^ w = t := Nat.div_add_mod' t (2 ^ w)
  have hval : unsigned w t = ((t % 2 ^ w : ℕ) : ℤ) := by
    unfold unsigned
    push_cast
    rfl
  rw [hval]
  omega

theorem bmod_eq_sub {half : ℕ} (hpos : 0 < half) (t : ℕ) :
    (t : ℤ).bmod (2 * half) = (t : ℤ) - ((t + half) / (2 * half) * (2 * half) : ℕ) := by
  obtain ⟨q, r, hr, rfl⟩ : ∃ q r, r < 2 * half ∧ t = r + q * (2 * half) :=
    ⟨t / (2 * half), t % (2 * half), Nat.mod_lt _ (by omega), by
      rw [Nat.add_comm, Nat.div_add_mod']⟩
  have hmod : ((r + q * (2 * half) : ℕ) : ℤ) % ((2 * half : ℕ) : ℤ) = r := by
    rw [← Int.natCast_mod, Nat.add_mul_mod_self_right, Nat.mod_eq_of_lt hr]
  have hquot : (r + q * (2 * half) + half) / (2 * half) = (r + half) / (2 * half) + q := by
    rw [Nat.add_right_comm, Nat.add_mul_div_right _ _ (by omega)]
  rw [Int.bmod_def, hmod, hquot]
  -- the remainder is kept as it is below `half` and lowered by one period from there on
  by_cases hlow : r < half
  · have hzero : (r + half) / (2 * half) = 0 := Nat.div_eq_of_lt (by omega)
    rw [if_pos (by omega), hzero, Nat.zero_add]
    omega
  · have hone : (r + half) / (2 * half) = 1 := Nat.div_eq_of_lt_le (by omega) (by omega)
    rw [if_neg (by omega), hone, Nat.add_mul, Nat.one_mul]
    omega

theorem signed_eq_sub (t : ℕ) :
    signed (w + 1) t = (t : ℤ) - ((t + 2 ^ w) / 2 ^ (w + 1) * 2 ^ (w + 1) : ℕ) := by
  have hpow : 2 ^ (w + 1) = 2 * 2 ^ w := by rw [pow_succ, mul_comm]
  rw [signed, hpow]
  exact bmod_eq_sub (Nat.two_pow_pos w) t

/-! ## Where the difference is right -/

theorem since_unsigned (h01 : t0 ≤ t1) :
    since n t1 (unsigned w t0) = (t1 - t0 + t0 / 2 ^ w * 2 ^ w) % 2 ^ n := by
  rw [unsigned_eq_sub, since_shift h01]

theorem since_signed (h01 : t0 ≤ t1) :
    since n t1 (signed (w + 1) t0) =
      (t1 - t0 + (t0 + 2 ^ w) / 2 ^ (w + 1) * 2 ^ (w + 1)) % 2 ^ n := by
  rw [signed_eq_sub, since_shift h01]

/-- A start instant that fits the unsigned variable gives the true difference. -/
theorem since_unsigned_exact (h01 : t0 ≤ t1) (h1 : t1 < 2 ^ n) (h0 : t0 < 2 ^ w) :
    since n t1 (unsigned w t0) = t1 - t0 := by
  rw [since_unsigned h01, Nat.div_eq_of_lt h0, Nat.zero_mul, Nat.add_zero,
    Nat.mod_eq_of_lt (by omega)]

/-- A start instant that does not fit makes the difference at least a whole
period of the variable. -/
theorem since_unsigned_large (h01 : t0 ≤ t1) (h1 : t1 < 2 ^ n) (h0 : 2 ^ w ≤ t0) :
    2 ^ w ≤ since n t1 (unsigned w t0) := by
  have hquot : 1 ≤ t0 / 2 ^ w := (Nat.one_le_div_iff (Nat.two_pow_pos w)).mpr h0
  have hle : t0 / 2 ^ w * 2 ^ w ≤ t0 := Nat.div_mul_le_self t0 (2 ^ w)
  have hone : 1 * 2 ^ w ≤ t0 / 2 ^ w * 2 ^ w := Nat.mul_le_mul_right _ hquot
  rw [since_unsigned h01, Nat.mod_eq_of_lt (by omega)]
  omega

theorem since_signed_exact (h01 : t0 ≤ t1) (h1 : t1 < 2 ^ n) (h0 : t0 < 2 ^ w) :
    since n t1 (signed (w + 1) t0) = t1 - t0 := by
  have hsmall : t0 + 2 ^ w < 2 ^ (w + 1) := by rw [pow_succ]; omega
  rw [since_signed h01, Nat.div_eq_of_lt hsmall, Nat.zero_mul, Nat.add_zero,
    Nat.mod_eq_of_lt (by omega)]

/-- In the last half period of the clock the sign extension wraps back, and the
difference is right again. -/
theorem since_signed_top (hw : w + 1 ≤ n) (h01 : t0 ≤ t1) (h1 : t1 < 2 ^ n)
    (h0 : 2 ^ n ≤ t0 + 2 ^ w) : since n t1 (signed (w + 1) t0) = t1 - t0 := by
  obtain ⟨m, rfl⟩ := Nat.exists_eq_add_of_le' hw
  have hpow : 2 ^ (m + (w + 1)) = 2 ^ m * 2 ^ (w + 1) := pow_add _ _ _
  have hhalf : 2 ^ (w + 1) = 2 * 2 ^ w := by rw [pow_succ, mul_comm]
  have hquot : (t0 + 2 ^ w) / 2 ^ (w + 1) = 2 ^ m :=
    Nat.div_eq_of_lt_le (by omega) (by rw [Nat.add_mul]; omega)
  rw [since_signed h01, hquot, ← hpow, Nat.add_mod_right, Nat.mod_eq_of_lt (by omega)]

/-- Everywhere else the difference is at least a whole period of the variable. -/
theorem since_signed_large (hw : w + 1 ≤ n) (h01 : t0 ≤ t1) (hgap : t1 - t0 < 2 ^ (w + 1))
    (hlow : 2 ^ w ≤ t0) (htop : t0 + 2 ^ w < 2 ^ n) :
    2 ^ (w + 1) ≤ since n t1 (signed (w + 1) t0) := by
  obtain ⟨m, rfl⟩ := Nat.exists_eq_add_of_le' hw
  have hpow : 2 ^ (m + (w + 1)) = 2 ^ m * 2 ^ (w + 1) := pow_add _ _ _
  have hhalf : 2 ^ (w + 1) = 2 * 2 ^ w := by rw [pow_succ, mul_comm]
  have hpos : 0 < 2 ^ (w + 1) := Nat.two_pow_pos (w + 1)
  have hquot : 1 ≤ (t0 + 2 ^ w) / 2 ^ (w + 1) := (Nat.one_le_div_iff hpos).mpr (by omega)
  have hbelow : (t0 + 2 ^ w) / 2 ^ (w + 1) + 1 ≤ 2 ^ m :=
    (Nat.div_lt_iff_lt_mul hpos).mpr (by omega)
  have hlower := Nat.mul_le_mul_right (2 ^ (w + 1)) hquot
  have hupper := Nat.mul_le_mul_right (2 ^ (w + 1)) hbelow
  rw [Nat.add_mul] at hupper
  rw [since_signed h01, Nat.mod_eq_of_lt (by omega)]
  omega

end Elapsed
