import Cerradura.Elapsed

/-!
# The firmware's elapsed-time tests

`tickRead()` is a 64-bit counter of milliseconds. Every timeout of the firmware
subtracts from it an instant that was stored earlier in a `uint32_t` or in a
`long int`, which has 32 bits on the LPC4337. The usual arithmetic conversions
widen the stored value to 64 bits first: a `uint32_t` with zeros, a `long int`
with its sign.

Results:
1. `TimeTest.holds_iff`: a test decides as the true difference does exactly when
   the start instant fits its variable or the limit has been reached anyway.
2. `not_exact_at_every_uptime`: 2^31 ms (24.8 days) after the reset the lock
   takes a key pressed just now for an idle user.
-/

namespace Cerradura

open Elapsed

/-- The types the start instants are kept in. -/
inductive Storage
  | u32
  | long
deriving DecidableEq, Repr

/-- The value of the variable after `start = tickRead()`. -/
def Storage.keep : Storage → ℕ → ℤ
  | .u32, t => unsigned 32 t
  | .long, t => signed 32 t

inductive Comparison
  | lt
  | gt
  | ge
deriving DecidableEq, Repr

def Comparison.holds : Comparison → ℕ → ℕ → Bool
  | .lt, elapsed, limit => elapsed < limit
  | .gt, elapsed, limit => elapsed > limit
  | .ge, elapsed, limit => elapsed ≥ limit

/-- TIMEOUT_MS of mef_config.h -/
def timeoutMs : ℕ := 40000

/-- INTERVALO_HUELLA_MS of MEF.c -/
def intervaloHuellaMs : ℕ := 600

/-- The places of as608.c, espAT.c and MEF.c that compare an elapsed time. -/
inductive TimeTest
  | flushRx (ms : UInt32) -- as608FlushRx, while still flushing
  | recv (timeoutMs : UInt32) -- as608Recv, while still receiving
  | recvIdle -- as608Recv, silent for too long
  | readSlice (sliceMs : UInt32) -- as608ReadSlice, while still in the slice
  | waitGetImage -- ST_WAIT_GETIMAGE timed out
  | predlyImage2Tz -- ST_PREDLY_IMAGE2TZ is over
  | waitImage2Tz -- ST_WAIT_IMAGE2TZ timed out
  | waitSearch -- ST_WAIT_SEARCH timed out
  | enrollCapture -- as608EnrollCapture, while still trying
  | enrollAttempt -- as608EnrollCapture, too early for another attempt
  | comandoAT (timeoutMs : UInt32) -- enviarComandoAT, while still receiving
  | comandoATIdle -- enviarComandoAT, silent for too long
  | inicializarESP (timeoutMs : UInt32) -- inicializarESP, while still waiting for OK
  | inicializarESPWait -- inicializarESP, while still waiting for an IP
  | ultimaPresencia -- ESPERANDO_ACCION, no activity: go to sleep
  | agendaHuella -- ESPERANDO_ACCION, time for another scan
  | pinAdmin -- ESPERANDO_ACCION, while waiting for the administrator's PIN
  | pinAuth -- MENU_ADMIN option 4, master PIN prompt timed out
  | subOp -- MENU_ADMIN option 4, while waiting for the kind of deletion
  | pinTarget -- MENU_ADMIN option 4, PIN prompt of the user timed out
  | pinValidado -- REGISTRAR_RFID and REGISTRAR_HUELLA, PIN prompt timed out
  | tarjeta -- REGISTRAR_RFID, card prompt timed out
deriving DecidableEq, Repr

namespace TimeTest

/-- The variable the start instant is kept in. -/
def storage : TimeTest → Storage
  | .ultimaPresencia | .agendaHuella | .pinAdmin | .pinAuth | .subOp | .pinTarget
  | .pinValidado | .tarjeta => .long
  | _ => .u32

def comparison : TimeTest → Comparison
  | .flushRx _ | .recv _ | .readSlice _ | .enrollCapture | .enrollAttempt | .comandoAT _
  | .inicializarESP _ | .inicializarESPWait | .pinAdmin | .subOp => .lt
  | .predlyImage2Tz | .agendaHuella => .ge
  | .recvIdle | .waitGetImage | .waitImage2Tz | .waitSearch | .comandoATIdle
  | .ultimaPresencia | .pinAuth | .pinTarget | .pinValidado | .tarjeta => .gt

def limit : TimeTest → ℕ
  | .flushRx ms | .recv ms | .readSlice ms | .comandoAT ms | .inicializarESP ms => ms.toNat
  | .recvIdle => 30
  | .waitGetImage => 200
  | .predlyImage2Tz => 10
  | .waitImage2Tz => 400
  | .waitSearch => 200
  | .enrollCapture => 30000
  | .enrollAttempt => 300
  | .comandoATIdle => 1000
  | .inicializarESPWait => 15000
  | .ultimaPresencia => timeoutMs
  | .agendaHuella => intervaloHuellaMs
  | .pinAdmin | .pinAuth | .subOp => 10000
  | .pinTarget | .pinValidado | .tarjeta => 15000

/-- The stored start instant. -/
def keep (e : TimeTest) (t : ℕ) : ℤ := e.storage.keep t

/-- The test as the firmware computes it, in 64 bits. -/
def holds (e : TimeTest) (now : ℕ) (start : ℤ) : Bool :=
  e.comparison.holds (since 64 now start) e.limit

/-- The test on the true difference. -/
def ideal (e : TimeTest) (elapsed : ℕ) : Bool := e.comparison.holds elapsed e.limit

/-- The start instant keeps its value through the variable and back to 64 bits. -/
def Fits (e : TimeTest) (t0 : ℕ) : Prop :=
  match e.storage with
  | .u32 => t0 < 2 ^ 32
  | .long => t0 < 2 ^ 31 ∨ 2 ^ 64 - 2 ^ 31 ≤ t0

/-- The limit has been reached, so any larger difference decides alike. -/
def Reached (e : TimeTest) (elapsed : ℕ) : Prop :=
  match e.comparison with
  | .lt | .ge => e.limit ≤ elapsed
  | .gt => e.limit < elapsed

theorem limit_lt (e : TimeTest) : e.limit < 2 ^ 32 := by
  cases e with
  | flushRx ms | recv ms | readSlice ms | comandoAT ms | inicializarESP ms =>
    exact ms.toNat_lt
  | _ => simp [limit, timeoutMs, intervaloHuellaMs]

theorem since_keep_of_fits {e : TimeTest} {t0 t1 : ℕ} (h01 : t0 ≤ t1) (h1 : t1 < 2 ^ 64)
    (h0 : e.Fits t0) : since 64 t1 (e.keep t0) = t1 - t0 := by
  unfold Fits at h0
  unfold keep Storage.keep
  cases hs : e.storage with
  | u32 =>
    rw [hs] at h0
    exact since_unsigned_exact h01 h1 h0
  | long =>
    rw [hs] at h0
    rcases h0 with h0 | h0
    · exact since_signed_exact h01 h1 h0
    · exact since_signed_top (by decide) h01 h1 (by omega)

theorem since_keep_of_not_fits {e : TimeTest} {t0 t1 : ℕ} (h01 : t0 ≤ t1) (h1 : t1 < 2 ^ 64)
    (hgap : t1 - t0 < 2 ^ 31) (h0 : ¬ e.Fits t0) : 2 ^ 32 ≤ since 64 t1 (e.keep t0) := by
  unfold Fits at h0
  unfold keep Storage.keep
  cases hs : e.storage with
  | u32 =>
    rw [hs] at h0
    exact since_unsigned_large h01 h1 (by omega)
  | long =>
    rw [hs] at h0
    exact since_signed_large (w := 31) (by decide) h01 (by omega) (by omega) (by omega)

/-- A difference beyond every limit decides right exactly when the limit has
been reached. -/
theorem holds_large_iff {e : TimeTest} {large elapsed : ℕ} (hlarge : 2 ^ 32 ≤ large) :
    e.comparison.holds large e.limit = e.ideal elapsed ↔ e.Reached elapsed := by
  have hlimit := e.limit_lt
  unfold ideal Reached Comparison.holds
  cases e.comparison with
  | lt | ge | gt => simp; omega

/-- An elapsed-time test decides as the true difference does if and only if the
start instant fits its variable or the limit has been reached. -/
theorem holds_iff (e : TimeTest) {t0 t1 : ℕ} (h01 : t0 ≤ t1) (h1 : t1 < 2 ^ 64)
    (hgap : t1 - t0 < 2 ^ 31) :
    e.holds t1 (e.keep t0) = e.ideal (t1 - t0) ↔ e.Fits t0 ∨ e.Reached (t1 - t0) := by
  by_cases h0 : e.Fits t0
  · simp [holds, ideal, since_keep_of_fits h01 h1 h0, h0]
  · have hlarge := since_keep_of_not_fits h01 h1 hgap h0
    simp only [h0, false_or]
    exact holds_large_iff hlarge

/-- The flush of the sensor's line at the first instant a `uint32_t` cannot hold. -/
theorem holds_iff_flushRx :
    ((flushRx 2).holds (2 ^ 32 + 1) ((flushRx 2).keep (2 ^ 32)) =
        (flushRx 2).ideal (2 ^ 32 + 1 - 2 ^ 32) ↔
      (flushRx 2).Fits (2 ^ 32) ∨ (flushRx 2).Reached (2 ^ 32 + 1 - 2 ^ 32)) ∧
    (flushRx 2).holds (2 ^ 32 + 1) ((flushRx 2).keep (2 ^ 32)) = false :=
  ⟨holds_iff (flushRx 2) (by decide) (by decide) (by decide), by decide⟩

/-- A user who touched the keypad this very millisecond is taken for one who has
been idle for longer than TIMEOUT_MS. -/
theorem not_exact_at_every_uptime :
    ¬ ∀ (e : TimeTest) (t0 t1 : ℕ), t0 ≤ t1 → t1 < 2 ^ 64 → t1 - t0 < 2 ^ 31 →
      e.holds t1 (e.keep t0) = e.ideal (t1 - t0) := by
  intro h
  have hwrong : ultimaPresencia.holds (2 ^ 31) (ultimaPresencia.keep (2 ^ 31)) = true := by decide
  rw [h ultimaPresencia (2 ^ 31) (2 ^ 31) (by decide) (by decide) (by decide)] at hwrong
  exact absurd hwrong (by decide)

end TimeTest

end Cerradura
