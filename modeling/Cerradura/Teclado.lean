import Cerradura.Hardware
import Cerradura.PinTable

/-!
# The keypad and the card reader

`tecladoLeerPin` and `tecladoLeerTecla` of teclado.c take one sample of the
keypad at a time and share the memory of the key that is held down. The digits
of a PIN are kept in a buffer of the driver until there are five.
-/

namespace Cerradura

open Reactive

variable {σ ε : Type}

/-! ## teclado.c -/

/-- PIN_LENGTH -/
def pinLength : ℕ := 5

/-- The variables of teclado.c. The first `pos` characters of the buffer are a
list. -/
structure Teclado where
  pinIngresado : List UInt8
  keyHeld : Bool
  lastIndex : ℕ
deriving DecidableEq, Repr

def Teclado.inicial : Teclado := { pinIngresado := [], keyHeld := false, lastIndex := 0xFFFF }

/-- A press that was noticed. -/
inductive TecladoEv
  | tecla (c : UInt8)
deriving DecidableEq, Repr

/-- `keypadMap` -/
def keypadMap : Vector UInt8 12 :=
  #v[0x31, 0x32, 0x33, 0x34, 0x35, 0x36, 0x37, 0x38, 0x39, 0x2A, 0x30, 0x23]

def asterisco : UInt8 := 0x2A

def tecladoReset : Prog Teclado Sample TecladoEv Unit := Prog.modify ({ · with pinIngresado := [] })

/-- A key that is down, unless it was already down before. -/
def nuevaTecla : Prog Teclado Sample TecladoEv (Option UInt8) := do
  let m ← Prog.read
  let t ← Prog.get
  match m.tecla with
  | some teclaIndex =>
    if !t.keyHeld ∨ teclaIndex.val ≠ t.lastIndex then
      Prog.modify ({ · with keyHeld := true, lastIndex := teclaIndex.val })
      let tecla := keypadMap[teclaIndex]
      Prog.emit (.tecla tecla)
      pure (some tecla)
    else pure none
  | none =>
    Prog.modify ({ · with keyHeld := false, lastIndex := 0xFFFF })
    pure none

/-- What `tecladoLeerPin` returns: 0, -1 or 1. -/
inductive LeerPin
  | incompleto
  | menu
  | completo (pin : List UInt8)
deriving DecidableEq, Repr

/-- The result, and `*ultimaActividad` if it was written. Every caller passes
the address of a `long int`. -/
def tecladoLeerPin : Prog Teclado Sample TecladoEv (LeerPin × Option ℤ) := do
  match ← nuevaTecla with
  | none => pure (.incompleto, none)
  | some teclaChar =>
    let ultimaActividad := Storage.long.keep (← tickRead)
    if teclaChar = asterisco then
      tecladoReset
      pure (.menu, some ultimaActividad)
    else
      let t ← Prog.get
      let pin := if t.pinIngresado.length < pinLength ∧ isDecimalDigit teclaChar then
        t.pinIngresado ++ [teclaChar] else t.pinIngresado
      if pin.length = pinLength then
        tecladoReset
        pure (.completo pin, some ultimaActividad)
      else
        Prog.modify ({ · with pinIngresado := pin })
        pure (.incompleto, some ultimaActividad)

def tecladoLeerTecla : Prog Teclado Sample TecladoEv (Option UInt8) := nuevaTecla

/-! ## rc522_drv.c -/

/-- `"0123456789ABCDEF"[n & 0x0F]` -/
def hexMayuscula (n : UInt8) : UInt8 :=
  if n &&& 0x0F < 10 then 0x30 + (n &&& 0x0F) else 0x37 + (n &&& 0x0F)

/-- A UID as text. -/
def uidStr (uid : Vector UInt8 4) : List UInt8 :=
  uid.toList.flatMap fun b : UInt8 => [hexMayuscula (b >>> 4), hexMayuscula b]

theorem hexMayuscula_hex (n : UInt8) :
    (0x30 ≤ (hexMayuscula n).toNat ∧ (hexMayuscula n).toNat ≤ 0x39) ∨
      (0x41 ≤ (hexMayuscula n).toNat ∧ (hexMayuscula n).toNat ≤ 0x46) := by
  have hle : (n &&& 0x0F).toNat ≤ 15 := by
    rw [UInt8.toNat_and]
    exact Nat.and_le_right
  unfold hexMayuscula
  split_ifs with hlt
  · have hlt' : (n &&& 0x0F).toNat < 10 := UInt8.lt_iff_toNat_lt.mp hlt
    rw [UInt8.toNat_add, show (0x30 : UInt8).toNat = 48 from rfl]
    omega
  · have hge : 10 ≤ (n &&& 0x0F).toNat := not_lt.mp fun h => hlt (UInt8.lt_iff_toNat_lt.mpr h)
    rw [UInt8.toNat_add, show (0x37 : UInt8).toNat = 55 from rfl]
    omega

/-- A UID is eight hexadecimal digits. -/
theorem uidStr_hex (uid : Vector UInt8 4) : (uidStr uid).length = 8 ∧ ∀ b ∈ uidStr uid,
    (0x30 ≤ b.toNat ∧ b.toNat ≤ 0x39) ∨ (0x41 ≤ b.toNat ∧ b.toNat ≤ 0x46) := by
  refine ⟨?_, fun b hb => ?_⟩
  · have hlen : uid.toList.length = 4 := by simp
    simp [uidStr, List.length_flatMap, hlen]
  · obtain ⟨c, -, hc⟩ := List.mem_flatMap.mp hb
    rcases List.mem_cons.mp hc with rfl | hc
    · exact hexMayuscula_hex _
    · rw [List.mem_singleton.mp hc]
      exact hexMayuscula_hex _

/-- The UID of a card that answers, as text. -/
def leerRfidStr : Prog σ Sample ε (Option (List UInt8)) := do
  let m ← Prog.read
  pure (m.uid.map uidStr)

end Cerradura
