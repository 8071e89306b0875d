import Mathlib.Algebra.Group.Nat.Defs
import Mathlib.Data.Int.Notation
import Mathlib.Data.List.Basic
import Mathlib.Data.List.TakeWhile
import Mathlib.Tactic.SplitIfs

/-!
# The table of credentials

`listaPins` and the functions of validacion.c that read and write it. The
fields of a record are C strings that fit their buffers, so no record with an
unterminated or overlong field can be built.

Results:
1. `validarPin_iff`, `validarRFID_iff`, `validarHuella_iff`, `esPinMaster_iff`:
   the four checks in terms of the records.
2. `sprintf04_injective`: distinct numbers have distinct `%04d` texts.
-/

namespace Cerradura

/-! ## C strings -/

/-- The bytes of a text in ASCII. -/
def ascii (s : String) : List UInt8 := s.toList.map fun c => UInt8.ofNat c.toNat

/-- A C string in a buffer of `n` bytes, without its terminator. -/
structure CStr (n : ℕ) where
  bytes : List UInt8
  noNul : 0 ∉ bytes
  fits : bytes.length < n
deriving DecidableEq

/-- The string that starts at a byte. -/
def cString (buffer : List UInt8) : List UInt8 := buffer.takeWhile (· ≠ 0)

theorem cString_noNul (buffer : List UInt8) : 0 ∉ cString buffer := by
  intro h
  exact absurd (List.mem_takeWhile_imp h) (by decide)

theorem cString_of_notMem {s : List UInt8} (h : 0 ∉ s) : cString s = s :=
  List.takeWhile_eq_self_iff.mpr fun _ hb => decide_eq_true fun h0 => h (h0 ▸ hb)

/-- The first `n` characters of `s`, terminated, in a buffer of `n + 1` bytes. -/
def CStr.copy (n : ℕ) (s : List UInt8) : CStr (n + 1) where
  bytes := (cString s).take n
  noNul h := cString_noNul s (List.mem_of_mem_take h)
  fits := Nat.lt_succ_of_le (List.length_take_le _ _)

/-- The empty string. -/
def CStr.vacio (n : ℕ) : CStr (n + 1) := ⟨[], List.not_mem_nil, Nat.succ_pos n⟩

theorem CStr.copy_bytes {n : ℕ} {s : List UInt8} (h0 : 0 ∉ s) (hlen : s.length ≤ n) :
    (CStr.copy n s).bytes = s := by
  show (cString s).take n = s
  rw [cString_of_notMem h0, List.take_of_length_le hlen]

/-- The digits of `n`, at most `fuel` of them. -/
def decimalAux : ℕ → ℕ → List UInt8
  | 0, _ => []
  | fuel + 1, n =>
    if n < 10 then [UInt8.ofNat (48 + n)]
    else decimalAux fuel (n / 10) ++ [UInt8.ofNat (48 + n % 10)]

/-- `%d` -/
def decimal (n : ℕ) : List UInt8 := decimalAux (n + 1) n

/-- `%04d` -/
def sprintf04 (n : ℕ) : List UInt8 := List.replicate (4 - (decimal n).length) 48 ++ decimal n

/-- The number a text of digits stands for. -/
def numero (digits : List UInt8) : ℕ := digits.foldl (fun n b => n * 10 + (b.toNat - 48)) 0

theorem numero_append (s t : List UInt8) :
    numero (s ++ t) = t.foldl (fun n b => n * 10 + (b.toNat - 48)) (numero s) :=
  List.foldl_append

theorem digit_toNat {d : ℕ} (hd : d < 10) : (UInt8.ofNat (48 + d)).toNat - 48 = d := by
  rw [UInt8.toNat_ofNat_of_lt' (show 48 + d < 256 by omega)]
  omega

theorem numero_decimalAux {fuel n : ℕ} (h : n < fuel) : numero (decimalAux fuel n) = n := by
  induction fuel generalizing n with
  | zero => exact absurd h (Nat.not_lt_zero n)
  | succ fuel ih =>
    unfold decimalAux
    split_ifs with hn
    · simp only [numero, List.foldl_cons, List.foldl_nil, digit_toNat hn]
      omega
    · have hquot : n / 10 < fuel := by omega
      rw [numero_append, ih hquot]
      simp only [List.foldl_cons, List.foldl_nil, digit_toNat (Nat.mod_lt n (by decide))]
      omega

theorem numero_replicate (k : ℕ) : numero (List.replicate k 48) = 0 := by
  induction k with
  | zero => rfl
  | succ k ih => exact ih

theorem numero_sprintf04 (n : ℕ) : numero (sprintf04 n) = n := by
  rw [sprintf04, numero_append, numero_replicate]
  exact numero_decimalAux (Nat.lt_succ_self n)

/-- Distinct numbers have distinct texts. -/
theorem sprintf04_injective : Function.Injective sprintf04 := by
  intro m n h
  rw [← numero_sprintf04 m, h, numero_sprintf04]

theorem decimalAux_length {fuel n k : ℕ} (hk : 0 < k) (h : n < 10 ^ k) :
    (decimalAux fuel n).length ≤ k := by
  induction fuel generalizing n k with
  | zero => exact Nat.zero_le k
  | succ fuel ih =>
    unfold decimalAux
    split_ifs with hn
    · exact hk
    · obtain ⟨k, rfl⟩ := Nat.exists_eq_succ_of_ne_zero hk.ne'
      have hpos : 0 < k := by
        rcases Nat.eq_zero_or_pos k with rfl | hpos
        · exact absurd h hn
        · exact hpos
      rw [List.length_append]
      exact Nat.succ_le_succ (ih hpos (Nat.div_lt_of_lt_mul (Nat.pow_succ' ▸ h)))

theorem four_le_sprintf04 (n : ℕ) : 4 ≤ (sprintf04 n).length := by
  rw [sprintf04, List.length_append, List.length_replicate]
  omega

/-- `%04d` has four digits below 10000. -/
theorem sprintf04_length {n : ℕ} (h : n < 10000) : (sprintf04 n).length = 4 := by
  have hlen : (decimal n).length ≤ 4 := decimalAux_length (by decide) h
  rw [sprintf04, List.length_append, List.length_replicate]
  omega

theorem decimalAux_digits {fuel n : ℕ} :
    ∀ b ∈ decimalAux fuel n, 48 ≤ b.toNat ∧ b.toNat ≤ 57 := by
  have hdigit : ∀ d < 10,
      48 ≤ (UInt8.ofNat (48 + d)).toNat ∧ (UInt8.ofNat (48 + d)).toNat ≤ 57 := by
    intro d hd
    rw [UInt8.toNat_ofNat_of_lt' (show 48 + d < 256 by omega)]
    omega
  induction fuel generalizing n with
  | zero => exact fun b hb => nomatch hb
  | succ fuel ih =>
    intro b hb
    unfold decimalAux at hb
    split_ifs at hb with hn
    · rw [List.mem_singleton.mp hb]
      exact hdigit n hn
    · rcases List.mem_append.mp hb with hb | hb
      · exact ih b hb
      · rw [List.mem_singleton.mp hb]
        exact hdigit _ (Nat.mod_lt n (by decide))

theorem sprintf04_digits {n : ℕ} : ∀ b ∈ sprintf04 n, 48 ≤ b.toNat ∧ b.toNat ≤ 57 := by
  intro b hb
  rcases List.mem_append.mp hb with hb | hb
  · rw [List.eq_of_mem_replicate hb]
    decide
  · exact decimalAux_digits b hb

/-- `isspace` -/
def isspace (b : UInt8) : Bool := b = 32 || 9 ≤ b && b ≤ 13

/-- `isdigit` of C -/
def isDecimalDigit (b : UInt8) : Bool := 48 ≤ b && b ≤ 57

/-- `atoi`: blanks, a sign, and the digits up to another character. -/
def atoi (s : List UInt8) : ℤ :=
  let s := s.dropWhile isspace
  match s with
  | 45 :: rest => - (numero (rest.takeWhile isDecimalDigit) : ℤ)
  | 43 :: rest => numero (rest.takeWhile isDecimalDigit)
  | _ => numero (s.takeWhile isDecimalDigit)

/-- A text of digits is read as the number it stands for. -/
theorem atoi_digits {s : List UInt8} (hne : s ≠ [])
    (h : ∀ b ∈ s, 48 ≤ b.toNat ∧ b.toNat ≤ 57) : atoi s = numero s := by
  obtain ⟨b, rest, rfl⟩ := List.exists_cons_of_ne_nil hne
  have hb := h b List.mem_cons_self
  have hspace : isspace b = false := by
    have h32 : b ≠ 32 := fun heq => absurd (heq ▸ hb.1) (by decide)
    have h13 : ¬ b ≤ 13 := fun hle => by
      have hle' : b.toNat ≤ 13 := UInt8.le_iff_toNat_le.mp hle
      omega
    simp [isspace, h32, h13]
  have hdigits : (b :: rest).takeWhile isDecimalDigit = b :: rest := by
    refine List.takeWhile_eq_self_iff.mpr fun c hc => ?_
    have hdigit := h c hc
    simp [isDecimalDigit, UInt8.le_iff_toNat_le, hdigit]
  have hminus : b ≠ 45 := fun heq => absurd (heq ▸ hb.1) (by decide)
  have hplus : b ≠ 43 := fun heq => absurd (heq ▸ hb.1) (by decide)
  unfold atoi
  rw [List.dropWhile_cons_of_neg (by rw [hspace]; exact Bool.false_ne_true)]
  dsimp only
  split
  · next heq => exact absurd (List.cons.inj heq).1 hminus
  · next heq => exact absurd (List.cons.inj heq).1 hplus
  · rw [hdigits]

theorem atoi_sprintf04 (n : ℕ) : atoi (sprintf04 n) = n := by
  have hne : sprintf04 n ≠ [] :=
    List.ne_nil_of_length_pos (Nat.lt_of_lt_of_le (by decide) (four_le_sprintf04 n))
  rw [atoi_digits hne sprintf04_digits, numero_sprintf04]

/-! ## The table -/

/-- `PinUsuario_t` -/
structure PinUsuario where
  codigo : CStr 6
  activo : Bool
  rfid : CStr 20
  huella : CStr 5
  tag : CStr 20
deriving DecidableEq

/-- A record of zeros. -/
def PinUsuario.vacio : PinUsuario := ⟨.vacio 5, false, .vacio 19, .vacio 4, .vacio 19⟩

/-- MAX_PINS -/
def maxPins : ℕ := 99

structure ListaPins where
  pins : List PinUsuario
  size : pins.length = maxPins
deriving DecidableEq

/-- The records, and zeros in the rest of the table. -/
def ListaPins.ofList (pins : List PinUsuario) : ListaPins where
  pins := pins.take maxPins ++ List.replicate (maxPins - pins.length) .vacio
  size := by
    rw [List.length_append, List.length_take, List.length_replicate]
    omega

/-- The table the firmware starts with. -/
def listaPinsInicial : ListaPins :=
  .ofList (([("11111", "", "", "master"), ("22222", "9876543210FF", "0001", "andy"),
    ("33333", "1234567890AB", "0002", "pepe"), ("44444", "1211899891AA", "0003", "juan"),
    ("55555", "", "0004", "invitado"), ("66666", "", "", "usuario6")] :
      List (String × String × String × String)).map fun (codigo, rfid, huella, tag) =>
    { codigo := .copy 5 (ascii codigo), activo := true, rfid := .copy 19 (ascii rfid),
      huella := .copy 4 (ascii huella), tag := .copy 19 (ascii tag) })

/-- `actualizarBaseDeDatos(nuevosUsuarios, cantidad)` -/
def actualizarBaseDeDatos (nuevosUsuarios : List PinUsuario) : ListaPins := .ofList nuevosUsuarios

/-- Change the first record that `p` holds of. -/
def modifyFirst (p : PinUsuario → Bool) (f : PinUsuario → PinUsuario) :
    List PinUsuario → List PinUsuario
  | [] => []
  | pin :: rest => if p pin then f pin :: rest else pin :: modifyFirst p f rest

theorem modifyFirst_length (p : PinUsuario → Bool) (f : PinUsuario → PinUsuario)
    (pins : List PinUsuario) : (modifyFirst p f pins).length = pins.length := by
  induction pins with
  | nil => rfl
  | cons pin rest ih =>
    unfold modifyFirst
    split
    · rfl
    · rw [List.length_cons, ih, List.length_cons]

/-- The record that is changed is the first that `p` holds of. -/
theorem getElem?_modifyFirst (p : PinUsuario → Bool) (f : PinUsuario → PinUsuario)
    (pins : List PinUsuario) (j : ℕ) : (modifyFirst p f pins)[j]? =
      if pins.findIdx p = j then pins[j]?.map f else pins[j]? := by
  induction pins generalizing j with
  | nil => simp [modifyFirst]
  | cons pin rest ih =>
    unfold modifyFirst
    rw [List.findIdx_cons]
    cases p pin with
    | true => cases j <;> simp
    | false => cases j <;> simp [ih]

theorem find?_modifyFirst {p : PinUsuario → Bool} {f : PinUsuario → PinUsuario}
    (hf : ∀ u, p u = true → p (f u) = true) (pins : List PinUsuario) :
    (modifyFirst p f pins).find? p = (pins.find? p).map f := by
  induction pins with
  | nil => rfl
  | cons pin rest ih =>
    unfold modifyFirst
    split_ifs with hp
    · rw [List.find?_cons_of_pos hp, List.find?_cons_of_pos (hf pin hp)]
      rfl
    · rw [List.find?_cons_of_neg hp, List.find?_cons_of_neg hp, ih]

namespace ListaPins

/-- The loop that changes the first record that `p` holds of, and whether there
is one. -/
def actualizar (lista : ListaPins) (p : PinUsuario → Bool) (f : PinUsuario → PinUsuario) :
    Bool × ListaPins :=
  (lista.pins.any p,
    { pins := modifyFirst p f lista.pins
      size := (modifyFirst_length p f lista.pins).trans lista.size })

/-- An active record with this PIN. -/
def conPin (pin : List UInt8) (u : PinUsuario) : Bool := u.activo && u.codigo.bytes = pin

def conRFID (rfid : List UInt8) (u : PinUsuario) : Bool :=
  u.activo && 0 < u.rfid.bytes.length && u.rfid.bytes = rfid

def conHuella (huellaId : List UInt8) (u : PinUsuario) : Bool :=
  u.activo && 0 < u.huella.bytes.length && u.huella.bytes = huellaId

end ListaPins

open ListaPins

/-! ## validacion.c -/

def validarPin (lista : ListaPins) (pin : List UInt8) : Bool := lista.pins.any (conPin pin)

/-- The tag of a record, or "usuario". -/
def tagOr (u : PinUsuario) : List UInt8 :=
  if 0 < u.tag.bytes.length then u.tag.bytes else ascii "usuario"

def obtenerTagPorPin (lista : ListaPins) (pin : List UInt8) : Option (List UInt8) :=
  (lista.pins.find? (conPin pin)).map tagOr

/-- `nuevoPin` has at most five characters. -/
def agregarPin (lista : ListaPins) (nuevoPin : CStr 6) : Bool × ListaPins :=
  lista.actualizar (fun u => !u.activo) ({ · with codigo := nuevoPin, activo := true })

def asociarRFIDaPin (lista : ListaPins) (pin : List UInt8) (rfid : CStr 20) : Bool × ListaPins :=
  lista.actualizar (conPin pin) ({ · with rfid := rfid })

/-- `strncpy` of four characters, and a terminator. -/
def asociarHuellaaPin (lista : ListaPins) (pin idHuella : List UInt8) : Bool × ListaPins :=
  lista.actualizar (conPin pin) ({ · with huella := .copy 4 idHuella })

def validarRFID (lista : ListaPins) (rfid : List UInt8) : Bool := lista.pins.any (conRFID rfid)

/-- Without a tag it is NULL, though the card is known. -/
def obtenerTagPorRFID (lista : ListaPins) (rfid : List UInt8) : Option (List UInt8) :=
  (lista.pins.find? (conRFID rfid)).bind fun u =>
    if 0 < u.tag.bytes.length then some u.tag.bytes else none

def obtenerTagPorHuella (lista : ListaPins) (huellaId : List UInt8) : Option (List UInt8) :=
  (lista.pins.find? (conHuella huellaId)).map tagOr

def validarHuella (lista : ListaPins) (huellaId : List UInt8) : Bool :=
  lista.pins.any (conHuella huellaId)

/-- An active record has this `huella`. Unlike `validarHuella`, the search for a
free id does not ask for a non-empty one. -/
def huellaEnUso (lista : ListaPins) (tempId : List UInt8) : Bool :=
  lista.pins.any fun u => u.activo && u.huella.bytes = tempId

/-- The `while` of `obtenerHuellaAsignadaPorPin`, for at most `fuel` rounds. -/
def buscarIdLibre (lista : ListaPins) : ℕ → ℕ → Option ℕ
  | 0, _ => none
  | fuel + 1, idLibre =>
    if huellaEnUso lista (sprintf04 idLibre) then buscarIdLibre lista fuel (idLibre + 1)
    else some idLibre

/-- What is written to `idBuffer`, if the PIN exists. -/
def obtenerHuellaAsignadaPorPin (lista : ListaPins) (pin : List UInt8) : Option (List UInt8) :=
  (lista.pins.find? (conPin pin)).bind fun u =>
    if 0 < u.huella.bytes.length then some u.huella.bytes
    -- one more round than there are records: an id is found by then
    else (buscarIdLibre lista (maxPins + 1) 1).map sprintf04

/-- The id found is one that no active record has. -/
theorem buscarIdLibre_spec {lista : ListaPins} {fuel i n : ℕ}
    (h : buscarIdLibre lista fuel i = some n) :
    huellaEnUso lista (sprintf04 n) = false ∧ n < i + fuel := by
  induction fuel generalizing i with
  | zero => cases h
  | succ fuel ih =>
    unfold buscarIdLibre at h
    split_ifs at h with huso
    · have hrest := ih h
      exact ⟨hrest.1, by omega⟩
    · obtain rfl := Option.some.inj h
      exact ⟨eq_false_of_ne_true huso, by omega⟩

/-- The record at position 0 is the master's. -/
def esPinMaster (lista : ListaPins) (pin : List UInt8) : Bool :=
  match lista.pins with
  | [] => false
  | master :: _ => conPin pin master

def eliminarHuellaLocal (lista : ListaPins) (pin : List UInt8) : Bool × ListaPins :=
  lista.actualizar (conPin pin) ({ · with huella := .vacio 4 })

def eliminarTodasHuellasLocal (lista : ListaPins) : ListaPins where
  pins := lista.pins.map ({ · with huella := .vacio 4 })
  size := (List.length_map _).trans lista.size

/-! ## What the checks say -/

theorem conPin_iff {pin : List UInt8} {u : PinUsuario} :
    conPin pin u = true ↔ u.activo = true ∧ u.codigo.bytes = pin := by
  simp [conPin]

theorem conRFID_iff {rfid : List UInt8} {u : PinUsuario} :
    conRFID rfid u = true ↔ u.activo = true ∧ u.rfid.bytes ≠ [] ∧ u.rfid.bytes = rfid := by
  simp [conRFID, List.length_pos_iff, and_assoc]

theorem conHuella_iff {huellaId : List UInt8} {u : PinUsuario} :
    conHuella huellaId u = true ↔
      u.activo = true ∧ u.huella.bytes ≠ [] ∧ u.huella.bytes = huellaId := by
  simp [conHuella, List.length_pos_iff, and_assoc]

theorem validarPin_iff {lista : ListaPins} {pin : List UInt8} : validarPin lista pin = true ↔
    ∃ u ∈ lista.pins, u.activo = true ∧ u.codigo.bytes = pin := by
  simp only [validarPin, List.any_eq_true, conPin_iff]

theorem validarRFID_iff {lista : ListaPins} {rfid : List UInt8} : validarRFID lista rfid = true ↔
    ∃ u ∈ lista.pins, u.activo = true ∧ u.rfid.bytes ≠ [] ∧ u.rfid.bytes = rfid := by
  simp only [validarRFID, List.any_eq_true, conRFID_iff]

theorem validarHuella_iff {lista : ListaPins} {huellaId : List UInt8} :
    validarHuella lista huellaId = true ↔
      ∃ u ∈ lista.pins, u.activo = true ∧ u.huella.bytes ≠ [] ∧ u.huella.bytes = huellaId := by
  simp only [validarHuella, List.any_eq_true, conHuella_iff]

theorem esPinMaster_iff {lista : ListaPins} {pin : List UInt8} : esPinMaster lista pin = true ↔
    ∃ u, lista.pins[0]? = some u ∧ u.activo = true ∧ u.codigo.bytes = pin := by
  unfold esPinMaster
  cases lista.pins with
  | nil => simp
  | cons master rest => simp [conPin_iff]

end Cerradura
