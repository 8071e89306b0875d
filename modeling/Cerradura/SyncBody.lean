import Cerradura.CText
import Cerradura.PinTable
import Cerradura.Server

/-!
# The body of /syncPins/

What `json.dumps` writes for the active users, with compact separators.
`ensure_ascii` is on: whatever the fields hold, the body is printable ASCII, and
inside a value a quotation mark only comes after a backslash. Braces are not
escaped.

Results:
1. `escape_paired`, `escape_noNul`: what a value can look like.
2. `jsonPins_noNul`: the body holds no NUL byte, so a C string holds all of it.
-/

namespace Cerradura

open CText

/-- `"` -/
abbrev comilla : UInt8 := 0x22

/-- `\` -/
abbrev barra : UInt8 := 0x5C

/-- `:` -/
abbrev dosPuntos : UInt8 := 0x3A

/-- `,` -/
abbrev coma : UInt8 := 0x2C

/-- The opening and the closing brace. -/
abbrev llaveIzq : UInt8 := 0x7B

abbrev llaveDer : UInt8 := 0x7D

/-- `[` -/
abbrev corchete : UInt8 := 0x5B

/-! ## Strings -/

/-- The last hexadecimal digit of a number. -/
def hexDigit (n : ℕ) : UInt8 :=
  if n % 16 < 10 then UInt8.ofNat (0x30 + n % 16) else UInt8.ofNat (0x57 + n % 16)

/-- A code unit as `\uXXXX`. -/
def hexUnit (n : ℕ) : List UInt8 :=
  [barra, 0x75, hexDigit (n / 0x1000), hexDigit (n / 0x100), hexDigit (n / 0x10), hexDigit n]

/-- A character in a JSON string. Beyond the basic plane it is a surrogate pair. -/
def escapeChar (c : Char) : List UInt8 :=
  let n := c.toNat
  if n = 0x22 then [barra, comilla]
  else if n = 0x5C then [barra, barra]
  else if n = 0x0A then [barra, 0x6E]
  else if n = 0x0D then [barra, 0x72]
  else if n = 0x09 then [barra, 0x74]
  else if n = 0x0C then [barra, 0x66]
  else if n = 0x08 then [barra, 0x62]
  else if 0x20 ≤ n ∧ n ≤ 0x7E then [UInt8.ofNat n]
  else if n < 0x10000 then hexUnit n
  else hexUnit (0xD800 + (n - 0x10000) / 0x400) ++ hexUnit (0xDC00 + (n - 0x10000) % 0x400)

/-- A JSON string, without its quotation marks. -/
def escape (s : Texto) : List UInt8 := s.flatMap escapeChar

/-! ## The body -/

/-- `"clave":valor` -/
def campo (clave : String) (valor : List UInt8) : List UInt8 :=
  quoted comilla (ascii clave) ++ dosPuntos :: valor

/-- `row['tag'] if row['tag'] else "usuario"` -/
def tagDe (row : Row) : Texto := if row.tag = [] then "usuario".toList else row.tag

/-- The object of a user. -/
def objeto (row : Row) : List UInt8 :=
  llaveIzq :: (campo "codigo" (quoted comilla (escape row.codigo)) ++
    coma :: campo "activo" (ascii (if row.activo = 0 then "false" else "true")) ++
    coma :: campo "rfid" (quoted comilla (escape row.rfid)) ++
    coma :: campo "huella" (quoted comilla (escape row.huella)) ++
    coma :: campo "tag" (quoted comilla (escape (tagDe row))) ++ [llaveDer])

/-- The objects, with commas between them. -/
def objetos (rows : List Row) : List UInt8 := [coma].intercalate (rows.map objeto)

/-- Up to the `[`. -/
def apertura : List UInt8 := llaveIzq :: campo "pins" [corchete]

def cierre : List UInt8 := [0x5D, llaveDer]

/-- `json.dumps({"pins": lista_usuarios}, separators=(',', ':'))` -/
def jsonPins (usuarios : List Row) : List UInt8 := apertura ++ (objetos usuarios ++ cierre)

/-- The body of the response of `sync_pins`. -/
def syncBody (db : Db) : List UInt8 := jsonPins db.active

example : syncBody initDb = ascii ("\x7b\"pins\":[\x7b\"codigo\":\"11111\",\"activo\":true," ++
    "\"rfid\":\"\",\"huella\":\"\",\"tag\":\"ADMIN\"\x7d]\x7d") := by
  decide +kernel

/-! ## What a value can look like -/

theorem hexDigit_plain (n : ℕ) : hexDigit n ≠ comilla ∧ hexDigit n ≠ barra ∧ hexDigit n ≠ 0 := by
  have hall : ∀ d < 16, hexDigit d ≠ comilla ∧ hexDigit d ≠ barra ∧ hexDigit d ≠ 0 := by decide
  have hmod : hexDigit n = hexDigit (n % 16) := by
    unfold hexDigit
    rw [Nat.mod_mod]
  rw [hmod]
  exact hall _ (Nat.mod_lt n (by decide))

theorem hexUnit_paired (n : ℕ) : Paired comilla barra (hexUnit n) := by
  have hdigit : ∀ {d : ℕ} {e : List UInt8}, Paired comilla barra e →
      Paired comilla barra (hexDigit d :: e) :=
    fun he => .plain (hexDigit_plain _).1 (hexDigit_plain _).2.1 he
  exact .pair (hdigit (hdigit (hdigit (hdigit .nil))))

theorem hexUnit_noNul (n : ℕ) : 0 ∉ hexUnit n := by
  intro h
  simp only [hexUnit, List.mem_cons, List.not_mem_nil, or_false] at h
  rcases h with h | h | h | h | h | h
  · exact absurd h (by decide)
  · exact absurd h (by decide)
  · exact (hexDigit_plain _).2.2 h.symm
  · exact (hexDigit_plain _).2.2 h.symm
  · exact (hexDigit_plain _).2.2 h.symm
  · exact (hexDigit_plain _).2.2 h.symm

/-- A printable character stands for itself. -/
theorem ofNat_plain {n : ℕ} (h : 0x20 ≤ n ∧ n ≤ 0x7E) {b : UInt8} (hb : n ≠ b.toNat) :
    UInt8.ofNat n ≠ b := by
  intro heq
  have hval : (UInt8.ofNat n).toNat = n := UInt8.toNat_ofNat_of_lt' (show n < 256 by omega)
  rw [heq] at hval
  exact hb hval.symm

theorem escapeChar_paired (c : Char) : Paired comilla barra (escapeChar c) := by
  unfold escapeChar
  dsimp only
  split_ifs with hq hb _ _ _ _ _ hprint
  · exact .pair .nil
  · exact .pair .nil
  · exact .pair .nil
  · exact .pair .nil
  · exact .pair .nil
  · exact .pair .nil
  · exact .pair .nil
  · exact .plain (ofNat_plain hprint hq) (ofNat_plain hprint hb) .nil
  · exact hexUnit_paired _
  · exact (hexUnit_paired _).append (hexUnit_paired _)

theorem escapeChar_noNul (c : Char) : 0 ∉ escapeChar c := by
  unfold escapeChar
  dsimp only
  split_ifs with hq _ _ _ _ _ _ hprint
  · decide
  · decide
  · decide
  · decide
  · decide
  · decide
  · decide
  · intro h
    have hpos : c.toNat ≠ (0 : UInt8).toNat := Nat.ne_of_gt (Nat.zero_lt_of_lt hprint.1)
    exact ofNat_plain hprint hpos (List.mem_singleton.mp h).symm
  · exact hexUnit_noNul _
  · intro h
    rcases List.mem_append.mp h with h | h
    · exact hexUnit_noNul _ h
    · exact hexUnit_noNul _ h

theorem escape_paired (s : Texto) : Paired comilla barra (escape s) := by
  induction s with
  | nil => exact .nil
  | cons c s ih => exact (escapeChar_paired c).append ih

theorem escape_escaped (s : Texto) : Escaped comilla barra (escape s) :=
  (escape_paired s).escaped (by decide)

theorem escape_noNul (s : Texto) : 0 ∉ escape s := by
  intro h
  obtain ⟨c, -, hc⟩ := List.mem_flatMap.mp h
  exact escapeChar_noNul c hc

/-- The elements of a list one by one. For characters and bytes Lean would rather
try every value of the type. -/
instance (priority := 1100) decidableForallMem {α : Type} {p : α → Prop} [DecidablePred p]
    (s : List α) : Decidable (∀ a ∈ s, p a) := List.decidableBAll p s

/-- A printable ASCII character that JSON does not escape. -/
def Plano (c : Char) : Prop :=
  0x20 ≤ c.toNat ∧ c.toNat ≤ 0x7E ∧ c.toNat ≠ 0x22 ∧ c.toNat ≠ 0x5C

instance (c : Char) : Decidable (Plano c) := inferInstanceAs (Decidable (_ ∧ _))

/-- The bytes of a text in ASCII. -/
def asciiBytes (s : Texto) : List UInt8 := s.map fun c => UInt8.ofNat c.toNat

theorem escapeChar_plano {c : Char} (h : Plano c) : escapeChar c = [UInt8.ofNat c.toNat] := by
  obtain ⟨hlo, hhi, hq, hb⟩ := h
  unfold escapeChar
  dsimp only
  rw [if_neg hq, if_neg hb, if_neg (by omega), if_neg (by omega), if_neg (by omega),
    if_neg (by omega), if_neg (by omega), if_pos ⟨hlo, hhi⟩]

theorem escape_plano {s : Texto} (h : ∀ c ∈ s, Plano c) : escape s = asciiBytes s := by
  induction s with
  | nil => rfl
  | cons c s ih =>
    obtain ⟨hc, hs⟩ := List.forall_mem_cons.mp h
    rw [escape, List.flatMap_cons, escapeChar_plano hc]
    exact congrArg _ (ih hs)

/-! ## The whole body -/

/-- What stands between the object of a user and the end of the array. -/
def cola (rows : List Row) : List UInt8 := if rows = [] then [] else coma :: objetos rows

theorem objetos_cons (row : Row) (rows : List Row) :
    objetos (row :: rows) = objeto row ++ cola rows := by
  cases rows with
  | nil => simp [objetos, cola]
  | cons row' rows => simp [objetos, cola, List.intercalate]

theorem campo_noNul {clave : String} {valor : List UInt8} (hclave : 0 ∉ ascii clave)
    (h : 0 ∉ valor) : 0 ∉ campo clave valor := by
  simp only [campo, quoted, List.mem_append, List.mem_cons, List.not_mem_nil, or_false, not_or]
  exact ⟨⟨by decide, hclave, by decide⟩, by decide, h⟩

theorem objeto_noNul (row : Row) : 0 ∉ objeto row := by
  have hvalor : ∀ s : Texto, 0 ∉ quoted comilla (escape s) := by
    intro s
    simp only [quoted, List.mem_cons, List.mem_append, List.not_mem_nil, or_false, not_or]
    exact ⟨by decide, escape_noNul s, by decide⟩
  have hactivo : 0 ∉ ascii (if row.activo = 0 then "false" else "true") := by
    split_ifs <;> decide
  simp only [objeto, List.mem_append, List.mem_cons, List.not_mem_nil, or_false, not_or]
  exact ⟨by decide, ⟨⟨⟨⟨campo_noNul (by decide) (hvalor _), by decide,
    campo_noNul (by decide) hactivo⟩, by decide, campo_noNul (by decide) (hvalor _)⟩, by decide,
    campo_noNul (by decide) (hvalor _)⟩, by decide, campo_noNul (by decide) (hvalor _)⟩, by decide⟩

/-- A C string holds the whole body. -/
theorem jsonPins_noNul (rows : List Row) : 0 ∉ jsonPins rows := by
  have hobjetos : 0 ∉ objetos rows := by
    induction rows with
    | nil => exact List.not_mem_nil
    | cons row rows ih =>
      rw [objetos_cons, List.mem_append, not_or, cola]
      refine ⟨objeto_noNul row, ?_⟩
      split_ifs
      · exact List.not_mem_nil
      · rw [List.mem_cons, not_or]
        exact ⟨by decide, ih⟩
  have hapertura : 0 ∉ apertura := by decide
  have hcierre : 0 ∉ cierre := by decide
  simp only [jsonPins, List.mem_append, not_or]
  exact ⟨hapertura, hobjetos, hcierre⟩

end Cerradura
