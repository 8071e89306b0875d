import Cerradura.Teclado

/-!
# What the keypad says

The two readers of teclado.c take one sample a call and share the memory of the
key that is down. What they answer depends on the calls so far only through the
sample before and the digits of the calls of `tecladoLeerPin` since they were
last cleared.

Results:
1. `teclado_referencia`: for every sequence of calls the answers are those of
   the reference, and fewer than five digits wait between two calls.
-/

namespace Cerradura

open Reactive

/-! ## Calls -/

/-- A call, with the sample of the keypad that it takes. -/
inductive Llamada
  | leerPin (muestra : Option (Fin 12))
  | leerTecla (muestra : Option (Fin 12))
  | reset
deriving DecidableEq

inductive Respuesta
  | pin (res : LeerPin)
  | tecla (k : Option UInt8)
  | nada
deriving DecidableEq

/-- One call, as the firmware runs it. -/
inductive Atiende : Llamada → Teclado → Respuesta → Teclado → Prop
  | leerPin {t : Teclado} {m : Sample} {rest : List Sample} {trace : List TecladoEv} {res : LeerPin}
      {ultimaActividad : Option ℤ} {c' : Config Teclado Sample TecladoEv} :
      tecladoLeerPin ⟨t, m :: rest, trace⟩ = (some (res, ultimaActividad), c') →
      Atiende (.leerPin m.tecla) t (.pin res) c'.st
  | leerTecla {t : Teclado} {m : Sample} {rest : List Sample} {trace : List TecladoEv}
      {k : Option UInt8} {c' : Config Teclado Sample TecladoEv} :
      tecladoLeerTecla ⟨t, m :: rest, trace⟩ = (some k, c') →
      Atiende (.leerTecla m.tecla) t (.tecla k) c'.st
  | reset {t : Teclado} {inputs : List Sample} {trace : List TecladoEv}
      {c' : Config Teclado Sample TecladoEv} :
      tecladoReset ⟨t, inputs, trace⟩ = (some (), c') → Atiende .reset t .nada c'.st

/-- The calls so far, newest first, with their answers and the variables after
them. -/
inductive Sesion : List Llamada → List Respuesta → Teclado → Prop
  | inicio : Sesion [] [] .inicial
  | llamada {antes : List Llamada} {l : Llamada} {rs : List Respuesta} {r : Respuesta}
      {t t' : Teclado} : Sesion antes rs t → Atiende l t r t' → Sesion (l :: antes) (r :: rs) t'

/-! ## The reference -/

/-- The sample before. A reset takes none. -/
def anterior : List Llamada → Option (Fin 12)
  | [] => none
  | .leerPin muestra :: _ | .leerTecla muestra :: _ => muestra
  | .reset :: antes => anterior antes

/-- A press is a key other than that of the sample before. -/
def pulsada (previa muestra : Option (Fin 12)) : Option UInt8 :=
  if muestra = previa then none else muestra.map keypadMap.get

/-- The digits pressed for `tecladoLeerPin` since the last asterisk or reset. -/
def cifras : List Llamada → List UInt8
  | [] | .reset :: _ => []
  | .leerTecla _ :: antes => cifras antes
  | .leerPin muestra :: antes =>
    match pulsada (anterior antes) muestra with
    | none => cifras antes
    | some k =>
      if k = asterisco then []
      else if isDecimalDigit k then cifras antes ++ [k]
      else cifras antes

/-- What is left of some digits after taking five at a time. -/
def resto (digitos : List UInt8) : List UInt8 :=
  digitos.drop (pinLength * (digitos.length / pinLength))

/-- The digits that wait for a PIN. -/
def pendientes (antes : List Llamada) : List UInt8 := resto (cifras antes)

/-- The answer of `tecladoLeerPin` to a press. -/
def respuestaPin (pendientes : List UInt8) : Option UInt8 → LeerPin
  | none => .incompleto
  | some k =>
    if k = asterisco then .menu
    else if isDecimalDigit k ∧ pendientes.length + 1 = pinLength then .completo (pendientes ++ [k])
    else .incompleto

/-- The answer to a call after others. -/
def respuesta (antes : List Llamada) : Llamada → Respuesta
  | .leerPin muestra => .pin (respuestaPin (pendientes antes) (pulsada (anterior antes) muestra))
  | .leerTecla muestra => .tecla (pulsada (anterior antes) muestra)
  | .reset => .nada

def referencia : List Llamada → List Respuesta
  | [] => []
  | l :: antes => respuesta antes l :: referencia antes

theorem resto_length (digitos : List UInt8) :
    (resto digitos).length = digitos.length % pinLength := by
  rw [resto, List.length_drop, Nat.mod_def]

theorem resto_length_lt (digitos : List UInt8) : (resto digitos).length < pinLength := by
  rw [resto_length]
  exact Nat.mod_lt _ (by decide)

/-- The fifth digit takes the other four with it. -/
theorem resto_concat (digitos : List UInt8) (k : UInt8) : resto (digitos ++ [k]) =
    if (resto digitos).length + 1 = pinLength then [] else resto digitos ++ [k] := by
  have hcinco : pinLength = 5 := rfl
  have hlen := resto_length digitos
  rw [hcinco] at hlen
  split_ifs with hquinto
  · have hdiv : pinLength * ((digitos ++ [k]).length / pinLength) = digitos.length + 1 := by
      rw [List.length_append, List.length_singleton, hcinco]
      omega
    rw [resto, hdiv, List.drop_eq_nil_of_le]
    rw [List.length_append, List.length_singleton]
  · have hdiv : (digitos ++ [k]).length / pinLength = digitos.length / pinLength := by
      rw [List.length_append, List.length_singleton, hcinco]
      omega
    rw [resto, hdiv, List.drop_append_of_le_length (Nat.mul_div_le _ _)]
    rfl

/-! ## The variables after the calls -/

/-- The memory of the key is that of the last sample. -/
structure Recuerda (t : Teclado) (previa : Option (Fin 12)) : Prop where
  keyHeld : t.keyHeld = previa.isSome
  lastIndex : ∀ k, previa = some k → t.lastIndex = k.val

theorem nuevaTecla_referencia {t : Teclado} {previa : Option (Fin 12)} {m : Sample}
    {rest : List Sample} {trace : List TecladoEv} (h : Recuerda t previa) :
    nuevaTecla.wp (fun _ => False)
      (fun k c' => k = pulsada previa m.tecla ∧ c'.inputs = rest ∧
        Recuerda c'.st m.tecla ∧ c'.st.pinIngresado = t.pinIngresado) ⟨t, m :: rest, trace⟩ := by
  unfold nuevaTecla
  rw [Prog.wp_bind]
  refine Prog.wp_read_cons rfl ?_
  rw [Prog.wp_bind, Prog.wp_get]
  dsimp only
  cases hm : m.tecla with
  | none =>
    refine ⟨?_, rfl, ⟨rfl, nofun⟩, rfl⟩
    unfold pulsada
    split_ifs <;> rfl
  | some teclaIndex =>
    refine Prog.wp_ite (fun hcambia => ?_) fun hsostenida => ?_
    · refine ⟨?_, rfl, ⟨rfl, fun k hk => congrArg Fin.val (Option.some.inj hk)⟩, rfl⟩
      -- down before it was another key, or none
      have hne : some teclaIndex ≠ previa := by
        rintro rfl
        rcases hcambia with hsuelta | hotra
        · rw [h.keyHeld] at hsuelta
          cases hsuelta
        · exact hotra (h.lastIndex teclaIndex rfl).symm
      rw [pulsada, if_neg hne]
      rfl
    · obtain ⟨hheld, hindex⟩ := not_or.mp hsostenida
      have hheld' : t.keyHeld = true := by simpa using hheld
      obtain ⟨k, rfl⟩ := Option.isSome_iff_exists.mp (h.keyHeld ▸ hheld')
      have hk : teclaIndex = k := Fin.ext ((not_not.mp hindex).trans (h.lastIndex k rfl))
      rw [hk]
      exact ⟨(if_pos rfl).symm, rfl, h, rfl⟩

/-- The digits that wait after a press. -/
def quedan (pendientes : List UInt8) : Option UInt8 → List UInt8
  | none => pendientes
  | some k =>
    if k = asterisco then []
    else if isDecimalDigit k then
      if pendientes.length + 1 = pinLength then [] else pendientes ++ [k]
    else pendientes

theorem pendientes_leerPin (antes : List Llamada) (muestra : Option (Fin 12)) :
    pendientes (.leerPin muestra :: antes) =
      quedan (pendientes antes) (pulsada (anterior antes) muestra) := by
  show resto (match pulsada (anterior antes) muestra with
    | none => cifras antes
    | some k =>
      if k = asterisco then []
      else if isDecimalDigit k then cifras antes ++ [k]
      else cifras antes) = _
  cases pulsada (anterior antes) muestra with
  | none => rfl
  | some k =>
    simp only [quedan]
    split_ifs with hmenu hcifra hquinto
    · rfl
    · exact (resto_concat _ _).trans (if_pos hquinto)
    · exact (resto_concat _ _).trans (if_neg hquinto)
    · rfl

/-- With fewer than five digits in the buffer, a call of `tecladoLeerPin` that
sees a press or not. Only a press needs the clock. -/
theorem tecladoLeerPin_referencia {t : Teclado} {previa : Option (Fin 12)} {m : Sample}
    {rest : List Sample} {trace : List TecladoEv} (h : Recuerda t previa)
    (hlen : t.pinIngresado.length < pinLength) :
    tecladoLeerPin.wp (fun _ => rest = [])
      (fun r c' => r.1 = respuestaPin t.pinIngresado (pulsada previa m.tecla) ∧
        Recuerda c'.st m.tecla ∧
        c'.st.pinIngresado = quedan t.pinIngresado (pulsada previa m.tecla))
      ⟨t, m :: rest, trace⟩ := by
  unfold tecladoLeerPin
  rw [Prog.wp_bind]
  refine Prog.wp_mono (nuevaTecla_referencia h) (fun _ hfalse => hfalse.elim) ?_
  rintro k ⟨t1, inputs1, trace1⟩ ⟨hk, rfl, hrec, hpin⟩
  rw [← hk]
  cases k with
  | none => exact ⟨rfl, hrec, hpin⟩
  | some k =>
    dsimp only
    rw [Prog.wp_bind]
    refine wp_tickRead id fun m2 rest2 _ => ?_
    have hrec' : ∀ s, Recuerda { t1 with pinIngresado := s } m.tecla := fun _ =>
      ⟨hrec.keyHeld, hrec.lastIndex⟩
    refine Prog.wp_ite (fun hmenu => ?_) fun hmenu => ?_
    · exact ⟨(if_pos hmenu).symm, hrec' [], (if_pos hmenu).symm⟩
    rw [Prog.wp_bind, Prog.wp_get]
    dsimp only at hpin ⊢
    simp only [respuestaPin, quedan, if_neg hmenu, hpin, hlen, true_and]
    by_cases hcifra : isDecimalDigit k = true
    · simp only [hcifra, if_true, true_and, List.length_append, List.length_singleton]
      by_cases hquinto : t.pinIngresado.length + 1 = pinLength
      · simp only [hquinto, if_true]
        exact ⟨rfl, hrec' [], rfl⟩
      · simp only [hquinto, if_false]
        exact ⟨rfl, hrec' _, rfl⟩
    · have hmenos : t.pinIngresado.length ≠ pinLength := hlen.ne
      simp only [hcifra, hmenos, false_and, if_false, Bool.false_eq_true]
      exact ⟨rfl, hrec' _, rfl⟩

/-- The variables of teclado.c after some calls. -/
structure Corresponde (antes : List Llamada) (t : Teclado) : Prop where
  tecla : Recuerda t (anterior antes)
  pin : t.pinIngresado = pendientes antes

theorem Corresponde.length_lt {antes : List Llamada} {t : Teclado} (h : Corresponde antes t) :
    t.pinIngresado.length < pinLength := by
  rw [h.pin]
  exact resto_length_lt _

theorem corresponde_inicial : Corresponde [] .inicial := ⟨⟨rfl, nofun⟩, rfl⟩

/-- A call answers like the reference and leaves the variables as it says. -/
theorem Corresponde.atiende {antes : List Llamada} {t t' : Teclado} {l : Llamada} {r : Respuesta}
    (h : Corresponde antes t) (ha : Atiende l t r t') :
    r = respuesta antes l ∧ Corresponde (l :: antes) t' := by
  cases ha with
  | leerPin hrun =>
    obtain ⟨hres, hrec, hpin⟩ :=
      Prog.wp_elim (tecladoLeerPin_referencia h.tecla h.length_lt) hrun
    rw [h.pin] at hres hpin
    exact ⟨congrArg Respuesta.pin hres, hrec, hpin.trans (pendientes_leerPin antes _).symm⟩
  | leerTecla hrun =>
    obtain ⟨hk, -, hrec, hpin⟩ := Prog.wp_elim (nuevaTecla_referencia h.tecla) hrun
    exact ⟨congrArg Respuesta.tecla hk, hrec, hpin.trans h.pin⟩
  | reset hrun =>
    obtain rfl := (Prod.mk.inj hrun).2
    exact ⟨rfl, ⟨h.tecla.keyHeld, h.tecla.lastIndex⟩, List.drop_nil.symm⟩

/-- A call returns once there is a sample for it, and one more for the clock. -/
theorem Corresponde.exists_atiende {antes : List Llamada} {t : Teclado} (h : Corresponde antes t)
    (l : Llamada) : ∃ r t', Atiende l t r t' := by
  cases l with
  | leerPin muestra =>
    let m : Sample := { Sample.quiet 0 with tecla := muestra }
    have hwp : tecladoLeerPin.wp _ _ ⟨t, m :: [Sample.quiet 0], []⟩ :=
      tecladoLeerPin_referencia h.tecla h.length_lt
    obtain ⟨res, c', hrun, -⟩ := Prog.wp_returns (Prog.wp_mono hwp
      (fun _ hnil => List.cons_ne_nil _ _ hnil) fun _ _ hpost => hpost)
    exact ⟨_, _, .leerPin (m := m) hrun⟩
  | leerTecla muestra =>
    let m : Sample := { Sample.quiet 0 with tecla := muestra }
    have hwp : nuevaTecla.wp _ _ ⟨t, [m], []⟩ := nuevaTecla_referencia h.tecla
    obtain ⟨k, c', hrun, -⟩ := Prog.wp_returns hwp
    exact ⟨_, _, .leerTecla (m := m) hrun⟩
  | reset =>
    have hrun : tecladoReset ⟨t, [], []⟩ = (some (), _) := rfl
    exact ⟨_, _, .reset hrun⟩

theorem Sesion.corresponde {llamadas : List Llamada} {rs : List Respuesta} {t : Teclado}
    (h : Sesion llamadas rs t) : rs = referencia llamadas ∧ Corresponde llamadas t := by
  induction h with
  | inicio => exact ⟨rfl, corresponde_inicial⟩
  | llamada _ ha ih =>
    obtain ⟨hr, hcorresponde⟩ := ih.2.atiende ha
    exact ⟨congrArg₂ List.cons hr ih.1, hcorresponde⟩

theorem exists_sesion (llamadas : List Llamada) : ∃ rs t, Sesion llamadas rs t := by
  induction llamadas with
  | nil => exact ⟨_, _, .inicio⟩
  | cons l antes ih =>
    obtain ⟨rs, t, h⟩ := ih
    obtain ⟨r, t', ha⟩ := h.corresponde.2.exists_atiende l
    exact ⟨_, _, .llamada h ha⟩

/-- Whatever the calls and their samples, the driver answers them like the
reference, and fewer than five digits wait after them. -/
theorem teclado_referencia (llamadas : List Llamada) :
    (∃ t, Sesion llamadas (referencia llamadas) t) ∧
      ∀ rs t, Sesion llamadas rs t → rs = referencia llamadas ∧
        t.pinIngresado = pendientes llamadas ∧ t.pinIngresado.length < pinLength := by
  constructor
  · obtain ⟨rs, t, h⟩ := exists_sesion llamadas
    exact ⟨t, h.corresponde.1 ▸ h⟩
  · intro rs t h
    obtain ⟨hrs, hcorresponde⟩ := h.corresponde
    exact ⟨hrs, hcorresponde.pin, hcorresponde.length_lt⟩

/-- Five keys with the middle one held for two samples. -/
example : referencia [.leerPin (some 4), .leerPin (some 3), .leerPin (some 2), .leerPin (some 2),
    .leerPin (some 1), .leerPin (some 0)] = [.pin (.completo (ascii "12345")), .pin .incompleto,
    .pin .incompleto, .pin .incompleto, .pin .incompleto, .pin .incompleto] := by decide

end Cerradura
