import Cerradura.EspAT

/-!
# Whether the module is connected

`inicializarESP` asks `AT` until it reads `OK`, then asks for the connection
status until it reads that there is an IP. It answers with the variable
`conectado`, which it sets and nothing clears. So the first success answers for
every later call.

Results:
1. `inicializarESP_wp`: what a call answers, in terms of what it read.
2. `veraz_iff`: over the life of the firmware the answers are true exactly if each
   call that finds `conectado` set reads the status of a connection.
3. `sigue_conectado`: the connection is lost, and the second call answers that it
   is there.
-/

namespace Cerradura

open Reactive CText

/-! ## What was asked and answered -/

/-- The commands on the line with what was read after each, the last one first.
The end of the line, sent on its own, is no command. -/
def intercambios : List EspEv → List (List UInt8 × List UInt8) := go []
where
  go (leido : List UInt8) : List EspEv → List (List UInt8 × List UInt8)
    | [] => []
    | .rx b :: evs => go (b :: leido) evs
    | .tx t :: evs => if t = [0x0D, 0x0A] then go leido evs else (t, leido) :: go [] evs

theorem intercambios_go_rx (leido bs : List UInt8) (evs : List EspEv) :
    intercambios.go leido (bs.map EspEv.rx ++ evs) = intercambios.go (bs.reverse ++ leido) evs := by
  induction bs generalizing leido with
  | nil => rfl
  | cons b bs ih =>
    show intercambios.go (b :: leido) (bs.map EspEv.rx ++ evs) = _
    rw [ih, List.reverse_cons, List.append_assoc]
    rfl

theorem intercambios_tramaComando {cmd : List UInt8} (hcmd : cmd ≠ [0x0D, 0x0A])
    (resp : List UInt8) (evs : List EspEv) :
    intercambios (tramaComando cmd resp ++ evs) = (cmd, resp) :: intercambios evs := by
  unfold intercambios tramaComando
  rw [List.append_assoc, intercambios_go_rx, List.reverse_reverse, List.append_nil]
  exact if_neg hcmd

/-- `AT` was answered with `OK`. -/
def contestaOK (ps : List (List UInt8 × List UInt8)) : Bool :=
  ps.any fun p => p.1 = ascii "AT" && contiene p.2 "OK"

/-- The answer of `AT+CIPSTATUS` was a status with an IP. -/
def daIP (ps : List (List UInt8 × List UInt8)) : Bool :=
  ps.any fun p => p.1 = ascii "AT+CIPSTATUS" &&
    (contiene p.2 "STATUS:2" || contiene p.2 "STATUS:3")

/-- The provisioning over BluFi was started. -/
def iniciaBluFi (ps : List (List UInt8 × List UInt8)) : Bool :=
  ps.any fun p => p.1 = ascii "AT+BLUFI=1"

/-! ## What a call answers -/

/-- What is known at a point of a call: the variable, and what was read. -/
structure Visto where
  conectado : Bool
  ok : Bool
  ip : Bool
  bluFi : Bool
deriving DecidableEq, Repr

def visto (c : Config Bool Sample EspEv) : Visto :=
  let ps := intercambios c.trace
  { conectado := c.st, ok := contestaOK ps, ip := daIP ps, bluFi := iniciaBluFi ps }

/-- What an exchange adds to it. -/
def Visto.con (v : Visto) (cmd resp : List UInt8) : Visto :=
  { conectado := v.conectado
    ok := (cmd = ascii "AT" && contiene resp "OK") || v.ok
    ip := (cmd = ascii "AT+CIPSTATUS" &&
      (contiene resp "STATUS:2" || contiene resp "STATUS:3")) || v.ip
    bluFi := cmd = ascii "AT+BLUFI=1" || v.bluFi }

/-- An exchange over another command tells nothing. -/
theorem Visto.con_otro (v : Visto) {cmd : List UInt8} (resp : List UInt8) (hok : cmd ≠ ascii "AT")
    (hip : cmd ≠ ascii "AT+CIPSTATUS") (hblufi : cmd ≠ ascii "AT+BLUFI=1") :
    v.con cmd resp = v := by
  unfold Visto.con
  rw [decide_eq_false hok, decide_eq_false hip, decide_eq_false hblufi]
  rfl

theorem Visto.con_AT (v : Visto) (resp : List UInt8) :
    v.con (ascii "AT") resp = { v with ok := contiene resp "OK" || v.ok } := by
  have hip : ascii "AT" ≠ ascii "AT+CIPSTATUS" := by decide
  have hblufi : ascii "AT" ≠ ascii "AT+BLUFI=1" := by decide
  unfold Visto.con
  rw [decide_eq_false hip, decide_eq_false hblufi, decide_eq_true rfl]
  rfl

theorem Visto.con_CIPSTATUS (v : Visto) (resp : List UInt8) :
    v.con (ascii "AT+CIPSTATUS") resp =
      { v with ip := contiene resp "STATUS:2" || contiene resp "STATUS:3" || v.ip } := by
  have hok : ascii "AT+CIPSTATUS" ≠ ascii "AT" := by decide
  have hblufi : ascii "AT+CIPSTATUS" ≠ ascii "AT+BLUFI=1" := by decide
  unfold Visto.con
  rw [decide_eq_false hok, decide_eq_false hblufi, decide_eq_true rfl]
  rfl

theorem Visto.con_BLUFI (v : Visto) (resp : List UInt8) :
    v.con (ascii "AT+BLUFI=1") resp = { v with bluFi := true } := by
  have hok : ascii "AT+BLUFI=1" ≠ ascii "AT" := by decide
  have hip : ascii "AT+BLUFI=1" ≠ ascii "AT+CIPSTATUS" := by decide
  unfold Visto.con
  rw [decide_eq_false hok, decide_eq_false hip, decide_eq_true rfl]
  rfl

theorem enviarComandoAT_visto {cmd : List UInt8} (hcmd : cmd ≠ [0x0D, 0x0A]) {maxLen : ℕ}
    (hmax : 2 ≤ maxLen) {timeoutMs : UInt32} {c : Config Bool Sample EspEv} :
    (enviarComandoAT cmd maxLen timeoutMs).wp (fun _ => True)
      (fun resp c' => visto c' = (visto c).con cmd resp) c := by
  refine Prog.wp_mono (enviarComandoAT_traza hmax) (fun _ _ => trivial) fun resp c' h => ?_
  obtain ⟨hst, -, htraza⟩ := h
  unfold visto
  rw [htraza, intercambios_tramaComando hcmd, hst]
  rfl

/-- The commands that a question is about, and the end of a line. -/
def preguntas : List (List UInt8) :=
  [[0x0D, 0x0A], ascii "AT", ascii "AT+CIPSTATUS", ascii "AT+BLUFI=1"]

theorem enviarComandoAT_otro {cmd : List UInt8} (hcmd : cmd ∉ preguntas) {maxLen : ℕ}
    (hmax : 2 ≤ maxLen) {timeoutMs : UInt32} {c : Config Bool Sample EspEv} :
    (enviarComandoAT cmd maxLen timeoutMs).wp (fun _ => True)
      (fun _ c' => visto c' = visto c) c := by
  simp only [preguntas, List.mem_cons, List.not_mem_nil, not_or] at hcmd
  obtain ⟨hfin, hok, hip, hblufi, -⟩ := hcmd
  exact Prog.wp_mono (enviarComandoAT_visto hfin hmax) (fun _ h => h) fun resp _ h =>
    h.trans ((visto c).con_otro resp hok hip hblufi)

/-- The first loop answers whether it read an `OK`. -/
theorem esperarOK_visto {timeoutMs : UInt32} {c : Config Bool Sample EspEv}
    (hc : (visto c).ok = false) :
    (esperarOK timeoutMs).wp (fun _ => True)
      (fun ok c' => visto c' = { visto c with ok := ok }) c := by
  have hnada : visto c = { visto c with ok := false } := by rw [← hc]
  unfold esperarOK
  rw [Prog.wp_bind]
  refine wp_tickRead (fun _ => trivial) fun m rest _ => ?_
  refine Prog.wp_iter (fun _ c' => visto c' = visto c) (fun _ _ _ => trivial) ?_ rfl
  intro _ c1 hv
  rw [Prog.wp_bind]
  refine wp_tickRead (fun _ => trivial) fun m rest _ => ?_
  refine Prog.wp_ite (fun _ => ?_) fun _ => hv.trans hnada
  rw [Prog.wp_bind]
  refine Prog.wp_mono (enviarComandoAT_visto (by decide) (by decide)) (fun _ h => h) ?_
  intro resp c2 hcon
  have hleido : visto c2 = { visto c with ok := contiene resp "OK" } := by
    rw [Visto.con_AT] at hcon
    refine hcon.trans ?_
    show { visto c1 with ok := contiene resp "OK" || (visto c1).ok } = _
    rw [hv, hc, Bool.or_false]
  refine Prog.wp_ite (fun hsi => ?_) fun hno => ?_
  · rw [hsi.2] at hleido
    exact hleido
  · have hvacia : contiene resp "OK" = false := by
      cases resp with
      | nil => rfl
      | cons b resp => exact Bool.eq_false_iff.mpr fun h => hno ⟨Nat.succ_pos _, h⟩
    rw [hvacia] at hleido
    exact hleido.trans hnada.symm

/-- The second loop sets the variable if it read a status with an IP. -/
theorem esperarIP_visto {c : Config Bool Sample EspEv} (hc : (visto c).ip = false) :
    esperarIP.wp (fun _ => True)
      (fun _ c' => ∃ ip, visto c' = { visto c with conectado := c.st || ip, ip := ip }) c := by
  have hnada : visto c = { visto c with conectado := c.st || false, ip := false } := by
    rw [Bool.or_false, ← hc]
    rfl
  unfold esperarIP
  rw [Prog.wp_bind]
  refine wp_tickRead (fun _ => trivial) fun m rest _ => ?_
  refine Prog.wp_iter (fun _ c' => visto c' = visto c) (fun _ _ _ => trivial) ?_ rfl
  intro count c1 hv
  rw [Prog.wp_bind]
  refine wp_tickRead (fun _ => trivial) fun m rest _ => ?_
  refine Prog.wp_ite (fun _ => ?_) fun _ => ⟨false, hv.trans hnada⟩
  rw [Prog.wp_bind]
  refine Prog.wp_mono (enviarComandoAT_visto (by decide) (by decide)) (fun _ h => h) ?_
  intro resp c2 hcon
  have hleido : visto c2 = { visto c with
      ip := contiene resp "STATUS:2" || contiene resp "STATUS:3" } := by
    rw [Visto.con_CIPSTATUS] at hcon
    refine hcon.trans ?_
    show { visto c1 with
      ip := contiene resp "STATUS:2" || contiene resp "STATUS:3" || (visto c1).ip } = _
    rw [hv, hc, Bool.or_false]
  refine Prog.wp_ite (fun hsi => ?_) fun hno => ?_
  · rw [Bool.or_eq_true_iff.mpr hsi] at hleido
    rw [Prog.wp_bind]
    refine Prog.wp_mono (enviarComandoAT_otro (by decide) (by decide))
      (fun _ h => h) fun _ c3 h3 => ?_
    refine ⟨true, ?_⟩
    rw [Bool.or_true]
    show { visto c3 with conectado := true } = _
    rw [h3, hleido]
  · have hsin : (contiene resp "STATUS:2" || contiene resp "STATUS:3") = false :=
      Bool.eq_false_iff.mpr fun h => hno (Bool.or_eq_true_iff.mp h)
    have hsame : visto c2 = visto c := by
      rw [hleido, hsin, ← hc]
    split
    · rw [Prog.wp_bind]
      exact Prog.wp_mono (enviarComandoAT_otro (by decide) (by decide))
        (fun _ h => h) fun _ c3 h3 => h3.trans hsame
    · exact hsame

/-- What a call answers: whether it read `OK`, and the variable is set or a status
with an IP was read. Otherwise it starts BluFi, once it has read `OK`. -/
theorem inicializarESP_wp {timeoutMs : UInt32} {conectado : Bool} {inputs : List Sample} :
    (inicializarESP timeoutMs).wp (fun _ => True)
      (fun r c' => ∃ ok ip, (ok = false → ip = false) ∧ r = (ok && (conectado || ip)) ∧
        visto c' = ⟨conectado || ip, ok, ip, ok && !(conectado || ip)⟩)
      ⟨conectado, inputs, []⟩ := by
  unfold inicializarESP
  rw [Prog.wp_bind]
  refine Prog.wp_mono (esperarOK_visto rfl) (fun _ h => h) fun ok c1 h1 => ?_
  cases ok with
  | false =>
    refine ⟨false, false, fun _ => rfl, rfl, h1.trans ?_⟩
    rw [Bool.or_false]
    rfl
  | true =>
    refine Prog.wp_ite (fun h => absurd h Bool.false_ne_true) fun _ => ?_
    rw [Prog.wp_bind]
    refine Prog.wp_mono (enviarComandoAT_otro (by decide) (by decide))
      (fun _ h => h) fun _ c2 h2 => ?_
    rw [Prog.wp_bind]
    refine Prog.wp_mono (enviarComandoAT_otro (by decide) (by decide))
      (fun _ h => h) fun _ c3 h3 => ?_
    rw [Prog.wp_bind]
    refine Prog.wp_mono (enviarComandoAT_otro (by decide) (by decide))
      (fun _ h => h) fun _ c4 h4 => ?_
    have hmodo : visto c4 = ⟨conectado, true, false, false⟩ := ((h4.trans h3).trans h2).trans h1
    have hst4 : c4.st = conectado := congrArg Visto.conectado hmodo
    rw [Prog.wp_bind]
    refine Prog.wp_mono (esperarIP_visto (congrArg Visto.ip hmodo)) (fun _ h => h) ?_
    rintro _ c5 ⟨ip, h5⟩
    rw [hmodo, hst4] at h5
    have hst5 : c5.st = (conectado || ip) := congrArg Visto.conectado h5
    rw [Prog.wp_bind, Prog.wp_get]
    refine Prog.wp_ite (fun hsi => ?_) fun hno => ?_
    · rw [hst5] at hsi
      refine ⟨true, ip, fun h => absurd h.symm Bool.false_ne_true, hsi.symm, h5.trans ?_⟩
      rw [hsi]
      rfl
    · rw [hst5, Bool.not_eq_true] at hno
      rw [Prog.wp_bind]
      refine Prog.wp_mono (enviarComandoAT_otro (by decide) (by decide))
        (fun _ h => h) fun _ c6 h6 => ?_
      rw [Prog.wp_bind]
      refine Prog.wp_mono (enviarComandoAT_visto (by decide) (by decide)) (fun _ h => h) ?_
      intro resp c7 h7
      rw [Visto.con_BLUFI, h6, h5] at h7
      refine ⟨true, ip, fun h => absurd h.symm Bool.false_ne_true, hno.symm, h7.trans ?_⟩
      rw [hno]
      rfl

/-! ## The calls of a life -/

/-- A call: the variable before it, what it asked and read, and its answer. -/
structure Llamado where
  conectado : Bool
  leido : List (List UInt8 × List UInt8)
  devuelve : Bool
deriving DecidableEq, Repr

/-- The calls since the firmware started, the last one first, and the variable
after them. Nothing but these calls writes it. -/
inductive Vida : List Llamado → Bool → Prop
  | arranque : Vida [] false
  | llamado {antes : List Llamado} {conectado : Bool} {timeoutMs : UInt32} {inputs : List Sample}
      {r : Bool} {c' : Config Bool Sample EspEv} :
      Vida antes conectado →
      inicializarESP timeoutMs ⟨conectado, inputs, []⟩ = (some r, c') →
      Vida (⟨conectado, intercambios c'.trace, r⟩ :: antes) c'.st

/-- A call answers `true` only if it read `OK` and a status with an IP. If an
earlier call found a connection and this one finds none, it answers `false` and
starts BluFi. -/
def Veraz (l : Llamado) (antes : List Llamado) : Prop :=
  (l.devuelve = true → contestaOK l.leido = true ∧ daIP l.leido = true) ∧
  ((∃ a ∈ antes, a.devuelve = true) → daIP l.leido = false →
    l.devuelve = false ∧ iniciaBluFi l.leido = true)

/-- Each call so far tells the truth about its connection. -/
def Veraces : List Llamado → Prop
  | [] => True
  | l :: antes => Veraz l antes ∧ Veraces antes

/-- What a call of a life answers. -/
theorem llamado_veraz {antes : List Llamado} {l : Llamado}
    (hconectado : l.conectado = true ↔ ∃ a ∈ antes, a.devuelve = true) {ok ip : Bool}
    (hok : contestaOK l.leido = ok) (hip : daIP l.leido = ip) (hokip : ok = false → ip = false)
    (hr : l.devuelve = (ok && (l.conectado || ip)))
    (hblufi : iniciaBluFi l.leido = (ok && !(l.conectado || ip))) :
    Veraz l antes ↔ (l.conectado = true → daIP l.leido = true) := by
  unfold Veraz
  rw [← hconectado, hok, hip, hr, hblufi]
  cases l.conectado <;> cases ok <;> cases ip <;> simp_all

/-- The variable is set exactly after a call that answered `true`. -/
theorem Vida.conectado_iff {llamados : List Llamado} {conectado : Bool}
    (h : Vida llamados conectado) :
    conectado = true ↔ ∃ l ∈ llamados, l.devuelve = true := by
  induction h with
  | arranque => exact ⟨nofun, fun ⟨_, hmem, _⟩ => absurd hmem List.not_mem_nil⟩
  | @llamado antes conectado timeoutMs inputs r c' _ hrun ih =>
    obtain ⟨ok, ip, hokip, hr, hvisto⟩ := Prog.wp_elim inicializarESP_wp hrun
    have hst : c'.st = (conectado || ip) := congrArg Visto.conectado hvisto
    simp only [List.mem_cons, exists_eq_or_imp]
    rw [← ih, hst, hr]
    cases ok with
    | false =>
      rw [hokip rfl, Bool.or_false]
      exact ⟨.inr, fun h => h.elim (absurd · Bool.false_ne_true) id⟩
    | true =>
      rw [Bool.true_and, Bool.or_eq_true]
      exact ⟨.inl, fun h => h.elim id .inl⟩

/-- Over a life the calls tell the truth exactly if each that finds the variable
set reads a status with an IP. -/
theorem veraz_iff {llamados : List Llamado} {conectado : Bool} (h : Vida llamados conectado) :
    Veraces llamados ↔ ∀ l ∈ llamados, l.conectado = true → daIP l.leido = true := by
  induction h with
  | arranque => simp [Veraces]
  | llamado hvida hrun ih =>
    obtain ⟨ok, ip, hokip, hr, hvisto⟩ := Prog.wp_elim inicializarESP_wp hrun
    have hok : contestaOK _ = ok := congrArg Visto.ok hvisto
    have hip : daIP _ = ip := congrArg Visto.ip hvisto
    have hblufi : iniciaBluFi _ = _ := congrArg Visto.bluFi hvisto
    rw [Veraces, ih, llamado_veraz hvida.conectado_iff hok hip hokip hr hblufi,
      List.forall_mem_cons]

/-- The samples of a command that is answered at `t`, and over a second later. -/
def contestacion (t : ℕ) (resp : List UInt8) : List Sample :=
  Sample.quiet t :: resp.flatMap (fun b =>
    [Sample.quiet t, { Sample.quiet t with espRx := some b }, Sample.quiet t]) ++
    [Sample.quiet (t + 1000)]

/-- A call at `t` that reads `OK` and one status, and then nothing for 15 s. -/
def conEstado (t : ℕ) (estado : List UInt8) : List Sample :=
  [Sample.quiet t, Sample.quiet t] ++ contestacion t (ascii "OK") ++ contestacion (t + 1000) [] ++
    contestacion (t + 2000) [] ++ contestacion (t + 3000) [] ++
    [Sample.quiet (t + 4000), Sample.quiet (t + 4000)] ++ contestacion (t + 4000) estado ++
    [Sample.quiet (t + 19000), Sample.quiet (t + 20000)]

/-- The firmware starts, and its first call finds a connection. -/
theorem arranque_conectado : ∃ c', inicializarESP 15000
    ⟨false, conEstado 0 (ascii "STATUS:2"), []⟩ = (some true, c') ∧ c'.st = true := by
  have hrun : let run := inicializarESP 15000 ⟨false, conEstado 0 (ascii "STATUS:2"), []⟩
      run.1 = some true ∧ run.2.st = true := by decide +kernel
  generalize inicializarESP 15000 ⟨false, conEstado 0 (ascii "STATUS:2"), []⟩ = run at hrun ⊢
  obtain ⟨_, c'⟩ := run
  obtain ⟨rfl, hst⟩ := hrun
  exact ⟨c', rfl, hst⟩

/-- The first call tells the truth. -/
theorem primera_veraz : ∃ llamados, Vida llamados true ∧ llamados ≠ [] ∧ Veraces llamados := by
  obtain ⟨c', hrun, hst⟩ := arranque_conectado
  have hvida := Vida.arranque.llamado hrun
  refine ⟨_, hst ▸ hvida, List.cons_ne_nil _ _, (veraz_iff hvida).mpr fun l hl hset => ?_⟩
  obtain rfl := List.mem_singleton.mp hl
  exact absurd hset Bool.false_ne_true

/-- Then the connection is lost. The next call reads that there is none, and
answers that there is one. -/
theorem sigue_conectado : ∃ llamados conectado, Vida llamados conectado ∧ ¬ Veraces llamados := by
  have hsegunda : let run := inicializarESP 15000 ⟨true, conEstado 100000 (ascii "STATUS:5"), []⟩
      run.1 = some true ∧ daIP (intercambios run.2.trace) = false := by decide +kernel
  obtain ⟨c1, hprimera, hst⟩ := arranque_conectado
  have hvida := Vida.arranque.llamado hprimera
  rw [hst] at hvida
  generalize h2 : inicializarESP 15000 ⟨true, conEstado 100000 (ascii "STATUS:5"), []⟩ = run
    at hsegunda
  obtain ⟨_, c2⟩ := run
  obtain ⟨rfl, hsin⟩ := hsegunda
  refine ⟨_, _, hvida.llamado h2, fun h => ?_⟩
  exact absurd (hsin.symm.trans (h.1.1 rfl).2) Bool.false_ne_true

end Cerradura
