import Cerradura.Menor
import Cerradura.Ronda

/-!
# The digits of a PIN

The six prompts share the buffer of the keypad. A PIN is of its prompt when all
its digits were pressed since the prompt began. After a card or a fingerprint
that opens, in the sleep, and when a request times out, the digits typed so far
stay in the buffer.

Result: `pin_de_su_peticion`. In every run in which the buffer is empty at those
three moments every PIN is of its prompt. `pin_de_dos_peticiones` is a run in
which two digits typed before a card opens and three typed after it make a PIN.
-/

namespace Cerradura

open Reactive

/-! ## The keys of a prompt -/

/-- The keys pressed since the prompt began. Traces have the newest event first. -/
def teclasDesde : List MefEv → List UInt8
  | [] => []
  | .peticion :: _ => []
  | .teclado (.tecla k) :: antes => k :: teclasDesde antes
  | _ :: antes => teclasDesde antes

/-- The five digits of every PIN were pressed since its prompt began. -/
def DeSuPeticion (traza : List MefEv) : Prop :=
  ∀ despues pin antes, traza = despues ++ .pinLeido pin :: antes →
    pin.length = pinLength ∧ pin.reverse.Sublist (teclasDesde antes)

/-- No request has timed out with digits in the buffer. -/
def SinRestos (traza : List MefEv) : Prop :=
  ∀ pendientes, .vencida pendientes ∈ traza → pendientes = []

/-- An event that neither begins a prompt nor ends it with a PIN. -/
def MefEv.Callado : MefEv → Prop
  | .pinLeido _ | .peticion => False
  | _ => True

theorem SinRestos.of_append {evs traza : List MefEv} (h : SinRestos (evs ++ traza)) :
    SinRestos traza := fun p hp => h p (List.mem_append_right evs hp)

theorem SinRestos.of_cons {e : MefEv} {traza : List MefEv} (h : SinRestos (e :: traza)) :
    SinRestos traza := fun p hp => h p (List.mem_cons_of_mem e hp)

theorem DeSuPeticion.cons {e : MefEv} {traza : List MefEv} (h : DeSuPeticion traza)
    (he : ∀ pin, e = .pinLeido pin →
      pin.length = pinLength ∧ pin.reverse.Sublist (teclasDesde traza)) :
    DeSuPeticion (e :: traza) := by
  intro despues pin antes heq
  cases despues with
  | nil =>
    obtain ⟨rfl, rfl⟩ := List.cons.inj heq
    exact he pin rfl
  | cons d despues => exact h despues pin antes (List.cons.inj heq).2

theorem DeSuPeticion.append {evs traza : List MefEv} (h : DeSuPeticion traza)
    (hevs : ∀ e ∈ evs, e.Callado) : DeSuPeticion (evs ++ traza) := by
  induction evs with
  | nil => exact h
  | cons e evs ih =>
    obtain ⟨he, hrest⟩ := List.forall_mem_cons.mp hevs
    refine (ih hrest).cons ?_
    rintro pin rfl
    exact he.elim

/-- Within a prompt keys are only added. -/
theorem teclasDesde_append {evs : List MefEv} (traza : List MefEv) (hevs : ∀ e ∈ evs, e.Callado) :
    (teclasDesde traza).Sublist (teclasDesde (evs ++ traza)) := by
  induction evs with
  | nil => exact List.Sublist.refl _
  | cons e evs ih =>
    obtain ⟨he, hrest⟩ := List.forall_mem_cons.mp hevs
    have hstep := ih hrest
    cases e with
    | peticion => exact he.elim
    | teclado e =>
      cases e with
      | tecla k => exact hstep.trans (List.sublist_cons_self k _)
    | _ => exact hstep

theorem teclasDesde_map (evs : List TecladoEv) (traza : List MefEv) :
    teclasDesde (evs.map .teclado ++ traza) =
      evs.map (fun | .tecla k => k) ++ teclasDesde traza := by
  induction evs with
  | nil => rfl
  | cons e evs ih =>
    cases e with
    | tecla k => exact congrArg (k :: ·) ih

/-! ## The buffer -/

/-- The digits in the buffer were pressed since the prompt began. -/
def Propia (c : Config Mef Sample MefEv) : Prop :=
  SinRestos c.trace → DeSuPeticion c.trace ∧
    c.st.teclado.pinIngresado.reverse.Sublist (teclasDesde c.trace)

/-- There are none. -/
def Limpia (c : Config Mef Sample MefEv) : Prop :=
  SinRestos c.trace → DeSuPeticion c.trace ∧ c.st.teclado.pinIngresado = []

theorem Limpia.propia {c : Config Mef Sample MefEv} (h : Limpia c) : Propia c := by
  intro hsin
  obtain ⟨hpines, hvacio⟩ := h hsin
  rw [hvacio]
  exact ⟨hpines, List.nil_sublist _⟩

/-- The buffer is the same, and no prompt began or ended with a PIN. -/
structure Callada (c c' : Config Mef Sample MefEv) : Prop where
  digitos : c'.st.teclado.pinIngresado = c.st.teclado.pinIngresado
  eventos : ∃ evs, c'.trace = evs ++ c.trace ∧ ∀ e ∈ evs, e.Callado

theorem callada : Prog.Composable Callada where
  refl c := ⟨rfl, [], rfl, fun _ he => nomatch he⟩
  trans := by
    rintro c c' c'' ⟨hdig, evs, htrace, hevs⟩ ⟨hdig', evs', htrace', hevs'⟩
    refine ⟨hdig'.trans hdig, evs' ++ evs, by rw [htrace', htrace, List.append_assoc], ?_⟩
    intro e he
    rcases List.mem_append.mp he with he | he
    · exact hevs' e he
    · exact hevs e he

section Callada

variable {c c' : Config Mef Sample MefEv}

theorem Menor.callada (h : Menor c c') : Callada c c' := by
  obtain ⟨evs, htrace, hevs⟩ := h.eventos
  refine ⟨congrArg Teclado.pinIngresado h.teclado, evs, htrace, fun e he => ?_⟩
  have hmenor := hevs e he
  cases e with
  | pinLeido pin => exact hmenor.elim
  | peticion => exact hmenor.elim
  | _ => trivial

theorem Callada.propia (h : Callada c c') (hc : Propia c) : Propia c' := by
  obtain ⟨hdig, evs, htrace, hevs⟩ := h
  intro hsin
  rw [htrace] at hsin
  obtain ⟨hpines, hsub⟩ := hc hsin.of_append
  rw [htrace, hdig]
  exact ⟨hpines.append hevs, hsub.trans (teclasDesde_append c.trace hevs)⟩

theorem Callada.limpia (h : Callada c c') (hc : Limpia c) : Limpia c' := by
  obtain ⟨hdig, evs, htrace, hevs⟩ := h
  intro hsin
  rw [htrace] at hsin
  obtain ⟨hpines, hvacio⟩ := hc hsin.of_append
  rw [htrace, hdig]
  exact ⟨hpines.append hevs, hvacio⟩

/-- A prompt begins with the buffer empty. -/
theorem Limpia.peticion (hc : Limpia c) : Limpia ⟨c.st, c.inputs, .peticion :: c.trace⟩ := by
  intro hsin
  obtain ⟨hpines, hvacio⟩ := hc hsin.of_cons
  exact ⟨hpines.cons nofun, hvacio⟩

/-- `tecladoReset` -/
theorem Propia.reset (hc : Propia c) : Limpia
    ⟨{ c.st with teclado := { c.st.teclado with pinIngresado := [] } }, c.inputs, c.trace⟩ :=
  fun hsin => ⟨(hc hsin).1, rfl⟩

/-- A request that times out had no digits, or has left them. -/
theorem Propia.vencida (hc : Propia c) :
    Limpia ⟨c.st, c.inputs, .vencida c.st.teclado.pinIngresado :: c.trace⟩ := by
  intro hsin
  obtain ⟨hpines, -⟩ := hc hsin.of_cons
  exact ⟨hpines.cons nofun, hsin _ List.mem_cons_self⟩

end Callada

/-! ## The keypad -/

theorem nuevaTecla_wp {c : Config Teclado Sample TecladoEv} :
    nuevaTecla.wp (fun c' => c'.st.pinIngresado = c.st.pinIngresado ∧ c'.trace = c.trace)
      (fun r c' => c'.st.pinIngresado = c.st.pinIngresado ∧
        ((r = none ∧ c'.trace = c.trace) ∨
          ∃ k, r = some k ∧ c'.trace = .tecla k :: c.trace)) c := by
  unfold nuevaTecla
  rw [Prog.wp_bind]
  refine Prog.wp_read (fun _ => ⟨rfl, rfl⟩) fun m rest _ => ?_
  rw [Prog.wp_bind, Prog.wp_get]
  cases m.tecla with
  | none => exact ⟨rfl, .inl ⟨rfl, rfl⟩⟩
  | some teclaIndex =>
    exact Prog.wp_ite (fun _ => ⟨rfl, .inr ⟨_, rfl, rfl⟩⟩) fun _ => ⟨rfl, .inl ⟨rfl, rfl⟩⟩

/-- The digits come from the buffer and the key that was just pressed. -/
theorem tecladoLeerPin_digitos {c : Config Teclado Sample TecladoEv} :
    tecladoLeerPin.wp
      (fun c' => c'.st.pinIngresado = c.st.pinIngresado)
      (fun r c' => ∃ evs, c'.trace = evs ++ c.trace ∧ match r.1 with
        | .incompleto => c'.st.pinIngresado.reverse.Sublist
            (evs.map (fun | .tecla k => k) ++ c.st.pinIngresado.reverse)
        | .menu => c'.st.pinIngresado = []
        | .completo pin => c'.st.pinIngresado = [] ∧ pin.length = pinLength ∧ pin.reverse.Sublist
            (evs.map (fun | .tecla k => k) ++ c.st.pinIngresado.reverse)) c := by
  unfold tecladoLeerPin
  rw [Prog.wp_bind]
  refine Prog.wp_mono nuevaTecla_wp (fun _ h => h.1) fun tecla c1 h1 => ?_
  obtain ⟨hdig, ⟨rfl, htrace⟩ | ⟨k, rfl, htrace⟩⟩ := h1
  · refine ⟨[], htrace, ?_⟩
    rw [hdig]
    exact List.Sublist.refl _
  · have hpin : ∀ {p : Prop} [Decidable p], (if p then c1.st.pinIngresado ++ [k] else
        c1.st.pinIngresado).reverse.Sublist (k :: c.st.pinIngresado.reverse) := by
      intro p _
      rw [hdig]
      split_ifs
      · rw [List.reverse_append]
        exact List.Sublist.refl _
      · exact List.sublist_cons_self _ _
    dsimp only
    rw [Prog.wp_bind]
    refine wp_tickRead (fun _ => hdig) fun m rest _ => ?_
    refine Prog.wp_ite (fun _ => ⟨[.tecla k], htrace, rfl⟩) fun _ => ?_
    rw [Prog.wp_bind, Prog.wp_get]
    refine Prog.wp_ite (fun hfull => ⟨[.tecla k], htrace, rfl, hfull, hpin⟩) fun _ => ?_
    exact ⟨[.tecla k], htrace, hpin⟩

section Leer

variable {c : Config Mef Sample MefEv}

theorem callado_map (trace : List TecladoEv) : ∀ e ∈ trace.map MefEv.teclado, e.Callado := by
  intro e he
  obtain ⟨d, -, rfl⟩ := List.mem_map.mp he
  trivial

/-- Keys and nothing else, with what the driver did to the buffer. -/
theorem Propia.teclas {t : Teclado} {inputs : List Sample} {evs : List TecladoEv} (hc : Propia c)
    (ht : t.pinIngresado.reverse.Sublist
      (evs.map (fun | .tecla k => k) ++ c.st.teclado.pinIngresado.reverse)) :
    Propia ⟨{ c.st with teclado := t }, inputs, evs.map .teclado ++ c.trace⟩ := by
  intro hsin
  obtain ⟨hpines, hsub⟩ := hc hsin.of_append
  refine ⟨hpines.append (callado_map evs), ht.trans ?_⟩
  rw [teclasDesde_map]
  exact hsub.append_left _

/-- A PIN ends its prompt with the buffer empty, and so does an asterisk. -/
theorem leerPin_propia {timer : ℤ} (hc : Propia c) : (leerPin timer).wp Propia
    (fun r c' => Propia c' ∧ c'.st.estadoActual = c.st.estadoActual ∧
      (r.1 ≠ .incompleto → Limpia c')) c := by
  unfold leerPin
  rw [Prog.wp_bind]
  refine Prog.wp_zoom tecladoLeerPin_digitos (fun c' h => ?_) fun (res, ultimaActividad) c' h => ?_
  · refine hc.teclas ?_
    rw [h]
    exact List.sublist_append_right _ _
  obtain ⟨evs, htrace, hres⟩ := h
  rw [List.append_nil] at htrace
  rw [htrace]
  have hcallada : ∀ hsin : SinRestos (evs.map .teclado ++ c.trace),
      DeSuPeticion (evs.map .teclado ++ c.trace) := fun hsin =>
    (hc hsin.of_append).1.append (callado_map evs)
  dsimp only at hres ⊢
  cases res with
  | incompleto => exact ⟨hc.teclas hres, rfl, fun h => absurd rfl h⟩
  | menu =>
    have hlimpia : Limpia ⟨{ c.st with teclado := c'.st }, c'.inputs,
        evs.map .teclado ++ c.trace⟩ := fun hsin => ⟨hcallada hsin, hres⟩
    exact ⟨hlimpia.propia, rfl, fun _ => hlimpia⟩
  | completo pin =>
    obtain ⟨hvacio, hlen, hsub⟩ := hres
    have hlimpia : Limpia ⟨{ c.st with teclado := c'.st }, c'.inputs,
        .pinLeido pin :: (evs.map .teclado ++ c.trace)⟩ := by
      intro hsin
      have hsin' : SinRestos (evs.map .teclado ++ c.trace) := hsin.of_cons
      refine ⟨(hcallada hsin').cons fun pin' heq => ?_, hvacio⟩
      obtain rfl := MefEv.pinLeido.inj heq
      refine ⟨hlen, hsub.trans ?_⟩
      rw [teclasDesde_map]
      exact (hc hsin'.of_append).2.append_left _
    exact ⟨hlimpia.propia, rfl, fun _ => hlimpia⟩

theorem tecladoLeerTecla_callada : Prog.Keeps Callada (conTeclado tecladoLeerTecla) := by
  refine .zoom_of (S := fun c c' => c'.st.pinIngresado = c.st.pinIngresado) (fun c => ?_)
    fun c c' h => ⟨h, _, rfl, callado_map _⟩
  exact Prog.wp_final (Prog.wp_mono nuevaTecla_wp (fun _ h => h.1) fun _ _ h => h.1)

end Leer

/-! ## Programs that leave the buffer alone -/

section Calladas

theorem irA_callada (e : EstadoMEF) : Prog.Keeps Callada (irA e) :=
  fun _ => ⟨rfl, [.estado e], rfl, List.forall_mem_singleton.mpr trivial⟩

theorem noTieneHuella_callada : Prog.Keeps Callada (Prog.emit .noTieneHuella : MefProg Unit) :=
  .emit fun _ => ⟨rfl, [.noTieneHuella], rfl, List.forall_mem_singleton.mpr trivial⟩

theorem hacer_callada (a : Accion) : Prog.Keeps Callada (hacer a) :=
  fun c => ⟨rfl, [.accion c.st.listaPins a], rfl, List.forall_mem_singleton.mpr trivial⟩

theorem modify_callada {f : Mef → Mef}
    (hf : ∀ s, (f s).teclado.pinIngresado = s.teclado.pinIngresado) :
    Prog.Keeps Callada (Prog.modify f : MefProg Unit) :=
  .modify fun c => ⟨hf c.st, [], rfl, fun _ he => nomatch he⟩

theorem conLista_callada {α : Type} (m : Prog ListaPins Sample EspEv α) :
    Prog.Keeps Callada (conLista m) := by
  refine .zoom fun _ _ _ trace => ⟨rfl, trace.map .esp, rfl, fun e he => ?_⟩
  obtain ⟨d, -, rfl⟩ := List.mem_map.mp he
  trivial

theorem comprobarPinMaster_callada (pin : List UInt8) :
    Prog.Keeps Callada (comprobarPinMaster pin) := by
  refine .get_bind fun c => ?_
  split_ifs
  · exact ⟨rfl, [.pinMaster c.st.listaPins pin], rfl, List.forall_mem_singleton.mpr trivial⟩
  · exact callada.refl c

theorem entrarModoSleep_callada : Prog.Keeps Callada entrarModoSleep := by
  refine .bind callada (modify_callada fun _ => rfl) fun _ =>
    .bind callada (esperarInterrupcion_menor.mono Menor.callada) fun _ => ?_
  refine .bind callada (obtenerVersion_menor.mono Menor.callada) fun versionServer => ?_
  refine .bind callada (.get callada) fun s => ?_
  refine .ite (fun _ => .pure callada _) fun _ => .ite (fun _ => ?_) fun _ => .pure callada _
  exact .bind callada (conLista_callada _) fun _ =>
    .ite (fun _ => modify_callada fun _ => rfl) fun _ => .pure callada _

theorem pedirSubOp_callada : Prog.Keeps Callada pedirSubOp := by
  have htick : Prog.Keeps Callada (tickRead : MefProg ℕ) := tickRead_menor.mono Menor.callada
  refine .bind callada htick fun t => .iter callada (fun _ => ?_) _
  refine .bind callada htick fun _ => .ite (fun _ => ?_) fun _ => .pure callada _
  refine .bind callada tecladoLeerTecla_callada fun k => ?_
  cases k with
  | none => exact .pure callada _
  | some k => exact .ite (fun _ => .pure callada _) fun _ => .pure callada _

theorem leerOpcion_callada : Prog.Keeps Callada leerOpcion := by
  refine .iter callada (fun _ => .bind callada tecladoLeerTecla_callada fun tecla => ?_) _
  cases tecla with
  | none => exact .pure callada _
  | some tecla => exact .pure callada _

theorem borrarTodas_callada : Prog.Keeps Callada borrarTodas := by
  refine .bind callada (hacer_callada _) fun _ => ?_
  refine .bind callada ((conSensor_menor _).mono Menor.callada) fun _ => .ite (fun _ => ?_)
    fun _ => .pure callada _
  exact .bind callada (modify_callada fun _ => rfl) fun _ =>
    .bind callada ((conEsp_menor _).mono Menor.callada) fun _ => .pure callada _

theorem resetWifi_callada : Prog.Keeps Callada resetWifi := by
  refine .bind callada (hacer_callada _) fun _ => ?_
  exact .bind callada ((conEsp_menor _).mono Menor.callada) fun _ => .ite
    (fun _ => .bind callada ((conEsp_menor _).mono Menor.callada) fun _ => .pure callada _)
    fun _ => .pure callada _

theorem enrolar_callada (pin : List UInt8) (id : UInt16) : Prog.Keeps Callada (enrolar pin id) := by
  refine .iter callada (fun intentos => .ite (fun _ => ?_) fun _ => .pure callada _) _
  refine .bind callada (hacer_callada _) fun _ => ?_
  refine .bind callada ((conSensor_menor _).mono Menor.callada) fun r => ?_
  cases r with
  | some idResultado => exact .pure callada _
  | none => exact .pure callada _

theorem contarFallo_callada : Prog.Keeps Callada contarFallo := by
  refine .bind callada (.get callada) fun s => .ite (fun _ => ?_) fun _ =>
    modify_callada fun _ => rfl
  exact .bind callada (modify_callada fun _ => rfl) fun _ =>
    .emit fun _ => ⟨rfl, [.alertaIntruso], rfl, List.forall_mem_singleton.mpr trivial⟩

end Calladas

/-! ## Prompts -/

/-- Started with the buffer empty it returns with the buffer empty. -/
abbrev Limpio {α : Type} (m : MefProg α) : Prop := Prog.Restores Limpia Propia m

section Limpios

theorem limpio_of_callada {α : Type} {m : MefProg α} (h : Prog.Keeps Callada m) : Limpio m :=
  .of_keeps h (fun _ h => h.propia) Callada.limpia

theorem limpio_of_menor {α : Type} {m : MefProg α} (h : Prog.Keeps Menor m) : Limpio m :=
  limpio_of_callada (h.mono Menor.callada)

theorem peticion_limpio : Limpio (Prog.emit .peticion : MefProg Unit) := fun _ hc => hc.peticion

theorem esperarPin_limpio : Limpio esperarPin :=
  .bind (limpio_of_callada (irA_callada _)) fun _ => peticion_limpio

theorem volverAEsperar_limpio : Limpio volverAEsperar :=
  .bind (limpio_of_menor marcarPresencia_menor) fun _ => esperarPin_limpio

theorem pedirPin_limpio (limite : TimeTest) : Limpio (pedirPin limite) := by
  refine .bind (limpio_of_menor tickRead_menor) fun t => .bind peticion_limpio fun _ =>
    fun c hc => ?_
  refine Prog.wp_iter (fun _ => Propia) (fun _ _ h => h) (fun timer c1 h1 => ?_) hc.propia
  rw [Prog.wp_bind]
  refine Prog.wp_mono (leerPin_propia h1) (fun _ h => h) fun (res, timer) c2 h2 => ?_
  dsimp only
  cases res
  case completo pin => exact h2.2.2 nofun
  all_goals
    dsimp only
    rw [Prog.wp_bind]
    refine (tickRead_menor.mono Menor.callada).wp (fun _ h3 => h3.propia h2.1) fun now c3 h3 => ?_
    exact Prog.wp_ite (fun _ => (h3.propia h2.1).vencida) fun _ => h3.propia h2.1

theorem leerPinValidado_limpio (pinValidado : List UInt8) (timer : ℤ) :
    Limpio (leerPinValidado pinValidado timer) := by
  refine .bind peticion_limpio fun _ => fun c hc => ?_
  refine Prog.wp_iter (fun _ => Propia) (fun _ _ h => h) (fun timer c1 h1 => ?_) hc.propia
  rw [Prog.wp_bind]
  refine Prog.wp_mono (leerPin_propia h1) (fun _ h => h) fun (res, timer) c2 h2 => ?_
  dsimp only
  cases res
  case completo pin => exact h2.2.2 nofun
  all_goals
    dsimp only
    rw [Prog.wp_bind]
    refine (tickRead_menor.mono Menor.callada).wp (fun _ h3 => h3.propia h2.1) fun now c3 h3 => ?_
    refine Prog.wp_ite (fun _ => ?_) fun _ => h3.propia h2.1
    rw [Prog.wp_bind]
    show (volverAEsperar >>= _).wp _ _ _
    rw [Prog.wp_bind]
    exact Prog.wp_mono (volverAEsperar_limpio _ (h3.propia h2.1).vencida) (fun _ h => h)
      fun _ _ h => h

/-- Whether or not the administrator is accepted, the digits are gone or will be. -/
theorem pedirPinAdmin_propia {c : Config Mef Sample MefEv} (hc : Propia c) :
    pedirPinAdmin.wp Propia (fun r c' => Propia c' ∧ (r = true → Limpia c')) c := by
  unfold pedirPinAdmin
  rw [Prog.wp_bind]
  refine (tickRead_menor.mono Menor.callada).wp (fun _ h => h.propia hc) fun t c1 h1 => ?_
  rw [Prog.wp_bind, tecladoReset_wp, Prog.wp_bind, Prog.wp_emit]
  refine Prog.wp_iter (fun _ => Propia) (fun _ _ h => h) (fun tAuth c2 h2 => ?_)
    (h1.propia hc).reset.peticion.propia
  rw [Prog.wp_bind]
  refine (tickRead_menor.mono Menor.callada).wp (fun _ h => h.propia h2) fun now c3 h3 => ?_
  refine Prog.wp_ite (fun _ => ?_) fun _ => ⟨h3.propia h2, nofun⟩
  rw [Prog.wp_bind]
  refine Prog.wp_mono (leerPin_propia (h3.propia h2)) (fun _ h => h) fun (res, tAuth) c4 h4 => ?_
  dsimp only
  cases res with
  | completo pin =>
    rw [Prog.wp_bind]
    exact (comprobarPinMaster_callada pin).wp (fun _ h => h.propia h4.1) fun r c5 h5 =>
      ⟨h5.propia h4.1, fun _ => h5.limpia (h4.2.2 nofun)⟩
  | menu => exact ⟨h4.1, nofun⟩
  | incompleto => exact h4.1

theorem borrarUna_limpio : Limpio borrarUna := by
  have herror : Limpio (Prog.emit .noTieneHuella) := limpio_of_callada noTieneHuella_callada
  refine .bind (pedirPin_limpio _) fun pinTarget => .bind .get fun s => .ite (fun _ => ?_)
    fun _ => herror
  cases obtenerHuellaAsignadaPorPin s.listaPins (pinTarget.getD []) with
  | none => exact herror
  | some idStr =>
    refine .bind (limpio_of_callada (hacer_callada _)) fun _ =>
      .bind (limpio_of_menor (conSensor_menor _)) fun _ => .ite (fun _ => ?_) fun _ => .pure _
    exact .bind (limpio_of_callada (modify_callada fun _ => rfl)) fun _ =>
      .bind (limpio_of_menor (conEsp_menor _)) fun _ => .pure _

theorem borrarHuellas_limpio : Limpio borrarHuellas := by
  refine .bind (pedirPin_limpio _) fun pinAuth => ?_
  cases pinAuth with
  | none => exact .pure _
  | some pinAuth =>
    refine .bind (limpio_of_callada (comprobarPinMaster_callada _)) fun _ => .ite (fun _ => ?_)
      fun _ => .pure _
    have hborrar (subOp : UInt8) : Limpio (borrarSegun subOp) :=
      .ite (fun _ => limpio_of_callada borrarTodas_callada) fun _ =>
        .ite (fun _ => borrarUna_limpio) fun _ => .pure _
    exact .bind (limpio_of_callada pedirSubOp_callada) fun subOp =>
      .bind (hborrar subOp) fun _ => volverAEsperar_limpio

theorem menuAdmin_limpio : Limpio menuAdmin := by
  refine .bind (limpio_of_callada leerOpcion_callada) fun opcion => ?_
  refine .ite (fun _ => limpio_of_callada (irA_callada _)) fun _ => ?_
  refine .ite (fun _ => limpio_of_callada (irA_callada _)) fun _ => ?_
  refine .ite (fun _ => .bind (limpio_of_callada resetWifi_callada) fun _ => volverAEsperar_limpio)
    fun _ => ?_
  refine .ite (fun _ => borrarHuellas_limpio) fun _ => .ite (fun _ => ?_) fun _ =>
    volverAEsperar_limpio
  exact .bind (limpio_of_callada (hacer_callada _)) fun _ =>
    .bind (limpio_of_callada (conLista_callada _)) fun _ => volverAEsperar_limpio

theorem pedirPinValidado_limpio : Limpio pedirPinValidado := by
  refine .bind (limpio_of_menor tickRead_menor) fun t =>
    .iter (fun _ h => h.propia) (fun (pinValidado, timer, intentos) => ?_) _
  refine .bind (leerPinValidado_limpio _ _) fun (pinValidado, timer) => .bind .get fun s => ?_
  refine .ite (fun _ => .pure _) fun _ => .ite (fun _ => ?_) fun _ => .pure _
  exact .bind volverAEsperar_limpio fun _ => .pure _

theorem siSigue_limpio {m : MefProg Unit} (hm : Limpio m) : Limpio (siSigue m) :=
  .bind .get fun _ => .ite (fun _ => .pure _) fun _ => hm

theorem pedirTarjeta_limpio : Limpio pedirTarjeta := by
  have hvencida (vencida : Bool) : Limpio (if vencida then do
      volverAEsperar
      pure (.inr ())
    else pure (.inl ()) : MefProg (Unit ⊕ Unit)) :=
    .ite (fun _ => .bind volverAEsperar_limpio fun _ => .pure _) fun _ => .pure _
  refine .bind (limpio_of_menor tickRead_menor) fun t => .iter (fun _ h => h.propia) (fun _ => ?_) _
  refine .bind (limpio_of_menor leerRfid_menor) fun r => .ite (fun _ => .pure _) fun _ => ?_
  exact .bind (limpio_of_menor tickRead_menor) fun _ => hvencida _

theorem registrarRfid_limpio : Limpio registrarRfid := by
  refine .bind pedirPinValidado_limpio fun pinValidado => siSigue_limpio ?_
  refine .bind pedirTarjeta_limpio fun _ => siSigue_limpio ?_
  refine .bind .get fun s => ?_
  exact .bind (limpio_of_callada (hacer_callada _)) fun _ =>
    .bind (limpio_of_callada (modify_callada fun _ => rfl)) fun _ =>
      .bind (limpio_of_menor (conEsp_menor _)) fun _ => volverAEsperar_limpio

theorem registrarHuella_limpio : Limpio registrarHuella := by
  refine .bind pedirPinValidado_limpio fun pinValidado => siSigue_limpio ?_
  refine .bind .get fun s => ?_
  cases obtenerHuellaAsignadaPorPin s.listaPins pinValidado with
  | none => exact limpio_of_menor marcarPresencia_menor
  | some idHuellaStr =>
    refine .bind (limpio_of_callada (enrolar_callada _ _)) fun r => ?_
    cases r with
    | none => exact volverAEsperar_limpio
    | some idResultado =>
      exact .bind (limpio_of_callada (modify_callada fun _ => rfl)) fun _ =>
        .bind (limpio_of_menor (conEsp_menor _)) fun _ =>
          .bind esperarPin_limpio fun _ => limpio_of_menor marcarPresencia_menor

theorem mefInit_limpio : Limpio mefInit := by
  refine .bind (limpio_of_menor (conEsp_menor _)) fun _ =>
    .bind (limpio_of_menor (conEsp_menor _)) fun wifiOk => ?_
  refine .bind (.iter (fun _ h => h.propia) (fun _ => .ite (fun _ => .pure _) fun _ =>
    .bind (limpio_of_menor (conEsp_menor _)) fun _ => .pure _) wifiOk) fun _ => ?_
  refine .bind (limpio_of_callada (conLista_callada _)) fun _ =>
    .bind (limpio_of_menor (conSensor_menor _)) fun _ => ?_
  exact .bind (limpio_of_callada (modify_callada fun _ => rfl)) fun _ => volverAEsperar_limpio

end Limpios

/-! ## Rounds -/

/-- In these states there may be digits in the buffer. -/
def EstadoMEF.conDigitos : EstadoMEF → Bool
  | .esperandoAccion | .leerYValidarHuella | .validarRfid | .sensorCierre | .reposo => true
  | _ => false

/-- Between two rounds. -/
structure Entre (c : Config Mef Sample MefEv) : Prop where
  propia : Propia c
  limpia : c.st.estadoActual.conDigitos = false → Limpia c

/-- Nothing is left in the buffer when the bolt has been opened and when the
machine falls asleep. -/
def SinDigitos (c : Config Mef Sample MefEv) : Prop :=
  c.st.estadoActual = .sensorCierre ∨ c.st.estadoActual = .reposo →
    c.st.teclado.pinIngresado = []

section Rondas

variable {c : Config Mef Sample MefEv}

theorem Limpia.entre (hc : Limpia c) : Entre c := ⟨hc.propia, fun _ => hc⟩

theorem Propia.entre (hc : Propia c) (hst : c.st.estadoActual.conDigitos = true) : Entre c :=
  ⟨hc, fun h => absurd h (by rw [hst]; exact nofun)⟩

theorem Limpio.wp {m : MefProg Unit} (hm : Limpio m) (hc : Limpia c) :
    m.wp Propia (fun _ => Entre) c := Prog.wp_mono (hm c hc) (fun _ h => h) fun _ _ h => h.entre

/-- A change of state. -/
theorem Propia.irA {e : EstadoMEF} (hc : Propia c) (he : e.conDigitos = true) :
    (irA e).wp Propia (fun _ => Entre) c :=
  ((irA_callada e c).propia hc).entre he

theorem esperandoAccion_entre (hst : c.st.estadoActual = .esperandoAccion) (hc : Propia c) :
    esperandoAccion.wp Propia (fun _ => Entre) c := by
  unfold esperandoAccion
  rw [Prog.wp_bind]
  refine atenderPresencia_menor.wp (fun _ h1 => h1.callada.propia hc) fun _ c1 h1 => ?_
  rw [Prog.wp_bind, Prog.wp_get, Prog.wp_bind]
  refine Prog.wp_mono (leerPin_propia (h1.callada.propia hc)) (fun _ h2 => h2)
    fun (resultado, ultimaPresencia) c2 h2 => ?_
  obtain ⟨hpropia, hst2, hlimpia⟩ := h2
  rw [Prog.wp_bind, Prog.wp_modify]
  cases resultado with
  | completo pin =>
    have hvalidar : Limpio (do marcarPresencia; irA .validar) :=
      .bind (limpio_of_menor marcarPresencia_menor) fun _ => limpio_of_callada (irA_callada _)
    dsimp only
    rw [Prog.wp_bind, Prog.wp_modify]
    exact Limpio.wp hvalidar (hlimpia nofun)
  | menu =>
    dsimp only
    rw [Prog.wp_bind]
    refine Prog.wp_mono (pedirPinAdmin_propia hpropia) (fun _ h3 => h3) fun acceso c3 h3 => ?_
    refine Prog.wp_ite (fun hacceso => ?_) fun _ => h3.1.reset.peticion.entre
    have hmenu : Limpio (do marcarPresencia; irA .menuAdmin) :=
      .bind (limpio_of_menor marcarPresencia_menor) fun _ => limpio_of_callada (irA_callada _)
    exact Limpio.wp hmenu (h3.2 hacceso)
  | incompleto =>
    dsimp only
    rw [Prog.wp_bind]
    refine tickRead_menor.wp (fun _ h3 => h3.callada.propia hpropia) fun now c3 h3 => ?_
    refine Prog.wp_ite (fun _ => (h3.callada.propia hpropia).irA rfl) fun _ => ?_
    rw [Prog.wp_bind]
    refine leerRfid_menor.wp (fun _ h4 => (menor.trans h3 h4).callada.propia hpropia)
      fun leido c4 h4 => ?_
    have h34 := menor.trans h3 h4
    refine Prog.wp_ite (fun _ => ?_) fun _ => ?_
    · rw [Prog.wp_bind]
      exact marcarPresencia_menor.wp (fun _ h5 => (menor.trans h34 h5).callada.propia hpropia)
        fun _ c5 h5 => ((menor.trans h34 h5).callada.propia hpropia).irA rfl
    · rw [Prog.wp_bind]
      refine programarEscaneo_menor.wp (fun _ h5 => (menor.trans h34 h5).callada.propia hpropia)
        fun _ c5 h5 => ?_
      have h35 := menor.trans h34 h5
      rw [Prog.wp_bind, Prog.wp_get]
      refine Prog.wp_ite (fun _ => (h35.callada.propia hpropia).irA rfl) fun _ => ?_
      refine (h35.callada.propia hpropia).entre ?_
      rw [h35.estado.trans (hst2.trans (h1.estado.trans hst))]
      rfl

theorem leerYValidarHuella_entre (hc : Propia c) :
    leerYValidarHuella.wp Propia (fun _ => Entre) c := by
  unfold leerYValidarHuella
  rw [Prog.wp_bind]
  refine (conScan_menor _).wp (fun _ h1 => h1.callada.propia hc) fun (st, salida) c1 h1 => ?_
  have hc1 : Propia c1 := h1.callada.propia hc
  cases st with
  | scanMatch =>
    have hleida : Callada c1 ⟨c1.st, c1.inputs, .huellaLeida (idLeido salida) :: c1.trace⟩ :=
      ⟨rfl, [.huellaLeida (idLeido salida)], rfl, List.forall_mem_singleton.mpr trivial⟩
    dsimp only
    rw [Prog.wp_bind, Prog.wp_emit, Prog.wp_bind, Prog.wp_get]
    refine Prog.wp_ite (fun _ => ?_) fun _ => (hleida.propia hc1).irA rfl
    have habrir : Prog.Keeps Callada (do
        Prog.modify ({ · with intentosFallidos := 0 })
        hacer .abrirCerradura
        irA .sensorCierre
        Prog.modify ({ · with escaneoActivo := false }) : MefProg Unit) :=
      .bind callada (modify_callada fun _ => rfl) fun _ => .bind callada (hacer_callada _) fun _ =>
        .bind callada (irA_callada _) fun _ => modify_callada fun _ => rfl
    exact ((habrir _).propia (hleida.propia hc1)).entre rfl
  | scanNoMatch =>
    dsimp only
    rw [Prog.wp_bind, Prog.wp_modify, Prog.wp_bind]
    have h2 : Propia ⟨{ c1.st with escaneoActivo := false }, c1.inputs, c1.trace⟩ := hc1
    exact marcarPresencia_menor.wp (fun _ h3 => h3.callada.propia h2) fun _ _ h3 =>
      (h3.callada.propia h2).irA rfl
  | scanNoFinger => exact Propia.irA (c := ⟨_, _, _⟩) hc1 rfl
  | scanError => exact Propia.irA (c := ⟨_, _, _⟩) hc1 rfl
  | scanIdle => exact hc1.irA rfl
  | scanInProgress => exact hc1.irA rfl

theorem validarTarjeta_entre (hc : Propia c) : validarTarjeta.wp Propia (fun _ => Entre) c := by
  unfold validarTarjeta
  rw [Prog.wp_bind, Prog.wp_get]
  cases obtenerTagPorRFID c.st.listaPins c.st.rfid with
  | some tag =>
    have habrir : Prog.Keeps Callada (do
        hacer .abrirCerradura
        irA .sensorCierre
        Prog.modify ({ · with rfid := [] }) : MefProg Unit) :=
      .bind callada (hacer_callada _) fun _ => .bind callada (irA_callada _) fun _ =>
        modify_callada fun _ => rfl
    exact ((habrir c).propia hc).entre rfl
  | none =>
    dsimp only
    rw [Prog.wp_bind, tecladoReset_wp]
    exact Limpio.wp esperarPin_limpio hc.reset

theorem validar_limpio : Limpio validar := by
  refine .bind .get fun s => .ite (fun _ => ?_) fun _ => ?_
  · exact .bind (limpio_of_callada (modify_callada fun _ => rfl)) fun _ =>
      .bind (limpio_of_callada (irA_callada _)) fun _ => limpio_of_callada (hacer_callada _)
  · exact .bind (limpio_of_callada contarFallo_callada) fun _ =>
      .bind (fun _ hc => hc.propia.reset) fun _ => esperarPin_limpio

theorem sensorCierre_limpio : Limpio sensorCierre :=
  .bind (limpio_of_menor read_menor) fun _ => .ite
    (fun _ => .bind (limpio_of_callada (hacer_callada _)) fun _ => volverAEsperar_limpio)
    fun _ => .pure _

theorem mefUpdate_entre (hc : Entre c) (hsin : SinDigitos c) :
    mefUpdate.wp Propia (fun _ => Entre) c := by
  have hvacia : c.st.estadoActual = .sensorCierre ∨ c.st.estadoActual = .reposo → Limpia c :=
    fun hst h => ⟨(hc.propia h).1, hsin hst⟩
  have hlimpia := hc.limpia
  unfold mefUpdate
  rw [Prog.wp_bind, Prog.wp_get]
  cases hst : c.st.estadoActual with
  | reposo =>
    have hdormir : Limpio (do entrarModoSleep; esperarPin) :=
      .bind (limpio_of_callada entrarModoSleep_callada) fun _ => esperarPin_limpio
    exact Limpio.wp hdormir (hvacia (.inr hst))
  | esperandoAccion => exact esperandoAccion_entre hst hc.propia
  | leerYValidarHuella => exact leerYValidarHuella_entre hc.propia
  | validarRfid => exact validarTarjeta_entre hc.propia
  | validar => exact Limpio.wp validar_limpio (hlimpia (by rw [hst]; rfl))
  | sensorCierre => exact Limpio.wp sensorCierre_limpio (hvacia (.inl hst))
  | bloqueado => exact hc
  | menuAdmin => exact Limpio.wp menuAdmin_limpio (hlimpia (by rw [hst]; rfl))
  | registrarRfid => exact Limpio.wp registrarRfid_limpio (hlimpia (by rw [hst]; rfl))
  | registrarHuella => exact Limpio.wp registrarHuella_limpio (hlimpia (by rw [hst]; rfl))

end Rondas

/-- Any number of rounds. -/
theorem principal_entre {inputs : List Sample} {n : ℕ} (hok : ∀ m < n, ∀ c,
    principal m ⟨Mef.inicial, inputs, []⟩ = (some (), c) → SinDigitos c) :
    (principal n).wp Propia (fun _ => Entre) ⟨Mef.inicial, inputs, []⟩ := by
  induction n with
  | zero =>
    refine Limpio.wp mefInit_limpio fun _ => ⟨fun despues pin antes heq => ?_, rfl⟩
    cases despues <;> cases heq
  | succ n ih =>
    show (principal n >>= fun _ => mefUpdate).wp _ _ _
    rw [Prog.wp_bind]
    have hn := ih fun m hm => hok m (hm.trans (Nat.lt_succ_self n))
    exact Prog.wp_mono (Prog.wp_returned hn) (fun _ h => h) fun _ c1 h1 =>
      mefUpdate_entre h1.2 (hok n (Nat.lt_succ_self n) c1 h1.1)

/-- As long as the buffer is empty when the bolt has been opened, when the machine
falls asleep and when a request times out, every PIN is of its prompt. -/
theorem pin_de_su_peticion (n : ℕ) (inputs : List Sample)
    (hok : ∀ m < n, ∀ c, principal m ⟨Mef.inicial, inputs, []⟩ = (some (), c) → SinDigitos c)
    (hsin : SinRestos (principal n ⟨Mef.inicial, inputs, []⟩).2.trace) :
    ∀ despues pin antes,
      (principal n ⟨Mef.inicial, inputs, []⟩).2.trace = despues ++ .pinLeido pin :: antes →
      pin.length = pinLength ∧ pin.reverse.Sublist (teclasDesde antes) := by
  have hfinal : Propia (principal n ⟨Mef.inicial, inputs, []⟩).2 :=
    Prog.wp_final (Prog.wp_mono (principal_entre hok) (fun _ h => h) fun _ _ h => h.propia)
  exact (hfinal hsin).1

/-- The keys 1 2, the card, and the keys 3 4 5. -/
def dosTarjetaTres : List Sample :=
  arranque (jsonPins [ana]) ++ teclas "12" ++ tarjetaAna ++
    List.replicate 6 (Sample.quiet 26600) ++ teclas "345" ++ List.replicate 6 (Sample.quiet 26600)

theorem eq_of_take_two {traza : List MefEv} {d e : MefEv} (h : traza.take 2 = [d, e]) :
    traza = [d] ++ e :: traza.drop 2 := by
  have htrace := List.take_append_drop 2 traza
  rw [h] at htrace
  exact htrace.symm

/-- The PIN 12345 is read, of which only 345 was pressed after the prompt. -/
theorem pin_de_dos_peticiones : ¬ ∀ n inputs despues pin antes,
    (principal n ⟨Mef.inicial, inputs, []⟩).2.trace = despues ++ .pinLeido pin :: antes →
      pin.length = pinLength ∧ pin.reverse.Sublist (teclasDesde antes) := by
  intro h
  obtain ⟨hpin, hteclas⟩ :
      (principal 18 ⟨Mef.inicial, dosTarjetaTres, []⟩).2.trace.take 2 =
        [.estado .validar, .pinLeido (ascii "12345")] ∧
      teclasDesde ((principal 18 ⟨Mef.inicial, dosTarjetaTres, []⟩).2.trace.drop 2) =
        ascii "543" := by decide +kernel
  have hsub := (h 18 dosTarjetaTres _ _ _ (eq_of_take_two hpin)).2
  rw [hteclas] at hsub
  exact absurd hsub.length_le (by decide)

/-- The keys 1 2 3 4 5 in one prompt. -/
def cincoTeclas : List Sample :=
  arranque (jsonPins [ana]) ++ teclas "12345" ++ List.replicate 6 (Sample.quiet 26600)

theorem pin_de_su_peticion_cincoTeclas : (ascii "12345").length = pinLength ∧
    (ascii "12345").reverse.Sublist
      (teclasDesde ((principal 14 ⟨Mef.inicial, cincoTeclas, []⟩).2.trace.drop 2)) := by
  obtain ⟨hpin, hvencida, hcierre⟩ :
      (principal 14 ⟨Mef.inicial, cincoTeclas, []⟩).2.trace.take 2 =
        [.estado .validar, .pinLeido (ascii "12345")] ∧
      ((principal 14 ⟨Mef.inicial, cincoTeclas, []⟩).2.trace.all fun
        | .vencida _ => false
        | _ => true) = true ∧
      ∀ m < 14, (principal m ⟨Mef.inicial, cincoTeclas, []⟩).2.st.estadoActual ≠ .sensorCierre ∧
        (principal m ⟨Mef.inicial, cincoTeclas, []⟩).2.st.estadoActual ≠ .reposo := by
    decide +kernel
  refine pin_de_su_peticion 14 cincoTeclas (fun m hm c hc hst => ?_) (fun p hp => ?_) _ _ _
    (eq_of_take_two hpin)
  · have hne := hcierre m hm
    rw [hc] at hne
    exact absurd hst (not_or.mpr hne)
  · exact absurd (List.all_eq_true.mp hvencida _ hp) Bool.false_ne_true

end Cerradura
