import Cerradura.Mef

/-!
# Minor steps

The clock, the sensor, the serial line and the card reader touch neither the
keypad nor the table nor what the machine decides with. `Menor` says so once for
every program made of them, and each invariant takes it from there.
-/

namespace Cerradura

open Reactive

/-- An event of the sensor, the serial line or the card reader. -/
def MefEv.Menor : MefEv → Prop
  | .sensor _ | .esp _ | .uidLeido _ => True
  | _ => False

/-- What decides is the same, and the new events are minor. -/
structure Menor (c c' : Config Mef Sample MefEv) : Prop where
  estado : c'.st.estadoActual = c.st.estadoActual
  fallidos : c'.st.intentosFallidos = c.st.intentosFallidos
  lista : c'.st.listaPins = c.st.listaPins
  teclado : c'.st.teclado = c.st.teclado
  eventos : ∃ evs, c'.trace = evs ++ c.trace ∧ ∀ e ∈ evs, e.Menor

theorem menor : Prog.Composable Menor where
  refl c := ⟨rfl, rfl, rfl, rfl, [], rfl, fun _ he => nomatch he⟩
  trans := by
    rintro c c' c'' h h'
    refine ⟨h'.estado.trans h.estado, h'.fallidos.trans h.fallidos, h'.lista.trans h.lista,
      h'.teclado.trans h.teclado, ?_⟩
    obtain ⟨evs, htrace, hevs⟩ := h.eventos
    obtain ⟨evs', htrace', hevs'⟩ := h'.eventos
    refine ⟨evs' ++ evs, by rw [htrace', htrace, List.append_assoc], fun e he => ?_⟩
    rcases List.mem_append.mp he with he | he
    · exact hevs' e he
    · exact hevs e he

section Pasos

variable {α : Type}

theorem read_menor : Prog.Keeps Menor (Prog.read : MefProg Sample) :=
  .read (fun _ _ _ _ => ⟨rfl, rfl, rfl, rfl, [], rfl, fun _ he => nomatch he⟩) menor

theorem tickRead_menor : Prog.Keeps Menor (tickRead : MefProg ℕ) :=
  .bind menor read_menor fun m => .pure menor m.tick

theorem modify_menor {f : Mef → Mef} (hf : ∀ s, (f s).estadoActual = s.estadoActual ∧
    (f s).intentosFallidos = s.intentosFallidos ∧ (f s).listaPins = s.listaPins ∧
      (f s).teclado = s.teclado) : Prog.Keeps Menor (Prog.modify f : MefProg Unit) :=
  .modify fun c => ⟨(hf c.st).1, (hf c.st).2.1, (hf c.st).2.2.1, (hf c.st).2.2.2, [], rfl,
    fun _ he => nomatch he⟩

theorem menor_map {δ : Type} (ev : δ → MefEv) (h : ∀ d, (ev d).Menor) (trace : List δ) :
    ∀ e ∈ trace.map ev, e.Menor := by
  intro e he
  obtain ⟨d, -, rfl⟩ := List.mem_map.mp he
  exact h d

theorem conScan_menor (m : Prog Scan Sample SensorEv α) : Prog.Keeps Menor (conScan m) :=
  .zoom fun _ _ _ trace =>
    ⟨rfl, rfl, rfl, rfl, _, rfl, menor_map MefEv.sensor (fun _ => trivial) trace⟩

theorem conSensor_menor (m : Prog Unit Sample SensorEv α) : Prog.Keeps Menor (conSensor m) :=
  .zoom fun _ _ _ trace =>
    ⟨rfl, rfl, rfl, rfl, _, rfl, menor_map MefEv.sensor (fun _ => trivial) trace⟩

theorem conEsp_menor (m : Prog Bool Sample EspEv α) : Prog.Keeps Menor (conEsp m) :=
  .zoom fun _ _ _ trace =>
    ⟨rfl, rfl, rfl, rfl, _, rfl, menor_map MefEv.esp (fun _ => trivial) trace⟩

theorem marcarPresencia_menor : Prog.Keeps Menor marcarPresencia :=
  .bind menor tickRead_menor fun _ => modify_menor fun _ => ⟨rfl, rfl, rfl, rfl⟩

theorem leerRfid_menor : Prog.Keeps Menor leerRfid := by
  refine .bind menor (.bind menor read_menor fun _ => .pure menor _) fun uid => ?_
  cases uid with
  | none => exact .pure menor _
  | some uid =>
    have hemit : Prog.Keeps Menor (Prog.emit (.uidLeido uid) : MefProg Unit) :=
      .emit fun _ => ⟨rfl, rfl, rfl, rfl, [.uidLeido uid], rfl,
        List.forall_mem_singleton.mpr trivial⟩
    exact .bind menor hemit fun _ =>
      .bind menor (modify_menor fun _ => ⟨rfl, rfl, rfl, rfl⟩) fun _ => .pure menor _

theorem esperarInterrupcion_menor : Prog.Keeps Menor esperarInterrupcion := by
  refine .iter menor (fun _ => .bind menor read_menor fun m => ?_) ()
  exact .ite (fun _ => .bind menor (modify_menor fun _ => ⟨rfl, rfl, rfl, rfl⟩)
    fun _ => .pure menor _) fun _ => .pure menor _

theorem obtenerVersion_menor : Prog.Keeps Menor obtenerVersion :=
  .bind menor (conEsp_menor _) fun _ => .ite
    (fun _ => .bind menor (conEsp_menor _) fun _ => .ite (fun _ => conEsp_menor _)
      fun _ => .pure menor _)
    fun _ => .pure menor _

theorem programarEscaneo_menor : Prog.Keeps Menor programarEscaneo :=
  .bind menor (.get menor) fun _ => .ite
    (fun _ => .bind menor tickRead_menor fun _ => .ite
      (fun _ => .bind menor tickRead_menor fun _ =>
        modify_menor fun _ => ⟨rfl, rfl, rfl, rfl⟩)
      fun _ => .pure menor _)
    fun _ => .pure menor _

theorem atenderPresencia_menor : Prog.Keeps Menor atenderPresencia :=
  .bind menor (.get menor) fun _ => .ite
    (fun _ => .bind menor (modify_menor fun _ => ⟨rfl, rfl, rfl, rfl⟩)
      fun _ => marcarPresencia_menor)
    fun _ => .pure menor _

end Pasos

end Cerradura
