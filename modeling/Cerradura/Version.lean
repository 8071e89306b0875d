import Cerradura.Server
import Mathlib.Order.BoundedOrder.Basic
import Mathlib.Order.Lattice
import Mathlib.Order.Nat

/-!
# Does the lock notice every change?

A request handler commits its change, reads the clock and stores the reading in
`LAST_UPDATE_TIME`; handlers run in concurrent threads. When it wakes up, the
lock reads `LAST_UPDATE_TIME`, and if that is later than the version it knows it
downloads the table and remembers what it read.

Results:
1. `no_change_missed`: while no handler stores an old reading over a newer one
   that the lock already knows, a change the lock lacks keeps
   `LAST_UPDATE_TIME` ahead of the version it knows.
2. `change_missed`: a slow handler stores its reading last, and the next wake-up
   downloads nothing.
-/

namespace Cerradura

variable {T : Type}

/-! ## Definitions -/

/-- Where the lock is in `entrarModoSleep`. -/
inductive WakeUp (T : Type)
  | idle
  | versionRead (versionServer : T) -- later than the version known: about to download
  | downloaded (versionServer : T) -- about to remember the version
deriving DecidableEq

/-- The server and the lock. -/
structure World (T : Type) where
  db : Db
  commits : ℕ -- changes committed so far
  clock : T
  lastUpdateTime : T
  committed : ℕ -- handlers that have not read the clock yet
  readings : List T -- handlers that have, and have not stored it yet
  wakeUp : WakeUp T
  ultimaVersionConocida : T
  listaPins : Option Db -- the table last downloaded
  included : ℕ -- the changes in it

/-- The version the lock has, or is about to remember for what it has. -/
def World.version (w : World T) : T :=
  match w.wakeUp with
  | .downloaded v => v
  | _ => w.ultimaVersionConocida

theorem version_of_versionRead {w : World T} {v : T} (h : w.wakeUp = .versionRead v) :
    w.version = w.ultimaVersionConocida := by
  unfold World.version
  rw [h]

theorem version_of_idle {w : World T} (h : w.wakeUp = .idle) :
    w.version = w.ultimaVersionConocida := by
  unfold World.version
  rw [h]

theorem version_of_downloaded {w : World T} {v : T} (h : w.wakeUp = .downloaded v) :
    w.version = v := by
  unfold World.version
  rw [h]

variable [LinearOrder T]

/-- The server has started at `start`. The lock has downloaded nothing, and the
version it knows is 0.0. -/
def World.init [OrderBot T] (start : T) (db : Db) : World T :=
  { db := db, commits := 0, clock := start, lastUpdateTime := start, committed := 0, readings := [],
    wakeUp := .idle, ultimaVersionConocida := ⊥, listaPins := none, included := 0 }

/-- One step of a handler thread or of the lock. -/
inductive World.Step : World T → World T → Prop
  | commit (w : World T) (req : Request) : (handle req w.db).cambio = true →
      Step w { w with db := (handle req w.db).db, commits := w.commits + 1,
                      committed := w.committed + 1 }
  | readClock (w : World T) (t : T) (n : ℕ) : w.committed = n + 1 → w.clock < t →
      Step w { w with committed := n, clock := t, readings := t :: w.readings }
  | readVersion (w : World T) : w.wakeUp = .idle → w.ultimaVersionConocida < w.lastUpdateTime →
      Step w { w with wakeUp := .versionRead w.lastUpdateTime }
  | download (w : World T) (v : T) : w.wakeUp = .versionRead v →
      Step w { w with wakeUp := .downloaded v, listaPins := some w.db, included := w.commits }
  | downloadFails (w : World T) (v : T) : w.wakeUp = .versionRead v →
      Step w { w with wakeUp := .idle }
  | remember (w : World T) (v : T) : w.wakeUp = .downloaded v →
      Step w { w with wakeUp := .idle, ultimaVersionConocida := v }

/-- `LAST_UPDATE_TIME = t`, in the handler that read `t`. -/
def World.store (w : World T) (t : T) : World T :=
  { w with readings := w.readings.erase t, lastUpdateTime := t }

/-- The runs in which every `LAST_UPDATE_TIME = t` satisfies `ok`. -/
inductive World.Run [OrderBot T] (ok : World T → T → Prop) (start : T) (db : Db) : World T → Prop
  | init : World.Run ok start db (World.init start db)
  | step {w w' : World T} : World.Run ok start db w → World.Step w w' → World.Run ok start db w'
  | store {w : World T} {t : T} : World.Run ok start db w → t ∈ w.readings → ok w t →
      World.Run ok start db (w.store t)

/-- The reading does not replace a newer one, or is itself newer than the
version the lock has. -/
def World.Ordered (w : World T) (t : T) : Prop := w.lastUpdateTime ≤ t ∨ w.version < t

/-- No handler is between its commit and its assignment. -/
def World.Quiet (w : World T) : Prop := w.committed = 0 ∧ w.readings = []

/-- The lock will see that there is something new: now, or once a handler has
stored its reading. -/
def World.Noticed (w : World T) : Prop :=
  w.version < w.lastUpdateTime ∨ 0 < w.committed ∨ ∃ t ∈ w.readings, w.version < t

/-! ## The invariant -/

structure World.Inv (w : World T) : Prop where
  last_le : w.lastUpdateTime ≤ w.clock
  readings_le : ∀ t ∈ w.readings, t ≤ w.clock
  version_le : w.version ≤ w.clock
  ultima_le : w.ultimaVersionConocida ≤ w.version
  read_le : ∀ v, w.wakeUp = .versionRead v → w.ultimaVersionConocida ≤ v ∧ v ≤ w.clock
  noticed : w.included < w.commits → w.Noticed

theorem init_inv [OrderBot T] (start : T) (db : Db) : (World.init start db).Inv where
  last_le := le_refl _
  readings_le _ ht := nomatch ht
  version_le := bot_le
  ultima_le := le_refl _
  read_le _ h := nomatch h
  noticed h := absurd h (Nat.lt_irrefl 0)

theorem World.Inv.step {w w' : World T} (hinv : w.Inv) (h : World.Step w w') : w'.Inv := by
  obtain ⟨hlast, hreadings, hversion, hultima, hread, hnoticed⟩ := hinv
  cases h with
  | commit req hcambio =>
    exact ⟨hlast, hreadings, hversion, hultima, hread, fun _ => .inr (.inl (Nat.succ_pos _))⟩
  | readClock t n hn ht =>
    -- the new reading is later than everything read before
    refine ⟨hlast.trans ht.le, ?_, hversion.trans ht.le, hultima, ?_, ?_⟩
    · intro u hu
      rcases List.mem_cons.mp hu with rfl | hu
      · exact le_refl _
      · exact (hreadings u hu).trans ht.le
    · exact fun v hv => ⟨(hread v hv).1, (hread v hv).2.trans ht.le⟩
    · exact fun _ => .inr (.inr ⟨t, List.mem_cons_self, hversion.trans_lt ht⟩)
  | readVersion hidle hnew =>
    have hsame := version_of_idle hidle
    refine ⟨hlast, hreadings, ?_, le_refl _, ?_, ?_⟩
    · exact hsame ▸ hversion
    · intro v hv
      cases hv
      exact ⟨hnew.le, hlast⟩
    · exact fun _ => .inl hnew
  | download v hv =>
    exact ⟨hlast, hreadings, (hread v hv).2, (hread v hv).1, (fun _ hu => nomatch hu),
      fun hlack => absurd hlack (Nat.lt_irrefl _)⟩
  | downloadFails v hv =>
    have hsame := version_of_versionRead hv
    refine ⟨hlast, hreadings, ?_, le_refl _, (fun _ hu => nomatch hu), fun hlack => ?_⟩
    · exact hsame ▸ hversion
    · have hn := hnoticed hlack
      unfold World.Noticed at hn
      rw [hsame] at hn
      exact hn
  | remember v hv =>
    have hsame := version_of_downloaded hv
    refine ⟨hlast, hreadings, ?_, le_refl _, (fun _ hu => nomatch hu), fun hlack => ?_⟩
    · exact hsame ▸ hversion
    · have hn := hnoticed hlack
      unfold World.Noticed at hn
      rw [hsame] at hn
      exact hn

theorem World.Inv.store {w : World T} {t : T} (hinv : w.Inv) (ht : t ∈ w.readings)
    (hok : w.Ordered t) : (w.store t).Inv := by
  obtain ⟨hlast, hreadings, hversion, hultima, hread, hnoticed⟩ := hinv
  refine ⟨hreadings t ht, fun u hu => hreadings u (List.mem_of_mem_erase hu), hversion, hultima,
    hread, fun hlack => ?_⟩
  have hnewer : w.version < t → (w.store t).Noticed := fun h => .inl h
  rcases hok with hnotold | hnew
  · rcases hnoticed hlack with hahead | hpending | ⟨u, hu, hlater⟩
    · exact hnewer (hahead.trans_le hnotold)
    · exact .inr (.inl hpending)
    · by_cases hut : u = t
      · exact hnewer (hut ▸ hlater)
      · exact .inr (.inr ⟨u, (List.mem_erase_of_ne hut).mpr hu, hlater⟩)
  · exact hnewer hnew

/-- In every run whose assignments are ordered: when no handler is under way and
the table the lock downloaded last lacks a change, `LAST_UPDATE_TIME` is later
than the version the lock knows. -/
theorem no_change_missed [OrderBot T] {start : T} {db : Db} {w : World T}
    (h : World.Run World.Ordered start db w) (hquiet : w.Quiet) (hlack : w.included < w.commits) :
    w.ultimaVersionConocida < w.lastUpdateTime := by
  have hinv : w.Inv := by
    clear hquiet hlack
    induction h with
    | init => exact init_inv start db
    | step _ hstep ih => exact ih.step hstep
    | store _ ht hok ih => exact ih.store ht hok
  rcases hinv.noticed hlack with hahead | hpending | ⟨t, ht, -⟩
  · exact hinv.ultima_le.trans_lt hahead
  · rw [hquiet.1] at hpending
    exact absurd hpending (Nat.lt_irrefl 0)
  · rw [hquiet.2] at ht
    cases ht

/-! ## Concrete runs -/

/-- A change, seen by the lock and followed by another one, each stored at once. -/
theorem no_change_missed_prompt : ∃ w : World ℕ,
    World.Run World.Ordered 1 initDb w ∧ w.included < w.commits ∧
      w.ultimaVersionConocida < w.lastUpdateTime := by
  have h0 : World.Run World.Ordered 1 initDb (World.init (1 : ℕ) initDb) := .init
  have h1 := h0.step (.commit _ .clearAllHuellas rfl)
  have h2 := h1.step (.readClock _ 2 0 rfl (by decide))
  have h3 := h2.store (t := 2) (by decide) (.inl (by decide))
  have h4 := h3.step (.readVersion _ rfl (by decide))
  have h5 := h4.step (.download _ 2 rfl)
  have h6 := h5.step (.remember _ 2 rfl)
  have h7 := h6.step (.commit _ .clearAllHuellas rfl)
  have h8 := h7.step (.readClock _ 3 0 rfl (by decide))
  have h9 := h8.store (t := 3) (by decide) (.inl (by decide))
  exact ⟨_, h9, by decide, no_change_missed h9 ⟨rfl, rfl⟩ (by decide)⟩

/-- Three handlers. The first reads the clock at 2 and stores its reading after
the third, which the lock has not seen: the lock knows version 3, and
`LAST_UPDATE_TIME` goes back to 2. -/
theorem change_missed : ¬ ∀ (start : ℕ) (db : Db) (w : World ℕ),
    World.Run (fun _ _ => True) start db w → w.Quiet → w.included < w.commits →
      w.ultimaVersionConocida < w.lastUpdateTime := by
  intro h
  have h0 : World.Run (fun _ _ => True) 1 initDb (World.init (1 : ℕ) initDb) := .init
  have h1 := h0.step (.commit _ .clearAllHuellas rfl)
  have h2 := h1.step (.readClock _ 2 0 rfl (by decide))
  have h3 := h2.step (.commit _ .clearAllHuellas rfl)
  have h4 := h3.step (.readClock _ 3 0 rfl (by decide))
  have h5 := h4.store (t := 3) (by decide) trivial
  have h6 := h5.step (.readVersion _ rfl (by decide))
  have h7 := h6.step (.download _ 3 rfl)
  have h8 := h7.step (.remember _ 3 rfl)
  have h9 := h8.step (.commit _ .clearAllHuellas rfl)
  have h10 := h9.step (.readClock _ 4 0 rfl (by decide))
  have h11 := h10.store (t := 4) (by decide) trivial
  have h12 := h11.store (t := 2) (by decide) trivial
  exact absurd (h 1 initDb _ h12 ⟨rfl, by decide⟩ (by decide)) (by decide)

end Cerradura
