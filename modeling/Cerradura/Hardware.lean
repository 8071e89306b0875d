import Cerradura.Reactive
import Cerradura.Uptime

/-!
# What the firmware reads from the hardware

Each time the firmware asks the hardware for something (the tick counter, a
byte of a UART, the keypad, the card reader, a pin) it takes the next sample
and looks at the part it asked for. Lists of samples therefore cover every
interleaving of key presses, bytes, cards and clock advances.
-/

namespace Cerradura

open Reactive

/-- The hardware at one instant. -/
structure Sample where
  tick : ℕ
  -- keypadRead: the index of the key that is down
  tecla : Option (Fin 12)
  -- uartReadByte on the UART of the fingerprint sensor and on that of the ESP
  sensorRx : Option UInt8
  espRx : Option UInt8
  -- the four UID bytes of a card that answers the REQA and the anticollision
  uid : Option (Vector UInt8 4)
  -- an edge of the presence sensor
  presencia : Bool
  sensorHall : Bool
  -- whether a search that runs past the end of a buffer comes upon a match
  basura : Bool
deriving DecidableEq

/-- Nothing happens at `tick`. -/
def Sample.quiet (tick : ℕ) : Sample :=
  { tick := tick, tecla := none, sensorRx := none, espRx := none, uid := none, presencia := false,
    sensorHall := false, basura := false }

variable {σ ε : Type}

def tickRead : Prog σ Sample ε ℕ := do
  let m ← Prog.read
  pure m.tick

/-- The traffic on the line of the fingerprint sensor. -/
inductive SensorEv
  | tx (frame : List UInt8)
  | rx (b : UInt8)
deriving DecidableEq, Repr

/-- `uartReadByte(AS608_UART, &b)` -/
def sensorReadByte : Prog σ Sample SensorEv (Option UInt8) := do
  let m ← Prog.read
  match m.sensorRx with
  | some b =>
    Prog.emit (.rx b)
    pure (some b)
  | none => pure none

/-- The traffic on the line of the ESP. -/
inductive EspEv
  | tx (text : List UInt8)
  | rx (b : UInt8)
deriving DecidableEq, Repr

/-- `uartReadByte(ESP_UART, &byte)` -/
def espReadByte : Prog σ Sample EspEv (Option UInt8) := do
  let m ← Prog.read
  match m.espRx with
  | some b =>
    Prog.emit (.rx b)
    pure (some b)
  | none => pure none

theorem wp_tickRead {halt : Config σ Sample ε → Prop} {post : ℕ → Config σ Sample ε → Prop}
    {c : Config σ Sample ε} (hhalt : c.inputs = [] → halt c)
    (hpost : ∀ m rest, c.inputs = m :: rest → post m.tick { c with inputs := rest }) :
    tickRead.wp halt post c := by
  unfold tickRead
  rw [Prog.wp_bind]
  exact Prog.wp_read hhalt hpost

theorem wp_tickRead_cons {halt : Config σ Sample ε → Prop} {post : ℕ → Config σ Sample ε → Prop}
    {c : Config σ Sample ε} {m : Sample} {rest : List Sample} (h : c.inputs = m :: rest)
    (hpost : post m.tick { c with inputs := rest }) : tickRead.wp halt post c := by
  unfold tickRead
  rw [Prog.wp_bind]
  exact Prog.wp_read_cons h hpost

theorem wp_espReadByte {halt : Config σ Sample EspEv → Prop}
    {post : Option UInt8 → Config σ Sample EspEv → Prop} {c : Config σ Sample EspEv}
    (hhalt : c.inputs = [] → halt c)
    (hnone : ∀ m rest, c.inputs = m :: rest → m.espRx = none →
      post none { c with inputs := rest })
    (hsome : ∀ m rest b, c.inputs = m :: rest → m.espRx = some b →
      post (some b) { c with inputs := rest, trace := .rx b :: c.trace }) :
    espReadByte.wp halt post c := by
  unfold espReadByte
  rw [Prog.wp_bind]
  refine Prog.wp_read hhalt fun m rest hm => ?_
  cases hb : m.espRx with
  | none => exact hnone m rest hm hb
  | some b => exact hsome m rest b hm hb

theorem wp_sensorReadByte {halt : Config σ Sample SensorEv → Prop}
    {post : Option UInt8 → Config σ Sample SensorEv → Prop} {c : Config σ Sample SensorEv}
    (hhalt : c.inputs = [] → halt c)
    (hnone : ∀ m rest, c.inputs = m :: rest → post none { c with inputs := rest })
    (hsome : ∀ m rest b, c.inputs = m :: rest →
      post (some b) { c with inputs := rest, trace := .rx b :: c.trace }) :
    sensorReadByte.wp halt post c := by
  unfold sensorReadByte
  rw [Prog.wp_bind]
  refine Prog.wp_read hhalt fun m rest hm => ?_
  cases m.sensorRx with
  | none => exact hnone m rest hm
  | some b => exact hsome m rest b hm

end Cerradura
