import TeensyI2C.Lib.ClientPrograms
import TeensyI2C.Loopback.TurnLog
import TeensyI2C.RegisterAccess

/-!
`I2CDevice` on one board and `I2CRegisterSlave` on the other, with the two drivers between them. To
a program that uses the device they are two arrays, as long as its transfers go through.
-/

namespace TeensyI2C
open ObjectMemory EventMachine ClientPrograms

/-! ### The caller's board -/

/-- The local that `I2CDevice` sends from, and the buffer of the caller of `read`. -/
inductive CallerObject where
  | bigBuffer
  | buffer
deriving DecidableEq, Inhabited, Repr

/-- What happens while the master's driver is called, and from there until its caller looks at it
again. -/
structure Interval where
  meanwhile : List (List MasterPort.BusEvent) := []
  steps : List (Master.Step CallerObject) := []
  events : List BusEvent := []
  millis : UInt32 := 0
deriving DecidableEq, Inhabited, Repr

abbrev DeviceLoopback (ν : Type) : Type :=
  Loopback CallerObject RegisterObject (I2CRegisterSlave ν)

abbrev DeviceLog (ν : Type) : Type :=
  Loopback.TurnLog CallerObject RegisterObject (I2CRegisterSlave ν)

/-- The two boards, and what is going to happen to them. -/
structure Boards (ν : Type) where
  drivers : DeviceLoopback ν
  future : List Interval
  clock : UInt32 := 0
  /-- The length of the caller's buffer. -/
  numBytes : Nat := 0
  turns : DeviceLog ν := []

namespace Boards
variable {ν : Type}

def memory (w : Boards ν) : Memory CallerObject UInt8 := w.drivers.master.memory

def setMemory (memory : Memory CallerObject UInt8) (w : Boards ν) : Boards ν :=
  { w with drivers.master.memory := memory }

def next (w : Boards ν) : Interval := w.future.headD default

def call (action : Master.Action CallerObject) (w : Boards ν) : Boards ν :=
  let turn : Turn CallerObject :=
    { call := { action := action, meanwhile := w.next.meanwhile }
      steps := w.next.steps
      events := w.next.events }
  { w with
    drivers := w.drivers.step turn
    future := w.future.tail
    clock := w.clock + w.next.millis
    turns := (w.drivers, turn) :: w.turns }

def extend (i : Interval) (turn : Turn CallerObject) : Turn CallerObject :=
  { turn with steps := turn.steps ++ i.steps, events := turn.events ++ i.events }

def elapse (w : Boards ν) : Boards ν :=
  { w with
    drivers := {
      master := run Master.step w.drivers.master w.next.steps
      slave := run Heard.step w.drivers.slave w.next.events }
    future := w.future.tail
    clock := w.clock + w.next.millis
    turns := match w.turns with
      | [] => []
      | (x, turn) :: older => (x, extend w.next turn) :: older }

end Boards

/-- The master's driver as an `I2CMaster`. -/
def loopbackMaster (ν : Type) : I2CMaster (Boards ν) where
  finished w := w.drivers.master.finished
  error w := w.drivers.master.error
  writeAsync address bytes sendStop w :=
    (w.setMemory (w.memory.storeAll ⟨.bigBuffer, 0⟩ bytes)).call
      (.writeAsync address ⟨.bigBuffer, 0⟩ bytes.length sendStop)
  readAsync address numBytes sendStop w :=
    { w with numBytes := numBytes }.call (.readAsync address ⟨.buffer, 0⟩ numBytes sendStop)
  millis w := w.clock
  elapse := Boards.elapse
  buffer w := w.memory.slice ⟨.buffer, 0⟩ w.numBytes
  clear numBytes w :=
    { w.setMemory (w.memory.storeAll ⟨.buffer, 0⟩ (List.replicate numBytes 0)) with
      numBytes := numBytes }
  buffer_clear numBytes w := by
    have zeros := w.memory.slice_storeAll_self ⟨.buffer, 0⟩ (List.replicate numBytes 0) numBytes
      (by simp)
    rw [List.length_replicate, List.drop_eq_nil_of_le (by simp), List.append_nil] at zeros
    exact zeros

namespace Boards
variable {ν : Type} {w w' : Boards ν} {x : DeviceLoopback ν} {turn : Turn CallerObject}
  {older : DeviceLog ν}

/-- The drivers are where the latest turn has brought them. -/
def InTurn (x : DeviceLoopback ν) (turn : Turn CallerObject)
    (older : DeviceLog ν) (w : Boards ν) : Prop :=
  w.turns = (x, turn) :: older ∧ w.drivers = x.step turn

theorem InTurn.elapse (inTurn : w.InTurn x turn older) :
    ∃ turn', turn'.call = turn.call ∧ w.elapse.InTurn x turn' older ∧
      w.elapse.numBytes = w.numBytes := by
  obtain ⟨turns, drivers⟩ := inTurn
  refine ⟨extend w.next turn, rfl, ⟨?_, ?_⟩, rfl⟩
  · rw [Boards.elapse, turns]
  · rw [Boards.elapse, drivers]
    simp only [Loopback.step, Turn.after, extend, run_append]

theorem InTurn.iterate (inTurn : w.InTurn x turn older) (n : Nat) :
    ∃ turn', turn'.call = turn.call ∧ (Boards.elapse^[n] w).InTurn x turn' older ∧
      (Boards.elapse^[n] w).numBytes = w.numBytes := by
  induction n generalizing w turn with
  | zero => exact ⟨turn, rfl, inTurn, rfl⟩
  | succ n ih =>
      obtain ⟨turn', call, elapsed, numBytes⟩ := inTurn.elapse
      obtain ⟨turn'', call', last, numBytes'⟩ := ih elapsed
      exact ⟨turn'', call'.trans call, last, numBytes'.trans numBytes⟩

theorem InTurn.finish {fuel : Nat} (inTurn : w.InTurn x turn older)
    (done : I2CDevice.finish (loopbackMaster ν) fuel w = some w') :
    ∃ turn', turn'.call = turn.call ∧ w'.InTurn x turn' older ∧ w'.numBytes = w.numBytes := by
  obtain ⟨seen, waited⟩ := I2CDevice.finish_eq_some.mp done
  cases seen with
  | true =>
      obtain ⟨n, -, rfl⟩ := Polling.seenAt_of_poll waited
      exact inTurn.iterate n
  | false =>
      obtain ⟨n, -, rfl⟩ := Polling.timedOutAt_of_poll waited
      exact inTurn.iterate n

end Boards

/-! ### The registers as a program sees them -/

/-- What a call returns to a program that stops at the first error. -/
def DeviceCall.Result : DeviceCall → Type
  | .write _ _ _ _ => Unit
  | .read _ _ _ => List UInt8

namespace Boards
variable {ν : Type} {g₀ g : Registers} {covers : BusAddress → Bool} {fuel : Nat} {d : I2CDevice}

/-- What the slave has heard has made `g` of the registers `g₀`. -/
abbrev HasRegisters (g₀ : Registers) (covers : BusAddress → Bool) (g : Registers)
    (x : DeviceLoopback ν) : Prop :=
  x.ComesTo Registers.stepDriver Registers.wire
    (fun g s => g.mutableBytes.length ≤ 255 ∧ Slave.Follows g s) g₀ covers g

/-- Between two calls the slave waits for a register number. -/
structure Shows (g₀ : Registers) (covers : BusAddress → Bool) (w : Boards ν) (g : Registers) :
    Prop where
  has : HasRegisters g₀ covers g w.drivers
  waiting : g.selected = none

variable {w w' : Boards ν} {reg : UInt8} {sendStop : Bool}

theorem InTurn.latest {x : DeviceLoopback ν} {turn : Turn CallerObject} {older : DeviceLog ν}
    (inTurn : w'.InTurn x turn older) (went : w'.turns.WentThrough) :
    x.Fulfils turn ∧ older.WentThrough := by
  rw [inTurn.1] at went
  exact went.latest

end Boards

end TeensyI2C
