import TeensyI2C.Lib.Interference

/-!
The master half of an LPI2C port: its registers and FIFOs as the driver sees them, and the events
by which the hardware and the slave move it on. The events are what the reference manual allows;
none of them has to happen.
-/

namespace TeensyI2C
open Interference

/-- A word written to MTDR. -/
inductive Command where
  /-- A (repeated) START and the address byte. -/
  | start (data : UInt8)
  | transmit (data : UInt8)
  /-- Receive one byte more than `data`. -/
  | receive (data : UInt8)
  | stop
deriving DecidableEq, Repr

def Command.payload : Command → List UInt8
  | .transmit data => [data]
  | .start _ | .receive _ | .stop => []

/-- The bits of MSR that the driver tests. -/
structure Msr where
  tdf : Bool
  rdf : Bool
  sdf : Bool
  ndf : Bool
  alf : Bool
  fef : Bool
  pltf : Bool
  mbf : Bool
deriving DecidableEq, Repr

/-- One of the flags that end a transaction with an error. -/
def Msr.failed (msr : Msr) : Bool :=
  msr.ndf || msr.alf || msr.fef || msr.pltf

structure Mier where
  tdie : Bool := false
  rdie : Bool := false
  sdie : Bool := false
  ndie : Bool := false
  alie : Bool := false
  feie : Bool := false
  pltie : Bool := false
deriving DecidableEq, Repr

structure I2CMasterConfiguration where
  prescale : UInt8 := 0
  clkHi : UInt8 := 0
  clkLo : UInt8 := 0
  dataVd : UInt8 := 0
  setHold : UInt8 := 0
  filtSda : UInt8 := 0
  filtScl : UInt8 := 0
  busIdle : UInt8 := 0
  pinLow : UInt16 := 0
deriving DecidableEq, Repr

structure MasterPort where
  txFifo : List Command := []
  rxFifo : List UInt8 := []
  /-- The command that has left the transmit FIFO and is not done yet. -/
  executing : Option Command := none
  mbf : Bool := false
  sdf : Bool := false
  ndf : Bool := false
  alf : Bool := false
  fef : Bool := false
  pltf : Bool := false
  mier : Mier := {}
  mcrMen : Bool := false
  timings : I2CMasterConfiguration := {}
  /-- `NVIC_ENABLE_IRQ`. -/
  irqEnabled : Bool := false
  /-- A call has begun whose START has not been executed yet. -/
  awaitingStart : Bool := false
  /-- What the slave has acknowledged since the last START was executed. -/
  acknowledged : List Command := []
  /-- A STOP has been generated since the START of the last call was executed. -/
  stopSeen : Bool := false
  /-- Everything that has been written to MTDR. -/
  written : List Command := []
  /-- The data bytes that have crossed the bus on behalf of the last call. -/
  crossed : List UInt8 := []
  /-- The last call has written to a transmit FIFO that held four commands already. -/
  overflowed : Bool := false
deriving DecidableEq, Repr

namespace MasterPort

/-- The status register. Both watermarks are 0, so TDF says that the transmit FIFO is empty and
RDF that the receive FIFO is not. -/
def msr (p : MasterPort) : Msr where
  tdf := p.txFifo.isEmpty
  rdf := !p.rxFifo.isEmpty
  sdf := p.sdf
  ndf := p.ndf
  alf := p.alf
  fef := p.fef
  pltf := p.pltf
  mbf := p.mbf

def txFifoCount (p : MasterPort) : Nat := p.txFifo.length % 8

def rxFifoCount (p : MasterPort) : Nat := p.rxFifo.length % 8

/-! ### Register writes -/

def send (command : Command) (p : MasterPort) : MasterPort :=
  { p with
    txFifo := p.txFifo ++ [command]
    written := p.written ++ [command]
    overflowed := p.overflowed || 4 ≤ p.txFifo.length }

def resetTxFifo (p : MasterPort) : MasterPort := { p with txFifo := [] }

def resetRxFifo (p : MasterPort) : MasterPort := { p with rxFifo := [] }

/-- The read of MRDR takes a byte out of the receive FIFO. -/
def takeReceived (p : MasterPort) : MasterPort := { p with rxFifo := p.rxFifo.tail }

def setTdie (enable : Bool) (p : MasterPort) : MasterPort :=
  { p with mier := { p.mier with tdie := enable } }

def setMen (enable : Bool) (p : MasterPort) : MasterPort := { p with mcrMen := enable }

def clearNdf (p : MasterPort) : MasterPort := { p with ndf := false }

def clearAlf (p : MasterPort) : MasterPort := { p with alf := false }

def clearFef (p : MasterPort) : MasterPort := { p with fef := false }

def clearPltf (p : MasterPort) : MasterPort := { p with pltf := false }

def clearSdf (p : MasterPort) : MasterPort := { p with sdf := false }

/-- The flags of MSR are cleared by writing ones. -/
def clearFlags (msr : Msr) (p : MasterPort) : MasterPort :=
  { p with
    sdf := p.sdf && !msr.sdf
    ndf := p.ndf && !msr.ndf
    alf := p.alf && !msr.alf
    fef := p.fef && !msr.fef
    pltf := p.pltf && !msr.pltf }

/-- A call has been accepted. The hardware knows nothing of it yet. -/
def expectStart (p : MasterPort) : MasterPort :=
  { p with awaitingStart := true, stopSeen := false, crossed := [], overflowed := false }

/-! ### What the hardware and the slave do -/

inductive BusEvent where
  /-- The hardware takes the next command out of the transmit FIFO. -/
  | fetch
  /-- The slave acknowledges the byte that the master has sent. -/
  | ack
  | nak
  /-- A byte has been received. -/
  | receiveByte (data : UInt8)
  /-- The hardware begins a STOP of its own. -/
  | autoStop
  | stopDone
  | arbitrationLost
  | fifoError
  | pinLowTimeout
deriving DecidableEq, Repr

/-- A START waits until the error flags have been cleared. Off the bus, any other command leaves
the FIFO without being executed, and a data command is an error. -/
def fetch (p : MasterPort) : MasterPort :=
  match p.executing, p.txFifo with
  | none, .start data :: rest =>
      if p.msr.failed then p
      else { p with
        txFifo := rest
        executing := some (.start data)
        mbf := true
        awaitingStart := false
        acknowledged := [] }
  | none, command :: rest =>
      if p.mbf then { p with txFifo := rest, executing := some command }
      else { p with txFifo := rest, fef := p.fef || command != .stop }
  | _, _ => p

/-- The byte that waits for the slave's answer. -/
def offered (p : MasterPort) : Option Command :=
  match p.executing with
  | some (.start data) => some (.start data)
  | some (.transmit data) => some (.transmit data)
  | _ => none

/-- A data byte that crosses the bus before the call's START is not the call's. -/
def crossing (p : MasterPort) (data : List UInt8) : List UInt8 :=
  if p.awaitingStart then p.crossed else p.crossed ++ data

def ack (p : MasterPort) : MasterPort :=
  match p.offered with
  | some command =>
      { p with
        executing := none
        acknowledged := p.acknowledged ++ [command]
        crossed := p.crossing command.payload }
  | none => p

def nak (p : MasterPort) : MasterPort :=
  match p.offered with
  | some command =>
      { p with executing := none, ndf := true, crossed := p.crossing command.payload }
  | none => p

def receiveByte (data : UInt8) (p : MasterPort) : MasterPort :=
  match p.executing with
  | some (.receive left) =>
      if p.rxFifo.length < 4 then
        { p with
          rxFifo := p.rxFifo ++ [data]
          executing := if left = 0 then none else some (.receive (left - 1))
          crossed := p.crossing [data] }
      else p
  | _ => p

/-- After a NAK with commands left over, after a FIFO error, and when it has been disabled and has
nothing left to do, the master ends the transfer without being told to. -/
def stopsByItself (p : MasterPort) : Bool :=
  p.mbf && p.executing.isNone &&
    (p.ndf && !p.txFifo.isEmpty || p.fef || !p.mcrMen && p.txFifo.isEmpty)

def autoStop (p : MasterPort) : MasterPort :=
  if p.stopsByItself then { p with executing := some .stop } else p

/-- A STOP that was under way before the call's START is not the call's. -/
def stopDone (p : MasterPort) : MasterPort :=
  if p.executing = some .stop then
    { p with
      executing := none
      mbf := false
      sdf := true
      stopSeen := p.stopSeen || !p.awaitingStart }
  else p

/-- The master lets go of the bus at once. -/
def arbitrationLost (p : MasterPort) : MasterPort :=
  { p with executing := none, mbf := false, alf := true }

def apply (p : MasterPort) : BusEvent → MasterPort
  | .fetch => p.fetch
  | .ack => p.ack
  | .nak => p.nak
  | .receiveByte data => p.receiveByte data
  | .autoStop => p.autoStop
  | .stopDone => p.stopDone
  | .arbitrationLost => p.arbitrationLost
  | .fifoError => { p with fef := true }
  | .pinLowTimeout => { p with pltf := true }

/-! ### What the hardware does not undo -/

attribute [local grind] apply fetch ack nak offered receiveByte autoStop stopDone arbitrationLost
  msr Msr.failed

theorem toNat_pred {left : UInt8} (more : left ≠ 0) : (left - 1).toNat + 1 = left.toNat := by
  have positive : 0 < left.toNat := Nat.pos_of_ne_zero fun zero => more (UInt8.toNat_inj.mp zero)
  have below : 1 ≤ left := UInt8.le_iff_toNat_le.mpr positive
  rw [UInt8.toNat_sub_of_le _ _ below]
  exact Nat.sub_add_cancel positive

@[local grind →] theorem mbf_of_stopsByItself {p : MasterPort} (h : p.stopsByItself = true) :
    p.mbf = true := by
  unfold stopsByItself at h
  rw [Bool.and_eq_true, Bool.and_eq_true] at h
  exact h.1.1

theorem stable_txFifo (n : Nat) : Stable apply fun p => p.txFifo.length ≤ n := by
  intro p e bound
  cases e <;> grind

theorem stable_rxFifo (n : Nat) : Stable apply fun p => n ≤ p.rxFifo.length := by
  intro p e bound
  cases e <;> grind

theorem stable_received : Stable apply fun p => p.rxFifo ≠ [] := fun p e some =>
  List.length_pos_iff.mp (stable_rxFifo 1 p e (List.length_pos_iff.mpr some))

theorem received_take {p : MasterPort} {stored : List UInt8}
    (received : p.crossed = stored ++ p.rxFifo) (some : p.rxFifo ≠ []) :
    p.takeReceived.crossed = stored ++ [p.rxFifo.headD 0] ++ p.takeReceived.rxFifo := by
  rw [List.append_assoc]
  refine received.trans (congrArg (stored ++ ·) ?_)
  cases queue : p.rxFifo with
  | nil => exact absurd queue some
  | cons byte bytes => simp [takeReceived, queue]

theorem stable_overflowed : Stable apply fun p => p.overflowed = false := by
  intro p e within
  cases e <;> grind

theorem stable_started : Stable apply fun p => p.awaitingStart = false := by
  intro p e started
  cases e <;> grind

theorem stable_failed : Stable apply fun p => p.msr.failed = true := by
  intro p e failed
  cases e <;> grind

theorem stable_sdf : Stable apply fun p => p.sdf = true := by
  intro p e ended
  cases e <;> grind

theorem apply_control (p : MasterPort) (e : BusEvent) :
    (p.apply e).mier = p.mier ∧ (p.apply e).irqEnabled = p.irqEnabled ∧
      (p.apply e).mcrMen = p.mcrMen := by
  cases e <;> grind

/-- The master holds the bus, or an interrupt is due. -/
def InMotion (p : MasterPort) : Prop :=
  p.mbf = true ∨ p.sdf = true ∨ p.msr.failed = true

theorem stable_inMotion : Stable apply InMotion := by
  intro p e moving
  cases e <;> grind [InMotion]

/-- Something is still to come: besides, a command other than STOP waits in the FIFO. -/
def Stirring (p : MasterPort) : Prop :=
  p.InMotion ∨ ∃ command ∈ p.txFifo, command ≠ .stop

theorem stable_stirring : Stable apply Stirring := by
  intro p e stirring
  cases e <;> grind [Stirring, InMotion]

/-- Off the bus the master does nothing. -/
def OffBus (p : MasterPort) : Prop :=
  p.mbf = false → p.executing = none

theorem stable_offBus : Stable apply OffBus := by
  intro p e off
  cases e <;> grind [OffBus]

/-- Nothing is left of earlier transactions. -/
structure Blank (p : MasterPort) : Prop where
  txFifo : p.txFifo = []
  rxFifo : p.rxFifo = []
  executing : p.executing = none
  mbf : p.mbf = false

theorem stable_blank : Stable apply Blank := by
  rintro p e ⟨tx, rx, executing, mbf⟩
  cases e <;> grind [Blank]

theorem stable_inMotion_or_blank : Stable apply fun p => p.InMotion ∨ p.Blank :=
  stable_inMotion.or stable_blank

end MasterPort
end TeensyI2C
