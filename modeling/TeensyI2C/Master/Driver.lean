import TeensyI2C.I2CDriver
import TeensyI2C.Lib.EventMachine
import TeensyI2C.Master.Port

/-!
`IMX_RT1060_I2CMaster`: the driver's state, its calls and its interrupt service routine. The
hardware goes on while the driver runs. Each call and each ISR call is given what happens to the
port before each of its accesses.
-/

namespace TeensyI2C
open ObjectMemory Interference

inductive MasterState where
  | starting
  | transferring
  | stopping
  | idle
  | transferComplete
  | stopped
deriving DecidableEq, Repr

def MasterState.code : MasterState → Nat
  | .starting => 0
  | .transferring => 1
  | .stopping => 2
  | .idle => 100
  | .transferComplete => 101
  | .stopped => 102

/-- 'idle' and above mean that the driver is ready to do more work. -/
def MasterState.ready (state : MasterState) : Bool :=
  MasterState.idle.code ≤ state.code

/-- What a transaction does to the slave and to the caller's buffer. -/
inductive MasterEvent (O : Type) where
  /-- A CMD_TRANSMIT word is written to MTDR. -/
  | transmit (data : UInt8)
  /-- A byte is stored into the caller's read buffer. -/
  | store (p : Pointer O) (data : UInt8)
deriving DecidableEq, Repr

structure MasterDriver (O : Type) [Inhabited O] where
  error : I2CError := .ok
  buff : I2CBuffer O := {}
  state : MasterState := .idle
  ignoreTdf : Bool := false
  stopOnCompletion : Bool := false
  memory : Memory O UInt8
  /-- The number of calls of `write_async` and `read_async` so far. -/
  calls : Nat := 0
  /-- The call that `buff` was set up for. -/
  owner : Nat := 0
  /-- What each call has done. -/
  trace : List (Nat × MasterEvent O) := []

/-- The driver and the port that it shares with the hardware. -/
structure Master (O : Type) [Inhabited O] extends MasterDriver O where
  bus : Shared MasterPort MasterPort.BusEvent := { device := {} }

def numFifos : Nat := 4

def masterRead : UInt8 := 1

def masterWrite : UInt8 := 0

def defaultStandardModeMasterConfiguration : I2CMasterConfiguration where
  prescale := 3
  clkHi := 34
  clkLo := 37
  dataVd := 7
  setHold := 44
  filtSda := 15
  filtScl := 15
  busIdle := 9
  pinLow := 440

def defaultFastModeMasterConfiguration : I2CMasterConfiguration where
  prescale := 1
  clkHi := 23
  clkLo := 42
  dataVd := 11
  setHold := 21
  filtSda := 15
  filtScl := 15
  busIdle := 1
  pinLow := 1758

def defaultFastModePlusMasterConfiguration : I2CMasterConfiguration where
  prescale := 0
  clkHi := 14
  clkLo := 36
  dataVd := 12
  setHold := 19
  filtSda := 6
  filtScl := 6
  busIdle := 1
  pinLow := 3516

namespace Master
variable {O : Type} [Inhabited O]

abbrev port (s : Master O) : MasterPort := s.bus.device

def pass (s : Master O) : Master O :=
  { s with bus := s.bus.pass MasterPort.apply }

def access (f : MasterPort → MasterPort) (s : Master O) : Master O :=
  { s with bus := s.bus.access MasterPort.apply f }

@[simp] theorem pass_driver (s : Master O) : s.pass.toMasterDriver = s.toMasterDriver := rfl

@[simp] theorem access_driver (f : MasterPort → MasterPort) (s : Master O) :
    (s.access f).toMasterDriver = s.toMasterDriver := rfl

/-- `stop`: the reset clears every register of the port. -/
def stop (s : Master O) : Master O :=
  s.access fun _ => {}

def setClock (frequency : Nat) (s : Master O) : Master O :=
  let timings :=
    if frequency < 400000 then defaultStandardModeMasterConfiguration
    else if frequency < 1000000 then defaultFastModeMasterConfiguration
    else defaultFastModePlusMasterConfiguration
  s.access fun p => { p with timings := timings }

def begin (s : Master O) (frequency : Nat) : Master O :=
  let s := s.stop
  let s := s.setClock frequency
  let s := s.access fun p =>
    { p with mier :=
      { rdie := true, sdie := true, ndie := true, alie := true, feie := true, pltie := true } }
  s.access fun p => { p with irqEnabled := true }

def end' (s : Master O) : Master O := s.stop

/-- What a caller sees who looks at the port as it stands. -/
def finished (s : Master O) : Bool :=
  s.state == .transferComplete || s.state.ready && !s.port.mbf

def getBytesTransferred (s : Master O) : Nat := s.buff.getBytesTransferred

def hasError (s : Master O) : Bool := TeensyI2C.hasError s.error

/-- The first part of `abort_transaction_async`: no TDF interrupts and no commands any more. -/
def dropCommands (s : Master O) : Master O :=
  ((s.access (MasterPort.setTdie false)).access MasterPort.resetTxFifo).access
    MasterPort.resetRxFifo

def abortTransactionAsync (s : Master O) : Master O :=
  let s := s.dropCommands.pass
  let msr := s.port.msr
  -- Send a STOP if that has not been done and the master still controls the bus.
  if msr.mbf && !msr.sdf then s.access (MasterPort.send .stop) else s

/-- `clear_all_msr_flags`: writes back the flags that it reads. -/
def clearAllMsrFlags (s : Master O) : Master O :=
  let s := s.pass
  s.access (MasterPort.clearFlags s.port.msr)

/-- `start` has found the driver ready. -/
def prepare (s : Master O) (direction : UInt8) : Master O :=
  { s with ignoreTdf := direction != 0, error := .ok, state := .starting }

/-- `start` has found the FIFOs empty. From here on the call is under way. -/
def sendStart (s : Master O) (address direction : UInt8) : Master O :=
  let s := { s with bus.device := s.port.expectStart }
  let s := s.clearAllMsrFlags
  let s := s.access (MasterPort.setMen true)
  let i2cAddress := (address &&& 0x7F) <<< 1
  s.access (MasterPort.send (.start (i2cAddress ||| direction)))

/-- The part of `start` after the check that the driver is ready. -/
def startTransaction (s : Master O) (address direction : UInt8) : Master O × Bool :=
  let s := (s.prepare direction).pass
  let txFifoCount := s.port.txFifoCount
  let s := s.pass
  if txFifoCount > 0 || s.port.rxFifoCount > 0 then
    ({ s with error := .masterFifosNotEmpty }.abortTransactionAsync, false)
  else (s.sendStart address direction, true)

def start (s : Master O) (address direction : UInt8) : Master O × Bool :=
  let s := s.pass
  if !s.finished then
    ({ s.abortTransactionAsync with error := .masterNotReady, state := .idle }, false)
  else s.startTransaction address direction

/-- `buff.initialise`. -/
def initialiseBuff (s : Master O) (buffer : Pointer O) (numBytes : Nat) : Master O :=
  { s with buff := s.buff.initialise buffer numBytes, owner := s.calls }

def writeAsync (s : Master O) (address : UInt8) (buffer : Pointer O) (numBytes : Nat)
    (sendStop : Bool) : Master O :=
  let started := { s with calls := s.calls + 1 }.start address masterWrite
  let s := started.1
  if !started.2 then s
  else if numBytes = 0 then
    -- The caller is probably probing addresses to find slaves.
    { s with ignoreTdf := true }.access (MasterPort.send .stop)
  else
    let s := s.initialiseBuff buffer numBytes
    { s with stopOnCompletion := sendStop }.access (MasterPort.setTdie true)

def readAsync (s : Master O) (address : UInt8) (buffer : Pointer O) (numBytes : Nat)
    (sendStop : Bool) : Master O :=
  let s := { s with calls := s.calls + 1 }
  if numBytes > maxMasterReadLength then { s with error := .invalidRequest }
  else
    let started := s.start address masterRead
    let s := started.1
    if !started.2 then s
    else if numBytes = 0 then s.access (MasterPort.send .stop)
    else
      let s := s.initialiseBuff buffer numBytes
      let s := s.access (MasterPort.send (.receive (UInt8.ofNat (numBytes - 1))))
      if sendStop then s.access (MasterPort.send .stop) else s

/-! ### The interrupt service routine -/

def recordNdf (msr : Msr) (s : Master O) : Master O :=
  if msr.ndf then
    let s := s.access MasterPort.clearNdf
    { s with error := if s.state = .starting then .addressNak else .dataNak }
  else s

def recordAlf (msr : Msr) (s : Master O) : Master O :=
  if msr.alf then { s.access MasterPort.clearAlf with error := .arbitrationLost } else s

/-- A FIFO error is not reported if it comes with another error. -/
def recordFef (msr : Msr) (s : Master O) : Master O :=
  if msr.fef then
    let s := s.access MasterPort.clearFef
    if s.hasError then s else { s with error := .masterFifoError }
  else s

def recordPltf (msr : Msr) (s : Master O) : Master O :=
  if msr.pltf then { s.access MasterPort.clearPltf with error := .masterPinLowTimeout } else s

def recordErrors (msr : Msr) (s : Master O) : Master O :=
  (((s.recordNdf msr).recordAlf msr).recordFef msr).recordPltf msr

def serveErrors (msr : Msr) (s : Master O) : Master O :=
  if msr.failed then
    let s := s.recordErrors msr
    if s.state ≠ .stopping then { s with state := .stopping }.abortTransactionAsync else s
  else s

def serveStop (msr : Msr) (s : Master O) : Master O :=
  if msr.sdf then
    { s.access (MasterPort.setTdie false) with state := .stopped }.access MasterPort.clearSdf
  else s

/-- The start of a transfer is told by the cursor: `not_started_reading` and
`not_started_writing` are one test. -/
def beginTransfer (s : Master O) : Master O :=
  if s.buff.nextIndex = 0 then { s with error := .ok, state := .transferring } else s

variable [DecidableEq O]

/-- `buff.write(port->MRDR)`. An empty FIFO reads as 0. -/
def storeReceived (s : Master O) : Master O :=
  let s := s.pass
  let data := s.port.rxFifo.headD 0
  let s := { s with bus.device := s.port.takeReceived }
  if s.buff.full then s
  else { s with
    memory := s.memory.store s.buff.cursor data
    buff := s.buff.advance
    trace := s.trace ++ [(s.owner, .store s.buff.cursor data)] }

/-- One received byte is kept, or all of them are thrown away. -/
def takeByte (s : Master O) : Master O :=
  if s.state = .transferring then s.storeReceived else s.access MasterPort.resetRxFifo

omit [DecidableEq O] in
/-- The driver has read its last byte. A lone command in the FIFO is taken for the STOP. -/
def finishReading (s : Master O) : Master O :=
  if s.buff.finishedReading then
    let s := s.pass
    let s := { s with
      state := if s.port.txFifoCount = 1 then .stopping else .transferComplete }
    s.access (MasterPort.setMen false)
  else s

/-- The RDF branch. A write transaction should not have got a byte. -/
def serveReceive (msr : Msr) (s : Master O) : Master O :=
  if msr.rdf then
    if s.ignoreTdf then s.beginTransfer.takeByte.finishReading
    else { s with state := .stopping }.abortTransactionAsync
  else s

omit [DecidableEq O] in
/-- `port->MTDR = LPI2C_MTDR_CMD_TRANSMIT | buff.read()`. -/
def transmitNext (s : Master O) : Master O :=
  let data := s.memory.load s.buff.cursor
  let s := { s with
    buff := s.buff.advance
    trace := s.trace ++ [(s.owner, MasterEvent.transmit data)] }
  s.access (MasterPort.send (.transmit data))

omit [DecidableEq O] in
/-- `while (buff.has_data_available() && fifo_space > 0)`. -/
def fill : Nat → Master O → Master O
  | 0, s => s
  | fifoSpace + 1, s => if s.buff.hasDataAvailable then s.transmitNext.fill fifoSpace else s

omit [DecidableEq O] in
/-- The driver has written its last byte. -/
def finishWriting (s : Master O) : Master O :=
  if s.buff.finishedWriting then
    let s := s.pass
    if s.port.txFifoCount = 0 then
      let s := s.access (MasterPort.setTdie false)
      let s :=
        if s.stopOnCompletion then
          { s with state := .stopping }.access (MasterPort.send .stop)
        else { s with state := .transferComplete }
      s.access (MasterPort.setMen false)
    else s
  else s

omit [DecidableEq O] in
/-- Fill the transmit FIFO as far as it goes. -/
def refill (s : Master O) : Master O :=
  let s := s.pass
  let fifoSpace := numFifos - s.port.txFifoCount
  s.fill fifoSpace

omit [DecidableEq O] in
def transferOut (s : Master O) : Master O :=
  if s.state = .transferring then s.refill.finishWriting else s

omit [DecidableEq O] in
def serveTransmit (msr : Msr) (s : Master O) : Master O :=
  if !s.ignoreTdf && msr.tdf then s.beginTransfer.transferOut else s

/-- `_interrupt_service_routine`. -/
def isr (s : Master O) : Master O :=
  let s := s.pass
  let msr := s.port.msr
  let s := s.serveErrors msr
  let s := s.serveStop msr
  let s := s.serveReceive msr
  s.serveTransmit msr

/-! ### Runs -/

/-- A call of the driver, an interrupt, or an event of the hardware between two of these. -/
inductive Action (O : Type) where
  | begin (frequency : Nat)
  | end'
  | writeAsync (address : UInt8) (buffer : Pointer O) (numBytes : Nat) (sendStop : Bool)
  | readAsync (address : UInt8) (buffer : Pointer O) (numBytes : Nat) (sendStop : Bool)
  | isr
  | hardware (e : MasterPort.BusEvent)
deriving DecidableEq, Repr

/-- An action, and what the hardware does before each of its accesses to the port. -/
structure Step (O : Type) where
  action : Action O
  meanwhile : List (List MasterPort.BusEvent) := []
deriving DecidableEq, Repr

def Action.alone (a : Action O) : Step O where
  action := a

def schedule (s : Master O) (meanwhile : List (List MasterPort.BusEvent)) : Master O :=
  { s with bus.schedule := meanwhile }

def step (s : Master O) (a : Step O) : Master O :=
  let s := s.schedule a.meanwhile
  match a.action with
  | .begin frequency => s.begin frequency
  | .end' => s.end'
  | .writeAsync address buffer numBytes sendStop => s.writeAsync address buffer numBytes sendStop
  | .readAsync address buffer numBytes sendStop => s.readAsync address buffer numBytes sendStop
  | .isr => if s.port.irqEnabled then s.isr else s
  | .hardware e => { s with bus.device := s.port.apply e }

omit [DecidableEq O] in
/-- The master after power-up. -/
def fresh (memory : Memory O UInt8) : Master O := { memory := memory }

omit [Inhabited O] [DecidableEq O] in
def Action.isCall : Action O → Bool
  | .writeAsync .. | .readAsync .. => true
  | _ => false

omit [Inhabited O] [DecidableEq O] in
/-- What goes on while the caller polls. -/
def Action.betweenCalls : Action O → Bool
  | .isr | .hardware _ => true
  | _ => false

omit [DecidableEq O] in
def Interrupts (s : Master O) (a : Step O) : Prop :=
  a.action = .isr ∧ s.port.irqEnabled = true

omit [DecidableEq O] in
/-- The ISR has taken its snapshot of MSR. -/
def atSnapshot (s : Master O) (a : Step O) : Master O :=
  (s.schedule a.meanwhile).pass

end Master
end TeensyI2C
