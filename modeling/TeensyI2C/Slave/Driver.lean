import TeensyI2C.I2CDriver

/-!
`IMX_RT1060_I2CSlave`: the slave half of an LPI2C port, the driver's state and its interrupt
service routine. The application's callbacks are arbitrary: each sees the error code, the memory
and the application's own state, and may call the driver's buffer setters.
-/

namespace TeensyI2C
open ObjectMemory

/-- What can be seen of the driver from outside, in order. -/
inductive Event (O : Type) where
  | access (a : Access O)
  | stdr (data : UInt8)
  | afterReceive (length : Nat) (address : UInt16)
  | beforeTransmit (address : UInt16)
  | afterTransmit (address : UInt16)
deriving DecidableEq, Repr

/-- A driver method called from inside a callback. -/
inductive BufferCall (O : Type) where
  | setReceiveBuffer (buffer : Pointer O) (size : Nat)
  | setTransmitBuffer (buffer : Pointer O) (size : Nat)
deriving DecidableEq, Repr

/-- Everything a callback did before it returned. -/
structure Reply (O σ : Type) where
  app : σ
  memory : Memory O UInt8
  accesses : List (Access O) := []
  calls : List (BufferCall O) := []

/-- The code and data behind a `std::function`. -/
abbrev Callback (O σ : Type) := I2CError → Memory O UInt8 → σ → Reply O σ

inductive SlaveState where
  | receiving
  | transmitting
  | idle
  | aborted
deriving DecidableEq, Repr

def SlaveState.code : SlaveState → Nat
  | .receiving => 0
  | .transmitting => 1
  | .idle => 100
  | .aborted => 101

structure I2CSlaveConfiguration where
  dataVd : UInt8
  filtSda : UInt8
  filtScl : UInt8
  clkHold : UInt8
deriving DecidableEq, Repr

def defaultSlaveConfiguration : I2CSlaveConfiguration where
  dataVd := 3
  filtSda := 6
  filtScl := 6
  clkHold := 0

/-- The slave registers that the driver sets up. A reset clears them all. -/
structure SlavePort where
  samrAddr0 : UInt8 := 0
  samrAddr1 : UInt8 := 0
  scfgr1AddrCfg : UInt8 := 0
  scfgr1TxdStall : Bool := false
  scfgr1RxStall : Bool := false
  scfgr2 : I2CSlaveConfiguration := ⟨0, 0, 0, 0⟩
  sierRsie : Bool := false
  sierSdie : Bool := false
  sierTdie : Bool := false
  sierRdie : Bool := false
  scrSen : Bool := false
  scrFilten : Bool := false
deriving DecidableEq, Repr

/-- The word read from SRDR. -/
structure Srdr where
  sof : Bool
  data : UInt8
deriving DecidableEq, Repr

/-- What one entry to the interrupt service routine finds in the port: the flags of SSR, and the
SASR and SRDR words that it reads if their flags are set. -/
structure SlaveStatus where
  avf : Bool := false
  rsf : Bool := false
  sdf : Bool := false
  rdf : Bool := false
  tdf : Bool := false
  fef : Bool := false
  bef : Bool := false
  sasr : UInt16 := 0
  srdr : Srdr := ⟨false, 0⟩
deriving DecidableEq, Repr

def dummyByte : UInt8 := 0x00

structure Slave (O σ : Type) [Inhabited O] where
  port : SlavePort := {}
  error : I2CError := .ok
  state : SlaveState := .idle
  addressCalled : UInt16 := 0
  rxBuffer : I2CBuffer O := {}
  txBuffer : I2CBuffer O := {}
  trailingByteSent : Bool := false
  afterReceiveCallback : Option (Nat → UInt16 → Callback O σ) := none
  beforeTransmitCallback : Option (UInt16 → Callback O σ) := none
  afterTransmitCallback : Option (UInt16 → Callback O σ) := none
  /-- The application's own state. -/
  app : σ
  memory : Memory O UInt8
  trace : List (Event O) := []

namespace Slave
variable {O σ : Type} [Inhabited O]

def emit (s : Slave O σ) (e : Event O) : Slave O σ :=
  { s with trace := s.trace ++ [e] }

def setTransmitBuffer (s : Slave O σ) (buffer : Pointer O) (size : Nat) : Slave O σ :=
  { s with txBuffer := s.txBuffer.initialise buffer size }

def setReceiveBuffer (s : Slave O σ) (buffer : Pointer O) (size : Nat) : Slave O σ :=
  { s with rxBuffer := s.rxBuffer.initialise buffer size }

def afterReceive (s : Slave O σ) (callback : Option (Nat → UInt16 → Callback O σ)) :
    Slave O σ :=
  { s with afterReceiveCallback := callback }

def beforeTransmit (s : Slave O σ) (callback : Option (UInt16 → Callback O σ)) : Slave O σ :=
  { s with beforeTransmitCallback := callback }

def afterTransmit (s : Slave O σ) (callback : Option (UInt16 → Callback O σ)) : Slave O σ :=
  { s with afterTransmitCallback := callback }

/-- `stop` on the slave's side: SCR[RST] clears every slave register. -/
def stopListening (s : Slave O σ) : Slave O σ :=
  { s with port := {} }

/-- The private `listen(samr, address_config)`. -/
def listenWith (s : Slave O σ) (addr0 addr1 addressConfig : UInt8) : Slave O σ :=
  let s := s.stopListening
  -- "Clear previous state" in the source stands over this one assignment.
  let s := { s with error := .ok }
  { s with
    port := {
      samrAddr0 := addr0
      samrAddr1 := addr1
      scfgr1AddrCfg := addressConfig
      scfgr1TxdStall := true
      scfgr1RxStall := true
      scfgr2 := defaultSlaveConfiguration
      sierRsie := true
      sierSdie := true
      sierTdie := true
      sierRdie := true
      scrSen := true
      scrFilten := true } }

/-- The three public forms of `listen`. -/
inductive ListenForm where
  | listen (address : UInt8)
  | listenTwo (firstAddress secondAddress : UInt8)
  | listenRange (firstAddress lastAddress : UInt8)
deriving DecidableEq, Repr

def listen (s : Slave O σ) : ListenForm → Slave O σ
  | .listen address => s.listenWith address 0 0x0
  | .listenTwo firstAddress secondAddress => s.listenWith firstAddress secondAddress 0x02
  | .listenRange firstAddress lastAddress => s.listenWith firstAddress lastAddress 0x06

def bufferCall (s : Slave O σ) : BufferCall O → Slave O σ
  | .setReceiveBuffer buffer size => s.setReceiveBuffer buffer size
  | .setTransmitBuffer buffer size => s.setTransmitBuffer buffer size

def invoke (s : Slave O σ) (callback : Callback O σ) : Slave O σ :=
  let reply := callback s.error s.memory s.app
  reply.calls.foldl bufferCall
    { s with
      app := reply.app
      memory := reply.memory
      trace := s.trace ++ reply.accesses.map .access }

/-- What a buffer setter does to the receive buffer. -/
def receiveCall (b : I2CBuffer O) : BufferCall O → I2CBuffer O
  | .setReceiveBuffer buffer size => b.initialise buffer size
  | .setTransmitBuffer _ _ => b

def transmitCall (b : I2CBuffer O) : BufferCall O → I2CBuffer O
  | .setReceiveBuffer _ _ => b
  | .setTransmitBuffer buffer size => b.initialise buffer size

theorem foldl_bufferCall (s : Slave O σ) (calls : List (BufferCall O)) :
    calls.foldl bufferCall s =
      { s with
        rxBuffer := calls.foldl receiveCall s.rxBuffer
        txBuffer := calls.foldl transmitCall s.txBuffer } := by
  induction calls generalizing s with
  | nil => rfl
  | cons call calls ih =>
      rw [List.foldl_cons, ih]
      cases call <;> rfl

/-- A callback can change the application, the memory and the two buffers, and nothing else. -/
theorem invoke_eq (s : Slave O σ) (callback : Callback O σ) :
    s.invoke callback =
      { s with
        app := (callback s.error s.memory s.app).app
        memory := (callback s.error s.memory s.app).memory
        rxBuffer := (callback s.error s.memory s.app).calls.foldl receiveCall s.rxBuffer
        txBuffer := (callback s.error s.memory s.app).calls.foldl transmitCall s.txBuffer
        trace := s.trace ++ (callback s.error s.memory s.app).accesses.map .access } := by
  rw [invoke, foldl_bufferCall]

/-- `end_of_frame`: called from the ISR on a STOP or a repeated START. -/
def endOfFrame (s : Slave O σ) : Slave O σ :=
  let s := match s.state with
    | .receiving =>
        match s.afterReceiveCallback with
        | some callback =>
            let length := s.rxBuffer.getBytesTransferred
            (s.emit (.afterReceive length s.addressCalled)).invoke
              (callback length s.addressCalled)
        | none => s
    | .transmitting =>
        let s := { s with trailingByteSent := false }
        match s.afterTransmitCallback with
        | some callback =>
            (s.emit (.afterTransmit s.addressCalled)).invoke (callback s.addressCalled)
        | none => s
    | .idle | .aborted => s
  { s with state := .idle }

theorem endOfFrame_receiving {s : Slave O σ} (h : s.state = .receiving)
    {callback : Nat → UInt16 → Callback O σ} (attached : s.afterReceiveCallback = some callback) :
    s.endOfFrame =
      { (s.emit (.afterReceive s.rxBuffer.nextIndex s.addressCalled)).invoke
          (callback s.rxBuffer.nextIndex s.addressCalled) with state := .idle } := by
  unfold endOfFrame
  rw [h]
  simp only [attached, I2CBuffer.getBytesTransferred]

theorem endOfFrame_transmitting {s : Slave O σ} (h : s.state = .transmitting)
    {callback : UInt16 → Callback O σ} (attached : s.afterTransmitCallback = some callback) :
    s.endOfFrame =
      { ({ s with trailingByteSent := false }.emit (.afterTransmit s.addressCalled)).invoke
          (callback s.addressCalled) with state := .idle } := by
  unfold endOfFrame
  rw [h]
  simp only [attached]

theorem endOfFrame_receiving_none {s : Slave O σ} (h : s.state = .receiving)
    (none : s.afterReceiveCallback = none) : s.endOfFrame = { s with state := .idle } := by
  unfold endOfFrame
  rw [h]
  simp only [none]

theorem endOfFrame_transmitting_none {s : Slave O σ} (h : s.state = .transmitting)
    (none : s.afterTransmitCallback = none) :
    s.endOfFrame = { s with trailingByteSent := false, state := .idle } := by
  unfold endOfFrame
  rw [h]
  simp only [none]

theorem endOfFrame_aborted {s : Slave O σ} (h : s.state = .aborted) :
    s.endOfFrame = { s with state := .idle } := by
  unfold endOfFrame
  rw [h]

theorem endOfFrame_idle {s : Slave O σ} (h : s.state = .idle) : s.endOfFrame = s := by
  unfold endOfFrame
  rw [h]
  cases s
  cases h
  rfl

variable [DecidableEq O]

/-- `rx_buffer.write(data)` for a buffer that still has room. -/
def storeReceived (s : Slave O σ) (data : UInt8) : Slave O σ :=
  { s with
    memory := s.memory.store s.rxBuffer.cursor data
    rxBuffer := s.rxBuffer.advance
    trace := s.trace ++ [.access (.store s.rxBuffer.cursor data)] }

omit [DecidableEq O] in
/-- `port->STDR = tx_buffer.read()`. -/
def sendNext (s : Slave O σ) : Slave O σ :=
  { s with
    txBuffer := s.txBuffer.advance
    trace := s.trace ++
      [.access (.fetch s.txBuffer.cursor), .stdr (s.memory.load s.txBuffer.cursor)] }

/-- The AVF branch. SASR_RADDR keeps eleven bits. -/
def serveAddress (h : SlaveStatus) (s : Slave O σ) : Slave O σ :=
  if h.avf then { s with addressCalled := (h.sasr &&& 0x7FF) >>> 1 } else s

/-- The RSF and SDF branch. -/
def serveEnd (h : SlaveStatus) (s : Slave O σ) : Slave O σ :=
  if h.rsf || h.sdf then s.endOfFrame else s

/-- The first byte since a START resets the error and, if there is a buffer, the cursor. -/
def startReceiving (s : Slave O σ) : Slave O σ :=
  let s := { s with error := .ok }
  if s.rxBuffer.initialised then
    { s with rxBuffer := s.rxBuffer.reset, state := .receiving }
  else s

/-- The RDF branch, for the word read from SRDR. -/
def receiveData (s : Slave O σ) (srdr : Srdr) : Slave O σ :=
  let s := if srdr.sof then s.startReceiving else s
  if s.rxBuffer.initialised then
    if s.rxBuffer.full then { s with error := .bufferOverflow } else s.storeReceived srdr.data
  else { s with error := .bufferOverflow, state := .idle }

def serveReceive (h : SlaveStatus) (s : Slave O σ) : Slave O σ :=
  if h.rdf then s.receiveData h.srdr else s

/-- The TDF request that finds the driver idle or aborted starts a transmission. -/
def startTransmitting (s : Slave O σ) : Slave O σ :=
  let s := { s with error := .ok, state := .transmitting }
  match s.beforeTransmitCallback with
  | some callback =>
      (s.emit (.beforeTransmit s.addressCalled)).invoke (callback s.addressCalled)
  | none => s

omit [DecidableEq O] in
theorem startTransmitting_none {s : Slave O σ} (h : s.beforeTransmitCallback = none) :
    s.startTransmitting = { s with error := .ok, state := .transmitting } := by
  unfold startTransmitting
  simp only [h]

omit [DecidableEq O] in
theorem startTransmitting_some {s : Slave O σ} {callback : UInt16 → Callback O σ}
    (h : s.beforeTransmitCallback = some callback) :
    s.startTransmitting =
      ({ s with error := .ok, state := .transmitting }.emit
        (.beforeTransmit s.addressCalled)).invoke (callback s.addressCalled) := by
  unfold startTransmitting
  simp only [h]

omit [DecidableEq O] in
theorem startTransmitting_state (s : Slave O σ) : s.startTransmitting.state = .transmitting := by
  cases callback : s.beforeTransmitCallback with
  | none => rw [startTransmitting_none callback]
  | some callback' => rw [startTransmitting_some callback, invoke_eq, emit]

/-- What the TDF branch puts into STDR once `before_transmit` has run. -/
def answerRequest (startOfFrame : Bool) (s : Slave O σ) : Slave O σ :=
  if s.txBuffer.initialised then
    let s := if startOfFrame then { s with txBuffer := s.txBuffer.reset } else s
    if s.txBuffer.hasDataAvailable then
      s.sendNext
    else
      let s := s.emit (.stdr dummyByte)
      -- The hardware always asks for one byte more than the master takes.
      if !s.trailingByteSent then { s with trailingByteSent := true }
      else { s with error := .bufferUnderflow }
  else
    { s.emit (.stdr dummyByte) with error := .bufferUnderflow }

omit [DecidableEq O] in
theorem answerRequest_state (s : Slave O σ) (startOfFrame : Bool) :
    (s.answerRequest startOfFrame).state = s.state := by
  unfold answerRequest sendNext emit
  grind

/-- The TDF branch. -/
def transmitData (s : Slave O σ) : Slave O σ :=
  let startOfFrame : Bool := SlaveState.idle.code ≤ s.state.code
  let s := if startOfFrame then s.startTransmitting else s
  s.answerRequest startOfFrame

def serveTransmit (h : SlaveStatus) (s : Slave O σ) : Slave O σ :=
  if h.tdf then s.transmitData else s

/-- The BEF branch. FEF has no effect on the driver. -/
def serveBitError (h : SlaveStatus) (s : Slave O σ) : Slave O σ :=
  if h.bef then { s with state := .aborted, error := .bitError }.endOfFrame else s

/-- `_interrupt_service_routine`. -/
def isr (s : Slave O σ) (h : SlaveStatus) : Slave O σ :=
  let s := s.serveAddress h
  let s := s.serveEnd h
  let s := s.serveReceive h
  let s := s.serveTransmit h
  s.serveBitError h

end Slave
end TeensyI2C
