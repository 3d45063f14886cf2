import TeensyI2C.Master.BytesTransferred
import TeensyI2C.WireBuffers

/-!
`I2CDriverWire` in master mode over `IMX_RT1060_I2CMaster`. Its calls block, and what the hardware
and the ISR do goes on during a call and between two calls. `requestFrom` takes the master's
transfer counter for the number of bytes in `rxBuffer`.
-/

namespace TeensyI2C
open ObjectMemory Interference EventMachine MasterPort I2CDriverWire

structure WireMaster (O : Type) [Inhabited O] where
  master : Master O
  writeAddress : UInt8 := 0
  txNextByteToWrite : Nat := 0
  rxBytesAvailable : Nat := 0
  rxNextByteToRead : Nat := 0

namespace WireMaster

variable {O : Type} [Inhabited O] [DecidableEq O]

/-- What goes on by itself while the sketch runs or waits. -/
abbrev Background (O : Type) : Type := { a : Master.Step O // a.action.betweenCalls = true }

/-- What happens to the port during a call of the master. -/
abbrev Meanwhile : Type := List (List MasterPort.BusEvent)

def elapse (s : Master O) (as : List (Background O)) : Master O :=
  run Master.step s (as.map Subtype.val)

/-- What goes on during a call that waits: before each look at `finished` that is in time, and from
the last look to the end of the call. -/
structure Wait (O : Type) where
  turns : List (List (Background O))
  rest : List (Background O) := []

/-- What goes on while `finish` loops. It leaves the loop when it finds the master finished. -/
def looped : Master O → List (List (Background O)) → List (Background O)
  | _, [] => []
  | s, turn :: turns =>
      turn ++ if (elapse s turn).finished then [] else looped (elapse s turn) turns

def waited (s : Master O) (wait : Wait O) : List (Background O) := looped s wait.turns ++ wait.rest

def finish (s : Master O) (wait : Wait O) : Master O := elapse s (waited s wait)

/-- A new object, whose master nobody has used. -/
def fresh (memory : Memory O UInt8) : WireMaster O where
  master := Master.fresh memory

variable (B : WireBuffers O) (wire : WireMaster O)

/-- The form of `begin` for a master. -/
def begin (frequency : Nat) (meanwhile : Meanwhile) : WireMaster O :=
  { wire with
    master := run Master.step wire.master
      [Master.Action.end'.alone, ⟨.begin frequency, meanwhile⟩] }

def end' : WireMaster O := { wire with master := wire.master.step Master.Action.end'.alone }

def beginTransmission (address : Int) : WireMaster O :=
  { wire with writeAddress := UInt8.ofInt address, txNextByteToWrite := 0 }

/-- `tx_buffer` in the memory of the master. -/
def outgoing : Outgoing O where
  memory := wire.master.memory
  txNextByteToWrite := wire.txNextByteToWrite

def write (w : WireWrite) : WireMaster O × Nat :=
  let written := wire.outgoing.write B w
  ({ wire with
    master.memory := written.1.memory
    txNextByteToWrite := written.1.txNextByteToWrite }, written.2)

def writeCall (stop : Int) (meanwhile : Meanwhile) : Master.Step O where
  action := .writeAsync wire.writeAddress ⟨B.txBuffer, 0⟩ wire.txNextByteToWrite (stop != 0)
  meanwhile := meanwhile

def endTransmission (stop : Int) (meanwhile : Meanwhile) (wait : Wait O) : WireMaster O × UInt8 :=
  let master := finish (wire.master.step (wire.writeCall B stop meanwhile)) wait
  ({ wire with master := master }, toWireResult master.error)

def readCall (address quantity stop : Int) (meanwhile : Meanwhile) : Master.Step O where
  action := .readAsync (UInt8.ofInt address) ⟨B.rxBuffer, 0⟩
    (min (sizeOfInt quantity) rxBufferLength) (stop != 0)
  meanwhile := meanwhile

def requestFrom (address quantity stop : Int) (meanwhile : Meanwhile) (wait : Wait O) :
    WireMaster O × UInt8 :=
  let wire := { wire with rxBytesAvailable := 0, rxNextByteToRead := 0 }
  let master := finish (wire.master.step (readCall B address quantity stop meanwhile)) wait
  let available := master.getBytesTransferred
  ({ wire with master := master, rxBytesAvailable := available }, UInt8.ofNat available)

/-- `rxBuffer[rx_next_byte_to_read]`. -/
def nextByte : UInt8 := wire.master.memory.load ⟨B.rxBuffer, wire.rxNextByteToRead⟩

def read : WireMaster O × Int :=
  if wire.rxNextByteToRead < wire.rxBytesAvailable then
    ({ wire with rxNextByteToRead := wire.rxNextByteToRead + 1 }, (wire.nextByte B).toNat)
  else (wire, noMoreBytes)

def peek : Int :=
  if wire.rxNextByteToRead < wire.rxBytesAvailable then (wire.nextByte B).toNat else noMoreBytes

def available : Int := wire.rxBytesAvailable - wire.rxNextByteToRead

/-! ### Runs -/

inductive Action (O : Type) where
  | begin (frequency : Nat) (meanwhile : Meanwhile)
  | end'
  | beginTransmission (address : Int)
  | write (w : WireWrite)
  | endTransmission (stop : Int) (meanwhile : Meanwhile) (wait : Wait O)
  | requestFrom (address quantity stop : Int) (meanwhile : Meanwhile) (wait : Wait O)
  | read
  | peek
  | available
  | background (a : Background O)

def step (wire : WireMaster O) : Action O → WireMaster O
  | .begin frequency meanwhile => wire.begin frequency meanwhile
  | .end' => wire.end'
  | .beginTransmission address => wire.beginTransmission address
  | .write w => (wire.write B w).1
  | .endTransmission stop meanwhile wait => (wire.endTransmission B stop meanwhile wait).1
  | .requestFrom address quantity stop meanwhile wait =>
      (wire.requestFrom B address quantity stop meanwhile wait).1
  | .read => (wire.read B).1
  | .peek | .available => wire
  | .background a => { wire with master := elapse wire.master [a] }

def begun (memory : Memory O UInt8) (frequency : Nat) (meanwhile : Meanwhile) : WireMaster O :=
  (fresh memory).begin frequency meanwhile

/-! ### The master behind the object -/

theorem elapse_invariant {I : Master O → Prop}
    (preserved : ∀ s a, I s → a.action.betweenCalls = true → I (s.step a)) {s : Master O}
    (initial : I s) (as : List (Background O)) : I (elapse s as) := by
  induction as generalizing s with
  | nil => exact initial
  | cons a as ih => exact ih (preserved s a.1 initial a.2)

variable {B}

/-- The buffer of the master starts where an array starts, and is no longer than the array. -/
structure Attached (s : Master O) : Prop where
  room : s.port.txFifo.length ≤ numFifos
  offset : s.buff.buffer.offset = 0
  size : s.buff.size ≤ rxBufferLength
  bounded : s.buff.Bounded

/-- The front of `rxBuffer` holds `received`, and the master does not write there. -/
structure Guards (B : WireBuffers O) (received : List UInt8) (s : Master O) : Prop where
  bytes : s.memory.slice ⟨B.rxBuffer, 0⟩ received.length = received
  behind : s.buff.buffer.object = B.rxBuffer → received.length ≤ s.buff.nextIndex

variable {s : Master O} {received : List UInt8} {a : Master.Step O}

omit [DecidableEq O] in
theorem Attached.nextIndex_le (attached : Attached s) : s.buff.nextIndex ≤ rxBufferLength :=
  Nat.le_trans attached.bounded attached.size

theorem Attached.of_other (attached : Attached s) (other : a.action.isCall = false) :
    Attached (s.step a) := by
  have room := Master.txFifo_step a attached.room
  by_cases interrupts : s.Interrupts a
  · have kept := Master.keepsBuffer_isr (s.schedule a.meanwhile)
    rw [← Master.step_interrupts interrupts] at kept
    refine ⟨room, ?_, ?_, kept.bounded attached.bounded⟩
    · rw [kept.window.1]
      exact attached.offset
    · rw [kept.window.2]
      exact attached.size
  · have driver := Master.step_driver other interrupts
    refine ⟨room, ?_, ?_, ?_⟩ <;> rw [driver]
    · exact attached.offset
    · exact attached.size
    · exact attached.bounded

theorem Guards.of_other (attached : Attached s) (guards : Guards B received s)
    (other : a.action.isCall = false) : Guards B received (s.step a) := by
  by_cases interrupts : s.Interrupts a
  · let scheduled := s.schedule a.meanwhile
    have kept := Master.keepsBuffer_isr scheduled
    rw [Master.step_interrupts interrupts]
    refine ⟨?_, fun here => ?_⟩
    · rcases Master.memory_isr scheduled with same | ⟨data, stored⟩
      · rw [same]
        exact guards.bytes
      · rw [stored]
        by_cases here : s.buff.buffer.object = B.rxBuffer
        · have start : s.buff.buffer = ⟨B.rxBuffer, 0⟩ := by
            rw [← here, ← attached.offset]
          change (s.memory.store (s.buff.buffer + s.buff.nextIndex) data).slice _ _ = _
          rw [start, Memory.slice_store _ _ _ (guards.behind here)]
          exact guards.bytes
        · have other : scheduled.memory.store scheduled.buff.cursor data B.rxBuffer =
              s.memory B.rxBuffer := Memory.store_other _ _ _ fun same => here same.symm
          rw [Memory.slice_congr other]
          exact guards.bytes
    · rw [kept.window.1] at here
      exact (guards.behind here).trans kept.forward
  · have driver := Master.step_driver other interrupts
    exact ⟨by rw [driver]; exact guards.bytes, by rw [driver]; exact guards.behind⟩

theorem Attached.elapse (attached : Attached s) (as : List (Background O)) :
    Attached (elapse s as) :=
  elapse_invariant
    (fun _ _ attached between => attached.of_other (Master.Action.isCall_of_betweenCalls between))
    attached as

theorem Guards.elapse (attached : Attached s) (guards : Guards B received s)
    (as : List (Background O)) : Guards B received (elapse s as) :=
  (elapse_invariant (I := fun s => Attached s ∧ Guards B received s)
    (fun _ _ ⟨attached, guards⟩ between =>
      have other := Master.Action.isCall_of_betweenCalls between
      ⟨attached.of_other other, guards.of_other attached other⟩)
    ⟨attached, guards⟩ as).2

omit [DecidableEq O] in
theorem Attached.call {t : Master O} {array : O} {numBytes : Nat} (attached : Attached s)
    (room : t.port.txFifo.length ≤ numFifos) (short : numBytes ≤ rxBufferLength)
    (buff : t.buff = s.buff ∨ t.buff = s.buff.initialise ⟨array, 0⟩ numBytes) : Attached t := by
  rcases buff with same | set
  · exact ⟨room, by rw [same]; exact attached.offset, by rw [same]; exact attached.size,
      by rw [same]; exact attached.bounded⟩
  · refine ⟨room, by rw [set]; rfl, by rw [set]; exact short, ?_⟩
    rw [set]
    exact I2CBuffer.bounded_initialise _ _ _

variable {wire : WireMaster O}

theorem Attached.writeCall (attached : Attached wire.master) (stop : Int)
    (meanwhile : Meanwhile) (short : wire.txNextByteToWrite ≤ txBufferLength) :
    Attached (wire.master.step (wire.writeCall B stop meanwhile)) := by
  have room := Master.txFifo_step (wire.writeCall B stop meanwhile) attached.room
  rw [Master.step_writeAsync rfl] at room ⊢
  exact Attached.call (s := wire.master) attached room short (Master.buffer_of_writeAsync _ _ _ _).2

theorem Attached.readCall (attached : Attached s) (address quantity stop : Int)
    (meanwhile : Meanwhile) :
    Attached (s.step (readCall B address quantity stop meanwhile)) := by
  have room := Master.txFifo_step (WireMaster.readCall B address quantity stop meanwhile)
    attached.room
  rw [Master.step_readAsync rfl] at room ⊢
  exact Attached.call (s := s) attached room (Nat.min_le_right _ _)
    (Master.buffer_of_readAsync _ _ _ _).2

theorem Guards.writeCall (guards : Guards B received wire.master) (stop : Int)
    (meanwhile : Meanwhile) :
    Guards B received (wire.master.step (wire.writeCall B stop meanwhile)) := by
  let t := (wire.master.schedule meanwhile).writeAsync wire.writeAddress ⟨B.txBuffer, 0⟩
    wire.txNextByteToWrite (stop != 0)
  obtain ⟨memory, buff⟩ := Master.buffer_of_writeAsync (s := wire.master.schedule meanwhile)
    wire.writeAddress ⟨B.txBuffer, 0⟩ wire.txNextByteToWrite (stop != 0)
  have behind : t.buff.buffer.object = B.rxBuffer → received.length ≤ t.buff.nextIndex := by
    rcases buff with same | set
    · rw [same]
      exact guards.behind
    · rw [set]
      exact fun here => absurd here B.separate
  have bytes : t.memory.slice ⟨B.rxBuffer, 0⟩ received.length = received := by
    rw [memory]
    exact guards.bytes
  rw [Master.step_writeAsync rfl]
  exact ⟨bytes, behind⟩

/-- What holds of the object at any time. -/
structure Sound (wire : WireMaster O) : Prop where
  settled : wire.master.Settled
  attached : Attached wire.master
  next : wire.rxNextByteToRead ≤ wire.rxBytesAvailable
  available : wire.rxBytesAvailable ≤ rxBufferLength
  tx : wire.txNextByteToWrite ≤ txBufferLength

theorem sound_fresh (memory : Memory O UInt8) : Sound (fresh memory) where
  settled := Master.settled_run memory []
  attached := ⟨Nat.zero_le _, rfl, Nat.zero_le _, Nat.le_refl 0⟩
  next := Nat.le_refl 0
  available := Nat.zero_le _
  tx := Nat.zero_le _

theorem settled_elapse (settled : s.Settled) (as : List (Background O)) :
    (WireMaster.elapse s as).Settled :=
  elapse_invariant (fun _ a settled _ => settled.step a) settled as

theorem Sound.requestFrom (sound : Sound wire) (address quantity stop : Int)
    (meanwhile : Meanwhile) (wait : Wait O) :
    Sound (wire.requestFrom B address quantity stop meanwhile wait).1 := by
  let call := readCall B address quantity stop meanwhile
  have asked := (sound.attached.readCall (B := B) address quantity stop meanwhile).elapse
    (waited (wire.master.step call) wait)
  exact ⟨settled_elapse (sound.settled.step call) _, asked, Nat.zero_le _, asked.nextIndex_le,
    sound.tx⟩

theorem Sound.step (sound : Sound wire) (action : Action O) : Sound (wire.step B action) := by
  obtain ⟨settled, attached, next, available, tx⟩ := sound
  cases action with
  | begin frequency meanwhile =>
      let begins : Master.Step O := ⟨.begin frequency, meanwhile⟩
      have ended := attached.of_other (a := Master.Action.end'.alone) rfl
      exact ⟨(settled.step Master.Action.end'.alone).step begins,
        ended.of_other (a := begins) rfl, next, available, tx⟩
  | end' =>
      exact ⟨settled.step Master.Action.end'.alone,
        attached.of_other (a := Master.Action.end'.alone) rfl, next, available, tx⟩
  | beginTransmission address => exact ⟨settled, attached, next, available, Nat.zero_le _⟩
  | write w =>
      have appends : Outgoing.Appends B wire.outgoing _ _ := Outgoing.appends_write tx w
      exact ⟨⟨settled.owner, settled.halted⟩,
        ⟨attached.room, attached.offset, attached.size, attached.bounded⟩, next, available,
        appends.bounded⟩
  | endTransmission stop meanwhile wait =>
      exact ⟨settled_elapse (settled.step _) _, (attached.writeCall stop meanwhile tx).elapse _,
        next, available, tx⟩
  | requestFrom address quantity stop meanwhile wait =>
      exact Sound.requestFrom ⟨settled, attached, next, available, tx⟩ address quantity stop
        meanwhile wait
  | read =>
      unfold WireMaster.step WireMaster.read
      dsimp only
      split
      · next some => exact ⟨settled, attached, some, available, tx⟩
      · exact ⟨settled, attached, next, available, tx⟩
  | peek | available => exact ⟨settled, attached, next, available, tx⟩
  | background a =>
      exact ⟨settled_elapse settled [a], attached.elapse [a], next, available, tx⟩

theorem sound_run (memory : Memory O UInt8) (actions : List (Action O)) :
    Sound (run (WireMaster.step B) (fresh memory) actions) :=
  run_invariant' (I := Sound) (fun _ action sound => sound.step action) actions
    (sound_fresh memory)

/-! ### What the sketch reads -/

/-- An action that does not start another request. -/
def Action.keepsBuffer : Action O → Bool
  | .requestFrom .. => false
  | _ => true

/-- What an action leaves of the bytes that have been received: only `read` consumes one. -/
def consume (rest : List UInt8) : Action O → List UInt8
  | .read => rest.tail
  | _ => rest

/-- The next byte of those that are left, or -1. -/
def firstOf (rest : List UInt8) : Int := rest.head?.elim noMoreBytes fun data => data.toNat

/-- The calls that look at the received bytes find `rest`. -/
structure Shows (B : WireBuffers O) (rest : List UInt8) (wire : WireMaster O) : Prop where
  read : (wire.read B).2 = firstOf rest
  peek : wire.peek B = firstOf rest
  available : wire.available = rest.length

/-- Of the bytes received by the last request `rest` are left. -/
structure Serves (B : WireBuffers O) (received rest : List UInt8) (wire : WireMaster O) :
    Prop where
  sound : Sound wire
  guards : Guards B received wire.master
  count : wire.rxBytesAvailable = received.length
  rest : rest = received.drop wire.rxNextByteToRead

variable {rest : List UInt8} {action : Action O}

theorem firstOf_drop (n : Nat) :
    firstOf (received.drop n) = received[n]?.elim noMoreBytes fun data => data.toNat := by
  rw [firstOf, List.head?_drop]

omit [DecidableEq O] in
theorem Serves.shows (serves : Serves B received rest wire) : Shows B rest wire := by
  obtain ⟨sound, guards, count, rfl⟩ := serves
  have next : received[wire.rxNextByteToRead]? =
      if wire.rxNextByteToRead < wire.rxBytesAvailable then some (wire.nextByte B) else none := by
    conv => lhs; rw [← guards.bytes]
    rw [Memory.getElem?_slice, ← count, Pointer.mk_add, Nat.zero_add]
    rfl
  have inside := sound.next
  refine ⟨?_, ?_, ?_⟩
  · rw [firstOf_drop, next, WireMaster.read]
    split <;> rfl
  · rw [firstOf_drop, next, WireMaster.peek]
    split <;> rfl
  · rw [List.length_drop, WireMaster.available]
    omega

omit [DecidableEq O] in
theorem Guards.of_memory {memory : Memory O UInt8} (guards : Guards B received s)
    (same : memory B.rxBuffer = s.memory B.rxBuffer) :
    Guards B received { s with memory := memory } where
  bytes := by
    rw [Memory.slice_congr same]
    exact guards.bytes
  behind := guards.behind

theorem Guards.step (sound : Sound wire) (guards : Guards B received wire.master)
    (other : action.keepsBuffer = true) : Guards B received (wire.step B action).master := by
  cases action with
  | begin frequency meanwhile =>
      have ended := guards.of_other (a := Master.Action.end'.alone) sound.attached rfl
      have attached := sound.attached.of_other (a := Master.Action.end'.alone) rfl
      exact ended.of_other (a := ⟨.begin frequency, meanwhile⟩) attached rfl
  | end' => exact guards.of_other (a := Master.Action.end'.alone) sound.attached rfl
  | write w => exact guards.of_memory (wire.outgoing.write_rxBuffer w)
  | endTransmission stop meanwhile wait =>
      exact (guards.writeCall stop meanwhile).elapse
        (sound.attached.writeCall stop meanwhile sound.tx) _
  | requestFrom address quantity stop meanwhile wait => cases other
  | read =>
      unfold WireMaster.step WireMaster.read
      dsimp only
      split <;> exact guards
  | background a => exact guards.elapse sound.attached [a]
  | beginTransmission address => exact guards
  | peek => exact guards
  | available => exact guards

theorem rest_step (received : List UInt8) (count : wire.rxBytesAvailable = received.length)
    (other : action.keepsBuffer = true) :
    (wire.step B action).rxBytesAvailable = received.length ∧
      consume (received.drop wire.rxNextByteToRead) action =
        received.drop (wire.step B action).rxNextByteToRead := by
  cases action with
  | requestFrom address quantity stop meanwhile wait => cases other
  | read =>
      unfold WireMaster.step WireMaster.read consume
      dsimp only
      split
      · exact ⟨count, List.tail_drop⟩
      · next spent =>
        rw [List.drop_eq_nil_of_le (count ▸ Nat.le_of_not_lt spent)]
        exact ⟨count, rfl⟩
  | begin frequency meanwhile => exact ⟨count, rfl⟩
  | end' => exact ⟨count, rfl⟩
  | beginTransmission address => exact ⟨count, rfl⟩
  | write w => exact ⟨count, rfl⟩
  | endTransmission stop meanwhile wait => exact ⟨count, rfl⟩
  | peek => exact ⟨count, rfl⟩
  | available => exact ⟨count, rfl⟩
  | background a => exact ⟨count, rfl⟩

theorem Serves.step (serves : Serves B received rest wire) (other : action.keepsBuffer = true) :
    Serves B received (consume rest action) (wire.step B action) := by
  obtain ⟨sound, guards, count, rfl⟩ := serves
  obtain ⟨available, left⟩ := rest_step (B := B) received count other
  exact ⟨sound.step action, guards.step sound other, available, left⟩

theorem Serves.run (serves : Serves B received rest wire) {after : List (Action O)}
    (later : ∀ action ∈ after, action.keepsBuffer = true) :
    Serves B received (run consume rest after) (run (WireMaster.step B) wire after) := by
  induction after generalizing rest wire with
  | nil => exact serves
  | cons action after ih =>
      exact ih (serves.step (later action List.mem_cons_self))
        fun a mem => later a (List.mem_cons_of_mem action mem)

/-! ### Requests -/

/-- What the bus has brought in a request. -/
def broughtBy (called : Master O) (asked : WireMaster O) : List UInt8 :=
  if called.hasError then [] else asked.master.port.crossed

variable {address quantity stop : Int} {meanwhile : Meanwhile} {wait : Wait O}

theorem Sound.serves (sound : Sound wire) :
    let call := readCall B address quantity stop meanwhile
    let called := wire.master.step call
    let asked := wire.requestFrom B address quantity stop meanwhile wait
    let received := broughtBy called asked.1
    wire.master.Countable call ((waited called wait).map Subtype.val) →
      (asked.1.master.port.addressed = false → asked.1.master.port.crossed = []) →
      asked.2.toNat = received.length ∧ Serves B received received asked.1 := by
  intro call called asked received countable answered
  have asks : Sound asked.1 := sound.requestFrom address quantity stop meanwhile wait
  have kinds : ∀ b ∈ (waited called wait).map Subtype.val, b.action.betweenCalls = true := by
    intro b mem
    obtain ⟨a, -, rfl⟩ := List.mem_map.mp mem
    exact a.2
  have stored : asked.1.master.memory.slice ⟨B.rxBuffer, 0⟩ asked.1.rxBytesAvailable = received :=
    countable.read_stores sound.attached.room rfl kinds answered
  have count : asked.1.rxBytesAvailable = received.length := by
    rw [← stored, Memory.length_slice]
  have small : asked.1.rxBytesAvailable ≤ 32 := asks.available
  have returned : asked.2.toNat = asked.1.rxBytesAvailable := by
    change (UInt8.ofNat asked.1.rxBytesAvailable).toNat = asked.1.rxBytesAvailable
    rw [UInt8.toNat_ofNat']
    omega
  have guards : Guards B received asked.1.master :=
    ⟨by rw [← count]; exact stored, fun _ => Nat.le_of_eq count.symm⟩
  exact ⟨returned.trans count, asks, guards, count, rfl⟩

/-- A request returns the number of bytes that it has received, and after any calls that follow on
it the sketch finds those of them that it has not read yet. -/
def ReadsReceived (B : WireBuffers O) (wire : WireMaster O) (address quantity stop : Int)
    (meanwhile : Meanwhile) (wait : Wait O) (after : List (Action O)) : Prop :=
  let asked := wire.requestFrom B address quantity stop meanwhile wait
  let received := broughtBy (wire.master.step (readCall B address quantity stop meanwhile)) asked.1
  asked.2.toNat = received.length ∧
    (run (step B) asked.1 after).Shows B (run consume received after)

/-- At any time the sketch has read no more than is available. A request whose bytes are all taken
by the ISR, and that does not leave the count of another call, is read as it has been received. -/
theorem wire_reads_right (B : WireBuffers O) (memory : Memory O UInt8) (frequency : Nat)
    (startup : Meanwhile) (before : List (Action O)) (address quantity stop : Int)
    (meanwhile : Meanwhile) (wait : Wait O) (after : List (Action O))
    (later : ∀ action ∈ after, action.keepsBuffer = true) :
    let wire := run (step B) (begun memory frequency startup) before
    let call := readCall B address quantity stop meanwhile
    let between := (waited (wire.master.step call) wait).map Subtype.val
    let asked := wire.requestFrom B address quantity stop meanwhile wait
    (wire.rxNextByteToRead ≤ wire.rxBytesAvailable ∧ wire.rxBytesAvailable ≤ rxBufferLength) ∧
      (wire.master.Countable call between →
        (asked.1.master.port.addressed = false → asked.1.master.port.crossed = []) →
        wire.ReadsReceived B address quantity stop meanwhile wait after) := by
  intro wire call between asked
  have sound : Sound wire := sound_run memory (.begin frequency startup :: before)
  refine ⟨⟨sound.next, sound.available⟩, fun countable answered => ?_⟩
  obtain ⟨returned, serves⟩ := sound.serves countable answered
  exact ⟨returned, (serves.run later).shows⟩

end WireMaster

/-! ### Bytes that have not been received -/

def unattended (actions : List (Master.Action Bool)) : List (WireMaster.Background Bool) :=
  actions.filterMap fun a =>
    if between : a.betweenCalls = true then some ⟨a.alone, between⟩ else none

def sentByte (stop : Int) (ending : List (Master.Action Bool)) : WireMaster Bool :=
  let sending : List (Master.Action Bool) :=
    [.hardware .fetch, .isr, .hardware .ack, .hardware .fetch, .isr]
  run (WireMaster.step wireBuffers) (WireMaster.begun (fun _ _ => 0) 100000 [])
    [.beginTransmission 0x2D, .write (.byte 7),
      .endTransmission stop [] ⟨[unattended (sending ++ ending)], []⟩]

/-- After a write of one byte a request for no bytes that is not acknowledged returns 1. So does a
request that is rejected, as the slave still holds the clock when `endTransmission` gives up. -/
theorem request_returns_write_count :
    ¬ (sentByte 1 [.hardware .ack, .hardware .fetch, .hardware .stopDone, .isr]).ReadsReceived
        wireBuffers 0x2E 0 1 []
        ⟨[unattended [.hardware .fetch, .hardware .nak, .isr, .hardware .fetch,
          .hardware .stopDone, .isr]], []⟩ [] ∧
      ¬ (sentByte 1 []).ReadsReceived wireBuffers 0x2E 4 1 [] ⟨[], []⟩ [] :=
  ⟨fun reads => absurd reads.1 (by decide), fun reads => absurd reads.1 (by decide)⟩

/-- A request for two bytes that follows on a write without a STOP. -/
theorem register_read_returned :
    let wait := WireMaster.Wait.mk
      [unattended [.hardware .fetch, .hardware .ack, .hardware .fetch, .hardware (.receiveByte 7),
          .isr],
        unattended [.hardware (.receiveByte 8), .isr, .hardware .fetch, .hardware .stopDone, .isr]]
      []
    (sentByte 0 [.hardware .ack]).ReadsReceived wireBuffers 0x2D 2 1 [] wait [.read, .peek] ∧
      (((sentByte 0 [.hardware .ack]).requestFrom wireBuffers 0x2D 2 1 [] wait).1.read
        wireBuffers).2 = 7 := by
  intro wait
  refine ⟨?_, by decide⟩
  have right := (WireMaster.wire_reads_right wireBuffers (fun _ _ => 0) 100000 []
    [.beginTransmission 0x2D, .write (.byte 7),
      .endTransmission 0 [] ⟨[unattended [.hardware .fetch, .isr, .hardware .ack, .hardware .fetch,
        .isr, .hardware .ack]], []⟩]
    0x2D 2 1 [] wait [.read, .peek] (by decide)).2
  exact right
    { rejected := fun failed => absurd failed (by decide)
      unread := fun _ => by decide
      empty := fun _ none => absurd none (by decide)
      moved := fun _ _ => ⟨by decide, by decide⟩ }
    (fun unanswered => absurd unanswered (by decide))

end TeensyI2C
