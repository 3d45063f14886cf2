import TeensyI2C.Lib.ClientPrograms
import TeensyI2C.Slave.HeardFrames
import TeensyI2C.WireMaster
import TeensyI2C.WireSlave

/-!
Sketches that do their work in the two handlers of `I2CDriverWire`. A handler runs inside the
service routine and may call any of `available`, `read`, `peek` and `write`, in any order. What it
finds there are two queues: the bytes of the last write that have not been read yet, and the answer
to the next read.
-/

namespace TeensyI2C
open ObjectMemory EventMachine ClientPrograms I2CDriverWire

/-! ### The methods that a handler may call -/

inductive HandlerCall where
  | available
  | read
  | peek
  | write (w : WireWrite)
deriving DecidableEq, Repr

/-- `write` returns a `size_t`, the others an `int`. -/
abbrev HandlerCall.Result : HandlerCall → Type
  | .available | .read | .peek => Int
  | .write _ => Nat

abbrev WireProgram (α : Type) := Program HandlerCall HandlerCall.Result α

/-- `if (handler) handler()`. -/
def ifSet {α : Type} : Option (α → WireProgram α) → α → WireProgram α
  | none, app => .done app
  | some handler, app => handler app

/-- The buffers and cursors of the object, as its methods find them. -/
structure WireView (O : Type) extends Outgoing O where
  rxBytesAvailable : Nat
  rxNextByteToRead : Nat

namespace WireView
variable {O : Type} [DecidableEq O] (B : WireBuffers O)

def nextByte (v : WireView O) : Pointer O := ⟨B.rxBuffer, v.rxNextByteToRead⟩

def call : Object HandlerCall HandlerCall.Result (WireView O)
  | .available, v => ((v.rxBytesAvailable : Int) - v.rxNextByteToRead, v)
  | .read, v =>
      if v.rxNextByteToRead < v.rxBytesAvailable then
        ((v.memory.load (v.nextByte B)).toNat,
          { v with
            rxNextByteToRead := v.rxNextByteToRead + 1
            accesses := v.accesses ++ [.fetch (v.nextByte B)] })
      else (noMoreBytes, v)
  | .peek, v =>
      if v.rxNextByteToRead < v.rxBytesAvailable then
        ((v.memory.load (v.nextByte B)).toNat,
          { v with accesses := v.accesses ++ [.fetch (v.nextByte B)] })
      else (noMoreBytes, v)
  | .write w, v =>
      let written := v.toOutgoing.write B w
      (written.2, { v with toOutgoing := written.1 })

end WireView

/-- What the methods amount to. -/
structure WireQueues where
  incoming : List UInt8
  outgoing : List UInt8
deriving DecidableEq, Repr

namespace WireQueues

/-- `tx_buffer` has room for 32 bytes. -/
def fits (q : WireQueues) : WireWrite → Bool
  | .byte _ => q.outgoing.length < txBufferLength
  | .block data => q.outgoing.length + data.length ≤ txBufferLength

def call : Object HandlerCall HandlerCall.Result WireQueues
  | .available, q => (q.incoming.length, q)
  | .read, q => (WireMaster.firstOf q.incoming, { q with incoming := q.incoming.tail })
  | .peek, q => (WireMaster.firstOf q.incoming, q)
  | .write w, q =>
      if q.fits w then (w.bytes.length, { q with outgoing := q.outgoing ++ w.bytes }) else (0, q)

end WireQueues

namespace WireView
variable {O : Type} [DecidableEq O] {B : WireBuffers O} {v : WireView O} {q : WireQueues}

/-- The arrays hold the two queues. -/
structure Holds (B : WireBuffers O) (v : WireView O) (q : WireQueues) : Prop where
  next : v.rxNextByteToRead ≤ v.rxBytesAvailable
  available : v.rxBytesAvailable ≤ rxBufferLength
  incoming :
    (v.memory.slice ⟨B.rxBuffer, 0⟩ v.rxBytesAvailable).drop v.rxNextByteToRead = q.incoming
  bounded : v.txNextByteToWrite ≤ txBufferLength
  outgoing : v.contents B = q.outgoing

omit [DecidableEq O] in
theorem Holds.length_incoming (holds : Holds B v q) :
    q.incoming.length = v.rxBytesAvailable - v.rxNextByteToRead := by
  rw [← holds.incoming, List.length_drop, Memory.length_slice]

omit [DecidableEq O] in
theorem Holds.length_outgoing (holds : Holds B v q) :
    q.outgoing.length = v.txNextByteToWrite := by
  rw [← holds.outgoing, Outgoing.contents, Memory.length_slice]

omit [DecidableEq O] in
/-- The byte at the cursor is the head of the queue. -/
theorem Holds.front (holds : Holds B v q) (some : v.rxNextByteToRead < v.rxBytesAvailable) :
    q.incoming = v.memory.load (v.nextByte B) ::
      (v.memory.slice ⟨B.rxBuffer, 0⟩ v.rxBytesAvailable).drop (v.rxNextByteToRead + 1) := by
  have inside :
      v.rxNextByteToRead < (v.memory.slice ⟨B.rxBuffer, 0⟩ v.rxBytesAvailable).length := by
    rw [Memory.length_slice]
    exact some
  rw [← holds.incoming, List.drop_eq_getElem_cons inside]
  congr 1
  have here := v.memory.getElem?_slice ⟨B.rxBuffer, 0⟩ v.rxBytesAvailable v.rxNextByteToRead
  rw [if_pos some, List.getElem?_eq_getElem inside, Pointer.mk_add, Nat.zero_add] at here
  exact Option.some.inj here

theorem Holds.put (holds : Holds B v q) (data : List UInt8)
    (fits : v.txNextByteToWrite + data.length ≤ txBufferLength) :
    Holds B { v with toOutgoing := v.toOutgoing.put B data }
      { q with outgoing := q.outgoing ++ data } := by
  have appends : Outgoing.Appends B v.toOutgoing (v.toOutgoing.put B data) data :=
    Outgoing.appends_put data fits
  refine ⟨holds.next, holds.available, ?_, appends.bounded, ?_⟩
  · have other : (v.toOutgoing.put B data).memory B.rxBuffer = v.memory B.rxBuffer :=
      Memory.storeAll_other _ _ _ B.separate.symm
    rw [← holds.incoming]
    exact congrArg (List.drop _) (Memory.slice_congr other _ _)
  · rw [← holds.outgoing]
    exact appends.contents

theorem Holds.write (holds : Holds B v q) (w : WireWrite) :
    (v.toOutgoing.write B w).2 = (WireQueues.call (.write w) q).1 ∧
      Holds B { v with toOutgoing := (v.toOutgoing.write B w).1 }
        (WireQueues.call (.write w) q).2 := by
  have count := holds.length_outgoing
  cases w with
  | byte data =>
      by_cases room : v.txNextByteToWrite < txBufferLength
      · have fits : q.fits (.byte data) = true := by simpa [WireQueues.fits, count] using room
        simp only [Outgoing.write, WireQueues.call, if_pos room, if_pos fits]
        exact ⟨rfl, holds.put [data] room⟩
      · have full : ¬ q.fits (.byte data) = true := by simpa [WireQueues.fits, count] using room
        simp only [Outgoing.write, WireQueues.call, if_neg room, if_neg full]
        exact ⟨trivial, holds⟩
  | block data =>
      have bounded := holds.bounded
      have room : data.length ≤ avail v.txNextByteToWrite ↔ q.fits (.block data) = true := by
        rw [avail_eq bounded, WireQueues.fits, decide_eq_true_iff, count]
        omega
      by_cases fits : q.fits (.block data) = true
      · simp only [Outgoing.write, WireQueues.call, if_pos (room.mpr fits), if_pos fits]
        refine ⟨rfl, holds.put data ?_⟩
        rwa [WireQueues.fits, decide_eq_true_iff, count] at fits
      · simp only [Outgoing.write, WireQueues.call, if_neg (mt room.mp fits), if_neg fits]
        exact ⟨trivial, holds⟩

theorem simulates : Simulates (call B) WireQueues.call (Holds B) where
  answer := by
    intro v q holds op
    cases op with
    | available =>
        have count := holds.length_incoming
        have next := holds.next
        change (v.rxBytesAvailable : Int) - v.rxNextByteToRead = q.incoming.length
        omega
    | read | peek =>
        change (ite _ _ _ : Int × WireView O).1 = WireMaster.firstOf q.incoming
        split
        · next some =>
          rw [holds.front some]
          rfl
        · next none =>
          have empty : q.incoming = [] := by
            apply List.eq_nil_of_length_eq_zero
            rw [holds.length_incoming]
            omega
          rw [empty]
          rfl
    | write w => exact (holds.write w).1
  state := by
    intro v q holds op
    cases op with
    | available => exact holds
    | read =>
        change Holds B (ite _ _ _ : Int × WireView O).2 _
        split
        · next some =>
          refine ⟨some, holds.available, ?_, holds.bounded, holds.outgoing⟩
          change _ = q.incoming.tail
          rw [holds.front some]
          rfl
        · next none =>
          refine ⟨holds.next, holds.available, ?_, holds.bounded, holds.outgoing⟩
          have empty : q.incoming = [] := by
            apply List.eq_nil_of_length_eq_zero
            rw [holds.length_incoming]
            omega
          change _ = q.incoming.tail
          rw [holds.incoming, empty]
          rfl
    | peek =>
        change Holds B (ite _ _ _ : Int × WireView O).2 _
        split
        · exact { holds with }
        · exact holds
    | write w => exact (holds.write w).2

end WireView

/-! ### The object in slave mode -/

structure SketchWire (ν : Type) where
  txNextByteToWrite : Nat := 0
  rxBytesAvailable : Nat := 0
  rxNextByteToRead : Nat := 0
  lastAddressCalled : UInt16 := 0xFF
  onReceive : Option (Int → ν → WireProgram ν) := none
  onRequest : Option (ν → WireProgram ν) := none
  app : ν

namespace SketchWire
variable {O ν : Type} [DecidableEq O] (B : WireBuffers O)

def view (wire : SketchWire ν) (memory : Memory O UInt8) : WireView O where
  memory := memory
  txNextByteToWrite := wire.txNextByteToWrite
  rxBytesAvailable := wire.rxBytesAvailable
  rxNextByteToRead := wire.rxNextByteToRead

def handle (wire : SketchWire ν) (memory : Memory O UInt8) (program : WireProgram ν) :
    SketchWire ν × WireView O :=
  let ran := program.exec (WireView.call B) (wire.view memory)
  ({ wire with
    txNextByteToWrite := ran.2.txNextByteToWrite
    rxBytesAvailable := ran.2.rxBytesAvailable
    rxNextByteToRead := ran.2.rxNextByteToRead
    app := ran.1 }, ran.2)

def onReceiveWrapper (numBytes : Nat) (address : UInt16) : Callback O (SketchWire ν) :=
  fun _ memory wire =>
    let wire := { wire with
      lastAddressCalled := address, rxBytesAvailable := numBytes, rxNextByteToRead := 0 }
    let handled := wire.handle B memory (ifSet (wire.onReceive.map (· numBytes)) wire.app)
    { app := handled.1, memory := handled.2.memory, accesses := handled.2.accesses }

def beforeTransmit (address : UInt16) : Callback O (SketchWire ν) := fun _ memory wire =>
  let wire := { wire with lastAddressCalled := address, txNextByteToWrite := 0 }
  let handled := wire.handle B memory (ifSet wire.onRequest wire.app)
  { app := handled.1
    memory := handled.2.memory
    accesses := handled.2.accesses
    calls := [.setTransmitBuffer ⟨B.txBuffer, 0⟩ handled.1.txNextByteToWrite] }

variable [Inhabited O]

/-- `end` does away with the callbacks. -/
def stopSlave (s : Slave O (SketchWire ν)) : Slave O (SketchWire ν) :=
  (s.stopListening.afterReceive none).beforeTransmit none

def prepareSlave (s : Slave O (SketchWire ν)) : Slave O (SketchWire ν) :=
  let s := stopSlave s
  let s := s.setReceiveBuffer ⟨B.rxBuffer, 0⟩ rxBufferLength
  let s := s.afterReceive (some (onReceiveWrapper B))
  s.beforeTransmit (some (beforeTransmit B))

def begin (s : Slave O (SketchWire ν)) (form : Slave.ListenForm) : Slave O (SketchWire ν) :=
  (prepareSlave B s).listen form

end SketchWire

/-! ### What the sketch makes of the frames -/

structure SketchState (ν : Type) extends WireQueues where
  app : ν
deriving DecidableEq, Repr

structure SketchHandlers (ν : Type) where
  onReceive : Option (Int → ν → WireProgram ν)
  onRequest : Option (ν → WireProgram ν)

namespace SketchHandlers
variable {ν : Type} (handlers : SketchHandlers ν)

def handle (queues : WireQueues) (program : WireProgram ν) : SketchState ν :=
  let ran := program.exec WireQueues.call queues
  { toWireQueues := ran.2, app := ran.1 }

/-- The handler finds the bytes that `rxBuffer` has room for. -/
def receive (k : SketchState ν) (bytes : List UInt8) : SketchState ν :=
  let incoming := bytes.take rxBufferLength
  handle { incoming := incoming, outgoing := k.outgoing }
    (ifSet (handlers.onReceive.map (· incoming.length)) k.app)

/-- The handler fills an empty `tx_buffer`. -/
def request (k : SketchState ν) : SketchState ν :=
  handle { incoming := k.incoming, outgoing := [] } (ifSet handlers.onRequest k.app)

def next (k : SketchState ν) : Transfer → SketchState ν
  | .write first rest => handlers.receive k (first :: rest)
  | .read _ => handlers.request k

/-- Everything that goes into STDR for a frame. -/
def answer (k : SketchState ν) : Transfer → List UInt8
  | .write _ _ => []
  | .read count => Slave.padded (handlers.request k).outgoing (count + 1)

end SketchHandlers

namespace SketchWire
variable {O ν : Type} [Inhabited O] {B : WireBuffers O} {handlers : SketchHandlers ν}

/-- The driver is between two frames, and the object holds the queues. -/
structure Rests (B : WireBuffers O) (handlers : SketchHandlers ν) (k : SketchState ν)
    (s : Slave O (SketchWire ν)) : Prop where
  afterTransmit : s.afterTransmitCallback = none
  idle : s.state = .idle
  handlers : s.app.onReceive = handlers.onReceive ∧ s.app.onRequest = handlers.onRequest
  app : s.app.app = k.app
  holds : WireView.Holds B (s.app.view s.memory) k.toWireQueues

/-- The same with the callbacks and the buffer that `begin` sets. -/
structure Runs (B : WireBuffers O) [DecidableEq O] (handlers : SketchHandlers ν) (k : SketchState ν)
    (s : Slave O (SketchWire ν)) : Prop extends Rests B handlers k s where
  afterReceive : s.afterReceiveCallback = some (onReceiveWrapper B)
  beforeTransmit : s.beforeTransmitCallback = some (SketchWire.beforeTransmit B)
  receive : s.rxBuffer.buffer = ⟨B.rxBuffer, 0⟩ ∧ s.rxBuffer.size = rxBufferLength

variable [DecidableEq O] {k : SketchState ν} {s : Slave O (SketchWire ν)}

omit [Inhabited O] in
theorem handle_represents {wire : SketchWire ν} {memory : Memory O UInt8} {q : WireQueues}
    (holds : WireView.Holds B (wire.view memory) q) (program : WireProgram ν) :
    let handled := wire.handle B memory program
    let after := SketchHandlers.handle q program
    handled.1.app = after.app ∧
      WireView.Holds B (handled.1.view handled.2.memory) after.toWireQueues ∧
      handled.1.onReceive = wire.onReceive ∧ handled.1.onRequest = wire.onRequest := by
  obtain ⟨same, holds⟩ := WireView.simulates.exec program holds
  exact ⟨same, { holds with }, rfl, rfl⟩

theorem Runs.serveAddress (runs : Runs B handlers k s) (status : SlaveStatus) :
    Runs B handlers k (s.serveAddress status) := by
  obtain ⟨address, named⟩ := Slave.serveAddress_eq s status
  rw [named]
  exact { runs with }

theorem Runs.hasBuffer (runs : Runs B handlers k s) : s.rxBuffer.initialised = true := by
  rw [I2CBuffer.initialised, runs.receive.2]
  rfl

/-- `on_receive` finds the new bytes, and the answer to the next read as it was. -/
theorem Runs.receives (runs : Runs B handlers k s) (bytes : List UInt8) (address : UInt16)
    (error : I2CError) :
    let kept := bytes.take rxBufferLength
    let reply := onReceiveWrapper B kept.length address error
      (s.memory.storeAll ⟨B.rxBuffer, 0⟩ kept) s.app
    let after := handlers.receive k bytes
    reply.app.app = after.app ∧ WireView.Holds B (reply.app.view reply.memory) after.toWireQueues ∧
      reply.app.onReceive = handlers.onReceive ∧ reply.app.onRequest = handlers.onRequest := by
  intro kept reply after
  let memory := s.memory.storeAll ⟨B.rxBuffer, 0⟩ kept
  let wire : SketchWire ν :=
    { s.app with
      lastAddressCalled := address, rxBytesAvailable := kept.length, rxNextByteToRead := 0 }
  have holds : WireView.Holds B (wire.view memory) ⟨kept, k.outgoing⟩ := by
    refine ⟨Nat.zero_le _, List.length_take_le _ _, ?_, runs.holds.bounded, ?_⟩
    · change (memory.slice ⟨B.rxBuffer, 0⟩ kept.length).drop 0 = kept
      rw [List.drop_zero, Memory.slice_storeAll_self _ _ _ _ (Nat.le_refl _),
        List.drop_eq_nil_of_le (by simp), List.append_nil]
    · have other : memory B.txBuffer = s.memory B.txBuffer :=
        Memory.storeAll_other _ _ _ B.separate
      rw [← runs.holds.outgoing]
      exact Memory.slice_congr other _ _
  have same : after = SketchHandlers.handle ⟨kept, k.outgoing⟩
      (ifSet (wire.onReceive.map (· kept.length)) wire.app) := by
    have app : wire.app = k.app := runs.app
    have handler : wire.onReceive = handlers.onReceive := runs.handlers.1
    rw [app, handler]
    rfl
  obtain ⟨app, holds, receive, request⟩ :=
    handle_represents holds (ifSet (wire.onReceive.map (· kept.length)) wire.app)
  rw [same]
  exact ⟨app, holds, receive.trans runs.handlers.1, request.trans runs.handlers.2⟩

theorem Runs.write (runs : Runs B handlers k s) (first : UInt8) (rest : List UInt8)
    (status : SlaveStatus) :
    let t := Transfer.write first rest
    Runs B handlers (handlers.next k t)
      ((run Slave.isr s t.calls).serveAddress status).endOfFrame := by
  intro t
  have calls : t.calls = Frame.dataCalls {} ⟨0, t, true, .prompt⟩ := rfl
  obtain ⟨address, error, trace, ended⟩ := Slave.endOfFrame_run_write
    (f := ⟨0, t, true, .prompt⟩) rfl runs.hasBuffer runs.afterReceive status
  have length : min (rest.length + 1) rxBufferLength =
      ((first :: rest).take rxBufferLength).length := by
    rw [List.length_take, List.length_cons, Nat.min_comm]
  dsimp only at ended
  rw [calls, ended, runs.receive.1, runs.receive.2, length]
  obtain ⟨app, holds, receive, request⟩ := runs.receives (first :: rest) address error
  exact ⟨⟨runs.afterTransmit, rfl, ⟨receive, request⟩, app, holds⟩, runs.afterReceive,
    runs.beforeTransmit, ⟨rfl, rfl⟩⟩

/-- `on_request` finds an empty `tx_buffer`, and the driver sends what is in it afterwards. -/
theorem Runs.requests (runs : Runs B handlers k s) (address : UInt16) (error : I2CError) :
    let reply := SketchWire.beforeTransmit B address error s.memory s.app
    let after := handlers.request k
    reply.app.app = after.app ∧ WireView.Holds B (reply.app.view reply.memory) after.toWireQueues ∧
      reply.app.onReceive = handlers.onReceive ∧ reply.app.onRequest = handlers.onRequest := by
  intro reply after
  let wire : SketchWire ν := { s.app with lastAddressCalled := address, txNextByteToWrite := 0 }
  have holds : WireView.Holds B (wire.view s.memory) ⟨k.incoming, []⟩ :=
    ⟨runs.holds.next, runs.holds.available, runs.holds.incoming, Nat.zero_le _, rfl⟩
  have same : after =
      SketchHandlers.handle ⟨k.incoming, []⟩ (ifSet wire.onRequest wire.app) := by
    have app : wire.app = k.app := runs.app
    have handler : wire.onRequest = handlers.onRequest := runs.handlers.2
    rw [app, handler]
    rfl
  obtain ⟨app, holds, receive, request⟩ :=
    handle_represents holds (ifSet wire.onRequest wire.app)
  rw [same]
  exact ⟨app, holds, receive.trans runs.handlers.1, request.trans runs.handlers.2⟩

theorem Runs.startTransmitting (runs : Runs B handlers k s) :
    let started := s.startTransmitting
    let after := handlers.request k
    Runs B handlers after { started with state := .idle } ∧
      started.memory.slice started.txBuffer.buffer started.txBuffer.size = after.outgoing ∧
      busBytes started.trace = busBytes s.trace := by
  intro started after
  obtain ⟨app, holds, receive, request⟩ := runs.requests s.addressCalled .ok
  have begun := Slave.startTransmitting_some runs.beforeTransmit
  rw [Slave.invoke_eq] at begun
  simp only [started, begun]
  refine ⟨⟨⟨runs.afterTransmit, rfl, ⟨receive, request⟩, app, holds⟩, runs.afterReceive,
    runs.beforeTransmit, runs.receive⟩, holds.outgoing, ?_⟩
  simp [Slave.emit, busBytes]

theorem Runs.read (runs : Runs B handlers k s) (count : Nat) (status : SlaveStatus) :
    Runs B handlers (handlers.request k)
      ((run Slave.isr s (Transfer.read count).calls).serveAddress status).endOfFrame := by
  obtain ⟨started, -, -⟩ := runs.startTransmitting
  obtain ⟨address, named⟩ :=
    Slave.serveAddress_eq (run Slave.isr s (Transfer.read count).calls) status
  let last : Slave O (SketchWire ν) :=
    { s.startTransmitting.rewound.answered (count + 1) with addressCalled := address }
  have served : (run Slave.isr s (Transfer.read count).calls).serveAddress status = last := by
    rw [named, Transfer.calls, Slave.run_readCalls runs.idle count]
  have transmitting : last.state = .transmitting := Slave.startTransmitting_state s
  rw [served, Slave.endOfFrame_transmitting_none transmitting started.afterTransmit]
  exact { started with }

theorem handlers_account (B : WireBuffers O) (handlers : SketchHandlers ν) :
    Account handlers.next handlers.answer (Runs B handlers) where
  idle runs := runs.idle
  address runs status := runs.serveAddress status
  frame := by
    intro k s runs t status
    cases t with
    | write first rest => exact runs.write first rest status
    | read count => exact runs.read count status
  answers := by
    intro k s runs t
    cases t with
    | write first rest =>
        have calls : (Transfer.write first rest).calls =
            Frame.dataCalls {} ⟨0, .write first rest, true, .prompt⟩ := rfl
        obtain ⟨error, events, served, silent⟩ :=
          Slave.run_write (f := ⟨0, .write first rest, true, .prompt⟩) rfl runs.hasBuffer
        rw [calls, served, busBytes_append, silent]
        rfl
    | read count =>
        obtain ⟨-, bytes, before⟩ := runs.startTransmitting
        have served : run Slave.isr s (Transfer.read count).calls =
            s.startTransmitting.rewound.answered (count + 1) :=
          Slave.run_readCalls runs.idle count
        rw [served, SketchHandlers.answer, ← bytes, ← before,
          ← Slave.busBytes_answers_rewound]
        exact busBytes_append _ _
  silent _ _ _ := rfl
  grows _ count := by
    simp only [SketchHandlers.answer]
    rw [← Slave.take_padded _ (count + 1)]
    exact List.take_prefix _ _

def withHandlers (handlers : SketchHandlers ν) (app : ν) (memory : Memory O UInt8) :
    Slave O (SketchWire ν) where
  app := { onReceive := handlers.onReceive, onRequest := handlers.onRequest, app := app }
  memory := memory

omit [DecidableEq O] in
theorem rests_withHandlers (B : WireBuffers O) (handlers : SketchHandlers ν) (app : ν)
    (memory : Memory O UInt8) :
    Rests B handlers { incoming := [], outgoing := [], app := app }
      (withHandlers handlers app memory) :=
  ⟨rfl, rfl, ⟨rfl, rfl⟩, rfl, ⟨Nat.le_refl _, Nat.zero_le _, rfl, Nat.zero_le _, rfl⟩⟩

theorem Rests.begin (rests : Rests B handlers k s) (form : Slave.ListenForm) :
    Runs B handlers k (begin B s form) := by
  obtain ⟨afterTransmit, idle, handlers, app, holds⟩ := rests
  cases form <;> exact ⟨⟨afterTransmit, idle, handlers, app, holds⟩, rfl, rfl, ⟨rfl, rfl⟩⟩

/-- However the bus and the service routine take turns, every read is answered with what its
handler has written for it and zeros after that. Once everything has been served it has been
answered in full, and the sketch is where its handlers, run on two queues, have brought it. -/
theorem handlers_run_on_queues (B : WireBuffers O) (handlers : SketchHandlers ν) (app : ν)
    (memory : Memory O UInt8) (form : Slave.ListenForm) (events : List BusEvent) :
    let start : SketchState ν := { incoming := [], outgoing := [], app := app }
    let x := run Heard.step (Heard.listening (begin B (withHandlers handlers app memory) form))
      events
    let answer := fun frames => Slave.padded
      (handlers.request (run handlers.next start (transfers frames))).outgoing
    (∀ newer f older count, x.frames = newer ++ f :: older → f.transfer = some (.read count) →
      f.answered <+: answer older (count + 1)) ∧
    (x.Settled →
      let k := run handlers.next start (transfers x.frames)
      (∀ newer f older count, x.frames = newer ++ f :: older →
        f.transfer = some (.read count) → f.answered = answer older (count + 1)) ∧
      x.bus.slave.app.app = k.app ∧
        WireView.Holds B (x.bus.slave.app.view x.bus.slave.memory) k.toWireQueues) := by
  intro start x answer
  have accounted := Heard.accounted_run (handlers_account B handlers)
    ((rests_withHandlers B handlers app memory).begin form) events
  refine ⟨fun newer f older count frames read => accounted.answered_read frames read,
    fun settled => ⟨fun newer f older count frames read =>
      accounted.answered_settled settled frames read, ?_⟩⟩
  have runs := (accounted.settled settled).1
  exact ⟨runs.app, runs.holds⟩

end SketchWire
end TeensyI2C
