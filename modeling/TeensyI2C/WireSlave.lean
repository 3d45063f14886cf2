import TeensyI2C.WireBuffers
import TeensyI2C.RegisterSlave.Registers
import TeensyI2C.Slave.Transfers

/-!
`I2CDriverWire` in slave mode over `IMX_RT1060_I2CSlave`. The sketch writes to `tx_buffer` from
`loop()` and from its `on_request` handler; the driver calls the handler when a master starts to
read, and then sends the buffer up to the cursor. What the object owes the master is recorded
beside it.
-/

namespace TeensyI2C
open ObjectMemory EventMachine I2CDriverWire

/-- The object's own state. `ν` is that of the sketch. -/
structure WireSlave (ν : Type) where
  txNextByteToWrite : Nat := 0
  lastAddressCalled : UInt16 := 0xFF
  /-- The writes that the handler makes, and what it does to the sketch. -/
  onRequest : Option (ν → List WireWrite × ν) := none
  app : ν

namespace WireSlave
variable {O ν : Type} [DecidableEq O] (B : WireBuffers O)

/-- Call `on_request`, if it is set. The last component is what its writes accept. -/
def request (memory : Memory O UInt8) (wire : WireSlave ν) :
    WireSlave ν × Outgoing O × List UInt8 :=
  let out : Outgoing O := { memory := memory, txNextByteToWrite := wire.txNextByteToWrite }
  match wire.onRequest with
  | none => (wire, out, [])
  | some handler =>
      let written := out.writeEach B (handler wire.app).1
      ({ wire with
        txNextByteToWrite := written.1.txNextByteToWrite
        app := (handler wire.app).2 }, written)

def beforeTransmit (address : UInt16) : Callback O (WireSlave ν) := fun _ memory wire =>
  let wire := { wire with lastAddressCalled := address, txNextByteToWrite := 0 }
  let requested := request B memory wire
  { app := requested.1
    memory := requested.2.1.memory
    accesses := requested.2.1.accesses
    calls := [.setTransmitBuffer ⟨B.txBuffer, 0⟩ requested.1.txNextByteToWrite] }

theorem appends_request (memory : Memory O UInt8) (wire : WireSlave ν)
    (empty : wire.txNextByteToWrite = 0) :
    Outgoing.Appends B { memory := memory, txNextByteToWrite := 0 } (request B memory wire).2.1
        (request B memory wire).2.2 ∧
      (request B memory wire).1.txNextByteToWrite =
        (request B memory wire).2.1.txNextByteToWrite := by
  unfold request
  rw [empty]
  cases handler : wire.onRequest with
  | none => exact ⟨Outgoing.appends_refl (Nat.zero_le _), empty⟩
  | some handler' => exact ⟨Outgoing.appends_writeEach (Nat.zero_le _) _, rfl⟩

/-- After the handler `tx_buffer` holds, up to the cursor, exactly what its writes have accepted. -/
theorem request_fills (memory : Memory O UInt8) (wire : WireSlave ν)
    (empty : wire.txNextByteToWrite = 0) :
    (request B memory wire).1.txNextByteToWrite = (request B memory wire).2.2.length ∧
      (request B memory wire).2.2.length ≤ txBufferLength ∧
      (request B memory wire).2.1.memory.slice ⟨B.txBuffer, 0⟩ (request B memory wire).2.2.length =
        (request B memory wire).2.2 := by
  obtain ⟨appends, cursor⟩ := appends_request B memory wire empty
  have filled : (request B memory wire).2.1.txNextByteToWrite =
      (request B memory wire).2.2.length := by
    rw [appends.cursor, Nat.zero_add]
  refine ⟨cursor.trans filled, filled.ge.trans appends.bounded, ?_⟩
  have contents := appends.contents
  unfold Outgoing.contents at contents
  rw [filled] at contents
  simpa [Memory.slice] using contents

variable [Inhabited O]

def begun (onReceiveWrapper : Nat → UInt16 → Callback O (WireSlave ν)) (memory : Memory O UInt8)
    (wire : WireSlave ν) (form : Slave.ListenForm) : Slave O (WireSlave ν) :=
  let s : Slave O (WireSlave ν) := { app := wire, memory := memory }
  let s := s.stopListening
  let s := (s.afterReceive none).beforeTransmit none
  let s := s.setReceiveBuffer ⟨B.rxBuffer, 0⟩ rxBufferLength
  let s := s.afterReceive (some onReceiveWrapper)
  let s := s.beforeTransmit (some (beforeTransmit B))
  s.listen form

/-! ### Runs -/

/-- What `loop()` does between two interrupts. -/
inductive LoopCall (ν : Type) where
  | write (w : WireWrite)
  | onRequest (handler : Option (ν → List WireWrite × ν))
  | sketch (update : ν → ν)

def outgoing (s : Slave O (WireSlave ν)) : Outgoing O where
  memory := s.memory
  txNextByteToWrite := s.app.txNextByteToWrite

def loopCall (s : Slave O (WireSlave ν)) : LoopCall ν → Slave O (WireSlave ν)
  | .write w =>
      let out := ((outgoing s).write B w).1
      { s with
        memory := out.memory
        app := { s.app with txNextByteToWrite := out.txNextByteToWrite } }
  | .onRequest handler => { s with app := { s.app with onRequest := handler } }
  | .sketch update => { s with app := { s.app with app := update s.app.app } }

inductive WireEvent (ν : Type) where
  | loop (call : LoopCall ν)
  | isr (status : SlaveStatus)

def serviced (events : List (WireEvent ν)) : List SlaveStatus :=
  events.filterMap fun
    | .loop _ => none
    | .isr status => some status

/-- A read frame: what the sketch has had accepted for it, and how many bytes the port has asked
for. -/
structure Serving where
  fromLoop : List UInt8
  fromHandler : List UInt8
  requests : Nat
deriving DecidableEq, Repr

/-- The concatenation of all the data that was accepted for the frame. -/
def Serving.promised (f : Serving) : List UInt8 := f.fromLoop ++ f.fromHandler

/-- The object with a record beside it. -/
structure Recorded (O ν : Type) [Inhabited O] where
  slave : Slave O (WireSlave ν)
  /-- A read frame is under way. -/
  reading : Bool := false
  /-- Accepted from `loop()` since the latest read frame began. -/
  fromLoop : List UInt8 := []
  frames : List Serving := []

namespace Recorded

def accepted (x : Recorded O ν) : LoopCall ν → List UInt8
  | .write w => (outgoing x.slave).accepted B w
  | .onRequest _ | .sketch _ => []

def requested (s : Slave O (WireSlave ν)) : List UInt8 :=
  (request B s.memory { s.app with txNextByteToWrite := 0 }).2.2

/-- The frame under way goes on: its end has not been reported. -/
def goesOn (x : Recorded O ν) (h : SlaveStatus) : Bool := x.reading && !h.frameEnded

def askOnce : List Serving → List Serving
  | [] => []
  | f :: older => { f with requests := f.requests + 1 } :: older

def step (x : Recorded O ν) : WireEvent ν → Recorded O ν
  | .loop call =>
      { x with
        slave := loopCall B x.slave call
        fromLoop := x.fromLoop ++ x.accepted B call }
  | .isr h =>
      let next := { x with slave := x.slave.isr h, reading := x.goesOn h || h.tdf }
      if h.tdf then
        if x.goesOn h then { next with frames := askOnce x.frames }
        else
          { next with
            fromLoop := []
            frames := ⟨x.fromLoop, requested B x.slave, 1⟩ :: x.frames }
      else next

/-- No read frame starts while there is data from `loop()` to send. -/
def NothingFromLoop (x : Recorded O ν) : WireEvent ν → Prop
  | .loop _ => True
  | .isr h => h.tdf = true → x.goesOn h = false → x.fromLoop = []

/-! ### What the object delivers -/

variable {B}

/-- The driver sends what the handler has written, from memory that `loop()` only adds to. -/
structure Sends (B : WireBuffers O) (f : Serving) (s : Slave O (WireSlave ν)) : Prop where
  txBuffer : s.txBuffer =
    ⟨⟨B.txBuffer, 0⟩, f.fromHandler.length, min f.requests f.fromHandler.length⟩
  below : f.fromHandler.length ≤ s.app.txNextByteToWrite
  bytes : s.memory.slice ⟨B.txBuffer, 0⟩ f.fromHandler.length = f.fromHandler

def sent (f : Serving) : List UInt8 := Slave.padded f.fromHandler f.requests

structure Serves (B : WireBuffers O) (x : Recorded O ν) : Prop where
  beforeTransmit : x.slave.beforeTransmitCallback = some (beforeTransmit B)
  afterTransmit : x.slave.afterTransmitCallback = none
  bounded : x.slave.app.txNextByteToWrite ≤ txBufferLength
  state : x.slave.state = if x.reading then .transmitting else .idle
  current : x.reading = true → ∃ f older, x.frames = f :: older ∧ Sends B f x.slave
  bus : busBytes x.slave.trace = (x.frames.reverse.map sent).flatten

variable {x : Recorded O ν}

theorem Sends.loopCall {f : Serving} {s : Slave O (WireSlave ν)} (sends : Sends B f s)
    (bounded : s.app.txNextByteToWrite ≤ txBufferLength) (call : LoopCall ν) :
    Sends B f (loopCall B s call) := by
  cases call with
  | onRequest handler => exact { sends with }
  | sketch update => exact { sends with }
  | write w =>
      have inside : (outgoing s).txNextByteToWrite ≤ txBufferLength := bounded
      have appends := Outgoing.appends_write (B := B) inside w
      refine ⟨sends.txBuffer, ?_, ?_⟩
      · rw [WireSlave.loopCall, appends.cursor]
        exact Nat.le_trans sends.below (Nat.le_add_right _ _)
      · exact (appends.slice_below sends.below).trans sends.bytes

theorem Serves.loop (serves : Serves B x) (call : LoopCall ν) :
    Serves B (x.step B (.loop call)) := by
  have bounded : (WireSlave.loopCall B x.slave call).app.txNextByteToWrite ≤ txBufferLength := by
    cases call with
    | write w =>
        have inside : (outgoing x.slave).txNextByteToWrite ≤ txBufferLength := serves.bounded
        exact (Outgoing.appends_write (B := B) inside w).bounded
    | onRequest handler => exact serves.bounded
    | sketch update => exact serves.bounded
  have others : WireSlave.loopCall B x.slave call = { x.slave with
      memory := (WireSlave.loopCall B x.slave call).memory
      app := (WireSlave.loopCall B x.slave call).app } := by
    cases call <;> rfl
  refine ⟨?_, ?_, bounded, ?_, ?_, ?_⟩
  · exact (congrArg Slave.beforeTransmitCallback others).trans serves.beforeTransmit
  · exact (congrArg Slave.afterTransmitCallback others).trans serves.afterTransmit
  · exact (congrArg Slave.state others).trans serves.state
  · intro reading
    obtain ⟨f, older, latest, sends⟩ := serves.current reading
    exact ⟨f, older, latest, sends.loopCall serves.bounded call⟩
  · exact (congrArg (fun s => busBytes s.trace) others).trans serves.bus

theorem Serves.serveEnd_eq (serves : Serves B x) (h : SlaveStatus) :
    ∃ address trailing, Slave.serveEnd h (x.slave.serveAddress h) =
      { x.slave with
        addressCalled := address
        trailingByteSent := trailing
        state := if x.goesOn h then .transmitting else .idle } := by
  obtain ⟨address, named⟩ := Slave.serveAddress_eq x.slave h
  have state := serves.state
  rw [named]
  cases ended : h.frameEnded with
  | false =>
      have running : (h.rsf || h.sdf) = false := ended
      refine ⟨address, x.slave.trailingByteSent, ?_⟩
      simp [Slave.serveEnd, running, goesOn, ended, ← state]
  | true =>
      have reported : (h.rsf || h.sdf) = true := ended
      simp only [Slave.serveEnd, reported, if_true, goesOn, ended, Bool.not_true, Bool.and_false,
        Bool.false_eq_true, if_false]
      cases reading : x.reading with
      | true =>
          rw [reading] at state
          rw [Slave.endOfFrame_transmitting_none (s := { x.slave with addressCalled := address })
            state serves.afterTransmit]
          exact ⟨address, false, rfl⟩
      | false =>
          have idle : x.slave.state = .idle := by simpa [reading] using state
          rw [Slave.endOfFrame_idle (s := { x.slave with addressCalled := address }) idle]
          exact ⟨address, x.slave.trailingByteSent, by rw [← idle]⟩

theorem Serves.serveEnd (serves : Serves B x) (h : SlaveStatus) :
    Serves B { x with
      slave := Slave.serveEnd h (x.slave.serveAddress h)
      reading := x.goesOn h } := by
  obtain ⟨address, trailing, ended⟩ := serves.serveEnd_eq h
  rw [ended]
  refine { serves with state := rfl, current := fun goesOn => ?_ }
  have reading : x.reading = true := by
    simp only [Recorded.goesOn, Bool.and_eq_true] at goesOn
    exact goesOn.1
  obtain ⟨f, older, latest, sends⟩ := serves.current reading
  exact ⟨f, older, latest, { sends with }⟩

theorem Serves.answer (serves : Serves B x) (reading : x.reading = true) :
    Serves B { x with slave := x.slave.transmitData, frames := askOnce x.frames } := by
  obtain ⟨f, older, latest, sends⟩ := serves.current reading
  have busy : x.slave.state = .transmitting := by simp [serves.state, reading]
  have served : x.slave.transmitData = x.slave.answered 1 := by
    rw [Slave.transmitData_eq_later busy, ← Slave.answerRequest_later, Slave.answered_zero]
  have answered := Slave.busBytes_answers x.slave.memory x.slave.txBuffer 1
  rw [served]
  have buffer := sends.txBuffer
  have moved : min f.requests f.fromHandler.length +
      min 1 (f.fromHandler.length - min f.requests f.fromHandler.length) =
        min (f.requests + 1) f.fromHandler.length := by omega
  -- The bytes behind the driver's cursor are those of the handler that have not been sent.
  have left : x.slave.memory.slice (I2CBuffer.cursor ⟨⟨B.txBuffer, 0⟩, f.fromHandler.length,
      min f.requests f.fromHandler.length⟩)
      (f.fromHandler.length - min f.requests f.fromHandler.length) =
        f.fromHandler.drop f.requests := by
    have rest := congrArg (List.drop (min f.requests f.fromHandler.length)) sends.bytes
    rw [Memory.drop_slice] at rest
    refine rest.trans ?_
    rcases Nat.le_total f.requests f.fromHandler.length with before | past
    · rw [Nat.min_eq_left before]
    · rw [Nat.min_eq_right past, List.drop_eq_nil_of_le (Nat.le_refl _),
        List.drop_eq_nil_of_le past]
  refine ⟨serves.beforeTransmit, serves.afterTransmit, serves.bounded, serves.state, ?_, ?_⟩
  · intro _
    refine ⟨{ f with requests := f.requests + 1 }, older, by rw [latest]; rfl, ?_⟩
    refine ⟨?_, sends.below, sends.bytes⟩
    simp only [Slave.answered, buffer, moved]
  · have bus : busBytes (x.slave.answered 1).trace = busBytes x.slave.trace ++
        Slave.padded (f.fromHandler.drop f.requests) 1 := by
      rw [Slave.answered, busBytes_append, answered, buffer, left]
    rw [bus, serves.bus, latest]
    simp only [askOnce, List.reverse_cons, List.map_append, List.flatten_append, List.map_cons,
      List.map_nil, List.flatten_cons, List.flatten_nil, List.append_nil, List.append_assoc]
    rw [sent, sent, Slave.padded_add]

/-- The first request of a frame calls the handler, and finds the cursor that it leaves. -/
theorem Serves.start (serves : Serves B x) (quiet : x.reading = false) :
    Serves B { x with
      slave := x.slave.transmitData
      reading := true
      fromLoop := []
      frames := ⟨x.fromLoop, requested B x.slave, 1⟩ :: x.frames } := by
  have idle : x.slave.state = .idle := by simp [serves.state, quiet]
  let wire := { x.slave.app with
    lastAddressCalled := x.slave.addressCalled, txNextByteToWrite := 0 }
  let bytes := (request B x.slave.memory wire).2.2
  obtain ⟨cursor, bounded, written⟩ :
      (request B x.slave.memory wire).1.txNextByteToWrite = bytes.length ∧
        bytes.length ≤ txBufferLength ∧
        (request B x.slave.memory wire).2.1.memory.slice ⟨B.txBuffer, 0⟩ bytes.length = bytes :=
    request_fills B x.slave.memory wire rfl
  have accepted : requested B x.slave = bytes := by
    unfold requested bytes request
    cases x.slave.app.onRequest <;> rfl
  obtain ⟨trace, bus, started⟩ : ∃ trace, busBytes trace = busBytes x.slave.trace ∧
      x.slave.startTransmitting = { x.slave with
        error := .ok
        state := .transmitting
        app := (request B x.slave.memory wire).1
        memory := (request B x.slave.memory wire).2.1.memory
        txBuffer := ⟨⟨B.txBuffer, 0⟩, bytes.length, 0⟩
        trace := trace } := by
    rw [Slave.startTransmitting_some serves.beforeTransmit, Slave.invoke_eq, ← cursor]
    refine ⟨_, ?_, rfl⟩
    simp [Slave.emit, busBytes]
  have served : x.slave.transmitData = x.slave.startTransmitting.rewound.answered 1 := by
    rw [Slave.transmitData_eq_first idle, ← Slave.answerRequest_later, Slave.answered_zero]
  have answered := Slave.busBytes_answers_rewound x.slave.startTransmitting
    x.slave.startTransmitting.memory 1
  rw [served, accepted]
  rw [started] at answered ⊢
  refine ⟨serves.beforeTransmit, serves.afterTransmit, cursor.trans_le bounded, rfl,
    fun _ => ?_, ?_⟩
  · refine ⟨_, _, rfl, ?_, cursor.ge, written⟩
    cases bytes.length <;> rfl
  · refine (busBytes_append _ _).trans ?_
    refine (congrArg₂ (· ++ ·) bus answered).trans ?_
    dsimp only
    rw [written, serves.bus]
    simp [sent]

/-- The words of read frames without bit errors. -/
def ReadWord : WireEvent ν → Prop
  | .loop _ => True
  | .isr h => h.rdf = false ∧ h.bef = false

theorem Serves.step (serves : Serves B x) {e : WireEvent ν} (word : ReadWord e) :
    Serves B (x.step B e) := by
  cases e with
  | loop call => exact serves.loop call
  | isr h =>
      have served : x.slave.isr h =
          (Slave.serveEnd h (x.slave.serveAddress h)).serveTransmit h := by
        simp [Slave.isr, Slave.serveReceive, Slave.serveBitError, word.1, word.2]
      have ended := serves.serveEnd h
      cases request : h.tdf with
      | false =>
          have silent : x.slave.isr h = Slave.serveEnd h (x.slave.serveAddress h) := by
            simp [served, Slave.serveTransmit, request]
          simpa [Recorded.step, request, silent] using ended
      | true =>
          have sent : x.slave.isr h =
              (Slave.serveEnd h (x.slave.serveAddress h)).transmitData := by
            simp [served, Slave.serveTransmit, request]
          cases goesOn : x.goesOn h with
          | true =>
              rw [goesOn] at ended
              simpa [Recorded.step, request, goesOn, sent] using ended.answer rfl
          | false =>
              have unread : requested B (Slave.serveEnd h (x.slave.serveAddress h)) =
                  requested B x.slave := by
                obtain ⟨address, trailing, kept⟩ := serves.serveEnd_eq h
                rw [kept]
                rfl
              rw [goesOn] at ended
              simpa [Recorded.step, request, goesOn, sent, unread] using ended.start rfl

theorem Serves.run (serves : Serves B x) {events : List (WireEvent ν)}
    (words : ∀ e ∈ events, ReadWord e) :
    Serves B (EventMachine.run (Recorded.step B) x events) := by
  induction events generalizing x with
  | nil => exact serves
  | cons e events ih =>
      exact ih (serves.step (words e (by simp)))
        fun e' member => words e' (List.mem_cons_of_mem e member)

theorem fromLoop_of_queued {events : List (WireEvent ν)}
    (queued : Along (step B) NothingFromLoop x events)
    (initial : ∀ f ∈ x.frames, f.fromLoop = []) :
    ∀ f ∈ (EventMachine.run (step B) x events).frames, f.fromLoop = [] := by
  refine run_invariant (I := fun x : Recorded O ν => ∀ f ∈ x.frames, f.fromLoop = [])
    (fun x e before ok => ?_) initial queued
  cases e with
  | loop call => exact before
  | isr h =>
      unfold step
      dsimp only
      split
      · rename_i request
        split
        · cases older : x.frames with
          | nil => simp [askOnce]
          | cons f fs =>
              rw [older] at before
              simpa [askOnce] using before
        · rename_i first
          have nothing := ok request (by simpa using first)
          simpa [nothing] using before
      · exact before

/-! ### Complete frames -/

def count (f : Frame) : Nat :=
  match f.transfer with
  | .read count => count
  | .write _ _ => 0

/-- The requests of each frame so far, as the words alone tell them. -/
def countRequests (p : Bool × List Nat) (h : SlaveStatus) : Bool × List Nat :=
  let goesOn := p.1 && !h.frameEnded
  (goesOn || h.tdf,
    match h.tdf, goesOn, p.2 with
    | true, true, requests :: older => (requests + 1) :: older
    | true, false, older => 1 :: older
    | _, _, older => older)

theorem run_countRequests (x : Recorded O ν) (events : List (WireEvent ν)) :
    ((run (step B) x events).reading, (run (step B) x events).frames.map Serving.requests) =
      run countRequests (x.reading, x.frames.map Serving.requests) (serviced events) := by
  induction events generalizing x with
  | nil => rfl
  | cons e events ih =>
      rw [run_cons, ih]
      cases e with
      | loop call => rfl
      | isr h =>
          change _ = run countRequests (countRequests _ h) (serviced events)
          congr 1
          obtain ⟨slave, reading, fromLoop, frames⟩ := x
          cases tdf : h.tdf <;> cases ended : h.frameEnded <;> cases reading <;> cases frames <;>
            simp [step, countRequests, goesOn, askOnce, tdf, ended]

theorem countRequests_dataCalls {f : Frame} (read : f.transfer = .read (count f)) {reading : Bool}
    {opening : SlaveStatus} (starts : (reading && !opening.frameEnded) = false)
    (older : List Nat) :
    run countRequests (reading, older) (f.dataCalls opening) = (true, (count f + 1) :: older) := by
  have later : ∀ n k, run countRequests (true, k :: older) (List.replicate n { tdf := true }) =
      (true, (k + n) :: older) := by
    intro n
    induction n with
    | zero => intro k; rfl
    | succ n ih =>
        intro k
        rw [List.replicate_succ, run_cons]
        refine (ih (k + 1)).trans ?_
        rw [Nat.add_right_comm, Nat.add_assoc]
  have first : countRequests (reading, older) { opening with tdf := true } =
      (true, 1 :: older) := by
    have starts' : (reading && !SlaveStatus.frameEnded { opening with tdf := true }) = false :=
      starts
    simp [countRequests, starts']
  rw [Frame.dataCalls, read]
  dsimp only
  rw [run_cons, first, later, Nat.add_comm 1]

theorem countRequests_endFlag (f : Frame) (p : Bool × List Nat) (avf : Bool) (sasr : UInt16) :
    countRequests p { f.endFlag with avf := avf, sasr := sasr } = (false, p.2) := by
  cases hs : f.stop <;> simp [countRequests, Frame.endFlag, SlaveStatus.frameEnded, hs]

theorem countRequests_callsFrom {reading : Bool} {opening : SlaveStatus}
    (starts : (reading && !opening.frameEnded) = false) (f : Frame) (fs : List Frame)
    (reads : ∀ g ∈ f :: fs, g.transfer = .read (count g)) (older : List Nat) :
    run countRequests (reading, older) (f.callsFrom opening fs) =
      (false, ((f :: fs).map (count · + 1)).reverse ++ older) := by
  induction fs generalizing f reading opening older with
  | nil =>
      rw [Frame.callsFrom, run_append, countRequests_dataCalls (reads f (by simp)) starts]
      exact countRequests_endFlag f _ false 0
  | cons g gs ih =>
      have rest : ∀ g' ∈ g :: gs, g'.transfer = .read (count g') :=
        fun g' member => reads g' (List.mem_cons_of_mem f member)
      rw [Frame.callsFrom, run_append, countRequests_dataCalls (reads f (by simp)) starts,
        List.map_cons, List.reverse_cons, List.append_assoc, List.singleton_append]
      cases f.ending with
      | prompt =>
          exact (congrArg (run countRequests · _) (countRequests_endFlag f _ false 0)).trans
            (ih rfl g rest _)
      | withAddress =>
          exact (congrArg (run countRequests · _) (countRequests_endFlag f _ true g.sasr)).trans
            (ih rfl g rest _)
      | withData =>
          refine ih ?_ g rest _
          cases hs : f.stop <;> simp [Frame.endFlag, SlaveStatus.frameEnded, hs]

theorem readWords_dataCalls {opening : SlaveStatus}
    (word : opening.rdf = false ∧ opening.bef = false) {f : Frame}
    (read : f.transfer = .read (count f)) :
    ∀ h ∈ f.dataCalls opening, h.rdf = false ∧ h.bef = false := by
  intro h member
  rw [Frame.dataCalls, read] at member
  rcases List.mem_cons.mp member with rfl | later
  · exact word
  · rw [List.eq_of_mem_replicate later]
    exact ⟨rfl, rfl⟩

theorem readWords_callsFrom {opening : SlaveStatus}
    (word : opening.rdf = false ∧ opening.bef = false) (f : Frame) (fs : List Frame)
    (reads : ∀ g ∈ f :: fs, g.transfer = .read (count g)) :
    ∀ h ∈ f.callsFrom opening fs, h.rdf = false ∧ h.bef = false := by
  induction fs generalizing f opening with
  | nil =>
      intro h member
      rw [Frame.callsFrom] at member
      rcases List.mem_append.mp member with inside | last
      · exact readWords_dataCalls word (reads f (by simp)) h inside
      · rw [List.mem_singleton.mp last]
        exact ⟨rfl, rfl⟩
  | cons g gs ih =>
      have rest : ∀ g' ∈ g :: gs, g'.transfer = .read (count g') :=
        fun g' member => reads g' (List.mem_cons_of_mem f member)
      intro h member
      rw [Frame.callsFrom] at member
      rcases List.mem_append.mp member with inside | later
      · exact readWords_dataCalls word (reads f (by simp)) h inside
      · cases ending : f.ending with
        | prompt =>
            rw [ending] at later
            rcases List.mem_cons.mp later with rfl | later
            · exact ⟨rfl, rfl⟩
            · exact ih ⟨rfl, rfl⟩ g rest h later
        | withAddress =>
            rw [ending] at later
            rcases List.mem_cons.mp later with rfl | later
            · exact ⟨rfl, rfl⟩
            · exact ih ⟨rfl, rfl⟩ g rest h later
        | withData =>
            rw [ending] at later
            exact ih ⟨rfl, rfl⟩ g rest h later

theorem received_sent (served : List Serving) (frames : List Frame)
    (requests : served.map Serving.requests = frames.map (count · + 1))
    (reads : ∀ f ∈ frames, f.transfer = .read (count f)) :
    Registers.received (frames.map (·.transfer)) (served.map sent).flatten =
      List.zipWith Slave.padded (served.map Serving.fromHandler) (frames.map count) := by
  induction frames generalizing served with
  | nil =>
      obtain rfl : served = [] := List.map_eq_nil_iff.mp requests
      rfl
  | cons f frames ih =>
      cases served with
      | nil => simp at requests
      | cons g served =>
          simp only [List.map_cons, List.cons.injEq] at requests
          have length : (sent g).length = count f + 1 := by
            rw [sent, Slave.length_padded, requests.1]
          rw [List.map_cons, List.map_cons, List.map_cons, List.map_cons, List.flatten_cons,
            reads f (by simp), Registers.received, List.zipWith_cons_cons,
            List.take_append_of_le_length (by omega), List.drop_append_of_le_length (by omega),
            List.drop_eq_nil_of_le (by omega), List.nil_append,
            ih served requests.2 fun f' member => reads f' (List.mem_cons_of_mem f member)]
          rw [sent, requests.1, Slave.take_padded]

def start (B : WireBuffers O) (onReceiveWrapper : Nat → UInt16 → Callback O (WireSlave ν))
    (memory : Memory O UInt8) (app : ν) (form : Slave.ListenForm) : Recorded O ν where
  slave := begun B onReceiveWrapper memory { app := app } form

/-- Each read frame has brought the master the data that was accepted for it, and zeros. -/
def Delivers (x : Recorded O ν) (frames : List Frame) : Prop :=
  Registers.received (frames.map (·.transfer)) (busBytes x.slave.trace) =
    List.zipWith Slave.padded (x.frames.reverse.map Serving.promised) (frames.map count)

variable (onReceiveWrapper : Nat → UInt16 → Callback O (WireSlave ν)) (memory : Memory O UInt8)
  (app : ν) (form : Slave.ListenForm)

theorem serves_start : Serves B (start B onReceiveWrapper memory app form) := by
  cases form <;> exact {
    beforeTransmit := rfl
    afterTransmit := rfl
    bounded := Nat.zero_le _
    state := rfl
    current := fun reading => absurd reading (by simp [start])
    bus := rfl }

theorem readWords_of_calls {frames : List Frame} {events : List (WireEvent ν)}
    (calls : serviced events = Frame.calls frames)
    (reads : ∀ f ∈ frames, f.transfer = .read (count f)) : ∀ e ∈ events, ReadWord e := by
  intro e member
  cases e with
  | loop call => trivial
  | isr h =>
      have here : h ∈ serviced events := List.mem_filterMap.mpr ⟨.isr h, member, rfl⟩
      rw [calls] at here
      cases frames with
      | nil => simp [Frame.calls] at here
      | cons f fs => exact readWords_callsFrom ⟨rfl, rfl⟩ f fs reads h here

/-- Whatever is written and read, and in whatever order, the cursor stays inside `tx_buffer`; and
if no read starts while there is data from `loop()` to send, each read brings the master what has
been accepted for it. -/
theorem wire_slave_delivers {frames : List Frame} {events : List (WireEvent ν)}
    (calls : serviced events = Frame.calls frames)
    (reads : ∀ f ∈ frames, f.transfer = .read (count f)) :
    (Along (step B) NothingFromLoop (start B onReceiveWrapper memory app form) events →
      Delivers (EventMachine.run (step B) (start B onReceiveWrapper memory app form) events)
        frames) ∧
    ∀ before after, events = before ++ after →
      (EventMachine.run (step B) (start B onReceiveWrapper memory app form)
        before).slave.app.txNextByteToWrite ≤ txBufferLength := by
  have words := readWords_of_calls calls reads
  have begins := serves_start (B := B) onReceiveWrapper memory app form
  refine ⟨fun queued => ?_, ?_⟩
  · have served := (begins.run words).bus
    have fromHandler : ∀ f ∈ (EventMachine.run (step B) (start B onReceiveWrapper memory app form)
        events).frames.reverse, f.promised = f.fromHandler := by
      intro f member
      rw [Serving.promised, fromLoop_of_queued queued (by simp [start]) f
        (List.mem_reverse.mp member), List.nil_append]
    have requests := congrArg Prod.snd
      (run_countRequests (B := B) (start B onReceiveWrapper memory app form) events)
    rw [calls] at requests
    have counted : run countRequests (false, []) (Frame.calls frames) =
        (false, (frames.map (count · + 1)).reverse) := by
      cases frames with
      | nil => rfl
      | cons f fs =>
          exact (countRequests_callsFrom rfl f fs reads []).trans (by rw [List.append_nil])
    have asked := congrArg List.reverse (requests.trans (congrArg Prod.snd counted))
    rw [← List.map_reverse, List.reverse_reverse] at asked
    rw [Delivers, served, received_sent _ _ asked reads, List.map_congr_left fromHandler]
  · rintro before after rfl
    exact (begins.run fun e member => words e (List.mem_append_left _ member)).bounded

def readFrame (count : Nat) : Frame where
  sasr := 0x5B
  transfer := .read count
  stop := true
  ending := .prompt

/-- A handler that answers a read with the next byte of the sketch's list, three times. -/
def answering : List UInt8 → List WireWrite × List UInt8
  | [] => ([], [])
  | data :: more => ([.byte data, .block [data, data]], more)

def afterBegin : Recorded Bool (List UInt8) :=
  start wireBuffers (fun _ _ _ memory wire => { app := wire, memory := memory })
    (fun _ _ => 0) [0xAA, 0xBB] (.listen 0x2D)

def oneRead (before : List (LoopCall (List UInt8))) (count : Nat) :
    List (WireEvent (List UInt8)) :=
  before.map .loop ++ (Frame.calls [readFrame count]).map .isr

/-- The byte that `loop()` has written is accepted, and the master reads a zero. -/
theorem wire_slave_loses_loop_data :
    serviced (oneRead [.write (.byte 0x55)] 1) = Frame.calls [readFrame 1] ∧
      ¬ Delivers (run (step wireBuffers) afterBegin (oneRead [.write (.byte 0x55)] 1))
        [readFrame 1] := by
  unfold Delivers
  decide

theorem wire_slave_delivers_four :
    Delivers (run (step wireBuffers) afterBegin (oneRead [.onRequest (some answering)] 4))
      [readFrame 4] :=
  (wire_slave_delivers (B := wireBuffers) _ _ _ _ (by decide) (by decide)).1
    ⟨trivial, fun _ _ => rfl, fun _ _ => rfl, fun _ _ => rfl, fun _ _ => rfl, fun _ _ => rfl,
      fun _ _ => rfl, trivial⟩

end Recorded
end WireSlave
end TeensyI2C
