import TeensyI2C.Slave.Alike

/-!
`stop_listening` followed by `listen`. The port is reset and the error code is cleared, but the
driver's state and its memory of a trailing byte survive: a slave that was interrupted between
frames starts afresh, one that was interrupted inside a read does not.
-/

namespace TeensyI2C
open ObjectMemory EventMachine

namespace Slave
variable {O σ : Type} [Inhabited O]

/-- A newly constructed slave with the buffers, callbacks and application of another one. -/
def reconstruct (s : Slave O σ) : Slave O σ :=
  let fresh : Slave O σ := { app := s.app, memory := s.memory }
  let fresh := fresh.setReceiveBuffer s.rxBuffer.buffer s.rxBuffer.size
  let fresh := fresh.setTransmitBuffer s.txBuffer.buffer s.txBuffer.size
  let fresh := fresh.afterReceive s.afterReceiveCallback
  let fresh := fresh.beforeTransmit s.beforeTransmitCallback
  fresh.afterTransmit s.afterTransmitCallback

/-- `stop_listening` and `listen`, with observation starting here. -/
def relisten (s : Slave O σ) (form : ListenForm) : Slave O σ :=
  { s.stopListening.listen form with trace := [] }

theorem port_relisten (s : Slave O σ) (form : ListenForm) :
    (s.relisten form).port = (s.reconstruct.listen form).port := by
  cases form <;> rfl

theorem alike_relisten {s : Slave O σ} (idle : s.state = .idle)
    (noTrailing : s.trailingByteSent = false) (form : ListenForm) :
    AlikeIn (.quiet false) (s.relisten form) (s.reconstruct.listen form) := by
  cases form <;> exact ⟨{
    state := idle
    trailing := noTrailing
    afterReceive := rfl
    beforeTransmit := rfl
    afterTransmit := rfl
    app := rfl
    memory := rfl
    trace := rfl
    receiveWindow := ⟨rfl, rfl⟩
    transmitWindow := ⟨rfl, rfl⟩
    receiving := fun busy => absurd (idle.symm.trans busy) (by simp)
    address := by simp [BusPhase.known]
    error := fun _ => rfl
    receive := by simp [BusPhase.known]
    transmit := by simp [BusPhase.known] }, fun _ _ => idle⟩

/-- What the application gives a slave: its buffers, callbacks, memory and own state. -/
structure Equipment (O σ : Type) where
  receiveBuffer : Pointer O
  receiveSize : Nat
  transmitBuffer : Pointer O
  transmitSize : Nat
  afterReceive : Option (Nat → UInt16 → Callback O σ)
  beforeTransmit : Option (UInt16 → Callback O σ)
  afterTransmit : Option (UInt16 → Callback O σ)
  app : σ
  memory : Memory O UInt8

def equip (s : Slave O σ) (e : Equipment O σ) : Slave O σ :=
  { s with
    rxBuffer := { s.rxBuffer with buffer := e.receiveBuffer, size := e.receiveSize }
    txBuffer := { s.txBuffer with buffer := e.transmitBuffer, size := e.transmitSize }
    afterReceiveCallback := e.afterReceive
    beforeTransmitCallback := e.beforeTransmit
    afterTransmitCallback := e.afterTransmit
    app := e.app
    memory := e.memory }

def equipment (s : Slave O σ) : Equipment O σ where
  receiveBuffer := s.rxBuffer.buffer
  receiveSize := s.rxBuffer.size
  transmitBuffer := s.txBuffer.buffer
  transmitSize := s.txBuffer.size
  afterReceive := s.afterReceiveCallback
  beforeTransmit := s.beforeTransmitCallback
  afterTransmit := s.afterTransmitCallback
  app := s.app
  memory := s.memory

variable [DecidableEq O]

/-- `stop_listening` and `listen` make a new slave of this one: the port is set up the same and
no legal sequence of status words tells the two apart. -/
def ListensClean (s : Slave O σ) : Prop :=
  ∀ form, (s.relisten form).port = (s.reconstruct.listen form).port ∧
    ∀ calls, (phaseAfter BusPhase.next (.quiet false) calls).isSome →
      observe isr observed (s.relisten form) calls =
        observe isr observed (s.reconstruct.listen form) calls

/-- What the condition gives a slave with its own buffers and callbacks. -/
theorem listensClean_of_idle {s : Slave O σ} (idle : s.state = .idle)
    (noTrailing : s.trailingByteSent = false) : s.ListensClean := by
  intro form
  refine ⟨s.port_relisten form, fun calls legal => ?_⟩
  obtain ⟨q, accepted⟩ := Option.isSome_iff_exists.mp legal
  exact (alike_relisten idle noTrailing form).observe_eq accepted

theorem relisten_frames {s : Slave O σ} (idle : s.state = .idle)
    (noTrailing : s.trailingByteSent = false) (form : ListenForm) (frames : List Frame) :
    observe isr observed (s.relisten form) (Frame.calls frames) =
      observe isr observed (s.reconstruct.listen form) (Frame.calls frames) :=
  (listensClean_of_idle idle noTrailing form).2 _ (by rw [Frame.phaseAfter_calls]; rfl)

/-- Every state of the driver: what construction, the driver's methods, the service routine and
the application between them can make of it. -/
inductive Reachable : Slave O σ → Prop where
  | construct (app : σ) (memory : Memory O UInt8) : Reachable { app := app, memory := memory }
  | application {s : Slave O σ} (app : σ) (memory : Memory O UInt8) :
      Reachable s → Reachable { s with app := app, memory := memory }
  | bufferCall {s : Slave O σ} (call : BufferCall O) : Reachable s → Reachable (s.bufferCall call)
  | afterReceive {s : Slave O σ} (callback : Option (Nat → UInt16 → Callback O σ)) :
      Reachable s → Reachable (s.afterReceive callback)
  | beforeTransmit {s : Slave O σ} (callback : Option (UInt16 → Callback O σ)) :
      Reachable s → Reachable (s.beforeTransmit callback)
  | afterTransmit {s : Slave O σ} (callback : Option (UInt16 → Callback O σ)) :
      Reachable s → Reachable (s.afterTransmit callback)
  | stopListening {s : Slave O σ} : Reachable s → Reachable s.stopListening
  | listen {s : Slave O σ} (form : ListenForm) : Reachable s → Reachable (s.listen form)
  | isr {s : Slave O σ} (status : SlaveStatus) : Reachable s → Reachable (s.isr status)

theorem Reachable.run {s : Slave O σ} (h : s.Reachable) (calls : List SlaveStatus) :
    (EventMachine.run Slave.isr s calls).Reachable :=
  run_invariant' (fun _ status h => .isr status h) calls h

theorem serveData_not_aborted {s : Slave O σ} (h : s.state ≠ .aborted) (status : SlaveStatus) :
    (serveTransmit status (serveReceive status s)).state ≠ .aborted := by
  have received : (serveReceive status s).state ≠ .aborted := by
    unfold serveReceive receiveData startReceiving storeReceived
    grind
  unfold serveTransmit transmitData
  split
  · rw [answerRequest_state]
    split
    · cases callback : (serveReceive status s).beforeTransmitCallback with
      | none =>
          rw [startTransmitting_none callback]
          simp
      | some callback =>
          rw [startTransmitting_some ‹_›, invoke_eq]
          simp [emit]
    · exact received
  · exact received

/-- Between two calls the driver is never aborted: a bit error ends the frame at once. -/
theorem Reachable.not_aborted {s : Slave O σ} (h : s.Reachable) : s.state ≠ .aborted := by
  induction h with
  | construct app memory => simp
  | application app memory _ ih => exact ih
  | bufferCall call _ ih => cases call <;> exact ih
  | afterReceive callback _ ih => exact ih
  | beforeTransmit callback _ ih => exact ih
  | afterTransmit callback _ ih => exact ih
  | stopListening _ ih => exact ih
  | listen form _ ih => cases form <;> exact ih
  | @isr s status _ ih =>
      have named : (s.serveAddress status).state ≠ .aborted := by
        obtain ⟨_, same⟩ := serveAddress_eq s status
        rw [same]
        exact ih
      have ended : (serveEnd status (s.serveAddress status)).state ≠ .aborted := by
        unfold serveEnd
        split
        · simp [endOfFrame]
        · exact named
      unfold Slave.isr serveBitError
      dsimp only
      split
      · simp [endOfFrame]
      · exact serveData_not_aborted ended status

/-- A read that begins where the driver still thinks itself inside a frame does not announce
itself to the application. -/
theorem not_listensClean_of_busy {s : Slave O σ} (busy : s.state = .receiving ∨
    s.state = .transmitting) : ∃ e, ¬ (s.equip e).ListensClean := by
  refine ⟨{ s.equipment with
    transmitSize := 0
    beforeTransmit := some fun _ _ memory app => { app := app, memory := memory } }, ?_⟩
  intro clean
  have same := (clean (.listen 0)).2 [{ avf := true, tdf := true }] rfl
  rcases busy with busy | busy <;>
    simp [observe, observed, relisten, reconstruct, equip, listen, listenWith, stopListening,
      isr, serveAddress, serveEnd, serveReceive, serveTransmit, serveBitError, transmitData,
      busy, SlaveState.code, answerRequest, I2CBuffer.initialised, emit, startTransmitting,
      setReceiveBuffer, setTransmitBuffer, I2CBuffer.initialise, Slave.afterReceive,
      Slave.beforeTransmit, Slave.afterTransmit, invoke] at same

/-- A trailing byte that is already counted makes the next read end in an underflow. -/
theorem not_listensClean_of_trailing {s : Slave O σ} (idle : s.state = .idle)
    (trailing : s.trailingByteSent = true) : ∃ e, ¬ (s.equip e).ListensClean := by
  refine ⟨{ s.equipment with transmitSize := 1, beforeTransmit := none }, ?_⟩
  intro clean
  have same := (clean (.listen 0)).2 [{ avf := true, tdf := true }, { tdf := true }] rfl
  simp [observe, observed, relisten, reconstruct, equip, listen, listenWith, stopListening,
    isr, serveAddress, serveEnd, serveReceive, serveTransmit, serveBitError, transmitData,
    idle, trailing, SlaveState.code, answerRequest, I2CBuffer.initialised, emit,
    startTransmitting, setReceiveBuffer, setTransmitBuffer, I2CBuffer.initialise,
    I2CBuffer.reset, I2CBuffer.hasDataAvailable, I2CBuffer.advance, sendNext,
    Slave.afterReceive, Slave.beforeTransmit, Slave.afterTransmit] at same

/-- Whatever it is equipped with, a stopped slave listens again like a new one exactly when it
was idle with no trailing byte outstanding. -/
theorem listensClean_iff {s : Slave O σ} (reachable : s.Reachable) :
    (∀ e, (s.equip e).ListensClean) ↔ s.state = .idle ∧ s.trailingByteSent = false := by
  constructor
  · intro clean
    have idle : s.state = .idle := by
      cases state : s.state with
      | idle => rfl
      | aborted => exact absurd state reachable.not_aborted
      | receiving =>
          obtain ⟨e, unclean⟩ := not_listensClean_of_busy (.inl state)
          exact absurd (clean e) unclean
      | transmitting =>
          obtain ⟨e, unclean⟩ := not_listensClean_of_busy (.inr state)
          exact absurd (clean e) unclean
    refine ⟨idle, ?_⟩
    cases trailing : s.trailingByteSent with
    | false => rfl
    | true =>
        obtain ⟨e, unclean⟩ := not_listensClean_of_trailing idle trailing
        exact absurd (clean e) unclean
  · intro ⟨idle, noTrailing⟩ e
    exact listensClean_of_idle idle noTrailing

end Slave

/-! ### A read that was cut short -/

def threeByteSlave : Slave Bool Unit :=
  let s : Slave Bool Unit := { app := (), memory := fun _ i => UInt8.ofNat (i + 1) }
  (s.setTransmitBuffer ⟨true, 0⟩ 3).listen (.listen 0x2D)

theorem threeByteSlave_reachable : threeByteSlave.Reachable :=
  .listen (.listen 0x2D)
    (.bufferCall (.setTransmitBuffer ⟨true, 0⟩ 3) (.construct () fun _ i => UInt8.ofNat (i + 1)))

def readOne : Frame where
  sasr := 0x5B
  transfer := .read 1
  stop := true
  ending := .prompt

/-- The slave has been asked for one byte when it is stopped. The next read is answered from the
second byte on. -/
theorem listen_not_clean :
    ¬ (run Slave.isr threeByteSlave [{ avf := true, sasr := 0x5B, tdf := true }]).ListensClean := by
  intro clean
  exact absurd ((clean (.listen 0x2D)).2 (Frame.calls [readOne]) rfl) (by decide)

theorem listensClean_after_read :
    ((run Slave.isr threeByteSlave (Frame.calls [readOne])).equip
      threeByteSlave.equipment).ListensClean :=
  (Slave.listensClean_iff (threeByteSlave_reachable.run _)).mpr (by decide) _

end TeensyI2C
