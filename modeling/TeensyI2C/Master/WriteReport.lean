import TeensyI2C.Master.Delivery
import TeensyI2C.Master.FailedTransaction
import TeensyI2C.Master.QuietStart
import TeensyI2C.Master.TransmitFifo

/-!
Whether a write that is reported as finished and free of errors has reached the slave. The driver
takes an empty transmit FIFO for the end of the transfer, but the last byte leaves the FIFO before
the slave has answered it. A write that ends with a STOP waits for that STOP; one that does not is
reported too early.
-/

namespace TeensyI2C
open ObjectMemory Interference EventMachine MasterPort

namespace Master
variable {O : Type} [Inhabited O] {s t : Master O} {data : UInt8} {words : List Command}

/-- The words of a write up to the cursor. -/
def sentWords (data : UInt8) (s : Master O) : List Command :=
  writeWords data (s.memory.slice s.buff.buffer s.buff.nextIndex)

theorem sentWords_transmitNext (s : Master O) :
    s.transmitNext.sentWords data =
      s.sentWords data ++ [.transmit (s.memory.load s.buff.cursor)] := by
  change writeWords data (s.memory.slice s.buff.buffer (s.buff.nextIndex + 1)) = _
  rw [Memory.slice_concat, writeWords, List.map_append]
  rfl

/-- Bytes are still to be sent, or the driver waits for the FIFO to run empty. -/
def Filling (data : UInt8) (s : Master O) : Prop :=
  s.state.ready = false ∧ s.port.Sending (s.sentWords data)

/-- All bytes have been sent. Once the driver is ready they have all been acknowledged. -/
structure Ended (data : UInt8) (s : Master O) : Prop where
  last : s.buff.nextIndex = s.buff.size
  halted : s.state ≠ .transferring
  closing : s.port.Closing (s.sentWords data)
  ready : s.state.ready = true → s.port.Acknowledged (s.sentWords data)

/-- A write of `words` is going on. -/
structure Writing (data : UInt8) (words : List Command) (s : Master O) : Prop where
  writing : s.ignoreTdf = false
  words : writeWords data (s.memory.slice s.buff.buffer s.buff.size) = words
  some : s.buff.size ≠ 0
  progress : s.Filling data ∨ s.Ended data

theorem fill_sends {P : List Command → MasterPort → Prop}
    (stable : ∀ bytes, Stable MasterPort.apply (P (writeWords data bytes)))
    (sends : ∀ words p byte, P words p → P (words ++ [.transmit byte]) (p.send (.transmit byte)))
    (fifoSpace : Nat) (sent : P (s.sentWords data) s.port) :
    P ((s.fill fifoSpace).sentWords data) (s.fill fifoSpace).port := by
  induction fifoSpace generalizing s with
  | zero => exact sent
  | succ fifoSpace ih =>
      unfold fill
      split
      · refine ih (s := s.transmitNext) ?_
        rw [sentWords_transmitNext]
        exact sends _ _ _ (pass_stable (stable _) sent)
      · exact sent

theorem sending_fill (fifoSpace : Nat) (sending : s.port.Sending (s.sentWords data)) :
    (s.fill fifoSpace).port.Sending ((s.fill fifoSpace).sentWords data) :=
  fill_sends (fun _ => stable_sending) (fun _ _ _ sending => sending.send _) fifoSpace sending

theorem sending_refill (sending : s.port.Sending (s.sentWords data)) :
    s.refill.port.Sending (s.refill.sentWords data) :=
  sending_fill _ (pass_stable (s := s) stable_sending sending)

/-- When the ISR finds that the FIFO is empty after the last byte of a write without STOP, the
slave has acknowledged this byte. -/
def LastByteTaken (s : Master O) : Prop :=
  s.buff.finishedWriting = true → s.pass.port.txFifoCount = 0 → s.stopOnCompletion = false →
    s.pass.port.executing = none ∧ s.pass.port.msr.failed = false

theorem ended_disable (last : s.buff.nextIndex = s.buff.size) (halted : s.state ≠ .transferring)
    (closing : s.port.Closing (s.sentWords data))
    (ready : s.state.ready = true → s.port.Acknowledged (s.sentWords data)) :
    (s.access (setMen false)).Ended data where
  last := last
  halted := halted
  closing := stable_closing.access (fun _ => (quiet_of_mem (by simp)).closing) closing
  ready := fun now =>
    (stable_acknowledged _).access (fun _ => (quiet_of_mem (by simp)).taken) (ready now)

theorem progress_finishWriting (busy : s.state = .transferring)
    (sending : s.port.Sending (s.sentWords data)) (bound : s.port.txFifo.length ≤ numFifos)
    (taken : s.LastByteTaken) : s.finishWriting.Filling data ∨ s.finishWriting.Ended data := by
  have waiting : s.state.ready = false := by rw [busy]; rfl
  have passed : s.pass.port.Sending (s.sentWords data) := pass_stable stable_sending sending
  unfold finishWriting
  dsimp only
  split
  · next finished =>
    have last : s.buff.nextIndex = s.buff.size := by
      simpa [I2CBuffer.finishedWriting] using finished
    split
    · next none =>
      refine .inr ?_
      have quiet : Quiet (setTdie false) := quiet_of_mem (by simp)
      have masked : (s.pass.access (setTdie false)).port.Sending (s.sentWords data) :=
        stable_sending.access (fun _ => quiet.sending rfl) passed
      by_cases stop : s.stopOnCompletion = true
      · rw [if_pos (by exact stop)]
        have stopped : (s.pass.access (setTdie false)).pass.port.Sending (s.sentWords data) :=
          pass_stable stable_sending masked
        exact ended_disable last (by simp) stopped.closing_stop
          (by simp [MasterState.ready, MasterState.code])
      · rw [if_neg (by exact stop)]
        have empty := txFifo_eq_nil (pass_stable (stable_txFifo numFifos) bound) none
        obtain ⟨idle, unfailed⟩ := taken finished none (by simpa using stop)
        have acknowledged : s.pass.port.Acknowledged (s.sentWords data) :=
          passed.acknowledged (by simp [sentWords, writeWords]) unfailed empty idle
        exact ended_disable last (by simp) masked.closing
          fun _ => (stable_acknowledged _).access (fun _ => quiet.taken) acknowledged
    · exact .inl ⟨waiting, passed⟩
  · exact .inl ⟨waiting, sending⟩

theorem Writing.moved (writing : s.Writing data words)
    (driver : t.toMasterDriver = s.toMasterDriver) (moves : Drives (fun _ => False) s t) :
    t.Writing data words := by
  have keeps {P : MasterPort → Prop} (stable : Stable MasterPort.apply P) (h : P s.port) :
      P t.port := moves.keeps stable (fun _ none => none.elim) h
  have sent : t.sentWords data = s.sentWords data := by rw [sentWords, driver, sentWords]
  refine ⟨by rw [driver]; exact writing.writing, by rw [driver]; exact writing.words,
    by rw [driver]; exact writing.some, ?_⟩
  rcases writing.progress with ⟨waiting, sending⟩ | ⟨last, halted, closing, ready⟩
  · refine .inl ⟨by rw [driver]; exact waiting, ?_⟩
    rw [sent]
    exact keeps stable_sending sending
  · refine .inr ⟨by rw [driver]; exact last, by rw [driver]; exact halted, ?_, ?_⟩
    · rw [sent]
      exact keeps stable_closing closing
    · rw [sent, driver]
      exact fun now => keeps (stable_acknowledged _) (ready now)

theorem Writing.serveStop (writing : s.Writing data words) (msr : Msr)
    (unfailed : s.port.msr.failed = false) (own : msr.sdf = true → s.port.stopSeen = true) :
    (s.serveStop msr).Writing data words := by
  by_cases ended : msr.sdf = true
  · have driver := serveStop_driver (s := s) ended
    have sent : (s.serveStop msr).sentWords data = s.sentWords data := by
      rw [sentWords, driver, sentWords]
    have known :
        [setTdie false, clearSdf] ⊆ [setTdie false, setTdie true, setMen false, clearSdf] := by
      simp
    have quiet (f : MasterPort → MasterPort) (listed : f ∈ [setTdie false, clearSdf]) : Quiet f :=
      quiet_of_mem (known listed)
    have driven := drives_serveStop msr s
    refine ⟨by rw [driver]; exact writing.writing, by rw [driver]; exact writing.words,
      by rw [driver]; exact writing.some, ?_⟩
    rcases writing.progress with ⟨_, sending⟩ | ⟨last, _, closing, _⟩
    · have unseen := (sending.resolve_left (by simp [unfailed])).2.2
      simp [own ended] at unseen
    · refine .inr ⟨by rw [driver]; exact last, by rw [driver]; simp, ?_, fun _ => ?_⟩
      · rw [sent]
        exact driven.keeps stable_closing (fun f listed _ => (quiet f listed).closing) closing
      · rw [sent]
        refine driven.keeps (stable_acknowledged _) (fun f listed _ => (quiet f listed).taken) ?_
        exact (closing.resolve_left (by simp [unfailed])).2 (own ended)
  · rw [serveStop_quiet (by simpa using ended)]
    exact writing

theorem Writing.serveTransmit (writing : s.Writing data words) (msr : Msr)
    (bound : s.port.txFifo.length ≤ numFifos)
    (taken : msr.tdf = true → s.beginTransfer.state = .transferring →
      s.beginTransfer.refill.LastByteTaken) :
    (s.serveTransmit msr).Writing data words := by
  have kept : KeepsBuffer s (s.serveTransmit msr) :=
    keepsBuffer_continues (continues_serveTransmit msr s)
  refine ⟨kept.ignoreTdf.trans writing.writing, ?_, by rw [kept.window.2]; exact writing.some, ?_⟩
  · rw [memory_serveTransmit, kept.window.1, kept.window.2]
    exact writing.words
  · unfold Master.serveTransmit transferOut
    split
    · next asked =>
      have empty : msr.tdf = true := (Bool.and_eq_true_iff.mp asked).2
      rcases writing.progress with ⟨waiting, sending⟩ | ended
      · split
        · next busy =>
          have sent : s.beginTransfer.sentWords data = s.sentWords data := by
            unfold beginTransfer
            split <;> rfl
          refine progress_finishWriting ((state_fill _ _).trans busy) (sending_refill ?_)
            (txFifo_refill (by rwa [port_beginTransfer])) (taken empty busy)
          rwa [port_beginTransfer, sent]
        · next idle =>
          rw [beginTransfer_of_ne idle]
          exact .inl ⟨waiting, sending⟩
      · have started : s.beginTransfer = s :=
          beginTransfer_started (by rw [ended.last]; exact writing.some)
        rw [started, if_neg ended.halted]
        exact .inr ended
    · exact writing.progress

theorem sending_sendStart (address direction : UInt8) (empty : s.port.txFifo = []) :
    (s.sendStart address direction).port.Sending
      (writeWords (((address &&& 0x7F) <<< 1) ||| direction) []) := by
  obtain ⟨p, ⟨⟨awaiting, queued⟩, unseen⟩, men, sent⟩ := sendStart_awaiting address direction empty
  rw [sent]
  exact .inr ⟨.inl ⟨awaiting, congrArg (· ++ _) queued⟩, men, unseen⟩

theorem writing_writeAsync {address : UInt8} {buffer : Pointer O} {numBytes : Nat}
    {sendStop : Bool} (bound : s.port.txFifo.length ≤ numFifos) (some : numBytes ≠ 0)
    (accepted : (s.writeAsync address buffer numBytes sendStop).error = .ok) :
    let data := ((address &&& 0x7F) <<< 1) ||| masterWrite
    (s.writeAsync address buffer numBytes sendStop).Writing data
      (writeWords data (s.memory.slice buffer numBytes)) := by
  intro data
  obtain ⟨go, driver, call⟩ := writeAsync_accepted some accepted
  rcases start_cases address masterWrite (s := { s with calls := s.calls + 1 }) bound with
    ⟨_, t, _, empty, started⟩ | ⟨refused, _⟩
  · have sending := sending_sendStart address masterWrite empty
    rw [← started] at sending
    rw [call]
    refine ⟨congrArg MasterDriver.ignoreTdf driver,
      congrArg (fun d => writeWords data (d.memory.slice buffer numBytes)) driver, some,
      .inl ⟨congrArg (fun d => d.state.ready) driver, ?_⟩⟩
    exact stable_sending.access (fun _ => (quiet_of_mem (by simp)).sending rfl) sending
  · simp [go] at refused

variable [DecidableEq O] {a : Step O}

/-- The ISR goes on with a write that has met no error. A STOP that it finds is the write's, no
byte has come in, and the last byte has been taken when a write without STOP is reported. -/
def ReportsInTime (s : Master O) : Prop :=
  let msr := s.port.msr
  let t := (s.serveStop msr).beginTransfer
  (msr.sdf = true → s.port.stopSeen = true) ∧ msr.rdf = false ∧
    (msr.tdf = true → t.state = .transferring → t.refill.LastByteTaken)

instance (s : Master O) : Decidable s.ReportsInTime := by
  unfold ReportsInTime LastByteTaken
  infer_instance

theorem isr_writing (unfailed : s.pass.port.msr.failed = false)
    (none : s.pass.port.msr.rdf = false) :
    s.isr = (s.pass.serveStop s.pass.port.msr).serveTransmit s.pass.port.msr := by
  rw [Master.isr, serveErrors_quiet unfailed, serveReceive, if_neg (by simp [none])]

theorem Writing.isr (writing : s.Writing data words) (bound : s.port.txFifo.length ≤ numFifos)
    (unfailed : s.pass.port.msr.failed = false) (inTime : s.pass.ReportsInTime) :
    s.isr.Writing data words := by
  obtain ⟨own, none, taken⟩ := inTime
  have looked : s.pass.Writing data words := writing.moved rfl (drives_pass _ s)
  have ended := looked.serveStop s.pass.port.msr unfailed own
  have short : (s.pass.serveStop s.pass.port.msr).port.txFifo.length ≤ numFifos :=
    txFifo_kept (drives_serveStop _ s.pass) (by simp [registerWrites])
      (pass_stable (stable_txFifo _) bound)
  rw [isr_writing unfailed none]
  exact ended.serveTransmit _ short taken

/-- The error of a write that has failed is not forgotten, and a write that has not failed goes on
as it should. -/
def WriteReported (s : Master O) (a : Step O) : Prop :=
  s.NotRestarted a ∧
    (¬ s.Failing a → s.Interrupts a → (s.atSnapshot a).ReportsInTime)

instance (s : Master O) (a : Step O) : Decidable (s.WriteReported a) := by
  unfold WriteReported NotRestarted Failing Restarts Interrupts
  infer_instance

theorem Writing.step (writing : s.Writing data words) (bound : s.port.txFifo.length ≤ numFifos)
    (between : a.action.betweenCalls = true) (unfailed : ¬ s.Failing a)
    (reported : s.WriteReported a) : (s.step a).Writing data words := by
  by_cases interrupts : s.Interrupts a
  · rw [step_interrupts interrupts]
    have scheduled : (s.schedule a.meanwhile).Writing data words := writing.moved rfl .refl
    refine scheduled.isr bound ?_ (reported.2 unfailed interrupts)
    simp only [Failing, not_or, not_and, Bool.not_eq_true] at unfailed
    exact unfailed.2 interrupts
  · exact writing.moved (step_driver (Action.isCall_of_betweenCalls between) interrupts)
      (drives_step _ between interrupts)

/-- What holds from a call of `write_async` until the next call. -/
structure Reporting (data : UInt8) (words : List Command) (s : Master O) : Prop where
  settled : s.Settled
  bound : s.port.txFifo.length ≤ numFifos
  progress : s.hasError = true ∨ s.Writing data words

theorem Reporting.step (reporting : s.Reporting data words)
    (between : a.action.betweenCalls = true) (reported : s.WriteReported a) :
    (s.step a).Reporting data words where
  settled := reporting.settled.step a
  bound := txFifo_step a reporting.bound
  progress := by
    by_cases failing : s.Failing a
    · exact .inl (step_keeps reporting.settled (Action.isCall_of_betweenCalls between) failing
        (reported.1 failing)).1
    · have writing := reporting.progress.resolve_left fun error => failing (.inl error)
      exact .inr (writing.step reporting.bound between failing reported)

omit [DecidableEq O] in
theorem Reporting.acknowledged (reporting : s.Reporting data words) (finished : s.finished = true)
    (unfailed : s.hasError = false) : s.port.Acknowledged words := by
  have ready := ready_of_finished finished
  obtain ⟨_, same, _, ⟨waiting, _⟩ | ended⟩ := reporting.progress.resolve_left (by simp [unfailed])
  · simp [ready] at waiting
  · have taken := ended.ready ready
    rwa [sentWords, ended.last, same] at taken

/-- A write that has been reported as finished without an error has been acknowledged by the slave:
its address and all its bytes. -/
theorem clean_write_acknowledged (memory : Memory O UInt8) (history : List (Step O))
    (address : UInt8) (buffer : Pointer O) (numBytes : Nat) (sendStop : Bool)
    (meanwhile : List (List BusEvent)) (steps : List (Step O)) (some : numBytes ≠ 0)
    (between : ∀ a ∈ steps, a.action.betweenCalls = true) :
    let s := run step (fresh memory) history
    let call := { action := .writeAsync address buffer numBytes sendStop, meanwhile := meanwhile }
    let t := run step s (call :: steps)
    Along step WriteReported (s.step call) steps → t.finished = true → t.hasError = false →
      t.port.Acknowledged (writeWords (((address &&& 0x7F) <<< 1) ||| masterWrite)
        (s.memory.slice buffer numBytes)) := by
  intro s call t reported finished unfailed
  let data := ((address &&& 0x7F) <<< 1) ||| masterWrite
  let words := writeWords data (s.memory.slice buffer numBytes)
  have settled : s.Settled := settled_run memory history
  have bound : s.port.txFifo.length ≤ numFifos := txFifo_run memory history
  have called : (s.step call).Reporting data words := by
    refine ⟨settled.step call, txFifo_step call bound, ?_⟩
    by_cases error : (s.step call).hasError = true
    · exact .inl error
    · have accepted : (s.step call).error = .ok := by simpa [hasError] using error
      exact .inr (writing_writeAsync (s := s.schedule meanwhile) bound some accepted)
  have reporting : t.Reporting data words := by
    change (run step (s.step call) steps).Reporting data words
    exact run_invariant_of_kind (fun _ _ reporting => reporting.step) called between reported
  exact reporting.acknowledged finished unfailed

end Master

/-! ### A write of one byte without STOP -/

def powerUp : List (Master.Step Bool) := [(Master.Action.begin 100000).alone]

/-- The slave acknowledges its address while the byte waits in the FIFO, and then the rest
happens. -/
def addressTaken (rest : List (Master.Action Bool)) : List (Master.Step Bool) :=
  (.hardware .fetch :: .isr :: .hardware .ack :: .hardware .fetch :: rest).map Master.Action.alone

def writeOneByte : Master.Step Bool :=
  (Master.Action.writeAsync 0x2D ⟨true, 0⟩ 1 false).alone

/-- The ISR runs while the byte is being sent. -/
theorem unacknowledged_write_reported :
    let s := run Master.step (Master.fresh fun _ _ => 0x11)
      (powerUp ++ writeOneByte :: addressTaken [.isr])
    s.finished = true ∧ s.hasError = false ∧ s.port.acknowledged = [.start 0x5A] ∧
      ¬ s.port.Acknowledged (writeWords 0x5A [0x11]) :=
  ⟨by decide, by decide, by decide, fun reported => absurd reported.taken (by decide)⟩

/-- The ISR runs after the slave has acknowledged the byte. -/
theorem acknowledged_write_reported :
    (run Master.step (Master.fresh fun _ _ => 0x11) (powerUp ++ writeOneByte ::
      addressTaken [.hardware .ack, .isr])).port.Acknowledged (writeWords 0x5A [0x11]) :=
  Master.clean_write_acknowledged (fun _ _ => 0x11) powerUp 0x2D ⟨true, 0⟩ 1 false [] _
    (by decide) (by decide) (by decide) (by decide) (by decide)

end TeensyI2C
