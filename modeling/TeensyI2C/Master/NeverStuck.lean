import TeensyI2C.Master.TransmitFifo

/-!
Whether the master can be left busy with nothing to come. A busy driver waits for the bus, for an
interrupt, or for bytes that it has still to fetch from the receive FIFO. The states in which it
gives up a transaction without one of these are named here; nothing else leaves it stuck.
-/

namespace TeensyI2C
open ObjectMemory Interference EventMachine MasterPort

namespace MasterPort

/-- An interrupt that is enabled is due. -/
def pending (p : MasterPort) : Bool :=
  p.irqEnabled &&
    (p.mier.tdie && p.msr.tdf || p.mier.rdie && p.msr.rdf || p.mier.sdie && p.sdf ||
      p.mier.ndie && p.ndf || p.mier.alie && p.alf || p.mier.feie && p.fef ||
      p.mier.pltie && p.pltf)

/-- The hardware is quiescent. -/
structure Quiescent (p : MasterPort) : Prop where
  mbf : p.mbf = false
  txFifo : p.txFifo = []
  rxFifo : p.rxFifo = []
  pending : p.pending = false

def Listening (p : MasterPort) : Prop :=
  p.mier.rdie = true ∧ p.mier.sdie = true ∧ p.mier.ndie = true ∧ p.mier.alie = true ∧
    p.mier.feie = true ∧ p.mier.pltie = true

theorem Stirring.not_quiescent {p : MasterPort} (stirring : p.Stirring)
    (enabled : p.irqEnabled = true)
    (listening : p.Listening) : ¬ p.Quiescent := by
  rintro ⟨mbf, txFifo, _, pending⟩
  obtain ⟨_, sdie, ndie, alie, feie, pltie⟩ := listening
  simp only [MasterPort.pending, enabled, sdie, ndie, alie, feie, pltie, Bool.true_and,
    Bool.or_eq_false_iff] at pending
  rcases stirring with (held | ended | failed) | ⟨command, waiting, _⟩
  · simp [mbf] at held
  · simp [ended] at pending
  · simp [msr, Msr.failed, pending] at failed
  · simp [txFifo] at waiting

end MasterPort

namespace Master
variable {O : Type} [Inhabited O] {s t : Master O} {a : Step O}

/-- The bytes that complete a read have all arrived. -/
structure RestReceived (s : Master O) : Prop where
  reading : s.ignoreTdf = true
  busy : s.state = .transferring
  unfinished : s.buff.nextIndex < s.buff.size
  received : s.buff.size ≤ s.buff.nextIndex + s.port.rxFifo.length

/-- If the driver is busy, something is still to come. -/
def Alive (s : Master O) : Prop :=
  s.state.ready = false → s.port.Stirring ∨ s.RestReceived

/-! ### What is kept in motion -/

theorem inMotion_kept {fs : List (MasterPort → MasterPort)} (h : Drives (· ∈ fs) s t)
    (known : fs ⊆ [setTdie false, resetTxFifo, resetRxFifo, send .stop])
    (moving : s.port.InMotion) : t.port.InMotion := by
  refine h.keeps stable_inMotion ?_ moving
  intro f member p held
  have listed := known member
  simp only [List.mem_cons, List.not_mem_nil, or_false] at listed
  rcases listed with rfl | rfl | rfl | rfl <;> exact held

theorem inMotion_abort (moving : s.port.InMotion) : s.abortTransactionAsync.port.InMotion :=
  inMotion_kept (drives_abort s) (by simp) moving

theorem stirring_kept {fs : List (MasterPort → MasterPort)} (h : Drives (· ∈ fs) s t)
    (known : fs ⊆ [setTdie false, setMen false, takeReceived, resetRxFifo, send .stop])
    (stirring : s.port.Stirring) : t.port.Stirring := by
  refine h.keeps stable_stirring ?_ stirring
  intro f member p held
  have listed := known member
  simp only [List.mem_cons, List.not_mem_nil, or_false] at listed
  rcases listed with rfl | rfl | rfl | rfl | rfl
  iterate 4 exact held
  exact held.imp_right fun ⟨command, waiting, other⟩ =>
    ⟨command, List.mem_append_left _ waiting, other⟩

theorem stirring_send (p : MasterPort) {command : Command} (other : command ≠ .stop) :
    (p.send command).Stirring :=
  .inr ⟨command, List.mem_append_right _ (List.mem_singleton_self command), other⟩

theorem stirring_stop (stirring : s.port.Stirring) : (s.access (send .stop)).port.Stirring := by
  have sent : Drives (· ∈ [send .stop]) s (s.access (send .stop)) := drives_access (by simp)
  exact stirring_kept sent (by simp) stirring

theorem stirring_fill (fifoSpace : Nat) (stirring : s.port.Stirring) :
    (s.fill fifoSpace).port.Stirring := by
  refine (drives_fill fifoSpace s).keeps stable_stirring ?_ stirring
  rintro _ ⟨data, rfl⟩ p _
  exact stirring_send p (by simp)

theorem stirring_transmitNext : s.transmitNext.port.Stirring :=
  stirring_send _ (by simp)

theorem abort_after_stop (ended : s.port.sdf = true) :
    s.abortTransactionAsync.port.txFifo = [] := by
  have still : s.dropCommands.pass.port.sdf = true := by
    refine (drives_dropCommands s).pass.keeps (P := fun p => p.sdf = true) stable_sdf ?_ ended
    simp [setTdie, resetTxFifo, resetRxFifo]
  have empty : s.dropCommands.pass.port.txFifo.length ≤ 0 :=
    pass_stable (stable_txFifo 0) (txFifo_dropCommands s)
  unfold abortTransactionAsync
  dsimp only
  rw [if_neg (by simp [msr, still])]
  exact List.eq_nil_of_length_eq_zero (Nat.le_zero.mp empty)

/-! ### The interrupt service routine -/

/-- Every error that the ISR finds leaves the port in motion: the master still holds the bus, a
STOP has been detected, or another error is due. -/
def ErrorsInMotion (s : Master O) : Prop :=
  s.port.msr.failed = true → (s.recordErrors s.port.msr).port.InMotion

theorem inMotion_serveErrors (moving : s.ErrorsInMotion) (failed : s.port.msr.failed = true) :
    (s.serveErrors s.port.msr).port.InMotion := by
  have recorded := moving failed
  unfold serveErrors
  rw [if_pos failed]
  dsimp only
  split
  · exact inMotion_abort (s := { s.recordErrors s.port.msr with state := .stopping }) recorded
  · exact recorded

theorem Alive.of_stirring (stirring : s.port.Stirring) : s.Alive := fun _ => .inl stirring

theorem Alive.of_ready (ready : s.state.ready = true) : s.Alive := by
  intro busy
  simp [ready] at busy

theorem Alive.serveErrors (alive : s.Alive) (moving : s.ErrorsInMotion) :
    (s.serveErrors s.port.msr).Alive := by
  by_cases failed : s.port.msr.failed = true
  · exact .of_stirring (.inl (inMotion_serveErrors moving failed))
  · rw [serveErrors_quiet (by simpa using failed)]
    exact alive

theorem Alive.serveStop (alive : s.Alive) (msr : Msr) : (s.serveStop msr).Alive := by
  by_cases ended : msr.sdf = true
  · exact .of_ready (by rw [serveStop_driver ended]; rfl)
  · rw [serveStop_quiet (by simpa using ended)]
    exact alive

theorem txFifo_endings (moving : s.ErrorsInMotion) (empty : s.port.txFifo = []) :
    let t := (s.serveErrors s.port.msr).serveStop s.port.msr
    t.port.txFifo = [] ∨ t.port.InMotion := by
  intro t
  have bound : s.port.txFifo.length ≤ 0 := by simp [empty]
  by_cases ended : s.port.msr.sdf = true
  · left
    have served : (s.serveErrors s.port.msr).port.txFifo.length ≤ 0 := by
      unfold Master.serveErrors
      dsimp only
      split
      · have driven := drives_recordErrors s.port.msr s
        split
        · have still : (s.recordErrors s.port.msr).port.sdf = true := by
            refine driven.keeps (P := fun p => p.sdf = true) stable_sdf ?_ ended
            simp [clearNdf, clearAlf, clearFef, clearPltf]
          rw [abort_after_stop (s := { s.recordErrors s.port.msr with state := .stopping }) still]
          exact Nat.le_refl 0
        · exact txFifo_kept driven (by simp [registerWrites]) bound
      · exact bound
    have stopped := txFifo_kept (drives_serveStop s.port.msr (s.serveErrors s.port.msr))
      (by simp [registerWrites]) served
    exact List.eq_nil_of_length_eq_zero (Nat.le_zero.mp stopped)
  · have quiet : t = s.serveErrors s.port.msr := serveStop_quiet (by simpa using ended)
    rw [quiet]
    by_cases failed : s.port.msr.failed = true
    · exact .inr (inMotion_serveErrors moving failed)
    · rw [serveErrors_quiet (by simpa using failed)]
      exact .inl empty

theorem alive_finishReading (alive : s.buff.finishedReading = false → s.Alive)
    (quiet : s.port.Stirring ∨ s.port.txFifo = []) : s.finishReading.Alive := by
  by_cases finished : s.buff.finishedReading = true
  · rcases quiet with stirring | empty
    · exact .of_stirring (stirring_kept (drives_finishReading s) (by simp) stirring)
    · have passed : s.pass.port.txFifo.length ≤ 0 :=
        pass_stable (stable_txFifo 0) (by simp [empty])
      refine .of_ready ?_
      unfold finishReading
      rw [if_pos finished]
      simp [MasterPort.txFifoCount, Nat.le_zero.mp passed, MasterState.ready, MasterState.code,
        access]
  · unfold finishReading
    rw [if_neg finished]
    exact alive (by simpa using finished)

variable [DecidableEq O]

theorem restReceived_takeByte (reading : s.ignoreTdf = true) (busy : s.state = .transferring)
    (received : s.buff.size ≤ s.buff.nextIndex + s.port.rxFifo.length)
    (bounded : s.buff.nextIndex ≤ s.buff.size)
    (unfinished : s.takeByte.buff.finishedReading = false) : s.takeByte.RestReceived := by
  have arrived : s.buff.size - s.buff.nextIndex ≤ s.pass.port.rxFifo.length :=
    pass_stable (stable_rxFifo _) (by omega)
  unfold takeByte storeReceived at unfinished ⊢
  rw [if_pos busy] at unfinished ⊢
  dsimp only at unfinished ⊢
  split at unfinished
  · next full =>
    have room : s.buff.full = false := unfinished
    exact absurd full (by simp [room])
  · next room =>
    rw [if_neg room]
    have more : s.buff.nextIndex + 1 ≠ s.buff.size := by
      simpa [I2CBuffer.finishedReading, I2CBuffer.advance] using unfinished
    have notFull : s.buff.nextIndex ≠ s.buff.size := by simpa [I2CBuffer.full] using room
    refine ⟨reading, busy, ?_, ?_⟩
    · change s.buff.nextIndex + 1 < s.buff.size
      omega
    · change s.buff.size ≤ s.buff.nextIndex + 1 + (s.pass.port.rxFifo.tail).length
      rw [List.length_tail]
      omega

/-- A byte is received in time: the port is in motion, or there is nothing left to send and the
bytes of a read that only begins have all arrived. -/
def BytesInMotion (s : Master O) : Prop :=
  s.port.Stirring ∨
    s.port.txFifo = [] ∧ (s.buff.nextIndex = 0 → s.buff.size ≤ s.port.rxFifo.length)

theorem alive_reading (alive : s.Alive) (reading : s.ignoreTdf = true)
    (moving : s.BytesInMotion) : s.beginTransfer.takeByte.finishReading.Alive := by
  have port := port_beginTransfer s
  rcases moving with stirring | ⟨empty, arrived⟩
  · have taken := stirring_kept (drives_takeByte s.beginTransfer) (by simp) (port ▸ stirring)
    exact alive_finishReading (fun _ => .of_stirring taken) (.inl taken)
  · have kept : s.beginTransfer.takeByte.port.txFifo.length ≤ 0 :=
      txFifo_kept (drives_takeByte _) (by simp [registerWrites]) (by simp [port, empty])
    refine alive_finishReading ?_ (.inr (List.eq_nil_of_length_eq_zero (Nat.le_zero.mp kept)))
    intro unfinished busy
    by_cases transferring : s.beginTransfer.state = .transferring
    · by_cases fresh : s.buff.nextIndex = 0
      · have driver := beginTransfer_driver fresh
        refine .inr (restReceived_takeByte ?_ transferring ?_ ?_ unfinished)
        · rw [driver]
          exact reading
        · rw [driver, port]
          exact Nat.le_add_left_of_le (arrived fresh)
        · rw [driver]
          exact fresh ▸ Nat.zero_le s.buff.size
      · rw [beginTransfer_started fresh] at transferring unfinished ⊢
        rcases alive (by simp [transferring, MasterState.ready, MasterState.code]) with
          stirring | ⟨_, _, more, received⟩
        · exact .inl (stirring_kept (drives_takeByte s) (by simp) stirring)
        · exact .inr (restReceived_takeByte reading transferring received more.le unfinished)
    · have same := beginTransfer_of_ne transferring
      rw [same] at transferring busy ⊢
      rcases alive (state_takeByte s ▸ busy) with stirring | rest
      · exact .inl (stirring_kept (drives_takeByte s) (by simp) stirring)
      · exact absurd rest.busy transferring

theorem Alive.serveReceive (alive : s.Alive) (msr : Msr)
    (moving : msr.rdf = true → if s.ignoreTdf then s.BytesInMotion else s.port.InMotion) :
    (s.serveReceive msr).Alive := by
  unfold Master.serveReceive
  split
  · next received =>
    have here := moving received
    split at here
    · next reading =>
      rw [if_pos reading]
      exact alive_reading alive reading here
    · next writing =>
      rw [if_neg writing]
      exact .of_stirring (.inl (inMotion_abort (s := { s with state := .stopping }) here))
  · exact alive

omit [DecidableEq O] in
theorem alive_finishWriting (stopless : s.buff.size = 0 → s.stopOnCompletion = false)
    (bounded : s.buff.nextIndex ≤ s.buff.size)
    (quiet : s.port.Stirring ∨ s.port.txFifo = [] ∧ s.buff.size = 0) : s.finishWriting.Alive := by
  rcases quiet with stirring | ⟨empty, size⟩
  · exact .of_stirring (stirring_kept (drives_finishWriting s) (by simp) stirring)
  · have passed : s.pass.port.txFifo.length ≤ 0 := pass_stable (stable_txFifo 0) (by simp [empty])
    have finished : s.buff.finishedWriting = true := by
      simp [I2CBuffer.finishedWriting]
      omega
    refine .of_ready ?_
    unfold finishWriting
    rw [if_pos finished]
    dsimp only
    rw [if_pos (by simp [MasterPort.txFifoCount, Nat.le_zero.mp passed]),
      if_neg (by simp [access, pass, stopless size])]
    rfl

omit [DecidableEq O] in
theorem alive_transferOut (busy : s.state = .transferring)
    (stopless : s.buff.size = 0 → s.stopOnCompletion = false) (bounded : s.buff.Bounded)
    (quiet : s.port.Stirring ∨ s.port.txFifo = [] ∧ s.buff.nextIndex = 0) :
    s.transferOut.Alive := by
  unfold transferOut
  rw [if_pos busy]
  have filled := continues_refill busy
  have size := filled.window.2
  refine alive_finishWriting (by rw [size, filled.stopOnCompletion]; exact stopless)
    (filled.bounded bounded) ?_
  unfold refill
  dsimp only
  rcases quiet with stirring | ⟨empty, fresh⟩
  · exact .inl (stirring_fill _ (pass_stable stable_stirring stirring))
  · have passed : s.pass.port.txFifo = [] := List.eq_nil_of_length_eq_zero <|
      Nat.le_zero.mp (pass_stable (stable_txFifo 0) (by simp [empty]))
    have space : numFifos - s.pass.port.txFifoCount = 3 + 1 := by
      simp [MasterPort.txFifoCount, passed, numFifos]
    rw [space, fill]
    split
    · exact .inl (stirring_fill 3 stirring_transmitNext)
    · next nothing =>
      refine .inr ⟨passed, ?_⟩
      simpa [I2CBuffer.hasDataAvailable, fresh] using nothing

omit [DecidableEq O] in
theorem Alive.serveTransmit (alive : s.Alive) (msr : Msr)
    (stopless : s.buff.size = 0 → s.stopOnCompletion = false) (bounded : s.buff.Bounded)
    (quiet : msr.tdf = true → s.ignoreTdf = false → s.port.txFifo = [] ∨ s.port.InMotion) :
    (s.serveTransmit msr).Alive := by
  unfold Master.serveTransmit
  split
  · next asked =>
    rw [Bool.and_eq_true, Bool.not_eq_true'] at asked
    by_cases transferring : s.beginTransfer.state = .transferring
    · have begun := keepsBuffer_beginTransfer s
      refine alive_transferOut transferring
        (by rw [begun.window.2, begun.stopOnCompletion]; exact stopless) (begun.bounded bounded) ?_
      rw [port_beginTransfer]
      by_cases fresh : s.buff.nextIndex = 0
      · rw [beginTransfer_driver fresh]
        rcases quiet asked.2 asked.1 with empty | moving
        · exact .inr ⟨empty, fresh⟩
        · exact .inl (.inl moving)
      · rw [beginTransfer_started fresh] at transferring
        rcases alive (by simp [transferring, MasterState.ready, MasterState.code]) with
          stirring | rest
        · exact .inl stirring
        · simp [rest.reading] at asked
    · have same := beginTransfer_of_ne transferring
      rw [same] at transferring ⊢
      unfold transferOut
      rw [if_neg transferring]
      exact alive
  · exact alive

/-- What a received byte needs when the ISR comes to the RDF branch. -/
def ReceivedInMotion (s : Master O) : Prop :=
  let t := (s.serveErrors s.port.msr).serveStop s.port.msr
  s.port.msr.rdf = true → if t.ignoreTdf then t.BytesInMotion else t.port.InMotion

omit [DecidableEq O] in
theorem Alive.moved (alive : s.Alive) (driver : t.toMasterDriver = s.toMasterDriver)
    (moves : Drives (fun _ => False) s t) : t.Alive := by
  intro busy
  rw [driver] at busy
  rcases alive busy with stirring | ⟨reading, transferring, more, received⟩
  · exact .inl (moves.keeps stable_stirring (fun _ h => h.elim) stirring)
  · have arrived : s.buff.size - s.buff.nextIndex ≤ t.port.rxFifo.length :=
      moves.keeps (stable_rxFifo _) (fun _ h => h.elim) (by omega)
    refine .inr ⟨?_, ?_, ?_, ?_⟩
    all_goals rw [driver]
    · exact reading
    · exact transferring
    · exact more
    · omega

theorem txFifo_empty_serveReceive (msr : Msr) (writing : s.ignoreTdf = false)
    (moving : msr.rdf = true → s.port.InMotion) (quiet : s.port.txFifo = [] ∨ s.port.InMotion) :
    (s.serveReceive msr).port.txFifo = [] ∨ (s.serveReceive msr).port.InMotion := by
  unfold Master.serveReceive
  split
  · next received =>
    rw [if_neg (by simp [writing])]
    exact .inr (inMotion_abort (s := { s with state := .stopping }) (moving received))
  · exact quiet

theorem Alive.isr (alive : s.Alive) (stopless : s.buff.size = 0 → s.stopOnCompletion = false)
    (bounded : s.buff.Bounded) (errors : s.pass.ErrorsInMotion)
    (received : s.pass.ReceivedInMotion) : s.isr.Alive := by
  let msr := s.pass.port.msr
  let t := (s.pass.serveErrors msr).serveStop msr
  have looked : s.pass.Alive := alive.moved rfl (drives_pass _ s)
  have ended : t.Alive := (looked.serveErrors errors).serveStop msr
  have served : (t.serveReceive msr).Alive := ended.serveReceive msr received
  obtain ⟨e, state, driver, _⟩ := endings_driver msr s.pass
  have kept := keepsBuffer_serveReceive msr t
  refine served.serveTransmit msr ?_ (kept.bounded (by rw [driver]; exact bounded)) ?_
  · rw [kept.window.2, kept.stopOnCompletion, driver]
    exact stopless
  · intro asked writing
    have empty : s.pass.port.txFifo = [] := List.isEmpty_iff.mp asked
    rw [kept.ignoreTdf] at writing
    refine txFifo_empty_serveReceive msr writing ?_ (txFifo_endings errors empty)
    intro rdf
    have here : if t.ignoreTdf then t.BytesInMotion else t.port.InMotion := received rdf
    rwa [if_neg (by simp [writing])] at here

/-! ### Calls -/

omit [DecidableEq O] in
theorem inMotion_or_blank (offBus : s.port.OffBus)
    (tidy : s.finished = true → s.port.txFifo = [] ∧ s.port.rxFifo = [] ∨ s.port.InMotion)
    (finished : s.pass.finished = true) : s.port.InMotion ∨ s.port.Blank := by
  by_cases mbf : s.port.mbf = true
  · exact .inl (.inl mbf)
  · have off : s.port.mbf = false := by simpa using mbf
    have ready : s.state = .transferComplete ∨ s.state.ready = true ∧ s.pass.port.mbf = false := by
      simpa [Master.finished] using finished
    rcases tidy (by simpa [Master.finished, off] using ready.imp_right And.left) with
      ⟨tx, rx⟩ | moving
    · exact .inr ⟨tx, rx, offBus off, off⟩
    · exact .inl moving

omit [DecidableEq O] in
theorem stirring_sendStart (address direction : UInt8) :
    (s.sendStart address direction).port.Stirring :=
  stirring_send _ (by simp)

omit [DecidableEq O] in
/-- A call that is refused because of the FIFOs finds the port in motion. -/
theorem alive_startTransaction (address direction : UInt8)
    (quiet : s.port.InMotion ∨ s.port.Blank) :
    let started := s.startTransaction address direction
    if started.2 then started.1.port.Stirring else started.1.Alive := by
  let first := (s.prepare direction).pass
  have expecting : (s.prepare direction).port.InMotion ∨ (s.prepare direction).port.Blank :=
    quiet.imp_right fun ⟨tx, rx, executing, mbf⟩ => ⟨tx, rx, executing, mbf⟩
  have looked : first.port.InMotion ∨ first.port.Blank :=
    pass_stable stable_inMotion_or_blank expecting
  unfold startTransaction
  dsimp only
  split
  · next leftover =>
    have moving : first.pass.port.InMotion := by
      rcases looked with moving | blank
      · exact pass_stable stable_inMotion moving
      · refine (pass_stable stable_inMotion_or_blank (.inr blank)).resolve_right fun blank' => ?_
        have tx : first.port.txFifoCount = 0 := by simp [txFifoCount, blank.txFifo]
        have rx : first.pass.port.rxFifoCount = 0 := by simp [rxFifoCount, blank'.rxFifo]
        simp [first, tx, rx] at leftover
    exact .of_stirring (.inl (inMotion_abort
      (s := { first.pass with error := .masterFifosNotEmpty }) moving))
  · exact stirring_sendStart address direction

omit [DecidableEq O] in
theorem alive_start (address direction : UInt8) (offBus : s.port.OffBus)
    (tidy : s.finished = true → s.port.txFifo = [] ∧ s.port.rxFifo = [] ∨ s.port.InMotion) :
    let started := s.start address direction
    if started.2 then started.1.port.Stirring else started.1.Alive := by
  unfold start
  dsimp only
  split
  · exact .of_ready rfl
  · next finished =>
    have quiet := inMotion_or_blank offBus tidy (by simpa using finished)
    exact alive_startTransaction address direction (pass_stable stable_inMotion_or_blank quiet)

omit [DecidableEq O] in
theorem alive_writeAsync (address : UInt8) (buffer : Pointer O) (numBytes : Nat) (sendStop : Bool)
    (offBus : s.port.OffBus)
    (tidy : s.finished = true → s.port.txFifo = [] ∧ s.port.rxFifo = [] ∨ s.port.InMotion) :
    (s.writeAsync address buffer numBytes sendStop).Alive := by
  have started := alive_start (s := { s with calls := s.calls + 1 }) address masterWrite offBus tidy
  dsimp only at started
  unfold writeAsync
  dsimp only
  split at started
  · next accepted =>
    rw [if_neg (by simp [accepted])]
    split
    · exact .of_stirring (stirring_stop started)
    · exact .of_stirring (stable_stirring.access (fun _ h => h) started)
  · next refused =>
    rw [if_pos (by simpa using refused)]
    exact started

omit [DecidableEq O] in
theorem alive_readAsync (address : UInt8) (buffer : Pointer O) (numBytes : Nat) (sendStop : Bool)
    (alive : s.Alive) (offBus : s.port.OffBus)
    (tidy : s.finished = true → s.port.txFifo = [] ∧ s.port.rxFifo = [] ∨ s.port.InMotion) :
    (s.readAsync address buffer numBytes sendStop).Alive := by
  have started := alive_start (s := { s with calls := s.calls + 1 }) address masterRead offBus tidy
  dsimp only at started
  unfold readAsync
  dsimp only
  split
  · exact fun busy => (alive busy).imp_right fun ⟨reading, transferring, more, received⟩ =>
      ⟨reading, transferring, more, received⟩
  · split at started
    · next accepted =>
      rw [if_neg (by simp [accepted])]
      split
      · exact .of_stirring (stirring_stop started)
      · split
        · exact .of_stirring (stirring_stop (stirring_send _ (by simp)))
        · exact .of_stirring (stirring_send _ (by simp))
    · next refused =>
      rw [if_pos (by simpa using refused)]
      exact started

/-! ### Runs -/

/-- What else is true of the driver in every run. -/
structure Wired (s : Master O) : Prop where
  enabled : s.state.ready = false → s.port.irqEnabled = true
  listening : s.port.irqEnabled = true → s.port.Listening
  offBus : s.port.OffBus
  stopless : s.buff.size = 0 → s.stopOnCompletion = false
  bounded : s.buff.Bounded

theorem listening_iff (p : MasterPort) :
    p.Listening ↔ { p.mier with tdie := true } =
      { tdie := true, rdie := true, sdie := true, ndie := true, alie := true, feie := true,
        pltie := true } := by
  simp only [MasterPort.Listening, Mier.mk.injEq, true_and]

theorem stable_listening : Stable MasterPort.apply MasterPort.Listening := by
  intro p e listening
  rw [listening_iff, (apply_control p e).1, ← listening_iff]
  exact listening

omit [DecidableEq O] in
theorem wired_port (h : Drives CallWrites s t) :
    (s.port.OffBus → t.port.OffBus) ∧ t.port.irqEnabled = s.port.irqEnabled ∧
      (s.port.Listening → t.port.Listening) := by
  refine ⟨?_, ?_, ?_⟩
  · refine h.keeps stable_offBus ?_
    rintro f (ordinary | rfl) p off
    · rw [OffBus, ordinary.mbf, ordinary.executing]
      exact off
    · exact off
  · refine h.keeps (P := fun p => p.irqEnabled = s.port.irqEnabled) ?_ ?_ rfl
    · exact fun p e same => (apply_control p e).2.1.trans same
    · rintro f (ordinary | rfl) p same
      · exact (ordinary.irqEnabled p).trans same
      · exact same
  · refine h.keeps stable_listening ?_
    rintro f (ordinary | rfl) p listening
    · rw [listening_iff, ordinary.mier, ← listening_iff]
      exact listening
    · exact listening

omit [DecidableEq O] in
theorem Wired.drives (wired : s.Wired) (h : Drives CallWrites s t)
    (enabled : s.port.irqEnabled = true ∨ t.state.ready = true)
    (stopless : t.buff.size = 0 → t.stopOnCompletion = false) (bounded : t.buff.Bounded) :
    t.Wired := by
  obtain ⟨offBus, irqEnabled, listening⟩ := wired_port h
  refine ⟨?_, ?_, offBus wired.offBus, stopless, bounded⟩
  · intro busy
    rw [irqEnabled]
    exact enabled.resolve_right (by simp [busy])
  · intro on
    rw [irqEnabled] at on
    exact listening (wired.listening on)

/-- What keeps the master from getting stuck. `begin` and `end` do not interrupt a transaction,
calls are made while the interrupts are enabled, no call finds commands or bytes left over on a
port that has come to rest, and no ISR call finds an error or a byte there. -/
def KeepsMoving (s : Master O) (a : Step O) : Prop :=
  match a.action with
  | .begin _ | .end' => s.state.ready = true
  | .writeAsync .. | .readAsync .. =>
      s.port.irqEnabled = true ∧
        (s.finished = true → s.port.txFifo = [] ∧ s.port.rxFifo = [] ∨ s.port.InMotion)
  | .isr =>
      s.port.irqEnabled = true →
        (s.atSnapshot a).ErrorsInMotion ∧ (s.atSnapshot a).ReceivedInMotion
  | .hardware _ => True

instance (p : MasterPort) : Decidable p.InMotion :=
  inferInstanceAs (Decidable (_ ∨ _ ∨ _))

instance (p : MasterPort) : Decidable p.Stirring :=
  inferInstanceAs (Decidable (_ ∨ _))

instance (s : Master O) : Decidable s.ErrorsInMotion :=
  inferInstanceAs (Decidable (_ → _))

instance (s : Master O) : Decidable s.BytesInMotion :=
  inferInstanceAs (Decidable (_ ∨ _))

instance (s : Master O) : Decidable s.ReceivedInMotion := by
  unfold ReceivedInMotion
  infer_instance

instance (s : Master O) (a : Step O) : Decidable (s.KeepsMoving a) :=
  match a with
  | ⟨.begin _, _⟩ => inferInstanceAs (Decidable (_ = true))
  | ⟨.end', _⟩ => inferInstanceAs (Decidable (_ = true))
  | ⟨.writeAsync .., _⟩ => inferInstanceAs (Decidable (_ ∧ (_ → _)))
  | ⟨.readAsync .., _⟩ => inferInstanceAs (Decidable (_ ∧ (_ → _)))
  | ⟨.isr, _⟩ => inferInstanceAs (Decidable (_ → _ ∧ _))
  | ⟨.hardware _, _⟩ => .isTrue trivial

omit [DecidableEq O] in
theorem buffer_writeAsync (address : UInt8) (buffer : Pointer O) (numBytes : Nat)
    (sendStop : Bool) (stopless : s.buff.size = 0 → s.stopOnCompletion = false)
    (bounded : s.buff.Bounded) :
    let t := s.writeAsync address buffer numBytes sendStop
    (t.buff.size = 0 → t.stopOnCompletion = false) ∧ t.buff.Bounded := by
  obtain ⟨e, state, ignore, driver, _⟩ :=
    start_driver { s with calls := s.calls + 1 } address masterWrite
  unfold writeAsync
  dsimp only
  split
  · rw [driver]
    exact ⟨stopless, bounded⟩
  · split
    · rw [access_driver, driver]
      exact ⟨stopless, bounded⟩
    · next some =>
      exact ⟨fun none => absurd none some, I2CBuffer.bounded_initialise _ _ _⟩

omit [DecidableEq O] in
theorem buffer_readAsync (address : UInt8) (buffer : Pointer O) (numBytes : Nat)
    (sendStop : Bool) (stopless : s.buff.size = 0 → s.stopOnCompletion = false)
    (bounded : s.buff.Bounded) :
    let t := s.readAsync address buffer numBytes sendStop
    (t.buff.size = 0 → t.stopOnCompletion = false) ∧ t.buff.Bounded := by
  obtain ⟨e, state, ignore, driver, _⟩ :=
    start_driver { s with calls := s.calls + 1 } address masterRead
  unfold readAsync
  dsimp only
  split
  · exact ⟨stopless, bounded⟩
  · split
    · rw [driver]
      exact ⟨stopless, bounded⟩
    · split
      · rw [access_driver, driver]
        exact ⟨stopless, bounded⟩
      · next some =>
        split <;> exact ⟨fun none => absurd none some, I2CBuffer.bounded_initialise _ _ _⟩

omit [DecidableEq O] in
theorem Wired.begin (wired : s.Wired) (frequency : Nat) (ready : s.state.ready = true) :
    (s.begin frequency).Wired where
  enabled := by
    intro busy
    simp [show (s.begin frequency).state = s.state from rfl, ready] at busy
  listening := by
    intro _
    refine stable_listening.access (fun _ h => h) ?_
    exact ⟨rfl, rfl, rfl, rfl, rfl, rfl⟩
  offBus := by
    have reset : (s.stop.setClock frequency).port.OffBus :=
      stable_offBus.access (fun _ h => h) (show s.stop.port.OffBus from fun _ => rfl)
    exact stable_offBus.access (fun _ h => h) (stable_offBus.access (fun _ h => h) reset)
  stopless := wired.stopless
  bounded := wired.bounded

theorem Wired.step (wired : s.Wired) (moving : s.KeepsMoving a) : (s.step a).Wired := by
  have waiting : (s.schedule a.meanwhile).Wired := ⟨wired.1, wired.2, wired.3, wired.4, wired.5⟩
  unfold KeepsMoving at moving
  refine step_cases s a ?begins ?ends ?writes ?reads ?interrupts ?masked ?moves
  case begins =>
    intro frequency kind
    rw [kind] at moving
    exact waiting.begin frequency moving
  case ends =>
    intro kind
    rw [kind] at moving
    refine ⟨?_, ?_, fun _ => rfl, wired.stopless, wired.bounded⟩
    · intro busy
      have ready : s.state.ready = true := moving
      exact absurd (ready.symm.trans busy) (by decide)
    · intro on
      cases on
  case writes =>
    intro address buffer numBytes sendStop kind
    rw [kind] at moving
    have kept :=
      buffer_writeAsync address buffer numBytes sendStop waiting.stopless waiting.bounded
    exact waiting.drives (drives_writeAsync ..) (.inl moving.1) kept.1 kept.2
  case reads =>
    intro address buffer numBytes sendStop kind
    rw [kind] at moving
    have kept :=
      buffer_readAsync address buffer numBytes sendStop waiting.stopless waiting.bounded
    exact waiting.drives (drives_readAsync ..) (.inl moving.1) kept.1 kept.2
  case interrupts =>
    intro interrupts
    have kept := keepsBuffer_isr (s.schedule a.meanwhile)
    refine waiting.drives ((drives_isr _).mono fun _ => Or.inl) (.inl interrupts.2) ?_
      (kept.bounded waiting.bounded)
    rw [kept.window.2, kept.stopOnCompletion]
    exact waiting.stopless
  case masked => exact fun _ _ => waiting
  case moves =>
    intro e _
    have free : s.port.irqEnabled = true ∨ s.state.ready = true := by
      by_cases busy : s.state.ready = true
      · exact .inr busy
      · exact .inl (wired.enabled (by simpa using busy))
    exact waiting.drives (Driven.refl.move e) free waiting.stopless waiting.bounded

theorem Alive.step (alive : s.Alive) (wired : s.Wired) (moving : s.KeepsMoving a) :
    (s.step a).Alive := by
  have waiting : (s.schedule a.meanwhile).Alive := fun busy =>
    (alive busy).imp_right fun ⟨reading, transferring, more, received⟩ =>
      ⟨reading, transferring, more, received⟩
  unfold KeepsMoving at moving
  refine step_cases s a ?begins ?ends ?writes ?reads ?interrupts ?masked ?moves
  case begins =>
    intro frequency kind
    rw [kind] at moving
    exact .of_ready moving
  case ends =>
    intro kind
    rw [kind] at moving
    exact .of_ready moving
  case writes =>
    intro address buffer numBytes sendStop kind
    rw [kind] at moving
    exact alive_writeAsync _ _ _ _ wired.offBus moving.2
  case reads =>
    intro address buffer numBytes sendStop kind
    rw [kind] at moving
    exact alive_readAsync _ _ _ _ waiting wired.offBus moving.2
  case interrupts =>
    intro ⟨kind, on⟩
    rw [kind] at moving
    exact waiting.isr wired.stopless wired.bounded (moving on).1 (moving on).2
  case masked => exact fun _ _ => waiting
  case moves => exact fun e _ => waiting.moved rfl (Driven.refl.move e)

theorem alive_run (memory : Memory O UInt8) {as : List (Step O)}
    (moving : Along step KeepsMoving (fresh memory) as) :
    (run step (fresh memory) as).Alive ∧ (run step (fresh memory) as).Wired := by
  refine run_invariant (I := fun s => s.Alive ∧ s.Wired) ?_ ?_ moving
  · exact fun s a h moving => ⟨h.1.step h.2 moving, h.2.step moving⟩
  · refine ⟨.of_ready rfl, ?_, ?_, fun _ => rfl, fun _ => rfl, Nat.le_refl 0⟩
    · intro busy
      cases busy
    · intro on
      cases on

omit [DecidableEq O] in
/-- A ready driver on a quiescent port accepts the next call. -/
theorem start_quiescent (ready : s.state.ready = true) (quiet : s.port.Quiescent)
    (offBus : s.port.OffBus) (address direction : UInt8) :
    (s.start address direction).2 = true := by
  have blank : s.pass.port.Blank := pass_stable stable_blank
    ⟨quiet.txFifo, quiet.rxFifo, offBus quiet.mbf, quiet.mbf⟩
  have expecting : (s.pass.prepare direction).port.Blank :=
    ⟨blank.txFifo, blank.rxFifo, blank.executing, blank.mbf⟩
  have looked := pass_stable stable_blank expecting
  have again := pass_stable stable_blank looked
  have finished : s.pass.finished = true := by
    simp [Master.finished, ready, blank.mbf]
  unfold start startTransaction
  dsimp only
  rw [if_neg (by simp [finished]),
    if_neg (by simp [txFifoCount, rxFifoCount, looked.txFifo, again.rxFifo])]

/-- In a run that keeps moving, the driver is ready whenever the hardware is quiescent, and it
accepts the next call. -/
theorem never_stuck (memory : Memory O UInt8) (as : List (Step O))
    (moving : Along step KeepsMoving (fresh memory) as) :
    let s := run step (fresh memory) as
    s.port.Quiescent →
      s.state ∈ [.idle, .transferComplete, .stopped] ∧ s.finished = true ∧
        ∀ meanwhile address direction,
          ((s.schedule meanwhile).start address direction).2 = true := by
  intro s quiet
  obtain ⟨alive, wired⟩ := alive_run memory moving
  have ready : s.state.ready = true := by
    by_contra unready
    have busy : s.state.ready = false := by simpa using unready
    rcases alive busy with stirring | rest
    · have enabled := wired.enabled busy
      exact stirring.not_quiescent enabled (wired.listening enabled) quiet
    · have received := rest.received
      have more := rest.unfinished
      rw [quiet.rxFifo, List.length_nil] at received
      omega
  refine ⟨?_, by simp [Master.finished, ready, quiet.mbf], ?_⟩
  · revert ready
    cases s.state <;> decide
  · intro meanwhile address direction
    exact start_quiescent (s := s.schedule meanwhile) ready quiet wired.offBus address direction

end Master

/-! ### Arbitration lost -/

/-- Another master wins the bus while the byte of a write is being sent. -/
def lostWrite : List (Master.Step Bool) :=
  [.begin 100000, .writeAsync 0x2D ⟨true, 0⟩ 1 true, .hardware .fetch, .isr, .hardware .ack,
    .hardware .fetch, .hardware .arbitrationLost, .isr].map Master.Action.alone

/-- The ISR waits for a STOP that nobody is going to send. -/
theorem stuck_after_arbitration_lost :
    let s := run Master.step (Master.fresh fun _ _ => 0x11) lostWrite
    s.port.Quiescent ∧ s.state = .stopping ∧ s.finished = false ∧
      (s.writeAsync 0x2D ⟨true, 0⟩ 1 true).error = .masterNotReady :=
  ⟨⟨rfl, rfl, rfl, rfl⟩, rfl, rfl, rfl⟩

/-- The same write without the loss, up to the end of its STOP. -/
def plainWrite : List (Master.Step Bool) :=
  [.begin 100000, .writeAsync 0x2D ⟨true, 0⟩ 1 true, .hardware .fetch, .isr, .hardware .ack,
    .hardware .fetch, .isr, .hardware .ack, .hardware .fetch, .hardware .stopDone, .isr].map
    Master.Action.alone

theorem ready_after_plain_write :
    let s := run Master.step (Master.fresh fun _ _ => 0x11) plainWrite
    s.state ∈ [.idle, .transferComplete, .stopped] ∧ s.finished = true ∧
      ((s.schedule []).start 0x2D masterWrite).2 = true := by
  have quiescent := Master.never_stuck (fun _ _ => 0x11) plainWrite (by decide)
    ⟨rfl, rfl, rfl, rfl⟩
  exact ⟨quiescent.1, quiescent.2.1, quiescent.2.2 [] 0x2D masterWrite⟩

end TeensyI2C
