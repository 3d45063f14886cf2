import TeensyI2C.Master.Driver

/-!
What each part of the driver does to the driver's own state, whatever the hardware does meanwhile.
-/

namespace TeensyI2C
open ObjectMemory Interference

namespace Master
variable {O : Type} [Inhabited O] {s t u : Master O} {msr : Msr}

theorem ready_of_finished (finished : s.finished = true) : s.state.ready = true := by
  rcases Bool.or_eq_true_iff.mp finished with complete | free
  · rw [eq_of_beq complete]
    rfl
  · exact (Bool.and_eq_true_iff.mp free).1

@[simp] theorem abort_driver (s : Master O) :
    s.abortTransactionAsync.toMasterDriver = s.toMasterDriver := by
  unfold abortTransactionAsync
  dsimp only
  split <;> rfl

/-- `start` prepares a transaction or records why it cannot. -/
theorem start_driver (s : Master O) (address direction : UInt8) :
    ∃ e state ignore,
      (s.start address direction).1.toMasterDriver =
        { s.toMasterDriver with error := e, state := state, ignoreTdf := ignore } ∧
      state ≠ .transferring ∧
      if (s.start address direction).2 then
        e = .ok ∧ state = .starting ∧ ignore = (direction != 0)
      else e ≠ .ok := by
  unfold start startTransaction
  dsimp only
  split
  · refine ⟨.masterNotReady, .idle, s.ignoreTdf, ?_, by decide, by simp⟩
    rw [abort_driver]
    rfl
  · split
    · refine ⟨.masterFifosNotEmpty, .starting, direction != 0, ?_, by decide, by simp⟩
      rw [abort_driver]
      rfl
    · exact ⟨.ok, .starting, direction != 0, rfl, by decide, by simp⟩

theorem start_accepted {address direction : UInt8}
    (accepted : (s.start address direction).1.error = .ok) :
    (s.start address direction).2 = true ∧
      (s.start address direction).1.toMasterDriver =
        { s.toMasterDriver with
          error := .ok, state := .starting, ignoreTdf := direction != 0 } := by
  obtain ⟨e, state, ignore, driver, _, effect⟩ := start_driver s address direction
  split at effect
  · next started =>
    obtain ⟨rfl, rfl, rfl⟩ := effect
    exact ⟨started, driver⟩
  · rw [driver] at accepted
    exact absurd accepted effect

theorem writeAsync_accepted {address : UInt8} {buffer : Pointer O} {numBytes : Nat}
    {sendStop : Bool} (some : numBytes ≠ 0)
    (accepted : (s.writeAsync address buffer numBytes sendStop).error = .ok) :
    let started := { s with calls := s.calls + 1 }.start address masterWrite
    started.2 = true ∧
      started.1.toMasterDriver =
        { s.toMasterDriver with
          calls := s.calls + 1, error := .ok, state := .starting, ignoreTdf := false } ∧
      s.writeAsync address buffer numBytes sendStop =
        { started.1.initialiseBuff buffer numBytes with stopOnCompletion := sendStop }.access
          (MasterPort.setTdie true) := by
  intro started
  have past : started.1.error = .ok := by
    unfold writeAsync at accepted
    dsimp only at accepted
    rw [if_neg some] at accepted
    split at accepted <;> exact accepted
  obtain ⟨go, driver⟩ := start_accepted past
  refine ⟨go, driver, ?_⟩
  unfold writeAsync
  dsimp only
  rw [if_neg some, if_neg (by simpa using go)]

theorem readAsync_accepted {address : UInt8} {buffer : Pointer O} {numBytes : Nat}
    {sendStop : Bool} (some : numBytes ≠ 0)
    (accepted : (s.readAsync address buffer numBytes sendStop).error = .ok) :
    (s.readAsync address buffer numBytes sendStop).ignoreTdf = true ∧
      (s.readAsync address buffer numBytes sendStop).state = .starting := by
  unfold readAsync at accepted ⊢
  dsimp only at accepted ⊢
  split at accepted
  · cases accepted
  · next short =>
    rw [if_neg short, if_neg some]
    have past : ({ s with calls := s.calls + 1 }.start address masterRead).1.error = .ok := by
      split at accepted
      · exact accepted
      · split at accepted <;> exact accepted
    obtain ⟨go, driver⟩ := start_accepted past
    rw [if_neg (by simpa using go)]
    have waiting :
        ({ s with calls := s.calls + 1 }.start address masterRead).1.ignoreTdf = true ∧
          ({ s with calls := s.calls + 1 }.start address masterRead).1.state = .starting := by
      rw [driver]
      exact ⟨rfl, rfl⟩
    split <;> exact waiting

/-! ### Errors and the end of the transaction -/

theorem recordErrors_driver (msr : Msr) (s : Master O) :
    (s.recordErrors msr).toMasterDriver =
      { s.toMasterDriver with error := (s.recordErrors msr).error } := by
  have ndf (s : Master O) : (s.recordNdf msr).toMasterDriver =
      { s.toMasterDriver with error := (s.recordNdf msr).error } := by
    unfold recordNdf
    split <;> rfl
  have alf (s : Master O) : (s.recordAlf msr).toMasterDriver =
      { s.toMasterDriver with error := (s.recordAlf msr).error } := by
    unfold recordAlf
    split <;> rfl
  have fef (s : Master O) : (s.recordFef msr).toMasterDriver =
      { s.toMasterDriver with error := (s.recordFef msr).error } := by
    unfold recordFef
    dsimp only
    split
    · split <;> rfl
    · rfl
  have pltf (s : Master O) : (s.recordPltf msr).toMasterDriver =
      { s.toMasterDriver with error := (s.recordPltf msr).error } := by
    unfold recordPltf
    split <;> rfl
  rw [recordErrors, pltf, fef, alf, ndf]

/-- The error after the error flags have been looked at, from the state and the error before. -/
def recordedError (msr : Msr) (state : MasterState) (error : I2CError) : I2CError :=
  let error :=
    if msr.ndf then (if state = .starting then .addressNak else .dataNak) else error
  let error := if msr.alf then .arbitrationLost else error
  let error :=
    if msr.fef then (if TeensyI2C.hasError error then error else .masterFifoError) else error
  if msr.pltf then .masterPinLowTimeout else error

theorem recordErrors_recorded (msr : Msr) (s : Master O) :
    (s.recordErrors msr).error = recordedError msr s.state s.error := by
  have ndf (s : Master O) : (s.recordNdf msr).error =
      if msr.ndf then (if s.state = .starting then .addressNak else .dataNak) else s.error := by
    unfold recordNdf
    split <;> rfl
  have alf (s : Master O) : (s.recordAlf msr).error =
      if msr.alf then .arbitrationLost else s.error := by
    unfold recordAlf
    split <;> rfl
  have fef (s : Master O) : (s.recordFef msr).error =
      if msr.fef then (if s.hasError then s.error else .masterFifoError) else s.error := by
    unfold recordFef
    dsimp only
    split
    · change (if s.hasError = true then _ else _ : Master O).error = _
      split <;> rfl
    · rfl
  have pltf (s : Master O) : (s.recordPltf msr).error =
      if msr.pltf then .masterPinLowTimeout else s.error := by
    unfold recordPltf
    split <;> rfl
  rw [recordErrors, pltf, fef, hasError, alf, ndf]
  rfl

theorem recordErrors_error (failed : msr.failed = true) : (s.recordErrors msr).error ≠ .ok := by
  unfold recordErrors recordPltf
  split
  · simp
  · next noPltf =>
    unfold recordFef
    dsimp only
    split
    · split
      · next recorded => simpa [hasError] using recorded
      · simp
    · next noFef =>
      unfold recordAlf
      split
      · simp
      · next noAlf =>
        have ndf : msr.ndf = true := by simpa [Msr.failed, noPltf, noFef, noAlf] using failed
        unfold recordNdf
        rw [if_pos ndf]
        dsimp only
        split <;> simp

theorem serveErrors_quiet (quiet : msr.failed = false) : s.serveErrors msr = s := by
  simp [serveErrors, quiet]

theorem serveErrors_recorded (failed : msr.failed = true) :
    (s.serveErrors msr).toMasterDriver =
      { s.toMasterDriver with error := recordedError msr s.state s.error, state := .stopping } := by
  have recorded := recordErrors_driver msr s
  rw [recordErrors_recorded] at recorded
  unfold serveErrors
  rw [if_pos failed]
  dsimp only
  split
  · rw [abort_driver]
    rw [recorded]
  · next already =>
    have stopping : (s.recordErrors msr).state = .stopping := by simpa using already
    rw [← stopping, recorded]

theorem serveErrors_driver (failed : msr.failed = true) :
    ∃ e ≠ I2CError.ok,
      (s.serveErrors msr).toMasterDriver =
        { s.toMasterDriver with error := e, state := .stopping } := by
  refine ⟨recordedError msr s.state s.error, ?_, serveErrors_recorded failed⟩
  rw [← recordErrors_recorded]
  exact recordErrors_error failed

theorem serveStop_quiet (quiet : msr.sdf = false) : s.serveStop msr = s := by
  simp [serveStop, quiet]

theorem serveStop_driver (ended : msr.sdf = true) :
    (s.serveStop msr).toMasterDriver = { s.toMasterDriver with state := .stopped } := by
  unfold serveStop
  rw [if_pos ended]
  rfl

theorem serveStop_state (msr : Msr) (s : Master O) :
    (s.serveStop msr).toMasterDriver =
      { s.toMasterDriver with state := if msr.sdf then .stopped else s.state } := by
  unfold serveStop
  split <;> rfl

/-- What the first half of the ISR makes of the error and the state. -/
theorem endings_exact (msr : Msr) (s : Master O) :
    ((s.serveErrors msr).serveStop msr).toMasterDriver =
      { s.toMasterDriver with
        error := recordedError msr s.state s.error
        state := if msr.sdf then .stopped else if msr.failed then .stopping else s.state } := by
  rw [serveStop_state]
  cases failed : msr.failed with
  | false =>
      rw [serveErrors_quiet failed]
      simp only [Msr.failed, Bool.or_eq_false_iff] at failed
      simp [recordedError, failed]
  | true =>
      rw [serveErrors_recorded failed, if_pos rfl]

theorem endings_kept (msr : Msr) (s : Master O) :
    let ended := (s.serveErrors msr).serveStop msr
    ended.ignoreTdf = s.ignoreTdf ∧ ended.memory = s.memory ∧ ended.buff = s.buff := by
  dsimp only
  rw [endings_exact]
  exact ⟨rfl, rfl, rfl⟩

/-- The first half of the ISR changes the error and the state. -/
theorem endings_driver (msr : Msr) (s : Master O) :
    ∃ e state,
      ((s.serveErrors msr).serveStop msr).toMasterDriver =
        { s.toMasterDriver with error := e, state := state } ∧
      if msr.failed then e ≠ .ok ∧ state ≠ .transferring
      else e = s.error ∧ (state = s.state ∨ state = .stopped) := by
  cases failed : msr.failed with
  | false =>
      rw [serveErrors_quiet failed]
      cases ended : msr.sdf with
      | false =>
          rw [serveStop_quiet ended]
          exact ⟨s.error, s.state, rfl, rfl, .inl rfl⟩
      | true => exact ⟨s.error, .stopped, serveStop_driver ended, rfl, .inr rfl⟩
  | true =>
      obtain ⟨e, isError, driver⟩ := serveErrors_driver (s := s) failed
      cases ended : msr.sdf with
      | false =>
          rw [serveStop_quiet ended]
          exact ⟨e, .stopping, driver, isError, by decide⟩
      | true =>
          refine ⟨e, .stopped, ?_, isError, by decide⟩
          rw [serveStop_driver ended, driver]

/-! ### Going on with a transfer -/

/-- The same kind of transfer with the same buffer, and a cursor that moves forward and stays
inside. -/
structure KeepsBuffer (s t : Master O) : Prop where
  ignoreTdf : t.ignoreTdf = s.ignoreTdf
  window : t.buff.SameWindow s.buff
  stopOnCompletion : t.stopOnCompletion = s.stopOnCompletion
  bounded : s.buff.Bounded → t.buff.Bounded
  forward : s.buff.nextIndex ≤ t.buff.nextIndex

theorem KeepsBuffer.of_driver {e : I2CError} {state : MasterState}
    (h : t.toMasterDriver = { s.toMasterDriver with error := e, state := state }) :
    KeepsBuffer s t where
  ignoreTdf := by rw [h]
  window := by rw [h]; exact ⟨rfl, rfl⟩
  stopOnCompletion := by rw [h]
  bounded := by rw [h]; exact id
  forward := by rw [h]

theorem KeepsBuffer.trans (h : KeepsBuffer s t) (h' : KeepsBuffer t u) : KeepsBuffer s u where
  ignoreTdf := h'.ignoreTdf.trans h.ignoreTdf
  window := ⟨h'.window.1.trans h.window.1, h'.window.2.trans h.window.2⟩
  stopOnCompletion := h'.stopOnCompletion.trans h.stopOnCompletion
  bounded := h'.bounded ∘ h.bounded
  forward := h.forward.trans h'.forward

/-- The driver does nothing but go on with the transfer that `buff` was set up for, and nothing
at all if it is not transferring. -/
structure Continues (s t : Master O) : Prop extends KeepsBuffer s t where
  error : t.error = s.error
  calls : t.calls = s.calls
  owner : t.owner = s.owner
  own : ∃ new, t.trace = s.trace ++ new ∧ ∀ e ∈ new, e.1 = s.owner
  halted : s.state ≠ .transferring → t.trace = s.trace ∧ t.state ≠ .transferring

theorem Continues.of_driver (h : t.toMasterDriver = s.toMasterDriver) : Continues s t where
  toKeepsBuffer := .of_driver h
  error := by rw [h]
  calls := by rw [h]
  owner := by rw [h]
  own := ⟨[], by rw [h, List.append_nil], by simp⟩
  halted := by
    intro idle
    rw [h]
    exact ⟨rfl, idle⟩

theorem Continues.refl (s : Master O) : Continues s s := .of_driver rfl

theorem Continues.trans (h : Continues s t) (h' : Continues t u) : Continues s u where
  toKeepsBuffer := h.toKeepsBuffer.trans h'.toKeepsBuffer
  error := h'.error.trans h.error
  calls := h'.calls.trans h.calls
  owner := h'.owner.trans h.owner
  own := by
    obtain ⟨first, trace, ownFirst⟩ := h.own
    obtain ⟨second, trace', ownSecond⟩ := h'.own
    refine ⟨first ++ second, by rw [trace', trace, List.append_assoc], ?_⟩
    intro e member
    rcases List.mem_append.mp member with early | late
    · exact ownFirst e early
    · exact (ownSecond e late).trans h.owner
  halted := by
    intro idle
    obtain ⟨same, idle'⟩ := h.halted idle
    obtain ⟨same', idle''⟩ := h'.halted idle'
    exact ⟨same'.trans same, idle''⟩

theorem Continues.of_state (state : MasterState) (other : state ≠ .transferring)
    (h : t.toMasterDriver = { s.toMasterDriver with state := state }) : Continues s t where
  toKeepsBuffer := .of_driver h
  error := by rw [h]
  calls := by rw [h]
  owner := by rw [h]
  own := ⟨[], by rw [h, List.append_nil], by simp⟩
  halted := by
    intro _
    rw [h]
    exact ⟨rfl, other⟩

theorem beginTransfer_started (started : s.buff.nextIndex ≠ 0) : s.beginTransfer = s := by
  simp [beginTransfer, started]

theorem beginTransfer_driver (fresh : s.buff.nextIndex = 0) :
    s.beginTransfer.toMasterDriver =
      { s.toMasterDriver with error := .ok, state := .transferring } := by
  unfold beginTransfer
  rw [if_pos fresh]

theorem beginTransfer_kept (s : Master O) :
    s.beginTransfer.memory = s.memory ∧ s.beginTransfer.buff = s.buff := by
  unfold beginTransfer
  split <;> exact ⟨rfl, rfl⟩

theorem state_beginTransfer (begins : s.buff.nextIndex = 0 ∨ s.state = .transferring) :
    s.beginTransfer.state = .transferring := by
  by_cases fresh : s.buff.nextIndex = 0
  · rw [beginTransfer_driver fresh]
  · rw [beginTransfer_started fresh]
    exact begins.resolve_left fresh

theorem beginTransfer_of_ne (waiting : s.beginTransfer.state ≠ .transferring) :
    s.beginTransfer = s := by
  unfold beginTransfer at waiting ⊢
  split at waiting
  · exact absurd rfl waiting
  · next started => rw [if_neg started]

theorem continues_abort : Continues s ({ s with state := .stopping }.abortTransactionAsync) :=
  .of_state .stopping (by decide) (by rw [abort_driver])

theorem continues_finishReading : Continues s s.finishReading := by
  unfold finishReading
  dsimp only
  split
  · by_cases lone : s.pass.port.txFifoCount = 1
    · rw [if_pos lone]
      exact .of_state .stopping (by decide) rfl
    · rw [if_neg lone]
      exact .of_state .transferComplete (by decide) rfl
  · exact .refl s

theorem continues_transmitNext (busy : s.state = .transferring)
    (data : s.buff.hasDataAvailable = true) : Continues s s.transmitNext where
  ignoreTdf := rfl
  window := ⟨rfl, rfl⟩
  stopOnCompletion := rfl
  bounded := fun _ => I2CBuffer.Bounded.advance_of_data data
  forward := Nat.le_succ _
  error := rfl
  calls := rfl
  owner := rfl
  own := ⟨[(s.owner, .transmit (s.memory.load s.buff.cursor))], rfl, by simp⟩
  halted := fun idle => absurd busy idle

theorem continues_fill (fifoSpace : Nat) (busy : s.state = .transferring) :
    Continues s (s.fill fifoSpace) := by
  induction fifoSpace generalizing s with
  | zero => exact .refl s
  | succ fifoSpace ih =>
      unfold fill
      split
      · next data => exact (continues_transmitNext busy data).trans (ih (by exact busy))
      · exact .refl s

theorem state_fill (fifoSpace : Nat) (s : Master O) : (s.fill fifoSpace).state = s.state := by
  induction fifoSpace generalizing s with
  | zero => rfl
  | succ fifoSpace ih =>
      unfold fill
      split
      · exact ih s.transmitNext
      · rfl

theorem continues_refill (busy : s.state = .transferring) : Continues s s.refill := by
  have passed : Continues s s.pass := .of_driver rfl
  exact passed.trans (continues_fill _ busy)

theorem buff_finishWriting (s : Master O) : s.finishWriting.buff = s.buff := by
  unfold finishWriting
  dsimp only
  split
  · split
    · split <;> rfl
    · rfl
  · rfl

theorem continues_finishWriting : Continues s s.finishWriting := by
  unfold finishWriting
  dsimp only
  split
  · split
    · by_cases stop : s.stopOnCompletion = true
      · rw [if_pos (by exact stop)]
        exact .of_state .stopping (by decide) rfl
      · rw [if_neg (by exact stop)]
        exact .of_state .transferComplete (by decide) rfl
    · exact .of_driver rfl
  · exact .refl s

theorem continues_transferOut : Continues s s.transferOut := by
  unfold transferOut
  split
  · next busy => exact (continues_refill busy).trans continues_finishWriting
  · exact .refl s

theorem memory_serveTransmit (msr : Msr) (s : Master O) :
    (s.serveTransmit msr).memory = s.memory := by
  have filled (fifoSpace : Nat) (s : Master O) : (s.fill fifoSpace).memory = s.memory := by
    induction fifoSpace generalizing s with
    | zero => rfl
    | succ fifoSpace ih =>
        unfold fill
        split
        · exact ih s.transmitNext
        · rfl
  have finished (s : Master O) : s.finishWriting.memory = s.memory := by
    unfold finishWriting
    dsimp only
    split
    · split
      · split <;> rfl
      · rfl
    · rfl
  have begun : s.beginTransfer.memory = s.memory := (beginTransfer_kept s).1
  unfold serveTransmit transferOut
  split
  · split
    · exact (finished _).trans ((filled _ _).trans begun)
    · exact begun
  · rfl

variable [DecidableEq O]

theorem state_takeByte (s : Master O) : s.takeByte.state = s.state := by
  unfold takeByte storeReceived
  dsimp only
  split
  · split <;> rfl
  · rfl

theorem storeReceived_room (room : ¬ s.buff.full = true) :
    s.storeReceived = { s.pass with
      bus.device := s.pass.port.takeReceived
      memory := s.memory.store s.buff.cursor (s.pass.port.rxFifo.headD 0)
      buff := s.buff.advance
      trace := s.trace ++ [(s.owner, .store s.buff.cursor (s.pass.port.rxFifo.headD 0))] } := by
  unfold storeReceived
  dsimp only
  exact if_neg room

theorem continues_takeByte : Continues s s.takeByte := by
  unfold takeByte
  split
  · next busy =>
    unfold storeReceived
    dsimp only
    split
    · exact .of_driver rfl
    · next room =>
      exact {
        ignoreTdf := rfl
        window := ⟨rfl, rfl⟩
        stopOnCompletion := rfl
        bounded := fun bounded => bounded.advance (by simpa using room)
        forward := Nat.le_succ _
        error := rfl
        calls := rfl
        owner := rfl
        own := ⟨[(s.owner, .store s.buff.cursor (s.pass.port.rxFifo.headD 0))], rfl, by simp⟩
        halted := fun idle => absurd busy idle }
  · exact .of_driver rfl

/-- At most, the RDF branch begins a transfer and then goes on with it. -/
theorem continues_serveReceive (msr : Msr) (s : Master O) :
    Continues (if s.ignoreTdf && msr.rdf then s.beginTransfer else s) (s.serveReceive msr) := by
  unfold serveReceive
  cases received : msr.rdf with
  | false =>
      rw [if_neg (by simp), if_neg (by simp)]
      exact .refl s
  | true =>
      rw [if_pos rfl, Bool.and_true]
      split
      · exact continues_takeByte.trans continues_finishReading
      · exact continues_abort

omit [DecidableEq O] in
theorem continues_serveTransmit (msr : Msr) (s : Master O) :
    Continues (if !s.ignoreTdf && msr.tdf then s.beginTransfer else s) (s.serveTransmit msr) := by
  unfold serveTransmit
  split
  · exact continues_transferOut
  · exact .refl s

theorem serveReceive_writing (msr : Msr) (writing : s.ignoreTdf = false) :
    ∃ state, (s.serveReceive msr).toMasterDriver = { s.toMasterDriver with state := state } := by
  unfold serveReceive
  split
  · rw [if_neg (by simp [writing])]
    exact ⟨.stopping, by rw [abort_driver]⟩
  · exact ⟨s.state, rfl⟩

omit [DecidableEq O] in
theorem keepsBuffer_beginTransfer (s : Master O) : KeepsBuffer s s.beginTransfer := by
  by_cases fresh : s.buff.nextIndex = 0
  · exact .of_driver (beginTransfer_driver fresh)
  · rw [beginTransfer_started fresh]
    exact (Continues.refl s).toKeepsBuffer

omit [DecidableEq O] in
theorem keepsBuffer_continues {begins : Bool}
    (goes : Continues (if begins then s.beginTransfer else s) t) : KeepsBuffer s t := by
  cases begins with
  | false => exact goes.toKeepsBuffer
  | true => exact (keepsBuffer_beginTransfer s).trans goes.toKeepsBuffer

theorem keepsBuffer_serveReceive (msr : Msr) (s : Master O) :
    KeepsBuffer s (s.serveReceive msr) :=
  keepsBuffer_continues (continues_serveReceive msr s)

theorem keepsBuffer_isr (s : Master O) : KeepsBuffer s s.isr := by
  obtain ⟨e, state, driver, _⟩ := endings_driver s.pass.port.msr s.pass
  have passed : KeepsBuffer s s.pass := (Continues.of_driver (pass_driver s)).toKeepsBuffer
  have ended := passed.trans (.of_driver driver)
  exact (ended.trans (keepsBuffer_serveReceive _ _)).trans
    (keepsBuffer_continues (continues_serveTransmit _ _))

theorem memory_takeByte (s : Master O) : s.takeByte.memory = s.memory ∨
    ∃ data, s.takeByte.memory = s.memory.store s.buff.cursor data := by
  unfold takeByte
  split
  · unfold storeReceived
    dsimp only
    split
    · exact .inl rfl
    · exact .inr ⟨_, rfl⟩
  · exact .inl rfl

omit [DecidableEq O] in
theorem memory_finishReading (s : Master O) : s.finishReading.memory = s.memory := by
  unfold finishReading
  split <;> rfl

/-- An ISR call stores one byte at most, where the cursor stands. -/
theorem memory_isr (s : Master O) :
    s.isr.memory = s.memory ∨ ∃ data, s.isr.memory = s.memory.store s.buff.cursor data := by
  let msr := s.pass.port.msr
  let ended := (s.pass.serveErrors msr).serveStop msr
  have driver : ended.memory = s.memory ∧ ended.buff = s.buff := (endings_kept msr s.pass).2
  have begun : ended.beginTransfer.memory = s.memory ∧ ended.beginTransfer.buff = s.buff :=
    (beginTransfer_kept ended).imp (·.trans driver.1) (·.trans driver.2)
  have goes : s.isr.memory = (ended.serveReceive msr).memory := memory_serveTransmit msr _
  rw [goes]
  unfold serveReceive
  split
  · split
    · rw [memory_finishReading, ← begun.1, ← begun.2]
      exact memory_takeByte _
    · rw [abort_driver]
      exact .inl driver.1
  · exact .inl driver.1

omit [DecidableEq O] in
/-- A call stores nothing. It sets up the buffer or leaves it alone. -/
theorem buffer_of_writeAsync (address : UInt8) (buffer : Pointer O) (numBytes : Nat)
    (sendStop : Bool) :
    let t := s.writeAsync address buffer numBytes sendStop
    t.memory = s.memory ∧ (t.buff = s.buff ∨ t.buff = s.buff.initialise buffer numBytes) := by
  obtain ⟨e, state, ignore, driver, _⟩ :=
    start_driver { s with calls := s.calls + 1 } address masterWrite
  unfold writeAsync
  dsimp only
  split
  · rw [driver]
    exact ⟨rfl, .inl rfl⟩
  · split
    · rw [access_driver, driver]
      exact ⟨rfl, .inl rfl⟩
    · rw [access_driver, initialiseBuff, driver]
      exact ⟨rfl, .inr rfl⟩

omit [DecidableEq O] in
theorem buffer_of_readAsync (address : UInt8) (buffer : Pointer O) (numBytes : Nat)
    (sendStop : Bool) :
    let t := s.readAsync address buffer numBytes sendStop
    t.memory = s.memory ∧ (t.buff = s.buff ∨ t.buff = s.buff.initialise buffer numBytes) := by
  obtain ⟨e, state, ignore, driver, _⟩ :=
    start_driver { s with calls := s.calls + 1 } address masterRead
  unfold readAsync
  dsimp only
  split
  · exact ⟨rfl, .inl rfl⟩
  · split
    · rw [driver]
      exact ⟨rfl, .inl rfl⟩
    · split
      · rw [access_driver, driver]
        exact ⟨rfl, .inl rfl⟩
      · split
        · rw [access_driver, access_driver, initialiseBuff, driver]
          exact ⟨rfl, .inr rfl⟩
        · rw [access_driver, initialiseBuff, driver]
          exact ⟨rfl, .inr rfl⟩

/-- A read takes no notice of TDF. -/
theorem isr_reading (reading : s.ignoreTdf = true) :
    let msr := s.pass.port.msr
    s.isr = ((s.pass.serveErrors msr).serveStop msr).serveReceive msr := by
  intro msr
  let u := ((s.pass.serveErrors msr).serveStop msr).serveReceive msr
  have still : u.ignoreTdf = true := by
    rw [(keepsBuffer_serveReceive msr _).ignoreTdf, (endings_kept msr s.pass).1]
    exact reading
  change u.serveTransmit msr = u
  rw [serveTransmit, if_neg (by simp [still])]

/-! ### Steps -/

variable {a : Step O}

/-- What a step can do, after the hardware has moved. -/
theorem step_cases {motive : Master O → Prop} (s : Master O) (a : Step O)
    (begins : ∀ frequency, a.action = .begin frequency →
      motive ((s.schedule a.meanwhile).begin frequency))
    (ends : a.action = .end' → motive (s.schedule a.meanwhile).end')
    (writes : ∀ address buffer numBytes sendStop,
      a.action = .writeAsync address buffer numBytes sendStop →
        motive ((s.schedule a.meanwhile).writeAsync address buffer numBytes sendStop))
    (reads : ∀ address buffer numBytes sendStop,
      a.action = .readAsync address buffer numBytes sendStop →
        motive ((s.schedule a.meanwhile).readAsync address buffer numBytes sendStop))
    (interrupts : s.Interrupts a → motive (s.schedule a.meanwhile).isr)
    (masked : a.action = .isr → s.port.irqEnabled = false → motive (s.schedule a.meanwhile))
    (moves : ∀ e, a.action = .hardware e →
      motive { s.schedule a.meanwhile with bus.device := s.port.apply e }) :
    motive (s.step a) := by
  unfold step
  cases kind : a.action with
  | begin frequency => exact begins frequency kind
  | end' => exact ends kind
  | writeAsync address buffer numBytes sendStop => exact writes _ _ _ _ kind
  | readAsync address buffer numBytes sendStop => exact reads _ _ _ _ kind
  | isr =>
      dsimp only
      split
      · next enabled => exact interrupts ⟨kind, enabled⟩
      · next disabled => exact masked kind (Bool.eq_false_iff.mpr disabled)
  | hardware e => exact moves e kind

theorem step_interrupts (interrupts : s.Interrupts a) :
    s.step a = (s.schedule a.meanwhile).isr := by
  unfold step
  rw [interrupts.1]
  exact if_pos interrupts.2

theorem step_writeAsync {address : UInt8} {buffer : Pointer O} {numBytes : Nat}
    {sendStop : Bool} (kind : a.action = .writeAsync address buffer numBytes sendStop) :
    s.step a = (s.schedule a.meanwhile).writeAsync address buffer numBytes sendStop := by
  unfold step
  rw [kind]

theorem step_readAsync {address : UInt8} {buffer : Pointer O} {numBytes : Nat}
    {sendStop : Bool} (kind : a.action = .readAsync address buffer numBytes sendStop) :
    s.step a = (s.schedule a.meanwhile).readAsync address buffer numBytes sendStop := by
  unfold step
  rw [kind]

theorem step_driver (other : a.action.isCall = false) (quiet : ¬ s.Interrupts a) :
    (s.step a).toMasterDriver = s.toMasterDriver := by
  refine step_cases (motive := fun t => t.toMasterDriver = s.toMasterDriver) s a ?begins ?ends
    ?writes ?reads ?interrupts ?masked ?moves
  case begins => exact fun _ _ => rfl
  case ends => exact fun _ => rfl
  case interrupts => exact fun interrupts => absurd interrupts quiet
  case masked => exact fun _ _ => rfl
  case moves => exact fun _ _ => rfl
  case writes => exact fun _ _ _ _ kind => by simp [kind, Action.isCall] at other
  case reads => exact fun _ _ _ _ kind => by simp [kind, Action.isCall] at other

omit [Inhabited O] [DecidableEq O] in
theorem Action.isCall_of_betweenCalls {action : Action O} (between : action.betweenCalls = true) :
    action.isCall = false := by
  cases action <;> first | rfl | cases between

end Master
end TeensyI2C
