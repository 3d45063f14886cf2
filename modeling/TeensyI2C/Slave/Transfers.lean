import TeensyI2C.Slave.Frames

/-!
What the data calls of one whole frame do to the driver: the stored bytes of a write, the bus
bytes of a read, the error code and the cursors.
-/

namespace TeensyI2C
open ObjectMemory EventMachine

namespace Slave
variable {O σ : Type} [Inhabited O] [DecidableEq O]

theorem isr_rdf (s : Slave O σ) (srdr : Srdr) :
    s.isr { rdf := true, srdr := srdr } = s.receiveData srdr := rfl

theorem isr_tdf (s : Slave O σ) : s.isr { tdf := true } = s.transmitData := rfl

/-! ### Writes -/

/-- The calls for bytes that do not start a frame. -/
def laterBytes (bytes : List UInt8) : List SlaveStatus :=
  bytes.map fun data => { rdf := true, srdr := ⟨false, data⟩ }

/-- The accesses of a copy to `p`. -/
def stores {O : Type} (p : Pointer O) : List UInt8 → List (Event O)
  | [] => []
  | data :: bytes => .access (.store p data) :: stores (p + 1) bytes

omit [Inhabited O] [DecidableEq O] in
theorem busBytes_stores (p : Pointer O) (bytes : List UInt8) : busBytes (stores p bytes) = [] := by
  induction bytes generalizing p with
  | nil => rfl
  | cons data bytes ih => exact ih (p + 1)

/-- The driver once more bytes of a frame have come in: what there is room for is kept. -/
def received (s : Slave O σ) (bytes : List UInt8) : Slave O σ :=
  let room := s.rxBuffer.size - s.rxBuffer.nextIndex
  { s with
    rxBuffer := { s.rxBuffer with
      nextIndex := min (s.rxBuffer.nextIndex + bytes.length) s.rxBuffer.size }
    memory := s.memory.storeAll s.rxBuffer.cursor (bytes.take room)
    error := if room < bytes.length then .bufferOverflow else s.error
    trace := s.trace ++ stores s.rxBuffer.cursor (bytes.take room) }

/-- Bytes fill the receive buffer up to its end; the rest is swallowed. -/
theorem run_laterBytes_eq {s : Slave O σ} (buffer : s.rxBuffer.initialised = true)
    (bounded : s.rxBuffer.Bounded) (bytes : List UInt8) :
    run isr s (laterBytes bytes) = s.received bytes := by
  induction bytes generalizing s with
  | nil =>
      have : min s.rxBuffer.nextIndex s.rxBuffer.size = s.rxBuffer.nextIndex :=
        Nat.min_eq_left bounded
      simp [laterBytes, received, this, Memory.storeAll, stores]
  | cons data bytes ih =>
      have first : run isr s (laterBytes (data :: bytes)) =
          run isr (s.receiveData ⟨false, data⟩) (laterBytes bytes) := rfl
      rw [first]
      cases full : s.rxBuffer.full with
      | true =>
          have atEnd : s.rxBuffer.nextIndex = s.rxBuffer.size := by
            simpa [I2CBuffer.full] using full
          have step : s.receiveData ⟨false, data⟩ = { s with error := .bufferOverflow } := by
            simp [receiveData, buffer, full]
          rw [step, ih (s := { s with error := .bufferOverflow }) buffer bounded]
          simp [received, atEnd, Memory.storeAll, stores]
      | false =>
          have room : s.rxBuffer.nextIndex < s.rxBuffer.size := bounded.advance full
          have step : s.receiveData ⟨false, data⟩ = s.storeReceived data := by
            simp [receiveData, buffer, full]
          rw [step, ih (s := s.storeReceived data) buffer room]
          have succ : s.rxBuffer.size - s.rxBuffer.nextIndex =
              s.rxBuffer.size - (s.rxBuffer.nextIndex + 1) + 1 := by omega
          have count : s.rxBuffer.nextIndex + 1 + bytes.length =
              s.rxBuffer.nextIndex + (data :: bytes).length := by
            rw [List.length_cons]
            omega
          simp only [received, storeReceived, I2CBuffer.advance, I2CBuffer.cursor, succ, count,
            List.take_succ_cons, Memory.storeAll, stores, Pointer.add_assoc, List.append_assoc,
            List.singleton_append, List.length_cons, Nat.add_lt_add_iff_right]
          congr

/-- The calls for the bytes of a write. The first one carries SOF. -/
def writeCalls (first : UInt8) (rest : List UInt8) : List SlaveStatus :=
  { rdf := true, srdr := ⟨true, first⟩ } :: laterBytes rest

theorem run_writeCalls (s : Slave O σ) (first : UInt8) (rest : List UInt8)
    (buffer : s.rxBuffer.initialised = true) :
    run isr s (writeCalls first rest) = s.startReceiving.received (first :: rest) := by
  have started : s.startReceiving =
      { s with error := .ok, rxBuffer := s.rxBuffer.reset, state := .receiving } := by
    simp [startReceiving, buffer]
  have later : run isr s (writeCalls first rest) =
      run isr s.startReceiving (laterBytes (first :: rest)) := by
    simp only [writeCalls, run_cons, laterBytes, List.map_cons, isr_rdf, receiveData, if_true,
      Bool.false_eq_true, if_false]
  rw [later, run_laterBytes_eq]
  · rw [started]
    exact buffer
  · rw [started]
    exact I2CBuffer.bounded_reset _

/-- Without a buffer a write frame leaves nothing behind but the error. -/
theorem run_writeCalls_discarded (s : Slave O σ) (first : UInt8) (rest : List UInt8)
    (noBuffer : s.rxBuffer.initialised = false) :
    run isr s (writeCalls first rest) = { s with error := .bufferOverflow, state := .idle } := by
  have swallow : ∀ (t : Slave O σ) (srdr : Srdr), t.rxBuffer.initialised = false →
      t.receiveData srdr = { t with error := .bufferOverflow, state := .idle } := by
    intro t srdr noBuffer
    obtain ⟨sof, data⟩ := srdr
    cases sof <;> simp [receiveData, startReceiving, noBuffer]
  have later : ∀ bytes,
      run isr { s with error := .bufferOverflow, state := .idle } (laterBytes bytes) =
        { s with error := .bufferOverflow, state := .idle } := by
    intro bytes
    induction bytes with
    | nil => rfl
    | cons data bytes ih =>
        have step := swallow { s with error := .bufferOverflow, state := .idle } ⟨false, data⟩
          noBuffer
        exact (congrArg (run isr · (laterBytes bytes)) step).trans ih
  simp only [writeCalls, run_cons, isr_rdf, swallow s ⟨true, first⟩ noBuffer]
  exact later rest

theorem dataCalls_write {f : Frame} {first : UInt8} {rest : List UInt8}
    (transfer : f.transfer = .write first rest) : f.dataCalls {} = writeCalls first rest := by
  simp only [Frame.dataCalls, transfer, writeCalls, laterBytes]

theorem run_write {s : Slave O σ} {f : Frame} {first : UInt8} {rest : List UInt8}
    (transfer : f.transfer = .write first rest) (buffer : s.rxBuffer.initialised = true) :
    ∃ error events,
      run isr s (f.dataCalls {}) =
        { s with
          state := .receiving
          rxBuffer := { s.rxBuffer with
            nextIndex := min (rest.length + 1) s.rxBuffer.size }
          memory := s.memory.storeAll s.rxBuffer.buffer
            ((first :: rest).take s.rxBuffer.size)
          error := error
          trace := s.trace ++ events } ∧
      busBytes events = [] := by
  refine ⟨if s.rxBuffer.size < (first :: rest).length then .bufferOverflow else .ok,
    stores s.rxBuffer.buffer ((first :: rest).take s.rxBuffer.size), ?_, busBytes_stores _ _⟩
  rw [dataCalls_write transfer, run_writeCalls s first rest buffer]
  simp [startReceiving, buffer, received, I2CBuffer.reset, I2CBuffer.cursor]

theorem endOfFrame_run_write {s : Slave O σ} {f : Frame} {first : UInt8} {rest : List UInt8}
    (transfer : f.transfer = .write first rest) (buffer : s.rxBuffer.initialised = true)
    {callback : Nat → UInt16 → Callback O σ} (attached : s.afterReceiveCallback = some callback)
    (status : SlaveStatus) :
    ∃ address error trace,
      let length := min (rest.length + 1) s.rxBuffer.size
      let reply := callback length address error
        (s.memory.storeAll s.rxBuffer.buffer ((first :: rest).take s.rxBuffer.size)) s.app
      ((run isr s (f.dataCalls {})).serveAddress status).endOfFrame =
        { s with
          error := error
          state := .idle
          addressCalled := address
          rxBuffer := reply.calls.foldl receiveCall { s.rxBuffer with nextIndex := length }
          txBuffer := reply.calls.foldl transmitCall s.txBuffer
          app := reply.app
          memory := reply.memory
          trace := trace } := by
  obtain ⟨address, named⟩ := serveAddress_eq (run isr s (f.dataCalls {})) status
  obtain ⟨error, events, served, -⟩ := run_write transfer buffer
  have same : ((run isr s (f.dataCalls {})).serveAddress status).afterReceiveCallback =
      some callback := by
    rw [named, served]
    exact attached
  have told := endOfFrame_receiving (by rw [named, served]) same
  rw [told, invoke_eq, named, served]
  exact ⟨address, error, _, rfl⟩

theorem run_write_discarded {s : Slave O σ} {f : Frame} {first : UInt8} {rest : List UInt8}
    (transfer : f.transfer = .write first rest) (idle : s.state = .idle)
    (noBuffer : s.rxBuffer.initialised = false) :
    run isr s (f.dataCalls {}) = { s with error := .bufferOverflow } := by
  rw [dataCalls_write transfer, run_writeCalls_discarded s first rest noBuffer, ← idle]

/-! ### Reads -/

/-- The bytes of a window, followed by dummy bytes, as many as are asked for. -/
def padded (bytes : List UInt8) (count : Nat) : List UInt8 :=
  (bytes ++ List.replicate count dummyByte).take count

theorem padded_eq (bytes : List UInt8) (count : Nat) :
    padded bytes count = bytes.take count ++ List.replicate (count - bytes.length) dummyByte := by
  rw [padded, List.take_append, List.take_replicate]
  congr 2
  omega

theorem length_padded (bytes : List UInt8) (count : Nat) : (padded bytes count).length = count := by
  simp [padded]

theorem take_padded (bytes : List UInt8) (count : Nat) :
    (padded bytes (count + 1)).take count = padded bytes count := by
  rw [padded, List.take_take, padded, List.take_append, List.take_append, List.take_replicate,
    List.take_replicate]
  congr 2 <;> omega

theorem padded_cons (byte : UInt8) (bytes : List UInt8) (count : Nat) :
    padded (byte :: bytes) (count + 1) = byte :: padded bytes count := by
  simp only [padded, List.cons_append, List.take_succ_cons, List.cons.injEq, true_and]
  rw [List.take_append, List.take_append, List.take_replicate, List.take_replicate]
  congr 2
  omega

theorem padded_nil (count : Nat) : padded [] (count + 1) = dummyByte :: padded [] count := by
  simp [padded, List.replicate_succ]

theorem padded_add (bytes : List UInt8) (m n : Nat) :
    padded bytes (m + n) = padded bytes m ++ padded (bytes.drop m) n := by
  induction m generalizing bytes with
  | zero => simp [padded]
  | succ m ih =>
      rw [Nat.add_right_comm]
      cases bytes with
      | nil =>
          have rest := ih []
          rw [List.drop_nil] at rest
          rw [padded_nil, padded_nil, rest, List.drop_nil, List.cons_append]
      | cons byte bytes => rw [padded_cons, padded_cons, ih, List.drop_succ_cons, List.cons_append]

/-- What the port and the memory see of some requests. -/
def answers (m : Memory O UInt8) (b : I2CBuffer O) : Nat → List (Event O)
  | 0 => []
  | count + 1 =>
      if b.hasDataAvailable then
        .access (.fetch b.cursor) :: .stdr (m.load b.cursor) :: answers m b.advance count
      else
        .stdr dummyByte :: answers m b count

omit [DecidableEq O] in
theorem busBytes_answers (m : Memory O UInt8) (b : I2CBuffer O) (count : Nat) :
    busBytes (answers m b count) =
      padded (m.slice b.cursor (b.size - b.nextIndex)) count := by
  induction count generalizing b with
  | zero => simp [answers, padded, busBytes]
  | succ count ih =>
      cases data : b.hasDataAvailable with
      | true =>
          have below : b.nextIndex < b.size := by simpa [I2CBuffer.hasDataAvailable] using data
          have succ : b.size - b.nextIndex = b.size - (b.nextIndex + 1) + 1 := by omega
          have rest := ih b.advance
          simp only [I2CBuffer.advance, I2CBuffer.cursor] at rest
          rw [succ, Memory.slice_succ, padded_cons]
          simp only [I2CBuffer.cursor, Pointer.add_assoc, ← rest, answers, data, if_true]
          rfl
      | false =>
          have none_left : b.size - b.nextIndex = 0 := by
            simp only [I2CBuffer.hasDataAvailable, decide_eq_false_iff_not] at data
            omega
          have rest := ih b
          simp only [none_left, Memory.slice, List.range_zero, List.map_nil] at rest ⊢
          rw [padded_nil, ← rest]
          simp only [answers, data, Bool.false_eq_true, if_false]
          rfl

/-- The requests that are still answered without an error: one more than there are bytes left. -/
def spare (s : Slave O σ) : Nat :=
  if s.txBuffer.initialised then
    s.txBuffer.size - s.txBuffer.nextIndex + if s.trailingByteSent then 0 else 1
  else 0

/-- The driver once it has been asked for more bytes of a frame. -/
def answered (s : Slave O σ) (count : Nat) : Slave O σ :=
  let left := s.txBuffer.size - s.txBuffer.nextIndex
  { s with
    txBuffer := { s.txBuffer with nextIndex := s.txBuffer.nextIndex + min count left }
    trailingByteSent := s.trailingByteSent || (s.txBuffer.initialised && decide (left < count))
    error := if s.spare < count then .bufferUnderflow else s.error
    trace := s.trace ++ answers s.memory s.txBuffer count }

omit [DecidableEq O] in
theorem answered_zero (s : Slave O σ) : s.answered 0 = s := by
  simp [answered, answers]

omit [DecidableEq O] in
theorem answerRequest_later (s : Slave O σ) (count : Nat) :
    (s.answerRequest false).answered count = s.answered (count + 1) := by
  cases buffer : s.txBuffer.initialised with
  | false =>
      have empty : s.txBuffer.size = 0 := by simpa [I2CBuffer.initialised] using buffer
      have noData : s.txBuffer.hasDataAvailable = false := by
        simp [I2CBuffer.hasDataAvailable, empty]
      have sent : s.answerRequest false =
          { s.emit (.stdr dummyByte) with error := .bufferUnderflow } := by
        simp [answerRequest, buffer]
      rw [sent]
      simp [answered, answers, spare, emit, buffer, noData, empty]
  | true =>
      cases data : s.txBuffer.hasDataAvailable with
      | true =>
          have below : s.txBuffer.nextIndex < s.txBuffer.size := by
            simpa [I2CBuffer.hasDataAvailable] using data
          have sent : s.answerRequest false = s.sendNext := by
            simp [answerRequest, buffer, data]
          have next : s.sendNext.txBuffer.initialised = true := buffer
          have left : s.txBuffer.size - s.txBuffer.nextIndex =
              s.txBuffer.size - (s.txBuffer.nextIndex + 1) + 1 := by omega
          have moved : s.txBuffer.nextIndex + 1 +
              min count (s.txBuffer.size - (s.txBuffer.nextIndex + 1)) =
              s.txBuffer.nextIndex +
                min (count + 1) (s.txBuffer.size - (s.txBuffer.nextIndex + 1) + 1) := by omega
          rw [sent]
          simp only [answered, answers, spare, next, buffer, data, left, ← moved]
          simp only [sendNext, I2CBuffer.advance, Nat.add_right_comm _ 1, Nat.add_lt_add_iff_right,
            List.append_assoc, List.cons_append, List.nil_append, if_true, Bool.true_and]
          congr
      | false =>
          have noneLeft : s.txBuffer.size - s.txBuffer.nextIndex = 0 := by
            simp only [I2CBuffer.hasDataAvailable, decide_eq_false_iff_not] at data
            omega
          cases trailing : s.trailingByteSent with
          | false =>
              have sent : s.answerRequest false =
                  { s.emit (.stdr dummyByte) with trailingByteSent := true } := by
                simp [answerRequest, buffer, data, trailing, emit]
              rw [sent]
              simp [answered, answers, spare, emit, buffer, data, trailing, noneLeft]
          | true =>
              have sent : s.answerRequest false =
                  { s.emit (.stdr dummyByte) with error := .bufferUnderflow } := by
                simp [answerRequest, buffer, data, trailing, emit]
              rw [sent]
              simp [answered, answers, spare, emit, buffer, data, trailing, noneLeft]

omit [DecidableEq O] in
theorem transmitData_eq_later {s : Slave O σ} (transmitting : s.state = .transmitting) :
    s.transmitData = s.answerRequest false := by
  simp [transmitData, transmitting, SlaveState.code]

/-- Inside a read every request is answered from the transmit buffer, and with a dummy byte
once the buffer has run out. -/
theorem run_requests_eq {s : Slave O σ} (transmitting : s.state = .transmitting) (count : Nat) :
    run isr s (List.replicate count { tdf := true }) = s.answered count := by
  induction count generalizing s with
  | zero => exact s.answered_zero.symm
  | succ count ih =>
      have answers : s.isr { tdf := true } = s.answerRequest false := by
        rw [isr_tdf, transmitData_eq_later transmitting]
      rw [List.replicate_succ, run_cons, answers,
        ih ((answerRequest_state s false).trans transmitting), answerRequest_later]

/-- The transmit buffer as the first request of a frame finds it. -/
def rewound (s : Slave O σ) : Slave O σ :=
  { s with txBuffer := if s.txBuffer.initialised then s.txBuffer.reset else s.txBuffer }

omit [DecidableEq O] in
theorem busBytes_answers_rewound (s : Slave O σ) (m : Memory O UInt8) (count : Nat) :
    busBytes (answers m s.rewound.txBuffer count) =
      padded (m.slice s.txBuffer.buffer s.txBuffer.size) count := by
  rw [busBytes_answers]
  cases buffer : s.txBuffer.initialised with
  | false =>
      have empty : s.txBuffer.size = 0 := by simpa [I2CBuffer.initialised] using buffer
      simp [rewound, buffer, empty, Memory.slice]
  | true => simp [rewound, buffer, I2CBuffer.reset, I2CBuffer.cursor]

omit [DecidableEq O] in
theorem answerRequest_first (s : Slave O σ) :
    s.answerRequest true = s.rewound.answerRequest false := by
  cases buffer : s.txBuffer.initialised with
  | false => simp [answerRequest, rewound, buffer]
  | true =>
      have same : s.txBuffer.reset.initialised = true := buffer
      simp [answerRequest, rewound, buffer, same]

omit [DecidableEq O] in
theorem transmitData_eq_first {s : Slave O σ} (idle : s.state = .idle) :
    s.transmitData = s.startTransmitting.rewound.answerRequest false := by
  rw [← answerRequest_first]
  simp [transmitData, idle, SlaveState.code]

theorem run_readCalls {s : Slave O σ} (idle : s.state = .idle) (count : Nat) :
    run isr s (List.replicate (count + 1) { tdf := true }) =
      s.startTransmitting.rewound.answered (count + 1) := by
  have busy : s.startTransmitting.state = .transmitting := startTransmitting_state s
  have first : s.isr { tdf := true } = s.startTransmitting.rewound.answerRequest false := by
    rw [isr_tdf, transmitData_eq_first idle]
  have answering : (s.startTransmitting.rewound.answerRequest false).state = .transmitting :=
    (answerRequest_state s.startTransmitting.rewound false).trans busy
  rw [List.replicate_succ, run_cons, first, run_requests_eq answering, answerRequest_later]

theorem run_read {s : Slave O σ} {f : Frame} {count : Nat} (transfer : f.transfer = .read count)
    (idle : s.state = .idle) (noCallback : s.beforeTransmitCallback = none) :
    ∃ error trailing next events,
      run isr s (f.dataCalls {}) =
        { s with
          state := .transmitting
          txBuffer := { s.txBuffer with nextIndex := next }
          trailingByteSent := trailing
          error := error
          trace := s.trace ++ events } ∧
      busBytes events = padded (s.memory.slice s.txBuffer.buffer s.txBuffer.size) (count + 1) := by
  have calls : f.dataCalls {} = List.replicate (count + 1) { tdf := true } := by
    simp only [Frame.dataCalls, transfer, List.replicate_succ]
  let first : Slave O σ := rewound { s with error := .ok, state := .transmitting }
  let last := first.answered (count + 1)
  refine ⟨last.error, last.trailingByteSent, last.txBuffer.nextIndex,
    answers s.memory first.txBuffer (count + 1), ?_, busBytes_answers_rewound _ _ _⟩
  rw [calls, run_readCalls idle, startTransmitting_none noCallback]
  cases buffer : s.txBuffer.initialised <;>
    simp [last, first, answered, rewound, buffer, I2CBuffer.reset]

theorem endOfFrame_run_read {s : Slave O σ} {f : Frame} {count : Nat}
    (transfer : f.transfer = .read count) (idle : s.state = .idle)
    (noCallback : s.beforeTransmitCallback = none) {callback : UInt16 → Callback O σ}
    (attached : s.afterTransmitCallback = some callback) (status : SlaveStatus) :
    ∃ address error next trace,
      let reply := callback address error s.memory s.app
      ((run isr s (f.dataCalls {})).serveAddress status).endOfFrame =
        { s with
          error := error
          state := .idle
          addressCalled := address
          trailingByteSent := false
          rxBuffer := reply.calls.foldl receiveCall s.rxBuffer
          txBuffer := reply.calls.foldl transmitCall { s.txBuffer with nextIndex := next }
          app := reply.app
          memory := reply.memory
          trace := trace } := by
  obtain ⟨address, named⟩ := serveAddress_eq (run isr s (f.dataCalls {})) status
  obtain ⟨error, trailing, next, events, served, -⟩ := run_read transfer idle noCallback
  have same : ((run isr s (f.dataCalls {})).serveAddress status).afterTransmitCallback =
      some callback := by
    rw [named, served]
    exact attached
  have told := endOfFrame_transmitting (by rw [named, served]) same
  rw [told, invoke_eq, named, served]
  exact ⟨address, error, next, _, rfl⟩

/-! ### Runs of frames -/

theorem run_calls_single (s : Slave O σ) (f : Frame) :
    run isr s (Frame.calls [f]) =
      (run isr (s.serveAddress { avf := true, sasr := f.sasr }) (f.dataCalls {})).endOfFrame := by
  rw [Frame.calls, Frame.callsFrom, run_append, run_dataCalls s f rfl rfl rfl, run_cons, run_nil,
    isr_endFlag]
  rfl

/-- What addresses do not matter to, and what a whole frame carries from one abstract state to the
next, holds after every run of frames, however late their ends are found. -/
theorem callsFrom_rule {α : Type} {I : α → Slave O σ → Prop} (next : α → Transfer → α)
    (address : ∀ a s status, I a s → I a (s.serveAddress status))
    (frame : ∀ a s (f : Frame) status, I a s →
      I (next a f.transfer) ((run isr s (f.dataCalls {})).serveAddress status).endOfFrame)
    {a : α} {s : Slave O σ} (opening : SlaveStatus) (rdf : opening.rdf = false)
    (tdf : opening.tdf = false) (bef : opening.bef = false) (f : Frame) (fs : List Frame)
    (h : I a (serveEnd opening (s.serveAddress opening))) :
    I (run next a ((f :: fs).map (·.transfer))) (run isr s (f.callsFrom opening fs)) := by
  induction fs generalizing f a s opening with
  | nil =>
      rw [Frame.callsFrom, run_append, run_dataCalls s f rdf tdf bef, run_cons, run_nil,
        isr_endFlag]
      exact frame a _ f {} h
  | cons g fs ih =>
      rw [Frame.callsFrom, run_append, run_dataCalls s f rdf tdf bef, List.map_cons, run_cons]
      cases f.ending with
      | prompt =>
          dsimp only
          rw [run_cons, isr_endFlag]
          exact ih { avf := true, sasr := g.sasr } rfl rfl rfl g
            (address _ _ { avf := true, sasr := g.sasr } (frame a _ f {} h))
      | withAddress =>
          dsimp only
          rw [run_cons, isr_endFlag_withAddress]
          exact ih {} rfl rfl rfl g (frame a _ f { avf := true, sasr := g.sasr } h)
      | withData =>
          have ended : ∀ t : Slave O σ,
              serveEnd { f.endFlag with avf := true, sasr := g.sasr } t = t.endOfFrame := by
            intro t
            cases hs : f.stop <;> simp [serveEnd, Frame.endFlag, hs]
          refine ih { f.endFlag with avf := true, sasr := g.sasr } rfl rfl rfl g ?_
          rw [ended]
          exact frame a _ f _ h

theorem calls_rule {α : Type} {I : α → Slave O σ → Prop} (next : α → Transfer → α)
    (address : ∀ a s status, I a s → I a (s.serveAddress status))
    (frame : ∀ a s (f : Frame) status, I a s →
      I (next a f.transfer) ((run isr s (f.dataCalls {})).serveAddress status).endOfFrame)
    {a : α} {s : Slave O σ} (frames : List Frame) (h : I a s) :
    I (run next a (frames.map (·.transfer))) (run isr s (Frame.calls frames)) := by
  cases frames with
  | nil => exact h
  | cons f fs =>
      exact callsFrom_rule next address frame { avf := true, sasr := f.sasr } rfl rfl rfl f fs
        (address a s { avf := true, sasr := f.sasr } h)

end Slave
end TeensyI2C
