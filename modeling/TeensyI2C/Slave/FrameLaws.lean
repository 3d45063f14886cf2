import TeensyI2C.Slave.BitError
import TeensyI2C.Slave.Transfers

/-!
What the application and the master are told about one frame, wherever it stands in a run: the
bytes that are kept or sent, the error code when the end of the frame is processed, and the
callbacks. The end of the frame before may be found together with the first byte, and the end of
this one together with whatever comes next.
-/

namespace TeensyI2C
open ObjectMemory EventMachine

section Callbacks
variable {O : Type}

/-- The callbacks among some events. -/
def callbacks (events : List (Event O)) : List (Event O) :=
  events.filter fun
    | .afterReceive _ _ | .beforeTransmit _ | .afterTransmit _ => true
    | .access _ | .stdr _ => false

@[simp] theorem callbacks_append (xs ys : List (Event O)) :
    callbacks (xs ++ ys) = callbacks xs ++ callbacks ys :=
  List.filter_append xs ys

@[simp] theorem callbacks_accesses (as : List (Access O)) :
    callbacks (as.map Event.access) = [] := by
  induction as with
  | nil => rfl
  | cons a as ih => exact ih

theorem callbacks_stores (p : Pointer O) (bytes : List UInt8) :
    callbacks (Slave.stores p bytes) = [] := by
  induction bytes generalizing p with
  | nil => rfl
  | cons data bytes ih => exact ih (p + 1)

theorem callbacks_answers [Inhabited O] (m : Memory O UInt8) (b : I2CBuffer O) (count : Nat) :
    callbacks (Slave.answers m b count) = [] := by
  induction count generalizing b with
  | zero => rfl
  | succ count ih =>
      unfold Slave.answers
      split
      · exact ih b.advance
      · exact ih b

def calledIf (condition : Bool) (e : Event O) : List (Event O) :=
  if condition then [e] else []

end Callbacks

namespace Slave
variable {O σ : Type} [Inhabited O] [DecidableEq O]

/-- What is found together with the first byte of a frame is served before that byte. -/
theorem run_opening (s : Slave O σ) (opening : SlaveStatus) (calls : List SlaveStatus)
    (bef : opening.bef = false) :
    run isr s (opening :: calls) =
      run isr (serveEnd opening (s.serveAddress opening))
        ({ rdf := opening.rdf, tdf := opening.tdf, srdr := opening.srdr } :: calls) := by
  have same : s.isr opening = (serveEnd opening (s.serveAddress opening)).isr
      { rdf := opening.rdf, tdf := opening.tdf, srdr := opening.srdr } := by
    simp [isr, serveBitError, serveReceive, serveTransmit, bef]
    simp [serveAddress, serveEnd]
  rw [run_cons, run_cons, same]

omit [DecidableEq O] in
theorem callbacks_endOfFrame_receiving {s : Slave O σ} (busy : s.state = .receiving) :
    callbacks s.endOfFrame.trace = callbacks s.trace ++
      calledIf s.afterReceiveCallback.isSome
        (.afterReceive s.rxBuffer.nextIndex s.addressCalled) := by
  cases attached : s.afterReceiveCallback with
  | none =>
      rw [endOfFrame_receiving_none busy attached]
      exact (List.append_nil _).symm
  | some callback =>
      rw [endOfFrame_receiving busy attached, invoke_eq]
      simp only [emit, callbacks_append, callbacks_accesses, List.append_nil]
      rfl

omit [DecidableEq O] in
theorem callbacks_endOfFrame_transmitting {s : Slave O σ} (busy : s.state = .transmitting) :
    callbacks s.endOfFrame.trace = callbacks s.trace ++
      calledIf s.afterTransmitCallback.isSome (.afterTransmit s.addressCalled) := by
  cases attached : s.afterTransmitCallback with
  | none =>
      rw [endOfFrame_transmitting_none busy attached]
      exact (List.append_nil _).symm
  | some callback =>
      rw [endOfFrame_transmitting busy attached, invoke_eq]
      simp only [emit, callbacks_append, callbacks_accesses, List.append_nil]
      rfl

omit [DecidableEq O] in
theorem serveEnd_of_ended (s : Slave O σ) {h : SlaveStatus} (ended : h.frameEnded = true) :
    serveEnd h s = s.endOfFrame := by
  have flags : (h.rsf || h.sdf) = true := ended
  simp [serveEnd, flags]

/-! ### Writes -/

/-- A write frame anywhere in a run: the bytes there is room for are kept, more than that is an
overflow, and `after_receive` is told how many were kept. -/
theorem receive_law (s₀ : Slave O σ) (history : List SlaveStatus) (opening closing : SlaveStatus)
    (first : UInt8) (rest : List UInt8)
    (data : opening.rdf = true ∧ opening.srdr = ⟨true, first⟩)
    (alone : opening.tdf = false ∧ opening.bef = false) (ended : closing.frameEnded = true) :
    let s := run isr s₀ history
    let before := serveEnd opening (s.serveAddress opening)
    let atEnd := (run isr s (opening :: laterBytes rest)).serveAddress closing
    let after := serveEnd closing atEnd
    let bytes := first :: rest
    let size := before.rxBuffer.size
    atEnd.memory = before.memory.storeAll before.rxBuffer.buffer (bytes.take size) ∧
    atEnd.memory.slice before.rxBuffer.buffer size =
      bytes.take size ++ (before.memory.slice before.rxBuffer.buffer size).drop bytes.length ∧
    atEnd.error = (if size < bytes.length then .bufferOverflow else .ok) ∧
    callbacks atEnd.trace = callbacks before.trace ∧
    callbacks after.trace = callbacks atEnd.trace ++
      calledIf (decide (0 < size) && before.afterReceiveCallback.isSome)
        (.afterReceive (min bytes.length size) atEnd.addressCalled) := by
  intro s before atEnd after bytes size
  obtain ⟨address, named⟩ := serveAddress_eq (run isr s (opening :: laterBytes rest)) closing
  have served :
      run isr s (opening :: laterBytes rest) = run isr before (writeCalls first rest) := by
    rw [run_opening s opening _ alone.2, data.1, data.2, alone.1]
    rfl
  have finished : after = atEnd.endOfFrame := serveEnd_of_ended atEnd ended
  rw [finished]
  cases buffer : before.rxBuffer.initialised with
  | false =>
      have empty : size = 0 := by simpa [I2CBuffer.initialised] using buffer
      have last : atEnd = { before with
          error := .bufferOverflow, state := .idle, addressCalled := address } := by
        simp only [atEnd, named, served, run_writeCalls_discarded before first rest buffer]
      rw [endOfFrame_idle (by rw [last]), last, empty]
      simp [bytes, Memory.storeAll, Memory.slice, calledIf]
  | true =>
      have positive : 0 < size := by simpa [I2CBuffer.initialised] using buffer
      have last : atEnd =
          { before.startReceiving.received bytes with addressCalled := address } := by
        simp only [atEnd, named, served, run_writeCalls before first rest buffer, bytes]
      have started : before.startReceiving =
          { before with error := .ok, rxBuffer := before.rxBuffer.reset, state := .receiving } := by
        simp [startReceiving, buffer]
      have memory : atEnd.memory =
          before.memory.storeAll before.rxBuffer.buffer (bytes.take size) := by
        rw [last, started]
        rfl
      have trace : callbacks atEnd.trace = callbacks before.trace := by
        rw [last, started]
        simp [received, callbacks_stores]
      refine ⟨memory, ?_, ?_, trace, ?_⟩
      · rw [memory, Memory.slice_storeAll_self _ _ _ _ (List.length_take_le size bytes),
          List.length_take]
        congr 1
        rcases Nat.le_total bytes.length size with fits | overruns
        · rw [Nat.min_eq_right fits]
        · rw [Nat.min_eq_left overruns, List.drop_eq_nil_of_le (by simp),
            List.drop_eq_nil_of_le (by simpa using overruns)]
      · rw [last, started]
        rfl
      · rw [callbacks_endOfFrame_receiving (by rw [last, started]; rfl), last, started]
        simp [received, I2CBuffer.reset, positive, size]

/-- Room for two bytes, one byte to send, and callbacks that do nothing. -/
def attentiveSlave : Slave Bool Unit :=
  let idly : Callback Bool Unit := fun _ memory app => { app := app, memory := memory }
  let s : Slave Bool Unit := { app := (), memory := fun _ i => if i = 0 then 0x11 else 0x22 }
  let s := s.setReceiveBuffer ⟨true, 0⟩ 2
  let s := s.setTransmitBuffer ⟨false, 0⟩ 1
  let s := s.afterReceive (some fun _ _ => idly)
  let s := s.beforeTransmit (some fun _ => idly)
  s.afterTransmit (some fun _ => idly)

/-- Three bytes for a buffer of two, right after a read whose end is found with the first byte. -/
theorem receive_law_overflow :
    let s := run isr attentiveSlave [{ avf := true, sasr := 0x5B, tdf := true }]
    let opening : SlaveStatus :=
      { avf := true, sasr := 0x5A, rsf := true, rdf := true, srdr := ⟨true, 1⟩ }
    let atEnd := (run isr s (opening :: laterBytes [2, 3])).serveAddress { sdf := true }
    atEnd.memory.slice ⟨true, 0⟩ 2 = [1, 2] ∧ atEnd.error = .bufferOverflow ∧
      callbacks (serveEnd { sdf := true } atEnd).trace =
        callbacks atEnd.trace ++ [.afterReceive 2 0x2D] := by
  have law := receive_law attentiveSlave [{ avf := true, sasr := 0x5B, tdf := true }]
    { avf := true, sasr := 0x5A, rsf := true, rdf := true, srdr := ⟨true, 1⟩ } { sdf := true }
    1 [2, 3] ⟨rfl, rfl⟩ ⟨rfl, rfl⟩ rfl
  exact ⟨law.2.1.trans (by decide), law.2.2.1, law.2.2.2.2⟩

/-! ### Reads -/

omit [DecidableEq O] in
theorem callbacks_startTransmitting (s : Slave O σ) :
    callbacks s.startTransmitting.trace = callbacks s.trace ++
        calledIf s.beforeTransmitCallback.isSome (.beforeTransmit s.addressCalled) ∧
      busBytes s.startTransmitting.trace = busBytes s.trace := by
  cases attached : s.beforeTransmitCallback with
  | none =>
      rw [startTransmitting_none attached]
      exact ⟨(List.append_nil _).symm, rfl⟩
  | some callback =>
      rw [startTransmitting_some attached, invoke_eq]
      simp only [emit, callbacks_append, callbacks_accesses, busBytes_append, busBytes_accesses,
        List.append_nil]
      exact ⟨rfl, List.append_nil _⟩

omit [DecidableEq O] in
theorem startTransmitting_fields (s : Slave O σ) :
    s.startTransmitting.error = .ok ∧
      s.startTransmitting.afterTransmitCallback = s.afterTransmitCallback := by
  cases attached : s.beforeTransmitCallback with
  | none =>
      rw [startTransmitting_none attached]
      exact ⟨rfl, rfl⟩
  | some callback =>
      rw [startTransmitting_some attached, invoke_eq]
      exact ⟨rfl, rfl⟩

omit [DecidableEq O] in
/-- The port asks for one byte more than the master takes, and one request past the end of the
buffer is let pass. -/
theorem error_answered_rewound {s : Slave O σ} (ok : s.error = .ok)
    (clear : s.trailingByteSent = false) {count : Nat} (taken : 1 ≤ count) :
    (s.rewound.answered (count + 1)).error =
      if s.txBuffer.size < count then .bufferUnderflow else .ok := by
  have spare : s.rewound.spare =
      if s.txBuffer.initialised then s.txBuffer.size + 1 else 0 := by
    cases buffer : s.txBuffer.initialised with
    | false => simp [Slave.spare, rewound, buffer]
    | true =>
        have same : s.txBuffer.reset.initialised = true := buffer
        simp only [Slave.spare, rewound, buffer, same, clear, if_true, Bool.false_eq_true,
          if_false]
        rfl
  have error : (s.rewound.answered (count + 1)).error =
      if s.rewound.spare < count + 1 then .bufferUnderflow else s.error := rfl
  rw [error, spare, ok]
  cases buffer : s.txBuffer.initialised with
  | false =>
      have empty : s.txBuffer.size = 0 := by simpa [I2CBuffer.initialised] using buffer
      simp [empty, show 0 < count from taken]
  | true => simp

omit [DecidableEq O] in
theorem idle_of_opens {s : Slave O σ} {p : BusPhase} (h : s.Orderly p) {opening : SlaveStatus}
    (opens : Frame.Opens p opening) :
    (serveEnd opening (s.serveAddress opening)).state = .idle ∧
      (serveEnd opening (s.serveAddress opening)).trailingByteSent = false := by
  have named := orderly_serveAddress h opening
  cases ended : opening.frameEnded with
  | true => exact orderly_serveEnd named ended
  | false =>
      have running : (opening.rsf || opening.sdf) = false := ended
      obtain ⟨-, ⟨addressed, rfl, -⟩ | ⟨-, frameEnded, -⟩⟩ := opens
      · have skip : serveEnd opening (s.serveAddress opening) = s.serveAddress opening := by
          simp [serveEnd, running]
        rw [skip]
        exact named
      · exact absurd frameEnded (by simp [ended])

theorem orderly_listening (s : Slave O σ) (form : ListenForm) {history : List SlaveStatus}
    (e : Equipment O σ) {p : BusPhase}
    (heard : phaseAfter BusPhase.next (.quiet false) history = some p)
    (harmless : Along isr BitErrorHarmless (s.reconstruct.listen form) history) :
    (s.listening form history e).Orderly p := by
  have fresh : (s.reconstruct.listen form).Orderly (.quiet false) := by
    cases form <;> exact ⟨rfl, rfl⟩
  have run := orderly_run fresh heard harmless
  cases p <;> exact run

theorem harmless_of_faultless (s : Slave O σ) {history : List SlaveStatus}
    (faultless : ∀ h ∈ history, h.bef = false) : Along isr BitErrorHarmless s history := by
  rw [along_iff]
  rintro before h after rfl bef
  exact absurd bef (by simp [faultless h (by simp)])

/-- A read frame anywhere in a run without bit errors: the master gets the transmit buffer, then
zeros, and more than the buffer holds is an underflow. -/
theorem transmit_law (s₀ : Slave O σ) (form : ListenForm) (e : Equipment O σ)
    (history : List SlaveStatus) {p : BusPhase} (opening closing : SlaveStatus) (count : Nat)
    (heard : phaseAfter BusPhase.next (.quiet false) history = some p)
    (faultless : ∀ h ∈ history, h.bef = false) (opens : Frame.Opens p opening)
    (request : opening.tdf = true ∧ opening.rdf = false) (ended : closing.frameEnded = true)
    (taken : 1 ≤ count) :
    let s := s₀.listening form history e
    let before := serveEnd opening (s.serveAddress opening)
    let started := before.startTransmitting
    let atEnd :=
      (run isr s (opening :: List.replicate count { tdf := true })).serveAddress closing
    let after := serveEnd closing atEnd
    let size := started.txBuffer.size
    (∃ sent, busBytes atEnd.trace = busBytes before.trace ++ sent ∧ sent.length = count + 1 ∧
      sent.take count =
        (started.memory.slice started.txBuffer.buffer size).take count ++
          List.replicate (count - size) dummyByte) ∧
    atEnd.error = (if size < count then .bufferUnderflow else .ok) ∧
    busBytes started.trace = busBytes before.trace ∧
    callbacks started.trace = callbacks before.trace ++
      calledIf before.beforeTransmitCallback.isSome (.beforeTransmit before.addressCalled) ∧
    callbacks atEnd.trace = callbacks started.trace ∧
    callbacks after.trace = callbacks atEnd.trace ++
      calledIf before.afterTransmitCallback.isSome (.afterTransmit atEnd.addressCalled) := by
  intro s before started atEnd after size
  have orderly := orderly_listening s₀ form e heard (harmless_of_faultless _ faultless)
  have idle := idle_of_opens orderly opens
  obtain ⟨address, named⟩ :=
    serveAddress_eq (run isr s (opening :: List.replicate count { tdf := true })) closing
  have last : atEnd =
      { started.rewound.answered (count + 1) with addressCalled := address } := by
    have served : run isr s (opening :: List.replicate count { tdf := true }) =
        started.rewound.answered (count + 1) := by
      rw [run_opening s opening _ opens.1, request.1, request.2]
      exact run_readCalls idle.1 count
    simp only [atEnd, named, served]
  have begun := callbacks_startTransmitting before
  have fields := startTransmitting_fields before
  have clear : started.trailingByteSent = false :=
    startTransmitting_orderly.2.trans idle.2
  have finished : after = atEnd.endOfFrame := serveEnd_of_ended atEnd ended
  refine ⟨⟨busBytes (answers started.memory started.rewound.txBuffer (count + 1)), ?_, ?_, ?_⟩,
    ?_, begun.2, begun.1, ?_, ?_⟩
  · rw [last, ← begun.2]
    exact busBytes_append _ _
  · rw [busBytes_answers_rewound, length_padded]
  · rw [busBytes_answers_rewound, take_padded, padded_eq, Memory.length_slice]
  · rw [last]
    exact error_answered_rewound fields.1 clear taken
  · rw [last]
    simp [answered, rewound, callbacks_answers]
  · rw [finished, callbacks_endOfFrame_transmitting]
    · rw [last]
      simp only [answered, rewound, started, fields.2]
    · rw [last]
      exact startTransmitting_state before

/-- Two bytes read of a buffer of one, after a write whose end is found with the request. -/
theorem transmit_law_underflow :
    let s := attentiveSlave.listening (.listen 0x2D)
      ({ avf := true, sasr := 0x5A, rdf := true, srdr := ⟨true, 1⟩ } :: laterBytes [])
      attentiveSlave.equipment
    let opening : SlaveStatus := { avf := true, sasr := 0x5B, rsf := true, tdf := true }
    let atEnd :=
      (run isr s (opening :: List.replicate 2 { tdf := true })).serveAddress { sdf := true }
    atEnd.error = .bufferUnderflow ∧
      callbacks (serveEnd { sdf := true } atEnd).trace =
        callbacks atEnd.trace ++ [.afterTransmit 0x2D] := by
  have law := transmit_law (p := .writing) attentiveSlave (.listen 0x2D) attentiveSlave.equipment
    ({ avf := true, sasr := 0x5A, rdf := true, srdr := ⟨true, 1⟩ } :: laterBytes [])
    { avf := true, sasr := 0x5B, rsf := true, tdf := true } { sdf := true } 2 rfl
    (by decide) ⟨rfl, .inr ⟨.inl rfl, rfl, rfl⟩⟩ ⟨rfl, rfl⟩ rfl (by decide)
  exact ⟨law.2.1, law.2.2.2.2.2⟩

end Slave
end TeensyI2C
