import TeensyI2C.RegisterSlave.Model

/-!
No sequence of status words makes the register slave touch memory outside its arrays. The
windows in the driver's two buffers always lie inside one array, and while the slave waits for a
register number the receive window is no longer than its own nine bytes.
-/

namespace TeensyI2C
open ObjectMemory EventMachine

/-- The length of each array. The driver's empty buffer has no cells. -/
def registerObjectSize (m r : Nat) : RegisterObject → Nat
  | .emptyBuffer => 0
  | .mutableBuffer => m
  | .readOnlyBuffer => r
  | .rxBuffer => regSlaveWriteBufferLength

/-- Fetches stay inside an array; stores also keep off the read-only one. -/
def Access.Confined (m r : Nat) : Access RegisterObject → Prop
  | .store p _ => p.offset < registerObjectSize m r p.object ∧ p.object ≠ .readOnlyBuffer
  | .fetch p => p.offset < registerObjectSize m r p.object

/-- A window of a driver buffer lies inside one array. -/
def WindowFits (m r : Nat) (buffer : Pointer RegisterObject) (size : Nat) : Prop :=
  buffer.offset + size ≤ registerObjectSize m r buffer.object

def BufferCall.Fits (m r : Nat) : BufferCall RegisterObject → Prop
  | .setReceiveBuffer buffer size =>
      WindowFits m r buffer size ∧ buffer.object ≠ .readOnlyBuffer
  | .setTransmitBuffer buffer size => WindowFits m r buffer size

/-! ### What the register slave's callbacks do -/

/-- The part of a reply that confinement rests on. -/
structure Reply.Safe {ν : Type} (m r : Nat) (readOnly : Nat → UInt8)
    (reply : RegisterReply ν) : Prop where
  mutableSize : reply.app.mutableBufferSize = m
  readOnlySize : reply.app.readOnlyBufferSize = r
  readOnlyKept : reply.memory .readOnlyBuffer = readOnly
  accesses : ∀ a ∈ reply.accesses, a.Confined m r
  calls : ∀ c ∈ reply.calls, c.Fits m r

namespace Reply
variable {ν : Type} {m r : Nat} {readOnly : Nat → UInt8} {reply : RegisterReply ν}

theorem Safe.fetchRegNum (h : Safe m r readOnly reply) :
    Safe m r readOnly reply.fetchRegNum := by
  refine { h with accesses := ?_ }
  intro a ha
  rcases List.mem_append.mp ha with old | new
  · exact h.accesses a old
  · obtain rfl := List.mem_singleton.mp new
    exact Nat.zero_lt_succ 8

theorem Safe.setReceiveBuffer (h : Safe m r readOnly reply) {buffer : Pointer RegisterObject}
    {size : Nat} (fits : WindowFits m r buffer size) (writable : buffer.object ≠ .readOnlyBuffer) :
    Safe m r readOnly (reply.setReceiveBuffer buffer size) := by
  refine { h with calls := ?_ }
  intro c hc
  rcases List.mem_append.mp hc with old | new
  · exact h.calls c old
  · obtain rfl := List.mem_singleton.mp new
    exact ⟨fits, writable⟩

theorem Safe.setTransmitBuffer (h : Safe m r readOnly reply) {buffer : Pointer RegisterObject}
    {size : Nat} (fits : WindowFits m r buffer size) :
    Safe m r readOnly (reply.setTransmitBuffer buffer size) := by
  refine { h with calls := ?_ }
  intro c hc
  rcases List.mem_append.mp hc with old | new
  · exact h.calls c old
  · obtain rfl := List.mem_singleton.mp new
    exact fits

theorem Safe.waitForRegNum (h : Safe m r readOnly reply) :
    Safe m r readOnly reply.waitForRegNum := by
  have reset : Safe m r readOnly
      ({ reply with app := { reply.app with gotRegNum := false } } : RegisterReply ν) :=
    { h with }
  refine (reset.setReceiveBuffer ?_ ?_).setTransmitBuffer ?_
  · simp [WindowFits, registerObjectSize]
  · simp
  · simp [WindowFits]

theorem Safe.notifyWrite (h : Safe m r readOnly reply) (numBytes : UInt8) :
    Safe m r readOnly (reply.notifyWrite numBytes) := by
  unfold Reply.notifyWrite
  cases reply.app.afterWriteCallback with
  | none => exact h
  | some callback => exact { h.fetchRegNum with mutableSize := h.mutableSize,
                                                readOnlySize := h.readOnlySize }

theorem Safe.notifyRead (h : Safe m r readOnly reply) :
    Safe m r readOnly reply.notifyRead := by
  unfold Reply.notifyRead
  cases reply.app.afterReadCallback with
  | none => exact h
  | some callback => exact { h.fetchRegNum with mutableSize := h.mutableSize,
                                                readOnlySize := h.readOnlySize }

theorem Safe.memcpy (h : Safe m r readOnly reply) {dest src : Pointer RegisterObject} {n : Nat}
    (writable : dest.object ≠ .readOnlyBuffer) (destFits : WindowFits m r dest n)
    (srcFits : WindowFits m r src n) : Safe m r readOnly (reply.memcpy dest src n) := by
  refine { h with readOnlyKept := ?_, accesses := ?_ }
  · exact (Memory.storeAll_other _ _ _ writable.symm).trans h.readOnlyKept
  · intro a ha
    rcases List.mem_append.mp ha with old | new
    · exact h.accesses a old
    · obtain ⟨i, hi, ha⟩ := List.mem_flatMap.mp new
      have inside : i < n := List.mem_range.mp hi
      unfold WindowFits at destFits srcFits
      simp only [List.mem_cons, List.not_mem_nil, or_false] at ha
      rcases ha with rfl | rfl
      · simp only [Access.Confined, Pointer.add_offset, Pointer.add_object]
        omega
      · simp only [Access.Confined, Pointer.add_offset, Pointer.add_object]
        exact ⟨by omega, writable⟩

/-- The truncation to `uint8_t` can only make a window shorter. -/
theorem bufferSize_le (m : Nat) (regNum : UInt8) : bufferSize m regNum ≤ m - regNum.toNat :=
  Nat.mod_le _ _

theorem Safe.writeRegister (h : Safe m r readOnly reply) (regNum : UInt8) {len : Nat}
    (len_le : len ≤ regSlaveWriteBufferLength) :
    Safe m r readOnly (reply.writeRegister regNum len) := by
  unfold Reply.writeRegister
  rw [h.mutableSize]
  by_cases inside : regNum.toNat < m
  · have room := bufferSize_le m regNum
    simp only [inside, if_true]
    unfold regSlaveWriteBufferLength at len_le
    apply h.memcpy (by simp)
    · simp only [WindowFits, registerObjectSize]
      split <;> omega
    · simp only [WindowFits, registerObjectSize, regSlaveWriteBufferLength]
      split <;> omega
  · simpa only [inside, if_false] using h

theorem Safe.selectRegister (h : Safe m r readOnly reply) (regNum : UInt8) :
    Safe m r readOnly (reply.selectRegister regNum) := by
  unfold Reply.selectRegister
  rw [h.mutableSize, h.readOnlySize]
  by_cases inside : regNum.toNat < m
  · have room := bufferSize_le m regNum
    have fits : WindowFits m r ⟨.mutableBuffer, regNum.toNat⟩ (bufferSize m regNum) := by
      simp only [WindowFits, registerObjectSize]
      omega
    simp only [inside, if_true]
    exact (h.setReceiveBuffer fits (by simp)).setTransmitBuffer fits
  · have discard : Safe m r readOnly (reply.setReceiveBuffer ⟨.rxBuffer, 0⟩ 0) :=
      h.setReceiveBuffer (Nat.zero_le _) (by simp)
    simp only [inside, if_false]
    split
    · apply discard.setTransmitBuffer
      simp only [WindowFits, registerObjectSize]
      omega
    · exact discard.setTransmitBuffer (Nat.zero_le _)

/-- A callback that leaves the slave waiting has just put its own receive window back. -/
def Settled (reply : RegisterReply ν) : Prop :=
  reply.app.gotRegNum = false →
    ∀ b, (reply.calls.foldl Slave.receiveCall b).size = regSlaveWriteBufferLength

theorem settled_waitForRegNum (reply : RegisterReply ν) : Settled reply.waitForRegNum := by
  intro _ b
  simp only [waitForRegNum, setReceiveBuffer, setTransmitBuffer, List.foldl_append]
  rfl

theorem Settled.notifyRead (h : Settled reply) : Settled reply.notifyRead := by
  unfold Reply.notifyRead
  cases reply.app.afterReadCallback with
  | none => exact h
  | some callback => exact h

theorem gotRegNum_selectRegister (reply : RegisterReply ν) (regNum : UInt8) :
    (reply.selectRegister regNum).app.gotRegNum = reply.app.gotRegNum := by
  unfold selectRegister
  dsimp only
  split
  · rfl
  · split <;> rfl

end Reply

namespace I2CRegisterSlave
variable {ν : Type} {m r : Nat} {readOnly : Nat → UInt8}

theorem afterReceive_safe (len : Nat) (address : UInt16) (error : I2CError)
    {memory : Memory RegisterObject UInt8} {slave : I2CRegisterSlave ν}
    (mutableSize : slave.mutableBufferSize = m) (readOnlySize : slave.readOnlyBufferSize = r)
    (readOnlyKept : memory .readOnlyBuffer = readOnly)
    (len_le : slave.gotRegNum = false → len ≤ regSlaveWriteBufferLength) :
    (afterReceive len address error memory slave).Safe m r readOnly ∧
      (afterReceive len address error memory slave).Settled := by
  have toggled : Reply.Safe m r readOnly
      ({ app := { slave with gotRegNum := !slave.gotRegNum }, memory := memory } :
        RegisterReply ν) :=
    ⟨mutableSize, readOnlySize, readOnlyKept, by simp, by simp⟩
  unfold afterReceive
  cases hg : slave.gotRegNum with
  | true =>
      simp only [hg, Bool.not_true] at toggled ⊢
      exact ⟨(toggled.notifyWrite _).waitForRegNum, Reply.settled_waitForRegNum _⟩
  | false =>
      simp only [hg, Bool.not_false, if_true] at toggled ⊢
      split
      · exact ⟨((toggled.fetchRegNum.writeRegister _ (len_le hg)).notifyWrite _).waitForRegNum,
          Reply.settled_waitForRegNum _⟩
      · refine ⟨toggled.fetchRegNum.selectRegister _, ?_⟩
        intro waiting
        rw [Reply.gotRegNum_selectRegister] at waiting
        cases waiting

theorem afterTransmit_safe (address : UInt16) (error : I2CError)
    {memory : Memory RegisterObject UInt8} {slave : I2CRegisterSlave ν}
    (mutableSize : slave.mutableBufferSize = m) (readOnlySize : slave.readOnlyBufferSize = r)
    (readOnlyKept : memory .readOnlyBuffer = readOnly) :
    (afterTransmit address error memory slave).Safe m r readOnly ∧
      (afterTransmit address error memory slave).Settled := by
  have start : Reply.Safe m r readOnly ({ app := slave, memory := memory } : RegisterReply ν) :=
    ⟨mutableSize, readOnlySize, readOnlyKept, by simp, by simp⟩
  exact ⟨start.waitForRegNum.notifyRead, (Reply.settled_waitForRegNum _).notifyRead⟩

end I2CRegisterSlave

/-! ### The invariant of the driver and the register slave together -/

structure Slave.Confined {ν : Type} (m r : Nat) (readOnly : Nat → UInt8)
    (s : Slave RegisterObject (I2CRegisterSlave ν)) : Prop where
  afterReceive : s.afterReceiveCallback = some I2CRegisterSlave.afterReceive
  beforeTransmit : s.beforeTransmitCallback = none
  afterTransmit : s.afterTransmitCallback = some I2CRegisterSlave.afterTransmit
  mutableSize : s.app.mutableBufferSize = m
  readOnlySize : s.app.readOnlyBufferSize = r
  rxFits : WindowFits m r s.rxBuffer.buffer s.rxBuffer.size
  rxWritable : s.rxBuffer.buffer.object ≠ .readOnlyBuffer
  rxBounded : s.rxBuffer.Bounded
  txFits : WindowFits m r s.txBuffer.buffer s.txBuffer.size
  waiting : s.app.gotRegNum = false → s.rxBuffer.size ≤ regSlaveWriteBufferLength
  readOnlyKept : s.memory .readOnlyBuffer = readOnly
  accesses : ∀ a, .access a ∈ s.trace → a.Confined m r

namespace Slave
variable {ν : Type} {m r : Nat} {readOnly : Nat → UInt8}
  {s : Slave RegisterObject (I2CRegisterSlave ν)}

theorem fits_foldl_receiveCall {calls : List (BufferCall RegisterObject)}
    (fits : ∀ c ∈ calls, c.Fits m r) {b : I2CBuffer RegisterObject}
    (h : WindowFits m r b.buffer b.size ∧ b.buffer.object ≠ .readOnlyBuffer ∧ b.Bounded) :
    let b' := calls.foldl receiveCall b
    WindowFits m r b'.buffer b'.size ∧ b'.buffer.object ≠ .readOnlyBuffer ∧ b'.Bounded := by
  refine List.foldlRecOn (motive := fun b : I2CBuffer RegisterObject =>
    WindowFits m r b.buffer b.size ∧ b.buffer.object ≠ .readOnlyBuffer ∧ b.Bounded)
    calls receiveCall h fun b' kept call member => ?_
  have fit := fits call member
  cases call with
  | setReceiveBuffer buffer size => exact ⟨fit.1, fit.2, Nat.zero_le _⟩
  | setTransmitBuffer buffer size => exact kept

theorem fits_foldl_transmitCall {calls : List (BufferCall RegisterObject)}
    (fits : ∀ c ∈ calls, c.Fits m r) {b : I2CBuffer RegisterObject}
    (h : WindowFits m r b.buffer b.size) :
    let b' := calls.foldl transmitCall b
    WindowFits m r b'.buffer b'.size := by
  refine List.foldlRecOn (motive := fun b : I2CBuffer RegisterObject =>
    WindowFits m r b.buffer b.size) calls transmitCall h fun b' kept call member => ?_
  have fit := fits call member
  cases call with
  | setReceiveBuffer buffer size => exact kept
  | setTransmitBuffer buffer size => exact fit

theorem Confined.invoke (h : Confined m r readOnly s)
    (callback : Callback RegisterObject (I2CRegisterSlave ν))
    (safe : (callback s.error s.memory s.app).Safe m r readOnly ∧
      (callback s.error s.memory s.app).Settled) : Confined m r readOnly (s.invoke callback) := by
  obtain ⟨safe, settled⟩ := safe
  have rx := fits_foldl_receiveCall safe.calls ⟨h.rxFits, h.rxWritable, h.rxBounded⟩
  have tx := fits_foldl_transmitCall safe.calls h.txFits
  rw [invoke_eq]
  exact {
    h with
    mutableSize := safe.mutableSize
    readOnlySize := safe.readOnlySize
    rxFits := rx.1
    rxWritable := rx.2.1
    rxBounded := rx.2.2
    txFits := tx
    waiting := fun waits => (settled waits s.rxBuffer).le
    readOnlyKept := safe.readOnlyKept
    accesses := by
      intro a ha
      rcases List.mem_append.mp ha with old | new
      · exact h.accesses a old
      · obtain ⟨a', member, same⟩ := List.mem_map.mp new
        cases same
        exact safe.accesses a member }

theorem Confined.emit (h : Confined m r readOnly s) {e : Event RegisterObject}
    (silent : ∀ a, e ≠ .access a) : Confined m r readOnly (s.emit e) := by
  refine { h with accesses := ?_ }
  intro a ha
  rcases List.mem_append.mp ha with old | new
  · exact h.accesses a old
  · exact absurd (List.mem_singleton.mp new).symm (silent a)

theorem Confined.endOfFrame (h : Confined m r readOnly s) :
    Confined m r readOnly s.endOfFrame := by
  have called : ∀ length, (s.app.gotRegNum = false → length ≤ regSlaveWriteBufferLength) →
      Confined m r readOnly ((s.emit (.afterReceive length s.addressCalled)).invoke
        (I2CRegisterSlave.afterReceive length s.addressCalled)) := fun length len_le =>
    (h.emit (by simp)).invoke _
      (I2CRegisterSlave.afterReceive_safe _ _ _ h.mutableSize h.readOnlySize h.readOnlyKept len_le)
  cases hs : s.state with
  | receiving =>
      rw [endOfFrame_receiving hs h.afterReceive]
      exact { called _ (fun waits => h.rxBounded.trans (h.waiting waits)) with }
  | transmitting =>
      rw [endOfFrame_transmitting hs h.afterTransmit]
      have cleared : Confined m r readOnly
          ({ s with trailingByteSent := false }.emit (.afterTransmit s.addressCalled)) :=
        Confined.emit (s := { s with trailingByteSent := false }) { h with } (by simp)
      exact { cleared.invoke (I2CRegisterSlave.afterTransmit s.addressCalled)
        (I2CRegisterSlave.afterTransmit_safe _ _ h.mutableSize h.readOnlySize
          h.readOnlyKept) with }
  | idle =>
      rw [endOfFrame_idle hs]
      exact h
  | aborted =>
      rw [endOfFrame_aborted hs]
      exact { h with }

theorem Confined.storeReceived (h : Confined m r readOnly s) (room : s.rxBuffer.full = false)
    (data : UInt8) : Confined m r readOnly (s.storeReceived data) := by
  have bounded := h.rxBounded.advance room
  refine { h with rxBounded := bounded, readOnlyKept := ?_, accesses := ?_ }
  · have kept := Memory.store_other s.memory s.rxBuffer.cursor data h.rxWritable.symm
    exact kept.trans h.readOnlyKept
  · intro a ha
    rcases List.mem_append.mp ha with old | new
    · exact h.accesses a old
    · obtain rfl := Event.access.inj (List.mem_singleton.mp new)
      have fits := h.rxFits
      have below : s.rxBuffer.nextIndex < s.rxBuffer.size := bounded
      unfold WindowFits at fits
      exact ⟨by simp only [I2CBuffer.cursor, Pointer.add_offset, Pointer.add_object]; omega,
        h.rxWritable⟩

theorem Confined.receiveData (h : Confined m r readOnly s) (srdr : Srdr) :
    Confined m r readOnly (s.receiveData srdr) := by
  have started : Confined m r readOnly (if srdr.sof then s.startReceiving else s) := by
    unfold startReceiving
    split
    · dsimp only
      split
      · exact { h with rxBounded := I2CBuffer.bounded_reset _ }
      · exact { h with }
    · exact h
  unfold Slave.receiveData
  dsimp only
  generalize (if srdr.sof then s.startReceiving else s) = t at started
  split
  · split
    · exact { started with }
    · exact started.storeReceived (by simp_all) _
  · exact { started with }

theorem Confined.sendNext (h : Confined m r readOnly s)
    (data : s.txBuffer.hasDataAvailable = true) : Confined m r readOnly s.sendNext := by
  refine { h with accesses := ?_ }
  intro a ha
  rcases List.mem_append.mp ha with old | new
  · exact h.accesses a old
  · simp only [List.mem_cons, List.not_mem_nil, or_false, reduceCtorEq, Event.access.injEq]
      at new
    subst new
    have fits := h.txFits
    have below : s.txBuffer.nextIndex < s.txBuffer.size := by
      simpa [I2CBuffer.hasDataAvailable] using data
    unfold WindowFits at fits
    simp only [Access.Confined, I2CBuffer.cursor, Pointer.add_offset, Pointer.add_object]
    omega

theorem Confined.transmitData (h : Confined m r readOnly s) :
    Confined m r readOnly s.transmitData := by
  have answered : ∀ startOfFrame {t : Slave RegisterObject (I2CRegisterSlave ν)},
      Confined m r readOnly t → Confined m r readOnly (t.answerRequest startOfFrame) := by
    intro startOfFrame t ht
    have silent : ∀ a, (Event.stdr dummyByte : Event RegisterObject) ≠ .access a := by simp
    unfold answerRequest
    split
    · have reset : Confined m r readOnly
          (if startOfFrame then { t with txBuffer := t.txBuffer.reset } else t) := by
        split
        · exact { ht with }
        · exact ht
      dsimp only
      generalize (if startOfFrame then { t with txBuffer := t.txBuffer.reset } else t) = u
        at reset
      split
      · exact reset.sendNext ‹_›
      · split
        · exact { reset.emit silent with }
        · exact { reset.emit silent with }
    · exact { ht.emit silent with }
  unfold Slave.transmitData
  apply answered
  split
  · rw [startTransmitting_none h.beforeTransmit]
    exact { h with }
  · exact h

theorem Confined.isr (h : Confined m r readOnly s) (status : SlaveStatus) :
    Confined m r readOnly (s.isr status) := by
  have address : Confined m r readOnly (s.serveAddress status) := by
    unfold serveAddress
    split
    · exact { h with }
    · exact h
  have ended : Confined m r readOnly (serveEnd status (s.serveAddress status)) := by
    unfold serveEnd
    split
    · exact address.endOfFrame
    · exact address
  have received : Confined m r readOnly
      (serveReceive status (serveEnd status (s.serveAddress status))) := by
    unfold serveReceive
    split
    · exact ended.receiveData _
    · exact ended
  have transmitted : Confined m r readOnly
      (serveTransmit status (serveReceive status (serveEnd status (s.serveAddress status)))) := by
    unfold serveTransmit
    split
    · exact received.transmitData
    · exact received
  unfold Slave.isr serveBitError
  dsimp only
  split
  · exact Confined.endOfFrame { transmitted with }
  · exact transmitted

end Slave

namespace I2CRegisterSlave
variable {ν : Type}

theorem confined_listen (slave : I2CRegisterSlave ν) (memory : Memory RegisterObject UInt8)
    (address : UInt8) :
    (listen (construct slave memory) address).Confined slave.mutableBufferSize
      slave.readOnlyBufferSize (memory .readOnlyBuffer) := by
  have attached : Slave.Confined slave.mutableBufferSize slave.readOnlyBufferSize
      (memory .readOnlyBuffer)
      ((((construct slave memory).listen (.listen address)).afterReceive
        (some I2CRegisterSlave.afterReceive)).afterTransmit
        (some I2CRegisterSlave.afterTransmit)) :=
    { afterReceive := rfl
      beforeTransmit := rfl
      afterTransmit := rfl
      mutableSize := rfl
      readOnlySize := rfl
      rxFits := Nat.le_refl 0
      rxWritable := by exact RegisterObject.noConfusion
      rxBounded := Nat.le_refl 0
      txFits := Nat.le_refl 0
      waiting := fun _ => Nat.zero_le _
      readOnlyKept := rfl
      accesses := by
        intro a ha
        cases ha }
  have start : Reply.Safe slave.mutableBufferSize slave.readOnlyBufferSize
      (memory .readOnlyBuffer) ({ app := slave, memory := memory } : RegisterReply ν) :=
    ⟨rfl, rfl, rfl, by simp, by simp⟩
  exact attached.invoke
    (fun _ memory slave =>
      ({ app := slave, memory := memory } : RegisterReply ν).waitForRegNum)
    ⟨start.waitForRegNum, Reply.settled_waitForRegNum _⟩

/-- Whatever the slave port shows the service routine after `listen`, every store hits the
mutable buffer or the nine-byte receive buffer, every fetch hits one of the three arrays, and
the read-only buffer never changes. -/
theorem accesses_confined (slave : I2CRegisterSlave ν) (memory : Memory RegisterObject UInt8)
    (address : UInt8) (calls : List SlaveStatus) :
    let s := run Slave.isr (listen (construct slave memory) address) calls
    (∀ a, .access a ∈ s.trace →
      a.Confined slave.mutableBufferSize slave.readOnlyBufferSize) ∧
      s.memory .readOnlyBuffer = memory .readOnlyBuffer := by
  have invariant := run_invariant'
    (I := Slave.Confined slave.mutableBufferSize slave.readOnlyBufferSize
      (memory .readOnlyBuffer))
    (fun _ status h => h.isr status) calls (confined_listen slave memory address)
  exact ⟨invariant.accesses, invariant.readOnlyKept⟩

end I2CRegisterSlave
end TeensyI2C
