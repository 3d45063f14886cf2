import TeensyI2C.RegisterSlave.Model
import TeensyI2C.RegisterSlave.Registers
import TeensyI2C.Slave.Transfers

/-!
The register slave on the real driver refines an automaton over frames. Between frames the
driver's windows are a function of the automaton's state; a frame's data calls and the callback
at its end carry the relation over.
-/

namespace TeensyI2C
open ObjectMemory EventMachine

namespace Registers

/-- Where the driver puts the bytes of the next write. -/
def receiveWindow (g : Registers) : Pointer RegisterObject × Nat :=
  match g.selected with
  | none => (⟨.rxBuffer, 0⟩, regSlaveWriteBufferLength)
  | some reg =>
      if reg.toNat < g.mutableBytes.length then
        (⟨.mutableBuffer, reg.toNat⟩, g.mutableBytes.length - reg.toNat)
      else (⟨.rxBuffer, 0⟩, 0)

/-- Where the driver takes the bytes of the next read from. -/
def transmitWindow (g : Registers) : Pointer RegisterObject × Nat :=
  match g.selected with
  | none => (⟨.mutableBuffer, 0⟩, 0)
  | some reg =>
      let m := g.mutableBytes.length
      let r := g.readOnlyBytes.length
      if reg.toNat < m then (⟨.mutableBuffer, reg.toNat⟩, m - reg.toNat)
      else if reg.toNat - m < r then (⟨.readOnlyBuffer, reg.toNat - m⟩, r - (reg.toNat - m))
      else (⟨.readOnlyBuffer, 0⟩, 0)

/-- The two arrays hold the automaton's bytes. -/
def Stored (g : Registers) (memory : Memory RegisterObject UInt8) : Prop :=
  memory.slice ⟨.mutableBuffer, 0⟩ g.mutableBytes.length = g.mutableBytes ∧
    memory.slice ⟨.readOnlyBuffer, 0⟩ g.readOnlyBytes.length = g.readOnlyBytes

end Registers

def I2CBuffer.Shows {O : Type} [Inhabited O] (b : I2CBuffer O) (window : Pointer O × Nat) :
    Prop :=
  b.buffer = window.1 ∧ b.size = window.2

/-! ### The callbacks -/

/-- A callback that brings driver and arrays into the automaton's state `g`. -/
structure Reply.Follows {ν : Type} (g : Registers) (reply : RegisterReply ν) : Prop where
  mutableSize : reply.app.mutableBufferSize = g.mutableBytes.length
  readOnlySize : reply.app.readOnlyBufferSize = g.readOnlyBytes.length
  gotRegNum : reply.app.gotRegNum = g.selected.isSome
  stored : g.Stored reply.memory
  receive : ∀ b, (reply.calls.foldl Slave.receiveCall b).Shows g.receiveWindow
  transmit : ∀ b, (reply.calls.foldl Slave.transmitCall b).Shows g.transmitWindow

namespace Reply
variable {ν : Type} {reply : RegisterReply ν} {g : Registers}

theorem follows_waitForRegNum (reply : RegisterReply ν) (waiting : g.selected = none)
    (mutableSize : reply.app.mutableBufferSize = g.mutableBytes.length)
    (readOnlySize : reply.app.readOnlyBufferSize = g.readOnlyBytes.length)
    (stored : g.Stored reply.memory) : reply.waitForRegNum.Follows g where
  mutableSize := mutableSize
  readOnlySize := readOnlySize
  gotRegNum := by simp [waitForRegNum, setReceiveBuffer, setTransmitBuffer, waiting]
  stored := stored
  receive b := by
    simp only [waitForRegNum, setReceiveBuffer, setTransmitBuffer, List.foldl_append,
      Registers.receiveWindow, waiting]
    exact ⟨rfl, rfl⟩
  transmit b := by
    simp only [waitForRegNum, setReceiveBuffer, setTransmitBuffer, List.foldl_append,
      Registers.transmitWindow, waiting]
    exact ⟨rfl, rfl⟩

theorem selectRegister_windows (reply : RegisterReply ν) (reg : UInt8) :
    let m := reply.app.mutableBufferSize
    let r := reply.app.readOnlyBufferSize
    (∀ b, ((reply.selectRegister reg).calls.foldl Slave.receiveCall b).Shows
      (if reg.toNat < m then (⟨.mutableBuffer, reg.toNat⟩, bufferSize m reg)
      else (⟨.rxBuffer, 0⟩, 0))) ∧
    ∀ b, ((reply.selectRegister reg).calls.foldl Slave.transmitCall b).Shows
      (if reg.toNat < m then (⟨.mutableBuffer, reg.toNat⟩, bufferSize m reg)
      else if reg.toNat - m < r then (⟨.readOnlyBuffer, reg.toNat - m⟩, r - (reg.toNat - m))
      else (⟨.readOnlyBuffer, 0⟩, 0)) := by
  intro m r
  have reg_lt : reg.toNat < 256 := reg.toNat_lt
  have offset : (reg.toNat - m) % 256 = reg.toNat - m := Nat.mod_eq_of_lt (by omega)
  unfold selectRegister
  by_cases inside : reg.toNat < m
  · simp only [m, inside, if_true]
    refine ⟨?_, ?_⟩ <;> intro b <;>
      simp only [setReceiveBuffer, setTransmitBuffer, List.foldl_append] <;>
      exact ⟨rfl, rfl⟩
  · by_cases readable : reg.toNat - m < r
    · simp only [m, r, inside, offset, readable, if_true, if_false]
      refine ⟨?_, ?_⟩ <;> intro b <;>
        simp only [setReceiveBuffer, setTransmitBuffer, List.foldl_append] <;>
        exact ⟨rfl, rfl⟩
    · simp only [m, r, inside, offset, readable, if_false]
      refine ⟨?_, ?_⟩ <;> intro b <;>
        simp only [setReceiveBuffer, setTransmitBuffer, List.foldl_append] <;>
        exact ⟨rfl, rfl⟩

@[simp] theorem selectRegister_app (reply : RegisterReply ν) (reg : UInt8) :
    (reply.selectRegister reg).app = reply.app := by
  unfold selectRegister
  dsimp only
  split
  · rfl
  · split <;> rfl

@[simp] theorem selectRegister_memory (reply : RegisterReply ν) (reg : UInt8) :
    (reply.selectRegister reg).memory = reply.memory := by
  unfold selectRegister
  dsimp only
  split
  · rfl
  · split <;> rfl

/-- With at most 255 mutable bytes neither window is cut short by its `uint8_t`. -/
theorem follows_selectRegister {reg : UInt8} (aimed : g.selected = some reg)
    (small : g.mutableBytes.length ≤ 255) (got : reply.app.gotRegNum = true)
    (mutableSize : reply.app.mutableBufferSize = g.mutableBytes.length)
    (readOnlySize : reply.app.readOnlyBufferSize = g.readOnlyBytes.length)
    (stored : g.Stored reply.memory) : (reply.selectRegister reg).Follows g := by
  have window : bufferSize g.mutableBytes.length reg = g.mutableBytes.length - reg.toNat :=
    Nat.mod_eq_of_lt (by omega)
  have windows := reply.selectRegister_windows reg
  simp only [mutableSize, readOnlySize, window] at windows
  exact {
    mutableSize := by simpa using mutableSize
    readOnlySize := by simpa using readOnlySize
    gotRegNum := by simpa [aimed] using got
    stored := by simpa using stored
    receive := by simpa only [Registers.receiveWindow, aimed] using windows.1
    transmit := by simpa only [Registers.transmitWindow, aimed] using windows.2 }

/-- Register number and data in one frame: the data that follows the number in the receive
buffer goes to the register. -/
theorem stored_writeRegister (reply : RegisterReply ν) (reg : UInt8) (rest : List UInt8)
    (len : Nat)
    (small : g.mutableBytes.length ≤ 255)
    (mutableSize : reply.app.mutableBufferSize = g.mutableBytes.length)
    (stored : g.Stored reply.memory) (count : len - 1 = (rest.take 8).length)
    (received : ∀ n ≤ len - 1, reply.memory.slice ⟨.rxBuffer, 1⟩ n = (rest.take 8).take n) :
    (g.storeAt reg (rest.take 8)).Stored (reply.writeRegister reg len).memory := by
  unfold writeRegister Registers.storeAt
  simp only [mutableSize]
  by_cases inside : reg.toNat < g.mutableBytes.length
  · have window : bufferSize g.mutableBytes.length reg = g.mutableBytes.length - reg.toNat :=
      Nat.mod_eq_of_lt (by omega)
    simp only [inside, if_true, window, memcpy]
    have copied : (if g.mutableBytes.length - reg.toNat < len - 1 then
        g.mutableBytes.length - reg.toNat else len - 1) =
        min (g.mutableBytes.length - reg.toNat) (len - 1) := by
      rw [Nat.min_def]
      split <;> split <;> omega
    have bytes : reply.memory.slice ⟨.rxBuffer, 1⟩
        (min (g.mutableBytes.length - reg.toNat) (len - 1)) =
        (rest.take 8).take (g.mutableBytes.length - reg.toNat) := by
      rw [received _ (Nat.min_le_right _ _), count, ← List.take_take, List.take_length]
    rw [copied, bytes]
    have fits : reg.toNat +
        ((rest.take 8).take (g.mutableBytes.length - reg.toNat)).length ≤
        g.mutableBytes.length := by
      rw [List.length_take]
      omega
    refine ⟨?_, ?_⟩
    · rw [length_overwrite _ _ _ fits, Memory.slice_storeAll _ _ _ _ _ fits, stored.1]
    · rw [Memory.slice_congr (Memory.storeAll_other _ _ _ (by simp))]
      exact stored.2
  · simpa only [inside, if_false] using stored

end Reply

/-! ### Between two frames -/

structure Slave.Follows {ν : Type} (g : Registers)
    (s : Slave RegisterObject (I2CRegisterSlave ν)) : Prop where
  afterReceive : s.afterReceiveCallback = some I2CRegisterSlave.afterReceive
  beforeTransmit : s.beforeTransmitCallback = none
  afterTransmit : s.afterTransmitCallback = some I2CRegisterSlave.afterTransmit
  idle : s.state = .idle
  noTrailing : s.trailingByteSent = false
  mutableSize : s.app.mutableBufferSize = g.mutableBytes.length
  readOnlySize : s.app.readOnlyBufferSize = g.readOnlyBytes.length
  gotRegNum : s.app.gotRegNum = g.selected.isSome
  receive : s.rxBuffer.Shows g.receiveWindow
  transmit : s.txBuffer.Shows g.transmitWindow
  stored : g.Stored s.memory

namespace Slave
variable {ν : Type} {g g' : Registers} {s : Slave RegisterObject (I2CRegisterSlave ν)}

theorem Follows.serveAddress (h : Follows g s) (status : SlaveStatus) :
    Follows g (s.serveAddress status) := by
  unfold Slave.serveAddress
  split
  · exact { h with }
  · exact h

theorem follows_invoke (callback : Callback RegisterObject (I2CRegisterSlave ν))
    (afterReceive : s.afterReceiveCallback = some I2CRegisterSlave.afterReceive)
    (beforeTransmit : s.beforeTransmitCallback = none)
    (afterTransmit : s.afterTransmitCallback = some I2CRegisterSlave.afterTransmit)
    (noTrailing : s.trailingByteSent = false)
    (reply : (callback s.error s.memory s.app).Follows g) :
    Follows g { s.invoke callback with state := .idle } ∧
      busBytes (s.invoke callback).trace = busBytes s.trace := by
  rw [invoke_eq]
  refine ⟨{
    afterReceive, beforeTransmit, afterTransmit, noTrailing
    idle := rfl
    mutableSize := reply.mutableSize
    readOnlySize := reply.readOnlySize
    gotRegNum := reply.gotRegNum
    receive := reply.receive _
    transmit := reply.transmit _
    stored := reply.stored }, ?_⟩
  simp only [busBytes_append, busBytes_accesses, List.append_nil]

theorem follows_afterReceive (length : Nat) (receiving : s.state = .receiving)
    (cursor : s.rxBuffer.nextIndex = length)
    (afterReceive : s.afterReceiveCallback = some I2CRegisterSlave.afterReceive)
    (beforeTransmit : s.beforeTransmitCallback = none)
    (afterTransmit : s.afterTransmitCallback = some I2CRegisterSlave.afterTransmit)
    (noTrailing : s.trailingByteSent = false)
    (reply : ∀ address error,
      (I2CRegisterSlave.afterReceive length address error s.memory s.app).Follows g) :
    Follows g s.endOfFrame ∧ busBytes s.endOfFrame.trace = busBytes s.trace := by
  rw [endOfFrame_receiving receiving afterReceive, cursor]
  have done := follows_invoke (s := s.emit (.afterReceive length s.addressCalled))
    _ afterReceive beforeTransmit afterTransmit noTrailing (reply s.addressCalled s.error)
  refine ⟨done.1, done.2.trans ?_⟩
  simp [emit, busBytes]

theorem follows_afterTransmit (transmitting : s.state = .transmitting)
    (afterReceive : s.afterReceiveCallback = some I2CRegisterSlave.afterReceive)
    (beforeTransmit : s.beforeTransmitCallback = none)
    (afterTransmit : s.afterTransmitCallback = some I2CRegisterSlave.afterTransmit)
    (mutableSize : s.app.mutableBufferSize = g.mutableBytes.length)
    (readOnlySize : s.app.readOnlyBufferSize = g.readOnlyBytes.length)
    (stored : g.Stored s.memory) :
    Follows { g with selected := none } s.endOfFrame ∧
      busBytes s.endOfFrame.trace = busBytes s.trace := by
  rw [endOfFrame_transmitting transmitting afterTransmit]
  have reply : (I2CRegisterSlave.afterTransmit s.addressCalled s.error s.memory s.app).Follows
      { g with selected := none } := by
    have waits := Reply.follows_waitForRegNum (g := { g with selected := none })
      { app := s.app, memory := s.memory } rfl mutableSize readOnlySize stored
    exact {
      mutableSize := by simpa [I2CRegisterSlave.afterTransmit] using waits.mutableSize
      readOnlySize := by simpa [I2CRegisterSlave.afterTransmit] using waits.readOnlySize
      gotRegNum := by simpa [I2CRegisterSlave.afterTransmit] using waits.gotRegNum
      stored := by simpa [I2CRegisterSlave.afterTransmit] using waits.stored
      receive := by simpa [I2CRegisterSlave.afterTransmit] using waits.receive
      transmit := by simpa [I2CRegisterSlave.afterTransmit] using waits.transmit }
  have done := follows_invoke
    (s := { s with trailingByteSent := false }.emit (.afterTransmit s.addressCalled))
    _ afterReceive beforeTransmit afterTransmit rfl reply
  refine ⟨done.1, done.2.trans ?_⟩
  simp [emit, busBytes]

end Slave

namespace I2CRegisterSlave
variable {ν : Type} {g : Registers} {slave : I2CRegisterSlave ν}
  {memory : Memory RegisterObject UInt8}

/-- `rx_buffer` and everything else once a write frame to a waiting slave has come in. -/
def afterBytes (memory : Memory RegisterObject UInt8) (first : UInt8) (rest : List UInt8) :
    Memory RegisterObject UInt8 :=
  memory.storeAll ⟨.rxBuffer, 0⟩ ((first :: rest).take regSlaveWriteBufferLength)

theorem regNum_afterBytes (memory : Memory RegisterObject UInt8) (first : UInt8)
    (rest : List UInt8) : (afterBytes memory first rest).load ⟨.rxBuffer, 0⟩ = first := by
  have cell := Memory.slice_storeAll_within memory ⟨.rxBuffer, 0⟩
    ((first :: rest).take regSlaveWriteBufferLength) (i := 0) (n := 1)
    (by simp [regSlaveWriteBufferLength])
  simpa [afterBytes, regSlaveWriteBufferLength, Memory.slice] using cell

theorem afterBytes_other (memory : Memory RegisterObject UInt8) (first : UInt8)
    (rest : List UInt8) {o : RegisterObject} (other : o ≠ .rxBuffer) :
    afterBytes memory first rest o = memory o :=
  Memory.storeAll_other _ _ _ other

theorem afterReceive_selects (memory : Memory RegisterObject UInt8)
    (got : slave.gotRegNum = false)
    (first : UInt8) (address : UInt16) (error : I2CError) :
    afterReceive 1 address error (afterBytes memory first []) slave =
      (({ app := { slave with gotRegNum := true }, memory := afterBytes memory first [] } :
        RegisterReply ν).fetchRegNum).selectRegister first := by
  have regNum := regNum_afterBytes memory first []
  unfold afterReceive
  simp only [got, Bool.not_false, if_true, Reply.regNum, regNum, gt_iff_lt, Nat.lt_irrefl,
    if_false]

theorem afterReceive_writes (memory : Memory RegisterObject UInt8)
    (got : slave.gotRegNum = false)
    (first : UInt8) (rest : List UInt8) {length : Nat} (several : 1 < length) (address : UInt16)
    (error : I2CError) :
    afterReceive length address error (afterBytes memory first rest) slave =
      (((({ app := { slave with gotRegNum := true }, memory := afterBytes memory first rest } :
        RegisterReply ν).fetchRegNum).writeRegister first length).notifyWrite
          (UInt8.ofNat (length - 1))).waitForRegNum := by
  have regNum := regNum_afterBytes memory first rest
  unfold afterReceive
  simp only [got, Bool.not_false, if_true, Reply.regNum, regNum, gt_iff_lt, several]

theorem afterReceive_waiting {first : UInt8} {rest : List UInt8} (address : UInt16)
    (error : I2CError) (small : g.mutableBytes.length ≤ 255) (waiting : g.selected = none)
    (got : slave.gotRegNum = false)
    (mutableSize : slave.mutableBufferSize = g.mutableBytes.length)
    (readOnlySize : slave.readOnlyBufferSize = g.readOnlyBytes.length)
    (stored : g.Stored memory) :
    (afterReceive (min (rest.length + 1) regSlaveWriteBufferLength) address error
      (memory.storeAll ⟨.rxBuffer, 0⟩ ((first :: rest).take regSlaveWriteBufferLength))
      slave).Follows (g.step (.write first rest)) := by
  have kept : g.Stored (afterBytes memory first rest) :=
    ⟨(Memory.slice_congr (afterBytes_other memory first rest (by simp)) _ _).trans stored.1,
      (Memory.slice_congr (afterBytes_other memory first rest (by simp)) _ _).trans stored.2⟩
  change (afterReceive _ address error (afterBytes memory first rest) slave).Follows _
  cases rest with
  | nil =>
      have single : min (([] : List UInt8).length + 1) regSlaveWriteBufferLength = 1 := by decide
      rw [single, afterReceive_selects memory got]
      simp only [Registers.step, waiting]
      exact Reply.follows_selectRegister (g := { g with selected := some first }) rfl small rfl
        mutableSize readOnlySize kept
  | cons data more =>
      have several : 1 < min ((data :: more).length + 1) regSlaveWriteBufferLength := by
        simp only [List.length_cons, regSlaveWriteBufferLength]
        omega
      rw [afterReceive_writes memory got first (data :: more) several]
      simp only [Registers.step, waiting]
      have written := Reply.stored_writeRegister (g := g)
        ({ app := { slave with gotRegNum := true }
           memory := afterBytes memory first (data :: more) } : RegisterReply ν).fetchRegNum
        first (data :: more) (min ((data :: more).length + 1) regSlaveWriteBufferLength) small
        mutableSize kept (by simp only [regSlaveWriteBufferLength, List.length_take]; omega)
        (by
          intro n hn
          have cells := Memory.slice_storeAll_within memory ⟨.rxBuffer, 0⟩
            ((first :: data :: more).take regSlaveWriteBufferLength) (i := 1) (n := n)
          refine (cells ?_).trans (by simp [regSlaveWriteBufferLength])
          simp only [List.length_take, List.length_cons, regSlaveWriteBufferLength] at hn ⊢
          omega)
      apply Reply.follows_waitForRegNum
      · simp [waiting]
      · simpa using mutableSize
      · simpa using readOnlySize
      · simpa using written

theorem afterReceive_aimed {reg first : UInt8} {rest : List UInt8} (length : Nat)
    (address : UInt16) (error : I2CError) (aimed : g.selected = some reg)
    (inside : reg.toNat < g.mutableBytes.length) (got : slave.gotRegNum = true)
    (mutableSize : slave.mutableBufferSize = g.mutableBytes.length)
    (readOnlySize : slave.readOnlyBufferSize = g.readOnlyBytes.length)
    (stored : g.Stored memory) :
    (afterReceive length address error
      (memory.storeAll ⟨.mutableBuffer, reg.toNat⟩
        ((first :: rest).take (g.mutableBytes.length - reg.toNat)))
      slave).Follows (g.step (.write first rest)) := by
  have fits : reg.toNat +
      ((first :: rest).take (g.mutableBytes.length - reg.toNat)).length ≤
      g.mutableBytes.length := by
    rw [List.length_take]
    omega
  have bytes := Memory.slice_storeAll memory .mutableBuffer reg.toNat g.mutableBytes.length _ fits
  rw [stored.1] at bytes
  unfold afterReceive
  simp only [got, Bool.not_true, Bool.false_eq_true, if_false]
  have written : g.step (.write first rest) =
      { g with
        selected := none
        mutableBytes := overwrite g.mutableBytes reg.toNat
          ((first :: rest).take (g.mutableBytes.length - reg.toNat)) } := by
    simp [Registers.step, aimed, Registers.storeAt, inside]
  rw [written]
  apply Reply.follows_waitForRegNum
  · rfl
  · simpa [length_overwrite _ _ _ fits] using mutableSize
  · simpa using readOnlySize
  · simp only [Reply.notifyWrite_memory]
    refine ⟨?_, ?_⟩
    · rw [length_overwrite _ _ _ fits]
      exact bytes
    · exact (Memory.slice_congr (Memory.storeAll_other _ _ _ (by simp)) _ _).trans stored.2

end I2CRegisterSlave

namespace Slave
variable {ν : Type} {g : Registers} {s : Slave RegisterObject (I2CRegisterSlave ν)}

theorem Follows.padded_transmit (h : Follows g s) (count : Nat) :
    padded (s.memory.slice s.txBuffer.buffer s.txBuffer.size) count = g.output count := by
  rw [h.transmit.1, h.transmit.2]
  unfold Registers.transmitWindow Registers.output Registers.region
  cases g.selected with
  | none => simp [padded, Memory.slice, dummyByte]
  | some reg =>
      have whole := h.stored
      by_cases inside : reg.toNat < g.mutableBytes.length
      · have tail := Memory.drop_slice s.memory ⟨.mutableBuffer, 0⟩ g.mutableBytes.length reg.toNat
        rw [whole.1, Pointer.mk_add, Nat.zero_add] at tail
        simp only [inside, if_true, tail, padded, dummyByte]
      · simp only [inside, if_false]
        by_cases readable : reg.toNat - g.mutableBytes.length < g.readOnlyBytes.length
        · have tail := Memory.drop_slice s.memory ⟨.readOnlyBuffer, 0⟩ g.readOnlyBytes.length
            (reg.toNat - g.mutableBytes.length)
          rw [whole.2, Pointer.mk_add, Nat.zero_add] at tail
          simp only [readable, if_true, tail, padded, dummyByte]
        · have past : g.readOnlyBytes.drop (reg.toNat - g.mutableBytes.length) = [] :=
            List.drop_eq_nil_of_le (by omega)
          simp [readable, past, padded, Memory.slice, dummyByte]

/-- What the callback at the end of a received frame sees, and where it leads. -/
theorem Follows.reply_afterReceive (h : Follows g s) (small : g.mutableBytes.length ≤ 255)
    (buffer : s.rxBuffer.initialised = true) {first : UInt8} {rest : List UInt8}
    (address : UInt16) (error : I2CError) :
    (I2CRegisterSlave.afterReceive (min (rest.length + 1) s.rxBuffer.size) address error
      (s.memory.storeAll s.rxBuffer.buffer ((first :: rest).take s.rxBuffer.size))
      s.app).Follows (g.step (.write first rest)) := by
  have got := h.gotRegNum
  have window := h.receive
  have room : 0 < s.rxBuffer.size := by simpa [I2CBuffer.initialised] using buffer
  unfold Registers.receiveWindow at window
  cases aimed : g.selected with
  | none =>
      simp only [aimed] at window got
      rw [window.1, window.2]
      exact I2CRegisterSlave.afterReceive_waiting address error small aimed got h.mutableSize
        h.readOnlySize h.stored
  | some reg =>
      simp only [aimed] at window got
      by_cases inside : reg.toNat < g.mutableBytes.length
      · simp only [inside, if_true] at window
        rw [window.1, window.2]
        exact I2CRegisterSlave.afterReceive_aimed _ address error aimed inside got h.mutableSize
          h.readOnlySize h.stored
      · simp only [inside, if_false] at window
        rw [window.2] at room
        exact absurd room (Nat.lt_irrefl 0)

theorem Follows.discards_eq (h : Follows g s) (first : UInt8) (rest : List UInt8) :
    g.discards (.write first rest) = !s.rxBuffer.initialised := by
  have size := h.receive.2
  unfold Registers.receiveWindow at size
  unfold Registers.discards I2CBuffer.initialised
  cases aimed : g.selected with
  | none =>
      simp only [aimed] at size
      simp [size, regSlaveWriteBufferLength]
  | some reg =>
      simp only [aimed] at size
      by_cases inside : reg.toNat < g.mutableBytes.length
      · simp only [inside, if_true] at size
        simp [size, Nat.not_le_of_lt inside, Nat.sub_pos_of_lt inside]
      · simp only [inside, if_false] at size
        simp [size, Nat.le_of_not_lt inside]

/-- One frame, up to its last byte and then over its end, whatever else has been found by
then. -/
theorem Follows.frame (h : Follows g s) (small : g.mutableBytes.length ≤ 255) (f : Frame)
    (status : SlaveStatus) :
    let served := run isr s (f.dataCalls {})
    let ended := (served.serveAddress status).endOfFrame
    Follows (g.stepDriver f.transfer) ended ∧
      busBytes ended.trace = busBytes s.trace ++ g.wire f.transfer := by
  dsimp only
  obtain ⟨address, named⟩ := serveAddress_eq (run isr s (f.dataCalls {})) status
  rw [named]
  cases transfer : f.transfer with
  | read count =>
      obtain ⟨error, trailing, next, events, served, bytes⟩ :=
        run_read transfer h.idle h.beforeTransmit
      rw [served]
      have done := follows_afterTransmit (g := g) (s := { s with
          addressCalled := address
          state := .transmitting
          txBuffer := { s.txBuffer with nextIndex := next }
          trailingByteSent := trailing
          error := error
          trace := s.trace ++ events }) rfl h.afterReceive h.beforeTransmit h.afterTransmit
        h.mutableSize h.readOnlySize h.stored
      refine ⟨done.1, done.2.trans ?_⟩
      rw [busBytes_append, bytes, h.padded_transmit, Registers.wire]
  | write first rest =>
      have discards := h.discards_eq first rest
      cases buffer : s.rxBuffer.initialised with
      | false =>
          have silent := endOfFrame_idle
            (s := { s with error := .bufferOverflow, addressCalled := address }) h.idle
          rw [run_write_discarded transfer h.idle buffer, Registers.stepDriver, discards, buffer,
            Bool.not_false, if_pos rfl]
          dsimp only at silent ⊢
          rw [silent]
          exact ⟨{ h with }, by simp [Registers.wire]⟩
      | true =>
          obtain ⟨error, events, served, silent⟩ := run_write transfer buffer
          rw [served]
          have done := follows_afterReceive (g := g.step (.write first rest)) (s := { s with
              addressCalled := address
              state := .receiving
              rxBuffer := { s.rxBuffer with
                nextIndex := min (rest.length + 1) s.rxBuffer.size }
              memory := s.memory.storeAll s.rxBuffer.buffer ((first :: rest).take s.rxBuffer.size)
              error := error
              trace := s.trace ++ events })
            (min (rest.length + 1) s.rxBuffer.size) rfl rfl h.afterReceive h.beforeTransmit
            h.afterTransmit h.noTrailing
          rw [Registers.stepDriver, discards, buffer, if_neg (by simp)]
          refine ⟨(done ?_).1, ((done ?_).2).trans (by simp [silent, Registers.wire])⟩ <;>
            exact h.reply_afterReceive small buffer

end Slave
end TeensyI2C
