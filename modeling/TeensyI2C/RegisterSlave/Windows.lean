import TeensyI2C.RegisterSlave.Protocol

/-!
The windows that a register slave opens on its arrays, for arrays of any size. The room up to the
end of the mutable array is kept in a `uint8_t`; all is well exactly as long as it fits.
-/

namespace TeensyI2C
open ObjectMemory EventMachine

/-- Between two frames, with no register number yet. -/
structure Slave.Waiting {ν : Type} (s : Slave RegisterObject (I2CRegisterSlave ν)) : Prop where
  afterReceive : s.afterReceiveCallback = some I2CRegisterSlave.afterReceive
  beforeTransmit : s.beforeTransmitCallback = none
  afterTransmit : s.afterTransmitCallback = some I2CRegisterSlave.afterTransmit
  idle : s.state = .idle
  noTrailing : s.trailingByteSent = false
  gotRegNum : s.app.gotRegNum = false
  receive : s.rxBuffer.Shows (⟨.rxBuffer, 0⟩, regSlaveWriteBufferLength)
  transmit : s.txBuffer.Shows (⟨.mutableBuffer, 0⟩, 0)

namespace I2CRegisterSlave
variable {ν : Type} (slave : I2CRegisterSlave ν) (memory : Memory RegisterObject UInt8)

theorem waiting_listen (address : UInt8) :
    (listen (construct slave memory) address).Waiting := by
  have follows := (slave.follows_listen memory address).1
  exact { follows with }

/-- What a single frame stores at its register: no more than the `uint8_t` says there is room
for. -/
theorem memory_writeRegister (reply : RegisterReply ν) {first : UInt8} {rest : List UInt8}
    (short : rest.length ≤ 8) (inside : first.toNat < reply.app.mutableBufferSize)
    (received : reply.memory = afterBytes memory first rest) :
    (reply.writeRegister first (rest.length + 1)).memory .mutableBuffer =
      memory.storeAll ⟨.mutableBuffer, first.toNat⟩
        (rest.take (Reply.bufferSize reply.app.mutableBufferSize first)) .mutableBuffer := by
  have whole : (first :: rest).take regSlaveWriteBufferLength = first :: rest :=
    List.take_of_length_le (by simp [regSlaveWriteBufferLength]; omega)
  generalize hsize : Reply.bufferSize reply.app.mutableBufferSize first = size
  have copied : (if size < rest.length + 1 - 1 then size else rest.length + 1 - 1) =
      min size rest.length := by
    rw [Nat.min_def]
    split <;> split <;> omega
  have bytes : reply.memory.slice ⟨.rxBuffer, 1⟩ (min size rest.length) = rest.take size := by
    have cells := Memory.slice_storeAll_within memory ⟨.rxBuffer, 0⟩ (first :: rest) (i := 1)
      (n := min size rest.length) (by simp; omega)
    rw [received, afterBytes, whole]
    refine cells.trans ?_
    simp [List.take_eq_take_iff]
  unfold Reply.writeRegister
  simp only [inside, if_true, hsize, copied, Reply.memcpy, bytes]
  rw [received]
  exact Memory.storeAll_congr (afterBytes_other memory first rest (by simp)) _ _

/-- The documented windows once the register number `reg` has been sent on its own. -/
def WindowsOpen (m r : Nat) (reg : UInt8) (s : Slave RegisterObject (I2CRegisterSlave ν)) : Prop :=
  (if reg.toNat < m then s.txBuffer.Shows (⟨.mutableBuffer, reg.toNat⟩, m - reg.toNat)
    else if reg.toNat < m + r then
      s.txBuffer.Shows (⟨.readOnlyBuffer, reg.toNat - m⟩, r - (reg.toNat - m))
    else s.txBuffer.size = 0) ∧
  if reg.toNat < m then s.rxBuffer.Shows (⟨.mutableBuffer, reg.toNat⟩, m - reg.toNat)
  else s.rxBuffer.size = 0

/-- What the documentation promises for one register: its windows, and where the data of a frame
goes that brings it along with the number. -/
def RegisterWorks (s : Slave RegisterObject (I2CRegisterSlave ν)) (reg : UInt8) : Prop :=
  let m := s.app.mutableBufferSize
  let r := s.app.readOnlyBufferSize
  (∀ f : Frame, f.transfer = .write reg [] →
    WindowsOpen m r reg (run Slave.isr s (Frame.calls [f]))) ∧
  ∀ (f : Frame) (d : List UInt8), f.transfer = .write reg d → 1 ≤ d.length → d.length ≤ 8 →
    reg.toNat < m →
      (run Slave.isr s (Frame.calls [f])).memory .mutableBuffer =
        s.memory.storeAll ⟨.mutableBuffer, reg.toNat⟩ (d.take (m - reg.toNat)) .mutableBuffer

variable {s : Slave RegisterObject (I2CRegisterSlave ν)}

theorem run_calls_waiting (waiting : s.Waiting) {f : Frame} {first : UInt8} {rest : List UInt8}
    (transfer : f.transfer = .write first rest) :
    ∃ address error b,
      let after := run Slave.isr s (Frame.calls [f])
      let reply := afterReceive (min (rest.length + 1) regSlaveWriteBufferLength) address error
        (afterBytes s.memory first rest) s.app
      after.rxBuffer = reply.calls.foldl Slave.receiveCall b ∧
        after.txBuffer = reply.calls.foldl Slave.transmitCall s.txBuffer ∧
        after.memory = reply.memory := by
  have buffer : s.rxBuffer.initialised = true := by
    simp [I2CBuffer.initialised, waiting.receive.2, regSlaveWriteBufferLength]
  obtain ⟨called, named⟩ := Slave.serveAddress_eq s { avf := true, sasr := f.sasr }
  obtain ⟨address, error, trace, served⟩ := Slave.endOfFrame_run_write
    (s := { s with addressCalled := called }) transfer buffer waiting.afterReceive {}
  have whole : run Slave.isr s (Frame.calls [f]) =
      ((run Slave.isr { s with addressCalled := called } (f.dataCalls {})).serveAddress
        {}).endOfFrame := by
    rw [Slave.run_calls_single, named]
    rfl
  rw [waiting.receive.1, waiting.receive.2] at served
  exact ⟨address, error, _, by rw [whole, served]; rfl, by rw [whole, served]; rfl,
    by rw [whole, served]; rfl⟩

/-- The windows after a register number: the room in the mutable array is cut to a byte. -/
theorem windows_of_select (waiting : s.Waiting) {f : Frame} {reg : UInt8}
    (transfer : f.transfer = .write reg []) :
    let m := s.app.mutableBufferSize
    let r := s.app.readOnlyBufferSize
    let after := run Slave.isr s (Frame.calls [f])
    after.rxBuffer.Shows
      (if reg.toNat < m then (⟨.mutableBuffer, reg.toNat⟩, Reply.bufferSize m reg)
      else (⟨.rxBuffer, 0⟩, 0)) ∧
    after.txBuffer.Shows
      (if reg.toNat < m then (⟨.mutableBuffer, reg.toNat⟩, Reply.bufferSize m reg)
      else if reg.toNat - m < r then (⟨.readOnlyBuffer, reg.toNat - m⟩, r - (reg.toNat - m))
      else (⟨.readOnlyBuffer, 0⟩, 0)) := by
  intro m r after
  obtain ⟨address, error, b, receive, transmit, -⟩ := run_calls_waiting waiting transfer
  have single : min (([] : List UInt8).length + 1) regSlaveWriteBufferLength = 1 := by decide
  rw [single, afterReceive_selects s.memory waiting.gotRegNum] at receive transmit
  have windows := Reply.selectRegister_windows ({
    app := { s.app with gotRegNum := true }
    memory := afterBytes s.memory reg [] } : RegisterReply ν).fetchRegNum reg
  exact ⟨receive ▸ windows.1 b, transmit ▸ windows.2 s.txBuffer⟩

theorem memory_of_write (waiting : s.Waiting) {f : Frame} {reg : UInt8} {d : List UInt8}
    (transfer : f.transfer = .write reg d) (nonempty : 1 ≤ d.length) (short : d.length ≤ 8)
    (inside : reg.toNat < s.app.mutableBufferSize) :
    (run Slave.isr s (Frame.calls [f])).memory .mutableBuffer =
      s.memory.storeAll ⟨.mutableBuffer, reg.toNat⟩
        (d.take (Reply.bufferSize s.app.mutableBufferSize reg)) .mutableBuffer := by
  obtain ⟨address, error, b, -, -, memory⟩ := run_calls_waiting waiting transfer
  have length : min (d.length + 1) regSlaveWriteBufferLength = d.length + 1 :=
    Nat.min_eq_left (by simp only [regSlaveWriteBufferLength]; omega)
  rw [length, afterReceive_writes s.memory waiting.gotRegNum reg d (by omega)] at memory
  rw [memory]
  simp only [Reply.waitForRegNum, Reply.setReceiveBuffer, Reply.setTransmitBuffer,
    Reply.notifyWrite_memory]
  exact memory_writeRegister s.memory ({
    app := { s.app with gotRegNum := true }
    memory := afterBytes s.memory reg d } : RegisterReply ν).fetchRegNum short inside rfl

def selectFrame (reg : UInt8) : Frame where
  sasr := 0
  transfer := .write reg []
  stop := true
  ending := .prompt

/-- A register works as documented exactly if the room from it to the end of the mutable array
fits a byte. -/
theorem registerWorks_iff (waiting : s.Waiting) (reg : UInt8) :
    RegisterWorks s reg ↔
      (reg.toNat < s.app.mutableBufferSize → s.app.mutableBufferSize - reg.toNat ≤ 255) := by
  constructor
  · intro works inside
    have documented := (works.1 (selectFrame reg) rfl).2
    have actual := (windows_of_select (f := selectFrame reg) waiting rfl).1
    simp only [inside, if_true] at documented actual
    have cut : Reply.bufferSize s.app.mutableBufferSize reg =
        s.app.mutableBufferSize - reg.toNat := actual.2.symm.trans documented.2
    have byte : (s.app.mutableBufferSize - reg.toNat) % 256 < 256 := Nat.mod_lt _ (by decide)
    rw [Reply.bufferSize] at cut
    omega
  · intro fits
    have size : reg.toNat < s.app.mutableBufferSize →
        Reply.bufferSize s.app.mutableBufferSize reg = s.app.mutableBufferSize - reg.toNat :=
      fun inside => Nat.mod_eq_of_lt (Nat.lt_succ_of_le (fits inside))
    refine ⟨fun f transfer => ?_, fun f d transfer nonempty short inside => ?_⟩
    · have windows := windows_of_select waiting transfer
      unfold WindowsOpen
      by_cases inside : reg.toNat < s.app.mutableBufferSize
      · simp only [inside, if_true, size inside] at windows ⊢
        exact ⟨windows.2, windows.1⟩
      · simp only [inside, if_false] at windows ⊢
        by_cases readable : reg.toNat < s.app.mutableBufferSize + s.app.readOnlyBufferSize
        · have offset : reg.toNat - s.app.mutableBufferSize < s.app.readOnlyBufferSize := by omega
          simp only [readable, offset, if_true] at windows ⊢
          exact ⟨windows.2, windows.1.2⟩
        · have offset : ¬ reg.toNat - s.app.mutableBufferSize < s.app.readOnlyBufferSize := by
            omega
          simp only [readable, offset, if_false] at windows ⊢
          exact ⟨windows.2.2, windows.1.2⟩
    · rw [memory_of_write waiting transfer nonempty short inside, size inside]

def largeSlave : Slave RegisterObject (I2CRegisterSlave Unit) :=
  listen (construct { mutableBufferSize := 256, readOnlyBufferSize := 0, app := () }
    fun _ _ => 0) 0x2D

/-- Register 0 has 256 bytes before it and gets a window of none. -/
theorem registerWorks_broken :
    largeSlave.Waiting ∧ ¬ RegisterWorks largeSlave 0 := by
  refine ⟨waiting_listen _ _ _, fun works => ?_⟩
  have documented := (works.1 (selectFrame 0) rfl).2
  exact absurd documented.2 (by decide)

theorem registerWorks_one : RegisterWorks largeSlave 1 :=
  (registerWorks_iff (waiting_listen _ _ _) 1).mpr (by decide)

end I2CRegisterSlave
end TeensyI2C
