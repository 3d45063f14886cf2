import TeensyI2C.Slave.Frames

/-!
`I2CRegisterSlave`: a device with registers, as callbacks on the slave driver. Its memory is the
four arrays that the driver's buffers can point into.
-/

namespace TeensyI2C
open ObjectMemory

inductive RegisterObject where
  | emptyBuffer
  | mutableBuffer
  | readOnlyBuffer
  | rxBuffer
deriving DecidableEq, Repr

instance : Inhabited RegisterObject := ⟨.emptyBuffer⟩

/-- `REG_SLAVE_WRITE_BUFFER_LENGTH`: the largest register and one byte for its number. -/
def regSlaveWriteBufferLength : Nat := 9

/-- `ν` is the state behind the application's own two callbacks. -/
structure I2CRegisterSlave (ν : Type) where
  gotRegNum : Bool := false
  mutableBufferSize : Nat
  readOnlyBufferSize : Nat
  afterReadCallback : Option (UInt8 → ν → ν) := none
  afterWriteCallback : Option (UInt8 → UInt8 → ν → ν) := none
  app : ν

abbrev RegisterReply (ν : Type) := Reply RegisterObject (I2CRegisterSlave ν)

namespace Reply
variable {ν : Type}

/-- `rx_buffer[0]`. -/
def regNum (reply : RegisterReply ν) : UInt8 := reply.memory.load ⟨.rxBuffer, 0⟩

def fetchRegNum (reply : RegisterReply ν) : RegisterReply ν :=
  { reply with accesses := reply.accesses ++ [.fetch ⟨.rxBuffer, 0⟩] }

/-- `memcpy`, cell by cell. -/
def memcpy (reply : RegisterReply ν) (dest src : Pointer RegisterObject) (n : Nat) :
    RegisterReply ν :=
  let bytes := reply.memory.slice src n
  { reply with
    memory := reply.memory.storeAll dest bytes
    accesses := reply.accesses ++
      (List.range n).flatMap fun i =>
        [.fetch (src + i), .store (dest + i) (reply.memory.load (src + i))] }

def setReceiveBuffer (reply : RegisterReply ν) (buffer : Pointer RegisterObject) (size : Nat) :
    RegisterReply ν :=
  { reply with calls := reply.calls ++ [.setReceiveBuffer buffer size] }

def setTransmitBuffer (reply : RegisterReply ν) (buffer : Pointer RegisterObject) (size : Nat) :
    RegisterReply ν :=
  { reply with calls := reply.calls ++ [.setTransmitBuffer buffer size] }

def waitForRegNum (reply : RegisterReply ν) : RegisterReply ν :=
  let reply := { reply with app := { reply.app with gotRegNum := false } }
  let reply := reply.setReceiveBuffer ⟨.rxBuffer, 0⟩ regSlaveWriteBufferLength
  reply.setTransmitBuffer ⟨.mutableBuffer, 0⟩ 0

/-- The room from a register to the end of the mutable buffer, as the `uint8_t` it is kept in. -/
def bufferSize (mutableBufferSize : Nat) (regNum : UInt8) : Nat :=
  (mutableBufferSize - regNum.toNat) % 256

/-- Register number and data came in one frame. -/
def writeRegister (reply : RegisterReply ν) (regNum : UInt8) (len : Nat) : RegisterReply ν :=
  let m := reply.app.mutableBufferSize
  if regNum.toNat < m then
    let size := bufferSize m regNum
    let copyLen := if size < len - 1 then size else len - 1
    reply.memcpy ⟨.mutableBuffer, regNum.toNat⟩ ⟨.rxBuffer, 1⟩ copyLen
  else reply

/-- Only a register number came: aim the coming read or write at the register. -/
def selectRegister (reply : RegisterReply ν) (regNum : UInt8) : RegisterReply ν :=
  let m := reply.app.mutableBufferSize
  let r := reply.app.readOnlyBufferSize
  if regNum.toNat < m then
    let buffer : Pointer RegisterObject := ⟨.mutableBuffer, regNum.toNat⟩
    let size := bufferSize m regNum
    (reply.setReceiveBuffer buffer size).setTransmitBuffer buffer size
  else
    -- "reg_num is too big for a write. Discard the next write if there is one."
    let reply := reply.setReceiveBuffer ⟨.rxBuffer, 0⟩ 0
    let offset := (regNum.toNat - m) % 256
    if offset < r then
      reply.setTransmitBuffer ⟨.readOnlyBuffer, offset⟩ (r - offset)
    else
      reply.setTransmitBuffer ⟨.readOnlyBuffer, 0⟩ 0

/-- A write is over: tell the application. -/
def notifyWrite (reply : RegisterReply ν) (numBytes : UInt8) : RegisterReply ν :=
  match reply.app.afterWriteCallback with
  | some callback =>
      let app := { reply.app with app := callback reply.regNum numBytes reply.app.app }
      { reply.fetchRegNum with app := app }
  | none => reply

def notifyRead (reply : RegisterReply ν) : RegisterReply ν :=
  match reply.app.afterReadCallback with
  | some callback =>
      let app := { reply.app with app := callback reply.regNum reply.app.app }
      { reply.fetchRegNum with app := app }
  | none => reply

@[simp] theorem fetchRegNum_app (reply : RegisterReply ν) :
    reply.fetchRegNum.app = reply.app := rfl

@[simp] theorem writeRegister_app (reply : RegisterReply ν) (regNum : UInt8) (len : Nat) :
    (reply.writeRegister regNum len).app = reply.app := by
  unfold writeRegister
  dsimp only
  split <;> rfl

section Notifications
variable (reply : RegisterReply ν) (numBytes : UInt8)

@[simp] theorem notifyWrite_memory : (reply.notifyWrite numBytes).memory = reply.memory := by
  unfold notifyWrite
  cases reply.app.afterWriteCallback <;> rfl

@[simp] theorem notifyWrite_mutableBufferSize :
    (reply.notifyWrite numBytes).app.mutableBufferSize = reply.app.mutableBufferSize := by
  unfold notifyWrite
  cases reply.app.afterWriteCallback <;> rfl

@[simp] theorem notifyWrite_readOnlyBufferSize :
    (reply.notifyWrite numBytes).app.readOnlyBufferSize = reply.app.readOnlyBufferSize := by
  unfold notifyWrite
  cases reply.app.afterWriteCallback <;> rfl

@[simp] theorem notifyRead_memory : reply.notifyRead.memory = reply.memory := by
  unfold notifyRead
  cases reply.app.afterReadCallback <;> rfl

@[simp] theorem notifyRead_calls : reply.notifyRead.calls = reply.calls := by
  unfold notifyRead
  cases reply.app.afterReadCallback <;> rfl

@[simp] theorem notifyRead_mutableBufferSize :
    reply.notifyRead.app.mutableBufferSize = reply.app.mutableBufferSize := by
  unfold notifyRead
  cases reply.app.afterReadCallback <;> rfl

@[simp] theorem notifyRead_readOnlyBufferSize :
    reply.notifyRead.app.readOnlyBufferSize = reply.app.readOnlyBufferSize := by
  unfold notifyRead
  cases reply.app.afterReadCallback <;> rfl

@[simp] theorem notifyRead_gotRegNum :
    reply.notifyRead.app.gotRegNum = reply.app.gotRegNum := by
  unfold notifyRead
  cases reply.app.afterReadCallback <;> rfl

end Notifications

end Reply

namespace I2CRegisterSlave
variable {ν : Type}
open Reply

def afterReceive (len : Nat) (_address : UInt16) :
    Callback RegisterObject (I2CRegisterSlave ν) := fun _ memory slave =>
  let reply : RegisterReply ν :=
    { app := { slave with gotRegNum := !slave.gotRegNum }, memory := memory }
  if reply.app.gotRegNum then
    let regNum := reply.regNum
    let reply := reply.fetchRegNum
    if len > 1 then
      ((reply.writeRegister regNum len).notifyWrite (UInt8.ofNat (len - 1))).waitForRegNum
    else reply.selectRegister regNum
  else (reply.notifyWrite (UInt8.ofNat len)).waitForRegNum

def afterTransmit (_address : UInt16) : Callback RegisterObject (I2CRegisterSlave ν) :=
  fun _ memory slave =>
    let reply : RegisterReply ν := { app := slave, memory := memory }
    reply.waitForRegNum.notifyRead

/-- A driver that has just been constructed, with the arrays that the application passed to the
register slave's constructor. -/
def construct (slave : I2CRegisterSlave ν) (memory : Memory RegisterObject UInt8) :
    Slave RegisterObject (I2CRegisterSlave ν) :=
  { app := slave, memory := memory }

def listen (s : Slave RegisterObject (I2CRegisterSlave ν)) (address : UInt8) :
    Slave RegisterObject (I2CRegisterSlave ν) :=
  let s := s.listen (.listen address)
  let s := s.afterReceive (some afterReceive)
  let s := s.afterTransmit (some afterTransmit)
  s.invoke fun _ memory slave =>
    let reply : RegisterReply ν := { app := slave, memory := memory }
    reply.waitForRegNum

end I2CRegisterSlave
end TeensyI2C
