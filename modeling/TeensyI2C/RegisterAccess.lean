import TeensyI2C.RegisterValues
import TeensyI2C.RegisterSlave.Protocol

/-!
`I2CDevice` and `I2CRegisterSlave` joined by an error-free master and bus. What the bus has seen
is a list of complete frames; the slave is the real driver, run on the status words of these
frames, with the end of each frame reported early or late.
-/

namespace TeensyI2C
open ObjectMemory EventMachine

/-- The bus, the register slave on it and the caller's read buffer. -/
structure RegisterBus (ν : Type) where
  slave : I2CRegisterSlave ν
  memory : Memory RegisterObject UInt8
  slaveAddress : UInt8
  /-- When the slave's service routine finds the end of the `n`-th frame. -/
  endings : Nat → Ending
  frames : List Frame := []
  error : I2CError := .ok
  buffer : List UInt8 := []

namespace RegisterBus
variable {ν : Type} (w : RegisterBus ν)

/-- The slave, once the end of the last frame has been reported to it. -/
def device : Slave RegisterObject (I2CRegisterSlave ν) :=
  w.slave.afterFrames w.memory w.slaveAddress w.frames

def mutableBytes : List UInt8 :=
  w.device.memory.slice ⟨.mutableBuffer, 0⟩ w.slave.mutableBufferSize

def readOnlyBytes : List UInt8 :=
  w.device.memory.slice ⟨.readOnlyBuffer, 0⟩ w.slave.readOnlyBufferSize

/-- One more frame, without an error. -/
def transfer (t : Transfer) (sendStop : Bool) : RegisterBus ν :=
  let f : Frame :=
    { sasr := w.slaveAddress.toUInt16 <<< 1
      transfer := t
      stop := sendStop
      ending := w.endings w.frames.length }
  { w with frames := w.frames ++ [f], error := .ok }

/-- The bytes that a read of `count` takes from what the slave puts on the bus. -/
def readBytes (count : Nat) (sendStop : Bool) : List UInt8 :=
  ((busBytes (w.transfer (.read count) sendStop).device.trace).drop
    (busBytes w.device.trace).length).take count

end RegisterBus

/-- A master without errors: every transfer is finished at the first poll. It refuses reads that
are too long, as the real one does. -/
def errorFreeMaster (ν : Type) : I2CMaster (RegisterBus ν) where
  finished _ := true
  error w := w.error
  writeAsync _ bytes sendStop w :=
    match bytes with
    | [] => { w with error := .ok }
    | first :: rest => w.transfer (.write first rest) sendStop
  readAsync _ numBytes sendStop w :=
    if maxMasterReadLength < numBytes then { w with error := .invalidRequest }
    else { w.transfer (.read numBytes) sendStop with buffer := w.readBytes numBytes sendStop }
  millis _ := 0
  elapse := id
  buffer w := w.buffer
  clear numBytes w := { w with buffer := List.replicate numBytes 0 }
  buffer_clear _ _ := rfl

namespace Registers

theorem wires_append (next : Registers → Transfer → Registers) (g : Registers)
    (ts us : List Transfer) :
    wires next g (ts ++ us) = wires next g ts ++ wires next (run next g ts) us := by
  induction ts generalizing g with
  | nil => rfl
  | cons t ts ih => simp only [List.cons_append, wires, ih, run_cons, List.append_assoc]

end Registers

namespace RegisterBus
variable {ν : Type} {w : RegisterBus ν}

def registers (w : RegisterBus ν) : Registers :=
  run Registers.stepDriver (w.slave.registers w.memory) (w.frames.map (·.transfer))

theorem registers_transfer (t : Transfer) (sendStop : Bool) :
    (w.transfer t sendStop).registers = w.registers.stepDriver t := by
  simp [registers, transfer, run_append]

theorem length_registers :
    w.registers.mutableBytes.length = w.slave.mutableBufferSize ∧
      w.registers.readOnlyBytes.length = w.slave.readOnlyBufferSize :=
  w.slave.length_registers w.memory (w.frames.map Frame.transfer)

theorem mutableBytes_eq (small : w.slave.mutableBufferSize ≤ 255) :
    w.mutableBytes = w.registers.mutableBytes ∧ w.readOnlyBytes = w.registers.readOnlyBytes := by
  have agrees := w.slave.agrees_stepDriver w.memory w.slaveAddress w.frames small
  exact ⟨agrees.2.1, agrees.2.2⟩

theorem readBytes_eq (small : w.slave.mutableBufferSize ≤ 255) (count : Nat) (sendStop : Bool) :
    w.readBytes count sendStop = w.registers.output count := by
  have before := (w.slave.follows_afterFrames w.memory w.slaveAddress w.frames small).2
  have after := (w.slave.follows_afterFrames w.memory w.slaveAddress
    (w.transfer (.read count) sendStop).frames small).2
  have frames : (w.transfer (.read count) sendStop).frames.map (·.transfer) =
      w.frames.map (·.transfer) ++ [.read count] := by
    simp [transfer]
  rw [frames, Registers.wires_append, ← before] at after
  have bytes : busBytes (w.transfer (.read count) sendStop).device.trace =
      busBytes w.device.trace ++ w.registers.output (count + 1) := by
    refine after.trans ?_
    simp only [Registers.wires, Registers.wire, List.append_nil]
    rfl
  rw [readBytes, bytes, List.drop_left, Registers.take_output]

end RegisterBus

/-! ### Device calls over this bus -/

inductive DeviceCall where
  | write (reg : UInt8) (first : UInt8) (rest : List UInt8) (sendStop : Bool)
  | read (reg : UInt8) (more : Nat) (sendStop : Bool)
deriving DecidableEq, Repr

namespace RegisterBus
variable {ν : Type} {w : RegisterBus ν} (d : I2CDevice)

theorem finish_errorFree (fuel : Nat) (w : RegisterBus ν) :
    I2CDevice.finish (errorFreeMaster ν) (fuel + 1) w = some w := by
  simp [I2CDevice.finish, I2CMaster.wait, Polling.poll, errorFreeMaster]

theorem write_errorFree (fuel : Nat) (reg : UInt8) (bytes : List UInt8) (sendStop : Bool) :
    d.write (errorFreeMaster ν) (fuel + 1) reg bytes sendStop w =
      some (true, w.transfer (.write reg bytes) sendStop) := by
  simp only [I2CDevice.write, finish_errorFree, Option.bind_eq_bind, Option.bind_some,
    Option.pure_def]
  rfl

theorem read_errorFree (fuel : Nat) (reg : UInt8) (numBytes : Nat) (sendStop : Bool) :
    let selected := w.transfer (.write reg []) false
    d.read (errorFreeMaster ν) (fuel + 1) reg numBytes sendStop w =
      some (if maxMasterReadLength < numBytes then
          (false, { selected with
            error := .invalidRequest
            buffer := List.replicate numBytes 0 })
        else (true, { selected.transfer (.read numBytes) sendStop with
            buffer := selected.readBytes numBytes sendStop })) := by
  have written := write_errorFree (w := w) d fuel reg [] false
  simp only [I2CDevice.read, I2CDevice.writeRegister_eq_write, written, Option.bind_eq_bind,
    Option.bind_some, Option.pure_def, if_true, finish_errorFree]
  by_cases long : maxMasterReadLength < numBytes
  · simp only [errorFreeMaster, long, if_true]
    rfl
  · simp only [errorFreeMaster, long, if_false]
    rfl

/-- Call the device; `none` unless the call reports success. -/
def perform (fuel : Nat) (w : RegisterBus ν) (call : DeviceCall) : Option (RegisterBus ν) :=
  let result := match call with
    | .write reg first rest sendStop =>
        d.write (errorFreeMaster ν) fuel reg (first :: rest) sendStop w
    | .read reg more sendStop => d.read (errorFreeMaster ν) fuel reg (more + 1) sendStop w
  result.bind fun (ok, w) => if ok then some w else none

def performAll (fuel : Nat) (w : RegisterBus ν) (calls : List DeviceCall) :
    Option (RegisterBus ν) :=
  calls.foldlM (perform d fuel) w

/-- Between two calls the slave waits for a register number, whatever registers and lengths the
calls so far have named. -/
theorem perform_waits {fuel : Nat} {w' : RegisterBus ν} {call : DeviceCall}
    (waiting : w.registers.selected = none) (done : perform d (fuel + 1) w call = some w') :
    w'.registers.selected = none ∧ w'.slave = w.slave := by
  cases call with
  | write reg first rest sendStop =>
      simp only [perform, write_errorFree, Option.bind_some, if_true, Option.some.injEq] at done
      subst done
      rw [registers_transfer]
      simp [Registers.stepDriver, Registers.discards, Registers.step, waiting, transfer]
  | read reg more sendStop =>
      simp only [perform, read_errorFree, Option.bind_some] at done
      split at done
      · simp at done
      · simp only [if_true, Option.some.injEq] at done
        subst done
        have frames : ∀ (u : RegisterBus ν) buffer,
            ({ u with buffer := buffer } : RegisterBus ν).registers = u.registers :=
          fun _ _ => rfl
        rw [frames, registers_transfer, registers_transfer]
        simp [Registers.stepDriver, Registers.discards, Registers.step, waiting, transfer]

theorem performAll_waits {fuel : Nat} {w' : RegisterBus ν} {calls : List DeviceCall}
    (waiting : w.registers.selected = none)
    (done : performAll d (fuel + 1) w calls = some w') :
    w'.registers.selected = none ∧ w'.slave = w.slave := by
  induction calls generalizing w with
  | nil =>
      obtain rfl := Option.some.inj done
      exact ⟨waiting, rfl⟩
  | cons call calls ih =>
      obtain ⟨v, first, rest⟩ := Option.bind_eq_some_iff.mp done
      obtain ⟨waits, slave⟩ := perform_waits d waiting first
      obtain ⟨final, slave'⟩ := ih waits rest
      exact ⟨final, slave'.trans slave⟩

/-! ### Writing a value and reading it back -/

theorem registers_write {reg : UInt8} {bytes : List UInt8} (waiting : w.registers.selected = none)
    (some_byte : bytes ≠ []) (short : bytes.length ≤ 8)
    (inside : reg.toNat + bytes.length ≤ w.slave.mutableBufferSize) (sendStop : Bool) :
    (w.transfer (.write reg bytes) sendStop).registers =
      { w.registers with
        mutableBytes := overwrite w.registers.mutableBytes reg.toNat bytes } := by
  obtain ⟨first, rest, rfl⟩ := List.exists_cons_of_ne_nil some_byte
  have room : reg.toNat < w.registers.mutableBytes.length := by
    rw [length_registers.1]
    simp only [List.length_cons] at inside
    omega
  have whole : ((first :: rest).take 8).take
      (w.registers.mutableBytes.length - reg.toNat) = first :: rest := by
    rw [List.take_of_length_le short, List.take_of_length_le]
    rw [length_registers.1]
    omega
  rw [registers_transfer]
  simp only [Registers.stepDriver, Registers.discards, Registers.step, waiting,
    Bool.false_eq_true, if_false, Registers.storeAt, room, if_true, whole]

theorem readBytes_mutable {reg : UInt8} {count : Nat} (small : w.slave.mutableBufferSize ≤ 255)
    (waiting : w.registers.selected = none) (some_byte : 0 < count)
    (inside : reg.toNat + count ≤ w.slave.mutableBufferSize) (sendStop : Bool) :
    (w.transfer (.write reg []) false).readBytes count sendStop =
      (w.registers.mutableBytes.drop reg.toNat).take count := by
  have length := (length_registers (w := w)).1
  have room : reg.toNat < w.registers.mutableBytes.length := by omega
  have enough : count ≤ (w.registers.mutableBytes.drop reg.toNat).length := by
    rw [List.length_drop]
    omega
  rw [readBytes_eq (w := w.transfer (.write reg []) false) small, registers_transfer]
  simp only [Registers.stepDriver, Registers.discards, Registers.step, waiting,
    Bool.false_eq_true, if_false, Registers.output, Registers.region, room, if_true]
  rw [List.take_append_of_le_length enough]

theorem registers_read (waiting : w.registers.selected = none) (reg : UInt8) (count : Nat)
    (sendStop : Bool) :
    ((w.transfer (.write reg []) false).transfer (.read count) sendStop).registers =
      w.registers := by
  rw [registers_transfer, registers_transfer]
  simp only [Registers.stepDriver, Registers.discards, Registers.step, waiting,
    Bool.false_eq_true, if_false]
  exact waiting ▸ rfl

/-- After any successful calls, a value that is written to a register changes exactly the bytes
of that register, in the device's order, and is read back as it was written. -/
theorem write_then_read (start : RegisterBus ν) (fresh : start.frames = [])
    (small : start.slave.mutableBufferSize ≤ 255) (deviceByteOrder : Int) (fuel : Nat)
    (history : List DeviceCall) {w : RegisterBus ν}
    (past : performAll (.construct start.slaveAddress deviceByteOrder) (fuel + 1) start history =
      some w)
    {t : RegisterType} (v : RegisterValue t) (reg : UInt8)
    (inside : reg.toNat + RegisterValue.width t ≤ start.slave.mutableBufferSize)
    (sendStop sendStop' : Bool) :
    let d := I2CDevice.construct start.slaveAddress deviceByteOrder
    ∃ w₁ w₂, v.write (errorFreeMaster ν) (fuel + 1) d reg sendStop w = some (true, w₁) ∧
      w₁.mutableBytes = overwrite w.mutableBytes reg.toNat (v.deviceBytes deviceByteOrder) ∧
      w₁.readOnlyBytes = w.readOnlyBytes ∧
      RegisterValue.read (errorFreeMaster ν) (fuel + 1) d t reg sendStop' w₁ =
        some (true, v, w₂) ∧
      w₂.mutableBytes = w₁.mutableBytes ∧ w₂.readOnlyBytes = w₁.readOnlyBytes := by
  intro d
  have atStart : start.registers.selected = none := by
    simp [registers, fresh, I2CRegisterSlave.registers]
  obtain ⟨waiting, slave⟩ := performAll_waits d atStart past
  rw [← slave] at small inside
  have length := v.length_deviceBytes deviceByteOrder
  have width_pos : 0 < RegisterValue.width t := by cases t <;> decide
  have width_le : RegisterValue.width t ≤ 4 := by cases t <;> decide
  have some_byte : v.deviceBytes deviceByteOrder ≠ [] := by
    intro empty
    rw [empty] at length
    simp only [List.length_nil] at length
    omega
  let w₁ := w.transfer (.write reg (v.deviceBytes deviceByteOrder)) sendStop
  have written : w₁.registers = { w.registers with
      mutableBytes := overwrite w.registers.mutableBytes reg.toNat
        (v.deviceBytes deviceByteOrder) } :=
    registers_write waiting some_byte (by omega) (by rw [length]; exact inside) sendStop
  have waiting₁ : w₁.registers.selected = none := by rw [written]; exact waiting
  let selected := w₁.transfer (.write reg []) false
  let w₂ : RegisterBus ν := { selected.transfer (.read (RegisterValue.width t)) sendStop' with
    buffer := selected.readBytes (RegisterValue.width t) sendStop' }
  have readBack : w₂.buffer = v.deviceBytes deviceByteOrder := by
    have bytes : w₂.buffer =
        (w₁.registers.mutableBytes.drop reg.toNat).take (RegisterValue.width t) :=
      readBytes_mutable (w := w₁) small waiting₁ width_pos inside sendStop'
    rw [bytes, written, ← length]
    apply take_drop_overwrite
    rw [length, length_registers.1]
    exact inside
  have unread : w₂.registers = w₁.registers := registers_read waiting₁ reg _ sendStop'
  have contents := mutableBytes_eq (w := w) small
  have contents₁ := mutableBytes_eq (w := w₁) small
  have contents₂ := mutableBytes_eq (w := w₂) small
  refine ⟨w₁, w₂, ?_, ?_, ?_, ?_, ?_, ?_⟩
  · rw [v.write_eq, write_errorFree]
  · rw [contents₁.1, contents.1, written]
  · rw [contents₁.2, contents.2, written]
  · refine v.read_eq ?_ readBack
    have notTooLong : ¬ maxMasterReadLength < RegisterValue.width t := by
      unfold maxMasterReadLength
      omega
    rw [read_errorFree, if_neg notTooLong]
  · rw [contents₂.1, contents₁.1, unread]
  · rw [contents₂.2, contents₁.2, unread]

/-- Four mutable registers, one read-only one, and a slave that finds the end of every frame
together with the next address. -/
def fourRegisters : RegisterBus Unit where
  slave := { mutableBufferSize := 4, readOnlyBufferSize := 1, app := () }
  memory := fun _ _ => 0
  slaveAddress := 0x2D
  endings := fun _ => .withAddress

/-- A big-endian signed register, after a write to a register that does not exist. -/
theorem write_then_read_int16 :
    let d := I2CDevice.construct 0x2D 4321
    let w := fourRegisters.transfer (.write 7 [1, 2]) true
    ∃ w₁ w₂, d.writeInt16 (errorFreeMaster Unit) 1 1 (-2) false w = some (true, w₁) ∧
      w₁.mutableBytes = overwrite w.mutableBytes 1 [0xFF, 0xFE] ∧
      RegisterValue.read (errorFreeMaster Unit) 1 d .int16 1 true w₁ =
        some (true, .int16 (-2), w₂) := by
  intro d w
  obtain ⟨w₁, w₂, written, stored, _, readBack, _, _⟩ :=
    write_then_read fourRegisters rfl (by decide) 4321 0 [.write 7 1 [2] true] (w := w)
      (by simp [performAll, perform, write_errorFree, w]) (.int16 (-2)) 1 (by decide) false true
  exact ⟨w₁, w₂, written, stored, readBack⟩

end RegisterBus
end TeensyI2C
