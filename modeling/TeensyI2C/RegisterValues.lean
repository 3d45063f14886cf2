import TeensyI2C.I2CDevice
import TeensyI2C.Lib.LittleEndian

/-!
The typed overloads of `I2CDevice::write` and `read`. The host is little-endian; a device of any
other byte order has its values swapped on the way out and on the way in.
-/

namespace TeensyI2C

/-- `_LITTLE_ENDIAN` and `_BYTE_ORDER` of the host. -/
def littleEndian : Int := 1234

def hostByteOrder : Int := littleEndian

def bswap16 (value : UInt16) : UInt16 := UInt16.ofNat (LittleEndian.swap 2 value.toNat)

def bswap32 (value : UInt32) : UInt32 := UInt32.ofNat (LittleEndian.swap 4 value.toNat)

/-- The bytes of a variable in memory. -/
def bytesOf16 (value : UInt16) : List UInt8 := LittleEndian.bytes 2 value.toNat

def bytesOf32 (value : UInt32) : List UInt8 := LittleEndian.bytes 4 value.toNat

/-- The variable behind bytes in memory. -/
def variable8 (bytes : List UInt8) : UInt8 := UInt8.ofNat (LittleEndian.value bytes)

def variable16 (bytes : List UInt8) : UInt16 := UInt16.ofNat (LittleEndian.value bytes)

def variable32 (bytes : List UInt8) : UInt32 := UInt32.ofNat (LittleEndian.value bytes)

namespace I2CDevice

def construct (address : UInt8) (deviceByteOrder : Int) : I2CDevice where
  address := address
  swapBytes := hostByteOrder != deviceByteOrder

variable {W : Type} (M : I2CMaster W) (fuel : Nat) (d : I2CDevice)

def writeUInt8 (reg value : UInt8) (sendStop : Bool) (w : W) : Option (Bool × W) :=
  d.write M fuel reg [value] sendStop w

def writeInt8 (reg : UInt8) (value : Int8) (sendStop : Bool) (w : W) : Option (Bool × W) :=
  d.write M fuel reg [value.toUInt8] sendStop w

def writeUInt16 (reg : UInt8) (value : UInt16) (sendStop : Bool) (w : W) : Option (Bool × W) :=
  if d.swapBytes then d.write M fuel reg (bytesOf16 (bswap16 value)) sendStop w
  else d.write M fuel reg (bytesOf16 value) sendStop w

def writeInt16 (reg : UInt8) (value : Int16) (sendStop : Bool) (w : W) : Option (Bool × W) :=
  if d.swapBytes then
    let swapped : Int16 := (bswap16 value.toUInt16).toInt16
    d.write M fuel reg (bytesOf16 swapped.toUInt16) sendStop w
  else d.write M fuel reg (bytesOf16 value.toUInt16) sendStop w

def writeUInt32 (reg : UInt8) (value : UInt32) (sendStop : Bool) (w : W) : Option (Bool × W) :=
  if d.swapBytes then d.write M fuel reg (bytesOf32 (bswap32 value)) sendStop w
  else d.write M fuel reg (bytesOf32 value) sendStop w

def writeInt32 (reg : UInt8) (value : Int32) (sendStop : Bool) (w : W) : Option (Bool × W) :=
  if d.swapBytes then
    let swapped : Int32 := (bswap32 value.toUInt32).toInt32
    d.write M fuel reg (bytesOf32 swapped.toUInt32) sendStop w
  else d.write M fuel reg (bytesOf32 value.toUInt32) sendStop w

/-- The typed reads return what is in the caller's variable afterwards. -/
def readUInt8 (reg : UInt8) (sendStop : Bool) (w : W) : Option (Bool × UInt8 × W) := do
  let (ok, w) ← d.read M fuel reg 1 sendStop w
  return (ok, variable8 (M.buffer w), w)

def readInt8 (reg : UInt8) (sendStop : Bool) (w : W) : Option (Bool × Int8 × W) := do
  let (ok, w) ← d.read M fuel reg 1 sendStop w
  return (ok, (variable8 (M.buffer w)).toInt8, w)

def readUInt16 (reg : UInt8) (sendStop : Bool) (w : W) : Option (Bool × UInt16 × W) := do
  let (ok, w) ← d.read M fuel reg 2 sendStop w
  let value := variable16 (M.buffer w)
  if ok then return (true, if d.swapBytes then bswap16 value else value, w)
  else return (false, value, w)

def readInt16 (reg : UInt8) (sendStop : Bool) (w : W) : Option (Bool × Int16 × W) := do
  let (ok, value, w) ← d.readUInt16 M fuel reg sendStop w
  return (ok, value.toInt16, w)

def readUInt32 (reg : UInt8) (sendStop : Bool) (w : W) : Option (Bool × UInt32 × W) := do
  let (ok, w) ← d.read M fuel reg 4 sendStop w
  let value := variable32 (M.buffer w)
  if ok then return (true, if d.swapBytes then bswap32 value else value, w)
  else return (false, value, w)

def readInt32 (reg : UInt8) (sendStop : Bool) (w : W) : Option (Bool × Int32 × W) := do
  let (ok, value, w) ← d.readUInt32 M fuel reg sendStop w
  return (ok, value.toInt32, w)

end I2CDevice

/-- The types that have an overload. -/
inductive RegisterType where
  | uint8
  | int8
  | uint16
  | int16
  | uint32
  | int32
deriving DecidableEq, Repr

/-- A register's value, of one of these types. -/
inductive RegisterValue : RegisterType → Type where
  | uint8 (value : UInt8) : RegisterValue .uint8
  | int8 (value : Int8) : RegisterValue .int8
  | uint16 (value : UInt16) : RegisterValue .uint16
  | int16 (value : Int16) : RegisterValue .int16
  | uint32 (value : UInt32) : RegisterValue .uint32
  | int32 (value : Int32) : RegisterValue .int32

namespace RegisterValue

def width : RegisterType → Nat
  | .uint8 | .int8 => 1
  | .uint16 | .int16 => 2
  | .uint32 | .int32 => 4

/-- The value's bytes, lowest first. -/
def bytes {t : RegisterType} : RegisterValue t → List UInt8
  | .uint8 value => [value]
  | .int8 value => [value.toUInt8]
  | .uint16 value => bytesOf16 value
  | .int16 value => bytesOf16 value.toUInt16
  | .uint32 value => bytesOf32 value
  | .int32 value => bytesOf32 value.toUInt32

/-- The value's bytes in the order of a device. -/
def deviceBytes {t : RegisterType} (deviceByteOrder : Int) (v : RegisterValue t) : List UInt8 :=
  if deviceByteOrder = littleEndian then v.bytes else v.bytes.reverse

variable {W : Type} (M : I2CMaster W) (fuel : Nat) (d : I2CDevice)

/-- The overload of `write` for a value's type. -/
def write {t : RegisterType} (reg : UInt8) (v : RegisterValue t) (sendStop : Bool) (w : W) :
    Option (Bool × W) :=
  match v with
  | .uint8 value => d.writeUInt8 M fuel reg value sendStop w
  | .int8 value => d.writeInt8 M fuel reg value sendStop w
  | .uint16 value => d.writeUInt16 M fuel reg value sendStop w
  | .int16 value => d.writeInt16 M fuel reg value sendStop w
  | .uint32 value => d.writeUInt32 M fuel reg value sendStop w
  | .int32 value => d.writeInt32 M fuel reg value sendStop w

/-- The overload of `read` for a type. -/
def read (t : RegisterType) (reg : UInt8) (sendStop : Bool) (w : W) :
    Option (Bool × RegisterValue t × W) :=
  match t with
  | .uint8 => (d.readUInt8 M fuel reg sendStop w).map fun (ok, v, w) => (ok, .uint8 v, w)
  | .int8 => (d.readInt8 M fuel reg sendStop w).map fun (ok, v, w) => (ok, .int8 v, w)
  | .uint16 => (d.readUInt16 M fuel reg sendStop w).map fun (ok, v, w) => (ok, .uint16 v, w)
  | .int16 => (d.readInt16 M fuel reg sendStop w).map fun (ok, v, w) => (ok, .int16 v, w)
  | .uint32 => (d.readUInt32 M fuel reg sendStop w).map fun (ok, v, w) => (ok, .uint32 v, w)
  | .int32 => (d.readInt32 M fuel reg sendStop w).map fun (ok, v, w) => (ok, .int32 v, w)

variable {M fuel}

theorem bytesOf16_bswap16 (value : UInt16) :
    bytesOf16 (bswap16 value) = (bytesOf16 value).reverse := by
  have bound : LittleEndian.swap 2 value.toNat < 2 ^ 16 := LittleEndian.swap_lt 2 value.toNat
  rw [bytesOf16, bswap16, UInt16.toNat_ofNat_of_lt' bound, LittleEndian.bytes_swap, bytesOf16]

theorem bytesOf32_bswap32 (value : UInt32) :
    bytesOf32 (bswap32 value) = (bytesOf32 value).reverse := by
  have bound : LittleEndian.swap 4 value.toNat < 2 ^ 32 := LittleEndian.swap_lt 4 value.toNat
  rw [bytesOf32, bswap32, UInt32.toNat_ofNat_of_lt' bound, LittleEndian.bytes_swap, bytesOf32]

theorem variable16_bytesOf16 (value : UInt16) : variable16 (bytesOf16 value) = value := by
  apply UInt16.toNat_inj.mp
  have bound := value.toNat_lt
  rw [variable16, bytesOf16, LittleEndian.value_bytes, UInt16.toNat_ofNat']
  omega

theorem variable32_bytesOf32 (value : UInt32) : variable32 (bytesOf32 value) = value := by
  apply UInt32.toNat_inj.mp
  have bound := value.toNat_lt
  rw [variable32, bytesOf32, LittleEndian.value_bytes, UInt32.toNat_ofNat']
  omega

theorem bswap16_variable16 (value : UInt16) :
    bswap16 (variable16 (bytesOf16 value).reverse) = value := by
  rw [← bytesOf16_bswap16, variable16_bytesOf16]
  have twice : bytesOf16 (bswap16 (bswap16 value)) = bytesOf16 value := by
    rw [bytesOf16_bswap16, bytesOf16_bswap16, List.reverse_reverse]
  rw [← variable16_bytesOf16 (bswap16 (bswap16 value)), twice, variable16_bytesOf16]

theorem bswap32_variable32 (value : UInt32) :
    bswap32 (variable32 (bytesOf32 value).reverse) = value := by
  rw [← bytesOf32_bswap32, variable32_bytesOf32]
  have twice : bytesOf32 (bswap32 (bswap32 value)) = bytesOf32 value := by
    rw [bytesOf32_bswap32, bytesOf32_bswap32, List.reverse_reverse]
  rw [← variable32_bytesOf32 (bswap32 (bswap32 value)), twice, variable32_bytesOf32]

theorem length_deviceBytes {t : RegisterType} (deviceByteOrder : Int) (v : RegisterValue t) :
    (v.deviceBytes deviceByteOrder).length = width t := by
  have length : v.bytes.length = width t := by
    cases v <;> simp [bytes, width, bytesOf16, bytesOf32]
  unfold deviceBytes
  split
  · exact length
  · rw [List.length_reverse, length]

theorem swapBytes_construct (address : UInt8) (deviceByteOrder : Int) :
    (I2CDevice.construct address deviceByteOrder).swapBytes =
      !decide (deviceByteOrder = littleEndian) := by
  by_cases same : deviceByteOrder = littleEndian
  · simp [I2CDevice.construct, hostByteOrder, same]
  · simp [I2CDevice.construct, hostByteOrder, same, Ne.symm same]

theorem variable8_single (value : UInt8) : variable8 [value] = value := by
  simp [variable8, LittleEndian.value]

theorem write_eq {t : RegisterType} (v : RegisterValue t) (address : UInt8)
    (deviceByteOrder : Int) (reg : UInt8) (sendStop : Bool) (w : W) :
    v.write M fuel (.construct address deviceByteOrder) reg sendStop w =
      (I2CDevice.construct address deviceByteOrder).write M fuel reg
        (v.deviceBytes deviceByteOrder) sendStop w := by
  have order := swapBytes_construct address deviceByteOrder
  by_cases same : deviceByteOrder = littleEndian
  · rw [decide_eq_true same, Bool.not_true] at order
    cases v <;>
      simp only [write, I2CDevice.writeUInt8, I2CDevice.writeInt8, I2CDevice.writeUInt16,
        I2CDevice.writeInt16, I2CDevice.writeUInt32, I2CDevice.writeInt32, order,
        Bool.false_eq_true, if_false] <;>
      simp only [deviceBytes, same, if_true, bytes]
  · rw [decide_eq_false same, Bool.not_false] at order
    cases v <;>
      simp only [write, I2CDevice.writeUInt8, I2CDevice.writeInt8, I2CDevice.writeUInt16,
        I2CDevice.writeInt16, I2CDevice.writeUInt32, I2CDevice.writeInt32, order, if_true,
        UInt16.toUInt16_toInt16, UInt32.toUInt32_toInt32, bytesOf16_bswap16,
        bytesOf32_bswap32] <;>
      simp only [deviceBytes, same, if_false, bytes, List.reverse_singleton]

theorem read_eq {t : RegisterType} (v : RegisterValue t) {address : UInt8}
    {deviceByteOrder : Int} {reg : UInt8} {sendStop : Bool} {w w' : W}
    (ok : (I2CDevice.construct address deviceByteOrder).read M fuel reg (width t) sendStop w =
      some (true, w'))
    (received : M.buffer w' = v.deviceBytes deviceByteOrder) :
    RegisterValue.read M fuel (.construct address deviceByteOrder) t reg sendStop w =
      some (true, v, w') := by
  have order := swapBytes_construct address deviceByteOrder
  by_cases same : deviceByteOrder = littleEndian
  · rw [decide_eq_true same, Bool.not_true] at order
    cases v <;>
      simp only [deviceBytes, same, if_true, width, bytes] at received ok <;>
      simp [read, I2CDevice.readUInt8, I2CDevice.readInt8, I2CDevice.readUInt16,
        I2CDevice.readInt16, I2CDevice.readUInt32, I2CDevice.readInt32, same ▸ order, same, ok,
        received, variable8_single, variable16_bytesOf16, variable32_bytesOf32]
  · rw [decide_eq_false same, Bool.not_false] at order
    cases v <;>
      simp only [deviceBytes, same, if_false, width, bytes, List.reverse_singleton]
        at received ok <;>
      simp [read, I2CDevice.readUInt8, I2CDevice.readInt8, I2CDevice.readUInt16,
        I2CDevice.readInt16, I2CDevice.readUInt32, I2CDevice.readInt32, order, ok, received,
        variable8_single, bswap16_variable16, bswap32_variable32]

end RegisterValue
end TeensyI2C
