import TeensyI2C.Lib.ObjectMemory

/-!
What masters and slaves share (`i2c_driver.h` and `I2CBuffer`): the error codes, and the buffer
that remembers how far a transfer has got.
-/

namespace TeensyI2C
open ObjectMemory

inductive I2CError where
  | ok
  | arbitrationLost
  | bufferOverflow
  | bufferUnderflow
  | invalidRequest
  | masterPinLowTimeout
  | masterNotReady
  | masterFifoError
  | masterFifosNotEmpty
  | addressNak
  | dataNak
  | bitError
deriving DecidableEq, Repr

/-- The number behind each enumerator. -/
def I2CError.code : I2CError → Nat
  | .ok => 0
  | .arbitrationLost => 1
  | .bufferOverflow => 2
  | .bufferUnderflow => 3
  | .invalidRequest => 4
  | .masterPinLowTimeout => 5
  | .masterNotReady => 6
  | .masterFifoError => 7
  | .masterFifosNotEmpty => 8
  | .addressNak => 9
  | .dataNak => 10
  | .bitError => 11

def hasError (error : I2CError) : Bool :=
  error.code > I2CError.ok.code

@[simp] theorem hasError_eq_false (e : I2CError) : hasError e = false ↔ e = .ok := by
  cases e <;> decide

@[simp] theorem hasError_eq_true (e : I2CError) : hasError e = true ↔ e ≠ .ok := by
  cases e <;> decide

/-- Maximum number of bytes that can be read by a single master read. -/
def maxMasterReadLength : Nat := 256

/-- One touch of a memory cell by a driver or by a callback. -/
inductive Access (O : Type) where
  | store (p : Pointer O) (data : UInt8)
  | fetch (p : Pointer O)
deriving DecidableEq, Repr

/-- `I2CBuffer`. The default object stands for the static `empty_buffer`, which the
constructor points at and which has no cells. -/
structure I2CBuffer (O : Type) [Inhabited O] where
  buffer : Pointer O := ⟨default, 0⟩
  size : Nat := 0
  nextIndex : Nat := 0
deriving DecidableEq, Repr

namespace I2CBuffer
variable {O : Type} [Inhabited O]

def reset (b : I2CBuffer O) : I2CBuffer O :=
  { b with nextIndex := 0 }

def initialise (b : I2CBuffer O) (newBuffer : Pointer O) (newSize : Nat) : I2CBuffer O :=
  { b.reset with buffer := newBuffer, size := newSize }

def initialised (b : I2CBuffer O) : Bool :=
  b.size > 0

/-- The cell that the next `read` or `write` touches. -/
def cursor (b : I2CBuffer O) : Pointer O :=
  b.buffer + b.nextIndex

/-- `next_index++`, the part of `read` and `write` that is not the access itself. -/
def advance (b : I2CBuffer O) : I2CBuffer O :=
  { b with nextIndex := b.nextIndex + 1 }

/-- `write` returns false, and stores nothing, exactly when the buffer is full. -/
def full (b : I2CBuffer O) : Bool :=
  b.nextIndex == b.size

def getBytesTransferred (b : I2CBuffer O) : Nat := b.nextIndex

def finishedWriting (b : I2CBuffer O) : Bool := b.nextIndex == b.size

def finishedReading (b : I2CBuffer O) : Bool := b.nextIndex == b.size

def hasDataAvailable (b : I2CBuffer O) : Bool := b.nextIndex < b.size

/-- The cursor has not left the buffer. -/
def Bounded (b : I2CBuffer O) : Prop := b.nextIndex ≤ b.size

/-- The same array, whatever the cursors. -/
def SameWindow (a b : I2CBuffer O) : Prop :=
  a.buffer = b.buffer ∧ a.size = b.size

theorem bounded_initialise (b : I2CBuffer O) (p : Pointer O) (n : Nat) :
    (b.initialise p n).Bounded := Nat.zero_le n

theorem bounded_reset (b : I2CBuffer O) : b.reset.Bounded := Nat.zero_le b.size

theorem Bounded.advance {b : I2CBuffer O} (h : b.Bounded) (room : b.full = false) :
    b.advance.Bounded := by
  simp only [full, beq_eq_false_iff_ne] at room
  exact Nat.lt_of_le_of_ne h room

theorem Bounded.advance_of_data {b : I2CBuffer O} (data : b.hasDataAvailable = true) :
    b.advance.Bounded := by
  have : b.nextIndex < b.size := by simpa [hasDataAvailable] using data
  exact this

end I2CBuffer
end TeensyI2C
