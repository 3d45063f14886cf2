import TeensyI2C.I2CDevice

/-!
`I2CDriverWire`: the Wire library over a master. Like `I2CDevice` it blocks until its wait ends,
and takes the master's error code for the outcome of the transfer.
-/

namespace TeensyI2C

def toWireResult (error : I2CError) : UInt8 :=
  if error = .ok then 0
  else if error = .bufferOverflow then 1
  else if error = .addressNak then 2
  else if error = .dataNak then 3
  else 4

@[simp] theorem toWireResult_eq_zero (error : I2CError) : toWireResult error = 0 ↔ error = .ok := by
  cases error <;> decide

structure I2CDriverWire where
  writeAddress : UInt8 := 0
  txBuffer : List UInt8
  txNextByteToWrite : Nat := 0
deriving DecidableEq, Repr

namespace I2CDriverWire

def rxBufferLength : Nat := 32

def txBufferLength : Nat := 32

/-- Indicates that there is no more data to read. -/
def noMoreBytes : Int := -1

def sizeRange : Nat := UInt32.size

/-- The conversion of an `int` to `size_t`. -/
def sizeOfInt (n : Int) : Nat := (UInt32.ofInt n).toNat

/-- `tx_buffer_length - tx_next_byte_to_write`, which wraps if the cursor is past the end. -/
def avail (txNextByteToWrite : Nat) : Nat :=
  (txBufferLength + (sizeRange - txNextByteToWrite)) % sizeRange

theorem avail_eq {next : Nat} (bounded : next ≤ txBufferLength) :
    avail next = txBufferLength - next := by
  simp only [avail, txBufferLength, sizeRange, UInt32.size] at bounded ⊢
  omega

def timeoutMillis : UInt32 := 200

/-- `timeout < timeout_millis`. -/
def within (timeout : UInt32) : Bool := timeout < timeoutMillis

variable {W : Type} (M : I2CMaster W) (fuel : Nat) (wire : I2CDriverWire)

def finish (w : W) : Option W := (M.wait within fuel w).map (·.2)

def startTransfer (stop : Int) (w : W) : W :=
  M.writeAsync wire.writeAddress (wire.txBuffer.take wire.txNextByteToWrite) (stop != 0) w

def endTransmission (stop : Int) (w : W) : Option (UInt8 × W) := do
  let w := startTransfer M wire stop w
  let w ← finish M fuel w
  return (toWireResult (M.error w), w)

variable {M fuel wire}

theorem finish_returns (runs : M.ClockRuns within) (w : W) :
    Polling.Returns fun fuel => finish M fuel w :=
  (I2CMaster.wait_returns runs w).map (·.2)

theorem endTransmission_returns (runs : M.ClockRuns within) (wire : I2CDriverWire) (stop : Int)
    (w : W) : Polling.Returns fun fuel => endTransmission M fuel wire stop w :=
  (finish_returns runs _).bind fun _ => Polling.returns_some _

theorem endTransmission_honest_iff {stop : Int} {result : UInt8} {w w' : W}
    (h : endTransmission M fuel wire stop w = some (result, w')) :
    (result = 0 → M.Completes within (startTransfer M wire stop w)) ↔
      ¬ M.TimesOutSilently within (startTransfer M wire stop w) := by
  obtain ⟨v, finished, last⟩ := Option.bind_eq_some_iff.mp h
  obtain ⟨rfl, rfl⟩ := Prod.mk.inj (Option.some.inj last)
  obtain ⟨⟨seen, v⟩, waited, rfl⟩ := Option.map_eq_some_iff.mp finished
  simp only [toWireResult_eq_zero]
  cases failed : M.hasError v with
  | true =>
      have error : M.error v ≠ .ok := by simpa [I2CMaster.hasError] using failed
      have loud := M.not_timesOutSilently_of_hasError waited failed
      simp [error, loud]
  | false =>
      have ok : M.error v = .ok := by simpa [I2CMaster.hasError] using failed
      rcases M.wait_cases waited failed with ⟨_, done, loud⟩ | ⟨_, undone, silent⟩
      · simp [done, loud]
      · simp [ok, undone, silent]

end I2CDriverWire

/-! ### The three blocking calls together -/

/-- Success is reported for completed transfers only, exactly if no wait that matters runs out
before the master has recorded an error; and a failed read leaves zeros behind. -/
theorem blocking_calls_honest_iff {W : Type} (M : I2CMaster W) (fuel : Nat) (d : I2CDevice)
    (wire : I2CDriverWire) :
    (∀ reg buffer sendStop w ok w', d.write M fuel reg buffer sendStop w = some (ok, w') →
      let writing := M.writeAsync d.address (reg :: buffer) sendStop w
      ((ok = true → M.Completes I2CDevice.within writing) ↔
        ¬ M.TimesOutSilently I2CDevice.within writing)) ∧
    (∀ reg numBytes sendStop w ok w', d.read M fuel reg numBytes sendStop w = some (ok, w') →
      let writing := M.writeAsync d.address [reg] false w
      ((ok = true → M.Completes I2CDevice.within writing ∧
          ∃ v, I2CDevice.finish M fuel writing = some v ∧
            M.Completes I2CDevice.within (M.readAsync d.address numBytes sendStop v)) ↔
        d.ReadWaitsHeard M fuel reg numBytes sendStop w)) ∧
    (∀ reg numBytes sendStop w w', d.read M fuel reg numBytes sendStop w = some (false, w') →
      M.buffer w' = List.replicate numBytes 0) ∧
    (∀ stop w result w', wire.endTransmission M fuel stop w = some (result, w') →
      let writing := wire.startTransfer M stop w
      ((result = 0 → M.Completes I2CDriverWire.within writing) ↔
        ¬ M.TimesOutSilently I2CDriverWire.within writing)) := by
  refine ⟨?_, ?_, ?_, ?_⟩
  · intro reg buffer sendStop w ok w' returned
    exact I2CDevice.write_honest_iff returned
  · intro reg numBytes sendStop w ok w' returned
    exact I2CDevice.read_honest_iff returned
  · intro reg numBytes sendStop w w' returned
    exact I2CDevice.buffer_of_read_failed returned
  · intro stop w result w' returned
    exact I2CDriverWire.endTransmission_honest_iff returned

/-- On a clock that goes on each of the calls returns. -/
theorem blocking_calls_return {W : Type} (M : I2CMaster W) (d : I2CDevice) (wire : I2CDriverWire)
    (device : M.ClockRuns I2CDevice.within) (object : M.ClockRuns I2CDriverWire.within) :
    (∀ reg buffer sendStop w, Polling.Returns fun fuel => d.write M fuel reg buffer sendStop w) ∧
    (∀ reg numBytes sendStop w,
      Polling.Returns fun fuel => d.read M fuel reg numBytes sendStop w) ∧
    ∀ stop w, Polling.Returns fun fuel => wire.endTransmission M fuel stop w :=
  ⟨I2CDevice.write_returns device d, I2CDevice.read_returns device d,
    I2CDriverWire.endTransmission_returns object wire⟩

/-- A master whose bus is free from the `free`-th poll on, if ever, and that records no error.
Every poll takes 100 ms. -/
def waitingMaster (free : Option Nat) : I2CMaster (Nat × List UInt8) where
  finished w := free.any fun n => n ≤ w.1
  error _ := .ok
  writeAsync _ _ _ := id
  readAsync _ _ _ := id
  millis w := UInt32.ofNat (100 * w.1)
  elapse w := (w.1 + 1, w.2)
  buffer w := w.2
  clear numBytes w := (w.1, List.replicate numBytes 0)
  buffer_clear _ _ := rfl

/-- While another master holds the bus for good, a write reports success after 200 ms. -/
theorem write_reports_unfinished_transfer :
    let d : I2CDevice := { address := 0x2D, swapBytes := false }
    d.write (waitingMaster none) 10 1 [2] true (0, []) = some (true, (3, [])) ∧
      ¬ (waitingMaster none).Completes I2CDevice.within
        ((waitingMaster none).writeAsync d.address [1, 2] true (0, [])) := by
  refine ⟨by decide, ?_⟩
  intro ⟨n, ⟨_, _, finished⟩, _⟩
  cases finished

/-- On a bus that comes free in time a write completes. -/
theorem write_completes_on_free_bus :
    let d : I2CDevice := { address := 0x2D, swapBytes := false }
    (waitingMaster (some 1)).Completes I2CDevice.within
      ((waitingMaster (some 1)).writeAsync d.address [1, 2] true (0, [])) := by
  let d : I2CDevice := { address := 0x2D, swapBytes := false }
  have honest := (blocking_calls_honest_iff (waitingMaster (some 1)) 10 d
    { txBuffer := [] }).1 1 [2] true (0, []) true (1, []) (by decide)
  refine honest.mpr ?_ rfl
  intro ⟨n, late, _⟩
  have second : n = 0 ∨ n = 1 ∨ 1 < n := by omega
  rcases second with rfl | rfl | beyond
  · exact absurd late.2 (by decide)
  · exact absurd late.2 (by decide)
  · exact absurd (late.1 1 beyond).2 (by decide)

end TeensyI2C
