import TeensyI2C.I2CDriverWire
import TeensyI2C.Lib.ObjectMemory

/-!
The arrays of `I2CDriverWire` where its owner keeps them. A sketch writes to `tx_buffer` in the same
way whether the object is a master or a slave.
-/

namespace TeensyI2C
open ObjectMemory I2CDriverWire

/-- The two arrays of the object. -/
structure WireBuffers (O : Type) where
  txBuffer : O
  rxBuffer : O
  separate : txBuffer ≠ rxBuffer

def wireBuffers : WireBuffers Bool := ⟨true, false, by decide⟩

/-- A call of one of the two forms of `write`. -/
inductive WireWrite where
  | byte (data : UInt8)
  | block (data : List UInt8)
deriving DecidableEq, Repr

def WireWrite.bytes : WireWrite → List UInt8
  | .byte data => [data]
  | .block data => data

/-- The memory with `tx_buffer` in it, its cursor, and the cells that have been written. -/
structure Outgoing (O : Type) where
  memory : Memory O UInt8
  txNextByteToWrite : Nat
  accesses : List (Access O) := []

namespace Outgoing
variable {O : Type} [DecidableEq O] (B : WireBuffers O)

/-- The stores of a `memcpy` to `p`. -/
def stores (p : Pointer O) : List UInt8 → List (Access O)
  | [] => []
  | data :: bytes => .store p data :: stores (p + 1) bytes

/-- `tx_buffer[tx_next_byte_to_write...]`, and the new cursor. -/
def put (out : Outgoing O) (data : List UInt8) : Outgoing O :=
  let dest : Pointer O := ⟨B.txBuffer, out.txNextByteToWrite⟩
  { memory := out.memory.storeAll dest data
    txNextByteToWrite := (out.txNextByteToWrite + data.length) % sizeRange
    accesses := out.accesses ++ stores dest data }

def write (out : Outgoing O) : WireWrite → Outgoing O × Nat
  | .byte data =>
      if out.txNextByteToWrite < txBufferLength then (out.put B [data], 1) else (out, 0)
  | .block data =>
      if data.length ≤ avail out.txNextByteToWrite then (out.put B data, data.length)
      else (out, 0)

/-- The bytes that a write accepts: all of them if it returns a number above zero. -/
def accepted (out : Outgoing O) (w : WireWrite) : List UInt8 :=
  if (out.write B w).2 = 0 then [] else w.bytes

/-- Some writes, with all the bytes that they accept. -/
def writeEach (out : Outgoing O) : List WireWrite → Outgoing O × List UInt8
  | [] => (out, [])
  | w :: ws =>
      let rest := (out.write B w).1.writeEach ws
      (rest.1, out.accepted B w ++ rest.2)

def contents (out : Outgoing O) : List UInt8 :=
  out.memory.slice ⟨B.txBuffer, 0⟩ out.txNextByteToWrite

/-- From `out` to `next` these bytes have been appended. -/
structure Appends (out next : Outgoing O) (bytes : List UInt8) : Prop where
  bounded : next.txNextByteToWrite ≤ txBufferLength
  cursor : next.txNextByteToWrite = out.txNextByteToWrite + bytes.length
  contents : next.contents B = out.contents B ++ bytes

variable {B} {out next last : Outgoing O}

omit [DecidableEq O] in
theorem appends_refl (bounded : out.txNextByteToWrite ≤ txBufferLength) :
    Appends B out out [] :=
  ⟨bounded, rfl, (List.append_nil _).symm⟩

omit [DecidableEq O] in
theorem Appends.trans {xs ys : List UInt8} (first : Appends B out next xs)
    (second : Appends B next last ys) : Appends B out last (xs ++ ys) where
  bounded := second.bounded
  cursor := by rw [second.cursor, first.cursor, List.length_append, Nat.add_assoc]
  contents := by rw [second.contents, first.contents, List.append_assoc]

omit [DecidableEq O] in
theorem Appends.slice_below {bytes : List UInt8} (appends : Appends B out next bytes) {n : Nat}
    (below : n ≤ out.txNextByteToWrite) :
    next.memory.slice ⟨B.txBuffer, 0⟩ n = out.memory.slice ⟨B.txBuffer, 0⟩ n := by
  have later : n ≤ next.txNextByteToWrite := by
    rw [appends.cursor]
    exact Nat.le_trans below (Nat.le_add_right _ _)
  have before := out.memory.slice_prefix ⟨B.txBuffer, 0⟩ below
  have after := next.memory.slice_prefix ⟨B.txBuffer, 0⟩ later
  have whole := appends.contents
  unfold Outgoing.contents at whole
  rw [whole] at after
  have extended := before.trans (List.prefix_append _ bytes)
  rw [List.prefix_iff_eq_take] at after extended
  simpa using after.trans (by simpa using extended.symm)

theorem appends_put (data : List UInt8)
    (fits : out.txNextByteToWrite + data.length ≤ txBufferLength) :
    Appends B out (out.put B data) data := by
  have small : (out.txNextByteToWrite + data.length) % sizeRange =
      out.txNextByteToWrite + data.length :=
    Nat.mod_eq_of_lt (Nat.lt_of_le_of_lt fits (by decide))
  refine ⟨?_, small, ?_⟩
  · rw [put, small]
    exact fits
  · unfold Outgoing.contents put
    dsimp only
    rw [small, Memory.slice_storeAll _ _ _ _ _ (Nat.le_refl _), overwrite,
      List.drop_eq_nil_of_le (by simp), List.append_nil]
    congr 1
    have front := out.memory.slice_prefix ⟨B.txBuffer, 0⟩
      (Nat.le_add_right out.txNextByteToWrite data.length)
    simpa using (List.prefix_iff_eq_take.mp front).symm

theorem appends_write (bounded : out.txNextByteToWrite ≤ txBufferLength) (w : WireWrite) :
    Appends B out (out.write B w).1 (out.accepted B w) := by
  cases w with
  | byte data =>
      by_cases room : out.txNextByteToWrite < txBufferLength
      · simpa [accepted, write, room, WireWrite.bytes] using appends_put [data] room
      · simpa [accepted, write, room] using appends_refl bounded
  | block data =>
      by_cases room : data.length ≤ avail out.txNextByteToWrite
      · have fits : out.txNextByteToWrite + data.length ≤ txBufferLength := by
          rw [avail_eq bounded] at room
          omega
        have all : out.accepted B (.block data) = data := by
          by_cases empty : data.length = 0
          · obtain rfl : data = [] := List.length_eq_zero_iff.mp empty
            simp [accepted, WireWrite.bytes]
          · simp [accepted, write, room, empty, WireWrite.bytes]
        rw [all]
        simpa [write, room] using appends_put data fits
      · simpa [accepted, write, room] using appends_refl bounded

theorem write_rxBuffer (out : Outgoing O) (w : WireWrite) :
    (out.write B w).1.memory B.rxBuffer = out.memory B.rxBuffer := by
  have other (data : List UInt8) : (out.put B data).memory B.rxBuffer = out.memory B.rxBuffer :=
    Memory.storeAll_other _ _ _ B.separate.symm
  cases w with
  | byte data | block data =>
      unfold write
      dsimp only
      split
      · exact other _
      · rfl

theorem appends_writeEach (bounded : out.txNextByteToWrite ≤ txBufferLength)
    (ws : List WireWrite) :
    Appends B out (out.writeEach B ws).1 (out.writeEach B ws).2 := by
  induction ws generalizing out with
  | nil => exact appends_refl bounded
  | cons w ws ih =>
      have first := appends_write (B := B) bounded w
      exact first.trans (ih first.bounded)

end Outgoing

end TeensyI2C
