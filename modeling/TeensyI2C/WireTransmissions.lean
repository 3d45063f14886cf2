import TeensyI2C.I2CDriverWire
import TeensyI2C.Lib.EventMachine
import TeensyI2C.Lib.ObjectMemory

/-!
What a sketch writes through `I2CDriverWire` as a master: a log of bytes that `beginTransmission`
empties, and that every `endTransmission` hands to the master. The master is any `I2CMaster`; it
is given `tx_buffer` as a pointer to const.
-/

namespace TeensyI2C
open EventMachine ObjectMemory

/-- An `I2CMaster` with the transfer counter that `requestFrom` looks at. -/
structure CountingMaster (W : Type) extends I2CMaster W where
  getBytesTransferred : W → Nat

/-- The object with the part of its state that a read uses. -/
structure WireObject extends I2CDriverWire where
  rxBytesAvailable : Nat := 0
  rxNextByteToRead : Nat := 0
deriving DecidableEq, Repr

namespace I2CDriverWire

def beginTransmission (wire : I2CDriverWire) (address : Int) : I2CDriverWire :=
  { wire with writeAddress := UInt8.ofInt address, txNextByteToWrite := 0 }

/-- `write(uint8_t data)`. -/
def write (wire : I2CDriverWire) (data : UInt8) : I2CDriverWire × Nat :=
  if wire.txNextByteToWrite < txBufferLength then
    ({ wire with
      txBuffer := wire.txBuffer.set wire.txNextByteToWrite data
      txNextByteToWrite := (wire.txNextByteToWrite + 1) % sizeRange }, 1)
  else (wire, 0)

/-- `write(const uint8_t* data, size_t length)`. -/
def writeAll (wire : I2CDriverWire) (data : List UInt8) : I2CDriverWire × Nat :=
  if data.length ≤ avail wire.txNextByteToWrite then
    ({ wire with
      txBuffer := overwrite wire.txBuffer wire.txNextByteToWrite data
      txNextByteToWrite := (wire.txNextByteToWrite + data.length) % sizeRange }, data.length)
  else (wire, 0)

def contents (wire : I2CDriverWire) : List UInt8 := wire.txBuffer.take wire.txNextByteToWrite

/-- The cursor stays inside `tx_buffer`. -/
structure WellFormed (wire : I2CDriverWire) : Prop where
  length : wire.txBuffer.length = txBufferLength
  bounded : wire.txNextByteToWrite ≤ txBufferLength

variable {wire : I2CDriverWire}

theorem WellFormed.beginTransmission (h : wire.WellFormed) (address : Int) :
    (wire.beginTransmission address).WellFormed :=
  ⟨h.length, Nat.zero_le _⟩

theorem WellFormed.length_contents (h : wire.WellFormed) :
    wire.contents.length = wire.txNextByteToWrite := by
  rw [contents, List.length_take, h.length, Nat.min_eq_left h.bounded]

theorem WellFormed.append (h : wire.WellFormed) (data : List UInt8)
    (fits : wire.txNextByteToWrite + data.length ≤ txBufferLength) :
    let next : I2CDriverWire := { wire with
      txBuffer := overwrite wire.txBuffer wire.txNextByteToWrite data
      txNextByteToWrite := (wire.txNextByteToWrite + data.length) % sizeRange }
    next.WellFormed ∧ next.contents = wire.contents ++ data := by
  have small : (wire.txNextByteToWrite + data.length) % sizeRange =
      wire.txNextByteToWrite + data.length :=
    Nat.mod_eq_of_lt (Nat.lt_of_le_of_lt fits (by decide))
  have inside : wire.txNextByteToWrite + data.length ≤ wire.txBuffer.length := by
    rw [h.length]
    exact fits
  refine ⟨⟨(length_overwrite _ _ _ inside).trans h.length, ?_⟩, ?_⟩
  · rw [small]
    exact fits
  · have front : (wire.txBuffer.take wire.txNextByteToWrite).length =
        wire.txNextByteToWrite := h.length_contents
    simp only [contents, small, overwrite]
    rw [List.take_append_of_le_length (by simp [front]), List.take_of_length_le (by simp [front])]

theorem set_eq_overwrite {bytes : List UInt8} {i : Nat} (inside : i < bytes.length)
    (data : UInt8) : bytes.set i data = overwrite bytes i [data] := by
  rw [List.set_eq_take_append_cons_drop, if_pos inside, overwrite]
  simp

/-- What a call of `write` promises: it accepts all of its bytes or none. -/
structure Writes (wire : I2CDriverWire) (data : List UInt8) (result : I2CDriverWire × Nat) :
    Prop where
  wellFormed : result.1.WellFormed
  refused : result.2 = 0 → result.1 = wire
  accepted : 0 < result.2 → result.2 = data.length ∧ result.1.contents = wire.contents ++ data
  writeAddress : result.1.writeAddress = wire.writeAddress

theorem WellFormed.write (h : wire.WellFormed) (data : UInt8) :
    Writes wire [data] (wire.write data) := by
  unfold I2CDriverWire.write
  by_cases room : wire.txNextByteToWrite < txBufferLength
  · have appended := h.append [data] room
    rw [← set_eq_overwrite (by rw [h.length]; exact room)] at appended
    rw [if_pos room]
    exact ⟨appended.1, fun none => absurd none (by simp), fun _ => ⟨rfl, appended.2⟩, rfl⟩
  · rw [if_neg room]
    exact ⟨h, fun _ => rfl, fun some => absurd some (by simp), rfl⟩

theorem WellFormed.writeAll (h : wire.WellFormed) (data : List UInt8) :
    Writes wire data (wire.writeAll data) := by
  have bounded := h.bounded
  unfold I2CDriverWire.writeAll
  by_cases room : data.length ≤ avail wire.txNextByteToWrite
  · have fits : wire.txNextByteToWrite + data.length ≤ txBufferLength := by
      rw [avail_eq bounded] at room
      omega
    have appended := h.append data fits
    rw [if_pos room]
    refine ⟨appended.1, fun none => ?_, fun _ => ⟨rfl, appended.2⟩, rfl⟩
    -- An empty block is accepted, and reported like one that is refused.
    obtain rfl : data = [] := List.length_eq_zero_iff.mp none
    have kept : wire.txNextByteToWrite % sizeRange = wire.txNextByteToWrite :=
      Nat.mod_eq_of_lt (Nat.lt_of_le_of_lt bounded (by decide))
    simp [overwrite, kept]
  · rw [if_neg room]
    exact ⟨h, fun _ => rfl, fun some => absurd some (by simp), rfl⟩

end I2CDriverWire

/-! ### The calls of a sketch -/

inductive WireCall where
  | beginTransmission (address : Int)
  | write (data : UInt8)
  | writeAll (data : List UInt8)
  | requestFrom (address quantity stop : Int)
  | endTransmission (stop : Int)
deriving DecidableEq, Repr

namespace WireObject
open I2CDriverWire

def construct : WireObject where
  txBuffer := List.replicate txBufferLength 0

variable {W : Type} (M : CountingMaster W) (fuel : Nat) (wire : WireObject)

/-- A quantity below zero turns into a large `size_t`. -/
def requestFrom (address quantity stop : Int) (w : W) : Option (UInt8 × WireObject × W) := do
  let wire := { wire with rxBytesAvailable := 0, rxNextByteToRead := 0 }
  let numBytes := min (sizeOfInt quantity) rxBufferLength
  let w ← finish M.toI2CMaster fuel
    (M.readAsync (UInt8.ofInt address) numBytes (stop != 0) w)
  let available := M.getBytesTransferred w
  return (UInt8.ofNat available, { wire with rxBytesAvailable := available }, w)

/-- A call, with the number that it returns, unless it waits for longer than the fuel lasts. -/
def perform (w : W) : WireCall → Option (Nat × WireObject × W)
  | .beginTransmission address =>
      some (0, { wire with toI2CDriverWire := wire.toI2CDriverWire.beginTransmission address }, w)
  | .write data =>
      let written := wire.toI2CDriverWire.write data
      some (written.2, { wire with toI2CDriverWire := written.1 }, w)
  | .writeAll data =>
      let written := wire.toI2CDriverWire.writeAll data
      some (written.2, { wire with toI2CDriverWire := written.1 }, w)
  | .requestFrom address quantity stop =>
      (wire.requestFrom M fuel address quantity stop w).map fun r => (r.1.toNat, r.2)
  | .endTransmission stop =>
      (wire.toI2CDriverWire.endTransmission M.toI2CMaster fuel stop w).map fun r =>
        (r.1.toNat, wire, r.2)

def performAll : WireObject → W → List WireCall →
    Option (List (WireCall × Nat) × WireObject × W)
  | wire, w, [] => some ([], wire, w)
  | wire, w, call :: calls =>
      (wire.perform M fuel w call).bind fun first =>
        (performAll first.2.1 first.2.2 calls).map fun rest =>
          ((call, first.1) :: rest.1, rest.2)

end WireObject

/-! ### The log -/

structure WriteAsync where
  address : UInt8
  bytes : List UInt8
  sendStop : Bool
deriving DecidableEq, Repr

/-- The same master, with a record of the writes that it is asked for. -/
def CountingMaster.recording {W : Type} (M : CountingMaster W) :
    CountingMaster (W × List WriteAsync) where
  finished w := M.finished w.1
  error w := M.error w.1
  writeAsync address bytes sendStop w :=
    (M.writeAsync address bytes sendStop w.1, w.2 ++ [⟨address, bytes, sendStop⟩])
  readAsync address numBytes sendStop w := (M.readAsync address numBytes sendStop w.1, w.2)
  millis w := M.millis w.1
  elapse w := (M.elapse w.1, w.2)
  buffer w := M.buffer w.1
  clear numBytes w := (M.clear numBytes w.1, w.2)
  buffer_clear numBytes w := M.buffer_clear numBytes w.1
  getBytesTransferred w := M.getBytesTransferred w.1

/-- The address of the latest `beginTransmission` and what has been accepted since. -/
structure Transmission where
  address : UInt8 := 0
  payload : List UInt8 := []
deriving DecidableEq, Repr

namespace Transmission

/-- A write counts if it returned a number above zero. -/
def step (t : Transmission) : WireCall × Nat → Transmission
  | (.beginTransmission address, _) => { address := UInt8.ofInt address, payload := [] }
  | (.write data, returned) =>
      if returned = 0 then t else { t with payload := t.payload ++ [data] }
  | (.writeAll data, returned) =>
      if returned = 0 then t else { t with payload := t.payload ++ data }
  | (.requestFrom _ _ _, _) | (.endTransmission _, _) => t

def writeCalls (t : Transmission) : WireCall × Nat → List WriteAsync
  | (.endTransmission stop, _) => [⟨t.address, t.payload, stop != 0⟩]
  | _ => []

/-- The object holds the transmission in the front of `tx_buffer`. -/
structure Held (t : Transmission) (wire : I2CDriverWire) : Prop where
  wellFormed : wire.WellFormed
  address : wire.writeAddress = t.address
  payload : wire.contents = t.payload

theorem Held.of_writes {t : Transmission} {wire : I2CDriverWire} {data : List UInt8}
    {result : I2CDriverWire × Nat} (held : t.Held wire) (writes : wire.Writes data result) :
    (if result.2 = 0 then t else { t with payload := t.payload ++ data }).Held result.1 := by
  by_cases none : result.2 = 0
  · rw [if_pos none, writes.refused none]
    exact held
  · rw [if_neg none]
    refine ⟨writes.wellFormed, writes.writeAddress.trans held.address, ?_⟩
    rw [(writes.accepted (Nat.pos_of_ne_zero none)).2, held.payload]

end Transmission

namespace WireObject
open I2CDriverWire

variable {W : Type} {M : CountingMaster W} {fuel : Nat} {wire wire' : WireObject} {w w' : W}
  {t : Transmission}

theorem finish_recording (M : CountingMaster W) (fuel : Nat) (w : W) (log : List WriteAsync) :
    finish M.recording.toI2CMaster fuel (w, log) =
      (finish M.toI2CMaster fuel w).map fun w => (w, log) := by
  have carried := Polling.poll_carry (fun v => within (M.millis v - M.millis w)) M.finished
    M.elapse fuel w log
  change (Polling.poll _ _ _ fuel (w, log)).map _ = ((Polling.poll _ _ _ fuel w).map _).map _
  rw [Option.map_map]
  refine (congrArg (Option.map Prod.snd) carried).trans ?_
  rw [Option.map_map]
  rfl

theorem requestFrom_recording (address quantity stop : Int) (w : W) (log : List WriteAsync) :
    wire.requestFrom M.recording fuel address quantity stop (w, log) =
      (wire.requestFrom M fuel address quantity stop w).map fun r =>
        (r.1, r.2.1, (r.2.2, log)) := by
  let reading := M.readAsync (UInt8.ofInt address)
    (min (sizeOfInt quantity) rxBufferLength) (stop != 0) w
  have finished := finish_recording M fuel reading log
  change (finish M.recording.toI2CMaster fuel (reading, log)).bind _ =
    ((finish M.toI2CMaster fuel reading).bind _).map _
  rw [finished]
  cases finish M.toI2CMaster fuel reading <;> rfl

theorem endTransmission_recording (wire : I2CDriverWire) (stop : Int) (w : W)
    (log : List WriteAsync) :
    wire.endTransmission M.recording.toI2CMaster fuel stop (w, log) =
      (wire.endTransmission M.toI2CMaster fuel stop w).map fun r =>
        (r.1, (r.2, log ++ [⟨wire.writeAddress, wire.contents, stop != 0⟩])) := by
  let writing := startTransfer M.toI2CMaster wire stop w
  let written := log ++ [⟨wire.writeAddress, wire.contents, stop != 0⟩]
  have finished := finish_recording M fuel writing written
  change (finish M.recording.toI2CMaster fuel (writing, written)).bind _ =
    ((finish M.toI2CMaster fuel writing).bind _).map _
  rw [finished]
  cases finish M.toI2CMaster fuel writing <;> rfl

theorem perform_recording (log : List WriteAsync) (held : t.Held wire.toI2CDriverWire)
    {call : WireCall} {returned : Nat}
    (performed : wire.perform M fuel w call = some (returned, wire', w')) :
    wire.perform M.recording fuel (w, log) call =
        some (returned, wire', (w', log ++ t.writeCalls (call, returned))) ∧
      (t.step (call, returned)).Held wire'.toI2CDriverWire := by
  cases call with
  | beginTransmission address =>
      obtain ⟨rfl, rfl, rfl⟩ := performed
      refine ⟨by simp [perform, Transmission.writeCalls], ?_⟩
      exact ⟨held.wellFormed.beginTransmission address, rfl, List.take_zero⟩
  | write data =>
      obtain ⟨rfl, rfl, rfl⟩ := performed
      exact ⟨by simp [perform, Transmission.writeCalls],
        held.of_writes (held.wellFormed.write data)⟩
  | writeAll data =>
      obtain ⟨rfl, rfl, rfl⟩ := performed
      exact ⟨by simp [perform, Transmission.writeCalls],
        held.of_writes (held.wellFormed.writeAll data)⟩
  | requestFrom address quantity stop =>
      obtain ⟨⟨result, wire', w'⟩, requested, same⟩ := Option.map_eq_some_iff.mp performed
      obtain ⟨rfl, rfl, rfl⟩ := same
      refine ⟨?_, ?_⟩
      · simp [perform, requestFrom_recording, requested, Transmission.writeCalls]
      · obtain ⟨w, -, last⟩ := Option.bind_eq_some_iff.mp requested
        obtain ⟨rfl, rfl, rfl⟩ := last
        exact held
  | endTransmission stop =>
      obtain ⟨⟨result, w'⟩, ended, same⟩ := Option.map_eq_some_iff.mp performed
      obtain ⟨rfl, rfl, rfl⟩ := same
      refine ⟨?_, held⟩
      simp [perform, endTransmission_recording, ended, Transmission.writeCalls, held.address,
        held.payload]

theorem performAll_recording (log : List WriteAsync) (held : t.Held wire.toI2CDriverWire)
    {calls : List WireCall} {history : List (WireCall × Nat)}
    (performed : performAll M fuel wire w calls = some (history, wire', w')) :
    performAll M.recording fuel wire (w, log) calls =
        some (history, wire',
          (w', log ++ emitted Transmission.step Transmission.writeCalls t history)) ∧
      (run Transmission.step t history).Held wire'.toI2CDriverWire := by
  induction calls generalizing wire w t log history with
  | nil =>
      obtain ⟨rfl, rfl, rfl⟩ := performed
      exact ⟨by simp [performAll, emitted], held⟩
  | cons call calls ih =>
      obtain ⟨⟨returned, next, v⟩, first, more⟩ := Option.bind_eq_some_iff.mp performed
      obtain ⟨⟨later, last⟩, rest, same⟩ := Option.map_eq_some_iff.mp more
      obtain ⟨rfl, rfl⟩ := Prod.mk.inj same
      obtain ⟨recorded, stillHeld⟩ := perform_recording log held first
      obtain ⟨recordedRest, lastHeld⟩ :=
        ih (log ++ t.writeCalls (call, returned)) stillHeld rest
      refine ⟨?_, lastHeld⟩
      simp only [performAll, recorded, Option.bind_some, recordedRest, Option.map_some, emitted,
        List.append_assoc]

/-- Whatever a sketch calls, in whatever order: `tx_buffer` holds what has been accepted since the
latest `beginTransmission`, and each `endTransmission` asks the master for one write of that, to
that address. A write is accepted whole or changes nothing. -/
theorem transmissions_logged (M : CountingMaster W) (fuel : Nat) (w w' : W)
    (calls : List WireCall) (history : List (WireCall × Nat)) (wire : WireObject)
    (performed : performAll M fuel construct w calls = some (history, wire, w')) :
    performAll M.recording fuel construct (w, []) calls =
        some (history, wire, (w', emitted Transmission.step Transmission.writeCalls {} history)) ∧
      wire.txNextByteToWrite ≤ txBufferLength ∧
      wire.contents = (run Transmission.step {} history).payload ∧
      (∀ data, wire.Writes [data] (wire.write data)) ∧
      ∀ data, wire.Writes data (wire.writeAll data) := by
  have held : ({} : Transmission).Held construct.toI2CDriverWire :=
    ⟨⟨List.length_replicate, Nat.zero_le _⟩, rfl, List.take_zero⟩
  obtain ⟨recorded, last⟩ := performAll_recording [] held performed
  rw [List.nil_append] at recorded
  exact ⟨recorded, last.wellFormed.bounded, last.payload, last.wellFormed.write,
    last.wellFormed.writeAll⟩

theorem perform_returns (runs : M.ClockRuns within) (wire : WireObject) (w : W)
    (call : WireCall) : Polling.Returns fun fuel => wire.perform M fuel w call := by
  cases call with
  | beginTransmission address => exact Polling.returns_some _
  | write data => exact Polling.returns_some _
  | writeAll data => exact Polling.returns_some _
  | requestFrom address quantity stop =>
      have reading := finish_returns runs
        (M.readAsync (UInt8.ofInt address) (min (sizeOfInt quantity) rxBufferLength) (stop != 0) w)
      exact (reading.bind fun _ => Polling.returns_some _).map _
  | endTransmission stop => exact (endTransmission_returns runs wire.toI2CDriverWire stop w).map _

/-- On a clock that goes on all the calls return. -/
theorem performAll_returns (runs : M.ClockRuns within) (wire : WireObject) (w : W)
    (calls : List WireCall) : Polling.Returns fun fuel => performAll M fuel wire w calls := by
  induction calls generalizing wire w with
  | nil => exact Polling.returns_some _
  | cons call calls ih =>
      exact (perform_returns runs wire w call).bind fun first => (ih first.2.1 first.2.2).map _

def promptMaster : CountingMaster (Nat × List UInt8) where
  toI2CMaster := waitingMaster (some 0)
  getBytesTransferred _ := 0

/-- Three bytes, of which the last two come as a block, sent twice with a read in between. A block
that does not fit is refused. -/
theorem transmissions_logged_seven :
    performAll promptMaster.recording 1 construct ((0, []), [])
        [.beginTransmission 0x2D, .write 1, .writeAll [2, 3], .endTransmission 0,
          .requestFrom 0x2D 4 1, .writeAll (List.replicate 30 0), .endTransmission 1] =
      some ([(.beginTransmission 0x2D, 0), (.write 1, 1), (.writeAll [2, 3], 2),
          (.endTransmission 0, 0), (.requestFrom 0x2D 4 1, 0),
          (.writeAll (List.replicate 30 0), 0), (.endTransmission 1, 0)],
        { writeAddress := 0x2D
          txBuffer := [1, 2, 3] ++ List.replicate 29 0
          txNextByteToWrite := 3 },
        ((0, []), [⟨0x2D, [1, 2, 3], false⟩, ⟨0x2D, [1, 2, 3], true⟩])) :=
  (transmissions_logged promptMaster 1 (0, []) (0, []) _ _ _ (by decide)).1

end WireObject
end TeensyI2C
