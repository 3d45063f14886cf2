import TeensyI2C.Slave.Frames

/-!
What a register slave is for, as an automaton over whole frames: it either waits for a register
number or is aimed at a register. Below it stand the bytes that a master receives and the
contents of the two arrays; drivers, buffers and callbacks do not appear.
-/

namespace TeensyI2C

structure Registers where
  selected : Option UInt8 := none
  mutableBytes : List UInt8
  readOnlyBytes : List UInt8
deriving DecidableEq, Repr

namespace Registers

/-- The bytes of a register's region, from the register on. -/
def region (g : Registers) (reg : UInt8) : List UInt8 :=
  if reg.toNat < g.mutableBytes.length then g.mutableBytes.drop reg.toNat
  else g.readOnlyBytes.drop (reg.toNat - g.mutableBytes.length)

/-- What a read of `count` bytes returns: the region it is aimed at, then zeros. -/
def output (g : Registers) (count : Nat) : List UInt8 :=
  match g.selected with
  | none => List.replicate count 0
  | some reg => (g.region reg ++ List.replicate count 0).take count

/-- Store bytes at a register, up to the end of the mutable array. -/
def storeAt (g : Registers) (reg : UInt8) (bytes : List UInt8) : Registers :=
  if reg.toNat < g.mutableBytes.length then
    { g with
      mutableBytes := overwrite g.mutableBytes reg.toNat
        (bytes.take (g.mutableBytes.length - reg.toNat)) }
  else g

/-- The automaton of the documented protocol. -/
def step (g : Registers) : Transfer → Registers
  | .read _ => { g with selected := none }
  | .write first rest =>
      match g.selected, rest with
      | none, [] => { g with selected := some first }
      | none, data :: more => g.storeAt first ((data :: more).take 8)
      | some reg, _ => { g.storeAt reg (first :: rest) with selected := none }

/-- A write that comes while the slave is aimed past the mutable array. -/
def discards (g : Registers) : Transfer → Bool
  | .read _ => false
  | .write _ _ =>
      match g.selected with
      | none => false
      | some reg => g.mutableBytes.length ≤ reg.toNat

/-- The automaton that the driver implements: a discarded write leaves the slave aimed. -/
def stepDriver (g : Registers) (t : Transfer) : Registers :=
  if g.discards t then g else g.step t

/-- The bytes that each frame of a sequence brings the master. -/
def outputs (next : Registers → Transfer → Registers) :
    Registers → List Transfer → List (List UInt8)
  | _, [] => []
  | g, t :: ts =>
      (match t with
        | .write _ _ => []
        | .read count => g.output count) :: outputs next (next g t) ts

/-- Everything that the slave puts on the bus for a frame: a byte more than the master takes. -/
def wire (g : Registers) : Transfer → List UInt8
  | .write _ _ => []
  | .read count => g.output (count + 1)

def wires (next : Registers → Transfer → Registers) : Registers → List Transfer → List UInt8
  | _, [] => []
  | g, t :: ts => g.wire t ++ wires next (next g t) ts

/-- How the master splits what is on the bus: `count` bytes of each read are its own. -/
def received : List Transfer → List UInt8 → List (List UInt8)
  | [], _ => []
  | .write _ _ :: ts, bytes => [] :: received ts bytes
  | .read count :: ts, bytes => bytes.take count :: received ts (bytes.drop (count + 1))

@[simp] theorem storeAt_selected (g : Registers) (reg : UInt8) (bytes : List UInt8) :
    (g.storeAt reg bytes).selected = g.selected := by
  unfold storeAt
  split <;> rfl

@[simp] theorem storeAt_readOnlyBytes (g : Registers) (reg : UInt8) (bytes : List UInt8) :
    (g.storeAt reg bytes).readOnlyBytes = g.readOnlyBytes := by
  unfold storeAt
  split <;> rfl

@[simp] theorem length_storeAt (g : Registers) (reg : UInt8) (bytes : List UInt8) :
    (g.storeAt reg bytes).mutableBytes.length = g.mutableBytes.length := by
  unfold storeAt
  split
  · apply length_overwrite
    rw [List.length_take]
    omega
  · rfl

@[simp] theorem length_output (g : Registers) (count : Nat) :
    (g.output count).length = count := by
  unfold output
  cases g.selected <;> simp

theorem take_output (g : Registers) (count : Nat) :
    (g.output (count + 1)).take count = g.output count := by
  unfold output
  cases g.selected with
  | none => simp
  | some reg =>
      dsimp only
      rw [List.take_take, Nat.min_eq_left (Nat.le_succ count), List.take_append,
        List.take_append, List.take_replicate, List.take_replicate]
      congr 2
      omega

theorem received_wires (next : Registers → Transfer → Registers) (g : Registers)
    (ts : List Transfer) : received ts (wires next g ts) = outputs next g ts := by
  induction ts generalizing g with
  | nil => rfl
  | cons t ts ih =>
      cases t with
      | write first rest => simp only [received, wires, wire, List.nil_append, outputs, ih]
      | read count =>
          have length : (g.output (count + 1)).length = count + 1 := length_output g _
          simp only [received, wires, wire, outputs]
          rw [List.take_append_of_le_length (by omega), take_output,
            List.drop_append_of_le_length (by omega), List.drop_eq_nil_of_le (by omega),
            List.nil_append, ih]

/-- As long as no write is discarded, driver and documentation agree. -/
theorem outputs_stepDriver {g : Registers} {ts : List Transfer}
    (obeyed : EventMachine.Along step (fun g t => g.discards t = false) g ts) :
    outputs stepDriver g ts = outputs step g ts ∧
      EventMachine.run stepDriver g ts = EventMachine.run step g ts := by
  induction ts generalizing g with
  | nil => exact ⟨rfl, rfl⟩
  | cons t ts ih =>
      have same : g.stepDriver t = g.step t := by simp [stepDriver, obeyed.1]
      have rest := ih obeyed.2
      exact ⟨by simp only [outputs, same, rest.1], by simp only [EventMachine.run_cons, same,
        rest.2]⟩

@[simp] theorem step_readOnlyBytes (g : Registers) (t : Transfer) :
    (g.step t).readOnlyBytes = g.readOnlyBytes := by
  cases t with
  | read count => rfl
  | write first rest =>
      cases hg : g.selected <;> cases rest <;> simp [step, hg]

@[simp] theorem length_step (g : Registers) (t : Transfer) :
    (g.step t).mutableBytes.length = g.mutableBytes.length := by
  cases t with
  | read count => rfl
  | write first rest =>
      cases hg : g.selected <;> cases rest <;> simp [step, hg]

@[simp] theorem stepDriver_readOnlyBytes (g : Registers) (t : Transfer) :
    (g.stepDriver t).readOnlyBytes = g.readOnlyBytes := by
  unfold stepDriver
  split <;> simp

@[simp] theorem length_stepDriver (g : Registers) (t : Transfer) :
    (g.stepDriver t).mutableBytes.length = g.mutableBytes.length := by
  unfold stepDriver
  split <;> simp

end Registers
end TeensyI2C
