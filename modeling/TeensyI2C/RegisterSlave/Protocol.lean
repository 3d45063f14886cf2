import TeensyI2C.RegisterSlave.Refinement

/-!
The register protocol over whole runs: after `listen`, any sequence of complete frames brings
the master the bytes of the automaton and leaves its contents in the two arrays.
-/

namespace TeensyI2C
open ObjectMemory EventMachine

namespace Slave
variable {ν : Type} {g : Registers} {s : Slave RegisterObject (I2CRegisterSlave ν)}

/-- The automaton, together with everything that has been on the bus. -/
def stepWire (next : Registers → Transfer → Registers) (p : Registers × List UInt8)
    (t : Transfer) : Registers × List UInt8 :=
  (next p.1 t, p.2 ++ p.1.wire t)

theorem run_stepWire (next : Registers → Transfer → Registers) (g : Registers)
    (bytes : List UInt8) (ts : List Transfer) :
    run (stepWire next) (g, bytes) ts = (run next g ts, bytes ++ Registers.wires next g ts) := by
  induction ts generalizing g bytes with
  | nil => simp [Registers.wires]
  | cons t ts ih => simp only [run_cons, stepWire, ih, Registers.wires, List.append_assoc]

theorem Follows.calls (h : Follows g s) (small : g.mutableBytes.length ≤ 255)
    (frames : List Frame) :
    Follows (run Registers.stepDriver g (frames.map (·.transfer)))
        (run isr s (Frame.calls frames)) ∧
      busBytes (run isr s (Frame.calls frames)).trace = busBytes s.trace ++
        Registers.wires Registers.stepDriver g (frames.map (·.transfer)) := by
  have all := calls_rule (stepWire Registers.stepDriver)
    (I := fun p (s : Slave RegisterObject (I2CRegisterSlave ν)) =>
      p.1.mutableBytes.length ≤ 255 ∧ Follows p.1 s ∧ busBytes s.trace = p.2)
    (fun p s status held => by
      refine ⟨held.1, held.2.1.serveAddress status, ?_⟩
      obtain ⟨address, named⟩ := serveAddress_eq s status
      rw [named]
      exact held.2.2)
    (fun p s f status held => by
      have done := held.2.1.frame held.1 f status
      exact ⟨by simpa [stepWire] using held.1, done.1, by rw [done.2, held.2.2, stepWire]⟩)
    (a := (g, busBytes s.trace)) frames ⟨small, h, rfl⟩
  rw [run_stepWire] at all
  exact all.2

end Slave

namespace I2CRegisterSlave
variable {ν : Type}

def registers (slave : I2CRegisterSlave ν) (memory : Memory RegisterObject UInt8) : Registers where
  mutableBytes := memory.slice ⟨.mutableBuffer, 0⟩ slave.mutableBufferSize
  readOnlyBytes := memory.slice ⟨.readOnlyBuffer, 0⟩ slave.readOnlyBufferSize

variable (slave : I2CRegisterSlave ν) (memory : Memory RegisterObject UInt8) (address : UInt8)

theorem follows_listen :
    Slave.Follows (slave.registers memory) (listen (construct slave memory) address) ∧
      busBytes (listen (construct slave memory) address).trace = [] := by
  have stored : (slave.registers memory).Stored memory := by
    simp [Registers.Stored, registers]
  have reply := Reply.follows_waitForRegNum (g := slave.registers memory)
    { app := slave, memory := memory } rfl (by simp [registers])
    (by simp [registers]) stored
  exact Slave.follows_invoke
    (s := (((construct slave memory).listen (.listen address)).afterReceive
      (some afterReceive)).afterTransmit (some afterTransmit))
    (fun _ memory slave =>
      ({ app := slave, memory := memory } : RegisterReply ν).waitForRegNum)
    rfl rfl rfl rfl reply

/-- The state in which a run of complete frames leaves driver and register slave. -/
def afterFrames (frames : List Frame) : Slave RegisterObject (I2CRegisterSlave ν) :=
  run Slave.isr (listen (construct slave memory) address) (Frame.calls frames)

/-- With no condition on the frames, driver and register slave refine the automaton in which a
discarded write changes nothing. -/
theorem follows_afterFrames (frames : List Frame) (small : slave.mutableBufferSize ≤ 255) :
    Slave.Follows (run Registers.stepDriver (slave.registers memory)
        (frames.map (·.transfer))) (slave.afterFrames memory address frames) ∧
      busBytes (slave.afterFrames memory address frames).trace =
        Registers.wires Registers.stepDriver (slave.registers memory)
          (frames.map (·.transfer)) := by
  have start := slave.follows_listen memory address
  have small' : (slave.registers memory).mutableBytes.length ≤ 255 := by
    simpa [registers] using small
  have all := start.1.calls small' frames
  rw [start.2, List.nil_append] at all
  exact all

/-- What the master reads and what the two arrays hold after a run of complete frames. -/
def Agrees (next : Registers → Transfer → Registers) (frames : List Frame) : Prop :=
  let transfers := frames.map (·.transfer)
  let s := slave.afterFrames memory address frames
  Registers.received transfers (busBytes s.trace) =
      Registers.outputs next (slave.registers memory) transfers ∧
    s.memory.slice ⟨.mutableBuffer, 0⟩ slave.mutableBufferSize =
      (run next (slave.registers memory) transfers).mutableBytes ∧
    s.memory.slice ⟨.readOnlyBuffer, 0⟩ slave.readOnlyBufferSize =
      (run next (slave.registers memory) transfers).readOnlyBytes

/-- No frame changes the size of an array. -/
theorem length_registers (ts : List Transfer) :
    (run Registers.stepDriver (slave.registers memory) ts).mutableBytes.length =
        slave.mutableBufferSize ∧
      (run Registers.stepDriver (slave.registers memory) ts).readOnlyBytes.length =
        slave.readOnlyBufferSize := by
  refine run_invariant' (I := fun g : Registers =>
    g.mutableBytes.length = slave.mutableBufferSize ∧
      g.readOnlyBytes.length = slave.readOnlyBufferSize) ?_ ts (by simp [registers])
  intro g t h
  simpa using h

theorem agrees_stepDriver (frames : List Frame) (small : slave.mutableBufferSize ≤ 255) :
    slave.Agrees memory address Registers.stepDriver frames := by
  obtain ⟨follows, bytes⟩ := slave.follows_afterFrames memory address frames small
  refine ⟨by rw [bytes, Registers.received_wires], ?_⟩
  obtain ⟨mutableSize, readOnlySize⟩ := slave.length_registers memory (frames.map (·.transfer))
  have stored := follows.stored
  unfold Registers.Stored at stored
  rw [mutableSize, readOnlySize] at stored
  exact stored

/-- The documented protocol, for every run in which no write frame directly follows a one-byte
frame that selects a register past the mutable array. -/
theorem register_protocol (frames : List Frame) (small : slave.mutableBufferSize ≤ 255)
    (obeyed : Along Registers.step (fun g t => g.discards t = false) (slave.registers memory)
      (frames.map (·.transfer))) :
    slave.Agrees memory address Registers.step frames := by
  have agrees := slave.agrees_stepDriver memory address frames small
  obtain ⟨outputs, final⟩ := Registers.outputs_stepDriver obeyed
  unfold Agrees at agrees ⊢
  dsimp only at agrees ⊢
  rw [← outputs, ← final]
  exact agrees

/-- Select register 1 of a slave with one mutable byte, try to write to it, then write 0x55 to
register 0. -/
def writeAfterDiscard : List Frame :=
  [Transfer.write 1 [], .write 0xAA [], .write 0 [0x55]].map fun transfer =>
    { sasr := 0, transfer := transfer, stop := true, ending := .prompt }

/-- The second frame is discarded without the end-of-frame callback, so the third one is taken
for data as well and is lost. -/
theorem register_protocol_broken :
    ¬ ({ mutableBufferSize := 1, readOnlyBufferSize := 0, app := () } :
      I2CRegisterSlave Unit).Agrees (fun _ _ => 0) 0x2D Registers.step writeAfterDiscard := by
  intro agrees
  exact absurd agrees.2.1 (by decide)

theorem register_protocol_instance :
    ({ mutableBufferSize := 2, readOnlyBufferSize := 0, app := () } :
      I2CRegisterSlave Unit).Agrees (fun _ _ => 0) 0x2D Registers.step writeAfterDiscard :=
  register_protocol _ _ _ _ (by decide) (by decide)

end I2CRegisterSlave
end TeensyI2C
