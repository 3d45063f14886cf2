import TeensyI2C.RegisterSlave.Protocol
import TeensyI2C.Slave.HeardFrames

/-!
The register slave at its port. The service routine may find a frame's end, the next address and
the first bytes together or one after another: the automaton accounts for all of it.
-/

namespace TeensyI2C
open ObjectMemory EventMachine

namespace I2CRegisterSlave
variable {ν : Type}

/-- The automaton is an account of the driver and its register slave. -/
theorem account : Account Registers.stepDriver Registers.wire
    fun g (s : Slave RegisterObject (I2CRegisterSlave ν)) =>
      g.mutableBytes.length ≤ 255 ∧ Slave.Follows g s where
  idle held := held.2.idle
  address held status := ⟨held.1, held.2.serveAddress status⟩
  frame := by
    intro g s held t status
    have done := held.2.frame held.1 ⟨0, t, true, .prompt⟩ status
    rw [Transfer.dataCalls_eq] at done
    exact ⟨by simpa using held.1, done.1⟩
  answers := by
    intro g s held t
    have done := (held.2.frame held.1 ⟨0, t, true, .prompt⟩ {}).2
    rw [Transfer.dataCalls_eq, Slave.busBytes_endOfFrame] at done
    exact done
  silent _ _ _ := rfl
  grows g count := by
    change g.output (count + 1) <+: g.output (count + 1 + 1)
    rw [← g.take_output (count + 1)]
    exact List.take_prefix _ _

/-- Once the slave has settled, its arrays hold the automaton's bytes. -/
theorem stored_registers {slave : I2CRegisterSlave ν} {memory : Memory RegisterObject UInt8}
    {x : Heard RegisterObject (I2CRegisterSlave ν)}
    (accounted : Heard.Accounted (fun g s => g.mutableBytes.length ≤ 255 ∧ Slave.Follows g s)
      Registers.stepDriver Registers.wire (slave.registers memory) x)
    (settled : x.Settled) :
    let g := run Registers.stepDriver (slave.registers memory) (transfers x.frames)
    x.bus.slave.memory.slice ⟨.mutableBuffer, 0⟩ slave.mutableBufferSize = g.mutableBytes ∧
      x.bus.slave.memory.slice ⟨.readOnlyBuffer, 0⟩ slave.readOnlyBufferSize =
        g.readOnlyBytes := by
  obtain ⟨mutableSize, readOnlySize⟩ := slave.length_registers memory (transfers x.frames)
  have stored := (accounted.settled settled).1.2.stored
  unfold Registers.Stored at stored
  rw [Heard.account, mutableSize, readOnlySize] at stored
  exact stored

/-- In every run of the bus and the service routine, the slave answers every read with the bytes of
the automaton, and the two arrays hold the automaton's bytes once the service routine has found the
end of the last frame. -/
theorem registers_on_bus (slave : I2CRegisterSlave ν) (memory : Memory RegisterObject UInt8)
    (address : UInt8) (small : slave.mutableBufferSize ≤ 255) (events : List BusEvent) :
    let x := run Heard.step (Heard.listening (listen (construct slave memory) address)) events
    let g := fun frames => run Registers.stepDriver (slave.registers memory) (transfers frames)
    (∀ newer f older count, x.frames = newer ++ f :: older → f.transfer = some (.read count) →
      f.answered <+: (g older).output (count + 1)) ∧
    (x.Settled →
      (∀ newer f older count, x.frames = newer ++ f :: older →
        f.transfer = some (.read count) → f.answered = (g older).output (count + 1)) ∧
      x.bus.slave.memory.slice ⟨.mutableBuffer, 0⟩ slave.mutableBufferSize =
          (g x.frames).mutableBytes ∧
      x.bus.slave.memory.slice ⟨.readOnlyBuffer, 0⟩ slave.readOnlyBufferSize =
          (g x.frames).readOnlyBytes) := by
  intro x g
  have start : (slave.registers memory).mutableBytes.length ≤ 255 ∧
      Slave.Follows (slave.registers memory) (listen (construct slave memory) address) :=
    ⟨by simpa [registers] using small, (slave.follows_listen memory address).1⟩
  have accounted := Heard.accounted_run account start events
  refine ⟨fun newer f older count frames read => accounted.answered_read frames read,
    fun settled => ⟨fun newer f older count frames read =>
      accounted.answered_settled settled frames read, stored_registers accounted settled⟩⟩

/-- Write 0x55 to register 1 and read it back. The service routine finds the end of the last write
together with the first request. -/
def writtenAndRead : List BusEvent :=
  [.address (sentAddress 0x2D) false, .byte 1, .interrupt, .byte 0x55, .interrupt, .finish true,
    .interrupt, .address (sentAddress 0x2D) false, .byte 1, .interrupt, .finish false,
    .address (sentAddress 0x2D) true, .request, .interrupt, .request, .interrupt, .finish true,
    .interrupt]

def twoRegisters : I2CRegisterSlave Unit :=
  { mutableBufferSize := 2, readOnlyBufferSize := 0, app := () }

def afterWrittenAndRead : Heard RegisterObject (I2CRegisterSlave Unit) :=
  run Heard.step (Heard.listening (listen (construct twoRegisters fun _ _ => 0) 0x2D))
    writtenAndRead

theorem registers_on_bus_instance :
    afterWrittenAndRead.frames.head?.map (·.answered) = some [0x55, 0] ∧
      afterWrittenAndRead.bus.slave.memory.slice ⟨.mutableBuffer, 0⟩ 2 = [0, 0x55] := by
  have settled : afterWrittenAndRead.Settled := by decide +kernel
  have frames : afterWrittenAndRead.frames =
      [⟨0x2D, true, some (.read 1), [0x55, 0]⟩, ⟨0x2D, false, some (.write 1 []), []⟩,
        ⟨0x2D, false, some (.write 1 [0x55]), []⟩] := by
    decide +kernel
  have automaton : (run Registers.stepDriver (twoRegisters.registers fun _ _ => 0)
      (transfers afterWrittenAndRead.frames)).mutableBytes = [0, 0x55] := by
    decide +kernel
  obtain ⟨-, stored, -⟩ :=
    (registers_on_bus twoRegisters (fun _ _ => 0) 0x2D (by decide) writtenAndRead).2 settled
  refine ⟨?_, stored.trans automaton⟩
  rw [frames]
  rfl

end I2CRegisterSlave
end TeensyI2C
