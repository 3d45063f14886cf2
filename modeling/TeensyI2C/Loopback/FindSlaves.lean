import TeensyI2C.I2CDriverWire
import TeensyI2C.Loopback.Transfers
import TeensyI2C.Master.Probes

/-!
The sketch that looks for slaves by probing one address after the other.
-/

namespace TeensyI2C
open ObjectMemory Interference EventMachine

namespace Master
variable {O : Type} [Inhabited O] [DecidableEq O]

/-- `Wire.endTransmission()` for each address: 0 is a slave, 2 is none, anything else is
unexpected. -/
def scan (s : Master O) (probes : List (Probe O)) : List UInt8 :=
  observe probe (fun s => toWireResult s.error) s probes

/-- The START of a probe is acknowledged if there is a slave at the address. -/
def FindsOut (present : BusAddress → Bool) (s : Master O) (p : Probe O) : Prop :=
  (s.probe p).port.acknowledged ≠ [] ↔ present (sentAddress p.address) = true

instance (present : BusAddress → Bool) (s : Master O) (p : Probe O) :
    Decidable (s.FindsOut present p) := by
  unfold FindsOut
  infer_instance

omit [DecidableEq O] in
theorem idle_begin (s : Master O) (frequency : Nat) : (s.begin frequency).port.Idle := by
  have reset : s.stop.port.Idle := ⟨by simp [stop, access, Shared.access], rfl, rfl, rfl⟩
  have clocked : (s.stop.setClock frequency).port.Idle := by
    obtain ⟨stops, rxFifo, executing, mbf⟩ := pass_stable MasterPort.stable_idle reset
    exact ⟨stops, rxFifo, executing, mbf⟩
  have enabled := MasterPort.stable_idle.access
    (f := fun p => { p with mier :=
      { rdie := true, sdie := true, ndie := true, alie := true, feie := true, pltie := true } })
    (fun _ idle => { idle with }) clocked
  exact MasterPort.stable_idle.access (f := fun p => { p with irqEnabled := true })
    (fun _ idle => { idle with }) enabled

theorem quiescent_begin {s : Master O} (bound : s.port.txFifo.length ≤ numFifos) (frequency : Nat)
    (meanwhile : List (List MasterPort.BusEvent)) :
    (s.step { action := .begin frequency, meanwhile := meanwhile }).Quiescent :=
  ⟨idle_begin (s.schedule meanwhile) frequency, txFifo_step _ bound⟩

theorem Quiescent.scan {s : Master O} (quiescent : s.Quiescent) {probes : List (Probe O)}
    {present : BusAddress → Bool} (completed : Along probe Completed s probes)
    (findsOut : Along probe (FindsOut present) s probes) :
    s.scan probes = probes.map fun p => if present (sentAddress p.address) then 0 else 2 := by
  induction probes generalizing s with
  | nil => rfl
  | cons p probes ih =>
      obtain ⟨reports, quiescent⟩ := probe_reports quiescent completed.1
      have first : toWireResult (s.probe p).error =
          if present (sentAddress p.address) then 0 else 2 := by
        have found := findsOut.1
        unfold FindsOut at found
        rcases reports with ⟨ok, taken⟩ | ⟨nak, refused⟩
        · rw [ok, if_pos (found.mp (by simp [taken]))]
          rfl
        · rw [nak, if_neg (fun here => found.mpr here refused)]
          rfl
      rw [List.map_cons, ← first, ← ih quiescent completed.2 findsOut.2]
      rfl

/-- After `begin` the scan is right about every address, however the hardware, the service routine
and the sketch take turns. -/
theorem scan_finds_slaves (memory : Memory O UInt8) (history : List (Step O)) (frequency : Nat)
    (meanwhile : List (List MasterPort.BusEvent)) (probes : List (Probe O))
    (present : BusAddress → Bool) :
    let s := (run step (fresh memory) history).step
      { action := .begin frequency, meanwhile := meanwhile }
    Along probe Completed s probes → Along probe (FindsOut present) s probes →
      s.scan probes = probes.map fun p => if present (sentAddress p.address) then 0 else 2 :=
  (quiescent_begin (txFifo_run memory history) frequency meanwhile).scan

/-- The hardware carries out the START and the STOP, and the ISR finds the STOP. -/
def acknowledgedProbe (address : UInt8) : Probe Bool where
  address := address
  buffer := ⟨true, 0⟩
  steps := [.hardware .fetch, .hardware .ack, .hardware .fetch, .hardware .stopDone, .isr].map
    Action.alone

/-- The ISR finds the NAK before the STOP, and drops the STOP that is in the FIFO for one of its
own. -/
def refusedProbe (address : UInt8) : Probe Bool where
  address := address
  buffer := ⟨true, 0⟩
  steps := [.hardware .fetch, .hardware .nak, .isr, .hardware .fetch, .hardware .stopDone, .isr].map
    Action.alone

theorem scan_finds_slaves_two :
    scan (run step (fresh fun _ _ => 0) powerUp) [refusedProbe 0x2C, acknowledgedProbe 0x2D] =
      [2, 0] :=
  scan_finds_slaves (fun _ _ => 0) [] 100000 [] [refusedProbe 0x2C, acknowledgedProbe 0x2D]
    (Slave.ListenForm.listen 0x2D).covers (by decide +kernel) (by decide +kernel)

end Master
end TeensyI2C
