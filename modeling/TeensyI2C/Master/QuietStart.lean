import TeensyI2C.Master.Delivery
import TeensyI2C.Master.PortEffects

/-!
A call that finds the driver ready and nothing left of earlier transactions on the port.
-/

namespace TeensyI2C
open ObjectMemory Interference MasterPort

namespace MasterPort
variable {written : List Command}

/-- The hardware has been told of a call, and nothing else is going on. -/
structure Announced (written : List Command) (sdf : Bool) (p : MasterPort) : Prop
    extends Blank p where
  awaiting : p.awaitingStart = true
  unseen : p.stopSeen = false
  sdf : p.sdf = sdf
  written : p.written = written
  crossed : p.crossed = []
  overflowed : p.overflowed = false

theorem stable_written (written : List Command) : Stable apply fun p => p.written = written := by
  intro p e same
  cases e <;> grind [apply, fetch, ack, nak, receiveByte, autoStop, stopDone, arbitrationLost]

theorem stable_announced (written : List Command) (sdf : Bool) :
    Stable apply (Announced written sdf) := by
  intro p e announced
  refine ⟨stable_blank p e announced.toBlank, ?_, ?_, ?_,
    stable_written _ p e announced.written, ?_, ?_⟩ <;>
  · obtain ⟨⟨tx, rx, executing, mbf⟩, awaiting, unseen, sdf, _, crossed, overflowed⟩ := announced
    cases e <;> grind [apply, fetch, ack, nak, offered, receiveByte, autoStop, stopDone,
      arbitrationLost]

end MasterPort

namespace Master
variable {O : Type} [Inhabited O] {s : Master O}

/-- What follows the last byte of a transaction. -/
def closingWords (sendStop : Bool) : List Command := if sendStop then [.stop] else []

/-- An ISR call finds no error. -/
def Unfailing (s : Master O) (a : Step O) : Prop :=
  s.Interrupts a → (s.atSnapshot a).port.msr.failed = false

instance [DecidableEq O] (s : Master O) (a : Step O) : Decidable (s.Unfailing a) := by
  unfold Unfailing Interrupts
  infer_instance

/-- What neither the hardware nor the preparations of a START destroy holds when it is written. -/
theorem sendStart_keeps {P : MasterPort → Prop} (stable : Stable MasterPort.apply P)
    (cleared : ∀ msr p, P p → P (clearFlags msr p)) (enabled : ∀ p, P p → P (setMen true p))
    (begun : P s.port.expectStart) (address direction : UInt8) :
    ∃ p : MasterPort, P p ∧ p.mcrMen = true ∧
      (s.sendStart address direction).port =
        p.send (.start (((address &&& 0x7F) <<< 1) ||| direction)) := by
  let expecting : Master O := { s with bus.device := s.port.expectStart }
  let prepared := expecting.clearAllMsrFlags.access (setMen true)
  have looked : P expecting.pass.port := pass_stable stable begun
  have quiet : P expecting.clearAllMsrFlags.port := stable.access (cleared _) looked
  have ready : P prepared.port ∧ prepared.port.mcrMen = true :=
    ⟨stable.access enabled quiet, rfl⟩
  obtain ⟨kept, men⟩ := pass_stable (stable.and stable_mcrMen) ready
  exact ⟨prepared.pass.port, kept, men, rfl⟩

theorem sendStart_awaiting (address direction : UInt8) (empty : s.port.txFifo = []) :
    ∃ p : MasterPort, (p.Awaiting [] ∧ p.stopSeen = false) ∧ p.mcrMen = true ∧
      (s.sendStart address direction).port =
        p.send (.start (((address &&& 0x7F) <<< 1) ||| direction)) :=
  sendStart_keeps stable_expecting
    (fun _ _ ⟨⟨awaiting, queued⟩, unseen⟩ => ⟨⟨awaiting, queued⟩, unseen⟩)
    (fun _ ⟨⟨awaiting, queued⟩, unseen⟩ => ⟨⟨awaiting, queued⟩, unseen⟩)
    ⟨⟨rfl, empty⟩, rfl⟩ address direction

theorem start_blank (ready : s.state.ready = true) (blank : s.port.Blank)
    (address direction : UInt8) :
    ∃ t : Master O, t.port.Blank ∧ t.port.written = s.port.written ∧
      s.start address direction = (t.sendStart address direction, true) := by
  have passed := pass_stable stable_blank blank
  have looked := pass_stable (s := s.pass.prepare direction) stable_blank
    (show s.pass.port.Blank from passed)
  have again := pass_stable stable_blank looked
  have written : (s.pass.prepare direction).pass.pass.port.written = s.port.written :=
    pass_stable (stable_written _) <| pass_stable (stable_written _) <|
      show s.pass.port.written = _ from pass_stable (stable_written _) rfl
  have finished : s.pass.finished = true := by
    simp [Master.finished, ready, passed.mbf]
  refine ⟨(s.pass.prepare direction).pass.pass, again, written, ?_⟩
  unfold start startTransaction
  dsimp only
  rw [if_neg (by simp [finished]),
    if_neg (by simp [txFifoCount, rxFifoCount, looked.txFifo, again.rxFifo])]

theorem start_blank_error (ready : s.state.ready = true) (blank : s.port.Blank)
    (address direction : UInt8) : (s.start address direction).1.error = .ok := by
  obtain ⟨t, _, _, started⟩ := start_blank ready blank address direction
  obtain ⟨e, state, ignore, driver, _, effect⟩ := start_driver s address direction
  rw [started, if_pos rfl] at effect
  rw [driver]
  exact effect.1

theorem writeAsync_blank (ready : s.state.ready = true) (blank : s.port.Blank) (address : UInt8)
    (buffer : Pointer O) {numBytes : Nat} (some : numBytes ≠ 0) (sendStop : Bool) :
    (s.writeAsync address buffer numBytes sendStop).error = .ok := by
  obtain ⟨t, _, _, started⟩ :=
    start_blank (s := { s with calls := s.calls + 1 }) ready blank address masterWrite
  have error :=
    start_blank_error (s := { s with calls := s.calls + 1 }) ready blank address masterWrite
  unfold writeAsync
  dsimp only
  rw [started, if_neg (by simp), if_neg some]
  rwa [started] at error

theorem readAsync_blank (ready : s.state.ready = true) (blank : s.port.Blank) (address : UInt8)
    (buffer : Pointer O) {numBytes : Nat} (some : numBytes ≠ 0)
    (short : numBytes ≤ maxMasterReadLength) (sendStop : Bool) :
    ∃ t : Master O, t.port.Blank ∧ t.port.written = s.port.written ∧
      (t.sendStart address masterRead).toMasterDriver =
        { s.toMasterDriver with
          calls := s.calls + 1, error := .ok, state := .starting, ignoreTdf := true } ∧
      s.readAsync address buffer numBytes sendStop =
        let u := ((t.sendStart address masterRead).initialiseBuff buffer numBytes).access
          (send (.receive (UInt8.ofNat (numBytes - 1))))
        if sendStop then u.access (send .stop) else u := by
  let counted : Master O := { s with calls := s.calls + 1 }
  obtain ⟨t, quiet, written, started⟩ := start_blank (s := counted) ready blank address masterRead
  have driver := (start_accepted (start_blank_error (s := counted) ready blank address
    masterRead)).2
  rw [started] at driver
  refine ⟨t, quiet, written, driver, ?_⟩
  unfold readAsync
  dsimp only
  rw [if_neg (Nat.not_lt.mpr short), started, if_neg (by simp), if_neg some]

theorem sendStart_announced (blank : s.port.Blank) (address direction : UInt8) :
    ∃ p : MasterPort, p.Announced s.port.written false ∧ p.mcrMen = true ∧
      (s.sendStart address direction).port =
        p.send (.start (((address &&& 0x7F) <<< 1) ||| direction)) := by
  let expecting : Master O := { s with bus.device := s.port.expectStart }
  have told : expecting.port.Announced s.port.written s.port.sdf :=
    ⟨⟨blank.txFifo, blank.rxFifo, blank.executing, blank.mbf⟩, rfl, rfl, rfl, rfl, rfl, rfl⟩
  have looked : expecting.pass.port.Announced s.port.written s.port.sdf :=
    pass_stable (stable_announced _ _) told
  have again := pass_stable (stable_announced _ _) looked
  have taken : (expecting.pass.pass.port.sdf && !expecting.pass.port.sdf) = false := by
    rw [again.sdf, looked.sdf, Bool.and_not_self]
  have cleared : expecting.clearAllMsrFlags.port.Announced s.port.written false :=
    ⟨⟨again.txFifo, again.rxFifo, again.executing, again.mbf⟩, again.awaiting, again.unseen,
      taken, again.written, again.crossed, again.overflowed⟩
  have passed := pass_stable (stable_announced _ _) cleared
  let enabled := expecting.clearAllMsrFlags.access (setMen true)
  have ready : enabled.port.Announced s.port.written false ∧ enabled.port.mcrMen = true :=
    ⟨⟨⟨passed.txFifo, passed.rxFifo, passed.executing, passed.mbf⟩, passed.awaiting,
      passed.unseen, passed.sdf, passed.written, passed.crossed, passed.overflowed⟩, rfl⟩
  obtain ⟨announced, men⟩ := pass_stable ((stable_announced _ _).and stable_mcrMen) ready
  exact ⟨enabled.pass.port, announced, men, rfl⟩

end Master
end TeensyI2C
