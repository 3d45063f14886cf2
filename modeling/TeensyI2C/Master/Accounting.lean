import Mathlib.Algebra.GroupWithZero.Nat
import TeensyI2C.Master.QuietStart
import TeensyI2C.Master.TransmitFifo

/-!
Where the data bytes of a call are: in the transmit FIFO, on their way, across the bus, or in the
receive FIFO. What the hardware does moves them on, and so does the driver as long as it throws
nothing away.
-/

namespace TeensyI2C
open ObjectMemory Interference MasterPort

/-- How many bytes a command asks the slave for. -/
def Command.asked : Command → Nat
  | .receive data => data.toNat + 1
  | .start _ | .transmit _ | .stop => 0

/-- How many data bytes a command sends to the slave. -/
def Command.sends : Command → Nat
  | .transmit _ => 1
  | .start _ | .receive _ | .stop => 0

namespace MasterPort

/-- How many bytes the slave is still to send. -/
def owed (p : MasterPort) : Nat :=
  p.executing.elim 0 Command.asked + (p.txFifo.map Command.asked).sum

/-- How many data bytes are in the transmit FIFO. -/
def queuedBytes (p : MasterPort) : Nat := (p.txFifo.map Command.sends).sum

/-- How many data bytes of the last call have not been answered yet. Before the START of the call
the master may be busy with the last byte of another one. -/
def unsent (p : MasterPort) : Nat :=
  (if p.awaitingStart then 0 else p.executing.elim 0 Command.sends) + p.queuedBytes

/-- Nothing of an earlier read has been left on the port. -/
structure Unread (p : MasterPort) : Prop where
  rxFifo : p.rxFifo = []
  owed : p.owed = 0

instance (p : MasterPort) : Decidable p.Unread :=
  decidable_of_iff (p.rxFifo = [] ∧ p.owed = 0) ⟨fun ⟨rx, owed⟩ => ⟨rx, owed⟩, fun h => ⟨h.1, h.2⟩⟩

/-- The START of a call comes before everything else that waits in the FIFO. -/
def StartFirst (p : MasterPort) : Prop :=
  p.awaitingStart = true → ∃ data rest, p.txFifo = .start data :: rest

/-- A call that has moved no data byte and has none to move. -/
structure Dataless (p : MasterPort) : Prop extends Unread p where
  crossed : p.crossed = []
  unsent : p.unsent = 0

/-- A write that has put `count` bytes into the FIFO. A byte is lost only with the arbitration or
by a FIFO error. -/
structure Sends (count : Nat) (p : MasterPort) : Prop extends Unread p where
  first : p.StartFirst
  counted : p.alf = true ∨ p.fef = true ∨ p.crossed.length + p.unsent = count

/-- A read of at most `n` bytes, of which `stored` have been taken out of the FIFO. -/
structure Receives (stored : List UInt8) (n : Nat) (p : MasterPort) : Prop where
  received : p.crossed = stored ++ p.rxFifo
  within : p.crossed.length + p.owed ≤ n
  unsent : p.unsent = 0
  waits : p.awaitingStart = true →
    p.crossed = [] ∧ p.executing.elim 0 Command.asked = 0 ∧ (p.owed = 0 ∨ p.StartFirst)

attribute [local grind] apply ack nak offered receiveByte autoStop stopDone arbitrationLost
  crossing Command.asked Command.sends Command.payload

@[local grind →] theorem executing_of_stopsByItself {p : MasterPort}
    (h : p.stopsByItself = true) : p.executing = none := by
  unfold stopsByItself at h
  rw [Bool.and_eq_true, Bool.and_eq_true] at h
  exact Option.isNone_iff_eq_none.mp h.1.2

theorem stable_unread : Stable apply Unread := by
  rintro p e ⟨rx, none⟩
  cases e <;> grind [Unread, owed, fetch]

theorem stable_startFirst : Stable apply StartFirst := by
  intro p e first
  cases e <;> grind [StartFirst, fetch]

theorem stable_dataless : Stable apply Dataless := by
  rintro p e ⟨unread, crossed, unsent⟩
  refine ⟨stable_unread p e unread, ?_, ?_⟩ <;>
  · obtain ⟨rx, none⟩ := unread
    cases e <;> grind [owed, MasterPort.unsent, queuedBytes, fetch]

theorem stable_sends (count : Nat) : Stable apply (Sends count) := by
  rintro p e ⟨unread, first, counted⟩
  refine ⟨stable_unread p e unread, stable_startFirst p e first, ?_⟩
  obtain ⟨rx, none⟩ := unread
  cases e <;> grind [owed, MasterPort.unsent, queuedBytes, fetch, StartFirst]

theorem stable_receives (stored : List UInt8) (n : Nat) : Stable apply (Receives stored n) := by
  rintro p e ⟨received, within, unsent, waits⟩
  cases e <;> grind [Receives, owed, MasterPort.unsent, queuedBytes, fetch, StartFirst, toNat_pred]

theorem stable_queuedBytes : Stable apply fun p => p.queuedBytes = 0 := by
  intro p e none
  cases e <;> grind [queuedBytes, fetch]

theorem stable_crossed :
    Stable apply fun p => p.awaitingStart = false ∧ p.crossed ≠ [] := by
  rintro p e ⟨begun, some⟩
  cases e <;> grind [fetch, List.append_eq_nil_iff]

/-- What comes into the FIFO after the START of a call has come for the call. -/
theorem stable_uncrossed :
    Stable apply fun p => p.awaitingStart = false ∧ (p.crossed = [] → p.rxFifo = []) := by
  rintro p e ⟨begun, empty⟩
  cases e <;> grind [fetch, List.append_eq_nil_iff]

/-! ### What the driver writes -/

variable {p : MasterPort} {f : MasterPort → MasterPort} {count n : Nat} {stored : List UInt8}

@[simp] theorem owed_send (command : Command) (p : MasterPort) :
    (p.send command).owed = p.owed + command.asked := by
  simp [owed, send, Nat.add_assoc]

@[simp] theorem unsent_send (command : Command) (p : MasterPort) :
    (p.send command).unsent = p.unsent + command.sends := by
  simp [unsent, queuedBytes, send, Nat.add_assoc]
  rfl

theorem unsent_resetTxFifo (empty : p.queuedBytes = 0) : p.resetTxFifo.unsent = p.unsent := by
  rw [unsent, unsent, empty]
  rfl

theorem Unread.of_mem (unread : p.Unread) (listed : f ∈ send .stop :: Master.registerWrites) :
    (f p).Unread := by
  obtain ⟨rx, none⟩ := unread
  simp only [Master.registerWrites, List.mem_cons, List.not_mem_nil, or_false] at listed
  rcases listed with rfl | rfl | rfl | rfl | rfl | rfl | rfl | rfl | rfl | rfl | rfl | rfl | rfl
  case inl => exact ⟨rx, (owed_send .stop p).trans none⟩
  case inr.inr.inr.inl => exact ⟨rx, (Nat.add_eq_zero_iff.mp none).1⟩
  case inr.inr.inr.inr.inl => exact ⟨rfl, none⟩
  case inr.inr.inr.inr.inr.inl => exact ⟨by simp [takeReceived, rx], none⟩
  all_goals exact ⟨rx, none⟩

theorem crossed_of_mem (listed : f ∈ send .stop :: Master.registerWrites) :
    (f p).crossed = p.crossed ∧ (f p).awaitingStart = p.awaitingStart ∧
      (p.rxFifo = [] → (f p).rxFifo = []) := by
  simp only [Master.registerWrites, List.mem_cons, List.not_mem_nil, or_false] at listed
  rcases listed with rfl | rfl | rfl | rfl | rfl | rfl | rfl | rfl | rfl | rfl | rfl | rfl | rfl
  case inr.inr.inr.inr.inl => exact ⟨rfl, rfl, fun _ => rfl⟩
  case inr.inr.inr.inr.inr.inl => exact ⟨rfl, rfl, fun rx => by simp [takeReceived, rx]⟩
  all_goals exact ⟨rfl, rfl, id⟩

theorem Dataless.of_mem (dataless : p.Dataless)
    (listed : f ∈ send .stop :: Master.registerWrites) : (f p).Dataless := by
  have unread := dataless.toUnread.of_mem listed
  obtain ⟨_, crossed, none⟩ := dataless
  simp only [Master.registerWrites, List.mem_cons, List.not_mem_nil, or_false] at listed
  rcases listed with rfl | rfl | rfl | rfl | rfl | rfl | rfl | rfl | rfl | rfl | rfl | rfl | rfl
  case inl => exact ⟨unread, crossed, (unsent_send .stop p).trans none⟩
  case inr.inr.inr.inl =>
    exact ⟨unread, crossed, (unsent_resetTxFifo (Nat.add_eq_zero_iff.mp none).2).trans none⟩
  all_goals exact ⟨unread, crossed, none⟩

theorem StartFirst.send (first : p.StartFirst) (command : Command) :
    (p.send command).StartFirst := by
  intro awaiting
  obtain ⟨data, rest, queued⟩ := first awaiting
  exact ⟨data, rest ++ [command], by simp [MasterPort.send, queued]⟩

theorem Sends.of_mem (sends : p.Sends count)
    (listed : f ∈ [send .stop, setTdie false, setTdie true, setMen false, clearNdf, clearPltf,
      clearSdf]) : (f p).Sends count := by
  obtain ⟨⟨rx, none⟩, first, counted⟩ := sends
  simp only [List.mem_cons, List.not_mem_nil, or_false] at listed
  rcases listed with rfl | rfl | rfl | rfl | rfl | rfl | rfl
  case inl =>
    exact ⟨⟨rx, (owed_send .stop p).trans none⟩, first.send .stop, by rwa [unsent_send]⟩
  all_goals exact ⟨⟨rx, none⟩, first, counted⟩

theorem Sends.transmit (sends : p.Sends count) (data : UInt8) :
    (p.send (.transmit data)).Sends (count + 1) where
  rxFifo := sends.rxFifo
  owed := (owed_send _ p).trans sends.owed
  first := sends.first.send _
  counted := by
    rw [unsent_send]
    exact sends.counted.imp_right (Or.imp_right fun all => congrArg (· + 1) all)

theorem Sends.abort (sends : p.Sends count) (begun : p.awaitingStart = false)
    (empty : p.queuedBytes = 0) : p.resetTxFifo.Sends count where
  rxFifo := sends.rxFifo
  owed := (Nat.add_eq_zero_iff.mp sends.owed).1
  first := fun awaiting => absurd awaiting (by simp [resetTxFifo, begun])
  counted := by
    rw [unsent_resetTxFifo empty]
    exact sends.counted

theorem Receives.of_mem (receives : p.Receives stored n)
    (listed : f ∈ [setTdie false, setMen false, clearSdf]) : (f p).Receives stored n := by
  obtain ⟨received, within, unsent, waits⟩ := receives
  simp only [List.mem_cons, List.not_mem_nil, or_false] at listed
  rcases listed with rfl | rfl | rfl <;> exact ⟨received, within, unsent, waits⟩

theorem Receives.take (receives : p.Receives stored n) (some : p.rxFifo ≠ []) :
    p.takeReceived.Receives (stored ++ [p.rxFifo.headD 0]) n where
  received := received_take receives.received some
  within := receives.within
  unsent := receives.unsent
  waits := receives.waits

/-- The call has written its START and nothing else. -/
structure Begins (p : MasterPort) : Prop extends Dataless p where
  first : p.StartFirst

theorem stable_begins : Stable apply Begins :=
  fun p e ⟨dataless, first⟩ => ⟨stable_dataless p e dataless, stable_startFirst p e first⟩

theorem Begins.sends (begins : p.Begins) : p.Sends 0 where
  toUnread := begins.toUnread
  first := begins.first
  counted := .inr (.inr (by rw [begins.crossed, begins.unsent]; rfl))

theorem Begins.ask (begins : p.Begins) {data : UInt8} (short : data.toNat + 1 ≤ n) :
    (p.send (.receive data)).Receives [] n where
  received := begins.crossed.trans begins.rxFifo.symm
  within := by
    rw [owed_send, begins.owed]
    change p.crossed.length + _ ≤ n
    rw [begins.crossed, List.length_nil, Nat.zero_add, Nat.zero_add]
    exact short
  unsent := (unsent_send _ p).trans begins.unsent
  waits := fun _ => ⟨begins.crossed, (Nat.add_eq_zero_iff.mp begins.owed).1,
    .inr (begins.first.send _)⟩

theorem Receives.send_stop (receives : p.Receives stored n) :
    (p.send .stop).Receives stored n where
  received := receives.received
  within := by
    rw [owed_send]
    exact receives.within
  unsent := (unsent_send _ p).trans receives.unsent
  waits := by
    intro awaiting
    obtain ⟨none, free, rest⟩ := receives.waits awaiting
    exact ⟨none, free, rest.imp (fun none => (owed_send _ p).trans none) fun first => first.send _⟩

end MasterPort

namespace Master
variable {O : Type} [Inhabited O] {s : Master O} {address direction : UInt8}

theorem begins_start (bound : s.port.txFifo.length ≤ numFifos) (unread : s.port.Unread)
    (accepted : (s.start address direction).2 = true) :
    (s.start address direction).1.port.Begins := by
  rcases start_cases address direction bound with ⟨_, t, moves, empty, started⟩ | ⟨refused, _⟩
  · have still : t.port.Unread := moves.keeps stable_unread (fun _ none => none.elim) unread
    have expecting : t.port.expectStart.Dataless ∧ t.port.expectStart.txFifo.length ≤ 0 :=
      ⟨⟨⟨still.rxFifo, still.owed⟩, rfl, by simp [unsent, queuedBytes, expectStart, empty]⟩,
        by simp [expectStart, empty]⟩
    obtain ⟨p, ⟨dataless, short⟩, _, sent⟩ := sendStart_keeps
      (stable_dataless.and (stable_txFifo 0))
      (fun _ _ kept => ⟨⟨⟨kept.1.rxFifo, kept.1.owed⟩, kept.1.crossed, kept.1.unsent⟩, kept.2⟩)
      (fun _ kept => ⟨⟨⟨kept.1.rxFifo, kept.1.owed⟩, kept.1.crossed, kept.1.unsent⟩, kept.2⟩)
      expecting address direction
    have queued : p.txFifo = [] := List.eq_nil_of_length_eq_zero (Nat.le_zero.mp short)
    rw [started, sent]
    exact {
      rxFifo := dataless.rxFifo
      owed := (owed_send _ p).trans dataless.owed
      crossed := dataless.crossed
      unsent := (unsent_send _ p).trans dataless.unsent
      first := fun _ => ⟨_, [], congrArg (· ++ [Command.start _]) queued⟩ }
  · simp [accepted] at refused

end Master
end TeensyI2C
