import TeensyI2C.Slave.HeardFrames

/-!
An application that keeps every message. It sets one receive buffer and one transmit buffer before
the slave starts to listen, and its `after_receive` callback copies what has come in.
-/

namespace TeensyI2C
open ObjectMemory EventMachine

namespace Slave
variable {O : Type} [Inhabited O] [DecidableEq O]

/-- The buffers of the application, which do not overlap. -/
structure MailBuffers (O : Type) where
  receive : Pointer O
  receiveSize : Nat
  transmit : Pointer O
  transmitSize : Nat
  separate : receive.object ≠ transmit.object

def keepMessage (buffers : MailBuffers O) (length : Nat) (_address : UInt16) :
    Callback O (List (List UInt8)) := fun _ memory inbox =>
  { app := inbox ++ [memory.slice buffers.receive length], memory := memory }

def mailbox (buffers : MailBuffers O) (memory : Memory O UInt8) (form : ListenForm) :
    Slave O (List (List UInt8)) :=
  let s : Slave O (List (List UInt8)) := { app := [], memory := memory }
  let s := s.setReceiveBuffer buffers.receive buffers.receiveSize
  let s := s.setTransmitBuffer buffers.transmit buffers.transmitSize
  let s := s.afterReceive (some (keepMessage buffers))
  s.listen form

/-- What the application keeps of a frame. -/
def kept (size : Nat) : Transfer → List (List UInt8)
  | .write first rest => if size = 0 then [] else [(first :: rest).take size]
  | .read _ => []

/-- What a read of the transmit buffer brings. -/
def offered (bytes : List UInt8) : Transfer → List UInt8
  | .write _ _ => []
  | .read count => padded bytes (count + 1)

/-- The driver between two frames, with `inbox` received so far. -/
structure Keeps (buffers : MailBuffers O) (bytes : List UInt8) (inbox : List (List UInt8))
    (s : Slave O (List (List UInt8))) : Prop where
  afterReceive : s.afterReceiveCallback = some (keepMessage buffers)
  beforeTransmit : s.beforeTransmitCallback = none
  afterTransmit : s.afterTransmitCallback = none
  idle : s.state = .idle
  receive : s.rxBuffer.buffer = buffers.receive ∧ s.rxBuffer.size = buffers.receiveSize
  transmit : s.txBuffer.buffer = buffers.transmit ∧ s.txBuffer.size = buffers.transmitSize
  bytes : s.memory.slice buffers.transmit buffers.transmitSize = bytes
  inbox : s.app = inbox

variable {buffers : MailBuffers O} {bytes : List UInt8} {inbox : List (List UInt8)}
  {s : Slave O (List (List UInt8))}

omit [DecidableEq O] in
theorem Keeps.serveAddress (keeps : Keeps buffers bytes inbox s) (status : SlaveStatus) :
    Keeps buffers bytes inbox (s.serveAddress status) := by
  obtain ⟨address, named⟩ := serveAddress_eq s status
  rw [named]
  exact { keeps with }

theorem Keeps.write (keeps : Keeps buffers bytes inbox s) (first : UInt8) (rest : List UInt8)
    (status : SlaveStatus) :
    let t := Transfer.write first rest
    Keeps buffers bytes (inbox ++ kept buffers.receiveSize t)
      ((run isr s t.calls).serveAddress status).endOfFrame := by
  intro t
  have calls : t.calls = Frame.dataCalls {} ⟨0, t, true, .prompt⟩ := rfl
  rw [calls]
  cases buffer : s.rxBuffer.initialised with
  | false =>
      have empty : buffers.receiveSize = 0 := by
        rw [← keeps.receive.2]
        simpa [I2CBuffer.initialised] using buffer
      have discarded : Keeps buffers bytes inbox
          (run isr s (Frame.dataCalls {} ⟨0, t, true, .prompt⟩)) := by
        rw [run_write_discarded rfl keeps.idle buffer]
        exact { keeps with }
      have named := discarded.serveAddress status
      rw [endOfFrame_idle named.idle, kept, if_pos empty, List.append_nil]
      exact named
  | true =>
      have some : buffers.receiveSize ≠ 0 := by
        rw [← keeps.receive.2]
        simpa [I2CBuffer.initialised, Nat.pos_iff_ne_zero] using buffer
      obtain ⟨address, error, trace, ended⟩ :=
        endOfFrame_run_write (f := ⟨0, t, true, .prompt⟩) rfl buffer keeps.afterReceive status
      dsimp only at ended
      rw [ended, keeps.receive.1, keeps.receive.2]
      refine ⟨keeps.afterReceive, keeps.beforeTransmit, keeps.afterTransmit, rfl,
        ⟨rfl, rfl⟩, keeps.transmit, ?_, ?_⟩
      · have other := s.memory.storeAll_other buffers.receive
          ((first :: rest).take buffers.receiveSize) (o := buffers.transmit.object)
          buffers.separate.symm
        exact (Memory.slice_congr other _ _).trans keeps.bytes
      · simp only [keepMessage, keeps.inbox, t, kept, some, if_false]
        have length : min (rest.length + 1) buffers.receiveSize =
            ((first :: rest).take buffers.receiveSize).length := by
          rw [List.length_take, List.length_cons, Nat.min_comm]
        rw [length, Memory.slice_storeAll_self _ _ _ _ (Nat.le_refl _),
          List.drop_eq_nil_of_le (by simp), List.append_nil]

theorem Keeps.read (keeps : Keeps buffers bytes inbox s) (count : Nat) (status : SlaveStatus) :
    Keeps buffers bytes inbox
      ((run isr s (Transfer.read count).calls).serveAddress status).endOfFrame := by
  have calls : (Transfer.read count).calls =
      Frame.dataCalls {} ⟨0, .read count, true, .prompt⟩ := by
    rw [Transfer.dataCalls_eq]
  obtain ⟨error, trailing, next, events, served, -⟩ :=
    run_read (f := ⟨0, .read count, true, .prompt⟩) rfl keeps.idle keeps.beforeTransmit
  obtain ⟨address, named⟩ := serveAddress_eq (run isr s (Transfer.read count).calls) status
  have transmitting :
      ((run isr s (Transfer.read count).calls).serveAddress status).state = .transmitting := by
    rw [named, calls, served]
  have attached :
      ((run isr s (Transfer.read count).calls).serveAddress status).afterTransmitCallback =
        none := by
    rw [named, calls, served]
    exact keeps.afterTransmit
  rw [endOfFrame_transmitting_none transmitting attached, named, calls, served]
  exact { keeps with idle := rfl }

/-- The list of the messages is an account of the driver and its application. -/
theorem mail_account (buffers : MailBuffers O) (bytes : List UInt8) :
    Account (fun inbox t => inbox ++ kept buffers.receiveSize t) (fun _ => offered bytes)
      (Keeps buffers bytes) where
  idle keeps := keeps.idle
  address keeps status := keeps.serveAddress status
  frame := by
    intro inbox s keeps t status
    cases t with
    | write first rest => exact keeps.write first rest status
    | read count =>
        rw [kept, List.append_nil]
        exact keeps.read count status
  answers := by
    intro inbox s keeps t
    cases t with
    | write first rest =>
        have calls : (Transfer.write first rest).calls =
            Frame.dataCalls {} ⟨0, .write first rest, true, .prompt⟩ := rfl
        rw [calls, offered, List.append_nil]
        cases buffer : s.rxBuffer.initialised with
        | false => rw [run_write_discarded rfl keeps.idle buffer]
        | true =>
            obtain ⟨error, events, served, silent⟩ :=
              run_write (f := ⟨0, .write first rest, true, .prompt⟩) rfl buffer
            rw [served, busBytes_append, silent, List.append_nil]
    | read count =>
        obtain ⟨error, trailing, next, events, served, sent⟩ :=
          run_read (f := ⟨0, .read count, true, .prompt⟩) rfl keeps.idle keeps.beforeTransmit
        rw [Transfer.dataCalls_eq] at served
        rw [served, busBytes_append, sent, keeps.transmit.1, keeps.transmit.2, keeps.bytes]
        rfl
  silent _ _ _ := rfl
  grows _ count := by
    change padded bytes (count + 1) <+: padded bytes (count + 1 + 1)
    rw [← take_padded bytes (count + 1)]
    exact List.take_prefix _ _

omit [DecidableEq O] in
theorem keeps_mailbox (buffers : MailBuffers O) (memory : Memory O UInt8) (form : ListenForm) :
    Keeps buffers (memory.slice buffers.transmit buffers.transmitSize) []
      (mailbox buffers memory form) := by
  cases form <;> exact ⟨rfl, rfl, rfl, rfl, ⟨rfl, rfl⟩, ⟨rfl, rfl⟩, rfl, rfl⟩

theorem run_kept (size : Nat) (inbox : List (List UInt8)) (ts : List Transfer) :
    run (fun inbox t => inbox ++ kept size t) inbox ts = inbox ++ ts.flatMap (kept size) := by
  induction ts generalizing inbox with
  | nil => exact (List.append_nil _).symm
  | cons t ts ih => rw [run_cons, ih, List.append_assoc, List.flatMap_cons]

/-- However the bus and the service routine take turns, every read is answered with the transmit
buffer and zeros after it, and once everything has been served it has been answered in full and
every message is in the inbox once and in its place. -/
theorem mailbox_keeps (buffers : MailBuffers O) (memory : Memory O UInt8) (form : ListenForm)
    (events : List BusEvent) :
    let x := run Heard.step (Heard.listening (mailbox buffers memory form)) events
    let answer := padded (memory.slice buffers.transmit buffers.transmitSize)
    (∀ newer f older count, x.frames = newer ++ f :: older → f.transfer = some (.read count) →
      f.answered <+: answer (count + 1)) ∧
    (x.Settled →
      (∀ newer f older count, x.frames = newer ++ f :: older →
        f.transfer = some (.read count) → f.answered = answer (count + 1)) ∧
      x.bus.slave.app = (transfers x.frames).flatMap (kept buffers.receiveSize)) := by
  intro x answer
  have accounted := Heard.accounted_run (mail_account buffers _)
    (keeps_mailbox buffers memory form) events
  refine ⟨fun newer f older count frames read => accounted.answered_read frames read,
    fun settled => ⟨fun newer f older count frames read =>
      accounted.answered_settled settled frames read, ?_⟩⟩
  have inbox := (accounted.settled settled).1.inbox
  rwa [Heard.account, run_kept, List.nil_append] at inbox

end Slave
end TeensyI2C
