import TeensyI2C.Master.BytesTransferred
import TeensyI2C.Master.Confinement
import TeensyI2C.Master.WriteReport
import TeensyI2C.Slave.HeardFrames

/-!
The two drivers on one bus. In a turn the master's caller makes a call and waits, while the slave's
port goes on as it does. The frame that the slave has heard is the one whose words it has
acknowledged to the master.
-/

namespace TeensyI2C
open ObjectMemory Interference EventMachine

/-! ### What the master says in a frame -/

namespace Transfer

/-- A slave is not told how many bytes the master wants to read. -/
def message : Transfer → Transfer
  | .write first rest => .write first rest
  | .read _ => .read 0

def ofBytes : List UInt8 → Option Transfer
  | [] => none
  | first :: rest => some (.write first rest)

end Transfer

/-- The part of a frame that comes from the master. -/
def HeardFrame.message (f : HeardFrame) : HeardFrame :=
  { f with transfer := f.transfer.map Transfer.message, answered := [] }

/-- The address in the byte behind a START. -/
def calledAddress (data : UInt8) : BusAddress :=
  ⟨data.toNat / 2, by have := data.toNat_lt; omega⟩

def asksToRead (data : UInt8) : Bool := data &&& 1 == masterRead

theorem calledAddress_start (address direction : UInt8) (bit : direction ≤ 1) :
    calledAddress (((address &&& 0x7F) <<< 1) ||| direction) = sentAddress address ∧
      asksToRead (((address &&& 0x7F) <<< 1) ||| direction) = (direction == masterRead) := by
  have each : ∀ byte : Fin 256,
      calledAddress (((UInt8.ofFin byte &&& 0x7F) <<< 1) ||| 0) = sentAddress (.ofFin byte) ∧
        asksToRead (((UInt8.ofFin byte &&& 0x7F) <<< 1) ||| 0) = false ∧
      calledAddress (((UInt8.ofFin byte &&& 0x7F) <<< 1) ||| 1) = sentAddress (.ofFin byte) ∧
        asksToRead (((UInt8.ofFin byte &&& 0x7F) <<< 1) ||| 1) = true := by
    decide +kernel
  obtain ⟨write, writes, read, reads⟩ := each address.toFin
  have cases : direction = 0 ∨ direction = 1 := by
    rw [← UInt8.toNat_inj, ← UInt8.toNat_inj]
    have := UInt8.le_iff_toNat_le.mp bit
    simp at this ⊢
    omega
  rcases cases with rfl | rfl
  · exact ⟨write, writes⟩
  · exact ⟨read, reads⟩

def Command.startByte : Command → Option UInt8
  | .start data => some data
  | .transmit _ | .receive _ | .stop => none

namespace MasterPort

/-- What the slave has acknowledged since the START of the last call. -/
def message (p : MasterPort) : Option HeardFrame :=
  if p.awaitingStart then none
  else (p.acknowledged.findSome? Command.startByte).map fun data =>
    { address := calledAddress data
      read := asksToRead data
      transfer :=
        if asksToRead data then some (.read 0)
        else Transfer.ofBytes (p.acknowledged.flatMap Command.payload) }

/-- The STARTs of the last call carry `data`. -/
structure Calls (data : UInt8) (p : MasterPort) : Prop where
  queued : ∀ data', .start data' ∈ p.txFifo → data' = data
  executing : p.awaitingStart = false → ∀ data', p.executing = some (.start data') → data' = data
  acknowledged : p.awaitingStart = false → ∀ data', .start data' ∈ p.acknowledged → data' = data

variable {data : UInt8} {p : MasterPort}

theorem stable_calls : Stable apply (Calls data) := by
  rintro p e ⟨queued, executing, acknowledged⟩
  refine ⟨?_, ?_, ?_⟩ <;>
  · cases e <;> grind [apply, fetch, ack, nak, offered, receiveByte, autoStop, stopDone,
      arbitrationLost]

theorem Calls.send {command : Command} (calls : p.Calls data)
    (other : command.startByte = none) : (p.send command).Calls data where
  queued := by
    intro data' member
    rcases List.mem_append.mp member with before | here
    · exact calls.queued data' before
    · rw [← List.mem_singleton.mp here] at other
      cases other
  executing := calls.executing
  acknowledged := calls.acknowledged

theorem Calls.of_mem {f : MasterPort → MasterPort} (calls : p.Calls data)
    (listed : f ∈ Master.registerWrites) : (f p).Calls data := by
  obtain ⟨queued, executing, acknowledged⟩ := calls
  simp only [Master.registerWrites, List.mem_cons, List.not_mem_nil, or_false] at listed
  rcases listed with rfl | rfl | rfl | rfl | rfl | rfl | rfl | rfl | rfl | rfl | rfl | rfl
  case inr.inr.inl => exact ⟨by simp [resetTxFifo], executing, acknowledged⟩
  all_goals exact ⟨queued, executing, acknowledged⟩

theorem Acknowledged.words_eq {words : List Command} (taken : p.Acknowledged words)
    (closing : p.Closing words) (unfailed : p.msr.failed = false) : p.acknowledged = words := by
  obtain ⟨rest, more⟩ := taken.taken
  obtain ⟨⟨ending, endings, awaiting | underway⟩, _⟩ := closing.resolve_left (by simp [unfailed])
  · exact absurd awaiting.awaiting (by simp [taken.begun])
  · have carried := underway.carried
    rw [← more, List.append_assoc, List.append_assoc, List.append_cancel_left_eq] at carried
    have unstopped : .stop ∉ rest := fun member => underway.unstopped (by simp [← more, member])
    have none : rest = [] := by
      cases rest with
      | nil => rfl
      | cons command rest =>
          rcases endings with rfl | rfl
          · simp at carried
          · rw [List.cons_append] at carried
            exact absurd (by simp [(List.cons.inj carried).1]) unstopped
    rw [← more, none, List.append_nil]

theorem message_writeWords {bytes : List UInt8} (begun : p.awaitingStart = false)
    (acknowledged : p.acknowledged = writeWords data bytes) (writes : asksToRead data = false) :
    p.message =
      some {
        address := calledAddress data
        read := false
        transfer := Transfer.ofBytes bytes } := by
  have payloads : (writeWords data bytes).flatMap Command.payload = bytes := by
    simp [writeWords, Command.payload, List.flatMap_map]
  rw [message, acknowledged, payloads, if_neg (by simp [begun])]
  simp [writeWords, Command.startByte, writes]

theorem message_addressed (begun : p.awaitingStart = false) (calls : p.Calls data)
    (addressed : p.addressed = true) (reads : asksToRead data = true) :
    p.message =
      some { address := calledAddress data, read := true, transfer := some (.read 0) } := by
  rw [message, if_neg (by simp [begun])]
  cases found : p.acknowledged.findSome? Command.startByte with
  | none =>
      obtain ⟨command, member, start⟩ := List.any_eq_true.mp addressed
      have other := List.findSome?_eq_none_iff.mp found command member
      cases command <;> simp [Command.isStart, Command.startByte] at start other
  | some data' =>
      obtain ⟨command, member, start⟩ := List.exists_of_findSome?_eq_some found
      have own : data' = data := by
        cases command with
        | start byte =>
            cases start
            exact calls.acknowledged begun data' member
        | _ => cases start
      simp [own, reads]

end MasterPort

namespace Master
open MasterPort
variable {O : Type} [Inhabited O] {s t : Master O} {data : UInt8}

/-- Everything that the driver writes to the port between two calls. -/
def WritesBetween (f : MasterPort → MasterPort) : Prop := EndingWrites f ∨ SendsData f

theorem calls_kept (h : Drives WritesBetween s t) (calls : s.port.Calls data) :
    t.port.Calls data := by
  refine h.keeps stable_calls (fun f written p calls => ?_) calls
  rcases written with ending | ⟨byte, rfl⟩
  · rcases List.mem_cons.mp ending with rfl | listed
    · exact calls.send rfl
    · exact calls.of_mem listed
  · exact calls.send rfl

variable [DecidableEq O] {a : Step O}

theorem writesBetween_serveReceive (msr : Msr) (s : Master O) :
    Drives WritesBetween s (s.serveReceive msr) := by
  unfold serveReceive
  split
  · split
    · have taken := Drives.known (drives_takeByte s.beginTransfer) (by simp [registerWrites])
      have finished :=
        Drives.known (drives_finishReading s.beginTransfer.takeByte) (by simp [registerWrites])
      rw [Drives, ← port_beginTransfer s]
      exact (taken.trans finished).mono fun _ => Or.inl
    · exact (Drives.known (drives_abort { s with state := .stopping })
        (by simp [registerWrites])).mono fun _ => Or.inl
  · exact .refl

omit [DecidableEq O] in
theorem writesBetween_serveTransmit (msr : Msr) (s : Master O) :
    Drives WritesBetween s (s.serveTransmit msr) := by
  unfold serveTransmit transferOut
  split
  · rw [Drives, ← port_beginTransfer s]
    split
    · have sent : Drives WritesBetween s.beginTransfer s.beginTransfer.refill :=
        (drives_refill s.beginTransfer).mono fun _ => Or.inr
      exact sent.trans ((Drives.known (drives_finishWriting _)
        (by simp [registerWrites])).mono fun _ => Or.inl)
    · exact .refl
  · exact .refl

theorem writesBetween_isr (s : Master O) : Drives WritesBetween s s.isr := by
  have endings (msr : Msr) : Drives EndingWrites s ((s.pass.serveErrors msr).serveStop msr) :=
    ((drives_pass EndingWrites s).trans (ending_serveErrors msr _)).trans (ending_serveStop msr _)
  exact (((endings s.pass.port.msr).mono fun _ => Or.inl).trans
    (writesBetween_serveReceive _ _)).trans (writesBetween_serveTransmit _ _)

theorem calls_step (between : a.action.betweenCalls = true) (calls : s.port.Calls data) :
    (s.step a).port.Calls data := by
  by_cases interrupts : s.Interrupts a
  · rw [step_interrupts interrupts]
    exact calls_kept (s := s.schedule a.meanwhile) (writesBetween_isr _) calls
  · exact calls_kept (drives_step _ between interrupts) calls

omit [DecidableEq O] in
theorem calls_start {address direction : UInt8} (bound : s.port.txFifo.length ≤ numFifos)
    (accepted : (s.start address direction).2 = true) :
    (s.start address direction).1.port.Calls (((address &&& 0x7F) <<< 1) ||| direction) := by
  rcases start_cases address direction bound with ⟨_, t, _, empty, started⟩ | ⟨refused, _⟩
  · obtain ⟨p, ⟨⟨awaiting, queued⟩, _⟩, _, sent⟩ := sendStart_awaiting address direction empty
    rw [started, sent]
    refine ⟨fun data' member => ?_, ?_, ?_⟩
    · rw [MasterPort.send, queued] at member
      simpa using member
    · simp [MasterPort.send, awaiting]
    · simp [MasterPort.send, awaiting]
  · simp [accepted] at refused

omit [DecidableEq O] in
theorem calls_readAsync {address : UInt8} {buffer : Pointer O} {numBytes : Nat} {sendStop : Bool}
    (bound : s.port.txFifo.length ≤ numFifos)
    (accepted : (s.readAsync address buffer numBytes sendStop).error = .ok) :
    (s.readAsync address buffer numBytes sendStop).port.Calls
      (((address &&& 0x7F) <<< 1) ||| masterRead) := by
  obtain ⟨go, _, call⟩ := readAsync_started accepted
  have calls := calls_start (s := { s with calls := s.calls + 1 }) bound go
  have sent {u : Master O} {data : UInt8} {c : Command} (calls : u.port.Calls data)
      (other : c.startByte = none) : (u.access (MasterPort.send c)).port.Calls data :=
    stable_calls.access (fun _ calls => calls.send other) calls
  rw [call]
  split
  · exact sent calls rfl
  · have asked := sent
      (u := ({ s with calls := s.calls + 1 }.start address masterRead).1.initialiseBuff
        buffer numBytes)
      (c := .receive (UInt8.ofNat (numBytes - 1))) calls rfl
    dsimp only
    split
    · exact sent asked rfl
    · exact asked

end Master

/-! ### A turn -/

/-- A call of the master's driver, what goes on until the caller makes the next one, and what
happens at the slave's port meanwhile. -/
structure Turn (O : Type) where
  call : Master.Step O
  steps : List (Master.Step O)
  events : List BusEvent
deriving DecidableEq, Repr

/-- Neither driver touches the buffers of the other, so each has a memory of its own. -/
structure Loopback (O P σ : Type) [Inhabited O] [Inhabited P] where
  master : Master O
  slave : Heard P σ

/-- The slave's hardware compares seven bits of an address with the two that `listen` has set. -/
def SlavePort.answersTo (port : SlavePort) (address : BusAddress) : Bool :=
  let first := port.samrAddr0.toNat % 128
  let second := port.samrAddr1.toNat % 128
  port.scrSen &&
    if port.scfgr1AddrCfg = 0x0 then address.val == first
    else if port.scfgr1AddrCfg = 0x02 then address.val == first || address.val == second
    else if port.scfgr1AddrCfg = 0x06 then first ≤ address.val && address.val ≤ second
    else false

namespace Turn
variable {O : Type} [Inhabited O] [DecidableEq O]

def message (s : Master O) (turn : Turn O) : Option HeardFrame :=
  match turn.call.action with
  | .writeAsync address buffer numBytes _ =>
      some { address := sentAddress address, read := false,
             transfer := Transfer.ofBytes (s.memory.slice buffer numBytes) }
  | .readAsync address _ _ _ =>
      some { address := sentAddress address, read := true, transfer := some (.read 0) }
  | _ => none

def after (s : Master O) (turn : Turn O) : Master O :=
  run Master.step (s.step turn.call) turn.steps

/-- The transaction goes through. A write is reported in time, and without an error. A read that
the slave has answered loses no byte. A call of no bytes never completes. -/
def Completes (s : Master O) (turn : Turn O) : Prop :=
  let called := s.step turn.call
  let t := turn.after s
  (∀ a ∈ turn.steps, a.action.betweenCalls = true) ∧
    match turn.call.action with
    | .writeAsync _ _ numBytes _ =>
        numBytes ≠ 0 ∧ Along Master.step Master.WriteReported called turn.steps ∧
          t.finished = true ∧ t.hasError = false ∧ t.port.msr.failed = false
    | .readAsync _ _ numBytes _ =>
        numBytes ≠ 0 ∧ s.port.Unread ∧ called.hasError = false ∧
          Along Master.step Master.SparesReceived called turn.steps ∧ t.port.rxFifo = [] ∧
          t.port.awaitingStart = false ∧ t.port.addressed = true
    | _ => False

instance (s : Master O) (turn : Turn O) : Decidable (turn.Completes s) := by
  unfold Completes
  cases turn.call.action <;> infer_instance

end Turn

namespace Turn
variable {O : Type} [Inhabited O] [DecidableEq O] {s : Master O} {turn : Turn O}
  {address : UInt8} {buffer : Pointer O} {numBytes : Nat} {sendStop : Bool}

theorem Completes.reporting (completes : turn.Completes s) (settled : s.Settled)
    (bound : s.port.txFifo.length ≤ numFifos)
    (kind : turn.call.action = .writeAsync address buffer numBytes sendStop) :
    let data := ((address &&& 0x7F) <<< 1) ||| masterWrite
    (turn.after s).Reporting data (writeWords data (s.memory.slice buffer numBytes)) := by
  obtain ⟨between, went⟩ := completes
  rw [kind] at went
  obtain ⟨some, reported, -⟩ := went
  intro data
  have called : (s.step turn.call).Reporting data
      (writeWords data (s.memory.slice buffer numBytes)) := by
    refine ⟨settled.step turn.call, Master.txFifo_step turn.call bound, ?_⟩
    by_cases error : (s.step turn.call).hasError = true
    · exact .inl error
    · have accepted : (s.step turn.call).error = .ok := by simpa [Master.hasError] using error
      rw [Master.step_writeAsync kind] at accepted ⊢
      exact .inr (Master.writing_writeAsync (s := s.schedule turn.call.meanwhile) bound some
        accepted)
  exact run_invariant_of_kind (fun _ _ reporting => reporting.step) called between reported

/-- The driver has acknowledged to its caller what the slave has acknowledged. -/
theorem Completes.message_write (completes : turn.Completes s) (settled : s.Settled)
    (bound : s.port.txFifo.length ≤ numFifos)
    (kind : turn.call.action = .writeAsync address buffer numBytes sendStop) :
    (turn.after s).port.message = turn.message s := by
  have reporting := completes.reporting settled bound kind
  obtain ⟨-, went⟩ := completes
  rw [kind] at went
  obtain ⟨-, -, finished, unfailed, clear⟩ := went
  have taken := reporting.acknowledged finished unfailed
  have writing := reporting.progress.resolve_left (by simp [unfailed])
  have ready := Master.ready_of_finished finished
  rcases writing.progress with ⟨waiting, _⟩ | ended
  · simp [ready] at waiting
  · have closing := ended.closing
    rw [Master.sentWords, ended.last, writing.words] at closing
    obtain ⟨called, writes⟩ := calledAddress_start address masterWrite (by decide)
    rw [MasterPort.message_writeWords taken.begun (taken.words_eq closing clear) writes, called,
      Turn.message, kind]

theorem Completes.memory_write (completes : turn.Completes s) (settled : s.Settled)
    (bound : s.port.txFifo.length ≤ numFifos)
    (kind : turn.call.action = .writeAsync address buffer numBytes sendStop) :
    (turn.after s).memory = s.memory := by
  have reporting := completes.reporting settled bound kind
  obtain ⟨between, went⟩ := completes
  rw [kind] at went
  obtain ⟨-, -, -, unfailed, -⟩ := went
  have writing := (reporting.progress.resolve_left (by simp [unfailed])).writing
  have spares := Master.sparesMemory_run (s := s.step turn.call) between
  have waited := spares.writing (spares.ignoreTdf ▸ writing)
  have called : (s.step turn.call).memory = s.memory := by
    rw [Master.step_writeAsync kind]
    exact (Master.buffer_of_writeAsync (s := s.schedule turn.call.meanwhile) _ _ _ _).1
  exact waited.trans called

theorem Completes.accepted_read (completes : turn.Completes s)
    (kind : turn.call.action = .readAsync address buffer numBytes sendStop) :
    ((s.schedule turn.call.meanwhile).readAsync address buffer numBytes sendStop).error = .ok := by
  obtain ⟨-, went⟩ := completes
  rw [kind] at went
  rw [← Master.step_readAsync kind]
  exact (hasError_eq_false _).mp went.2.2.1

theorem Completes.message_read (completes : turn.Completes s)
    (bound : s.port.txFifo.length ≤ numFifos)
    (kind : turn.call.action = .readAsync address buffer numBytes sendStop) :
    (turn.after s).port.message = turn.message s := by
  have accepted := completes.accepted_read kind
  obtain ⟨between, went⟩ := completes
  rw [kind] at went
  obtain ⟨-, -, -, -, -, begun, addressed⟩ := went
  let data := ((address &&& 0x7F) <<< 1) ||| masterRead
  have called : (s.step turn.call).port.Calls data := by
    rw [Master.step_readAsync kind]
    exact Master.calls_readAsync (s := s.schedule turn.call.meanwhile) bound accepted
  have calls : (turn.after s).port.Calls data :=
    run_invariant_of_kind' (I := fun s : Master O => s.port.Calls data)
      (fun u b calls between => Master.calls_step (s := u) (a := b) between calls) called between
  obtain ⟨called, reads⟩ := calledAddress_start address masterRead (by decide)
  rw [MasterPort.message_addressed begun calls addressed reads, called, Turn.message, kind]

theorem Completes.taking (completes : turn.Completes s) (bound : s.port.txFifo.length ≤ numFifos)
    (kind : turn.call.action = .readAsync address buffer numBytes sendStop) :
    (s.step turn.call).Taking buffer numBytes := by
  have accepted := completes.accepted_read kind
  obtain ⟨-, went⟩ := completes
  rw [kind] at went
  obtain ⟨some, unread, -⟩ := went
  rw [Master.step_readAsync kind]
  exact Master.taking_readAsync (s := s.schedule turn.call.meanwhile) bound unread some accepted

theorem Completes.read_stores (completes : turn.Completes s)
    (bound : s.port.txFifo.length ≤ numFifos)
    (kind : turn.call.action = .readAsync address buffer numBytes sendStop) :
    (turn.after s).memory.slice buffer (turn.after s).getBytesTransferred =
      (turn.after s).port.crossed := by
  have taking := completes.taking bound kind
  obtain ⟨between, went⟩ := completes
  rw [kind] at went
  obtain ⟨-, -, -, spares, taken, -, addressed⟩ := went
  exact Master.stored_read (Master.taking_run taking between spares) taken
    fun unanswered => by simp [addressed] at unanswered

theorem Completes.memory_read (completes : turn.Completes s)
    (bound : s.port.txFifo.length ≤ numFifos)
    (kind : turn.call.action = .readAsync address buffer numBytes sendStop) {o : O}
    (other : o ≠ buffer.object) : (turn.after s).memory o = s.memory o := by
  have object : (s.step turn.call).buff.buffer.object = buffer.object :=
    congrArg Pointer.object (completes.taking bound kind).window.1
  have waited := (Master.sparesMemory_run completes.1).others o (object ▸ other)
  have called : (s.step turn.call).memory = s.memory := by
    rw [Master.step_readAsync kind]
    exact (Master.buffer_of_readAsync (s := s.schedule turn.call.meanwhile) _ _ _ _).1
  exact waited.trans (congrFun called o)

end Turn

namespace Loopback
variable {O P σ : Type} [Inhabited O] [DecidableEq O] [Inhabited P] [DecidableEq P]

def step (x : Loopback O P σ) (turn : Turn O) : Loopback O P σ where
  master := turn.after x.master
  slave := run Heard.step x.slave turn.events

/-- What the slave is to hear of the call. -/
def toSlave (x : Loopback O P σ) (turn : Turn O) : Option HeardFrame :=
  (turn.message x.master).filter fun f => x.slave.bus.slave.port.answersTo f.address

/-- The bus carries what is said: the slave has heard one more frame if it is the one that has
acknowledged the address, and what the master has received is what the slave has answered. -/
def Carries (x : Loopback O P σ) (turn : Turn O) : Prop :=
  let y := x.step turn
  let heard := y.master.port.message.filter fun f => x.slave.bus.slave.port.answersTo f.address
  y.slave.frames.map HeardFrame.message =
      heard.toList ++ x.slave.frames.map HeardFrame.message ∧
    ∀ m ∈ heard, m.read = true →
      ∀ f ∈ y.slave.frames.head?, y.master.port.crossed <+: f.answered

instance (x : Loopback O P σ) (turn : Turn O) : Decidable (x.Carries turn) := by
  unfold Carries
  infer_instance

def messages (x : Loopback O P σ) (turns : List (Turn O)) : List HeardFrame :=
  emitted step (fun x turn => (x.toSlave turn).toList) x turns

/-- The call completes, and the bus carries it. -/
def Delivers (x : Loopback O P σ) (turn : Turn O) : Prop :=
  turn.Completes x.master ∧ x.Carries turn

instance (x : Loopback O P σ) (turn : Turn O) : Decidable (x.Delivers turn) := by
  unfold Delivers
  infer_instance

structure Sound (x : Loopback O P σ) : Prop where
  settled : x.master.Settled
  bound : x.master.port.txFifo.length ≤ numFifos

variable {x : Loopback O P σ} {turn : Turn O} {turns : List (Turn O)}

theorem Sound.step (sound : x.Sound) (turn : Turn O) : (x.step turn).Sound where
  settled := run_invariant' (I := Master.Settled) (fun _ a settled => settled.step a) turn.steps
    (sound.settled.step turn.call)
  bound := run_invariant' (I := fun s : Master O => s.port.txFifo.length ≤ numFifos)
    (fun _ a bound => Master.txFifo_step a bound) turn.steps
    (Master.txFifo_step turn.call sound.bound)

omit [DecidableEq P] in
theorem sound_run (memory : Memory O UInt8) (history : List (Master.Step O)) (slave : Heard P σ) :
    Sound { master := run Master.step (Master.fresh memory) history, slave := slave } :=
  ⟨Master.settled_run memory history, Master.txFifo_run memory history⟩

theorem message_after (sound : x.Sound) (completes : turn.Completes x.master) :
    (x.step turn).master.port.message = turn.message x.master := by
  cases kind : turn.call.action with
  | writeAsync address buffer numBytes sendStop =>
      exact completes.message_write sound.settled sound.bound kind
  | readAsync address buffer numBytes sendStop => exact completes.message_read sound.bound kind
  | _ =>
      obtain ⟨-, went⟩ := completes
      simp [kind] at went

theorem frames_step (sound : x.Sound) (delivers : x.Delivers turn) :
    (x.step turn).slave.frames.map HeardFrame.message =
      (x.toSlave turn).toList ++ x.slave.frames.map HeardFrame.message := by
  rw [delivers.2.1, message_after sound delivers.1]
  rfl

/-- Every call that goes through is heard once, in its turn. -/
theorem frames_run (sound : x.Sound) (delivers : Along step Delivers x turns) :
    (run step x turns).slave.frames.map HeardFrame.message =
      (x.messages turns).reverse ++ x.slave.frames.map HeardFrame.message := by
  induction turns generalizing x with
  | nil => rfl
  | cons turn turns ih =>
      have heard : (x.messages (turn :: turns)).reverse =
          ((x.step turn).messages turns).reverse ++ (x.toSlave turn).toList := by
        rw [messages, emitted, List.reverse_append, messages]
        cases x.toSlave turn <;> rfl
      rw [run_cons, ih (sound.step turn) delivers.2, frames_step sound delivers.1, heard,
        List.append_assoc]

theorem read_heard (sound : x.Sound) (delivers : x.Delivers turn)
    {address : UInt8} {buffer : Pointer O} {numBytes : Nat} {sendStop : Bool}
    (kind : turn.call.action = .readAsync address buffer numBytes sendStop)
    (answers : x.slave.bus.slave.port.answersTo (sentAddress address) = true) :
    ∃ f older, (x.step turn).slave.frames = f :: older ∧
      f.message = { address := sentAddress address, read := true, transfer := some (.read 0) } ∧
        older.map HeardFrame.message = x.slave.frames.map HeardFrame.message ∧
          (x.step turn).master.memory.slice buffer (x.step turn).master.getBytesTransferred <+:
            f.answered := by
  have message : (x.toSlave turn) = some
      { address := sentAddress address, read := true, transfer := some (.read 0) } := by
    simp [toSlave, Turn.message, kind, answers]
  obtain ⟨-, brings⟩ := delivers.2
  rw [message_after sound delivers.1] at brings
  have frames := frames_step sound delivers
  rw [message, Option.toList_some, List.singleton_append] at frames
  obtain ⟨f, older, latest, heard, before⟩ := List.map_eq_cons_iff.mp frames
  have received := brings _ message rfl f (by rw [latest]; rfl)
  have stored : (x.step turn).master.memory.slice buffer (x.step turn).master.getBytesTransferred =
      (x.step turn).master.port.crossed := delivers.1.read_stores sound.bound kind
  exact ⟨f, older, latest, heard, before, stored ▸ received⟩

/-! ### What comes of it at the slave -/

section
variable {α : Type} {next : α → Transfer → α} {wire : α → Transfer → List UInt8}
  {I : α → Slave P σ → Prop} {a₀ : α}

theorem transfers_message (frames : List HeardFrame) :
    transfers (frames.map HeardFrame.message) = (transfers frames).map Transfer.message := by
  induction frames with
  | nil => rfl
  | cons f frames ih =>
      unfold transfers at ih ⊢
      rw [List.map_cons, List.reverse_cons, List.reverse_cons, List.filterMap_append,
        List.filterMap_append, List.map_append, ih]
      cases transfer : f.transfer <;> simp [HeardFrame.message, transfer]

/-- An account that does not depend on how many bytes are read depends on the messages only. -/
theorem account_message (same : ∀ a t, next a t.message = next a t) (frames : List HeardFrame) :
    Heard.account next a₀ (frames.map HeardFrame.message) = Heard.account next a₀ frames := by
  unfold Heard.account
  rw [transfers_message]
  generalize transfers frames = ts
  induction ts generalizing a₀ with
  | nil => rfl
  | cons t ts ih => rw [List.map_cons, run_cons, run_cons, same, ih]

theorem account_run (sound : x.Sound) (delivers : Along step Delivers x turns)
    (same : ∀ a t, next a t.message = next a t) :
    Heard.account next a₀ (run step x turns).slave.frames =
      run next (Heard.account next a₀ x.slave.frames)
        ((x.messages turns).filterMap (·.transfer)) := by
  rw [← account_message same, frames_run sound delivers, ← account_message same x.slave.frames]
  unfold Heard.account transfers
  rw [List.reverse_append, List.reverse_reverse, List.filterMap_append, run_append]

theorem read_brings (sound : x.Sound) (delivers : x.Delivers turn)
    (same : ∀ a t, next a t.message = next a t)
    (accounted : Heard.Accounted I next wire a₀ (x.step turn).slave)
    {address : UInt8} {buffer : Pointer O} {numBytes : Nat} {sendStop : Bool}
    (kind : turn.call.action = .readAsync address buffer numBytes sendStop)
    (answers : x.slave.bus.slave.port.answersTo (sentAddress address) = true) :
    ∃ count, (x.step turn).master.memory.slice buffer (x.step turn).master.getBytesTransferred <+:
      wire (Heard.account next a₀ x.slave.frames) (.read count) := by
  obtain ⟨f, older, frames, heard, before, received⟩ := read_heard sound delivers kind answers
  obtain ⟨count, transfer⟩ : ∃ count, f.transfer = some (.read count) := by
    have asked := congrArg HeardFrame.transfer heard
    cases transfer : f.transfer with
    | none => simp [HeardFrame.message, transfer] at asked
    | some t =>
        cases t with
        | write first rest => simp [HeardFrame.message, Transfer.message, transfer] at asked
        | read count => exact ⟨count, rfl⟩
  have front : (x.step turn).slave.frames = [] ++ f :: older := frames
  have answered := accounted.answered_read front transfer
  rw [← account_message same, before, account_message same] at answered
  exact ⟨count, received.trans answered⟩

end

end Loopback
end TeensyI2C
