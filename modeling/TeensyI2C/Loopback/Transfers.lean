import TeensyI2C.Loopback.Turns
import TeensyI2C.RegisterSlave.OnBus
import TeensyI2C.Slave.Mailbox

/-!
From the buffers of the master's caller to the application at the slave, and back.
-/

namespace TeensyI2C
open ObjectMemory EventMachine

/-! ### The addresses of the slave -/

namespace Slave
variable {O σ : Type} [Inhabited O]

/-- The addresses of a form of `listen`. -/
def ListenForm.covers : ListenForm → BusAddress → Bool
  | .listen address, called => called.val == address.toNat % 128
  | .listenTwo firstAddress secondAddress, called =>
      called.val == firstAddress.toNat % 128 || called.val == secondAddress.toNat % 128
  | .listenRange firstAddress lastAddress, called =>
      firstAddress.toNat % 128 ≤ called.val && called.val ≤ lastAddress.toNat % 128

theorem answersTo_listen (s : Slave O σ) (form : ListenForm) (address : BusAddress) :
    (s.listen form).port.answersTo address = form.covers address := by
  cases form <;> rfl

@[simp] theorem port_invoke (s : Slave O σ) (callback : Callback O σ) :
    (s.invoke callback).port = s.port := by
  rw [invoke_eq]

@[simp] theorem port_endOfFrame (s : Slave O σ) : s.endOfFrame.port = s.port := by
  unfold endOfFrame
  dsimp only
  cases s.state with
  | receiving => cases s.afterReceiveCallback <;> simp [emit]
  | transmitting => cases s.afterTransmitCallback <;> simp [emit]
  | idle | aborted => rfl

@[simp] theorem port_startTransmitting (s : Slave O σ) : s.startTransmitting.port = s.port := by
  unfold startTransmitting
  cases s.beforeTransmitCallback <;> simp [emit]

@[simp] theorem port_answerRequest (s : Slave O σ) (startOfFrame : Bool) :
    (s.answerRequest startOfFrame).port = s.port := by
  unfold answerRequest sendNext emit
  grind

variable [DecidableEq O]

@[simp] theorem port_receiveData (s : Slave O σ) (srdr : Srdr) :
    (s.receiveData srdr).port = s.port := by
  unfold receiveData startReceiving storeReceived
  grind

theorem port_isr (s : Slave O σ) (h : SlaveStatus) : (s.isr h).port = s.port := by
  unfold isr serveAddress serveEnd serveReceive serveTransmit serveBitError transmitData
  dsimp only
  repeat' split
  all_goals simp

end Slave

theorem Heard.port_step {P σ : Type} [Inhabited P] [DecidableEq P] (x : Heard P σ) (e : BusEvent) :
    (x.step e).bus.slave.port = x.bus.slave.port := by
  cases e with
  | interrupt =>
      simp only [Heard.step, SlaveBus.step, SlaveBus.interrupt]
      split
      · exact Slave.port_isr _ _
      · rfl
  | _ =>
      simp only [Heard.step, SlaveBus.step, SlaveBus.address, SlaveBus.byte, SlaveBus.request,
        SlaveBus.finish]
      grind

/-- Where a call reads from, and how many bytes. -/
def Master.Action.reads {O : Type} : Master.Action O → Option (UInt8 × Nat)
  | .readAsync address _ numBytes _ => some (address, numBytes)
  | .begin _ | .end' | .writeAsync _ _ _ _ | .isr | .hardware _ => none

namespace Loopback
variable {O P σ : Type} [Inhabited O] [DecidableEq O] [Inhabited P] [DecidableEq P]

/-- The two drivers after a run of each. The slave has been listening since the beginning of its
own. -/
def reached (memory : Memory O UInt8) (history : List (Master.Step O)) (slave : Slave P σ)
    (events : List BusEvent) : Loopback O P σ where
  master := run Master.step (Master.fresh memory) history
  slave := run Heard.step (Heard.listening slave) events

/-- What the caller of `write_async` sends to a slave on one of these addresses. -/
def sent (covers : BusAddress → Bool) (x : Loopback O P σ) (turn : Turn O) : List (List UInt8) :=
  match turn.call.action with
  | .writeAsync address buffer numBytes _ =>
      if covers (sentAddress address) then [x.master.memory.slice buffer numBytes] else []
  | _ => []

/-- What the call asks of a slave on one of these addresses. -/
def asked (covers : BusAddress → Bool) (x : Loopback O P σ) (turn : Turn O) : List Transfer :=
  match turn.call.action with
  | .writeAsync address buffer numBytes _ =>
      if covers (sentAddress address) then
        (Transfer.ofBytes (x.master.memory.slice buffer numBytes)).toList
      else []
  | .readAsync address _ _ _ => if covers (sentAddress address) then [.read 0] else []
  | _ => []

/-- The turn goes through, and a read brings as many bytes as its caller wants. -/
def Fulfils (x : Loopback O P σ) (turn : Turn O) : Prop :=
  x.Delivers turn ∧
    ∀ asked ∈ turn.call.action.reads, (x.step turn).master.getBytesTransferred = asked.2

instance (x : Loopback O P σ) (turn : Turn O) : Decidable (x.Fulfils turn) := by
  unfold Fulfils
  infer_instance

/-- If the turn is a read from a slave on one of these addresses, the caller finds in its buffer as
many bytes of `expected` as the driver has counted, which are all that it has asked for if the read
has brought them. -/
def ReadsBack (covers : BusAddress → Bool) (expected : Loopback O P σ → Nat → List UInt8)
    (x : Loopback O P σ) (turn : Turn O) : Prop :=
  match turn.call.action with
  | .readAsync address buffer numBytes _ =>
      covers (sentAddress address) = true →
        let t := (x.step turn).master
        t.memory.slice buffer t.getBytesTransferred = expected x t.getBytesTransferred ∧
          (x.Fulfils turn → t.memory.slice buffer numBytes = expected x numBytes)
  | _ => True

section
variable {α : Type} {next : α → Transfer → α} {wire : α → Transfer → List UInt8}
  {I : α → Slave P σ → Prop} {a₀ : α} {covers : BusAddress → Bool}
  {x : Loopback O P σ} {turn : Turn O} {turns : List (Turn O)}

/-- What holds of the two drivers after any run of each. -/
structure Tracked (next : α → Transfer → α) (wire : α → Transfer → List UInt8)
    (I : α → Slave P σ → Prop) (a₀ : α) (covers : BusAddress → Bool) (x : Loopback O P σ) :
    Prop where
  sound : x.Sound
  accounted : Heard.Accounted I next wire a₀ x.slave
  port : ∀ address, x.slave.bus.slave.port.answersTo address = covers address

omit [DecidableEq O] in
theorem tracked_listening (acc : Account next wire I) {slave : Slave P σ} (start : I a₀ slave)
    {master : Master O} (settled : master.Settled)
    (bound : master.port.txFifo.length ≤ numFifos) (events : List BusEvent) :
    Tracked next wire I a₀ slave.port.answersTo
      { master := master, slave := run Heard.step (Heard.listening slave) events } where
  sound := ⟨settled, bound⟩
  accounted := Heard.accounted_run acc start events
  port address := by
    have same : (run Heard.step (Heard.listening slave) events).bus.slave.port = slave.port :=
      run_invariant' (I := fun x : Heard P σ => x.bus.slave.port = slave.port)
        (fun x e same => (x.port_step e).trans same) events rfl
    rw [same]

theorem tracked_reached (acc : Account next wire I) {slave : Slave P σ} (start : I a₀ slave)
    (memory : Memory O UInt8) (history : List (Master.Step O)) (events : List BusEvent) :
    Tracked next wire I a₀ slave.port.answersTo (reached memory history slave events) :=
  tracked_listening acc start (Master.settled_run memory history)
    (Master.txFifo_run memory history) events

theorem Tracked.step (acc : Account next wire I) (tracked : x.Tracked next wire I a₀ covers)
    (turn : Turn O) : (x.step turn).Tracked next wire I a₀ covers where
  sound := tracked.sound.step turn
  accounted := run_invariant' (I := Heard.Accounted I next wire a₀)
    (fun _ e accounted => accounted.step acc e) turn.events tracked.accounted
  port := run_invariant'
    (I := fun y : Heard P σ => ∀ address, y.bus.slave.port.answersTo address = covers address)
    (fun y e same address => by rw [y.port_step e]; exact same address) turn.events tracked.port

/-- A read brings what `expected` says if every answer is a part of it. -/
theorem Tracked.readsBack (acc : Account next wire I)
    (tracked : x.Tracked next wire I a₀ covers) (delivers : x.Delivers turn)
    (same : ∀ a t, next a t.message = next a t) {expected : Loopback O P σ → Nat → List UInt8}
    (part : ∀ (x : Loopback O P σ) bytes count,
      bytes <+: wire (Heard.account next a₀ x.slave.frames) (.read count) →
        bytes = expected x bytes.length) :
    x.ReadsBack covers expected turn := by
  unfold ReadsBack
  split
  · next address buffer numBytes sendStop kind =>
    intro covered
    obtain ⟨count, brings⟩ := read_brings tracked.sound delivers same
      (tracked.step acc turn).accounted kind ((tracked.port _).trans covered)
    have bytes := part x _ count brings
    rw [Memory.length_slice] at bytes
    refine ⟨bytes, fun fulfils => ?_⟩
    have whole := fulfils.2 (address, numBytes) (by rw [kind]; rfl)
    rwa [whole] at bytes
  · trivial

theorem Tracked.reads (acc : Account next wire I) (tracked : x.Tracked next wire I a₀ covers)
    (delivers : Along Loopback.step Delivers x turns) (same : ∀ a t, next a t.message = next a t)
    {expected : Loopback O P σ → Nat → List UInt8}
    (part : ∀ (x : Loopback O P σ) bytes count,
      bytes <+: wire (Heard.account next a₀ x.slave.frames) (.read count) →
        bytes = expected x bytes.length) :
    Along Loopback.step (ReadsBack covers expected) x turns :=
  along_imp (I := Tracked next wire I a₀ covers) (fun _ turn tracked _ => tracked.step acc turn)
    (fun _ _ tracked delivers => tracked.readsBack acc delivers same part) tracked delivers

omit [DecidableEq O] [DecidableEq P] in
theorem asked_toSlave
    (port : ∀ address, x.slave.bus.slave.port.answersTo address = covers address) :
    (x.toSlave turn).toList.flatMap (·.transfer.toList) = asked covers x turn := by
  unfold toSlave Turn.message asked
  cases turn.call.action with
  | writeAsync address buffer numBytes sendStop | readAsync address buffer numBytes sendStop =>
      dsimp only
      rw [Option.filter_some, port]
      split <;> simp
  | _ => rfl

theorem Tracked.heard_run (acc : Account next wire I) (tracked : x.Tracked next wire I a₀ covers)
    (delivers : Along Loopback.step Delivers x turns)
    (same : ∀ a t, next a t.message = next a t) :
    Heard.account next a₀ (EventMachine.run Loopback.step x turns).slave.frames =
      EventMachine.run next (Heard.account next a₀ x.slave.frames)
        (emitted Loopback.step (asked covers) x turns) := by
  rw [account_run tracked.sound delivers same, messages, List.filterMap_eq_flatMap_toList,
    emitted_flatMap (I := Tracked next wire I a₀ covers) _
      (fun _ turn tracked _ => tracked.step acc turn)
      (fun _ _ tracked _ => asked_toSlave tracked.port) tracked delivers]

theorem Tracked.run (acc : Account next wire I) (tracked : x.Tracked next wire I a₀ covers)
    (turns : List (Turn O)) :
    (EventMachine.run Loopback.step x turns).Tracked next wire I a₀ covers :=
  run_invariant' (I := Tracked next wire I a₀ covers)
    (fun _ turn tracked => tracked.step acc turn) turns tracked

end

/-! ### Messages and registers -/

/-- A part of an answer that goes on and on is told by its length. -/
theorem eq_of_isPrefix {answer : Nat → List UInt8} (take : ∀ n, (answer (n + 1)).take n = answer n)
    (length : ∀ n, (answer n).length = n) {bytes : List UInt8} {n : Nat}
    (part : bytes <+: answer n) : bytes = answer bytes.length := by
  induction n with
  | zero =>
      have none : answer 0 = [] := List.eq_nil_of_length_eq_zero (length 0)
      rw [none, List.prefix_nil] at part
      rw [part, List.length_nil, none]
  | succ n ih =>
      have short := part.length_le
      rw [length] at short
      rcases Nat.lt_or_eq_of_le short with shorter | whole
      · refine ih ?_
        rw [← take n]
        exact List.prefix_take_iff.mpr ⟨part, Nat.le_of_lt_succ shorter⟩
      · rw [whole]
        exact part.eq_of_length (by rw [whole, length])

omit [DecidableEq P] in
/-- A call of `write_async` that goes through puts one message into the inbox of the slave that
has the address, and no other call does. -/
theorem kept_asked {covers : BusAddress → Bool} {x : Loopback O P σ} {turn : Turn O} {size : Nat}
    (room : 0 < size) (completes : turn.Completes x.master) :
    (asked covers x turn).flatMap (Slave.kept size) =
      (sent covers x turn).flatMap fun bytes => [bytes.take size] := by
  unfold asked sent
  cases kind : turn.call.action with
  | writeAsync address buffer numBytes sendStop =>
      obtain ⟨-, went⟩ := completes
      rw [kind] at went
      dsimp only
      split
      · cases bytes : x.master.memory.slice buffer numBytes with
        | nil =>
            have none := congrArg List.length bytes
            rw [Memory.length_slice] at none
            exact absurd none went.1
        | cons first rest => simp [Transfer.ofBytes, Slave.kept, room.ne']
      · rfl
  | readAsync address buffer numBytes sendStop =>
      dsimp only
      split <;> rfl
  | _ => rfl

theorem kept_run {covers : BusAddress → Bool} {x : Loopback O P σ} {turns : List (Turn O)}
    {size : Nat} (room : 0 < size) (delivers : Along Loopback.step Delivers x turns) :
    (emitted Loopback.step (asked covers) x turns).flatMap (Slave.kept size) =
      (emitted Loopback.step (sent covers) x turns).map (·.take size) := by
  rw [List.map_eq_flatMap,
    emitted_flatMap (I := fun _ => True) _ (fun _ _ _ _ => trivial)
      (fun _ _ _ delivers => kept_asked room delivers.1) trivial delivers,
    emitted_flatMap (I := fun _ => True) _ (fun _ _ _ _ => trivial)
      (fun _ _ _ _ => rfl) trivial delivers]

/-- The messages of the master's caller are in the application's inbox, each once and in its place,
once the slave has settled, and reads from it bring the application's answer. -/
theorem mailbox_receives (memory : Memory O UInt8) (history : List (Master.Step O))
    (buffers : Slave.MailBuffers P) (slaveMemory : Memory P UInt8) (form : Slave.ListenForm)
    (events : List BusEvent) (turns : List (Turn O)) (room : 0 < buffers.receiveSize) :
    let x : Loopback O P (List (List UInt8)) :=
      reached memory history (Slave.mailbox buffers slaveMemory form) events
    let y := run Loopback.step x turns
    Along Loopback.step Delivers x turns →
      (y.slave.Settled → y.slave.bus.slave.app =
        (transfers x.slave.frames).flatMap (Slave.kept buffers.receiveSize) ++
          (emitted Loopback.step (sent form.covers) x turns).map
            (·.take buffers.receiveSize)) ∧
      Along Loopback.step (ReadsBack form.covers fun _ =>
        Slave.padded (slaveMemory.slice buffers.transmit buffers.transmitSize)) x turns := by
  intro x y delivers
  have acc := Slave.mail_account buffers (slaveMemory.slice buffers.transmit buffers.transmitSize)
  have tracked := tracked_reached acc (Slave.keeps_mailbox buffers slaveMemory form) memory history
    events
  have covers : (Slave.mailbox buffers slaveMemory form).port.answersTo = form.covers :=
    funext fun address => Slave.answersTo_listen _ form address
  rw [covers] at tracked
  have same (inbox : List (List UInt8)) (t : Transfer) :
      inbox ++ Slave.kept buffers.receiveSize t.message =
        inbox ++ Slave.kept buffers.receiveSize t := by
    cases t <;> rfl
  refine ⟨fun settled => ?_, tracked.reads acc delivers same fun _ bytes count part => ?_⟩
  · have inbox := (((tracked.run acc turns).accounted).settled settled).1.inbox
    rw [tracked.heard_run acc delivers same, Slave.run_kept, Heard.account, Slave.run_kept,
      List.nil_append, kept_run room delivers] at inbox
    exact inbox
  · exact eq_of_isPrefix (Slave.take_padded _) (Slave.length_padded _) part

section
variable {ν : Type} (slave : I2CRegisterSlave ν) (slaveMemory : Memory RegisterObject UInt8)

theorem stepDriver_message (g : Registers) (t : Transfer) :
    g.stepDriver t.message = g.stepDriver t := by
  cases t <;> rfl

theorem tracked_registers (memory : Memory O UInt8) (history : List (Master.Step O))
    (address : UInt8) (events : List BusEvent) (small : slave.mutableBufferSize ≤ 255) :
    (reached memory history (I2CRegisterSlave.listen
      (I2CRegisterSlave.construct slave slaveMemory) address) events).Tracked Registers.stepDriver
        Registers.wire (fun g s => g.mutableBytes.length ≤ 255 ∧ Slave.Follows g s)
        (slave.registers slaveMemory) (Slave.ListenForm.listen address).covers := by
  have start : (slave.registers slaveMemory).mutableBytes.length ≤ 255 ∧
      Slave.Follows (slave.registers slaveMemory)
        (I2CRegisterSlave.listen (I2CRegisterSlave.construct slave slaveMemory) address) :=
    ⟨by simpa [I2CRegisterSlave.registers] using small,
      (slave.follows_listen slaveMemory address).1⟩
  have port : (I2CRegisterSlave.listen (I2CRegisterSlave.construct slave slaveMemory)
      address).port.answersTo = (Slave.ListenForm.listen address).covers := by
    funext called
    unfold I2CRegisterSlave.listen
    rw [Slave.port_invoke]
    exact Slave.answersTo_listen (I2CRegisterSlave.construct slave slaveMemory) (.listen address)
      called
  exact port ▸ tracked_reached I2CRegisterSlave.account start memory history events

end

/-- The two drivers and the register slave together are the automaton: it takes the caller's
messages one by one, its bytes are in the slave's arrays, and reads from it bring its answers. -/
theorem registers_served {ν : Type} (memory : Memory O UInt8) (history : List (Master.Step O))
    (slave : I2CRegisterSlave ν) (slaveMemory : Memory RegisterObject UInt8) (address : UInt8)
    (events : List BusEvent) (turns : List (Turn O)) (small : slave.mutableBufferSize ≤ 255) :
    let x : Loopback O RegisterObject (I2CRegisterSlave ν) := reached memory history
      (I2CRegisterSlave.listen (I2CRegisterSlave.construct slave slaveMemory) address) events
    let y := run Loopback.step x turns
    let covers := (Slave.ListenForm.listen address).covers
    let registers (x : Loopback O RegisterObject (I2CRegisterSlave ν)) :=
      run Registers.stepDriver (slave.registers slaveMemory) (transfers x.slave.frames)
    Along Loopback.step Delivers x turns →
      registers y =
          run Registers.stepDriver (registers x) (emitted Loopback.step (asked covers) x turns) ∧
        (y.slave.Settled →
          y.slave.bus.slave.memory.slice ⟨.mutableBuffer, 0⟩ slave.mutableBufferSize =
              (registers y).mutableBytes ∧
            y.slave.bus.slave.memory.slice ⟨.readOnlyBuffer, 0⟩ slave.readOnlyBufferSize =
              (registers y).readOnlyBytes) ∧
        Along Loopback.step (ReadsBack covers fun x => (registers x).output) x turns := by
  intro x y covers registers delivers
  have acc := I2CRegisterSlave.account (ν := ν)
  have tracked := tracked_registers slave slaveMemory memory history address events small
  exact ⟨tracked.heard_run acc delivers stepDriver_message,
    I2CRegisterSlave.stored_registers (tracked.run acc turns).accounted,
    tracked.reads acc delivers stepDriver_message fun x bytes count part =>
      eq_of_isPrefix (Registers.take_output _) (Registers.length_output _) part⟩

/-! ### A message and its answer, a register and its value -/

/-- The slave acknowledges its address and the bytes of a write. -/
def bytesTaken (count : Nat) (ending : List (Master.Action Bool)) : List (Master.Step Bool) :=
  let address : List (Master.Action Bool) := [.hardware .fetch, .hardware .ack, .isr]
  let byte : List (Master.Action Bool) := [.hardware .fetch, .hardware .ack]
  (address ++ (List.replicate count byte).flatten ++ .isr :: ending).map Master.Action.alone

def stopped : List (Master.Action Bool) := [.hardware .fetch, .hardware .stopDone, .isr]

/-- The slave answers a read of two bytes. -/
def bytesGiven (first second : UInt8) : List (Master.Step Bool) :=
  let bytes : List (Master.Action Bool) := [.hardware .fetch, .hardware .ack, .hardware .fetch,
    .hardware (.receiveByte first), .isr, .hardware (.receiveByte second), .isr]
  (bytes ++ stopped).map Master.Action.alone

def readTwo (first second : UInt8) (events : List BusEvent) : Turn Bool where
  call := (Master.Action.readAsync 0x2D ⟨false, 0⟩ 2 true).alone
  steps := bytesGiven first second
  events := events ++ [.address (sentAddress 0x2D) true, .request, .interrupt, .request, .interrupt,
    .finish true, .interrupt]

def oneMessage : Turn Bool where
  call := (Master.Action.writeAsync 0x2D ⟨true, 0⟩ 1 true).alone
  steps := bytesTaken 1 stopped
  events := [.address (sentAddress 0x2D) false, .byte 0x11, .interrupt, .finish true]

def messageAndAnswer : List (Turn Bool) := [oneMessage, readTwo 0x22 0 []]

def mailBuffers : Slave.MailBuffers Bool where
  receive := ⟨true, 0⟩
  receiveSize := 2
  transmit := ⟨false, 0⟩
  transmitSize := 1
  separate := by decide

def mailLoopback : Loopback Bool Bool (List (List UInt8)) :=
  reached (fun _ _ => 0x11) powerUp (Slave.mailbox mailBuffers (fun _ _ => 0x22) (.listen 0x2D)) []

def answeredMail : Loopback Bool Bool (List (List UInt8)) :=
  run Loopback.step mailLoopback messageAndAnswer

theorem mailbox_receives_one : answeredMail.slave.bus.slave.app = [[0x11]] := by
  have delivers : Along Loopback.step Delivers mailLoopback messageAndAnswer := by decide +kernel
  have settled : answeredMail.slave.Settled := by decide +kernel
  have sent : (emitted Loopback.step (sent (Slave.ListenForm.listen 0x2D).covers) mailLoopback
      messageAndAnswer).map (·.take mailBuffers.receiveSize) = [[0x11]] := by
    decide +kernel
  have inbox := (mailbox_receives (fun _ _ => 0x11) powerUp mailBuffers (fun _ _ => 0x22)
    (.listen 0x2D) [] messageAndAnswer (by decide) delivers).1 settled
  exact inbox.trans sent

/-- Write 0x55 to register 1, aim at it, and read from there to the end after a repeated START. -/
def registerAndValue : List (Turn Bool) :=
  [{ call := (Master.Action.writeAsync 0x2D ⟨true, 0⟩ 2 true).alone
     steps := bytesTaken 2 stopped
     events := [.address (sentAddress 0x2D) false, .byte 1, .interrupt, .byte 0x55, .interrupt,
       .finish true] },
   { call := (Master.Action.writeAsync 0x2D ⟨true, 0⟩ 1 false).alone
     steps := bytesTaken 1 []
     events := [.interrupt, .address (sentAddress 0x2D) false, .byte 1, .interrupt] },
   readTwo 0x55 0 [.finish false]]

def registerLoopback : Loopback Bool RegisterObject (I2CRegisterSlave Unit) :=
  reached (fun _ i => if i = 0 then 1 else 0x55) powerUp
    (I2CRegisterSlave.listen
      (I2CRegisterSlave.construct I2CRegisterSlave.twoRegisters fun _ _ => 0) 0x2D) []

def servedRegister : Loopback Bool RegisterObject (I2CRegisterSlave Unit) :=
  run Loopback.step registerLoopback registerAndValue

theorem registers_served_one :
    servedRegister.slave.bus.slave.memory.slice ⟨.mutableBuffer, 0⟩ 2 = [0, 0x55] := by
  have delivers : Along Loopback.step Delivers registerLoopback registerAndValue := by
    decide +kernel
  have settled : servedRegister.slave.Settled := by decide +kernel
  have automaton : (run Registers.stepDriver (I2CRegisterSlave.twoRegisters.registers fun _ _ => 0)
      (transfers servedRegister.slave.frames)).mutableBytes = [0, 0x55] := by
    decide +kernel
  obtain ⟨-, stored, -⟩ := registers_served (fun _ i => if i = 0 then 1 else 0x55) powerUp
    I2CRegisterSlave.twoRegisters (fun _ _ => 0) 0x2D [] registerAndValue (by decide) delivers
  exact (stored settled).1.trans automaton

end Loopback
end TeensyI2C
