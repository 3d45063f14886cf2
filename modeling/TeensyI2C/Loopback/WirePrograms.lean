import TeensyI2C.Loopback.Sketches
import TeensyI2C.Loopback.TurnLog
import TeensyI2C.WireMaster

/-!
A sketch that uses `I2CDriverWire` as a master on one board, and a sketch with handlers on the
other. Neither can tell the two boards from four queues.
-/

namespace TeensyI2C
open ObjectMemory EventMachine ClientPrograms I2CDriverWire

/-! ### The calls that stay on the board -/

namespace WireMaster
variable {O : Type} [Inhabited O] [DecidableEq O] (B : WireBuffers O)

def view (wire : WireMaster O) : WireView O where
  memory := wire.master.memory
  txNextByteToWrite := wire.txNextByteToWrite
  rxBytesAvailable := wire.rxBytesAvailable
  rxNextByteToRead := wire.rxNextByteToRead

/-- What the arrays hold. -/
def queues (wire : WireMaster O) : WireQueues where
  incoming :=
    (wire.master.memory.slice ⟨B.rxBuffer, 0⟩ wire.rxBytesAvailable).drop wire.rxNextByteToRead
  outgoing := wire.outgoing.contents B

/-- What a handler may call as well. -/
def inHand : Object HandlerCall HandlerCall.Result (WireMaster O)
  | .available, wire => (wire.available, wire)
  | .read, wire => ((wire.read B).2, (wire.read B).1)
  | .peek, wire => (wire.peek B, wire)
  | .write w, wire => ((wire.write B w).2, (wire.write B w).1)

variable {B} {wire : WireMaster O}

omit [DecidableEq O] in
theorem Sound.holds (sound : wire.Sound) : WireView.Holds B wire.view (wire.queues B) :=
  ⟨sound.next, sound.available, rfl, sound.tx, rfl⟩

theorem inHand_eq (op : HandlerCall) :
    let called := WireView.call B op wire.view
    (inHand B op wire).1 = called.1 ∧
      (inHand B op wire).2.view = { called.2 with accesses := [] } := by
  cases op with
  | available | write w => exact ⟨rfl, rfl⟩
  | read | peek =>
      by_cases some : wire.rxNextByteToRead < wire.rxBytesAvailable <;>
        simp [inHand, WireMaster.read, WireMaster.peek, WireMaster.nextByte, WireView.call,
          WireView.nextByte, view, some]

variable (wire) in
theorem inHand_board (op : HandlerCall) :
    ∃ memory, (inHand B op wire).2.master = { wire.master with memory := memory } ∧
      (inHand B op wire).2.writeAddress = wire.writeAddress := by
  cases op with
  | available | peek | write w => exact ⟨_, rfl, rfl⟩
  | read =>
      by_cases some : wire.rxNextByteToRead < wire.rxBytesAvailable <;>
        simp only [inHand, WireMaster.read, some, if_true, if_false] <;> exact ⟨_, rfl, trivial⟩

end WireMaster

/-! ### Two boards -/

/-- The calls of a sketch on the object in master mode. -/
inductive SketchCall where
  | beginTransmission (address : Int)
  | endTransmission (stop : Int)
  | requestFrom (address quantity stop : Int)
  | inHand (op : HandlerCall)
deriving DecidableEq, Repr

abbrev SketchCall.Result : SketchCall → Type
  | .beginTransmission _ => Unit
  | .endTransmission _ | .requestFrom _ _ _ => UInt8
  | .inHand op => op.Result

/-- What happens while the sketch waits for the bus, and from there until it next uses the bus. -/
structure Occasion (O : Type) where
  meanwhile : WireMaster.Meanwhile := []
  wait : WireMaster.Wait O := ⟨[], []⟩
  events : List BusEvent := []
deriving Inhabited

structure SketchBoards (O P ν : Type) [Inhabited O] [Inhabited P] where
  wire : WireMaster O
  slave : Heard P (SketchWire ν)
  future : List (Occasion O)
  turns : Loopback.TurnLog O P (SketchWire ν) := []

namespace SketchBoards
variable {O P ν : Type} [Inhabited O] [DecidableEq O] [Inhabited P] [DecidableEq P]

def drivers (w : SketchBoards O P ν) : Loopback O P (SketchWire ν) where
  master := w.wire.master
  slave := w.slave

def now (w : SketchBoards O P ν) : Occasion O := w.future.headD default

def turn (w : SketchBoards O P ν) (call : Master.Step O) : Turn O where
  call := call
  steps := (WireMaster.waited (w.wire.master.step call) w.now.wait).map Subtype.val
  events := w.now.events

def wentOn (w : SketchBoards O P ν) (call : Master.Step O) (wire : WireMaster O) :
    SketchBoards O P ν where
  wire := wire
  slave := run Heard.step w.slave w.now.events
  future := w.future.tail
  turns := (w.drivers, w.turn call) :: w.turns

def call (B : WireBuffers O) : Object SketchCall SketchCall.Result (SketchBoards O P ν)
  | .beginTransmission address, w => ((), { w with wire := w.wire.beginTransmission address })
  | .endTransmission stop, w =>
      let ended := w.wire.endTransmission B stop w.now.meanwhile w.now.wait
      (ended.2, w.wentOn (w.wire.writeCall B stop w.now.meanwhile) ended.1)
  | .requestFrom address quantity stop, w =>
      let asked := w.wire.requestFrom B address quantity stop w.now.meanwhile w.now.wait
      (asked.2, w.wentOn (WireMaster.readCall B address quantity stop w.now.meanwhile) asked.1)
  | .inHand op, w =>
      let called := WireMaster.inHand B op w.wire
      (called.1, { w with wire := called.2 })

end SketchBoards

/-- What the two boards amount to: the queues of either object, the address of the transmission,
and the state of the sketch with the handlers. -/
structure SketchPair (ν : Type) where
  writeAddress : UInt8 := 0
  master : WireQueues
  slave : SketchState ν
deriving DecidableEq, Repr

/-- A transmission goes to the slave if it has the address, and a request brings what its handler
has written for it. -/
def SketchPair.call {ν : Type} (handlers : SketchHandlers ν) (covers : BusAddress → Bool) :
    Object SketchCall SketchCall.Result (SketchPair ν)
  | .beginTransmission address, p =>
      ((), { p with writeAddress := UInt8.ofInt address, master.outgoing := [] })
  | .endTransmission _, p =>
      (0, { p with
        slave :=
          if covers (sentAddress p.writeAddress) then
            (Transfer.ofBytes p.master.outgoing).elim p.slave (handlers.next p.slave)
          else p.slave })
  | .requestFrom _ quantity _, p =>
      let count := min (sizeOfInt quantity) rxBufferLength
      let slave := handlers.request p.slave
      (UInt8.ofNat count,
        { p with master.incoming := Slave.padded slave.outgoing count, slave := slave })
  | .inHand op, p =>
      let called := WireQueues.call op p.master
      (called.1, { p with master := called.2 })

namespace SketchBoards
variable {O P ν : Type} [Inhabited O] [DecidableEq O] [Inhabited P] [DecidableEq P]
  {B : WireBuffers O} {B' : WireBuffers P} {handlers : SketchHandlers ν} {k₀ : SketchState ν}
  {covers : BusAddress → Bool} {w : SketchBoards O P ν} {p : SketchPair ν}

/-- The turns go through, and the sketch reads from the slave only. -/
def WentWell (covers : BusAddress → Bool) (w : SketchBoards O P ν) : Prop :=
  w.turns.WentThrough ∧
    ∀ p ∈ w.turns, ∀ asked ∈ p.2.call.action.reads, covers (sentAddress asked.1) = true

instance (covers : BusAddress → Bool) (w : SketchBoards O P ν) : Decidable (w.WentWell covers) := by
  unfold WentWell
  infer_instance

structure Shows (B : WireBuffers O) (B' : WireBuffers P) (handlers : SketchHandlers ν)
    (k₀ : SketchState ν) (covers : BusAddress → Bool) (w : SketchBoards O P ν)
    (p : SketchPair ν) : Prop where
  slave : w.drivers.ComesTo handlers.next handlers.answer (SketchWire.Runs B' handlers) k₀ covers
    p.slave
  queues : WireView.Holds B w.wire.view p.master
  address : w.wire.writeAddress = p.writeAddress

theorem WentWell.latest {call : Master.Step O} {wire : WireMaster O}
    (well : (w.wentOn call wire).WentWell covers) :
    w.drivers.Fulfils (w.turn call) ∧ w.WentWell covers ∧
      ∀ asked ∈ call.action.reads, covers (sentAddress asked.1) = true := by
  obtain ⟨went, reads⟩ := well
  obtain ⟨fulfils, before⟩ := went.latest
  obtain ⟨here, others⟩ := List.forall_mem_cons.mp reads
  exact ⟨fulfils, ⟨before, others⟩, here⟩

theorem drivers_wentOn {call : Master.Step O} {wire : WireMaster O}
    (waited : wire.master = WireMaster.finish (w.wire.master.step call) w.now.wait) :
    (w.wentOn call wire).drivers = w.drivers.step (w.turn call) := by
  unfold drivers wentOn
  rw [waited]
  rfl

theorem Shows.beginTransmission (shows : Shows B B' handlers k₀ covers w p) (address : Int) :
    Shows B B' handlers k₀ covers (call B (.beginTransmission address) w).2
      (SketchPair.call handlers covers (.beginTransmission address) p).2 where
  slave := shows.slave
  queues := {
    next := shows.queues.next
    available := shows.queues.available
    incoming := shows.queues.incoming
    bounded := Nat.zero_le _
    outgoing := rfl }
  address := rfl

theorem Shows.inHand (shows : Shows B B' handlers k₀ covers w p) (op : HandlerCall) :
    (call B (.inHand op) w).1 = (SketchPair.call handlers covers (.inHand op) p).1 ∧
      Shows B B' handlers k₀ covers (call B (.inHand op) w).2
        (SketchPair.call handlers covers (.inHand op) p).2 := by
  obtain ⟨slave, queues, address⟩ := shows
  obtain ⟨same, view⟩ : _ ∧ (WireMaster.inHand B op w.wire).2.view = _ :=
    WireMaster.inHand_eq op
  obtain ⟨memory, master, writeAddress⟩ := WireMaster.inHand_board (B := B) w.wire op
  refine ⟨same.trans (WireView.simulates.answer queues op), ?_, ?_, writeAddress.trans address⟩
  · have kept := slave.setMemory memory
    unfold drivers at kept ⊢
    dsimp only [call]
    rw [master]
    exact kept
  · dsimp only [call]
    rw [view]
    exact { WireView.simulates.state queues op with }

theorem Shows.endTransmission (shows : Shows B B' handlers k₀ covers w p) (stop : Int)
    (well : (call B (.endTransmission stop) w).2.WentWell covers) :
    (call B (.endTransmission stop) w).1 = 0 ∧
      Shows B B' handlers k₀ covers (call B (.endTransmission stop) w).2
        (SketchPair.call handlers covers (.endTransmission stop) p).2 := by
  obtain ⟨slave, queues, address⟩ := shows
  let writeCall := w.wire.writeCall B stop w.now.meanwhile
  obtain ⟨⟨delivers, -⟩, -, -⟩ := well.latest
  have kind : (w.turn writeCall).call.action =
      .writeAsync w.wire.writeAddress ⟨B.txBuffer, 0⟩ w.wire.txNextByteToWrite (stop != 0) := rfl
  have sound := slave.tracked.sound
  have memory := delivers.1.memory_write sound.settled sound.bound kind
  have unfailed : ((w.turn writeCall).after w.wire.master).error = .ok := by
    obtain ⟨-, went⟩ := delivers.1
    rw [kind] at went
    exact (hasError_eq_false _).mp went.2.2.2.1
  refine ⟨congrArg toWireResult unfailed, ?_, ?_, address⟩
  · have heard := slave.write (SketchWire.handlers_account B' handlers)
      (Loopback.next_message handlers) delivers kind
    have payload : w.wire.master.memory.slice ⟨B.txBuffer, 0⟩ w.wire.txNextByteToWrite =
        p.master.outgoing := queues.outgoing
    dsimp only [call]
    rw [drivers_wentOn rfl]
    dsimp only [SketchPair.call]
    rw [← address, ← payload]
    exact heard
  · have view : (w.wire.endTransmission B stop w.now.meanwhile w.now.wait).1.view =
        w.wire.view :=
      congrArg (fun memory => { w.wire.view with memory := memory }) memory
    dsimp only [call, wentOn]
    rw [view]
    exact queues

theorem Shows.requestFrom (shows : Shows B B' handlers k₀ covers w p) (address quantity stop : Int)
    (well : (call B (.requestFrom address quantity stop) w).2.WentWell covers) :
    let op := SketchCall.requestFrom address quantity stop
    (call B op w).1 = (SketchPair.call handlers covers op p).1 ∧
      Shows B B' handlers k₀ covers (call B op w).2 (SketchPair.call handlers covers op p).2 := by
  intro op
  obtain ⟨slave, queues, writeAddress⟩ := shows
  let readCall := WireMaster.readCall B address quantity stop w.now.meanwhile
  let count := min (sizeOfInt quantity) rxBufferLength
  obtain ⟨fulfils, -, covered⟩ := well.latest
  have kind : (w.turn readCall).call.action =
      .readAsync (UInt8.ofInt address) ⟨B.rxBuffer, 0⟩ count (stop != 0) := rfl
  obtain ⟨heard, bytes⟩ := slave.read (SketchWire.handlers_account B' handlers)
    (Loopback.next_message handlers) fulfils kind (covered _ rfl) (fun _ => rfl)
    (Slave.take_padded _) (Slave.length_padded _)
  obtain ⟨delivers, whole⟩ := fulfils
  have others := delivers.1.memory_read slave.tracked.sound.bound kind B.separate
  have available : (w.wire.requestFrom B address quantity stop w.now.meanwhile
      w.now.wait).1.rxBytesAvailable = count := whole _ rfl
  refine ⟨congrArg UInt8.ofNat available, ?_, ?_, writeAddress⟩
  · dsimp only [op, call]
    rw [drivers_wentOn rfl]
    exact heard
  · refine ⟨Nat.zero_le _, ?_, ?_, queues.bounded, ?_⟩
    · exact available.trans_le (Nat.min_le_right _ _)
    · have brought := congrArg
        ((w.drivers.step (w.turn readCall)).master.memory.slice ⟨B.rxBuffer, 0⟩) available
      exact List.drop_zero.trans (brought.trans bytes)
    · exact (Memory.slice_congr others _ _).trans queues.outgoing

theorem implements_pair (B : WireBuffers O) (B' : WireBuffers P) (handlers : SketchHandlers ν)
    (k₀ : SketchState ν) (covers : BusAddress → Bool) :
    Implements (call B).fallible (SketchPair.call handlers covers) (WentWell covers)
      (Shows B B' handlers k₀ covers) where
  before := by
    intro op w answer w' called well
    obtain ⟨-, rfl⟩ := Prod.mk.inj (Option.some.inj called)
    cases op with
    | beginTransmission address => exact well
    | endTransmission stop => exact well.latest.2.1
    | requestFrom address quantity stop => exact well.latest.2.1
    | inHand op => exact well
  step := by
    intro op w p answer w' shows called well
    obtain ⟨rfl, rfl⟩ := Prod.mk.inj (Option.some.inj called)
    cases op with
    | beginTransmission address => exact ⟨rfl, shows.beginTransmission address⟩
    | endTransmission stop => exact (shows.endTransmission stop well).imp Eq.symm id
    | requestFrom address quantity stop =>
        exact (shows.requestFrom address quantity stop well).imp Eq.symm id
    | inHand op => exact (shows.inHand op).imp Eq.symm id

/-- Two sketches, one with the object as a master and one with handlers, cannot tell the two boards
from four queues, however hardware, service routines and sketches take turns, as long as the
transfers go through. The first object may have been used in any way since power-up, and `begin` is
called on the second when its driver is between two frames. -/
theorem sketches_served {α : Type} (B : WireBuffers O) (memory : Memory O UInt8)
    (earlier : List (WireMaster.Action O)) (B' : WireBuffers P) (handlers : SketchHandlers ν)
    (k₀ : SketchState ν) (s : Slave P (SketchWire ν)) (rests : SketchWire.Rests B' handlers k₀ s)
    (form : Slave.ListenForm) (events : List BusEvent) (future : List (Occasion O))
    (program : Program SketchCall SketchCall.Result α) :
    let wire := run (WireMaster.step B) (WireMaster.fresh memory) earlier
    let slave := run Heard.step (Heard.listening (SketchWire.begin B' s form)) events
    let boards := program.exec (call B) { wire := wire, slave := slave, future := future }
    let pair := program.exec (SketchPair.call handlers form.covers)
      { writeAddress := wire.writeAddress
        master := wire.queues B
        slave := run handlers.next k₀ (transfers slave.frames) }
    boards.2.WentWell form.covers →
      pair.1 = boards.1 ∧
        (boards.2.slave.Settled →
          let object := boards.2.slave.bus.slave.app
          object.app = pair.2.slave.app ∧
            WireView.Holds B' (object.view boards.2.slave.bus.slave.memory)
              pair.2.slave.toWireQueues) := by
  intro wire slave boards pair well
  have sound : wire.Sound := WireMaster.sound_run memory earlier
  have tracked := Loopback.tracked_handlers B' handlers sound.settled sound.attached.room rests
    form events
  have shows : Shows B B' handlers k₀ form.covers { wire := wire, slave := slave, future := future }
      { writeAddress := wire.writeAddress
        master := wire.queues B
        slave := run handlers.next k₀ (transfers slave.frames) } :=
    ⟨⟨tracked, rfl⟩, sound.holds, rfl⟩
  obtain ⟨same, last⟩ := (implements_pair B B' handlers _ form.covers).attempt shows
    (Program.attempt_fallible (call B) program _) well
  refine ⟨same, fun settled => ?_⟩
  have runs := (last.slave.tracked.accounted.settled settled).1
  rw [last.slave.heard] at runs
  exact ⟨runs.app, runs.holds⟩

/-- Send a byte, ask for two, and look at the first of them. -/
def sendAndAsk : Program SketchCall SketchCall.Result (UInt8 × UInt8 × Int) :=
  .call (.beginTransmission 0x2D) fun _ => .call (.inHand (.write (.byte 0x11))) fun _ =>
    .call (.endTransmission 1) fun result => .call (.requestFrom 0x2D 2 1) fun count =>
      .call (.inHand .read) fun data => .done (result, count, data)

def sentAndAnswered : List (Occasion Bool) :=
  let taken : List (Master.Action Bool) := [.hardware .fetch, .hardware .ack]
  let stopped : List (Master.Action Bool) := [.hardware .fetch, .hardware .stopDone, .isr]
  [{ wait := ⟨[unattended (taken ++ [.isr] ++ taken ++ [.isr] ++ stopped)], []⟩
     events := [.address (sentAddress 0x2D) false, .byte 0x11, .interrupt, .finish true] },
   { wait := ⟨[unattended (taken ++ [.hardware .fetch, .hardware (.receiveByte 0x11), .isr,
       .hardware (.receiveByte 0), .isr] ++ stopped)], []⟩
     events := [.address (sentAddress 0x2D) true, .request, .interrupt, .request, .interrupt,
       .finish true, .interrupt] }]

/-- A byte for another slave, which has not been sent. -/
def writtenEarlier : List (WireMaster.Action Bool) :=
  [.begin 100000 [], .beginTransmission 0x30, .write (.byte 7)]

def echoBoards : SketchBoards Bool Bool Nat where
  wire := run (WireMaster.step wireBuffers) (WireMaster.fresh fun _ _ => 0) writtenEarlier
  slave := Heard.listening (SketchWire.begin Loopback.echoBuffers
    (SketchWire.withHandlers Loopback.echo 0 fun _ _ => 0) (.listen 0x2D))
  future := sentAndAnswered

theorem sketches_served_echo :
    (sendAndAsk.exec (call wireBuffers) echoBoards).1 = (0, 2, 0x11) ∧
      (sendAndAsk.exec (call wireBuffers) echoBoards).2.slave.bus.slave.app.app = 1 := by
  have well : (sendAndAsk.exec (call wireBuffers) echoBoards).2.WentWell
      (Slave.ListenForm.listen 0x2D).covers := by
    decide +kernel
  have settled : (sendAndAsk.exec (call wireBuffers) echoBoards).2.slave.Settled := by
    decide +kernel
  obtain ⟨same, served⟩ := sketches_served wireBuffers (fun _ _ => 0) writtenEarlier
    Loopback.echoBuffers Loopback.echo { incoming := [], outgoing := [], app := 0 } _
    (SketchWire.rests_withHandlers Loopback.echoBuffers Loopback.echo 0 fun _ _ => 0)
    (.listen 0x2D) [] sentAndAnswered sendAndAsk well
  exact ⟨same.symm.trans (by decide +kernel), (served settled).1.trans (by decide +kernel)⟩

end SketchBoards
end TeensyI2C
