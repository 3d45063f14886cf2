import TeensyI2C.Loopback.Transfers
import TeensyI2C.WireHandlers

/-!
A sketch with Wire handlers behind the real master.
-/

namespace TeensyI2C
open ObjectMemory EventMachine ClientPrograms

namespace Loopback
variable {O P ν : Type} [Inhabited O] [DecidableEq O] [Inhabited P] [DecidableEq P]

section
variable (B : WireBuffers P) (handlers : SketchHandlers ν)

theorem next_message (k : SketchState ν) (t : Transfer) :
    handlers.next k t.message = handlers.next k t := by
  cases t <;> rfl

omit [DecidableEq O] in
theorem tracked_handlers {master : Master O} (settled : master.Settled)
    (bound : master.port.txFifo.length ≤ numFifos) {k : SketchState ν} {s : Slave P (SketchWire ν)}
    (rests : SketchWire.Rests B handlers k s) (form : Slave.ListenForm) (events : List BusEvent) :
    Tracked handlers.next handlers.answer (SketchWire.Runs B handlers) k form.covers
      { master := master
        slave := run Heard.step (Heard.listening (SketchWire.begin B s form)) events } := by
  have covers : (SketchWire.begin B s form).port.answersTo = form.covers :=
    funext fun address => Slave.answersTo_listen _ form address
  exact covers ▸ tracked_listening (SketchWire.handlers_account B handlers) (rests.begin form)
    settled bound events

end

/-- The two drivers and the object together run the handlers on two queues: `on_receive` finds the
caller's messages one by one, and reads bring what `on_request` has written for them. -/
theorem handlers_served (memory : Memory O UInt8) (history : List (Master.Step O))
    (B : WireBuffers P) (handlers : SketchHandlers ν) (app : ν) (slaveMemory : Memory P UInt8)
    (form : Slave.ListenForm) (events : List BusEvent) (turns : List (Turn O)) :
    let x : Loopback O P (SketchWire ν) := reached memory history
      (SketchWire.begin B (SketchWire.withHandlers handlers app slaveMemory) form) events
    let y := run Loopback.step x turns
    let sketch (x : Loopback O P (SketchWire ν)) :=
      run handlers.next { incoming := [], outgoing := [], app := app } (transfers x.slave.frames)
    Along Loopback.step Delivers x turns →
      sketch y =
          run handlers.next (sketch x) (emitted Loopback.step (asked form.covers) x turns) ∧
        (y.slave.Settled → y.slave.bus.slave.app.app = (sketch y).app ∧
          WireView.Holds B (y.slave.bus.slave.app.view y.slave.bus.slave.memory)
            (sketch y).toWireQueues) ∧
        Along Loopback.step (ReadsBack form.covers fun x =>
          Slave.padded (handlers.request (sketch x)).outgoing) x turns := by
  intro x y sketch delivers
  have acc := SketchWire.handlers_account B handlers
  have tracked := tracked_handlers B handlers (Master.settled_run memory history)
    (Master.txFifo_run memory history) (SketchWire.rests_withHandlers B handlers app slaveMemory)
    form events
  refine ⟨tracked.heard_run acc delivers (next_message handlers), fun settled => ?_,
    tracked.reads acc delivers (next_message handlers) fun _ bytes count part => ?_⟩
  · have runs := (((tracked.run acc turns).accounted).settled settled).1
    exact ⟨runs.app, runs.holds⟩
  · exact eq_of_isPrefix (Slave.take_padded _) (Slave.length_padded _) part

/-- A sketch that counts its messages and gives back the first byte of the last one. -/
def echo : SketchHandlers Nat where
  onReceive := some fun _ count => .done (count + 1)
  onRequest := some fun count =>
    .call .read fun data => .call (.write (.byte (.ofNat data.toNat))) fun _ => .done count

def echoBuffers : WireBuffers Bool where
  txBuffer := false
  rxBuffer := true
  separate := by decide

def echoLoopback : Loopback Bool Bool (SketchWire Nat) :=
  reached (fun _ _ => 0x11) powerUp (SketchWire.begin echoBuffers
    (SketchWire.withHandlers echo 0 fun _ _ => 0) (.listen 0x2D)) []

def echoedMessage : Loopback Bool Bool (SketchWire Nat) :=
  run Loopback.step echoLoopback [oneMessage, readTwo 0x11 0 []]

theorem handlers_served_echo : echoedMessage.slave.bus.slave.app.app = 1 := by
  have delivers : Along Loopback.step Delivers echoLoopback [oneMessage, readTwo 0x11 0 []] := by
    decide +kernel
  have settled : echoedMessage.slave.Settled := by decide +kernel
  have counted : (run echo.next { incoming := [], outgoing := [], app := 0 }
      (transfers echoedMessage.slave.frames)).app = 1 := by
    decide +kernel
  obtain ⟨-, served, -⟩ := handlers_served (fun _ _ => 0x11) powerUp echoBuffers echo 0
    (fun _ _ => 0) (.listen 0x2D) [] [oneMessage, readTwo 0x11 0 []] delivers
  exact (served settled).1.trans counted

end Loopback
end TeensyI2C
