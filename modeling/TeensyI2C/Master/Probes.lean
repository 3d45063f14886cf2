import TeensyI2C.Master.NakClasses
import TeensyI2C.Master.QuietStart

/-!
An empty write asks whether there is a slave at an address. The driver queues a START and a STOP,
and the answer to the START decides what it reports.
-/

namespace TeensyI2C
open ObjectMemory Interference EventMachine MasterPort

namespace MasterPort

/-- Nothing is left of earlier calls but STOPs that nobody needs. -/
structure Idle (p : MasterPort) : Prop where
  stops : ∀ command ∈ p.txFifo, command = .stop
  rxFifo : p.rxFifo = []
  executing : p.executing = none
  mbf : p.mbf = false

/-- A call has been announced, and the flags are these. -/
structure Expecting (ndf sdf : Bool) (p : MasterPort) : Prop extends Blank p where
  awaiting : p.awaitingStart = true
  ndf : p.ndf = ndf
  sdf : p.sdf = sdf

/-- The START of a probe has not been answered. -/
structure Asking (data : UInt8) (ending : List Command) (p : MasterPort) : Prop where
  rxFifo : p.rxFifo = []
  ndf : p.ndf = false
  sdf : p.sdf = false
  place :
    p.awaitingStart = true ∧ p.txFifo = .start data :: ending ∧ p.executing = none ∧
        p.mbf = false ∨
      p.awaitingStart = false ∧ p.txFifo = ending ∧ p.executing = some (.start data) ∧
        p.mbf = true ∧ p.acknowledged = []

/-- The START has been answered, and the master is leaving the bus. -/
structure Leaving (acknowledged : List Command) (p : MasterPort) : Prop where
  begun : p.awaitingStart = false
  acknowledged : p.acknowledged = acknowledged
  stops : ∀ command ∈ p.txFifo, command = .stop
  rxFifo : p.rxFifo = []
  executing : p.executing = none ∨ p.executing = some .stop
  ended : p.sdf = true → p.mbf = false
  off : p.mbf = false → p.executing = none

/-- How far the hardware has come with a probe, as long as it does not lose the bus. -/
def Probed (data : UInt8) (ending : List Command) (p : MasterPort) : Prop :=
  p.alf = true ∨ p.Asking data ending ∨ p.Leaving [.start data] ∧ p.ndf = false ∨
    p.Leaving [] ∧ p.ndf = true

variable {p : MasterPort} {data : UInt8} {ending acknowledged : List Command}

theorem fetch_stops (stops : ∀ command ∈ p.txFifo, command = .stop) :
    p.fetch = p ∨ ∃ rest, p.executing = none ∧ p.txFifo = .stop :: rest ∧
      p.fetch = { p with
        txFifo := rest
        executing := if p.mbf then some .stop else none } := by
  cases executing : p.executing with
  | some command => exact .inl (by simp [fetch, executing])
  | none =>
      cases queued : p.txFifo with
      | nil => exact .inl (by simp [fetch, executing, queued])
      | cons command rest =>
          obtain rfl : command = .stop := stops command (by simp [queued])
          refine .inr ⟨rest, rfl, rfl, ?_⟩
          cases mbf : p.mbf <;> simp [fetch, executing, queued, mbf]

theorem stable_idle : Stable apply Idle := by
  rintro p e ⟨stops, rx, executing, mbf⟩
  have taken := fetch_stops stops
  cases e <;> grind [Idle, apply, ack, nak, offered, receiveByte, autoStop, stopsByItself,
    stopDone, arbitrationLost]

theorem stable_expecting_flags (ndf sdf : Bool) : Stable apply (Expecting ndf sdf) := by
  intro p e expecting
  refine ⟨stable_blank p e expecting.toBlank, ?_, ?_, ?_⟩ <;>
  · obtain ⟨⟨tx, rx, executing, mbf⟩, awaiting, ndf, sdf⟩ := expecting
    cases e <;> grind [apply, fetch, ack, nak, offered, receiveByte, autoStop, stopDone,
      arbitrationLost]

theorem stable_leaving (acknowledged : List Command) : Stable apply (Leaving acknowledged) := by
  rintro p e ⟨begun, taken, stops, rx, executing, ended, off⟩
  have fetched := fetch_stops stops
  cases e <;> grind [Leaving, apply, ack, nak, offered, receiveByte, autoStop, stopDone,
    arbitrationLost, stopsByItself]

theorem stable_leaving_ndf (acknowledged : List Command) (ndf : Bool) :
    Stable apply fun p => p.Leaving acknowledged ∧ p.ndf = ndf := by
  rintro p e ⟨leaving, same⟩
  refine ⟨stable_leaving _ p e leaving, ?_⟩
  obtain ⟨-, -, stops, -, executing, -, -⟩ := leaving
  have fetched := fetch_stops stops
  cases e <;> grind [apply, ack, nak, offered, receiveByte, autoStop, stopDone, arbitrationLost]

theorem stable_leaving_off (acknowledged : List Command) :
    Stable apply fun p => p.Leaving acknowledged ∧ p.mbf = false := by
  rintro p e ⟨leaving, same⟩
  refine ⟨stable_leaving _ p e leaving, ?_⟩
  obtain ⟨-, -, stops, -, executing, -, off⟩ := leaving
  have fetched := fetch_stops stops
  cases e <;> grind [apply, ack, nak, offered, receiveByte, autoStop, stopDone, arbitrationLost,
    stopsByItself]

theorem stable_probed (stops : ∀ command ∈ ending, command = .stop) :
    Stable apply (Probed data ending) := by
  rintro p e (lost | ⟨rx, ndf, sdf, place⟩ | taken | refused)
  · refine .inl ?_
    cases e <;> grind [apply, fetch, ack, nak, offered, receiveByte, autoStop, stopDone,
      arbitrationLost]
  · rcases place with ⟨awaiting, queued, none, off⟩ | ⟨begun, queued, offering, on, fresh⟩
    · cases e <;> grind [Probed, Asking, apply, fetch, ack, nak, offered, receiveByte, autoStop,
        stopDone, arbitrationLost, stopsByItself]
    · cases e <;> grind [Probed, Asking, Leaving, apply, fetch, ack, nak, offered, receiveByte,
        autoStop, stopDone, arbitrationLost, stopsByItself]
  · exact .inr (.inr (.inl (stable_leaving_ndf _ _ p e taken)))
  · exact .inr (.inr (.inr (stable_leaving_ndf _ _ p e refused)))

/-! ### What the driver writes -/

theorem Leaving.of_mem {f : MasterPort → MasterPort} (leaving : p.Leaving acknowledged)
    (listed : Master.EndingWrites f) : (f p).Leaving acknowledged := by
  obtain ⟨begun, taken, stops, rx, executing, ended, off⟩ := leaving
  simp only [Master.EndingWrites, Master.registerWrites, List.mem_cons, List.not_mem_nil,
    or_false] at listed
  rcases listed with rfl | rfl | rfl | rfl | rfl | rfl | rfl | rfl | rfl | rfl | rfl | rfl | rfl <;>
    grind [Leaving, send, resetTxFifo, resetRxFifo, setTdie, setMen, clearNdf, clearAlf, clearFef,
      clearPltf, clearSdf, takeReceived]

theorem Leaving.ndf_of_mem {f : MasterPort → MasterPort}
    (leaving : p.Leaving acknowledged ∧ p.ndf = false) (listed : Master.EndingWrites f) :
    (f p).Leaving acknowledged ∧ (f p).ndf = false := by
  refine ⟨leaving.1.of_mem listed, ?_⟩
  simp only [Master.EndingWrites, Master.registerWrites, List.mem_cons, List.not_mem_nil,
    or_false] at listed
  rcases listed with rfl | rfl | rfl | rfl | rfl | rfl | rfl | rfl | rfl | rfl | rfl | rfl | rfl
  case inr.inr.inr.inr.inr.inr.inr.inr.inl => rfl
  all_goals exact leaving.2

theorem Leaving.off_of_mem {f : MasterPort → MasterPort}
    (leaving : p.Leaving acknowledged ∧ p.mbf = false) (listed : Master.EndingWrites f) :
    (f p).Leaving acknowledged ∧ (f p).mbf = false :=
  ⟨leaving.1.of_mem listed, ((Master.ordinary_of_ending listed).mbf p).trans leaving.2⟩

theorem Probed.send_stop (probed : p.Probed data []) : (p.send .stop).Probed data [.stop] := by
  rcases probed with lost | ⟨rx, ndf, sdf, place⟩ | ⟨taken, ndf⟩ | ⟨refused, ndf⟩
  · exact .inl lost
  · refine .inr (.inl ⟨rx, ndf, sdf, ?_⟩)
    rcases place with ⟨awaiting, queued, rest⟩ | ⟨begun, queued, rest⟩
    · exact .inl ⟨awaiting, by simp [send, queued], rest⟩
    · exact .inr ⟨begun, by simp [send, queued], rest⟩
  · exact .inr (.inr (.inl ⟨taken.of_mem (by simp [Master.EndingWrites]), ndf⟩))
  · exact .inr (.inr (.inr ⟨refused.of_mem (by simp [Master.EndingWrites]), ndf⟩))

end MasterPort

namespace Master
variable {O : Type} [Inhabited O] {s : Master O} {data : UInt8}

theorem sendStart_expecting (blank : s.port.Blank) (address direction : UInt8) :
    ∃ p : MasterPort, p.Expecting false false ∧
      (s.sendStart address direction).port =
        p.send (.start (((address &&& 0x7F) <<< 1) ||| direction)) := by
  let expecting : Master O := { s with bus.device := s.port.expectStart }
  have told : expecting.port.Expecting s.port.ndf s.port.sdf :=
    ⟨⟨blank.txFifo, blank.rxFifo, blank.executing, blank.mbf⟩, rfl, rfl, rfl⟩
  have looked := pass_stable (stable_expecting_flags _ _) told
  have again := pass_stable (stable_expecting_flags _ _) looked
  have ndf : (expecting.pass.pass.port.ndf && !expecting.pass.port.ndf) = false := by
    rw [again.ndf, looked.ndf, Bool.and_not_self]
  have sdf : (expecting.pass.pass.port.sdf && !expecting.pass.port.sdf) = false := by
    rw [again.sdf, looked.sdf, Bool.and_not_self]
  have cleared : expecting.clearAllMsrFlags.port.Expecting false false :=
    ⟨⟨again.txFifo, again.rxFifo, again.executing, again.mbf⟩, again.awaiting, ndf, sdf⟩
  have passed := pass_stable (stable_expecting_flags _ _) cleared
  let enabled := expecting.clearAllMsrFlags.access (setMen true)
  have ready : enabled.port.Expecting false false :=
    ⟨⟨passed.txFifo, passed.rxFifo, passed.executing, passed.mbf⟩, passed.awaiting, passed.ndf,
      passed.sdf⟩
  exact ⟨enabled.pass.port, pass_stable (stable_expecting_flags _ _) ready, rfl⟩

/-- What the driver reports of a probe, and what the slave has acknowledged. -/
def Reports (data : UInt8) (error : I2CError) (acknowledged : List Command) : Prop :=
  error = .ok ∧ acknowledged = [.start data] ∨ error = .addressNak ∧ acknowledged = []

/-- A probe that is under way, or has been reported. -/
structure Probes (data : UInt8) (s : Master O) : Prop where
  reading : s.ignoreTdf = true
  place :
    s.state = .starting ∧ s.error = .ok ∧ s.port.Probed data [.stop] ∨
      ∃ acknowledged, Reports data s.error acknowledged ∧ s.port.Leaving acknowledged ∧
        s.port.ndf = false ∧
        (s.state = .stopping ∨ s.state = .stopped ∧ s.port.mbf = false)

theorem probes_writeAsync {address : UInt8} {buffer : Pointer O} {sendStop : Bool}
    (idle : s.port.Idle) (bound : s.port.txFifo.length ≤ numFifos)
    (accepted : (s.writeAsync address buffer 0 sendStop).error = .ok) :
    (s.writeAsync address buffer 0 sendStop).Probes
      (((address &&& 0x7F) <<< 1) ||| masterWrite) := by
  unfold writeAsync at accepted ⊢
  dsimp only at accepted ⊢
  rw [if_pos rfl] at accepted ⊢
  have past : ({ s with calls := s.calls + 1 }.start address masterWrite).1.error = .ok := by
    split at accepted <;> exact accepted
  obtain ⟨go, driver⟩ := start_accepted past
  rw [if_neg (by simpa using go)]
  rcases start_cases address masterWrite (s := { s with calls := s.calls + 1 }) bound with
    ⟨_, t, moved, empty, started⟩ | ⟨refused, _⟩
  · have quiet : t.port.Idle := moved.keeps stable_idle (fun _ none => none.elim) idle
    have blank : t.port.Blank := ⟨empty, quiet.rxFifo, quiet.executing, quiet.mbf⟩
    obtain ⟨p, ⟨⟨tx, rx, executing, mbf⟩, awaiting, ndf, sdf⟩, sent⟩ :=
      sendStart_expecting blank address masterWrite
    have asking : (t.sendStart address masterWrite).port.Probed
        (((address &&& 0x7F) <<< 1) ||| masterWrite) [] := by
      rw [sent]
      exact .inr (.inl ⟨rx, ndf, sdf, .inl ⟨awaiting, by simp [send, tx], executing, mbf⟩⟩)
    rw [← started] at asking
    refine ⟨rfl, .inl ⟨?_, ?_, ?_⟩⟩
    · exact congrArg MasterDriver.state driver
    · exact past
    · exact Probed.send_stop (Stable.pass (stable_probed (by simp)) asking)
  · simp [go] at refused

theorem leaving_serveErrors {msr : Msr} (ndf : msr.ndf = true) (leaving : s.port.Leaving []) :
    (s.serveErrors msr).port.Leaving [] ∧ (s.serveErrors msr).port.ndf = false := by
  have failed : msr.failed = true := by simp [Msr.failed, ndf]
  have keeps {t u : Master O} (moved : Drives EndingWrites t u)
      (h : t.port.Leaving [] ∧ t.port.ndf = false) : u.port.Leaving [] ∧ u.port.ndf = false :=
    moved.keeps (stable_leaving_ndf [] false) (fun _ listed _ h => Leaving.ndf_of_mem h listed) h
  have cleared : (s.recordNdf msr).port.Leaving [] ∧ (s.recordNdf msr).port.ndf = false := by
    unfold recordNdf
    rw [if_pos ndf]
    exact ⟨((stable_leaving []).pass leaving).of_mem (f := clearNdf)
      (by simp [EndingWrites, registerWrites]), rfl⟩
  have recorded := keeps
    (Drives.known (drives_recordOthers msr (s.recordNdf msr)) (by simp [registerWrites])) cleared
  unfold serveErrors
  rw [if_pos failed]
  dsimp only
  split
  · exact keeps (Drives.known (drives_abort { s.recordErrors msr with state := .stopping })
      (by simp [registerWrites])) recorded
  · exact recorded

/-- The ISR finds no error but a NAK. -/
def Spared (s : Master O) : Prop :=
  s.port.alf = false ∧ s.port.fef = false ∧ s.port.pltf = false

instance (s : Master O) : Decidable s.Spared := by
  unfold Spared
  infer_instance

variable [DecidableEq O] {acknowledged : List Command} {a : Step O}

theorem isr_leaving (reading : s.ignoreTdf = true) (spared : s.pass.Spared)
    (leaving : s.pass.port.Leaving acknowledged) (ndf : s.pass.port.ndf = false) :
    s.isr.toMasterDriver =
        { s.toMasterDriver with state := if s.pass.port.sdf then .stopped else s.state } ∧
      s.isr.port.Leaving acknowledged ∧ s.isr.port.ndf = false ∧
      (s.pass.port.mbf = false → s.isr.port.mbf = false) := by
  obtain ⟨alf, fef, pltf⟩ := spared
  have unfailed : s.pass.port.msr.failed = false := by simp [Msr.failed, msr, ndf, alf, fef, pltf]
  have moved : Drives EndingWrites s.pass (s.pass.serveStop s.pass.port.msr) :=
    Drives.known (drives_serveStop _ _) (by simp [registerWrites])
  rw [isr_reading_empty reading leaving.rxFifo, serveErrors_quiet unfailed]
  refine ⟨serveStop_state _ _, ?_⟩
  obtain ⟨still, clear⟩ := moved.keeps (stable_leaving_ndf acknowledged false)
    (fun _ listed _ h => Leaving.ndf_of_mem h listed) ⟨leaving, ndf⟩
  exact ⟨still, clear, fun off => (moved.keeps (stable_leaving_off acknowledged)
    (fun _ listed _ h => Leaving.off_of_mem h listed) ⟨leaving, off⟩).2⟩

theorem isr_refused (reading : s.ignoreTdf = true) (spared : s.pass.Spared)
    (starting : s.state = .starting) (leaving : s.pass.port.Leaving [])
    (ndf : s.pass.port.ndf = true) :
    s.isr.ignoreTdf = true ∧ s.isr.error = .addressNak ∧
      s.isr.state = (if s.pass.port.sdf then .stopped else .stopping) ∧
      s.isr.port.Leaving [] ∧ s.isr.port.ndf = false ∧
      (s.pass.port.sdf = true → s.isr.port.mbf = false) := by
  obtain ⟨alf, fef, pltf⟩ := spared
  let msr := s.pass.port.msr
  have failed : msr.failed = true := by simp [Msr.failed, MasterPort.msr, msr, ndf]
  have recorded : recordedError msr s.pass.state s.pass.error = .addressNak := by
    simp [recordedError, msr, MasterPort.msr, ndf, alf, fef, pltf, starting]
  have errors : (s.pass.serveErrors msr).port.Leaving [] ∧
      (s.pass.serveErrors msr).port.ndf = false :=
    leaving_serveErrors ndf leaving
  have moved : Drives EndingWrites (s.pass.serveErrors msr)
      ((s.pass.serveErrors msr).serveStop msr) :=
    Drives.known (drives_serveStop _ _) (by simp [registerWrites])
  have whole : Drives EndingWrites s.pass ((s.pass.serveErrors msr).serveStop msr) :=
    (ending_serveErrors msr s.pass).trans moved
  obtain ⟨still, clear⟩ := moved.keeps (stable_leaving_ndf [] false)
    (fun _ listed _ h => Leaving.ndf_of_mem h listed) errors
  have driver := endings_exact msr s.pass
  rw [recorded, failed, if_pos rfl] at driver
  rw [isr_reading_empty reading leaving.rxFifo]
  refine ⟨?_, ?_, ?_, still, clear, fun sdf => ?_⟩
  · exact (congrArg MasterDriver.ignoreTdf driver).trans reading
  · exact congrArg MasterDriver.error driver
  · exact congrArg MasterDriver.state driver
  · exact (whole.keeps (stable_leaving_off [])
      (fun _ listed _ h => Leaving.off_of_mem h listed) ⟨leaving, leaving.ended sdf⟩).2

theorem Probes.isr (probes : s.Probes data) (spared : s.pass.Spared) : s.isr.Probes data := by
  obtain ⟨reading, place⟩ := probes
  rcases place with ⟨starting, ok, probed⟩ | ⟨acknowledged, reports, leaving, ndf, halted⟩
  · rcases pass_stable (stable_probed (by simp)) probed with
      lost | asking | ⟨taken, ndf⟩ | ⟨refused, ndf⟩
    · simp [spared.1] at lost
    · have unfailed : s.pass.port.msr.failed = false := by
        simp [Msr.failed, msr, asking.ndf, spared.1, spared.2.1, spared.2.2]
      rw [isr_reading_empty reading asking.rxFifo, serveErrors_quiet unfailed,
        serveStop_quiet asking.sdf]
      exact ⟨reading, .inl ⟨starting, ok, .inr (.inl asking)⟩⟩
    · obtain ⟨driver, still, clear, off⟩ := isr_leaving reading spared taken ndf
      refine ⟨(congrArg MasterDriver.ignoreTdf driver).trans reading, ?_⟩
      have error : s.isr.error = .ok := (congrArg MasterDriver.error driver).trans ok
      have state : s.isr.state = if s.pass.port.sdf then .stopped else s.state :=
        congrArg MasterDriver.state driver
      cases sdf : s.pass.port.sdf with
      | false =>
          rw [sdf] at state
          exact .inl ⟨state.trans starting, error, .inr (.inr (.inl ⟨still, clear⟩))⟩
      | true =>
          rw [sdf] at state
          exact .inr ⟨_, .inl ⟨error, rfl⟩, still, clear, .inr ⟨state, off (taken.ended sdf)⟩⟩
    · obtain ⟨reading, error, state, still, clear, off⟩ :=
        isr_refused reading spared starting refused ndf
      refine ⟨reading, .inr ⟨_, .inr ⟨error, rfl⟩, still, clear, ?_⟩⟩
      rw [state]
      cases sdf : s.pass.port.sdf with
      | false => exact .inl rfl
      | true => exact .inr ⟨rfl, off sdf⟩
  · obtain ⟨leaving, ndf⟩ := pass_stable (stable_leaving_ndf _ false) ⟨leaving, ndf⟩
    obtain ⟨driver, still, clear, off⟩ := isr_leaving reading spared leaving ndf
    have error : s.isr.error = s.error := (congrArg MasterDriver.error driver).trans rfl
    have state : s.isr.state = if s.pass.port.sdf then .stopped else s.state :=
      congrArg MasterDriver.state driver
    refine ⟨(congrArg MasterDriver.ignoreTdf driver).trans reading,
      .inr ⟨_, error ▸ reports, still, clear, ?_⟩⟩
    rw [state]
    cases sdf : s.pass.port.sdf with
    | false =>
        refine halted.imp_right fun ⟨stopped, mbf⟩ => ⟨stopped, off ?_⟩
        exact (pass_stable (stable_leaving_off _) ⟨‹_›, mbf⟩).2
    | true => exact .inr ⟨rfl, off (leaving.ended sdf)⟩

def Undisturbed (s : Master O) (a : Step O) : Prop :=
  s.Interrupts a → (s.atSnapshot a).Spared

instance (s : Master O) (a : Step O) : Decidable (s.Undisturbed a) := by
  unfold Undisturbed Interrupts
  infer_instance

omit [DecidableEq O] in
theorem Probes.moved {t : Master O} (probes : s.Probes data)
    (driver : t.toMasterDriver = s.toMasterDriver) (moves : Drives (fun _ => False) s t) :
    t.Probes data := by
  have keeps {P : MasterPort → Prop} (stable : Stable MasterPort.apply P) (h : P s.port) :
      P t.port := moves.keeps stable (fun _ none => none.elim) h
  have error : t.error = s.error := congrArg MasterDriver.error driver
  have state : t.state = s.state := congrArg MasterDriver.state driver
  refine ⟨(congrArg MasterDriver.ignoreTdf driver).trans probes.reading, ?_⟩
  rw [error, state]
  rcases probes.place with ⟨starting, ok, probed⟩ | ⟨acknowledged, reports, leaving, ndf, halted⟩
  · exact .inl ⟨starting, ok, keeps (stable_probed (by simp)) probed⟩
  · obtain ⟨still, clear⟩ := keeps (stable_leaving_ndf acknowledged false) ⟨leaving, ndf⟩
    refine .inr ⟨acknowledged, reports, still, clear, halted.imp_right fun ⟨stopped, mbf⟩ => ?_⟩
    exact ⟨stopped, (keeps (stable_leaving_off acknowledged) ⟨leaving, mbf⟩).2⟩

theorem Probes.step (probes : s.Probes data) (between : a.action.betweenCalls = true)
    (undisturbed : s.Undisturbed a) : (s.step a).Probes data := by
  by_cases interrupts : s.Interrupts a
  · rw [step_interrupts interrupts]
    exact (probes.moved (t := s.schedule a.meanwhile) rfl .refl).isr (undisturbed interrupts)
  · exact probes.moved (step_driver (Action.isCall_of_betweenCalls between) interrupts)
      (drives_step _ between interrupts)

omit [DecidableEq O] in
/-- When the driver is ready again, its report is right, and nothing is left of the probe. -/
theorem Probes.finished (probes : s.Probes data) (finished : s.finished = true) :
    Reports data s.error s.port.acknowledged ∧ s.port.Idle := by
  have ready := ready_of_finished finished
  rcases probes.place with ⟨starting, -, -⟩ | ⟨acknowledged, reports, leaving, -, halted⟩
  · simp [starting, MasterState.ready, MasterState.code] at ready
  · rcases halted with stopping | ⟨-, off⟩
    · simp [stopping, MasterState.ready, MasterState.code] at ready
    · rw [leaving.acknowledged]
      exact ⟨reports, leaving.stops, leaving.rxFifo, leaving.off off, off⟩

/-! ### Scanning the bus -/

/-- `write_async` of no bytes, and what goes on until the sketch looks at the error. -/
structure Probe (O : Type) where
  address : UInt8
  buffer : Pointer O
  sendStop : Bool := true
  meanwhile : List (List BusEvent) := []
  steps : List (Step O)
deriving DecidableEq, Repr

def Probe.call (p : Probe O) : Step O where
  action := .writeAsync p.address p.buffer 0 p.sendStop
  meanwhile := p.meanwhile

def probe (s : Master O) (p : Probe O) : Master O := run step (s.step p.call) p.steps

/-- The driver accepts the call and is finished in time, and nobody disturbs the bus. -/
def Completed (s : Master O) (p : Probe O) : Prop :=
  (s.step p.call).error = .ok ∧ (∀ a ∈ p.steps, a.action.betweenCalls = true) ∧
    Along step Undisturbed (s.step p.call) p.steps ∧ (s.probe p).finished = true

instance (s : Master O) (p : Probe O) : Decidable (s.Completed p) := by
  unfold Completed
  infer_instance

structure Quiescent (s : Master O) : Prop where
  idle : s.port.Idle
  bound : s.port.txFifo.length ≤ numFifos

theorem probe_reports {p : Probe O} (quiescent : s.Quiescent) (completed : s.Completed p) :
    Reports (((p.address &&& 0x7F) <<< 1) ||| masterWrite) (s.probe p).error
        (s.probe p).port.acknowledged ∧ (s.probe p).Quiescent := by
  obtain ⟨accepted, between, undisturbed, finished⟩ := completed
  have called : (s.step p.call).Probes (((p.address &&& 0x7F) <<< 1) ||| masterWrite) :=
    probes_writeAsync (s := s.schedule p.meanwhile) quiescent.idle quiescent.bound accepted
  have probes : (s.probe p).Probes (((p.address &&& 0x7F) <<< 1) ||| masterWrite) :=
    run_invariant_of_kind (fun _ _ probes => probes.step) called between undisturbed
  obtain ⟨reports, idle⟩ := probes.finished finished
  refine ⟨reports, idle, ?_⟩
  exact run_invariant' (I := fun s : Master O => s.port.txFifo.length ≤ numFifos)
    (fun _ a bound => txFifo_step a bound) p.steps (txFifo_step p.call quiescent.bound)

end Master
end TeensyI2C
