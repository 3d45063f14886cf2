import TeensyI2C.Master.PortEffects

/-!
Whether `finished` waits for the STOP of a transaction that asked for one. A write always queues
the STOP itself. A read guesses from the FIFO count whether its STOP is still to come, and takes a
STOP that the hardware has already begun for none at all.
-/

namespace TeensyI2C
open ObjectMemory Interference EventMachine MasterPort

namespace MasterPort

theorem stable_stopSeen : Stable apply fun p => p.stopSeen = true := by
  intro p e seen
  cases e <;> grind [apply, fetch, ack, nak, receiveByte, autoStop, stopDone, arbitrationLost]

end MasterPort

namespace Master
variable {O : Type} [Inhabited O] {s t : Master O} {a : Step O}

/-- A call that transfers bytes and asks for a STOP after them. -/
def Action.EndsWithStop : Action O → Prop
  | .writeAsync _ _ numBytes sendStop | .readAsync _ _ numBytes sendStop =>
      numBytes ≠ 0 ∧ sendStop = true
  | _ => False

/-- The driver is not ready before the STOP of the call has been generated. -/
structure Waits (s : Master O) : Prop where
  ready : s.state.ready = true → s.port.stopSeen = true
  sendsStop : s.ignoreTdf = false → s.stopOnCompletion = true

theorem stopSeen_kept (h : Drives Ordinary s t) (seen : s.port.stopSeen = true) :
    t.port.stopSeen = true :=
  h.keeps stable_stopSeen (fun _ ordinary p seen => (ordinary.stopSeen p).trans seen) seen

theorem Waits.drives (waits : s.Waits) (h : Drives Ordinary s t) (kept : KeepsBuffer s t)
    (ready : t.state.ready = true → s.state.ready = true ∨ t.port.stopSeen = true) :
    t.Waits where
  ready := by
    intro now
    rcases ready now with before | seen
    · exact stopSeen_kept h (waits.ready before)
    · exact seen
  sendsStop := by
    rw [kept.ignoreTdf, kept.stopOnCompletion]
    exact waits.sendsStop

theorem Waits.serveErrors (waits : s.Waits) (msr : Msr) : (s.serveErrors msr).Waits := by
  by_cases failed : msr.failed = true
  · obtain ⟨e, _, driver⟩ := serveErrors_driver (s := s) failed
    refine waits.drives (drives_serveErrors msr s) (.of_driver driver) ?_
    rw [driver]
    intro ready
    cases ready
  · rw [serveErrors_quiet (by simpa using failed)]
    exact waits

theorem Waits.serveStop (waits : s.Waits) (msr : Msr)
    (own : msr.sdf = true → s.port.stopSeen = true) : (s.serveStop msr).Waits := by
  by_cases ended : msr.sdf = true
  · have driven : Drives Ordinary s (s.serveStop msr) :=
      (drives_serveStop msr s).ordinary (by simp [registerWrites])
    have kept : KeepsBuffer s (s.serveStop msr) := .of_driver (serveStop_driver ended)
    exact waits.drives driven kept fun _ => .inr (stopSeen_kept driven (own ended))
  · rw [serveStop_quiet (by simpa using ended)]
    exact waits

theorem finishWriting_unready (busy : s.state.ready = false) (sends : s.stopOnCompletion = true) :
    s.finishWriting.state.ready = false := by
  unfold finishWriting
  dsimp only
  split
  · split
    · rw [if_pos (by exact sends)]
      rfl
    · exact busy
  · exact busy

theorem Waits.serveTransmit (waits : s.Waits) (msr : Msr) : (s.serveTransmit msr).Waits := by
  refine waits.drives (drives_serveTransmit msr s)
    (keepsBuffer_continues (continues_serveTransmit msr s)) ?_
  unfold Master.serveTransmit transferOut
  split
  · next asked =>
    rw [Bool.and_eq_true, Bool.not_eq_true'] at asked
    split
    · next busy =>
      intro ready
      have state : s.beginTransfer.refill.state = .transferring :=
        (state_fill _ s.beginTransfer.pass).trans busy
      have sends : s.beginTransfer.refill.stopOnCompletion = true := by
        rw [(continues_refill busy).stopOnCompletion,
          (keepsBuffer_beginTransfer s).stopOnCompletion]
        exact waits.sendsStop asked.1
      rw [finishWriting_unready (by simp [state, MasterState.ready, MasterState.code]) sends]
        at ready
      cases ready
    · next idle =>
      rw [beginTransfer_of_ne idle]
      exact .inl
  · exact .inl

variable [DecidableEq O]

/-- When a read has stored its last byte, its STOP is the only command left in the FIFO, or has
been generated. -/
def StopStillQueued (s : Master O) : Prop :=
  let t := (s.serveErrors s.port.msr).serveStop s.port.msr
  let u := t.beginTransfer.takeByte
  s.port.msr.rdf = true → t.ignoreTdf = true → u.buff.finishedReading = true →
    u.pass.port.txFifoCount = 1 ∨ u.pass.port.stopSeen = true

/-- The ISR finds no STOP but that of the call, and comes in time for the last byte of a read. -/
def StopAwaited (s : Master O) (a : Step O) : Prop :=
  s.Interrupts a →
    ((s.atSnapshot a).port.sdf = true → (s.atSnapshot a).port.stopSeen = true) ∧
      (s.atSnapshot a).StopStillQueued

instance (s : Master O) : Decidable s.StopStillQueued := by
  unfold StopStillQueued
  infer_instance

instance (s : Master O) (a : Step O) : Decidable (s.StopAwaited a) := by
  unfold StopAwaited Interrupts
  infer_instance

theorem Waits.serveReceive (waits : s.Waits) (msr : Msr)
    (queued : msr.rdf = true → s.ignoreTdf = true →
      s.beginTransfer.takeByte.buff.finishedReading = true →
        s.beginTransfer.takeByte.pass.port.txFifoCount = 1 ∨
          s.beginTransfer.takeByte.pass.port.stopSeen = true) :
    (s.serveReceive msr).Waits := by
  refine waits.drives (drives_serveReceive msr s) (keepsBuffer_serveReceive msr s) ?_
  unfold Master.serveReceive
  split
  · next received =>
    split
    · next reading =>
      intro ready
      have here := queued received reading
      unfold finishReading at ready ⊢
      split at ready
      · next finished =>
        rw [if_pos finished]
        rcases here finished with lone | seen
        · rw [access_driver] at ready
          simp [lone, MasterState.ready, MasterState.code] at ready
        · exact .inr (stable_stopSeen.access (fun _ h => h) seen)
      · rw [state_takeByte] at ready
        by_cases begun : s.beginTransfer.state = .transferring
        · rw [begun] at ready
          cases ready
        · rw [beginTransfer_of_ne begun] at ready
          exact .inl ready
    · intro ready
      rw [abort_driver] at ready
      cases ready
  · exact .inl

theorem Waits.isr (waits : s.Waits) (own : s.pass.port.sdf = true → s.pass.port.stopSeen = true)
    (queued : s.pass.StopStillQueued) : s.isr.Waits := by
  let msr := s.pass.port.msr
  have looked : s.pass.Waits :=
    waits.drives (drives_pass _ s) (.of_driver rfl) .inl
  have aborted := looked.serveErrors msr
  have ended := aborted.serveStop msr fun sdf => stopSeen_kept (drives_serveErrors msr _) (own sdf)
  exact (ended.serveReceive msr queued).serveTransmit msr

theorem Waits.step (waits : s.Waits) (between : a.action.betweenCalls = true)
    (awaited : s.StopAwaited a) : (s.step a).Waits := by
  by_cases interrupts : s.Interrupts a
  · rw [step_interrupts interrupts]
    obtain ⟨own, queued⟩ := awaited interrupts
    have waiting : (s.schedule a.meanwhile).Waits := ⟨waits.ready, waits.sendsStop⟩
    exact waiting.isr own queued
  · have driver := step_driver (Action.isCall_of_betweenCalls between) interrupts
    refine waits.drives (drives_step _ between interrupts) (.of_driver driver) ?_
    rw [driver]
    exact .inl

theorem waits_call (ends : a.action.EndsWithStop) (accepted : (s.step a).hasError = false) :
    (s.step a).Waits := by
  cases kind : a.action with
  | writeAsync address buffer numBytes sendStop =>
      rw [kind] at ends
      rw [step_writeAsync kind] at accepted ⊢
      obtain ⟨some, rfl⟩ : numBytes ≠ 0 ∧ sendStop = true := ends
      obtain ⟨_, driver, call⟩ := writeAsync_accepted (s := s.schedule a.meanwhile) some
        ((hasError_eq_false _).mp accepted)
      rw [call]
      refine ⟨?_, fun _ => rfl⟩
      intro ready
      rw [access_driver, initialiseBuff, driver] at ready
      cases ready
  | readAsync address buffer numBytes sendStop =>
      rw [kind] at ends
      rw [step_readAsync kind] at accepted ⊢
      obtain ⟨reading, state⟩ := readAsync_accepted (s := s.schedule a.meanwhile)
        (And.left (a := numBytes ≠ 0) ends) ((hasError_eq_false _).mp accepted)
      refine ⟨?_, ?_⟩
      · intro ready
        rw [state] at ready
        cases ready
      · intro writing
        rw [reading] at writing
        cases writing
  | begin frequency => simp [kind, Action.EndsWithStop] at ends
  | end' => simp [kind, Action.EndsWithStop] at ends
  | isr => simp [kind, Action.EndsWithStop] at ends
  | hardware e => simp [kind, Action.EndsWithStop] at ends

/-- From the acceptance of a call on, `finished` waits for the STOP of that call, if every SDF
that the ISR finds is the call's and the ISR comes in time for the last byte of a read. -/
theorem finished_waits_for_stop (s : Master O) (call : Step O) (steps : List (Step O))
    (ends : call.action.EndsWithStop) (accepted : (s.step call).hasError = false)
    (between : ∀ a ∈ steps, a.action.betweenCalls = true)
    (awaited : Along step StopAwaited (s.step call) steps) :
    let t := run step s (call :: steps)
    t.finished = true → t.port.stopSeen = true := by
  intro t finished
  have waits : t.Waits := by
    change (run step (s.step call) steps).Waits
    exact run_invariant_of_kind (fun _ _ waits => waits.step) (waits_call ends accepted) between
      awaited
  exact waits.ready (ready_of_finished finished)

/-- An ISR call that comes too late for the STOP of a read makes the driver ready at once. -/
theorem finished_too_early (late : ¬ s.pass.StopStillQueued) : s.isr.finished = true := by
  let msr := s.pass.port.msr
  let t := (s.pass.serveErrors msr).serveStop msr
  let u := t.beginTransfer.takeByte
  have missed : msr.rdf = true ∧ t.ignoreTdf = true ∧ u.buff.finishedReading = true ∧
      u.pass.port.txFifoCount ≠ 1 := by
    simp only [StopStillQueued, Classical.not_imp, not_or] at late
    obtain ⟨received, reading, finished, other, _⟩ := late
    exact ⟨received, reading, finished, other⟩
  obtain ⟨received, reading, finished, other⟩ := missed
  have served : (t.serveReceive msr).state = .transferComplete := by
    unfold Master.serveReceive
    rw [if_pos received, if_pos reading, finishReading, if_pos finished, access_driver]
    simp only [u] at other
    simp [other]
  have still : (t.serveReceive msr).ignoreTdf = true :=
    (keepsBuffer_serveReceive msr t).ignoreTdf.trans reading
  have complete : s.isr.state = .transferComplete := by
    change ((t.serveReceive msr).serveTransmit msr).state = _
    unfold Master.serveTransmit
    rw [if_neg (by simp [still])]
    exact served
  simp [Master.finished, complete]

end Master

/-! ### A read of one byte -/

def listeningMaster : Master Bool :=
  Master.step (Master.fresh fun _ _ => 0x11) (Master.Action.begin 100000).alone

def readOneByte : Master.Step Bool :=
  (Master.Action.readAsync 0x2D ⟨true, 0⟩ 1 true).alone

/-- The slave sends its byte, and then the rest happens. -/
def byteSent (rest : List (Master.Action Bool)) : List (Master.Step Bool) :=
  (.hardware .fetch :: .hardware .ack :: .hardware .fetch :: .hardware (.receiveByte 0x22) ::
    rest).map Master.Action.alone

/-- The hardware begins the STOP before the ISR handles the byte. -/
theorem finished_before_stop :
    let s := run Master.step listeningMaster (readOneByte :: byteSent [.hardware .fetch, .isr])
    s.finished = true ∧ s.hasError = false ∧ s.port.sdf = false ∧ s.port.stopSeen = false := by
  decide

/-- The ISR handles the byte while the STOP is still in the FIFO. -/
theorem finished_after_stop :
    let s := run Master.step listeningMaster
      (readOneByte :: byteSent [.isr, .hardware .fetch, .hardware .stopDone, .isr])
    s.finished = true ∧ s.port.stopSeen = true :=
  ⟨by decide, Master.finished_waits_for_stop listeningMaster readOneByte _ ⟨by decide, rfl⟩ rfl
    (by decide) (by decide) (by decide)⟩

end TeensyI2C
