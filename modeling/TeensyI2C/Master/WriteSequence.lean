import TeensyI2C.Master.NeverStuck
import TeensyI2C.Master.QuietStart
import TeensyI2C.Master.WriteReport

/-!
What a write that meets no error puts into the transmit FIFO: the words of the transaction that was
asked for, in order and once each, and no more of them at a time than the FIFO holds.
-/

namespace TeensyI2C
open ObjectMemory Interference EventMachine MasterPort

namespace MasterPort

/-- The port serves a write. It receives nothing, and the STOP that it reports is the call's. -/
structure ServesWrite (p : MasterPort) : Prop where
  own : p.sdf = true → p.stopSeen = true
  off : p.awaitingStart = true → p.executing = none ∧ p.mbf = false
  rxFifo : p.rxFifo = []
  queued : ∀ left, .receive left ∉ p.txFifo
  executing : ∀ left, p.executing ≠ some (.receive left)

theorem stable_servesWrite : Stable apply ServesWrite := by
  rintro p e ⟨own, off, rx, queued, executing⟩
  cases e <;> grind [ServesWrite, apply, fetch, ack, nak, offered, receiveByte, autoStop,
    stopsByItself, stopDone, arbitrationLost]

theorem stable_txFifo_subset (queue : List Command) : Stable apply fun p => p.txFifo ⊆ queue := by
  intro p e within
  cases e <;> grind [apply, fetch, ack, nak, receiveByte, autoStop, stopDone, arbitrationLost]

/-- Everything has been written to MTDR, and no more than `queue` of it is left in the FIFO. -/
structure Drained (queue written : List Command) (p : MasterPort) : Prop where
  serves : p.ServesWrite
  queued : p.txFifo ⊆ queue
  written : p.written = written

theorem stable_drained (queue written : List Command) : Stable apply (Drained queue written) :=
  fun p e drained => ⟨stable_servesWrite p e drained.serves,
    stable_txFifo_subset _ p e drained.queued, stable_written _ p e drained.written⟩

/-- `words` have been written to MTDR since the call began, and more are to come. -/
structure Emits (base words : List Command) (p : MasterPort) : Prop where
  serves : p.ServesWrite
  sending : p.Sending words
  written : p.written = base ++ words
  tdie : p.mier.tdie = true

variable {base words : List Command} {data : UInt8} {p : MasterPort}

theorem stable_tdie : Stable apply fun p => p.mier.tdie = true :=
  fun p e enabled => (congrArg Mier.tdie (apply_control p e).1).trans enabled

theorem stable_emits (base bytes) : Stable apply (Emits base (writeWords data bytes)) :=
  fun p e emits => ⟨stable_servesWrite p e emits.serves, stable_sending p e emits.sending,
    stable_written _ p e emits.written, stable_tdie p e emits.tdie⟩

theorem ServesWrite.send {command : Command} (serves : p.ServesWrite)
    (other : ∀ left, command ≠ .receive left) : (p.send command).ServesWrite where
  own := serves.own
  off := serves.off
  rxFifo := serves.rxFifo
  queued := by
    intro left member
    rcases List.mem_append.mp member with before | here
    · exact serves.queued left before
    · exact other left (List.mem_singleton.mp here).symm
  executing := serves.executing

theorem ServesWrite.of_mem {f : MasterPort → MasterPort} (serves : p.ServesWrite)
    (listed : f ∈ [setTdie false, setTdie true, setMen false, clearSdf]) : (f p).ServesWrite := by
  simp only [List.mem_cons, List.not_mem_nil, or_false] at listed
  obtain ⟨own, off, rxFifo, queued, executing⟩ := serves
  rcases listed with rfl | rfl | rfl | rfl
  case inr.inr.inr => exact ⟨by simp [clearSdf], off, rxFifo, queued, executing⟩
  all_goals exact ⟨own, off, rxFifo, queued, executing⟩

theorem Drained.of_mem {f : MasterPort → MasterPort} {queue written : List Command}
    (drained : p.Drained queue written)
    (listed : f ∈ [setTdie false, setTdie true, setMen false, clearSdf]) :
    (f p).Drained queue written := by
  refine ⟨drained.serves.of_mem listed, ?_, ?_⟩
  · rw [(quiet_of_mem listed).txFifo]
    exact drained.queued
  · simp only [List.mem_cons, List.not_mem_nil, or_false] at listed
    rcases listed with rfl | rfl | rfl | rfl <;> exact drained.written

theorem Drained.stop {written : List Command} (drained : p.Drained [] written) :
    (p.send .stop).Drained [.stop] (written ++ [.stop]) where
  serves := drained.serves.send (by simp)
  queued := by
    change p.txFifo ++ [.stop] ⊆ [.stop]
    rw [List.subset_nil.mp drained.queued]
    exact List.Subset.refl _
  written := congrArg (· ++ [Command.stop]) drained.written

theorem Drained.mono {queue queue' written : List Command} (drained : p.Drained queue written)
    (more : queue ⊆ queue') : p.Drained queue' written :=
  ⟨drained.serves, List.Subset.trans drained.queued more, drained.written⟩

/-- The START of a write has been written to MTDR, and nothing else of it. -/
structure Begun (base : List Command) (data : UInt8) (p : MasterPort) : Prop where
  serves : p.ServesWrite
  sending : p.Sending (writeWords data [])
  written : p.written = base ++ writeWords data []
  room : p.txFifo.length ≤ 1
  within : p.overflowed = false

theorem stable_begun : Stable apply (Begun base data) :=
  fun p e begun => ⟨stable_servesWrite p e begun.serves, stable_sending p e begun.sending,
    stable_written _ p e begun.written, stable_txFifo 1 p e begun.room,
    stable_overflowed p e begun.within⟩

theorem Announced.begun (announced : p.Announced base false) (men : p.mcrMen = true)
    (data : UInt8) : (p.send (.start data)).Begun base data := by
  have queued : (p.send (.start data)).txFifo = [.start data] := by
    change p.txFifo ++ _ = _
    rw [announced.txFifo, List.nil_append]
  have serves : p.ServesWrite :=
    ⟨by simp [announced.sdf], fun _ => ⟨announced.executing, announced.mbf⟩, announced.rxFifo,
      by simp [announced.txFifo], by simp [announced.executing]⟩
  exact {
    serves := serves.send (by simp)
    sending := .inr ⟨.inl ⟨announced.awaiting, queued⟩, men, announced.unseen⟩
    written := congrArg (· ++ [Command.start data]) announced.written
    room := by rw [queued]; exact Nat.le_refl 1
    within := by simp [MasterPort.send, announced.overflowed, announced.txFifo] }

theorem Emits.send (emits : p.Emits base words) (byte : UInt8) :
    (p.send (.transmit byte)).Emits base (words ++ [.transmit byte]) where
  serves := emits.serves.send (by simp)
  sending := emits.sending.send _
  written := by
    rw [← List.append_assoc, ← emits.written]
    rfl
  tdie := emits.tdie

end MasterPort

namespace Master
variable {O : Type} [Inhabited O] {s t : Master O} {base words : List Command} {data : UInt8}
  {sendStop : Bool}

/-- The state of a driver that has written its last byte. -/
def finalState (sendStop : Bool) : MasterState :=
  if sendStop then .stopping else .transferComplete

/-- The write that was asked for. -/
structure Asked (data : UInt8) (words : List Command) (sendStop : Bool) (s : Master O) : Prop where
  writing : s.ignoreTdf = false
  words : writeWords data (s.memory.slice s.buff.buffer s.buff.size) = words
  some : s.buff.size ≠ 0
  stops : s.stopOnCompletion = sendStop
  bounded : s.buff.Bounded
  room : s.port.txFifo.length ≤ numFifos
  within : s.port.overflowed = false

/-- Bytes are still to be written, or the driver waits for the FIFO to run empty. -/
structure Queuing (base : List Command) (data : UInt8) (s : Master O) : Prop where
  busy : s.state = .starting ∧ s.buff.nextIndex = 0 ∨ s.state = .transferring
  emits : s.port.Emits base (s.sentWords data)

/-- All bytes have been written, and the FIFO has run empty after the last one. -/
structure Queued (base : List Command) (data : UInt8) (sendStop : Bool) (s : Master O) :
    Prop where
  state : s.state = finalState sendStop ∨ s.state = .stopped
  last : s.buff.nextIndex = s.buff.size
  drained : s.port.Drained [.stop] (base ++ s.sentWords data ++ closingWords sendStop)

theorem drained_access {queue written : List Command} {f : MasterPort → MasterPort}
    (drained : s.port.Drained queue written)
    (listed : f ∈ [setTdie false, setTdie true, setMen false, clearSdf]) :
    (s.access f).port.Drained queue written :=
  (stable_drained _ _).access (fun _ drained => drained.of_mem listed) drained

theorem queued_finishWriting (busy : s.state = .transferring)
    (emits : s.port.Emits base (s.sentWords data)) (bound : s.port.txFifo.length ≤ numFifos)
    (stops : s.stopOnCompletion = sendStop) :
    s.finishWriting.Queuing base data ∨
      s.finishWriting.Queued base data sendStop ∧
        s.finishWriting.state = finalState sendStop := by
  have passed : s.pass.port.Emits base (s.sentWords data) :=
    pass_stable (stable_emits _ _) emits
  unfold finishWriting
  dsimp only
  split
  · next finished =>
    have last : s.buff.nextIndex = s.buff.size := by
      simpa [I2CBuffer.finishedWriting] using finished
    split
    · next none =>
      have empty := txFifo_eq_nil (pass_stable (stable_txFifo numFifos) bound) none
      have drained : s.pass.port.Drained [] (base ++ s.sentWords data) :=
        ⟨passed.serves, by rw [empty]; exact List.Subset.refl _, passed.written⟩
      have masked := drained_access (f := setTdie false) drained (by simp)
      refine .inr ?_
      cases sendStop with
      | true =>
          rw [if_pos (by exact stops)]
          let stopping : Master O := { s.pass.access (setTdie false) with state := .stopping }
          have stopped : (stopping.access (send .stop)).port.Drained [.stop]
              (base ++ s.sentWords data ++ [.stop]) :=
            (pass_stable (s := stopping) (stable_drained _ _) masked).stop
          exact ⟨⟨.inl rfl, last, drained_access stopped (by simp)⟩, rfl⟩
      | false =>
          rw [if_neg (by simpa using stops)]
          refine ⟨⟨.inl rfl, last, ?_⟩, rfl⟩
          rw [closingWords, if_neg (by simp), List.append_nil]
          exact drained_access (masked.mono (List.nil_subset [Command.stop])) (by simp)
    · exact .inl ⟨.inr busy, passed⟩
  · exact .inl ⟨.inr busy, emits⟩

theorem Queuing.serveTransmit (queuing : s.Queuing base data)
    (bound : s.port.txFifo.length ≤ numFifos) (stops : s.stopOnCompletion = sendStop)
    (msr : Msr) :
    (s.serveTransmit msr).Queuing base data ∨
      (s.serveTransmit msr).Queued base data sendStop ∧
        (s.serveTransmit msr).state = finalState sendStop := by
  unfold Master.serveTransmit transferOut
  split
  · have begun : s.beginTransfer.state = .transferring := by
      unfold beginTransfer
      split
      · rfl
      · next started => exact queuing.busy.resolve_left fun ⟨_, fresh⟩ => started fresh
    have sent : s.beginTransfer.sentWords data = s.sentWords data := by
      unfold beginTransfer
      split <;> rfl
    have emits : s.beginTransfer.port.Emits base (s.beginTransfer.sentWords data) := by
      rw [port_beginTransfer, sent]
      exact queuing.emits
    have filled : s.beginTransfer.refill.port.Emits base (s.beginTransfer.refill.sentWords data) :=
      fill_sends (stable_emits base) (fun _ _ _ emits => emits.send _) _
        (pass_stable (s := s.beginTransfer) (stable_emits _ _) emits)
    have kept : KeepsBuffer s s.beginTransfer.refill :=
      (keepsBuffer_beginTransfer s).trans (continues_refill begun).toKeepsBuffer
    rw [if_pos begun]
    exact queued_finishWriting ((state_fill _ _).trans begun) filled
      (txFifo_refill (by rwa [port_beginTransfer])) (kept.stopOnCompletion.trans stops)
  · exact .inl queuing

theorem Queued.serveTransmit (queued : s.Queued base data sendStop) (some : s.buff.size ≠ 0)
    (msr : Msr) : s.serveTransmit msr = s := by
  have started : s.beginTransfer = s := beginTransfer_started (by rw [queued.last]; exact some)
  have halted : s.state ≠ .transferring := by
    rcases queued.state with state | state
    · rw [state]
      cases sendStop <;> decide
    · rw [state]
      decide
  unfold Master.serveTransmit transferOut
  rw [started, if_neg halted, ite_self]

theorem Queued.serveStop (queued : s.Queued base data sendStop) (msr : Msr) :
    (s.serveStop msr).Queued base data sendStop ∧
      ((s.serveStop msr).state = s.state ∨ (s.serveStop msr).state = .stopped) := by
  by_cases ended : msr.sdf = true
  · have driver := serveStop_driver (s := s) ended
    have state : (s.serveStop msr).state = .stopped := by rw [driver]
    refine ⟨⟨.inr state, by rw [driver]; exact queued.last, ?_⟩, .inr state⟩
    have same : (s.serveStop msr).sentWords data = s.sentWords data := by
      rw [sentWords, driver, sentWords]
    rw [same]
    refine (drives_serveStop msr s).keeps (stable_drained _ _) ?_ queued.drained
    intro f listed p drained
    simp only [List.mem_cons, List.not_mem_nil, or_false] at listed
    rcases listed with rfl | rfl <;> exact drained.of_mem (by simp)
  · rw [serveStop_quiet (by simpa using ended)]
    exact ⟨queued, .inl rfl⟩

theorem overflowed_serveTransmit (bound : s.port.txFifo.length ≤ numFifos)
    (within : s.port.overflowed = false) (msr : Msr) :
    (s.serveTransmit msr).port.overflowed = false := by
  rw [← port_beginTransfer s] at bound within
  unfold Master.serveTransmit transferOut
  split
  · split
    · exact overflowed_finishWriting (txFifo_refill bound) (overflowed_refill bound within)
    · exact within
  · rwa [port_beginTransfer] at within

variable [DecidableEq O] {a : Step O}

omit [DecidableEq O] in
theorem Asked.moved (asked : s.Asked data words sendStop)
    (driver : t.toMasterDriver = s.toMasterDriver) (moves : Drives (fun _ => False) s t) :
    t.Asked data words sendStop where
  writing := by rw [driver]; exact asked.writing
  words := by rw [driver]; exact asked.words
  some := by rw [driver]; exact asked.some
  stops := by rw [driver]; exact asked.stops
  bounded := by rw [driver]; exact asked.bounded
  room := moves.keeps (stable_txFifo _) (fun _ none => none.elim) asked.room
  within := moves.keeps stable_overflowed (fun _ none => none.elim) asked.within

theorem Asked.isr (asked : s.Asked data words sendStop)
    (unfailed : s.pass.port.msr.failed = false) (none : s.pass.port.msr.rdf = false) :
    s.isr.Asked data words sendStop := by
  have kept := keepsBuffer_isr s
  let ended := s.pass.serveStop s.pass.port.msr
  have goes : s.isr = ended.serveTransmit s.pass.port.msr := isr_writing unfailed none
  have memory : s.isr.memory = s.memory := by
    rw [goes, memory_serveTransmit]
    change (s.pass.serveStop s.pass.port.msr).memory = _
    unfold Master.serveStop
    split <;> rfl
  have short : ended.port.txFifo.length ≤ numFifos :=
    txFifo_kept (drives_serveStop _ s.pass) (by simp [registerWrites])
      (pass_stable (stable_txFifo _) asked.room)
  have within : ended.port.overflowed = false := by
    refine (drives_serveStop _ s.pass).keeps stable_overflowed ?_ (overflowed_pass asked.within)
    intro f listed p within
    simp only [List.mem_cons, List.not_mem_nil, or_false] at listed
    rcases listed with rfl | rfl <;> exact within
  exact {
    writing := kept.ignoreTdf.trans asked.writing
    words := by rw [memory, kept.window.1, kept.window.2]; exact asked.words
    some := by rw [kept.window.2]; exact asked.some
    stops := kept.stopOnCompletion.trans asked.stops
    bounded := kept.bounded asked.bounded
    room := by rw [goes]; exact txFifo_serveTransmit _ short
    within := by rw [goes]; exact overflowed_serveTransmit short within _ }

omit [DecidableEq O] in
theorem Queuing.moved (queuing : s.Queuing base data)
    (driver : t.toMasterDriver = s.toMasterDriver) (moves : Drives (fun _ => False) s t) :
    t.Queuing base data where
  busy := by rw [driver]; exact queuing.busy
  emits := by
    rw [sentWords, driver]
    exact moves.keeps (stable_emits _ _) (fun _ none => none.elim) queuing.emits

omit [DecidableEq O] in
theorem Queued.moved (queued : s.Queued base data sendStop)
    (driver : t.toMasterDriver = s.toMasterDriver) (moves : Drives (fun _ => False) s t) :
    t.Queued base data sendStop where
  state := by rw [driver]; exact queued.state
  last := by rw [driver]; exact queued.last
  drained := by
    rw [sentWords, driver]
    exact moves.keeps (stable_drained _ _) (fun _ none => none.elim) queued.drained

omit [DecidableEq O] in
theorem rdf_of_servesWrite (serves : s.port.ServesWrite) : s.pass.port.msr.rdf = false := by
  simp [msr, (pass_stable stable_servesWrite serves).rxFifo]

/-- The error, SDF and RDF branches are not taken. -/
theorem Queuing.isr_eq (queuing : s.Queuing base data) (unfailed : s.pass.port.msr.failed = false) :
    s.isr = s.pass.serveTransmit s.pass.port.msr := by
  have looked : s.pass.Queuing base data := queuing.moved rfl (drives_pass _ s)
  have unseen : s.pass.port.stopSeen = false :=
    (looked.emits.sending.resolve_left (by simp [unfailed])).2.2
  have running : s.pass.port.msr.sdf = false := by
    by_contra ended
    have seen := looked.emits.serves.own (by simpa [msr] using ended)
    simp [unseen] at seen
  rw [isr_writing unfailed (rdf_of_servesWrite queuing.emits.serves), serveStop_quiet running]

theorem Queuing.isr (queuing : s.Queuing base data) (asked : s.Asked data words sendStop)
    (unfailed : s.pass.port.msr.failed = false) :
    s.isr.Queuing base data ∨
      s.isr.Queued base data sendStop ∧ s.isr.state = finalState sendStop := by
  have looked : s.pass.Queuing base data := queuing.moved rfl (drives_pass _ s)
  rw [queuing.isr_eq unfailed]
  exact looked.serveTransmit (pass_stable (stable_txFifo _) asked.room) asked.stops _

theorem Queued.isr (queued : s.Queued base data sendStop) (some : s.buff.size ≠ 0)
    (unfailed : s.pass.port.msr.failed = false) :
    s.isr.Queued base data sendStop ∧ (s.isr.state = s.state ∨ s.isr.state = .stopped) := by
  have looked : s.pass.Queued base data sendStop := queued.moved rfl (drives_pass _ s)
  have ended := looked.serveStop s.pass.port.msr
  have window : (s.pass.serveStop s.pass.port.msr).buff.size = s.buff.size := by
    by_cases sdf : s.pass.port.msr.sdf = true
    · rw [serveStop_driver sdf]
      rfl
    · rw [serveStop_quiet (by simpa using sdf)]
      rfl
  rw [isr_writing unfailed (rdf_of_servesWrite queued.drained.serves),
    ended.1.serveTransmit (by rwa [window])]
  exact ended

/-- The driver comes into `state`. -/
def Becomes (state : MasterState) (s : Master O) (a : Step O) : Prop :=
  s.state ≠ state ∧ (s.step a).state = state

instance (state : MasterState) (s : Master O) (a : Step O) : Decidable (s.Becomes state a) :=
  inferInstanceAs (Decidable (_ ∧ _))

omit [DecidableEq O] in
theorem Queuing.state_ne (sendStop : Bool) (queuing : s.Queuing base data) :
    s.state ≠ finalState sendStop ∧ s.state ≠ .stopped := by
  rcases queuing.busy with ⟨state, _⟩ | state <;> rw [state] <;> cases sendStop <;> decide

theorem Queuing.step (queuing : s.Queuing base data) (asked : s.Asked data words sendStop)
    (between : a.action.betweenCalls = true) (unfailing : s.Unfailing a) :
    (s.step a).Asked data words sendStop ∧
      ((s.step a).Queuing base data ∧ ¬ s.Becomes (finalState sendStop) a ∨
        (s.step a).Queued base data sendStop ∧ s.Becomes (finalState sendStop) a) := by
  have other := queuing.state_ne sendStop
  by_cases interrupts : s.Interrupts a
  · rw [Becomes, step_interrupts interrupts]
    have unfailed := unfailing interrupts
    have scheduled : (s.schedule a.meanwhile).Queuing base data := queuing.moved rfl .refl
    have asked' : (s.schedule a.meanwhile).Asked data words sendStop := asked.moved rfl .refl
    refine ⟨asked'.isr unfailed (rdf_of_servesWrite scheduled.emits.serves), ?_⟩
    rcases scheduled.isr asked' unfailed with still | ⟨done, final⟩
    · exact .inl ⟨still, fun ⟨_, final⟩ => (still.state_ne _).1 final⟩
    · exact .inr ⟨done, other.1, final⟩
  · have driver := step_driver (Action.isCall_of_betweenCalls between) interrupts
    have moves := drives_step (fun _ => False) between interrupts
    refine ⟨asked.moved driver moves, .inl ⟨queuing.moved driver moves, fun ⟨_, final⟩ => ?_⟩⟩
    rw [driver] at final
    exact other.1 final

theorem Queued.step (queued : s.Queued base data sendStop) (asked : s.Asked data words sendStop)
    (between : a.action.betweenCalls = true) (unfailing : s.Unfailing a) :
    (s.step a).Asked data words sendStop ∧ (s.step a).Queued base data sendStop ∧
      ¬ s.Becomes (finalState sendStop) a := by
  have apart : MasterState.stopped ≠ finalState sendStop := by cases sendStop <;> decide
  by_cases interrupts : s.Interrupts a
  · rw [Becomes, step_interrupts interrupts]
    have unfailed := unfailing interrupts
    have scheduled : (s.schedule a.meanwhile).Queued base data sendStop := queued.moved rfl .refl
    have asked' : (s.schedule a.meanwhile).Asked data words sendStop := asked.moved rfl .refl
    obtain ⟨still, same | stopped⟩ := scheduled.isr asked'.some unfailed
    · refine ⟨asked'.isr unfailed (rdf_of_servesWrite scheduled.drained.serves), still, ?_⟩
      exact fun ⟨before, after⟩ => before (same.symm.trans after)
    · refine ⟨asked'.isr unfailed (rdf_of_servesWrite scheduled.drained.serves), still, ?_⟩
      exact fun ⟨_, after⟩ => apart (stopped.symm.trans after)
  · have driver := step_driver (Action.isCall_of_betweenCalls between) interrupts
    have moves := drives_step (fun _ => False) between interrupts
    refine ⟨asked.moved driver moves, queued.moved driver moves, fun ⟨before, after⟩ => ?_⟩
    rw [driver] at after
    exact before after

/-! ### The transmit FIFO is filled each time that it has run empty -/

omit [DecidableEq O] in
theorem nextIndex_fill (fifoSpace : Nat) (bounded : s.buff.Bounded) :
    (s.fill fifoSpace).buff.nextIndex = min s.buff.size (s.buff.nextIndex + fifoSpace) := by
  have within : s.buff.nextIndex ≤ s.buff.size := bounded
  induction fifoSpace generalizing s with
  | zero => exact (Nat.min_eq_right within).symm
  | succ fifoSpace ih =>
      unfold fill
      split
      · next more =>
        have next := I2CBuffer.Bounded.advance_of_data more
        refine (ih (s := s.transmitNext) next next).trans ?_
        change min s.buff.size (s.buff.nextIndex + 1 + fifoSpace) = _
        rw [Nat.add_right_comm, Nat.add_assoc]
      · next none =>
        have all : ¬ s.buff.nextIndex < s.buff.size := by
          simpa [I2CBuffer.hasDataAvailable] using none
        omega

/-- An ISR call that finds the transmit FIFO empty. -/
def FindsEmpty (s : Master O) (a : Step O) : Prop :=
  s.Interrupts a ∧ (s.atSnapshot a).port.msr.tdf = true

instance (s : Master O) (a : Step O) : Decidable (s.FindsEmpty a) := by
  unfold FindsEmpty Interrupts
  infer_instance

omit [DecidableEq O] in
theorem Queuing.fills (queuing : s.Queuing base data) (bounded : s.buff.Bounded)
    (stops : s.stopOnCompletion = sendStop) (writing : s.ignoreTdf = false) {msr : Msr}
    (tdf : msr.tdf = true) (empty : s.port.txFifo = []) :
    (s.serveTransmit msr).buff.nextIndex = min s.buff.size (s.buff.nextIndex + numFifos) ∧
      (s.buff.nextIndex = s.buff.size → s.buff.size ≠ 0 →
        (s.serveTransmit msr).state = finalState sendStop) := by
  have begun : s.beginTransfer.state = .transferring :=
    state_beginTransfer (queuing.busy.imp And.right id)
  have none (t : Master O) (h : t.port.txFifo.length ≤ 0) : t.pass.port.txFifoCount = 0 := by
    have passed := pass_stable (stable_txFifo 0) h
    rw [txFifoCount, List.eq_nil_of_length_eq_zero (Nat.le_zero.mp passed)]
    rfl
  have filled : s.beginTransfer.refill = s.beginTransfer.pass.fill numFifos := by
    unfold refill
    dsimp only
    rw [none _ (by rw [port_beginTransfer, empty]; exact Nat.le_refl 0), Nat.sub_zero]
  have buff : s.beginTransfer.buff = s.buff := (beginTransfer_kept s).2
  have goes : s.serveTransmit msr = s.beginTransfer.refill.finishWriting := by
    unfold Master.serveTransmit transferOut
    rw [writing, tdf, if_pos (by rfl), if_pos begun]
  rw [goes, buff_finishWriting, filled]
  refine ⟨?_, fun all some => ?_⟩
  · rw [← buff] at bounded ⊢
    exact nextIndex_fill numFifos (s := s.beginTransfer.pass) bounded
  · have started : s.beginTransfer = s := beginTransfer_started (by rw [all]; exact some)
    have still : s.pass.fill numFifos = s.pass := by
      have full : ¬ s.buff.nextIndex < s.buff.size := by omega
      simp [numFifos, fill, I2CBuffer.hasDataAvailable, full]
    have last : s.pass.pass.port.txFifoCount = 0 :=
      none s.pass (pass_stable (stable_txFifo 0) (by rw [empty]; exact Nat.le_refl 0))
    rw [started, still]
    unfold finishWriting
    dsimp only
    rw [if_pos (show s.pass.buff.finishedWriting = true by
      simpa [I2CBuffer.finishedWriting] using all), if_pos last]
    cases sendStop with
    | true =>
        rw [if_pos (by exact stops)]
        rfl
    | false =>
        rw [if_neg (by simpa using stops)]
        rfl

/-- `n` calls have found the FIFO empty: each but the last has put four bytes into it. -/
def Filled (n : Nat) (s : Master O) : Prop :=
  numFifos * n ≤ s.buff.nextIndex ∨
    s.buff.nextIndex = s.buff.size ∧ numFifos * n < s.buff.size + numFifos

theorem Queuing.filled_step {n : Nat} (queuing : s.Queuing base data)
    (asked : s.Asked data words sendStop) (filled : s.Filled n)
    (between : a.action.betweenCalls = true) (unfailing : s.Unfailing a)
    (still : (s.step a).Queuing base data) :
    (s.step a).Filled (n + if s.FindsEmpty a then 1 else 0) := by
  by_cases interrupts : s.Interrupts a
  · have scheduled : (s.schedule a.meanwhile).Queuing base data := queuing.moved rfl .refl
    have looked : (s.atSnapshot a).Queuing base data := scheduled.moved rfl (drives_pass _ _)
    have serves : s.step a = (s.atSnapshot a).serveTransmit (s.atSnapshot a).port.msr :=
      (step_interrupts interrupts).trans (scheduled.isr_eq (unfailing interrupts))
    have window : (s.step a).buff.size = s.buff.size := by
      rw [serves]
      exact (keepsBuffer_continues (continues_serveTransmit _ _)).window.2
    by_cases tdf : (s.atSnapshot a).port.msr.tdf = true
    · have bounded : s.buff.nextIndex ≤ s.buff.size := asked.bounded
      obtain ⟨index, done⟩ := looked.fills asked.bounded asked.stops asked.writing tdf
        (List.isEmpty_iff.mp tdf)
      change _ = min s.buff.size (s.buff.nextIndex + numFifos) at index
      have more : s.buff.nextIndex ≠ s.buff.size := by
        intro all
        refine (still.state_ne sendStop).1 ?_
        rw [serves]
        exact done all asked.some
      rw [if_pos ⟨interrupts, tdf⟩, Filled, window, serves, index, Nat.mul_succ]
      unfold Filled at filled
      omega
    · have quiet : (s.step a).buff = s.buff := by
        rw [serves, Master.serveTransmit, if_neg (by simp [tdf])]
        rfl
      rw [if_neg fun finds => tdf finds.2, Nat.add_zero, Filled, quiet]
      exact filled
  · have driver := step_driver (Action.isCall_of_betweenCalls between) interrupts
    rw [if_neg fun finds => interrupts finds.1, Nat.add_zero, Filled, driver]
    exact filled

theorem filled_run {steps : List (Step O)} (asked : s.Asked data words sendStop)
    (queuing : s.Queuing base data) (between : ∀ a ∈ steps, a.action.betweenCalls = true)
    (unfailing : Along step Unfailing s steps) :
    (run step s steps).Filled (occurrences step FindsEmpty s steps) ∨
      (run step s steps).Queued base data sendStop := by
  have course := count_invariant (p := FindsEmpty) (n := 0)
    (I := fun n (u : Master O) => u.Asked data words sendStop ∧
      (u.Queuing base data ∧ u.Filled n ∨ u.Queued base data sendStop))
    (fun n u a ⟨asked, now⟩ between unfailing => by
      rcases now with ⟨queuing, filled⟩ | queued
      · obtain ⟨still, ⟨more, _⟩ | ⟨done, _⟩⟩ := queuing.step asked between unfailing
        · exact ⟨still, .inl ⟨more, queuing.filled_step asked filled between unfailing more⟩⟩
        · exact ⟨still, .inr done⟩
      · obtain ⟨still, done, _⟩ := queued.step asked between unfailing
        exact ⟨still, .inr done⟩)
    ⟨asked, .inl ⟨queuing, .inl (Nat.zero_le _)⟩⟩ between unfailing
  rw [Nat.zero_add] at course
  exact course.2.imp_left And.right

omit [DecidableEq O] in
theorem queuing_writeAsync (ready : s.state.ready = true) (blank : s.port.Blank)
    (address : UInt8) (buffer : Pointer O) {numBytes : Nat} (some : numBytes ≠ 0)
    (sendStop : Bool) :
    let data := ((address &&& 0x7F) <<< 1) ||| masterWrite
    let t := s.writeAsync address buffer numBytes sendStop
    t.Asked data (writeWords data (s.memory.slice buffer numBytes)) sendStop ∧
      t.Queuing s.port.written data := by
  intro data t
  obtain ⟨_, driver, call⟩ :=
    writeAsync_accepted some (writeAsync_blank ready blank address buffer some sendStop)
  obtain ⟨u, quiet, written, started⟩ :=
    start_blank (s := { s with calls := s.calls + 1 }) ready blank address masterWrite
  obtain ⟨p, announced, men, sent⟩ := sendStart_announced quiet address masterWrite
  rw [started] at driver call
  let asked : Master O :=
    { (u.sendStart address masterWrite).initialiseBuff buffer numBytes with
      stopOnCompletion := sendStop }
  have port : asked.port = p.send (.start data) := sent
  have begun : asked.port.Begun (s.port.written) data := by
    rw [port, ← written]
    exact announced.begun men data
  obtain ⟨serves, sending, words, room, within⟩ := pass_stable stable_begun begun
  have enabled : (asked.access (setTdie true)).port.Emits s.port.written (writeWords data []) :=
    ⟨serves.of_mem (f := setTdie true) (by simp),
      (quiet_of_mem (f := setTdie true) (by simp)).sending rfl sending, words, rfl⟩
  have same : t = asked.access (setTdie true) := call
  rw [same]
  exact ⟨{
    writing := congrArg MasterDriver.ignoreTdf driver
    words := congrArg (fun d => writeWords data (d.memory.slice buffer numBytes)) driver
    some := some
    stops := rfl
    bounded := Nat.zero_le _
    room := room.trans (by decide)
    within := within }, .inl ⟨congrArg MasterDriver.state driver, rfl⟩, enabled⟩

/-- A write from a ready driver on a quiet port puts the words of its transaction into the FIFO,
in order and once each, whatever the hardware does meanwhile. An interrupt is pending each time
that the FIFO has run empty, and after one such ISR call for every four bytes and another the
driver has written all of them and comes to its final state. -/
theorem write_emits_transaction (s : Master O) (address : UInt8) (buffer : Pointer O)
    (numBytes : Nat) (sendStop : Bool) (meanwhile : List (List BusEvent))
    (steps : List (Step O)) (finished : s.finished = true) (blank : s.port.Blank)
    (some : numBytes ≠ 0) (between : ∀ a ∈ steps, a.action.betweenCalls = true) :
    let call := { action := .writeAsync address buffer numBytes sendStop, meanwhile := meanwhile }
    let words := writeWords (((address &&& 0x7F) <<< 1) ||| masterWrite)
      (s.memory.slice buffer numBytes) ++ closingWords sendStop
    let ended := [finalState sendStop, MasterState.stopped]
    let t := run step s (call :: steps)
    Along step Unfailing (s.step call) steps →
      (∃ sent, t.port.written = s.port.written ++ sent ∧ sent <+: words ∧
        (t.state ∈ ended → sent = words ∧ t.port.txFifo ⊆ [.stop])) ∧
      t.port.txFifo.length ≤ numFifos ∧ t.port.overflowed = false ∧
      occurrences step (Becomes (finalState sendStop)) (s.step call) steps =
        (if t.state ∈ ended then 1 else 0) ∧
      (t.port.irqEnabled = true → t.port.pending = false → t.port.txFifo = [] →
        t.state ∈ ended) ∧
      (numBytes + numFifos ≤ numFifos * occurrences step FindsEmpty (s.step call) steps →
        t.state ∈ ended) := by
  intro call words ended t unfailing
  let data := ((address &&& 0x7F) <<< 1) ||| masterWrite
  let bytes := s.memory.slice buffer numBytes
  have called : (s.step call).Asked data (writeWords data bytes) sendStop ∧
      (s.step call).Queuing s.port.written data :=
    queuing_writeAsync (s := s.schedule meanwhile) (ready_of_finished finished) blank address
      buffer some sendStop
  have course := occurs_once (p := Becomes (finalState sendStop))
    (I := fun u : Master O =>
      u.Asked data (writeWords data bytes) sendStop ∧ u.Queuing s.port.written data)
    (J := fun u : Master O =>
      u.Asked data (writeWords data bytes) sendStop ∧ u.Queued s.port.written data sendStop)
    (fun u a ⟨asked, queuing⟩ between unfailing => by
      obtain ⟨still, now⟩ := queuing.step asked between unfailing
      exact now.imp (fun ⟨more, other⟩ => ⟨⟨still, more⟩, other⟩)
        fun ⟨done, becomes⟩ => ⟨⟨still, done⟩, becomes⟩)
    (fun u a ⟨asked, queued⟩ between unfailing => by
      obtain ⟨still, done, other⟩ := queued.step asked between unfailing
      exact ⟨⟨still, done⟩, other⟩)
    called between unfailing
  change (t.Asked _ _ _ ∧ t.Queuing _ _) ∧ _ ∨ (t.Asked _ _ _ ∧ t.Queued _ _ _) ∧ _ at course
  rcases course with ⟨⟨asked, queuing⟩, count⟩ | ⟨⟨asked, queued⟩, count⟩
  · have other : t.state ∉ ended := by
      simpa [ended] using queuing.state_ne sendStop
    have part : t.sentWords data <+: words := by
      have sent := t.memory.slice_prefix t.buff.buffer asked.bounded
      have known : t.sentWords data <+: writeWords data bytes := by
        rw [← asked.words]
        exact (List.prefix_cons_inj _).mpr (sent.map Command.transmit)
      exact known.trans (List.prefix_append ..)
    refine ⟨⟨t.sentWords data, queuing.emits.written, part, fun last => absurd last other⟩,
      asked.room, asked.within, by rw [count, if_neg other], ?_, ?_⟩
    · intro enabled none empty
      simp [pending, enabled, queuing.emits.tdie, msr, empty] at none
    · intro often
      have size : t.buff.size = numBytes := by
        simpa [bytes, writeWords] using congrArg List.length asked.words
      have within : t.buff.nextIndex ≤ t.buff.size := asked.bounded
      have room : 0 < numFifos := by decide
      have last := filled_run called.1 called.2 between unfailing
      change t.Filled _ ∨ t.Queued _ _ _ at last
      rcases last with filled | queued
      · unfold Filled at filled
        omega
      · exact absurd (by simpa [ended] using queued.state) other
  · have here : t.state ∈ ended := by simpa [ended] using queued.state
    have all : t.sentWords data = writeWords data bytes := by
      rw [sentWords, queued.last]
      exact asked.words
    refine ⟨⟨words, ?_, List.prefix_refl _, fun _ => ⟨rfl, queued.drained.queued⟩⟩,
      asked.room, asked.within, by rw [count, if_pos here], fun _ _ _ => here, fun _ => here⟩
    rw [queued.drained.written, all, List.append_assoc]

end Master

/-! ### A write of two bytes with STOP -/

def writeTwoBytes : Master.Step Bool :=
  (Master.Action.writeAsync 0x2D ⟨true, 0⟩ 2 true).alone

/-- The address is on the bus when the ISR fills the FIFO, which then runs empty byte by byte. -/
def twoBytesTaken : List (Master.Step Bool) :=
  [.hardware .fetch, .isr, .hardware .ack, .hardware .fetch, .isr, .hardware .ack,
    .hardware .fetch, .isr, .hardware .ack, .hardware .fetch, .hardware .stopDone, .isr].map
    Master.Action.alone

theorem two_bytes_emitted :
    let t := run Master.step (Master.fresh fun _ _ => 0x11)
      (powerUp ++ writeTwoBytes :: twoBytesTaken)
    t.state = .stopped ∧
      t.port.written = [.start 0x5A, .transmit 0x11, .transmit 0x11, .stop] := by
  have course := Master.write_emits_transaction (run Master.step (Master.fresh fun _ _ => 0x11)
    powerUp) 0x2D ⟨true, 0⟩ 2 true [] twoBytesTaken rfl ⟨rfl, rfl, rfl, rfl⟩ (by decide) (by decide)
    (by decide)
  obtain ⟨⟨sent, written, _, complete⟩, _, _, _, _, ends⟩ := course
  refine ⟨by decide, ?_⟩
  rw [run_append]
  exact written.trans (by rw [(complete (by decide)).1]; rfl)

end TeensyI2C
