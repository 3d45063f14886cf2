import TeensyI2C.Master.Accounting
import TeensyI2C.Master.NakClasses

/-!
What `get_bytes_transferred` tells about the last call. It is the cursor of the buffer. A call that
moves no byte leaves the cursor where it was, a write moves it when it fills the FIFO, and a read
when it empties the FIFO.
-/

namespace TeensyI2C
open ObjectMemory Interference EventMachine MasterPort

namespace Master
variable {O : Type} [Inhabited O] [DecidableEq O] {s t : Master O} {a : Step O}

/-! ### Calls that move no byte -/

/-- How many bytes a call is to move. -/
def Action.numBytes : Action O → Nat
  | .writeAsync _ _ numBytes _ | .readAsync _ _ numBytes _ => numBytes
  | _ => 0

omit [DecidableEq O] in
theorem start_buff (s : Master O) (address direction : UInt8) :
    (s.start address direction).1.buff = s.buff ∧
      ((s.start address direction).2 = true → (s.start address direction).1.error = .ok) := by
  obtain ⟨e, state, ignore, driver, _, effect⟩ := start_driver s address direction
  rw [driver]
  refine ⟨rfl, fun started => ?_⟩
  rw [if_pos started] at effect
  exact effect.1

omit [DecidableEq O] in
theorem buff_writeAsync {address : UInt8} {buffer : Pointer O} {numBytes : Nat} {sendStop : Bool}
    (idle : (s.writeAsync address buffer numBytes sendStop).hasError = true ∨ numBytes = 0) :
    (s.writeAsync address buffer numBytes sendStop).buff = s.buff := by
  obtain ⟨buff, ok⟩ := start_buff { s with calls := s.calls + 1 } address masterWrite
  unfold writeAsync at idle ⊢
  dsimp only at idle ⊢
  split
  · exact buff
  · next started =>
    have go : ({ s with calls := s.calls + 1 }.start address masterWrite).2 = true := by
      simpa using started
    split
    · exact buff
    · next some =>
      rw [if_neg started, if_neg some] at idle
      have error := (hasError_eq_true _).mp (idle.resolve_right some)
      exact absurd (ok go) error

omit [DecidableEq O] in
theorem buff_readAsync {address : UInt8} {buffer : Pointer O} {numBytes : Nat} {sendStop : Bool}
    (idle : (s.readAsync address buffer numBytes sendStop).hasError = true ∨ numBytes = 0) :
    (s.readAsync address buffer numBytes sendStop).buff = s.buff := by
  obtain ⟨buff, ok⟩ := start_buff { s with calls := s.calls + 1 } address masterRead
  unfold readAsync at idle ⊢
  dsimp only at idle ⊢
  split
  · rfl
  · next short =>
    split
    · exact buff
    · next started =>
      have go : ({ s with calls := s.calls + 1 }.start address masterRead).2 = true := by
        simpa using started
      split
      · exact buff
      · next some =>
        rw [if_neg short, if_neg started, if_neg some] at idle
        have error := (hasError_eq_true _).mp (idle.resolve_right some)
        refine absurd ?_ error
        split <;> exact ok go

theorem buff_call (isCall : a.action.isCall = true)
    (idle : (s.step a).hasError = true ∨ a.action.numBytes = 0) : (s.step a).buff = s.buff := by
  cases kind : a.action with
  | writeAsync address buffer numBytes sendStop =>
      rw [step_writeAsync kind] at idle ⊢
      rw [kind] at idle
      exact buff_writeAsync (s := s.schedule a.meanwhile) idle
  | readAsync address buffer numBytes sendStop =>
      rw [step_readAsync kind] at idle ⊢
      rw [kind] at idle
      exact buff_readAsync (s := s.schedule a.meanwhile) idle
  | _ => simp [kind, Action.isCall] at isCall

/-- Without a transfer to begin or to go on with, the ISR leaves the buffer alone. -/
theorem buff_isr (unasked : s.transferAsked s.pass.port.msr ≠ true) : s.isr.buff = s.buff := by
  let msr := s.pass.port.msr
  let ended := (s.pass.serveErrors msr).serveStop msr
  have driver : ended.ignoreTdf = s.ignoreTdf ∧ ended.buff = s.buff :=
    (endings_kept msr s.pass).imp_right And.right
  have received : (ended.serveReceive msr).ignoreTdf = s.ignoreTdf ∧
      (ended.serveReceive msr).buff = s.buff := by
    refine ⟨(keepsBuffer_serveReceive msr ended).ignoreTdf.trans driver.1, ?_⟩
    unfold serveReceive
    split
    · next here =>
      have writing : ¬ ended.ignoreTdf = true := by
        intro reading
        rw [driver.1] at reading
        exact unasked (by rw [transferAsked, if_pos reading]; exact here)
      rw [if_neg writing, abort_driver]
      exact driver.2
    · exact driver.2
  change ((ended.serveReceive msr).serveTransmit msr).buff = s.buff
  unfold serveTransmit
  split
  · next here =>
    rw [Bool.and_eq_true, Bool.not_eq_true', received.1] at here
    exact absurd (by rw [transferAsked, if_neg (by simp [here.1])]; exact here.2) unasked
  · exact received.2

theorem nextIndex_step (fresh : s.buff.nextIndex = 0) (between : a.action.betweenCalls = true)
    (unbegun : ¬ s.Restarts a) : (s.step a).buff.nextIndex = 0 := by
  by_cases interrupts : s.Interrupts a
  · rw [step_interrupts interrupts, buff_isr (s := s.schedule a.meanwhile) fun asked =>
      unbegun ⟨interrupts, fresh, asked⟩]
    exact fresh
  · rw [step_driver (Action.isCall_of_betweenCalls between) interrupts]
    exact fresh

/-- An empty call that has been accepted. -/
structure Probing (s : Master O) : Prop where
  reading : s.ignoreTdf = true
  dataless : s.port.Dataless

omit [DecidableEq O] in
theorem dataless_kept (h : Drives EndingWrites s t) (dataless : s.port.Dataless) :
    t.port.Dataless :=
  h.keeps stable_dataless (fun _ listed _ dataless => dataless.of_mem listed) dataless

theorem Probing.step (probing : s.Probing) (between : a.action.betweenCalls = true) :
    (s.step a).Probing ∧ (s.step a).buff = s.buff := by
  by_cases interrupts : s.Interrupts a
  · have still : (s.atSnapshot a).port.Dataless :=
      pass_stable (s := s.schedule a.meanwhile) stable_dataless probing.dataless
    let msr := (s.atSnapshot a).port.msr
    rw [step_interrupts interrupts,
      isr_reading_empty (s := s.schedule a.meanwhile) probing.reading still.rxFifo]
    obtain ⟨reading, _, buff⟩ := endings_kept msr (s.atSnapshot a)
    refine ⟨⟨reading.trans probing.reading, ?_⟩, buff⟩
    exact dataless_kept ((ending_serveErrors msr _).trans (ending_serveStop msr _)) still
  · have driver := step_driver (Action.isCall_of_betweenCalls between) interrupts
    have moves : Drives EndingWrites s (s.step a) := drives_step _ between interrupts
    exact ⟨⟨by rw [driver]; exact probing.reading, dataless_kept moves probing.dataless⟩,
      by rw [driver]⟩

/-! ### Writes -/

/-- A write all of whose bytes can be accounted for. -/
structure Giving (s : Master O) : Prop where
  writing : s.ignoreTdf = false
  sends : s.port.Sends s.buff.nextIndex

/-- An ISR call that finds an error in a write finds no byte that has not left the FIFO. -/
def SparesSent (s : Master O) (a : Step O) : Prop :=
  s.Interrupts a → (s.atSnapshot a).port.msr.failed = true →
    (s.atSnapshot a).port.awaitingStart = false ∧ (s.atSnapshot a).port.queuedBytes = 0 ∧
      (s.atSnapshot a).port.alf = false ∧ (s.atSnapshot a).port.fef = false

instance (s : Master O) (a : Step O) : Decidable (s.SparesSent a) := by
  unfold SparesSent Interrupts
  infer_instance

section
omit [DecidableEq O]

theorem sends_kept {fs : List (MasterPort → MasterPort)} {count : Nat} (h : Drives (· ∈ fs) s t)
    (known : fs ⊆ [send .stop, setTdie false, setTdie true, setMen false, clearNdf, clearPltf,
      clearSdf]) (sends : s.port.Sends count) : t.port.Sends count :=
  h.keeps (stable_sends count) (fun _ listed _ sends => sends.of_mem (known listed)) sends

theorem writes_serveErrors {msr : Msr} (alf : msr.alf = false) (fef : msr.fef = false)
    (s : Master O) :
    Drives (· ∈ [clearNdf, clearPltf, setTdie false, resetTxFifo, resetRxFifo, send .stop])
      s (s.serveErrors msr) := by
  have recorded : Drives (· ∈ [clearNdf, clearPltf, setTdie false, resetTxFifo, resetRxFifo,
      send .stop]) s (s.recordErrors msr) := by
    have ndf := (drives_recordNdf msr s).mono fun _ member =>
      List.mem_append_left [clearPltf, setTdie false, resetTxFifo, resetRxFifo, send .stop] member
    refine ndf.trans ?_
    simp only [recordErrors, recordAlf, alf, recordFef, fef, Bool.false_eq_true, if_false]
    unfold recordPltf
    split
    · exact drives_access (by simp)
    · exact .refl
  unfold serveErrors
  dsimp only
  split
  · split
    · exact recorded.trans ((drives_abort { s.recordErrors msr with state := .stopping }).mono
        fun _ member => List.mem_append_right [clearNdf, clearPltf] member)
    · exact recorded
  · exact .refl

theorem sends_serveErrors {msr : Msr} {count : Nat} (alf : msr.alf = false) (fef : msr.fef = false)
    (sends : s.port.Sends count) (begun : s.port.awaitingStart = false)
    (empty : s.port.queuedBytes = 0) : (s.serveErrors msr).port.Sends count := by
  have kept := (writes_serveErrors alf fef s).keeps
    ((stable_sends count).and (stable_started.and stable_queuedBytes)) ?_ ⟨sends, begun, empty⟩
  · exact kept.1
  · intro f listed p ⟨sends, begun, empty⟩
    simp only [List.mem_cons, List.not_mem_nil, or_false] at listed
    rcases listed with rfl | rfl | rfl | rfl | rfl | rfl
    · exact ⟨sends.of_mem (by simp), begun, empty⟩
    · exact ⟨sends.of_mem (by simp), begun, empty⟩
    · exact ⟨sends.of_mem (by simp), begun, empty⟩
    · exact ⟨sends.abort begun empty, begun, rfl⟩
    · exact ⟨⟨⟨rfl, sends.owed⟩, sends.first, sends.counted⟩, begun, empty⟩
    · exact ⟨sends.of_mem (by simp), begun, by simpa [queuedBytes, send, Command.sends] using empty⟩

theorem sends_fill (fifoSpace : Nat) (sends : s.port.Sends s.buff.nextIndex) :
    (s.fill fifoSpace).port.Sends (s.fill fifoSpace).buff.nextIndex := by
  induction fifoSpace generalizing s with
  | zero => exact sends
  | succ fifoSpace ih =>
      unfold fill
      split
      · refine ih (s := s.transmitNext) ?_
        exact (pass_stable (stable_sends _) sends).transmit (s.memory.load s.buff.cursor)
      · exact sends

theorem sends_serveTransmit {msr : Msr} (sends : s.port.Sends s.buff.nextIndex) :
    (s.serveTransmit msr).port.Sends (s.serveTransmit msr).buff.nextIndex := by
  obtain ⟨_, buff⟩ := beginTransfer_kept s
  rw [← port_beginTransfer, ← buff] at sends
  unfold serveTransmit transferOut
  split
  · split
    · have looked := pass_stable (stable_sends _) sends
      have filled : s.beginTransfer.refill.port.Sends s.beginTransfer.refill.buff.nextIndex :=
        sends_fill (s := s.beginTransfer.pass) _ looked
      rw [buff_finishWriting]
      exact sends_kept (drives_finishWriting _) (by simp) filled
    · exact sends
  · rwa [port_beginTransfer, buff] at sends

end

theorem Giving.step (giving : s.Giving) (between : a.action.betweenCalls = true)
    (spares : s.SparesSent a) : (s.step a).Giving := by
  by_cases interrupts : s.Interrupts a
  · let snapshot := s.atSnapshot a
    let msr := snapshot.port.msr
    let ended := (snapshot.serveErrors msr).serveStop msr
    have looked : snapshot.port.Sends s.buff.nextIndex :=
      pass_stable (s := s.schedule a.meanwhile) (stable_sends _) giving.sends
    have noted : (snapshot.serveErrors msr).port.Sends s.buff.nextIndex := by
      cases failed : msr.failed with
      | false =>
          rw [serveErrors_quiet failed]
          exact looked
      | true =>
          obtain ⟨begun, empty, alf, fef⟩ := spares interrupts failed
          exact sends_serveErrors alf fef looked begun empty
    have closed : ended.port.Sends s.buff.nextIndex :=
      sends_kept (drives_serveStop msr _) (by simp) noted
    have quiet : msr.rdf = false := by simp [msr, MasterPort.msr, looked.rxFifo]
    have buff : ended.buff = s.buff := (endings_kept msr snapshot).2.2
    have goes : (s.schedule a.meanwhile).isr = ended.serveTransmit msr := by
      change (ended.serveReceive msr).serveTransmit msr = _
      rw [serveReceive, if_neg (by simp [quiet])]
    rw [step_interrupts interrupts]
    refine ⟨(keepsBuffer_isr _).ignoreTdf.trans giving.writing, ?_⟩
    rw [goes]
    exact sends_serveTransmit (by rw [buff]; exact closed)
  · have driver := step_driver (Action.isCall_of_betweenCalls between) interrupts
    have moves : Drives (· ∈ ([] : List (MasterPort → MasterPort))) s (s.step a) :=
      drives_step _ between interrupts
    exact ⟨by rw [driver]; exact giving.writing,
      by rw [driver]; exact sends_kept moves (by simp) giving.sends⟩

omit [DecidableEq O] in
theorem Giving.counted (giving : s.Giving) (sent : s.port.unsent = 0)
    (alf : s.port.alf = false) (fef : s.port.fef = false) :
    s.buff.nextIndex = s.port.crossed.length := by
  rcases giving.sends.counted with lost | lost | all
  · simp [alf] at lost
  · simp [fef] at lost
  · rw [← all, sent, Nat.add_zero]

/-! ### Reads -/

/-- What has been received is what has been stored into `buffer` and what the FIFO holds. -/
structure Gathers (buffer : Pointer O) (n : Nat) (s : Master O) : Prop where
  window : s.buff.buffer = buffer ∧ s.buff.size = n
  receives : s.port.Receives (s.memory.slice buffer s.buff.nextIndex) n

/-- A read all of whose bytes can be accounted for. -/
structure Taking (buffer : Pointer O) (n : Nat) (s : Master O) : Prop
    extends ReadOut s, Gathers buffer n s

/-- A read whose address has not been acknowledged. -/
structure Rebuffed (s : Master O) : Prop where
  reading : s.ignoreTdf = true
  refused : s.port.Refused
  empty : s.port.crossed = [] → s.port.rxFifo = [] ∧ s.buff.nextIndex = 0

/-- An ISR call that finds an error in a read finds that the slave has not answered. One that finds
a byte takes it. -/
def SparesReceived (s : Master O) (a : Step O) : Prop :=
  s.Interrupts a →
    ((s.atSnapshot a).port.msr.failed = true → (s.atSnapshot a).port.awaitingStart = false ∧
      (s.atSnapshot a).port.acknowledged = [] ∧ (s.atSnapshot a).port.offered = none) ∧
    ((s.atSnapshot a).port.rxFifo ≠ [] → s.buff.nextIndex = 0 ∨
      s.state = .transferring ∧ (s.atSnapshot a).port.msr.failed = false ∧
        (s.atSnapshot a).port.sdf = false)

instance (s : Master O) (a : Step O) : Decidable (s.SparesReceived a) := by
  unfold SparesReceived Interrupts
  infer_instance

variable {buffer : Pointer O} {n : Nat}

omit [DecidableEq O] in
theorem Gathers.of_driver (gathers : s.Gathers buffer n) (buff : t.buff = s.buff)
    (memory : t.memory = s.memory)
    (moves : Drives (· ∈ [setTdie false, setMen false, clearSdf]) s t) : t.Gathers buffer n where
  window := by
    rw [buff]
    exact gathers.window
  receives := by
    rw [buff, memory]
    exact moves.keeps (stable_receives _ n) (fun _ listed _ receives => receives.of_mem listed)
      gathers.receives

theorem Gathers.storeReceived (gathers : s.Gathers buffer n) (waiting : s.port.rxFifo ≠ []) :
    s.storeReceived.Gathers buffer n := by
  have looked := pass_stable (stable_receives _ n) gathers.receives
  have still : s.pass.port.rxFifo ≠ [] := pass_stable stable_received waiting
  have free : ¬ s.buff.full = true := by
    have some := List.length_pos_iff.mpr still
    have count := congrArg List.length looked.received
    have within := looked.within
    rw [List.length_append, Memory.length_slice] at count
    rw [I2CBuffer.full, beq_iff_eq, gathers.window.2]
    omega
  let byte := s.pass.port.rxFifo.headD 0
  rw [storeReceived_room free]
  refine ⟨gathers.window, ?_⟩
  change s.pass.port.takeReceived.Receives
    ((s.memory.store (s.buff.buffer + s.buff.nextIndex) byte).slice buffer (s.buff.nextIndex + 1)) n
  rw [gathers.window.1, Memory.slice_store_next]
  exact looked.take still

omit [DecidableEq O] in
theorem Gathers.finishReading (gathers : s.Gathers buffer n) :
    s.finishReading.Gathers buffer n := by
  refine gathers.of_driver ?_ ?_ ((drives_finishReading s).mono fun f listed => ?_)
  · unfold Master.finishReading
    split <;> rfl
  · unfold Master.finishReading
    split <;> rfl
  · exact (show [setMen false] ⊆ [setTdie false, setMen false, clearSdf] by simp) listed

theorem Gathers.serveReceive {msr : Msr} (gathers : s.Gathers buffer n)
    (reading : s.ignoreTdf = true) (waiting : msr.rdf = true → s.port.rxFifo ≠ [] ∧
      (s.buff.nextIndex = 0 ∨ s.state = .transferring)) :
    (s.serveReceive msr).Gathers buffer n := by
  unfold Master.serveReceive
  split
  · next here =>
    obtain ⟨some, busy⟩ := waiting here
    have begun : s.beginTransfer.Gathers buffer n := by
      by_cases fresh : s.buff.nextIndex = 0
      · unfold beginTransfer
        rw [if_pos fresh]
        exact ⟨gathers.window, gathers.receives⟩
      · rw [beginTransfer_started fresh]
        exact gathers
    rw [takeByte, if_pos (state_beginTransfer busy)]
    exact (begun.storeReceived (by rwa [port_beginTransfer])).finishReading
  · exact gathers

omit [DecidableEq O] in
theorem crossed_kept (h : Drives EndingWrites s t) (begun : s.port.awaitingStart = false)
    (some : s.port.crossed ≠ []) : t.port.crossed ≠ [] := by
  refine (h.keeps stable_crossed (fun f listed p ⟨begun, some⟩ => ?_) ⟨begun, some⟩).2
  obtain ⟨crossed, awaiting, _⟩ := crossed_of_mem (p := p) listed
  exact ⟨awaiting.trans begun, by rwa [crossed]⟩

omit [DecidableEq O] in
theorem uncrossed_kept (h : Drives EndingWrites s t) (begun : s.port.awaitingStart = false)
    (empty : s.port.crossed = [] → s.port.rxFifo = []) (none : t.port.crossed = []) :
    t.port.rxFifo = [] := by
  refine (h.keeps stable_uncrossed (fun f listed p ⟨begun, empty⟩ => ?_) ⟨begun, empty⟩).2 none
  obtain ⟨crossed, awaiting, rx⟩ := crossed_of_mem (p := p) listed
  exact ⟨awaiting.trans begun, fun none => rx (empty (crossed ▸ none))⟩

theorem rebuffed_isr (reading : s.ignoreTdf = true) (begun : s.pass.port.awaitingStart = false)
    (refused : (s.pass.serveErrors s.pass.port.msr).port.Refused)
    (empty : s.pass.port.crossed = [] → s.pass.port.rxFifo = [] ∧ s.buff.nextIndex = 0) :
    s.isr.Rebuffed := by
  let msr := s.pass.port.msr
  let ended := (s.pass.serveErrors msr).serveStop msr
  have direction : ended.ignoreTdf = true := (endings_kept msr s.pass).1.trans reading
  have stopped : Drives EndingWrites (s.pass.serveErrors msr) ended := ending_serveStop msr _
  have received : Drives EndingWrites ended (ended.serveReceive msr) :=
    Drives.known (reading_writes direction msr) (by simp)
  have moves : Drives EndingWrites s.pass s.isr := by
    rw [isr_reading reading]
    exact ((ending_serveErrors msr _).trans stopped).trans received
  refine ⟨(keepsBuffer_isr s).ignoreTdf.trans reading, ?_, fun none => ?_⟩
  · rw [isr_reading reading]
    exact refused_kept (stopped.trans received) refused
  · have before : s.pass.port.crossed = [] := by
      by_contra some
      exact crossed_kept moves begun some none
    obtain ⟨rx, cursor⟩ := empty before
    refine ⟨uncrossed_kept moves begun (fun _ => rx) none, ?_⟩
    rw [isr_reading_empty reading rx, (endings_kept msr s.pass).2.2]
    exact cursor

theorem Rebuffed.step (rebuffed : s.Rebuffed) (between : a.action.betweenCalls = true) :
    (s.step a).Rebuffed := by
  obtain ⟨reading, refused, empty⟩ := rebuffed
  have moved {u : Master O} (moves : Drives EndingWrites s u) (none : u.port.crossed = []) :
      u.port.rxFifo = [] ∧ s.buff.nextIndex = 0 := by
    have before : s.port.crossed = [] := by
      by_contra some
      exact crossed_kept moves refused.begun some none
    exact ⟨uncrossed_kept moves refused.begun (fun none => (empty none).1) none, (empty before).2⟩
  by_cases interrupts : s.Interrupts a
  · have looked : Drives EndingWrites s (s.atSnapshot a) := drives_pass _ (s.schedule a.meanwhile)
    have still := refused_kept looked refused
    rw [step_interrupts interrupts]
    exact rebuffed_isr (s := s.schedule a.meanwhile) reading still.begun
      (refused_kept (ending_serveErrors _ _) still) (moved looked)
  · have driver := step_driver (Action.isCall_of_betweenCalls between) interrupts
    have moves : Drives EndingWrites s (s.step a) := drives_step _ between interrupts
    refine ⟨by rw [driver]; exact reading, refused_kept moves refused, fun none => ?_⟩
    rw [driver]
    exact moved moves none

theorem Taking.step (taking : s.Taking buffer n) (between : a.action.betweenCalls = true)
    (spares : s.SparesReceived a) : (s.step a).Taking buffer n ∨ (s.step a).Rebuffed := by
  by_cases interrupts : s.Interrupts a
  · let snapshot := s.atSnapshot a
    let msr := snapshot.port.msr
    obtain ⟨unanswered, taken⟩ := spares interrupts
    have only : snapshot.port.AddressOnly :=
      pass_stable (s := s.schedule a.meanwhile) stable_addressOnly taking.only
    have gathers : snapshot.Gathers buffer n :=
      taking.toGathers.of_driver rfl rfl (drives_pass _ (s.schedule a.meanwhile))
    cases failed : msr.failed with
    | true =>
        obtain ⟨begun, acknowledged, offered⟩ := unanswered failed
        rw [step_interrupts interrupts]
        refine .inr (rebuffed_isr (s := s.schedule a.meanwhile) taking.reading begun ?_ ?_)
        · cases ndf : snapshot.port.ndf with
          | true => exact refused_serveErrors only begun ndf ndf
          | false =>
              exact refused_kept (ending_serveErrors msr snapshot)
                ⟨begun, acknowledged, offered, only.queued begun, ndf⟩
        · intro none
          have parts := List.append_eq_nil_iff.mp (gathers.receives.received.symm.trans none)
          have count := congrArg List.length parts.1
          rw [Memory.length_slice] at count
          exact ⟨parts.2, count⟩
    | false =>
        have unfailing : s.Unfailing a := fun _ => failed
        refine .inl ⟨(ReadOut.step taking.toReadOut between unfailing).1, ?_⟩
        let ended := snapshot.serveStop msr
        have driver : ended.toMasterDriver =
            { s.toMasterDriver with state := if msr.sdf then .stopped else s.state } :=
          serveStop_state msr snapshot
        have stopped : ended.Gathers buffer n := by
          refine gathers.of_driver (by rw [driver]; rfl) (by rw [driver]; rfl)
            ((drives_serveStop msr snapshot).mono fun f listed => ?_)
          exact (show [setTdie false, clearSdf] ⊆ [setTdie false, setMen false, clearSdf] by simp)
            listed
        rw [step_interrupts interrupts, isr_reading (s := s.schedule a.meanwhile) taking.reading]
        change (((snapshot.serveErrors msr).serveStop msr).serveReceive msr).Gathers buffer n
        rw [serveErrors_quiet failed]
        refine stopped.serveReceive (by rw [driver]; exact taking.reading) fun here => ?_
        have some : snapshot.port.rxFifo ≠ [] := by simpa [msr, MasterPort.msr] using here
        refine ⟨received_serveStop msr some, ?_⟩
        rw [driver]
        refine (taken some).imp_right fun ⟨busy, _, running⟩ => ?_
        rw [if_neg (by simpa [msr, MasterPort.msr] using running)]
        exact busy
  · have driver := step_driver (Action.isCall_of_betweenCalls between) interrupts
    have moves : Drives (· ∈ registerWrites) s (s.step a) := drives_step _ between interrupts
    refine .inl ⟨taking.toReadOut.drives (by rw [driver]) moves, taking.toGathers.of_driver
      (by rw [driver]) (by rw [driver]) (drives_step _ between interrupts)⟩

/-! ### The calls -/

omit [DecidableEq O] in
theorem giving_writeAsync {address : UInt8} {numBytes : Nat} {sendStop : Bool}
    (bound : s.port.txFifo.length ≤ numFifos) (unread : s.port.Unread) (some : numBytes ≠ 0)
    (accepted : (s.writeAsync address buffer numBytes sendStop).error = .ok) :
    (s.writeAsync address buffer numBytes sendStop).Giving := by
  obtain ⟨go, driver, call⟩ := writeAsync_accepted some accepted
  have begins := begins_start (s := { s with calls := s.calls + 1 }) bound unread go
  rw [call]
  refine ⟨congrArg MasterDriver.ignoreTdf driver, ?_⟩
  exact (stable_sends 0).access (f := setTdie true) (fun _ sends => sends.of_mem (by simp))
    begins.sends

omit [DecidableEq O] in
theorem probing_writeAsync {address : UInt8} {sendStop : Bool}
    (bound : s.port.txFifo.length ≤ numFifos) (unread : s.port.Unread)
    (accepted : (s.writeAsync address buffer 0 sendStop).error = .ok) :
    (s.writeAsync address buffer 0 sendStop).Probing := by
  unfold writeAsync at accepted ⊢
  dsimp only at accepted ⊢
  rw [if_pos rfl] at accepted ⊢
  have past : ({ s with calls := s.calls + 1 }.start address masterWrite).1.error = .ok := by
    split at accepted <;> exact accepted
  obtain ⟨go, _⟩ := start_accepted past
  have begins := begins_start (s := { s with calls := s.calls + 1 }) bound unread go
  rw [if_neg (by simpa using go)]
  exact ⟨rfl, stable_dataless.access (fun _ dataless => dataless.of_mem (by simp))
    begins.toDataless⟩

omit [DecidableEq O] in
theorem readAsync_started {address : UInt8} {numBytes : Nat} {sendStop : Bool}
    (accepted : (s.readAsync address buffer numBytes sendStop).error = .ok) :
    let started := { s with calls := s.calls + 1 }.start address masterRead
    started.2 = true ∧ started.1.ignoreTdf = true ∧
      s.readAsync address buffer numBytes sendStop =
        if numBytes = 0 then started.1.access (send .stop)
        else
          let u := (started.1.initialiseBuff buffer numBytes).access
            (send (.receive (UInt8.ofNat (numBytes - 1))))
          if sendStop then u.access (send .stop) else u := by
  intro started
  unfold readAsync at accepted ⊢
  dsimp only at accepted ⊢
  split at accepted
  · cases accepted
  · next short =>
    rw [if_neg short]
    have past : started.1.error = .ok := by
      split at accepted
      · exact accepted
      · split at accepted
        · exact accepted
        · split at accepted <;> exact accepted
    obtain ⟨go, driver⟩ := start_accepted past
    exact ⟨go, congrArg MasterDriver.ignoreTdf driver, if_neg (by simpa using go)⟩

omit [DecidableEq O] in
theorem probing_readAsync {address : UInt8} {sendStop : Bool}
    (bound : s.port.txFifo.length ≤ numFifos) (unread : s.port.Unread)
    (accepted : (s.readAsync address buffer 0 sendStop).error = .ok) :
    (s.readAsync address buffer 0 sendStop).Probing := by
  obtain ⟨go, reading, call⟩ := readAsync_started accepted
  have begins := begins_start (s := { s with calls := s.calls + 1 }) bound unread go
  rw [call, if_pos rfl]
  exact ⟨reading, stable_dataless.access (fun _ dataless => dataless.of_mem (by simp))
    begins.toDataless⟩

omit [DecidableEq O] in
theorem taking_readAsync {address : UInt8} {numBytes : Nat} {sendStop : Bool}
    (bound : s.port.txFifo.length ≤ numFifos) (unread : s.port.Unread) (some : numBytes ≠ 0)
    (accepted : (s.readAsync address buffer numBytes sendStop).error = .ok) :
    (s.readAsync address buffer numBytes sendStop).Taking buffer numBytes := by
  refine ⟨(readOut_readAsync bound accepted).1, ?_⟩
  obtain ⟨go, reading, call⟩ := readAsync_started accepted
  let started := ({ s with calls := s.calls + 1 }.start address masterRead).1
  have begins : started.port.Begins :=
    begins_start (s := { s with calls := s.calls + 1 }) bound unread go
  let asking := (started.initialiseBuff buffer numBytes).access
    (send (.receive (UInt8.ofNat (numBytes - 1))))
  have short : (UInt8.ofNat (numBytes - 1)).toNat + 1 ≤ numBytes := by
    have below : (numBytes - 1) % 256 ≤ numBytes - 1 := Nat.mod_le _ _
    rw [UInt8.toNat_ofNat']
    omega
  have looked := pass_stable (s := started.initialiseBuff buffer numBytes) stable_begins begins
  have asked : asking.Gathers buffer numBytes := ⟨⟨rfl, rfl⟩, looked.ask short⟩
  rw [call, if_neg some]
  dsimp only
  split
  · exact ⟨asked.window,
      (stable_receives _ _).access (fun _ receives => receives.send_stop) asked.receives⟩
  · exact asked

/-! ### What the counter tells -/

/-- Once the call has finished or has been rejected, the counter is the number of data bytes that
have crossed the bus on its behalf. -/
def DescribesCall (s : Master O) (call : Step O) (between : List (Step O)) : Prop :=
  let called := s.step call
  let t := run step called between
  called.hasError = true ∨ t.finished = true →
    t.getBytesTransferred = if called.hasError then 0 else t.port.crossed.length

/-- No ISR call throws a byte of the call away, and none is on its way any more. -/
def KeepsBytes (call : Action O) (called : Master O) (between : List (Step O)) : Prop :=
  let t := run step called between
  match call with
  | .writeAsync .. => Along step SparesSent called between ∧
      t.port.unsent = 0 ∧ t.port.alf = false ∧ t.port.fef = false
  | _ => Along step SparesReceived called between ∧ t.port.rxFifo = []

/-- A call that moves no byte finds the counter at 0. -/
structure Countable (s : Master O) (call : Step O) (between : List (Step O)) : Prop where
  rejected : (s.step call).hasError = true →
    s.buff.nextIndex = 0 ∧ Along step (fun s a => ¬ s.Restarts a) (s.step call) between
  unread : (s.step call).hasError = false → s.port.Unread
  empty : (s.step call).hasError = false → call.action.numBytes = 0 → s.buff.nextIndex = 0
  moved : (s.step call).hasError = false → call.action.numBytes ≠ 0 →
    KeepsBytes call.action (s.step call) between

theorem probing_run {between : List (Step O)} (probing : s.Probing)
    (kinds : ∀ b ∈ between, b.action.betweenCalls = true) :
    (run step s between).Probing ∧ (run step s between).buff = s.buff := by
  induction between generalizing s with
  | nil => exact ⟨probing, rfl⟩
  | cons b between ih =>
      obtain ⟨still, same⟩ := probing.step (kinds b (by simp))
      obtain ⟨later, same'⟩ := ih still fun c member => kinds c (by simp [member])
      exact ⟨later, same'.trans same⟩

theorem giving_run {between : List (Step O)} (giving : s.Giving)
    (kinds : ∀ b ∈ between, b.action.betweenCalls = true)
    (spares : Along step SparesSent s between) : (run step s between).Giving :=
  run_invariant_of_kind (fun _ _ giving => giving.step) giving kinds spares

theorem taking_run {between : List (Step O)} (taking : s.Taking buffer n)
    (kinds : ∀ b ∈ between, b.action.betweenCalls = true)
    (spares : Along step SparesReceived s between) :
    (run step s between).Taking buffer n ∨ (run step s between).Rebuffed := by
  have preserved (u : Master O) (b : Step O) (reading : u.Taking buffer n ∨ u.Rebuffed)
      (between : b.action.betweenCalls = true) (spares : u.SparesReceived b) :
      (u.step b).Taking buffer n ∨ (u.step b).Rebuffed :=
    reading.elim (fun taking => taking.step between spares) fun rebuffed =>
      .inr (rebuffed.step between)
  exact run_invariant_of_kind preserved (.inl taking) kinds spares

omit [DecidableEq O] in
/-- What a read has stored is what has crossed the bus, if bytes come only from a slave that has
acknowledged its address. -/
theorem stored_read (reading : s.Taking buffer n ∨ s.Rebuffed) (taken : s.port.rxFifo = [])
    (answered : s.port.addressed = false → s.port.crossed = []) :
    s.memory.slice buffer s.buff.nextIndex = s.port.crossed := by
  rcases reading with taking | rebuffed
  · rw [taking.receives.received, taken, List.append_nil]
  · have none := answered (by rw [addressed, rebuffed.refused.acknowledged]; rfl)
    rw [none, (rebuffed.empty none).2]
    rfl

section
variable {call : Step O} {between : List (Step O)} {address : UInt8} {numBytes : Nat}
  {sendStop : Bool}

theorem Countable.rejected_zero (countable : s.Countable call between)
    (isCall : call.action.isCall = true) (kinds : ∀ b ∈ between, b.action.betweenCalls = true)
    (failed : (s.step call).hasError = true) :
    (run step (s.step call) between).buff.nextIndex = 0 := by
  obtain ⟨fresh, unbegun⟩ := countable.rejected failed
  refine run_invariant_of_kind (I := fun s : Master O => s.buff.nextIndex = 0)
    (fun _ _ fresh => nextIndex_step fresh) ?_ kinds unbegun
  rw [buff_call isCall (.inl failed)]
  exact fresh

theorem Countable.empty_zero (countable : s.Countable call between)
    (isCall : call.action.isCall = true) (kinds : ∀ b ∈ between, b.action.betweenCalls = true)
    (accepted : (s.step call).hasError = false) (none : call.action.numBytes = 0)
    (probing : (s.step call).Probing) :
    (run step (s.step call) between).buff.nextIndex = 0 ∧
      (run step (s.step call) between).port.crossed = [] := by
  obtain ⟨later, same⟩ := probing_run probing kinds
  refine ⟨?_, later.dataless.crossed⟩
  rw [same, buff_call isCall (.inr none)]
  exact countable.empty accepted none

theorem Countable.write_counts (countable : s.Countable call between)
    (bound : s.port.txFifo.length ≤ numFifos)
    (kind : call.action = .writeAsync address buffer numBytes sendStop)
    (kinds : ∀ b ∈ between, b.action.betweenCalls = true) :
    let t := run step (s.step call) between
    t.buff.nextIndex = if (s.step call).hasError then 0 else t.port.crossed.length := by
  intro t
  have isCall : call.action.isCall = true := by rw [kind]; rfl
  cases failed : (s.step call).hasError with
  | true => exact countable.rejected_zero isCall kinds failed
  | false =>
      have unread := countable.unread failed
      have accepted : (s.step call).error = .ok := (hasError_eq_false _).mp failed
      rw [step_writeAsync kind] at accepted
      rw [if_neg (by simp)]
      by_cases none : numBytes = 0
      · subst none
        have probing : (s.step call).Probing := by
          rw [step_writeAsync kind]
          exact probing_writeAsync bound unread accepted
        obtain ⟨zero, nothing⟩ :=
          countable.empty_zero isCall kinds failed (by rw [kind]; rfl) probing
        exact zero.trans (congrArg List.length nothing).symm
      · have moved := countable.moved failed (by rw [kind]; exact none)
        rw [kind] at moved
        obtain ⟨spares, sent, alf, fef⟩ := moved
        have giving : (s.step call).Giving := by
          rw [step_writeAsync kind]
          exact giving_writeAsync bound unread none accepted
        exact (giving_run giving kinds spares).counted sent alf fef

/-- A read has stored the bytes that have crossed the bus on its behalf. -/
theorem Countable.read_stores (countable : s.Countable call between)
    (bound : s.port.txFifo.length ≤ numFifos)
    (kind : call.action = .readAsync address buffer numBytes sendStop)
    (kinds : ∀ b ∈ between, b.action.betweenCalls = true) :
    let t := run step (s.step call) between
    (t.port.addressed = false → t.port.crossed = []) →
      t.memory.slice buffer t.buff.nextIndex =
        if (s.step call).hasError then [] else t.port.crossed := by
  intro t answered
  have isCall : call.action.isCall = true := by rw [kind]; rfl
  cases failed : (s.step call).hasError with
  | true =>
      have zero : t.buff.nextIndex = 0 := countable.rejected_zero isCall kinds failed
      rw [zero]
      rfl
  | false =>
      have unread := countable.unread failed
      have accepted : (s.step call).error = .ok := (hasError_eq_false _).mp failed
      rw [step_readAsync kind] at accepted
      rw [if_neg (by simp)]
      by_cases none : numBytes = 0
      · subst none
        have probing : (s.step call).Probing := by
          rw [step_readAsync kind]
          exact probing_readAsync bound unread accepted
        obtain ⟨zero, nothing⟩ :=
          countable.empty_zero isCall kinds failed (by rw [kind]; rfl) probing
        change t.buff.nextIndex = 0 at zero
        change t.port.crossed = [] at nothing
        rw [zero, nothing]
        rfl
      · have moved := countable.moved failed (by rw [kind]; exact none)
        rw [kind] at moved
        obtain ⟨spares, taken⟩ := moved
        have taking : (s.step call).Taking buffer numBytes := by
          rw [step_readAsync kind]
          exact taking_readAsync bound unread none accepted
        exact stored_read (taking_run taking kinds spares) taken answered

end

theorem bytes_transferred_right (memory : Memory O UInt8) (history : List (Step O)) (call : Step O)
    (between : List (Step O)) (isCall : call.action.isCall = true)
    (kinds : ∀ b ∈ between, b.action.betweenCalls = true) :
    let s := run step (fresh memory) history
    let t := run step (s.step call) between
    s.Countable call between → (t.port.addressed = false → t.port.crossed = []) →
      s.DescribesCall call between := by
  intro s t countable answered _
  have bound : s.port.txFifo.length ≤ numFifos := txFifo_run memory history
  cases kind : call.action with
  | writeAsync address buffer numBytes sendStop => exact countable.write_counts bound kind kinds
  | readAsync address buffer numBytes sendStop =>
      have stored := congrArg List.length (countable.read_stores bound kind kinds answered)
      rw [Memory.length_slice] at stored
      exact stored.trans (apply_ite List.length _ [] t.port.crossed)
  | _ => simp [kind, Action.isCall] at isCall

end Master

/-! ### Counts that are left over and counts that run ahead -/

/-- A write of one byte that ends without a STOP, or with one. -/
def oneByteWritten (sendStop : Bool) : List (Master.Step Bool) :=
  let written : List (Master.Action Bool) := [.begin 100000, .writeAsync 0x2D ⟨true, 0⟩ 1 sendStop,
    .hardware .fetch, .isr, .hardware .ack, .hardware .fetch, .isr, .hardware .ack]
  let ending : List (Master.Action Bool) :=
    if sendStop then [.hardware .fetch, .hardware .stopDone, .isr] else []
  (written ++ ending).map Master.Action.alone

def addressRefused (served : List (Master.Action Bool)) : List (Master.Step Bool) :=
  let ending : List (Master.Action Bool) :=
    [.hardware .nak, .isr, .hardware .fetch, .hardware .stopDone, .isr]
  (.hardware .fetch :: served ++ ending).map Master.Action.alone

def twoBytesRead : List (Master.Step Bool) :=
  [.hardware .fetch, .hardware .ack, .hardware .fetch, .hardware (.receiveByte 7), .isr,
    .hardware (.receiveByte 8), .isr, .hardware .fetch, .hardware .stopDone, .isr].map
    Master.Action.alone

/-- After a write of one byte an empty call and a rejected one leave the counter at 1, and a write
counts a byte that never crosses the bus, as the slave does not acknowledge its address. -/
theorem counter_misleads :
    let s (history : List (Master.Step Bool)) :=
      run Master.step (Master.fresh fun _ _ => 0x11) history
    ¬ (s (oneByteWritten true)).DescribesCall
        (Master.Action.writeAsync 0x2E ⟨true, 0⟩ 0 true).alone (addressRefused []) ∧
      ¬ (s (oneByteWritten true)).DescribesCall
        (Master.Action.readAsync 0x2E ⟨false, 0⟩ 257 true).alone [] ∧
      ¬ (s begunMaster).DescribesCall
        (Master.Action.writeAsync 0x2E ⟨true, 0⟩ 1 true).alone (addressRefused [.isr]) := by
  refine ⟨fun described => ?_, fun described => ?_, fun described => ?_⟩
  · exact absurd (described (.inr (by decide))) (by decide)
  · exact absurd (described (.inl (by decide))) (by decide)
  · exact absurd (described (.inr (by decide))) (by decide)

/-- A read that follows on a write without a STOP. -/
theorem read_after_write_counted :
    let s := run Master.step (Master.fresh fun _ _ => 0x11) (oneByteWritten false)
    let called := s.step (Master.Action.readAsync 0x2D ⟨false, 0⟩ 2 true).alone
    let t := run Master.step called twoBytesRead
    t.getBytesTransferred = t.port.crossed.length ∧ t.port.crossed = [7, 8] := by
  refine ⟨?_, by decide⟩
  have described := Master.bytes_transferred_right (fun _ _ => 0x11) (oneByteWritten false)
    (Master.Action.readAsync 0x2D ⟨false, 0⟩ 2 true).alone twoBytesRead rfl (by decide)
    { rejected := fun failed => absurd failed (by decide)
      unread := fun _ => by decide
      empty := fun _ none => absurd none (by decide)
      moved := fun _ _ => ⟨by decide, by decide⟩ }
    (fun unanswered => absurd unanswered (by decide))
  exact (described (.inr (by decide))).trans (if_neg (by decide))

end TeensyI2C
