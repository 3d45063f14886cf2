import TeensyI2C.Master.FailedTransaction
import TeensyI2C.Master.QuietStart
import TeensyI2C.Master.TransmitFifo

/-!
What the driver makes of a NAK. It tells an address from a data byte by its own state, which
follows the transmit FIFO and not the answers of the slave.
-/

namespace TeensyI2C
open ObjectMemory Interference EventMachine MasterPort

/-- A command that sends a byte for the slave to answer. -/
def Command.offers : Command → Bool
  | .start _ | .transmit _ => true
  | .receive _ | .stop => false

def Command.isStart : Command → Bool
  | .start _ => true
  | .transmit _ | .receive _ | .stop => false

theorem offers_of_isStart {command : Command} (start : command.isStart = true) :
    command.offers = true := by
  cases command <;> simp [Command.isStart, Command.offers] at start ⊢

namespace MasterPort

/-- The slave has acknowledged its address since the START of the last call. -/
def addressed (p : MasterPort) : Bool := p.acknowledged.any Command.isStart

/-- The error that a NAK stands for. -/
def nakError (p : MasterPort) : I2CError := if p.addressed then .dataNak else .addressNak

/-- Of the last call nothing is offered to the slave but the address. -/
structure AddressOnly (p : MasterPort) : Prop where
  first : ∀ command, p.txFifo.head? = some command → command.offers = true →
    p.awaitingStart = true ∧ command.isStart = true
  rest : ∀ command ∈ p.txFifo.tail, command.offers = false
  offered : p.awaitingStart = false → p.offered ≠ none → p.acknowledged = [] ∧ p.ndf = false
  refused : p.awaitingStart = false → p.ndf = true → p.acknowledged = []

theorem AddressOnly.fetch {p : MasterPort} (only : p.AddressOnly) : p.fetch.AddressOnly := by
  obtain ⟨first, rest, offered, refused⟩ := only
  unfold MasterPort.fetch
  split
  · next data queue _ queued =>
    split
    · exact ⟨first, rest, offered, refused⟩
    · next unfailed =>
      have ndf : p.ndf = false := by
        simp only [msr, Msr.failed, Bool.or_eq_true, not_or, Bool.not_eq_true] at unfailed
        exact unfailed.1.1.1
      rw [queued] at rest
      refine ⟨?_, fun command member => rest command (List.mem_of_mem_tail member),
        fun _ _ => ⟨rfl, ndf⟩, fun _ _ => rfl⟩
      intro command head offers
      simp [rest command (List.mem_of_mem_head? head)] at offers
  · next command queue other _ queued =>
    rw [queued] at first rest
    have clear (command' : Command) (head : queue.head? = some command')
        (offers : command'.offers = true) : p.awaitingStart = true ∧ command'.isStart = true := by
      simp [rest command' (List.mem_of_mem_head? head)] at offers
    have tail (command') (member : command' ∈ queue.tail) : command'.offers = false :=
      rest command' (List.mem_of_mem_tail member)
    have silent (begun : p.awaitingStart = false) : command.offers = false := by
      by_contra offers
      simp [begun] at first
      exact offers first
    split
    · refine ⟨clear, tail, fun begun some => ?_, refused⟩
      have none := silent begun
      cases command <;> simp [Command.offers, MasterPort.offered] at none some
    · exact ⟨clear, tail, offered, refused⟩
  · exact ⟨first, rest, offered, refused⟩

theorem stable_addressOnly : Stable apply AddressOnly := by
  rintro p e only
  have ⟨first, rest, offered, refused⟩ := only
  cases e with
  | fetch => exact only.fetch
  | ack =>
      change p.ack.AddressOnly
      unfold ack
      split
      · next command here =>
        refine ⟨first, rest, fun _ some => absurd rfl some, fun begun ndf => ?_⟩
        simp [(offered begun (by simp [here])).2] at ndf
      · exact ⟨first, rest, offered, refused⟩
  | nak =>
      change p.nak.AddressOnly
      unfold nak
      split
      · next command here =>
        exact ⟨first, rest, fun _ some => absurd rfl some,
          fun begun _ => (offered begun (by simp [here])).1⟩
      · exact ⟨first, rest, offered, refused⟩
  | receiveByte data =>
      change (p.receiveByte data).AddressOnly
      unfold receiveByte
      split
      · next left _ =>
        split
        · refine ⟨first, rest, fun _ some => ?_, refused⟩
          by_cases last : left = 0 <;> simp [MasterPort.offered, last] at some
        · exact ⟨first, rest, offered, refused⟩
      · exact ⟨first, rest, offered, refused⟩
  | autoStop =>
      change p.autoStop.AddressOnly
      unfold autoStop
      split
      · exact ⟨first, rest, fun _ some => absurd rfl some, refused⟩
      · exact ⟨first, rest, offered, refused⟩
  | stopDone =>
      change p.stopDone.AddressOnly
      unfold stopDone
      split
      · exact ⟨first, rest, fun _ some => absurd rfl some, refused⟩
      · exact ⟨first, rest, offered, refused⟩
  | arbitrationLost => exact ⟨first, rest, fun _ some => absurd rfl some, refused⟩
  | fifoError => exact ⟨first, rest, offered, refused⟩
  | pinLowTimeout => exact ⟨first, rest, offered, refused⟩

theorem stable_ndf : Stable apply fun p => p.ndf = true := by
  intro p e ndf
  cases e <;> grind [apply, fetch, ack, nak, receiveByte, autoStop, stopDone, arbitrationLost]

/-- The slave has not acknowledged its address and is offered nothing more. -/
structure Refused (p : MasterPort) : Prop where
  begun : p.awaitingStart = false
  acknowledged : p.acknowledged = []
  offered : p.offered = none
  queued : ∀ command ∈ p.txFifo, command.offers = false
  ndf : p.ndf = false

theorem offered_of_silent {p : MasterPort} {command : Command}
    (executing : p.executing = some command) (silent : command.offers = false) :
    p.offered = none := by
  cases command <;> simp_all [MasterPort.offered, Command.offers]

theorem stable_refused : Stable apply Refused := by
  rintro p e ⟨begun, acknowledged, offered, queued, ndf⟩
  cases e with
  | fetch =>
      change p.fetch.Refused
      unfold fetch
      split
      · next data queue _ waiting =>
        have silent := queued (.start data) (by simp [waiting])
        cases silent
      · next command queue _ _ waiting =>
        have silent := queued command (by simp [waiting])
        have rest : ∀ command' ∈ queue, command'.offers = false :=
          fun command' member => queued command' (by simp [waiting, member])
        split
        · exact ⟨begun, acknowledged, offered_of_silent rfl silent, rest, ndf⟩
        · exact ⟨begun, acknowledged, offered, rest, ndf⟩
      · exact ⟨begun, acknowledged, offered, queued, ndf⟩
  | _ => grind [Refused, apply, ack, nak, MasterPort.offered, receiveByte, autoStop, stopDone,
      arbitrationLost]

variable {p : MasterPort} {f : MasterPort → MasterPort}

theorem AddressOnly.of_mem (only : p.AddressOnly) (listed : f ∈ Master.registerWrites) :
    (f p).AddressOnly := by
  obtain ⟨first, rest, offered, refused⟩ := only
  simp only [Master.registerWrites, List.mem_cons, List.not_mem_nil, or_false] at listed
  rcases listed with rfl | rfl | rfl | rfl | rfl | rfl | rfl | rfl | rfl | rfl | rfl | rfl
  case inr.inr.inl => exact ⟨by simp [resetTxFifo], by simp [resetTxFifo], offered, refused⟩
  case inr.inr.inr.inr.inr.inr.inr.inl =>
    exact ⟨first, rest, fun begun some => ⟨(offered begun some).1, rfl⟩, fun _ ndf => by cases ndf⟩
  all_goals exact ⟨first, rest, offered, refused⟩

theorem AddressOnly.send {command : Command} (only : p.AddressOnly)
    (silent : command.offers = false) : (p.send command).AddressOnly := by
  obtain ⟨first, rest, offered, refused⟩ := only
  refine ⟨?_, ?_, offered, refused⟩
  · intro command' head offers
    cases queue : p.txFifo with
    | nil =>
        have same : command = command' := by simpa [MasterPort.send, queue] using head
        simp [← same, silent] at offers
    | cons word words =>
        exact first command' (by simpa [MasterPort.send, queue] using head) offers
  · intro command' member
    cases queue : p.txFifo with
    | nil => simp [MasterPort.send, queue] at member
    | cons word words =>
        have split : command' ∈ words ∨ command' = command := by
          simpa [MasterPort.send, queue] using member
        rcases split with before | rfl
        · exact rest command' (by simpa [queue] using before)
        · exact silent

theorem AddressOnly.queued (only : p.AddressOnly) (begun : p.awaitingStart = false) :
    ∀ command ∈ p.txFifo, command.offers = false := by
  intro command member
  by_contra offers
  cases queue : p.txFifo with
  | nil => simp [queue] at member
  | cons word words =>
      rw [queue, List.mem_cons] at member
      rcases member with rfl | behind
      · have awaiting := (only.first command (by simp [queue]) (by simpa using offers)).1
        simp [begun] at awaiting
      · exact offers (only.rest command (by simpa [queue] using behind))

theorem AddressOnly.clearNdf (only : p.AddressOnly) (begun : p.awaitingStart = false)
    (ndf : p.ndf = true) : p.clearNdf.Refused where
  begun := begun
  acknowledged := only.refused begun ndf
  offered := by
    by_contra some
    simp [(only.offered begun some).2] at ndf
  queued := only.queued begun
  ndf := rfl

theorem Refused.of_mem (refused : p.Refused)
    (listed : f ∈ MasterPort.send .stop :: Master.registerWrites) : (f p).Refused := by
  obtain ⟨begun, acknowledged, offered, queued, ndf⟩ := refused
  simp only [Master.registerWrites, List.mem_cons, List.not_mem_nil, or_false] at listed
  rcases listed with rfl | rfl | rfl | rfl | rfl | rfl | rfl | rfl | rfl | rfl | rfl | rfl | rfl
  case inl =>
    refine ⟨begun, acknowledged, offered, fun command member => ?_, ndf⟩
    rcases List.mem_append.mp member with before | here
    · exact queued command before
    · rw [List.mem_singleton.mp here]
      rfl
  case inr.inr.inr.inl => exact ⟨begun, acknowledged, offered, by simp [resetTxFifo], ndf⟩
  case inr.inr.inr.inr.inr.inr.inr.inr.inl => exact ⟨begun, acknowledged, offered, queued, rfl⟩
  all_goals exact ⟨begun, acknowledged, offered, queued, ndf⟩

end MasterPort
namespace Master
variable {O : Type} [Inhabited O] {s t : Master O} {e : I2CError}

theorem recordedError_ne {msr : Msr} {state : MasterState} (later : state ≠ .starting)
    (other : e ≠ .addressNak) : recordedError msr state e ≠ .addressNak := by
  have noted : (if msr.ndf then I2CError.dataNak else e) ≠ .addressNak := by
    split
    · decide
    · exact other
  have lost : (if msr.alf then I2CError.arbitrationLost else
      if msr.ndf then I2CError.dataNak else e) ≠ .addressNak := by
    split
    · decide
    · exact noted
  unfold recordedError
  rw [if_neg later]
  dsimp only
  generalize (if msr.alf then I2CError.arbitrationLost else
    if msr.ndf then I2CError.dataNak else e) = recorded at lost ⊢
  split
  · decide
  · split
    · split
      · exact lost
      · decide
    · exact lost

theorem recordedError_nak (msr : Msr) {state : MasterState} (ndf : msr.ndf = true)
    (alf : msr.alf = false) (pltf : msr.pltf = false) :
    recordedError msr state e = if state = .starting then .addressNak else .dataNak := by
  have failed :
      TeensyI2C.hasError (if state = .starting then .addressNak else .dataNak) = true := by
    split <;> rfl
  simp [recordedError, ndf, alf, pltf, failed]

theorem recordedError_kept (msr : Msr) {state : MasterState} (ndf : msr.ndf = false)
    (alf : msr.alf = false) (pltf : msr.pltf = false) (failed : TeensyI2C.hasError e = true) :
    recordedError msr state e = e := by
  simp [recordedError, ndf, alf, pltf, failed]

/-! ### The start of a transaction -/

theorem serveTransmit_starting {msr : Msr} (fresh : s.state = .starting → s.buff.nextIndex = 0)
    (still : (s.serveTransmit msr).state = .starting) : s.serveTransmit msr = s := by
  unfold serveTransmit at still ⊢
  split at still
  · exfalso
    unfold transferOut at still
    split at still
    · next busy =>
      have filled : s.beginTransfer.refill.state = .transferring :=
        (state_fill _ _).trans busy
      unfold finishWriting at still
      dsimp only at still
      split at still
      · split at still
        · rw [access_driver] at still
          split at still <;> cases still
        · rw [pass_driver, filled] at still
          cases still
      · rw [filled] at still
        cases still
    · next idle =>
      rw [beginTransfer_of_ne idle] at still
      unfold beginTransfer at idle
      rw [if_pos (fresh still)] at idle
      exact idle rfl
  · next quiet => rw [if_neg quiet]

variable [DecidableEq O] {a : Step O}

theorem serveReceive_writing_starting {msr : Msr} (writing : s.ignoreTdf = false)
    (still : (s.serveReceive msr).state = .starting) : s.serveReceive msr = s := by
  unfold serveReceive at still ⊢
  split at still
  · rw [if_neg (by simp [writing]), abort_driver] at still
    cases still
  · next quiet => rw [if_neg quiet]

omit [DecidableEq O] in
theorem state_finishReading (s : Master O) :
    s.finishReading.state = if s.buff.finishedReading then
      (if s.pass.port.txFifoCount = 1 then .stopping else .transferComplete) else s.state := by
  unfold finishReading
  split <;> rfl

theorem serveReceive_starting_iff (msr : Msr) (reading : s.ignoreTdf = true) :
    (s.serveReceive msr).state = .starting ↔ s.state = .starting ∧
      (msr.rdf = true → s.buff.nextIndex ≠ 0 ∧ s.buff.nextIndex ≠ s.buff.size) := by
  unfold serveReceive
  cases received : msr.rdf with
  | false => simp
  | true =>
      rw [if_pos rfl, if_pos reading, state_finishReading, state_takeByte]
      have final : (if s.beginTransfer.takeByte.pass.port.txFifoCount = 1 then MasterState.stopping
          else .transferComplete) ≠ .starting := by
        split <;> decide
      by_cases fresh : s.buff.nextIndex = 0
      · have busy : s.beginTransfer.state = .transferring := by rw [beginTransfer_driver fresh]
        simp only [fresh, ne_eq, not_true_eq_false, false_and, forall_const, and_false, iff_false]
        split
        · exact final
        · rw [busy]
          decide
      · rw [beginTransfer_started fresh]
        rw [beginTransfer_started fresh] at final
        by_cases first : s.state = .starting
        · have idle : s.takeByte.buff = s.buff := by
            unfold takeByte
            rw [if_neg (by rw [first]; decide)]
            rfl
          by_cases last : s.buff.nextIndex = s.buff.size
          · rw [idle, if_pos (by simp [I2CBuffer.finishedReading, last])]
            simp [final, last]
          · rw [idle, if_neg (by simp [I2CBuffer.finishedReading, last])]
            simp [fresh, last]
        · simp only [first, false_and, iff_false]
          split
          · exact final
          · exact first

/-- An ISR call that leaves a read where it is. -/
def KeepsWaiting (s : Master O) (a : Step O) : Prop :=
  s.Interrupts a →
    (s.atSnapshot a).port.msr.sdf = false ∧ ((s.atSnapshot a).port.msr.rdf = true →
      s.buff.nextIndex ≠ 0 ∧ s.buff.nextIndex ≠ s.buff.size)

instance (s : Master O) (a : Step O) : Decidable (s.KeepsWaiting a) := by
  unfold KeepsWaiting Interrupts
  infer_instance

theorem reading_writes (reading : s.ignoreTdf = true) (msr : Msr) :
    Drives (· ∈ registerWrites) s (s.serveReceive msr) := by
  have taken : Drives (· ∈ registerWrites) s s.beginTransfer.takeByte := by
    rw [Drives, ← port_beginTransfer s]
    refine (drives_takeByte s.beginTransfer).mono fun f listed => ?_
    exact (show [takeReceived, resetRxFifo] ⊆ registerWrites by simp [registerWrites]) listed
  have finished := (drives_finishReading s.beginTransfer.takeByte).mono fun f listed =>
    (show [setMen false] ⊆ registerWrites by simp [registerWrites]) listed
  unfold Master.serveReceive
  split
  · exact taken.trans finished
  · exact .refl

/-- A read of which nothing but the address can be offered to the slave. -/
structure ReadOut (s : Master O) : Prop where
  reading : s.ignoreTdf = true
  only : s.port.AddressOnly

omit [DecidableEq O] in
theorem ReadOut.drives (out : s.ReadOut) (reading : t.ignoreTdf = s.ignoreTdf)
    (h : Drives (· ∈ registerWrites) s t) : t.ReadOut :=
  ⟨reading.trans out.reading,
    h.keeps stable_addressOnly (fun _ listed _ only => only.of_mem listed) out.only⟩

theorem ReadOut.step (out : s.ReadOut) (between : a.action.betweenCalls = true)
    (unfailing : s.Unfailing a) :
    (s.step a).ReadOut ∧
      ((s.step a).state = .starting ↔ s.state = .starting ∧ s.KeepsWaiting a) := by
  by_cases interrupts : s.Interrupts a
  · rw [step_interrupts interrupts]
    let snapshot := s.atSnapshot a
    let msr := snapshot.port.msr
    let ended := snapshot.serveStop msr
    have unfailed : msr.failed = false := unfailing interrupts
    have reading : ended.ignoreTdf = true := by
      rw [serveStop_state]
      exact out.reading
    have goes : (s.schedule a.meanwhile).isr = ended.serveReceive msr := by
      rw [isr_reading (s := s.schedule a.meanwhile) out.reading]
      change ((snapshot.serveErrors msr).serveStop msr).serveReceive msr = _
      rw [serveErrors_quiet unfailed]
    have looked : Drives (· ∈ registerWrites) s snapshot := drives_pass _ (s.schedule a.meanwhile)
    have stopped : Drives (· ∈ registerWrites) snapshot ended :=
      (drives_serveStop msr snapshot).mono fun f listed =>
        (show [setTdie false, clearSdf] ⊆ registerWrites by simp [registerWrites]) listed
    have still : (ended.serveReceive msr).ignoreTdf = s.ignoreTdf :=
      (keepsBuffer_serveReceive msr ended).ignoreTdf.trans (reading.trans out.reading.symm)
    have cursor : ended.buff = s.buff := by
      rw [serveStop_state]
      rfl
    rw [goes]
    refine ⟨out.drives still ((looked.trans stopped).trans (reading_writes reading msr)), ?_⟩
    have waits : s.KeepsWaiting a ↔ msr.sdf = false ∧
        (msr.rdf = true → s.buff.nextIndex ≠ 0 ∧ s.buff.nextIndex ≠ s.buff.size) :=
      forall_prop_of_true interrupts
    rw [serveReceive_starting_iff msr reading, cursor, serveStop_state, waits]
    change (if msr.sdf = true then MasterState.stopped else s.state) = .starting ∧ _ ↔ _
    cases running : msr.sdf with
    | true => simp
    | false => simp
  · have driver := step_driver (Action.isCall_of_betweenCalls between) interrupts
    have moves : Drives (· ∈ registerWrites) s (s.step a) := drives_step _ between interrupts
    refine ⟨out.drives (by rw [driver]) moves, ?_⟩
    rw [driver]
    exact ⟨fun first => ⟨first, fun here => absurd here interrupts⟩, And.left⟩

theorem readOut_run {before : List (Step O)} (out : s.ReadOut)
    (between : ∀ b ∈ before, b.action.betweenCalls = true)
    (unfailing : Along step Unfailing s before) :
    (run step s before).ReadOut ∧
      ((run step s before).state = .starting ↔
        s.state = .starting ∧ Along step KeepsWaiting s before) := by
  induction before generalizing s with
  | nil => exact ⟨out, by simp [Along]⟩
  | cons b before ih =>
      obtain ⟨out', first⟩ := out.step (between b (by simp)) unfailing.1
      obtain ⟨still, waits⟩ := ih out' (fun c member => between c (by simp [member])) unfailing.2
      exact ⟨still, by rw [run_cons, waits, first, Along, and_assoc]⟩

/-! ### From the NAK on -/

/-- An ISR call that finds a NAK in the transaction of the last call. -/
def FindsNak (s : Master O) (a : Step O) : Prop :=
  s.Interrupts a ∧ (s.atSnapshot a).port.ndf = true ∧
    (s.atSnapshot a).port.awaitingStart = false

/-- An ISR call that finds no other errors than a NAK and what may follow from it. Bytes come only
from a slave that has acknowledged its address. -/
def OnlyNaks (s : Master O) (a : Step O) : Prop :=
  s.Interrupts a →
    (s.atSnapshot a).port.alf = false ∧ (s.atSnapshot a).port.pltf = false ∧
      ((s.atSnapshot a).port.rxFifo ≠ [] → (s.atSnapshot a).port.addressed = true)

instance (s : Master O) (a : Step O) : Decidable (s.FindsNak a) := by
  unfold FindsNak Interrupts
  infer_instance

instance (s : Master O) (a : Step O) : Decidable (s.OnlyNaks a) := by
  unfold OnlyNaks Interrupts
  infer_instance

/-- A read whose address has not been acknowledged, and what has been recorded for it. -/
structure ReadRefused (e : I2CError) (s : Master O) : Prop where
  reading : s.ignoreTdf = true
  refused : s.port.Refused
  failed : TeensyI2C.hasError e = true
  error : s.error = e

omit [DecidableEq O] in
theorem refused_kept (h : Drives EndingWrites s t) (refused : s.port.Refused) : t.port.Refused :=
  h.keeps stable_refused (fun _ listed _ refused => refused.of_mem listed) refused

omit [DecidableEq O] in
/-- The NAK is noted, and from then on nothing can bring another one. -/
theorem refused_serveErrors {msr : Msr} (only : s.port.AddressOnly)
    (begun : s.port.awaitingStart = false) (ndf : s.port.ndf = true) (seen : msr.ndf = true) :
    (s.serveErrors msr).port.Refused := by
  have noted : (s.recordNdf msr).port.Refused := by
    obtain ⟨only, begun, ndf⟩ :=
      pass_stable (stable_addressOnly.and (stable_started.and stable_ndf)) ⟨only, begun, ndf⟩
    unfold recordNdf
    rw [if_pos seen]
    exact only.clearNdf begun ndf
  have recorded : (s.recordErrors msr).port.Refused :=
    refused_kept (Drives.known (drives_recordOthers msr (s.recordNdf msr))
      (by simp [registerWrites])) noted
  unfold serveErrors
  rw [if_pos (by simp [Msr.failed, seen])]
  dsimp only
  split
  · let stopping : Master O := { s.recordErrors msr with state := .stopping }
    exact refused_kept (s := stopping) (Drives.known (drives_abort stopping)
      (by simp [registerWrites])) recorded
  · exact recorded

omit [DecidableEq O] in
theorem ending_serveStop (msr : Msr) (s : Master O) : Drives EndingWrites s (s.serveStop msr) :=
  Drives.known (drives_serveStop msr s) (by simp [registerWrites])

theorem isr_reading_empty (reading : s.ignoreTdf = true)
    (empty : s.pass.port.rxFifo = []) :
    let msr := s.pass.port.msr
    s.isr = (s.pass.serveErrors msr).serveStop msr := by
  intro msr
  rw [isr_reading reading]
  exact if_neg (by simp [MasterPort.msr, empty])

theorem ReadOut.refused (out : s.ReadOut) (nak : s.FindsNak a) (others : s.OnlyNaks a) :
    (s.step a).ReadRefused (if s.state = .starting then .addressNak else .dataNak) ∧
      (s.atSnapshot a).port.addressed = false := by
  obtain ⟨interrupts, ndf, begun⟩ := nak
  obtain ⟨alf, pltf, answered⟩ := others interrupts
  have only : (s.atSnapshot a).port.AddressOnly :=
    pass_stable (s := s.schedule a.meanwhile) stable_addressOnly out.only
  have unanswered : (s.atSnapshot a).port.addressed = false := by
    rw [addressed, only.refused begun ndf]
    rfl
  have empty : (s.atSnapshot a).port.rxFifo = [] := by
    by_contra some
    simp [unanswered] at answered
    exact some answered
  refine ⟨?_, unanswered⟩
  rw [step_interrupts interrupts,
    isr_reading_empty (s := s.schedule a.meanwhile) out.reading empty]
  let msr := (s.atSnapshot a).port.msr
  have told := endings_exact msr (s.atSnapshot a)
  rw [recordedError_nak msr ndf alf pltf] at told
  refine ⟨?_, ?_, by split <;> rfl, ?_⟩
  · exact (congrArg MasterDriver.ignoreTdf told).trans out.reading
  · exact refused_kept (ending_serveStop msr _) (refused_serveErrors only begun ndf ndf)
  · exact congrArg MasterDriver.error told

theorem ReadRefused.step (refused : s.ReadRefused e) (between : a.action.betweenCalls = true)
    (others : s.OnlyNaks a) : (s.step a).ReadRefused e := by
  by_cases interrupts : s.Interrupts a
  · obtain ⟨alf, pltf, answered⟩ := others interrupts
    have still : (s.atSnapshot a).port.Refused :=
      pass_stable (s := s.schedule a.meanwhile) stable_refused refused.refused
    have empty : (s.atSnapshot a).port.rxFifo = [] := by
      by_contra some
      simp [addressed, still.acknowledged] at answered
      exact some answered
    rw [step_interrupts interrupts,
      isr_reading_empty (s := s.schedule a.meanwhile) refused.reading empty]
    let msr := (s.atSnapshot a).port.msr
    have told := endings_exact msr (s.atSnapshot a)
    rw [recordedError_kept msr still.ndf alf pltf (by
      change TeensyI2C.hasError s.error = true
      rw [refused.error]
      exact refused.failed)] at told
    refine ⟨?_, ?_, refused.failed, ?_⟩
    · exact (congrArg MasterDriver.ignoreTdf told).trans refused.reading
    · exact refused_kept ((ending_serveErrors msr _).trans (ending_serveStop msr _)) still
    · exact (congrArg MasterDriver.error told).trans refused.error
  · have driver := step_driver (Action.isCall_of_betweenCalls between) interrupts
    have moves : Drives EndingWrites s (s.step a) := drives_step _ between interrupts
    exact ⟨by rw [driver]; exact refused.reading, refused_kept moves refused.refused,
      refused.failed, by rw [driver]; exact refused.error⟩

/-! ### Writes -/

omit [DecidableEq O] in
theorem le_nextIndex_fill (fifoSpace : Nat) (s : Master O) :
    s.buff.nextIndex ≤ (s.fill fifoSpace).buff.nextIndex := by
  induction fifoSpace generalizing s with
  | zero => exact Nat.le_refl _
  | succ fifoSpace ih =>
      unfold fill
      split
      · exact (Nat.le_succ _).trans (ih s.transmitNext)
      · exact Nat.le_refl _

omit [DecidableEq O] in
theorem fill_unmoved (fifoSpace : Nat) (fresh : (s.fill fifoSpace).buff.nextIndex = 0) :
    s.fill fifoSpace = s := by
  cases fifoSpace with
  | zero => rfl
  | succ fifoSpace =>
      unfold fill at fresh ⊢
      split at fresh
      · have more := le_nextIndex_fill fifoSpace s.transmitNext
        rw [fresh] at more
        cases more
      · next none => rw [if_neg none]

omit [DecidableEq O] in
theorem serveTransmit_unmoved {msr : Msr} (fresh : (s.serveTransmit msr).buff.nextIndex = 0) :
    s.buff.nextIndex = 0 ∧ Drives EndingWrites s (s.serveTransmit msr) := by
  have buff : s.beginTransfer.buff = s.buff := (beginTransfer_kept s).2
  unfold serveTransmit transferOut at fresh ⊢
  split
  · next asked =>
    rw [if_pos asked] at fresh
    split
    · next busy =>
      rw [if_pos busy, buff_finishWriting] at fresh
      have same : s.beginTransfer.refill = s.beginTransfer.pass := fill_unmoved _ fresh
      rw [same] at fresh ⊢
      refine ⟨by rw [← buff]; exact fresh, ?_⟩
      rw [Drives, ← port_beginTransfer s]
      exact (drives_pass _ s.beginTransfer).trans
        (Drives.known (drives_finishWriting _) (by simp [registerWrites]))
    · next idle =>
      rw [if_neg idle, buff] at fresh
      refine ⟨fresh, ?_⟩
      rw [Drives, port_beginTransfer]
      exact .refl
  · next quiet =>
    rw [if_neg quiet] at fresh
    exact ⟨fresh, .refl⟩

theorem ending_serveReceive (writing : s.ignoreTdf = false) (msr : Msr) :
    Drives EndingWrites s (s.serveReceive msr) := by
  unfold Master.serveReceive
  split
  · rw [if_neg (by simp [writing])]
    exact Drives.known (drives_abort { s with state := .stopping }) (by simp [registerWrites])
  · exact .refl

/-- A write whose address waits for its answer, or that has put bytes into the FIFO. -/
structure WriteOut (s : Master O) : Prop where
  writing : s.ignoreTdf = false
  only : s.buff.nextIndex = 0 → s.port.AddressOnly
  first : s.state = .starting →
    s.buff.nextIndex = 0 ∧ ∀ command ∈ s.port.txFifo, command.isStart = true

omit [DecidableEq O] in
theorem only_kept (h : Drives EndingWrites s t) (only : s.port.AddressOnly) :
    t.port.AddressOnly := by
  refine h.keeps stable_addressOnly (fun f listed p only => ?_) only
  rcases List.mem_cons.mp listed with rfl | known
  · exact only.send rfl
  · exact only.of_mem known

theorem stable_starts :
    Stable MasterPort.apply fun p => ∀ command ∈ p.txFifo, command.isStart = true := by
  intro p e starts
  cases e <;> grind [MasterPort.apply, fetch, MasterPort.ack, nak, receiveByte, autoStop,
    stopDone, arbitrationLost]

theorem WriteOut.isr (out : s.WriteOut) (unfailed : s.pass.port.msr.failed = false) :
    s.isr.WriteOut := by
  let msr := s.pass.port.msr
  let ended := s.pass.serveStop msr
  let served := ended.serveReceive msr
  have goes : s.isr = served.serveTransmit msr := by
    rw [Master.isr, serveErrors_quiet unfailed]
  have endedDriver : ended.toMasterDriver =
      { s.toMasterDriver with state := if msr.sdf then .stopped else s.state } :=
    serveStop_state msr s.pass
  have writing : ended.ignoreTdf = false := by
    rw [endedDriver]
    exact out.writing
  obtain ⟨state, servedDriver⟩ := serveReceive_writing msr writing
  have buff : served.buff = s.buff := by rw [servedDriver, endedDriver]
  have before : Drives EndingWrites s served :=
    ((drives_pass _ s).trans (ending_serveStop msr s.pass)).trans
      (ending_serveReceive writing msr)
  -- Whatever leads the driver away from the start of the transaction leads it away for good.
  have back (still : s.isr.state = .starting) : s.isr = s.pass := by
    have fresh (first : served.state = .starting) : served.buff.nextIndex = 0 := by
      have same : served = ended := serveReceive_writing_starting writing first
      rw [same, endedDriver] at first
      rw [buff]
      cases sdf : msr.sdf with
      | true => simp [sdf] at first
      | false => exact (out.first (by simpa [sdf] using first)).1
    rw [goes] at still ⊢
    have quiet := serveTransmit_starting fresh still
    rw [quiet] at still ⊢
    have same : served = ended := serveReceive_writing_starting writing still
    rw [same] at still ⊢
    refine serveStop_quiet ?_
    by_contra sdf
    rw [endedDriver, if_pos (by simpa using sdf)] at still
    cases still
  refine ⟨(keepsBuffer_isr s).ignoreTdf.trans out.writing, ?_, ?_⟩
  · intro fresh
    rw [goes] at fresh ⊢
    obtain ⟨cursor, moves⟩ := serveTransmit_unmoved fresh
    exact only_kept (before.trans moves) (out.only (by rw [← buff]; exact cursor))
  · intro still
    have same := back still
    rw [same] at still ⊢
    obtain ⟨cursor, starts⟩ := out.first still
    exact ⟨cursor, pass_stable stable_starts starts⟩

theorem WriteOut.step (out : s.WriteOut) (between : a.action.betweenCalls = true)
    (unfailing : s.Unfailing a) : (s.step a).WriteOut := by
  by_cases interrupts : s.Interrupts a
  · rw [step_interrupts interrupts]
    have scheduled : (s.schedule a.meanwhile).WriteOut := ⟨out.writing, out.only, out.first⟩
    exact scheduled.isr (unfailing interrupts)
  · have driver := step_driver (Action.isCall_of_betweenCalls between) interrupts
    have moves {P : MasterPort → Prop} (stable : Stable MasterPort.apply P) (h : P s.port) :
        P (s.step a).port :=
      (drives_step (fun _ => False) between interrupts).keeps stable (fun _ none => none.elim) h
    refine ⟨by rw [driver]; exact out.writing, ?_, ?_⟩
    · rw [driver]
      exact fun fresh => moves stable_addressOnly (out.only fresh)
    · rw [driver]
      exact fun first => ⟨(out.first first).1, moves stable_starts (out.first first).2⟩

/-- A write that has been told of a NAK of its data. -/
structure WriteTold (s : Master O) : Prop where
  writing : s.ignoreTdf = false
  begun : s.buff.nextIndex ≠ 0
  later : s.state ≠ .starting
  error : s.error = .dataNak

/-- A write that cannot be told of a NAK of its address any more. -/
structure WriteMistold (s : Master O) : Prop where
  writing : s.ignoreTdf = false
  later : s.state ≠ .starting
  error : s.error ≠ .addressNak

theorem isr_writing_later (writing : s.ignoreTdf = false)
    (later : s.state ≠ .starting ∨ s.pass.port.msr.failed = true) :
    s.isr.state ≠ .starting := by
  let msr := s.pass.port.msr
  let ended := (s.pass.serveErrors msr).serveStop msr
  have told := endings_exact msr s.pass
  have writing' : ended.ignoreTdf = false := (congrArg MasterDriver.ignoreTdf told).trans writing
  have ended' : ended.state ≠ .starting := by
    rw [congrArg MasterDriver.state told]
    dsimp only
    split
    · decide
    · split
      · decide
      · next unfailed => exact later.resolve_right unfailed
  intro still
  change ((ended.serveReceive msr).serveTransmit msr).state = .starting at still
  have served : (ended.serveReceive msr).state ≠ .starting := by
    intro first
    rw [serveReceive_writing_starting writing' first] at first
    exact ended' first
  rw [serveTransmit_starting (fun first => absurd first served) still] at still
  exact served still

theorem isr_error (started : s.buff.nextIndex = 0 → s.transferAsked s.pass.port.msr ≠ true) :
    s.isr.error = recordedError s.pass.port.msr s.state s.error := by
  have goes := (continues_isr started).error
  rw [endings_exact] at goes
  exact goes

theorem WriteTold.step (told : s.WriteTold) (between : a.action.betweenCalls = true)
    (others : s.OnlyNaks a) : (s.step a).WriteTold := by
  by_cases interrupts : s.Interrupts a
  · obtain ⟨alf, pltf, _⟩ := others interrupts
    rw [step_interrupts interrupts]
    let scheduled := s.schedule a.meanwhile
    have kept := keepsBuffer_isr scheduled
    have error := isr_error (s := scheduled) fun fresh => absurd fresh told.begun
    have same :
        recordedError scheduled.pass.port.msr scheduled.state scheduled.error = .dataNak := by
      change recordedError scheduled.pass.port.msr s.state s.error = .dataNak
      rw [told.error]
      by_cases ndf : scheduled.pass.port.msr.ndf = true
      · rw [recordedError_nak _ ndf alf pltf, if_neg told.later]
      · exact recordedError_kept _ (by simpa using ndf) alf pltf rfl
    exact ⟨kept.ignoreTdf.trans told.writing,
      Nat.ne_of_gt (Nat.lt_of_lt_of_le (Nat.pos_of_ne_zero told.begun) kept.forward),
      isr_writing_later (s := scheduled) told.writing (.inl told.later), error.trans same⟩
  · have driver := step_driver (Action.isCall_of_betweenCalls between) interrupts
    exact ⟨by rw [driver]; exact told.writing, by rw [driver]; exact told.begun,
      by rw [driver]; exact told.later, by rw [driver]; exact told.error⟩

theorem WriteMistold.step (told : s.WriteMistold) (between : a.action.betweenCalls = true) :
    (s.step a).WriteMistold := by
  by_cases interrupts : s.Interrupts a
  · rw [step_interrupts interrupts]
    let scheduled := s.schedule a.meanwhile
    refine ⟨(keepsBuffer_isr scheduled).ignoreTdf.trans told.writing,
      isr_writing_later (s := scheduled) told.writing (.inl told.later), ?_⟩
    by_cases restarts : scheduled.buff.nextIndex = 0 ∧
        scheduled.transferAsked scheduled.pass.port.msr = true
    · rw [isr_forgets restarts.1 restarts.2]
      decide
    · rw [isr_error fun fresh asked => restarts ⟨fresh, asked⟩]
      exact recordedError_ne told.later told.error
  · have driver := step_driver (Action.isCall_of_betweenCalls between) interrupts
    exact ⟨by rw [driver]; exact told.writing, by rw [driver]; exact told.later,
      by rw [driver]; exact told.error⟩

/-- The ISR call that finds the NAK. At the start of the transaction the FIFO is empty, so that the
same call takes the write for a new one. -/
theorem WriteOut.told (out : s.WriteOut) (nak : s.FindsNak a) (others : s.OnlyNaks a) :
    if (s.atSnapshot a).port.addressed then (s.step a).WriteTold else (s.step a).WriteMistold := by
  obtain ⟨interrupts, ndf, begun⟩ := nak
  obtain ⟨alf, pltf, _⟩ := others interrupts
  let scheduled := s.schedule a.meanwhile
  let msr := scheduled.pass.port.msr
  have only (fresh : s.buff.nextIndex = 0) : scheduled.pass.port.AddressOnly :=
    pass_stable (s := scheduled) stable_addressOnly (out.only fresh)
  have later : scheduled.isr.state ≠ .starting :=
    isr_writing_later (s := scheduled) out.writing (.inr (by
      simp [MasterPort.msr, Msr.failed, show scheduled.pass.port.ndf = true from ndf]))
  have writing : scheduled.isr.ignoreTdf = false :=
    (keepsBuffer_isr scheduled).ignoreTdf.trans out.writing
  have recorded : recordedError msr s.state s.error =
      if s.state = .starting then .addressNak else .dataNak :=
    recordedError_nak _ ndf alf pltf
  rw [step_interrupts interrupts]
  change if scheduled.pass.port.addressed = true then scheduled.isr.WriteTold
    else scheduled.isr.WriteMistold
  by_cases fresh : s.buff.nextIndex = 0
  · have unanswered : scheduled.pass.port.addressed = false := by
      rw [addressed, (only fresh).refused begun ndf]
      rfl
    rw [if_neg (by simp [unanswered])]
    refine ⟨writing, later, ?_⟩
    by_cases first : s.state = .starting
    · have starts := pass_stable (s := scheduled) stable_starts (out.first first).2
      have empty : scheduled.pass.port.txFifo = [] := by
        cases queue : scheduled.pass.port.txFifo with
        | nil => rfl
        | cons command rest =>
            have start := starts command (by simp [queue])
            have first := (only fresh).first command (by simp [queue]) (offers_of_isStart start)
            have awaiting := first.1
            exact absurd (begun.symm.trans awaiting) (by decide)
      have asked : scheduled.transferAsked msr = true := by
        rw [transferAsked, if_neg (by simp [show scheduled.ignoreTdf = false from out.writing])]
        simp [msr, MasterPort.msr, empty]
      rw [isr_forgets (s := scheduled) fresh asked]
      decide
    · by_cases asked : scheduled.transferAsked msr = true
      · rw [isr_forgets (s := scheduled) fresh asked]
        decide
      · rw [isr_error (s := scheduled) fun _ => asked]
        change recordedError msr s.state s.error ≠ _
        rw [recorded, if_neg first]
        decide
  · have first : s.state ≠ .starting := fun first => fresh (out.first first).1
    have error : scheduled.isr.error = .dataNak := by
      rw [isr_error (s := scheduled) fun here => absurd here fresh]
      exact recorded.trans (if_neg first)
    split
    · exact ⟨writing, Nat.ne_of_gt (Nat.lt_of_lt_of_le (Nat.pos_of_ne_zero fresh)
        (keepsBuffer_isr scheduled).forward), later, error⟩
    · exact ⟨writing, later, by rw [error]; decide⟩

/-! ### The calls -/

omit [DecidableEq O] in
theorem onlyStart_start {address direction : UInt8} (bound : s.port.txFifo.length ≤ numFifos)
    (accepted : (s.start address direction).2 = true) :
    (s.start address direction).1.port.AddressOnly ∧
      ∀ command ∈ (s.start address direction).1.port.txFifo, command.isStart = true := by
  rcases start_cases address direction bound with ⟨_, t, _, empty, started⟩ | ⟨refused, _⟩
  · obtain ⟨p, ⟨⟨awaiting, queued⟩, _⟩, _, sent⟩ := sendStart_awaiting address direction empty
    have queue : (t.sendStart address direction).port.txFifo =
        [.start (((address &&& 0x7F) <<< 1) ||| direction)] := by
      rw [sent]
      exact congrArg (· ++ [Command.start _]) queued
    have begun : (t.sendStart address direction).port.awaitingStart = true := by
      rw [sent]
      exact awaiting
    rw [started]
    refine ⟨⟨?_, by simp [queue], ?_, ?_⟩, by simp [queue, Command.isStart]⟩
    · intro command head _
      rw [queue] at head
      cases head
      exact ⟨begun, rfl⟩
    · simp [begun]
    · simp [begun]
  · simp [accepted] at refused

omit [DecidableEq O] in
theorem writeOut_writeAsync {address : UInt8} {buffer : Pointer O} {numBytes : Nat}
    {sendStop : Bool} (bound : s.port.txFifo.length ≤ numFifos) (some : numBytes ≠ 0)
    (accepted : (s.writeAsync address buffer numBytes sendStop).error = .ok) :
    (s.writeAsync address buffer numBytes sendStop).WriteOut := by
  obtain ⟨go, driver, call⟩ := writeAsync_accepted some accepted
  obtain ⟨only, starts⟩ := onlyStart_start (s := { s with calls := s.calls + 1 }) bound go
  rw [call]
  refine ⟨congrArg MasterDriver.ignoreTdf driver, fun _ => ?_, fun _ => ⟨rfl, ?_⟩⟩
  · exact stable_addressOnly.access (fun _ only => only.of_mem (by simp [registerWrites])) only
  · exact stable_starts.access (fun _ starts => starts) starts

omit [DecidableEq O] in
theorem ReadOut.send (command : Command) (out : s.ReadOut) (silent : command.offers = false) :
    (s.access (MasterPort.send command)).ReadOut :=
  ⟨out.reading, stable_addressOnly.access (fun _ only => only.send silent) out.only⟩

omit [DecidableEq O] in
theorem readOut_readAsync {address : UInt8} {buffer : Pointer O} {numBytes : Nat}
    {sendStop : Bool} (bound : s.port.txFifo.length ≤ numFifos)
    (accepted : (s.readAsync address buffer numBytes sendStop).error = .ok) :
    (s.readAsync address buffer numBytes sendStop).ReadOut ∧
      (s.readAsync address buffer numBytes sendStop).state = .starting := by
  unfold readAsync at accepted ⊢
  dsimp only at accepted ⊢
  split at accepted
  · cases accepted
  · next short =>
    rw [if_neg short]
    let counted : Master O := { s with calls := s.calls + 1 }
    have past : (counted.start address masterRead).1.error = .ok := by
      split at accepted
      · exact accepted
      · split at accepted
        · exact accepted
        · split at accepted <;> exact accepted
    obtain ⟨go, driver⟩ := start_accepted past
    obtain ⟨only, _⟩ := onlyStart_start (s := counted) bound go
    have begun : (counted.start address masterRead).1.ReadOut :=
      ⟨congrArg MasterDriver.ignoreTdf driver, only⟩
    have first : (counted.start address masterRead).1.state = .starting :=
      congrArg MasterDriver.state driver
    rw [if_neg (by simpa using go)]
    split
    · exact ⟨begun.send _ rfl, first⟩
    · have set : ((counted.start address masterRead).1.initialiseBuff buffer numBytes).ReadOut :=
        ⟨begun.reading, begun.only⟩
      have asked := set.send (.receive (UInt8.ofNat (numBytes - 1))) rfl
      split
      · exact ⟨asked.send _ rfl, first⟩
      · exact ⟨asked, first⟩

/-- A call that can be answered by a NAK of the claimed kinds. -/
def Action.offersBytes : Action O → Prop
  | .writeAsync _ _ numBytes _ => numBytes ≠ 0
  | .readAsync .. => True
  | _ => False

/-- When the driver tells the two kinds of NAK apart: in a write the slave has acknowledged its
address, in a read nothing left over from before has led the driver away from the start. -/
def ToldApart (call : Action O) (s : Master O) (before : List (Step O)) (p : MasterPort) : Prop :=
  match call with
  | .writeAsync .. => p.addressed = true
  | _ => Along step KeepsWaiting s before

theorem write_nak_iff {before after : List (Step O)} (out : s.WriteOut)
    (between : ∀ b ∈ before ++ a :: after, b.action.betweenCalls = true)
    (unfailing : Along step Unfailing s before) (nak : (run step s before).FindsNak a)
    (others : Along step OnlyNaks (run step s before) (a :: after)) :
    let u := run step s before
    (run step u (a :: after)).error = (u.atSnapshot a).port.nakError ↔
      (u.atSnapshot a).port.addressed = true := by
  intro u
  have out' : u.WriteOut := run_invariant_of_kind (fun _ _ out => out.step) out
    (fun b member => between b (List.mem_append_left _ member)) unfailing
  have rest (b) (member : b ∈ after) : b.action.betweenCalls = true :=
    between b (by simp [member])
  have told := out'.told nak others.1
  cases answered : (u.atSnapshot a).port.addressed with
  | true =>
      rw [answered, if_pos rfl] at told
      have final : (run step (u.step a) after).WriteTold :=
        run_invariant_of_kind (fun _ _ told => told.step) told rest others.2
      rw [run_cons, final.error, nakError, answered]
      simp
  | false =>
      rw [answered, if_neg (by simp)] at told
      have final : (run step (u.step a) after).WriteMistold :=
        run_invariant_of_kind (fun u a told between (_ : u.OnlyNaks a) => told.step between) told
          rest others.2
      rw [run_cons, nakError, answered]
      simp [final.error]

theorem read_nak_iff {before after : List (Step O)} (out : s.ReadOut) (first : s.state = .starting)
    (between : ∀ b ∈ before ++ a :: after, b.action.betweenCalls = true)
    (unfailing : Along step Unfailing s before) (nak : (run step s before).FindsNak a)
    (others : Along step OnlyNaks (run step s before) (a :: after)) :
    let u := run step s before
    (run step u (a :: after)).error = (u.atSnapshot a).port.nakError ↔
      Along step KeepsWaiting s before := by
  intro u
  obtain ⟨out', waits⟩ := readOut_run out
    (fun b member => between b (List.mem_append_left _ member)) unfailing
  obtain ⟨refused, unanswered⟩ := out'.refused nak others.1
  have final := run_invariant_of_kind (fun _ _ refused => refused.step) refused
    (fun b member => between b (by simp [member])) others.2
  have expected : (u.atSnapshot a).port.nakError = .addressNak := by
    rw [nakError, unanswered]
    rfl
  rw [first, eq_self, true_and] at waits
  rw [run_cons, final.error, expected, ← waits]
  by_cases still : (run step s before).state = .starting
  · simp [still]
  · simp [still]

theorem nak_classified_iff (memory : Memory O UInt8) (history : List (Step O)) (call : Step O)
    (before : List (Step O)) (a : Step O) (after : List (Step O))
    (offers : call.action.offersBytes)
    (between : ∀ b ∈ before ++ a :: after, b.action.betweenCalls = true) :
    let s := (run step (fresh memory) history).step call
    let u := run step s before
    let t := run step u (a :: after)
    s.hasError = false → Along step Unfailing s before → u.FindsNak a →
      Along step OnlyNaks u (a :: after) →
        (t.error = (u.atSnapshot a).port.nakError ↔
          ToldApart call.action s before (u.atSnapshot a).port) := by
  intro s u t accepted unfailing nak others
  let idle := (run step (fresh memory) history).schedule call.meanwhile
  have bound : idle.port.txFifo.length ≤ numFifos := txFifo_run memory history
  have error : s.error = .ok := (hasError_eq_false _).mp accepted
  cases kind : call.action with
  | writeAsync address buffer numBytes sendStop =>
      have called : s = idle.writeAsync address buffer numBytes sendStop := step_writeAsync kind
      rw [kind] at offers
      rw [called] at error
      have out : s.WriteOut := by
        rw [called]
        exact writeOut_writeAsync bound offers error
      exact write_nak_iff out between unfailing nak others
  | readAsync address buffer numBytes sendStop =>
      have called : s = idle.readAsync address buffer numBytes sendStop := step_readAsync kind
      rw [called] at error
      have out : s.ReadOut ∧ s.state = .starting := by
        rw [called]
        exact readOut_readAsync bound error
      exact read_nak_iff out.1 out.2 between unfailing nak others
  | begin frequency => simp [kind, Action.offersBytes] at offers
  | end' => simp [kind, Action.offersBytes] at offers
  | isr => simp [kind, Action.offersBytes] at offers
  | hardware e => simp [kind, Action.offersBytes] at offers

end Master

/-! ### An address that nobody answers -/

def begunMaster : List (Master.Step Bool) := [(Master.Action.begin 100000).alone]

def unansweredRead : Master.Step Bool :=
  (Master.Action.readAsync 0x2D ⟨true, 0⟩ 1 true).alone

def unansweredWriteCall : Master.Step Bool :=
  (Master.Action.writeAsync 0x2D ⟨true, 0⟩ 1 true).alone

/-- The ISR runs while the address of a write is being sent, or it runs only after the NAK. -/
theorem address_nak_mistold :
    let s := Master.step (run Master.step (Master.fresh fun _ _ => 0x11) begunMaster)
      unansweredWriteCall
    let told (before : List (Master.Action Bool)) :=
      let u := run Master.step s (before.map Master.Action.alone)
      (u.port.ndf, u.port.awaitingStart, u.port.addressed, (u.step (Master.Action.isr).alone).error)
    told [.hardware .fetch, .isr, .hardware .nak] = (true, false, false, .dataNak) ∧
      told [.hardware .fetch, .hardware .nak] = (true, false, false, .ok) := by
  decide

theorem address_nak_told :
    let s := Master.step (run Master.step (Master.fresh fun _ _ => 0x11) begunMaster)
      unansweredRead
    let before := [Master.Action.hardware .fetch, .hardware .nak].map Master.Action.alone
    let u := run Master.step s before
    (run Master.step u [(Master.Action.isr).alone]).error = .addressNak := by
  have told := Master.nak_classified_iff (fun _ _ => 0x11) begunMaster unansweredRead
    ([.hardware .fetch, .hardware .nak].map Master.Action.alone) (Master.Action.isr).alone []
    trivial (by decide) rfl (by decide) (by decide) (by decide)
  exact told.mpr (show Along Master.step Master.KeepsWaiting _ _ by decide)

end TeensyI2C
