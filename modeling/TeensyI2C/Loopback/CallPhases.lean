import TeensyI2C.Loopback.Turns

/-!
A call at the master's port: its START waits in the FIFO, goes over the bus and is past, or is lost
on the way.
-/

namespace TeensyI2C
open ObjectMemory Interference EventMachine

namespace MasterPort
variable {p q : MasterPort} {data : UInt8}

/-- Nothing is left of the call before but perhaps its STOP. -/
structure AtRest (p : MasterPort) : Prop where
  queued : p.txFifo = []
  executing : p.executing = none ∨ p.executing = some .stop

/-- No START is going to be executed. -/
structure Startless (p : MasterPort) : Prop where
  queued : ∀ c ∈ p.txFifo, c.startByte = none
  executing : ∀ c, p.executing = some c → c.startByte = none

/-- The START of the call has been taken out of the FIFO and is done. -/
structure StartPast (p : MasterPort) : Prop extends Startless p where
  begun : p.awaitingStart = false
  offBus : p.OffBus

/-- The START waits in the FIFO. -/
structure StartQueued (data : UInt8) (p : MasterPort) : Prop where
  awaiting : p.awaitingStart = true
  uncrossed : p.crossed = []
  executing : p.executing = none ∨ p.executing = some .stop
  queued : ∃ rest, p.txFifo = .start data :: rest ∧ ∀ c ∈ rest, c.startByte = none

/-- The START and the address are on the bus. -/
structure StartSent (data : UInt8) (p : MasterPort) : Prop where
  begun : p.awaitingStart = false
  executing : p.executing = some (.start data)
  mbf : p.mbf = true
  unacknowledged : p.acknowledged = []
  uncrossed : p.crossed = []
  queued : ∀ c ∈ p.txFifo, c.startByte = none

/-- The START is gone without having been executed. -/
structure StartLost (p : MasterPort) : Prop extends Startless p where
  awaiting : p.awaitingStart = true

attribute [local grind] apply fetch ack nak offered receiveByte autoStop stopDone arbitrationLost
  Command.startByte

theorem stable_startless : Stable apply Startless := by
  rintro p e ⟨queued, executing⟩
  constructor <;> cases e <;> grind

theorem stable_startPast : Stable apply StartPast := by
  rintro p e ⟨startless, begun, offBus⟩
  exact ⟨stable_startless p e startless, stable_started p e begun, stable_offBus p e offBus⟩

theorem stable_startLost : Stable apply StartLost := by
  rintro p e ⟨startless, awaiting⟩
  refine ⟨stable_startless p e startless, ?_⟩
  obtain ⟨queued, executing⟩ := startless
  cases e <;> grind

theorem StartQueued.apply (waiting : p.StartQueued data) (e : BusEvent) :
    (p.apply e).StartQueued data ∨
      e = .fetch ∧ (p.apply e).StartSent data := by
  obtain ⟨awaiting, uncrossed, executing, rest, queue, others⟩ := waiting
  have same (kept : (p.apply e).txFifo = p.txFifo) (crossed : (p.apply e).crossed = p.crossed)
      (awaits : (p.apply e).awaitingStart = p.awaitingStart)
      (idle : (p.apply e).executing = none ∨ (p.apply e).executing = some .stop) :
      (p.apply e).StartQueued data :=
    ⟨awaits.trans awaiting, crossed.trans uncrossed, idle, rest, kept.trans queue, others⟩
  cases e with
  | fetch =>
      rcases executing with idle | stopping
      · by_cases failed : p.msr.failed = true
        · have held : p.fetch = p := by simp [fetch, idle, queue, failed]
          refine .inl (same ?_ ?_ ?_ ?_) <;> simp [MasterPort.apply, held, idle]
        · refine .inr ⟨rfl, ?_⟩
          have taken : p.fetch = { p with
              txFifo := rest, executing := some (.start data), mbf := true,
              awaitingStart := false, acknowledged := [] } := by
            simp [fetch, idle, queue, failed]
          rw [MasterPort.apply, taken]
          exact ⟨rfl, rfl, rfl, rfl, uncrossed, others⟩
      · have held : p.fetch = p := by simp [fetch, stopping]
        refine .inl (same ?_ ?_ ?_ ?_) <;> simp [MasterPort.apply, held, stopping]
  | _ => exact .inl (by apply same <;> grind)

theorem StartSent.apply (sent : p.StartSent data) (e : BusEvent) :
    (p.apply e).StartSent data ∧ e ≠ .ack ∧ e ≠ .nak ∨
      (p.apply e).StartPast ∧ (p.apply e).crossed = [] ∧
        (e = .ack ∧ (p.apply e).acknowledged = [.start data] ∧ (p.apply e).mbf = true ∨
          (p.apply e).acknowledged = [] ∧ (e = .nak ∨ (p.apply e).mbf = false ∧ e ≠ .ack)) := by
  have ⟨begun, executing, mbf, unacknowledged, uncrossed, queued⟩ := sent
  have offered : p.offered = some (.start data) := by simp [MasterPort.offered, executing]
  have free {q : MasterPort} (begins : q.awaitingStart = false) (queue : q.txFifo = p.txFifo)
      (idle : q.executing = none) : q.StartPast :=
    ⟨⟨by rwa [queue], by simp [idle]⟩, begins, fun _ => idle⟩
  cases e with
  | ack =>
      refine .inr ⟨free ?_ ?_ ?_, ?_, .inl ⟨rfl, ?_, ?_⟩⟩ <;>
        simp [MasterPort.apply, MasterPort.ack, offered, begun, mbf, unacknowledged, uncrossed,
          crossing, Command.payload]
  | nak =>
      refine .inr ⟨free ?_ ?_ ?_, ?_, .inr ⟨?_, .inl rfl⟩⟩ <;>
        simp [MasterPort.apply, MasterPort.nak, offered, begun, unacknowledged, uncrossed,
          crossing, Command.payload]
  | arbitrationLost =>
      refine .inr ⟨free ?_ ?_ ?_, ?_, .inr ⟨?_, .inr ⟨?_, ?_⟩⟩⟩ <;>
        simp [MasterPort.apply, MasterPort.arbitrationLost, begun, unacknowledged, uncrossed]
  | fetch | receiveByte _ | autoStop | stopDone =>
      refine .inl ⟨?_, by simp, by simp⟩
      simpa [MasterPort.apply, fetch, receiveByte, autoStop, stopsByItself, stopDone, executing]
        using sent
  | fifoError | pinLowTimeout =>
      exact .inl ⟨⟨begun, executing, mbf, unacknowledged, uncrossed, queued⟩, by simp, by simp⟩

theorem stable_atRest : Stable apply AtRest := by
  rintro p e ⟨queued, executing⟩
  constructor <;> cases e <;> grind

/-- The driver has accepted the call. -/
structure StartDue (p : MasterPort) : Prop extends AtRest p where
  awaiting : p.awaitingStart = true
  uncrossed : p.crossed = []

theorem stable_startDue : Stable apply StartDue := by
  rintro p e ⟨atRest, awaiting, uncrossed⟩
  refine ⟨stable_atRest p e atRest, ?_, ?_⟩ <;>
  · obtain ⟨queued, executing⟩ := atRest
    cases e <;> grind [crossing]

theorem StartLost.message (lost : p.StartLost) : p.message = none := by
  rw [MasterPort.message, if_pos lost.awaiting]

/-! What the driver writes -/

/-- A write that the bus does not notice. -/
structure Unseen (p q : MasterPort) : Prop where
  executing : q.executing = p.executing
  mbf : q.mbf = p.mbf
  awaitingStart : q.awaitingStart = p.awaitingStart
  acknowledged : q.acknowledged = p.acknowledged
  crossed : q.crossed = p.crossed
  queued : ∀ c ∈ q.txFifo, c ∈ p.txFifo ∨ c.startByte = none

/-- The writes of a call after its START, and those of the service routine. -/
def During (f : MasterPort → MasterPort) : Prop :=
  Master.WritesBetween f ∨ ∃ left, f = send (.receive left)

/-- The writes of a call before its START. -/
def Prepares (f : MasterPort → MasterPort) : Prop := f = setMen true ∨ ∃ msr, f = clearFlags msr

theorem StartDue.prepares (due : p.StartDue) {f : MasterPort → MasterPort}
    (prepares : Prepares f) : (f p).StartDue := by
  obtain ⟨⟨queued, executing⟩, awaiting, uncrossed⟩ := due
  rcases prepares with rfl | ⟨msr, rfl⟩ <;> exact ⟨⟨queued, executing⟩, awaiting, uncrossed⟩

theorem StartDue.send (due : p.StartDue) (data : UInt8) :
    (p.send (.start data)).StartQueued data where
  awaiting := due.awaiting
  uncrossed := due.uncrossed
  executing := due.executing
  queued := ⟨[], by simp [MasterPort.send, due.queued], by simp⟩

theorem during_cases {f : MasterPort → MasterPort} (during : During f) :
    (∃ c : Command, c.startByte = none ∧ f = send c) ∨ f = resetTxFifo ∨
      ∀ p, p.Unseen (f p) ∧ (f p).txFifo = p.txFifo := by
  rcases during with (ending | ⟨byte, rfl⟩) | ⟨left, rfl⟩
  · rcases List.mem_cons.mp ending with rfl | listed
    · exact .inl ⟨_, rfl, rfl⟩
    · simp only [Master.registerWrites, List.mem_cons, List.not_mem_nil, or_false] at listed
      rcases listed with tdie | tdie | rfl | listed
      · exact .inr (.inr fun p => tdie ▸ ⟨⟨rfl, rfl, rfl, rfl, rfl, fun _ => .inl⟩, rfl⟩)
      · exact .inr (.inr fun p => tdie ▸ ⟨⟨rfl, rfl, rfl, rfl, rfl, fun _ => .inl⟩, rfl⟩)
      · exact .inr (.inl rfl)
      · rcases listed with rfl | rfl | rfl | rfl | rfl | rfl | rfl | rfl | rfl <;>
          exact .inr (.inr fun p => ⟨⟨rfl, rfl, rfl, rfl, rfl, fun _ => .inl⟩, rfl⟩)
  · exact .inl ⟨_, rfl, rfl⟩
  · exact .inl ⟨_, rfl, rfl⟩

theorem unseen_during {f : MasterPort → MasterPort} (during : During f) (p : MasterPort) :
    p.Unseen (f p) := by
  rcases during_cases during with ⟨c, other, rfl⟩ | rfl | unseen
  · refine ⟨rfl, rfl, rfl, rfl, rfl, fun c' member => ?_⟩
    rcases List.mem_append.mp member with before | here
    · exact .inl before
    · exact .inr (by rwa [List.mem_singleton.mp here])
  · exact ⟨rfl, rfl, rfl, rfl, rfl, fun _ member => by cases member⟩
  · exact (unseen p).1

theorem Startless.unseen (startless : p.Startless) (unseen : p.Unseen q) : q.Startless where
  queued c member := (unseen.queued c member).elim (startless.queued c) id
  executing := by
    rw [unseen.executing]
    exact startless.executing

theorem StartPast.unseen (past : p.StartPast) (unseen : p.Unseen q) : q.StartPast where
  toStartless := past.toStartless.unseen unseen
  begun := unseen.awaitingStart.trans past.begun
  offBus off := unseen.executing.trans (past.offBus (unseen.mbf.symm.trans off))

theorem StartLost.unseen (lost : p.StartLost) (unseen : p.Unseen q) : q.StartLost where
  toStartless := lost.toStartless.unseen unseen
  awaiting := unseen.awaitingStart.trans lost.awaiting

theorem StartSent.unseen (sent : p.StartSent data) (unseen : p.Unseen q) : q.StartSent data where
  begun := unseen.awaitingStart.trans sent.begun
  executing := unseen.executing.trans sent.executing
  mbf := unseen.mbf.trans sent.mbf
  unacknowledged := unseen.acknowledged.trans sent.unacknowledged
  uncrossed := unseen.crossed.trans sent.uncrossed
  queued c member := (unseen.queued c member).elim (sent.queued c) id

theorem StartQueued.during (waiting : p.StartQueued data) {f : MasterPort → MasterPort}
    (during : During f) : (f p).StartQueued data ∨ (f p).StartLost := by
  obtain ⟨awaiting, uncrossed, executing, rest, queue, others⟩ := waiting
  rcases during_cases during with ⟨c, other, rfl⟩ | rfl | unseen
  · refine .inl ⟨awaiting, uncrossed, executing, rest ++ [c], ?_, ?_⟩
    · rw [send, queue]
      rfl
    · intro c' member
      rcases List.mem_append.mp member with before | here
      · exact others c' before
      · rwa [List.mem_singleton.mp here]
  · refine .inr ⟨⟨fun c member => (by cases member), fun c running => ?_⟩, awaiting⟩
    rcases executing with idle | stopping
    · rw [resetTxFifo, idle] at running
      cases running
    · rw [resetTxFifo, stopping] at running
      cases running
      rfl
  · obtain ⟨unseen, kept⟩ := unseen p
    refine .inl ⟨unseen.awaitingStart.trans awaiting, unseen.crossed.trans uncrossed, ?_, rest,
      kept.trans queue, others⟩
    rwa [unseen.executing]

theorem StartPast.on (past : p.StartPast) {c : Command} (executing : p.executing = some c) :
    p.mbf = true := by
  cases mbf : p.mbf with
  | true => rfl
  | false =>
      rw [past.offBus mbf] at executing
      cases executing

theorem Startless.fetch (startless : p.Startless) :
    p.fetch.acknowledged = p.acknowledged ∧ p.fetch.crossed = p.crossed ∧
      p.fetch.mbf = p.mbf := by
  unfold MasterPort.fetch
  split
  · next data rest idle queue =>
    have other := startless.queued (.start data) (by rw [queue]; simp)
    cases other
  · split <;> exact ⟨rfl, rfl, rfl⟩
  · exact ⟨rfl, rfl, rfl⟩

/-- What has been said since a START with this byte. -/
def saying (p : MasterPort) (data : UInt8) : HeardFrame where
  address := calledAddress data
  read := asksToRead data
  transfer :=
    if asksToRead data then some (.read 0)
    else Transfer.ofBytes (p.acknowledged.flatMap Command.payload)

theorem message_eq (begun : p.awaitingStart = false) :
    p.message = (p.acknowledged.findSome? Command.startByte).map p.saying := by
  rw [message, if_neg (by simp [begun])]
  rfl

theorem StartSent.message (sent : p.StartSent data) : p.message = none := by
  rw [message_eq sent.begun, sent.unacknowledged]
  rfl

end MasterPort

end TeensyI2C
