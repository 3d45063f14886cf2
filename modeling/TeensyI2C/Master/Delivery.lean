import TeensyI2C.Master.Port

/-!
The words of a write on their way from the transmit FIFO to the slave: what the hardware, the slave
and the driver's register writes can make of them.
-/

namespace TeensyI2C
open Interference

/-- What a write puts into the transmit FIFO, apart from a STOP. -/
def writeWords (data : UInt8) (bytes : List UInt8) : List Command :=
  .start data :: bytes.map .transmit

section Words
variable {data data' left : UInt8} {bytes : List UInt8} {taken rest ending : List Command}

theorem stop_notMem_writeWords (data : UInt8) (bytes : List UInt8) :
    .stop ∉ writeWords data bytes := by
  simp [writeWords]

theorem receive_notMem_writeWords (data : UInt8) (bytes : List UInt8)
    (stops : ending ⊆ [.stop]) : .receive left ∉ writeWords data bytes ++ ending := by
  intro member
  rcases List.mem_append.mp member with sent | ended
  · simp [writeWords] at sent
  · simpa using stops ended

theorem writeWords_start (stops : ending ⊆ [.stop])
    (split : taken ++ .start data' :: rest = writeWords data bytes ++ ending) : taken = [] := by
  cases taken with
  | nil => rfl
  | cons word taken =>
      have behind : taken ++ .start data' :: rest = bytes.map .transmit ++ ending :=
        (List.cons.inj split).2
      have member : .start data' ∈ bytes.map .transmit ++ ending := by simp [← behind]
      rcases List.mem_append.mp member with sent | ended
      · simp at sent
      · simpa using stops ended

/-- A STOP comes after all other words. -/
theorem writeWords_stop (split : taken ++ .stop :: rest = writeWords data bytes ++ [.stop]) :
    taken = writeWords data bytes ∧ rest = [] := by
  rcases List.append_eq_append_iff.mp split with ⟨more, h, behind⟩ | ⟨more, rfl, behind⟩
  · cases more with
    | nil => exact ⟨by simpa using h.symm, by simpa using behind⟩
    | cons word more =>
        obtain ⟨rfl, _⟩ := List.cons.inj behind
        exact absurd (by simp [h]) (stop_notMem_writeWords data bytes)
  · cases more with
    | nil => exact ⟨List.append_nil _, by simpa using behind.symm⟩
    | cons word more => simp at behind

end Words

namespace MasterPort

/-- The words of a call wait for the START in front of them to be executed. -/
structure Awaiting (words : List Command) (p : MasterPort) : Prop where
  awaiting : p.awaitingStart = true
  queued : p.txFifo = words

/-- The words of a call are on their way from the FIFO to the slave. -/
structure Underway (words : List Command) (p : MasterPort) : Prop where
  begun : p.awaitingStart = false
  carried : p.acknowledged ++ p.executing.toList ++ p.txFifo = words
  unstopped : .stop ∉ p.acknowledged

/-- The slave has acknowledged the words of the last call. -/
structure Acknowledged (words : List Command) (p : MasterPort) : Prop where
  begun : p.awaitingStart = false
  taken : words <+: p.acknowledged
  last : ∀ data, .start data ∉ p.txFifo

/-- `words` have been sent so far, and there is no end in sight. -/
def Sending (words : List Command) (p : MasterPort) : Prop :=
  p.msr.failed = true ∨
    (p.Awaiting words ∨ p.Underway words) ∧ p.mcrMen = true ∧ p.stopSeen = false

/-- All of `words` have been sent. A STOP may follow. -/
def Closing (words : List Command) (p : MasterPort) : Prop :=
  p.msr.failed = true ∨
    (∃ ending, (ending = [] ∨ ending = [.stop]) ∧
      (p.Awaiting (words ++ ending) ∨ p.Underway (words ++ ending))) ∧
    (p.stopSeen = true → p.Acknowledged words)

theorem fetch_cases (p : MasterPort) :
    p.fetch = p ∨ p.fetch.msr.failed = true ∨
      ∃ command rest, p.executing = none ∧ p.txFifo = command :: rest ∧
        ((∃ data, command = .start data ∧ p.fetch = { p with
            txFifo := rest
            executing := some command
            mbf := true
            awaitingStart := false
            acknowledged := [] }) ∨
          (∀ data, command ≠ .start data) ∧
            p.fetch = { p with txFifo := rest, executing := some command } ∨
          command = .stop ∧ p.fetch = { p with txFifo := rest }) := by
  by_cases busy : p.executing = none
  · match queued : p.txFifo with
    | [] => exact .inl (by simp [fetch, busy, queued])
    | .start data :: rest =>
        by_cases failed : p.msr.failed = true
        · exact .inl (by simp [fetch, busy, queued, failed])
        · exact .inr (.inr ⟨.start data, rest, busy, rfl, .inl ⟨data, rfl,
            by simp [fetch, busy, queued, failed]⟩⟩)
    | .stop :: rest =>
        by_cases mbf : p.mbf = true
        · exact .inr (.inr ⟨.stop, rest, busy, rfl, .inr (.inl ⟨by simp,
            by simp [fetch, busy, queued, mbf]⟩)⟩)
        · exact .inr (.inr ⟨.stop, rest, busy, rfl, .inr (.inr ⟨rfl,
            by simp [fetch, busy, queued, mbf]⟩)⟩)
    | .transmit data :: rest | .receive data :: rest =>
        by_cases mbf : p.mbf = true
        · exact .inr (.inr ⟨_, rest, busy, rfl, .inr (.inl ⟨by simp,
            by simp [fetch, busy, queued, mbf]⟩)⟩)
        · exact .inr (.inl (by simp [fetch, busy, queued, mbf, msr, Msr.failed]))
  · obtain ⟨command, executing⟩ := Option.ne_none_iff_exists'.mp busy
    exact .inl (by simp [fetch, executing])

/-- A master that has met no error begins a STOP of its own after it has been disabled. -/
theorem autoStop_cases (p : MasterPort) :
    p.autoStop = p ∨ p.autoStop.msr.failed = true ∨
      p.executing = none ∧ p.txFifo = [] ∧ p.mcrMen = false ∧
        p.autoStop = { p with executing := some .stop } := by
  unfold autoStop
  split
  · next stops =>
    simp only [stopsByItself, Bool.and_eq_true, Bool.or_eq_true, Option.isNone_iff_eq_none,
      Bool.not_eq_true', List.isEmpty_iff, List.isEmpty_eq_false_iff] at stops
    obtain ⟨⟨_, none⟩, (⟨ndf, _⟩ | fef) | ⟨men, empty⟩⟩ := stops
    · exact .inr (.inl (by simp [msr, Msr.failed, ndf]))
    · exact .inr (.inl (by simp [msr, Msr.failed, fef]))
    · exact .inr (.inr ⟨none, empty, men, rfl⟩)
  · exact .inl rfl

attribute [local grind] apply ack nak offered receiveByte stopDone arbitrationLost msr Msr.failed

theorem stable_acknowledged (words : List Command) : Stable apply (Acknowledged words) := by
  rintro p e ⟨begun, taken, last⟩
  have more (command : Command) : words <+: p.acknowledged ++ [command] :=
    taken.trans (List.prefix_append ..)
  cases e <;> grind [Acknowledged, fetch, autoStop]

variable {p : MasterPort} {data : UInt8} {bytes : List UInt8} {rest ending words : List Command}

/-- Before its START nothing of the call is lost. -/
theorem Awaiting.apply (h : p.Awaiting (.start data :: rest)) (e : BusEvent) :
    (p.apply e).msr.failed = true ∨ (p.apply e).stopSeen = p.stopSeen ∧
      ((p.apply e).Awaiting (.start data :: rest) ∨
        (p.apply e).Underway (.start data :: rest)) := by
  obtain ⟨awaiting, queued⟩ := h
  cases e <;> grind [Awaiting, Underway, fetch, autoStop, stopsByItself]

/-- A write is stopped only after the slave has acknowledged it, by the driver or, once the master
has been disabled, by the hardware. -/
theorem Underway.apply (h : p.Underway (writeWords data bytes ++ ending))
    (ends : ending = [] ∨ ending = [.stop]) (e : BusEvent) :
    (p.apply e).msr.failed = true ∨
      (p.apply e).stopSeen = p.stopSeen ∧ (p.apply e).Underway (writeWords data bytes ++ ending) ∨
      (p.apply e).stopSeen = p.stopSeen ∧ p.mcrMen = false ∧
        (p.apply e).Underway (writeWords data bytes ++ [.stop]) ∨
      ending = [.stop] ∧ (p.apply e).Underway (writeWords data bytes) ∧
        (p.apply e).Acknowledged (writeWords data bytes) := by
  obtain ⟨begun, carried, unstopped⟩ := h
  have stops : ending ⊆ [.stop] := by rcases ends with rfl | rfl <;> simp
  have first {data' rest} (none : p.executing = none) (queued : p.txFifo = .start data' :: rest) :
      p.acknowledged = [] := by
    rw [none, queued, Option.toList_none, List.append_nil] at carried
    exact writeWords_start stops carried
  have noReceive left : p.executing ≠ some (.receive left) := by
    intro receiving
    have member : .receive left ∈ writeWords data bytes ++ ending := by
      simp [← carried, receiving]
    exact receive_notMem_writeWords data bytes stops member
  have last {rest} (stopping : p.executing.toList ++ p.txFifo = .stop :: rest) :
      ending = [.stop] ∧ p.acknowledged = writeWords data bytes ∧ rest = [] := by
    rw [List.append_assoc, stopping] at carried
    rcases ends with rfl | rfl
    · rw [List.append_nil] at carried
      exact absurd (by simp [← carried]) (stop_notMem_writeWords data bytes)
    · exact ⟨rfl, writeWords_stop carried⟩
  have lastQueued {rest} (none : p.executing = none) (queued : p.txFifo = .stop :: rest) :=
    last (show p.executing.toList ++ p.txFifo = .stop :: rest by simp [none, queued])
  have lastExecuting (stopping : p.executing = some .stop) :=
    last (show p.executing.toList ++ p.txFifo = .stop :: p.txFifo by simp [stopping])
  cases e with
  | fetch =>
      rw [show p.apply .fetch = p.fetch from rfl]
      rcases p.fetch_cases with same | failed | ⟨command, rest, none, queued,
        ⟨data', rfl, moved⟩ | ⟨other, moved⟩ | ⟨rfl, moved⟩⟩ <;> grind [Underway, Acknowledged]
  | autoStop =>
      rw [show p.apply .autoStop = p.autoStop from rfl]
      rcases p.autoStop_cases with same | failed | ⟨none, empty, men, moved⟩ <;> grind [Underway]
  | stopDone => grind [Underway, Acknowledged]
  | _ => grind [Underway]

theorem stable_sending : Stable MasterPort.apply (Sending (writeWords data bytes)) := by
  rintro p e (failed | ⟨carries, men, unseen⟩)
  · exact .inl (stable_failed p e failed)
  · have men' : (p.apply e).mcrMen = true := (apply_control p e).2.2.trans men
    rcases carries with awaiting | underway
    · exact (awaiting.apply e).imp_right fun ⟨same, carries⟩ => ⟨carries, men', same.trans unseen⟩
    · have whole : p.Underway (writeWords data bytes ++ []) := by simpa using underway
      have moved := whole.apply (.inl rfl) e
      grind [Sending]

theorem stable_closing : Stable MasterPort.apply (Closing (writeWords data bytes)) := by
  rintro p e (failed | ⟨⟨ending, ends, carries⟩, stopped⟩)
  · exact .inl (stable_failed p e failed)
  · have acknowledged (seen : (p.apply e).stopSeen = p.stopSeen) :
        (p.apply e).stopSeen = true → (p.apply e).Acknowledged (writeWords data bytes) :=
      fun now => stable_acknowledged _ p e (stopped (seen ▸ now))
    rcases carries with awaiting | underway
    · exact (Awaiting.apply awaiting e).imp_right fun ⟨same, carries⟩ =>
        ⟨⟨ending, ends, carries⟩, acknowledged same⟩
    · rcases underway.apply ends e with failed | ⟨same, underway⟩ | ⟨same, _, underway⟩ |
        ⟨_, underway, taken⟩
      · exact .inl failed
      · exact .inr ⟨⟨ending, ends, .inr underway⟩, acknowledged same⟩
      · exact .inr ⟨⟨[.stop], .inr rfl, .inr underway⟩, acknowledged same⟩
      · exact .inr ⟨⟨[], .inl rfl, .inr (by simpa using underway)⟩, fun _ => taken⟩

theorem stable_expecting :
    Stable MasterPort.apply fun p => p.Awaiting [] ∧ p.stopSeen = false := by
  rintro p e ⟨⟨awaiting, queued⟩, unseen⟩
  cases e <;> grind [Awaiting, fetch, autoStop]

theorem stable_mcrMen : Stable MasterPort.apply fun p => p.mcrMen = true :=
  fun p e men => (apply_control p e).2.2.trans men

/-! ### What the driver writes -/

/-- A register write that leaves the commands alone and clears no error. -/
structure Quiet (f : MasterPort → MasterPort) : Prop where
  txFifo (p : MasterPort) : (f p).txFifo = p.txFifo
  executing (p : MasterPort) : (f p).executing = p.executing
  acknowledged (p : MasterPort) : (f p).acknowledged = p.acknowledged
  awaitingStart (p : MasterPort) : (f p).awaitingStart = p.awaitingStart
  stopSeen (p : MasterPort) : (f p).stopSeen = p.stopSeen
  failed (p : MasterPort) : (f p).msr.failed = p.msr.failed

theorem quiet_of_mem {f : MasterPort → MasterPort}
    (listed : f ∈ [setTdie false, setTdie true, setMen false, clearSdf]) : Quiet f := by
  simp only [List.mem_cons, List.not_mem_nil, or_false] at listed
  rcases listed with rfl | rfl | rfl | rfl <;>
    exact ⟨fun _ => rfl, fun _ => rfl, fun _ => rfl, fun _ => rfl, fun _ => rfl, fun _ => rfl⟩

variable {f : MasterPort → MasterPort}

theorem Quiet.awaiting (quiet : Quiet f) (h : p.Awaiting words) : (f p).Awaiting words where
  awaiting := (quiet.awaitingStart p).trans h.awaiting
  queued := (quiet.txFifo p).trans h.queued

theorem Quiet.underway (quiet : Quiet f) (h : p.Underway words) : (f p).Underway words where
  begun := (quiet.awaitingStart p).trans h.begun
  carried := by
    rw [quiet.acknowledged, quiet.executing, quiet.txFifo]
    exact h.carried
  unstopped := by
    rw [quiet.acknowledged]
    exact h.unstopped

theorem Quiet.taken (quiet : Quiet f) (h : p.Acknowledged words) : (f p).Acknowledged words where
  begun := (quiet.awaitingStart p).trans h.begun
  taken := by
    rw [quiet.acknowledged]
    exact h.taken
  last := by
    rw [quiet.txFifo]
    exact h.last

theorem Quiet.sending (quiet : Quiet f) (men : (f p).mcrMen = p.mcrMen) (h : p.Sending words) :
    (f p).Sending words := by
  rw [Sending, quiet.failed, men, quiet.stopSeen]
  exact h.imp_right fun ⟨carries, rest⟩ => ⟨carries.imp quiet.awaiting quiet.underway, rest⟩

theorem Quiet.closing (quiet : Quiet f) (h : p.Closing words) : (f p).Closing words := by
  rw [Closing, quiet.failed, quiet.stopSeen]
  exact h.imp_right fun ⟨⟨ending, ends, carries⟩, stopped⟩ =>
    ⟨⟨ending, ends, carries.imp quiet.awaiting quiet.underway⟩, quiet.taken ∘ stopped⟩

theorem Sending.send (sending : p.Sending words) (command : Command) :
    (p.send command).Sending (words ++ [command]) := by
  rcases sending with failed | ⟨⟨awaiting, queued⟩ | ⟨begun, carried, unstopped⟩, men, unseen⟩
  · exact .inl failed
  · exact .inr ⟨.inl ⟨awaiting, by rw [← queued]; rfl⟩, men, unseen⟩
  · refine .inr ⟨.inr ⟨begun, ?_, unstopped⟩, men, unseen⟩
    rw [← carried, List.append_assoc _ p.txFifo]
    rfl

theorem Sending.closing (sending : p.Sending words) : p.Closing words := by
  rcases sending with failed | ⟨carries, _, unseen⟩
  · exact .inl failed
  · refine .inr ⟨⟨[], .inl rfl, by simpa using carries⟩, fun seen => ?_⟩
    simp [unseen] at seen

theorem Sending.closing_stop (sending : p.Sending words) : (p.send .stop).Closing words := by
  rcases sending.send .stop with failed | ⟨carries, _, unseen⟩
  · exact .inl failed
  · refine .inr ⟨⟨[.stop], .inr rfl, carries⟩, fun seen => ?_⟩
    simp [unseen] at seen

theorem Sending.acknowledged (sending : p.Sending words) (some : words ≠ [])
    (unfailed : p.msr.failed = false) (empty : p.txFifo = []) (none : p.executing = none) :
    p.Acknowledged words := by
  rcases sending with failed | ⟨⟨_, queued⟩ | ⟨begun, carried, _⟩, _⟩
  · simp [unfailed] at failed
  · exact absurd (queued.symm.trans empty) some
  · rw [empty, none, Option.toList_none, List.append_nil, List.append_nil] at carried
    exact ⟨begun, carried ▸ List.prefix_refl _, by simp [empty]⟩

end MasterPort

end TeensyI2C
