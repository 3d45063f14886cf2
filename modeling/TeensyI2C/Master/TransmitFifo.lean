import TeensyI2C.Master.PortEffects

/-!
The driver never writes to a full transmit FIFO: in every run it holds at most four commands. That
is why `tx_fifo_count` counts right and the space that the TDF branch computes is never negative.
-/

namespace TeensyI2C
open ObjectMemory Interference EventMachine MasterPort

namespace Master
variable {O : Type} [Inhabited O] {s t : Master O} {n : Nat}

theorem txFifo_kept {fs : List (MasterPort → MasterPort)} (h : Drives (· ∈ fs) s t)
    (known : fs ⊆ registerWrites) (bound : s.port.txFifo.length ≤ n) :
    t.port.txFifo.length ≤ n := by
  refine h.keeps (stable_txFifo n) ?_ bound
  intro f member p short
  have listed := known member
  simp only [registerWrites, List.mem_cons, List.not_mem_nil, or_false] at listed
  rcases listed with rfl | rfl | rfl | rfl | rfl | rfl | rfl | rfl | rfl | rfl | rfl | rfl
  case inr.inr.inl => exact Nat.zero_le n
  all_goals exact short

theorem txFifo_access {f : MasterPort → MasterPort} (listed : f ∈ registerWrites)
    (bound : s.port.txFifo.length ≤ n) : (s.access f).port.txFifo.length ≤ n := by
  have written : Drives (· ∈ [f]) s (s.access f) := drives_access (List.mem_singleton_self f)
  exact txFifo_kept written (by simpa using listed) bound

theorem txFifo_send (command : Command) (bound : s.port.txFifo.length ≤ n) :
    (s.access (send command)).port.txFifo.length ≤ n + 1 := by
  have passed := pass_stable (stable_txFifo n) bound
  change (s.pass.port.txFifo ++ [command]).length ≤ n + 1
  rw [List.length_append, List.length_singleton]
  exact Nat.succ_le_succ passed

/-- The count is exact, as the FIFO is short. -/
theorem txFifoCount_eq {p : MasterPort} (bound : p.txFifo.length ≤ numFifos) :
    p.txFifoCount = p.txFifo.length :=
  Nat.mod_eq_of_lt (Nat.lt_of_le_of_lt bound (by decide))

theorem txFifo_eq_nil {p : MasterPort} (bound : p.txFifo.length ≤ numFifos)
    (none : p.txFifoCount = 0) : p.txFifo = [] := by
  rw [txFifoCount_eq bound] at none
  exact List.eq_nil_of_length_eq_zero none

theorem txFifo_abort (s : Master O) : s.abortTransactionAsync.port.txFifo.length ≤ 1 := by
  have dropped : s.dropCommands.pass.port.txFifo.length ≤ 0 :=
    pass_stable (stable_txFifo 0) (txFifo_dropCommands s)
  unfold abortTransactionAsync
  dsimp only
  split
  · exact txFifo_send .stop dropped
  · exact Nat.le_succ_of_le dropped

theorem txFifo_fill (fifoSpace : Nat) (bound : s.port.txFifo.length ≤ n) :
    (s.fill fifoSpace).port.txFifo.length ≤ n + fifoSpace := by
  induction fifoSpace generalizing s n with
  | zero => exact bound
  | succ fifoSpace ih =>
      unfold fill
      split
      · have sent : s.transmitNext.port.txFifo.length ≤ n + 1 :=
          txFifo_send (s := { s with
            buff := s.buff.advance
            trace := s.trace ++ [(s.owner, .transmit (s.memory.load s.buff.cursor))] }) _ bound
        rw [Nat.add_comm fifoSpace 1, ← Nat.add_assoc]
        exact ih sent
      · exact Nat.le_add_right_of_le bound

theorem txFifo_refill (bound : s.port.txFifo.length ≤ numFifos) :
    s.refill.port.txFifo.length ≤ numFifos := by
  have passed := pass_stable (stable_txFifo numFifos) bound
  have filled := txFifo_fill (numFifos - s.pass.port.txFifoCount) (Nat.le_refl
    s.pass.port.txFifo.length)
  rw [txFifoCount_eq passed] at filled
  have room : s.pass.port.txFifo.length + (numFifos - s.pass.port.txFifo.length) = numFifos :=
    Nat.add_sub_cancel' passed
  unfold refill
  dsimp only
  rw [txFifoCount_eq passed]
  exact filled.trans_eq room

theorem txFifo_drained (bound : s.pass.port.txFifo.length ≤ numFifos)
    (none : s.pass.port.txFifoCount = 0) :
    (s.pass.access (setTdie false)).port.txFifo.length ≤ 0 := by
  refine txFifo_access (by simp [registerWrites]) ?_
  rw [txFifo_eq_nil bound none]
  exact Nat.le_refl 0

theorem txFifo_finishWriting (bound : s.port.txFifo.length ≤ numFifos) :
    s.finishWriting.port.txFifo.length ≤ numFifos := by
  have passed := pass_stable (stable_txFifo numFifos) bound
  unfold finishWriting
  dsimp only
  split
  · split
    · next none =>
      have empty := txFifo_drained passed none
      have closed {t : Master O} (h : t.port.txFifo.length ≤ 1) :
          (t.access (setMen false)).port.txFifo.length ≤ numFifos :=
        (txFifo_access (by simp [registerWrites]) h).trans (by decide)
      split
      · exact closed (txFifo_send (s := { s.pass.access (setTdie false) with state := .stopping })
          .stop empty)
      · exact closed (Nat.le_succ_of_le empty)
    · exact passed
  · exact bound

theorem txFifo_serveErrors (msr : Msr) (bound : s.port.txFifo.length ≤ numFifos) :
    (s.serveErrors msr).port.txFifo.length ≤ numFifos := by
  have recorded := txFifo_kept (drives_recordErrors msr s) (by simp [registerWrites]) bound
  unfold serveErrors
  dsimp only
  split
  · split
    · exact (txFifo_abort { s.recordErrors msr with state := .stopping }).trans (by decide)
    · exact recorded
  · exact bound

theorem txFifo_serveTransmit (msr : Msr) (bound : s.port.txFifo.length ≤ numFifos) :
    (s.serveTransmit msr).port.txFifo.length ≤ numFifos := by
  rw [← port_beginTransfer s] at bound
  unfold serveTransmit transferOut
  split
  · split
    · exact txFifo_finishWriting (txFifo_refill bound)
    · exact bound
  · rwa [port_beginTransfer] at bound

/-! ### No write to a full FIFO -/

theorem overflowed_pass (within : s.port.overflowed = false) : s.pass.port.overflowed = false :=
  pass_stable stable_overflowed within

theorem overflowed_send (command : Command) (bound : s.port.txFifo.length < numFifos)
    (within : s.port.overflowed = false) :
    (s.access (send command)).port.overflowed = false := by
  have room : s.pass.port.txFifo.length < 4 :=
    Nat.lt_of_le_of_lt (pass_stable (stable_txFifo _) (Nat.le_refl _)) bound
  have before := overflowed_pass within
  change (s.pass.port.overflowed || decide (4 ≤ s.pass.port.txFifo.length)) = false
  rw [before, Bool.false_or, decide_eq_false (Nat.not_le.mpr room)]

theorem overflowed_fill (fifoSpace : Nat) (bound : s.port.txFifo.length + fifoSpace ≤ numFifos)
    (within : s.port.overflowed = false) : (s.fill fifoSpace).port.overflowed = false := by
  induction fifoSpace generalizing s with
  | zero => exact within
  | succ fifoSpace ih =>
      unfold fill
      split
      · let noted : Master O := { s with
          buff := s.buff.advance
          trace := s.trace ++ [(s.owner, .transmit (s.memory.load s.buff.cursor))] }
        have sent : s.transmitNext.port.txFifo.length ≤ s.port.txFifo.length + 1 :=
          txFifo_send (s := noted) _ (Nat.le_refl _)
        have room : noted.port.txFifo.length < numFifos := by
          change s.port.txFifo.length < numFifos
          omega
        exact ih (by omega) (overflowed_send _ room within)
      · exact within

theorem overflowed_refill (bound : s.port.txFifo.length ≤ numFifos)
    (within : s.port.overflowed = false) : s.refill.port.overflowed = false := by
  have passed := pass_stable (stable_txFifo numFifos) bound
  refine overflowed_fill _ ?_ (overflowed_pass within)
  rw [txFifoCount_eq passed]
  exact (Nat.add_sub_cancel' passed).le

theorem overflowed_finishWriting (bound : s.port.txFifo.length ≤ numFifos)
    (within : s.port.overflowed = false) : s.finishWriting.port.overflowed = false := by
  have passed := pass_stable (stable_txFifo numFifos) bound
  have kept := overflowed_pass within
  have after {t : Master O} (h : t.port.overflowed = false) :
      (t.access (setMen false)).port.overflowed = false := overflowed_pass h
  unfold finishWriting
  dsimp only
  split
  · split
    · next none =>
      have empty := txFifo_drained passed none
      have masked : (s.pass.access (setTdie false)).port.overflowed = false :=
        overflowed_pass kept
      split
      · exact after (overflowed_send (s := { s.pass.access (setTdie false) with
          state := .stopping }) .stop (Nat.lt_of_le_of_lt empty (by decide)) masked)
      · exact after masked
    · exact kept
  · exact within

/-- `start` sends a START if it has found the FIFO empty, and otherwise aborts. -/
theorem start_cases (address direction : UInt8) (bound : s.port.txFifo.length ≤ numFifos) :
    ((s.start address direction).2 = true ∧ ∃ t : Master O,
      Drives (fun _ => False) s t ∧ t.port.txFifo = [] ∧
        (s.start address direction).1 = t.sendStart address direction) ∨
    ((s.start address direction).2 = false ∧ ∃ t : Master O,
      (s.start address direction).1.port = t.abortTransactionAsync.port) := by
  unfold start startTransaction
  dsimp only
  split
  · exact .inr ⟨rfl, s.pass, rfl⟩
  · have looked : (s.pass.prepare direction).pass.port.txFifo.length ≤ numFifos :=
      pass_stable (stable_txFifo _) (s := s.pass.prepare direction)
        (pass_stable (stable_txFifo _) bound)
    split
    · exact .inr ⟨rfl, { (s.pass.prepare direction).pass.pass with
        error := .masterFifosNotEmpty }, rfl⟩
    · next quiet =>
      have none : (s.pass.prepare direction).pass.port.txFifoCount = 0 := by
        simp only [gt_iff_lt, Bool.or_eq_true, decide_eq_true_eq, not_or, Nat.not_lt] at quiet
        exact Nat.le_zero.mp quiet.1
      have empty : (s.pass.prepare direction).pass.pass.port.txFifo.length ≤ 0 :=
        pass_stable (stable_txFifo 0) (by rw [txFifo_eq_nil looked none]; exact Nat.le_refl 0)
      exact .inl ⟨rfl, _, (drives_pass _ s).pass.pass,
        List.eq_nil_of_length_eq_zero (Nat.le_zero.mp empty), rfl⟩

theorem txFifo_sendStart (address direction : UInt8) (empty : s.port.txFifo = []) :
    (s.sendStart address direction).port.txFifo.length ≤ 1 := by
  let expecting : Master O := { s with bus.device := s.port.expectStart }
  have none : expecting.port.txFifo.length ≤ 0 := by simp [expecting, expectStart, empty]
  have cleared : expecting.clearAllMsrFlags.port.txFifo.length ≤ 0 :=
    pass_stable (stable_txFifo 0) (pass_stable (stable_txFifo 0) none)
  exact txFifo_send _ (txFifo_access (f := setMen true) (by simp [registerWrites]) cleared)

theorem txFifo_start (address direction : UInt8) (bound : s.port.txFifo.length ≤ numFifos) :
    (s.start address direction).1.port.txFifo.length ≤ 1 := by
  rcases start_cases address direction bound with ⟨_, t, _, empty, started⟩ | ⟨_, t, aborted⟩
  · rw [started]
    exact txFifo_sendStart address direction empty
  · rw [aborted]
    exact txFifo_abort t

variable [DecidableEq O] {a : Step O}

theorem txFifo_serveReceive (msr : Msr) (bound : s.port.txFifo.length ≤ numFifos) :
    (s.serveReceive msr).port.txFifo.length ≤ numFifos := by
  unfold serveReceive
  split
  · split
    · rw [← port_beginTransfer s] at bound
      have taken := txFifo_kept (drives_takeByte s.beginTransfer) (by simp [registerWrites]) bound
      exact txFifo_kept (drives_finishReading _) (by simp [registerWrites]) taken
    · exact (txFifo_abort { s with state := .stopping }).trans (by decide)
  · exact bound

theorem txFifo_isr (bound : s.port.txFifo.length ≤ numFifos) :
    s.isr.port.txFifo.length ≤ numFifos := by
  have aborted := txFifo_serveErrors s.pass.port.msr (pass_stable (stable_txFifo _) bound)
  have ended := txFifo_kept (drives_serveStop s.pass.port.msr _) (by simp [registerWrites]) aborted
  exact txFifo_serveTransmit _ (txFifo_serveReceive _ ended)

omit [DecidableEq O] in
theorem txFifo_writeAsync (address : UInt8) (buffer : Pointer O) (numBytes : Nat)
    (sendStop : Bool) (bound : s.port.txFifo.length ≤ numFifos) :
    (s.writeAsync address buffer numBytes sendStop).port.txFifo.length ≤ 2 := by
  let started := ({ s with calls := s.calls + 1 }.start address masterWrite).1
  have short : started.port.txFifo.length ≤ 1 := txFifo_start address masterWrite bound
  unfold writeAsync
  dsimp only
  split
  · exact Nat.le_succ_of_le short
  · split
    · exact txFifo_send (s := { started with ignoreTdf := true }) .stop short
    · exact Nat.le_succ_of_le (pass_stable (stable_txFifo 1) short)

omit [DecidableEq O] in
theorem txFifo_readAsync (address : UInt8) (buffer : Pointer O) (numBytes : Nat)
    (sendStop : Bool) (bound : s.port.txFifo.length ≤ numFifos) :
    (s.readAsync address buffer numBytes sendStop).port.txFifo.length ≤ numFifos := by
  let started := ({ s with calls := s.calls + 1 }.start address masterRead).1
  have short : started.port.txFifo.length ≤ 1 := txFifo_start address masterRead bound
  unfold readAsync
  dsimp only
  split
  · exact bound
  · split
    · exact short.trans (by decide)
    · split
      · exact (txFifo_send .stop short).trans (by decide)
      · have asked := txFifo_send (s := started.initialiseBuff buffer numBytes)
          (.receive (UInt8.ofNat (numBytes - 1))) short
        split
        · exact (txFifo_send .stop asked).trans (by decide)
        · exact asked.trans (by decide)

theorem txFifo_step (a : Step O) (bound : s.port.txFifo.length ≤ numFifos) :
    (s.step a).port.txFifo.length ≤ numFifos := by
  have emptied (t : Master O) : t.stop.port.txFifo.length ≤ numFifos := Nat.zero_le _
  refine step_cases (motive := fun t => t.port.txFifo.length ≤ numFifos) s a ?begins ?ends ?writes
    ?reads ?interrupts ?masked ?moves
  case begins =>
    intro frequency _
    have timed := pass_stable (stable_txFifo _) (emptied (s.schedule a.meanwhile))
    exact pass_stable (stable_txFifo _) (pass_stable (stable_txFifo _) timed)
  case ends => exact fun _ => emptied _
  case writes =>
    intro address buffer numBytes sendStop _
    exact Nat.le_trans (txFifo_writeAsync _ _ _ _ bound) (show 2 ≤ numFifos by decide)
  case reads => exact fun _ _ _ _ _ => txFifo_readAsync _ _ _ _ bound
  case interrupts => exact fun _ => txFifo_isr bound
  case masked => exact fun _ _ => bound
  case moves => exact fun e _ => stable_txFifo numFifos s.port e bound

/-- In every run the driver leaves the transmit FIFO within its size. -/
theorem txFifo_run (memory : Memory O UInt8) (as : List (Step O)) :
    (run step (fresh memory) as).port.txFifo.length ≤ numFifos := by
  refine run_invariant' (I := fun s : Master O => s.port.txFifo.length ≤ numFifos) ?_ as
    (Nat.zero_le _)
  exact fun _ a bound => txFifo_step a bound

end Master
end TeensyI2C
