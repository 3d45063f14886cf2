import TeensyI2C.Master.Effects

/-!
What each part of the driver does to the port while the hardware moves it as well.
-/

namespace TeensyI2C
open ObjectMemory Interference MasterPort

namespace Master
variable {O : Type} [Inhabited O]

/-- From `s` to `t` the driver has made no other changes to the port than those of `W`. -/
abbrev Drives (W : (MasterPort → MasterPort) → Prop) (s t : Master O) : Prop :=
  Driven MasterPort.apply W s.port t.port

variable {s : Master O} {msr : Msr}

theorem pass_stable {P : MasterPort → Prop} (stable : Stable MasterPort.apply P) (h : P s.port) :
    P s.pass.port :=
  stable.pass h

theorem drives_pass (W : (MasterPort → MasterPort) → Prop) (s : Master O) : Drives W s s.pass :=
  Driven.refl.pass

theorem drives_access {W : (MasterPort → MasterPort) → Prop} {f : MasterPort → MasterPort}
    (allowed : W f) : Drives W s (s.access f) :=
  Driven.refl.access allowed

theorem drives_dropCommands (s : Master O) :
    Drives (· ∈ [setTdie false, resetTxFifo, resetRxFifo]) s s.dropCommands :=
  ((Driven.refl.access (by simp)).access (by simp)).access (by simp)

theorem txFifo_dropCommands (s : Master O) : s.dropCommands.port.txFifo.length ≤ 0 := by
  have reset : ((s.access (setTdie false)).access resetTxFifo).port.txFifo.length ≤ 0 :=
    Nat.le_refl 0
  exact (stable_txFifo 0).access (f := resetRxFifo) (fun _ h => h) reset

theorem drives_abort (s : Master O) :
    Drives (· ∈ [setTdie false, resetTxFifo, resetRxFifo, send .stop])
      s s.abortTransactionAsync := by
  have dropped : Drives (· ∈ [setTdie false, resetTxFifo, resetRxFifo, send .stop]) s
      s.dropCommands := (drives_dropCommands s).mono fun _ member =>
    List.mem_append_left [send .stop] member
  unfold abortTransactionAsync
  dsimp only
  split
  · exact dropped.pass.access (by simp)
  · exact dropped.pass

theorem drives_recordNdf (msr : Msr) (s : Master O) :
    Drives (· ∈ [clearNdf]) s (s.recordNdf msr) := by
  unfold recordNdf
  split
  · exact drives_access (by simp)
  · exact .refl

theorem drives_recordOthers (msr : Msr) (s : Master O) :
    Drives (· ∈ [clearAlf, clearFef, clearPltf]) s
      (((s.recordAlf msr).recordFef msr).recordPltf msr) := by
  have alf (s : Master O) : Drives (· ∈ [clearAlf, clearFef, clearPltf]) s (s.recordAlf msr) := by
    unfold recordAlf
    split
    · exact drives_access (by simp)
    · exact .refl
  have fef (s : Master O) : Drives (· ∈ [clearAlf, clearFef, clearPltf]) s (s.recordFef msr) := by
    unfold recordFef
    dsimp only
    split
    · split <;> exact drives_access (by simp)
    · exact .refl
  have pltf (s : Master O) : Drives (· ∈ [clearAlf, clearFef, clearPltf]) s (s.recordPltf msr) := by
    unfold recordPltf
    split
    · exact drives_access (by simp)
    · exact .refl
  exact ((alf s).trans (fef _)).trans (pltf _)

theorem drives_recordErrors (msr : Msr) (s : Master O) :
    Drives (· ∈ [clearNdf, clearAlf, clearFef, clearPltf]) s (s.recordErrors msr) := by
  have first := (drives_recordNdf msr s).mono fun _ member =>
    List.mem_append_left [clearAlf, clearFef, clearPltf] member
  have others := (drives_recordOthers msr (s.recordNdf msr)).mono fun _ member =>
    List.mem_append_right [clearNdf] member
  exact first.trans others

theorem drives_serveStop (msr : Msr) (s : Master O) :
    Drives (· ∈ [setTdie false, clearSdf]) s (s.serveStop msr) := by
  unfold serveStop
  split
  · exact (Driven.refl.access (by simp)).access (by simp)
  · exact .refl

theorem received_serveStop (msr : Msr) (waiting : s.port.rxFifo ≠ []) :
    (s.serveStop msr).port.rxFifo ≠ [] := by
  refine (drives_serveStop msr s).keeps stable_received (fun f listed p some => ?_) waiting
  simp only [List.mem_cons, List.not_mem_nil, or_false] at listed
  rcases listed with rfl | rfl <;> exact some

theorem drives_finishReading (s : Master O) : Drives (· ∈ [setMen false]) s s.finishReading := by
  unfold finishReading
  split
  · exact Driven.refl.pass.access (by simp)
  · exact .refl

/-- Writes that put a data byte into the transmit FIFO. -/
def SendsData (f : MasterPort → MasterPort) : Prop := ∃ data, f = send (.transmit data)

theorem drives_fill (fifoSpace : Nat) (s : Master O) : Drives SendsData s (s.fill fifoSpace) := by
  induction fifoSpace generalizing s with
  | zero => exact .refl
  | succ fifoSpace ih =>
      unfold fill
      split
      · have sent : Drives SendsData s s.transmitNext := Driven.refl.access ⟨_, rfl⟩
        exact sent.trans (ih _)
      · exact .refl

theorem drives_finishWriting (s : Master O) :
    Drives (· ∈ [setTdie false, setMen false, send .stop]) s s.finishWriting := by
  unfold finishWriting
  dsimp only
  split
  · split
    · split
      · exact (((Driven.refl.pass.access (by simp)).access (by simp)).access (by simp))
      · exact (Driven.refl.pass.access (by simp)).access (by simp)
    · exact Driven.refl.pass
  · exact .refl

variable [DecidableEq O]

theorem drives_takeByte (s : Master O) :
    Drives (· ∈ [takeReceived, resetRxFifo]) s s.takeByte := by
  unfold takeByte
  split
  · unfold storeReceived
    dsimp only
    have taken : Drives (· ∈ [takeReceived, resetRxFifo]) s
        { s.pass with bus.device := s.pass.port.takeReceived } :=
      Driven.refl.pass.write (f := takeReceived) (by simp)
    split <;> exact taken
  · exact drives_access (by simp)

/-! ### Register writes in general

No call but `begin` and `end` touches the bus or the interrupts that `begin` has enabled, and the
hardware keeps its own account of what has happened on the bus.
-/

/-- A register write that is not a reset. -/
structure Ordinary (f : MasterPort → MasterPort) : Prop where
  mbf (p : MasterPort) : (f p).mbf = p.mbf
  executing (p : MasterPort) : (f p).executing = p.executing
  irqEnabled (p : MasterPort) : (f p).irqEnabled = p.irqEnabled
  mier (p : MasterPort) : { (f p).mier with tdie := true } = { p.mier with tdie := true }
  stopSeen (p : MasterPort) : (f p).stopSeen = p.stopSeen

/-- The writes that the driver makes, but for those that put commands into the FIFO and the one
that clears all flags. -/
def registerWrites : List (MasterPort → MasterPort) :=
  [setTdie false, setTdie true, resetTxFifo, resetRxFifo, takeReceived, setMen false, setMen true,
    clearNdf, clearAlf, clearFef, clearPltf, clearSdf]

theorem ordinary_of_mem {f : MasterPort → MasterPort} (h : f ∈ registerWrites) : Ordinary f := by
  simp only [registerWrites, List.mem_cons, List.not_mem_nil, or_false] at h
  rcases h with rfl | rfl | rfl | rfl | rfl | rfl | rfl | rfl | rfl | rfl | rfl | rfl <;>
    exact ⟨fun _ => rfl, fun _ => rfl, fun _ => rfl, fun _ => rfl, fun _ => rfl⟩

theorem ordinary_send (command : Command) : Ordinary (send command) :=
  ⟨fun _ => rfl, fun _ => rfl, fun _ => rfl, fun _ => rfl, fun _ => rfl⟩

theorem ordinary_clearFlags (msr : Msr) : Ordinary (clearFlags msr) :=
  ⟨fun _ => rfl, fun _ => rfl, fun _ => rfl, fun _ => rfl, fun _ => rfl⟩

/-- The writes of the first half of the ISR. -/
abbrev EndingWrites (f : MasterPort → MasterPort) : Prop := f ∈ send .stop :: registerWrites

omit [DecidableEq O] in
theorem Drives.known {t : Master O} {fs : List (MasterPort → MasterPort)}
    (h : Drives (· ∈ fs) s t) (known : fs ⊆ send .stop :: registerWrites) :
    Drives EndingWrites s t :=
  h.mono fun _ member => known member

theorem ordinary_of_ending {f : MasterPort → MasterPort} (h : EndingWrites f) : Ordinary f := by
  rcases List.mem_cons.mp h with rfl | listed
  · exact ordinary_send .stop
  · exact ordinary_of_mem listed

omit [DecidableEq O] in
theorem Drives.ordinary {t : Master O} {fs : List (MasterPort → MasterPort)}
    (h : Drives (· ∈ fs) s t) (known : fs ⊆ send .stop :: registerWrites) :
    Drives Ordinary s t :=
  (Drives.known h known).mono fun _ => ordinary_of_ending

omit [DecidableEq O] in
theorem ordinary_abort (s : Master O) : Drives Ordinary s s.abortTransactionAsync :=
  (drives_abort s).ordinary (by simp [registerWrites])

omit [DecidableEq O] in
theorem ending_serveErrors (msr : Msr) (s : Master O) :
    Drives EndingWrites s (s.serveErrors msr) := by
  unfold serveErrors
  dsimp only
  have recorded : Drives EndingWrites s (s.recordErrors msr) :=
    Drives.known (drives_recordErrors msr s) (by simp [registerWrites])
  have aborted (t : Master O) : Drives EndingWrites t t.abortTransactionAsync :=
    Drives.known (drives_abort t) (by simp [registerWrites])
  split
  · split
    · exact recorded.trans (aborted { s.recordErrors msr with state := .stopping })
    · exact recorded
  · exact .refl

omit [DecidableEq O] in
theorem drives_serveErrors (msr : Msr) (s : Master O) : Drives Ordinary s (s.serveErrors msr) :=
  (ending_serveErrors msr s).mono fun _ => ordinary_of_ending

omit [DecidableEq O] in
theorem port_beginTransfer (s : Master O) : s.beginTransfer.port = s.port := by
  unfold beginTransfer
  split <;> rfl

theorem drives_serveReceive (msr : Msr) (s : Master O) :
    Drives Ordinary s (s.serveReceive msr) := by
  unfold serveReceive
  split
  · split
    · have taken := (drives_takeByte s.beginTransfer).ordinary (by simp [registerWrites])
      have finished := (drives_finishReading s.beginTransfer.takeByte).ordinary
        (by simp [registerWrites])
      rw [Drives, ← port_beginTransfer s]
      exact taken.trans finished
    · exact ordinary_abort { s with state := .stopping }
  · exact .refl

omit [DecidableEq O] in
theorem drives_refill (s : Master O) : Drives SendsData s s.refill :=
  (drives_pass SendsData s).trans (drives_fill _ s.pass)

omit [DecidableEq O] in
theorem drives_serveTransmit (msr : Msr) (s : Master O) :
    Drives Ordinary s (s.serveTransmit msr) := by
  unfold serveTransmit transferOut
  split
  · rw [Drives, ← port_beginTransfer s]
    split
    · have sent : Drives Ordinary s.beginTransfer s.beginTransfer.refill :=
        (drives_refill _).mono fun _ ⟨data, h⟩ => h ▸ ordinary_send (.transmit data)
      exact sent.trans ((drives_finishWriting _).ordinary (by simp [registerWrites]))
    · exact .refl
  · exact .refl

theorem drives_isr (s : Master O) : Drives Ordinary s s.isr :=
  (drives_pass Ordinary s).trans <|
    (drives_serveErrors _ _).trans <|
      ((drives_serveStop _ _).ordinary (by simp [registerWrites])).trans <|
        (drives_serveReceive _ _).trans (drives_serveTransmit _ _)

/-- What a call writes. -/
def CallWrites (f : MasterPort → MasterPort) : Prop := Ordinary f ∨ f = expectStart

theorem callWrites_send (command : Command) : CallWrites (send command) :=
  .inl (ordinary_send command)

omit [DecidableEq O] in
theorem drives_sendStart (s : Master O) (address direction : UInt8) :
    Drives CallWrites s (s.sendStart address direction) := by
  let expecting : Master O := { s with bus.device := s.port.expectStart }
  have expected : Drives CallWrites s expecting := Driven.refl.write (f := expectStart) (.inr rfl)
  have cleared : Drives CallWrites s expecting.clearAllMsrFlags :=
    expected.pass.access (.inl (ordinary_clearFlags _))
  have enabled : Drives CallWrites s (expecting.clearAllMsrFlags.access (setMen true)) :=
    cleared.access (.inl (ordinary_of_mem (by simp [registerWrites])))
  exact enabled.access (callWrites_send _)

omit [DecidableEq O] in
theorem drives_start (s : Master O) (address direction : UInt8) :
    Drives CallWrites s (s.start address direction).1 := by
  have aborted (s : Master O) : Drives CallWrites s s.abortTransactionAsync :=
    (ordinary_abort s).mono fun _ => Or.inl
  unfold start startTransaction
  dsimp only
  split
  · exact (drives_pass CallWrites s).trans (aborted s.pass)
  · have looked : Drives CallWrites s (s.pass.prepare direction).pass.pass :=
      (drives_pass CallWrites s).pass.pass
    split
    · exact looked.trans (aborted
        { (s.pass.prepare direction).pass.pass with error := .masterFifosNotEmpty })
    · exact looked.trans (drives_sendStart _ _ _)

omit [DecidableEq O] in
theorem drives_writeAsync (s : Master O) (address : UInt8) (buffer : Pointer O) (numBytes : Nat)
    (sendStop : Bool) : Drives CallWrites s (s.writeAsync address buffer numBytes sendStop) := by
  have started := drives_start { s with calls := s.calls + 1 } address masterWrite
  unfold writeAsync
  dsimp only
  split
  · exact started
  · split
    · exact started.access (callWrites_send .stop)
    · exact started.access (f := setTdie true)
        (.inl (ordinary_of_mem (by simp [registerWrites])))

omit [DecidableEq O] in
theorem drives_readAsync (s : Master O) (address : UInt8) (buffer : Pointer O) (numBytes : Nat)
    (sendStop : Bool) : Drives CallWrites s (s.readAsync address buffer numBytes sendStop) := by
  have started := drives_start { s with calls := s.calls + 1 } address masterRead
  unfold readAsync
  dsimp only
  split
  · exact .refl
  · split
    · exact started
    · split
      · exact started.access (callWrites_send .stop)
      · have asked := started.access (callWrites_send (.receive (UInt8.ofNat (numBytes - 1))))
        split
        · exact asked.access (callWrites_send .stop)
        · exact asked

theorem drives_step {a : Step O} (W : (MasterPort → MasterPort) → Prop)
    (between : a.action.betweenCalls = true) (quiet : ¬ s.Interrupts a) :
    Drives W s (s.step a) := by
  refine step_cases (motive := Drives W s) s a ?begins ?ends ?writes ?reads ?interrupts ?masked
    ?moves
  case interrupts => exact fun interrupts => absurd interrupts quiet
  case masked => exact fun _ _ => .refl
  case moves => exact fun e _ => Driven.refl.move e
  case begins => exact fun _ kind => by simp [kind, Action.betweenCalls] at between
  case ends => exact fun kind => by simp [kind, Action.betweenCalls] at between
  case writes => exact fun _ _ _ _ kind => by simp [kind, Action.betweenCalls] at between
  case reads => exact fun _ _ _ _ kind => by simp [kind, Action.betweenCalls] at between

end Master
end TeensyI2C
