import TeensyI2C.Slave.Relisten

/-!
Recovery from a bit error. The BEF branch overwrites the driver's state before it calls
`end_of_frame`, so the cleanup at the end of a read is skipped, and a frame whose first byte is
found together with the error of the frame before is cut short as well. Where neither happens,
nothing of an aborted frame is seen later.
-/

namespace TeensyI2C
open ObjectMemory EventMachine

namespace Slave
open BusPhase
variable {O σ : Type} [Inhabited O] [DecidableEq O]

/-- A bit error strikes before the slave has been asked for a byte past the end of its transmit
buffer, or is reported with the end of its frame and with no byte of another. -/
def BitErrorHarmless (s : Slave O σ) (h : SlaveStatus) : Prop :=
  h.bef = true →
    if h.frameEnded then h.hasData = false
    else s.trailingByteSent = false ∧
      (h.tdf = true → s.state = .transmitting → s.txBuffer.initialised = true →
        s.txBuffer.hasDataAvailable = true)

instance (s : Slave O σ) (h : SlaveStatus) : Decidable (BitErrorHarmless s h) := by
  unfold BitErrorHarmless
  infer_instance

/-- What is true of the driver in each phase of the bus. -/
def Orderly (s : Slave O σ) : BusPhase → Prop
  | .quiet _ => s.state = .idle ∧ s.trailingByteSent = false
  | .writing =>
      (s.state = .receiving ∨ s.state = .idle) ∧ s.trailingByteSent = false
  | .reading => s.state = .transmitting

variable {s : Slave O σ}

omit [DecidableEq O] in
theorem orderly_endOfFrame {p : BusPhase} (h : s.Orderly p) :
    s.endOfFrame.state = .idle ∧ s.endOfFrame.trailingByteSent = false := by
  refine ⟨rfl, ?_⟩
  have tidy : s.state = .transmitting ∨ s.trailingByteSent = false := by
    cases p with
    | quiet addressed => exact .inr h.2
    | writing => exact .inr h.2
    | reading => exact .inl h
  unfold endOfFrame
  cases hs : s.state with
  | transmitting =>
      cases s.afterTransmitCallback with
      | none => rfl
      | some callback =>
          simp only
          rw [invoke_eq]
          rfl
  | receiving =>
      have clear := tidy.resolve_left (by simp [hs])
      cases s.afterReceiveCallback with
      | none => exact clear
      | some callback =>
          simp only
          rw [invoke_eq]
          exact clear
  | idle => exact tidy.resolve_left (by simp [hs])
  | aborted => exact tidy.resolve_left (by simp [hs])

omit [DecidableEq O] in
theorem orderly_serveEnd {p : BusPhase} (h : s.Orderly p) {status : SlaveStatus}
    (ended : status.frameEnded = true) :
    (serveEnd status s).state = .idle ∧ (serveEnd status s).trailingByteSent = false := by
  have stop : (status.rsf || status.sdf) = true := ended
  simp only [serveEnd, stop, if_true]
  exact orderly_endOfFrame h

omit [DecidableEq O] in
theorem orderly_serveAddress {p : BusPhase} (h : s.Orderly p) (status : SlaveStatus) :
    (s.serveAddress status).Orderly p := by
  obtain ⟨_, same⟩ := serveAddress_eq s status
  rw [same]
  cases p <;> exact h

theorem orderly_receiveData (srdr : Srdr) (state : s.state = .receiving ∨ s.state = .idle)
    (clear : s.trailingByteSent = false) : (s.receiveData srdr).Orderly .writing := by
  unfold receiveData startReceiving storeReceived Orderly
  grind

omit [DecidableEq O] in
theorem answerRequest_first_trailing :
    (s.answerRequest true).trailingByteSent = s.trailingByteSent := by
  unfold answerRequest
  cases buffer : s.txBuffer.initialised with
  | false => rfl
  | true =>
      have available : s.txBuffer.reset.hasDataAvailable = true :=
        decide_eq_true (show 0 < s.txBuffer.size from of_decide_eq_true buffer)
      simp [available, sendNext]

omit [DecidableEq O] in
theorem startTransmitting_orderly : s.startTransmitting.state = .transmitting ∧
    s.startTransmitting.trailingByteSent = s.trailingByteSent := by
  cases callback : s.beforeTransmitCallback with
  | none =>
      rw [startTransmitting_none callback]
      exact ⟨rfl, rfl⟩
  | some callback' =>
      rw [startTransmitting_some callback, invoke_eq]
      exact ⟨rfl, rfl⟩

omit [DecidableEq O] in
theorem transmitData_first (idle : s.state = .idle) (clear : s.trailingByteSent = false) :
    s.transmitData.state = .transmitting ∧ s.transmitData.trailingByteSent = false := by
  have start : decide (SlaveState.idle.code ≤ s.state.code) = true := by rw [idle]; decide
  have started := startTransmitting_orderly (s := s)
  unfold transmitData
  simp only [start, if_true]
  rw [answerRequest_state, answerRequest_first_trailing]
  exact ⟨started.1, started.2.trans clear⟩

omit [DecidableEq O] in
theorem transmitData_later (busy : s.state = .transmitting) :
    s.transmitData.state = .transmitting ∧
      ((s.txBuffer.initialised = true → s.txBuffer.hasDataAvailable = true) →
        s.transmitData.trailingByteSent = s.trailingByteSent) := by
  have inside : decide (SlaveState.idle.code ≤ s.state.code) = false := by rw [busy]; decide
  unfold transmitData
  simp only [inside, Bool.false_eq_true, if_false]
  refine ⟨(answerRequest_state _ _).trans busy, fun available => ?_⟩
  unfold answerRequest
  cases buffer : s.txBuffer.initialised with
  | false => rfl
  | true => simp [available buffer, sendNext]

theorem orderly_enter (idle : s.state = .idle) (clear : s.trailingByteSent = false)
    {status : SlaveStatus} {addressed : Bool} {q : BusPhase}
    (legal : BusPhase.enter addressed status = some q) :
    (serveTransmit status (serveReceive status s)).Orderly q ∧
      (serveTransmit status (serveReceive status s)).trailingByteSent = false := by
  unfold BusPhase.enter at legal
  unfold serveTransmit serveReceive
  cases hr : status.rdf <;> cases ht : status.tdf <;>
    simp only [hr, ht, Bool.false_eq_true, if_false, if_true, reduceCtorEq] at legal ⊢
  · obtain rfl := Option.some.inj legal
    exact ⟨⟨idle, clear⟩, clear⟩
  · split at legal
    · obtain rfl := Option.some.inj legal
      exact transmitData_first idle clear
    · cases legal
  · split at legal
    · obtain rfl := Option.some.inj legal
      have received := orderly_receiveData status.srdr (.inr idle) clear
      exact ⟨received, received.2⟩
    · cases legal

omit [DecidableEq O] in
/-- A bit error ends whatever frame is under way; it does not touch the trailing byte. -/
theorem serveBitError_fields (status : SlaveStatus) :
    (serveBitError status s).trailingByteSent = s.trailingByteSent ∧
      (status.bef = true → (serveBitError status s).state = .idle) ∧
      (status.bef = false → serveBitError status s = s) := by
  unfold serveBitError
  cases status.bef with
  | false => exact ⟨rfl, by simp, fun _ => rfl⟩
  | true => exact ⟨rfl, fun _ => rfl, by simp⟩

theorem orderly_continueWriting (h : s.Orderly .writing) {status : SlaveStatus} {r : BusPhase}
    (served : continueWriting status = some r) :
    (serveTransmit status (serveReceive status s)).Orderly r ∧
      (serveTransmit status (serveReceive status s)).trailingByteSent = false := by
  unfold continueWriting at served
  split at served
  · cases served
  · next flags =>
    obtain rfl := Option.some.inj served
    simp only [Bool.or_eq_true, not_or, Bool.not_eq_true] at flags
    unfold serveTransmit serveReceive
    simp only [flags.1.2, Bool.false_eq_true, if_false]
    split
    · have received := orderly_receiveData status.srdr h.1 h.2
      exact ⟨received, received.2⟩
    · exact ⟨h, h.2⟩

theorem orderly_continueReading (h : s.Orderly .reading) {status : SlaveStatus} {r : BusPhase}
    (served : continueReading status = some r) :
    (serveTransmit status (serveReceive status s)).Orderly r ∧
      ((status.tdf = true → s.txBuffer.initialised = true → s.txBuffer.hasDataAvailable = true) →
        (serveTransmit status (serveReceive status s)).trailingByteSent = s.trailingByteSent) := by
  unfold continueReading at served
  split at served
  · cases served
  · next flags =>
    obtain rfl := Option.some.inj served
    simp only [Bool.or_eq_true, not_or, Bool.not_eq_true] at flags
    unfold serveTransmit serveReceive
    simp only [flags.2, Bool.false_eq_true, if_false]
    cases tdf : status.tdf with
    | false => exact ⟨h, fun _ => rfl⟩
    | true =>
        have later := transmitData_later (s := s) h
        exact ⟨later.1, fun available => later.2 (available rfl)⟩

theorem orderly_data {p r : BusPhase} (h : s.Orderly p) {status : SlaveStatus}
    (served : p.serve status = some r) (harmless : s.BitErrorHarmless status) :
    let t := serveTransmit status (serveReceive status (serveEnd status (s.serveAddress status)))
    t.Orderly r ∧ (status.bef = true → status.frameEnded = false → t.trailingByteSent = false) := by
  have named := orderly_serveAddress h status
  cases ended : status.frameEnded with
  | true =>
      have idle := orderly_serveEnd named ended
      obtain ⟨addressed, entered⟩ : ∃ addressed, enter addressed status = some r := by
        cases p with
        | quiet addressed => exact ⟨addressed, served⟩
        | writing | reading => exact ⟨false, by simpa [BusPhase.serve, ended] using served⟩
      exact ⟨(orderly_enter idle.1 idle.2 entered).1, by simp⟩
  | false =>
      have running : (status.rsf || status.sdf) = false := ended
      have skip : serveEnd status (s.serveAddress status) = s.serveAddress status := by
        simp [serveEnd, running]
      rw [skip]
      cases p with
      | quiet addressed =>
          have entered := orderly_enter named.1 named.2 served
          exact ⟨entered.1, fun _ _ => entered.2⟩
      | writing =>
          have goesOn := orderly_continueWriting named
            (by simpa [BusPhase.serve, ended] using served)
          exact ⟨goesOn.1, fun _ _ => goesOn.2⟩
      | reading =>
          have goesOn := orderly_continueReading named
            (by simpa [BusPhase.serve, ended] using served)
          refine ⟨goesOn.1, fun bef _ => ?_⟩
          have struck := harmless bef
          simp only [ended, Bool.false_eq_true, if_false] at struck
          obtain ⟨_, same⟩ := serveAddress_eq s status
          have kept : (s.serveAddress status).trailingByteSent = s.trailingByteSent ∧
              (s.serveAddress status).txBuffer = s.txBuffer := by
            rw [same]
            exact ⟨rfl, rfl⟩
          refine (goesOn.2 fun tdf buffer => ?_).trans (kept.1.trans struck.1)
          rw [kept.2] at buffer ⊢
          exact struck.2 tdf h buffer

theorem orderly_isr {p q : BusPhase} (h : s.Orderly p) {status : SlaveStatus}
    (legal : p.next status = some q) (harmless : s.BitErrorHarmless status) :
    (s.isr status).Orderly q := by
  obtain ⟨r, served, last⟩ := next_cases legal
  have data := orderly_data h served harmless
  obtain ⟨keeps, idles, skips⟩ := serveBitError_fields (s := serveTransmit status
    (serveReceive status (serveEnd status (s.serveAddress status)))) status
  unfold Slave.isr
  dsimp only
  cases bef : status.bef with
  | false =>
      rw [skips bef]
      simp only [bef, Bool.false_and, Bool.false_eq_true, if_false, Option.some.injEq] at last
      exact last ▸ data.1
  | true =>
      cases ended : status.frameEnded with
      | false =>
          simp only [bef, ended, Bool.not_false, Bool.and_self, if_true, Option.some.injEq] at last
          rw [← last]
          exact ⟨idles bef, keeps.trans (data.2 bef ended)⟩
      | true =>
          have noData := harmless bef
          simp only [ended, if_true] at noData
          have quiet : ∃ addressed, r = .quiet addressed := by
            have flags : status.rdf = false ∧ status.tdf = false := by
              simpa [SlaveStatus.hasData] using noData
            cases p <;> simp [BusPhase.serve, ended, enter, flags.1, flags.2] at served <;>
              exact ⟨_, served.symm⟩
          obtain ⟨addressed, rfl⟩ := quiet
          simp only [bef, ended, Bool.not_true, Bool.and_false, Bool.false_eq_true, if_false,
            Option.some.injEq] at last
          rw [← last]
          exact ⟨idles bef, keeps.trans data.1.2⟩

theorem orderly_run {p q : BusPhase} (h : s.Orderly p) {calls : List SlaveStatus}
    (legal : phaseAfter BusPhase.next p calls = some q)
    (harmless : Along isr BitErrorHarmless s calls) : (run isr s calls).Orderly q := by
  induction calls generalizing s p with
  | nil => exact Option.some.inj legal ▸ h
  | cons status calls ih =>
      obtain ⟨r, first, rest⟩ := Option.bind_eq_some_iff.mp legal
      exact ih (orderly_isr h first harmless.1) rest harmless.2

/-- The slave as it stood before a frame, with the buffers, callbacks and memory that the frame
left behind. An address that the port has reported for the next frame has been read. -/
def neverSaw (before after : Slave O σ) (addressed : Bool) : Slave O σ :=
  { before.equip after.equipment with
    addressCalled := if addressed then after.addressCalled else before.addressCalled
    trace := [] }

omit [DecidableEq O] in
theorem alike_neverSaw {before after : Slave O σ} {a b : Bool} (h : before.Orderly (quiet a))
    (h' : after.Orderly (quiet b)) :
    Alike { address := b } { after with trace := [] } (neverSaw before after b) where
  state := h'.1.trans h.1.symm
  trailing := h'.2.trans h.2.symm
  afterReceive := rfl
  beforeTransmit := rfl
  afterTransmit := rfl
  app := rfl
  memory := rfl
  trace := rfl
  receiveWindow := ⟨rfl, rfl⟩
  transmitWindow := ⟨rfl, rfl⟩
  receiving := fun busy => absurd (h'.1.symm.trans busy) (by simp)
  address := by
    intro addressed
    simp only at addressed
    simp [neverSaw, addressed]
  error := by simp
  receive := by simp
  transmit := by simp

/-- Later frames find the slave as if it had never seen what led from `before` to `after`. -/
def Forgets (before after : Slave O σ) (addressed : Bool) : Prop :=
  ∀ later, (phaseAfter BusPhase.next (quiet addressed) later).isSome →
    (∀ h ∈ later.head?, h.hasData = true) →
      observe isr observed { after with trace := [] } later =
        observe isr observed (neverSaw before after addressed) later

theorem forgets_of_orderly {before after : Slave O σ} {a b : Bool}
    (h : before.Orderly (quiet a)) (h' : after.Orderly (quiet b)) : Forgets before after b := by
  intro later legal opens
  cases later with
  | nil => rfl
  | cons status rest =>
      obtain ⟨q, accepted⟩ := Option.isSome_iff_exists.mp legal
      obtain ⟨r, first, remaining⟩ := Option.bind_eq_some_iff.mp accepted
      have step := (alike_neverSaw h h').open h'.1 (fun addressed => addressed)
        (.inr (opens status rfl)) first
      simp only [observe, step.observed_eq, step.observe_eq remaining]

/-- A frame is cut short by a bit error, at any point and whatever else is reported with it. If
the slave was between frames with no trailing byte outstanding and no bit error does harm, later
frames find it as if it had never seen that frame, and it is between frames again. -/
theorem bit_error_recovery (s : Slave O σ) (frame : List SlaveStatus) {a b : Bool}
    (idle : s.state = .idle) (noTrailing : s.trailingByteSent = false)
    (cut : phaseAfter BusPhase.next (quiet a) frame = some (quiet b))
    (harmless : Along isr BitErrorHarmless s frame) :
    let after := run isr s frame
    (after.state = .idle ∧ after.trailingByteSent = false) ∧
      ∀ later, (phaseAfter BusPhase.next (quiet b) later).isSome →
        (∀ h ∈ later.head?, h.hasData = true) →
          observe isr observed { after with trace := [] } later =
            observe isr observed (neverSaw s after b) later := by
  have before : s.Orderly (quiet a) := ⟨idle, noTrailing⟩
  have after := orderly_run before cut harmless
  exact ⟨after, forgets_of_orderly before after⟩

/-- The same for complete frames, however late their ends are reported. -/
theorem bit_error_recovery_frames {before after : Slave O σ} (forgets : Forgets before after false)
    (frames : List Frame) :
    observe isr observed { after with trace := [] } (Frame.calls frames) =
      observe isr observed (neverSaw before after false) (Frame.calls frames) :=
  forgets _ (by rw [Frame.phaseAfter_calls]; rfl) (Frame.hasData_of_head_calls frames)

/-! ### The harm that a bit error does inside a frame -/

omit [DecidableEq O] in
theorem transmitData_trailing (busy : s.state = .transmitting)
    (past : s.trailingByteSent = true ∨
      s.txBuffer.initialised = true ∧ s.txBuffer.hasDataAvailable = false) :
    s.transmitData.trailingByteSent = true := by
  have inside : decide (SlaveState.idle.code ≤ s.state.code) = false := by rw [busy]; decide
  unfold transmitData
  simp only [inside, Bool.false_eq_true, if_false]
  unfold answerRequest sendNext emit
  grind

/-- Where the condition fails, the driver ends up idle with a trailing byte outstanding. -/
theorem trailing_of_harmful {p q : BusPhase} (h : s.Orderly p) {status : SlaveStatus}
    (legal : p.next status = some q) (bef : status.bef = true)
    (running : status.frameEnded = false) (harmful : ¬ s.BitErrorHarmless status) :
    (s.isr status).state = .idle ∧ (s.isr status).trailingByteSent = true := by
  have past : s.trailingByteSent = true ∨ status.tdf = true ∧ s.state = .transmitting ∧
      s.txBuffer.initialised = true ∧ s.txBuffer.hasDataAvailable = false := by
    simp only [BitErrorHarmless, bef, running, Bool.false_eq_true, if_false,
      true_imp_iff] at harmful
    grind
  have reading : p = .reading := by
    cases p with
    | reading => rfl
    | quiet addressed =>
        have := h.1
        have := h.2
        grind [Orderly]
    | writing =>
        have := h.1
        have := h.2
        grind [Orderly]
  subst reading
  obtain ⟨r, served, _⟩ := next_cases legal
  have flags : status.rdf = false := by
    simp only [BusPhase.serve, running, Bool.false_eq_true, if_false, continueReading] at served
    grind
  obtain ⟨keeps, idles, _⟩ := serveBitError_fields (s := serveTransmit status
    (serveReceive status (serveEnd status (s.serveAddress status)))) status
  refine ⟨idles bef, keeps.trans ?_⟩
  have skip : (status.rsf || status.sdf) = false := running
  obtain ⟨address, same⟩ := serveAddress_eq s status
  rw [same, serveEnd, skip, serveReceive, flags, serveTransmit]
  simp only [Bool.false_eq_true, if_false]
  split
  · refine transmitData_trailing h ?_
    exact past.imp id fun here => here.2.2
  · exact past.resolve_right (by simp [*])

/-- An outstanding trailing byte shows in the next read of one byte. -/
theorem not_forgets_of_trailing {before after : Slave O σ} (idle : before.state = .idle)
    (noTrailing : before.trailingByteSent = false) (idle' : after.state = .idle)
    (trailing : after.trailingByteSent = true) : ∃ e, ¬ Forgets before (after.equip e) false := by
  refine ⟨{ after.equipment with transmitSize := 1, beforeTransmit := none }, ?_⟩
  intro forgets
  have same := forgets [{ avf := true, tdf := true }, { tdf := true }] rfl
    (by simp [SlaveStatus.hasData])
  simp [observe, observed, neverSaw, equip, equipment, isr, serveAddress, serveEnd, serveReceive,
    serveTransmit, serveBitError, transmitData, idle, idle', noTrailing, trailing,
    SlaveState.code, answerRequest, I2CBuffer.initialised, emit, startTransmitting,
    I2CBuffer.reset, I2CBuffer.hasDataAvailable, I2CBuffer.advance, sendNext] at same

/-- A bit error strikes inside a frame. Whatever the slave is equipped with then, later frames find
it as if it had never seen the frame exactly when the error does no harm. -/
theorem forgets_iff {data : List SlaveStatus} {status : SlaveStatus} {a : Bool} {p q : BusPhase}
    (idle : s.state = .idle) (noTrailing : s.trailingByteSent = false)
    (heard : phaseAfter BusPhase.next (quiet a) data = some p)
    (unstruck : Along isr BitErrorHarmless s data) (legal : p.next status = some q)
    (bef : status.bef = true) (running : status.frameEnded = false) :
    (∀ e, Forgets s ((run isr s (data ++ [status])).equip e) false) ↔
      (run isr s data).BitErrorHarmless status := by
  have before : s.Orderly (quiet a) := ⟨idle, noTrailing⟩
  have during := orderly_run before heard unstruck
  rw [run_append]
  constructor
  · intro forgets
    by_contra harmful
    obtain ⟨idle', trailing⟩ := trailing_of_harmful during legal bef running harmful
    obtain ⟨e, remembers⟩ := not_forgets_of_trailing idle noTrailing idle' trailing
    exact remembers (forgets e)
  · intro harmless e
    have cut : q = quiet false := by
      obtain ⟨_, _, last⟩ := next_cases legal
      simpa [bef, running, eq_comm] using last
    have struck : ((run isr s data).isr status).Orderly (quiet false) :=
      cut ▸ orderly_isr during legal harmless
    exact forgets_of_orderly before ⟨struck.1, struck.2⟩

/-! ### Since the slave began to listen -/

/-- A slave that has listened through `history`, whatever the application has done to it since. -/
def listening (s : Slave O σ) (form : ListenForm) (history : List SlaveStatus)
    (e : Equipment O σ) : Slave O σ :=
  (run isr (s.reconstruct.listen form) history).equip e

theorem listening_orderly (form : ListenForm) (e : Equipment O σ) {history : List SlaveStatus}
    {p : BusPhase} (heard : phaseAfter BusPhase.next (quiet false) history = some p)
    (harmless : Along isr BitErrorHarmless (s.reconstruct.listen form) history) :
    (s.listening form history e).Orderly p := by
  have fresh : (s.reconstruct.listen form).Orderly (quiet false) := by
    cases form <;> exact ⟨rfl, rfl⟩
  have now := orderly_run fresh heard harmless
  cases p <;> exact now

theorem bit_error_recovery_listening (s : Slave O σ) (form : ListenForm) (e : Equipment O σ)
    (history frame : List SlaveStatus) {a b : Bool}
    (heard : phaseAfter BusPhase.next (quiet false) history = some (quiet a))
    (cut : phaseAfter BusPhase.next (quiet a) frame = some (quiet b))
    (harmless : Along isr BitErrorHarmless (s.reconstruct.listen form) history ∧
      Along isr BitErrorHarmless (s.listening form history e) frame) :
    Forgets (s.listening form history e) (run isr (s.listening form history e) frame) b :=
  have before := listening_orderly form e heard harmless.1
  forgets_of_orderly before (orderly_run before cut harmless.2)

end Slave

/-! ### A bit error in the byte after the last one -/

/-- One byte to transmit; the error strikes after the port has asked for a second. -/
def oneByteSlave : Slave Bool Unit :=
  let s : Slave Bool Unit := { app := (), memory := fun _ _ => 0x11 }
  (s.setTransmitBuffer ⟨true, 0⟩ 1).listen (.listen 0x2D)

def struckFrame (position : Nat) : List SlaveStatus :=
  { avf := true, sasr := 0x5B, tdf := true } :: List.replicate position { tdf := true } ++
    [{ bef := true }]

theorem oneByteSlave_reachable : oneByteSlave.Reachable :=
  .listen (.listen 0x2D)
    (.bufferCall (.setTransmitBuffer ⟨true, 0⟩ 1) (.construct () fun _ _ => 0x11))

/-- The trailing byte of the aborted frame is still counted, so the next read, of one byte,
reports an underflow. -/
theorem bit_error_not_forgotten :
    oneByteSlave.Reachable ∧
      ¬ Slave.Forgets oneByteSlave (run Slave.isr oneByteSlave (struckFrame 1)) false := by
  refine ⟨oneByteSlave_reachable, fun forgets => ?_⟩
  exact absurd (forgets (Frame.calls [readOne]) rfl (by decide)) (by decide)

/-- An error in the first byte does no harm, whatever the slave has been through before. -/
theorem bit_error_forgotten :
    let before := run Slave.isr oneByteSlave (Frame.calls [readOne])
    let after := run Slave.isr before (struckFrame 0)
    observe Slave.isr Slave.observed { after with trace := [] } (Frame.calls [readOne]) =
      observe Slave.isr Slave.observed (Slave.neverSaw before after false)
        (Frame.calls [readOne]) :=
  (Slave.bit_error_recovery (a := false) (b := false)
    (run Slave.isr oneByteSlave (Frame.calls [readOne])) (struckFrame 0) (by decide) (by decide)
    rfl (by decide)).2 (Frame.calls [readOne]) rfl (by decide)

end TeensyI2C
