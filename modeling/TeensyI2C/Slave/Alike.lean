import TeensyI2C.Slave.Frames

/-!
Two slaves with the same buffers, callbacks and memory behave alike on every legal sequence of
status words, although their cursors, error codes and last addresses may still differ when it
begins. What is known to agree grows with each flag that is served.
-/

namespace TeensyI2C
open ObjectMemory EventMachine

/-- Which parts of two slaves are known to agree. A buffer without cells has no cursor to
speak of. -/
structure Known where
  address : Bool := false
  error : Bool := false
  receive : Bool := false
  transmit : Bool := false

namespace I2CBuffer
variable {O : Type} [Inhabited O] {b b' : I2CBuffer O}

/-- The same array and, unless it is empty, the same cursor. -/
def Agrees (b b' : I2CBuffer O) : Prop := b.size = 0 ∨ b = b'

theorem SameWindow.reset_eq (h : b.SameWindow b') : b.reset = b'.reset := by
  cases b
  cases b'
  obtain ⟨rfl, rfl⟩ := h
  rfl

theorem SameWindow.initialised_eq (h : b.SameWindow b') : b.initialised = b'.initialised := by
  rw [initialised, initialised, h.2]

/-- A method that either sets this buffer or leaves it alone. -/
def Setter (put : I2CBuffer O → BufferCall O → I2CBuffer O) : Prop :=
  ∀ call, (∀ b, put b call = b) ∨ ∃ buffer size, ∀ b, put b call = b.initialise buffer size

theorem setter_receiveCall : Setter (Slave.receiveCall (O := O))
  | .setReceiveBuffer buffer size => .inr ⟨buffer, size, fun _ => rfl⟩
  | .setTransmitBuffer _ _ => .inl fun _ => rfl

theorem setter_transmitCall : Setter (Slave.transmitCall (O := O))
  | .setReceiveBuffer _ _ => .inl fun _ => rfl
  | .setTransmitBuffer buffer size => .inr ⟨buffer, size, fun _ => rfl⟩

theorem SameWindow.foldl {put : I2CBuffer O → BufferCall O → I2CBuffer O} (setter : Setter put)
    (h : b.SameWindow b') (calls : List (BufferCall O)) :
    (calls.foldl put b).SameWindow (calls.foldl put b') ∧
      (b.Agrees b' → (calls.foldl put b).Agrees (calls.foldl put b')) := by
  induction calls generalizing b b' with
  | nil => exact ⟨h, id⟩
  | cons call calls ih =>
      rcases setter call with same | ⟨buffer, size, set⟩
      · simpa only [List.foldl_cons, same] using ih h
      · simp only [List.foldl_cons, set]
        have equal : b.initialise buffer size = b'.initialise buffer size := rfl
        rw [equal]
        exact ⟨⟨rfl, rfl⟩, fun _ => .inr rfl⟩

end I2CBuffer

namespace Slave
variable {O σ : Type} [Inhabited O]

structure Alike (k : Known) (s t : Slave O σ) : Prop where
  state : s.state = t.state
  trailing : s.trailingByteSent = t.trailingByteSent
  afterReceive : s.afterReceiveCallback = t.afterReceiveCallback
  beforeTransmit : s.beforeTransmitCallback = t.beforeTransmitCallback
  afterTransmit : s.afterTransmitCallback = t.afterTransmitCallback
  app : s.app = t.app
  memory : s.memory = t.memory
  trace : s.trace = t.trace
  receiveWindow : s.rxBuffer.SameWindow t.rxBuffer
  transmitWindow : s.txBuffer.SameWindow t.txBuffer
  receiving : s.state = .receiving → s.rxBuffer = t.rxBuffer
  address : k.address = true → s.addressCalled = t.addressCalled
  error : k.error = true → s.error = t.error
  receive : k.receive = true → s.rxBuffer.Agrees t.rxBuffer
  transmit : k.transmit = true → s.txBuffer.Agrees t.txBuffer

variable {k : Known} {s t : Slave O σ}

theorem Alike.emit (h : Alike k s t) {e e' : Event O} (same : e = e') :
    Alike k (s.emit e) (t.emit e') := by
  subst same
  exact { h with trace := congrArg (· ++ [e]) h.trace }

/-- A callback does the same to both once it sees the same error code. -/
theorem Alike.invoke (h : Alike k s t) (known : k.error = true) {callback callback' : Callback O σ}
    (same : callback = callback') : Alike k (s.invoke callback) (t.invoke callback') := by
  subst same
  rw [invoke_eq, invoke_eq, ← h.error known, ← h.memory, ← h.app]
  have rx := h.receiveWindow.foldl I2CBuffer.setter_receiveCall
    (callback s.error s.memory s.app).calls
  have tx := h.transmitWindow.foldl I2CBuffer.setter_transmitCall
    (callback s.error s.memory s.app).calls
  exact {
    h with
    app := rfl
    memory := rfl
    trace := congrArg (· ++ _) h.trace
    receiveWindow := rx.1
    transmitWindow := tx.1
    receiving := fun busy => congrArg
      ((callback s.error s.memory s.app).calls.foldl receiveCall ·) (h.receiving busy)
    receive := fun hk => rx.2 (h.receive hk)
    transmit := fun hk => tx.2 (h.transmit hk)
    error := fun _ => rfl }

theorem Alike.serveAddress (h : Alike k s t) (status : SlaveStatus) :
    Alike { k with address := k.address || status.avf } (s.serveAddress status)
      (t.serveAddress status) := by
  unfold Slave.serveAddress
  cases status.avf with
  | false => simpa using h
  | true => exact { h with address := fun _ => rfl }

theorem Alike.endOfFrame (h : Alike k s t) (address : k.address = true)
    (error : k.error = true) : Alike k s.endOfFrame t.endOfFrame := by
  have state := h.state
  cases hs : s.state with
  | receiving =>
      have rx := h.receiving hs
      rw [hs] at state
      cases callback : s.afterReceiveCallback with
      | none =>
          rw [endOfFrame_receiving_none hs callback,
            endOfFrame_receiving_none state.symm (h.afterReceive ▸ callback)]
          exact { h with state := rfl, receiving := by simp }
      | some callback' =>
          rw [endOfFrame_receiving hs callback,
            endOfFrame_receiving state.symm (h.afterReceive ▸ callback)]
          have called := (h.emit (congrArg₂ Event.afterReceive (congrArg I2CBuffer.nextIndex rx)
            (h.address address))).invoke error (congrArg₂ callback'
              (congrArg I2CBuffer.nextIndex rx) (h.address address))
          exact { called with state := rfl, receiving := by simp }
  | transmitting =>
      rw [hs] at state
      have cleared : Alike k { s with trailingByteSent := false }
          { t with trailingByteSent := false } := { h with trailing := rfl }
      cases callback : s.afterTransmitCallback with
      | none =>
          rw [endOfFrame_transmitting_none hs callback,
            endOfFrame_transmitting_none state.symm (h.afterTransmit ▸ callback)]
          exact { h with trailing := rfl, state := rfl, receiving := by simp }
      | some callback' =>
          rw [endOfFrame_transmitting hs callback,
            endOfFrame_transmitting state.symm (h.afterTransmit ▸ callback)]
          have called := (cleared.emit (congrArg Event.afterTransmit (h.address address))).invoke
            error (congrArg callback' (h.address address))
          exact { called with state := rfl, receiving := by simp }
  | idle =>
      rw [hs] at state
      rw [endOfFrame_idle hs, endOfFrame_idle state.symm]
      exact h
  | aborted =>
      rw [hs] at state
      rw [endOfFrame_aborted hs, endOfFrame_aborted state.symm]
      exact { h with state := rfl, receiving := by simp }

theorem Alike.mono {k' : Known} (h : Alike k s t) (address : k'.address = true → k.address = true)
    (error : k'.error = true → k.error = true) (receive : k'.receive = true → k.receive = true)
    (transmit : k'.transmit = true → k.transmit = true) : Alike k' s t :=
  { h with
    address := fun hk => h.address (address hk)
    error := fun hk => h.error (error hk)
    receive := fun hk => h.receive (receive hk)
    transmit := fun hk => h.transmit (transmit hk) }

theorem Alike.serveBitError (h : Alike k s t) (status : SlaveStatus) :
    Alike k (Slave.serveBitError status s) (Slave.serveBitError status t) ∧
      (status.bef = true → (Slave.serveBitError status s).state = .idle) := by
  unfold Slave.serveBitError
  cases status.bef with
  | false => exact ⟨h, by simp⟩
  | true =>
      simp only [if_true]
      rw [endOfFrame_aborted rfl, endOfFrame_aborted rfl]
      exact ⟨{ h with state := rfl, receiving := by simp, error := fun _ => rfl }, fun _ => rfl⟩

variable [DecidableEq O]

omit [DecidableEq O] in
/-- The first byte of a frame makes error code and receive cursor agree. -/
theorem Alike.startReceiving (h : Alike k s t) :
    Alike { k with error := true, receive := true } s.startReceiving t.startReceiving := by
  have same := h.receiveWindow.initialised_eq
  unfold Slave.startReceiving
  dsimp only
  cases buffer : s.rxBuffer.initialised with
  | false =>
      rw [buffer] at same
      have empty : s.rxBuffer.size = 0 := by simpa [I2CBuffer.initialised] using buffer
      simp only [← same, Bool.false_eq_true, if_false]
      exact { h with error := fun _ => rfl, receive := fun _ => .inl empty }
  | true =>
      rw [buffer] at same
      have reset := h.receiveWindow.reset_eq
      simp only [← same, if_true]
      exact {
        h with
        state := rfl
        receiveWindow := h.receiveWindow
        receiving := fun _ => reset
        error := fun _ => rfl
        receive := fun _ => .inr reset }

theorem Alike.receiveByte (h : Alike k s t) (receive : k.receive = true) (data : UInt8) :
    Alike k (s.receiveData ⟨false, data⟩) (t.receiveData ⟨false, data⟩) := by
  have same := h.receiveWindow.initialised_eq
  unfold Slave.receiveData
  simp only [Bool.false_eq_true, if_false]
  cases buffer : s.rxBuffer.initialised with
  | false =>
      rw [buffer] at same
      simp only [← same, Bool.false_eq_true, if_false]
      exact { h with state := rfl, receiving := by simp, error := fun _ => rfl }
  | true =>
      have equal : s.rxBuffer = t.rxBuffer := by
        refine (h.receive receive).resolve_left ?_
        simp only [I2CBuffer.initialised, decide_eq_true_eq] at buffer
        omega
      rw [← equal, buffer]
      simp only [if_true]
      cases s.rxBuffer.full with
      | true =>
          simp only [if_true]
          exact {
            h with
            receiveWindow := ⟨rfl, rfl⟩
            receiving := fun _ => rfl
            error := fun _ => rfl
            receive := fun _ => .inr rfl }
      | false =>
          simp only [Bool.false_eq_true, if_false, storeReceived, ← equal, ← h.memory]
          exact {
            h with
            memory := rfl
            trace := congrArg (· ++ _) h.trace
            receiveWindow := ⟨rfl, rfl⟩
            receiving := fun _ => rfl
            receive := fun _ => .inr rfl }

theorem receiveData_sof (s : Slave O σ) (data : UInt8) :
    s.receiveData ⟨true, data⟩ = s.startReceiving.receiveData ⟨false, data⟩ := by
  simp only [receiveData, if_true, Bool.false_eq_true, if_false]

omit [DecidableEq O] in
theorem Alike.startTransmitting (h : Alike k s t) (address : k.address = true) :
    Alike { k with error := true } s.startTransmitting t.startTransmitting := by
  have started : Alike { k with error := true } { s with error := .ok, state := .transmitting }
      { t with error := .ok, state := .transmitting } :=
    { h with state := rfl, receiving := by simp, error := fun _ => rfl }
  cases callback : s.beforeTransmitCallback with
  | none =>
      rw [startTransmitting_none callback, startTransmitting_none (h.beforeTransmit ▸ callback)]
      exact started
  | some callback' =>
      rw [startTransmitting_some callback, startTransmitting_some (h.beforeTransmit ▸ callback)]
      exact (started.emit (congrArg Event.beforeTransmit (h.address address))).invoke rfl
        (congrArg callback' (h.address address))

omit [DecidableEq O] in
theorem Alike.answerRequest (h : Alike k s t) {startOfFrame : Bool}
    (known : startOfFrame = true ∨ k.transmit = true) :
    Alike { k with transmit := true } (s.answerRequest startOfFrame)
      (t.answerRequest startOfFrame) := by
  have same := h.transmitWindow.initialised_eq
  unfold Slave.answerRequest
  cases buffer : s.txBuffer.initialised with
  | false =>
      rw [buffer] at same
      have empty : s.txBuffer.size = 0 := by simpa [I2CBuffer.initialised] using buffer
      simp only [← same, Bool.false_eq_true, if_false]
      exact { h.emit rfl with error := fun _ => rfl, transmit := fun _ => .inl empty }
  | true =>
      rw [buffer] at same
      simp only [← same, if_true]
      have ready : ∃ b, Alike { k with transmit := true }
          { s with txBuffer := b } { t with txBuffer := b } ∧
          (if startOfFrame then { s with txBuffer := s.txBuffer.reset } else s) =
            { s with txBuffer := b } ∧
          (if startOfFrame then { t with txBuffer := t.txBuffer.reset } else t) =
            { t with txBuffer := b } := by
        cases startOfFrame with
        | true =>
            refine ⟨s.txBuffer.reset, ?_, rfl, ?_⟩
            · exact { h with transmitWindow := ⟨rfl, rfl⟩, transmit := fun _ => .inr rfl }
            · rw [h.transmitWindow.reset_eq]
              rfl
        | false =>
            have equal : s.txBuffer = t.txBuffer := by
              refine (h.transmit (known.resolve_left (by simp))).resolve_left ?_
              simp only [I2CBuffer.initialised, decide_eq_true_eq] at buffer
              omega
            refine ⟨s.txBuffer, ?_, rfl, ?_⟩
            · exact { h with transmitWindow := ⟨rfl, rfl⟩, transmit := fun _ => .inr rfl }
            · rw [equal]
              rfl
      obtain ⟨b, alike, left, right⟩ := ready
      simp only [left, right]
      cases b.hasDataAvailable with
      | true =>
          simp only [if_true, sendNext, ← h.memory]
          exact {
            alike with
            memory := rfl
            trace := congrArg (· ++ _) h.trace
            transmitWindow := ⟨rfl, rfl⟩
            transmit := fun _ => .inr rfl }
      | false =>
          simp only [Bool.false_eq_true, if_false, Slave.emit, ← h.trailing]
          have sent : Alike { k with transmit := true }
              ({ s with txBuffer := b }.emit (.stdr dummyByte))
              ({ t with txBuffer := b }.emit (.stdr dummyByte)) := alike.emit rfl
          cases s.trailingByteSent with
          | false =>
              simp only [Bool.not_false, if_true]
              exact { sent with trailing := rfl }
          | true =>
              simp only [Bool.not_true, Bool.false_eq_true, if_false]
              exact { sent with trailing := rfl, error := fun _ => rfl }

omit [DecidableEq O] in
theorem Alike.transmitData (h : Alike k s t) (address : k.address = true)
    (known : s.state = .idle ∨ k.error = true ∧ k.transmit = true) :
    Alike { k with error := true, transmit := true } s.transmitData t.transmitData := by
  unfold Slave.transmitData
  dsimp only
  rw [← h.state]
  cases start : decide (SlaveState.idle.code ≤ s.state.code) with
  | true =>
      simp only [if_true]
      exact (h.startTransmitting address).answerRequest (.inl rfl)
  | false =>
      simp only [Bool.false_eq_true, if_false]
      have inside : k.error = true ∧ k.transmit = true := by
        refine known.resolve_left fun idle => ?_
        rw [idle] at start
        cases start
      exact (h.answerRequest (.inr inside.2)).mono id (fun _ => inside.1) id id

end Slave

/-! ### Along a legal run -/

/-- What agrees in each phase of the bus, once an error code has been seen. -/
def BusPhase.known : BusPhase → Known
  | quiet addressed => { address := addressed, error := true }
  | writing => { address := true, error := true, receive := true }
  | reading => { address := true, error := true, transmit := true }

namespace Slave
variable {O σ : Type} [Inhabited O] [DecidableEq O] {k : Known} {s t : Slave O σ}
open BusPhase

/-- Alike in a phase; between frames both are idle. -/
def AlikeIn (p : BusPhase) (s t : Slave O σ) : Prop :=
  Alike p.known s t ∧ ∀ addressed, p = quiet addressed → s.state = .idle

theorem Alike.enter (h : Alike k s t) (idle : s.state = .idle) {status : SlaveStatus}
    {addressed : Bool} (address : (addressed || status.avf) = true → k.address = true)
    (error : k.error = true ∨ status.hasData = true) {q : BusPhase}
    (legal : BusPhase.enter addressed status = some q) :
    AlikeIn q (serveTransmit status (serveReceive status s))
      (serveTransmit status (serveReceive status t)) := by
  unfold BusPhase.enter at legal
  unfold serveTransmit serveReceive
  cases hr : status.rdf <;> cases ht : status.tdf <;>
    simp only [hr, ht, Bool.false_eq_true, if_false, if_true, reduceCtorEq] at legal ⊢
  · obtain rfl := Option.some.inj legal
    refine ⟨h.mono address (fun _ => ?_) (by simp [BusPhase.known]) (by simp [BusPhase.known]),
      fun _ _ => idle⟩
    exact error.resolve_right (by simp [SlaveStatus.hasData, hr, ht])
  · by_cases named : (addressed || status.avf) = true
    · rw [if_pos named] at legal
      obtain rfl := Option.some.inj legal
      refine ⟨(h.transmitData (address named) (.inl idle)).mono (fun _ => address named)
        (fun _ => rfl) (by simp [BusPhase.known]) (fun _ => rfl), by simp⟩
    · rw [if_neg named] at legal
      cases legal
  · by_cases opens : (status.srdr.sof && (addressed || status.avf)) = true
    · rw [if_pos opens] at legal
      obtain rfl := Option.some.inj legal
      obtain ⟨sof, named⟩ := Bool.and_eq_true_iff.mp opens
      obtain ⟨data, word⟩ : ∃ data, status.srdr = ⟨true, data⟩ := ⟨_, by rw [← sof]⟩
      rw [word, receiveData_sof, receiveData_sof]
      refine ⟨(h.startReceiving.receiveByte rfl data).mono (fun _ => address named)
        (fun _ => rfl) (fun _ => rfl) (by simp [BusPhase.known]), by simp⟩
    · rw [if_neg opens] at legal
      cases legal

theorem AlikeIn.continueWriting (h : AlikeIn writing s t) {status : SlaveStatus} {q : BusPhase}
    (legal : BusPhase.continueWriting status = some q) :
    AlikeIn q (serveTransmit status (serveReceive status s))
      (serveTransmit status (serveReceive status t)) := by
  unfold BusPhase.continueWriting at legal
  split at legal
  · cases legal
  · obtain rfl := Option.some.inj legal
    unfold serveTransmit serveReceive
    simp_all only [Bool.or_eq_true, Bool.and_eq_true, not_or, not_and, Bool.not_eq_true,
      Bool.false_eq_true, if_false]
    rename_i flags
    cases hr : status.rdf with
    | false => exact h
    | true =>
        obtain ⟨data, word⟩ : ∃ data, status.srdr = ⟨false, data⟩ := ⟨_, by rw [← flags.2 hr]⟩
        simp only [if_true, word]
        exact ⟨h.1.receiveByte rfl data, by simp⟩

theorem AlikeIn.continueReading (h : AlikeIn reading s t) {status : SlaveStatus} {q : BusPhase}
    (legal : BusPhase.continueReading status = some q) :
    AlikeIn q (serveTransmit status (serveReceive status s))
      (serveTransmit status (serveReceive status t)) := by
  unfold BusPhase.continueReading at legal
  split at legal
  · cases legal
  · obtain rfl := Option.some.inj legal
    unfold serveTransmit serveReceive
    simp_all only [Bool.or_eq_true, not_or, Bool.not_eq_true, Bool.false_eq_true, if_false]
    cases status.tdf with
    | false => exact h
    | true => exact ⟨h.1.transmitData rfl (.inr ⟨rfl, rfl⟩), by simp⟩

omit [DecidableEq O] in
theorem AlikeIn.bitError {p q : BusPhase} (h : AlikeIn p s t) {status : SlaveStatus}
    (legal : (if status.bef && !status.frameEnded then some (quiet false) else some p) = some q) :
    AlikeIn q (serveBitError status s) (serveBitError status t) := by
  obtain ⟨alike, idle⟩ := h
  have after := alike.serveBitError status
  split at legal
  · obtain rfl := Option.some.inj legal
    have error : p.known.error = true := by cases p <;> rfl
    have bef : status.bef = true := by simp_all
    exact ⟨after.1.mono (by simp [BusPhase.known]) (fun _ => error) (by simp [BusPhase.known])
      (by simp [BusPhase.known]), fun _ _ => after.2 bef⟩
  · obtain rfl := Option.some.inj legal
    refine ⟨after.1, fun addressed quiet => ?_⟩
    unfold serveBitError
    cases status.bef with
    | false => exact idle addressed quiet
    | true => rfl

theorem next_cases {p q : BusPhase} {status : SlaveStatus} (legal : p.next status = some q) :
    ∃ r, p.serve status = some r ∧
      (if status.bef && !status.frameEnded then some (quiet false) else some r) = some q := by
  unfold BusPhase.next at legal
  split at legal
  · obtain ⟨r, served, rfl⟩ := Option.map_eq_some_iff.mp legal
    exact ⟨r, served, if_pos ‹_›⟩
  · exact ⟨q, legal, if_neg ‹_›⟩

theorem Alike.open (h : Alike k s t) (idle : s.state = .idle) {status : SlaveStatus}
    {addressed : Bool} (address : addressed = true → k.address = true)
    (error : k.error = true ∨ status.hasData = true) {q : BusPhase}
    (legal : (quiet addressed).next status = some q) :
    AlikeIn q (s.isr status) (t.isr status) := by
  obtain ⟨r, served, last⟩ := next_cases legal
  have named := h.serveAddress status
  have idle' : (s.serveAddress status).state = .idle := by
    obtain ⟨_, same⟩ := serveAddress_eq s status
    rw [same]
    exact idle
  have ended : serveEnd status (s.serveAddress status) = s.serveAddress status ∧
      serveEnd status (t.serveAddress status) = t.serveAddress status := by
    unfold serveEnd
    split
    · exact ⟨endOfFrame_idle idle', endOfFrame_idle (named.state ▸ idle')⟩
    · exact ⟨rfl, rfl⟩
  have either : (addressed || status.avf) = true → (k.address || status.avf) = true := by
    simp only [Bool.or_eq_true]
    exact Or.imp_left address
  have entered := named.enter idle' either error served
  have final := entered.bitError last
  rw [← ended.1, ← ended.2] at final
  exact final

theorem AlikeIn.isr {p q : BusPhase} (h : AlikeIn p s t) {status : SlaveStatus}
    (legal : p.next status = some q) : AlikeIn q (s.isr status) (t.isr status) := by
  have inside : ∀ {p r : BusPhase}, AlikeIn p s t → p.known.address = true →
      p.known.error = true → status.frameEnded = true → enter false status = some r →
      AlikeIn r
        (serveTransmit status (serveReceive status (serveEnd status (s.serveAddress status))))
        (serveTransmit status (serveReceive status (serveEnd status (t.serveAddress status)))) := by
    intro p r h address error ended entered
    have named := (h.1.serveAddress status).endOfFrame (by simp [address]) error
    have idle : (s.serveAddress status).endOfFrame.state = .idle := rfl
    have stop : (status.rsf || status.sdf) = true := ended
    simp only [serveEnd, stop, if_true]
    exact named.enter idle (by simp [address]) (.inl error) entered
  cases p with
  | quiet addressed => exact h.1.open (h.2 addressed rfl) id (.inl rfl) legal
  | writing =>
      obtain ⟨r, served, last⟩ := next_cases legal
      refine AlikeIn.bitError ?_ last
      unfold BusPhase.serve at served
      cases ended : status.frameEnded with
      | true =>
          simp only [ended, if_true] at served
          exact inside h rfl rfl ended served
      | false =>
          simp only [ended, Bool.false_eq_true, if_false] at served
          have running : (status.rsf || status.sdf) = false := ended
          have named := h.1.serveAddress status
          simp only [serveEnd, running, Bool.false_eq_true, if_false]
          exact AlikeIn.continueWriting ⟨named.mono (by simp [BusPhase.known]) id id id, by simp⟩
            served
  | reading =>
      obtain ⟨r, served, last⟩ := next_cases legal
      refine AlikeIn.bitError ?_ last
      unfold BusPhase.serve at served
      cases ended : status.frameEnded with
      | true =>
          simp only [ended, if_true] at served
          exact inside h rfl rfl ended served
      | false =>
          simp only [ended, Bool.false_eq_true, if_false] at served
          have running : (status.rsf || status.sdf) = false := ended
          have named := h.1.serveAddress status
          simp only [serveEnd, running, Bool.false_eq_true, if_false]
          exact AlikeIn.continueReading ⟨named.mono (by simp [BusPhase.known]) id id id, by simp⟩
            served

/-- What an application or the bus can tell about a slave: its error code, and every store,
fetch, bus byte and callback so far. -/
def observed (s : Slave O σ) : I2CError × List (Event O) := (s.error, s.trace)

omit [DecidableEq O] in
theorem AlikeIn.observed_eq {p : BusPhase} (h : AlikeIn p s t) : s.observed = t.observed :=
  Prod.ext (h.1.error (by cases p <;> rfl)) h.1.trace

/-- Two slaves that are alike show the same along every legal run. -/
theorem AlikeIn.observe_eq {p q : BusPhase} (h : AlikeIn p s t) {calls : List SlaveStatus}
    (legal : phaseAfter BusPhase.next p calls = some q) :
    observe Slave.isr observed s calls = observe Slave.isr observed t calls :=
  have simulates : ∀ (p q : BusPhase) (s t : Slave O σ) status, AlikeIn p s t →
      p.next status = some q →
      AlikeIn q (s.isr status) (t.isr status) ∧ (s.isr status).observed = (t.isr status).observed :=
    fun _ _ _ _ _ alike next => ⟨alike.isr next, (alike.isr next).observed_eq⟩
  (observe_eq_of_simulation simulates h legal).1

end Slave
end TeensyI2C
