import TeensyI2C.Slave.FrameLaws

/-!
A slave that listens on several addresses, and the bus in front of it. The flags of SSR add up
until the service routine runs. Data bytes stretch the clock while they wait, a STOP, a repeated
START and an address do not, so the end of one frame and the address of the next may be found in
one snapshot.
-/

namespace TeensyI2C
open ObjectMemory EventMachine

/-- The slave's addresses have seven bits. -/
abbrev BusAddress := Fin 128

def BusAddress.called (address : BusAddress) : UInt16 := UInt16.ofNat address.val

/-- The seven bits of an address that the master's driver sends. -/
def sentAddress (address : UInt8) : BusAddress :=
  ⟨address.toNat % 128, Nat.mod_lt _ (by decide)⟩

/-- SASR holds the address byte as it was on the bus. -/
def sasrWord (address : BusAddress) (read : Bool) : UInt16 :=
  UInt16.ofNat (2 * address.val + read.toNat)

theorem called_of_sasrWord (address : BusAddress) (read : Bool) :
    (sasrWord address read &&& 0x7FF) >>> 1 = address.called := by
  revert address read
  decide

/-- The frame on the bus: its direction, and whether it has got past its address. -/
inductive Line where
  | free
  | busy (read begun : Bool)
deriving DecidableEq, Repr

structure SlaveBus (O σ : Type) [Inhabited O] where
  slave : Slave O σ
  line : Line := .free
  /-- The flags of SSR, with the words that wait in SASR and SRDR. -/
  pending : SlaveStatus := {}
  /-- The address of the latest frame. -/
  latest : BusAddress := 0
  /-- The address of the frame whose bytes the driver served last. -/
  served : BusAddress := 0

/-- What can happen next. An event that the bus does not allow changes nothing. -/
inductive BusEvent where
  | address (address : BusAddress) (read : Bool)
  | byte (data : UInt8)
  | request
  | finish (stop : Bool)
  | interrupt
deriving DecidableEq, Repr

namespace SlaveBus
variable {O σ : Type} [Inhabited O]

def address (b : SlaveBus O σ) (address : BusAddress) (read : Bool) : SlaveBus O σ :=
  match b.line with
  | .free =>
      { b with
        line := .busy read false
        pending := { b.pending with avf := true, sasr := sasrWord address read }
        latest := address }
  | .busy _ _ => b

def byte (b : SlaveBus O σ) (data : UInt8) : SlaveBus O σ :=
  match b.line with
  | .busy false begun =>
      if b.pending.hasData then b
      else
        { b with
          line := .busy false true
          pending := { b.pending with rdf := true, srdr := ⟨!begun, data⟩ } }
  | _ => b

def request (b : SlaveBus O σ) : SlaveBus O σ :=
  match b.line with
  | .busy true _ =>
      if b.pending.hasData then b
      else
        { b with line := .busy true true, pending := { b.pending with tdf := true } }
  | _ => b

/-- A STOP, or the repeated START that opens the next frame. -/
def finish (b : SlaveBus O σ) (stop : Bool) : SlaveBus O σ :=
  match b.line with
  | .free => b
  | .busy _ _ =>
      if b.pending.hasData then b
      else
        { b with
          line := .free
          pending :=
            if stop then { b.pending with sdf := true } else { b.pending with rsf := true } }

/-- The flags that SIER enables. AVF alone raises no interrupt. -/
def raised (b : SlaveBus O σ) : Bool :=
  b.pending.frameEnded || b.pending.hasData

variable [DecidableEq O]

/-- The service routine takes its snapshot and clears what it has served. -/
def interrupt (b : SlaveBus O σ) : SlaveBus O σ :=
  if b.raised then
    { b with
      slave := b.slave.isr b.pending
      pending := { sasr := b.pending.sasr }
      served := if b.pending.hasData then b.latest else b.served }
  else b

def step (b : SlaveBus O σ) : BusEvent → SlaveBus O σ
  | .address address read => b.address address read
  | .byte data => b.byte data
  | .request => b.request
  | .finish stop => b.finish stop
  | .interrupt => b.interrupt

/-- The callbacks that the next service routine calls. -/
def called (b : SlaveBus O σ) : List (Event O) :=
  (callbacks b.interrupt.slave.trace).drop (callbacks b.slave.trace).length

/-- A callback is for the frame whose bytes it is about: `before_transmit` for the one that asks
for its first byte, the others for the one that has ended. -/
def Addressed (b : SlaveBus O σ) : Event O → Prop
  | .afterReceive _ address | .afterTransmit address => address = b.served.called
  | .beforeTransmit address => address = b.latest.called
  | .access _ | .stdr _ => True

/-- Every callback is given the address that the master called in its frame. -/
def CallsRight (b : SlaveBus O σ) : BusEvent → Prop
  | .interrupt => ∀ e ∈ b.called, b.Addressed e
  | _ => True

omit [DecidableEq O] in
instance (b : SlaveBus O σ) (e : Event O) : Decidable (b.Addressed e) :=
  match e with
  | .afterReceive _ address | .afterTransmit address =>
      inferInstanceAs (Decidable (address = b.served.called))
  | .beforeTransmit address => inferInstanceAs (Decidable (address = b.latest.called))
  | .access _ | .stdr _ => .isTrue trivial

instance (b : SlaveBus O σ) (e : BusEvent) : Decidable (b.CallsRight e) :=
  match e with
  | .interrupt => inferInstanceAs (Decidable (∀ e ∈ b.called, b.Addressed e))
  | .address _ _ | .byte _ | .request | .finish _ => .isTrue trivial

/-- A callback is due at the end of the frame under way. -/
def endCalled (s : Slave O σ) : Bool :=
  match s.state with
  | .receiving => s.afterReceiveCallback.isSome
  | .transmitting => s.afterTransmitCallback.isSome
  | .idle | .aborted => false

/-- No service routine finds the end of a frame that it owes a callback together with the address
of a frame to another address. -/
def Untangled (b : SlaveBus O σ) : BusEvent → Prop
  | .interrupt =>
      b.pending.avf = true → b.pending.frameEnded = true → endCalled b.slave = true →
        b.latest = b.served
  | _ => True

end SlaveBus

/-! ### What one call of the service routine calls -/

namespace Slave
variable {O σ : Type} [Inhabited O]

def endCallbacks (s : Slave O σ) : List (Event O) :=
  match s.state with
  | .receiving =>
      calledIf s.afterReceiveCallback.isSome (.afterReceive s.rxBuffer.nextIndex s.addressCalled)
  | .transmitting => calledIf s.afterTransmitCallback.isSome (.afterTransmit s.addressCalled)
  | .idle | .aborted => []

theorem callbacks_endOfFrame (s : Slave O σ) :
    callbacks s.endOfFrame.trace = callbacks s.trace ++ s.endCallbacks := by
  unfold endCallbacks
  cases state : s.state with
  | receiving => exact callbacks_endOfFrame_receiving state
  | transmitting => exact callbacks_endOfFrame_transmitting state
  | idle =>
      rw [endOfFrame_idle state]
      exact (List.append_nil _).symm
  | aborted =>
      rw [endOfFrame_aborted state]
      exact (List.append_nil _).symm

theorem endOfFrame_addressCalled (s : Slave O σ) :
    s.endOfFrame.addressCalled = s.addressCalled := by
  cases state : s.state with
  | receiving =>
      cases attached : s.afterReceiveCallback with
      | none => rw [endOfFrame_receiving_none state attached]
      | some callback =>
          rw [endOfFrame_receiving state attached, invoke_eq]
          rfl
  | transmitting =>
      cases attached : s.afterTransmitCallback with
      | none => rw [endOfFrame_transmitting_none state attached]
      | some callback =>
          rw [endOfFrame_transmitting state attached, invoke_eq]
          rfl
  | idle => rw [endOfFrame_idle state]
  | aborted => rw [endOfFrame_aborted state]

variable [DecidableEq O]

def Silent (s t : Slave O σ) : Prop :=
  callbacks t.trace = callbacks s.trace ∧ t.addressCalled = s.addressCalled

theorem silent_receiveData (s : Slave O σ) (srdr : Srdr) : s.Silent (s.receiveData srdr) := by
  have started : s.Silent (if srdr.sof then s.startReceiving else s) := by
    unfold startReceiving
    cases srdr.sof with
    | false => exact ⟨rfl, rfl⟩
    | true => cases buffer : s.rxBuffer.initialised <;> simp [Silent, buffer]
  unfold receiveData
  generalize (if srdr.sof then s.startReceiving else s) = t at started ⊢
  cases buffer : t.rxBuffer.initialised with
  | false => simpa [buffer, Silent] using started
  | true =>
      cases full : t.rxBuffer.full with
      | true => simpa [buffer, full, Silent] using started
      | false =>
          have stored : callbacks (t.storeReceived srdr.data).trace = callbacks t.trace :=
            (callbacks_append _ _).trans (List.append_nil _)
          simp only [buffer, full, if_true, Bool.false_eq_true, if_false]
          exact ⟨stored.trans started.1, started.2⟩

omit [DecidableEq O] in
theorem silent_answerRequest (s : Slave O σ) (startOfFrame : Bool) :
    s.Silent (s.answerRequest startOfFrame) := by
  have sent : ∀ (t : Slave O σ) (data : UInt8),
      callbacks (t.trace ++ [.stdr data]) = callbacks t.trace := fun t data =>
    (callbacks_append _ _).trans (List.append_nil _)
  have next : ∀ t : Slave O σ, callbacks t.sendNext.trace = callbacks t.trace := fun t =>
    (callbacks_append _ _).trans (List.append_nil _)
  unfold answerRequest Silent
  grind [emit, sendNext]

omit [DecidableEq O] in
theorem callbacks_transmitData (s : Slave O σ) :
    ∃ told : List (Event O), callbacks s.transmitData.trace = callbacks s.trace ++ told ∧
      (∀ e ∈ told, e = .beforeTransmit s.addressCalled) ∧
      s.transmitData.addressCalled = s.addressCalled := by
  unfold transmitData
  cases startOfFrame : decide (SlaveState.idle.code ≤ s.state.code) with
  | false =>
      have silent := silent_answerRequest s false
      simp only [Bool.false_eq_true, if_false]
      exact ⟨[], silent.1.trans (List.append_nil _).symm, by simp, silent.2⟩
  | true =>
      have silent := silent_answerRequest s.startTransmitting true
      have started := (callbacks_startTransmitting s).1
      have named : s.startTransmitting.addressCalled = s.addressCalled := by
        cases attached : s.beforeTransmitCallback with
        | none => rw [startTransmitting_none attached]
        | some callback =>
            rw [startTransmitting_some attached, invoke_eq]
            rfl
      simp only [if_true]
      refine ⟨_, silent.1.trans started, ?_, silent.2.trans named⟩
      intro e member
      unfold calledIf at member
      split at member
      · exact List.mem_singleton.mp member
      · cases member

/-- What a service routine without a bit error calls: the callback for the end of a frame, then
perhaps the one for the start of the next, both with the address it has read by then. -/
theorem callbacks_isr (s : Slave O σ) {h : SlaveStatus} (bef : h.bef = false) :
    ∃ told : List (Event O), callbacks (s.isr h).trace =
        callbacks s.trace ++
          (if h.frameEnded then (s.serveAddress h).endCallbacks else []) ++ told ∧
      (∀ e ∈ told, h.tdf = true ∧ e = .beforeTransmit (s.serveAddress h).addressCalled) ∧
      (s.isr h).addressCalled = (s.serveAddress h).addressCalled := by
  have ended : callbacks (serveEnd h (s.serveAddress h)).trace = callbacks s.trace ++
        (if h.frameEnded then (s.serveAddress h).endCallbacks else []) ∧
      (serveEnd h (s.serveAddress h)).addressCalled = (s.serveAddress h).addressCalled := by
    have kept : (s.serveAddress h).trace = s.trace := by
      obtain ⟨address, named⟩ := serveAddress_eq s h
      rw [named]
    cases frameEnded : h.frameEnded with
    | true =>
        rw [serveEnd_of_ended _ frameEnded, callbacks_endOfFrame, kept]
        exact ⟨rfl, endOfFrame_addressCalled _⟩
    | false =>
        have flags : (h.rsf || h.sdf) = false := frameEnded
        simp [serveEnd, flags, kept]
  have received : (serveEnd h (s.serveAddress h)).Silent
      (serveReceive h (serveEnd h (s.serveAddress h))) := by
    unfold serveReceive
    split
    · exact silent_receiveData _ _
    · exact ⟨rfl, rfl⟩
  have whole : s.isr h =
      serveTransmit h (serveReceive h (serveEnd h (s.serveAddress h))) := by
    simp [isr, serveBitError, bef]
  rw [whole, ← ended.1, ← received.1, ← ended.2, ← received.2]
  unfold serveTransmit
  cases tdf : h.tdf with
  | false => exact ⟨[], by simp, by simp, rfl⟩
  | true =>
      obtain ⟨told, calls, each, named⟩ :=
        callbacks_transmitData (serveReceive h (serveEnd h (s.serveAddress h)))
      exact ⟨told, calls, fun e member => ⟨rfl, each e member⟩, named⟩

theorem isr_state_without_data (s : Slave O σ) {h : SlaveStatus} (bef : h.bef = false)
    (noData : h.hasData = false) :
    (s.isr h).state = if h.frameEnded then .idle else s.state := by
  have flags : h.rdf = false ∧ h.tdf = false := by
    simpa [SlaveStatus.hasData] using noData
  have kept : (s.serveAddress h).state = s.state := by
    obtain ⟨address, named⟩ := serveAddress_eq s h
    rw [named]
  have whole : s.isr h = serveEnd h (s.serveAddress h) := by
    simp [isr, serveBitError, serveReceive, serveTransmit, bef, flags]
  rw [whole]
  cases frameEnded : h.frameEnded with
  | true =>
      rw [serveEnd_of_ended _ frameEnded]
      rfl
  | false =>
      have ends : (h.rsf || h.sdf) = false := frameEnded
      simp [serveEnd, ends, kept]

end Slave

/-! ### Runs -/

namespace SlaveBus
variable {O σ : Type} [Inhabited O]

def Busy (s : Slave O σ) : Prop := s.state = .receiving ∨ s.state = .transmitting

structure Named (b : SlaveBus O σ) : Prop where
  noError : b.pending.bef = false
  sasr : b.pending.avf = true → (b.pending.sasr &&& 0x7FF) >>> 1 = b.latest.called
  named : b.line ≠ .free → b.pending.avf = true ∨ b.slave.addressCalled = b.latest.called
  data : b.pending.hasData = true → b.line ≠ .free
  busy : Busy b.slave → b.slave.addressCalled = b.served.called
  ended : Busy b.slave → b.pending.frameEnded = true ∨
    (b.line ≠ .free ∧ b.pending.avf = false ∧ b.served = b.latest)

variable {b : SlaveBus O σ}

theorem Named.addressRead (h : b.Named) (line : b.line ≠ .free) :
    (b.slave.serveAddress b.pending).addressCalled = b.latest.called := by
  unfold Slave.serveAddress
  cases avf : b.pending.avf with
  | true => simpa using h.sasr avf
  | false => simpa using (h.named line).resolve_left (by simp [avf])

theorem Named.address (h : b.Named) (address : BusAddress) (read : Bool) :
    (b.address address read).Named := by
  unfold SlaveBus.address
  cases line : b.line with
  | busy _ _ => exact h
  | free =>
      exact {
        noError := h.noError
        sasr := fun _ => called_of_sasrWord address read
        named := fun _ => .inl rfl
        data := fun _ => by simp
        busy := h.busy
        ended := fun busy => .inl ((h.ended busy).resolve_right fun under => under.1 line) }

theorem Named.byte (h : b.Named) (data : UInt8) : (b.byte data).Named := by
  unfold SlaveBus.byte
  cases line : b.line with
  | free => exact h
  | busy read begun =>
      have under : b.line ≠ .free := by simp [line]
      cases read with
      | true => exact h
      | false =>
          dsimp only
          split
          · exact h
          · exact {
              noError := h.noError
              sasr := h.sasr
              named := fun _ => h.named under
              data := fun _ => by simp
              busy := h.busy
              ended := fun busy => (h.ended busy).imp_right fun under =>
                ⟨by simp, under.2⟩ }

theorem Named.request (h : b.Named) : b.request.Named := by
  unfold SlaveBus.request
  cases line : b.line with
  | free => exact h
  | busy read begun =>
      have under : b.line ≠ .free := by simp [line]
      cases read with
      | false => exact h
      | true =>
          dsimp only
          split
          · exact h
          · exact {
              noError := h.noError
              sasr := h.sasr
              named := fun _ => h.named under
              data := fun _ => by simp
              busy := h.busy
              ended := fun busy => (h.ended busy).imp_right fun under =>
                ⟨by simp, under.2⟩ }

theorem Named.finish (h : b.Named) (stop : Bool) : (b.finish stop).Named := by
  unfold SlaveBus.finish
  cases line : b.line with
  | free => exact h
  | busy read begun =>
      dsimp only
      split
      · exact h
      · rename_i noData
        cases stop with
        | true =>
            exact {
              noError := h.noError
              sasr := h.sasr
              named := fun under => absurd rfl under
              data := fun data => absurd data noData
              busy := h.busy
              ended := fun _ => .inl (Bool.or_true _) }
        | false =>
            exact {
              noError := h.noError
              sasr := h.sasr
              named := fun under => absurd rfl under
              data := fun data => absurd data noData
              busy := h.busy
              ended := fun _ => .inl rfl }

variable [DecidableEq O]

theorem Named.interrupt (h : b.Named) : b.interrupt.Named := by
  unfold SlaveBus.interrupt
  cases raised : b.raised with
  | false => exact h
  | true =>
      obtain ⟨told, -, -, named⟩ := Slave.callbacks_isr b.slave h.noError
      -- Only a frame whose bytes have just been served keeps the driver busy.
      have busyWithData : Busy (b.slave.isr b.pending) → b.pending.hasData = true := by
        intro busy
        by_contra noData
        have noData : b.pending.hasData = false := by simpa using noData
        have frameEnded : b.pending.frameEnded = true := by
          simpa [SlaveBus.raised, noData] using raised
        have idle := Slave.isr_state_without_data b.slave h.noError noData
        rw [frameEnded, if_pos rfl] at idle
        simp [Busy, idle] at busy
      simp only [if_true]
      exact {
        noError := rfl
        sasr := fun avf => absurd avf (by simp)
        named := fun line => .inr (named.trans (h.addressRead line))
        data := fun data => absurd data (by simp [SlaveStatus.hasData])
        busy := fun busy => by
          have data := busyWithData busy
          simp only [data, if_true]
          exact named.trans (h.addressRead (h.data data))
        ended := fun busy => by
          have data := busyWithData busy
          exact .inr ⟨h.data data, rfl, by simp [data]⟩ }

theorem Named.step (h : b.Named) (e : BusEvent) : (b.step e).Named := by
  cases e with
  | address address read => exact h.address address read
  | byte data => exact h.byte data
  | request => exact h.request
  | finish stop => exact h.finish stop
  | interrupt => exact h.interrupt

theorem called_injective {a b : BusAddress} (same : a.called = b.called) : a = b := by
  have values := congrArg UInt16.toNat same
  rw [BusAddress.called, BusAddress.called, UInt16.toNat_ofNat', UInt16.toNat_ofNat'] at values
  exact Fin.ext (by omega)

omit [DecidableEq O] in
theorem mem_endCallbacks {s : Slave O σ} {e : Event O} (member : e ∈ s.endCallbacks) :
    endCalled s = true ∧ Busy s ∧
      (e = .afterReceive s.rxBuffer.nextIndex s.addressCalled ∨
        e = .afterTransmit s.addressCalled) := by
  unfold Slave.endCallbacks calledIf at member
  unfold endCalled Busy
  cases state : s.state with
  | receiving =>
      simp only [state] at member
      split at member
      · rename_i attached
        exact ⟨attached, .inl rfl, .inl (List.mem_singleton.mp member)⟩
      · cases member
  | transmitting =>
      simp only [state] at member
      split at member
      · rename_i attached
        exact ⟨attached, .inr rfl, .inr (List.mem_singleton.mp member)⟩
      · cases member
  | idle | aborted =>
      simp only [state] at member
      cases member

omit [DecidableEq O] in
theorem endCallbacks_of_endCalled {s : Slave O σ} (due : endCalled s = true) :
    ∃ e ∈ s.endCallbacks,
      ∀ b : SlaveBus O σ, b.Addressed e → s.addressCalled = b.served.called := by
  unfold endCalled at due
  unfold Slave.endCallbacks calledIf
  cases state : s.state with
  | receiving =>
      simp only [state] at due
      exact ⟨.afterReceive s.rxBuffer.nextIndex s.addressCalled, by simp [due], fun _ => id⟩
  | transmitting =>
      simp only [state] at due
      exact ⟨.afterTransmit s.addressCalled, by simp [due], fun _ => id⟩
  | idle | aborted =>
      simp only [state] at due
      cases due

/-- The end callback is given the address that has been read by then, which is that of its own
frame unless the next address has overtaken it. -/
theorem callsRight_iff (h : b.Named) (e : BusEvent) : b.CallsRight e ↔ b.Untangled e := by
  cases e with
  | address _ _ | byte _ | request | finish _ => exact Iff.rfl
  | interrupt =>
      obtain ⟨told, trace, each, -⟩ := Slave.callbacks_isr b.slave h.noError
      obtain ⟨address, named⟩ := Slave.serveAddress_eq b.slave b.pending
      have due : endCalled (b.slave.serveAddress b.pending) = endCalled b.slave := by
        rw [named]
        rfl
      have busy : Busy (b.slave.serveAddress b.pending) → Busy b.slave := by
        rw [named]
        exact id
      constructor
      · intro right avf frameEnded owed
        have called : b.called =
            (b.slave.serveAddress b.pending).endCallbacks ++ told := by
          have raised : b.raised = true := by simp [SlaveBus.raised, frameEnded]
          simp [SlaveBus.called, SlaveBus.interrupt, raised, trace, frameEnded]
        obtain ⟨e, member, addressed⟩ := endCallbacks_of_endCalled (due.trans owed)
        have given := addressed b (right e (by rw [called]; exact List.mem_append_left _ member))
        have read : (b.slave.serveAddress b.pending).addressCalled = b.latest.called := by
          simpa [Slave.serveAddress, avf] using h.sasr avf
        exact called_injective (read.symm.trans given)
      · intro untangled e member
        cases raised : b.raised with
        | false => simp [SlaveBus.called, SlaveBus.interrupt, raised] at member
        | true =>
            simp only [SlaveBus.called, SlaveBus.interrupt, raised, if_true, trace,
              List.append_assoc, List.drop_left, List.mem_append] at member
            rcases member with ending | starting
            · split at ending
              · rename_i frameEnded
                obtain ⟨owed, under, which⟩ := mem_endCallbacks ending
                have given : (b.slave.serveAddress b.pending).addressCalled =
                    b.served.called := by
                  cases avf : b.pending.avf with
                  | true =>
                      rw [← untangled avf frameEnded (due.symm.trans owed)]
                      simpa [Slave.serveAddress, avf] using h.sasr avf
                  | false => simpa [Slave.serveAddress, avf] using h.busy (busy under)
                rcases which with rfl | rfl <;> exact given
              · cases ending
            · obtain ⟨tdf, rfl⟩ := each e starting
              exact h.addressRead (h.data (by simp [SlaveStatus.hasData, tdf]))

def listening (s : Slave O σ) (form : Slave.ListenForm) : SlaveBus O σ :=
  { slave := s.reconstruct.listen form }

omit [DecidableEq O] in
theorem listening_idle (s : Slave O σ) (form : Slave.ListenForm) :
    (listening s form).slave.state = .idle := by
  cases form <;> rfl

omit [DecidableEq O] in
theorem named_listening (s : Slave O σ) (form : Slave.ListenForm) :
    (listening s form).Named where
  noError := rfl
  sasr := fun avf => absurd avf (by simp [listening])
  named := fun line => absurd rfl line
  data := fun data => absurd data (by simp [listening, SlaveStatus.hasData])
  busy := fun busy => absurd busy (by simp [Busy, listening_idle])
  ended := fun busy => absurd busy (by simp [Busy, listening_idle])

/-- In every run, all callbacks carry the address of their frame exactly if no service routine
finds the end of a frame that owes a callback together with another frame's address. -/
theorem addresses_right_iff (s : Slave O σ) (form : Slave.ListenForm) (events : List BusEvent) :
    Along step CallsRight (listening s form) events ↔
      Along step Untangled (listening s form) events :=
  along_congr (I := Named) (fun _ e h => h.step e) (fun _ e h => callsRight_iff h e)
    (named_listening s form) events

def quiet (s : Slave O σ) : SlaveBus O σ :=
  { slave := s }

/-- A byte to 0x2D, then a repeated START for 0x2E before the service routine has run again. -/
def overtaken : List BusEvent :=
  [.address 0x2D false, .byte 0x11, .interrupt, .finish false, .address 0x2E false, .interrupt]

/-- The callback for the frame to 0x2D is told 0x2E. -/
theorem addresses_not_right :
    ¬ Along step CallsRight (listening Slave.attentiveSlave (.listenTwo 0x2D 0x2E)) overtaken := by
  decide

end SlaveBus
end TeensyI2C
