import TeensyI2C.Lib.EventMachine
import TeensyI2C.Slave.Driver

/-!
Buffers that are replaced while the slave is at work. `I2CBuffer::initialise` makes three
assignments, and the service routine may run between any two of them. What happens to one of the
two buffers is followed step by step, beside the pair that the last completed call has installed
and the call that is in progress.
-/

namespace TeensyI2C
open ObjectMemory EventMachine

/-- A buffer and its size, as they are passed to `set_receive_buffer` or `set_transmit_buffer`. -/
structure Extent (O : Type) where
  buffer : Pointer O
  size : Nat
deriving DecidableEq, Repr

def Extent.Contains {O : Type} (w : Extent O) (cell : Pointer O) : Prop :=
  cell.object = w.buffer.object ∧ w.buffer.offset ≤ cell.offset ∧
    cell.offset < w.buffer.offset + w.size

instance {O : Type} [DecidableEq O] (w : Extent O) (cell : Pointer O) :
    Decidable (w.Contains cell) :=
  inferInstanceAs (Decidable (_ ∧ _ ∧ _))

/-- What the service routine can do to one buffer. `install` is a setter called by a callback. -/
inductive BufferStep (O : Type) where
  | reset
  | move
  | install (w : Extent O)
deriving DecidableEq, Repr

namespace I2CBuffer
variable {O : Type} [Inhabited O]

def setBuffer (b : I2CBuffer O) (newBuffer : Pointer O) : I2CBuffer O :=
  { b with buffer := newBuffer }

def setSize (b : I2CBuffer O) (newSize : Nat) : I2CBuffer O :=
  { b with size := newSize }

/-- The three assignments of `initialise`, in program order. -/
theorem initialise_eq (b : I2CBuffer O) (newBuffer : Pointer O) (newSize : Nat) :
    b.initialise newBuffer newSize = (b.reset.setBuffer newBuffer).setSize newSize := rfl

def apply (b : I2CBuffer O) : BufferStep O → I2CBuffer O
  | .reset => b.reset
  | .move => b.advance
  | .install w => b.initialise w.buffer w.size

/-- Every byte is moved through a buffer that has room left. -/
def Guarded (b : I2CBuffer O) : BufferStep O → Prop
  | .move => b.nextIndex ≠ b.size
  | .reset | .install _ => True

def touched (b : I2CBuffer O) : BufferStep O → List (Pointer O)
  | .move => [b.cursor]
  | .reset | .install _ => []

end I2CBuffer

/-! ### One buffer, with the calls that set it -/

/-- A call in progress. -/
structure Pending (O : Type) where
  extent : Extent O
  /-- The pointer has been updated, the size has not. -/
  half : Bool := false
deriving DecidableEq, Repr

structure Replaced (O : Type) [Inhabited O] where
  b : I2CBuffer O := {}
  /-- The pair of the last completed call. -/
  installed : Extent O := ⟨⟨default, 0⟩, 0⟩
  pending : Option (Pending O) := none
deriving DecidableEq, Repr

/-- What happens to the buffer, in order: the three assignments of a call from outside the
service routine, and what the service routine does between them. -/
inductive Update (O : Type) where
  | isr (step : BufferStep O)
  | resetCursor (w : Extent O)
  | setBuffer
  | setSize
deriving DecidableEq, Repr

namespace Replaced
variable {O : Type} [Inhabited O]

def step (x : Replaced O) : Update O → Replaced O
  | .isr (.install w) => { x with b := x.b.apply (.install w), installed := w }
  | .isr step => { x with b := x.b.apply step }
  | .resetCursor w => { x with b := x.b.reset, pending := some { extent := w } }
  | .setBuffer =>
      match x.pending with
      | some call =>
          { x with
            b := x.b.setBuffer call.extent.buffer
            pending := some { call with half := true } }
      | none => x
  | .setSize =>
      match x.pending with
      | some call =>
          { b := x.b.setSize call.extent.size, installed := call.extent, pending := none }
      | none => x

/-- A byte that the driver moves lies in what the last completed call has installed, or in what
the call in progress is going to. -/
def Inside (x : Replaced O) : Update O → Prop
  | .isr .move =>
      x.installed.Contains x.b.cursor ∨ ∃ call ∈ x.pending, call.extent.Contains x.b.cursor
  | _ => True

def Guarded (x : Replaced O) : Update O → Prop
  | .isr step => x.b.Guarded step
  | _ => True

/-- While a call is half done the old size limits the new buffer: no byte may be moved at or past
the new size, no callback may set the buffer, and the cursor must not be past the new size when
that is assigned. -/
def Orderly (x : Replaced O) (u : Update O) : Prop :=
  ∀ call ∈ x.pending, call.half = true →
    match u with
    | .isr .move => x.b.nextIndex < call.extent.size
    | .isr (.install _) => False
    | .setSize => x.b.nextIndex ≤ call.extent.size
    | _ => True

instance [DecidableEq O] (x : Replaced O) : (u : Update O) → Decidable (x.Inside u)
  | .isr .move => inferInstanceAs (Decidable (_ ∨ ∃ call ∈ x.pending, _))
  | .isr .reset | .isr (.install _) | .resetCursor _ | .setBuffer | .setSize => .isTrue trivial

instance (x : Replaced O) (u : Update O) : Decidable (x.Orderly u) :=
  match u with
  | .isr .move => inferInstanceAs (Decidable (∀ call ∈ x.pending, call.half = true → _))
  | .isr (.install _) => inferInstanceAs (Decidable (∀ call ∈ x.pending, call.half = true → _))
  | .setSize => inferInstanceAs (Decidable (∀ call ∈ x.pending, call.half = true → _))
  | .isr .reset | .resetCursor _ | .setBuffer => .isTrue fun _ _ _ => trivial

/-- The program order of the assignments. -/
def InOrder (x : Replaced O) : Update O → Prop
  | .isr _ => True
  | .resetCursor _ => x.pending = none
  | .setBuffer => ∃ call ∈ x.pending, call.half = false
  | .setSize => ∃ call ∈ x.pending, call.half = true

/-- Only while a call is half done can the pair in use differ from the one installed. -/
structure Sound (x : Replaced O) : Prop where
  whole : (∀ call ∈ x.pending, call.half = false) →
    x.b.buffer = x.installed.buffer ∧ x.b.size = x.installed.size ∧ x.b.Bounded
  half : ∀ call ∈ x.pending, call.half = true → x.b.buffer = call.extent.buffer

theorem sound_fresh : Sound ({} : Replaced O) :=
  ⟨fun _ => ⟨rfl, rfl, Nat.zero_le 0⟩, fun _ none => by cases none⟩

theorem Sound.isr {x : Replaced O} (sound : Sound x) (step : BufferStep O)
    (guarded : x.b.Guarded step) (orderly : x.Orderly (.isr step)) :
    Sound (x.step (.isr step)) := by
  cases step with
  | reset => exact ⟨fun whole => by
      obtain ⟨buffer, size, -⟩ := sound.whole whole
      exact ⟨buffer, size, Nat.zero_le _⟩, sound.half⟩
  | move =>
      refine ⟨fun whole => ?_, sound.half⟩
      obtain ⟨buffer, size, bounded⟩ := sound.whole whole
      exact ⟨buffer, size, Nat.lt_of_le_of_ne bounded guarded⟩
  | install w =>
      refine ⟨fun _ => ⟨rfl, rfl, Nat.zero_le _⟩, fun call pending half => ?_⟩
      exact (orderly call pending half).elim

theorem Sound.step {x : Replaced O} (sound : Sound x) (u : Update O) (guarded : x.Guarded u)
    (inOrder : x.InOrder u) (orderly : x.Orderly u) : Sound (x.step u) := by
  cases u with
  | isr step => exact sound.isr step guarded orderly
  | resetCursor w =>
      have none : x.pending = none := inOrder
      obtain ⟨buffer, size, -⟩ := sound.whole (by simp [none])
      refine ⟨fun _ => ⟨buffer, size, Nat.zero_le _⟩, fun call pending half => ?_⟩
      obtain rfl := Option.some.inj pending
      cases half
  | setBuffer =>
      obtain ⟨call, pending, -⟩ := inOrder
      have pending : x.pending = some call := pending
      simp only [Replaced.step, pending]
      refine ⟨fun whole => absurd (whole _ rfl) (by simp), fun next same _ => ?_⟩
      obtain rfl := Option.some.inj same
      rfl
  | setSize =>
      obtain ⟨call, pending, half⟩ := inOrder
      have bounded := orderly call pending half
      have buffer := sound.half call pending half
      have pending : x.pending = some call := pending
      simp only [Replaced.step, pending]
      exact ⟨fun _ => ⟨buffer, rfl, bounded⟩, fun _ none => by cases none⟩

theorem contains_cursor {b : I2CBuffer O} {w : Extent O} (buffer : b.buffer = w.buffer)
    (below : b.nextIndex < w.size) : w.Contains b.cursor := by
  rw [I2CBuffer.cursor, buffer]
  exact ⟨rfl, Nat.le_add_right _ _, Nat.add_lt_add_left below _⟩

theorem Sound.inside {x : Replaced O} (sound : Sound x) (u : Update O) (guarded : x.Guarded u)
    (orderly : x.Orderly u) : x.Inside u := by
  cases u with
  | resetCursor w => trivial
  | setBuffer => trivial
  | setSize => trivial
  | isr step =>
      cases step with
      | reset => trivial
      | install w => trivial
      | move =>
          by_cases whole : ∀ call ∈ x.pending, call.half = false
          · obtain ⟨buffer, size, bounded⟩ := sound.whole whole
            have room : x.b.nextIndex < x.installed.size := by
              rw [← size]
              exact Nat.lt_of_le_of_ne bounded guarded
            exact .inl (contains_cursor buffer room)
          · simp only [not_forall, Bool.not_eq_false] at whole
            obtain ⟨call, pending, half⟩ := whole
            exact .inr ⟨call, pending,
              contains_cursor (sound.half call pending half) (orderly call pending half)⟩

theorem sound_run {x : Replaced O} {us : List (Update O)} (sound : Sound x)
    (proper : Along step (fun x u => x.Guarded u ∧ x.InOrder u) x us)
    (orderly : Along step Orderly x us) :
    Along step Inside x us ∧ Sound (run step x us) := by
  have both := (along_and x us).mpr ⟨proper, orderly⟩
  have preserved : ∀ (x : Replaced O) (u : Update O), Sound x →
      (x.Guarded u ∧ x.InOrder u) ∧ x.Orderly u → Sound (x.step u) :=
    fun x u sound ok => sound.step u ok.1.1 ok.1.2 ok.2
  exact ⟨along_imp preserved (fun x u sound ok => sound.inside u ok.1.1 ok.2) sound both,
    run_invariant preserved sound both⟩

end Replaced

/-! ### The service routine, seen from one buffer -/

inductive BufferRole where
  | receive
  | transmit
deriving DecidableEq, Repr

def installs {O : Type} (role : BufferRole) (calls : List (BufferCall O)) :
    List (BufferStep O) :=
  calls.filterMap fun call =>
    match role, call with
    | .receive, .setReceiveBuffer buffer size => some (.install ⟨buffer, size⟩)
    | .transmit, .setTransmitBuffer buffer size => some (.install ⟨buffer, size⟩)
    | .receive, .setTransmitBuffer _ _ | .transmit, .setReceiveBuffer _ _ => none

namespace Slave
variable {O σ : Type} [Inhabited O]

def buffer (s : Slave O σ) : BufferRole → I2CBuffer O
  | .receive => s.rxBuffer
  | .transmit => s.txBuffer

def withBuffer (s : Slave O σ) (b : I2CBuffer O) : BufferRole → Slave O σ
  | .receive => { s with rxBuffer := b }
  | .transmit => { s with txBuffer := b }

/-- What the callback that `end_of_frame` calls, if any, does to the buffers. -/
def endCalls (s : Slave O σ) : List (BufferCall O) :=
  match s.state with
  | .receiving =>
      match s.afterReceiveCallback with
      | some callback =>
          (callback s.rxBuffer.getBytesTransferred s.addressCalled s.error s.memory s.app).calls
      | none => []
  | .transmitting =>
      match s.afterTransmitCallback with
      | some callback => (callback s.addressCalled s.error s.memory s.app).calls
      | none => []
  | .idle | .aborted => []

def startCalls (s : Slave O σ) : List (BufferCall O) :=
  match s.beforeTransmitCallback with
  | some callback => (callback s.addressCalled .ok s.memory s.app).calls
  | none => []

/-- The RDF branch: a SOF empties the buffer, and the byte is stored if there is room. -/
def receiveSteps (s : Slave O σ) (srdr : Srdr) : List (BufferStep O) :=
  let first := srdr.sof && s.rxBuffer.initialised
  let b := if first then s.rxBuffer.reset else s.rxBuffer
  (if first then [.reset] else []) ++ if b.initialised && !b.full then [.move] else []

/-- The TDF branch, once `before_transmit` has run. -/
def answerSteps (s : Slave O σ) (startOfFrame : Bool) : List (BufferStep O) :=
  let first := startOfFrame && s.txBuffer.initialised
  let b := if first then s.txBuffer.reset else s.txBuffer
  (if first then [.reset] else []) ++ if b.initialised && b.hasDataAvailable then [.move] else []

def transmitSteps (role : BufferRole) (s : Slave O σ) : List (BufferStep O) :=
  let startOfFrame : Bool := SlaveState.idle.code ≤ s.state.code
  (if startOfFrame then installs role s.startCalls else []) ++
    match role with
    | .receive => []
    | .transmit => answerSteps (if startOfFrame then s.startTransmitting else s) startOfFrame

/-- What the service routine does to one buffer, in order. A bit error sets no buffer. -/
def isrSteps [DecidableEq O] (role : BufferRole) (s : Slave O σ) (h : SlaveStatus) :
    List (BufferStep O) :=
  let addressed := s.serveAddress h
  let ended := serveEnd h addressed
  let received := serveReceive h ended
  (if h.rsf || h.sdf then installs role addressed.endCalls else []) ++
    ((match role with
      | .receive => if h.rdf then receiveSteps ended h.srdr else []
      | .transmit => []) ++
    if h.tdf then transmitSteps role received else [])

theorem run_installs (role : BufferRole) (s : Slave O σ) (calls : List (BufferCall O)) :
    (calls.foldl bufferCall s).buffer role =
      run I2CBuffer.apply (s.buffer role) (installs role calls) := by
  induction calls generalizing s with
  | nil => rfl
  | cons call calls ih =>
      rw [List.foldl_cons, ih]
      cases role <;> cases call <;> rfl

theorem guarded_installs (role : BufferRole) (b : I2CBuffer O) (calls : List (BufferCall O)) :
    Along I2CBuffer.apply I2CBuffer.Guarded b (installs role calls) := by
  induction calls generalizing b with
  | nil => trivial
  | cons call calls ih =>
      cases role <;> cases call
      · exact ⟨trivial, ih _⟩
      · exact ih b
      · exact ih b
      · exact ⟨trivial, ih _⟩

theorem buffer_invoke (role : BufferRole) (s : Slave O σ) (callback : Callback O σ) :
    (s.invoke callback).buffer role = run I2CBuffer.apply (s.buffer role)
      (installs role (callback s.error s.memory s.app).calls) := by
  rw [invoke, run_installs]
  cases role <;> rfl

theorem buffer_endOfFrame (role : BufferRole) (s : Slave O σ) :
    s.endOfFrame.buffer role = run I2CBuffer.apply (s.buffer role) (installs role s.endCalls) := by
  cases state : s.state with
  | receiving =>
      cases attached : s.afterReceiveCallback with
      | none =>
          have silent : s.endCalls = [] := by simp only [endCalls, state, attached]
          rw [endOfFrame_receiving_none state attached, silent]
          cases role <;> rfl
      | some callback =>
          have called := buffer_invoke role (s.emit (.afterReceive s.rxBuffer.nextIndex
            s.addressCalled)) (callback s.rxBuffer.nextIndex s.addressCalled)
          have calls : s.endCalls = (callback s.rxBuffer.nextIndex s.addressCalled s.error
              s.memory s.app).calls := by
            simp only [endCalls, state, attached, I2CBuffer.getBytesTransferred]
          rw [endOfFrame_receiving state attached, calls]
          cases role <;> exact called
  | transmitting =>
      cases attached : s.afterTransmitCallback with
      | none =>
          have silent : s.endCalls = [] := by simp only [endCalls, state, attached]
          rw [endOfFrame_transmitting_none state attached, silent]
          cases role <;> rfl
      | some callback =>
          have called := buffer_invoke role ({ s with trailingByteSent := false }.emit
            (.afterTransmit s.addressCalled)) (callback s.addressCalled)
          have calls : s.endCalls =
              (callback s.addressCalled s.error s.memory s.app).calls := by
            simp only [endCalls, state, attached]
          rw [endOfFrame_transmitting state attached, calls]
          cases role <;> exact called
  | idle =>
      have silent : s.endCalls = [] := by simp only [endCalls, state]
      rw [endOfFrame_idle state, silent]
      rfl
  | aborted =>
      have silent : s.endCalls = [] := by simp only [endCalls, state]
      rw [endOfFrame_aborted state, silent]
      cases role <;> rfl

theorem buffer_startTransmitting (role : BufferRole) (s : Slave O σ) :
    s.startTransmitting.buffer role =
      run I2CBuffer.apply (s.buffer role) (installs role s.startCalls) := by
  cases attached : s.beforeTransmitCallback with
  | none =>
      have silent : s.startCalls = [] := by simp only [startCalls, attached]
      rw [startTransmitting_none attached, silent]
      cases role <;> rfl
  | some callback =>
      have called := buffer_invoke role ({ s with error := .ok, state := .transmitting }.emit
        (.beforeTransmit s.addressCalled)) (callback s.addressCalled)
      have calls : s.startCalls = (callback s.addressCalled .ok s.memory s.app).calls := by
        simp only [startCalls, attached]
      rw [startTransmitting_some attached, calls]
      cases role <;> exact called

theorem buffer_answerRequest (s : Slave O σ) (startOfFrame : Bool) :
    (s.answerRequest startOfFrame).rxBuffer = s.rxBuffer ∧
      (s.answerRequest startOfFrame).txBuffer =
        run I2CBuffer.apply s.txBuffer (s.answerSteps startOfFrame) ∧
      ∃ data, (s.answerRequest startOfFrame).trace = s.trace ++
        ((emitted I2CBuffer.apply I2CBuffer.touched s.txBuffer (s.answerSteps startOfFrame)).map
          (fun cell => .access (.fetch cell)) ++ [.stdr data]) := by
  cases buffer : s.txBuffer.initialised with
  | false => simp [answerRequest, answerSteps, buffer, emit, emitted]
  | true =>
      have same : s.txBuffer.reset.initialised = true := buffer
      cases startOfFrame with
      | true =>
          cases data : s.txBuffer.reset.hasDataAvailable <;>
            cases trailing : s.trailingByteSent <;>
            simp [answerRequest, answerSteps, buffer, same, data, trailing, emit, emitted,
              sendNext, I2CBuffer.apply, I2CBuffer.touched]
      | false =>
          cases data : s.txBuffer.hasDataAvailable <;>
            cases trailing : s.trailingByteSent <;>
            simp [answerRequest, answerSteps, buffer, data, trailing, emit, emitted, sendNext,
              I2CBuffer.apply, I2CBuffer.touched]

theorem guarded_answerSteps (s : Slave O σ) (startOfFrame : Bool) :
    Along I2CBuffer.apply I2CBuffer.Guarded s.txBuffer (s.answerSteps startOfFrame) := by
  have guarded : ∀ b : I2CBuffer O, Along I2CBuffer.apply I2CBuffer.Guarded b
      (if b.initialised && b.hasDataAvailable then [.move] else []) := by
    intro b
    split
    · rename_i ready
      simp only [I2CBuffer.hasDataAvailable, Bool.and_eq_true, decide_eq_true_eq] at ready
      exact ⟨Nat.ne_of_lt ready.2, trivial⟩
    · trivial
  unfold answerSteps
  dsimp only
  split
  · exact ⟨trivial, guarded _⟩
  · exact guarded _

variable [DecidableEq O]

theorem buffer_receiveData (s : Slave O σ) (srdr : Srdr) :
    (s.receiveData srdr).txBuffer = s.txBuffer ∧
      (s.receiveData srdr).rxBuffer =
        run I2CBuffer.apply s.rxBuffer (s.receiveSteps srdr) ∧
      (s.receiveData srdr).trace = s.trace ++
        (emitted I2CBuffer.apply I2CBuffer.touched s.rxBuffer (s.receiveSteps srdr)).map
          (fun cell => .access (.store cell srdr.data)) := by
  obtain ⟨sof, data⟩ := srdr
  cases buffer : s.rxBuffer.initialised with
  | false => cases sof <;> simp [receiveData, receiveSteps, startReceiving, buffer, emitted]
  | true =>
      have same : s.rxBuffer.reset.initialised = true := buffer
      cases sof with
      | true =>
          cases full : s.rxBuffer.reset.full <;>
            simp [receiveData, receiveSteps, startReceiving, buffer, same, full, emitted,
              storeReceived, I2CBuffer.apply, I2CBuffer.touched]
      | false =>
          cases full : s.rxBuffer.full <;>
            simp [receiveData, receiveSteps, buffer, full, emitted, storeReceived,
              I2CBuffer.apply, I2CBuffer.touched]

omit [DecidableEq O] in
theorem guarded_receiveSteps (s : Slave O σ) (srdr : Srdr) :
    Along I2CBuffer.apply I2CBuffer.Guarded s.rxBuffer (s.receiveSteps srdr) := by
  have guarded : ∀ b : I2CBuffer O, Along I2CBuffer.apply I2CBuffer.Guarded b
      (if b.initialised && !b.full then [.move] else []) := by
    intro b
    split
    · rename_i ready
      simp only [I2CBuffer.full, Bool.and_eq_true, Bool.not_eq_true', beq_eq_false_iff_ne]
        at ready
      exact ⟨ready.2, trivial⟩
    · trivial
  unfold receiveSteps
  dsimp only
  split
  · exact ⟨trivial, guarded _⟩
  · exact guarded _

omit [DecidableEq O] in
theorem buffer_serveAddress (role : BufferRole) (s : Slave O σ) (h : SlaveStatus) :
    (s.serveAddress h).buffer role = s.buffer role := by
  unfold serveAddress
  split
  · cases role <;> rfl
  · rfl

omit [DecidableEq O] in
theorem buffer_serveEnd (role : BufferRole) (s : Slave O σ) (h : SlaveStatus) :
    (serveEnd h s).buffer role = run I2CBuffer.apply (s.buffer role)
      (if h.rsf || h.sdf then installs role s.endCalls else []) := by
  unfold serveEnd
  split
  · exact buffer_endOfFrame role s
  · rfl

theorem buffer_serveReceive (role : BufferRole) (s : Slave O σ) (h : SlaveStatus) :
    (serveReceive h s).buffer role = run I2CBuffer.apply (s.buffer role)
      (match role with
        | .receive => if h.rdf then receiveSteps s h.srdr else []
        | .transmit => []) := by
  unfold serveReceive
  cases role with
  | receive =>
      split
      · exact (buffer_receiveData s h.srdr).2.1
      · rfl
  | transmit =>
      split
      · exact (buffer_receiveData s h.srdr).1
      · rfl

omit [DecidableEq O] in
theorem buffer_serveTransmit (role : BufferRole) (s : Slave O σ) (h : SlaveStatus) :
    (serveTransmit h s).buffer role = run I2CBuffer.apply (s.buffer role)
      (if h.tdf then transmitSteps role s else []) := by
  have answered : ∀ (t : Slave O σ) (startOfFrame : Bool),
      (t.answerRequest startOfFrame).buffer role = run I2CBuffer.apply (t.buffer role)
        (match role with
          | .receive => []
          | .transmit => answerSteps t startOfFrame) := by
    intro t startOfFrame
    cases role with
    | receive => exact (buffer_answerRequest t startOfFrame).1
    | transmit => exact (buffer_answerRequest t startOfFrame).2.1
  unfold serveTransmit
  split
  · unfold transmitData transmitSteps
    dsimp only
    rw [answered, run_append]
    split
    · rw [buffer_startTransmitting]
    · rfl
  · rfl

omit [DecidableEq O] in
theorem buffer_serveBitError (role : BufferRole) (s : Slave O σ) (h : SlaveStatus) :
    (serveBitError h s).buffer role = s.buffer role := by
  unfold serveBitError
  split
  · rw [endOfFrame_aborted rfl]
    cases role <;> rfl
  · rfl

theorem buffer_isr (role : BufferRole) (s : Slave O σ) (h : SlaveStatus) :
    (s.isr h).buffer role = run I2CBuffer.apply (s.buffer role) (isrSteps role s h) := by
  unfold isr isrSteps
  dsimp only
  rw [buffer_serveBitError, buffer_serveTransmit, buffer_serveReceive, buffer_serveEnd,
    run_append, run_append, buffer_serveAddress]

theorem guarded_isr (role : BufferRole) (s : Slave O σ) (h : SlaveStatus) :
    Along I2CBuffer.apply I2CBuffer.Guarded (s.buffer role) (isrSteps role s h) := by
  let addressed := s.serveAddress h
  let ended := serveEnd h addressed
  let received := serveReceive h ended
  have atEnd := buffer_serveEnd role addressed h
  have atReceive := buffer_serveReceive role ended h
  unfold isrSteps
  dsimp only
  rw [← buffer_serveAddress role s h, along_append, along_append, ← atEnd, ← atReceive]
  refine ⟨?_, ?_, ?_⟩
  · split
    · exact guarded_installs role _ _
    · trivial
  · cases role with
    | receive =>
        dsimp only
        split
        · exact guarded_receiveSteps ended h.srdr
        · trivial
    | transmit => trivial
  · split
    · unfold transmitSteps
      dsimp only
      rw [along_append]
      refine ⟨?_, ?_⟩
      · split
        · exact guarded_installs role _ _
        · trivial
      · cases role with
        | receive => trivial
        | transmit =>
            split
            · have started := buffer_startTransmitting .transmit received
              exact started ▸ guarded_answerSteps _ _
            · exact guarded_answerSteps received _
    · trivial

/-! ### Runs -/

/-- What the application does outside the service routine. A call of a setter is interrupted
after each of its first two assignments. -/
inductive Action (O σ : Type) where
  | isr (h : SlaveStatus)
  | set (role : BufferRole) (w : Extent O) (beforePointer beforeSize : List SlaveStatus)
  | application (app : σ) (memory : Memory O UInt8)
  | afterReceive (callback : Option (Nat → UInt16 → Callback O σ))
  | beforeTransmit (callback : Option (UInt16 → Callback O σ))
  | afterTransmit (callback : Option (UInt16 → Callback O σ))
  | listen (form : ListenForm)
  | stopListening

def resetBuffer (s : Slave O σ) (role : BufferRole) : Slave O σ :=
  s.withBuffer (s.buffer role).reset role

def setPointer (s : Slave O σ) (role : BufferRole) (newBuffer : Pointer O) : Slave O σ :=
  s.withBuffer ((s.buffer role).setBuffer newBuffer) role

def setSize (s : Slave O σ) (role : BufferRole) (newSize : Nat) : Slave O σ :=
  s.withBuffer ((s.buffer role).setSize newSize) role

def serve (s : Slave O σ) : Action O σ → Slave O σ
  | .isr h => s.isr h
  | .set role w beforePointer beforeSize =>
      let s := run isr (s.resetBuffer role) beforePointer
      let s := run isr (s.setPointer role w.buffer) beforeSize
      s.setSize role w.size
  | .application app memory => { s with app := app, memory := memory }
  | .afterReceive callback => s.afterReceive callback
  | .beforeTransmit callback => s.beforeTransmit callback
  | .afterTransmit callback => s.afterTransmit callback
  | .listen form => s.listen form
  | .stopListening => s.stopListening

/-- What the service routine does to one buffer over some calls. -/
def isrUpdates (role : BufferRole) (s : Slave O σ) (words : List SlaveStatus) :
    List (Update O) :=
  (emitted isr (isrSteps role) s words).map .isr

/-- What happens to one buffer, in order. The assignments of a call show only at its own one. -/
def updates (role : BufferRole) (s : Slave O σ) : Action O σ → List (Update O)
  | .isr h => isrUpdates role s [h]
  | .set called w beforePointer beforeSize =>
      let own (u : Update O) : List (Update O) := if called = role then [u] else []
      let cleared := s.resetBuffer called
      let aimed := (run isr cleared beforePointer).setPointer called w.buffer
      own (.resetCursor w) ++ (isrUpdates role cleared beforePointer ++
        (own .setBuffer ++ (isrUpdates role aimed beforeSize ++ own .setSize)))
  | _ => []

omit [DecidableEq O] in
theorem run_isrSteps (x : Replaced O) (steps : List (BufferStep O)) :
    (run Replaced.step x (steps.map .isr)).b = run I2CBuffer.apply x.b steps ∧
      (run Replaced.step x (steps.map .isr)).pending = x.pending ∧
      (Along I2CBuffer.apply I2CBuffer.Guarded x.b steps →
        Along Replaced.step (fun x u => x.Guarded u ∧ x.InOrder u) x (steps.map .isr)) := by
  induction steps generalizing x with
  | nil => exact ⟨rfl, rfl, fun _ => trivial⟩
  | cons step steps ih =>
      have rest := ih (x.step (.isr step))
      have same : (x.step (.isr step)).b = x.b.apply step ∧
          (x.step (.isr step)).pending = x.pending := by
        cases step <;> exact ⟨rfl, rfl⟩
      rw [same.1, same.2] at rest
      exact ⟨rest.1, rest.2.1, fun guarded => ⟨⟨guarded.1, trivial⟩, rest.2.2 guarded.2⟩⟩

variable {role : BufferRole} {x : Replaced O} {us vs : List (Update O)} {s t : Slave O σ}
  {call call' : Option (Pending O)}

/-- Some legal steps that lead to the buffer of `s`, with this call in progress. -/
structure Tracks (role : BufferRole) (x : Replaced O) (us : List (Update O)) (s : Slave O σ)
    (call : Option (Pending O)) : Prop where
  proper : Along Replaced.step (fun x u => x.Guarded u ∧ x.InOrder u) x us
  buffer : (run Replaced.step x us).b = s.buffer role
  pending : (run Replaced.step x us).pending = call

omit [DecidableEq O] in
theorem Tracks.trans (first : Tracks role x us s call)
    (second : Tracks role (run Replaced.step x us) vs t call') :
    Tracks role x (us ++ vs) t call' where
  proper := (along_append x us vs).mpr ⟨first.proper, second.proper⟩
  buffer := by rw [run_append, second.buffer]
  pending := by rw [run_append, second.pending]

omit [DecidableEq O] in
theorem tracks_nil (buffer : x.b = s.buffer role) : Tracks role x [] s x.pending :=
  ⟨trivial, buffer, rfl⟩

theorem tracks_isr (buffer : x.b = s.buffer role) (words : List SlaveStatus) :
    Tracks role x (isrUpdates role s words) (run isr s words) x.pending := by
  induction words generalizing x s with
  | nil => exact tracks_nil buffer
  | cons h words ih =>
      obtain ⟨moved, pending, proper⟩ := run_isrSteps x (isrSteps role s h)
      rw [buffer, ← buffer_isr] at moved
      have first : Tracks role x ((isrSteps role s h).map .isr) (s.isr h) x.pending :=
        ⟨proper (buffer ▸ guarded_isr role s h), moved, pending⟩
      have rest := ih moved
      rw [pending] at rest
      have whole := first.trans rest
      rw [isrUpdates, emitted, List.map_append]
      exact whole

omit [DecidableEq O] in
theorem tracks_own (buffer : x.b = s.buffer role) (w : Extent O) :
    (x.pending = none →
      Tracks role x [.resetCursor w] (s.resetBuffer role) (some { extent := w })) ∧
    (x.pending = some { extent := w } →
      Tracks role x [.setBuffer] (s.setPointer role w.buffer)
        (some { extent := w, half := true })) ∧
    (x.pending = some { extent := w, half := true } →
      Tracks role x [.setSize] (s.setSize role w.size) none) := by
  refine ⟨fun none => ?_, fun pending => ?_, fun pending => ?_⟩
  · refine ⟨⟨⟨trivial, none⟩, trivial⟩, ?_, rfl⟩
    simp only [run_cons, run_nil, Replaced.step, buffer]
    cases role <;> rfl
  · refine ⟨⟨⟨trivial, _, pending, rfl⟩, trivial⟩, ?_, ?_⟩
    · simp only [run_cons, run_nil, Replaced.step, pending, buffer]
      cases role <;> rfl
    · simp only [run_cons, run_nil, Replaced.step, pending]
  · refine ⟨⟨⟨trivial, _, pending, rfl⟩, trivial⟩, ?_, ?_⟩
    · simp only [run_cons, run_nil, Replaced.step, pending, buffer]
      cases role <;> rfl
    · simp only [run_cons, run_nil, Replaced.step, pending]

omit [DecidableEq O] in
theorem withBuffer_other (s : Slave O σ) (b : I2CBuffer O) {called : BufferRole}
    (other : called ≠ role) : (s.withBuffer b called).buffer role = s.buffer role := by
  cases called <;> cases role
  · exact absurd rfl other
  · rfl
  · rfl
  · exact absurd rfl other

theorem tracks_action (buffer : x.b = s.buffer role) (none : x.pending = none) (a : Action O σ) :
    Tracks role x (updates role s a) (s.serve a) Option.none := by
  have silent : ∀ t : Slave O σ, t.buffer role = s.buffer role →
      Tracks role x [] t Option.none := fun t same => ⟨trivial, buffer.trans same.symm, none⟩
  cases a with
  | isr h =>
      have tracked := tracks_isr buffer [h]
      rw [none] at tracked
      exact tracked
  | set called w beforePointer beforeSize =>
      by_cases own : called = role
      · subst own
        have cleared := (tracks_own buffer w).1 none
        have first := cleared.trans (tracks_isr cleared.buffer beforePointer)
        rw [cleared.pending] at first
        have aimed := first.trans ((tracks_own first.buffer w).2.1 first.pending)
        have second := aimed.trans (tracks_isr aimed.buffer beforeSize)
        rw [aimed.pending] at second
        have last := second.trans ((tracks_own second.buffer w).2.2 second.pending)
        simpa [updates, serve] using last
      · let cleared := s.resetBuffer called
        let aimed := (run isr cleared beforePointer).setPointer called w.buffer
        have first : Tracks role x (isrUpdates role cleared beforePointer)
            (run isr cleared beforePointer) x.pending :=
          tracks_isr (buffer.trans (withBuffer_other s _ own).symm) beforePointer
        have still : aimed.buffer role = (run isr cleared beforePointer).buffer role :=
          withBuffer_other _ _ own
        have second := first.trans (tracks_isr (first.buffer.trans still.symm) beforeSize)
        rw [first.pending, none] at second
        have last : Tracks role x (updates role s (.set called w beforePointer beforeSize))
            (run isr aimed beforeSize) Option.none := by
          simpa [updates, own] using second
        exact { last with buffer := last.buffer.trans (withBuffer_other _ _ own).symm }
  | application app memory => exact silent _ (by cases role <;> rfl)
  | afterReceive callback => exact silent _ (by cases role <;> rfl)
  | beforeTransmit callback => exact silent _ (by cases role <;> rfl)
  | afterTransmit callback => exact silent _ (by cases role <;> rfl)
  | listen form => exact silent _ (by cases form <;> cases role <;> rfl)
  | stopListening => exact silent _ (by cases role <;> rfl)

theorem tracks_run (buffer : x.b = s.buffer role) (none : x.pending = none)
    (actions : List (Action O σ)) :
    Tracks role x (emitted serve (updates role) s actions) (run serve s actions) Option.none := by
  induction actions generalizing x s with
  | nil => exact ⟨trivial, buffer, none⟩
  | cons a actions ih =>
      have first := tracks_action buffer none a
      exact first.trans (ih first.buffer first.pending)

def history (role : BufferRole) (app : σ) (memory : Memory O UInt8) (actions : List (Action O σ)) :
    List (Update O) :=
  emitted serve (updates role) { app := app, memory := memory } actions

/-- Every byte that the service routine moves lies in the pair of the last completed call or of
the one in progress; and whenever no call is in progress, the cursor is inside the buffer. -/
def ReplacedSafely (role : BufferRole) (app : σ) (memory : Memory O UInt8)
    (actions : List (Action O σ)) : Prop :=
  Along Replaced.step Replaced.Inside {} (history role app memory actions) ∧
    ∀ before after, actions = before ++ after →
      ((run serve { app := app, memory := memory } before : Slave O σ).buffer role).Bounded

/-- A slave whose buffers are replaced at any time, as long as no call is overtaken while its
size is still to be set. -/
theorem replaced_safely (role : BufferRole) (app : σ) (memory : Memory O UInt8)
    (actions : List (Action O σ))
    (orderly : Along Replaced.step Replaced.Orderly {} (history role app memory actions)) :
    ReplacedSafely role app memory actions := by
  let s : Slave O σ := { app := app, memory := memory }
  have tracks : ∀ actions, Tracks role {} (emitted serve (updates role) s actions)
      (run serve s actions) none :=
    tracks_run (by cases role <;> rfl) rfl
  refine ⟨(Replaced.sound_run Replaced.sound_fresh (tracks actions).proper orderly).1, ?_⟩
  rintro before after rfl
  rw [history, emitted_append, along_append] at orderly
  have tracked := tracks before
  have sound := (Replaced.sound_run Replaced.sound_fresh tracked.proper orderly.1).2
  rw [← tracked.buffer]
  exact (sound.whole (by simp [tracked.pending])).2.2

/-- One byte has come for a buffer of four cells when the application replaces it, and two more
come before the new size is set. -/
def replacedBy (w : Extent Nat) : List (Action Nat Unit) :=
  let byte (sof : Bool) (data : UInt8) : SlaveStatus := { rdf := true, srdr := ⟨sof, data⟩ }
  [.set .receive ⟨⟨1, 0⟩, 4⟩ [] [], .isr (byte true 0x10),
    .set .receive w [] [byte false 0x11, byte false 0x12]]

/-- With a new buffer of one cell the third byte is stored behind it, and the cursor stays out of
bounds. -/
theorem replaced_not_safely :
    let actions := replacedBy ⟨⟨2, 0⟩, 1⟩
    ¬ ReplacedSafely .receive () (fun _ _ => 0) actions ∧
      ¬ Along Replaced.step Replaced.Inside {} (history .receive () (fun _ _ => 0) actions) ∧
      ((run serve { app := (), memory := fun _ _ => 0 } actions).buffer .receive).nextIndex =
        2 := by
  have outside : ¬ Along Replaced.step Replaced.Inside {}
      (history .receive () (fun _ _ => 0) (replacedBy ⟨⟨2, 0⟩, 1⟩)) := by decide
  exact ⟨fun safely => outside safely.1, outside, by decide⟩

theorem replaced_safely_two :
    ReplacedSafely .receive () (fun _ _ => 0) (replacedBy ⟨⟨2, 0⟩, 2⟩) :=
  replaced_safely _ _ _ _ (by decide)

/-! ### Calls that are not overtaken -/

/-- The service routine does not run between the update of the pointer and that of the size, and
before the pointer is updated it runs no more often than the new buffer has cells. -/
def Action.Undisturbed (role : BufferRole) : Action O σ → Prop
  | .set called w beforePointer beforeSize =>
      called = role → beforePointer.length ≤ w.size ∧ beforeSize = []
  | _ => True

theorem cursor_apply (b : I2CBuffer O) (steps : List (BufferStep O)) :
    (run I2CBuffer.apply b steps).nextIndex ≤ b.nextIndex + steps.count .move := by
  induction steps generalizing b with
  | nil => exact Nat.le_refl _
  | cons step steps ih =>
      have rest := ih (b.apply step)
      rw [run_cons]
      cases step with
      | reset | install w =>
          rw [List.count_cons_of_ne (by simp)]
          exact rest.trans (Nat.add_le_add_right (Nat.zero_le b.nextIndex) _)
      | move =>
          rw [List.count_cons_self]
          exact rest.trans (Nat.le_of_eq (Nat.add_right_comm b.nextIndex 1 _))

omit [Inhabited O] in
theorem count_installs (role : BufferRole) (calls : List (BufferCall O)) :
    (installs role calls).count .move = 0 := by
  refine List.count_eq_zero.mpr fun moves => ?_
  obtain ⟨call, -, same⟩ := List.mem_filterMap.mp moves
  cases role <;> cases call <;> cases same

omit [Inhabited O] in
theorem count_ite (b : Bool) {steps : List (BufferStep O)} {n : Nat}
    (most : steps.count .move ≤ n) : (if b then steps else []).count .move ≤ n := by
  split
  · exact most
  · exact Nat.zero_le n

omit [Inhabited O] in
theorem count_branch (first ready : Bool) :
    ((if first then [.reset] else []) ++ if ready then [.move] else [] :
      List (BufferStep O)).count .move ≤ 1 := by
  cases first <;> cases ready <;> simp

theorem count_transmitSteps (role : BufferRole) (s : Slave O σ) :
    (transmitSteps role s).count .move ≤
      match role with
      | .receive => 0
      | .transmit => 1 := by
  unfold transmitSteps
  dsimp only
  rw [List.count_append]
  have calls := Nat.le_zero.mp (count_ite (SlaveState.idle.code ≤ s.state.code)
    (Nat.le_of_eq (count_installs role s.startCalls)))
  cases role with
  | receive =>
      rw [calls]
      exact Nat.le_refl 0
  | transmit =>
      rw [calls, Nat.zero_add]
      exact count_branch _ _

/-- A call of the service routine moves one byte at most. -/
theorem count_isrSteps (role : BufferRole) (s : Slave O σ) (h : SlaveStatus) :
    (isrSteps role s h).count .move ≤ 1 := by
  unfold isrSteps
  dsimp only
  let ended := serveEnd h (s.serveAddress h)
  let received := serveReceive h ended
  have calls := count_ite (h.rsf || h.sdf)
    (Nat.le_of_eq (count_installs role (s.serveAddress h).endCalls))
  have answers := count_ite h.tdf (count_transmitSteps role received)
  rw [List.count_append, Nat.le_zero.mp calls, Nat.zero_add, List.count_append]
  cases role with
  | receive =>
      have stores : (if h.rdf then ended.receiveSteps h.srdr else []).count .move ≤ 1 :=
        count_ite h.rdf (count_branch _ _)
      exact Nat.add_le_add stores answers
  | transmit =>
      rw [List.count_nil, Nat.zero_add]
      exact answers

theorem cursor_isr (role : BufferRole) (s : Slave O σ) (words : List SlaveStatus) :
    ((run isr s words).buffer role).nextIndex ≤ (s.buffer role).nextIndex + words.length := by
  induction words generalizing s with
  | nil => exact Nat.le_refl _
  | cons h words ih =>
      have moved := cursor_apply (s.buffer role) (isrSteps role s h)
      rw [← buffer_isr] at moved
      have once := count_isrSteps role s h
      have rest := ih (s.isr h)
      rw [run_cons, List.length_cons]
      omega

omit [DecidableEq O] in
theorem orderly_steps (whole : ∀ call ∈ x.pending, call.half = false)
    (steps : List (BufferStep O)) : Along Replaced.step Replaced.Orderly x (steps.map .isr) := by
  induction steps generalizing x with
  | nil => trivial
  | cons step steps ih =>
      have same : (x.step (.isr step)).pending = x.pending := by cases step <;> rfl
      refine ⟨fun call pending half => ?_, ih (same ▸ whole)⟩
      rw [whole call pending] at half
      cases half

theorem updates_own (role : BufferRole) (s : Slave O σ) (w : Extent O)
    (beforePointer : List SlaveStatus) :
    updates role s (.set role w beforePointer []) =
      [.resetCursor w] ++ isrUpdates role (s.resetBuffer role) beforePointer ++ [.setBuffer] ++
        [.setSize] := by
  simp [updates, isrUpdates, emitted]

theorem orderly_own (buffer : x.b = s.buffer role) (none : x.pending = none) (w : Extent O)
    {beforePointer : List SlaveStatus} (few : beforePointer.length ≤ w.size) :
    Along Replaced.step Replaced.Orderly x (updates role s (.set role w beforePointer [])) := by
  let served := run isr (s.resetBuffer role) beforePointer
  have cleared := (tracks_own buffer w).1 none
  have first := cleared.trans (tracks_isr cleared.buffer beforePointer)
  rw [cleared.pending] at first
  have aimed := first.trans ((tracks_own first.buffer w).2.1 first.pending)
  have whole : ∀ call ∈ (x.step (.resetCursor w)).pending, call.half = false := by
    intro call same
    obtain rfl := Option.some.inj same
    rfl
  have before : Along Replaced.step Replaced.Orderly x
      ([.resetCursor w] ++ isrUpdates role (s.resetBuffer role) beforePointer) :=
    ⟨fun _ _ _ => trivial, orderly_steps whole _⟩
  have between := (along_append x _ [.setBuffer]).mpr ⟨before, fun _ _ _ => trivial, trivial⟩
  rw [updates_own]
  refine (along_append x _ [.setSize]).mpr ⟨between, fun call same _ => ?_, trivial⟩
  obtain rfl : { extent := w, half := true } = call :=
    Option.some.inj (aimed.pending.symm.trans same)
  -- Each interrupt has moved the rewound cursor by one cell at most.
  have moved := cursor_isr role (s.resetBuffer role) beforePointer
  have rewound : ((s.resetBuffer role).buffer role).nextIndex = 0 := by cases role <;> rfl
  rw [rewound, Nat.zero_add] at moved
  have kept : ((served.setPointer role w.buffer).buffer role).nextIndex =
      (served.buffer role).nextIndex := by
    cases role <;> rfl
  rw [aimed.buffer, kept]
  exact moved.trans few

theorem orderly_updates (buffer : x.b = s.buffer role) (none : x.pending = none) (a : Action O σ)
    (undisturbed : a.Undisturbed role) :
    Along Replaced.step Replaced.Orderly x (updates role s a) := by
  have idle : ∀ call ∈ x.pending, call.half = false := by simp [none]
  cases a with
  | isr h => exact orderly_steps idle _
  | set called w beforePointer beforeSize =>
      by_cases own : called = role
      · subst own
        obtain ⟨few, rfl⟩ := undisturbed rfl
        exact orderly_own buffer none w few
      · have silent : updates role s (.set called w beforePointer beforeSize) =
            ((emitted isr (isrSteps role) (s.resetBuffer called) beforePointer) ++
              emitted isr (isrSteps role) ((run isr (s.resetBuffer called)
                beforePointer).setPointer called w.buffer) beforeSize).map .isr := by
          simp [updates, isrUpdates, own]
        rw [silent]
        exact orderly_steps idle _
  | application app memory => trivial
  | afterReceive callback => trivial
  | beforeTransmit callback => trivial
  | afterTransmit callback => trivial
  | listen form => trivial
  | stopListening => trivial

/-- A run is orderly if no call is overtaken: no condition on what the service routine does. -/
theorem orderly_of_undisturbed (role : BufferRole) (app : σ) (memory : Memory O UInt8)
    (actions : List (Action O σ)) (undisturbed : ∀ a ∈ actions, a.Undisturbed role) :
    Along Replaced.step Replaced.Orderly {} (history role app memory actions) := by
  have orderly {x : Replaced O} {s : Slave O σ} (buffer : x.b = s.buffer role)
      (none : x.pending = none) :
      Along Replaced.step Replaced.Orderly x (emitted serve (updates role) s actions) := by
    induction actions generalizing x s with
    | nil => trivial
    | cons a actions ih =>
        have first := tracks_action buffer none a
        exact (along_append x _ _).mpr
          ⟨orderly_updates buffer none a (undisturbed a List.mem_cons_self),
            ih (fun b member => undisturbed b (List.mem_cons_of_mem a member)) first.buffer
              first.pending⟩
  exact orderly (by cases role <;> rfl) rfl

end Slave
end TeensyI2C
