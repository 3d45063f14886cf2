import TeensyI2C.Slave.Addresses

/-!
Whole frames at the slave's port. The bus and the service routine take turns in any order. Beside
them stands a record of the frames that have gone over the bus, with what the driver has answered.
An account of the application that is kept up by one frame after another is kept up by every run.
-/

namespace TeensyI2C
open ObjectMemory EventMachine

namespace Transfer

/-- The calls of the service routine for the bytes of a frame, one by one. -/
def calls : Transfer → List SlaveStatus
  | .write first rest => Slave.writeCalls first rest
  | .read count => List.replicate (count + 1) { tdf := true }

/-- One more byte of a frame that may not have had any yet. -/
def addByte (data : UInt8) : Option Transfer → Transfer
  | some (.write first rest) => .write first (rest ++ [data])
  | _ => .write data []

def addRequest : Option Transfer → Transfer
  | some (.read count) => .read (count + 1)
  | _ => .read 0

def reads : Transfer → Bool
  | .write _ _ => false
  | .read _ => true

theorem calls_addByte (data first : UInt8) (rest : List UInt8) :
    (addByte data (some (.write first rest))).calls =
      (Transfer.write first rest).calls ++ [{ rdf := true, srdr := ⟨false, data⟩ }] := by
  simp [addByte, calls, Slave.writeCalls, Slave.laterBytes]

theorem calls_addRequest (count : Nat) :
    (addRequest (some (.read count))).calls =
      (Transfer.read count).calls ++ [{ tdf := true }] :=
  List.replicate_succ'

theorem dataCalls_eq (f : Frame) : f.dataCalls {} = f.transfer.calls := by
  obtain ⟨sasr, transfer, stop, ending⟩ := f
  cases transfer <;> rfl

end Transfer

/-- A frame for the slave. Its transfer grows byte by byte. -/
structure HeardFrame where
  address : BusAddress
  read : Bool
  transfer : Option Transfer := none
  /-- What the driver has put into STDR for the frame. -/
  answered : List UInt8 := []
deriving DecidableEq, Repr

/-- The slave's port with a record beside it. -/
structure Heard (O σ : Type) [Inhabited O] where
  bus : SlaveBus O σ
  /-- The frames so far, the latest first. -/
  frames : List HeardFrame := []

/-- The whole and partial transfers, in their order. -/
def transfers (frames : List HeardFrame) : List Transfer :=
  frames.reverse.filterMap (·.transfer)

namespace Heard
variable {O σ : Type} [Inhabited O] [DecidableEq O]

def latest (update : HeardFrame → HeardFrame) : List HeardFrame → List HeardFrame
  | [] => []
  | f :: older => update f :: older

/-- The event has raised RDF or TDF. -/
def raisesData (b next : SlaveBus O σ) : Bool :=
  !b.pending.hasData && next.pending.hasData

def newBytes (b next : SlaveBus O σ) : List UInt8 :=
  (busBytes next.slave.trace).drop (busBytes b.slave.trace).length

def record (b next : SlaveBus O σ) (frames : List HeardFrame) : BusEvent → List HeardFrame
  | .address address read =>
      if b.line = .free then { address := address, read := read } :: frames else frames
  | .byte data =>
      if raisesData b next then
        latest (fun f => { f with transfer := some (.addByte data f.transfer) }) frames
      else frames
  | .request =>
      if raisesData b next then
        latest (fun f => { f with transfer := some (.addRequest f.transfer) }) frames
      else frames
  | .finish _ => frames
  | .interrupt => latest (fun f => { f with answered := f.answered ++ newBytes b next }) frames

def step (x : Heard O σ) (e : BusEvent) : Heard O σ :=
  let next := x.bus.step e
  { bus := next, frames := record x.bus next x.frames e }

end Heard

/-! ### What the end of a frame and its bytes do -/

namespace SlaveStatus

def data (h : SlaveStatus) : SlaveStatus :=
  { rdf := h.rdf, tdf := h.tdf, srdr := h.srdr }

end SlaveStatus

namespace Slave
variable {O σ : Type} [Inhabited O]

theorem busBytes_endOfFrame (s : Slave O σ) :
    busBytes s.endOfFrame.trace = busBytes s.trace := by
  cases state : s.state with
  | receiving =>
      cases attached : s.afterReceiveCallback with
      | none => rw [endOfFrame_receiving_none state attached]
      | some callback =>
          rw [endOfFrame_receiving state attached, invoke_eq]
          simp [emit, busBytes]
  | transmitting =>
      cases attached : s.afterTransmitCallback with
      | none => rw [endOfFrame_transmitting_none state attached]
      | some callback =>
          rw [endOfFrame_transmitting state attached, invoke_eq]
          simp [emit, busBytes]
  | idle => rw [endOfFrame_idle state]
  | aborted => rw [endOfFrame_aborted state]

/-- The address and the end of the frame before, as the service routine finds them. -/
def opened (s : Slave O σ) (h : SlaveStatus) : Slave O σ :=
  serveEnd h (s.serveAddress h)

theorem busBytes_opened (s : Slave O σ) (h : SlaveStatus) :
    busBytes (s.opened h).trace = busBytes s.trace := by
  obtain ⟨address, named⟩ := serveAddress_eq s h
  unfold opened serveEnd
  rw [named]
  split
  · exact busBytes_endOfFrame _
  · rfl

variable [DecidableEq O]

theorem isr_opened (s : Slave O σ) {h : SlaveStatus} (bef : h.bef = false) :
    s.isr h = (s.opened h).isr h.data :=
  run_opening s h [] bef

theorem isr_data (s : Slave O σ) {h : SlaveStatus} (bef : h.bef = false)
    (addressed : h.avf = false) (ended : h.frameEnded = false) : s.isr h = s.isr h.data := by
  have flags : (h.rsf || h.sdf) = false := ended
  rw [isr_opened s bef, opened, serveAddress, if_neg (by simp [addressed]), serveEnd,
    if_neg (by simp [flags])]

theorem isr_without_data (s : Slave O σ) {h : SlaveStatus} (bef : h.bef = false)
    (none : h.hasData = false) : s.isr h = s.opened h := by
  have flags : h.rdf = false ∧ h.tdf = false := by simpa [SlaveStatus.hasData] using none
  simp [isr, serveBitError, serveReceive, serveTransmit, bef, flags, opened]

end Slave

/-! ### An account of the application -/

/-- `I a s` says that the driver and the application behind it are where the frames so far have
brought an abstract state `a`. A whole frame leads to `next a t`, and its requests are answered with
the bytes `wire a t`. -/
structure Account {O σ α : Type} [Inhabited O] [DecidableEq O] (next : α → Transfer → α)
    (wire : α → Transfer → List UInt8) (I : α → Slave O σ → Prop) : Prop where
  idle : ∀ {a s}, I a s → s.state = .idle
  address : ∀ {a s}, I a s → ∀ status, I a (s.serveAddress status)
  frame : ∀ {a s}, I a s → ∀ t status,
    I (next a t) ((run Slave.isr s t.calls).serveAddress status).endOfFrame
  answers : ∀ {a s}, I a s → ∀ t,
    busBytes (run Slave.isr s t.calls).trace = busBytes s.trace ++ wire a t
  silent : ∀ a first rest, wire a (.write first rest) = []
  grows : ∀ a count, wire a (.read count) <+: wire a (.read (count + 1))

namespace Heard
variable {O σ α : Type} [Inhabited O] [DecidableEq O] {next : α → Transfer → α}
  {wire : α → Transfer → List UInt8} {I : α → Slave O σ → Prop} {a₀ : α}
  {frames older : List HeardFrame} {b : SlaveBus O σ} {s : Slave O σ}

/-- What the frames have made of the abstract state. -/
def account (next : α → Transfer → α) (a₀ : α) (frames : List HeardFrame) : α :=
  run next a₀ (transfers frames)

omit [DecidableEq O] [Inhabited O] in
theorem account_cons (f : HeardFrame) (older : List HeardFrame) :
    account next a₀ (f :: older) = f.transfer.elim (account next a₀ older)
      (next (account next a₀ older)) := by
  unfold account transfers
  rw [List.reverse_cons, List.filterMap_append, run_append]
  cases transfer : f.transfer <;> simp [transfer]

/-- What the account says about the answers to a frame. -/
def answers (next : α → Transfer → α) (wire : α → Transfer → List UInt8) (a₀ : α)
    (f : HeardFrame) (older : List HeardFrame) : List UInt8 :=
  f.transfer.elim [] (wire (account next a₀ older))

/-- Every frame has been answered in full. -/
def Told (next : α → Transfer → α) (wire : α → Transfer → List UInt8) (a₀ : α) :
    List HeardFrame → Prop
  | [] => True
  | f :: older => f.answered = answers next wire a₀ f older ∧ Told next wire a₀ older

omit [DecidableEq O] [Inhabited O] in
theorem Told.mem {newer : List HeardFrame} {f : HeardFrame}
    (told : Told next wire a₀ (newer ++ f :: older)) :
    f.answered = answers next wire a₀ f older := by
  induction newer with
  | nil => exact told.1
  | cons g newer ih => exact ih told.2

/-- The driver is where the frames have brought it, or it is still to find the end of the last one
that had any bytes. -/
def Reached (I : α → Slave O σ → Prop) (next : α → Transfer → α) (a : α) (h : SlaveStatus)
    (s : Slave O σ) : Prop :=
  I a s ∨ h.frameEnded = true ∧ ∃ a' s' t, I a' s' ∧ s = run Slave.isr s' t.calls ∧ a = next a' t

theorem Reached.opened (acc : Account next wire I) {a : α} {h : SlaveStatus}
    (reached : Reached I next a h s) : I a (s.opened h) := by
  unfold Slave.opened
  rcases reached with there | ⟨ended, a', s', t, before, rfl, rfl⟩
  · have named := acc.address there h
    unfold Slave.serveEnd
    split
    · rw [Slave.endOfFrame_idle (acc.idle named)]
      exact named
    · exact named
  · rw [Slave.serveEnd_of_ended _ ended]
    exact acc.frame before t h

theorem Reached.mono {a : α} {h h' : SlaveStatus} (reached : Reached I next a h s)
    (more : h.frameEnded = true → h'.frameEnded = true) : Reached I next a h' s :=
  reached.imp_right fun ⟨ended, before⟩ => ⟨more ended, before⟩

/-- No frame with bytes is under way. -/
structure Between (I : α → Slave O σ → Prop) (next : α → Transfer → α)
    (wire : α → Transfer → List UInt8) (a₀ : α) (x : Heard O σ) : Prop where
  reached : Reached I next (account next a₀ x.frames) x.bus.pending x.bus.slave
  noData : x.bus.pending.hasData = false
  told : Told next wire a₀ x.frames
  line : x.bus.line = .free ∨ ∃ f older, x.frames = f :: older ∧
    x.bus.line = .busy f.read false ∧ f.transfer = none ∧ f.answered = []

/-- The first byte of a frame waits for the service routine. -/
structure Opening (I : α → Slave O σ → Prop) (next : α → Transfer → α)
    (wire : α → Transfer → List UInt8) (a₀ : α) (f : HeardFrame) (older : List HeardFrame)
    (b : SlaveBus O σ) : Prop where
  reached : Reached I next (account next a₀ older) b.pending b.slave
  line : b.line = .busy f.read true
  hasData : b.pending.hasData = true
  first : ∃ t, f.transfer = some t ∧ t.reads = f.read ∧ t.calls = [b.pending.data]
  unanswered : f.answered = []
  told : Told next wire a₀ older

/-- Some bytes of the frame have been served. -/
structure Underway (I : α → Slave O σ → Prop) (next : α → Transfer → α)
    (wire : α → Transfer → List UInt8) (a₀ : α) (f : HeardFrame) (older : List HeardFrame)
    (b : SlaveBus O σ) : Prop where
  line : b.line = .busy f.read true
  plain : b.pending.avf = false ∧ b.pending.frameEnded = false
  served : ∃ s' t, I (account next a₀ older) s' ∧ b.slave = run Slave.isr s' t.calls ∧
    t.reads = f.read ∧ f.answered = wire (account next a₀ older) t ∧
    if b.pending.hasData then
      ∃ t', f.transfer = some t' ∧ t'.reads = f.read ∧ t'.calls = t.calls ++ [b.pending.data] ∧
        wire (account next a₀ older) t <+: wire (account next a₀ older) t'
    else f.transfer = some t
  told : Told next wire a₀ older

/-- What holds of the port and its record at any time. -/
structure Accounted (I : α → Slave O σ → Prop) (next : α → Transfer → α)
    (wire : α → Transfer → List UInt8) (a₀ : α) (x : Heard O σ) : Prop where
  noError : x.bus.pending.bef = false
  noByte : x.bus.pending.rdf = false → x.bus.pending.srdr = ⟨false, 0⟩
  phase : Between I next wire a₀ x ∨ ∃ f older, x.frames = f :: older ∧
    (Opening I next wire a₀ f older x.bus ∨ Underway I next wire a₀ f older x.bus)

variable {x : Heard O σ} {f : HeardFrame}

theorem step_address_busy {read begun : Bool} (line : x.bus.line = .busy read begun)
    (address : BusAddress) (read' : Bool) : x.step (.address address read') = x := by
  simp [Heard.step, SlaveBus.step, SlaveBus.address, record, line]

theorem Between.address (between : Between I next wire a₀ x) (address : BusAddress)
    (read : Bool) : Between I next wire a₀ (x.step (.address address read)) := by
  obtain ⟨reached, noData, told, line⟩ := between
  rcases line with free | ⟨f, older, frames, busy, none⟩
  · have bus : x.bus.step (.address address read) = { x.bus with
        line := .busy read false
        pending := { x.bus.pending with avf := true, sasr := sasrWord address read }
        latest := address } := by
      simp [SlaveBus.step, SlaveBus.address, free]
    have record : (x.step (.address address read)).frames =
        { address := address, read := read } :: x.frames := by
      simp [Heard.step, record, free]
    refine ⟨?_, ?_, ?_, .inr ⟨_, _, record, ?_, rfl, rfl⟩⟩
    · rw [record, account_cons]
      simp only [Heard.step, bus]
      exact reached.mono id
    · simp only [Heard.step, bus]
      exact noData
    · rw [record]
      exact ⟨rfl, told⟩
    · simp only [Heard.step, bus]
  · rw [step_address_busy busy]
    exact ⟨reached, noData, told, .inr ⟨f, older, frames, busy, none⟩⟩

theorem step_finish_waits (hasData : x.bus.pending.hasData = true) (stop : Bool) :
    x.step (.finish stop) = x := by
  cases line : x.bus.line <;>
    simp [Heard.step, SlaveBus.step, SlaveBus.finish, record, line, hasData]

theorem finish_busy {read begun : Bool} (line : x.bus.line = .busy read begun)
    (noData : x.bus.pending.hasData = false) (stop : Bool) :
    let y := x.step (.finish stop)
    y.frames = x.frames ∧ y.bus.slave = x.bus.slave ∧ y.bus.line = .free ∧
      y.bus.pending.hasData = false ∧ y.bus.pending.frameEnded = true ∧
      y.bus.pending.bef = x.bus.pending.bef ∧ y.bus.pending.srdr = x.bus.pending.srdr := by
  have flags : (x.bus.pending.rdf || x.bus.pending.tdf) = false := noData
  cases stop <;>
    simp [Heard.step, SlaveBus.step, SlaveBus.finish, record, line, SlaveStatus.hasData,
      SlaveStatus.frameEnded, flags]

theorem step_finish_free (line : x.bus.line = .free) (stop : Bool) : x.step (.finish stop) = x := by
  simp [Heard.step, SlaveBus.step, SlaveBus.finish, record, line]

theorem Between.finish (between : Between I next wire a₀ x) (stop : Bool) :
    Between I next wire a₀ (x.step (.finish stop)) := by
  obtain ⟨reached, noData, told, line⟩ := between
  rcases line with free | ⟨f, older, frames, busy, none⟩
  · rw [step_finish_free free]
    exact ⟨reached, noData, told, .inl free⟩
  · obtain ⟨same, slave, free, noData', ended, -⟩ := finish_busy busy noData stop
    refine ⟨?_, noData', ?_, .inl free⟩
    · rw [same, slave]
      exact reached.mono fun _ => ended
    · rw [same]
      exact told

theorem Underway.finish (underway : Underway I next wire a₀ f older x.bus)
    (frames : x.frames = f :: older) (noData : x.bus.pending.hasData = false) (stop : Bool) :
    Between I next wire a₀ (x.step (.finish stop)) := by
  obtain ⟨line, -, ⟨s', t, before, slave, -, answered, rest⟩, told⟩ := underway
  rw [if_neg (by simp [noData])] at rest
  obtain ⟨same, kept, free, noData', ended, -⟩ := finish_busy line noData stop
  refine ⟨.inr ⟨ended, _, s', t, before, kept.trans slave, ?_⟩, noData', ?_, .inl free⟩
  · rw [same, frames, account_cons, rest]
    rfl
  · rw [same, frames]
    refine ⟨?_, told⟩
    rw [answered, answers, rest]
    rfl

theorem Between.interrupt (acc : Account next wire I) (between : Between I next wire a₀ x)
    (noError : x.bus.pending.bef = false) : Between I next wire a₀ (x.step .interrupt) := by
  obtain ⟨reached, noData, told, line⟩ := between
  have opened := reached.opened acc
  have bus : x.bus.step .interrupt =
      if x.bus.raised then { x.bus with
        slave := x.bus.slave.opened x.bus.pending
        pending := { sasr := x.bus.pending.sasr } }
      else x.bus := by
    simp [SlaveBus.step, SlaveBus.interrupt, noData, Slave.isr_without_data _ noError noData]
  have silent : newBytes x.bus (x.bus.step .interrupt) = [] := by
    rw [newBytes, bus]
    split <;> simp [Slave.busBytes_opened]
  have frames : (x.step .interrupt).frames = x.frames := by
    cases all : x.frames <;> simp [Heard.step, record, silent, latest, all]
  refine ⟨?_, ?_, ?_, ?_⟩
  · rw [frames]
    simp only [Heard.step, bus]
    split
    · exact .inl opened
    · exact reached
  · simp only [Heard.step, bus]
    split
    · rfl
    · exact noData
  · rw [frames]
    exact told
  · rw [frames]
    simp only [Heard.step, bus]
    split <;> exact line

/-! Bytes and requests -/

theorem step_byte_refused (data : UInt8)
    (refused : x.bus.pending.hasData = true ∨ ∀ begun, x.bus.line ≠ .busy false begun) :
    x.step (.byte data) = x := by
  have same : x.bus.byte data = x.bus := by
    unfold SlaveBus.byte
    rcases refused with waits | other
    · split <;> simp [waits]
    · split
      · next begun line => exact absurd line (other begun)
      · rfl
  simp [Heard.step, SlaveBus.step, record, same, raisesData]

theorem step_request_refused
    (refused : x.bus.pending.hasData = true ∨ ∀ begun, x.bus.line ≠ .busy true begun) :
    x.step .request = x := by
  have same : x.bus.request = x.bus := by
    unfold SlaveBus.request
    rcases refused with waits | other
    · split <;> simp [waits]
    · split
      · next begun line => exact absurd line (other begun)
      · rfl
  simp [Heard.step, SlaveBus.step, record, same, raisesData]

theorem step_byte_taken {begun : Bool} (data : UInt8) (line : x.bus.line = .busy false begun)
    (noData : x.bus.pending.hasData = false) (frames : x.frames = f :: older) :
    x.step (.byte data) =
      { bus := { x.bus with
          line := .busy false true
          pending := { x.bus.pending with rdf := true, srdr := ⟨!begun, data⟩ } }
        frames := { f with transfer := some (.addByte data f.transfer) } :: older } := by
  have flags : (x.bus.pending.rdf || x.bus.pending.tdf) = false := noData
  simp [Heard.step, SlaveBus.step, SlaveBus.byte, record, raisesData, line, frames, latest,
    SlaveStatus.hasData, flags]

theorem step_request_taken {begun : Bool} (line : x.bus.line = .busy true begun)
    (noData : x.bus.pending.hasData = false) (frames : x.frames = f :: older) :
    x.step .request =
      { bus := { x.bus with
          line := .busy true true
          pending := { x.bus.pending with tdf := true } }
        frames := { f with transfer := some (.addRequest f.transfer) } :: older } := by
  have flags : (x.bus.pending.rdf || x.bus.pending.tdf) = false := noData
  simp [Heard.step, SlaveBus.step, SlaveBus.request, record, raisesData, line, frames, latest,
    SlaveStatus.hasData, flags]

theorem Between.byte (between : Between I next wire a₀ x) (data : UInt8) :
    Between I next wire a₀ (x.step (.byte data)) ∨
      ∃ f older, (x.step (.byte data)).frames = f :: older ∧
        Opening I next wire a₀ f older (x.step (.byte data)).bus := by
  obtain ⟨reached, noData, told, line⟩ := between
  have refused (other : ∀ begun, x.bus.line ≠ .busy false begun) :
      Between I next wire a₀ (x.step (.byte data)) := by
    rw [step_byte_refused data (.inr other)]
    exact ⟨reached, noData, told, line⟩
  rcases line with free | ⟨f, older, frames, busy, none, unanswered⟩
  · exact .inl (refused (by simp [free]))
  · cases read : f.read with
    | true => exact .inl (refused (by simp [busy, read]))
    | false =>
        rw [read] at busy
        have flags : (x.bus.pending.rdf || x.bus.pending.tdf) = false := noData
        have plain : x.bus.pending.tdf = false := (Bool.or_eq_false_iff.mp flags).2
        have now : account next a₀ x.frames = account next a₀ older := by
          rw [frames, account_cons, none]
          rfl
        rw [step_byte_taken data busy noData frames]
        refine .inr ⟨_, _, rfl, ?_, by rw [read], rfl, ?_, unanswered, ?_⟩
        · rw [← now]
          exact reached.mono id
        · refine ⟨_, rfl, ?_, ?_⟩
          · rw [none, read]
            rfl
          · rw [none]
            simp [Transfer.addByte, Transfer.calls, Slave.writeCalls, Slave.laterBytes,
              SlaveStatus.data, plain]
        · rw [frames] at told
          exact told.2

theorem Between.request (between : Between I next wire a₀ x)
    (noByte : x.bus.pending.rdf = false → x.bus.pending.srdr = ⟨false, 0⟩) :
    Between I next wire a₀ (x.step .request) ∨
      ∃ f older, (x.step .request).frames = f :: older ∧
        Opening I next wire a₀ f older (x.step .request).bus := by
  obtain ⟨reached, noData, told, line⟩ := between
  have refused (other : ∀ begun, x.bus.line ≠ .busy true begun) :
      Between I next wire a₀ (x.step .request) := by
    rw [step_request_refused (.inr other)]
    exact ⟨reached, noData, told, line⟩
  rcases line with free | ⟨f, older, frames, busy, none, unanswered⟩
  · exact .inl (refused (by simp [free]))
  · cases read : f.read with
    | false => exact .inl (refused (by simp [busy, read]))
    | true =>
        rw [read] at busy
        have flags : (x.bus.pending.rdf || x.bus.pending.tdf) = false := noData
        have plain : x.bus.pending.rdf = false := (Bool.or_eq_false_iff.mp flags).1
        have now : account next a₀ x.frames = account next a₀ older := by
          rw [frames, account_cons, none]
          rfl
        rw [step_request_taken busy noData frames]
        refine .inr ⟨_, _, rfl, ?_, by rw [read], ?_, ?_, unanswered, ?_⟩
        · rw [← now]
          exact reached.mono id
        · simp [SlaveStatus.hasData]
        · refine ⟨_, rfl, ?_, ?_⟩
          · rw [none, read]
            rfl
          · rw [none]
            simp [Transfer.addRequest, Transfer.calls, SlaveStatus.data, plain, noByte plain]
        · rw [frames] at told
          exact told.2

theorem Underway.byte (underway : Underway I next wire a₀ f older x.bus)
    (acc : Account next wire I) (frames : x.frames = f :: older) (data : UInt8) :
    ∃ f', (x.step (.byte data)).frames = f' :: older ∧
      Underway I next wire a₀ f' older (x.step (.byte data)).bus := by
  have refused (other : x.bus.pending.hasData = true ∨
      ∀ begun, x.bus.line ≠ .busy false begun) :
      ∃ f', (x.step (.byte data)).frames = f' :: older ∧
        Underway I next wire a₀ f' older (x.step (.byte data)).bus := by
    rw [step_byte_refused data other]
    exact ⟨f, frames, underway⟩
  obtain ⟨line, plain, ⟨s', t, before, slave, direction, answered, rest⟩, told⟩ := underway
  cases hasData : x.bus.pending.hasData with
  | true => exact refused (.inl hasData)
  | false =>
      cases read : f.read with
      | true => exact refused (.inr (by simp [line, read]))
      | false =>
          rw [if_neg (by simp [hasData])] at rest
          have flags : (x.bus.pending.rdf || x.bus.pending.tdf) = false := hasData
          have noRequest : x.bus.pending.tdf = false := (Bool.or_eq_false_iff.mp flags).2
          rw [read] at line direction
          rw [step_byte_taken data line hasData frames]
          refine ⟨_, rfl, by rw [read], plain,
            ⟨s', t, before, slave, direction.trans read.symm, answered, ?_⟩, told⟩
          cases t with
          | read count => cases direction
          | write first more =>
              rw [if_pos (by simp [SlaveStatus.hasData])]
              refine ⟨_, rfl, ?_, ?_, ?_⟩
              · rw [rest, read]
                rfl
              · rw [rest, Transfer.calls_addByte]
                simp [SlaveStatus.data, noRequest]
              · rw [acc.silent]
                exact List.nil_prefix

theorem Underway.request (underway : Underway I next wire a₀ f older x.bus)
    (acc : Account next wire I) (frames : x.frames = f :: older)
    (noByte : x.bus.pending.rdf = false → x.bus.pending.srdr = ⟨false, 0⟩) :
    ∃ f', (x.step .request).frames = f' :: older ∧
      Underway I next wire a₀ f' older (x.step .request).bus := by
  have refused (other : x.bus.pending.hasData = true ∨
      ∀ begun, x.bus.line ≠ .busy true begun) :
      ∃ f', (x.step .request).frames = f' :: older ∧
        Underway I next wire a₀ f' older (x.step .request).bus := by
    rw [step_request_refused other]
    exact ⟨f, frames, underway⟩
  obtain ⟨line, plain, ⟨s', t, before, slave, direction, answered, rest⟩, told⟩ := underway
  cases hasData : x.bus.pending.hasData with
  | true => exact refused (.inl hasData)
  | false =>
      cases read : f.read with
      | false => exact refused (.inr (by simp [line, read]))
      | true =>
          rw [if_neg (by simp [hasData])] at rest
          have flags : (x.bus.pending.rdf || x.bus.pending.tdf) = false := hasData
          have noData : x.bus.pending.rdf = false := (Bool.or_eq_false_iff.mp flags).1
          rw [read] at line direction
          rw [step_request_taken line hasData frames]
          refine ⟨_, rfl, by rw [read], plain,
            ⟨s', t, before, slave, direction.trans read.symm, answered, ?_⟩, told⟩
          cases t with
          | write first more => cases direction
          | read count =>
              rw [if_pos (by simp [SlaveStatus.hasData])]
              refine ⟨_, rfl, ?_, ?_, ?_⟩
              · rw [rest, read]
                rfl
              · rw [rest, Transfer.calls_addRequest]
                simp [SlaveStatus.data, noData, noByte noData]
              · rw [rest]
                exact acc.grows _ count

/-! The service routine finds a byte -/

theorem interrupt_hasData (hasData : x.bus.pending.hasData = true) :
    x.bus.step .interrupt = { x.bus with
      slave := x.bus.slave.isr x.bus.pending
      pending := { sasr := x.bus.pending.sasr }
      served := x.bus.latest } := by
  simp [SlaveBus.step, SlaveBus.interrupt, SlaveBus.raised, hasData]

theorem frames_interrupt (frames : x.frames = f :: older) :
    (x.step .interrupt).frames =
      { f with answered := f.answered ++ newBytes x.bus (x.bus.step .interrupt) } :: older := by
  simp [Heard.step, record, frames, latest]

theorem newBytes_interrupt (acc : Account next wire I) {a : α} {s' : Slave O σ} {t : Transfer}
    {sofar : List UInt8} (before : I a s') (hasData : x.bus.pending.hasData = true)
    (bytes : busBytes x.bus.slave.trace = busBytes s'.trace ++ sofar)
    (served : x.bus.slave.isr x.bus.pending = run Slave.isr s' t.calls)
    (more : sofar <+: wire a t) :
    sofar ++ newBytes x.bus (x.bus.step .interrupt) = wire a t := by
  obtain ⟨rest, whole⟩ := more
  rw [newBytes, interrupt_hasData hasData]
  dsimp only
  rw [served, acc.answers before, bytes, ← whole, ← List.append_assoc, List.drop_left]

theorem Opening.interrupt (opening : Opening I next wire a₀ f older x.bus)
    (acc : Account next wire I) (frames : x.frames = f :: older)
    (noError : x.bus.pending.bef = false) :
    ∃ f', (x.step .interrupt).frames = f' :: older ∧
      Underway I next wire a₀ f' older (x.step .interrupt).bus := by
  obtain ⟨reached, line, hasData, ⟨t, transfer, direction, word⟩, unanswered, told⟩ := opening
  have before := reached.opened acc
  have served : x.bus.slave.isr x.bus.pending =
      run Slave.isr (x.bus.slave.opened x.bus.pending) t.calls := by
    rw [Slave.isr_opened _ noError, word]
    rfl
  have silent : busBytes x.bus.slave.trace =
      busBytes (x.bus.slave.opened x.bus.pending).trace ++ [] := by
    rw [Slave.busBytes_opened, List.append_nil]
  have answers := newBytes_interrupt acc before hasData silent served List.nil_prefix
  refine ⟨_, frames_interrupt frames, ?_⟩
  simp only [Heard.step]
  rw [interrupt_hasData hasData] at answers ⊢
  refine ⟨line, ⟨rfl, rfl⟩, ⟨_, t, before, served, direction, ?_, ?_⟩, told⟩
  · rw [unanswered]
    exact answers
  · exact transfer

theorem Underway.interrupt (underway : Underway I next wire a₀ f older x.bus)
    (acc : Account next wire I) (frames : x.frames = f :: older)
    (noError : x.bus.pending.bef = false) :
    ∃ f', (x.step .interrupt).frames = f' :: older ∧
      Underway I next wire a₀ f' older (x.step .interrupt).bus := by
  obtain ⟨line, plain, ⟨s', t, before, slave, direction, answered, rest⟩, told⟩ := underway
  cases hasData : x.bus.pending.hasData with
  | false =>
      have quiet : x.bus.step .interrupt = x.bus := by
        simp [SlaveBus.step, SlaveBus.interrupt, SlaveBus.raised, hasData, plain.2]
      have silent : newBytes x.bus (x.bus.step .interrupt) = [] := by simp [newBytes, quiet]
      refine ⟨f, ?_, ?_⟩
      · rw [frames_interrupt frames, silent, List.append_nil]
      · simp only [Heard.step, quiet]
        exact ⟨line, plain, ⟨s', t, before, slave, direction, answered, rest⟩, told⟩
  | true =>
      rw [if_pos hasData] at rest
      obtain ⟨t', transfer, direction', word, more⟩ := rest
      have served : x.bus.slave.isr x.bus.pending = run Slave.isr s' t'.calls := by
        rw [Slave.isr_data _ noError plain.1 plain.2, slave, word, run_append]
        rfl
      have answers := newBytes_interrupt acc before hasData
        (by rw [slave, acc.answers before]) served more
      refine ⟨_, frames_interrupt frames, ?_⟩
      simp only [Heard.step]
      rw [interrupt_hasData hasData] at answers ⊢
      refine ⟨line, ⟨rfl, rfl⟩, ⟨s', t', before, served, direction', ?_, transfer⟩, told⟩
      rw [answered]
      exact answers

/-! ### Every run -/

theorem Accounted.step (acc : Account next wire I) (accounted : Accounted I next wire a₀ x)
    (e : BusEvent) : Accounted I next wire a₀ (x.step e) := by
  obtain ⟨noError, noByte, phase⟩ := accounted
  have flags : (x.step e).bus.pending.bef = false ∧
      ((x.step e).bus.pending.rdf = false → (x.step e).bus.pending.srdr = ⟨false, 0⟩) := by
    cases e <;> simp only [Heard.step, SlaveBus.step, SlaveBus.address, SlaveBus.byte,
      SlaveBus.request, SlaveBus.finish, SlaveBus.interrupt] <;> grind
  refine ⟨flags.1, flags.2, ?_⟩
  rcases phase with between | ⟨f, older, frames, opening | underway⟩
  · cases e with
    | address address read => exact .inl (between.address address read)
    | byte data =>
        rcases between.byte data with still | ⟨f, older, frames, opening⟩
        · exact .inl still
        · exact .inr ⟨f, older, frames, .inl opening⟩
    | request =>
        rcases between.request noByte with still | ⟨f, older, frames, opening⟩
        · exact .inl still
        · exact .inr ⟨f, older, frames, .inl opening⟩
    | finish stop => exact .inl (between.finish stop)
    | interrupt => exact .inl (between.interrupt acc noError)
  · have still : Accounted I next wire a₀ x :=
      ⟨noError, noByte, .inr ⟨f, older, frames, .inl opening⟩⟩
    cases e with
    | address address read =>
        rw [step_address_busy opening.line]
        exact still.phase
    | byte data =>
        rw [step_byte_refused data (.inl opening.hasData)]
        exact still.phase
    | request =>
        rw [step_request_refused (.inl opening.hasData)]
        exact still.phase
    | finish stop =>
        rw [step_finish_waits opening.hasData]
        exact still.phase
    | interrupt =>
        obtain ⟨f', frames', underway⟩ := opening.interrupt acc frames noError
        exact .inr ⟨f', older, frames', .inr underway⟩
  · have still : Accounted I next wire a₀ x :=
      ⟨noError, noByte, .inr ⟨f, older, frames, .inr underway⟩⟩
    cases e with
    | address address read =>
        rw [step_address_busy underway.line]
        exact still.phase
    | byte data =>
        obtain ⟨f', frames', underway⟩ := underway.byte acc frames data
        exact .inr ⟨f', older, frames', .inr underway⟩
    | request =>
        obtain ⟨f', frames', underway⟩ := underway.request acc frames noByte
        exact .inr ⟨f', older, frames', .inr underway⟩
    | finish stop =>
        cases hasData : x.bus.pending.hasData with
        | true =>
            rw [step_finish_waits hasData]
            exact still.phase
        | false => exact .inl (underway.finish frames hasData stop)
    | interrupt =>
        obtain ⟨f', frames', underway⟩ := underway.interrupt acc frames noError
        exact .inr ⟨f', older, frames', .inr underway⟩

def listening (s : Slave O σ) : Heard O σ :=
  { bus := .quiet s }

theorem accounted_run (acc : Account next wire I) (start : I a₀ s) (events : List BusEvent) :
    Accounted I next wire a₀ (run Heard.step (listening s) events) :=
  run_invariant' (I := Accounted I next wire a₀) (fun _ e accounted => accounted.step acc e) events
    ⟨rfl, fun _ => rfl, .inl ⟨.inl start, rfl, trivial, .inl rfl⟩⟩

/-- Nothing waits for the service routine, and no frame with bytes is under way. -/
def Settled (x : Heard O σ) : Prop :=
  x.bus.raised = false ∧ ∀ read, x.bus.line ≠ .busy read true

instance (x : Heard O σ) : Decidable x.Settled :=
  decidable_of_iff (x.bus.raised = false ∧ x.bus.line ≠ .busy false true ∧
    x.bus.line ≠ .busy true true)
    ⟨fun ⟨quiet, writes, reads⟩ => ⟨quiet, fun read => by cases read <;> assumption⟩,
      fun ⟨quiet, line⟩ => ⟨quiet, line false, line true⟩⟩

/-- Then the driver is where the frames have brought it, and has answered them in full. -/
theorem Accounted.settled (accounted : Accounted I next wire a₀ x) (settled : x.Settled) :
    I (account next a₀ x.frames) x.bus.slave ∧ Told next wire a₀ x.frames := by
  rcases accounted.phase with between | ⟨f, older, frames, opening | underway⟩
  · have quiet : x.bus.pending.frameEnded = false :=
      (Bool.or_eq_false_iff.mp settled.1).1
    exact ⟨between.reached.resolve_right fun owed => by simp [quiet] at owed, between.told⟩
  · exact absurd opening.line (settled.2 f.read)
  · exact absurd underway.line (settled.2 f.read)

/-- At any time the answers to a frame are a part of those that the account gives. -/
theorem Accounted.answered (accounted : Accounted I next wire a₀ x) {newer : List HeardFrame}
    (frames : x.frames = newer ++ f :: older) : f.answered <+: answers next wire a₀ f older := by
  have all {g : HeardFrame} {behind : List HeardFrame} (latest : x.frames = g :: behind)
      (first : g.answered <+: answers next wire a₀ g behind) (told : Told next wire a₀ behind) :
      f.answered <+: answers next wire a₀ f older := by
    rw [latest] at frames
    cases newer with
    | nil =>
        obtain ⟨rfl, rfl⟩ := List.cons.inj frames
        exact first
    | cons h newer =>
        obtain ⟨rfl, rfl⟩ := List.cons.inj frames
        rw [told.mem]
  rcases accounted.phase with between | ⟨g, behind, latest, opening | underway⟩
  · have told := between.told
    rw [frames] at told
    rw [told.mem]
  · refine all latest ?_ opening.told
    rw [opening.unanswered]
    exact List.nil_prefix
  · refine all latest ?_ underway.told
    obtain ⟨s', t, -, -, -, answered, rest⟩ := underway.served
    rw [answered, answers]
    split at rest
    · obtain ⟨t', transfer, -, -, more⟩ := rest
      rw [transfer]
      exact more
    · rw [rest]
      exact List.prefix_refl _

theorem Accounted.answered_read (accounted : Accounted I next wire a₀ x)
    {newer : List HeardFrame} {count : Nat} (frames : x.frames = newer ++ f :: older)
    (read : f.transfer = some (.read count)) :
    f.answered <+: wire (account next a₀ older) (.read count) := by
  have answered := accounted.answered frames
  rwa [answers, read] at answered

theorem Accounted.answered_settled (accounted : Accounted I next wire a₀ x) (settled : x.Settled)
    {newer : List HeardFrame} {count : Nat} (frames : x.frames = newer ++ f :: older)
    (read : f.transfer = some (.read count)) :
    f.answered = wire (account next a₀ older) (.read count) := by
  have told := (accounted.settled settled).2
  rw [frames] at told
  have answered := told.mem
  rwa [answers, read] at answered

end Heard
end TeensyI2C
