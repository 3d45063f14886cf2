import Mathlib.Data.List.Forall2
import TeensyI2C.Loopback.CallPhases
import TeensyI2C.Loopback.Transfers

/-!
The two ports on one bus. What happens on the bus happens at both of them: the slave takes up the
address and the bytes that it acknowledges to the master, the master receives what the slave's
driver has answered, and the slave holds the clock while its data wait. That the bus carries what is
said on it follows from this.
-/

namespace TeensyI2C
open ObjectMemory Interference EventMachine

def Line.direction : Line → Option Bool
  | .free => none
  | .busy read _ => some read

/-- The master's port and the slave, wired to each other. -/
structure OneBus (P σ : Type) [Inhabited P] where
  master : MasterPort
  slave : Heard P σ

namespace OneBus
variable {P σ : Type} [Inhabited P]

inductive Move where
  /-- An event at the master's port. The slave takes its part in it. -/
  | line (e : MasterPort.BusEvent)
  | request
  | interrupt
deriving DecidableEq, Repr

def answers (b : OneBus P σ) (data : UInt8) : Bool :=
  b.slave.bus.slave.port.answersTo (calledAddress data)

/-- The slave holds the clock. -/
def stretched (b : OneBus P σ) : Bool := b.slave.bus.pending.hasData

/-- A START ends the frame before it. The slave takes up the address, and asks for a first byte, or
lets it pass. -/
def startHeard (b : OneBus P σ) (data : UInt8) : List BusEvent :=
  .finish false ::
    if b.answers data then
      .address (calledAddress data) (asksToRead data) ::
        if asksToRead data then [.request] else []
    else []

/-- The byte that the driver has put into STDR for the master's next one. -/
def nextAnswer (b : OneBus P σ) : Option UInt8 :=
  b.slave.frames.head?.bind fun f => f.answered[b.master.crossed.length]?

/-- The slave acknowledges its address and every byte of its frame. -/
def ackHeard (b : OneBus P σ) : Option (List BusEvent) :=
  match b.master.executing with
  | some (.start data) => if b.stretched then none else some (b.startHeard data)
  | some (.transmit data) =>
      match b.slave.bus.line with
      | .free => some []
      | .busy false _ => if b.stretched then none else some [.byte data]
      | .busy true _ => none
  | _ => some []

def nakHeard (b : OneBus P σ) : Option (List BusEvent) :=
  match b.master.executing with
  | some (.start data) =>
      if b.stretched || b.answers data then none else some (b.startHeard data)
  | some (.transmit _) => if b.slave.bus.line = .free then some [] else none
  | _ => some []

/-- In a frame of the slave's the master receives what the slave's driver has answered. -/
def receiveHeard (b : OneBus P σ) (data : UInt8) : Option (List BusEvent) :=
  match b.master.executing with
  | some (.receive _) =>
      match b.slave.bus.line with
      | .free => some []
      | .busy true _ => if b.nextAnswer = some data then some [] else none
      | .busy false _ => none
  | _ => some []

def stopHeard (b : OneBus P σ) : Option (List BusEvent) :=
  if b.master.executing = some .stop then
    if b.stretched then none else some [.finish true]
  else some []

/-- What the slave's port sees of an event at the master's, if the bus allows it. -/
def heard (b : OneBus P σ) : MasterPort.BusEvent → Option (List BusEvent)
  | .ack => b.ackHeard
  | .nak => b.nakHeard
  | .receiveByte data => b.receiveHeard data
  | .stopDone => b.stopHeard
  | .fetch | .autoStop | .arbitrationLost | .fifoError | .pinLowTimeout => some []

variable [DecidableEq P]

/-- What the bus does not allow changes nothing. -/
def apply (b : OneBus P σ) : Move → OneBus P σ
  | .line e =>
      match b.heard e with
      | some events => { master := b.master.apply e, slave := run Heard.step b.slave events }
      | none => b
  | .request => { b with slave := b.slave.step .request }
  | .interrupt => { b with slave := b.slave.step .interrupt }

def write (f : MasterPort → MasterPort) (b : OneBus P σ) : OneBus P σ :=
  { b with master := f b.master }

/-- What can become of the two while the master's driver makes writes out of `W`. -/
abbrev Drives (W : (MasterPort → MasterPort) → Prop) (b c : OneBus P σ) : Prop :=
  Driven apply (fun g => ∃ f, W f ∧ g = write f) b c

end OneBus

/-! ### What the slave makes of it -/

namespace Heard
variable {P σ : Type} [Inhabited P] [DecidableEq P] {y : Heard P σ}

theorem port_run (y : Heard P σ) (events : List BusEvent) :
    (run Heard.step y events).bus.slave.port = y.bus.slave.port :=
  run_invariant' (I := fun z : Heard P σ => z.bus.slave.port = y.bus.slave.port)
    (fun z e same => (z.port_step e).trans same) events rfl

/-- A frame that the master reads has been asked for its first byte. -/
def InStep (y : Heard P σ) : Prop :=
  y.bus.line.direction = some true →
    ∃ f older count, y.frames = f :: older ∧ f.transfer = some (.read count)

/-- Nothing has happened but that a frame has been answered further. -/
structure Continues (y z : Heard P σ) : Prop where
  port : z.bus.slave.port = y.bus.slave.port
  direction : z.bus.line.direction = y.bus.line.direction
  frames : List.Forall₂ (fun f g => g.message = f.message ∧ f.answered <+: g.answered)
    y.frames z.frames

omit [DecidableEq P] in
theorem Continues.messages {z : Heard P σ} (continues : y.Continues z) :
    z.frames.map HeardFrame.message = y.frames.map HeardFrame.message := by
  have same := continues.frames
  generalize y.frames = before, z.frames = after at same
  induction same with
  | nil => rfl
  | cons head _ ih => rw [List.map_cons, List.map_cons, head.1, ih]

omit [DecidableEq P] in
theorem continues_refl_frames (frames : List HeardFrame) :
    List.Forall₂ (fun f g : HeardFrame => g.message = f.message ∧ f.answered <+: g.answered)
      frames frames :=
  List.forall₂_same.mpr fun _ _ => ⟨rfl, List.prefix_refl _⟩

theorem continues_interrupt (y : Heard P σ) : y.Continues (y.step .interrupt) where
  port := y.port_step _
  direction := by
    simp only [Heard.step, SlaveBus.step, SlaveBus.interrupt]
    split <;> rfl
  frames := by
    cases frames : y.frames with
    | nil => simp [Heard.step, record, frames, latest]
    | cons f older =>
        rw [frames_interrupt frames]
        exact .cons ⟨rfl, List.prefix_append _ _⟩ (continues_refl_frames older)

theorem InStep.interrupt (inStep : y.InStep) : (y.step .interrupt).InStep := by
  intro reading
  rw [(continues_interrupt y).direction] at reading
  obtain ⟨f, older, count, frames, transfer⟩ := inStep reading
  exact ⟨_, older, count, frames_interrupt frames, transfer⟩

theorem continues_request (inStep : y.InStep) :
    y.Continues (y.step .request) ∧ (y.step .request).InStep := by
  by_cases refused : y.bus.pending.hasData = true ∨ ∀ begun, y.bus.line ≠ .busy true begun
  · rw [step_request_refused refused]
    exact ⟨⟨rfl, rfl, continues_refl_frames _⟩, inStep⟩
  · simp only [not_or, Bool.not_eq_true, not_forall, not_not] at refused
    obtain ⟨noData, begun, line⟩ := refused
    obtain ⟨f, older, count, frames, transfer⟩ := inStep (by rw [line]; rfl)
    rw [step_request_taken line noData frames]
    refine ⟨⟨rfl, by rw [line]; rfl, ?_⟩, fun _ => ⟨_, older, count + 1, rfl, ?_⟩⟩
    · rw [frames]
      refine .cons ⟨?_, List.prefix_refl _⟩ (continues_refl_frames older)
      simp [HeardFrame.message, transfer, Transfer.addRequest, Transfer.message]
    · rw [transfer]
      rfl

theorem step_finish (noData : y.bus.pending.hasData = false) (stop : Bool) :
    (y.step (.finish stop)).frames = y.frames ∧ (y.step (.finish stop)).bus.line = .free ∧
      (y.step (.finish stop)).bus.pending.hasData = false := by
  cases line : y.bus.line with
  | free =>
      rw [step_finish_free line]
      exact ⟨rfl, line, noData⟩
  | busy read begun =>
      obtain ⟨frames, -, free, still, -⟩ := finish_busy line noData stop
      exact ⟨frames, free, still⟩

omit [DecidableEq P] in
theorem InStep.of_free (free : y.bus.line = .free) : y.InStep := by
  intro reading
  rw [free] at reading
  cases reading

theorem step_address_free (free : y.bus.line = .free) (address : BusAddress) (read : Bool) :
    (y.step (.address address read)).frames = { address := address, read := read } :: y.frames ∧
      (y.step (.address address read)).bus.line = .busy read false ∧
        (y.step (.address address read)).bus.pending.hasData = y.bus.pending.hasData := by
  simp [Heard.step, SlaveBus.step, SlaveBus.address, record, free, SlaveStatus.hasData]

end Heard

/-! ### A call on the bus -/

namespace Heard
variable {P σ : Type} [Inhabited P] [DecidableEq P] {y z : Heard P σ}
  {covers : BusAddress → Bool} {said : List HeardFrame}

/-- The slave listens on its addresses and has heard `said`. -/
structure Knows (covers : BusAddress → Bool) (said : List HeardFrame) (y : Heard P σ) : Prop where
  port : y.bus.slave.port.answersTo = covers
  inStep : y.InStep
  messages : y.frames.map HeardFrame.message = said

omit [DecidableEq P] in
theorem Knows.continues (knows : y.Knows covers said) (continues : y.Continues z)
    (inStep : z.InStep) : z.Knows covers said where
  port := by rw [continues.port, knows.port]
  inStep := inStep
  messages := continues.messages.trans knows.messages

theorem Knows.finish (knows : y.Knows covers said) (noData : y.bus.pending.hasData = false)
    (stop : Bool) : (y.step (.finish stop)).Knows covers said where
  port := by rw [y.port_step, knows.port]
  inStep := .of_free (step_finish noData stop).2.1
  messages := by rw [(step_finish noData stop).1, knows.messages]

end Heard

namespace OneBus
open MasterPort
variable {P σ : Type} [Inhabited P] [DecidableEq P] {b c : OneBus P σ}
  {covers : BusAddress → Bool} {said : List HeardFrame} {data : UInt8}

/-- The slave is in the call's frame, or has been. -/
structure InFrame (covers : BusAddress → Bool) (said : List HeardFrame) (data : UInt8)
    (b : OneBus P σ) : Prop where
  past : b.master.StartPast
  port : b.slave.bus.slave.port.answersTo = covers
  inStep : b.slave.InStep
  answers : covers (calledAddress data) = true
  start : b.master.acknowledged.findSome? Command.startByte = some data
  frame : ∃ f older, b.slave.frames = f :: older ∧ older.map HeardFrame.message = said ∧
    f.message = b.master.saying data ∧
      (asksToRead data = true → b.master.crossed <+: f.answered)
  direction : b.slave.bus.line.direction = some (asksToRead data) ∨
    b.slave.bus.line.direction = none ∧ b.master.mbf = false

/-- The call is not the slave's. -/
structure Elsewhere (covers : BusAddress → Bool) (said : List HeardFrame) (b : OneBus P σ) :
    Prop where
  past : b.master.StartPast
  knows : b.slave.Knows covers said
  others : ∀ data, .start data ∈ b.master.acknowledged → covers (calledAddress data) = false
  free : b.master.mbf = true → b.slave.bus.line = .free

/-- What an event at the master's port can do once the START is past. -/
inductive Effect (b : OneBus P σ) : OneBus P σ → Prop where
  | calm {p : MasterPort} (acknowledged : p.acknowledged = b.master.acknowledged)
      (crossed : p.crossed = b.master.crossed) (mbf : p.mbf = true → b.master.mbf = true) :
      Effect b { b with master := p }
  | passing {p : MasterPort} (on : b.master.mbf = true) (line : b.slave.bus.line = .free)
      (starts : ∀ data, .start data ∈ p.acknowledged → .start data ∈ b.master.acknowledged) :
      Effect b { b with master := p }
  | byte {p : MasterPort} {begun : Bool} (data : UInt8) (on : b.master.mbf = true)
      (line : b.slave.bus.line = .busy false begun)
      (noData : b.slave.bus.pending.hasData = false)
      (acknowledged : p.acknowledged = b.master.acknowledged ++ [.transmit data]) :
      Effect b { master := p, slave := b.slave.step (.byte data) }
  | answered {p : MasterPort} {begun : Bool} (data : UInt8) (on : b.master.mbf = true)
      (line : b.slave.bus.line = .busy true begun) (next : b.nextAnswer = some data)
      (acknowledged : p.acknowledged = b.master.acknowledged)
      (crossed : p.crossed = b.master.crossed ∨ p.crossed = b.master.crossed ++ [data]) :
      Effect b { b with master := p }
  | stopped {p : MasterPort} (noData : b.slave.bus.pending.hasData = false)
      (acknowledged : p.acknowledged = b.master.acknowledged)
      (crossed : p.crossed = b.master.crossed) (off : p.mbf = false) :
      Effect b { master := p, slave := b.slave.step (.finish true) }

theorem apply_line {e : MasterPort.BusEvent} (events : List BusEvent)
    (heard : b.heard e = some events) :
    b.apply (.line e) =
      { master := b.master.apply e, slave := run Heard.step b.slave events } := by
  simp [apply, heard]

theorem apply_refused {e : MasterPort.BusEvent} (refused : b.heard e = none) :
    b.apply (.line e) = b := by
  simp [apply, refused]

theorem Effect.refl (b : OneBus P σ) : Effect b b := .calm rfl rfl id

theorem effect_unmoved {e : MasterPort.BusEvent} (heard : b.heard e = some [])
    (unmoved : b.master.apply e = b.master) : Effect b (b.apply (.line e)) := by
  rw [apply_line _ heard, unmoved]
  exact .refl b

theorem effect_ack (past : b.master.StartPast) : Effect b (b.apply (.line .ack)) := by
  cases executing : b.master.executing with
  | none =>
      exact effect_unmoved (by simp [heard, ackHeard, executing])
        (by simp [MasterPort.apply, MasterPort.ack, offered, executing])
  | some command =>
      have on := past.on executing
      cases command with
      | start data => exact absurd (past.executing _ executing) (by simp [Command.startByte])
      | receive left | stop =>
          exact effect_unmoved (by simp [heard, ackHeard, executing])
            (by simp [MasterPort.apply, MasterPort.ack, offered, executing])
      | transmit data =>
          have acked : (b.master.apply .ack).acknowledged =
              b.master.acknowledged ++ [.transmit data] := by
            simp [MasterPort.apply, MasterPort.ack, offered, executing]
          cases line : b.slave.bus.line with
          | free =>
              rw [apply_line [] (by simp [heard, ackHeard, executing, line])]
              refine .passing on line fun data' => ?_
              simp [acked]
          | busy read begun =>
              cases noData : b.slave.bus.pending.hasData with
              | true =>
                  have refused : b.heard .ack = none := by
                    cases read <;> simp [heard, ackHeard, executing, line, stretched, noData]
                  rw [apply_refused refused]
                  exact .refl b
              | false =>
                  cases read with
                  | true =>
                      rw [apply_refused (by simp [heard, ackHeard, executing, line])]
                      exact .refl b
                  | false =>
                      rw [apply_line [.byte data]
                        (by simp [heard, ackHeard, executing, line, stretched, noData])]
                      exact .byte data on line noData acked

theorem effect_nak (past : b.master.StartPast) : Effect b (b.apply (.line .nak)) := by
  cases executing : b.master.executing with
  | none =>
      exact effect_unmoved (by simp [heard, nakHeard, executing])
        (by simp [MasterPort.apply, MasterPort.nak, offered, executing])
  | some command =>
      cases command with
      | start data => exact absurd (past.executing _ executing) (by simp [Command.startByte])
      | receive left | stop =>
          exact effect_unmoved (by simp [heard, nakHeard, executing])
            (by simp [MasterPort.apply, MasterPort.nak, offered, executing])
      | transmit data =>
          cases line : b.slave.bus.line with
          | free =>
              rw [apply_line [] (by simp [heard, nakHeard, executing, line])]
              refine .passing (past.on executing) line fun data' => ?_
              simp [MasterPort.apply, MasterPort.nak, offered, executing]
          | busy read begun =>
              rw [apply_refused (by simp [heard, nakHeard, executing, line])]
              exact .refl b

theorem effect_receiveByte (past : b.master.StartPast) (data : UInt8) :
    Effect b (b.apply (.line (.receiveByte data))) := by
  cases executing : b.master.executing with
  | none =>
      exact effect_unmoved (by simp [heard, receiveHeard, executing])
        (by simp [MasterPort.apply, receiveByte, executing])
  | some command =>
      cases command with
      | start _ | transmit _ | stop =>
          exact effect_unmoved (by simp [heard, receiveHeard, executing])
            (by simp [MasterPort.apply, receiveByte, executing])
      | receive left =>
          have on := past.on executing
          have acknowledged : (b.master.apply (.receiveByte data)).acknowledged =
              b.master.acknowledged := by
            simp only [MasterPort.apply, receiveByte, executing]
            split <;> rfl
          cases line : b.slave.bus.line with
          | free =>
              rw [apply_line [] (by simp [heard, receiveHeard, executing, line])]
              refine .passing on line fun data' => ?_
              rw [acknowledged]
              exact id
          | busy read begun =>
              cases read with
              | false =>
                  rw [apply_refused (by simp [heard, receiveHeard, executing, line])]
                  exact .refl b
              | true =>
                  by_cases next : b.nextAnswer = some data
                  · rw [apply_line [] (by simp [heard, receiveHeard, executing, line, next])]
                    refine .answered data on line next acknowledged ?_
                    simp only [MasterPort.apply, receiveByte, executing, crossing, past.begun]
                    split
                    · exact .inr rfl
                    · exact .inl rfl
                  · rw [apply_refused (by simp [heard, receiveHeard, executing, line, next])]
                    exact .refl b

theorem effect_stopDone (b : OneBus P σ) : Effect b (b.apply (.line .stopDone)) := by
  by_cases executing : b.master.executing = some .stop
  · cases noData : b.slave.bus.pending.hasData with
    | true =>
        rw [apply_refused (by simp [heard, stopHeard, executing, stretched, noData])]
        exact .refl b
    | false =>
        rw [apply_line [.finish true] (by simp [heard, stopHeard, executing, stretched, noData])]
        refine .stopped noData ?_ ?_ ?_ <;> simp [MasterPort.apply, stopDone, executing]
  · refine effect_unmoved ?_ (by simp [MasterPort.apply, stopDone, executing])
    simp [heard, stopHeard, executing]

theorem effect (past : b.master.StartPast) (e : MasterPort.BusEvent) :
    Effect b (b.apply (.line e)) := by
  cases e with
  | ack => exact effect_ack past
  | nak => exact effect_nak past
  | receiveByte data => exact effect_receiveByte past data
  | stopDone => exact effect_stopDone b
  | fetch =>
      rw [apply_line [] (by simp [heard])]
      obtain ⟨acknowledged, crossed, mbf⟩ := past.fetch
      exact .calm acknowledged crossed fun on => mbf ▸ on
  | autoStop =>
      rw [apply_line [] (by simp [heard])]
      refine .calm ?_ ?_ ?_ <;> simp only [MasterPort.apply, autoStop] <;> split <;>
        first | rfl | exact id
  | arbitrationLost | fifoError | pinLowTimeout =>
      rw [apply_line [] (by simp [heard])]
      refine .calm rfl rfl ?_
      simp [MasterPort.apply, arbitrationLost]

theorem past_line (past : b.master.StartPast) (e : MasterPort.BusEvent) :
    (b.apply (.line e)).master.StartPast := by
  unfold apply
  dsimp only
  split
  · exact stable_startPast _ e past
  · exact past

/-! The call is the slave's -/

omit [DecidableEq P] in
theorem InFrame.continues (inFrame : b.InFrame covers said data) {z : Heard P σ}
    (continues : b.slave.Continues z) (inStep : z.InStep) :
    InFrame covers said data { b with slave := z } := by
  obtain ⟨past, port, -, answers, start, ⟨f, older, frames, messages, saying, received⟩, line⟩ :=
    inFrame
  have same := continues.frames
  rw [frames] at same
  obtain ⟨g, older', ⟨message, more⟩, rest, frames'⟩ := List.forall₂_cons_left_iff.mp same
  have tail : older'.map HeardFrame.message = older.map HeardFrame.message := by
    have all := continues.messages
    rw [frames, frames', List.map_cons, List.map_cons] at all
    exact (List.cons.inj all).2
  refine ⟨past, by rw [continues.port, port], inStep, answers, start,
    ⟨g, older', frames', tail.trans messages, message.trans saying,
      fun reads => (received reads).trans more⟩, ?_⟩
  rwa [continues.direction]

theorem prefix_concat_of_getElem? {α : Type} {xs ys : List α} {a : α} (part : xs <+: ys)
    (next : ys[xs.length]? = some a) : xs ++ [a] <+: ys := by
  obtain ⟨rest, rfl⟩ := part
  cases rest with
  | nil => simp at next
  | cons b rest =>
      obtain rfl : b = a := by simpa using next
      exact ⟨rest, by simp⟩

theorem message_byte {f : HeardFrame} {p q : MasterPort} {byte : UInt8}
    (message : f.message = p.saying data) (writes : asksToRead data = false)
    (acknowledged : q.acknowledged = p.acknowledged ++ [.transmit byte]) :
    { f with transfer := some (.addByte byte f.transfer) }.message = q.saying data := by
  have address := congrArg HeardFrame.address message
  have read := congrArg HeardFrame.read message
  have transfer := congrArg HeardFrame.transfer message
  simp only [HeardFrame.message, saying, writes, Bool.false_eq_true, if_false]
    at address read transfer ⊢
  rw [acknowledged, List.flatMap_append, address, read]
  congr 1
  generalize p.acknowledged.flatMap Command.payload = bytes at transfer ⊢
  cases bytes with
  | nil =>
      rw [Transfer.ofBytes, Option.map_eq_none_iff] at transfer
      rw [transfer]
      rfl
  | cons first rest =>
      obtain ⟨t, some, said⟩ := Option.map_eq_some_iff.mp transfer
      cases t with
      | read count => cases said
      | write first' rest' =>
          obtain ⟨rfl, rfl⟩ := Transfer.write.inj said
          rw [some]
          rfl

theorem InFrame.effect (inFrame : b.InFrame covers said data) (effect : Effect b c)
    (past : c.master.StartPast) : c.InFrame covers said data := by
  obtain ⟨-, port, inStep, answers, start, ⟨f, older, frames, messages, message, received⟩, line⟩ :=
    inFrame
  cases effect with
  | calm acknowledged crossed mbf =>
      refine ⟨past, port, inStep, answers, by rwa [acknowledged],
        ⟨f, older, frames, messages, ?_, by rwa [crossed]⟩, ?_⟩
      · rwa [saying, acknowledged]
      · refine line.imp_right fun ⟨free, off⟩ => ⟨free, ?_⟩
        exact Bool.eq_false_iff.mpr fun on => by simp [mbf on] at off
  | passing on free starts =>
      rw [free] at line
      rcases line with busy | ⟨-, off⟩
      · cases busy
      · simp [on] at off
  | byte byte on busy noData acknowledged =>
      have writes : asksToRead data = false := by
        rw [busy] at line
        exact (Option.some.inj (line.resolve_right fun ⟨free, _⟩ => by cases free)).symm
      rw [Heard.step_byte_taken byte busy noData frames]
      refine ⟨past, port, fun reading => (by cases reading), answers, ?_,
        ⟨_, older, rfl, messages, message_byte message writes acknowledged, ?_⟩, ?_⟩
      · rw [acknowledged, List.findSome?_append, start]
        rfl
      · intro reads
        rw [writes] at reads
        cases reads
      · rw [writes]
        exact .inl rfl
  | answered byte on busy next acknowledged crossed =>
      refine ⟨past, port, inStep, answers, by rwa [acknowledged],
        ⟨f, older, frames, messages, ?_, fun reads => ?_⟩, ?_⟩
      · rwa [saying, acknowledged]
      · rcases crossed with same | more
        · rw [same]
          exact received reads
        · rw [more]
          refine prefix_concat_of_getElem? (received reads) ?_
          simpa [nextAnswer, frames] using next
      · refine line.imp_right fun ⟨free, _⟩ => ?_
        rw [busy] at free
        cases free
  | stopped noData acknowledged crossed off =>
      obtain ⟨same, free, -⟩ := Heard.step_finish noData true
      refine ⟨past, by rw [b.slave.port_step, port], .of_free free, answers, by rwa [acknowledged],
        ⟨f, older, same.trans frames, messages, ?_, by rwa [crossed]⟩, .inr ⟨?_, off⟩⟩
      · rwa [saying, acknowledged]
      · rw [free]
        rfl

/-! The call is not the slave's -/

omit [DecidableEq P] in
theorem Elsewhere.continues (elsewhere : b.Elsewhere covers said) {z : Heard P σ}
    (continues : b.slave.Continues z) (inStep : z.InStep) :
    Elsewhere covers said { b with slave := z } := by
  obtain ⟨past, knows, others, free⟩ := elsewhere
  refine ⟨past, knows.continues continues inStep, others, fun on => ?_⟩
  have direction := continues.direction
  rw [free on] at direction
  cases line : z.bus.line with
  | free => rfl
  | busy read begun => simp [line, Line.direction] at direction

theorem Elsewhere.effect (elsewhere : b.Elsewhere covers said) (effect : Effect b c)
    (past : c.master.StartPast) : c.Elsewhere covers said := by
  obtain ⟨-, knows, others, free⟩ := elsewhere
  cases effect with
  | calm acknowledged crossed mbf =>
      exact ⟨past, knows, by rwa [acknowledged], fun on => free (mbf on)⟩
  | passing on line starts =>
      exact ⟨past, knows, fun data member => others data (starts data member), fun _ => line⟩
  | byte data on busy noData acknowledged =>
      rw [free on] at busy
      cases busy
  | answered data on busy next acknowledged crossed =>
      rw [free on] at busy
      cases busy
  | stopped noData acknowledged crossed off =>
      exact ⟨past, knows.finish noData true, by rwa [acknowledged], fun on => by simp [off] at on⟩

/-! The START is on the bus -/

theorem run_startHeard (noData : b.slave.bus.pending.hasData = false) (data : UInt8) :
    let z := run Heard.step b.slave (b.startHeard data)
    if b.answers data then
      z.frames =
          { address := calledAddress data
            read := asksToRead data
            transfer := if asksToRead data then some (.read 0) else none } :: b.slave.frames ∧
        z.bus.line.direction = some (asksToRead data)
    else z = b.slave.step (.finish false) := by
  intro z
  obtain ⟨frames, free, still⟩ := Heard.step_finish noData false
  cases answers : b.answers data with
  | false => simp [z, startHeard, answers]
  | true =>
      rw [if_pos rfl]
      obtain ⟨opened, busy, waits⟩ :=
        Heard.step_address_free free (calledAddress data) (asksToRead data)
      cases reads : asksToRead data with
      | false =>
          rw [reads] at opened busy
          have heard : z = (b.slave.step (.finish false)).step
              (.address (calledAddress data) false) := by
            simp [z, startHeard, answers, reads]
          rw [heard, opened, busy, frames]
          exact ⟨rfl, rfl⟩
      | true =>
          rw [reads] at opened busy waits
          have heard : z = ((b.slave.step (.finish false)).step
              (.address (calledAddress data) true)).step .request := by
            simp [z, startHeard, answers, reads]
          rw [heard, Heard.step_request_taken busy (waits.trans still) opened, frames]
          exact ⟨rfl, rfl⟩

/-- What a call has come to on the bus. -/
inductive Phase (covers : BusAddress → Bool) (said : List HeardFrame) (data : UInt8)
    (b : OneBus P σ) : Prop where
  | queued (waiting : b.master.StartQueued data) (knows : b.slave.Knows covers said)
  | sent (sent : b.master.StartSent data) (knows : b.slave.Knows covers said)
  | inFrame (inFrame : b.InFrame covers said data)
  | elsewhere (elsewhere : b.Elsewhere covers said)
  | lost (lost : b.master.StartLost)

theorem resting_line (resting : b.master.executing = none ∨ b.master.executing = some .stop)
    (knows : b.slave.Knows covers said) (e : MasterPort.BusEvent) :
    b.apply (.line e) = b ∨ (b.apply (.line e)).master = b.master.apply e ∧
      (b.apply (.line e)).slave.Knows covers said := by
  by_cases stops : e = .stopDone ∧ b.master.executing = some .stop
  · obtain ⟨rfl, stopping⟩ := stops
    cases noData : b.slave.bus.pending.hasData with
    | true => exact .inl (apply_refused (by simp [heard, stopHeard, stopping, stretched, noData]))
    | false =>
        rw [apply_line [.finish true] (by simp [heard, stopHeard, stopping, stretched, noData])]
        exact .inr ⟨rfl, knows.finish noData true⟩
  · have silent : b.heard e = some [] := by
      cases e with
      | ack => rcases resting with idle | stopping <;> simp [heard, ackHeard, *]
      | nak => rcases resting with idle | stopping <;> simp [heard, nakHeard, *]
      | receiveByte data => rcases resting with idle | stopping <;> simp [heard, receiveHeard, *]
      | stopDone => exact if_neg fun stopping => stops ⟨rfl, stopping⟩
      | _ => rfl
    rw [apply_line _ silent]
    exact .inr ⟨rfl, knows⟩

theorem phase_queued (waiting : b.master.StartQueued data) (knows : b.slave.Knows covers said)
    (e : MasterPort.BusEvent) : Phase covers said data (b.apply (.line e)) := by
  rcases resting_line waiting.executing knows e with same | ⟨moved, still⟩
  · rw [same]
    exact .queued waiting knows
  · rcases waiting.apply e with waits | ⟨-, sent⟩
    · exact .queued (by rwa [moved]) still
    · exact .sent (by rwa [moved]) still

theorem phase_sent (sent : b.master.StartSent data) (knows : b.slave.Knows covers said)
    (e : MasterPort.BusEvent) : Phase covers said data (b.apply (.line e)) := by
  have unmoved (refused : b.heard e = none) : Phase covers said data (b.apply (.line e)) := by
    rw [apply_refused refused]
    exact .sent sent knows
  have silent (notAck : e ≠ .ack) (notNak : e ≠ .nak) : b.heard e = some [] := by
    cases e with
    | ack => exact absurd rfl notAck
    | nak => exact absurd rfl notNak
    | receiveByte data => simp [heard, receiveHeard, sent.executing]
    | stopDone => simp [heard, stopHeard, sent.executing]
    | _ => rfl
  have answers : b.answers data = covers (calledAddress data) := by rw [← knows.port]; rfl
  -- What the slave hears of a START that it lets pass.
  have passed (noData : b.slave.bus.pending.hasData = false) (other : b.answers data = false)
      (heard : b.heard e = some (b.startHeard data)) (past : (b.master.apply e).StartPast)
      (starts : ∀ c ∈ (b.master.apply e).acknowledged, c = .start data) :
      Phase covers said data (b.apply (.line e)) := by
    have lets := run_startHeard noData data
    rw [if_neg (by simp [other])] at lets
    rw [apply_line _ heard, lets]
    refine .elsewhere ⟨past, knows.finish noData false, fun data' member => ?_, fun _ => ?_⟩
    · obtain rfl : data' = data := by simpa using starts _ member
      rw [← answers, other]
    · exact (Heard.step_finish noData false).2.1
  rcases sent.apply e with ⟨still, notAck, notNak⟩ | ⟨past, uncrossed, acked | ⟨none, ending⟩⟩
  · rw [apply_line [] (silent notAck notNak)]
    exact .sent still knows
  · obtain ⟨rfl, acknowledged, on⟩ := acked
    cases noData : b.slave.bus.pending.hasData with
    | true => exact unmoved (by simp [heard, ackHeard, sent.executing, stretched, noData])
    | false =>
        have heard : b.heard .ack = some (b.startHeard data) := by
          simp [heard, ackHeard, sent.executing, stretched, noData]
        cases own : b.answers data with
        | false => exact passed noData own heard past (by simp [acknowledged])
        | true =>
            have opened := run_startHeard noData data
            rw [if_pos own] at opened
            obtain ⟨frames, direction⟩ := opened
            rw [apply_line _ heard]
            refine .inFrame ⟨past, ?_, fun reading => ?_, by rw [← answers, own], ?_,
              ⟨_, _, frames, knows.messages, ?_, ?_⟩, .inl direction⟩
            · rw [Heard.port_run, knows.port]
            · rw [direction] at reading
              exact ⟨_, _, 0, frames, by rw [if_pos (Option.some.inj reading)]⟩
            · rw [acknowledged]
              rfl
            · rw [saying, acknowledged]
              cases asksToRead data <;> rfl
            · rw [uncrossed]
              exact fun _ => List.nil_prefix
  · by_cases refused : e = .nak
    · subst refused
      cases noData : b.slave.bus.pending.hasData with
      | true => exact unmoved (by simp [heard, nakHeard, sent.executing, stretched, noData])
      | false =>
          cases own : b.answers data with
          | true => exact unmoved (by simp [heard, nakHeard, sent.executing, own])
          | false =>
              have said : b.heard .nak = some (b.startHeard data) := by
                simp [heard, nakHeard, sent.executing, stretched, noData, own]
              exact passed noData own said past (by simp [none])
    · obtain ⟨off, notAck⟩ := ending.resolve_left refused
      rw [apply_line [] (silent notAck refused)]
      exact .elsewhere ⟨past, knows, by simp [none], fun on => by simp [off] at on⟩

omit [DecidableEq P] in
theorem phase_continues (phase : Phase covers said data b) {z : Heard P σ}
    (continues : b.slave.InStep → b.slave.Continues z ∧ z.InStep) :
    Phase covers said data { b with slave := z } := by
  cases phase with
  | queued waiting knows =>
      have ⟨goes, inStep⟩ := continues knows.inStep
      exact .queued waiting (knows.continues goes inStep)
  | sent sent knows =>
      have ⟨goes, inStep⟩ := continues knows.inStep
      exact .sent sent (knows.continues goes inStep)
  | inFrame inFrame =>
      have ⟨goes, inStep⟩ := continues inFrame.inStep
      exact .inFrame (inFrame.continues goes inStep)
  | elsewhere elsewhere =>
      have ⟨goes, inStep⟩ := continues elsewhere.knows.inStep
      exact .elsewhere (elsewhere.continues goes inStep)
  | lost lost => exact .lost lost

theorem stable_phase : Stable apply (Phase (P := P) (σ := σ) covers said data) := by
  intro b m phase
  cases m with
  | line e =>
      cases phase with
      | queued waiting knows => exact phase_queued waiting knows e
      | sent sent knows => exact phase_sent sent knows e
      | inFrame inFrame =>
          exact .inFrame (inFrame.effect (effect inFrame.past e) (past_line inFrame.past e))
      | elsewhere elsewhere =>
          exact .elsewhere
            (elsewhere.effect (effect elsewhere.past e) (past_line elsewhere.past e))
      | lost lost =>
          refine .lost ?_
          unfold apply
          dsimp only
          split
          · exact stable_startLost _ e lost
          · exact lost
  | request => exact phase_continues phase Heard.continues_request
  | interrupt =>
      exact phase_continues phase fun inStep => ⟨Heard.continues_interrupt _, inStep.interrupt⟩

theorem phase_write (phase : Phase covers said data b) {f : MasterPort → MasterPort}
    (during : During f) : Phase covers said data (b.write f) := by
  have unseen := unseen_during during b.master
  have calm : Effect b (b.write f) :=
    .calm unseen.acknowledged unseen.crossed fun on => unseen.mbf ▸ on
  cases phase with
  | queued waiting knows =>
      rcases waiting.during during with waits | lost
      · exact .queued waits knows
      · exact .lost lost
  | sent sent knows => exact .sent (sent.unseen unseen) knows
  | inFrame inFrame => exact .inFrame (inFrame.effect calm (inFrame.past.unseen unseen))
  | elsewhere elsewhere => exact .elsewhere (elsewhere.effect calm (elsewhere.past.unseen unseen))
  | lost lost => exact .lost (lost.unseen unseen)

theorem stable_resting {R : MasterPort → Prop} (stable : Stable MasterPort.apply R)
    (resting : ∀ p, R p → p.AtRest) :
    Stable (apply (P := P) (σ := σ)) fun b => R b.master ∧ b.slave.Knows covers said := by
  rintro b m ⟨rests, knows⟩
  cases m with
  | line e =>
      rcases resting_line (resting _ rests).executing knows e with same | ⟨moved, still⟩
      · rw [same]
        exact ⟨rests, knows⟩
      · rw [moved]
        exact ⟨stable _ e rests, still⟩
  | request =>
      have ⟨goes, inStep⟩ := Heard.continues_request knows.inStep
      exact ⟨rests, knows.continues goes inStep⟩
  | interrupt =>
      exact ⟨rests, knows.continues (Heard.continues_interrupt _) knows.inStep.interrupt⟩

theorem phase_call {accepted started : OneBus P σ} (atRest : b.master.AtRest)
    (knows : b.slave.Knows covers said) (accepts : Drives (fun _ => False) b accepted)
    (prepares : Drives Prepares (accepted.write expectStart) started)
    (goesOn : Drives During (started.write (send (.start data))) c) :
    Phase covers said data c := by
  have resting := accepts.keeps (stable_resting stable_atRest fun _ => id)
    (fun _ ⟨_, never, _⟩ => False.elim never) ⟨atRest, knows⟩
  have due : (accepted.write expectStart).master.StartDue :=
    ⟨⟨resting.1.queued, resting.1.executing⟩, rfl, rfl⟩
  have ready := prepares.keeps (stable_resting stable_startDue fun _ => StartDue.toAtRest)
    (fun _ ⟨_, write, written⟩ _ ⟨due, knows⟩ => written ▸ ⟨due.prepares write, knows⟩)
    ⟨due, resting.2⟩
  exact goesOn.keeps stable_phase (fun _ ⟨_, write, written⟩ _ phase =>
    written ▸ phase_write phase write) (.queued (ready.1.send data) ready.2)

end OneBus

namespace Loopback
open MasterPort
variable {O P σ : Type} [Inhabited O] [DecidableEq O] [Inhabited P] [DecidableEq P]
  {x : Loopback O P σ} {turn : Turn O} {turns : List (Turn O)}

def bus (x : Loopback O P σ) : OneBus P σ := { master := x.master.port, slave := x.slave }

/-- The turn takes place on one bus. The call finds the port at rest, is accepted, clears the flags
and puts its START into the FIFO. -/
def OnOneBus (x : Loopback O P σ) (turn : Turn O) : Prop :=
  x.master.port.AtRest ∧ ∃ (accepted started : OneBus P σ) (data : UInt8),
    OneBus.Drives (fun _ => False) x.bus accepted ∧
      OneBus.Drives Prepares (accepted.write expectStart) started ∧
        OneBus.Drives During (started.write (send (.start data))) (x.step turn).bus

theorem message_some {s : Master O} (completes : turn.Completes s) : turn.message s ≠ none := by
  obtain ⟨-, went⟩ := completes
  unfold Turn.message
  cases kind : turn.call.action with
  | writeAsync address buffer numBytes sendStop | readAsync address buffer numBytes sendStop => simp
  | _ => simp [kind] at went

/-- Then the bus carries what is said on it. -/
theorem carries_of_onOneBus (sound : x.Sound) (completes : turn.Completes x.master)
    (inStep : x.slave.InStep) (oneBus : x.OnOneBus turn) :
    x.Carries turn ∧ (x.step turn).slave.InStep := by
  obtain ⟨atRest, accepted, started, data, accepts, prepares, goesOn⟩ := oneBus
  have phase := OneBus.phase_call (b := x.bus) atRest ⟨rfl, inStep, rfl⟩ accepts prepares goesOn
  have called : (x.step turn).master.port.message ≠ none := by
    rw [message_after sound completes]
    exact message_some completes
  cases phase with
  | queued waiting _ => exact absurd (if_pos waiting.awaiting) called
  | sent sent _ => exact absurd sent.message called
  | lost lost => exact absurd lost.message called
  | inFrame inFrame =>
      obtain ⟨past, -, inStep, answers, start, ⟨f, older, frames, messages, said, received⟩, -⟩ :=
        inFrame
      have message : (x.step turn).master.port.message =
          some ((x.step turn).master.port.saying data) :=
        (message_eq past.begun).trans (congrArg (Option.map _) start)
      have heard : (x.step turn).master.port.message.filter
          (fun f => x.slave.bus.slave.port.answersTo f.address) =
            some ((x.step turn).master.port.saying data) := by
        rw [message, Option.filter_some]
        exact if_pos answers
      refine ⟨⟨?_, fun m member reads g latest => ?_⟩, inStep⟩
      · rw [heard]
        exact (congrArg (List.map HeardFrame.message) frames).trans
          (congrArg₂ List.cons said messages)
      · rw [heard] at member
        obtain rfl := Option.some.inj member
        have head := congrArg List.head? frames
        obtain rfl : f = g := Option.some.inj (head.symm.trans latest)
        exact received reads
  | elsewhere elsewhere =>
      obtain ⟨past, knows, others, -⟩ := elsewhere
      have heard : (x.step turn).master.port.message.filter
          (fun f => x.slave.bus.slave.port.answersTo f.address) = none := by
        refine Option.filter_eq_none_iff.mpr fun f said => ?_
        have member := (message_eq past.begun).symm.trans said
        obtain ⟨data', found, rfl⟩ := Option.map_eq_some_iff.mp member
        obtain ⟨c, listed, start⟩ := List.exists_of_findSome?_eq_some found
        have other := others data'
        cases c <;> cases start
        exact Bool.eq_false_iff.mp (other listed)
      refine ⟨⟨?_, ?_⟩, knows.inStep⟩
      · rw [heard]
        exact knows.messages
      · rw [heard]
        exact fun m member => by cases member

/-- What a read from the slave has brought is what the slave's driver has answered. -/
def BringsAnswer (x : Loopback O P σ) (turn : Turn O) : Prop :=
  match turn.call.action with
  | .readAsync address buffer _ _ =>
      let y := x.step turn
      x.slave.bus.slave.port.answersTo (sentAddress address) = true →
        ∃ f older, y.slave.frames = f :: older ∧
          y.master.memory.slice buffer y.master.getBytesTransferred <+: f.answered
  | _ => True

theorem bringsAnswer (sound : x.Sound) (delivers : x.Delivers turn) : x.BringsAnswer turn := by
  unfold BringsAnswer
  split
  · next address buffer numBytes sendStop kind =>
    intro y answers
    obtain ⟨f, older, frames, -, -, received⟩ := read_heard sound delivers kind answers
    exact ⟨f, older, frames, received⟩
  · trivial

/-- On one bus every call that completes delivers its message: the slave hears those that are for
it, each once and in its turn, and nothing else, and reads bring its answers. -/
theorem one_bus_delivers (memory : Memory O UInt8) (history : List (Master.Step O))
    (slave : Slave P σ) (events : List BusEvent) (turns : List (Turn O)) :
    let x : Loopback O P σ := reached memory history slave events
    x.slave.InStep →
      Along step (fun x turn => turn.Completes x.master ∧ x.OnOneBus turn) x turns →
        Along step (fun x turn => x.Delivers turn ∧ x.BringsAnswer turn) x turns ∧
          (run step x turns).slave.frames.map HeardFrame.message =
            (x.messages turns).reverse ++ x.slave.frames.map HeardFrame.message := by
  intro x inStep onOneBus
  have start : x.Sound ∧ x.slave.InStep := ⟨sound_run memory history _, inStep⟩
  have delivers : Along step (fun x turn => x.Delivers turn ∧ x.BringsAnswer turn) x turns := by
    refine along_imp (I := fun x : Loopback O P σ => x.Sound ∧ x.slave.InStep)
      (fun x turn ⟨sound, inStep⟩ ⟨completes, oneBus⟩ => ?_)
      (fun x turn ⟨sound, inStep⟩ ⟨completes, oneBus⟩ => ?_) start onOneBus
    · exact ⟨sound.step turn, (carries_of_onOneBus sound completes inStep oneBus).2⟩
    · have carries := (carries_of_onOneBus sound completes inStep oneBus).1
      exact ⟨⟨completes, carries⟩, bringsAnswer sound ⟨completes, carries⟩⟩
  exact ⟨delivers, frames_run start.1 ((along_and x turns).mp delivers).1⟩

/-! ### A message and its answer -/

/-- Nothing has happened on the bus until the START is in the FIFO. -/
def startQueued (x : Loopback O P σ) (data : UInt8) : OneBus P σ :=
  (((x.bus.write expectStart).write (clearFlags x.master.port.msr)).write (setMen true)).write
    (send (.start data))

theorem onOneBus_of_startQueued {data : UInt8} {c : OneBus P σ} (atRest : x.master.port.AtRest)
    (goesOn : OneBus.Drives During (x.startQueued data) c)
    (master : c.master = (x.step turn).master.port) (slave : c.slave = (x.step turn).slave) :
    x.OnOneBus turn := by
  have cleared : OneBus.Drives Prepares (x.bus.write expectStart)
      ((x.bus.write expectStart).write (clearFlags x.master.port.msr)) :=
    Driven.refl.write ⟨_, .inr ⟨_, rfl⟩, rfl⟩
  have reached : c = (x.step turn).bus := by
    rw [bus, ← master, ← slave]
  exact ⟨atRest, x.bus, _, data, .refl, cleared.write ⟨_, .inl rfl, rfl⟩, reached ▸ goesOn⟩

theorem write_during {b c : OneBus P σ} (driven : OneBus.Drives During b c)
    (f : MasterPort → MasterPort)
    (listed : f ∈
      send (.transmit 0x11) :: send (.receive 1) :: send .stop :: Master.registerWrites) :
    OneBus.Drives During b (c.write f) := by
  refine driven.write ⟨f, ?_, rfl⟩
  rcases List.mem_cons.mp listed with rfl | listed
  · exact .inl (.inr ⟨0x11, rfl⟩)
  · rcases List.mem_cons.mp listed with rfl | ending
    · exact .inr ⟨1, rfl⟩
    · exact .inl (.inl ending)

theorem onOneBus_oneMessage : mailLoopback.OnOneBus oneMessage := by
  have called := write_during (b := mailLoopback.startQueued 0x5A) .refl (setTdie true)
    (by simp [Master.registerWrites])
  have addressed := (called.move (.line .fetch)).move (.line .ack)
  have sent := write_during addressed (send (.transmit 0x11)) (by simp)
  have taken := ((sent.move (.line .fetch)).move (.line .ack)).move .interrupt
  have written := write_during taken (setTdie false) (by simp [Master.registerWrites])
  have stopping := write_during (write_during written (send .stop) (by simp)) (setMen false)
    (by simp [Master.registerWrites])
  have stopped := (stopping.move (.line .fetch)).move (.line .stopDone)
  have cleared := write_during (write_during stopped (setTdie false)
    (by simp [Master.registerWrites])) clearSdf (by simp [Master.registerWrites])
  exact onOneBus_of_startQueued ⟨by decide +kernel, .inl (by decide +kernel)⟩ cleared
    (by decide +kernel) (by rfl)

theorem onOneBus_readTwo : (mailLoopback.step oneMessage).OnOneBus (readTwo 0x22 0 []) := by
  have asked := write_during (b := (mailLoopback.step oneMessage).startQueued 0x5B) .refl
    (send (.receive 1)) (by simp)
  have called := write_during asked (send .stop) (by simp)
  have answered := ((called.move (.line .fetch)).move (.line .ack)).move .interrupt
  have received := (answered.move (.line .fetch)).move (.line (.receiveByte 0x22))
  have first := write_during received takeReceived (by simp [Master.registerWrites])
  have padded := ((first.move .request).move .interrupt).move (.line (.receiveByte 0))
  have second := write_during (write_during padded takeReceived (by simp [Master.registerWrites]))
    (setMen false) (by simp [Master.registerWrites])
  have stopped := (second.move (.line .fetch)).move (.line .stopDone)
  have cleared := write_during (write_during stopped (setTdie false)
    (by simp [Master.registerWrites])) clearSdf (by simp [Master.registerWrites])
  exact onOneBus_of_startQueued ⟨by decide +kernel, .inl (by decide +kernel)⟩
    (cleared.move .interrupt) (by decide +kernel) (by rfl)

theorem one_bus_delivers_mail :
    (run step mailLoopback messageAndAnswer).slave.frames.map HeardFrame.message =
      [{ address := sentAddress 0x2D, read := true, transfer := some (.read 0) },
       { address := sentAddress 0x2D, read := false, transfer := some (.write 0x11 []) }] := by
  have first : oneMessage.Completes mailLoopback.master := by decide +kernel
  have second : (readTwo 0x22 0 []).Completes (mailLoopback.step oneMessage).master := by
    decide +kernel
  have heard := (one_bus_delivers (fun _ _ => 0x11) powerUp
    (Slave.mailbox mailBuffers (fun _ _ => 0x22) (.listen 0x2D)) [] messageAndAnswer (.of_free rfl)
    ⟨⟨first, onOneBus_oneMessage⟩, ⟨second, onOneBus_readTwo⟩, trivial⟩).2
  exact heard.trans (by decide +kernel)

end Loopback
end TeensyI2C
