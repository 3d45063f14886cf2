import TeensyI2C.RegisterSlave.Windows

/-!
What the application is told of the frames: its `after_read` and `after_write` callbacks, over
whole runs. A frame that brings a register number and data is compared with a pair of frames that
bring them one after the other.
-/

namespace TeensyI2C
open ObjectMemory EventMachine

/-- The automaton with what the application can see of it. -/
structure Watched (ν : Type) where
  registers : Registers
  /-- `rx_buffer[0]`, the number that the callbacks are given. -/
  regNum : UInt8
  app : ν

namespace Watched
variable {ν : Type} (afterRead : Option (UInt8 → ν → ν))
  (afterWrite : Option (UInt8 → UInt8 → ν → ν))

def tellRead (regNum : UInt8) (app : ν) : ν :=
  match afterRead with
  | some callback => callback regNum app
  | none => app

def tellWrite (regNum : UInt8) (numBytes : Nat) (app : ν) : ν :=
  match afterWrite with
  | some callback => callback regNum (UInt8.ofNat numBytes) app
  | none => app

/-- One frame. The byte count of a frame that brings its own register number is that of the
frame, whatever there is room for; otherwise it is the number of bytes stored. -/
def step (w : Watched ν) (t : Transfer) : Watched ν :=
  let next := w.registers.stepDriver t
  match t, w.registers.selected with
  | .read _, _ => { w with registers := next, app := tellRead afterRead w.regNum w.app }
  | .write first [], none => { w with registers := next, regNum := first }
  | .write first (data :: more), none =>
      { registers := next
        regNum := first
        app := tellWrite afterWrite first (min (data :: more).length 8) w.app }
  | .write first rest, some reg =>
      if w.registers.discards t then { w with registers := next }
      else
        { w with
          registers := next
          app := tellWrite afterWrite w.regNum
            (min (first :: rest).length (w.registers.mutableBytes.length - reg.toNat)) w.app }

@[simp] theorem step_registers (w : Watched ν) (t : Transfer) :
    (w.step afterRead afterWrite t).registers = w.registers.stepDriver t := by
  unfold step
  split
  · rfl
  · rfl
  · rfl
  · split <;> rfl

variable {w : Watched ν} {reg data : UInt8} {more : List UInt8}

theorem run_whole (waiting : w.registers.selected = none) (short : (data :: more).length ≤ 8) :
    run (step afterRead afterWrite) w [.write reg (data :: more)] =
      { registers := w.registers.storeAt reg (data :: more)
        regNum := reg
        app := tellWrite afterWrite reg (data :: more).length w.app } := by
  have all : (data :: more).take 8 = data :: more := List.take_of_length_le short
  have count : min (data :: more).length 8 = (data :: more).length := Nat.min_eq_left short
  simp only [run_cons, run_nil, step, Registers.stepDriver, Registers.discards, Registers.step,
    waiting, Bool.false_eq_true, if_false, all, count]

theorem run_pair (waiting : w.registers.selected = none)
    (inside : reg.toNat < w.registers.mutableBytes.length) :
    run (step afterRead afterWrite) w [.write reg [], .write data more] =
      { registers := w.registers.storeAt reg (data :: more)
        regNum := reg
        app := tellWrite afterWrite reg
          (min (data :: more).length (w.registers.mutableBytes.length - reg.toNat)) w.app } := by
  have kept : ¬ w.registers.mutableBytes.length ≤ reg.toNat := Nat.not_le_of_lt inside
  simp only [run_cons, run_nil, step, Registers.stepDriver, Registers.discards, Registers.step,
    waiting, Bool.false_eq_true, if_false, kept, decide_false]
  unfold Registers.storeAt
  simp [inside, waiting]

end Watched

namespace Reply
variable {ν : Type} (reply : RegisterReply ν)

/-- A callback that leaves the application as the watched automaton has it. -/
structure Tells (afterRead : Option (UInt8 → ν → ν)) (afterWrite : Option (UInt8 → UInt8 → ν → ν))
    (w : Watched ν) : Prop where
  afterRead : reply.app.afterReadCallback = afterRead
  afterWrite : reply.app.afterWriteCallback = afterWrite
  regNum : reply.regNum = w.regNum
  app : reply.app.app = w.app

variable {reply} {afterRead : Option (UInt8 → ν → ν)}
  {afterWrite : Option (UInt8 → UInt8 → ν → ν)} {w : Watched ν}

theorem Tells.waitForRegNum (h : Tells reply afterRead afterWrite w) :
    Tells reply.waitForRegNum afterRead afterWrite w :=
  { h with }

theorem Tells.fetchRegNum (h : Tells reply afterRead afterWrite w) :
    Tells reply.fetchRegNum afterRead afterWrite w :=
  { h with }

theorem Tells.selectRegister (h : Tells reply afterRead afterWrite w) (reg : UInt8) :
    Tells (reply.selectRegister reg) afterRead afterWrite w where
  afterRead := by simpa using h.afterRead
  afterWrite := by simpa using h.afterWrite
  regNum := by simpa [Reply.regNum] using h.regNum
  app := by simpa using h.app

theorem Tells.writeRegister (h : Tells reply afterRead afterWrite w) (reg : UInt8) (len : Nat) :
    Tells (reply.writeRegister reg len) afterRead afterWrite w := by
  have regNum : (reply.writeRegister reg len).regNum = reply.regNum := by
    unfold Reply.writeRegister
    dsimp only
    split
    · exact congrFun (Memory.storeAll_other _ _ _ (by simp)) 0
    · rfl
  exact {
    afterRead := by simpa using h.afterRead
    afterWrite := by simpa using h.afterWrite
    regNum := regNum.trans h.regNum
    app := by simpa using h.app }

theorem Tells.notifyWrite (h : Tells reply afterRead afterWrite w) (numBytes : Nat) :
    Tells (reply.notifyWrite (UInt8.ofNat numBytes)) afterRead afterWrite
      { w with app := Watched.tellWrite afterWrite w.regNum numBytes w.app } := by
  have number : (reply.notifyWrite (UInt8.ofNat numBytes)).regNum = w.regNum := by
    simpa [Reply.regNum] using h.regNum
  unfold Reply.notifyWrite at number ⊢
  cases callback : reply.app.afterWriteCallback with
  | none =>
      have nothing := callback.symm.trans h.afterWrite
      simp only [callback] at number ⊢
      exact { h with app := by rw [← nothing]; exact h.app }
  | some callback' =>
      have called := callback.symm.trans h.afterWrite
      simp only [callback] at number ⊢
      refine ⟨h.afterRead, called, number, ?_⟩
      rw [← called, h.regNum, h.app, Watched.tellWrite]

theorem Tells.notifyRead (h : Tells reply afterRead afterWrite w) :
    Tells reply.notifyRead afterRead afterWrite
      { w with app := Watched.tellRead afterRead w.regNum w.app } := by
  have number : reply.notifyRead.regNum = w.regNum := by
    simpa [Reply.regNum] using h.regNum
  unfold Reply.notifyRead at number ⊢
  cases callback : reply.app.afterReadCallback with
  | none =>
      have nothing := callback.symm.trans h.afterRead
      simp only [callback] at number ⊢
      exact { h with app := by rw [← nothing]; exact h.app }
  | some callback' =>
      have called := callback.symm.trans h.afterRead
      simp only [callback] at number ⊢
      refine ⟨called, h.afterWrite, number, ?_⟩
      rw [← called, h.regNum, h.app, Watched.tellRead]

end Reply

namespace Slave
variable {ν : Type} {afterRead : Option (UInt8 → ν → ν)}
  {afterWrite : Option (UInt8 → UInt8 → ν → ν)} {w : Watched ν}
  {s : Slave RegisterObject (I2CRegisterSlave ν)}

/-- Driver, arrays and application are in the watched automaton's state. -/
structure Tells (afterRead : Option (UInt8 → ν → ν)) (afterWrite : Option (UInt8 → UInt8 → ν → ν))
    (w : Watched ν) (s : Slave RegisterObject (I2CRegisterSlave ν)) : Prop where
  follows : Follows w.registers s
  application : Reply.Tells { app := s.app, memory := s.memory } afterRead afterWrite w

theorem Tells.serveAddress (h : Tells afterRead afterWrite w s) (status : SlaveStatus) :
    Tells afterRead afterWrite w (s.serveAddress status) := by
  have follows := h.follows.serveAddress status
  obtain ⟨_, named⟩ := serveAddress_eq s status
  rw [named] at follows ⊢
  exact ⟨follows, h.application⟩

theorem Tells.reply_waiting (h : Tells afterRead afterWrite w s)
    (aimed : w.registers.selected = none) (first : UInt8) (rest : List UInt8)
    (address : UInt16) (error : I2CError) :
    Reply.Tells (I2CRegisterSlave.afterReceive (min (rest.length + 1) s.rxBuffer.size) address error
      (s.memory.storeAll s.rxBuffer.buffer ((first :: rest).take s.rxBuffer.size)) s.app)
      afterRead afterWrite (w.step afterRead afterWrite (.write first rest)) := by
  have got := h.follows.gotRegNum
  have window := h.follows.receive
  unfold Registers.receiveWindow at window
  simp only [aimed] at window got
  rw [window.1, window.2]
  change Reply.Tells (I2CRegisterSlave.afterReceive _ _ _
    (I2CRegisterSlave.afterBytes s.memory first rest) _) _ _ _
  have arrived : Reply.Tells ({
      app := { s.app with gotRegNum := true }
      memory := I2CRegisterSlave.afterBytes s.memory first rest } : RegisterReply ν)
      afterRead afterWrite { w with regNum := first } :=
    ⟨h.application.afterRead, h.application.afterWrite,
      I2CRegisterSlave.regNum_afterBytes _ _ _, h.application.app⟩
  cases rest with
  | nil =>
      have single : min (([] : List UInt8).length + 1) regSlaveWriteBufferLength = 1 := by
        decide
      rw [single, I2CRegisterSlave.afterReceive_selects s.memory got]
      simp only [Watched.step, aimed]
      exact { arrived.fetchRegNum.selectRegister first with }
  | cons data more =>
      have several : 1 < min ((data :: more).length + 1) regSlaveWriteBufferLength := by
        simp only [List.length_cons, regSlaveWriteBufferLength]
        omega
      have count : min ((data :: more).length + 1) regSlaveWriteBufferLength - 1 =
          min (data :: more).length 8 := by
        simp only [regSlaveWriteBufferLength]
        omega
      rw [I2CRegisterSlave.afterReceive_writes s.memory got first (data :: more) several,
        count]
      simp only [Watched.step, aimed]
      exact { ((arrived.fetchRegNum.writeRegister first _).notifyWrite _).waitForRegNum with }

theorem Tells.reply_selected (h : Tells afterRead afterWrite w s)
    (buffer : s.rxBuffer.initialised = true) {reg : UInt8}
    (aimed : w.registers.selected = some reg) (first : UInt8) (rest : List UInt8)
    (address : UInt16) (error : I2CError) :
    Reply.Tells (I2CRegisterSlave.afterReceive (min (rest.length + 1) s.rxBuffer.size) address error
      (s.memory.storeAll s.rxBuffer.buffer ((first :: rest).take s.rxBuffer.size)) s.app)
      afterRead afterWrite (w.step afterRead afterWrite (.write first rest)) := by
  have got := h.follows.gotRegNum
  have window := h.follows.receive
  have discards := h.follows.discards_eq first rest
  rw [buffer, Bool.not_true] at discards
  unfold Registers.receiveWindow at window
  simp only [aimed] at window got
  have inside : reg.toNat < w.registers.mutableBytes.length := by
    simpa [Registers.discards, aimed] using discards
  simp only [inside, if_true] at window
  rw [window.1, window.2]
  unfold I2CRegisterSlave.afterReceive
  simp only [got, Option.isSome_some, Bool.not_true, Bool.false_eq_true, if_false]
  have kept : Reply.Tells ({
      app := { s.app with gotRegNum := false }
      memory := s.memory.storeAll ⟨.mutableBuffer, reg.toNat⟩
        ((first :: rest).take (w.registers.mutableBytes.length - reg.toNat)) } :
      RegisterReply ν) afterRead afterWrite w :=
    ⟨h.application.afterRead, h.application.afterWrite,
      (congrFun (Memory.storeAll_other _ _ _ (by simp)) 0).trans h.application.regNum,
      h.application.app⟩
  have told := (kept.notifyWrite (min (rest.length + 1)
    (w.registers.mutableBytes.length - reg.toNat))).waitForRegNum
  have next : (w.step afterRead afterWrite (.write first rest)).regNum = w.regNum ∧
      (w.step afterRead afterWrite (.write first rest)).app =
        Watched.tellWrite afterWrite w.regNum (min (rest.length + 1)
          (w.registers.mutableBytes.length - reg.toNat)) w.app := by
    simp [Watched.step, aimed, discards]
  exact ⟨told.afterRead, told.afterWrite, told.regNum.trans next.1.symm,
    told.app.trans next.2.symm⟩

theorem Tells.reply_afterReceive (h : Tells afterRead afterWrite w s)
    (buffer : s.rxBuffer.initialised = true) (first : UInt8) (rest : List UInt8)
    (address : UInt16) (error : I2CError) :
    Reply.Tells (I2CRegisterSlave.afterReceive (min (rest.length + 1) s.rxBuffer.size) address error
      (s.memory.storeAll s.rxBuffer.buffer ((first :: rest).take s.rxBuffer.size)) s.app)
      afterRead afterWrite (w.step afterRead afterWrite (.write first rest)) := by
  cases aimed : w.registers.selected with
  | none => exact h.reply_waiting aimed first rest address error
  | some reg => exact h.reply_selected buffer aimed first rest address error

theorem Tells.frame (h : Tells afterRead afterWrite w s)
    (small : w.registers.mutableBytes.length ≤ 255) (f : Frame) (status : SlaveStatus) :
    Tells afterRead afterWrite (w.step afterRead afterWrite f.transfer)
      ((run isr s (f.dataCalls {})).serveAddress status).endOfFrame := by
  have follows := (h.follows.frame small f status).1
  rw [← Watched.step_registers afterRead afterWrite] at follows
  refine ⟨follows, ?_⟩
  cases transfer : f.transfer with
  | read count =>
      obtain ⟨address, error, next, trace, ended⟩ := endOfFrame_run_read transfer
        h.follows.idle h.follows.beforeTransmit h.follows.afterTransmit status
      rw [ended]
      exact { h.application.waitForRegNum.notifyRead with }
  | write first rest =>
      cases buffer : s.rxBuffer.initialised with
      | false =>
          have discards := h.follows.discards_eq first rest
          rw [buffer, Bool.not_false] at discards
          have same : (w.step afterRead afterWrite (.write first rest)).regNum = w.regNum ∧
              (w.step afterRead afterWrite (.write first rest)).app = w.app := by
            cases aimed : w.registers.selected with
            | none => simp [Registers.discards, aimed] at discards
            | some reg => simp [Watched.step, aimed, discards]
          obtain ⟨address, named⟩ := serveAddress_eq (run isr s (f.dataCalls {})) status
          rw [named, run_write_discarded transfer h.follows.idle buffer]
          have silent := endOfFrame_idle
            (s := { s with error := .bufferOverflow, addressCalled := address }) h.follows.idle
          dsimp only at silent ⊢
          rw [silent]
          exact ⟨h.application.afterRead, h.application.afterWrite,
            h.application.regNum.trans same.1.symm, h.application.app.trans same.2.symm⟩
      | true =>
          obtain ⟨address, error, trace, ended⟩ :=
            endOfFrame_run_write transfer buffer h.follows.afterReceive status
          rw [ended]
          exact { h.reply_afterReceive buffer first rest address error with }

theorem Tells.calls (h : Tells afterRead afterWrite w s)
    (small : w.registers.mutableBytes.length ≤ 255) (frames : List Frame) :
    Tells afterRead afterWrite
      (run (Watched.step afterRead afterWrite) w (frames.map (·.transfer)))
      (run isr s (Frame.calls frames)) := by
  have all := calls_rule (Watched.step afterRead afterWrite)
    (I := fun w (s : Slave RegisterObject (I2CRegisterSlave ν)) =>
      w.registers.mutableBytes.length ≤ 255 ∧ Tells afterRead afterWrite w s)
    (fun w s status held => ⟨held.1, held.2.serveAddress status⟩)
    (fun w s f status held => ⟨by simpa using held.1, held.2.frame held.1 f status⟩)
    (a := w) frames ⟨small, h⟩
  exact all.2

def watch (s : Slave RegisterObject (I2CRegisterSlave ν)) : Watched ν where
  registers := s.app.registers s.memory
  regNum := s.memory.load ⟨.rxBuffer, 0⟩
  app := s.app.app

theorem Waiting.tells (h : s.Waiting) :
    Tells s.app.afterReadCallback s.app.afterWriteCallback s.watch s where
  follows := {
    h with
    mutableSize := by simp [watch, I2CRegisterSlave.registers]
    readOnlySize := by simp [watch, I2CRegisterSlave.registers]
    stored := by simp [Registers.Stored, watch, I2CRegisterSlave.registers] }
  application := ⟨rfl, rfl, rfl, rfl⟩

theorem Follows.waiting {g : Registers} (h : Follows g s) (unaimed : g.selected = none) :
    s.Waiting where
  afterReceive := h.afterReceive
  beforeTransmit := h.beforeTransmit
  afterTransmit := h.afterTransmit
  idle := h.idle
  noTrailing := h.noTrailing
  gotRegNum := by rw [h.gotRegNum, unaimed]; rfl
  receive := by simpa [Registers.receiveWindow, unaimed] using h.receive
  transmit := by simpa [Registers.transmitWindow, unaimed] using h.transmit

end Slave

/-! ### One frame or two -/

namespace I2CRegisterSlave

/-- An application that keeps a list of the writes it is told of. -/
def record (regNum numBytes : UInt8) (log : List (UInt8 × UInt8)) : List (UInt8 × UInt8) :=
  log ++ [(regNum, numBytes)]

/-- The same mutable contents, the same single notification, and both slaves waiting again, which
fixes their windows. -/
def WritesAlike (s a b : Slave RegisterObject (I2CRegisterSlave (List (UInt8 × UInt8)))) : Prop :=
  a.memory.slice ⟨.mutableBuffer, 0⟩ s.app.mutableBufferSize =
      b.memory.slice ⟨.mutableBuffer, 0⟩ s.app.mutableBufferSize ∧
    (∃ regNum numBytes, a.app.app = s.app.app ++ [(regNum, numBytes)] ∧
      b.app.app = s.app.app ++ [(regNum, numBytes)]) ∧
    a.Waiting ∧ b.Waiting

variable {s : Slave RegisterObject (I2CRegisterSlave (List (UInt8 × UInt8)))}

/-- One frame and two frames agree exactly if all the data fits between the register and the end
of the mutable array. -/
theorem writes_alike_iff (waiting : s.Waiting)
    (recording : s.app.afterWriteCallback = some record)
    (small : s.app.mutableBufferSize ≤ 255) {reg data : UInt8} {more : List UInt8}
    (inside : reg.toNat < s.app.mutableBufferSize) (short : (data :: more).length ≤ 8)
    {whole number rest : Frame} (one : whole.transfer = .write reg (data :: more))
    (first : number.transfer = .write reg []) (second : rest.transfer = .write data more) :
    WritesAlike s (run Slave.isr s (Frame.calls [whole]))
        (run Slave.isr s (Frame.calls [number, rest])) ↔
      (data :: more).length ≤ s.app.mutableBufferSize - reg.toNat := by
  have size : (s.watch).registers.mutableBytes.length = s.app.mutableBufferSize := by
    simp [Slave.watch, registers]
  have oneFrame := waiting.tells.calls (by rw [size]; exact small) [whole]
  have twoFrames := waiting.tells.calls (by rw [size]; exact small) [number, rest]
  simp only [List.map_cons, List.map_nil, one, first, second, recording] at oneFrame twoFrames
  rw [Watched.run_whole _ _ rfl short] at oneFrame
  rw [Watched.run_pair _ _ rfl (by rw [size]; exact inside), size] at twoFrames
  have contents := oneFrame.follows.stored.1.trans twoFrames.follows.stored.1.symm
  have oneApp := oneFrame.application.app
  have twoApp := twoFrames.application.app
  simp only [Registers.length_storeAt, size] at contents
  simp only [Watched.tellWrite, record] at oneApp twoApp
  have unselected : (s.watch.registers.storeAt reg (data :: more)).selected = none :=
    Registers.storeAt_selected _ _ _
  have waits := And.intro (oneFrame.follows.waiting unselected)
    (twoFrames.follows.waiting unselected)
  constructor
  · rintro ⟨-, ⟨regNum, numBytes, oneLog, twoLog⟩, -⟩
    have logs := (oneApp.symm.trans (oneLog.trans twoLog.symm)).trans twoApp
    have counts := List.append_cancel_left logs
    simp only [List.cons.injEq, Prod.mk.injEq, and_true, true_and] at counts
    have equal := congrArg UInt8.toNat counts
    rw [UInt8.toNat_ofNat', UInt8.toNat_ofNat'] at equal
    omega
  · intro fits
    rw [Nat.min_eq_left fits] at twoApp
    exact ⟨contents, ⟨_, _, oneApp, twoApp⟩, waits⟩

/-- Two mutable bytes, an application that keeps a record, and the slave listening. -/
def recordingSlave : Slave RegisterObject (I2CRegisterSlave (List (UInt8 × UInt8))) :=
  listen (construct {
    mutableBufferSize := 2
    readOnlyBufferSize := 0
    afterWriteCallback := some record
    app := [] } fun _ _ => 0) 0x2D

def writeFrame (reg : UInt8) (data : List UInt8) : Frame where
  sasr := 0
  transfer := .write reg data
  stop := true
  ending := .prompt

/-- Two bytes for register 1 of two: one is stored, and the single frame reports both. -/
theorem writes_not_alike :
    recordingSlave.Waiting ∧
      ¬ WritesAlike recordingSlave
        (run Slave.isr recordingSlave (Frame.calls [writeFrame 1 [0xAA, 0xBB]]))
        (run Slave.isr recordingSlave
          (Frame.calls [writeFrame 1 [], writeFrame 0xAA [0xBB]])) := by
  refine ⟨waiting_listen _ _ _, ?_⟩
  rintro ⟨-, ⟨regNum, numBytes, oneLog, twoLog⟩, -⟩
  exact absurd (oneLog.trans twoLog.symm) (by decide)

theorem writes_alike_two :
    WritesAlike recordingSlave
      (run Slave.isr recordingSlave (Frame.calls [writeFrame 0 [0xAA, 0xBB]]))
      (run Slave.isr recordingSlave (Frame.calls [writeFrame 0 [], writeFrame 0xAA [0xBB]])) :=
  (writes_alike_iff (waiting_listen _ _ _) rfl (by decide) (by decide) (by decide) rfl rfl
    rfl).mpr (by decide)

end I2CRegisterSlave
end TeensyI2C
