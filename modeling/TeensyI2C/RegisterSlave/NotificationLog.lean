import TeensyI2C.RegisterSlave.Notifications

/-!
Which of its callbacks the application hears, and for which register, over whole runs. The calls
that the protocol promises are read off the automaton of the documentation; the calls that are
made come from the driver's events.
-/

namespace TeensyI2C
open EventMachine

inductive Notice where
  | afterRead (theRegister : UInt8)
  | afterWrite (theRegister : UInt8)
deriving DecidableEq, Repr

namespace Notice

def isRead : Notice → Bool
  | .afterRead _ => true
  | .afterWrite _ => false

/-- The callbacks of an application that only keeps a log. -/
def logRead (theRegister : UInt8) (log : List Notice) : List Notice :=
  log ++ [.afterRead theRegister]

def logWrite (theRegister _numBytes : UInt8) (log : List Notice) : List Notice :=
  log ++ [.afterWrite theRegister]

end Notice

def Transfer.isRead : Transfer → Bool
  | .read _ => true
  | .write _ _ => false

namespace Registers

/-- The call that a frame is promised: a read for the register that the master selected, a write
for the register that it named in this frame or in the one before. -/
def notice (g : Registers) : Transfer → List Notice
  | .read _ =>
      match g.selected with
      | none => []
      | some reg => [.afterRead reg]
  | .write first rest =>
      match g.selected, rest with
      | none, [] => []
      | none, _ :: _ => [.afterWrite first]
      | some reg, _ => [.afterWrite reg]

/-- A read that comes while no register is selected, and gets only dummy bytes. -/
def readsNothing (g : Registers) : Transfer → Bool
  | .read _ => g.selected.isNone
  | .write _ _ => false

theorem reads_notice (g : Registers) (t : Transfer) :
    (g.notice t).countP Notice.isRead ≤ if t.isRead then 1 else 0 := by
  cases t with
  | read count => cases hg : g.selected <;> simp [notice, hg, Notice.isRead, Transfer.isRead]
  | write first rest =>
      cases hg : g.selected <;> cases rest <;> simp [notice, hg, Notice.isRead]

theorem reads_notices (g : Registers) (ts : List Transfer) :
    (emitted step notice g ts).countP Notice.isRead ≤ ts.countP Transfer.isRead := by
  induction ts generalizing g with
  | nil => exact Nat.le_refl 0
  | cons t ts ih =>
      have here := g.reads_notice t
      have later := ih (g.step t)
      rw [emitted, List.countP_append, List.countP_cons]
      omega

end Registers

namespace Watched

/-- The call that the driver's events make of a frame. -/
def told {ν : Type} (w : Watched ν) : Transfer → List Notice
  | .read _ => [.afterRead w.regNum]
  | .write first rest =>
      match w.registers.selected, rest with
      | none, [] => []
      | none, _ :: _ => [.afterWrite first]
      | some _, _ =>
          if w.registers.discards (.write first rest) then [] else [.afterWrite w.regNum]

def stepLog : Watched (List Notice) → Transfer → Watched (List Notice) :=
  step (some Notice.logRead) (some Notice.logWrite)

variable (w : Watched (List Notice)) (t : Transfer) (ts : List Transfer)

@[simp] theorem stepLog_registers : (w.stepLog t).registers = w.registers.stepDriver t :=
  step_registers _ _ w t

theorem stepLog_app : (w.stepLog t).app = w.app ++ w.told t := by
  cases t with
  | read count => rfl
  | write first rest =>
      cases aimed : w.registers.selected with
      | none =>
          cases rest with
          | nil => simp [stepLog, step, told, aimed]
          | cons data more => simp [stepLog, step, told, aimed, tellWrite, Notice.logWrite]
      | some reg =>
          cases discards : w.registers.discards (.write first rest) with
          | true => simp [stepLog, step, told, aimed, discards]
          | false => simp [stepLog, step, told, aimed, discards, tellWrite, Notice.logWrite]

/-- Every read frame calls `after_read`, whatever the register state. -/
theorem reads_told : (emitted stepLog told w ts).countP Notice.isRead =
    ts.countP Transfer.isRead := by
  induction ts generalizing w with
  | nil => rfl
  | cons t ts ih =>
      have here : (w.told t).countP Notice.isRead = if t.isRead then 1 else 0 := by
        cases t with
        | read count => rfl
        | write first rest =>
            unfold told
            dsimp only
            split
            · rfl
            · rfl
            · split <;> rfl
      rw [emitted, List.countP_append, List.countP_cons, ih, here, Nat.add_comm]

variable {w}

theorem told_past {reg : UInt8} (aimed : w.registers.selected = some reg)
    (past : w.registers.mutableBytes.length ≤ reg.toNat) :
    ∀ n ∈ (emitted stepLog told w ts).head?, n.isRead = true := by
  induction ts generalizing w with
  | nil => simp [emitted]
  | cons t ts ih =>
      cases t with
      | read count => simp [emitted, told, Notice.isRead]
      | write first rest =>
          have discards : w.registers.discards (.write first rest) = true := by
            simp [Registers.discards, aimed, past]
          have silent : w.told (.write first rest) = [] := by simp [told, aimed, discards]
          have same : (w.stepLog (.write first rest)).registers = w.registers := by
            simp [Registers.stepDriver, discards]
          rw [emitted, silent, List.nil_append]
          exact ih (by rw [same]; exact aimed) (by rw [same]; exact past)

/-- `rx_buffer[0]` is the register that the slave is aimed at. -/
def Named (w : Watched (List Notice)) : Prop :=
  ∀ reg, w.registers.selected = some reg → w.regNum = reg

theorem Named.stepLog (named : w.Named) (t : Transfer) : (w.stepLog t).Named := by
  intro reg aimed
  rw [stepLog_registers] at aimed
  cases t with
  | read count => simp [Registers.stepDriver, Registers.discards, Registers.step] at aimed
  | write first rest =>
      cases before : w.registers.selected with
      | none =>
          have kept : w.registers.discards (.write first rest) = false := by
            simp [Registers.discards, before]
          cases rest with
          | nil =>
              simp only [Registers.stepDriver, kept, Registers.step, before] at aimed
              simpa [Watched.stepLog, step, before] using aimed
          | cons data more =>
              simp [Registers.stepDriver, kept, Registers.step, before] at aimed
      | some old =>
          cases discards : w.registers.discards (.write first rest) with
          | true =>
              simp only [Registers.stepDriver, discards, if_true] at aimed
              simpa [Watched.stepLog, step, before, discards] using named reg aimed
          | false => simp [Registers.stepDriver, discards, Registers.step, before] at aimed

theorem told_eq_notice (named : w.Named) {t : Transfer} (kept : w.registers.discards t = false)
    (selected : w.registers.readsNothing t = false) : w.told t = w.registers.notice t := by
  cases t with
  | read count =>
      cases aimed : w.registers.selected with
      | none => simp [Registers.readsNothing, aimed] at selected
      | some reg => simp [told, Registers.notice, aimed, named reg aimed]
  | write first rest =>
      cases aimed : w.registers.selected with
      | none => cases rest <;> simp [told, Registers.notice, aimed]
      | some reg => simp [told, Registers.notice, aimed, kept, named reg aimed]

/-- A discarded write loses the promised `after_write`: the next call made can only be an
`after_read`. -/
theorem told_ne_of_discards (discards : w.registers.discards t = true) :
    emitted stepLog told w (t :: ts) ≠
      emitted Registers.step Registers.notice w.registers (t :: ts) := by
  intro same
  cases t with
  | read count => simp [Registers.discards] at discards
  | write first rest =>
      cases aimed : w.registers.selected with
      | none => simp [Registers.discards, aimed] at discards
      | some reg =>
          have past : w.registers.mutableBytes.length ≤ reg.toNat := by
            simpa [Registers.discards, aimed] using discards
          have next := told_past (.write first rest :: ts) aimed past (.afterWrite reg)
          rw [same] at next
          simp [emitted, Registers.notice, aimed, Notice.isRead] at next

/-- A read while nothing is selected adds an `after_read`: one more than the frames to come are
promised at most. -/
theorem told_ne_of_readsNothing (reads : w.registers.readsNothing t = true) :
    emitted stepLog told w (t :: ts) ≠
      emitted Registers.step Registers.notice w.registers (t :: ts) := by
  intro same
  have made := w.reads_told (t :: ts)
  rw [same] at made
  cases t with
  | write first rest => simp [Registers.readsNothing] at reads
  | read count =>
      have unaimed : w.registers.selected = none := by
        simpa [Registers.readsNothing] using reads
      have promised := (w.registers.step (.read count)).reads_notices ts
      have none : w.registers.notice (.read count) = [] := by
        simp [Registers.notice, unaimed]
      rw [emitted, none, List.nil_append, List.countP_cons] at made
      simp only [Transfer.isRead, if_true] at made
      omega

/-- The first frame that is discarded, or reads nothing, leaves a difference that no later frame
makes up for: the one loses a call of `after_write`, the other adds one of `after_read`. -/
theorem told_eq_notices_iff (named : w.Named) :
    emitted stepLog told w ts = emitted Registers.step Registers.notice w.registers ts ↔
      Along Registers.step (fun g t => g.discards t = false ∧ g.readsNothing t = false)
        w.registers ts := by
  induction ts generalizing w with
  | nil => simp [emitted, Along]
  | cons t ts ih =>
      cases discards : w.registers.discards t with
      | true =>
          have never := told_ne_of_discards t ts discards
          simp [never, Along, discards]
      | false =>
          have synced : (w.stepLog t).registers = w.registers.step t := by
            simp [Registers.stepDriver, discards]
          cases reads : w.registers.readsNothing t with
          | true =>
              have never := told_ne_of_readsNothing t ts reads
              simp [never, Along, reads]
          | false =>
              have later := ih (named.stepLog t)
              rw [synced] at later
              rw [emitted, emitted, told_eq_notice named discards reads, List.append_right_inj,
                later]
              simp [Along, discards, reads]

end Watched

namespace I2CRegisterSlave
variable (slave : I2CRegisterSlave (List Notice))
  (memory : ObjectMemory.Memory RegisterObject UInt8) (address : UInt8)

/-- After a run of complete frames the log holds the promised calls, in order and once each. -/
def NotifiesExactly (frames : List Frame) : Prop :=
  (slave.afterFrames memory address frames).app.app =
    slave.app ++ emitted Registers.step Registers.notice (slave.registers memory)
      (frames.map (·.transfer))

/-- The calls are exact in exactly the runs in which no read comes while nothing is selected and
no write follows a frame that selects a register past the mutable array. -/
theorem notifiesExactly_iff (frames : List Frame) (small : slave.mutableBufferSize ≤ 255)
    (reads : slave.afterReadCallback = some Notice.logRead)
    (writes : slave.afterWriteCallback = some Notice.logWrite) :
    slave.NotifiesExactly memory address frames ↔
      Along Registers.step (fun g t => g.discards t = false ∧ g.readsNothing t = false)
        (slave.registers memory) (frames.map (·.transfer)) := by
  let start : Watched (List Notice) :=
    (listen (construct slave memory) address).watch
  have registers : start.registers = slave.registers memory := rfl
  have size : start.registers.mutableBytes.length = slave.mutableBufferSize := by
    rw [registers]
    simp [I2CRegisterSlave.registers]
  have tells := (waiting_listen slave memory address).tells.calls (size.le.trans small) frames
  have log := tells.application.app
  change (slave.afterFrames memory address frames).app.app =
    (run (Watched.step slave.afterReadCallback slave.afterWriteCallback) start
      (frames.map (·.transfer))).app at log
  rw [reads, writes] at log
  have made := log_run Watched.app Watched.stepLog_app start (frames.map (·.transfer))
  have named : start.Named := by
    intro reg aimed
    simp [registers, I2CRegisterSlave.registers] at aimed
  rw [NotifiesExactly, log]
  change (run Watched.stepLog start _).app = _ ↔ _
  rw [made, ← registers, ← Watched.told_eq_notices_iff _ named]
  exact List.append_right_inj _

/-- A slave with one mutable byte whose application keeps a log. -/
def loggingSlave : I2CRegisterSlave (List Notice) where
  mutableBufferSize := 1
  readOnlyBufferSize := 0
  afterReadCallback := some Notice.logRead
  afterWriteCallback := some Notice.logWrite
  app := []

def frame (transfer : Transfer) : Frame where
  sasr := 0
  transfer := transfer
  stop := true
  ending := .prompt

/-- A read right after `listen` is announced as one of register 0, and a write to register 1, in
a frame of its own, is not announced at all. -/
theorem notifiesExactly_broken :
    ¬ loggingSlave.NotifiesExactly (fun _ _ => 0) 0x2D [frame (.read 1)] ∧
      ¬ loggingSlave.NotifiesExactly (fun _ _ => 0) 0x2D
        [frame (.write 1 []), frame (.write 0xAA [])] := by
  unfold NotifiesExactly
  decide

/-- Register 0 selected and read, then written in two frames and in one. -/
theorem notifiesExactly_five :
    loggingSlave.NotifiesExactly (fun _ _ => 0) 0x2D
      [frame (.write 0 []), frame (.read 1), frame (.write 0 []), frame (.write 0xAA []),
        frame (.write 0 [0xBB])] :=
  (notifiesExactly_iff loggingSlave (fun _ _ => 0) 0x2D _ (by decide) rfl rfl).mpr (by decide)

end I2CRegisterSlave
end TeensyI2C
