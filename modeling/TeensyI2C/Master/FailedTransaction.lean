import TeensyI2C.Master.Effects

/-!
A failed transaction and what becomes of it. The TDF and RDF branches take a cursor at 0 for the
start of a transfer, and then forget the error and go to work. Any other failed transaction stays
failed until the next call.
-/

namespace TeensyI2C
open ObjectMemory Interference EventMachine

namespace Master
variable {O : Type} [Inhabited O] {s t : Master O} {a : Step O}

/-- An error has been recorded, or the ISR is about to record one. -/
def Failing (s : Master O) (a : Step O) : Prop :=
  s.hasError = true ∨ s.Interrupts a ∧ (s.atSnapshot a).port.msr.failed = true

/-- The flag that asks the driver to transfer a byte. -/
def transferAsked (msr : Msr) (s : Master O) : Bool :=
  if s.ignoreTdf then msr.rdf else msr.tdf

/-- The ISR is asked to transfer a byte while the cursor is at 0. -/
def Restarts (s : Master O) (a : Step O) : Prop :=
  s.Interrupts a ∧ s.buff.nextIndex = 0 ∧ s.transferAsked (s.atSnapshot a).port.msr = true

/-- An error stands for the last call, whose transfer is not going on. -/
structure Settled (s : Master O) : Prop where
  owner : s.owner ≤ s.calls
  halted : s.hasError = true → s.state = .transferring → s.owner ≠ s.calls

theorem Settled.of_driver (settled : s.Settled) (h : t.toMasterDriver = s.toMasterDriver) :
    t.Settled := by
  obtain ⟨owner, halted⟩ := settled
  refine ⟨by rw [h]; exact owner, ?_⟩
  unfold hasError
  rw [h]
  exact halted

theorem Settled.continues (settled : s.Settled) (h : Continues s t) : t.Settled where
  owner := by
    rw [h.owner, h.calls]
    exact settled.owner
  halted := by
    intro failed busy
    rw [h.owner, h.calls]
    unfold hasError at failed
    rw [h.error] at failed
    by_cases transferring : s.state = .transferring
    · exact settled.halted failed transferring
    · exact absurd busy (h.halted transferring).2

theorem Settled.beginTransfer (settled : s.Settled) : s.beginTransfer.Settled := by
  by_cases fresh : s.buff.nextIndex = 0
  · have driver := beginTransfer_driver fresh
    refine ⟨by rw [driver]; exact settled.owner, ?_⟩
    intro failed
    simp [hasError, driver] at failed
  · rw [beginTransfer_started fresh]
    exact settled

theorem Settled.endings (settled : s.Settled) (msr : Msr) :
    ((s.serveErrors msr).serveStop msr).Settled := by
  obtain ⟨e, state, driver, effect⟩ := endings_driver msr s
  refine ⟨by rw [driver]; exact settled.owner, ?_⟩
  simp only [hasError, driver]
  intro failed busy
  split at effect
  · exact absurd busy effect.2
  · rw [effect.1] at failed
    rcases effect.2 with same | stopped
    · exact settled.halted failed (same ▸ busy)
    · simp [stopped] at busy

theorem settled_halted (owner : t.owner ≤ t.calls) (halted : t.state ≠ .transferring) :
    t.Settled :=
  ⟨owner, fun _ busy => absurd busy halted⟩

theorem Settled.writeAsync (settled : s.Settled) (address : UInt8) (buffer : Pointer O)
    (numBytes : Nat) (sendStop : Bool) :
    (s.writeAsync address buffer numBytes sendStop).Settled := by
  obtain ⟨e, state, ignore, driver, halted, _⟩ :=
    start_driver { s with calls := s.calls + 1 } address masterWrite
  have owner : s.owner ≤ s.calls + 1 := Nat.le_succ_of_le settled.owner
  unfold Master.writeAsync
  dsimp only
  split
  · exact settled_halted (by rw [driver]; exact owner) (by rw [driver]; exact halted)
  · split
    · exact settled_halted (by rw [access_driver, driver]; exact owner)
        (by rw [access_driver, driver]; exact halted)
    · exact settled_halted (Nat.le_refl _)
        (by rw [access_driver, initialiseBuff, driver]; exact halted)

theorem Settled.readAsync (settled : s.Settled) (address : UInt8) (buffer : Pointer O)
    (numBytes : Nat) (sendStop : Bool) :
    (s.readAsync address buffer numBytes sendStop).Settled := by
  obtain ⟨e, state, ignore, driver, halted, _⟩ :=
    start_driver { s with calls := s.calls + 1 } address masterRead
  have owner : s.owner ≤ s.calls + 1 := Nat.le_succ_of_le settled.owner
  unfold Master.readAsync
  dsimp only
  split
  · exact ⟨owner, fun _ _ => Nat.ne_of_lt (Nat.lt_succ_of_le settled.owner)⟩
  · split
    · exact settled_halted (by rw [driver]; exact owner) (by rw [driver]; exact halted)
    · split
      · exact settled_halted (by rw [access_driver, driver]; exact owner)
          (by rw [access_driver, driver]; exact halted)
      · split <;> exact settled_halted (Nat.le_refl _)
          (by simp only [access_driver, initialiseBuff, driver]; exact halted)

variable [DecidableEq O]

/-- Once an error has been recorded for a call, then until the next call there is an error, no
byte of this call is put into the transmit FIFO and none is stored for it. An error that the ISR
records may stand for an earlier call, whose transaction was still going on when a read of too many
bytes was rejected: then no byte is transferred for any call. -/
def FailuresKept (s : Master O) (as : List (Step O)) : Prop :=
  ∀ before a rest after, as = before ++ a :: rest ++ after →
    (∀ b ∈ a :: rest, b.action.isCall = false) →
    (run step s before).Failing a →
    let failed := run step s before
    let later := run step failed (a :: rest)
    later.hasError = true ∧
      (∃ new, later.trace = failed.trace ++ new ∧ ∀ e ∈ new, e.1 ≠ failed.calls) ∧
      (failed.Interrupts a → (failed.atSnapshot a).port.msr.failed = true →
        later.trace = failed.trace)

theorem Settled.isr (settled : s.Settled) : s.isr.Settled := by
  have endings := (settled.of_driver (pass_driver s)).endings s.pass.port.msr
  have serve {t t' : Master O} {begins : Bool} (h : t.Settled)
      (goes : Continues (if begins then t.beginTransfer else t) t') : t'.Settled := by
    cases begins with
    | false => exact h.continues goes
    | true => exact h.beginTransfer.continues goes
  exact serve (serve endings (continues_serveReceive _ _)) (continues_serveTransmit _ _)

theorem continues_isr
    (started : s.buff.nextIndex = 0 → s.transferAsked s.pass.port.msr ≠ true) :
    let msr := s.pass.port.msr
    Continues ((s.pass.serveErrors msr).serveStop msr) s.isr := by
  intro msr
  obtain ⟨e, state, driver, _⟩ := endings_driver msr s.pass
  have unbegun {t t' : Master O} {begins : Bool} (away : begins = true → t.buff.nextIndex ≠ 0)
      (goes : Continues (if begins then t.beginTransfer else t) t') : Continues t t' := by
    cases begins with
    | false => exact goes
    | true => rwa [if_pos rfl, beginTransfer_started (away rfl)] at goes
  have received := unbegun (by
    intro asked
    rw [driver] at asked ⊢
    intro fresh
    rw [Bool.and_eq_true] at asked
    exact started fresh (by rw [transferAsked, if_pos (by exact asked.1)]; exact asked.2))
    (continues_serveReceive msr ((s.pass.serveErrors msr).serveStop msr))
  refine received.trans (unbegun ?_ (continues_serveTransmit msr _))
  intro asked
  rw [Bool.and_eq_true, Bool.not_eq_true', received.ignoreTdf] at asked
  obtain ⟨_, received⟩ := serveReceive_writing msr asked.1
  rw [received]
  rw [driver] at asked ⊢
  intro fresh
  have writing : s.ignoreTdf = false := asked.1
  exact started fresh (by rw [transferAsked, if_neg (by simp [writing])]; exact asked.2)

theorem isr_keeps (settled : s.Settled)
    (failing : s.hasError = true ∨ s.pass.port.msr.failed = true)
    (started : s.buff.nextIndex = 0 → s.transferAsked s.pass.port.msr ≠ true) :
    s.isr.hasError = true ∧ s.isr.calls = s.calls ∧
      ∃ new, s.isr.trace = s.trace ++ new ∧ ∀ e ∈ new, e.1 ≠ s.calls := by
  let msr := s.pass.port.msr
  let u := (s.pass.serveErrors msr).serveStop msr
  have goes : Continues u s.isr := continues_isr started
  obtain ⟨e, state, driver, effect⟩ := endings_driver msr s.pass
  have failed : u.hasError = true := by
    rw [hasError, driver, hasError_eq_true]
    split at effect
    · exact effect.1
    · next quiet =>
      rw [effect.1]
      simpa [hasError] using failing.resolve_right quiet
  have calls : u.calls = s.calls := by rw [driver]; rfl
  have trace : u.trace = s.trace := by rw [driver]; rfl
  refine ⟨by rw [hasError, goes.error]; exact failed, goes.calls.trans calls, ?_⟩
  by_cases busy : u.state = .transferring
  · obtain ⟨new, longer, own⟩ := goes.own
    refine ⟨new, by rw [longer, trace], ?_⟩
    intro e member
    rw [own e member, ← calls]
    exact ((settled.of_driver (pass_driver s)).endings msr).halted failed busy
  · exact ⟨[], by rw [(goes.halted busy).1, trace, List.append_nil], by simp⟩

/-- An error ends the transfer that is going on. -/
theorem isr_halts (started : s.buff.nextIndex = 0 → s.transferAsked s.pass.port.msr ≠ true)
    (halted : s.state ≠ .transferring ∨ s.pass.port.msr.failed = true) :
    s.isr.trace = s.trace ∧ s.isr.state ≠ .transferring := by
  let msr := s.pass.port.msr
  let u := (s.pass.serveErrors msr).serveStop msr
  have goes : Continues u s.isr := continues_isr started
  obtain ⟨e, state, driver, effect⟩ := endings_driver msr s.pass
  have trace : u.trace = s.trace := by rw [driver]; rfl
  have stays : u.state ≠ .transferring := by
    rw [driver]
    split at effect
    · exact effect.2
    · next quiet =>
      rcases effect.2 with same | stopped
      · exact same ▸ halted.resolve_right quiet
      · simp [stopped]
  obtain ⟨same, still⟩ := goes.halted stays
  exact ⟨same.trans trace, still⟩

theorem Settled.step (settled : s.Settled) (a : Step O) : (s.step a).Settled := by
  have waiting : (s.schedule a.meanwhile).Settled := settled.of_driver rfl
  refine step_cases s a ?begins ?ends ?writes ?reads ?interrupts ?masked ?moves
  case begins => exact fun _ _ => waiting.of_driver rfl
  case ends => exact fun _ => waiting.of_driver rfl
  case writes => exact fun _ _ _ _ _ => waiting.writeAsync ..
  case reads => exact fun _ _ _ _ _ => waiting.readAsync ..
  case interrupts => exact fun _ => waiting.isr
  case masked => exact fun _ _ => waiting
  case moves => exact fun _ _ => waiting.of_driver rfl

theorem settled_run (memory : Memory O UInt8) (as : List (Step O)) :
    (run step (fresh memory) as).Settled :=
  run_invariant' (fun _ a settled => settled.step a) as ⟨Nat.le_refl 0, by simp [fresh]⟩

theorem step_keeps (settled : s.Settled) (other : a.action.isCall = false)
    (failing : s.Failing a) (unbegun : ¬ s.Restarts a) :
    (s.step a).hasError = true ∧ (s.step a).calls = s.calls ∧
      ∃ new, (s.step a).trace = s.trace ++ new ∧ ∀ e ∈ new, e.1 ≠ s.calls := by
  by_cases interrupts : s.Interrupts a
  · rw [step_interrupts interrupts]
    have started (fresh : s.buff.nextIndex = 0) :
        s.transferAsked (s.atSnapshot a).port.msr ≠ true :=
      fun asked => unbegun ⟨interrupts, fresh, asked⟩
    exact isr_keeps (s := s.schedule a.meanwhile) (settled.of_driver rfl)
      (failing.imp_right And.right) started
  · have recorded := failing.resolve_right fun h => interrupts h.1
    have driver := step_driver other interrupts
    refine ⟨?_, by rw [driver], [], by rw [driver, List.append_nil], by simp⟩
    rw [hasError, driver]
    exact recorded

/-- The transfer is over, or the ISR is about to end it with an error. -/
def Halts (s : Master O) (a : Step O) : Prop :=
  s.state ≠ .transferring ∨ s.Interrupts a ∧ (s.atSnapshot a).port.msr.failed = true

theorem step_halts (other : a.action.isCall = false) (halts : s.Halts a)
    (unbegun : ¬ s.Restarts a) :
    (s.step a).trace = s.trace ∧ (s.step a).state ≠ .transferring := by
  by_cases interrupts : s.Interrupts a
  · rw [step_interrupts interrupts]
    exact isr_halts (s := s.schedule a.meanwhile)
      (fun fresh asked => unbegun ⟨interrupts, fresh, asked⟩) (halts.imp_right And.right)
  · have halted := halts.resolve_right fun h => interrupts h.1
    have driver := step_driver other interrupts
    rw [driver]
    exact ⟨rfl, halted⟩

theorem isr_forgets (fresh : s.buff.nextIndex = 0)
    (asked : s.transferAsked s.pass.port.msr = true) :
    s.isr.error = .ok := by
  let msr := s.pass.port.msr
  let u := (s.pass.serveErrors msr).serveStop msr
  obtain ⟨e, state, driver, _⟩ := endings_driver msr s.pass
  have cursor : u.buff.nextIndex = 0 := by rw [driver]; exact fresh
  have direction : u.ignoreTdf = s.ignoreTdf := by rw [driver]; rfl
  have received := continues_serveReceive msr u
  have transmitted := continues_serveTransmit msr (u.serveReceive msr)
  by_cases reading : s.ignoreTdf = true
  · rw [transferAsked, if_pos reading] at asked
    have begins : (u.ignoreTdf && msr.rdf) = true := by rw [direction, reading]; exact asked
    rw [if_pos begins] at received
    have ignored : ¬ ((!(u.serveReceive msr).ignoreTdf && msr.tdf) = true) := by
      rw [received.ignoreTdf, beginTransfer_driver cursor]
      simp [direction, reading]
    rw [if_neg ignored] at transmitted
    exact transmitted.error.trans (received.error.trans (by rw [beginTransfer_driver cursor]))
  · rw [transferAsked, if_neg reading] at asked
    have writing : u.ignoreTdf = false := direction.trans (by simpa using reading)
    rw [if_neg (by simp [writing])] at received
    have cursor' : (u.serveReceive msr).buff.nextIndex = 0 := by
      obtain ⟨_, received⟩ := serveReceive_writing msr writing
      rw [received]
      exact cursor
    rw [received.ignoreTdf, writing, if_pos (by exact asked)] at transmitted
    exact transmitted.error.trans (by rw [beginTransfer_driver cursor'])

theorem step_forgets (restarts : s.Restarts a) : (s.step a).hasError = false := by
  obtain ⟨interrupts, fresh, asked⟩ := restarts
  rw [step_interrupts interrupts, hasError, hasError_eq_false]
  exact isr_forgets (s := s.schedule a.meanwhile) fresh asked

/-- The ISR does not take a failed transaction for a new one. -/
def NotRestarted (s : Master O) (a : Step O) : Prop :=
  s.Failing a → ¬ s.Restarts a

theorem run_keeps {rest : List (Step O)} (settled : s.Settled)
    (other : ∀ b ∈ a :: rest, b.action.isCall = false) (failing : s.Failing a)
    (admissible : Along step NotRestarted s (a :: rest)) :
    let later := run step s (a :: rest)
    later.hasError = true ∧ ∃ new, later.trace = s.trace ++ new ∧ ∀ e ∈ new, e.1 ≠ s.calls := by
  induction rest generalizing s a with
  | nil =>
      obtain ⟨failed, _, more⟩ :=
        step_keeps settled (other a (by simp)) failing (admissible.1 failing)
      exact ⟨failed, more⟩
  | cons b rest ih =>
      obtain ⟨failed, calls, new, longer, own⟩ :=
        step_keeps settled (other a (by simp)) failing (admissible.1 failing)
      obtain ⟨failed', new', longer', own'⟩ :=
        ih (settled.step a) (fun c member => other c (List.mem_cons_of_mem a member))
          (.inl failed) admissible.2
      refine ⟨failed', new ++ new', ?_, ?_⟩
      · rw [run_cons, longer', longer, List.append_assoc]
      · intro e member
        rcases List.mem_append.mp member with early | late
        · exact own e early
        · rw [← calls]
          exact own' e late

theorem run_halts {rest : List (Step O)} (settled : s.Settled)
    (other : ∀ b ∈ a :: rest, b.action.isCall = false) (failing : s.Failing a) (halts : s.Halts a)
    (admissible : Along step NotRestarted s (a :: rest)) :
    (run step s (a :: rest)).trace = s.trace := by
  induction rest generalizing s a with
  | nil => exact (step_halts (other a (by simp)) halts (admissible.1 failing)).1
  | cons b rest ih =>
      obtain ⟨failed, -, -⟩ :=
        step_keeps settled (other a (by simp)) failing (admissible.1 failing)
      obtain ⟨same, halted⟩ := step_halts (other a (by simp)) halts (admissible.1 failing)
      have later := ih (settled.step a) (fun c member => other c (List.mem_cons_of_mem a member))
        (.inl failed) (.inl halted) admissible.2
      exact later.trans same

/-- Failed transactions stay failed exactly if none is taken for a new one. -/
theorem failures_kept_iff (memory : Memory O UInt8) (as : List (Step O)) :
    FailuresKept (fresh memory) as ↔ Along step NotRestarted (fresh memory) as := by
  constructor
  · intro kept
    rw [along_iff]
    intro before a after split failing restarts
    have noCall : a.action.isCall = false := by rw [restarts.1.1]; rfl
    have still := (kept before a [] after (by simpa using split) (by simpa using noCall) failing).1
    rw [run_cons, run_nil, step_forgets restarts] at still
    cases still
  · rintro admissible before a rest after rfl other failing
    rw [List.append_assoc, along_append] at admissible
    have here := ((along_append _ (a :: rest) after).mp admissible.2).1
    have settled := settled_run memory before
    obtain ⟨failed, own⟩ := run_keeps settled other failing here
    exact ⟨failed, own, fun interrupts recorded =>
      run_halts settled other failing (.inr ⟨interrupts, recorded⟩) here⟩

end Master

/-! ### A NAK that the ISR sees late -/

/-- The slave does not answer, and the ISR runs only after that: NDF and TDF come together. -/
def unansweredWrite : List (Master.Step Bool) :=
  [.begin 100000, .writeAsync 0x2D ⟨true, 0⟩ 1 true, .hardware .fetch, .hardware .nak].map
    Master.Action.alone

/-- The error is forgotten in the ISR call that has recorded it. -/
theorem nak_forgotten :
    ¬ Master.FailuresKept (Master.fresh fun _ _ => 0x11)
      (unansweredWrite ++ [Master.Action.isr.alone]) := by
  intro kept
  have still := (kept unansweredWrite Master.Action.isr.alone [] [] rfl (by decide)
    (.inr ⟨⟨rfl, rfl⟩, rfl⟩)).1
  revert still
  decide

end TeensyI2C
