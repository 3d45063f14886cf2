import TeensyI2C.I2CMaster

/-!
`I2CDevice`: blocking register access over any master. Each call starts one or two transfers and
waits for them; its result is the master's error code after the last wait, whether or not that
wait saw the transfer finish.
-/

namespace TeensyI2C

structure I2CDevice where
  address : UInt8
  swapBytes : Bool
deriving DecidableEq, Repr

namespace I2CDevice

def timeoutMillis : UInt32 := 200

/-- `timeout <= timeout_millis`. -/
def within (timeout : UInt32) : Bool := timeout ≤ timeoutMillis

variable {W : Type} (M : I2CMaster W) (fuel : Nat) (d : I2CDevice)

def finish (w : W) : Option W := (M.wait within fuel w).map (·.2)

def write (reg : UInt8) (buffer : List UInt8) (sendStop : Bool) (w : W) : Option (Bool × W) := do
  let w := M.writeAsync d.address (reg :: buffer) sendStop w
  let w ← finish M fuel w
  return (!M.hasError w, w)

def writeRegister (reg : UInt8) (w : W) : Option (Bool × W) := do
  let w := M.writeAsync d.address [reg] false w
  let w ← finish M fuel w
  return (!M.hasError w, w)

def read (reg : UInt8) (numBytes : Nat) (sendStop : Bool) (w : W) : Option (Bool × W) := do
  let (written, w) ← writeRegister M fuel d reg w
  let (hasError, w) ←
    if written then do
      let w := M.readAsync d.address numBytes sendStop w
      let w ← finish M fuel w
      pure (M.hasError w, w)
    else pure (true, w)
  -- "Zero the buffer if the read failed to avoid using stale data."
  let w := if hasError then M.clear numBytes w else w
  return (!hasError, w)

variable {M fuel d}

theorem finish_eq_some {w w' : W} :
    finish M fuel w = some w' ↔ ∃ seen, M.wait within fuel w = some (seen, w') := by
  simp [finish]

theorem writeRegister_eq_write (reg : UInt8) (w : W) :
    writeRegister M fuel d reg w = write M fuel d reg [] false w := rfl

theorem write_eq_some {reg : UInt8} {buffer : List UInt8} {sendStop ok : Bool} {w w' : W}
    (h : write M fuel d reg buffer sendStop w = some (ok, w')) :
    finish M fuel (M.writeAsync d.address (reg :: buffer) sendStop w) = some w' ∧
      ok = !M.hasError w' := by
  obtain ⟨v, finished, result⟩ := Option.bind_eq_some_iff.mp h
  obtain ⟨rfl, rfl⟩ := Prod.mk.inj (Option.some.inj result)
  exact ⟨finished, rfl⟩

theorem finish_returns (runs : M.ClockRuns within) (w : W) :
    Polling.Returns fun fuel => finish M fuel w :=
  (I2CMaster.wait_returns runs w).map (·.2)

theorem write_returns (runs : M.ClockRuns within) (d : I2CDevice) (reg : UInt8)
    (buffer : List UInt8) (sendStop : Bool) (w : W) :
    Polling.Returns fun fuel => write M fuel d reg buffer sendStop w :=
  (finish_returns runs _).bind fun _ => Polling.returns_some _

theorem read_returns (runs : M.ClockRuns within) (d : I2CDevice) (reg : UInt8) (numBytes : Nat)
    (sendStop : Bool) (w : W) :
    Polling.Returns fun fuel => read M fuel d reg numBytes sendStop w := by
  refine (write_returns runs d reg [] false w).bind fun (written, v) => ?_
  cases written with
  | false => exact Polling.returns_some _
  | true =>
      exact (finish_returns runs (M.readAsync d.address numBytes sendStop v)).bind fun _ =>
        Polling.returns_some _

/-- A write reports success for a completed transfer only, exactly if its wait does not run out
in silence. -/
theorem write_honest_iff {reg : UInt8} {buffer : List UInt8} {sendStop ok : Bool} {w w' : W}
    (h : write M fuel d reg buffer sendStop w = some (ok, w')) :
    (ok = true → M.Completes within (M.writeAsync d.address (reg :: buffer) sendStop w)) ↔
      ¬ M.TimesOutSilently within (M.writeAsync d.address (reg :: buffer) sendStop w) := by
  obtain ⟨finished, rfl⟩ := write_eq_some h
  obtain ⟨seen, waited⟩ := finish_eq_some.mp finished
  cases failed : M.hasError w' with
  | true =>
      have loud := M.not_timesOutSilently_of_hasError waited failed
      simp [loud]
  | false =>
      rcases M.wait_cases waited failed with ⟨_, done, loud⟩ | ⟨_, undone, silent⟩
      · simp [done, loud]
      · simp [undone, silent]

theorem read_cases {reg : UInt8} {numBytes : Nat} {sendStop ok : Bool} {w w' : W}
    (h : read M fuel d reg numBytes sendStop w = some (ok, w')) :
    ∃ v, finish M fuel (M.writeAsync d.address [reg] false w) = some v ∧
      ((M.hasError v = true ∧ ok = false ∧ w' = M.clear numBytes v) ∨
        (M.hasError v = false ∧
          ∃ v', finish M fuel (M.readAsync d.address numBytes sendStop v) = some v' ∧
            ok = !M.hasError v' ∧
            w' = if M.hasError v' then M.clear numBytes v' else v')) := by
  obtain ⟨⟨written, v⟩, wrote, rest⟩ := Option.bind_eq_some_iff.mp h
  obtain ⟨finished, rfl⟩ := write_eq_some (writeRegister_eq_write reg w ▸ wrote)
  refine ⟨v, finished, ?_⟩
  cases failed : M.hasError v with
  | true =>
      simp only [failed, Bool.not_true, Bool.false_eq_true, if_false, Option.pure_def,
        Option.bind_eq_bind, Option.bind_some, if_true, Option.some.injEq, Prod.mk.injEq] at rest
      exact .inl ⟨rfl, rest.1.symm, rest.2.symm⟩
  | false =>
      simp only [failed, Bool.not_false, if_true, Option.pure_def, Option.bind_eq_bind,
        Option.bind_some] at rest
      obtain ⟨v', finished', result⟩ := Option.bind_eq_some_iff.mp rest
      simp only [Option.some.injEq, Prod.mk.injEq] at result
      exact .inr ⟨rfl, v', finished', result.1.symm, result.2.symm⟩

/-- A read that fails leaves nothing but zeros in the caller's buffer. -/
theorem buffer_of_read_failed {reg : UInt8} {numBytes : Nat} {sendStop : Bool} {w w' : W}
    (h : read M fuel d reg numBytes sendStop w = some (false, w')) :
    M.buffer w' = List.replicate numBytes 0 := by
  obtain ⟨v, _, ⟨_, _, rfl⟩ | ⟨_, v', _, failed, rfl⟩⟩ := read_cases h
  · exact M.buffer_clear numBytes v
  · have error : M.hasError v' = true := by simpa using failed.symm
    simp only [error, if_true]
    exact M.buffer_clear numBytes v'

/-- When one of a read's two waits runs out in silence, the read has failed anyhow: the first
wait is followed by a read that ends with an error. -/
def ReadWaitsHeard (M : I2CMaster W) (fuel : Nat) (d : I2CDevice) (reg : UInt8) (numBytes : Nat)
    (sendStop : Bool) (w : W) : Prop :=
  ∀ v, finish M fuel (M.writeAsync d.address [reg] false w) = some v → M.hasError v = false →
    let reading := M.readAsync d.address numBytes sendStop v
    ¬ M.TimesOutSilently within reading ∧
      (M.TimesOutSilently within (M.writeAsync d.address [reg] false w) →
        ∀ v', finish M fuel reading = some v' → M.hasError v' = true)

theorem read_honest_iff {reg : UInt8} {numBytes : Nat} {sendStop ok : Bool} {w w' : W}
    (h : read M fuel d reg numBytes sendStop w = some (ok, w')) :
    (ok = true → M.Completes within (M.writeAsync d.address [reg] false w) ∧
      ∃ v, finish M fuel (M.writeAsync d.address [reg] false w) = some v ∧
        M.Completes within (M.readAsync d.address numBytes sendStop v)) ↔
      ReadWaitsHeard M fuel d reg numBytes sendStop w := by
  obtain ⟨v, finished, ⟨failed, rfl, _⟩ | ⟨written, v', finished', rfl, _⟩⟩ := read_cases h
  · constructor
    · intro _ u same clean
      rw [finished] at same
      rw [← Option.some.inj same, failed] at clean
      cases clean
    · intro _ done
      cases done
  · obtain ⟨seen, waited⟩ := finish_eq_some.mp finished
    obtain ⟨seen', waited'⟩ := finish_eq_some.mp finished'
    have first := M.wait_cases waited written
    constructor
    · intro honest u same _
      rw [finished] at same
      obtain rfl := Option.some.inj same
      cases failed : M.hasError v' with
      | true =>
          refine ⟨M.not_timesOutSilently_of_hasError waited' failed, fun _ u' same' => ?_⟩
          rw [finished'] at same'
          exact Option.some.inj same' ▸ failed
      | false =>
          obtain ⟨done, u', same', done'⟩ := honest (by simp [failed])
          rw [finished] at same'
          obtain rfl := Option.some.inj same'
          refine ⟨?_, fun silent => ?_⟩
          · rcases M.wait_cases waited' failed with ⟨_, _, loud⟩ | ⟨_, undone, _⟩
            · exact loud
            · exact absurd done' undone
          · rcases first with ⟨_, _, loud⟩ | ⟨_, undone, _⟩
            · exact absurd silent loud
            · exact absurd done undone
    · intro heard success
      have clean : M.hasError v' = false := by simpa using success
      obtain ⟨loud, fails⟩ := heard v finished written
      refine ⟨?_, v, finished, ?_⟩
      · rcases first with ⟨_, done, _⟩ | ⟨_, _, silent⟩
        · exact done
        · have := fails silent v' finished'
          rw [clean] at this
          cases this
      · rcases M.wait_cases waited' clean with ⟨_, done, _⟩ | ⟨_, _, silent⟩
        · exact done
        · exact absurd silent loud

end I2CDevice

end TeensyI2C
