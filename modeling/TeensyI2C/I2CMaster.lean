import TeensyI2C.Lib.Polling
import TeensyI2C.I2CDriver

/-!
`I2CMaster` as its blocking callers see it: any implementation, in a world `W` that also holds
the clock and the caller's read buffer and that moves on between two looks at it.
-/

namespace TeensyI2C
open Polling

structure I2CMaster (W : Type) where
  finished : W → Bool
  error : W → I2CError
  writeAsync (address : UInt8) (bytes : List UInt8) (sendStop : Bool) : W → W
  readAsync (address : UInt8) (numBytes : Nat) (sendStop : Bool) : W → W
  /-- The clock behind `elapsedMillis`. -/
  millis : W → UInt32
  /-- What happens between two polls. -/
  elapse : W → W
  buffer : W → List UInt8
  /-- `memset(buffer, 0, num_bytes)`. -/
  clear (numBytes : Nat) : W → W
  buffer_clear (numBytes : Nat) (w : W) : buffer (clear numBytes w) = List.replicate numBytes 0

namespace I2CMaster
variable {W : Type} (M : I2CMaster W)

def hasError (w : W) : Bool := TeensyI2C.hasError (M.error w)

/-- A wait for `finished`, from the moment that `elapsedMillis` is constructed. It is in time as
long as `within` holds of the milliseconds since then. -/
def wait (within : UInt32 → Bool) (fuel : Nat) (start : W) : Option (Bool × W) :=
  poll (fun w => within (M.millis w - M.millis start)) M.finished M.elapse fuel start

/-- From here on `finished` is observed true in time, with no error. -/
def Completes (within : UInt32 → Bool) (start : W) : Prop :=
  ∃ n, SeenAt (fun w => within (M.millis w - M.millis start)) M.finished M.elapse n start ∧
    M.error (M.elapse^[n] start) = .ok

/-- From here on `finished` stays false until time is up, and no error has been recorded by
then. -/
def TimesOutSilently (within : UInt32 → Bool) (start : W) : Prop :=
  ∃ n, TimedOutAt (fun w => within (M.millis w - M.millis start)) M.finished M.elapse n start ∧
    M.error (M.elapse^[n] start) = .ok

variable {M}

/-- After a wait with no error either the transfer completed or time ran out unnoticed. -/
theorem wait_cases {within : UInt32 → Bool} {fuel : Nat} {start w : W} {seen : Bool}
    (waited : M.wait within fuel start = some (seen, w)) (noError : M.hasError w = false) :
    (seen = true ∧ M.Completes within start ∧ ¬ M.TimesOutSilently within start) ∨
      (seen = false ∧ ¬ M.Completes within start ∧ M.TimesOutSilently within start) := by
  have ok : M.error w = .ok := by simpa [I2CMaster.hasError] using noError
  cases seen with
  | true =>
      obtain ⟨n, seen, rfl⟩ := seenAt_of_poll waited
      exact .inl ⟨rfl, ⟨n, seen, ok⟩,
        fun ⟨m, late, _⟩ => not_seenAt_of_timedOutAt late seen⟩
  | false =>
      obtain ⟨n, late, rfl⟩ := timedOutAt_of_poll waited
      exact .inr ⟨rfl, fun ⟨m, seen, _⟩ => not_seenAt_of_timedOutAt late seen, ⟨n, late, ok⟩⟩

theorem not_timesOutSilently_of_hasError {within : UInt32 → Bool} {fuel : Nat} {start w : W}
    {seen : Bool} (waited : M.wait within fuel start = some (seen, w))
    (failed : M.hasError w = true) : ¬ M.TimesOutSilently within start := by
  intro ⟨m, late, ok⟩
  have error : M.error w ≠ .ok := by simpa [I2CMaster.hasError] using failed
  cases seen with
  | true =>
      obtain ⟨n, seen, rfl⟩ := seenAt_of_poll waited
      exact not_seenAt_of_timedOutAt late seen
  | false =>
      obtain ⟨n, late', rfl⟩ := timedOutAt_of_poll waited
      rw [timedOutAt_unique late late'] at ok
      exact error ok

variable (M) in
/-- The clock goes on while the caller polls, so that its time is up at some poll. -/
def ClockRuns (within : UInt32 → Bool) : Prop :=
  ∀ start, ∃ n, within (M.millis (M.elapse^[n] start) - M.millis start) = false

theorem wait_returns {within : UInt32 → Bool} (runs : M.ClockRuns within) (start : W) :
    Returns fun fuel => M.wait within fuel start := by
  obtain ⟨n, late⟩ := runs start
  exact poll_returns late

end I2CMaster
end TeensyI2C
