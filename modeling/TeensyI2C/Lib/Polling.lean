import Mathlib.Logic.Function.Iterate
import Mathlib.Tactic.Common

/-!
A loop that polls a condition until it holds or until its time is up. The world changes by
itself between two polls; fuel bounds the number of polls that are looked at.
-/

namespace Polling

universe u
variable {W : Type u} (inTime done : W → Bool) (tick : W → W)

/-- The loop's last world, and whether it left because the condition was seen to hold. -/
def poll : Nat → W → Option (Bool × W)
  | 0, _ => none
  | fuel + 1, w =>
      if inTime w then
        if done w then some (true, w) else poll fuel (tick w)
      else some (false, w)

/-- The condition fails at every poll before the `n`-th, all of them in time. -/
def StillWaiting (n : Nat) (w : W) : Prop :=
  ∀ i < n, inTime (tick^[i] w) = true ∧ done (tick^[i] w) = false

/-- The `n`-th poll is in time and finds the condition. -/
def SeenAt (n : Nat) (w : W) : Prop :=
  StillWaiting inTime done tick n w ∧ inTime (tick^[n] w) = true ∧ done (tick^[n] w) = true

/-- Time is up before the `n`-th poll. -/
def TimedOutAt (n : Nat) (w : W) : Prop :=
  StillWaiting inTime done tick n w ∧ inTime (tick^[n] w) = false

variable {inTime done tick}

theorem stillWaiting_succ {n : Nat} {w : W} :
    StillWaiting inTime done tick (n + 1) w ↔
      (inTime w = true ∧ done w = false) ∧ StillWaiting inTime done tick n (tick w) := by
  constructor
  · intro h
    exact ⟨h 0 (Nat.succ_pos n), fun i hi => h (i + 1) (Nat.succ_lt_succ hi)⟩
  · intro ⟨first, later⟩ i hi
    cases i with
    | zero => exact first
    | succ i => exact later i (Nat.lt_of_succ_lt_succ hi)

theorem seenAt_succ {n : Nat} {w : W} :
    SeenAt inTime done tick (n + 1) w ↔
      (inTime w = true ∧ done w = false) ∧ SeenAt inTime done tick n (tick w) := by
  simp only [SeenAt, stillWaiting_succ, Function.iterate_succ_apply, and_assoc]

theorem timedOutAt_succ {n : Nat} {w : W} :
    TimedOutAt inTime done tick (n + 1) w ↔
      (inTime w = true ∧ done w = false) ∧ TimedOutAt inTime done tick n (tick w) := by
  simp only [TimedOutAt, stillWaiting_succ, Function.iterate_succ_apply, and_assoc]

/-- A loop that saw its condition saw it at some poll. -/
theorem seenAt_of_poll {fuel : Nat} {w w' : W}
    (h : poll inTime done tick fuel w = some (true, w')) :
    ∃ n, SeenAt inTime done tick n w ∧ w' = tick^[n] w := by
  induction fuel generalizing w with
  | zero => cases h
  | succ fuel ih =>
      simp only [poll] at h
      cases ht : inTime w with
      | false => simp [ht] at h
      | true =>
          cases hd : done w with
          | true =>
              simp only [ht, hd, if_true, Option.some.injEq, Prod.mk.injEq, true_and] at h
              exact ⟨0, ⟨fun i hi => absurd hi (Nat.not_lt_zero i), ht, hd⟩, h.symm⟩
          | false =>
              simp only [ht, hd, if_true, Bool.false_eq_true, if_false] at h
              obtain ⟨n, seen, last⟩ := ih h
              exact ⟨n + 1, seenAt_succ.mpr ⟨⟨ht, hd⟩, seen⟩, last⟩

theorem timedOutAt_of_poll {fuel : Nat} {w w' : W}
    (h : poll inTime done tick fuel w = some (false, w')) :
    ∃ n, TimedOutAt inTime done tick n w ∧ w' = tick^[n] w := by
  induction fuel generalizing w with
  | zero => cases h
  | succ fuel ih =>
      simp only [poll] at h
      cases ht : inTime w with
      | false =>
          simp only [ht, Bool.false_eq_true, if_false, Option.some.injEq, Prod.mk.injEq,
            true_and] at h
          exact ⟨0, ⟨fun i hi => absurd hi (Nat.not_lt_zero i), ht⟩, h.symm⟩
      | true =>
          cases hd : done w with
          | true => simp [ht, hd] at h
          | false =>
              simp only [ht, hd, if_true, Bool.false_eq_true, if_false] at h
              obtain ⟨n, late, last⟩ := ih h
              exact ⟨n + 1, timedOutAt_succ.mpr ⟨⟨ht, hd⟩, late⟩, last⟩

theorem timedOutAt_unique {m n : Nat} {w : W} (hm : TimedOutAt inTime done tick m w)
    (hn : TimedOutAt inTime done tick n w) : m = n := by
  rcases Nat.lt_trichotomy m n with before | same | after
  · have running := (hn.1 m before).1
    rw [hm.2] at running
    cases running
  · exact same
  · have running := (hm.1 n after).1
    rw [hn.2] at running
    cases running

theorem not_seenAt_of_timedOutAt {m n : Nat} {w : W} (late : TimedOutAt inTime done tick m w) :
    ¬ SeenAt inTime done tick n w := by
  intro seen
  rcases Nat.lt_trichotomy m n with before | rfl | after
  · have running := (seen.1 m before).1
    rw [late.2] at running
    cases running
  · have running := seen.2.1
    rw [late.2] at running
    cases running
  · have missed := (late.1 n after).2
    rw [seen.2.2] at missed
    cases missed

/-- With enough fuel there is a result, and it does not depend on the fuel. -/
def Returns {α : Type*} (f : Nat → Option α) : Prop :=
  ∃ result enough, ∀ fuel, enough ≤ fuel → f fuel = some result

theorem returns_some {α : Type*} (result : α) : Returns fun _ => some result :=
  ⟨result, 0, fun _ _ => rfl⟩

theorem Returns.bind {α β : Type*} {f : Nat → Option α} {g : Nat → α → Option β}
    (first : Returns f) (second : ∀ a, Returns fun fuel => g fuel a) :
    Returns fun fuel => (f fuel).bind (g fuel) := by
  obtain ⟨a, enough, ends⟩ := first
  obtain ⟨result, enough', ends'⟩ := second a
  refine ⟨result, max enough enough', fun fuel more => ?_⟩
  have first := ends fuel (Nat.le_trans (Nat.le_max_left _ _) more)
  have last := ends' fuel (Nat.le_trans (Nat.le_max_right _ _) more)
  exact Option.bind_eq_some_iff.mpr ⟨a, first, last⟩

theorem Returns.map {α β : Type*} {f : Nat → Option α} (returns : Returns f) (g : α → β) :
    Returns fun fuel => (f fuel).map g := by
  obtain ⟨a, enough, ends⟩ := returns
  exact ⟨g a, enough, fun fuel more => Option.map_eq_some_iff.mpr ⟨a, ends fuel more, rfl⟩⟩

/-- The loop ends once time is up at some poll. -/
theorem poll_returns {n : Nat} {w : W} (late : inTime (tick^[n] w) = false) :
    Returns fun fuel => poll inTime done tick fuel w := by
  suffices ends : ∃ result, ∀ fuel, n < fuel → poll inTime done tick fuel w = some result by
    obtain ⟨result, ends⟩ := ends
    exact ⟨result, n + 1, ends⟩
  induction n generalizing w with
  | zero =>
      have now : inTime w = false := late
      refine ⟨(false, w), fun fuel enough => ?_⟩
      obtain ⟨fuel, rfl⟩ := Nat.exists_eq_succ_of_ne_zero (Nat.ne_of_gt enough)
      simp [poll, now]
  | succ n ih =>
      rw [Function.iterate_succ_apply] at late
      obtain ⟨result, ends⟩ := ih late
      refine ⟨if inTime w then if done w then (true, w) else result else (false, w),
        fun fuel enough => ?_⟩
      obtain ⟨fuel, rfl⟩ :=
        Nat.exists_eq_succ_of_ne_zero (Nat.ne_of_gt (Nat.zero_lt_of_lt enough))
      rw [poll, ends fuel (Nat.lt_of_succ_lt_succ enough)]
      split
      · split <;> rfl
      · rfl

variable (inTime done tick) in
/-- What the world carries along without looking at it is still there after the loop. -/
theorem poll_carry {L : Type*} (fuel : Nat) (w : W) (carried : L) :
    poll (fun p : W × L => inTime p.1) (fun p => done p.1) (fun p => (tick p.1, p.2)) fuel
      (w, carried) = (poll inTime done tick fuel w).map fun r => (r.1, r.2, carried) := by
  induction fuel generalizing w with
  | zero => rfl
  | succ fuel ih =>
      simp only [poll]
      cases inTime w with
      | false => rfl
      | true =>
          cases done w with
          | true => rfl
          | false => exact ih (tick w)

end Polling
