import Mathlib.Algebra.Order.Floor.Ring
import Mathlib.Tactic.Linarith

/-!
Rounding towards zero, and what it makes of values that approach a point from either side.
-/

namespace Truncation

variable {α : Type*} [Field α] [LinearOrder α] [FloorRing α]

/-- The integer next to `x` on the side of zero. -/
def trunc (x : α) : ℤ := if 0 ≤ x then ⌊x⌋ else ⌈x⌉

theorem trunc_of_nonneg {x : α} (h : 0 ≤ x) : trunc x = ⌊x⌋ := if_pos h

theorem trunc_of_neg {x : α} (h : x < 0) : trunc x = ⌈x⌉ := if_neg (not_le.mpr h)

@[gcongr] theorem trunc_mono {x y : α} (h : x ≤ y) : trunc x ≤ trunc y := by
  cases le_or_gt 0 x with
  | inl hx =>
      rw [trunc_of_nonneg hx, trunc_of_nonneg (hx.trans h)]
      exact Int.floor_mono h
  | inr hx =>
      rw [trunc_of_neg hx]
      cases le_or_gt 0 y with
      | inl hy =>
          rw [trunc_of_nonneg hy]
          exact (Int.ceil_nonpos.mpr hx.le).trans (Int.floor_nonneg.mpr hy)
      | inr hy =>
          rw [trunc_of_neg hy]
          exact Int.ceil_mono h

theorem trunc_le_self {x : α} (h : 0 ≤ x) : (trunc x : α) ≤ x := by
  rw [trunc_of_nonneg h]
  exact Int.floor_le x

variable [IsStrictOrderedRing α]

@[simp] theorem trunc_intCast (n : ℤ) : trunc (n : α) = n := by
  unfold trunc
  split
  · exact Int.floor_intCast n
  · exact Int.ceil_intCast n

theorem le_trunc {x : α} {n : ℤ} (h : (n : α) ≤ x) : n ≤ trunc x := by
  simpa using trunc_mono h

theorem trunc_le {x : α} {n : ℤ} (h : x ≤ n) : trunc x ≤ n := by
  simpa using trunc_mono h

theorem lt_trunc_add_one (x : α) : x < trunc x + 1 := by
  cases le_or_gt 0 x with
  | inl hx =>
      rw [trunc_of_nonneg hx]
      exact Int.lt_floor_add_one x
  | inr hx =>
      rw [trunc_of_neg hx]
      exact (Int.le_ceil x).trans_lt (lt_add_one _)

theorem trunc_sub_one_lt (x : α) : trunc x - 1 < x := by
  cases le_or_gt 0 x with
  | inl hx =>
      rw [trunc_of_nonneg hx]
      exact (sub_one_lt _).trans_le (Int.floor_le x)
  | inr hx =>
      rw [trunc_of_neg hx]
      exact sub_lt_iff_lt_add.mpr (Int.ceil_lt_add_one x)

theorem trunc_neg (x : α) : trunc (-x) = -trunc x := by
  rcases lt_trichotomy x 0 with h | rfl | h
  · rw [trunc_of_neg h, trunc_of_nonneg (neg_nonneg.mpr h.le), Int.floor_neg]
  · simp [trunc]
  · rw [trunc_of_nonneg h.le, trunc_of_neg (neg_neg_iff_pos.mpr h), Int.ceil_neg]

omit [IsStrictOrderedRing α] in
/-- Values with no integer between them are rounded to the same one. -/
theorem trunc_eq_of_no_int {x y : α} (h : x ≤ y) (none : ∀ n : ℤ, x ≤ n → ¬ (n : α) ≤ y) :
    trunc x = trunc y := by
  refine le_antisymm (trunc_mono h) ?_
  cases le_or_gt 0 x with
  | inl hx =>
      rw [trunc_of_nonneg hx, trunc_of_nonneg (hx.trans h), Int.le_floor]
      exact (not_le.mp fun le => none _ le (Int.floor_le y)).le
  | inr hx =>
      have hy : y < 0 := not_le.mp fun le => none 0 (by simpa using hx.le) (by simpa using le)
      rw [trunc_of_neg hx, trunc_of_neg hy, Int.ceil_le]
      exact (not_le.mp fun le => none _ (Int.le_ceil x) le).le

/-- At or above zero a whole unit of slack is lost by rounding. -/
theorem trunc_le_iff_of_nonneg {x : α} {n : ℤ} (h : 0 ≤ n) : trunc x ≤ n ↔ x < n + 1 := by
  cases le_or_gt 0 x with
  | inl hx =>
      rw [trunc_of_nonneg hx]
      exact Int.floor_le_iff
  | inr hx =>
      have below : (0 : α) ≤ n := Int.cast_nonneg h
      exact iff_of_true (trunc_le (hx.le.trans below)) (by linarith)

theorem trunc_le_iff_of_neg {x : α} {n : ℤ} (h : n < 0) : trunc x ≤ n ↔ x ≤ n := by
  cases le_or_gt 0 x with
  | inl hx =>
      have above : (n : α) < 0 := Int.cast_lt_zero.mpr h
      rw [trunc_of_nonneg hx]
      exact iff_of_false (not_le.mpr (h.trans_le (Int.floor_nonneg.mpr hx))) (by linarith)
  | inr hx =>
      rw [trunc_of_neg hx]
      exact Int.ceil_le

/-- What the values just above `d` are rounded to. -/
def truncAbove (d : α) : ℤ := if 0 ≤ d then ⌊d⌋ else ⌊d⌋ + 1

theorem trunc_eq_truncAbove {d x : α} (above : d < x) (near : x < ⌊d⌋ + 1) :
    trunc x = truncAbove d := by
  unfold truncAbove
  split
  case isTrue h =>
    rw [trunc_of_nonneg (h.trans above.le), Int.floor_eq_iff]
    exact ⟨(Int.floor_le d).trans above.le, near⟩
  case isFalse h =>
    have negative : ⌊d⌋ < 0 := Int.floor_lt_zero.mpr (not_le.mp h)
    have belowZero : ((⌊d⌋ + 1 : ℤ) : α) ≤ 0 := Int.cast_nonpos.mpr negative
    push_cast at belowZero
    rw [trunc_of_neg (near.trans_le belowZero), Int.ceil_eq_iff]
    push_cast
    have := Int.floor_le d
    exact ⟨by linarith, near.le⟩

theorem truncAbove_le_trunc {d x : α} (above : d < x) : truncAbove d ≤ trunc x := by
  cases lt_or_ge x (⌊d⌋ + 1) with
  | inl near => exact (trunc_eq_truncAbove above near).ge
  | inr far =>
      have step : truncAbove d ≤ ⌊d⌋ + 1 := by
        unfold truncAbove
        split <;> omega
      exact step.trans (le_trunc (by push_cast; exact far))

/-- What the values just below `d` are rounded to. -/
def truncBelow (d : α) : ℤ := if 0 < d then ⌈d⌉ - 1 else ⌈d⌉

theorem trunc_eq_truncBelow {d x : α} (below : x < d) (near : (⌈d⌉ - 1 : α) < x) :
    trunc x = truncBelow d := by
  have mirrored : trunc (-x) = truncAbove (-d) := by
    apply trunc_eq_truncAbove (neg_lt_neg below)
    rw [Int.floor_neg]
    push_cast
    linarith
  rw [trunc_neg, truncAbove, Int.floor_neg] at mirrored
  unfold truncBelow
  split <;> split at mirrored <;> first | omega | (exfalso; linarith)

end Truncation
