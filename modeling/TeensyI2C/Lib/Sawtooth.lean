import TeensyI2C.Lib.Truncation
import Mathlib.Tactic.Ring
import Mathlib.Tactic.FieldSimp

/-!
Functions that fall at a constant rate and jump up at evenly spaced points, by no more than they
have fallen since the jump before. Over a range that starts at zero such a function is lowest
either at the end or just before the last jump.
-/

open Truncation

/-- `height * ⌊offset + x / width⌋ - slope * x + base`, which over a whole tooth never climbs. -/
structure Sawtooth (α : Type*) [Field α] [LinearOrder α] where
  offset : α
  width : α
  height : α
  slope : α
  base : α
  width_pos : 0 < width
  slope_pos : 0 < slope
  drift : height ≤ slope * width

namespace Sawtooth

variable {α : Type*} [Field α] [LinearOrder α] [IsStrictOrderedRing α] [FloorRing α]

/-- The number of jumps up to `x`. -/
def teeth (t : Sawtooth α) (x : α) : ℤ := ⌊t.offset + x / t.width⌋

def value (t : Sawtooth α) (x : α) : α := t.height * t.teeth x - t.slope * x + t.base

/-- Where the last jump up to `x` is. -/
def lastJump (t : Sawtooth α) (x : α) : α := (t.teeth x - t.offset) * t.width

/-- What the values before the last jump come down to. -/
def dip (t : Sawtooth α) (x : α) : α := t.value (t.lastJump x) - t.height

/-- What is left at `x` of the last jump. -/
def rebound (t : Sawtooth α) (x : α) : α := t.height - t.slope * (x - t.lastJump x)

variable (t : Sawtooth α)

theorem le_teeth_iff {x : α} {n : ℤ} : n ≤ t.teeth x ↔ (n - t.offset) * t.width ≤ x := by
  rw [teeth, Int.le_floor, ← le_div_iff₀ t.width_pos, sub_le_iff_le_add']

theorem teeth_mono {x y : α} (h : x ≤ y) : t.teeth x ≤ t.teeth y :=
  t.le_teeth_iff.mpr ((t.le_teeth_iff.mp le_rfl).trans h)

theorem lastJump_le (x : α) : t.lastJump x ≤ x := t.le_teeth_iff.mp le_rfl

theorem lt_next (x : α) : x < (t.teeth x + 1 - t.offset) * t.width := by
  have h := mt t.le_teeth_iff.mpr (not_le.mpr (Int.lt_succ (t.teeth x)))
  simpa using h

theorem teeth_eq {x y : α} (after : t.lastJump y ≤ x) (h : x ≤ y) : t.teeth x = t.teeth y :=
  le_antisymm (t.teeth_mono h) (t.le_teeth_iff.mpr after)

theorem value_eq_dip (x : α) : t.value x = t.dip x + t.rebound x := by
  have same := t.teeth_eq le_rfl (t.lastJump_le x)
  simp only [dip, rebound, value, same]
  ring

theorem dip_eq (x : α) :
    t.dip x = t.height * (t.teeth x - 1) - t.slope * t.lastJump x + t.base := by
  have same := t.teeth_eq le_rfl (t.lastJump_le x)
  simp only [dip, value, same]
  ring

theorem value_le_after {x y : α} (after : t.lastJump y ≤ x) (h : x ≤ y) :
    t.value y ≤ t.value x := by
  have fallen := mul_le_mul_of_nonneg_left h t.slope_pos.le
  simp only [value, t.teeth_eq after h]
  linarith

theorem teeth_lt {x y : α} (before : x < t.lastJump y) : t.teeth x < t.teeth y := by
  by_contra many
  exact absurd (t.le_teeth_iff.mp (Int.not_lt.mp many)) (not_le.mpr before)

/-- Every jump further back leaves the values higher: `n` teeth have fallen by more than they
have climbed. -/
theorem dip_lt_before {x y : α} (before : x < t.lastJump y) : t.dip y < t.value x := by
  have count : (0 : α) ≤ t.teeth y - 1 - t.teeth x := by
    have fewer := Int.cast_le (R := α).mpr (Int.add_one_le_of_lt (t.teeth_lt before))
    push_cast at fewer
    linarith
  have fallen := mul_lt_mul_of_pos_left (t.lt_next x) t.slope_pos
  have climbed := mul_le_mul_of_nonneg_left t.drift count
  rw [dip_eq, value, lastJump]
  linarith

theorem value_before {y δ : α} (positive : 0 < δ) (narrow : δ ≤ t.width) :
    t.value (t.lastJump y - δ) = t.dip y + t.slope * δ := by
  have before : t.lastJump y - δ < t.lastJump y := by linarith
  have atLeast : t.teeth y - 1 ≤ t.teeth (t.lastJump y - δ) := by
    apply t.le_teeth_iff.mpr
    rw [lastJump]
    push_cast
    linarith
  have count : t.teeth (t.lastJump y - δ) = t.teeth y - 1 := by
    have := t.teeth_lt before
    omega
  rw [dip_eq, value, count]
  push_cast
  ring

/-- Close to the last jump the values come as near to the dip as one likes. -/
theorem exists_near_dip {y e : α} (inside : 0 < t.lastJump y) (above : t.dip y < e) :
    ∃ x, 0 ≤ x ∧ x < t.lastJump y ∧ t.value x < e := by
  have room : 0 < (e - t.dip y) / (2 * t.slope) := by
    have := t.slope_pos
    apply div_pos <;> linarith
  obtain ⟨δ, positive, within, narrow, near⟩ : ∃ δ, 0 < δ ∧ δ ≤ t.lastJump y ∧ δ ≤ t.width ∧
      δ ≤ (e - t.dip y) / (2 * t.slope) :=
    ⟨min (t.lastJump y) (min t.width ((e - t.dip y) / (2 * t.slope))),
      lt_min inside (lt_min t.width_pos room), min_le_left _ _,
      (min_le_right _ _).trans (min_le_left _ _), (min_le_right _ _).trans (min_le_right _ _)⟩
  refine ⟨t.lastJump y - δ, by linarith, by linarith, ?_⟩
  have := t.slope_pos
  rw [le_div_iff₀ (by linarith)] at near
  rw [t.value_before positive narrow]
  linarith

/-- There is no jump inside the range, or what is left of the last one is lost when the end of the
range and the dip are both rounded. -/
def LowestAtEnd (y : α) : Prop :=
  t.lastJump y ≤ 0 ∨ trunc (t.dip y + t.rebound y) ≤ truncAbove (t.dip y)

theorem lowestAtEnd_iff (y : α) :
    t.LowestAtEnd y ↔ ∀ x, 0 ≤ x → x ≤ y → trunc (t.value y) ≤ trunc (t.value x) := by
  rw [LowestAtEnd, ← value_eq_dip]
  constructor
  · intro h x nonneg le
    cases lt_or_ge x (t.lastJump y) with
    | inl before =>
        cases h with
        | inl outside => exact absurd (nonneg.trans_lt before) (not_lt.mpr outside)
        | inr settled => exact settled.trans (truncAbove_le_trunc (t.dip_lt_before before))
    | inr after => exact trunc_mono (t.value_le_after after le)
  · intro lowest
    cases le_or_gt (t.lastJump y) 0 with
    | inl outside => exact .inl outside
    | inr inside =>
        obtain ⟨x, nonneg, before, near⟩ :=
          t.exists_near_dip inside (Int.lt_floor_add_one (t.dip y))
        have h := lowest x nonneg (before.le.trans (t.lastJump_le y))
        rw [trunc_eq_truncAbove (t.dip_lt_before before) near] at h
        exact .inr h

end Sawtooth
