import Mathlib.Data.List.Basic
import Mathlib.Data.List.TakeDrop
import Mathlib.Tactic.Common

/-!
Memory as a family of separate objects, each an unbounded row of cells, with pointers that are
an object and an offset. Nothing here bounds an access: a program that runs past the end of an
array reaches cells that do not belong to it, so confinement is something to prove.
-/

/-- The list with `new` written over it from index `i`. -/
def overwrite {α : Type*} (xs : List α) (i : Nat) (new : List α) : List α :=
  xs.take i ++ new ++ xs.drop (i + new.length)

section Overwrite
variable {α : Type*} (xs new : List α) (i : Nat)

theorem length_overwrite (h : i + new.length ≤ xs.length) :
    (overwrite xs i new).length = xs.length := by
  simp only [overwrite, List.length_append, List.length_take, List.length_drop]
  omega

theorem getElem?_overwrite (h : i + new.length ≤ xs.length) (j : Nat) :
    (overwrite xs i new)[j]? =
      if i ≤ j ∧ j < i + new.length then new[j - i]? else xs[j]? := by
  have hi : (xs.take i).length = i := by simp; omega
  rcases Nat.lt_or_ge j i with before | after
  · rw [overwrite, List.append_assoc, List.getElem?_append_left (by omega),
      List.getElem?_take_of_lt before, if_neg (by omega)]
  · rcases Nat.lt_or_ge j (i + new.length) with inside | beyond
    · have : j - i < new.length := by omega
      rw [overwrite, List.append_assoc, List.getElem?_append_right (by omega), hi,
        List.getElem?_append_left this]
      simp [after, inside]
    · have outside : ¬ (i ≤ j ∧ j < i + new.length) := by omega
      rw [overwrite, List.getElem?_append_right (by simp; omega), List.getElem?_drop]
      simp only [List.length_append, hi, outside, if_false]
      congr 1
      omega

/-- The part of an overwritten list that was written is what was written. -/
theorem take_drop_overwrite (h : i + new.length ≤ xs.length) :
    ((overwrite xs i new).drop i).take new.length = new := by
  have hi : (xs.take i).length = i := by simp; omega
  rw [overwrite, List.append_assoc, List.drop_append_of_le_length (by omega),
    List.drop_eq_nil_of_le (by omega), List.nil_append, List.take_left']
  rfl

end Overwrite

namespace ObjectMemory

universe u v
variable {O : Type u} {α : Type v}

/-- A pointer into one object. -/
structure Pointer (O : Type u) where
  object : O
  offset : Nat
deriving DecidableEq, Repr

instance : HAdd (Pointer O) Nat (Pointer O) :=
  ⟨fun p n => ⟨p.object, p.offset + n⟩⟩

@[simp] theorem Pointer.add_object (p : Pointer O) (n : Nat) : (p + n).object = p.object := rfl

@[simp] theorem Pointer.add_offset (p : Pointer O) (n : Nat) :
    (p + n).offset = p.offset + n := rfl

theorem Pointer.mk_add (o : O) (i n : Nat) : (⟨o, i⟩ : Pointer O) + n = ⟨o, i + n⟩ := rfl

@[simp] theorem Pointer.add_zero (p : Pointer O) : p + 0 = p := rfl

theorem Pointer.add_assoc (p : Pointer O) (m n : Nat) : p + m + n = p + (m + n) := by
  cases p
  change Pointer.mk _ _ = Pointer.mk _ _
  simp [Nat.add_assoc]

/-- The contents of every object. -/
abbrev Memory (O : Type u) (α : Type v) := O → Nat → α

namespace Memory

def load (m : Memory O α) (p : Pointer O) : α := m p.object p.offset

/-- The `n` cells from `p` on. -/
def slice (m : Memory O α) (p : Pointer O) (n : Nat) : List α :=
  (List.range n).map fun i => m.load (p + i)

@[simp] theorem length_slice (m : Memory O α) (p : Pointer O) (n : Nat) :
    (m.slice p n).length = n := by
  simp [slice]

theorem getElem?_slice (m : Memory O α) (p : Pointer O) (n i : Nat) :
    (m.slice p n)[i]? = if i < n then some (m.load (p + i)) else none := by
  split <;> simp_all [slice]

theorem slice_succ (m : Memory O α) (p : Pointer O) (n : Nat) :
    m.slice p (n + 1) = m.load p :: m.slice (p + 1) n := by
  simp only [slice, List.range_succ_eq_map, List.map_cons, List.map_map, Pointer.add_zero,
    List.cons.injEq, true_and]
  apply List.map_congr_left
  intro i _
  simp only [Function.comp_apply, Pointer.add_assoc]
  rw [Nat.add_comm, Nat.succ_eq_add_one, Nat.add_comm]

theorem slice_concat (m : Memory O α) (p : Pointer O) (n : Nat) :
    m.slice p (n + 1) = m.slice p n ++ [m.load (p + n)] := by
  simp [slice, List.range_succ]

theorem slice_prefix (m : Memory O α) (p : Pointer O) {k n : Nat} (h : k ≤ n) :
    m.slice p k <+: m.slice p n := by
  induction h with
  | refl => exact List.prefix_refl _
  | step _ ih =>
      rw [slice_concat]
      exact ih.trans (List.prefix_append ..)

theorem drop_slice (m : Memory O α) (p : Pointer O) (n k : Nat) :
    (m.slice p n).drop k = m.slice (p + k) (n - k) := by
  apply List.ext_getElem?
  intro i
  rw [List.getElem?_drop, getElem?_slice, getElem?_slice, Pointer.add_assoc]
  simp only [show k + i < n ↔ i < n - k by omega]

theorem slice_congr {m m' : Memory O α} {o : O} (h : m o = m' o) (i n : Nat) :
    m.slice ⟨o, i⟩ n = m'.slice ⟨o, i⟩ n := by
  simp [slice, load, h]

variable [DecidableEq O]

def store (m : Memory O α) (p : Pointer O) (a : α) : Memory O α :=
  fun o i => if o = p.object ∧ i = p.offset then a else m o i

/-- `memcpy`: the cells of `as`, one after another from `p` on. -/
def storeAll (m : Memory O α) (p : Pointer O) : List α → Memory O α
  | [] => m
  | a :: as => (m.store p a).storeAll (p + 1) as

theorem store_other (m : Memory O α) (p : Pointer O) (a : α) {o : O} (h : o ≠ p.object) :
    m.store p a o = m o := by
  funext i
  simp [store, h]

theorem load_store (m : Memory O α) (p : Pointer O) (a : α) : (m.store p a).load p = a :=
  if_pos ⟨rfl, rfl⟩

theorem load_store_ne (m : Memory O α) {p q : Pointer O} (a : α) (h : q ≠ p) :
    (m.store p a).load q = m.load q := by
  refine if_neg fun ⟨object, offset⟩ => h ?_
  cases p
  cases q
  exact congrArg₂ Pointer.mk object offset

/-- A store behind some cells leaves them alone. -/
theorem slice_store (m : Memory O α) (p : Pointer O) (a : α) {n k : Nat} (h : n ≤ k) :
    (m.store (p + k) a).slice p n = m.slice p n := by
  apply List.map_congr_left
  intro i inside
  have before : i < n := List.mem_range.mp inside
  refine if_neg fun same => ?_
  have offset : p.offset + i = p.offset + k := same.2
  omega

theorem slice_store_next (m : Memory O α) (p : Pointer O) (a : α) (n : Nat) :
    (m.store (p + n) a).slice p (n + 1) = m.slice p n ++ [a] := by
  rw [slice_concat, slice_store m p a (Nat.le_refl n), load_store]

theorem storeAll_concat (m : Memory O α) (p : Pointer O) (as : List α) (a : α) :
    m.storeAll p (as ++ [a]) = (m.storeAll p as).store (p + as.length) a := by
  induction as generalizing m p with
  | nil => rfl
  | cons b as ih =>
      rw [List.cons_append, storeAll, ih, storeAll, Pointer.add_assoc, List.length_cons,
        Nat.add_comm 1]

theorem storeAll_other (m : Memory O α) (p : Pointer O) (as : List α) {o : O}
    (h : o ≠ p.object) : m.storeAll p as o = m o := by
  induction as generalizing m p with
  | nil => rfl
  | cons a as ih => exact (ih (m.store p a) (p + 1) h).trans (store_other m p a h)

theorem storeAll_apply (m : Memory O α) (p : Pointer O) (as : List α) (i : Nat) :
    m.storeAll p as p.object i =
      if h : p.offset ≤ i ∧ i < p.offset + as.length then as.get ⟨i - p.offset, by omega⟩
      else m p.object i := by
  induction as generalizing m p with
  | nil =>
      rw [dif_neg (by simp only [List.length_nil]; omega)]
      rfl
  | cons a as ih =>
      have tail := ih (m.store p a) (p + 1)
      simp only [Pointer.add_object, Pointer.add_offset] at tail
      rw [storeAll, tail]
      rcases Nat.lt_trichotomy i p.offset with before | rfl | after
      · rw [dif_neg (by omega), dif_neg (by simp; omega)]
        simp [store]
        omega
      · rw [dif_neg (by omega), dif_pos (by simp)]
        simp [store]
      · by_cases inside : i < p.offset + (as.length + 1)
        · have shift : i - p.offset = i - (p.offset + 1) + 1 := by omega
          rw [dif_pos (by omega), dif_pos (by simp; omega)]
          simp [shift]
        · rw [dif_neg (by omega), dif_neg (by simp; omega)]
          simp [store]
          omega

theorem storeAll_congr {m m' : Memory O α} {o : O} (h : m o = m' o) (i : Nat) (as : List α) :
    m.storeAll ⟨o, i⟩ as o = m'.storeAll ⟨o, i⟩ as o := by
  funext j
  rw [storeAll_apply m ⟨o, i⟩ as j, storeAll_apply m' ⟨o, i⟩ as j, h]

/-- A copy into an array is seen in the array's contents as an overwrite. -/
theorem slice_storeAll (m : Memory O α) (o : O) (i n : Nat) (as : List α)
    (h : i + as.length ≤ n) :
    (m.storeAll ⟨o, i⟩ as).slice ⟨o, 0⟩ n = overwrite (m.slice ⟨o, 0⟩ n) i as := by
  apply List.ext_getElem?
  intro j
  rw [getElem?_overwrite _ _ _ (by simpa using h), getElem?_slice, getElem?_slice]
  have cell := storeAll_apply m ⟨o, i⟩ as j
  simp only at cell
  by_cases inside : i ≤ j ∧ j < i + as.length
  · rw [dif_pos inside] at cell
    rw [if_pos (by omega : j < n), if_pos inside]
    simp only [load, Pointer.add_object, Pointer.add_offset, Nat.zero_add, cell]
    rw [List.getElem?_eq_getElem (by omega)]
    rfl
  · rw [dif_neg inside] at cell
    simp only [load, Pointer.add_object, Pointer.add_offset, Nat.zero_add, cell, inside,
      if_false]

/-- A copy to the front of some cells, seen in their contents. -/
theorem slice_storeAll_self (m : Memory O α) (p : Pointer O) (as : List α) (n : Nat)
    (h : as.length ≤ n) : (m.storeAll p as).slice p n = as ++ (m.slice p n).drop as.length := by
  apply List.ext_getElem?
  intro j
  have cell := storeAll_apply m p as (p.offset + j)
  rw [getElem?_slice]
  by_cases inside : j < as.length
  · rw [dif_pos (by omega)] at cell
    have index : p.offset + j - p.offset = j := by omega
    rw [if_pos (by omega), List.getElem?_append_left inside, List.getElem?_eq_getElem inside]
    simp [load, cell, index]
  · rw [dif_neg (by omega)] at cell
    have index : as.length + (j - as.length) = j := by omega
    rw [List.getElem?_append_right (by omega), List.getElem?_drop, getElem?_slice, index]
    simp only [load, Pointer.add_object, Pointer.add_offset, cell]

theorem slice_storeAll_within (m : Memory O α) (p : Pointer O) (as : List α) {i n : Nat}
    (h : i + n ≤ as.length) : (m.storeAll p as).slice (p + i) n = (as.drop i).take n := by
  apply List.ext_getElem?
  intro j
  rw [getElem?_slice, List.getElem?_take, List.getElem?_drop]
  by_cases inside : j < n
  · have cell := storeAll_apply m p as (p.offset + i + j)
    rw [dif_pos (by omega)] at cell
    have index : p.offset + i + j - p.offset = i + j := by omega
    simp only [inside, if_true, load, Pointer.add_object, Pointer.add_offset, cell, index]
    rw [List.getElem?_eq_getElem (by omega)]
    rfl
  · simp only [inside, if_false]

end Memory
end ObjectMemory
