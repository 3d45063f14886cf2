import Mathlib.Data.Nat.Notation
import Mathlib.Tactic.Common
import Mathlib.Algebra.Order.Group.Nat
import Mathlib.Algebra.Ring.Nat

/-!
Fixed-width numbers as rows of bytes, lowest byte first, and the reversal of their bytes.
-/

namespace LittleEndian

/-- The `n` lowest bytes of a number. -/
def bytes : Nat → Nat → List UInt8
  | 0, _ => []
  | n + 1, v => UInt8.ofNat v :: bytes n (v / 256)

/-- The number behind a row of bytes. -/
def value : List UInt8 → Nat
  | [] => 0
  | b :: bs => b.toNat + 256 * value bs

@[simp] theorem length_bytes (n v : Nat) : (bytes n v).length = n := by
  induction n generalizing v with
  | zero => rfl
  | succ n ih => exact congrArg Nat.succ (ih (v / 256))

theorem value_bytes (n v : Nat) : value (bytes n v) = v % 256 ^ n := by
  induction n generalizing v with
  | zero => simp [bytes, value, Nat.mod_one]
  | succ n ih =>
      have low : (UInt8.ofNat v).toNat = v % 256 := by simp
      rw [bytes, value, ih, low, Nat.pow_succ', Nat.mod_mul]

theorem bytes_value (bs : List UInt8) : bytes bs.length (value bs) = bs := by
  induction bs with
  | nil => rfl
  | cons b bs ih =>
      have high : (b.toNat + 256 * value bs) / 256 = value bs := by
        have := b.toNat_lt
        omega
      have low : UInt8.ofNat (b.toNat + 256 * value bs) = b := by
        apply UInt8.toNat_inj.mp
        have := b.toNat_lt
        simp only [UInt8.toNat_ofNat']
        omega
      simp only [List.length_cons, bytes, value, high, low, ih]

theorem value_lt (bs : List UInt8) : value bs < 256 ^ bs.length := by
  induction bs with
  | nil => simp [value]
  | cons b bs ih =>
      have := b.toNat_lt
      simp only [value, List.length_cons, Nat.pow_succ']
      omega

/-- The number with its `n` lowest bytes in the opposite order. -/
def swap (n v : Nat) : Nat := value (bytes n v).reverse

theorem bytes_swap (n v : Nat) : bytes n (swap n v) = (bytes n v).reverse := by
  have length : (bytes n v).reverse.length = n := by simp
  have round := bytes_value (bytes n v).reverse
  rwa [length] at round

theorem swap_lt (n v : Nat) : swap n v < 256 ^ n := by
  have bound := value_lt (bytes n v).reverse
  rwa [List.length_reverse, length_bytes] at bound

end LittleEndian
