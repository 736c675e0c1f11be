import Mathlib.Data.Nat.Init
import Mathlib.Tactic.Linarith

/-!
# Rescaling a range, and signed arithmetic that may fail

`rescale n m v` takes the range `0..m` to the range `0..n` by one
multiplication and one truncating division. It is monotone, fixes both ends,
rounds down by less than one step, is injective when the target is at least as
fine as the source and surjective when it is at least as coarse.

The second half is 32-bit signed arithmetic the way C has it: an operation whose
result does not fit has no result. A computation of `Option`s that comes out as
`some` has therefore met no overflow, no division by zero and no lossy
conversion on its way.
-/

namespace CaptureKVMBridge.Machine

/-! ## Rescaling -/

/-- `v` in steps of `m` per range, in steps of `n` per range, rounded down. -/
def rescale (n m v : Nat) : Nat := v * n / m

@[simp] theorem rescale_zero (n m : Nat) : rescale n m 0 = 0 := by
  rw [rescale, Nat.zero_mul, Nat.zero_div]

/-- The top of the one range goes to the top of the other. -/
theorem rescale_top {m : Nat} (hm : 0 < m) (n : Nat) : rescale n m m = n :=
  Nat.mul_div_cancel_left n hm

theorem rescale_mono (n m : Nat) {v w : Nat} (h : v ≤ w) : rescale n m v ≤ rescale n m w :=
  Nat.div_le_div_right (Nat.mul_le_mul_right n h)

/-- Inside the one range it stays inside the other. -/
theorem rescale_le {m v : Nat} (hm : 0 < m) (h : v ≤ m) (n : Nat) : rescale n m v ≤ n := by
  have htop := rescale_mono n m h
  rw [rescale_top hm] at htop
  exact htop

/-- Rounding down loses less than one step. -/
theorem rescale_error {m : Nat} (hm : 0 < m) (n v : Nat) :
    rescale n m v * m ≤ v * n ∧ v * n < rescale n m v * m + m := by
  have hdiv := Nat.div_add_mod (v * n) m
  have hmod := Nat.mod_lt (v * n) hm
  rw [rescale, Nat.mul_comm _ m]
  omega

/-- The error bound determines the result. -/
theorem rescale_eq {n m v r : Nat} (hle : r * m ≤ v * n) (hlt : v * n < r * m + m) :
    rescale n m v = r := by
  rw [rescale]
  apply Nat.div_eq_of_lt_le
  · exact hle
  · rw [Nat.add_one_mul]
    exact hlt

/-- A step of the source is a step of a target that is at least as fine. -/
theorem rescale_strictMono {n m v w : Nat} (hm : 0 < m) (hmn : m ≤ n) (h : v < w) :
    rescale n m v < rescale n m w := by
  have hstep : v * n + n ≤ w * n := by
    calc v * n + n = (v + 1) * n := (Nat.add_one_mul v n).symm
      _ ≤ w * n := Nat.mul_le_mul_right n h
  have hv := (rescale_error hm n v).1
  have hw := (rescale_error hm n w).2
  have hlt : rescale n m v * m < rescale n m w * m := by
    omega
  exact Nat.lt_of_mul_lt_mul_right hlt

/-- Distinct values of the source stay distinct in a target at least as fine. -/
theorem rescale_injective {n m v w : Nat} (hm : 0 < m) (hmn : m ≤ n)
    (h : rescale n m v = rescale n m w) : v = w := by
  rcases Nat.lt_trichotomy v w with hlt | heq | hgt
  · exact absurd h (Nat.ne_of_lt (rescale_strictMono hm hmn hlt))
  · exact heq
  · exact absurd h.symm (Nat.ne_of_lt (rescale_strictMono hm hmn hgt))

/-- Every value of a target at least as coarse is reached, from inside the range. -/
theorem rescale_surjective {n m r : Nat} (hn : 0 < n) (hnm : n ≤ m) (hr : r ≤ n) :
    ∃ v, v ≤ m ∧ rescale n m v = r := by
  -- the least `v` with `r * m ≤ v * n`
  have hdiv := Nat.div_add_mod (r * m + (n - 1)) n
  have hmod := Nat.mod_lt (r * m + (n - 1)) hn
  refine ⟨(r * m + (n - 1)) / n, ?_, ?_⟩
  · have htop : r * m + (n - 1) < (m + 1) * n := by
      have hrm : r * m ≤ n * m := Nat.mul_le_mul_right m hr
      rw [Nat.add_one_mul, Nat.mul_comm m n]
      omega
    exact Nat.lt_succ_iff.mp ((Nat.div_lt_iff_lt_mul hn).mpr htop)
  · apply rescale_eq
    · rw [Nat.mul_comm ((r * m + (n - 1)) / n) n]
      omega
    · rw [Nat.mul_comm ((r * m + (n - 1)) / n) n]
      omega

/-! ## Signed 32-bit arithmetic -/

/-- `(int32_t)x`, where the value is kept. -/
def signedOf (x : UInt32) : Option Int32 :=
  if x.toNat < 2 ^ 31 then some x.toInt32 else none

/-- A product that fits. -/
def signedMul (a b : Int32) : Option Int32 :=
  if -2 ^ 31 ≤ a.toInt * b.toInt ∧ a.toInt * b.toInt < 2 ^ 31 then some (a * b) else none

/-- A quotient that exists: not by zero, and not the one that does not fit. -/
def signedDiv (a b : Int32) : Option Int32 :=
  if b.toInt = 0 ∨ (a.toInt = -2 ^ 31 ∧ b.toInt = -1) then none else some (a / b)

/-- `(int16_t)x`, where the value is kept. -/
def narrow16 (x : Int32) : Option Int16 :=
  if -2 ^ 15 ≤ x.toInt ∧ x.toInt < 2 ^ 15 then some x.toInt16 else none

theorem toInt_toInt32 {x : UInt32} (h : x.toNat < 2 ^ 31) : x.toInt32.toInt = x.toNat := by
  rw [← Int32.toInt_toBitVec, UInt32.toBitVec_toInt32, BitVec.toInt_eq_toNat_of_lt]
  · rfl
  · rw [UInt32.toNat_toBitVec]
    omega

theorem signedOf_eq_some {x : UInt32} (h : x.toNat < 2 ^ 31) : signedOf x = some x.toInt32 :=
  if_pos h

section Magnitudes

/-! On magnitudes, values read as `Nat`, the operations are those of `Nat`. -/

variable {a b : Int32} {v n : Nat} (ha : a.toInt = v)
include ha

theorem toInt_mul_of_nat (hb : b.toInt = n) (h : v * n < 2 ^ 31) :
    (a * b).toInt = ((v * n : Nat) : Int) := by
  rw [Int32.toInt_mul, ha, hb, ← Int.natCast_mul]
  apply Int.bmod_eq_of_le
  · omega
  · omega

theorem signedMul_eq_some (hb : b.toInt = n) (h : v * n < 2 ^ 31) :
    signedMul a b = some (a * b) := by
  rw [signedMul, if_pos]
  rw [ha, hb, ← Int.natCast_mul]
  omega

theorem toInt_div_of_nat (hb : b.toInt = n) : (a / b).toInt = ((v / n : Nat) : Int) := by
  have hv := a.toInt_lt
  have hle := Nat.div_le_self v n
  rw [Int32.toInt_div, ha, hb, ← Int.ofNat_tdiv]
  generalize v / n = q at hle
  apply Int.bmod_eq_of_le
  · omega
  · omega

theorem signedDiv_eq_some (hb : b.toInt = n) (hn : n ≠ 0) : signedDiv a b = some (a / b) := by
  rw [signedDiv, if_neg]
  rw [ha, hb]
  omega

theorem toInt_toInt16_of_nat (h : v < 2 ^ 15) : a.toInt16.toInt = v := by
  rw [Int32.toInt_toInt16, ha]
  apply Int.bmod_eq_of_le
  · omega
  · omega

theorem narrow16_eq_some (h : v < 2 ^ 15) : narrow16 a = some a.toInt16 := by
  rw [narrow16, if_pos]
  rw [ha]
  omega

end Magnitudes

end CaptureKVMBridge.Machine
