import Mathlib

/-!
# Machine numbers

Unsigned words as natural numbers, with the checked and saturating operations that report an
overflow instead of wrapping around; and the operations of 64-bit floating-point numbers that the
standard library of Lean does not name.
-/

namespace Maco.Base

/-- `u64::checked_add`. -/
def checkedAddU64 (a b : ℕ) : Option ℕ := if a + b < 2 ^ 64 then some (a + b) else none

/-- `u64::checked_sub`. -/
def checkedSubU64 (a b : ℕ) : Option ℕ := if b ≤ a then some (a - b) else none

/-- `u64::checked_mul`. -/
def checkedMulU64 (a b : ℕ) : Option ℕ := if a * b < 2 ^ 64 then some (a * b) else none

/-- `u64::saturating_add`. -/
def saturatingAddU64 (a b : ℕ) : ℕ := min (a + b) (2 ^ 64 - 1)

/-- `u16::checked_add`. -/
def checkedAddU16 (a b : ℕ) : Option ℕ := if a + b < 2 ^ 16 then some (a + b) else none

theorem checkedAddU16_eq_some {a b sum : ℕ} :
    checkedAddU16 a b = some sum ↔ a + b < 2 ^ 16 ∧ sum = a + b := by
  unfold checkedAddU16
  split <;> simp_all [eq_comm]

theorem checkedAddU64_eq_some {a b sum : ℕ} :
    checkedAddU64 a b = some sum ↔ a + b < 2 ^ 64 ∧ sum = a + b := by
  unfold checkedAddU64
  split <;> simp_all [eq_comm]

theorem checkedSubU64_eq_some {a b difference : ℕ} :
    checkedSubU64 a b = some difference ↔ b ≤ a ∧ difference = a - b := by
  unfold checkedSubU64
  split <;> simp_all [eq_comm]

/-! ## Binary64 -/

/-- `f64::EPSILON`, the distance from one to the next number. -/
def f64Epsilon : Float := 2.220446049250313e-16

/-- `f64::max`: the other argument when one of them is not a number. -/
def f64Max (left right : Float) : Float :=
  if left.isNaN then right
  else if right.isNaN then left
  else if left < right then right
  else left

/-- A finite number is equal to itself. -/
theorem beq_self_of_isFinite {x : Float} (finite : x.isFinite = true) : (x == x) = true := by
  have unpackedFinite : x.toModel.unpack.isFinite = true := finite
  change x.toModel.unpack.beq x.toModel.unpack = true
  cases unpacked : x.toModel.unpack with
  | infinity sign =>
    rw [unpacked] at unpackedFinite
    cases unpackedFinite
  | notANumber =>
    rw [unpacked] at unpackedFinite
    cases unpackedFinite
  | zero sign => simp [Float.Model.UnpackedFloat.beq, Float.Model.UnpackedFloat.compare]
  | finite sign mantissa exponent positive =>
    cases sign <;> simp [Float.Model.UnpackedFloat.beq, Float.Model.UnpackedFloat.compare]

end Maco.Base
