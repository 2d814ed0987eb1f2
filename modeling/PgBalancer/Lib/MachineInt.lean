import Mathlib

/-!
# Values of C integer expressions

An expression of type `int` is computed modulo `2 ^ 32`, and the representative closest to zero is
taken.  A value of a signed type that is compared with an unsigned one of 64 bits is converted.

* `wrapInt_of_small` — there is no overflow in the range of the type.
* `wrapInt_ge`, `wrapInt_lt` — the range; `wrapInt_le` — an overflow does not make a number larger.
* `wrapInt_add_left` — a sum may be reduced on the way.
* `wrapLong_of_small` — the same for 64 bits.
* `toNat_ofInt_of_nonneg`, `toNat_ofInt_of_neg` — the conversion of a number that fits, and of a
  negative one.
-/

namespace MachineInt

/-- The value of an `int` expression. -/
def wrapInt (x : Int) : Int := x.bmod (2 ^ 32)

variable {x : Int}

theorem wrapInt_of_small (hle : -2 ^ 31 ≤ x) (hlt : x < 2 ^ 31) : wrapInt x = x := by
  unfold wrapInt
  rw [Int.bmod_eq_of_le] <;> norm_num <;> omega

theorem wrapInt_ge (x : Int) : -2 ^ 31 ≤ wrapInt x := by
  have := Int.le_bmod (x := x) (m := 2 ^ 32) (by norm_num)
  unfold wrapInt
  omega

theorem wrapInt_lt (x : Int) : wrapInt x < 2 ^ 31 := by
  have := Int.bmod_lt (x := x) (m := 2 ^ 32) (by norm_num)
  unfold wrapInt
  omega

theorem wrapInt_add_left (x y : Int) : wrapInt (wrapInt x + y) = wrapInt (x + y) :=
  Int.bmod_add_bmod

theorem wrapInt_le (hx : 0 ≤ x) : wrapInt x ≤ x := by
  unfold wrapInt
  rw [Int.bmod_def]
  norm_num
  split <;> omega

/-- The value of a `long` expression. -/
def wrapLong (x : Int) : Int := x.bmod (2 ^ 64)

theorem wrapLong_of_small (hle : 0 ≤ x) (hlt : x < 2 ^ 63) : wrapLong x = x := by
  unfold wrapLong
  rw [Int.bmod_eq_of_le] <;> norm_num <;> omega

theorem toNat_ofInt_of_nonneg (hle : 0 ≤ x) (hlt : x < 2 ^ 64) :
    ((UInt64.ofInt x).toNat : Int) = x := by
  simp [UInt64.ofInt]
  omega

theorem toNat_ofInt_of_neg (hle : -2 ^ 64 ≤ x) (hlt : x < 0) :
    ((UInt64.ofInt x).toNat : Int) = x + 2 ^ 64 := by
  simp [UInt64.ofInt]
  omega

end MachineInt
