import Mathlib.Data.Rat.Floor
import Mathlib.Tactic.Linarith
import Mathlib.Tactic.Positivity
import Mathlib.Tactic.FieldSimp

/-! # Decimal rounding

`roundTo scale q` rounds the rational `q` to a multiple of `1 / scale`, half away
from zero, and returns it as a whole number of units of `1 / scale`.

Results:
 1. `roundTo_units`: a number that already is a multiple of the unit is kept.
 2. `roundHalfUp_nonneg`, `roundHalfUp_nonpos`: rounding keeps the sign.
 3. `roundTo_le`: it does not pass a bound that is a multiple of the unit.
 4. `roundTo_mono`: it keeps the order.
-/

namespace Rounding

/-- The nearest integer, with a half rounded away from zero. -/
def roundHalfUp (q : ℚ) : ℤ :=
  if 0 ≤ q then ⌊q + 1 / 2⌋ else -⌊-q + 1 / 2⌋

/-- `q` rounded to units of `1 / scale`, as a number of units. -/
def roundTo (scale : ℕ) (q : ℚ) : ℤ := roundHalfUp (q * scale)

/-- `n` units of `1 / scale`. -/
def units (scale : ℕ) (n : ℤ) : ℚ := n / scale

theorem roundHalfUp_intCast (n : ℤ) : roundHalfUp n = n := by
  unfold roundHalfUp
  have key (m : ℤ) : ⌊(m : ℚ) + 1 / 2⌋ = m := by
    rw [Int.floor_eq_iff]
    constructor <;> linarith
  split
  · exact key n
  · have h := key (-n)
    push_cast at h
    rw [h, neg_neg]

theorem roundTo_units {scale : ℕ} (hs : 0 < scale) (n : ℤ) : roundTo scale (units scale n) = n := by
  unfold roundTo units
  have hs' : (scale : ℚ) ≠ 0 := by positivity
  rw [div_mul_cancel₀ _ hs']
  exact roundHalfUp_intCast n

theorem roundHalfUp_nonneg {q : ℚ} (h : 0 ≤ q) : 0 ≤ roundHalfUp q := by
  unfold roundHalfUp
  rw [if_pos h, Int.floor_nonneg]
  linarith

theorem roundHalfUp_nonpos {q : ℚ} (h : q ≤ 0) : roundHalfUp q ≤ 0 := by
  unfold roundHalfUp
  split
  · next h0 =>
    have : q = 0 := le_antisymm h h0
    subst this
    norm_num
  · have : 0 ≤ ⌊-q + 1 / 2⌋ := Int.floor_nonneg.mpr (by linarith)
    omega

/-- What is at most a number of units, that is not negative, rounds to at most as many. -/
theorem le_roundHalfUp {q : ℚ} {n : ℤ} (h : (n : ℚ) - 1 / 2 < q) : n ≤ roundHalfUp q := by
  unfold roundHalfUp
  split
  · rw [Int.le_floor]
    linarith
  · have hlt : ⌊-q + 1 / 2⌋ < -n + 1 := by
      rw [Int.floor_lt]
      push_cast
      linarith
    omega

theorem roundTo_le {scale : ℕ} (hs : 0 < scale) {q : ℚ} {n : ℤ} (hn : 0 ≤ n)
    (h : q ≤ units scale n) : roundTo scale q ≤ n := by
  have hs' : (0 : ℚ) < scale := by positivity
  have hq : q * scale ≤ n := by
    unfold units at h
    rwa [le_div_iff₀ hs'] at h
  unfold roundTo roundHalfUp
  split
  · have hlt : q * scale + 1 / 2 < ((n + 1 : ℤ) : ℚ) := by
      push_cast
      linarith
    exact Int.lt_add_one_iff.mp (Int.floor_lt.mpr hlt)
  · next hneg =>
    have hfloor : 0 ≤ ⌊-(q * scale) + 1 / 2⌋ := Int.floor_nonneg.mpr (by linarith)
    omega

theorem roundHalfUp_mono {p q : ℚ} (h : p ≤ q) : roundHalfUp p ≤ roundHalfUp q := by
  by_cases hp : 0 ≤ p
  · have hq : 0 ≤ q := le_trans hp h
    unfold roundHalfUp
    rw [if_pos hp, if_pos hq]
    exact Int.floor_le_floor (by linarith)
  · by_cases hq : 0 ≤ q
    · exact le_trans (roundHalfUp_nonpos (le_of_not_ge hp)) (roundHalfUp_nonneg hq)
    · unfold roundHalfUp
      rw [if_neg hp, if_neg hq]
      exact neg_le_neg (Int.floor_le_floor (by linarith))

theorem roundTo_mono {scale : ℕ} {p q : ℚ} (h : p ≤ q) : roundTo scale p ≤ roundTo scale q :=
  roundHalfUp_mono (mul_le_mul_of_nonneg_right h (Nat.cast_nonneg _))

theorem roundTo_nonneg {scale : ℕ} {q : ℚ} (h : 0 ≤ q) : 0 ≤ roundTo scale q :=
  roundHalfUp_nonneg (mul_nonneg h (Nat.cast_nonneg _))

end Rounding
