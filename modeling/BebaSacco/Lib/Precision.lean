import BebaSacco.Lib.Rounding
import Mathlib.Data.Int.Log

/-! # Numbers of so many digits

Arithmetic of limited precision gives, for a rational `q`, a number near it of so many digits:
`significant q` has twenty decimal digits, `double q` has 53 binary ones.

Results:
 1. `toDigits_error`: what the digits that are dropped amount to.
 2. `significant_nonneg`, `significant_nonpos`: rounding keeps the sign.
 3. `significant_exact`: a number of no more than twenty digits is kept.
 4. `significantUnits_le`, `significantUnits_exact`: an amount is not rounded past another one,
    and is kept.
 5. `double_inj`: two amounts of no more than fifteen digits are not the same double.
-/

namespace Rounding

/-- The nearest integer, an even one if there are two. -/
def roundHalfEven (q : ℚ) : ℤ :=
  let below := ⌊q⌋
  if q - below < 1 / 2 ∨ (q - below = 1 / 2 ∧ below % 2 = 0) then below else below + 1

/-- What the last of `digits` digits of `q` counts, in base `b`. -/
def lastDigit (b digits : ℕ) (q : ℚ) : ℚ := (b : ℚ) ^ (Int.log b |q| + 1 - digits)

/-- `q` in so many digits. -/
def toDigits (round : ℚ → ℤ) (b digits : ℕ) (q : ℚ) : ℚ :=
  round (q / lastDigit b digits q) * lastDigit b digits q

/-- A decimal number of twenty digits, a half rounded away from zero. -/
def significant (q : ℚ) : ℚ := toDigits roundHalfUp 10 20 q

/-- The nearest multiple of `10 ^ e`, a half rounded away from zero. -/
def toPlace (e : ℤ) (q : ℚ) : ℚ := roundHalfUp (q / 10 ^ e) * 10 ^ e

/-- Twenty digits, and in any case all of the first four decimals: the same twenty digits
below `10 ^ 16`. -/
def significantUnits (q : ℚ) : ℚ := toPlace (min (Int.log 10 |q| + 1 - 20) (-4)) q

/-- A binary number of 53 digits; its exponent has no bound. -/
def double (q : ℚ) : ℚ := toDigits roundHalfEven 2 53 q

/-! ## 1. The error -/

theorem roundHalfUp_error (q : ℚ) : |(roundHalfUp q : ℚ) - q| ≤ 1 / 2 := by
  have key (x : ℚ) : |(⌊x + 1 / 2⌋ : ℚ) - x| ≤ 1 / 2 := by
    have hle := Int.floor_le (x + 1 / 2)
    have hlt := Int.lt_floor_add_one (x + 1 / 2)
    rw [abs_le]
    constructor <;> linarith
  unfold roundHalfUp
  split
  · exact key q
  · have h := key (-q)
    rw [abs_sub_comm] at h
    push_cast
    rwa [show -(⌊-q + 1 / 2⌋ : ℚ) - q = -q - ⌊-q + 1 / 2⌋ by ring]

theorem roundHalfEven_error (q : ℚ) : |(roundHalfEven q : ℚ) - q| ≤ 1 / 2 := by
  have hle := Int.floor_le q
  have hlt := Int.lt_floor_add_one q
  unfold roundHalfEven
  dsimp only
  rw [abs_le]
  split
  · next h =>
    rcases h with h | h
    · constructor <;> linarith
    · constructor <;> linarith [h.1]
  · next h =>
    rw [not_or] at h
    push_cast
    constructor <;> linarith [not_lt.mp h.1]

theorem lastDigit_pos {b : ℕ} (hb : 1 < b) (digits : ℕ) (q : ℚ) : 0 < lastDigit b digits q := by
  have hbase : (0 : ℚ) < b := by exact_mod_cast Nat.zero_lt_of_lt hb
  exact zpow_pos hbase _

theorem lastDigit_le {b : ℕ} (hb : 1 < b) (digits : ℕ) {q : ℚ} (hq : q ≠ 0) :
    lastDigit b (digits + 1) q * b ^ digits ≤ |q| := by
  have hne : (b : ℚ) ≠ 0 := by exact_mod_cast Nat.ne_of_gt (Nat.zero_lt_of_lt hb)
  have hlog := Int.zpow_log_le_self hb (abs_pos.mpr hq)
  unfold lastDigit
  rw [← zpow_natCast (b : ℚ) digits, ← zpow_add₀ hne]
  push_cast
  rwa [show Int.log b |q| + 1 - (digits + 1 : ℤ) + digits = Int.log b |q| by ring]

theorem toDigits_error {round : ℚ → ℤ} (hround : ∀ x : ℚ, |(round x : ℚ) - x| ≤ 1 / 2) {b : ℕ}
    (hb : 1 < b) (digits : ℕ) (q : ℚ) :
    |toDigits round b (digits + 1) q - q| * (2 * b ^ digits) ≤ |q| := by
  have hpos := lastDigit_pos hb (digits + 1) q
  have hpow : (0 : ℚ) ≤ 2 * b ^ digits := by positivity
  rcases eq_or_ne q 0 with rfl | hne
  · have hzero : (round 0 : ℚ) = 0 := by
      have h := hround 0
      rw [sub_zero] at h
      have hlt : |round 0| < 1 := by
        have : ((|round 0| : ℤ) : ℚ) < 1 := by
          push_cast
          linarith
        exact_mod_cast this
      exact_mod_cast Int.abs_lt_one_iff.mp hlt
    simp [toDigits, hzero]
  · have hscaled : |toDigits round b (digits + 1) q - q| =
        |(round (q / lastDigit b (digits + 1) q) : ℚ) - q / lastDigit b (digits + 1) q| *
          lastDigit b (digits + 1) q := by
      rw [← abs_of_pos hpos, ← abs_mul, abs_of_pos hpos, sub_mul, div_mul_cancel₀ _ hpos.ne']
      rfl
    calc |toDigits round b (digits + 1) q - q| * (2 * b ^ digits)
        ≤ 1 / 2 * lastDigit b (digits + 1) q * (2 * b ^ digits) := by
          rw [hscaled]
          exact mul_le_mul_of_nonneg_right (mul_le_mul_of_nonneg_right (hround _) hpos.le) hpow
      _ = lastDigit b (digits + 1) q * b ^ digits := by ring
      _ ≤ |q| := lastDigit_le hb digits hne

theorem significant_error (q : ℚ) : |significant q - q| * (2 * 10 ^ 19) ≤ |q| := by
  exact_mod_cast toDigits_error roundHalfUp_error (by decide : 1 < 10) 19 q

/-- What a number that is not negative loses. -/
theorem le_significant {q : ℚ} (h : 0 ≤ q) : q - q / (2 * 10 ^ 19) ≤ significant q := by
  have herror := significant_error q
  rw [abs_of_nonneg h, ← le_div_iff₀ (by norm_num), abs_le] at herror
  linarith [herror.1]

theorem double_error (q : ℚ) : |double q - q| * 2 ^ 53 ≤ |q| := by
  have h := toDigits_error roundHalfEven_error (by decide : 1 < 2) 52 q
  push_cast at h
  unfold double
  linarith

/-! ## 2. Twenty decimal digits -/

theorem significant_nonneg {q : ℚ} (h : 0 ≤ q) : 0 ≤ significant q := by
  have hpos := lastDigit_pos (by decide : 1 < 10) 20 q
  have hround : (0 : ℚ) ≤ roundHalfUp (q / lastDigit 10 20 q) := by
    exact_mod_cast roundHalfUp_nonneg (div_nonneg h hpos.le)
  exact mul_nonneg hround hpos.le

theorem significant_nonpos {q : ℚ} (h : q ≤ 0) : significant q ≤ 0 := by
  have hpos := lastDigit_pos (by decide : 1 < 10) 20 q
  have hround : (roundHalfUp (q / lastDigit 10 20 q) : ℚ) ≤ 0 := by
    exact_mod_cast roundHalfUp_nonpos (div_nonpos_of_nonpos_of_nonneg h hpos.le)
  exact mul_nonpos_of_nonpos_of_nonneg hround hpos.le

theorem toPlace_mono {e : ℤ} {p q : ℚ} (h : p ≤ q) : toPlace e p ≤ toPlace e q := by
  have hpos : (0 : ℚ) < 10 ^ e := zpow_pos (by norm_num) e
  have hround := roundHalfUp_mono (div_le_div_of_nonneg_right h hpos.le)
  exact mul_le_mul_of_nonneg_right (by exact_mod_cast hround) hpos.le

/-- A number that ends before the last place is kept. -/
theorem toPlace_exact {e k : ℤ} (hle : e ≤ k) (n : ℤ) : toPlace e (n * 10 ^ k) = n * 10 ^ k := by
  obtain ⟨d, hd⟩ := Int.eq_ofNat_of_zero_le (Int.sub_nonneg_of_le hle)
  have hpos : (0 : ℚ) < 10 ^ e := zpow_pos (by norm_num) e
  have hsplit : (n : ℚ) * 10 ^ k = ((n * 10 ^ d : ℤ) : ℚ) * 10 ^ e := by
    push_cast
    rw [mul_assoc, ← zpow_natCast (10 : ℚ) d, ← zpow_add₀ (by norm_num)]
    congr 2
    omega
  rw [toPlace, hsplit, mul_div_cancel_right₀ _ hpos.ne', roundHalfUp_intCast]

theorem toPlace_le {e k n : ℤ} (hle : e ≤ k) {q : ℚ} (h : q ≤ n * 10 ^ k) :
    toPlace e q ≤ n * 10 ^ k :=
  (toPlace_mono h).trans (toPlace_exact hle n).le

theorem significant_le_one {q : ℚ} (h : q ≤ 1) : significant q ≤ 1 := by
  rcases lt_or_ge q 0 with hneg | hpos
  · exact le_trans (significant_nonpos hneg.le) zero_le_one
  have hlog : Int.log 10 |q| ≤ 0 := by
    rw [abs_of_nonneg hpos, Int.log_of_right_le_one 10 h]
    omega
  have hplace := @toPlace_le (Int.log 10 |q| + 1 - 20) 0 1 (by omega) q (by simpa using h)
  rw [Int.cast_one, zpow_zero, mul_one] at hplace
  exact hplace

theorem units_eq (n : ℤ) : units 10000 n = n * 10 ^ (-4 : ℤ) := by
  unfold units
  norm_num [div_eq_mul_inv]

theorem significantUnits_le {q : ℚ} {n : ℤ} (h : q ≤ units 10000 n) :
    significantUnits q ≤ units 10000 n := by
  rw [units_eq] at h ⊢
  exact toPlace_le (min_le_right _ _) h

theorem significantUnits_exact (n : ℤ) : significantUnits (units 10000 n) = units 10000 n := by
  rw [units_eq]
  exact toPlace_exact (min_le_right _ _) n

theorem significant_zero : significant 0 = 0 :=
  le_antisymm (significant_nonpos le_rfl) (significant_nonneg le_rfl)

/-- A number whose digits end at a power of ten and are no more than twenty. -/
theorem significant_exact {n k : ℤ} (h : |n| < 10 ^ 20) :
    significant (n * 10 ^ k) = n * 10 ^ k := by
  rcases eq_or_ne n 0 with rfl | hne
  · rw [Int.cast_zero, zero_mul, significant_zero]
  have hdigits : (0 : ℚ) < |n| := by exact_mod_cast abs_pos.mpr hne
  have hpow : (0 : ℚ) < 10 ^ k := zpow_pos (by norm_num) k
  have habs : |(n : ℚ) * 10 ^ k| = |n| * 10 ^ k := by
    rw [abs_mul, abs_of_pos hpow, Int.cast_abs]
  have hpos : (0 : ℚ) < |(n : ℚ) * 10 ^ k| := habs ▸ mul_pos hdigits hpow
  have hlog : Int.log 10 |(n : ℚ) * 10 ^ k| < 20 + k := by
    rw [← Int.lt_zpow_iff_log_lt (by decide) hpos, habs]
    push_cast
    rw [zpow_add₀ (by norm_num)]
    refine mul_lt_mul_of_pos_right ?_ hpow
    exact_mod_cast h
  -- the last of the twenty digits stands behind the last digit of the number
  exact toPlace_exact (by omega) n

/-! ## 3. Doubles -/

/-- Amounts in the same units, one of them below `10 ^ 15`. -/
theorem double_inj {scale : ℕ} (hs : 0 < scale) {m n : ℕ} (hm : m < 10 ^ 15)
    (h : double (units scale n) = double (units scale m)) : n = m := by
  have hs' : (0 : ℚ) < scale := by exact_mod_cast hs
  have hmlt : (m : ℚ) < 10 ^ 15 := by exact_mod_cast hm
  have herror (x : ℕ) : |double (units scale x) * scale - x| * 2 ^ 53 ≤ x := by
    have hx : (0 : ℚ) ≤ units scale x := by
      unfold units
      positivity
    have h := double_error (units scale x)
    rw [abs_of_nonneg hx] at h
    have hunits : units scale x * scale = x := by
      unfold units
      push_cast
      exact div_mul_cancel₀ _ hs'.ne'
    calc |double (units scale x) * scale - x| * 2 ^ 53
        = |(double (units scale x) - units scale x) * scale| * 2 ^ 53 := by
          rw [sub_mul, hunits]
      _ = |double (units scale x) - units scale x| * 2 ^ 53 * scale := by
          rw [abs_mul, abs_of_pos hs']
          ring
      _ ≤ units scale x * scale := mul_le_mul_of_nonneg_right h hs'.le
      _ = x := hunits
  have hn := herror n
  have hm' := herror m
  rw [h] at hn
  rw [← le_div_iff₀ (by norm_num), abs_le] at hn hm'
  have hlt : |(n : ℚ) - m| < 1 := by
    rw [abs_lt]
    constructor <;> linarith
  have hint : |(n : ℤ) - m| < 1 := by exact_mod_cast hlt
  have := Int.abs_lt_one_iff.mp hint
  omega

end Rounding
