import Mathlib.Data.Int.Order.Basic
import Mathlib.Tactic.Common

/-! # Amounts that fall due pro rata

A period quotes an amount and takes it at a daily rate, on the grid of days of length `day`
that its interior meets. `entitled` is what may have been taken up to a moment: it grows with
time, each day of the period adds at least the rate to it, and it never passes the quote.

Results:
 1. `entitled_mono`, `entitled_le_quote`: the entitlement grows and stays below the quote.
 2. `entitled_step`: a day of the grid inside the period adds the rate.
-/

namespace ProRata

structure Period where
  start : Int
  due : Int
  quote : Nat
  rate : Nat
  deriving DecidableEq, Repr

namespace Period

variable {day s t : Int} {p : Period}

/-- The days of the grid after the start and up to `t`, or up to the end of the period. -/
def elapsed (p : Period) (day t : Int) : Int := max 0 (min t p.due / day - p.start / day)

/-- The rate, taken on every day of the period, stays within the quote. -/
def exact (p : Period) (day : Int) : Bool := p.rate * p.elapsed day p.due ≤ p.quote

/-- What may have been taken up to `t`, when something was taken at all. Nothing may be taken
at a rate that does not fit the quote. -/
def entitled (p : Period) (day : Int) : Option Int → Int
  | none => 0
  | some t => if p.exact day then p.rate * p.elapsed day t else 0

@[simp] theorem entitled_none : p.entitled day none = 0 := rfl

theorem entitled_some :
    p.entitled day (some t) = if p.exact day then (p.rate : Int) * p.elapsed day t else 0 := rfl

theorem elapsed_nonneg : 0 ≤ p.elapsed day t := le_max_left _ _

theorem elapsed_mono (hd : 0 < day) (h : s ≤ t) : p.elapsed day s ≤ p.elapsed day t := by
  have hmin : min s p.due ≤ min t p.due := by omega
  have hdiv := Int.ediv_le_ediv hd hmin
  unfold elapsed
  omega

theorem elapsed_le (hd : 0 < day) : p.elapsed day t ≤ p.elapsed day p.due := by
  have hmin : min t p.due ≤ min p.due p.due := by omega
  have hdiv := Int.ediv_le_ediv hd hmin
  unfold elapsed
  omega

theorem entitled_nonneg {t : Option Int} : 0 ≤ p.entitled day t := by
  cases t with
  | none => exact Int.le_refl 0
  | some t =>
    rw [entitled_some]
    split
    · exact Int.mul_nonneg (Int.natCast_nonneg _) elapsed_nonneg
    · exact Int.le_refl 0

theorem entitled_le_quote (hd : 0 < day) {t : Option Int} : p.entitled day t ≤ p.quote := by
  cases t with
  | none => exact Int.natCast_nonneg _
  | some t =>
    rw [entitled_some]
    split
    · next hexact =>
      have hfull : (p.rate : Int) * p.elapsed day p.due ≤ p.quote := of_decide_eq_true hexact
      exact le_trans (Int.mul_le_mul_of_nonneg_left (elapsed_le hd) (Int.natCast_nonneg _)) hfull
    · exact Int.natCast_nonneg _

/-- The whole entitlement is that at the end of the period. -/
theorem entitled_le_full (hd : 0 < day) {t : Option Int} :
    p.entitled day t ≤ p.entitled day (some p.due) := by
  cases t with
  | none => exact entitled_nonneg
  | some t =>
    rw [entitled_some, entitled_some]
    split
    · exact Int.mul_le_mul_of_nonneg_left (elapsed_le hd) (Int.natCast_nonneg _)
    · exact Int.le_refl 0

/-- The entitlement grows with time. -/
theorem entitled_mono (hd : 0 < day) {s : Option Int} (h : ∀ a, s = some a → a ≤ t) :
    p.entitled day s ≤ p.entitled day (some t) := by
  cases s with
  | none => exact entitled_nonneg
  | some s =>
    rw [entitled_some, entitled_some]
    split
    · exact Int.mul_le_mul_of_nonneg_left (elapsed_mono hd (h s rfl)) (Int.natCast_nonneg _)
    · exact Int.le_refl 0

/-- A new day of the grid inside the period adds the rate. -/
theorem entitled_step (hd : 0 < day) {s : Option Int} (h : ∀ a, s = some a → a < t)
    (hgrid : t % day = 0) (hstart : p.start < t) (hdue : t ≤ p.due) (hexact : p.exact day = true) :
    p.entitled day s + p.rate ≤ p.entitled day (some t) := by
  have hmin : min t p.due = t := min_eq_left hdue
  -- whatever lies before `t` lies on an earlier day
  have hbefore : ∀ a, a < t → a / day + 1 ≤ t / day := by
    intro a ha
    have hmul : t / day * day = t := Int.ediv_mul_cancel (Int.dvd_of_emod_eq_zero hgrid)
    have hlt : a / day < t / day := by
      refine Int.ediv_lt_of_lt_mul hd ?_
      rw [hmul]
      exact ha
    omega
  have hpos : 1 ≤ p.elapsed day t := by
    have hstart' := hbefore p.start hstart
    unfold elapsed
    rw [hmin]
    omega
  have hnew : p.entitled day (some t) = p.rate * p.elapsed day t := by
    rw [entitled_some, if_pos hexact]
  rw [hnew]
  cases s with
  | none =>
    rw [entitled_none, Int.zero_add]
    have hmul := Int.mul_le_mul_of_nonneg_left hpos (Int.natCast_nonneg p.rate)
    rwa [Int.mul_one] at hmul
  | some s =>
    have hlt : p.elapsed day s + 1 ≤ p.elapsed day t := by
      have hs := hbefore s (h s rfl)
      have hdiv : min s p.due / day ≤ s / day := Int.ediv_le_ediv hd (min_le_left _ _)
      have hone := hpos
      unfold elapsed at hone ⊢
      rw [hmin] at hone ⊢
      omega
    have hold : p.entitled day (some s) = p.rate * p.elapsed day s := by
      rw [entitled_some, if_pos hexact]
    calc p.entitled day (some s) + p.rate = p.rate * (p.elapsed day s + 1) := by
          rw [hold, Int.mul_add, Int.mul_one]
      _ ≤ p.rate * p.elapsed day t := Int.mul_le_mul_of_nonneg_left hlt (Int.natCast_nonneg _)

end Period

end ProRata
