import BebaSacco.Lib.IsoDate

/-! # Months of the calendar

Days and months are counted from the first of January 1970. A date is its month and the days of the
month that have passed; `plusMonths` moves the month and keeps the day of the month, so that a day
which the new month does not have runs over into the month after.

Results:
 1. `monthOf_eq_iff`: the month of a day.
 2. `month_plusMonths_iff`: the move ends in the month it is meant for when that month has the day.
 3. `plusMonths_lt`: a later month is a later date.
-/

namespace Calendar

/-- The days of the month `k`. -/
def monthLength (k : Nat) : Nat := IsoDate.monthLength (1970 + k / 12) (k % 12 + 1)

/-- The first day of the month `k`. -/
def monthStart (k : Nat) : Nat := IsoDate.total monthLength 0 k

def monthAndDay (days : Nat) : Nat × Nat := IsoDate.periods monthLength (days + 1) 0 days

def monthOf (days : Nat) : Nat := (monthAndDay days).1

/-- The days of its month before the day. -/
def dayOf (days : Nat) : Nat := (monthAndDay days).2

def msPerDay : Nat := 86400000

/-- `Date.setMonth` to the month `months` after that of the date, in milliseconds: the day of the
month and the time of the day stay. -/
def plusMonths (date months : Nat) : Nat :=
  (monthStart (monthOf (date / msPerDay) + months) + dayOf (date / msPerDay)) * msPerDay +
    date % msPerDay

/-- The month of a time value. -/
def month (date : Nat) : Nat := monthOf (date / msPerDay)

variable {k m n d date : Nat}

/-! ## 1. Days and months -/

theorem monthLength_pos (k : Nat) : 28 ≤ monthLength k := by
  unfold monthLength IsoDate.monthLength
  split
  · split <;> decide
  · split <;> decide

theorem monthStart_succ (k : Nat) : monthStart (k + 1) = monthStart k + monthLength k := by
  have hstep : ∀ n k, IsoDate.total monthLength n (k + 1) =
      IsoDate.total monthLength n k + monthLength (n + k) := by
    intro n k
    induction k generalizing n with
    | zero => simp [IsoDate.total]
    | succ k ih =>
      rw [IsoDate.total, ih (n + 1), IsoDate.total, Nat.add_assoc (monthLength n),
        Nat.add_assoc n 1 k, Nat.add_comm 1 k]
  have := hstep 0 k
  rwa [Nat.zero_add] at this

theorem monthStart_mono (h : k ≤ m) : monthStart k ≤ monthStart m := by
  induction h with
  | refl => exact Nat.le_refl _
  | step _ ih => exact Nat.le_trans ih (monthStart_succ _ ▸ Nat.le_add_right _ _)

/-- The day is in its month. -/
theorem month_spec (d : Nat) :
    monthStart (monthOf d) + dayOf d = d ∧ dayOf d < monthLength (monthOf d) := by
  have hlong : d < IsoDate.total monthLength 0 (d + 1) := by
    have := IsoDate.total_ge (w := 1) (fun n => Nat.le_trans (by decide) (monthLength_pos n)) 0
      (d + 1)
    omega
  cases h : monthAndDay d with
  | mk m r =>
    obtain ⟨k, -, hm, hd⟩ := IsoDate.periods_total h
    have hlt := IsoDate.periods_lt h hlong
    unfold monthOf dayOf monthStart
    rw [h]
    rw [Nat.zero_add] at hm
    exact ⟨by rw [hm]; exact hd.symm, hlt⟩

theorem monthOf_eq_iff : monthOf d = k ↔ monthStart k ≤ d ∧ d < monthStart (k + 1) := by
  obtain ⟨hd, hr⟩ := month_spec d
  constructor
  · rintro rfl
    rw [monthStart_succ]
    omega
  · rintro ⟨hle, hlt⟩
    have hnext := monthStart_succ (monthOf d)
    rcases Nat.lt_trichotomy (monthOf d) k with h | h | h
    · have := monthStart_mono (Nat.succ_le_of_lt h)
      rw [Nat.succ_eq_add_one] at this
      omega
    · exact h
    · have := monthStart_mono (Nat.succ_le_of_lt h)
      rw [Nat.succ_eq_add_one] at this
      omega

/-! ## 2. Months later -/

theorem plusMonths_day (date months : Nat) :
    plusMonths date months / msPerDay =
      monthStart (month date + months) + dayOf (date / msPerDay) := by
  unfold plusMonths month
  rw [Nat.add_comm, Nat.add_mul_div_right _ _ (by decide),
    Nat.div_eq_of_lt (Nat.mod_lt _ (by decide)), Nat.zero_add]

/-- The month it is meant for has the day of the month. -/
theorem month_plusMonths_iff :
    month (plusMonths date n) = month date + n ↔
      dayOf (date / msPerDay) < monthLength (month date + n) := by
  show monthOf _ = _ ↔ _
  rw [monthOf_eq_iff, plusMonths_day, monthStart_succ]
  omega

theorem plusMonths_zero (date : Nat) : plusMonths date 0 = date := by
  unfold plusMonths
  rw [Nat.add_zero, (month_spec (date / msPerDay)).1, Nat.mul_comm]
  exact Nat.div_add_mod date msPerDay

theorem plusMonths_lt (h : m < n) : plusMonths date m < plusMonths date n := by
  have hnext : monthStart (month date + m) + monthLength (month date + m) ≤
      monthStart (month date + n) := by
    rw [← monthStart_succ]
    exact monthStart_mono (Nat.add_lt_add_left h _)
  have hpos := monthLength_pos (month date + m)
  refine Nat.lt_of_div_lt_div (c := msPerDay) ?_
  rw [plusMonths_day, plusMonths_day]
  omega

end Calendar
