import BebaSacco.Lib.Calendar

/-! # Due dates

The disbursement moves its own date by a number of months, once for the loan and once for each
instalment. A month without that day lets the date run over into the next one.

Results:
 1. `due_dates_monthly_iff`: when there is one due date in each month, the last of them the loan's.
 2. `due_dates_doubled`: a disbursement on the 31st of January has no due date in February and two in
    March.
-/

namespace BebaSacco

open Calendar

structure DisbursedLoan where
  gracePeriodMonths : Option Nat
  tenureMonths : Nat
  deriving DecidableEq, Repr

/-- `dueDate` of the loan: disbursement, grace period and tenure. -/
def DisbursedLoan.dueDate (loan : DisbursedLoan) (disbursedAt : Nat) : Nat :=
  plusMonths disbursedAt (loan.gracePeriodMonths.getD 0 + loan.tenureMonths)

/-- The due dates of the schedule that `disburse` writes. -/
def DisbursedLoan.paymentDates (loan : DisbursedLoan) (disbursedAt : Nat) : List Nat :=
  (List.range loan.tenureMonths).map fun i =>
    plusMonths disbursedAt (loan.gracePeriodMonths.getD 0 + i + 1)

/-- The dates increase, the `i`-th of them is in the month for it, and the last one is the loan's. -/
structure OnePerMonth (loan : DisbursedLoan) (disbursedAt : Nat) (dates : List Nat) : Prop where
  length : dates.length = loan.tenureMonths
  increasing : dates.Pairwise (· < ·)
  months : ∀ (i date : Nat), dates[i]? = some date →
    month date = month disbursedAt + (loan.gracePeriodMonths.getD 0 + i + 1)
  last : dates.getLast? = some (loan.dueDate disbursedAt)

/-- Every month that an instalment is meant for has the day of the disbursement. -/
def DisbursedLoan.hasDays (loan : DisbursedLoan) (disbursedAt : Nat) : Bool :=
  (List.range loan.tenureMonths).all fun i =>
    dayOf (disbursedAt / msPerDay) <
      monthLength (month disbursedAt + (loan.gracePeriodMonths.getD 0 + i + 1))

namespace DueDatesLemmas

variable {loan : DisbursedLoan} {disbursedAt i : Nat}

theorem paymentDate (hi : i < loan.tenureMonths) : (loan.paymentDates disbursedAt)[i]? =
    some (plusMonths disbursedAt (loan.gracePeriodMonths.getD 0 + i + 1)) := by
  unfold DisbursedLoan.paymentDates
  rw [List.getElem?_map, List.getElem?_range hi, Option.map_some]

theorem hasDays_iff : loan.hasDays disbursedAt = true ↔ ∀ i < loan.tenureMonths,
    dayOf (disbursedAt / msPerDay) <
      monthLength (month disbursedAt + (loan.gracePeriodMonths.getD 0 + i + 1)) := by
  simp only [DisbursedLoan.hasDays, List.all_eq_true, List.mem_range, decide_eq_true_eq]

/-- Both count the months from the disbursement. -/
theorem last_paymentDate (htenure : 1 ≤ loan.tenureMonths) :
    (loan.paymentDates disbursedAt).getLast? = some (loan.dueDate disbursedAt) := by
  obtain ⟨n, hn⟩ := Nat.exists_eq_add_of_le' htenure
  unfold DisbursedLoan.paymentDates DisbursedLoan.dueDate
  rw [hn, List.range_succ, List.map_append, List.map_singleton, List.getLast?_concat, Nat.add_assoc]

/-- A date that runs over into the next month stays before the one of that month. -/
theorem paymentDates_increasing (loan : DisbursedLoan) (disbursedAt : Nat) :
    (loan.paymentDates disbursedAt).Pairwise (· < ·) := by
  unfold DisbursedLoan.paymentDates
  rw [List.pairwise_map]
  refine List.pairwise_lt_range.imp fun hlt => ?_
  exact plusMonths_lt (by omega)

/-- Every date is some whole days after the disbursement. -/
theorem paymentDates_wholeDays {date : Nat} (h : date ∈ loan.paymentDates disbursedAt) :
    disbursedAt < date ∧ msPerDay ∣ date - disbursedAt := by
  obtain ⟨i, -, rfl⟩ := List.mem_map.mp h
  have hlater : plusMonths disbursedAt 0 <
      plusMonths disbursedAt (loan.gracePeriodMonths.getD 0 + i + 1) := plusMonths_lt (by omega)
  rw [plusMonths_zero] at hlater
  refine ⟨hlater, Nat.dvd_of_mod_eq_zero (Nat.sub_mod_eq_zero_of_mod_eq ?_)⟩
  unfold plusMonths
  rw [Nat.mul_comm, Nat.mul_add_mod, Nat.mod_mod]

end DueDatesLemmas

open DueDatesLemmas

/-- A loan has one due date in each month, the last one that of the loan itself, exactly when every
month has the day on which it was disbursed. -/
theorem due_dates_monthly_iff (loan : DisbursedLoan) (disbursedAt : Nat)
    (htenure : 1 ≤ loan.tenureMonths) :
    OnePerMonth loan disbursedAt (loan.paymentDates disbursedAt) ↔
      loan.hasDays disbursedAt = true := by
  constructor
  · intro h
    rw [hasDays_iff]
    intro i hi
    exact month_plusMonths_iff.mp (h.months i _ (paymentDate hi))
  · intro h
    refine ⟨?_, paymentDates_increasing .., fun i date hdate => ?_, last_paymentDate htenure⟩
    · unfold DisbursedLoan.paymentDates
      rw [List.length_map, List.length_range]
    · have hi : i < loan.tenureMonths := by
        have := (List.getElem?_eq_some_iff.mp hdate).1
        unfold DisbursedLoan.paymentDates at this
        rwa [List.length_map, List.length_range] at this
      rw [paymentDate hi] at hdate
      cases hdate
      exact month_plusMonths_iff.mpr (hasDays_iff.mp h i hi)

/-- The 28th of January 2026, at noon. -/
def exDisbursedAt : Nat := 20481 * msPerDay + 43200000

theorem due_dates_monthly_iff_year :
    OnePerMonth ⟨none, 12⟩ exDisbursedAt (DisbursedLoan.paymentDates ⟨none, 12⟩ exDisbursedAt) :=
  (due_dates_monthly_iff ⟨none, 12⟩ exDisbursedAt (by decide)).mpr (by decide +kernel)

/-- On the 31st of January: the 3rd and the 31st of March. -/
theorem due_dates_doubled :
    dayOf (20484 * msPerDay / msPerDay) = 30 ∧
      (DisbursedLoan.paymentDates ⟨some 0, 2⟩ (20484 * msPerDay)).map month =
        [month (20484 * msPerDay) + 2, month (20484 * msPerDay) + 2] ∧
      ¬ OnePerMonth ⟨some 0, 2⟩ (20484 * msPerDay)
        (DisbursedLoan.paymentDates ⟨some 0, 2⟩ (20484 * msPerDay)) := by
  refine ⟨by decide +kernel, by decide +kernel, fun h => ?_⟩
  have hday := month_plusMonths_iff.mp (h.months 0 _ (paymentDate (by decide)))
  exact absurd hday (by decide +kernel)

end BebaSacco
