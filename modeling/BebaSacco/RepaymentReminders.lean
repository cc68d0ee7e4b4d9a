import BebaSacco.Accrual
import BebaSacco.DueDates

/-! # The days of reminders

Every morning a job for each tenant looks for the instalments that are due in some days or were due
some days ago, and tells the members. It counts days from the midnight in Nairobi of its run date,
and ends a day where the clock of its host does.

Result: `reminder_days`: of the instalments of a loan each is found on all its seven days, or none
is on any, by the time of day at which the loan was disbursed. On a host in UTC it has to be one of
the first three hours of the day in Nairobi.
-/

namespace BebaSacco

/-! ## 1. The queries of a run -/

/-- Milliseconds that the clocks in Nairobi are ahead. -/
def eatOffset : Int := 3 * 60 * 60 * 1000

def DUE_OFFSETS : List Int := [7, 3, 1, 0, -1, -3, -7]

/-- `new Date(runDateIso + 'T00:00:00.000+03:00')`, for the `day`-th day since 1970. -/
def runDateOf (day : Int) : Int := day * Calendar.msPerDay - eatOffset

/-- On a host without summer time. -/
def addDays (date days : Int) : Int := date + days * Calendar.msPerDay

/-- `setHours(0, 0, 0, 0)` on a host whose clock is `host` ahead. -/
def startOfDay (host t : Int) : Int := t - (t + host) % Calendar.msPerDay

/-- `setHours(23, 59, 59, 999)` -/
def endOfDay (host t : Int) : Int := startOfDay host t + Calendar.msPerDay - 1

/-- The times that are `offsetDays` after the run date. -/
def inWindow (host runDate offsetDays t : Int) : Bool :=
  addDays runDate offsetDays ≤ t && t ≤ endOfDay host (addDays runDate offsetDays)

/-- What the query of an offset asks of an instalment. -/
structure ReminderRow where
  loanStatus : LoanStatus
  status : InstallmentStatus
  dueDate : Int
  deriving DecidableEq, Repr

def ReminderRow.isDue (host runDate offsetDays : Int) (row : ReminderRow) : Bool :=
  (row.status = .pending || row.status = .partlyPaid) &&
    inWindow host runDate offsetDays row.dueDate &&
    (row.loanStatus = .active || row.loanStatus = .disbursed || row.loanStatus = .defaulted)

/-- The offsets whose queries find an instalment. -/
def ReminderRow.foundFor (host runDate : Int) (row : ReminderRow) : List Int :=
  DUE_OFFSETS.filter fun offsetDays => row.isDue host runDate offsetDays

/-! ## 2. The days of a loan -/

/-- The day in Nairobi. -/
def eatDay (t : Int) : Int := (t + eatOffset) / Calendar.msPerDay

def eatTimeOfDay (t : Int) : Int := (t + eatOffset) % Calendar.msPerDay

/-- From the midnight in Nairobi to the next midnight of the host. -/
def windowLength (host : Int) : Int :=
  Calendar.msPerDay - (host - eatOffset) % Calendar.msPerDay

/-- The months are counted on the clock of the host, which is at `clock` at the disbursement. -/
def DisbursedLoan.paymentDatesAt (loan : DisbursedLoan) (host : Int) (clock : Nat) : List Int :=
  (loan.paymentDates clock).map fun p : Nat => (p : Int) - host

/-- What does not depend on the day. -/
def ReminderRow.remindable (row : ReminderRow) : Bool :=
  (row.status = .pending || row.status = .partlyPaid) &&
    (row.loanStatus = .active || row.loanStatus = .disbursed || row.loanStatus = .defaulted)

namespace RepaymentReminderLemmas

variable {loan : DisbursedLoan} {host : Int} {clock : Nat}

theorem addDays_runDateOf (day k : Int) : addDays (runDateOf day) k = runDateOf (day + k) := by
  unfold addDays runDateOf
  rw [Int.add_mul]
  omega

theorem endOfDay_runDateOf (host day : Int) :
    endOfDay host (runDateOf day) = runDateOf day + windowLength host - 1 := by
  have hmod : (runDateOf day + host) % Calendar.msPerDay =
      (host - eatOffset) % Calendar.msPerDay := by
    have hsum : runDateOf day + host = (host - eatOffset) + day * Calendar.msPerDay := by
      unfold runDateOf
      omega
    rw [hsum, Int.add_mul_emod_self_right]
  unfold endOfDay startOfDay windowLength
  rw [hmod]
  omega

theorem windowLength_le (host : Int) : windowLength host ≤ Calendar.msPerDay := by
  have := Int.emod_nonneg (host - eatOffset) (b := Calendar.msPerDay) (by decide)
  unfold windowLength
  omega

theorem eatDay_mul_add (t : Int) :
    eatDay t * Calendar.msPerDay + eatTimeOfDay t = t + eatOffset :=
  Int.mul_comm _ _ ▸ Int.mul_ediv_add_emod (t + eatOffset) Calendar.msPerDay

/-- A time of the window is of the day for which it is asked. -/
theorem inWindow_iff (host day k t : Int) : inWindow host (runDateOf day) k t = true ↔
    day + k = eatDay t ∧ eatTimeOfDay t < windowLength host := by
  have ht := eatDay_mul_add t
  have hle := windowLength_le host
  have hnonneg : 0 ≤ eatTimeOfDay t := Int.emod_nonneg _ (by decide)
  have hlt : eatTimeOfDay t < Calendar.msPerDay := Int.emod_lt_of_pos _ (by decide)
  unfold inWindow
  rw [addDays_runDateOf, endOfDay_runDateOf, Bool.and_eq_true, decide_eq_true_eq,
    decide_eq_true_eq]
  unfold runDateOf
  have hD : (Calendar.msPerDay : Int) = 86400000 := rfl
  rw [hD] at ht hle hlt ⊢
  omega

theorem eatTimeOfDay_paymentDate {p : Int} (h : p ∈ loan.paymentDatesAt host clock) :
    eatTimeOfDay p = eatTimeOfDay (clock - host) := by
  obtain ⟨date, hdate, rfl⟩ := List.mem_map.mp h
  obtain ⟨hlater, days, hdays⟩ := DueDatesLemmas.paymentDates_wholeDays hdate
  have hdays' : (date : Int) - host = clock - host + Calendar.msPerDay * days := by
    rw [← Nat.cast_mul, ← hdays]
    omega
  unfold eatTimeOfDay
  rw [hdays', Int.add_right_comm, Int.add_mul_emod_self_left]

theorem isDue_iff {row : ReminderRow} (h : row.dueDate ∈ loan.paymentDatesAt host clock)
    (day k : Int) :
    row.isDue host (runDateOf day) k = true ↔
      row.remindable = true ∧ day + k = eatDay row.dueDate ∧
        eatTimeOfDay (clock - host) < windowLength host := by
  have hwindow := inWindow_iff host day k row.dueDate
  rw [eatTimeOfDay_paymentDate h] at hwindow
  unfold ReminderRow.isDue ReminderRow.remindable
  rw [Bool.and_eq_true, Bool.and_eq_true, hwindow, Bool.and_eq_true]
  exact ⟨fun ⟨⟨ha, hb⟩, hc⟩ => ⟨⟨ha, hc⟩, hb⟩, fun ⟨⟨ha, hc⟩, hb⟩ => ⟨⟨ha, hb⟩, hc⟩⟩

end RepaymentReminderLemmas

open RepaymentReminderLemmas

/-- Only the part of a day counts that the midnights of the host and of Nairobi bound, and every
instalment of a loan has the time of day of its disbursement. -/
theorem reminder_days {loan : DisbursedLoan} {host : Int} {clock : Nat} {row : ReminderRow}
    (h : row.dueDate ∈ loan.paymentDatesAt host clock) (day : Int) :
    (∀ k, row.isDue host (runDateOf day) k = true ↔
      row.remindable = true ∧ day + k = eatDay row.dueDate ∧
        eatTimeOfDay (clock - host) < windowLength host) ∧
      row.foundFor host (runDateOf day) =
        if row.remindable = true ∧ eatTimeOfDay (clock - host) < windowLength host then
          DUE_OFFSETS.filter fun k => day + k = eatDay row.dueDate
        else [] := by
  refine ⟨isDue_iff h day, ?_⟩
  unfold ReminderRow.foundFor
  split
  · next hfound =>
    refine List.filter_congr fun k _ => Bool.eq_iff_iff.mpr ?_
    rw [isDue_iff h day k, decide_eq_true_eq]
    exact ⟨fun hdue => hdue.2.1, fun hday => ⟨hfound.1, hday, hfound.2⟩⟩
  · next hlost =>
    refine List.filter_eq_nil_iff.mpr fun k _ hdue => hlost ?_
    obtain ⟨hremindable, -, hearly⟩ := (isDue_iff h day k).mp hdue
    exact ⟨hremindable, hearly⟩

/-- The first instalment of a loan that was disbursed on the 28th of January 2026, at noon. -/
def exNoonRow : ReminderRow :=
  ⟨.active, .pending, Calendar.plusMonths exDisbursedAt 1⟩

/-- A host in Nairobi finds it on its day, and one that is five hours behind UTC does not. -/
theorem reminder_days_noon :
    exNoonRow.isDue 10800000 (runDateOf 20512) 0 = true ∧
      ¬ exNoonRow.isDue (-18000000) (runDateOf 20512) 0 = true := by
  have heat : exNoonRow.dueDate ∈
      DisbursedLoan.paymentDatesAt ⟨none, 12⟩ 10800000 (exDisbursedAt + 10800000) := by
    decide +kernel
  have hbehind : exNoonRow.dueDate ∈
      DisbursedLoan.paymentDatesAt ⟨none, 12⟩ (-18000000) (exDisbursedAt - 18000000) := by
    decide +kernel
  exact ⟨((reminder_days heat 20512).1 0).mpr (by decide +kernel),
    fun hdue => absurd (((reminder_days hbehind 20512).1 0).mp hdue).2.2 (by decide +kernel)⟩

end BebaSacco
