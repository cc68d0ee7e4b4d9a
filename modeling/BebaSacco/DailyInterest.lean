import BebaSacco.DueDates
import BebaSacco.InterestCharged
import Mathlib.Algebra.Group.Nat.Defs

/-! # What the days of a period add up to

The interest of an instalment is divided by the days of its period and rounded each day, and a day
takes that of the first instalment that is open and not overdue. The days should add up to the
interest that the instalment quotes.

Results:
 1. `charge_open`, `charge_paid`: what a day takes, while the instalment is open and after it
    has been paid.
 2. `adds_up_iff`: the days add up to the interest when they divide it and the instalment that is
    charged in its place, if it is paid early, asks for as much a day; and only then while it stays
    open, or while one instalment is charged in its place.
 3. `accrual_drifts`: interest that the days do not divide, and an instalment that is paid early.
-/

namespace BebaSacco

open ProRata InterestLemmas

/-! ## 1. The days of a period -/

/-- The loan was disbursed, each instalment is due some whole days after the start of its period,
and no other instalment is due in that period. -/
structure Db.Planned (db : Db) (loanId : Nat) : Prop where
  disbursed : (db.loans[loanId]?.bind (·.disbursedAt)).isSome = true
  starts : ∀ r ∈ db.loanRepayments, r.loanId = loanId → db.periodStart loanId r < r.dueDate
  wholeDays : ∀ r ∈ db.loanRepayments, r.loanId = loanId →
    msPerDay ∣ r.dueDate - db.periodStart loanId r
  apart : ∀ r ∈ db.loanRepayments, ∀ r' ∈ db.loanRepayments, r.loanId = loanId →
    r'.loanId = loanId →
      r'.dueDate ≤ db.periodStart loanId r ∨ r.dueDate < r'.dueDate ∨ r'.quote = r.quote

/-- The days of the period of `row`. `states` are the databases of the days: the schedule is the
one of `plan`, and anything may have been paid. -/
structure AccrualPeriod where
  plan : Db
  loanId : Nat
  row : LoanRepayment
  states : Nat → Db
  firstDate : Int
  planned : plan.Planned loanId
  row_mem : row ∈ plan.loanRepayments
  row_loan : row.loanId = loanId
  same : ∀ i, plan.SamePlan loanId (states i)
  afterStart : plan.periodStart loanId row < firstDate
  firstDay : firstDate ≤ plan.periodStart loanId row + msPerDay

namespace AccrualPeriod

variable (p : AccrualPeriod)

def start : Int := p.plan.periodStart p.loanId p.row

def days : Nat := ((p.row.dueDate - p.start) / msPerDay).toNat

def date (i : Nat) : Int := p.firstDate + i * msPerDay

/-- What the accrual of a day computes. -/
def charge (i : Nat) : Nat :=
  ((p.states i).loans[p.loanId]?.map fun loan =>
    (p.states i).computeScheduleBasedDailyInterest p.loanId loan (p.date i)).getD 0

/-- No prefix of the days takes more than the interest of the instalment, and all of them take it. -/
structure AddsUp : Prop where
  prefixes : ∀ n ≤ p.days, ((List.range n).map p.charge).sum ≤ p.row.interestDue
  whole : ((List.range p.days).map p.charge).sum = p.row.interestDue

/-- The instalment is not paid on the day. -/
def isOpen (i : Nat) : Bool :=
  (p.states i).loanRepayments.any fun r => r.quote == p.row.quote && r.status != .paid

def staysOpen : Bool := (List.range p.days).all p.isOpen

/-- The interest over the days, rounded to units. -/
def share : Nat := (2 * p.row.interestDue + p.days) / (2 * p.days)

/-- The open instalment that is due next after this one. -/
def next (i : Nat) : Option LoanRepayment :=
  (((p.states i).openInstallments p.loanId).find? fun r => p.row.dueDate < r.2.dueDate).map
    fun r => r.2.quote

/-- What an instalment asks for a day, rounded to units. -/
def daily (next : Option LoanRepayment) : Nat :=
  (next.map fun r =>
    let days := (max 1 (roundDiv (r.dueDate - p.plan.periodStart p.loanId r) msPerDay)).toNat
    (2 * r.interestDue + days) / (2 * days)).getD 0

/-- The days divide the interest, and on each day on which the instalment is paid the next one asks for
as much a day. -/
def isEven : Bool :=
  p.row.interestDue % p.days == 0 &&
    (List.range p.days).all fun i => p.isOpen i || p.daily (p.next i) * p.days == p.row.interestDue

/-- The instalment stays open; or the days divide its interest, and one instalment, or none, is next on
all days on which it is paid. -/
def Plain : Prop :=
  p.staysOpen = true ∨ p.row.interestDue % p.days = 0 ∧
    ∃ next, ∀ i < p.days, p.isOpen i = false → p.next i = next

end AccrualPeriod

namespace DailyInterestLemmas

variable {p : AccrualPeriod} {i n a : Nat}

theorem share_exact (hn : 0 < n) : n * ((2 * a + n) / (2 * n)) = a ↔ a % n = 0 := by
  constructor
  · intro h
    exact Nat.mod_eq_zero_of_dvd (Dvd.intro _ h)
  · intro h
    obtain ⟨k, rfl⟩ := Nat.dvd_of_mod_eq_zero h
    have hdiv : (2 * (n * k) + n) / (2 * n) = k := by
      refine Nat.div_eq_of_lt_le ?_ ?_ <;> nlinarith
    rw [hdiv]

/-- Sums of natural numbers grow, so the last prefix decides. -/
theorem addsUp_iff_whole :
    p.AddsUp ↔ ((List.range p.days).map p.charge).sum = p.row.interestDue := by
  refine ⟨AccrualPeriod.AddsUp.whole, fun h => ⟨fun n hn => ?_, h⟩⟩
  obtain ⟨m, hm⟩ := Nat.exists_eq_add_of_le hn
  rw [hm, List.range_add, List.map_append, List.sum_append] at h
  omega

/-! ## 2. Dates inside the period -/

theorem start_lt_due : p.start < p.row.dueDate :=
  p.planned.starts p.row p.row_mem p.row_loan

theorem due_eq : p.row.dueDate = p.start + p.days * msPerDay := by
  have hstart := start_lt_due (p := p)
  obtain ⟨k, hk⟩ := p.planned.wholeDays p.row p.row_mem p.row_loan
  have hdays : (p.days : Int) = k := by
    show (((p.row.dueDate - p.start) / msPerDay).toNat : Int) = k
    have hdiff : p.row.dueDate - p.start = msPerDay * k := hk
    rw [hdiff, Int.mul_ediv_cancel_left k (by decide)]
    have hpos : 0 < msPerDay * k := by omega
    exact Int.toNat_of_nonneg (Int.le_of_lt (Int.pos_of_mul_pos_right hpos (by decide)))
  have hdiff : p.row.dueDate - p.start = msPerDay * k := hk
  rw [hdays, Int.mul_comm]
  omega

theorem days_pos : 0 < p.days := by
  have hstart := start_lt_due (p := p)
  rw [due_eq] at hstart
  refine Nat.pos_of_ne_zero fun hzero => ?_
  rw [hzero] at hstart
  omega

theorem start_lt_date : p.start < p.date i := by
  have hafter : p.start < p.firstDate := p.afterStart
  have hnonneg : 0 ≤ (i : Int) * msPerDay := Int.mul_nonneg (Int.natCast_nonneg i) (by decide)
  unfold AccrualPeriod.date
  omega

theorem date_le_due (hi : i < p.days) : p.date i ≤ p.row.dueDate := by
  have hfirst : p.firstDate ≤ p.start + msPerDay := p.firstDay
  have hmul : ((i + 1 : Nat) : Int) * msPerDay ≤ p.days * msPerDay :=
    Int.mul_le_mul_of_nonneg_right (by exact_mod_cast hi) (by decide)
  rw [Int.natCast_succ, Int.add_mul, Int.one_mul] at hmul
  rw [due_eq]
  unfold AccrualPeriod.date
  omega

/-- The daily rate is the interest over the days of the period. -/
theorem rate_eq : (p.plan.period p.loanId p.row).rate = p.share := by
  have hdays : (max 1 (roundDiv (p.row.dueDate - p.start) msPerDay)).toNat = p.days := by
    have hround : roundDiv (p.row.dueDate - p.start) msPerDay = p.days := by
      have hdiff : p.row.dueDate - p.start = p.days * msPerDay := by
        rw [due_eq]
        omega
      rw [hdiff]
      unfold roundDiv msPerDay
      omega
    have hpos := days_pos (p := p)
    rw [hround]
    omega
  show (2 * p.row.interestDue + (max 1 (roundDiv (p.row.dueDate - p.start) msPerDay)).toNat) /
    (2 * (max 1 (roundDiv (p.row.dueDate - p.start) msPerDay)).toNat) = p.share
  rw [hdays]
  rfl

/-! ## 3. What a day takes -/

theorem loan_found (i : Nat) : ∃ loan, (p.states i).loans[p.loanId]? = some loan := by
  have hsome := p.planned.disbursed
  rw [← (p.same i).disbursed] at hsome
  cases hloan : (p.states i).loans[p.loanId]? with
  | none => rw [hloan] at hsome; cases hsome
  | some loan => exact ⟨loan, rfl⟩

theorem charge_eq (i : Nat) : p.charge i =
    (((p.states i).currentInstallment p.loanId (p.date i)).map fun r =>
      (p.plan.period p.loanId r).rate).getD 0 := by
  obtain ⟨loan, hloan⟩ := loan_found (p := p) i
  unfold AccrualPeriod.charge
  rw [hloan, Option.map_some, Option.getD_some, dailyInterest_eq hloan]
  simp only [period_plan (p.same i)]

theorem quote_columns {r r' : LoanRepayment} (h : r.quote = r'.quote) :
    r.dueDate = r'.dueDate ∧ r.loanId = r'.loanId := by
  have hdue : r.quote.dueDate = r'.quote.dueDate := congrArg LoanRepayment.dueDate h
  have hloan : r.quote.loanId = r'.quote.loanId := congrArg LoanRepayment.loanId h
  exact ⟨hdue, hloan⟩

/-- A row of the loan is due before the period, after it, or is the instalment. -/
theorem row_apart {r : LoanRepayment} (hr : r ∈ (p.states i).loanRepayments)
    (hloan : r.loanId = p.loanId) :
    r.dueDate ≤ p.start ∨ p.row.dueDate < r.dueDate ∨ r.quote = p.row.quote := by
  have hmem : r.quote ∈ (p.states i).loanRepayments.map LoanRepayment.quote :=
    List.mem_map_of_mem hr
  rw [(p.same i).quotes] at hmem
  obtain ⟨q, hq, heq⟩ := List.mem_map.mp hmem
  obtain ⟨hdue, hid⟩ := quote_columns heq
  rw [← heq, ← hdue]
  exact p.planned.apart p.row p.row_mem q hq p.row_loan (hid.trans hloan)

theorem mem_openInstallments {db : Db} {loanId : Nat} {r : Nat × LoanRepayment}
    (h : r ∈ db.openInstallments loanId) :
    r.2 ∈ db.loanRepayments ∧ r.2.loanId = loanId ∧ r.2.status ≠ .paid := by
  rw [Db.openInstallments, List.mem_insertionSort] at h
  obtain ⟨hrow, hp⟩ := Table.mem_selectRows.mp h
  rw [Bool.and_eq_true, beq_iff_eq, bne_iff_ne] at hp
  exact ⟨List.mem_of_getElem? hrow, hp⟩

theorem openInstallments_sorted (db : Db) (loanId : Nat) :
    (db.openInstallments loanId).Pairwise fun a b => a.2.dueDate ≤ b.2.dueDate := by
  have : Std.Total fun a b : Nat × LoanRepayment => a.2.dueDate ≤ b.2.dueDate :=
    ⟨fun a b => Int.le_total a.2.dueDate b.2.dueDate⟩
  have : IsTrans (Nat × LoanRepayment) fun a b => a.2.dueDate ≤ b.2.dueDate :=
    ⟨fun _ _ _ => Int.le_trans⟩
  exact List.pairwise_insertionSort _ _

theorem charge_open (hi : i < p.days) (h : p.isOpen i = true) : p.charge i = p.share := by
  obtain ⟨r, hr, hopen⟩ := List.any_eq_true.mp h
  rw [Bool.and_eq_true, beq_iff_eq, bne_iff_ne] at hopen
  obtain ⟨hquote, hstatus⟩ := hopen
  obtain ⟨hdue, hid⟩ := quote_columns hquote
  have hloan : r.loanId = p.loanId := hid.trans p.row_loan
  obtain ⟨j, hj⟩ := List.mem_iff_getElem?.mp hr
  have hmem : (j, r) ∈ (p.states i).openInstallments p.loanId := by
    rw [Db.openInstallments, List.mem_insertionSort, Table.mem_selectRows]
    exact ⟨hj, by rw [hloan, beq_self_eq_true, bne_iff_ne.mpr hstatus]; rfl⟩
  have hcurrent : ∃ c, (p.states i).currentInstallment p.loanId (p.date i) = some c ∧
      c.quote = p.row.quote := by
    have hdate : decide (p.date i ≤ r.dueDate) = true := by
      rw [hdue, decide_eq_true_iff]
      exact date_le_due hi
    obtain ⟨c, hc⟩ := Option.isSome_iff_exists.mp
      (List.find?_isSome (p := fun r => decide (p.date i ≤ r.2.dueDate)) |>.mpr ⟨(j, r), hmem, hdate⟩)
    refine ⟨c.2, congrArg (Option.map _) hc, ?_⟩
    obtain ⟨hafter, before, after, hsplit, hnone⟩ := List.find?_eq_some_iff_append.mp hc
    -- the open rows are sorted, so the one found is not due later than `r`
    have hle : c.2.dueDate ≤ r.dueDate := by
      have hsorted := openInstallments_sorted (p.states i) p.loanId
      rw [hsplit] at hmem hsorted
      rcases List.mem_append.mp hmem with hbefore | hafter'
      · have hmiss := hnone _ hbefore
        rw [hdate] at hmiss
        cases hmiss
      · rcases List.mem_cons.mp hafter' with heq | hlater
        · rw [← heq]
        · exact (List.pairwise_cons.mp (List.pairwise_append.mp hsorted).2.1).1 _ hlater
    obtain ⟨hrow, hloan', -⟩ := mem_openInstallments (List.mem_of_find?_eq_some hc)
    have hstart := start_lt_date (p := p) (i := i)
    have hdate' := of_decide_eq_true hafter
    rcases row_apart hrow hloan' with hearlier | hlater | hquote'
    · omega
    · omega
    · exact hquote'
  obtain ⟨c, hc, hquote'⟩ := hcurrent
  rw [charge_eq, hc, Option.map_some, Option.getD_some, ← period_quote, hquote', period_quote,
    rate_eq]

/-- After it has been paid, the day takes what the next open one asks for. -/
theorem charge_paid (hi : i < p.days) (h : p.isOpen i = false) :
    p.charge i = p.daily (p.next i) := by
  have hfind : ((p.states i).openInstallments p.loanId).find? (fun r => p.date i ≤ r.2.dueDate) =
      ((p.states i).openInstallments p.loanId).find? fun r => p.row.dueDate < r.2.dueDate := by
    rw [← List.head?_filter, ← List.head?_filter]
    refine congrArg List.head? (List.filter_congr fun r hr => ?_)
    obtain ⟨hrow, hloan, hstatus⟩ := mem_openInstallments hr
    rw [decide_eq_decide]
    have hafter := start_lt_date (p := p) (i := i)
    have hbefore := date_le_due hi
    rcases row_apart hrow hloan with hearlier | hlater | hquote
    · omega
    · omega
    · have hopen : p.isOpen i = true := List.any_eq_true.mpr ⟨r.2, hrow, by
        rw [hquote, beq_self_eq_true, bne_iff_ne.mpr hstatus]
        rfl⟩
      cases h.symm.trans hopen
  rw [charge_eq]
  unfold Db.currentInstallment AccrualPeriod.daily AccrualPeriod.next
  rw [hfind, Option.map_map, Option.map_map]
  rfl

/-! ## 4. The whole period -/

theorem charge_even (h : p.isEven = true) (hi : i < p.days) :
    p.charge i = p.share ∧ p.days * p.share = p.row.interestDue := by
  unfold AccrualPeriod.isEven at h
  rw [Bool.and_eq_true, beq_iff_eq, List.all_eq_true] at h
  have hwhole := (share_exact days_pos).mpr h.1
  refine ⟨?_, hwhole⟩
  cases hopen : p.isOpen i with
  | true => exact charge_open hi hopen
  | false =>
    have hday := h.2 i (List.mem_range.mpr hi)
    rw [hopen, Bool.false_or, beq_iff_eq, ← hwhole, Nat.mul_comm] at hday
    rw [charge_paid hi hopen]
    exact Nat.eq_of_mul_eq_mul_left days_pos hday

theorem addsUp_of_charges (hwhole : p.days * p.share = p.row.interestDue)
    (h : ∀ i < p.days, p.charge i = p.share) : p.AddsUp := by
  have hcharges : (List.range p.days).map p.charge = List.replicate p.days p.share := by
    refine List.eq_replicate_iff.mpr ⟨by rw [List.length_map, List.length_range], ?_⟩
    intro charge hcharge
    obtain ⟨i, hi, rfl⟩ := List.mem_map.mp hcharge
    exact h i (List.mem_range.mp hi)
  rw [addsUp_iff_whole, hcharges, List.sum_replicate_nat, hwhole]

/-- If some values are `a` and all others are `b`, and they add up as if all were `b`, then `a` is
`b`. -/
theorem same_of_sum {f : Nat → Nat} {a b : Nat} (hf : ∀ i < n, f i = a ∨ f i = b)
    (hsome : ∃ i < n, f i = a) (hsum : ((List.range n).map f).sum = n * b) : a = b := by
  have hconst : ((List.range n).map fun _ => b).sum = n * b := by
    rw [List.map_const', List.sum_replicate_nat, List.length_range]
  obtain ⟨i, hi, hfi⟩ := hsome
  rcases Nat.lt_trichotomy a b with hlt | heq | hgt
  · have hless := List.sum_lt_sum (l := List.range n) f (fun _ => b)
      (fun j hj => (hf j (List.mem_range.mp hj)).elim (fun h => h ▸ Nat.le_of_lt hlt) Nat.le_of_eq)
      ⟨i, List.mem_range.mpr hi, hfi ▸ hlt⟩
    omega
  · exact heq
  · have hmore := List.sum_lt_sum (l := List.range n) (fun _ => b) f
      (fun j hj => (hf j (List.mem_range.mp hj)).elim (fun h => h ▸ Nat.le_of_lt hgt)
        fun h => Nat.le_of_eq h.symm)
      ⟨i, List.mem_range.mpr hi, hfi ▸ hgt⟩
    omega

theorem even_of_open (hopen : p.staysOpen = true) (h : p.AddsUp) : p.isEven = true := by
  have hall := List.all_eq_true.mp hopen
  have hsum := h.whole
  have hcharges : (List.range p.days).map p.charge = (List.range p.days).map fun _ => p.share :=
    List.map_congr_left fun i hi => charge_open (List.mem_range.mp hi) (hall i hi)
  rw [hcharges, List.map_const', List.sum_replicate_nat, List.length_range] at hsum
  unfold AccrualPeriod.isEven
  rw [Bool.and_eq_true, beq_iff_eq, List.all_eq_true]
  exact ⟨(share_exact days_pos).mp hsum, fun i hi => Bool.or_eq_true_iff.mpr (.inl (hall i hi))⟩

theorem even_of_next {next : Option LoanRepayment} (hmod : p.row.interestDue % p.days = 0)
    (hnext : ∀ i < p.days, p.isOpen i = false → p.next i = next) (h : p.AddsUp) :
    p.isEven = true := by
  have hwhole := (share_exact days_pos).mpr hmod
  have hcharge : ∀ i < p.days, p.charge i = p.daily next ∨ p.charge i = p.share := by
    intro i hi
    cases hopen : p.isOpen i with
    | true => exact .inr (charge_open hi hopen)
    | false => exact .inl (hnext i hi hopen ▸ charge_paid hi hopen)
  unfold AccrualPeriod.isEven
  rw [Bool.and_eq_true, beq_iff_eq, List.all_eq_true]
  refine ⟨hmod, fun i hi => ?_⟩
  cases hopen : p.isOpen i with
  | true => rfl
  | false =>
    have hi := List.mem_range.mp hi
    have hpaid : p.charge i = p.daily next := hnext i hi hopen ▸ charge_paid hi hopen
    have hsame := same_of_sum hcharge ⟨i, hi, hpaid⟩ (h.whole.trans hwhole.symm)
    rw [Bool.false_or, beq_iff_eq, hnext i hi hopen, hsame, Nat.mul_comm]
    exact hwhole

end DailyInterestLemmas

open DailyInterestLemmas

/-- The days add up to the interest when they are even. While the instalment stays open, or one
instalment is charged in its place and the days divide the interest, they do so only then. -/
theorem adds_up_iff (p : AccrualPeriod) :
    (p.isEven = true → p.AddsUp) ∧ (p.Plain → (p.AddsUp ↔ p.isEven = true)) := by
  have heven : p.isEven = true → p.AddsUp := fun h =>
    addsUp_of_charges (charge_even h days_pos).2 fun i hi => (charge_even h hi).1
  refine ⟨heven, fun hplain => ⟨fun h => ?_, heven⟩⟩
  rcases hplain with hopen | ⟨hmod, next, hnext⟩
  · exact even_of_open hopen h
  · exact even_of_next hmod hnext h

/-! ## 5. Schedules of a disbursement -/

/-- The instalments of the loan are the rows of the schedule, in their order. -/
structure Db.Schedules (db : Db) (loanId : Nat) (disbursedAt : Int)
    (schedule : List ScheduledInstalment) : Prop where
  disbursed : (db.loans[loanId]?.bind (·.disbursedAt)) = some disbursedAt
  rows : ∀ row, (∃ r ∈ db.loanRepayments, r.loanId = loanId ∧ r.quote = row) ↔
    ∃ (i : Nat) (item : ScheduledInstalment), schedule[i]? = some item ∧
      row = (item.row loanId (i + 1)).quote
  increasing : (disbursedAt :: schedule.map (·.dueDate)).Pairwise (· < ·)
  wholeDays : ∀ item ∈ schedule, msPerDay ∣ item.dueDate - disbursedAt

namespace DailyInterestLemmas

variable {db : Db} {loanId : Nat} {disbursedAt : Int} {schedule : List ScheduledInstalment}
  {item item' : ScheduledInstalment} {i j : Nat}

theorem item_of_row (h : db.Schedules loanId disbursedAt schedule) {r : LoanRepayment}
    (hr : r ∈ db.loanRepayments) (hloan : r.loanId = loanId) :
    ∃ (i : Nat) (item : ScheduledInstalment), schedule[i]? = some item ∧
      r.quote = (item.row loanId (i + 1)).quote :=
  (h.rows r.quote).mp ⟨r, hr, hloan, rfl⟩

theorem due_increasing (h : db.Schedules loanId disbursedAt schedule)
    (hi : schedule[i]? = some item) (hj : schedule[j]? = some item') (hlt : i < j) :
    item.dueDate < item'.dueDate := by
  have hdates := (List.pairwise_cons.mp h.increasing).2
  rw [List.pairwise_map] at hdates
  obtain ⟨hi', rfl⟩ := List.getElem?_eq_some_iff.mp hi
  obtain ⟨hj', rfl⟩ := List.getElem?_eq_some_iff.mp hj
  exact List.pairwise_iff_getElem.mp hdates i j hi' hj' hlt

theorem row_columns {r : LoanRepayment} (h : r.quote = (item.row loanId (i + 1)).quote) :
    r.dayNumber = i + 1 ∧ r.dueDate = item.dueDate := by
  have hday : r.quote.dayNumber = (item.row loanId (i + 1)).quote.dayNumber :=
    congrArg LoanRepayment.dayNumber h
  have hdue : r.quote.dueDate = (item.row loanId (i + 1)).quote.dueDate :=
    congrArg LoanRepayment.dueDate h
  exact ⟨hday, hdue⟩

theorem periodStart_first (h : db.Schedules loanId disbursedAt schedule) {r : LoanRepayment}
    (hr : r.quote = (item.row loanId 1).quote) : db.periodStart loanId r = disbursedAt := by
  have hday := (row_columns (i := 0) hr).1
  unfold Db.periodStart
  dsimp only
  rw [h.disbursed, hday]
  rfl

theorem periodStart_next (h : db.Schedules loanId disbursedAt schedule) {r : LoanRepayment}
    (hprevious : schedule[i]? = some item') (hr : r.quote = (item.row loanId (i + 1 + 1)).quote) :
    db.periodStart loanId r = item'.dueDate := by
  have hday := (row_columns (i := i + 1) hr).1
  unfold Db.periodStart
  dsimp only
  rw [hday, if_pos (by omega)]
  cases hfind : Table.findRow (fun r => r.loanId == loanId && r.dayNumber + 1 == i + 1 + 1)
      db.loanRepayments with
  | none =>
    obtain ⟨r', hr', hloan', hquote'⟩ := (h.rows _).mpr ⟨i, item', hprevious, rfl⟩
    have hmiss := Table.findRow_none.mp hfind r' hr'
    rw [hloan', (row_columns hquote').1, beq_self_eq_true, beq_self_eq_true] at hmiss
    cases hmiss
  | some row =>
    obtain ⟨hmem, hp⟩ := Table.findRow_some hfind
    rw [Bool.and_eq_true, beq_iff_eq, beq_iff_eq] at hp
    obtain ⟨k, found, hk, hquote⟩ := item_of_row h (List.mem_of_getElem? hmem) hp.1
    obtain ⟨hnumber, hdue⟩ := row_columns hquote
    have hsame : k = i := by omega
    rw [hsame, hprevious] at hk
    cases hk
    rw [Option.map_some, hdue]
    rfl

theorem periodStart_item (h : db.Schedules loanId disbursedAt schedule) {r : LoanRepayment}
    (hi : schedule[i]? = some item) (hr : r.quote = (item.row loanId (i + 1)).quote) :
    db.periodStart loanId r < item.dueDate ∧ msPerDay ∣ db.periodStart loanId r - disbursedAt ∧
      ∀ (j : Nat) (earlier : ScheduledInstalment), schedule[j]? = some earlier → j < i →
        earlier.dueDate ≤ db.periodStart loanId r := by
  cases i with
  | zero =>
    rw [periodStart_first h hr]
    refine ⟨?_, ⟨0, by omega⟩, fun j _ _ hlt => absurd hlt (Nat.not_lt_zero j)⟩
    exact (List.pairwise_cons.mp h.increasing).1 _
      (List.mem_map_of_mem (List.mem_of_getElem? hi))
  | succ i =>
    obtain ⟨previous, hprevious⟩ : ∃ previous, schedule[i]? = some previous :=
      ⟨_, List.getElem?_eq_getElem (Nat.lt_of_succ_lt (List.getElem?_eq_some_iff.mp hi).1)⟩
    rw [periodStart_next h hprevious hr]
    refine ⟨due_increasing h hprevious hi (Nat.lt_succ_self i),
      h.wholeDays _ (List.mem_of_getElem? hprevious), fun j earlier hj hlt => ?_⟩
    rcases Nat.eq_or_lt_of_le (Nat.le_of_lt_succ hlt) with rfl | hbefore
    · cases hprevious.symm.trans hj
      exact Int.le_refl _
    · exact Int.le_of_lt (due_increasing h hj hprevious hbefore)

end DailyInterestLemmas

/-- The schedule that a disbursement writes keeps its periods apart. -/
theorem planned_of_schedule {db : Db} {loanId : Nat} {disbursedAt : Int}
    {schedule : List ScheduledInstalment} (h : db.Schedules loanId disbursedAt schedule) :
    db.Planned loanId := by
  refine ⟨?_, fun r hr hloan => ?_, fun r hr hloan => ?_, fun r hr r' hr' hloan hloan' => ?_⟩
  · rw [h.disbursed]
    rfl
  · obtain ⟨i, item, hi, hquote⟩ := item_of_row h hr hloan
    rw [(row_columns hquote).2]
    exact (periodStart_item h hi hquote).1
  · obtain ⟨i, item, hi, hquote⟩ := item_of_row h hr hloan
    rw [(row_columns hquote).2]
    have hstart := (periodStart_item h hi hquote).2.1
    have hdue := h.wholeDays item (List.mem_of_getElem? hi)
    have hdiff := Int.dvd_sub hdue hstart
    rwa [show item.dueDate - disbursedAt - (db.periodStart loanId r - disbursedAt) =
      item.dueDate - db.periodStart loanId r by omega] at hdiff
  · obtain ⟨i, item, hi, hquote⟩ := item_of_row h hr hloan
    obtain ⟨j, item', hj, hquote'⟩ := item_of_row h hr' hloan'
    rw [(row_columns hquote).2, (row_columns hquote').2]
    rcases Nat.lt_trichotomy i j with hlater | rfl | hearlier
    · exact .inr (.inl (due_increasing h hi hj hlater))
    · cases hi.symm.trans hj
      exact .inr (.inr (hquote'.trans hquote.symm))
    · exact .inl ((periodStart_item h hi hquote).2.2 j item' hj hearlier)

/-- Two instalments, due after 30 and after 60 days. -/
def exTwoMonths (interest next : Nat) : List ScheduledInstalment :=
  [{ dueDate := 30 * msPerDay, principalDue := 1000000, interestDue := interest },
    { dueDate := 60 * msPerDay, principalDue := 1000000, interestDue := next }]

/-- The loan of a tenant with this schedule; the first instalment has the given status. -/
def exTwoMonthsDb (interest next : Nat) (status : InstallmentStatus) : Db :=
  { exSacco with
    loanRepayments :=
      [{ ({ dueDate := 30 * msPerDay, principalDue := 1000000, interestDue := interest } :
            ScheduledInstalment).row 0 1 with status := status },
        ({ dueDate := 60 * msPerDay, principalDue := 1000000, interestDue := next } :
          ScheduledInstalment).row 0 2] }

theorem exTwoMonths_schedules (interest next : Nat) :
    (exTwoMonthsDb interest next .pending).Schedules 0 0 (exTwoMonths interest next) := by
  refine ⟨rfl, fun row => ⟨?_, ?_⟩, by simp [exTwoMonths, msPerDay], ?_⟩
  · rintro ⟨r, hr, -, rfl⟩
    rcases List.mem_cons.mp hr with rfl | hsecond
    · exact ⟨0, _, rfl, rfl⟩
    · rw [List.mem_singleton.mp hsecond]
      exact ⟨1, _, rfl, rfl⟩
  · rintro ⟨i, item, hi, rfl⟩
    cases i with
    | zero =>
      cases hi
      exact ⟨_, List.mem_cons_self .., rfl, rfl⟩
    | succ i =>
      cases i with
      | zero =>
        cases hi
        exact ⟨_, List.mem_cons_of_mem _ (List.mem_singleton_self _), rfl, rfl⟩
      | succ i => cases hi
  · intro item hitem
    rcases List.mem_cons.mp hitem with rfl | hsecond
    · exact ⟨30, rfl⟩
    · rw [List.mem_singleton.mp hsecond]
      exact ⟨60, rfl⟩

/-- The first 30 days; the instalment is paid after `unpaid` of them. -/
def exThirtyDays (interest next unpaid : Nat) : AccrualPeriod where
  plan := exTwoMonthsDb interest next .pending
  loanId := 0
  row := ({ dueDate := 30 * msPerDay, principalDue := 1000000, interestDue := interest } :
    ScheduledInstalment).row 0 1
  states i := exTwoMonthsDb interest next (if i < unpaid then .pending else .paid)
  firstDate := msPerDay
  planned := planned_of_schedule (exTwoMonths_schedules interest next)
  row_mem := List.mem_cons_self ..
  row_loan := rfl
  same _ := ⟨rfl, rfl⟩
  afterStart := show (0 : Int) < msPerDay by decide
  firstDay := show msPerDay ≤ 0 + msPerDay by decide

/-- KES 90 that are paid after 10 days, with KES 90 for the next month. -/
theorem adds_up_even : (exThirtyDays 900000 900000 10).AddsUp ∧
    (∀ i < 30, (exThirtyDays 900000 900000 10).charge i = 30000) :=
  ⟨(adds_up_iff _).1 (by decide +kernel), by decide +kernel⟩

/-- KES 100 over 30 days leave 0.001, KES 200 take 0.001 too much, and KES 90 that are paid after 10
days are followed by the KES 60 of the next month. -/
theorem accrual_drifts :
    (((List.range 30).map (exThirtyDays 1000000 0 30).charge).sum = 999990 ∧
        ¬ (exThirtyDays 1000000 0 30).AddsUp) ∧
      (((List.range 30).map (exThirtyDays 2000000 0 30).charge).sum = 2000010 ∧
        ¬ (exThirtyDays 2000000 0 30).AddsUp) ∧
      ((List.range 30).map (exThirtyDays 900000 600000 10).charge).sum = 700000 ∧
        ¬ (exThirtyDays 900000 600000 10).AddsUp := by
  refine ⟨⟨by decide +kernel, fun h => ?_⟩, ⟨by decide +kernel, fun h => ?_⟩, by decide +kernel,
    fun h => ?_⟩
  · exact absurd h.whole (by decide +kernel)
  · exact absurd h.whole (by decide +kernel)
  · exact absurd h.whole (by decide +kernel)

end BebaSacco
