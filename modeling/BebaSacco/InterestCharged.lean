import BebaSacco.Accruals
import BebaSacco.CommittedFunds
import BebaSacco.Lib.ProRata

/-! # How often interest is charged

The daily accrual takes a day's interest out of the FOSA balance and also adds it to the accrued
interest of the loan, which the waterfall of a repayment collects again. The interest of the
schedule is charged once only when no repayment reaches the accrued interest, and when each
accrual falls into the period of the instalment whose interest it takes.

Results:
 1. `interest_charged_once`: in such a run the member pays at most the interest of the schedule.
 2. `interest_charged_twice`: otherwise the accrued interest is collected after it was debited.
-/

namespace BebaSacco

open Txn ProRata FootprintLemmas InstallmentLemmas AccrualLemmas

/-! ## 1. The periods of a schedule -/

/-- The period of an instalment starts when the one before it is due, and that of the first one
at the disbursement. -/
def Db.periodStart (db : Db) (loanId : Nat) (row : LoanRepayment) : Int :=
  let previous := Table.findRow
    (fun r => r.loanId == loanId && r.dayNumber + 1 == row.dayNumber) db.loanRepayments
  ((if 1 < row.dayNumber then previous.map (·.2.dueDate) else none).or
    (db.loans[loanId]?.bind (·.disbursedAt))).getD row.dueDate

/-- The interest of an instalment is quoted for its period and charged by the day. -/
def Db.period (db : Db) (loanId : Nat) (row : LoanRepayment) : Period :=
  let start := db.periodStart loanId row
  let days := (max 1 (roundDiv (row.dueDate - start) msPerDay)).toNat
  { start
    due := row.dueDate
    quote := row.interestDue
    rate := (2 * row.interestDue + days) / (2 * days) }

/-- The instalment that interest accrues on: the first open one that is not overdue. -/
def Db.currentInstallment (db : Db) (loanId : Nat) (accrualDate : Int) : Option LoanRepayment :=
  ((db.openInstallments loanId).find? fun r => accrualDate ≤ r.2.dueDate).map (·.2)

def Db.lastAccrual (db : Db) (loanId : Nat) : Option Int :=
  db.loans[loanId]?.bind (·.lastAccrualDate)

/-- What the instalments of a loan may have been charged up to the time `t`. -/
def Db.entitled (db : Db) (loanId : Nat) (t : Option Int) : Int :=
  Table.sumOver
    (fun r => if r.loanId = loanId then (db.period loanId r).entitled msPerDay t else 0)
    db.loanRepayments

/-- The schedule of the loan is the same. -/
structure Db.SamePlan (loanId : Nat) (db db' : Db) : Prop where
  quotes : db'.loanRepayments.map LoanRepayment.quote = db.loanRepayments.map LoanRepayment.quote
  disbursed : (db'.loans[loanId]?.bind (·.disbursedAt)) = db.loans[loanId]?.bind (·.disbursedAt)

namespace InterestLemmas

theorem dailyInterest_eq {db : Db} {loanId : Nat} {loan : Loan} {accrualDate : Int}
    (h : db.loans[loanId]? = some loan) :
    db.computeScheduleBasedDailyInterest loanId loan accrualDate =
      ((db.currentInstallment loanId accrualDate).map fun row =>
        (db.period loanId row).rate).getD 0 := by
  unfold Db.computeScheduleBasedDailyInterest Db.currentInstallment
  cases (db.openInstallments loanId).find? fun r => accrualDate ≤ r.2.dueDate with
  | none => rfl
  | some r =>
    simp only [Option.map_some, Option.getD_some, Db.period, Db.periodStart, h, Option.bind_some]

theorem currentInstallment_some {db : Db} {loanId : Nat} {accrualDate : Int} {row : LoanRepayment}
    (h : db.currentInstallment loanId accrualDate = some row) :
    row ∈ db.loanRepayments ∧ row.loanId = loanId ∧ accrualDate ≤ row.dueDate := by
  obtain ⟨r, hr, rfl⟩ := Option.map_eq_some_iff.mp h
  have hdue := List.find?_some hr
  have hmem := List.mem_of_find?_eq_some hr
  rw [Db.openInstallments, List.mem_insertionSort] at hmem
  obtain ⟨hrow, hp⟩ := Table.mem_selectRows.mp hmem
  rw [Bool.and_eq_true, beq_iff_eq] at hp
  exact ⟨List.mem_of_getElem? hrow, hp.1, of_decide_eq_true hdue⟩

theorem period_quote (db : Db) (loanId : Nat) (row : LoanRepayment) :
    db.period loanId row.quote = db.period loanId row := rfl

theorem period_plan {loanId : Nat} {db db' : Db} (h : db.SamePlan loanId db')
    (row : LoanRepayment) : db'.period loanId row = db.period loanId row := by
  -- the first row of the period before is found among the quotes
  have hfind : ∀ rows : List LoanRepayment, (Table.findRow
      (fun r => r.loanId == loanId && r.dayNumber + 1 == row.dayNumber) rows).map (·.2.dueDate) =
      (Table.findRow (fun r => r.loanId == loanId && r.dayNumber + 1 == row.dayNumber)
        (rows.map LoanRepayment.quote)).map (·.2.dueDate) := by
    intro rows
    rw [Table.findRow_map, Option.map_map]
    rfl
  have hstart : db'.periodStart loanId row = db.periodStart loanId row := by
    unfold Db.periodStart
    dsimp only
    rw [hfind db'.loanRepayments, hfind db.loanRepayments, h.quotes, h.disbursed]
  unfold Db.period
  rw [hstart]

theorem entitled_plan {loanId : Nat} {db db' : Db} (h : db.SamePlan loanId db') (t : Option Int) :
    db'.entitled loanId t = db.entitled loanId t := by
  unfold Db.entitled
  rw [Table.sumOver_congr fun r _ => by rw [period_plan h r]]
  exact Table.sumOver_map_same LoanRepayment.quote (fun r => if r.loanId = loanId then
    (db.period loanId r).entitled msPerDay t else 0) (fun _ => rfl) h.quotes

theorem msPerDay_pos : 0 < msPerDay := by decide

theorem entitled_nonneg (db : Db) (loanId : Nat) (t : Option Int) : 0 ≤ db.entitled loanId t := by
  refine Table.sumOver_nonneg fun r _ => ?_
  split
  · exact Period.entitled_nonneg
  · exact Int.le_refl 0

theorem scheduled_plan {loanId : Nat} {db db' : Db} (h : db.SamePlan loanId db') :
    db'.scheduled loanId LoanRepayment.interestDue =
      db.scheduled loanId LoanRepayment.interestDue :=
  Table.sumOver_map_same LoanRepayment.quote
    (fun r => if r.loanId = loanId then (r.interestDue : Int) else 0) (fun _ => rfl) h.quotes

/-- The accrual of a day inside the period of the row it charges adds the rate. -/
theorem entitled_accrue {db : Db} {loanId : Nat} {row : LoanRepayment} {s : Option Int} {t : Int}
    (hrow : row ∈ db.loanRepayments) (hloan : row.loanId = loanId) (hs : ∀ a, s = some a → a < t)
    (hgrid : t % msPerDay = 0) (hstart : (db.period loanId row).start < t)
    (hdue : t ≤ (db.period loanId row).due) (hexact : (db.period loanId row).exact msPerDay = true) :
    db.entitled loanId s + (db.period loanId row).rate ≤ db.entitled loanId (some t) := by
  obtain ⟨i, hi⟩ := List.mem_iff_getElem?.mp hrow
  have hone := Period.entitled_step msPerDay_pos hs hgrid hstart hdue hexact
  refine Table.sumOver_add_le hi (fun r _ => ?_) ?_
  · split
    · exact Period.entitled_mono msPerDay_pos fun a ha => Int.le_of_lt (hs a ha)
    · exact Int.le_refl 0
  · rw [if_pos hloan, if_pos hloan]
    exact hone

/-- The whole entitlement is the interest of the schedule. -/
theorem entitled_le (db : Db) (loanId : Nat) (t : Option Int) :
    db.entitled loanId t ≤ db.scheduled loanId LoanRepayment.interestDue := by
  refine Table.sumOver_le fun r _ => ?_
  split
  · exact Period.entitled_le_quote msPerDay_pos
  · exact Int.le_refl 0

end InterestLemmas

/-! ## 2. What the member pays -/

/-- The interest debited by the daily accruals of a loan. -/
def Db.interestDebited (db : Db) (loanId : Nat) : Int :=
  Table.sumOver
    (fun t => if t.type = .interestAccrual ∧ t.loanId = some loanId then t.amount else 0)
    db.transactions

def Db.accruedInterest (db : Db) (loanId : Nat) : Int :=
  ((db.loans[loanId]?.map (·.accruedInterest)).getD 0 : Nat)

/-- The interest that one operation takes from the member for the loan: what the accrual debits,
and what the interest leg of a repayment takes off the accrued interest. -/
def Op.interestTaken (op : Op) (db : Db) (loanId : Nat) : Int :=
  match op with
  | .accrue _ _ _ => (step db op).interestDebited loanId - db.interestDebited loanId
  | .repay _ => db.accruedInterest loanId - (step db op).accruedInterest loanId
  | .processRepayment _ _ => db.accruedInterest loanId - (step db op).accruedInterest loanId
  | _ => 0

/-- The interest that the operations of a run take together. -/
def interestTaken (loanId : Nat) : Db → List Op → Int
  | _, [] => 0
  | db, op :: ops => op.interestTaken db loanId + interestTaken loanId (step db op) ops

/-! ## 3. Operations that charge interest once -/

/-- The accrual of the row falls into its period, on a whole day, at a rate that its quote
allows; the schedule that the job read is that of the loan. -/
def Db.onPlan (db seen : Db) (loanId : Nat) (accrualDate : Int) (row : LoanRepayment) : Bool :=
  db.loanRepayments.map LoanRepayment.quote == seen.loanRepayments.map LoanRepayment.quote &&
    (db.loans[loanId]?.bind (·.disbursedAt)) == (seen.loans[loanId]?.bind (·.disbursedAt)) &&
    accrualDate % msPerDay == 0 && (seen.period loanId row).start < accrualDate &&
    (seen.period loanId row).exact msPerDay

/-- The accrual writes nothing, or it is a new one and charges nothing or on the plan. -/
def Db.accrualOnPlan (db seen : Db) (loanId : Nat) (accrualDate : Int) : Bool :=
  match seen.loans[loanId]?.filter (·.accruesOn accrualDate) with
  | none => true
  | some loan =>
    loan.outstandingBalance == 0 || (seen.activeAccount loan.memberId .fosa).isNone ||
      ((db.loans[loanId]?.any fun l => l.lastAccrualDate.all (· < accrualDate)) &&
        (seen.currentInstallment loanId accrualDate).all fun row =>
          db.chargeDue (accrualReference db.tenantId loanId accrualDate)
              (seen.period loanId row).rate == 0 ||
            db.onPlan seen loanId accrualDate row)

/-- The amount does not reach the accrued interest of the loan. -/
def Loan.sparesInterest (loan : Loan) (amount : Int) : Bool :=
  loan.accruedInterest == 0 || amount ≤ loan.arrearsAmount

/-- The repayment is refused, replayed, of another loan, or does not reach the interest. -/
def Db.repaySparesInterest (db : Db) (loanId : Nat) (p : RepayParams) : Bool :=
  p.loanId != loanId || (db.transactionByReference (p.reference db.tenantId)).isSome ||
    (db.loans[loanId]?.filter (·.status = .active)).all (·.sparesInterest p.amountKes)

def Db.processSparesInterest (db : Db) (loanId : Nat) (input : ProcessRepaymentInput) : Bool :=
  (db.duplicateRepayment input.reference).isSome ||
    (db.targetLoan input).all fun r => r.1 != loanId || !r.2.status.repayable ||
      input.received.all fun amount => r.2.sparesInterest amount

/-- An accrual or a repayment that charges no interest of the loan twice. -/
def chargesOnce (loanId : Nat) (db : Db) : Op → Bool
  | .accrue seen l accrualDate => l != loanId || db.accrualOnPlan seen loanId accrualDate
  | .repay p => db.repaySparesInterest loanId p
  | .processRepayment _ input => db.processSparesInterest loanId input
  | _ => false

namespace InterestLemmas

theorem repayAllocation_spares {loan : Loan} {n : Nat} (h : loan.sparesInterest n = true) :
    (loan.repayAllocation n).interest = 0 := by
  rw [Loan.sparesInterest, Bool.or_eq_true, beq_iff_eq, decide_eq_true_eq] at h
  show min (n - min n loan.arrearsAmount) loan.accruedInterest = 0
  omega

theorem waterfall_spares {loan : Loan} {n : Nat} (h : loan.sparesInterest n = true) :
    (loan.waterfall n).1.interest = 0 := repayAllocation_spares h

theorem debited_posted {db db' : Db} {t : Transaction} (loanId : Nat) (h : db.Posted t db') :
    db'.interestDebited loanId = db.interestDebited loanId +
      if t.type = .interestAccrual ∧ t.loanId = some loanId then t.amount else 0 := by
  obtain ⟨es, rfl⟩ := h
  exact Table.sumOver_append_one

theorem debited_swept {db db' : Db} (loanId : Nat) (h : db.Swept db') :
    db'.interestDebited loanId = db.interestDebited loanId := by
  obtain ⟨ts, hts, htypes⟩ := h.transactions
  have hnone : Table.sumOver (fun t : Transaction =>
      if t.type = .interestAccrual ∧ t.loanId = some loanId then t.amount else 0) ts = 0 := by
    refine Table.sumOver_zero fun t ht => if_neg fun hc => ?_
    rw [htypes t ht] at hc
    cases hc.1
  rw [Db.interestDebited, hts, Table.sumOver_append, hnone, Int.add_zero, Db.interestDebited]

/-- A charge of the interest debits it for its own loan, a charge of the penalty for none. -/
theorem debited_charge {accountId l amount : Nat} {leg : Leg} {reference description : String}
    {u : Unit} {db db' : Db} (loanId : Nat)
    (h : Yields (chargeAccount accountId l leg amount reference description) db u db') :
    db'.interestDebited loanId = db.interestDebited loanId +
      if leg = .interest ∧ l = loanId then (db.chargeDue reference amount : Int) else 0 := by
  rcases chargeAccount_posted h with ⟨rfl, hzero⟩ | ⟨hnew, t, htype, hloan, hamount, hp⟩
  · have hdue : db'.chargeDue reference amount = 0 := by
      rw [Db.chargeDue]
      split
      · rfl
      · next hnone => exact hzero.resolve_right hnone
    rw [hdue]
    split
    · exact (Int.add_zero _).symm
    · exact (Int.add_zero _).symm
  · have hdue : db.chargeDue reference amount = amount := by
      rw [Db.chargeDue, hnew]
      rfl
    rw [debited_posted loanId hp, htype, hloan, hamount, hdue]
    have hiff : (leg.chargeType = .interestAccrual ∧ some l = some loanId) ↔
        (leg = .interest ∧ l = loanId) := by
      cases leg with
      | interest => simp [Leg.chargeType]
      | penalty => simp [Leg.chargeType]
      | principal => simp [Leg.chargeType]
    rw [if_congr hiff rfl rfl]
    rfl

theorem accrued_plan {l : Nat} {f : Loan → Loan} {db db' : Db} (h : Accrued l f db db')
    (hf : ∀ loan, (f loan).disbursedAt = loan.disbursedAt) (loanId : Nat) :
    db.SamePlan loanId db' := by
  refine ⟨quotes_unpenalized h.rows, ?_⟩
  rw [h.loans]
  exact Table.bind_modify_same hf

/-- What the accrual of the loan `l` does to the plan and the interest of the loan `loanId`. -/
theorem accrue_interest {seen : Db} {l : Nat} {accrualDate : Int} {u : Unit} {db db' : Db}
    (loanId : Nat)
    (h : Yields (accrueInterestForLoan seen l accrualDate) db u db') :
    db' = db ∨ ∃ loan account, seen.loans[l]?.filter (·.accruesOn accrualDate) = some loan ∧
      loan.outstandingBalance ≠ 0 ∧ seen.activeAccount loan.memberId .fosa = some account ∧
      db.SamePlan loanId db' ∧ db'.interestDebited loanId = db.interestDebited loanId +
        (if l = loanId then (db.chargeDue (accrualReference db.tenantId l accrualDate)
          (seen.computeScheduleBasedDailyInterest l loan accrualDate) : Int) else 0) ∧
      ∃ arrears, db'.loans = db.loans.modify l (·.accrue arrears
        (seen.computeScheduleBasedDailyInterest l loan accrualDate) accrualDate) := by
  rcases accrue_cases h with
    rfl | ⟨loan, account, charged, fined, swept, hloan, hout, hacc, hi, hp, hswept, hdb, haccrued⟩
  · exact .inl rfl
  refine .inr ⟨loan, account, hloan, hout, hacc, accrued_plan haccrued (fun _ => rfl) loanId, ?_,
    _, haccrued.loans⟩
  have hcharged := debited_charge loanId hi
  have hfined := debited_charge loanId hp
  rw [hdb]
  show swept.interestDebited loanId = _
  rw [debited_swept loanId hswept, hfined, hcharged]
  simp only [reduceCtorEq, false_and, true_and, if_false, Int.add_zero]

/-- A repayment of the loan `l` keeps the plan and the last accrual of the loan `loanId`, and
takes its interest leg off the accrued interest. -/
theorem paid_interest {l : Nat} {loan : Loan} {a : Allocation} {db db' : Db} (loanId : Nat)
    (h : Paid l loan a db db') (hspares : l = loanId → a.interest = 0) :
    db.SamePlan loanId db' ∧ db'.lastAccrual loanId = db.lastAccrual loanId ∧
      db'.accruedInterest loanId = db.accruedInterest loanId := by
  obtain ⟨status, hloans⟩ := h.loans
  refine ⟨⟨h.quotes, ?_⟩, ?_, ?_⟩
  · rw [hloans]
    exact Table.bind_modify_same fun _ => rfl
  · rw [Db.lastAccrual, hloans]
    exact Table.bind_modify_same fun _ => rfl
  · rw [Db.accruedInterest, hloans, Db.accruedInterest]
    by_cases hl : l = loanId
    · subst hl
      rw [Table.getElem?_modify_self h.row, h.row]
      show ((loan.accruedInterest - a.interest : Nat) : Int) = _
      rw [hspares rfl]
      rfl
    · rw [Table.getElem?_modify_other hl]

theorem charged_idle {loanId : Nat} {db db' : Db} (hplan : db.SamePlan loanId db')
    (hlast : db'.lastAccrual loanId = db.lastAccrual loanId) (n : Int) (hn : n = 0) :
    db.SamePlan loanId db' ∧
      n + db.entitled loanId (db.lastAccrual loanId) ≤ db.entitled loanId (db'.lastAccrual loanId) := by
  rw [hlast, hn, Int.zero_add]
  exact ⟨hplan, Int.le_refl _⟩

theorem samePlan_refl (loanId : Nat) (db : Db) : db.SamePlan loanId db := ⟨rfl, rfl⟩

theorem accrue_other {seen : Db} {l loanId : Nat} {accrualDate : Int} {u : Unit} {db db' : Db}
    (hl : l ≠ loanId) (h : Yields (accrueInterestForLoan seen l accrualDate) db u db') :
    db.SamePlan loanId db' ∧ db'.lastAccrual loanId = db.lastAccrual loanId ∧
      db'.interestDebited loanId = db.interestDebited loanId := by
  rcases accrue_interest loanId h with
    rfl | ⟨loan, account, _, _, _, hplan, hdebited, arrears, hloans⟩
  · exact ⟨samePlan_refl _ _, rfl, rfl⟩
  refine ⟨hplan, ?_, ?_⟩
  · rw [Db.lastAccrual, hloans, Table.getElem?_modify_other hl, Db.lastAccrual]
  · rw [hdebited, if_neg hl, Int.add_zero]

theorem chargeDue_le_amount (db : Db) (reference : String) (amount : Nat) :
    db.chargeDue reference amount ≤ amount := by
  unfold Db.chargeDue
  split
  · exact Nat.zero_le _
  · exact Nat.le_refl _

/-- The plan leaves room for the interest of an accrual that is on it. -/
theorem onPlan_entitled {db seen : Db} {loanId : Nat} {accrualDate : Int} {row : LoanRepayment}
    (hrow : seen.currentInstallment loanId accrualDate = some row)
    (hbefore : ∀ a, db.lastAccrual loanId = some a → a < accrualDate)
    (h : db.onPlan seen loanId accrualDate row = true) :
    db.entitled loanId (db.lastAccrual loanId) + (seen.period loanId row).rate ≤
      db.entitled loanId (some accrualDate) := by
  rw [Db.onPlan] at h
  simp only [Bool.and_eq_true, beq_iff_eq, decide_eq_true_eq] at h
  obtain ⟨⟨⟨⟨hquotes, hdisbursed⟩, hgrid⟩, hstart⟩, hexact⟩ := h
  have hplan : seen.SamePlan loanId db := ⟨hquotes, hdisbursed⟩
  obtain ⟨hmem, hloan, hdue⟩ := currentInstallment_some hrow
  rw [entitled_plan hplan, entitled_plan hplan]
  exact entitled_accrue hmem hloan hbefore hgrid hstart hdue hexact

theorem current_entitled {charge : Nat → Nat} {db seen : Db} {loanId : Nat} {accrualDate : Int}
    (hcharge : ∀ n, charge n ≤ n)
    (hbefore : ∀ a, db.lastAccrual loanId = some a → a < accrualDate)
    (h : ((seen.currentInstallment loanId accrualDate).all fun row =>
      charge (seen.period loanId row).rate == 0 || db.onPlan seen loanId accrualDate row) = true) :
    db.entitled loanId (db.lastAccrual loanId) +
        charge (((seen.currentInstallment loanId accrualDate).map fun row =>
          (seen.period loanId row).rate).getD 0) ≤
      db.entitled loanId (some accrualDate) := by
  have hmono : db.entitled loanId (db.lastAccrual loanId) ≤ db.entitled loanId (some accrualDate) := by
    refine Table.sumOver_le fun r _ => ?_
    split
    · exact Period.entitled_mono msPerDay_pos fun a ha => Int.le_of_lt (hbefore a ha)
    · exact Int.le_refl 0
  cases hrow : seen.currentInstallment loanId accrualDate with
  | none =>
    have hzero := hcharge 0
    rw [Option.map_none, Option.getD_none]
    omega
  | some row =>
    rw [hrow, Option.all_some, Bool.or_eq_true, beq_iff_eq] at h
    rw [Option.map_some, Option.getD_some]
    rcases h with hzero | hon
    · rw [hzero]
      omega
    · have hgrown := onPlan_entitled hrow hbefore hon
      have hle := hcharge (seen.period loanId row).rate
      omega

theorem accrue_charged {seen : Db} {loanId : Nat} {accrualDate : Int} {u : Unit} {db db' : Db}
    (hg : db.accrualOnPlan seen loanId accrualDate = true)
    (h : Yields (accrueInterestForLoan seen loanId accrualDate) db u db') :
    db.SamePlan loanId db' ∧
      db'.interestDebited loanId - db.interestDebited loanId +
        db.entitled loanId (db.lastAccrual loanId) ≤ db.entitled loanId (db'.lastAccrual loanId) := by
  rcases accrue_interest loanId h with
    rfl | ⟨loan, account, hloan, hout, hacc, hplan, hdebited, arrears, hloans⟩
  · exact charged_idle (samePlan_refl _ _) rfl _ (Int.sub_self _)
  rw [Db.accrualOnPlan, hloan] at hg
  dsimp only at hg
  rw [hacc, beq_false_of_ne hout, Bool.false_or, Option.isNone_some, Bool.false_or,
    Bool.and_eq_true, Option.any_eq_true] at hg
  obtain ⟨⟨current, hrow, hlast⟩, hcurrent⟩ := hg
  have hseen := (Option.filter_eq_some_iff.mp hloan).1
  have hdue : db'.lastAccrual loanId = some accrualDate := by
    rw [Db.lastAccrual, hloans, Table.getElem?_modify_self hrow]
    rfl
  have hbefore : ∀ a, db.lastAccrual loanId = some a → a < accrualDate := by
    intro a ha
    rw [Db.lastAccrual, hrow] at ha
    have ha : current.lastAccrualDate = some a := ha
    rw [ha] at hlast
    exact of_decide_eq_true hlast
  refine ⟨hplan, ?_⟩
  have hgrown := current_entitled
    (chargeDue_le_amount db (accrualReference db.tenantId loanId accrualDate)) hbefore hcurrent
  rw [hdebited, if_pos rfl, hdue, dailyInterest_eq hseen]
  omega

theorem repay_charged {loanId : Nat} {p : RepayParams} {r : RepayResult} {db db' : Db}
    (hg : db.repaySparesInterest loanId p = true) (h : Yields (repay p) db r db') :
    db.SamePlan loanId db' ∧ db'.lastAccrual loanId = db.lastAccrual loanId ∧
      db'.accruedInterest loanId = db.accruedInterest loanId := by
  rcases repay_paid h with rfl | ⟨loan, hnew, hactive, _, hpaid⟩
  · exact ⟨samePlan_refl _ _, rfl, rfl⟩
  refine paid_interest loanId hpaid fun hl => ?_
  subst hl
  have hfilter : db.loans[p.loanId]?.filter (·.status = .active) = some loan := by
    rw [hpaid.row]
    exact Option.filter_some_pos (decide_eq_true hactive)
  rw [Db.repaySparesInterest, hnew, hfilter, bne_self_eq_false, Bool.false_or, Option.isSome_none,
    Bool.false_or, Option.all_some] at hg
  refine repayAllocation_spares ?_
  rw [Loan.sparesInterest, Bool.or_eq_true, beq_iff_eq, decide_eq_true_eq] at hg ⊢
  have hle : p.actualRepayment loan ≤ p.amountKes.toNat := Nat.min_le_left _ _
  omega

theorem processRepayment_charged {loanId : Nat} {now : Int} {input : ProcessRepaymentInput}
    {r : RepaymentAllocationSummary} {db db' : Db}
    (hg : db.processSparesInterest loanId input = true)
    (h : Yields (processRepayment now input) db r db') :
    db.SamePlan loanId db' ∧ db'.lastAccrual loanId = db.lastAccrual loanId ∧
      db'.accruedInterest loanId = db.accruedInterest loanId := by
  rcases processRepayment_paid h with rfl | ⟨amount, l, loan, hnew, hamount, htarget, hst, hpaid⟩
  · exact ⟨samePlan_refl _ _, rfl, rfl⟩
  refine paid_interest loanId hpaid fun hl => ?_
  subst hl
  rw [Db.processSparesInterest, hnew, htarget, hamount, Option.isSome_none, Bool.false_or,
    Option.all_some, bne_self_eq_false, hst, Bool.not_true, Bool.false_or, Bool.false_or,
    Option.all_some] at hg
  exact waterfall_spares hg

end InterestLemmas

open InterestLemmas

/-! ## 4. Runs -/

/-- What an operation takes is within what the schedule allows it to add. -/
theorem charged_step {loanId : Nat} {db : Db} {op : Op} (hg : chargesOnce loanId db op = true) :
    db.SamePlan loanId (step db op) ∧
      op.interestTaken db loanId + db.entitled loanId (db.lastAccrual loanId) ≤
        db.entitled loanId ((step db op).lastAccrual loanId) := by
  rcases step_cases db op with ⟨u, h⟩ | h
  · cases op with
    | accrue seen l accrualDate =>
      by_cases hl : l = loanId
      · subst hl
        have hplan : db.accrualOnPlan seen l accrualDate = true := by
          rwa [chargesOnce, bne_self_eq_false, Bool.false_or] at hg
        exact accrue_charged hplan h
      · obtain ⟨hplan, hlast, hdebited⟩ := accrue_other hl h
        exact charged_idle hplan hlast _ (by rw [Op.interestTaken, hdebited, Int.sub_self])
    | repay p =>
      obtain ⟨_, _, hrepay, hpure⟩ := yields_bind.mp h
      have hstep := (yields_pure.mp hpure).2
      obtain ⟨hplan, hlast, hinterest⟩ := repay_charged hg (hstep ▸ hrepay)
      exact charged_idle hplan hlast _ (by rw [Op.interestTaken, hinterest, Int.sub_self])
    | processRepayment now input =>
      obtain ⟨_, _, hrepay, hpure⟩ := yields_bind.mp h
      have hstep := (yields_pure.mp hpure).2
      obtain ⟨hplan, hlast, hinterest⟩ := processRepayment_charged hg (hstep ▸ hrepay)
      exact charged_idle hplan hlast _ (by rw [Op.interestTaken, hinterest, Int.sub_self])
    | _ => cases hg
  · refine charged_idle ?_ ?_ _ ?_
    · rw [h]
      exact samePlan_refl _ _
    · rw [h]
    · cases op with
      | accrue seen l accrualDate => rw [Op.interestTaken, h, Int.sub_self]
      | repay p => rw [Op.interestTaken, h, Int.sub_self]
      | processRepayment now input => rw [Op.interestTaken, h, Int.sub_self]
      | _ => rfl

/-- In every run of accruals and repayments that charge no interest of a loan twice, the member
pays at most the interest of the loan's schedule. -/
theorem interest_charged_once {db : Db} {loanId : Nat} {ops : List Op}
    (hg : Machine.Guarded step (fun db op => chargesOnce loanId db op = true) db ops) :
    interestTaken loanId db ops ≤ db.scheduled loanId LoanRepayment.interestDue := by
  -- what is left of the entitlement bounds what is still to come
  have hleft : interestTaken loanId db ops + db.entitled loanId (db.lastAccrual loanId) ≤
      db.scheduled loanId LoanRepayment.interestDue := by
    induction ops generalizing db with
    | nil =>
      rw [interestTaken, Int.zero_add]
      exact entitled_le db loanId _
    | cons op ops ih =>
      obtain ⟨hop, hops⟩ := hg
      obtain ⟨hplan, htaken⟩ := charged_step hop
      have hrest := ih hops
      rw [entitled_plan hplan, scheduled_plan hplan] at hrest
      rw [interestTaken]
      omega
  have hnonneg := entitled_nonneg db loanId (db.lastAccrual loanId)
  omega

/-- The member has KES 500; the loan has one instalment, due after two days, that asks for its
KES 100 and KES 10 of interest. -/
def exScheduled : Db :=
  { exSacco with
    accounts := exSacco.accounts.map fun a => { a with balance := 5000000 }
    loanRepayments :=
      [({ dueDate := 2 * msPerDay
          principalDue := 1000000
          interestDue := 100000 } : ScheduledInstalment).row 0 1] }

/-- The daily accruals of the loan on the given days, each job reading the state it finds. -/
def exAccruals : Db → List Int → List Op
  | _, [] => []
  | db, day :: days =>
    .accrue db 0 (day * msPerDay) :: exAccruals (step db (.accrue db 0 (day * msPerDay))) days

/-- A repayment of KES 30 before the first accrual goes to the principal, and the two accruals
charge the whole interest. -/
theorem interest_charged_once_daily :
    ∃ ops, ops = exRepay 300000 :: exAccruals (step exScheduled (exRepay 300000)) [1, 2] ∧
      interestTaken 0 exScheduled ops = 100000 ∧
      interestTaken 0 exScheduled ops ≤ exScheduled.scheduled 0 LoanRepayment.interestDue :=
  ⟨_, rfl, by decide +kernel, interest_charged_once (by decide +kernel)⟩

/-- The two accruals have debited the interest of KES 10; the repayment of KES 10 that follows
is all taken as interest. -/
theorem interest_charged_twice :
    ¬ interestTaken 0 exScheduled (exAccruals exScheduled [1, 2] ++ [exRepay 100000]) ≤
      exScheduled.scheduled 0 LoanRepayment.interestDue := by
  decide +kernel

end BebaSacco
