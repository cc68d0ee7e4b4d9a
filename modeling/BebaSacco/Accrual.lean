import BebaSacco.Repayment

/-! # Daily accrual

`FinancialService.accrueInterestForLoan`: the job charges a day's interest and a
matured loan's penalty to the member's FOSA account, recognises penalties on
overdue instalments and rolls the arrears up into the loan. The job reads the
loan before it opens the transaction, so the model takes that earlier state,
`seen`, as an argument of its own.
-/

namespace BebaSacco

open Txn

/-! ## 1. Dates -/

def msPerDay : Int := 24 * 60 * 60 * 1000

def pad4 (n : Nat) : String :=
  if n < 10 then s!"000{n}" else if n < 100 then s!"00{n}" else if n < 1000 then s!"0{n}"
  else toString n

/-- `toISOString().slice(0, 10)` of a date after 1970: year, month and day by the
400-year cycle of the calendar, with years that start in March. -/
def isoDate (time : Int) : String :=
  let days := (time / msPerDay).toNat + 719468
  let era := days / 146097
  let dayOfEra := days % 146097
  let yearOfEra := (dayOfEra - dayOfEra / 1460 + dayOfEra / 36524 - dayOfEra / 146096) / 365
  let dayOfYear := dayOfEra - (365 * yearOfEra + yearOfEra / 4 - yearOfEra / 100)
  let monthFromMarch := (5 * dayOfYear + 2) / 153
  let day := dayOfYear - (153 * monthFromMarch + 2) / 5 + 1
  let month := if monthFromMarch < 10 then monthFromMarch + 3 else monthFromMarch - 9
  let year := yearOfEra + era * 400 + if month ≤ 2 then 1 else 0
  s!"{pad4 year}-{pad2 month}-{pad2 day}"

example : isoDate 951782400000 = "2000-02-29" ∧ isoDate 1772323200000 = "2026-03-01" := by
  decide

/-- `Math.round(a / b)` for a positive `b`: a half goes up. -/
def roundDiv (a b : Int) : Int := (2 * a + b) / (2 * b)

/-! ## 2. What is charged -/

/-- The instalments of a loan that are not paid, by due date. -/
def Db.openInstallments (db : Db) (loanId : Nat) : List (Nat × LoanRepayment) :=
  (Table.selectRows (fun r => r.loanId == loanId && r.status != .paid)
    db.loanRepayments).insertionSort fun a b => a.2.dueDate ≤ b.2.dueDate

/-- The quoted interest of the current instalment, spread over the days of its
period; nothing when every unpaid instalment is already overdue. -/
def Db.computeScheduleBasedDailyInterest (db : Db) (loanId : Nat) (loan : Loan)
    (accrualDate : Int) : Nat :=
  match (db.openInstallments loanId).find? (fun r => accrualDate ≤ r.2.dueDate) with
  | none => 0
  | some (_, current) =>
    let previous := Table.findRow
      (fun r => r.loanId == loanId && r.dayNumber + 1 == current.dayNumber) db.loanRepayments
    let periodStart :=
      ((if 1 < current.dayNumber then previous.map (·.2.dueDate) else none).or
        loan.disbursedAt).getD current.dueDate
    let daysInPeriod := (max 1 (roundDiv (current.dueDate - periodStart) msPerDay)).toNat
    (2 * current.interestDue + daysInPeriod) / (2 * daysInPeriod)

/-- 0.1 % of the outstanding balance once the loan's own final due date has passed. -/
def Loan.maturityPenalty (loan : Loan) (accrualDate : Int) : Nat :=
  match loan.dueDate with
  | some dueDate => if dueDate < accrualDate then (loan.outstandingBalance + 500) / 1000 else 0
  | none => 0

/-- Takes `amount` from the balance under the row lock; no floor is checked. -/
def debitAccountWithCas (accountId : Nat) (amount : Nat) : Tx (Int × Int) := do
  let db ← get
  let lockedAccount ← required db.accounts[accountId]?
    (.conflict "Concurrent balance modification, retry")
  modify (·.updateAccount accountId (·.move (-amount)))
  pure (lockedAccount.balance, lockedAccount.balance - amount)

/-- The statement row of a charge against the member's account. -/
def chargeTransaction (accountId loanId : Nat) (type : TransactionType) (amount : Nat)
    (balanceBefore balanceAfter : Int) (reference description : String) : Transaction where
  accountId := accountId
  loanId := some loanId
  type := type
  status := .completed
  amount := amount
  balanceBefore := balanceBefore
  balanceAfter := balanceAfter
  reference := reference
  description := description
  processedBy := some "SYSTEM"
  linkedTransactionId := none

/-- Interest or penalty is charged once under its reference: the balance, the
statement row and the GL leg. -/
def chargeAccount (accountId loanId : Nat) (leg : Leg) (amount : Nat)
    (reference description : String) : Tx Unit := do
  if 0 < amount then
    let db ← get
    match db.transactionByReference reference with
    | some _ => pure ()
    | none =>
      let (balanceBefore, balanceAfter) ← debitAccountWithCas accountId amount
      let type : TransactionType :=
        match leg with
        | .interest => .interestAccrual
        | _ => .penalty
      let txn ← createTransaction
        (chargeTransaction accountId loanId type amount balanceBefore balanceAfter reference
          description)
      let _ ←
        match leg with
        | .interest => postInterestAccrualEntry reference amount .fosa txn none (some description)
        | _ => postPenaltyDeductionEntry reference amount .fosa txn none (some description)
      pure ()

/-! ## 3. Overdue instalments -/

def PENALTY_GRACE_DAYS : Int := 3

def classifyStaging (arrearsDays : Nat) : LoanStaging :=
  if 90 ≤ arrearsDays then .npl else if 30 ≤ arrearsDays then .watchlist else .performing

/-- 1 % of what the instalment asks for. -/
def LoanRepayment.dailyPenalty (row : LoanRepayment) : Nat :=
  (row.principalDue + row.interestDue + 50) / 100

/-- No penalty was added to the instalment on this day. -/
def LoanRepayment.penaltyDueOn (row : LoanRepayment) (accrualDate : Int) : Bool :=
  match row.lastPenaltyAccrualDate with
  | none => true
  | some last => last < accrualDate

/-- The penalty of one overdue instalment: recognised, not collected. -/
def penalizeInstallment (loanId fosaAccountId : Nat) (accrualDate : Int)
    (row : Nat × LoanRepayment) : Tx Unit := do
  let penalty := row.2.dailyPenalty
  if 0 < penalty then
    modify (·.updateRepayment row.1 fun r =>
      { r with
        penaltyDue := r.penaltyDue + penalty
        lastPenaltyAccrualDate := some accrualDate
        status := .overdue })
    let db ← get
    let reference := s!"PENALTY-{db.tenantId}-{loanId}-{row.1}-{isoDate accrualDate}"
    let description := s!"Daily overdue installment penalty for loan {loanId}"
    match db.transactionByReference reference with
    | some _ => pure ()
    | none =>
      let balance := (db.accounts[fosaAccountId]?.map (·.balance)).getD 0
      let txn ← createTransaction
        (chargeTransaction fosaAccountId loanId .penalty penalty balance balance reference
          description)
      let _ ← postPenaltyReceivableEntry reference penalty txn none (some description)
      pure ()

/-- The instalments a penalty accrues on. -/
def Db.penaltyEligible (db : Db) (loanId : Nat) (accrualDate : Int) :
    List (Nat × LoanRepayment) :=
  Table.selectRows
    (fun r => r.loanId == loanId && r.status != .paid &&
      r.dueDate < accrualDate - PENALTY_GRACE_DAYS * msPerDay && r.penaltyDueOn accrualDate)
    db.loanRepayments

structure Arrears where
  arrearsDays : Nat
  arrearsAmount : Nat
  staging : LoanStaging
  deriving DecidableEq, Repr

/-- What is unpaid of an instalment. -/
def LoanRepayment.unpaid (row : LoanRepayment) : Nat :=
  (row.principalDue + row.interestDue + row.penaltyDue) -
    (row.principalPaid + row.interestPaid + row.penaltyPaid)

/-- The arrears by the schedule: every unpaid instalment whose due date has passed. -/
def Db.arrears (db : Db) (loanId : Nat) (accrualDate : Int) : Arrears :=
  match (db.openInstallments loanId).filter (fun r => r.2.dueDate < accrualDate) with
  | [] => { arrearsDays := 0, arrearsAmount := 0, staging := classifyStaging 0 }
  | earliest :: rows =>
    let arrearsDays := ((accrualDate - earliest.2.dueDate) / msPerDay).toNat
    { arrearsDays
      arrearsAmount := ((earliest :: rows).map (·.2.unpaid)).sum
      staging := classifyStaging arrearsDays }

def applyOverdueInstallmentsAndArrears (loanId fosaAccountId : Nat) (accrualDate : Int) :
    Tx Arrears := do
  let db ← get
  (db.penaltyEligible loanId accrualDate).forM
    (penalizeInstallment loanId fosaAccountId accrualDate)
  let db ← get
  pure (db.arrears loanId accrualDate)

/-! ## 4. The accrual of one loan -/

/-- The loan after a day's accrual; ninety days of arrears make it defaulted. -/
def Loan.accrue (loan : Loan) (arrears : Arrears) (dailyInterest : Nat) (accrualDate : Int) : Loan :=
  { loan with
    arrearsDays := arrears.arrearsDays
    arrearsAmount := arrears.arrearsAmount
    staging := arrears.staging
    lastAccrualDate := some accrualDate
    accruedInterest := loan.accruedInterest + dailyInterest
    status := if arrears.staging = .npl then .defaulted else loan.status }

/-- `runDailyAccrual` picks the loan: it is being repaid and was not accrued today. -/
def Loan.accruesOn (loan : Loan) (accrualDate : Int) : Bool :=
  (loan.status == .active || loan.status == .disbursed) &&
    match loan.lastAccrualDate with
    | none => true
    | some last => last < accrualDate

/-- The references that charge a loan once a day. -/
def accrualReference (tenantId : String) (loanId : Nat) (accrualDate : Int) : String :=
  s!"ACCRUAL-{tenantId}-{loanId}-{isoDate accrualDate}"

def penaltyReference (tenantId : String) (loanId : Nat) (accrualDate : Int) : String :=
  s!"PENALTY-{tenantId}-{loanId}-{isoDate accrualDate}"

/-- The transaction of the accrual of the loan `loanId`, which the job read as
`loan`, with the charges it computed. -/
def accrueBody (loanId fosaAccountId : Nat) (dailyInterest dailyPenalty : Nat)
    (accrualDate : Int) : Tx Unit := do
  let db ← get
  let day := isoDate accrualDate
  chargeAccount fosaAccountId loanId .interest dailyInterest
    (accrualReference db.tenantId loanId accrualDate) s!"Daily interest accrual – {day}"
  chargeAccount fosaAccountId loanId .penalty dailyPenalty
    (penaltyReference db.tenantId loanId accrualDate) s!"Overdue penalty – {day}"
  let arrears ← applyOverdueInstallmentsAndArrears loanId fosaAccountId accrualDate
  modify (·.updateLoan loanId (·.accrue arrears dailyInterest accrualDate))

/-- The accrual of one loan on `accrualDate`: the loan, its schedule and its FOSA
account are those of the state `seen`, which the job read earlier. -/
def accrueInterestForLoan (seen : Db) (loanId : Nat) (accrualDate : Int) : Tx Unit :=
  match seen.loans[loanId]?.filter (·.accruesOn accrualDate) with
  | none => pure ()
  | some loan =>
    if loan.outstandingBalance = 0 then pure ()
    else
      match seen.activeAccount loan.memberId .fosa with
      | none => pure ()
      | some (fosaAccountId, _) =>
        accrueBody loanId fosaAccountId
          (seen.computeScheduleBasedDailyInterest loanId loan accrualDate)
          (loan.maturityPenalty accrualDate) accrualDate

end BebaSacco
