import BebaSacco.Ledger
import Mathlib.Data.List.Sort

/-! # The two repayment channels

`LoansService.repay` takes a repayment from the member's FOSA balance;
`LoanRepaymentService.processRepayment` applies money that arrived from outside.
Both run the waterfall penalties, accrued interest, principal, under different
references and with different rows.
-/

namespace BebaSacco

open Txn

/-! ## 1. Amounts as text -/

/-- Two digits. -/
def pad2 (n : Nat) : String := if n < 10 then s!"0{n}" else toString n

/-- `Decimal.toFixed(2)`: half a cent is rounded away from zero. -/
def toFixed2 (n : Int) : String :=
  let cents := (n.natAbs + 50) / 100
  let digits := s!"{cents / 100}.{pad2 (cents % 100)}"
  if n < 0 then s!"-{digits}" else digits

/-- The digits of a fraction of four places, without trailing zeros. -/
def fractionText (n : Nat) : String :=
  if n % 1000 = 0 then toString (n / 1000)
  else if n % 100 = 0 then pad2 (n / 100)
  else if n % 10 = 0 then s!"{n / 1000}{pad2 (n / 10 % 100)}"
  else s!"{pad2 (n / 100)}{pad2 (n % 100)}"

/-- The number of shillings as JavaScript prints it. -/
def kesText (n : Int) : String :=
  let whole := n.natAbs / 10000
  let fraction := n.natAbs % 10000
  let digits := if fraction = 0 then toString whole else s!"{whole}.{fractionText fraction}"
  if n < 0 then s!"-{digits}" else digits

example : kesText 1050000 = "105" ∧ kesText 1230500 = "123.05" ∧ toFixed2 123456 = "12.35" := by
  decide

/-! ## 2. The waterfall -/

/-- How a repayment is split over what a loan owes. -/
structure Allocation where
  penalty : Nat
  interest : Nat
  principal : Nat
  deriving DecidableEq, Repr

def Allocation.total (a : Allocation) : Nat := a.penalty + a.interest + a.principal

def Allocation.minus (a b : Allocation) : Allocation where
  penalty := a.penalty - b.penalty
  interest := a.interest - b.interest
  principal := a.principal - b.principal

/-- Everything the loan owes: penalties, accrued interest and principal. -/
def Loan.totalOwed (loan : Loan) : Nat :=
  loan.arrearsAmount + loan.accruedInterest + loan.outstandingBalance

/-- `amount` goes to the penalties first, then to the accrued interest, then to
the principal; what is left is the overpayment. -/
def Loan.waterfall (loan : Loan) (amount : Nat) : Allocation × Nat :=
  let toPenalty := min amount loan.arrearsAmount
  let remaining := amount - toPenalty
  let toInterest := min remaining loan.accruedInterest
  let remaining := remaining - toInterest
  let toPrincipal := min remaining loan.outstandingBalance
  ({ penalty := toPenalty, interest := toInterest, principal := toPrincipal },
    remaining - toPrincipal)

/-- The split of a repayment that was capped at what the loan owes: what the
penalties and the interest leave is principal. -/
def Loan.repayAllocation (loan : Loan) (actualRepayment : Nat) : Allocation :=
  let toArrears := min actualRepayment loan.arrearsAmount
  let remaining := actualRepayment - toArrears
  let toInterest := min remaining loan.accruedInterest
  { penalty := toArrears, interest := toInterest, principal := remaining - toInterest }

/-- The loan after an allocation. -/
def Loan.pay (loan : Loan) (a : Allocation) (status : LoanStatus) : Loan :=
  { loan with
    arrearsAmount := loan.arrearsAmount - a.penalty
    accruedInterest := loan.accruedInterest - a.interest
    outstandingBalance := loan.outstandingBalance - a.principal
    totalRepaid := loan.totalRepaid + a.total
    status := status }

/-! ## 3. Releasing holds on full repayment -/

/-- A hold on an account's savings goes up or down by `delta`. -/
def Account.hold (delta : Int) (account : Account) : Account :=
  { account with
    frozenSavings := account.frozenSavings + delta
    version := account.version + 1 }

/-- The row after its hold was released. -/
def LoanGuarantor.released (guarantor : LoanGuarantor) (now : Int) : LoanGuarantor :=
  { guarantor with holdReleasedAt := some now }

/-- The accepted guarantees of a loan whose hold has not been released. -/
def Db.unreleasedGuarantors (db : Db) (loanId : Nat) : List (Nat × LoanGuarantor) :=
  Table.selectRows
    (fun g => g.loanId == loanId && g.status == .accepted && g.holdReleasedAt.isNone)
    db.loanGuarantors

/-- The account type that a loan's product takes its collateral from. -/
def Db.collateralType (db : Db) (loan : Loan) : AccountType :=
  (db.loanProducts[loan.loanProductId]?.bind (·.requiredAccountType)).getD .fosa

/-- One step of the release loop: nothing is written when the guarantor has no
active account of the type or nothing is frozen on it. The account is the one
read before the loop. -/
def releaseFullyRepaid (now : Int) (accountOf : Nat → Option (Nat × Account))
    (row : Nat × LoanGuarantor) : Tx Unit :=
  match accountOf row.2.memberId with
  | none => pure ()
  | some (accountId, account) =>
    let releaseAmount := min account.frozenSavings row.2.guaranteedAmount
    if releaseAmount ≤ 0 then pure ()
    else do
      modify (·.updateAccount accountId (·.hold (-releaseAmount)))
      modify (·.updateGuarantor row.1 (·.released now))

def releaseGuarantorHoldsOnFullRepayment (now : Int) (loanId : Nat) : Tx Unit := do
  let db ← get
  match db.loans[loanId]? with
  | none => pure ()
  | some loan =>
    (db.unreleasedGuarantors loanId).forM
      (releaseFullyRepaid now fun memberId => db.activeAccount memberId (db.collateralType loan))

/-! ## 4. `LoansService.repay` -/

structure RepayParams where
  loanId : Nat
  amountKes : Int
  processedBy : String
  idempotencyKey : Option String
  minute : String
  now : Int
  deriving DecidableEq, Repr

/-- The reference of a repayment: the caller's key, or one made of the loan, the
amount and the minute of the call. -/
def RepayParams.reference (params : RepayParams) (tenantId : String) : String :=
  match params.idempotencyKey.filter (· ≠ "") with
  | some key => s!"REPAY-{tenantId}-{key}"
  | none => s!"TXN-REPAY-{tenantId}-{params.loanId}-{kesText params.amountKes}-{params.minute}"

/-- A leg is posted when its amount is positive. -/
def repayLeg (reference : String) (leg : Leg) (suffix : String) (amount transactionId : Nat)
    (processedBy : String) : Tx Unit :=
  if 0 < amount then do
    let _ ← postAccountSourcedRepaymentLegEntry s!"{reference}-{suffix}" leg amount .fosa
      transactionId processedBy
    pure ()
  else pure ()

/-- The statement row of a repayment from the FOSA balance. -/
def RepayParams.transaction (params : RepayParams) (accountId : Nat) (loanNumber reference : String)
    (actualRepayment : Nat) (balBefore : Int) : Transaction where
  accountId := accountId
  loanId := some params.loanId
  type := .loanRepayment
  status := .completed
  amount := actualRepayment
  balanceBefore := balBefore
  balanceAfter := balBefore - actualRepayment
  reference := reference
  description := s!"Loan repayment – {loanNumber}"
  processedBy := some params.processedBy
  linkedTransactionId := none

structure RepayResult where
  transaction : Nat
  reference : String
  allocation : Allocation
  deriving DecidableEq, Repr

def repayBody (params : RepayParams) (fosaAccountId : Nat) (loanNumber reference : String) :
    Tx RepayResult := do
  let db ← get
  match db.transactionByReference reference with
  | some (existingReplay, _) =>
    let _ ← required db.loans[params.loanId]? (.notFound "Loan not found")
    pure { transaction := existingReplay, reference, allocation := ⟨0, 0, 0⟩ }
  | none =>
    let acc ← required (db.accounts[fosaAccountId]?.filter (·.isActive))
      (.notFound "FOSA account not found or inactive")
    let currentLoan ← required db.loans[params.loanId]? (.notFound "Loan not found")
    ensure (currentLoan.status = .active)
      (.badRequest (s!"Loan status changed to \"{currentLoan.status.name}\" during concurrent " ++
        "processing. Please retry the repayment."))
    let actualRepayment := min params.amountKes.toNat currentLoan.totalOwed
    ensure ((actualRepayment : Int) ≤ acc.balance)
      (.unprocessableEntity (s!"Insufficient FOSA balance KES {toFixed2 acc.balance} " ++
        s!"for repayment of KES {toFixed2 actualRepayment}. " ++
        "Please deposit funds before repaying."))
    let allocation := currentLoan.repayAllocation actualRepayment
    let txn ← createTransaction
      (params.transaction fosaAccountId loanNumber reference actualRepayment acc.balance)
    modify (·.updateAccount fosaAccountId fun a =>
      { a with balance := acc.balance - actualRepayment })
    repayLeg reference .penalty "PENALTY" allocation.penalty txn params.processedBy
    repayLeg reference .interest "INTEREST" allocation.interest txn params.processedBy
    repayLeg reference .principal "PRINCIPAL" allocation.principal txn params.processedBy
    let newStatus : LoanStatus :=
      if currentLoan.outstandingBalance - allocation.principal = 0 then .fullyPaid else .active
    modify (·.updateLoan params.loanId (·.pay allocation newStatus))
    if newStatus = .fullyPaid then
      releaseGuarantorHoldsOnFullRepayment params.now params.loanId
    pure { transaction := txn, reference, allocation }

/-- A repayment of `amountKes` from the FOSA account of the loan's member. -/
def repay (params : RepayParams) : Tx RepayResult := do
  ensure (0 < params.amountKes) (.badRequest "Repayment amount must be positive")
  let db ← get
  let loan ← required (db.loans[params.loanId]?.filter (·.status = .active))
    (.notFound "Active loan not found")
  let (fosaAccountId, _) ← required (db.activeAccount loan.memberId .fosa)
    (.badRequest "No active FOSA account for repayment")
  repayBody params fosaAccountId loan.loanNumber (params.reference db.tenantId)

/-! ## 5. `LoanRepaymentService.processRepayment` -/

/-- The amount is `none` when it is not finite. -/
structure ProcessRepaymentInput where
  reference : String
  amount : Option ℚ
  processedBy : String
  loanId : Option Nat := none
  memberId : Option Nat := none
  loanNumber : Option String := none
  accountReference : Option String := none
  mpesaTxId : Option Nat := none
  receipt : Option String := none
  resultCode : Option Int := none
  resultDesc : Option String := none
  deriving DecidableEq, Repr

/-- A leading `LOAN-` is dropped. -/
def stripLoanPrefix (s : String) : String :=
  match s.toList with
  | 'L' :: 'O' :: 'A' :: 'N' :: '-' :: rest => String.ofList rest
  | _ => s

def LoanStatus.repayable (status : LoanStatus) : Bool :=
  status == .active || status == .disbursed || status == .defaulted

/-- `ORDER BY "disbursedAt" ASC NULLS LAST, "createdAt" ASC`. -/
def Loan.earlier (a b : Loan) : Bool :=
  match a.disbursedAt, b.disbursedAt with
  | some x, some y => x < y || (x == y && a.createdAt < b.createdAt)
  | some _, none => true
  | none, some _ => false
  | none, none => a.createdAt < b.createdAt

/-- The loan a repayment names: by id, else by number, else the member's oldest
loan in a repayable status. -/
def Db.targetLoan (db : Db) (input : ProcessRepaymentInput) : Option (Nat × Loan) :=
  let loanNumber :=
    (input.loanNumber.or (input.accountReference.map stripLoanPrefix)).filter (· ≠ "")
  match input.loanId, loanNumber with
  | some loanId, _ => db.loans[loanId]?.map fun loan => (loanId, loan)
  | none, some loanNumber => Table.findRow (fun loan => loan.loanNumber == loanNumber) db.loans
  | none, none =>
    Table.leastRow Loan.earlier
      (Table.selectRows
        (fun loan => some loan.memberId == input.memberId && loan.status.repayable) db.loans)

def lockTargetLoan (input : ProcessRepaymentInput) : Tx (Nat × Loan) := do
  let db ← get
  let (loanId, loan) ← required (db.targetLoan input)
    (.notFound "Target loan not found for repayment")
  ensure (loan.status.repayable = true)
    (.badRequest s!"Loan is not repayable in status {loan.status.name}")
  pure (loanId, loan)

def lockFosaAccount (memberId : Nat) : Tx (Nat × Account) := do
  let db ← get
  required (db.activeAccount memberId .fosa)
    (.notFound "Active FOSA account not found for repayment")

/-! ### Instalments -/

/-- The `Decimal(10, 2)` column keeps two of the four places. -/
def toCents (n : Nat) : Nat := (n + 50) / 100 * 100

/-- What the schedule asks for as principal: rows of the old schedule keep it in
`amountPaid`. -/
def LoanRepayment.principalOwed (row : LoanRepayment) : Nat :=
  if 0 < row.principalDue then row.principalDue else row.amountPaid

/-- What an instalment takes out of an allocation. -/
def LoanRepayment.take (row : LoanRepayment) (a : Allocation) : Allocation where
  penalty := min a.penalty (row.penaltyDue - row.penaltyPaid)
  interest := min a.interest (row.interestDue - row.interestPaid)
  principal := min a.principal (row.principalOwed - row.principalPaid)

/-- The instalment after taking `add`. -/
def LoanRepayment.pay (row : LoanRepayment) (add : Allocation) (paidAt : Int) : LoanRepayment :=
  let paidTotal := (row.penaltyPaid + add.penalty) + (row.interestPaid + add.interest) +
    (row.principalPaid + add.principal)
  let dueTotal := row.penaltyDue + row.interestDue + row.principalOwed
  { row with
    penaltyPaid := row.penaltyPaid + add.penalty
    interestPaid := row.interestPaid + add.interest
    principalPaid := row.principalPaid + add.principal
    amountPaid := toCents paidTotal
    status := if dueTotal ≤ paidTotal then .paid else .partlyPaid
    paidAt := if dueTotal ≤ paidTotal then some paidAt else none
    method := "WATERFALL" }

/-- The instalments in turn take their part of what is left of the allocation. -/
def allocateInstallments (paidAt : Int) : List (Nat × LoanRepayment) → Allocation → Tx Unit
  | [], _ => pure ()
  | (id, row) :: rows, left =>
    if left.total = 0 then pure ()
    else
      let add := row.take left
      if add.total = 0 then allocateInstallments paidAt rows left
      else do
        modify (·.updateRepayment id fun _ => row.pay add paidAt)
        allocateInstallments paidAt rows (left.minus add)

/-- `orderBy: [{ dueDate: 'asc' }, { dayNumber: 'asc' }]`. -/
def LoanRepayment.dueBefore (a b : Nat × LoanRepayment) : Prop :=
  a.2.dueDate < b.2.dueDate ∨ (a.2.dueDate = b.2.dueDate ∧ a.2.dayNumber ≤ b.2.dayNumber)

instance : DecidableRel LoanRepayment.dueBefore := fun _ _ => inferInstanceAs (Decidable (_ ∨ _))

/-- The unpaid instalments of a loan in the order they fall due. -/
def Db.unpaidInstallments (db : Db) (loanId : Nat) : List (Nat × LoanRepayment) :=
  (Table.selectRows
    (fun r => r.loanId == loanId && (r.status == .pending || r.status == .partlyPaid))
    db.loanRepayments).insertionSort LoanRepayment.dueBefore

def applyInstallmentAllocation (paidAt : Int) (loanId : Nat) (allocation : Allocation) :
    Tx Unit := do
  let db ← get
  allocateInstallments paidAt (db.unpaidInstallments loanId) allocation

/-! ### The legs -/

def Leg.transactionType : Leg → TransactionType
  | .penalty => .penalty
  | .interest => .interestEarned
  | .principal => .loanRepayment

def Leg.label : Leg → String
  | .penalty => "Penalty allocation"
  | .interest => "Interest allocation"
  | .principal => "Principal allocation"

/-- The label in upper case, with underscores for spaces. -/
def Leg.allocationSuffix : Leg → String
  | .penalty => "PENALTY_ALLOCATION"
  | .interest => "INTEREST_ALLOCATION"
  | .principal => "PRINCIPAL_ALLOCATION"

def Leg.glSuffix : Leg → String
  | .penalty => "PENALTY"
  | .interest => "INTEREST"
  | .principal => "PRINCIPAL"

/-- The statement row of an allocation leg: it moves no balance. -/
def ProcessRepaymentInput.allocationTransaction (input : ProcessRepaymentInput)
    (accountId loanId : Nat) (leg : Leg) (amount : Nat) (balance : Int) (uuid : String) :
    Transaction where
  accountId := accountId
  loanId := some loanId
  type := leg.transactionType
  status := .completed
  amount := amount
  balanceBefore := balance
  balanceAfter := balance
  reference := s!"{input.reference}-{leg.allocationSuffix}-{uuid}"
  description := s!"{leg.label} from repayment {input.receipt.getD input.reference}"
  processedBy := some input.processedBy
  linkedTransactionId := none

def createAllocationTransaction (input : ProcessRepaymentInput) (accountId loanId : Nat)
    (leg : Leg) (amount : Nat) (balance : Int) : Tx Nat := do
  let uuid ← uuidv4
  createTransaction (input.allocationTransaction accountId loanId leg amount balance uuid)

/-- One leg of the waterfall: its statement row and its GL posting, when there is
something to allocate. The ids of the rows written are returned. -/
def allocateLeg (input : ProcessRepaymentInput) (accountId loanId : Nat) (balance : Int)
    (leg : Leg) (amount : Nat) : Tx (List Nat) :=
  if 0 < amount then do
    let txnId ← createAllocationTransaction input accountId loanId leg amount balance
    let _ ← postLoanRepaymentLegEntry s!"{input.reference}-{leg.glSuffix}" leg amount txnId
      input.processedBy
    pure [txnId]
  else pure []

def creditOverpayment (input : ProcessRepaymentInput) (accountId loanId : Nat)
    (overpayment : Nat) : Tx (List Nat) :=
  if 0 < overpayment then do
    let posted ← postEntry
      { reference := s!"{input.reference}-OVERPAY"
        journalType := .deposit
        accountId := accountId
        amount := ofUnits overpayment
        direction := .credit
        actorId := some input.processedBy
        description := some (s!"Loan repayment overpayment credited to FOSA " ++
          input.receipt.getD input.reference)
        loanId := some loanId }
    pure [posted.transaction]
  else pure []

/-- The unique columns of the row after the update must be free in the other rows. -/
def updateMpesaTransaction (id : Nat) (f : MpesaTransaction → MpesaTransaction) : Tx Unit := do
  let db ← get
  let row ← required db.mpesaTransactions[id]? (.notFound "No record was found for an update.")
  ensure (∀ other ∈ Table.selectRows (fun _ => true) db.mpesaTransactions, other.1 ≠ id →
      ((f row).transactionId ≠ none → other.2.transactionId ≠ (f row).transactionId) ∧
        ((f row).mpesaReceiptNumber ≠ none →
          other.2.mpesaReceiptNumber ≠ (f row).mpesaReceiptNumber))
    (.uniqueViolation "MpesaTransaction")
  modify (·.updateMpesa id f)

/-- The payment that brought the money is completed and linked to its first transaction. -/
def settleMpesa (input : ProcessRepaymentInput) (loanId : Nat) (ledgerIds : List Nat) : Tx Unit :=
  match input.mpesaTxId with
  | none => pure ()
  | some mpesaTxId =>
    updateMpesaTransaction mpesaTxId fun m =>
      { m with
        transactionId := ledgerIds.head?.or m.transactionId
        loanId := some loanId
        status := .completed
        resultCode := some (input.resultCode.getD 0)
        resultDesc := some (input.resultDesc.getD "Success")
        mpesaReceiptNumber := input.receipt.or m.mpesaReceiptNumber }

structure RepaymentAllocationSummary where
  loanId : Nat
  loanNumber : String
  allocation : Allocation
  overpaymentToFosa : Nat
  outstandingBalance : Nat
  status : LoanStatus
  deriving DecidableEq, Repr

/-- The status of a loan after a repayment that leaves `after` to pay. -/
def repaidStatus (before after : Loan) : LoanStatus :=
  if after.outstandingBalance = 0 then .fullyPaid
  else if before.status = .defaulted ∧ 0 < after.totalOwed then .defaulted
  else .active

/-- A repayment of `amount` on a loan that has been locked. -/
def applyRepayment (now : Int) (input : ProcessRepaymentInput) (amount : Nat) (loanId : Nat)
    (loan : Loan) : Tx RepaymentAllocationSummary := do
  let (accountId, account) ← lockFosaAccount loan.memberId
  let (allocation, overpayment) := loan.waterfall amount
  applyInstallmentAllocation now loanId allocation
  let newStatus := repaidStatus loan (loan.pay allocation loan.status)
  let penaltyIds ← allocateLeg input accountId loanId account.balance .penalty allocation.penalty
  let interestIds ← allocateLeg input accountId loanId account.balance .interest allocation.interest
  let principalIds ← allocateLeg input accountId loanId account.balance .principal
    allocation.principal
  let overpayIds ← creditOverpayment input accountId loanId overpayment
  let ledgerIds := penaltyIds ++ interestIds ++ principalIds ++ overpayIds
  modify (·.updateLoan loanId (·.pay allocation newStatus))
  settleMpesa input loanId ledgerIds
  pure
    { loanId, loanNumber := loan.loanNumber, allocation
      overpaymentToFosa := overpayment
      outstandingBalance := (loan.pay allocation newStatus).outstandingBalance
      status := newStatus }

/-- Whether the reference was processed before: a transaction under the very
reference that is linked to a loan. -/
def Db.duplicateRepayment (db : Db) (reference : String) : Option (Transaction × Nat) :=
  match db.transactionByReference reference with
  | some (_, t) => t.loanId.map fun loanId => (t, loanId)
  | none => none

def processRepayment (now : Int) (input : ProcessRepaymentInput) :
    Tx RepaymentAllocationSummary := do
  let amount ← required (input.amount.filter (0 < ·)) (.badRequest "INVALID_REPAYMENT_AMOUNT")
  let amount := toDecimalPlaces4 amount
  let db ← get
  match db.duplicateRepayment input.reference with
  | some (duplicate, loanId) =>
    let loan ← required db.loans[loanId]? (.notFound "Existing repayment loan not found")
    pure
      { loanId, loanNumber := loan.loanNumber
        allocation := ⟨0, 0, duplicate.amount.toNat⟩
        overpaymentToFosa := 0
        outstandingBalance := loan.outstandingBalance
        status := loan.status }
  | none =>
    let (loanId, loan) ← lockTargetLoan input
    applyRepayment now input amount.toNat loanId loan

end BebaSacco
