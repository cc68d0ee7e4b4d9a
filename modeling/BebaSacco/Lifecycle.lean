import BebaSacco.Recovery
import BebaSacco.Accrual

/-! # The life cycle of a loan

The table of allowed transitions and the services that write `Loan.status` from
the application to the disbursement. Where a service checks the status in one
statement and writes it in another that does not look again, the model takes the
state of the check, `seen`, as an argument of its own.
-/

namespace BebaSacco

open Txn

/-! ## 1. The transition table -/

def LOAN_TRANSITIONS : LoanStatus → List LoanStatus
  | .draft => [.pendingGuarantors, .pendingApproval, .rejected]
  | .pendingGuarantors => [.pendingReview, .pendingApproval, .rejectedGuarantorDecline, .rejected]
  | .pendingReview => [.approved, .rejected]
  | .pendingApproval => [.approved, .rejected]
  | .approved => [.disbursed, .active]
  | .disbursed => [.active]
  | .active => [.fullyPaid, .defaulted]
  | .defaulted => [.writtenOff, .active]
  | .rejected => []
  | .rejectedGuarantorDecline => []
  | .fullyPaid => []
  | .writtenOff => []

def canTransition (source target : LoanStatus) : Bool := (LOAN_TRANSITIONS source).contains target

def LoanStatus.terminal (status : LoanStatus) : Bool :=
  status == .rejected || status == .rejectedGuarantorDecline || status == .fullyPaid ||
    status == .writtenOff

/-! ## 2. Application -/

/-- The row of a new loan: it waits for its guarantors when it needs any, and is a
draft otherwise. -/
def Loan.application (loan : Loan) (now : Int) (requiresGuarantors : Bool) : Loan :=
  { loan with
    status := if requiresGuarantors then .pendingGuarantors else .draft
    outstandingBalance := loan.principalAmount
    accruedInterest := 0
    arrearsAmount := 0
    totalRepaid := 0
    arrearsDays := 0
    staging := .performing
    createdAt := now
    disbursedAt := none
    dueDate := none
    lastAccrualDate := none
    repaymentScheduleGenerated := false }

/-- The rows an application inserts. Of the checks before, which only refuse, the one on the
nominations is kept: it is why no guarantor appears twice. -/
def createApplication (now : Int) (loan : Loan) (requiresGuarantors : Bool)
    (guarantors : List Nomination) : Tx Nat := do
  fromExcept (normalizeGuarantors [] guarantors)
  let db ← get
  let loanId := db.loans.length
  modify fun db =>
    { db with
      loans := db.loans ++ [loan.application now requiresGuarantors]
      loanGuarantors := db.loanGuarantors ++
        if requiresGuarantors then guarantors.map (·.invited now loanId) else [] }
  pure loanId

/-! ## 3. The disbursement gate -/

/-- Why the guarantors of a loan do not allow it to be disbursed. -/
def Db.blockingReasons (db : Db) (loanId : Nat) (loan : Loan) (product : LoanProduct) :
    List String :=
  let guarantors := (Table.selectRows (fun g => g.loanId == loanId) db.loanGuarantors).map (·.2)
  let accepted := guarantors.filter (·.status = .accepted)
  let totalAccepted := (accepted.map (·.guaranteedAmount)).sum
  let required := product.minGuarantors
  (if 0 < required ∧ guarantors.length < required then
      ["DISBURSEMENT_BLOCKED_MIN_GUARANTORS"] else []) ++
    (if 0 < required ∧ (guarantors.any (·.status ≠ .accepted)) then
      ["DISBURSEMENT_BLOCKED_GUARANTORS_PENDING"] else []) ++
    (if 0 < required ∧ accepted.length < required then
      ["DISBURSEMENT_BLOCKED_ACCEPTED_COUNT"] else []) ++
    (if 0 < required ∧
        totalAccepted * 10000 < loan.principalAmount * product.guarantorCoverageRatio then
      ["DISBURSEMENT_BLOCKED_COVERAGE"] else [])

def Db.assertGatePassed (db : Db) (loanId : Nat) : Except Err Unit :=
  match db.loans[loanId]? with
  | none => .error (.notFound "Loan not found")
  | some loan =>
    match db.loanProducts[loan.loanProductId]? with
    | none => .error (.notFound "Loan not found")
    | some product =>
      match db.blockingReasons loanId loan product with
      | [] => .ok ()
      | reasons => .error (.badRequest (String.intercalate "; " reasons))

/-! ## 4. Approval -/

def LoanStatus.approvable (status : LoanStatus) : Bool :=
  status == .pendingReview || status == .pendingApproval

/-- The status is checked by a plain read, at first and again in the transaction;
the update is by id alone. -/
def approve (seen : Db) (loanId : Nat) : Tx Unit := do
  let loan ← required seen.loans[loanId]? (.notFound "Loan not found")
  ensure (loan.status.approvable = true)
    (.badRequest (s!"Cannot approve a loan in \"{loan.status.name}\" status. " ++
      "Expected one of: PENDING_REVIEW, PENDING_APPROVAL."))
  fromExcept (seen.assertGatePassed loanId)
  let db ← get
  let _ ← required db.loans[loanId]? (.notFound "Loan not found")
  modify (·.updateLoan loanId fun l => { l with status := .approved })

/-- The transitions that `updateStatus` writes itself. -/
def validTransitions : LoanStatus → List LoanStatus
  | .draft => [.pendingGuarantors]
  | .pendingGuarantors => [.pendingReview, .pendingApproval, .rejectedGuarantorDecline]
  | _ => []

/-- An officer moves a loan to `targetStatus`: approvals and rejections go to
their services, the other moves are written here by id alone. -/
def updateStatus (seen : Db) (now : Int) (loanId : Nat) (targetStatus : LoanStatus)
    (reason : Option String) : Tx Unit := do
  let loan ← required seen.loans[loanId]? (.notFound "Loan not found")
  ensure (canTransition loan.status targetStatus = true)
    (.badRequest s!"Cannot transition from {loan.status.name} to {targetStatus.name}")
  ensure (targetStatus ≠ .disbursed)
    (.badRequest ("DISBURSED transitions must go through PATCH /admin/loans/:id/status which " ++
      "routes to LoansService.disburse() for financial processing. " ++
      "Direct calls to updateStatus() with DISBURSED are not permitted."))
  if targetStatus = .approved then approve seen loanId
  else if targetStatus = .rejected then
    ensure (reason.filter (· ≠ "") ≠ none) (.badRequest "Reason is required when rejecting a loan")
    reject now loanId
  else
    ensure ((validTransitions loan.status).contains targetStatus = true)
      (.badRequest (s!"Cannot transition from \"{loan.status.name}\" to " ++
        s!"\"{targetStatus.name}\". Valid transitions: " ++
        String.intercalate ", " ((validTransitions loan.status).map LoanStatus.name)))
    let db ← get
    let _ ← required db.loans[loanId]? (.notFound "No record was found for an update.")
    modify (·.updateLoan loanId fun l => { l with status := targetStatus })

/-! ## 5. The approval chain -/

/-- The sign-off slots of a loan. -/
def Db.chainOf (db : Db) (loanId : Nat) : List (Nat × LoanApprovalChain) :=
  Table.selectRows (fun c => c.loanId == loanId) db.loanApprovalChains

def Db.isChainApproved (db : Db) (loanId : Nat) : Bool :=
  (db.chainOf loanId).all fun c => c.2.status == .approved

/-- The slots of a loan, with their ids. -/
abbrev ChainRows := List (Nat × LoanApprovalChain)

/-- `alreadySigned` -/
def signedBy (chain : ChainRows) (approverId : String) : Bool :=
  chain.any fun c => c.2.approverId == approverId && c.2.status != .pending

/-- What a sign-off reads and checks: the slot it will write, and the chain. -/
def signOffRead (loanId : Nat) (approverId role : String) :
    Tx ((Nat × LoanApprovalChain) × ChainRows) := do
  let db ← get
  let chain := db.chainOf loanId
  ensure (chain ≠ []) (.notFound "Approval chain not found for this loan")
  let slot ← required
    (chain.find? fun c => c.2.role == role && c.2.status == .pending)
    (.badRequest s!"No pending approval slot for role {role}")
  ensure (signedBy chain approverId = false)
    (.badRequest "An approver cannot sign off more than once on the same loan")
  pure (slot, chain)

/-- What a sign-off writes: the slot by its id, and the loan after a refusal. -/
def signOffWrite (loanId slotId : Nat) (approverId : String) (approved : Bool) : Tx Unit := do
  modify fun db =>
    { db with
      loanApprovalChains := db.loanApprovalChains.modify slotId fun c =>
        { c with approverId, status := if approved then .approved else .rejected } }
  let db ← get
  if (db.chainOf loanId).any (fun c => c.2.status == .rejected) then
    modify (·.updateLoan loanId fun l =>
      if l.status = .approved then { l with status := .rejected } else l)

/-- An approver signs off or refuses; a refusal closes an approved loan. The holds
of its guarantors are not touched. -/
def signOff (loanId : Nat) (approverId role : String) (approved : Bool) : Tx Unit := do
  let (slot, _) ← signOffRead loanId approverId role
  signOffWrite loanId slot.1 approverId approved

/-! ## 6. Disbursement -/

/-- One instalment of the schedule that a disbursement generates. -/
structure ScheduledInstalment where
  dueDate : Int
  principalDue : Nat
  interestDue : Nat
  deriving DecidableEq, Repr

structure DisburseParams where
  loanId : Nat
  disbursedBy : String
  disbursedAt : Int
  dueDate : Int
  schedule : List ScheduledInstalment
  deriving DecidableEq, Repr

/-- A row of the generated schedule. -/
def ScheduledInstalment.row (item : ScheduledInstalment) (loanId dayNumber : Nat) :
    LoanRepayment where
  loanId := loanId
  dayNumber := dayNumber
  amountPaid := 0
  status := .pending
  method := "SCHEDULED"
  dueDate := item.dueDate
  principalDue := item.principalDue
  interestDue := item.interestDue
  penaltyDue := 0
  principalPaid := 0
  interestPaid := 0
  penaltyPaid := 0
  paidAt := none
  lastPenaltyAccrualDate := none

/-- The rows of the generated schedule. -/
def DisburseParams.rows (params : DisburseParams) : List LoanRepayment :=
  params.schedule.zipIdx.map fun r => r.1.row params.loanId (r.2 + 1)

def disburseBody (params : DisburseParams) (fosaAccountId : Nat) (loanNumber : String) :
    Tx Unit := do
  let db ← get
  let lockedLoan ← required db.loans[params.loanId]? (.notFound "Loan not found")
  ensure (lockedLoan.status ≠ .active)
    (.conflict s!"Loan {loanNumber} has already been disbursed and is ACTIVE.")
  ensure (lockedLoan.status = .approved)
    (.badRequest
      s!"Cannot disburse a loan in \"{lockedLoan.status.name}\" status. Expected APPROVED.")
  fromExcept (db.assertGatePassed params.loanId)
  ensure (lockedLoan.processingFee ≤ lockedLoan.principalAmount)
    (.badRequest "Processing fee cannot exceed loan principal.")
  let _ ← postEntry
    { reference := s!"LOAN-DISBURSEMENT-{params.loanId}"
      journalType := .loanDisbursement
      accountId := fosaAccountId
      amount := ofUnits lockedLoan.principalAmount
      direction := .credit
      actorId := some params.disbursedBy
      description := some s!"Loan disbursement – {loanNumber}"
      loanId := some params.loanId }
  if 0 < lockedLoan.processingFee then
    let _ ← postEntry
      { reference := s!"LOAN-DISBURSEMENT-{params.loanId}-FEE"
        journalType := .feeCharge
        accountId := fosaAccountId
        amount := ofUnits lockedLoan.processingFee
        direction := .debit
        actorId := some params.disbursedBy
        description := some s!"Loan processing fee - {loanNumber}"
        loanId := some params.loanId }
  modify (·.updateLoan params.loanId fun l =>
    { l with
      status := .active
      disbursedAt := some params.disbursedAt
      dueDate := some params.dueDate
      repaymentScheduleGenerated := true })
  if lockedLoan.repaymentScheduleGenerated = false then
    modify fun db =>
      { db with loanRepayments := db.loanRepayments ++ params.rows }

/-- A loan is paid out to the FOSA account. The state `seen` is that of the checks
before the transaction. -/
def disburse (seen : Db) (params : DisburseParams) : Tx Unit := do
  let loan ← required seen.loans[params.loanId]? (.notFound "Loan not found")
  if loan.status = .active then
    -- a replay: the disbursement must be in the books, and nothing is written
    let _ ← required
      (seen.transactionByReference s!"LOAN-DISBURSEMENT-{params.loanId}")
      (.conflict (s!"Loan {loan.loanNumber} is ACTIVE but its disbursement transaction " ++
        s!"(LOAN-DISBURSEMENT-{params.loanId}) could not be found — ledger is inconsistent"))
    pure ()
  else
    ensure (loan.status = .approved)
      (.badRequest s!"Cannot disburse a loan in \"{loan.status.name}\" status. Expected APPROVED.")
    ensure (seen.isChainApproved params.loanId = true)
      (.badRequest ("This loan requires MANAGER and TELLER sign-off before disbursement " ++
        "(4-eyes principle for loans ≥ KES 500,000)."))
    ensure ((seen.members[loan.memberId]?.map (·.kycApproved)).getD false = true)
      (.badRequest "KYC must be approved before loan disbursement.")
    let (fosaAccountId, _) ← required (seen.activeAccount loan.memberId .fosa)
      (.badRequest
        "Member has no active FOSA account. Please open a FOSA account before disbursing.")
    disburseBody params fosaAccountId loan.loanNumber

/-! ## 7. The legacy payout of a loan over M-Pesa -/

/-- The queue timeout of a payout: a payout of a loan takes the loan back to
approved, every payout is left to reconciliation. -/
def b2cTimeout (mpesaTxId : Nat) : Tx Unit := do
  let db ← get
  match db.mpesaTransactions[mpesaTxId]?.filter (·.status = .pending) with
  | none => pure ()
  | some mpesaTx =>
    if mpesaTx.referenceType = some .loanDisbursement then
      match mpesaTx.loanId.bind fun loanId => (db.loans[loanId]?).map fun loan => (loanId, loan) with
      | none => pure ()
      | some (loanId, loan) =>
        if loan.status = .disbursed ∨ loan.status = .approved then
          modify (·.updateLoan loanId fun l => { l with status := .approved })
          modify (·.updateMpesa mpesaTxId fun m => { m with status := .reconPending })
    else
      modify (·.updateMpesa mpesaTxId fun m => { m with status := .reconPending })

end BebaSacco
