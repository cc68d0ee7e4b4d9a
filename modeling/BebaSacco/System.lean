import BebaSacco.Lifecycle
import BebaSacco.Lib.Run

/-! # The system

Every operation of the modelled services, as one step of the tenant's database:
each `$transaction` is atomic, and a step that fails leaves the database alone.
An operation that checks in one statement and writes in another carries the
state `seen` of its checks, which may be any state.
-/

namespace BebaSacco

open Txn

/-- The operations. `leg` is a GL-only posting on its own: the services post one
only from inside another operation. -/
inductive Op
  | postEntry (params : PostEntryParams)
  | transfer (params : TransferParams)
  | reverse (transactionId : Nat) (reason : String) (actorId : Option String)
  | leg (params : LegParams)
  | repay (params : RepayParams)
  | processRepayment (now : Int) (input : ProcessRepaymentInput)
  | accrue (seen : Db) (loanId : Nat) (accrualDate : Int)
  | createApplication (now : Int) (loan : Loan) (requiresGuarantors : Bool)
      (guarantors : List Nomination)
  | inviteGuarantor (seen : Db) (now : Int) (loanId nominated : Nat) (item : Nomination)
  | finishInvite (seen : Db) (loanId nominated : Nat)
  | respond (now : Int) (args : DecisionArgs)
  | expireGuarantor (now : Int) (guarantorId : Nat)
  | expirySweep (now cutoff : Int)
  | reject (now : Int) (loanId : Nat)
  | approve (seen : Db) (loanId : Nat)
  | updateStatus (seen : Db) (now : Int) (loanId : Nat) (targetStatus : LoanStatus)
      (reason : Option String)
  | signOff (loanId : Nat) (approverId role : String) (approved : Bool)
  | disburse (seen : Db) (params : DisburseParams)
  | recover (now : Int) (loanId : Nat) (defaultAmount : ℚ) (actorId : String)
  | offset (now : Int) (loanId : Nat) (jobId : Option String)
  | b2cTimeout (mpesaTxId : Nat)
  deriving DecidableEq, Repr

/-- The transaction of an operation. -/
def Op.exec : Op → Tx Unit
  | .postEntry params => do let _ ← BebaSacco.postEntry params
  | .transfer params => do let _ ← postInternalTransfer params
  | .reverse transactionId reason actorId => do
    let _ ← reverseTransaction transactionId reason actorId
  | .leg params => do let _ ← postGlOnlyLegEntry params
  | .repay params => do let _ ← BebaSacco.repay params
  | .processRepayment now input => do let _ ← BebaSacco.processRepayment now input
  | .accrue seen loanId accrualDate => accrueInterestForLoan seen loanId accrualDate
  | .createApplication now loan requiresGuarantors guarantors => do
    let _ ← BebaSacco.createApplication now loan requiresGuarantors guarantors
  | .inviteGuarantor seen now loanId nominated item =>
    BebaSacco.inviteGuarantor seen now loanId nominated item
  | .finishInvite seen loanId nominated => BebaSacco.finishInvite seen loanId nominated
  | .respond now args => do let _ ← applyDecision now args
  | .expireGuarantor now guarantorId => expireSpecificGuarantor now guarantorId
  | .expirySweep now cutoff => expireTenantGuarantors now cutoff
  | .reject now loanId => BebaSacco.reject now loanId
  | .approve seen loanId => BebaSacco.approve seen loanId
  | .updateStatus seen now loanId targetStatus reason =>
    BebaSacco.updateStatus seen now loanId targetStatus reason
  | .signOff loanId approverId role approved => BebaSacco.signOff loanId approverId role approved
  | .disburse seen params => BebaSacco.disburse seen params
  | .recover now loanId defaultAmount actorId => do
    let _ ← recoverFromGuarantors now loanId defaultAmount actorId
  | .offset now loanId jobId => do let _ ← offsetLoan now loanId jobId
  | .b2cTimeout mpesaTxId => BebaSacco.b2cTimeout mpesaTxId

/-- One operation on the database. -/
def step (db : Db) (op : Op) : Db := commit op.exec db

/-- The database after the operations `ops`. -/
def Db.after (db : Db) (ops : List Op) : Db := Machine.run step db ops

/-- A step either is a committed transaction or leaves the database alone. -/
theorem step_cases (db : Db) (op : Op) :
    (∃ u, Yields op.exec db u (step db op)) ∨ step db op = db := by
  unfold step
  rcases yields_or_fails op.exec db with ⟨u, db', h⟩ | h
  · rw [commit_of_yields h]
    exact .inl ⟨u, h⟩
  · exact .inr (commit_of_fails h)

/-! ## A small tenant

Member 0 has a FOSA account (0), a BOSA account (1) and the active loan 0; members 1
and 2 can guarantee from their FOSA accounts (2 and 4), member 1 has a BOSA account (3)
too. All accounts are empty.
-/

def exAccount (memberId : Nat) (accountType : AccountType) (accountNumber : String) : Account where
  memberId := memberId
  accountNumber := accountNumber
  accountType := accountType
  balance := 0
  isActive := true
  version := 0
  lockedBalance := 0
  frozenSavings := 0
  allowsNegative := false
  minimumBalance := 0

def exMember : Member where
  isActive := true
  roleIsMember := true
  accountStatusActive := true
  kycApproved := true
  isBlacklisted := false

/-- A loan of KES 100 of which everything is still owed. -/
def exLoan : Loan where
  memberId := 0
  loanProductId := 0
  loanNumber := "LN-1"
  status := .active
  principalAmount := 1000000
  processingFee := 0
  outstandingBalance := 1000000
  accruedInterest := 0
  arrearsAmount := 0
  totalRepaid := 0
  arrearsDays := 0
  staging := .performing
  createdAt := 0
  disbursedAt := some 0
  dueDate := none
  lastAccrualDate := none
  repaymentScheduleGenerated := true

def exSacco : Db where
  tenantId := "t"
  maxConcurrentGuarantees := 3
  members := [exMember, exMember, exMember]
  accounts :=
    [exAccount 0 .fosa "F-0", exAccount 0 .bosa "B-0", exAccount 1 .fosa "F-1",
      exAccount 1 .bosa "B-1", exAccount 2 .fosa "F-2"]
  transactions := []
  journalEntries := []
  glAccounts :=
    ["1000", "1300", "2300", "2400", "4000", "4200", "4300"].map fun code => ⟨code, true⟩
  loanProducts :=
    [{ requiredAccountType := none
       minGuarantors := 1
       maxGuarantors := 2
       guarantorCoverageRatio := 5000 }]
  loans := [exLoan]
  loanRepayments := []
  loanGuarantors := []
  mpesaTransactions := []
  loanApprovalChains := []
  systemUserId := some "SYSTEM"
  uuid := 0

/-- A deposit of `amount` to the account `accountId`. -/
def exDeposit (reference : String) (accountId : Nat) (amount : ℚ) : Op :=
  .postEntry
    { reference, accountId, amount
      journalType := .deposit
      direction := .credit }

/-- A deposit and a transfer from the FOSA to the BOSA account. -/
def exTransfer : List Op :=
  [exDeposit "D1" 0 100,
    .transfer
      { fromAccountId := 0, toAccountId := 1, amount := 40, reference := "T1", actorId := "A" }]

end BebaSacco
