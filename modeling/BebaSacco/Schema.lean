import BebaSacco.Lib.Transaction
import BebaSacco.Lib.Table

/-! # The database of one tenant

The rows the services read and write. Every query of the source is scoped to one
tenant, so the model is the slice of one tenant. A row's id is its position in
its table: rows are inserted and updated, and none of the modelled code deletes
one. Money is in units of 0.0001, the scale of the `Decimal(18, 4)` columns;
dates are milliseconds.

The columns that no modelled writer can make negative (what a loan owes, what an
instalment is due, what a guarantor pledged) are `Nat`; the columns of an account
are `Int`, since whether they stay non-negative is a result and not a given.
-/

namespace BebaSacco

inductive AccountType | bosa | fosa
  deriving DecidableEq, Repr

inductive TransactionType
  | deposit | withdrawal | loanDisbursement | loanRepayment | interestEarned | dividendPayout
  | feeCharge | transfer | interestAccrual | penalty | reversal
  deriving DecidableEq, Repr

inductive TransactionStatus | pending | completed | failed | reversed | reconPending
  deriving DecidableEq, Repr

inductive JournalEntryType
  | manual | loanDisbursement | loanRepayment | feeCharge | feeReversal | mpesaDeposit
  | interestAccrual | deposit | withdrawal | transfer | dividendPayout | reversal
  deriving DecidableEq, Repr

inductive LoanStatus
  | draft | pendingGuarantors | pendingReview | pendingApproval | approved | rejected
  | rejectedGuarantorDecline | disbursed | active | fullyPaid | defaulted | writtenOff
  deriving DecidableEq, Repr

/-- The status as the enumeration of the schema spells it. -/
def LoanStatus.name : LoanStatus → String
  | .draft => "DRAFT"
  | .pendingGuarantors => "PENDING_GUARANTORS"
  | .pendingReview => "PENDING_REVIEW"
  | .pendingApproval => "PENDING_APPROVAL"
  | .approved => "APPROVED"
  | .rejected => "REJECTED"
  | .rejectedGuarantorDecline => "REJECTED_GUARANTOR_DECLINE"
  | .disbursed => "DISBURSED"
  | .active => "ACTIVE"
  | .fullyPaid => "FULLY_PAID"
  | .defaulted => "DEFAULTED"
  | .writtenOff => "WRITTEN_OFF"

inductive LoanStaging | performing | watchlist | npl
  deriving DecidableEq, Repr

inductive InstallmentStatus | pending | partlyPaid | paid | overdue | waived
  deriving DecidableEq, Repr

inductive GuarantorStatus | pending | accepted | rejected | expired | released
  deriving DecidableEq, Repr

/-- The status as the enumeration of the schema spells it. -/
def GuarantorStatus.name : GuarantorStatus → String
  | .pending => "PENDING"
  | .accepted => "ACCEPTED"
  | .rejected => "REJECTED"
  | .expired => "EXPIRED"
  | .released => "RELEASED"

inductive Direction | debit | credit
  deriving DecidableEq, Repr

/-- The exceptions of the services, with their texts. `uniqueViolation` and
`foreignKeyViolation` are the database refusing an insert or update, with the
column they name. -/
inductive Err
  | badRequest (message : String)
  | notFound (message : String)
  | conflict (message : String)
  | unprocessableEntity (message : String)
  | uniqueViolation (target : String)
  | foreignKeyViolation (field : String)
  | serviceUnavailable (message : String)
  deriving DecidableEq, Repr

structure Account where
  memberId : Nat
  accountNumber : String
  accountType : AccountType
  balance : Int
  isActive : Bool
  version : Nat
  lockedBalance : Int
  frozenSavings : Int
  allowsNegative : Bool
  minimumBalance : Int
  deriving DecidableEq, Repr

/-- The member-facing statement row. -/
structure Transaction where
  accountId : Nat
  loanId : Option Nat
  type : TransactionType
  status : TransactionStatus
  amount : Int
  balanceBefore : Int
  balanceAfter : Int
  reference : String
  description : String
  processedBy : Option String
  linkedTransactionId : Option Nat
  deriving DecidableEq, Repr

/-- One GL posting. The source stores the ids of the two GL accounts; their
codes, unique for a tenant, stand for them here. -/
structure GLPosting where
  debitCode : String
  creditCode : String
  amount : Int
  description : String
  deriving DecidableEq, Repr

structure JournalEntry where
  entryNumber : String
  type : JournalEntryType
  description : String
  referenceType : String
  referenceId : Nat
  totalAmount : Int
  createdById : String
  reversalOfJournalEntryId : Option Nat
  postings : List GLPosting
  deriving DecidableEq, Repr

/-- A member with what the services ask of the user behind it. -/
structure Member where
  isActive : Bool
  roleIsMember : Bool
  accountStatusActive : Bool
  kycApproved : Bool
  isBlacklisted : Bool
  deriving DecidableEq, Repr

structure GLAccount where
  code : String
  isActive : Bool
  deriving DecidableEq, Repr

/-- `guarantorCoverageRatio` is in units of 0.0001. -/
structure LoanProduct where
  requiredAccountType : Option AccountType
  minGuarantors : Nat
  maxGuarantors : Nat
  guarantorCoverageRatio : Nat
  deriving DecidableEq, Repr

structure Loan where
  memberId : Nat
  loanProductId : Nat
  loanNumber : String
  status : LoanStatus
  principalAmount : Nat
  processingFee : Nat
  outstandingBalance : Nat
  accruedInterest : Nat
  arrearsAmount : Nat
  totalRepaid : Nat
  arrearsDays : Nat
  staging : LoanStaging
  createdAt : Int
  disbursedAt : Option Int
  dueDate : Option Int
  lastAccrualDate : Option Int
  repaymentScheduleGenerated : Bool
  deriving DecidableEq, Repr

/-- One instalment of a loan's schedule. -/
structure LoanRepayment where
  loanId : Nat
  dayNumber : Nat
  amountPaid : Nat
  status : InstallmentStatus
  method : String
  dueDate : Int
  principalDue : Nat
  interestDue : Nat
  penaltyDue : Nat
  principalPaid : Nat
  interestPaid : Nat
  penaltyPaid : Nat
  paidAt : Option Int
  lastPenaltyAccrualDate : Option Int
  deriving DecidableEq, Repr

structure LoanGuarantor where
  loanId : Nat
  memberId : Nat
  status : GuarantorStatus
  guaranteedAmount : Nat
  recoveredAmount : Nat
  invitedAt : Int
  respondedAt : Option Int
  expiresAt : Option Int
  holdPlacedAt : Option Int
  holdReleasedAt : Option Int
  deriving DecidableEq, Repr

inductive MpesaReferenceType | loanDisbursement | fosaWithdrawal
  deriving DecidableEq, Repr

inductive MpesaTxType | stkPush | c2b | b2c
  deriving DecidableEq, Repr

/-- How far the provider was involved in a payout. -/
inductive MwaloniProviderState
  | localCreated | sendAttempted | accepted | outcomeUnknown | completed | failed
  deriving DecidableEq, Repr

structure MpesaTransaction where
  type : MpesaTxType
  reference : String
  referenceType : Option MpesaReferenceType := none
  referenceId : Option Nat := none
  transactionId : Option Nat := none
  loanId : Option Nat := none
  memberId : Option Nat := none
  checkoutRequestId : Option String := none
  conversationId : Option String := none
  accountReference : Option String := none
  phoneNumber : String
  amount : Int
  status : TransactionStatus := .pending
  resultCode : Option Int := none
  resultDesc : Option String := none
  failureReason : Option String := none
  mpesaReceiptNumber : Option String := none
  providerSubmissionState : Option MwaloniProviderState := none
  providerSendAttemptedAt : Option Int := none
  reconciliationDueAt : Option Int := none
  reconciliationAttemptCount : Nat := 0
  reconciliationNextRetryAt : Option Int := none
  reconciliationLockedAt : Option Int := none
  manualReviewRequired : Bool := false
  createdAt : Int
  deriving DecidableEq, Repr

inductive ApprovalStatus | pending | approved | rejected
  deriving DecidableEq, Repr

/-- One slot of the sign-off chain of a large loan. -/
structure LoanApprovalChain where
  loanId : Nat
  approverId : String
  role : String
  status : ApprovalStatus
  deriving DecidableEq, Repr

/-- The tables of the tenant `tenantId`. `uuid` counts the ids that `uuidv4()` has
drawn, `systemUserId` is the tenant's SYSTEM user, when it has been provisioned, and
`maxConcurrentGuarantees` is a setting of the tenant. -/
structure Db where
  tenantId : String
  maxConcurrentGuarantees : Nat
  members : List Member
  accounts : List Account
  transactions : List Transaction
  journalEntries : List JournalEntry
  glAccounts : List GLAccount
  loanProducts : List LoanProduct
  loans : List Loan
  loanRepayments : List LoanRepayment
  loanGuarantors : List LoanGuarantor
  mpesaTransactions : List MpesaTransaction
  loanApprovalChains : List LoanApprovalChain
  systemUserId : Option String
  uuid : Nat
  deriving DecidableEq, Repr

/-- One `prisma.$transaction`: it commits as a whole or leaves the tables alone. -/
abbrev Tx (α : Type) := Txn Db Err α

namespace Db

/-! ## 1. Inserts and updates -/

def insertTransaction (db : Db) (t : Transaction) : Db :=
  { db with transactions := db.transactions ++ [t] }

def insertEntry (db : Db) (e : JournalEntry) : Db :=
  { db with journalEntries := db.journalEntries ++ [e] }

def updateAccount (db : Db) (id : Nat) (f : Account → Account) : Db :=
  { db with accounts := db.accounts.modify id f }

def updateTransaction (db : Db) (id : Nat) (f : Transaction → Transaction) : Db :=
  { db with transactions := db.transactions.modify id f }

def updateLoan (db : Db) (id : Nat) (f : Loan → Loan) : Db :=
  { db with loans := db.loans.modify id f }

def updateRepayment (db : Db) (id : Nat) (f : LoanRepayment → LoanRepayment) : Db :=
  { db with loanRepayments := db.loanRepayments.modify id f }

def updateGuarantor (db : Db) (id : Nat) (f : LoanGuarantor → LoanGuarantor) : Db :=
  { db with loanGuarantors := db.loanGuarantors.modify id f }

def updateMpesa (db : Db) (id : Nat) (f : MpesaTransaction → MpesaTransaction) : Db :=
  { db with mpesaTransactions := db.mpesaTransactions.modify id f }

/-! ## 2. Lookups -/

/-- `transaction.findFirst({ where: { reference } })`, with the row's id. -/
def transactionByReference (db : Db) (reference : String) : Option (Nat × Transaction) :=
  Table.findRow (fun t => t.reference == reference) db.transactions

/-- `journalEntry.findFirst({ where: { referenceType: 'TRANSACTION', referenceId } })`. -/
def entryOfTransaction (db : Db) (transactionId : Nat) : Option (Nat × JournalEntry) :=
  Table.findRow (fun e => e.referenceType == "TRANSACTION" && e.referenceId == transactionId)
    db.journalEntries

/-- `journalEntry.findFirst({ where: { entryNumber } })`. -/
def entryByNumber (db : Db) (entryNumber : String) : Option (Nat × JournalEntry) :=
  Table.findRow (fun e => e.entryNumber == entryNumber) db.journalEntries

/-- The first active account of a member of the given type. -/
def activeAccount (db : Db) (memberId : Nat) (accountType : AccountType) : Option (Nat × Account) :=
  Table.findRow
    (fun a => a.memberId == memberId && a.accountType == accountType && a.isActive) db.accounts

end Db

/-! ## 3. Creating rows under the unique columns -/

/-- `transaction.create`: the reference must be new. The id of the row is returned. -/
def createTransaction (t : Transaction) : Tx Nat := do
  let db ← get
  Txn.ensure (∀ r ∈ db.transactions, r.reference ≠ t.reference) (.uniqueViolation "reference")
  modify (·.insertTransaction t)
  pure db.transactions.length

/-- `journalEntry.create`: the entry number must be new. -/
def createJournalEntry (e : JournalEntry) : Tx Nat := do
  let db ← get
  Txn.ensure (∀ r ∈ db.journalEntries, r.entryNumber ≠ e.entryNumber)
    (.uniqueViolation "entryNumber")
  modify (·.insertEntry e)
  pure db.journalEntries.length

/-- `uuidv4()`: an id that was never drawn before, rendered as text. -/
def uuidv4 : Tx String := do
  let db ← get
  modify fun db => { db with uuid := db.uuid + 1 }
  pure (toString db.uuid)

open Txn

@[simp] theorem yields_createTransaction {t : Transaction} {db db' : Db} {id : Nat} :
    Yields (createTransaction t) db id db' ↔
      (∀ r ∈ db.transactions, r.reference ≠ t.reference) ∧
        id = db.transactions.length ∧ db' = db.insertTransaction t := by
  simp only [createTransaction, yields_bind, yields_get, yields_ensure, yields_modify, yields_pure]
  constructor
  · rintro ⟨_, _, ⟨rfl, rfl⟩, _, _, ⟨hu, rfl⟩, _, _, rfl, rfl, rfl⟩
    exact ⟨hu, rfl, rfl⟩
  · rintro ⟨hu, rfl, rfl⟩
    exact ⟨_, _, ⟨rfl, rfl⟩, (), _, ⟨hu, rfl⟩, (), _, rfl, rfl, rfl⟩

@[simp] theorem yields_createJournalEntry {e : JournalEntry} {db db' : Db} {id : Nat} :
    Yields (createJournalEntry e) db id db' ↔
      (∀ r ∈ db.journalEntries, r.entryNumber ≠ e.entryNumber) ∧
        id = db.journalEntries.length ∧ db' = db.insertEntry e := by
  simp only [createJournalEntry, yields_bind, yields_get, yields_ensure, yields_modify,
    yields_pure]
  constructor
  · rintro ⟨_, _, ⟨rfl, rfl⟩, _, _, ⟨hu, rfl⟩, _, _, rfl, rfl, rfl⟩
    exact ⟨hu, rfl, rfl⟩
  · rintro ⟨hu, rfl, rfl⟩
    exact ⟨_, _, ⟨rfl, rfl⟩, (), _, ⟨hu, rfl⟩, (), _, rfl, rfl, rfl⟩

@[simp] theorem yields_uuidv4 {db db' : Db} {s : String} :
    Yields uuidv4 db s db' ↔ s = toString db.uuid ∧ db' = { db with uuid := db.uuid + 1 } := by
  simp only [uuidv4, yields_bind, yields_get, yields_modify, yields_pure]
  constructor
  · rintro ⟨_, _, ⟨rfl, rfl⟩, _, _, rfl, rfl, rfl⟩
    exact ⟨rfl, rfl⟩
  · rintro ⟨rfl, rfl⟩
    exact ⟨_, _, ⟨rfl, rfl⟩, (), _, rfl, rfl, rfl⟩

end BebaSacco
