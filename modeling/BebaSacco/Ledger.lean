import BebaSacco.Schema
import BebaSacco.Lib.Rounding

/-! # The ledger service

`LedgerService`: every posting writes an operational `Transaction` row and a
journal entry with its GL posting. This module is the model of the service; what
its methods do to the books is in `Books` and the modules over it.
-/

namespace BebaSacco

open Txn

/-! ## 1. The chart of accounts -/

/-- The codes of the seeded chart of accounts. -/
structure GlCodes where
  CASH : String
  LOAN_RECEIVABLE : String
  FOSA_DEPOSITS : String
  BOSA_DEPOSITS : String
  INTEREST_INCOME : String
  FEE_INCOME : String
  PENALTY_INCOME : String

def GL_CODES : GlCodes where
  CASH := "1000"
  LOAN_RECEIVABLE := "1300"
  FOSA_DEPOSITS := "2300"
  BOSA_DEPOSITS := "2400"
  INTEREST_INCOME := "4000"
  FEE_INCOME := "4300"
  PENALTY_INCOME := "4200"

/-- The name of a journal entry type, as the enumeration of the schema spells it. -/
def JournalEntryType.name : JournalEntryType → String
  | .manual => "MANUAL"
  | .loanDisbursement => "LOAN_DISBURSEMENT"
  | .loanRepayment => "LOAN_REPAYMENT"
  | .feeCharge => "FEE_CHARGE"
  | .feeReversal => "FEE_REVERSAL"
  | .mpesaDeposit => "MPESA_DEPOSIT"
  | .interestAccrual => "INTEREST_ACCRUAL"
  | .deposit => "DEPOSIT"
  | .withdrawal => "WITHDRAWAL"
  | .transfer => "TRANSFER"
  | .dividendPayout => "DIVIDEND_PAYOUT"
  | .reversal => "REVERSAL"

/-- The statement-level type of a journal entry type, where it has one. -/
def JOURNAL_TO_TRANSACTION_TYPE : JournalEntryType → Option TransactionType
  | .deposit => some .deposit
  | .mpesaDeposit => some .deposit
  | .withdrawal => some .withdrawal
  | .transfer => some .transfer
  | .dividendPayout => some .dividendPayout
  | .feeCharge => some .feeCharge
  | .loanDisbursement => some .loanDisbursement
  | _ => none

def memberDepositsCode (accountType : AccountType) : String :=
  if accountType = .fosa then GL_CODES.FOSA_DEPOSITS else GL_CODES.BOSA_DEPOSITS

/-- The debit and the credit code of a posting on an account of type `accountType`. -/
def resolveGlCodes (accountType : AccountType) (journalType : JournalEntryType)
    (direction : Direction) (counterpartyAccountType : Option AccountType) :
    Except Err (String × String) :=
  let ownCode := memberDepositsCode accountType
  match journalType with
  | .transfer =>
    match counterpartyAccountType with
    | none => .error (.badRequest "resolveGlCodes: TRANSFER requires a counterparty account type")
    | some counterparty =>
      let counterpartyCode := memberDepositsCode counterparty
      match direction with
      | .credit => .ok (counterpartyCode, ownCode)
      | .debit => .ok (ownCode, counterpartyCode)
  | .deposit => .ok (GL_CODES.CASH, ownCode)
  | .mpesaDeposit => .ok (GL_CODES.CASH, ownCode)
  | .withdrawal => .ok (ownCode, GL_CODES.CASH)
  | .loanDisbursement => .ok (GL_CODES.LOAN_RECEIVABLE, ownCode)
  | .feeCharge => .ok (ownCode, GL_CODES.FEE_INCOME)
  | _ => .error (.badRequest (s!"resolveGlCodes: unsupported journalType {journalType.name} " ++
      "for LedgerService.postEntry()"))

/-- Both codes must be configured and active for the tenant. -/
def findGlAccountPair (debitCode creditCode : String) : Tx Unit := do
  let db ← get
  ensure ((∃ g ∈ db.glAccounts, g.code = debitCode ∧ g.isActive = true) ∧
      (∃ g ∈ db.glAccounts, g.code = creditCode ∧ g.isActive = true))
    (.badRequest (s!"Required GL accounts ({debitCode}/{creditCode}) are not configured for this " ++
      "tenant — run AccountingService.seedDefaultChartOfAccounts() first"))

/-! ## 2. Shared helpers -/

/-- `Decimal.toDecimalPlaces(4)`, in units of 0.0001. -/
def toDecimalPlaces4 (q : ℚ) : Int := Rounding.roundTo 10000 q

/-- `n` units of 0.0001 as a `Decimal`. -/
def ofUnits (n : Int) : ℚ := Rounding.units 10000 n

theorem toDecimalPlaces4_ofUnits (n : Int) : toDecimalPlaces4 (ofUnits n) = n :=
  Rounding.roundTo_units (by decide) n

/-- The SYSTEM user that postings without an actor are attributed to. -/
def resolveSystemActorId (actorId : Option String) : Tx String :=
  match actorId with
  | some actorId => pure actorId
  | none => do
    let db ← get
    required db.systemUserId (.notFound (s!"Tenant {db.tenantId} has no SYSTEM user provisioned — " ++
      "run AccountingService.ensureSystemUser() first"))

/-- The least balance from which a debit of `amount` is allowed: the committed
funds (locks and guarantor holds) and, unless the account may go negative, the
minimum balance stay behind. -/
def debitFloor (account : Account) (amount : Int) : Int :=
  let committedFloor := account.lockedBalance + account.frozenSavings + amount
  let policyFloor := if account.allowsNegative then 0 else account.minimumBalance + amount
  max committedFloor policyFloor

/-- What a posting of `amount` adds to the balance. -/
def Direction.signed (direction : Direction) (amount : Int) : Int :=
  match direction with
  | .credit => amount
  | .debit => -amount

def Account.move (delta : Int) (account : Account) : Account :=
  { account with balance := account.balance + delta, version := account.version + 1 }

@[simp] theorem Account.move_accountType (delta : Int) (account : Account) :
    (account.move delta).accountType = account.accountType := rfl

@[simp] theorem Account.move_balance (delta : Int) (account : Account) :
    (account.move delta).balance = account.balance + delta := rfl

structure BalanceChange where
  balanceBefore : Int
  balanceAfter : Int
  accountType : AccountType
  deriving DecidableEq, Repr

/-- Moves the balance of an active account; a debit must respect the floor. -/
def applyBalanceChange (accountId : Nat) (amount : Int) (direction : Direction) :
    Tx BalanceChange := do
  let db ← get
  let account ← required (db.accounts[accountId]?.filter (·.isActive))
    (.notFound s!"Account {accountId} not found or inactive in this tenant")
  ensure (direction = .debit → debitFloor account amount ≤ account.balance)
    (.badRequest ("Insufficient available funds (below minimum balance, or amount is committed " ++
      "to a guarantor hold), or concurrent modification"))
  modify (·.updateAccount accountId (·.move (direction.signed amount)))
  pure
    { balanceBefore := account.balance
      balanceAfter := account.balance + direction.signed amount
      accountType := account.accountType }

/-- The posted journal entry of `transactionId`, with its one posting. -/
def ledgerEntry (reference : String) (type : JournalEntryType) (description : String)
    (transactionId : Nat) (amount : Int) (actorId debitCode creditCode : String) : JournalEntry where
  entryNumber := s!"JE-LEDGER-{reference}"
  type := type
  description := description
  referenceType := "TRANSACTION"
  referenceId := transactionId
  totalAmount := amount
  createdById := actorId
  reversalOfJournalEntryId := none
  postings := [{ debitCode, creditCode, amount, description }]

/-! ## 3. Single-account entries -/

structure PostEntryParams where
  reference : String
  journalType : JournalEntryType
  accountId : Nat
  amount : ℚ
  direction : Direction
  actorId : Option String := none
  description : Option String := none
  linkedTransactionId : Option Nat := none
  loanId : Option Nat := none
  deriving DecidableEq, Repr

/-- The ids of the transaction and of the journal entry, and whether the posting
was there before. -/
structure PostingResult where
  transaction : Nat
  journalEntry : Nat
  replayed : Bool
  deriving DecidableEq, Repr

/-- The statement row of a posting. -/
def PostEntryParams.transaction (params : PostEntryParams) (type : TransactionType)
    (change : BalanceChange) (amount : Int) (actorId description : String) : Transaction where
  accountId := params.accountId
  loanId := params.loanId
  type := type
  status := .completed
  amount := amount
  balanceBefore := change.balanceBefore
  balanceAfter := change.balanceAfter
  reference := params.reference
  description := description
  processedBy := some actorId
  linkedTransactionId := params.linkedTransactionId

def postEntryBody (params : PostEntryParams) (amount : Int) (actorId description : String) :
    Tx PostingResult := do
  let db ← get
  match db.transactionByReference params.reference with
  | some (existing, _) =>
    let (existingEntry, _) ← required (db.entryOfTransaction existing)
      (.conflict (s!"Transaction {params.reference} exists without a linked journal entry — " ++
        "ledger is inconsistent"))
    pure { transaction := existing, journalEntry := existingEntry, replayed := true }
  | none =>
    let change ← applyBalanceChange params.accountId amount params.direction
    let transactionType ← required (JOURNAL_TO_TRANSACTION_TYPE params.journalType)
      (.badRequest
        s!"postEntry: no TransactionType mapping for journalType {params.journalType.name}")
    let transaction ← createTransaction
      (params.transaction transactionType change amount actorId description)
    let (debitCode, creditCode) ←
      fromExcept (resolveGlCodes change.accountType params.journalType params.direction none)
    findGlAccountPair debitCode creditCode
    let journalEntry ← createJournalEntry
      (ledgerEntry params.reference params.journalType description transaction amount actorId
        debitCode creditCode)
    pure { transaction, journalEntry, replayed := false }

/-- Posts one deposit, withdrawal, fee or disbursement to one account. -/
def postEntry (params : PostEntryParams) : Tx PostingResult := do
  let actorId ← resolveSystemActorId params.actorId
  let amount := toDecimalPlaces4 params.amount
  ensure (0 < amount) (.badRequest "Amount must be positive")
  postEntryBody params amount actorId (params.description.getD params.journalType.name)

/-! ## 4. Internal transfers -/

structure TransferParams where
  fromAccountId : Nat
  toAccountId : Nat
  amount : ℚ
  reference : String
  actorId : String
  description : Option String := none
  deriving DecidableEq, Repr

structure TransferResult where
  fromTransaction : Nat
  toTransaction : Nat
  journalEntry : Nat
  replayed : Bool
  deriving DecidableEq, Repr

/-- The statement row of one side of a transfer. -/
def TransferParams.transaction (params : TransferParams) (accountId : Nat) (reference : String)
    (change : BalanceChange) (amount : Int) (description : String)
    (linkedTransactionId : Option Nat) : Transaction where
  accountId := accountId
  loanId := none
  type := .transfer
  status := .completed
  amount := amount
  balanceBefore := change.balanceBefore
  balanceAfter := change.balanceAfter
  reference := reference
  description := description
  processedBy := some params.actorId
  linkedTransactionId := linkedTransactionId

def postInternalTransferBody (params : TransferParams) (amount : Int) (description : String) :
    Tx TransferResult := do
  let srcReference := s!"{params.reference}-SRC"
  let dstReference := s!"{params.reference}-DST"
  let db ← get
  match db.transactionByReference srcReference with
  | some (existingSrc, _) =>
    let partially : Err :=
      .conflict s!"Transfer {params.reference} exists partially — ledger is inconsistent"
    let (existingDst, _) ← required (db.transactionByReference dstReference) partially
    let (existingEntry, _) ← required (db.entryOfTransaction existingSrc) partially
    pure
      { fromTransaction := existingSrc
        toTransaction := existingDst
        journalEntry := existingEntry
        replayed := true }
  | none =>
    let fromChange ← applyBalanceChange params.fromAccountId amount .debit
    let toChange ← applyBalanceChange params.toAccountId amount .credit
    let fromTransaction ← createTransaction
      (params.transaction params.fromAccountId srcReference fromChange amount description none)
    let toTransaction ← createTransaction
      (params.transaction params.toAccountId dstReference toChange amount description
        (some fromTransaction))
    modify (·.updateTransaction fromTransaction fun t =>
      { t with linkedTransactionId := some toTransaction })
    let (debitCode, creditCode) ←
      fromExcept (resolveGlCodes fromChange.accountType .transfer .debit (some toChange.accountType))
    findGlAccountPair debitCode creditCode
    let journalEntry ← createJournalEntry
      (ledgerEntry params.reference .transfer description fromTransaction amount params.actorId
        debitCode creditCode)
    pure { fromTransaction, toTransaction, journalEntry, replayed := false }

/-- Moves money between two accounts: two transactions under one journal entry,
which debits the deposits code of the source and credits that of the destination. -/
def postInternalTransfer (params : TransferParams) : Tx TransferResult := do
  let amount := toDecimalPlaces4 params.amount
  ensure (0 < amount) (.badRequest "Amount must be positive")
  ensure (params.fromAccountId ≠ params.toAccountId)
    (.badRequest "Cannot transfer an account to itself")
  postInternalTransferBody params amount (params.description.getD "Internal transfer")

/-! ## 5. Reversal -/

structure ReversalResult where
  transaction : Nat
  journalEntry : Nat
  deriving DecidableEq, Repr

def Transaction.reversal (original : Transaction) (originalTransactionId : Nat)
    (change : BalanceChange) (reason reversedByUserId : String) : Transaction where
  accountId := original.accountId
  loanId := none
  type := .reversal
  status := .completed
  amount := original.amount
  balanceBefore := change.balanceBefore
  balanceAfter := change.balanceAfter
  reference := s!"{original.reference}-REVERSAL"
  description := s!"Reversal of {original.reference}: {reason}"
  processedBy := some reversedByUserId
  linkedTransactionId := some originalTransactionId

/-- Debits become credits and credits become debits. -/
def GLPosting.swapped (posting : GLPosting) : GLPosting where
  debitCode := posting.creditCode
  creditCode := posting.debitCode
  amount := posting.amount
  description := s!"Reversal: {posting.description}"

def JournalEntry.reversal (originalEntry : JournalEntry) (originalEntryId : Nat)
    (originalPosting : GLPosting) (originalReference : String) (reversalTransaction : Nat)
    (reason reversedByUserId : String) : JournalEntry where
  entryNumber := s!"JE-REVERSAL-{originalReference}"
  type := .reversal
  description := s!"Reversal of {originalEntry.entryNumber}: {reason}"
  referenceType := "TRANSACTION"
  referenceId := reversalTransaction
  totalAmount := originalEntry.totalAmount
  createdById := reversedByUserId
  reversalOfJournalEntryId := some originalEntryId
  postings := [originalPosting.swapped]

/-- The posting of an entry that has exactly one. -/
def JournalEntry.singlePosting (entry : JournalEntry) : Option GLPosting :=
  match entry.postings with
  | [posting] => some posting
  | _ => none

/-- The direction that undoes a transaction: the original was a credit when it
did not lower the balance. -/
def Transaction.reverseDirection (original : Transaction) : Direction :=
  if original.balanceBefore ≤ original.balanceAfter then .debit else .credit

/-- The reversal of a transaction. What is undone is read off the stored rows:
the amount and the direction from the transaction, the GL accounts and the GL
amount from the one posting of the first journal entry that refers to it. -/
def reverseTransactionBody (originalTransactionId : Nat) (reason reversedByUserId : String) :
    Tx ReversalResult := do
  let db ← get
  let original ← required db.transactions[originalTransactionId]?
    (.notFound s!"Transaction {originalTransactionId} not found in this tenant")
  ensure (original.status ≠ .reversed)
    (.conflict s!"Transaction {originalTransactionId} has already been reversed")
  let (originalEntryId, originalEntry) ← required (db.entryOfTransaction originalTransactionId)
    (.conflict (s!"Transaction {originalTransactionId} has no linked journal entry — " ++
      "ledger is inconsistent"))
  let originalPosting ← required originalEntry.singlePosting
    (.badRequest (s!"reverseTransaction: journal entry {originalEntry.entryNumber} has " ++
      s!"{originalEntry.postings.length} postings — only single-posting entries (postEntry()) " ++
      "are supported"))
  ensure (∀ e ∈ db.journalEntries, e.reversalOfJournalEntryId ≠ some originalEntryId)
    (.conflict s!"Journal entry {originalEntry.entryNumber} has already been reversed")
  let change ← applyBalanceChange original.accountId original.amount original.reverseDirection
  let reversalTransaction ← createTransaction
    (original.reversal originalTransactionId change reason reversedByUserId)
  let reversalJournalEntry ← createJournalEntry
    (originalEntry.reversal originalEntryId originalPosting original.reference reversalTransaction
      reason reversedByUserId)
  modify (·.updateTransaction originalTransactionId fun t => { t with status := .reversed })
  pure { transaction := reversalTransaction, journalEntry := reversalJournalEntry }

def reverseTransaction (originalTransactionId : Nat) (reason : String)
    (reversedByUserId : Option String) : Tx ReversalResult := do
  let reversedByUserId ← resolveSystemActorId reversedByUserId
  reverseTransactionBody originalTransactionId reason reversedByUserId

/-! ## 6. GL-only legs -/

inductive Leg | penalty | interest | principal
  deriving DecidableEq, Repr

/-- `leg.toLowerCase()`. -/
def Leg.lowerName : Leg → String
  | .penalty => "penalty"
  | .interest => "interest"
  | .principal => "principal"

def Leg.creditCode : Leg → String
  | .penalty => GL_CODES.PENALTY_INCOME
  | .interest => GL_CODES.INTEREST_INCOME
  | .principal => GL_CODES.LOAN_RECEIVABLE

structure LegParams where
  reference : String
  leg : Leg
  amount : Int
  debitCode : String
  transactionId : Nat
  actorId : Option String
  description : String
  journalType : JournalEntryType := .loanRepayment
  deriving DecidableEq, Repr

structure LegResult where
  journalEntry : Nat
  replayed : Bool
  deriving DecidableEq, Repr

/-- One journal entry with one posting, and no balance moved. The entry number
is the key: a second leg under the same number writes nothing. -/
def postGlOnlyLegEntry (params : LegParams) : Tx LegResult := do
  let actorId ← resolveSystemActorId params.actorId
  ensure (0 < params.amount) (.badRequest "Amount must be positive")
  let entryNumber := s!"JE-LEDGER-{params.reference}"
  let db ← get
  match db.entryByNumber entryNumber with
  | some (existing, _) => pure { journalEntry := existing, replayed := true }
  | none =>
    findGlAccountPair params.debitCode params.leg.creditCode
    let journalEntry ← createJournalEntry
      (ledgerEntry params.reference params.journalType params.description params.transactionId
        params.amount actorId params.debitCode params.leg.creditCode)
    pure { journalEntry, replayed := false }

/-- A leg of a repayment that came from outside (M-Pesa, cash). -/
def postLoanRepaymentLegEntry (reference : String) (leg : Leg) (amount : Int)
    (transactionId : Nat) (actorId : String) : Tx LegResult :=
  postGlOnlyLegEntry
    { reference, leg, amount, transactionId
      debitCode := GL_CODES.CASH
      actorId := some actorId
      description := s!"Loan repayment — {leg.lowerName} allocation" }

/-- A leg of a repayment taken from the member's own account. -/
def postAccountSourcedRepaymentLegEntry (reference : String) (leg : Leg) (amount : Int)
    (accountType : AccountType) (transactionId : Nat) (actorId : String) : Tx LegResult :=
  postGlOnlyLegEntry
    { reference, leg, amount, transactionId
      debitCode := memberDepositsCode accountType
      actorId := some actorId
      description := s!"Loan repayment (FOSA-sourced) — {leg.lowerName} allocation" }

/-- A guarantor's savings forfeited to a defaulted loan. -/
def postGuarantorForfeitureEntry (reference : String) (amount : Int) (accountType : AccountType)
    (transactionId : Nat) (actorId description : Option String) : Tx LegResult :=
  postGlOnlyLegEntry
    { reference, amount, transactionId, actorId
      leg := .principal
      debitCode := memberDepositsCode accountType
      description := description.getD
        "Guarantor default offset — savings forfeited to cover defaulted loan" }

/-- Daily interest charged against the member's own account. -/
def postInterestAccrualEntry (reference : String) (amount : Int) (accountType : AccountType)
    (transactionId : Nat) (actorId description : Option String) : Tx LegResult :=
  postGlOnlyLegEntry
    { reference, amount, transactionId, actorId
      leg := .interest
      debitCode := memberDepositsCode accountType
      description := description.getD "Interest accrual — charged against FOSA/BOSA balance"
      journalType := .interestAccrual }

/-- A daily penalty charged against the member's own account. -/
def postPenaltyDeductionEntry (reference : String) (amount : Int) (accountType : AccountType)
    (transactionId : Nat) (actorId description : Option String) : Tx LegResult :=
  postGlOnlyLegEntry
    { reference, amount, transactionId, actorId
      leg := .penalty
      debitCode := memberDepositsCode accountType
      description := description.getD "Penalty accrual — charged against FOSA/BOSA balance" }

/-- A penalty on an overdue instalment, recognised before it is collected. -/
def postPenaltyReceivableEntry (reference : String) (amount : Int) (transactionId : Nat)
    (actorId description : Option String) : Tx LegResult :=
  postGlOnlyLegEntry
    { reference, amount, transactionId, actorId
      leg := .penalty
      debitCode := GL_CODES.LOAN_RECEIVABLE
      description := description.getD "Penalty accrued on overdue installment (not yet collected)" }

end BebaSacco
