import BebaSacco.Lib.Process
import BebaSacco.Repayment

/-! # Money that comes in by M-Pesa

A deposit starts with an STK push to the member's phone, or with a payment to the paybill. The
provider's callback is handled by a worker, which credits the account; two sweeps and the daily
reconciliation change the status of rows that stay PENDING, and an officer can credit a row that
was flagged. The handlers read first and write in a later transaction, so the model is a world of
processes over the tables.

Next to the tables the desk keeps a record of what happened: what was charged to a phone, which
postings were made for which row, which callbacks were handled to the end, and what was reported
to the officers.
-/

namespace BebaSacco

open Txn

/-! ## 1. References -/

/-- The text after a prefix. -/
def afterPrefix (pre s : String) : Option String :=
  if pre.toList.isPrefixOf s.toList then some (String.ofList (s.toList.drop pre.length)) else none

/-- The white space that `String.prototype.trim` drops. -/
def jsWhitespace (c : Char) : Bool :=
  (9 ≤ c.toNat && c.toNat ≤ 13) || (0x2000 ≤ c.toNat && c.toNat ≤ 0x200a) ||
    [0x20, 0xa0, 0x1680, 0x2028, 0x2029, 0x202f, 0x205f, 0x3000, 0xfeff].contains c.toNat

def jsTrim (s : String) : String :=
  String.ofList ((s.toList.dropWhile jsWhitespace).reverse.dropWhile jsWhitespace).reverse

/-- The number of UTF-16 units of a character. -/
def utf16Units (c : Char) : Nat := if c.toNat < 0x10000 then 1 else 2

/-- `slice(0, n)`, which counts UTF-16 units. Half a pair that is left at the end is no character; what
stores the text reads U+FFFD for it. -/
def sliceUnits : Nat → List Char → List Char
  | _, [] => []
  | n, c :: cs =>
    if utf16Units c ≤ n then c :: sliceUnits (n - utf16Units c) cs
    else if n = 0 then []
    else ['\uFFFD']

structure ParsedReference where
  isLoanRepayment : Bool
  target : String
  isMemberIdDeposit : Bool
  deriving DecidableEq, Repr

/-- A loan number, a member id or an account number. -/
def parseReference (accountReference : String) : ParsedReference :=
  match afterPrefix "LOAN-" accountReference with
  | some target => ⟨true, jsTrim target, false⟩
  | none =>
    match afterPrefix "DEPOSIT-" accountReference with
    | some target => ⟨false, jsTrim target, true⟩
    | none => ⟨false, jsTrim accountReference, false⟩

def buildMpesaRef.stk (checkoutRequestId : String) : String := s!"STK-{checkoutRequestId}"

def buildMpesaRef.c2b (transId : String) : String := s!"C2B-{transId}"

def buildMpesaRef.b2c (id : String) : String := s!"B2C-{id}"

/-! ## 2. The desk -/

inductive DepositPurpose | savings | loanRepayment
  deriving DecidableEq, Repr

/-- What the API admits as a deposit; the amount is in KES. -/
structure MemberDepositDto where
  phoneNumber : String
  amount : ℚ
  purpose : DepositPurpose
  accountRef : String
  amount_min : 10 ≤ amount
  amount_max : amount ≤ 300000
  deriving DecidableEq

/-- What the phone is charged, `Math.round(dto.amount)` shillings. -/
def MemberDepositDto.charged (dto : MemberDepositDto) : Int := ⌊dto.amount + 1 / 2⌋ * 10000

/-- What was posted for an M-Pesa transaction: a deposit on an account, or a repayment. -/
inductive Credit
  | deposit (mpesaTxId accountId transaction : Nat)
  | repayment (mpesaTxId loanId : Nat)
  deriving DecidableEq, Repr

def Credit.mpesaTxId : Credit → Nat
  | .deposit mpesaTxId _ _ => mpesaTxId
  | .repayment mpesaTxId _ => mpesaTxId

/-- The answer of a manual match that succeeded. -/
structure MatchReport where
  mpesaTxId : Nat
  accountId : Nat
  transaction : Nat
  deriving DecidableEq, Repr

structure Desk where
  db : Db
  pushes : List (String × Int)
  credits : List Credit
  acknowledged : List String
  reports : List MatchReport
  deriving DecidableEq, Repr

abbrev DeskTx (α : Type) := Txn Desk Err α

def onDb {α : Type} (x : Tx α) : DeskTx α := zoom Desk.db (fun db desk => { desk with db }) x

def Desk.credit (desk : Desk) (c : Credit) : Desk := { desk with credits := desk.credits ++ [c] }

/-- What was posted for a row. -/
def Desk.creditsOf (desk : Desk) (mpesaTxId : Nat) : List Credit :=
  desk.credits.filter fun c => c.mpesaTxId == mpesaTxId

def Desk.acknowledge (desk : Desk) (checkoutRequestId : Option String) : Desk :=
  { desk with acknowledged := desk.acknowledged ++ checkoutRequestId.toList }

/-- What an account holds. -/
def Db.balance (db : Db) (accountId : Nat) : Option Int := db.accounts[accountId]?.map (·.balance)

def Db.insertMpesa (db : Db) (m : MpesaTransaction) : Db :=
  { db with mpesaTransactions := db.mpesaTransactions ++ [m] }

/-- Two values of a unique column are in each other's way unless they are null. -/
def clash {α : Type} [DecidableEq α] (a b : Option α) : Bool := a.isSome && a == b

/-- The unique columns of two rows. -/
abbrev MpesaTransaction.apart (m r : MpesaTransaction) : Prop :=
  r.reference ≠ m.reference ∧
    clash m.transactionId r.transactionId = false ∧
    clash m.checkoutRequestId r.checkoutRequestId = false ∧
    clash m.conversationId r.conversationId = false ∧
    clash m.mpesaReceiptNumber r.mpesaReceiptNumber = false

/-- `mpesaTransaction.create` under its unique columns. -/
def createMpesaTransaction (m : MpesaTransaction) : Tx Nat := do
  let db ← get
  ensure (∀ r ∈ db.mpesaTransactions, m.apart r) (.uniqueViolation "MpesaTransaction")
  modify (·.insertMpesa m)
  pure db.mpesaTransactions.length

/-! ## 3. The points of the services -/

/-- A PENDING row as the daily reconciliation has read it, with its age. -/
structure StaleRow where
  id : Nat
  row : MpesaTransaction
  age : Int
  pending : row.status = .pending
  deriving DecidableEq, Repr

structure StkCallback where
  checkoutRequestId : String
  resultCode : Int
  resultDesc : String
  mpesaReceiptNumber : Option String
  deriving DecidableEq, Repr

/-- `transAmount` is in KES. -/
structure C2bCallback where
  transId : String
  transAmount : ℚ
  billRefNumber : String
  msisdn : String
  deriving DecidableEq, Repr

/-- The parameters of `postLedgerEntry`; `checkoutRequestId` is that of the STK callback behind
the posting. -/
structure LedgerEntryParams where
  memberId : Option Nat
  accountReference : String
  amount : ℚ
  receipt : String
  mpesaTxId : Nat
  resultCode : Int
  resultDesc : String
  checkoutRequestId : Option String
  deriving DecidableEq, Repr

/-- What the repayment scheduler queues for a loan; the amount is in KES. -/
structure ScheduledStkPush where
  loanId : Nat
  memberId : Nat
  phone : String
  amount : ℚ
  accountReference : String
  deriving DecidableEq, Repr

/-- A payout to a phone; the amount is in KES. `sourceTransactionId` is the withdrawal that it pays
out, a loan payout has none. -/
structure MobilePayout where
  orderNumber : String
  referenceType : MpesaReferenceType
  referenceId : Nat
  memberId : Nat
  accountReference : String
  phone : String
  amount : ℚ
  sourceTransactionId : Option Nat
  deriving DecidableEq, Repr

inductive DepositTask
  | initiateDeposit (dto : MemberDepositDto) (memberId : Nat)
  | initiateSTKPush (dto : MemberDepositDto) (memberId : Nat) (accountRef : String)
  | initiateScheduledStkPush (payload : ScheduledStkPush)
  | createPayout (payout : MobilePayout)
  | createRow (row : MpesaTransaction)
  | persistStk (body : StkCallback)
  | handleStkCallback (body : StkCallback)
  | failStk (body : StkCallback) (mpesaTxId : Nat)
  | persistC2b (body : C2bCallback)
  | handleC2bCallback (body : C2bCallback) (persistedTxId : Option Nat)
  | findC2bAccounts (body : C2bCallback) (persistedTxId : Option Nat)
  | rejectC2b (body : C2bCallback) (persistedTxId : Option Nat) (resultCode : Int)
    (resultDesc : String)
  | writeC2b (body : C2bCallback) (persistedTxId : Option Nat) (memberId : Nat)
  | postLedgerEntry (params : LedgerEntryParams)
  | postDeposit (params : LedgerEntryParams) (accountNumber : String)
  | cleanupStaleStkTransactions
  | stkExpiry
  | runReconciliation (dateStart dateEnd : Int)
  | flagPending (rows : List StaleRow)
  | matchMpesaTransaction (mpesaTxId accountId : Nat) (actorId : String) (note : Option String)
  | matchAccount (mpesaTxId : Nat) (mpesaTx : MpesaTransaction) (accountId : Nat) (actorId : String)
    (note : Option String)
  | matchPost (mpesaTxId : Nat) (mpesaTx : MpesaTransaction) (accountId memberId : Nat)
    (actorId : String) (note : Option String)
  deriving DecidableEq

/-- The clock, and the checkout id that the provider answers a push with. -/
structure DepositInput where
  now : Int
  checkoutRequestId : Except String String
  deriving DecidableEq

/-! ## 4. The STK push -/

def buildAccountRef (dto : MemberDepositDto) : String :=
  match dto.purpose with
  | .loanRepayment => String.ofList (sliceUnits 30 (s!"LOAN-{dto.accountRef}").toList)
  | .savings => String.ofList (sliceUnits 30 dto.accountRef.toList)

def validateLoanForRepayment (loanReference : String) : Tx Unit := do
  let db ← get
  let (_, loan) ← required
    (Table.findRow (fun l => l.loanNumber == stripLoanPrefix loanReference) db.loans)
    (.notFound s!"Loan \"{stripLoanPrefix loanReference}\" not found")
  ensure (loan.status = .disbursed ∨ loan.status = .active)
    (.badRequest s!"Loan \"{stripLoanPrefix loanReference}\" is not in a repayable state")

/-- The first account with the number that is active. -/
def Db.activeAccountByNumber (db : Db) (accountNumber : String) : Option (Nat × Account) :=
  Table.findRow (fun a => a.accountNumber == accountNumber && a.isActive) db.accounts

def verifyAccountRef (purpose : DepositPurpose) (accountRef : String) : Tx Unit :=
  match purpose with
  | .loanRepayment => validateLoanForRepayment accountRef
  | .savings => do
    let db ← get
    let _ ← required (db.activeAccountByNumber accountRef)
      (.notFound s!"Account \"{accountRef}\" not found or inactive")

def initiateDeposit (dto : MemberDepositDto) (memberId : Nat) : DeskTx (Option DepositTask) := do
  onDb (verifyAccountRef dto.purpose (buildAccountRef dto))
  pure (some (.initiateSTKPush dto memberId (buildAccountRef dto)))

/-- The row of a push. It keeps the amount that was asked for, not the one that was charged. -/
def MemberDepositDto.row (dto : MemberDepositDto) (memberId : Nat)
    (accountRef checkoutRequestId : String) (now : Int) : MpesaTransaction where
  type := .stkPush
  reference := buildMpesaRef.stk checkoutRequestId
  memberId := some memberId
  checkoutRequestId := some checkoutRequestId
  accountReference := some accountRef
  phoneNumber := dto.phoneNumber
  amount := toDecimalPlaces4 dto.amount
  createdAt := now

/-- The provider charges whole shillings. -/
def initiateSTKPush (dto : MemberDepositDto) (memberId : Nat) (accountRef : String)
    (answer : Except String String) (now : Int) : DeskTx (Option DepositTask) :=
  match answer with
  | .error _ => pure none
  | .ok checkoutRequestId => do
    modify fun desk => { desk with pushes := desk.pushes ++ [(checkoutRequestId, dto.charged)] }
    pure (some (.createRow (dto.row memberId accountRef checkoutRequestId now)))

/-- A row gets its `createdAt` from the insert. -/
def createRow (row : MpesaTransaction) (now : Int) : DeskTx (Option DepositTask) := do
  let _ ← onDb (createMpesaTransaction { row with createdAt := now })
  pure none

/-- A push for an instalment. Its row is that of the loan. -/
def ScheduledStkPush.row (payload : ScheduledStkPush) (checkoutRequestId : String) (now : Int) :
    MpesaTransaction where
  type := .stkPush
  reference := buildMpesaRef.stk checkoutRequestId
  loanId := some payload.loanId
  memberId := some payload.memberId
  checkoutRequestId := some checkoutRequestId
  accountReference := some payload.accountReference
  phoneNumber := payload.phone
  amount := toDecimalPlaces4 payload.amount
  createdAt := now

/-- The provider is asked for the amount as it is. -/
def initiateScheduledStkPush (payload : ScheduledStkPush) (answer : Except String String)
    (now : Int) : DeskTx (Option DepositTask) :=
  match answer with
  | .error _ => pure none
  | .ok checkoutRequestId => do
    modify fun desk =>
      { desk with pushes := desk.pushes ++ [(checkoutRequestId, toDecimalPlaces4 payload.amount)] }
    pure (some (.createRow (payload.row checkoutRequestId now)))

/-- The row of a payout. It refers to the withdrawal from the start. -/
def MobilePayout.row (payout : MobilePayout) (now : Int) : MpesaTransaction where
  type := .b2c
  reference := buildMpesaRef.b2c payout.orderNumber
  referenceType := some payout.referenceType
  referenceId := some payout.referenceId
  transactionId := payout.sourceTransactionId
  memberId := some payout.memberId
  conversationId := some payout.orderNumber
  accountReference := some payout.accountReference
  phoneNumber := payout.phone
  amount := toDecimalPlaces4 payout.amount
  providerSubmissionState := some .localCreated
  reconciliationDueAt := some (now + 30 * 60 * 1000)
  createdAt := now

def createPayout (payout : MobilePayout) (now : Int) : DeskTx (Option DepositTask) :=
  createRow (payout.row now) now

/-! ## 5. The STK callback -/

/-- The row of a checkout. -/
def Db.mpesaByCheckout (db : Db) (checkoutRequestId : String) : Option (Nat × MpesaTransaction) :=
  Table.findRow (fun m => m.checkoutRequestId == some checkoutRequestId) db.mpesaTransactions

/-- A callback is only accepted for a checkout that has its row. -/
def persistStk (body : StkCallback) : DeskTx (Option DepositTask) := do
  let desk ← get
  let _ ← required (desk.db.mpesaByCheckout body.checkoutRequestId)
    (.notFound ("STK callback has no MpesaTransaction for CheckoutRequestID=" ++
      body.checkoutRequestId))
  pure (some (.handleStkCallback body))

/-- A handler that ends here has handled the callback. -/
def stkHandled (body : StkCallback) : DeskTx (Option DepositTask) := do
  if body.resultCode = 0 then modify (·.acknowledge (some body.checkoutRequestId))
  pure none

def handleStkCallback (body : StkCallback) : DeskTx (Option DepositTask) := do
  let desk ← get
  match desk.db.mpesaByCheckout body.checkoutRequestId with
  | none => stkHandled body
  | some (mpesaTxId, mpesaTx) =>
    if mpesaTx.status ≠ .pending then stkHandled body
    else if body.resultCode ≠ 0 then pure (some (.failStk body mpesaTxId))
    else do
      let receipt ←
        match body.mpesaReceiptNumber with
        | some receipt => pure receipt
        | none => onDb uuidv4
      pure (some (.postLedgerEntry
        { memberId := mpesaTx.memberId
          accountReference := mpesaTx.accountReference.getD ""
          amount := ofUnits mpesaTx.amount
          receipt
          mpesaTxId
          resultCode := body.resultCode
          resultDesc := body.resultDesc
          checkoutRequestId := some body.checkoutRequestId }))

/-- `updateMany` on the row while it is PENDING. -/
def failStk (body : StkCallback) (mpesaTxId : Nat) : DeskTx (Option DepositTask) := do
  let desk ← get
  match desk.db.mpesaTransactions[mpesaTxId]?.filter (·.status = .pending) with
  | none => pure none
  | some _ => do
    onDb (modify (·.updateMpesa mpesaTxId fun m =>
      { m with
        status := .failed
        resultCode := some body.resultCode
        resultDesc := some body.resultDesc }))
    pure none

/-! ## 6. The C2B callback -/

/-- `upsert` on the reference: the row is PENDING when it is new. -/
def persistC2b (body : C2bCallback) (now : Int) : DeskTx (Option DepositTask) := do
  let desk ← get
  match Table.findRow (fun m => m.reference == buildMpesaRef.c2b body.transId)
      desk.db.mpesaTransactions with
  | some (id, _) => pure (some (.handleC2bCallback body (some id)))
  | none => do
    let id ← onDb (createMpesaTransaction
      { type := .c2b
        reference := buildMpesaRef.c2b body.transId
        phoneNumber := body.msisdn
        amount := toDecimalPlaces4 body.transAmount
        accountReference := some body.billRefNumber
        mpesaReceiptNumber := some body.transId
        createdAt := now })
    pure (some (.handleC2bCallback body (some id)))

def handleC2bCallback (body : C2bCallback) (persistedTxId : Option Nat) :
    DeskTx (Option DepositTask) := do
  let desk ← get
  match Table.findRow (fun m => m.mpesaReceiptNumber == some body.transId)
      desk.db.mpesaTransactions with
  | some (id, existing) =>
    if some id ≠ persistedTxId then pure none
    else if existing.status ≠ .pending then pure none
    else pure (some (.findC2bAccounts body persistedTxId))
  | none => pure (some (.findC2bAccounts body persistedTxId))

def findC2bAccounts (body : C2bCallback) (persistedTxId : Option Nat) :
    DeskTx (Option DepositTask) := do
  let desk ← get
  match desk.db.accounts.filter (·.accountNumber == body.billRefNumber) with
  | [] =>
    pure (some (.rejectC2b body persistedTxId 9999
      "Account not found - requires manual reconciliation"))
  | [account] => pure (some (.writeC2b body persistedTxId account.memberId))
  | _ =>
    pure (some (.rejectC2b body persistedTxId 9998
      "Cross-tenant account collision - requires manual reconciliation"))

/-- The row that a C2B callback writes when it has none yet. -/
def C2bCallback.row (body : C2bCallback) (now : Int) : MpesaTransaction where
  type := .c2b
  reference := buildMpesaRef.c2b body.transId
  accountReference := some body.billRefNumber
  phoneNumber := body.msisdn
  amount := toDecimalPlaces4 body.transAmount
  mpesaReceiptNumber := some body.transId
  createdAt := now

/-- The row is rejected by its id, whatever its status is by now. -/
def rejectC2b (body : C2bCallback) (persistedTxId : Option Nat) (resultCode : Int)
    (resultDesc : String) (now : Int) : DeskTx (Option DepositTask) := do
  match persistedTxId with
  | some id =>
    onDb (updateMpesaTransaction id fun m =>
      { m with
        status := .failed
        resultCode := some resultCode
        resultDesc := some resultDesc })
    pure none
  | none => do
    let _ ← onDb (createMpesaTransaction
      { body.row now with
        status := .failed
        resultCode := some resultCode
        resultDesc := some resultDesc })
    pure none

/-- So is the row that is about to be posted, which goes back to PENDING. -/
def writeC2b (body : C2bCallback) (persistedTxId : Option Nat) (memberId : Nat) (now : Int) :
    DeskTx (Option DepositTask) := do
  let mpesaTxId ←
    match persistedTxId with
    | some id => do
      onDb (updateMpesaTransaction id fun m =>
        { m with
          type := .c2b
          reference := buildMpesaRef.c2b body.transId
          memberId := some memberId
          phoneNumber := body.msisdn
          amount := toDecimalPlaces4 body.transAmount
          accountReference := some body.billRefNumber
          mpesaReceiptNumber := some body.transId
          status := .pending })
      pure id
    | none => onDb (createMpesaTransaction { body.row now with memberId := some memberId })
  pure (some (.postLedgerEntry
    { memberId := some memberId
      accountReference := body.billRefNumber
      amount := body.transAmount
      receipt := body.transId
      mpesaTxId
      resultCode := 0
      resultDesc := "Success"
      checkoutRequestId := none }))

/-! ## 7. Posting -/

/-- The repayment that `postLedgerEntry` hands over. -/
def LedgerEntryParams.repayment (params : LedgerEntryParams) : ProcessRepaymentInput where
  reference := s!"MPESA-{params.receipt}"
  amount := some params.amount
  processedBy := "MPESA_SYSTEM"
  memberId := params.memberId
  loanNumber := some (parseReference params.accountReference).target
  accountReference := some params.accountReference
  mpesaTxId := some params.mpesaTxId
  receipt := some params.receipt
  resultCode := some params.resultCode
  resultDesc := some params.resultDesc

/-- A repayment is posted here; a deposit needs the number of its account first. -/
def postLedgerEntry (params : LedgerEntryParams) (now : Int) : DeskTx (Option DepositTask) := do
  let parsed := parseReference params.accountReference
  let desk ← get
  if parsed.isLoanRepayment = true then do
    let result ← onDb (processRepayment now params.repayment)
    modify fun after =>
      if desk.db.transactions.length < after.db.transactions.length then
        after.credit (.repayment params.mpesaTxId result.loanId)
      else after
    modify (·.acknowledge params.checkoutRequestId)
    pure none
  else if parsed.isMemberIdDeposit = true then do
    let (_, account) ← required
      (Table.findRow (fun a => toString a.memberId == parsed.target && a.accountType == .fosa &&
        a.isActive) desk.db.accounts)
      (.notFound s!"No FOSA account for member {parsed.target}")
    pure (some (.postDeposit params account.accountNumber))
  else pure (some (.postDeposit params parsed.target))

def LedgerEntryParams.depositReference (params : LedgerEntryParams) (tenantId : String) : String :=
  s!"MPESA_DEP-{params.receipt}-{tenantId}"

def LedgerEntryParams.posting (params : LedgerEntryParams) (tenantId : String) (accountId : Nat) :
    PostEntryParams where
  reference := params.depositReference tenantId
  journalType := .mpesaDeposit
  accountId := accountId
  amount := params.amount
  direction := .credit
  description := some s!"M-Pesa deposit – {params.receipt}"

/-- The row of a posted deposit, by its id. -/
def LedgerEntryParams.settle (params : LedgerEntryParams) (transactionId : Nat)
    (m : MpesaTransaction) : MpesaTransaction :=
  { m with
    transactionId := some transactionId
    status := .completed
    resultCode := some params.resultCode
    resultDesc := some params.resultDesc
    mpesaReceiptNumber := some params.receipt }

/-- The posting and the update of the row are one transaction. When there is no active account
the callback is dropped. -/
def postDeposit (params : LedgerEntryParams) (accountNumber : String) :
    DeskTx (Option DepositTask) := do
  let desk ← get
  match desk.db.activeAccountByNumber accountNumber with
  | none => pure ()
  | some (accountId, _) => do
    let posted ← onDb (postEntry (params.posting desk.db.tenantId accountId))
    onDb (updateMpesaTransaction params.mpesaTxId (params.settle posted.transaction))
    if posted.replayed = false then
      modify (·.credit (.deposit params.mpesaTxId accountId posted.transaction))
  modify (·.acknowledge params.checkoutRequestId)
  pure none

/-! ## 8. The sweeps and the daily reconciliation -/

/-- The rows a sweep fails: STK pushes that are PENDING and older than the cutoff. -/
def MpesaTransaction.stalePush (m : MpesaTransaction) (cutoff : Int) : Bool :=
  m.type == .stkPush && m.status == .pending && m.createdAt < cutoff

def Db.sweepPushes (db : Db) (cutoff : Int) (f : MpesaTransaction → MpesaTransaction) : Db :=
  { db with
    mpesaTransactions := db.mpesaTransactions.map fun m =>
      if m.stalePush cutoff = true then f m else m }

/-- Every two minutes, two minutes after the push. -/
def cleanupStaleStkTransactions (now : Int) : DeskTx (Option DepositTask) := do
  onDb (modify (·.sweepPushes (now - 2 * 60 * 1000) fun m =>
    { m with
      status := .failed
      resultCode := some 17
      resultDesc := some "STK Push expired – user did not complete payment within 2 minutes" }))
  pure none

/-- The expiry job, ten minutes after the push. -/
def stkExpiry (now : Int) : DeskTx (Option DepositTask) := do
  onDb (modify (·.sweepPushes (now - 10 * 60 * 1000) fun m =>
    { m with
      status := .failed
      failureReason := some "STK_TIMEOUT_SWEEP"
      resultDesc := some "STK push timed out without a Daraja callback" }))
  pure none

/-- The rows of the day that have been PENDING for more than two hours. -/
def Db.stalePending (db : Db) (dateStart dateEnd now : Int) : List StaleRow :=
  db.mpesaTransactions.zipIdx.filterMap fun (row, id) =>
    if pending : row.status = .pending then
      let age := now - row.createdAt
      if dateStart ≤ row.createdAt ∧ row.createdAt ≤ dateEnd ∧ 120 * 60 * 1000 < age then
        some ⟨id, row, age, pending⟩
      else none
    else none

/-- `runReconciliation` reads the rows of a day once. -/
def runReconciliation (dateStart dateEnd now : Int) : DeskTx (Option DepositTask) := do
  let desk ← get
  pure (some (.flagPending (desk.db.stalePending dateStart dateEnd now)))

/-- Then it flags them one by one, by id. -/
def flagPending (rows : List StaleRow) : DeskTx (Option DepositTask) :=
  match rows with
  | [] => pure none
  | stale :: rows => do
    onDb (modify (·.updateMpesa stale.id fun m =>
      { m with
        status := .reconPending
        resultDesc := some s!"Stale PENDING after {stale.age / 60000} minutes" }))
    pure (some (.flagPending rows))

/-! ## 9. Manual matching -/

def matchMpesaTransaction (mpesaTxId accountId : Nat) (actorId : String) (note : Option String) :
    DeskTx (Option DepositTask) := do
  let desk ← get
  let mpesaTx ← required
    (desk.db.mpesaTransactions[mpesaTxId]?.filter fun m =>
      m.status = .reconPending ∧ m.transactionId = none)
    (.notFound (s!"RECON_PENDING M-Pesa transaction {mpesaTxId} not found, already matched, " ++
      "or belongs to a different tenant"))
  pure (some (.matchAccount mpesaTxId mpesaTx accountId actorId note))

def matchAccount (mpesaTxId : Nat) (mpesaTx : MpesaTransaction) (accountId : Nat)
    (actorId : String) (note : Option String) : DeskTx (Option DepositTask) := do
  let desk ← get
  let account ← required (desk.db.accounts[accountId]?.filter (·.isActive))
    (.notFound s!"Active account {accountId} not found in this tenant")
  pure (some (.matchPost mpesaTxId mpesaTx accountId account.memberId actorId note))

def matchNote (note : Option String) : String := (note.map jsTrim).getD "No note provided"

def matchDescription (mpesaTxId : Nat) (mpesaTx : MpesaTransaction) (note : Option String) :
    String :=
  s!"Manual M-Pesa reconciliation - receipt " ++
    s!"{mpesaTx.mpesaReceiptNumber.getD (toString mpesaTxId)} - {matchNote note}"

/-- The statement row of a manual match. -/
def matchTransaction (mpesaTxId : Nat) (mpesaTx : MpesaTransaction) (accountId : Nat)
    (balance : Int) (actorId : String) (note : Option String) : Transaction where
  accountId := accountId
  loanId := none
  type := .deposit
  status := .completed
  amount := mpesaTx.amount
  balanceBefore := balance
  balanceAfter := balance + mpesaTx.amount
  reference := s!"MPESA-RECON-{mpesaTxId}"
  description := matchDescription mpesaTxId mpesaTx note
  processedBy := some actorId
  linkedTransactionId := none

/-- Its journal entry: the credit goes to code 2000. -/
def matchEntry (mpesaTxId : Nat) (mpesaTx : MpesaTransaction) (transactionId : Nat)
    (actorId : String) (note : Option String) : JournalEntry where
  entryNumber := s!"JE-MPESA-RECON-{mpesaTxId}"
  type := .mpesaDeposit
  description := matchDescription mpesaTxId mpesaTx note
  referenceType := "TRANSACTION"
  referenceId := transactionId
  totalAmount := mpesaTx.amount
  createdById := actorId
  reversalOfJournalEntryId := none
  postings :=
    [{ debitCode := "1000"
       creditCode := "2000"
       amount := mpesaTx.amount
       description := s!"Manual M-Pesa reconciliation - MPESA-RECON-{mpesaTxId}" }]

/-- The Serializable transaction of a match: the transaction found or made, and whether it is
new. -/
def matchBody (mpesaTxId : Nat) (mpesaTx : MpesaTransaction) (accountId memberId : Nat)
    (actorId : String) (note : Option String) : Tx (Nat × Bool) := do
  let db ← get
  match db.transactionByReference s!"MPESA-RECON-{mpesaTxId}" with
  | some (dup, _) => pure (dup, false)
  | none => do
    let freshAccount ← required (db.accounts[accountId]?.filter (·.isActive))
      (.notFound s!"Account {accountId} disappeared during transaction")
    modify (·.updateAccount accountId (·.move mpesaTx.amount))
    let ledgerTx ← createTransaction
      (matchTransaction mpesaTxId mpesaTx accountId freshAccount.balance actorId note)
    ensure ((∃ g ∈ db.glAccounts, g.code = "1000" ∧ g.isActive = true) ∧
        (∃ g ∈ db.glAccounts, g.code = "2000" ∧ g.isActive = true))
      (.badRequest "Required system GL accounts are not configured for this tenant")
    let _ ← createJournalEntry (matchEntry mpesaTxId mpesaTx ledgerTx actorId note)
    updateMpesaTransaction mpesaTxId fun m =>
      { m with
        transactionId := some ledgerTx
        memberId := mpesaTx.memberId.or (some memberId)
        status := .completed
        resultDesc := some s!"Manually reconciled - {matchNote note}" }
    pure (ledgerTx, true)

def matchPost (mpesaTxId : Nat) (mpesaTx : MpesaTransaction) (accountId memberId : Nat)
    (actorId : String) (note : Option String) : DeskTx (Option DepositTask) := do
  let (transaction, isNew) ← onDb (matchBody mpesaTxId mpesaTx accountId memberId actorId note)
  if isNew = true then modify (·.credit (.deposit mpesaTxId accountId transaction))
  modify fun desk => { desk with reports := desk.reports ++ [⟨mpesaTxId, accountId, transaction⟩] }
  pure none

/-! ## 10. The world -/

def DepositTask.next : DepositTask → DepositInput → DeskTx (Option DepositTask)
  | .initiateDeposit dto memberId, _ => BebaSacco.initiateDeposit dto memberId
  | .initiateSTKPush dto memberId accountRef, input =>
    BebaSacco.initiateSTKPush dto memberId accountRef input.checkoutRequestId input.now
  | .initiateScheduledStkPush payload, input =>
    BebaSacco.initiateScheduledStkPush payload input.checkoutRequestId input.now
  | .createPayout payout, input => BebaSacco.createPayout payout input.now
  | .createRow row, input => BebaSacco.createRow row input.now
  | .persistStk body, _ => BebaSacco.persistStk body
  | .handleStkCallback body, _ => BebaSacco.handleStkCallback body
  | .failStk body mpesaTxId, _ => BebaSacco.failStk body mpesaTxId
  | .persistC2b body, input => BebaSacco.persistC2b body input.now
  | .handleC2bCallback body persistedTxId, _ => BebaSacco.handleC2bCallback body persistedTxId
  | .findC2bAccounts body persistedTxId, _ => BebaSacco.findC2bAccounts body persistedTxId
  | .rejectC2b body persistedTxId resultCode resultDesc, input =>
    BebaSacco.rejectC2b body persistedTxId resultCode resultDesc input.now
  | .writeC2b body persistedTxId memberId, input =>
    BebaSacco.writeC2b body persistedTxId memberId input.now
  | .postLedgerEntry params, input => BebaSacco.postLedgerEntry params input.now
  | .postDeposit params accountNumber, _ => BebaSacco.postDeposit params accountNumber
  | .cleanupStaleStkTransactions, input => BebaSacco.cleanupStaleStkTransactions input.now
  | .stkExpiry, input => BebaSacco.stkExpiry input.now
  | .runReconciliation dateStart dateEnd, input =>
    BebaSacco.runReconciliation dateStart dateEnd input.now
  | .flagPending rows, _ => BebaSacco.flagPending rows
  | .matchMpesaTransaction mpesaTxId accountId actorId note, _ =>
    BebaSacco.matchMpesaTransaction mpesaTxId accountId actorId note
  | .matchAccount mpesaTxId mpesaTx accountId actorId note, _ =>
    BebaSacco.matchAccount mpesaTxId mpesaTx accountId actorId note
  | .matchPost mpesaTxId mpesaTx accountId memberId actorId note, _ =>
    BebaSacco.matchPost mpesaTxId mpesaTx accountId memberId actorId note

/-- What sets a process off. A callback is delivered any number of times; one without a row of its
own is a job from before the inbox. -/
inductive DepositCall
  | deposit (dto : MemberDepositDto) (memberId : Nat)
  | scheduledPush (payload : ScheduledStkPush)
  | payout (mobilePayout : MobilePayout)
  | stkCallback (body : StkCallback)
  | c2bCallback (body : C2bCallback)
  | legacyC2b (body : C2bCallback)
  | timeoutSweep
  | expirySweep
  | reconciliation (dateStart dateEnd : Int)
  | manualMatch (mpesaTxId accountId : Nat) (actorId : String) (note : Option String)
  deriving DecidableEq

def DepositCall.entry : DepositCall → DepositTask
  | .deposit dto memberId => .initiateDeposit dto memberId
  | .scheduledPush payload => .initiateScheduledStkPush payload
  | .payout mobilePayout => .createPayout mobilePayout
  | .stkCallback body => .persistStk body
  | .c2bCallback body => .persistC2b body
  | .legacyC2b body => .handleC2bCallback body none
  | .timeoutSweep => .cleanupStaleStkTransactions
  | .expirySweep => .stkExpiry
  | .reconciliation dateStart dateEnd => .runReconciliation dateStart dateEnd
  | .manualMatch mpesaTxId accountId actorId note =>
    .matchMpesaTransaction mpesaTxId accountId actorId note

def deposits : Process.Program Desk Err DepositCall DepositInput DepositTask where
  entry := DepositCall.entry
  next := DepositTask.next

abbrev DepositWorld := Process.World Desk DepositTask

abbrev DepositEvent := Process.Event DepositCall DepositInput

/-- The desk of a tenant before its first deposit. -/
def DepositWorld.opening (db : Db) : DepositWorld := ⟨⟨db, [], [], [], []⟩, []⟩

def DepositWorld.after (w : DepositWorld) (events : List DepositEvent) : DepositWorld :=
  Machine.run deposits.step w events

end BebaSacco
