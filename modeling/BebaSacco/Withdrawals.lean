import BebaSacco.Deposits

/-! # Money that goes out by M-Pesa

A withdrawal debits the account and leaves a payout intent. A worker takes up the intent's job,
inserts the M-Pesa row of the payout and sends the payout to the provider, whose answer may get
lost. From then on a callback, a status query, a timeout, the reconciliation sweep, the daily
reconciliation or an officer settles the row; a payout that failed has its debit reversed. Each of
them reads first and writes in a later statement, so the model is a world of processes over the
tables. A statement that throws goes on in the `catch` around it when there is one.

The queue delivers at least once: the job of an intent may be taken up any number of times.
-/

namespace BebaSacco

open Txn

/-! ## 1. What the provider says -/

/-- A Kenyan number without its country code. -/
def isValidKenyanLocal9 (digits : List Char) : Bool :=
  digits.length == 9 && (digits.head? == some '7' || digits.head? == some '1')

/-- The number with its country code, if it is one. -/
def normalizePhone (raw : String) : Option String :=
  let original := jsTrim raw
  let kept := original.toList.filter fun c => c.isDigit || c == '+'
  let digits := if kept.head? = some '+' then kept.tail else kept
  if original = "" ∨ original = "0" then none
  else if "254".toList.isPrefixOf digits = true ∧ digits.length = 12 then
    if isValidKenyanLocal9 (digits.drop 3) = true then some (String.ofList digits) else none
  else if digits.head? = some '0' ∧ digits.length = 10 then
    if isValidKenyanLocal9 (digits.drop 1) = true then
      some ("254" ++ String.ofList (digits.drop 1))
    else none
  else if digits.length = 9 ∧ digits.head? = some '7' then some ("254" ++ String.ofList digits)
  else none

def maskPhone (phone : String) : String :=
  if phone.length < 4 then "254***????"
  else s!"254***{String.ofList (phone.toList.drop (phone.length - 4))}"

/-- A letter in upper case; the three that turn into ASCII letters are spelled out. -/
def jsToUpper (c : Char) : List Char :=
  if c = 'ı' then ['I'] else if c = 'ſ' then ['S'] else if c = 'ß' then ['S', 'S']
  else [c.toUpper]

/-- An answer of the provider, with the fields that are looked for anywhere in it. The amount is in
KES. -/
structure MwaloniResponse where
  status : String
  message : Option String := none
  orderNumber : Option String := none
  amount : Option ℚ := none
  phone : Option String := none
  deriving DecidableEq, Repr

def isMwaloniSuccess (status : String) : Bool := status == "00"

def isMwaloniPending (status : String) : Bool :=
  ["02", "03", "PENDING", "PROCESSING", "QUEUED", "IN_PROGRESS"].contains
    (String.ofList (status.toList.flatMap jsToUpper))

/-- Both are there, and they differ. -/
def differ (a b : Option String) : Bool := a.isSome && b.isSome && a != b

def findMwaloniResponseMismatches (mpesaTx : MpesaTransaction) (response : MwaloniResponse) :
    List String :=
  (if differ response.orderNumber mpesaTx.conversationId = true then ["ORDER_NUMBER_MISMATCH"]
    else []) ++
  (if ∃ amount ∈ response.amount, toDecimalPlaces4 amount ≠ mpesaTx.amount then
    ["AMOUNT_MISMATCH"] else []) ++
  (if differ (response.phone.bind normalizePhone) (normalizePhone mpesaTx.phoneNumber) = true then
    ["PHONE_MISMATCH"] else [])

/-- The result of a payout as the callback brings it. `amount` is the text of the amount read as a
number, if there is a digit in it; `receiverPhone` is the number found in the receiver's name. -/
structure B2cCallback where
  conversationId : String
  resultCode : Int
  resultDesc : String
  transactionId : Option String := none
  transactionReceipt : Option String := none
  amount : Option (Option ℚ) := none
  receiverPhone : Option String := none
  deriving DecidableEq, Repr

def findB2cCallbackMismatches (mpesaTx : MpesaTransaction) (body : B2cCallback) : List String :=
  (if ∃ amount ∈ body.amount, amount.map toDecimalPlaces4 ≠ some mpesaTx.amount then
    ["AMOUNT_MISMATCH"] else []) ++
  (if differ body.receiverPhone (normalizePhone mpesaTx.phoneNumber) = true then
    ["PHONE_MISMATCH"] else [])

/-! ## 2. The desk -/

inductive ReconTrigger | automated | manualRefresh | manualComplete | manualReverse
  deriving DecidableEq, Repr

/-- One attempt to settle the payout of a row; `attemptNumber` is unique for the row. -/
structure MpesaWithdrawalReconciliationAttempt where
  mpesaTransactionId : Nat
  attemptNumber : Nat
  triggerType : ReconTrigger
  actorId : Option String
  startedAt : Int
  completedAt : Option Int := none
  providerRequestReference : Option String
  oldStatus : TransactionStatus
  newStatus : Option TransactionStatus := none
  reasonCode : Option String := none
  errorCategory : Option String := none
  nextRetryAt : Option Int := none
  deriving DecidableEq, Repr

/-- What an intent asks to be paid out: `amount` units from the account `referenceId`, which the
transaction `sourceTransactionId` debited. -/
structure PayoutIntent where
  referenceId : Nat
  sourceTransactionId : Nat
  phoneNumber : String
  amount : Int
  triggeredBy : String
  deriving DecidableEq, Repr

/-- The tables, and next to them the rows for which `sendMobile` was called, in order. -/
structure PayoutDesk where
  db : Db
  intents : List PayoutIntent
  attempts : List MpesaWithdrawalReconciliationAttempt
  sends : List Nat
  deriving DecidableEq, Repr

abbrev PayoutTx (α : Type) := Txn PayoutDesk Err α

def onTables {α : Type} (x : Tx α) : PayoutTx α :=
  zoom PayoutDesk.db (fun db desk => { desk with db }) x

def MpesaTransaction.unsettled (m : MpesaTransaction) : Bool :=
  m.status == .pending || m.status == .reconPending

/-- `updateMany` on the row while it meets `c`: whether it did. -/
def claimMpesa (id : Nat) (c : MpesaTransaction → Bool)
    (f : MpesaTransaction → MpesaTransaction) : Tx Bool := do
  let db ← get
  match db.mpesaTransactions[id]?.filter c with
  | none => pure false
  | some _ => do
    updateMpesaTransaction id f
    pure true

def Db.mpesaByTransaction (db : Db) (transactionId : Nat) : Option (Nat × MpesaTransaction) :=
  Table.findRow (fun m => m.transactionId == some transactionId) db.mpesaTransactions

def Db.mpesaByConversation (db : Db) (conversationId : String) : Option (Nat × MpesaTransaction) :=
  Table.findRow (fun m => m.conversationId == some conversationId) db.mpesaTransactions

/-- What an operator can set; the times are in milliseconds. -/
structure ReconConfig where
  lockTtlMs : Int := 300000
  retryIntervalMs : Int := 15 * 60000
  manualReviewMs : Int := 120 * 60000
  pendingThresholdMs : Int := 30 * 60000
  maxAttempts : Nat := 5
  deriving DecidableEq, Repr

/-! ## 3. The points of the services -/

/-- A request that the API admits; the amount is in KES. -/
structure WithdrawMpesa where
  memberId : Nat
  userId : String
  phone : String
  amount : ℚ
  idempotencyKey : String
  deriving DecidableEq, Repr

/-- A run of `reconcileTransaction`; `rest` are the rows its sweep has still to do. -/
structure ReconRun where
  mpesaTransactionId : Nat
  trigger : ReconTrigger
  actorId : String
  rest : List Nat
  deriving DecidableEq, Repr

/-- A run that has its attempt, with the row as the run read it. -/
structure ReconAttempt where
  run : ReconRun
  attemptId : Nat
  claimed : MpesaTransaction
  deriving DecidableEq, Repr

/-- What a status query found. -/
structure ProviderStatus where
  refreshed : Bool
  terminal : Bool
  status : Option TransactionStatus := none
  deriving DecidableEq, Repr

structure B2cTimeoutJob where
  referenceId : Nat
  conversationId : String
  deriving DecidableEq, Repr

/-- Who applies an answer of the provider: the call that sent the payout, or a status query by the
reconciliation, by the timeout job, or by a caller that drops the result. -/
inductive StatusCaller
  | send (mpesaTxId : Nat)
  | reconcile (attempt : ReconAttempt)
  | timeout (job : B2cTimeoutJob)
  | other
  deriving DecidableEq, Repr

structure ReconOutcome where
  reasonCode : String
  errorCategory : Option String := none
  nextRetryAt : Option Int := none
  manualReviewRequired : Option Bool := none
  deriving DecidableEq, Repr

/-- What `completeAttemptAndSchedule` writes. -/
structure AttemptResult where
  reasonCode : String
  errorCategory : Option String
  newStatus : TransactionStatus
  nextRetryAt : Option Int
  manualReviewRequired : Bool
  deriving DecidableEq, Repr

/-- What a run does when its attempt is completed: an alert, an audit entry, or nothing more, which
is so in the `catch`. -/
inductive AfterCompletion | alert | audit | leave
  deriving DecidableEq, Repr

/-- The evidence of an officer. -/
structure ManualReconciliationEvidenceDto where
  reason : String
  evidenceReference : String
  deriving DecidableEq, Repr

inductive PayoutTask
  | executeWithdrawMpesa (request : WithdrawMpesa)
  | executeB2cDisbursement (intent : Nat)
  | findDispatched (payout : MobilePayout) (source : Nat)
  | executeMwaloniMobilePayout (payout : MobilePayout)
  | createB2c (payout : MobilePayout)
  | claimSend (mpesaTxId : Nat) (payout : MobilePayout)
  | sendMobile (mpesaTxId : Nat) (payout : MobilePayout)
  | markAccepted (mpesaTxId : Nat) (response : MwaloniResponse)
  | markMwaloniOutcomeUnknown (mpesaTxId : Nat) (reason : String)
  | refreshMwaloniB2cStatus (mpesaTxId : Nat) (caller : StatusCaller)
  | getStatus (mpesaTxId : Nat) (caller : StatusCaller)
  | applyMwaloniStatus (mpesaTxId : Nat) (response : MwaloniResponse) (caller : StatusCaller)
  | markMwaloniMismatchReconciliation (mpesaTxId : Nat) (message : String) (caller : StatusCaller)
  | completeMwaloniTransaction (mpesaTxId : Nat) (message : String) (caller : StatusCaller)
  | noteMwaloniPending (mpesaTxId : Nat) (message : String) (caller : StatusCaller)
  | failMwaloniTransaction (mpesaTxId : Nat) (status message : String) (caller : StatusCaller)
  | b2cTimeout (job : B2cTimeoutJob)
  | markTimeout (job : B2cTimeoutJob)
  | handleB2cCallback (body : B2cCallback)
  | markB2cCallbackMismatch (body : B2cCallback) (mpesaTxId : Nat)
  | refundB2c (body : B2cCallback) (mpesaTxId transactionId : Nat)
  | markNoLinkedLedger (body : B2cCallback) (mpesaTxId : Nat)
  | failB2c (body : B2cCallback) (mpesaTxId : Nat)
  | completeB2c (body : B2cCallback) (mpesaTxId : Nat)
  | runAutomatedSweep
  | selectEligible
  | refreshProviderStatus (mpesaTxId : Nat) (actorId : String)
  | claim (run : ReconRun)
  | readClaimed (run : ReconRun)
  | createAttempt (run : ReconRun) (claimed : MpesaTransaction)
  | auditStarted (attempt : ReconAttempt)
  | auditQueried (attempt : ReconAttempt)
  | readOutcome (attempt : ReconAttempt) (providerStatus : ProviderStatus)
  | completeAttempt (attempt : ReconAttempt) (outcome : ReconOutcome) (after : AfterCompletion)
  | scheduleAttempt (attempt : ReconAttempt) (result : AttemptResult) (after : AfterCompletion)
  | raiseOperationalAlert (attempt : ReconAttempt)
  | auditOutcome (attempt : ReconAttempt)
  | markCompletedWithEvidence (mpesaTxId : Nat) (actorId : String)
    (dto : ManualReconciliationEvidenceDto)
  | completeByHand (mpesaTxId : Nat) (row : MpesaTransaction) (actorId : String)
    (dto : ManualReconciliationEvidenceDto)
  | reverseConfirmedFailure (mpesaTxId : Nat) (actorId : String)
    (dto : ManualReconciliationEvidenceDto)
  | reverseByHand (mpesaTxId : Nat) (row : MpesaTransaction) (transactionId : Nat)
    (actorId : String) (dto : ManualReconciliationEvidenceDto)
  | runReconciliation (dateStart dateEnd : Int)
  | flagPending (rows : List StaleRow)
  deriving DecidableEq, Repr

/-- What a statement gets from outside: the clock, whether the provider's wallet is enabled, the
provider's answer to a call, and whether the database refuses the statement. -/
structure PayoutInput where
  now : Int
  enabled : Bool := true
  provider : Except String MwaloniResponse := .error "no answer"
  down : Bool := false
  deriving DecidableEq

/-! ## 4. The withdrawal and its payout -/

def Account.availableForWithdrawal (a : Account) : Int :=
  max 0 (a.balance - a.lockedBalance - a.frozenSavings -
    (if a.allowsNegative = true then 0 else a.minimumBalance))

def WithdrawMpesa.posting (request : WithdrawMpesa) (tenantId : String) (accountId : Nat) :
    PostEntryParams where
  reference := s!"MPESA_WD-{tenantId}-{request.memberId}-{request.idempotencyKey}"
  journalType := .withdrawal
  accountId := accountId
  amount := request.amount
  direction := .debit
  actorId := some request.userId
  description := some s!"M-Pesa withdrawal to {maskPhone request.phone}"

/-- The debit and its intent are one Serializable transaction. The `upsert` leaves an intent that
is there. -/
def executeWithdrawMpesa (request : WithdrawMpesa) : PayoutTx (Option PayoutTask) := do
  let desk ← get
  let (accountId, account) ← required (desk.db.activeAccount request.memberId .fosa)
    (.notFound "No active FOSA account found for withdrawal")
  ensure (request.amount ≤ ofUnits account.availableForWithdrawal)
    (.badRequest "Insufficient available FOSA balance")
  let posted ← onTables (postEntry (request.posting desk.db.tenantId accountId))
  if ∀ intent ∈ desk.intents, intent.sourceTransactionId ≠ posted.transaction then
    modify fun desk =>
      { desk with
        intents := desk.intents ++
          [{ referenceId := accountId
             sourceTransactionId := posted.transaction
             phoneNumber := request.phone
             amount := toDecimalPlaces4 request.amount
             triggeredBy := request.userId }] }
  pure none

def buildMwaloniOrderNumber (sourceTransactionId : Nat) : String := s!"MWD-{sourceTransactionId}"

def PayoutIntent.payout (intent : PayoutIntent) (account : Account) : MobilePayout where
  orderNumber := buildMwaloniOrderNumber intent.sourceTransactionId
  referenceType := .fosaWithdrawal
  referenceId := intent.referenceId
  memberId := account.memberId
  accountReference := account.accountNumber
  phone := intent.phoneNumber
  amount := ofUnits intent.amount
  sourceTransactionId := some intent.sourceTransactionId

/-- A worker with the job of an intent. -/
def executeB2cDisbursement (intent : Nat) : PayoutTx (Option PayoutTask) := do
  let desk ← get
  let job ← required desk.intents[intent]? (.notFound "No job")
  let account ← required desk.db.accounts[job.referenceId]?
    (.notFound "FOSA account not found for withdrawal")
  pure (some (.findDispatched (job.payout account) job.sourceTransactionId))

def providerUnavailable : Err :=
  .serviceUnavailable "Mwaloni B2C payment wallet is not enabled or available"

/-- A payout that was taken up before: it is sent only if nobody tried to. -/
def findDispatched (payout : MobilePayout) (source : Nat) (enabled : Bool) :
    PayoutTx (Option PayoutTask) := do
  let desk ← get
  match desk.db.mpesaByTransaction source with
  | some (id, existing) =>
    let orderNumber ← required existing.conversationId
      (.badRequest ("B2C dispatch is already in an ambiguous provider state and requires " ++
        "reconciliation"))
    if existing.providerSubmissionState = some .localCreated then do
      ensure (enabled = true) providerUnavailable
      pure (some (.claimSend id { payout with orderNumber }))
    else if existing.providerSubmissionState = some .sendAttempted ∨
        existing.providerSubmissionState = some .outcomeUnknown then
      pure (some (.markMwaloniOutcomeUnknown id
        "B2C dispatch retry found an ambiguous prior provider send state"))
    else pure none
  | none => do
    ensure (enabled = true) providerUnavailable
    pure (some (.executeMwaloniMobilePayout payout))

def executeMwaloniMobilePayout (payout : MobilePayout) : PayoutTx (Option PayoutTask) := do
  let desk ← get
  match Table.findRow (fun m => m.reference == buildMpesaRef.b2c payout.orderNumber)
      desk.db.mpesaTransactions with
  | some (id, existing) =>
    if existing.providerSubmissionState = some .localCreated then
      pure (some (.claimSend id payout))
    else if existing.unsettled = true then pure (some (.refreshMwaloniB2cStatus id .other))
    else pure none
  | none => pure (some (.createB2c payout))

def createB2c (payout : MobilePayout) (now : Int) : PayoutTx (Option PayoutTask) := do
  let id ← onTables (createMpesaTransaction (payout.row now))
  pure (some (.claimSend id payout))

/-- Only one worker gets past here for a row. -/
def claimSend (mpesaTxId : Nat) (payout : MobilePayout) (now : Int) :
    PayoutTx (Option PayoutTask) := do
  let claimed ← onTables (claimMpesa mpesaTxId
    (fun m => m.unsettled && m.providerSubmissionState == some .localCreated)
    fun m =>
      { m with
        providerSubmissionState := some .sendAttempted
        providerSendAttemptedAt := some now })
  pure (if claimed = true then some (.sendMobile mpesaTxId payout) else none)

/-- The call to the provider. When it throws, the payout may have been sent or not. -/
def sendMobile (mpesaTxId : Nat) (answer : Except String MwaloniResponse) :
    PayoutTx (Option PayoutTask) := do
  modify fun desk => { desk with sends := desk.sends ++ [mpesaTxId] }
  match answer with
  | .ok response => pure (some (.markAccepted mpesaTxId response))
  | .error message =>
    pure (some (.markMwaloniOutcomeUnknown mpesaTxId s!"Mwaloni send outcome unknown: {message}"))

/-- `updateMany` on the id alone. -/
def markAccepted (mpesaTxId : Nat) (response : MwaloniResponse) :
    PayoutTx (Option PayoutTask) := do
  let _ ← onTables (claimMpesa mpesaTxId (fun _ => true) fun m =>
    { m with providerSubmissionState := some .accepted })
  pure (some (.applyMwaloniStatus mpesaTxId response (.send mpesaTxId)))

def markMwaloniOutcomeUnknown (mpesaTxId : Nat) (reason : String) :
    PayoutTx (Option PayoutTask) := do
  let _ ← onTables (claimMpesa mpesaTxId (·.unsettled) fun m =>
    { m with
      status := .reconPending
      providerSubmissionState := some .outcomeUnknown
      failureReason := some "MWALONI_PROVIDER_SEND_OUTCOME_UNKNOWN"
      resultDesc := some (String.ofList (reason.toList.take 240)) })
  pure none

/-! ## 5. The status of a payout -/

/-- Where the caller of a status query goes on. -/
def StatusCaller.resume (found : ProviderStatus) : StatusCaller → Option PayoutTask
  | .send _ => none
  | .reconcile attempt => some (.readOutcome attempt found)
  | .timeout job => if found.terminal = true then none else some (.markTimeout job)
  | .other => none

def refreshMwaloniB2cStatus (mpesaTxId : Nat) (caller : StatusCaller) (enabled : Bool) :
    PayoutTx (Option PayoutTask) := do
  if enabled = false then pure (caller.resume { refreshed := false, terminal := false })
  else do
    let desk ← get
    match desk.db.mpesaTransactions[mpesaTxId]?.filter fun m =>
        m.type == .b2c && m.conversationId.isSome with
    | none => pure (caller.resume { refreshed := false, terminal := false })
    | some mpesaTx =>
      if mpesaTx.unsettled = false then
        pure (caller.resume { refreshed := false, terminal := true, status := some mpesaTx.status })
      else pure (some (.getStatus mpesaTxId caller))

def getStatus (mpesaTxId : Nat) (caller : StatusCaller) (answer : Except String MwaloniResponse) :
    PayoutTx (Option PayoutTask) :=
  match answer with
  | .ok response => pure (some (.applyMwaloniStatus mpesaTxId response caller))
  | .error message => throw (.serviceUnavailable message)

def applyMwaloniStatus (mpesaTxId : Nat) (response : MwaloniResponse) (caller : StatusCaller) :
    PayoutTx (Option PayoutTask) := do
  let status := jsTrim response.status
  let message := response.message.getD "Mwaloni response received"
  let desk ← get
  let current ← required desk.db.mpesaTransactions[mpesaTxId]?
    (.notFound "Mwaloni B2C transaction not found")
  if findMwaloniResponseMismatches current response ≠ [] then
    pure (some (.markMwaloniMismatchReconciliation mpesaTxId message caller))
  else if isMwaloniSuccess status = true then
    pure (some (.completeMwaloniTransaction mpesaTxId message caller))
  else if isMwaloniPending status = true then
    pure (some (.noteMwaloniPending mpesaTxId message caller))
  else pure (some (.failMwaloniTransaction mpesaTxId status message caller))

def markMwaloniMismatchReconciliation (mpesaTxId : Nat) (message : String)
    (caller : StatusCaller) : PayoutTx (Option PayoutTask) := do
  let _ ← onTables (claimMpesa mpesaTxId (·.unsettled) fun m =>
    { m with
      status := .reconPending
      providerSubmissionState := some .outcomeUnknown
      failureReason := some "MWALONI_PROVIDER_RESPONSE_MISMATCH"
      resultDesc := some message })
  pure (caller.resume { refreshed := true, terminal := false, status := some .reconPending })

def completeMwaloniTransaction (mpesaTxId : Nat) (message : String) (caller : StatusCaller) :
    PayoutTx (Option PayoutTask) := do
  let _ ← onTables (claimMpesa mpesaTxId (·.unsettled) fun m =>
    { m with
      status := .completed
      providerSubmissionState := some .completed
      resultCode := some 0
      resultDesc := some message })
  pure (caller.resume { refreshed := true, terminal := true, status := some .completed })

/-- A row that is settled by now keeps its status. -/
def noteMwaloniPending (mpesaTxId : Nat) (message : String) (caller : StatusCaller) :
    PayoutTx (Option PayoutTask) := do
  onTables (updateMpesaTransaction mpesaTxId fun m => { m with resultDesc := some message })
  pure (caller.resume { refreshed := true, terminal := false, status := some .pending })

/-- The claim of a row and the reversal of its debit, in one transaction. -/
def failAndReverse (mpesaTxId transactionId : Nat) (reason : String) (actorId : Option String)
    (f : MpesaTransaction → MpesaTransaction) : Tx Bool := do
  let claimed ← claimMpesa mpesaTxId (·.unsettled) f
  if claimed = true then do
    let _ ← reverseTransaction transactionId reason actorId
    pure true
  else pure false

/-- The digits of a status as a number. -/
def numericStatus (status : String) : Option Int :=
  if status ≠ "" ∧ status.toList.all (·.isDigit) = true then status.toInt? else none

def failMwaloniTransaction (mpesaTxId : Nat) (status message : String) (caller : StatusCaller) :
    PayoutTx (Option PayoutTask) := do
  let desk ← get
  let mpesaTx ← required desk.db.mpesaTransactions[mpesaTxId]?
    (.notFound "Mwaloni B2C transaction not found")
  let f (m : MpesaTransaction) : MpesaTransaction :=
    { m with
      status := .failed
      providerSubmissionState := some .failed
      resultCode := numericStatus status
      resultDesc := some message
      failureReason := some (if status = "" then "MWALONI_STATUS_UNKNOWN"
        else s!"MWALONI_STATUS_{status}") }
  match mpesaTx.transactionId.filter fun _ => mpesaTx.referenceType = some .fosaWithdrawal with
  | some transactionId => do
    let _ ← onTables (failAndReverse mpesaTxId transactionId s!"Mwaloni B2C failed: {message}"
      none f)
  | none => do
    let _ ← onTables (claimMpesa mpesaTxId (·.unsettled) f)
  pure (caller.resume { refreshed := true, terminal := true, status := some .failed })

/-! ## 6. The timeout job and the callback -/

/-- Half an hour after the payout. -/
def processB2cTimeout (job : B2cTimeoutJob) : PayoutTx (Option PayoutTask) := do
  let desk ← get
  match Table.findRow (fun m => m.conversationId == some job.conversationId && m.type == .b2c)
      desk.db.mpesaTransactions with
  | none => pure (some (.markTimeout job))
  | some (id, _) => pure (some (.refreshMwaloniB2cStatus id (.timeout job)))

def markTimeout (job : B2cTimeoutJob) : PayoutTx (Option PayoutTask) := do
  let desk ← get
  match Table.findRow (fun m => m.conversationId == some job.conversationId &&
      m.referenceId == some job.referenceId && m.referenceType == some .fosaWithdrawal &&
      m.status == .pending) desk.db.mpesaTransactions with
  | none => pure none
  | some (id, _) => do
    onTables (updateMpesaTransaction id fun m =>
      { m with
        status := .reconPending
        failureReason := some "B2C_TIMEOUT"
        resultDesc := some "B2C callback not received before timeout window" })
    pure none

def handleB2cCallback (body : B2cCallback) : PayoutTx (Option PayoutTask) := do
  let desk ← get
  match desk.db.mpesaByConversation body.conversationId with
  | none => pure none
  | some (id, mpesaTx) =>
    if mpesaTx.unsettled = false then pure none
    else if findB2cCallbackMismatches mpesaTx body ≠ [] then
      pure (some (.markB2cCallbackMismatch body id))
    else if body.resultCode = 0 then
      -- The payout of a loan is posted elsewhere.
      if mpesaTx.referenceType = some .fosaWithdrawal then pure (some (.completeB2c body id))
      else pure none
    else if mpesaTx.referenceType = some .fosaWithdrawal then
      match mpesaTx.transactionId with
      | some transactionId => pure (some (.refundB2c body id transactionId))
      | none =>
        if mpesaTx.referenceId.isSome = true then pure (some (.markNoLinkedLedger body id))
        else pure (some (.failB2c body id))
    else pure (some (.failB2c body id))

/-- What every outcome of a callback writes. -/
def B2cCallback.record (body : B2cCallback) (m : MpesaTransaction) : MpesaTransaction :=
  { m with resultCode := some body.resultCode, resultDesc := some body.resultDesc }

def markB2cCallbackMismatch (body : B2cCallback) (mpesaTxId : Nat) :
    PayoutTx (Option PayoutTask) := do
  let _ ← onTables (claimMpesa mpesaTxId (·.unsettled) fun m =>
    { body.record m with
      status := .reconPending
      failureReason := some "B2C_CALLBACK_MISMATCH" })
  pure none

def refundB2c (body : B2cCallback) (mpesaTxId transactionId : Nat) :
    PayoutTx (Option PayoutTask) := do
  let _ ← onTables (failAndReverse mpesaTxId transactionId
    s!"B2C withdrawal failed: {body.resultDesc} (code {body.resultCode})" none fun m =>
      { body.record m with status := .failed })
  pure none

def markNoLinkedLedger (body : B2cCallback) (mpesaTxId : Nat) : PayoutTx (Option PayoutTask) := do
  let _ ← onTables (claimMpesa mpesaTxId
    (fun m => m.unsettled && m.failureReason != some "B2C_FAILURE_NO_LINKED_LEDGER_TRANSACTION")
    fun m =>
      { body.record m with
        status := .reconPending
        failureReason := some "B2C_FAILURE_NO_LINKED_LEDGER_TRANSACTION" })
  pure none

def failB2c (body : B2cCallback) (mpesaTxId : Nat) : PayoutTx (Option PayoutTask) := do
  let _ ← onTables (claimMpesa mpesaTxId (·.unsettled) fun m =>
    { body.record m with status := .failed })
  pure none

def completeB2c (body : B2cCallback) (mpesaTxId : Nat) : PayoutTx (Option PayoutTask) := do
  let receipt ←
    match body.transactionReceipt.or body.transactionId with
    | some receipt => pure receipt
    | none => onTables uuidv4
  let _ ← onTables (claimMpesa mpesaTxId (·.unsettled) fun m =>
    { body.record m with status := .completed, mpesaReceiptNumber := some receipt })
  pure none

/-! ## 7. The reconciliation -/

def PROVIDER_CONTACT_STATES : List MwaloniProviderState :=
  [.sendAttempted, .accepted, .outcomeUnknown, .completed, .failed]

def wasProviderContacted (row : MpesaTransaction) : Bool :=
  row.providerSendAttemptedAt.isSome ||
    row.providerSubmissionState.any PROVIDER_CONTACT_STATES.contains || row.conversationId.isSome

namespace ReconConfig

variable (config : ReconConfig)

def shouldManualReview (row : MpesaTransaction) (attemptCount : Nat) (now : Int) : Bool :=
  config.maxAttempts ≤ attemptCount || config.manualReviewMs ≤ now - row.createdAt

/-- Twice as long after every attempt, up to eight times. -/
def nextRetry (attemptCount : Nat) (now : Int) : Int :=
  now + config.retryIntervalMs * min 8 (2 ^ (attemptCount - 1) : Nat)

end ReconConfig

/-- Nobody holds the row, or whoever did has had it for too long. -/
def MpesaTransaction.lockable (m : MpesaTransaction) (config : ReconConfig) (now : Int) : Bool :=
  m.reconciliationLockedAt.all fun lockedAt => lockedAt < now - config.lockTtlMs

/-- A run is over: its sweep goes on with the next row. -/
def ReconRun.finish (run : ReconRun) : Option PayoutTask :=
  match run.rest with
  | [] => none
  | mpesaTxId :: rest =>
    some (.claim { run with mpesaTransactionId := mpesaTxId, rest := rest })

/-- The detections re-dispatch intents and raise alerts, which these tables do not see. -/
def runAutomatedSweep : PayoutTx (Option PayoutTask) := pure (some .selectEligible)

/-- The retry time of a row, or its due time, or some time after it was made, has come. -/
def MpesaTransaction.due (m : MpesaTransaction) (config : ReconConfig) (now : Int) : Bool :=
  match m.reconciliationNextRetryAt, m.reconciliationDueAt with
  | some retryAt, _ => retryAt ≤ now
  | none, some dueAt => dueAt ≤ now
  | none, none => m.createdAt ≤ now - config.pendingThresholdMs

def MpesaTransaction.eligible (m : MpesaTransaction) (config : ReconConfig) (now : Int) : Bool :=
  m.type == .b2c && m.referenceType == some .fosaWithdrawal && m.unsettled &&
    !m.manualReviewRequired && m.due config now && m.lockable config now

/-- Retry times first, and rows without one last; then by age. -/
def sweepOrder (a b : Nat × MpesaTransaction) : Bool :=
  match a.2.reconciliationNextRetryAt, b.2.reconciliationNextRetryAt with
  | some s, some t => s < t || (s == t && a.2.createdAt ≤ b.2.createdAt)
  | some _, none => true
  | none, some _ => false
  | none, none => a.2.createdAt ≤ b.2.createdAt

def sweepRun (mpesaTxId : Nat) (rest : List Nat) : ReconRun :=
  { mpesaTransactionId := mpesaTxId, trigger := .automated, actorId := "SYSTEM", rest }

/-- `selectEligibleProviderTransactions`, fifty rows at most. -/
def selectEligible (config : ReconConfig) (now : Int) : PayoutTx (Option PayoutTask) := do
  let desk ← get
  match (((Table.selectRows (·.eligible config now) desk.db.mpesaTransactions).insertionSort
      fun a b => sweepOrder a b = true).take 50).map Prod.fst with
  | [] => pure none
  | mpesaTxId :: rest => pure (some (.claim (sweepRun mpesaTxId rest)))

def Db.withdrawal (db : Db) (mpesaTxId : Nat) : Option MpesaTransaction :=
  db.mpesaTransactions[mpesaTxId]?.filter fun m =>
    m.referenceType == some .fosaWithdrawal && m.type == .b2c

def requireWithdrawal (mpesaTxId : Nat) : PayoutTx MpesaTransaction := do
  let desk ← get
  required (desk.db.withdrawal mpesaTxId)
    (.notFound "M-Pesa FOSA withdrawal transaction not found")

def refreshProviderStatus (mpesaTxId : Nat) (actorId : String) : PayoutTx (Option PayoutTask) := do
  let _ ← requireWithdrawal mpesaTxId
  pure (some (.claim
    { mpesaTransactionId := mpesaTxId, trigger := .manualRefresh, actorId, rest := [] }))

/-- The lock of a run on its row. A row that is not to be had is skipped. -/
def claim (config : ReconConfig) (run : ReconRun) (now : Int) : PayoutTx (Option PayoutTask) := do
  let claimed ← onTables (claimMpesa run.mpesaTransactionId
    (fun m => m.unsettled && m.lockable config now)
    fun m => { m with reconciliationLockedAt := some now })
  pure (if claimed = true then some (.readClaimed run) else run.finish)

def readClaimed (run : ReconRun) : PayoutTx (Option PayoutTask) := do
  let desk ← get
  let claimed ← required desk.db.mpesaTransactions[run.mpesaTransactionId]?
    (.notFound "No MpesaTransaction found")
  pure (some (.createAttempt run claimed))

/-- The number of an attempt is one more than the attempts that its row counts. -/
def insertAttempt (mpesaTxId : Nat) (row : MpesaTransaction) (trigger : ReconTrigger)
    (actorId : String) (now : Int) : PayoutTx Nat := do
  let desk ← get
  ensure (∀ a ∈ desk.attempts, a.mpesaTransactionId = mpesaTxId →
      a.attemptNumber ≠ row.reconciliationAttemptCount + 1)
    (.uniqueViolation "mpesaTransactionId, attemptNumber")
  modify fun desk =>
    { desk with
      attempts := desk.attempts ++
        [{ mpesaTransactionId := mpesaTxId
           attemptNumber := row.reconciliationAttemptCount + 1
           triggerType := trigger
           actorId := if actorId = "SYSTEM" then none else some actorId
           startedAt := now
           providerRequestReference := row.conversationId
           oldStatus := row.status }] }
  pure desk.attempts.length

def updateAttempt (attemptId : Nat)
    (f : MpesaWithdrawalReconciliationAttempt → MpesaWithdrawalReconciliationAttempt) :
    PayoutTx Unit := do
  let desk ← get
  let _ ← required desk.attempts[attemptId]? (.notFound "No record was found for an update.")
  modify fun desk => { desk with attempts := desk.attempts.modify attemptId f }

def createAttempt (run : ReconRun) (claimed : MpesaTransaction) (now : Int) :
    PayoutTx (Option PayoutTask) := do
  let attemptId ← insertAttempt run.mpesaTransactionId claimed run.trigger run.actorId now
  pure (some (.auditStarted { run, attemptId, claimed }))

/-- The attempt that a run is about. -/
def ReconAttempt.number (attempt : ReconAttempt) : Nat :=
  attempt.claimed.reconciliationAttemptCount + 1

/-- The audit entry is written before the `try`; then the run looks whether the provider was ever
contacted. -/
def auditStarted (config : ReconConfig) (attempt : ReconAttempt) (now : Int) :
    PayoutTx (Option PayoutTask) :=
  if wasProviderContacted attempt.claimed = false then
    pure (some (.completeAttempt attempt
      { reasonCode := "PROVIDER_NOT_CONTACTED_OR_UNKNOWN_LOCAL_STATE"
        errorCategory := some "LOCAL_ANOMALY"
        nextRetryAt := some (config.nextRetry attempt.number now)
        manualReviewRequired := some true } .alert))
  else pure (some (.auditQueried attempt))

def auditQueried (attempt : ReconAttempt) : PayoutTx (Option PayoutTask) :=
  pure (some (.refreshMwaloniB2cStatus attempt.run.mpesaTransactionId (.reconcile attempt)))

def classifyOutcome (config : ReconConfig) (row : MpesaTransaction)
    (providerStatus : ProviderStatus) (attemptCount : Nat) (now : Int) : ReconOutcome :=
  if row.status = .completed then { reasonCode := "PROVIDER_CONFIRMED_SUCCESS" }
  else if row.status = .failed then { reasonCode := "PROVIDER_CONFIRMED_FAILURE_REVERSED" }
  else if ∃ reason ∈ row.failureReason, "MISMATCH".toList <:+: reason.toList then
    { reasonCode := "PROVIDER_RESPONSE_MISMATCH"
      errorCategory := some "CORRELATION_MISMATCH"
      manualReviewRequired := some true }
  else if providerStatus.refreshed = false then
    { reasonCode := "PROVIDER_STATUS_NOT_REFRESHED"
      errorCategory := some "PROVIDER_UNAVAILABLE"
      nextRetryAt := some (config.nextRetry attemptCount now)
      manualReviewRequired := some (config.shouldManualReview row attemptCount now) }
  else
    { reasonCode :=
        if providerStatus.status = some .pending then "PROVIDER_STILL_PENDING"
        else "PROVIDER_OUTCOME_UNKNOWN"
      nextRetryAt := some (config.nextRetry attemptCount now)
      manualReviewRequired := some (config.shouldManualReview row attemptCount now) }

def readOutcome (config : ReconConfig) (attempt : ReconAttempt) (providerStatus : ProviderStatus)
    (now : Int) : PayoutTx (Option PayoutTask) := do
  let desk ← get
  let row ← required desk.db.mpesaTransactions[attempt.run.mpesaTransactionId]?
    (.notFound "No MpesaTransaction found")
  pure (some (.completeAttempt attempt
    (classifyOutcome config row providerStatus attempt.number now) .audit))

/-- The first half of `completeAttemptAndSchedule` reads the row once more. -/
def completeAttempt (config : ReconConfig) (attempt : ReconAttempt) (outcome : ReconOutcome)
    (after : AfterCompletion) (now : Int) : PayoutTx (Option PayoutTask) := do
  let desk ← get
  let row ← required desk.db.mpesaTransactions[attempt.run.mpesaTransactionId]?
    (.notFound "No MpesaTransaction found")
  let manualReviewRequired := outcome.manualReviewRequired.getD
    (config.shouldManualReview attempt.claimed attempt.number now)
  let nextRetryAt :=
    if row.unsettled = true then
      if manualReviewRequired = true then none
      else outcome.nextRetryAt.or (some (config.nextRetry attempt.number now))
    else none
  pure (some (.scheduleAttempt attempt
    { reasonCode := outcome.reasonCode
      errorCategory := outcome.errorCategory
      newStatus := row.status
      nextRetryAt
      manualReviewRequired } after))

/-- Where a run goes on when its attempt is completed. -/
def ReconAttempt.resume (attempt : ReconAttempt) : AfterCompletion → Option PayoutTask
  | .alert => some (.raiseOperationalAlert attempt)
  | .audit => some (.auditOutcome attempt)
  | .leave => attempt.run.finish

/-- The row counts the attempt and is let go of. -/
def ReconAttempt.release (attempt : ReconAttempt) (result : AttemptResult) (m : MpesaTransaction) :
    MpesaTransaction :=
  { m with
    reconciliationAttemptCount := attempt.number
    reconciliationNextRetryAt := result.nextRetryAt
    reconciliationLockedAt := none
    manualReviewRequired := result.manualReviewRequired }

def ReconAttempt.close (attempt : ReconAttempt) (result : AttemptResult) (now : Int)
    (a : MpesaWithdrawalReconciliationAttempt) : MpesaWithdrawalReconciliationAttempt :=
  { a with
    completedAt := some now
    oldStatus := attempt.claimed.status
    newStatus := some result.newStatus
    reasonCode := some result.reasonCode
    errorCategory := result.errorCategory
    nextRetryAt := result.nextRetryAt }

/-- The second half writes both in one transaction. -/
def scheduleAttempt (attempt : ReconAttempt) (result : AttemptResult) (after : AfterCompletion)
    (now : Int) : PayoutTx (Option PayoutTask) := do
  onTables (updateMpesaTransaction attempt.run.mpesaTransactionId (attempt.release result))
  updateAttempt attempt.attemptId (attempt.close result now)
  pure (attempt.resume after)

/-- The `catch` around a run completes the attempt, too. -/
def ReconAttempt.unavailable (config : ReconConfig) (attempt : ReconAttempt) (now : Int) :
    PayoutTask :=
  .completeAttempt attempt
    { reasonCode := "PROVIDER_STATUS_UNAVAILABLE"
      errorCategory := some "PROVIDER_UNAVAILABLE"
      nextRetryAt := some (config.nextRetry attempt.number now)
      manualReviewRequired :=
        some (config.shouldManualReview attempt.claimed attempt.number now) } .leave

/-! ## 8. Officers -/

def requireEvidence (dto : ManualReconciliationEvidenceDto) : PayoutTx Unit :=
  ensure (jsTrim dto.reason ≠ "" ∧ jsTrim dto.evidenceReference ≠ "")
    (.badRequest "Manual reconciliation requires reason and evidenceReference")

def alreadyTerminal : Err := .conflict "Withdrawal is already terminal or being reconciled"

/-- Completes the attempt of an officer. -/
def closeAttempt (attemptId : Nat) (row : MpesaTransaction) (newStatus : TransactionStatus)
    (reasonCode : String) (now : Int) : PayoutTx Unit :=
  updateAttempt attemptId fun a =>
    { a with
      completedAt := some now
      providerRequestReference := row.conversationId
      oldStatus := row.status
      newStatus := some newStatus
      reasonCode := some reasonCode }

def markCompletedWithEvidence (mpesaTxId : Nat) (actorId : String)
    (dto : ManualReconciliationEvidenceDto) : PayoutTx (Option PayoutTask) := do
  let row ← requireWithdrawal mpesaTxId
  requireEvidence dto
  pure (some (.completeByHand mpesaTxId row actorId dto))

/-- The Serializable transaction of a completion by hand. The row keeps its count of attempts. -/
def completeByHand (mpesaTxId : Nat) (row : MpesaTransaction) (actorId : String)
    (dto : ManualReconciliationEvidenceDto) (now : Int) : PayoutTx (Option PayoutTask) := do
  let attemptId ← insertAttempt mpesaTxId row .manualComplete actorId now
  let claimed ← onTables (claimMpesa mpesaTxId (·.unsettled) fun m =>
    { m with
      status := .completed
      manualReviewRequired := false
      reconciliationNextRetryAt := none
      reconciliationLockedAt := none
      resultDesc := some s!"Manually completed with provider evidence {dto.evidenceReference}" })
  ensure (claimed = true) alreadyTerminal
  closeAttempt attemptId row .completed "MANUAL_COMPLETED_WITH_EVIDENCE" now
  pure none

def reverseConfirmedFailure (mpesaTxId : Nat) (actorId : String)
    (dto : ManualReconciliationEvidenceDto) : PayoutTx (Option PayoutTask) := do
  let row ← requireWithdrawal mpesaTxId
  requireEvidence dto
  let transactionId ← required row.transactionId
    (.badRequest "No linked ledger debit exists; cannot reverse through LedgerService")
  pure (some (.reverseByHand mpesaTxId row transactionId actorId dto))

/-- The Serializable transaction of a reversal by hand. -/
def reverseByHand (mpesaTxId : Nat) (row : MpesaTransaction) (transactionId : Nat)
    (actorId : String) (dto : ManualReconciliationEvidenceDto) (now : Int) :
    PayoutTx (Option PayoutTask) := do
  let attemptId ← insertAttempt mpesaTxId row .manualReverse actorId now
  let claimed ← onTables (failAndReverse mpesaTxId transactionId
    s!"Manual confirmed B2C failure: {dto.reason} ({dto.evidenceReference})" (some actorId)
    fun m =>
      { m with
        status := .failed
        failureReason := some "MANUAL_CONFIRMED_PROVIDER_FAILURE"
        resultDesc := some s!"Manual reversal with evidence {dto.evidenceReference}"
        manualReviewRequired := false
        reconciliationNextRetryAt := none
        reconciliationLockedAt := none })
  ensure (claimed = true) alreadyTerminal
  closeAttempt attemptId row .failed "MANUAL_CONFIRMED_PROVIDER_FAILURE" now
  pure none

/-! ## 9. The daily reconciliation -/

/-- The rows of the day, read once. -/
def readStalePending (dateStart dateEnd now : Int) : PayoutTx (Option PayoutTask) := do
  let desk ← get
  pure (some (.flagPending (desk.db.stalePending dateStart dateEnd now)))

/-- They are flagged one by one, by id. -/
def flagStalePending (rows : List StaleRow) : PayoutTx (Option PayoutTask) :=
  match rows with
  | [] => pure none
  | stale :: rows => do
    onTables (updateMpesaTransaction stale.id fun m =>
      { m with
        status := .reconPending
        resultDesc := some s!"Stale PENDING after {stale.age / 60000} minutes" })
    pure (some (.flagPending rows))

/-! ## 10. The world -/

def Err.message : Err → String
  | .badRequest message => message
  | .notFound message => message
  | .conflict message => message
  | .unprocessableEntity message => message
  | .uniqueViolation target => s!"Unique constraint failed on the fields: ({target})"
  | .foreignKeyViolation field => s!"Foreign key constraint violated: {field}"
  | .serviceUnavailable message => message

def PayoutTask.statement (config : ReconConfig) (input : PayoutInput) :
    PayoutTask → PayoutTx (Option PayoutTask)
  | .executeWithdrawMpesa request => BebaSacco.executeWithdrawMpesa request
  | .executeB2cDisbursement intent => BebaSacco.executeB2cDisbursement intent
  | .findDispatched payout source => BebaSacco.findDispatched payout source input.enabled
  | .executeMwaloniMobilePayout payout => BebaSacco.executeMwaloniMobilePayout payout
  | .createB2c payout => BebaSacco.createB2c payout input.now
  | .claimSend mpesaTxId payout => BebaSacco.claimSend mpesaTxId payout input.now
  | .sendMobile mpesaTxId _ => BebaSacco.sendMobile mpesaTxId input.provider
  | .markAccepted mpesaTxId response => BebaSacco.markAccepted mpesaTxId response
  | .markMwaloniOutcomeUnknown mpesaTxId reason =>
    BebaSacco.markMwaloniOutcomeUnknown mpesaTxId reason
  | .refreshMwaloniB2cStatus mpesaTxId caller =>
    BebaSacco.refreshMwaloniB2cStatus mpesaTxId caller input.enabled
  | .getStatus mpesaTxId caller => BebaSacco.getStatus mpesaTxId caller input.provider
  | .applyMwaloniStatus mpesaTxId response caller =>
    BebaSacco.applyMwaloniStatus mpesaTxId response caller
  | .markMwaloniMismatchReconciliation mpesaTxId message caller =>
    BebaSacco.markMwaloniMismatchReconciliation mpesaTxId message caller
  | .completeMwaloniTransaction mpesaTxId message caller =>
    BebaSacco.completeMwaloniTransaction mpesaTxId message caller
  | .noteMwaloniPending mpesaTxId message caller =>
    BebaSacco.noteMwaloniPending mpesaTxId message caller
  | .failMwaloniTransaction mpesaTxId status message caller =>
    BebaSacco.failMwaloniTransaction mpesaTxId status message caller
  | .b2cTimeout job => processB2cTimeout job
  | .markTimeout job => BebaSacco.markTimeout job
  | .handleB2cCallback body => BebaSacco.handleB2cCallback body
  | .markB2cCallbackMismatch body mpesaTxId => BebaSacco.markB2cCallbackMismatch body mpesaTxId
  | .refundB2c body mpesaTxId transactionId => BebaSacco.refundB2c body mpesaTxId transactionId
  | .markNoLinkedLedger body mpesaTxId => BebaSacco.markNoLinkedLedger body mpesaTxId
  | .failB2c body mpesaTxId => BebaSacco.failB2c body mpesaTxId
  | .completeB2c body mpesaTxId => BebaSacco.completeB2c body mpesaTxId
  | .runAutomatedSweep => BebaSacco.runAutomatedSweep
  | .selectEligible => BebaSacco.selectEligible config input.now
  | .refreshProviderStatus mpesaTxId actorId => BebaSacco.refreshProviderStatus mpesaTxId actorId
  | .claim run => BebaSacco.claim config run input.now
  | .readClaimed run => BebaSacco.readClaimed run
  | .createAttempt run claimed => BebaSacco.createAttempt run claimed input.now
  | .auditStarted attempt => BebaSacco.auditStarted config attempt input.now
  | .auditQueried attempt => BebaSacco.auditQueried attempt
  | .readOutcome attempt providerStatus =>
    BebaSacco.readOutcome config attempt providerStatus input.now
  | .completeAttempt attempt outcome after =>
    BebaSacco.completeAttempt config attempt outcome after input.now
  | .scheduleAttempt attempt result after =>
    BebaSacco.scheduleAttempt attempt result after input.now
  | .raiseOperationalAlert attempt => pure attempt.run.finish
  | .auditOutcome attempt => pure attempt.run.finish
  | .markCompletedWithEvidence mpesaTxId actorId dto =>
    BebaSacco.markCompletedWithEvidence mpesaTxId actorId dto
  | .completeByHand mpesaTxId row actorId dto =>
    BebaSacco.completeByHand mpesaTxId row actorId dto input.now
  | .reverseConfirmedFailure mpesaTxId actorId dto =>
    BebaSacco.reverseConfirmedFailure mpesaTxId actorId dto
  | .reverseByHand mpesaTxId row transactionId actorId dto =>
    BebaSacco.reverseByHand mpesaTxId row transactionId actorId dto input.now
  | .runReconciliation dateStart dateEnd => readStalePending dateStart dateEnd input.now
  | .flagPending rows => flagStalePending rows

/-- The `catch` around a caller's status query: the sender does not know the outcome, a run of the
reconciliation completes its attempt, and any other caller throws on. -/
def StatusCaller.caught (config : ReconConfig) (now : Int) (message : String) :
    StatusCaller → Option PayoutTask
  | .send mpesaTxId =>
    some (.markMwaloniOutcomeUnknown mpesaTxId s!"Mwaloni send outcome unknown: {message}")
  | .reconcile attempt => some (attempt.unavailable config now)
  | .timeout _ => none
  | .other => none

/-- Where a process goes on when its statement throws. -/
def PayoutTask.caught (config : ReconConfig) (now : Int) (message : String) :
    PayoutTask → Option PayoutTask
  | .markAccepted mpesaTxId _ => (StatusCaller.send mpesaTxId).caught config now message
  | .refreshMwaloniB2cStatus _ caller => caller.caught config now message
  | .getStatus _ caller => caller.caught config now message
  | .applyMwaloniStatus _ _ caller => caller.caught config now message
  | .markMwaloniMismatchReconciliation _ _ caller => caller.caught config now message
  | .completeMwaloniTransaction _ _ caller => caller.caught config now message
  | .noteMwaloniPending _ _ caller => caller.caught config now message
  | .failMwaloniTransaction _ _ _ caller => caller.caught config now message
  | .auditQueried attempt => some (attempt.unavailable config now)
  | .readOutcome attempt _ => some (attempt.unavailable config now)
  | .completeAttempt attempt _ after =>
    if after = .leave then none else some (attempt.unavailable config now)
  | .scheduleAttempt attempt _ after =>
    if after = .leave then none else some (attempt.unavailable config now)
  | .raiseOperationalAlert attempt => some (attempt.unavailable config now)
  | .auditOutcome attempt => some (attempt.unavailable config now)
  | _ => none

def PayoutTask.next (config : ReconConfig) (task : PayoutTask) (input : PayoutInput) :
    PayoutTx (Option PayoutTask) :=
  rescue
    (do
      ensure (input.down = false) (.serviceUnavailable "Can't reach database server")
      task.statement config input)
    fun e => task.caught config input.now e.message

/-- What sets a process off. -/
inductive PayoutCall
  | withdraw (request : WithdrawMpesa)
  | payout (intent : Nat)
  | memberStatus (mpesaTxId : Nat)
  | timeout (job : B2cTimeoutJob)
  | callback (body : B2cCallback)
  | sweep
  | manualRefresh (mpesaTxId : Nat) (actorId : String)
  | manualComplete (mpesaTxId : Nat) (actorId : String) (dto : ManualReconciliationEvidenceDto)
  | manualReverse (mpesaTxId : Nat) (actorId : String) (dto : ManualReconciliationEvidenceDto)
  | reconciliation (dateStart dateEnd : Int)
  deriving DecidableEq

def PayoutCall.entry : PayoutCall → PayoutTask
  | .withdraw request => .executeWithdrawMpesa request
  | .payout intent => .executeB2cDisbursement intent
  | .memberStatus mpesaTxId => .refreshMwaloniB2cStatus mpesaTxId .other
  | .timeout job => .b2cTimeout job
  | .callback body => .handleB2cCallback body
  | .sweep => .runAutomatedSweep
  | .manualRefresh mpesaTxId actorId => .refreshProviderStatus mpesaTxId actorId
  | .manualComplete mpesaTxId actorId dto => .markCompletedWithEvidence mpesaTxId actorId dto
  | .manualReverse mpesaTxId actorId dto => .reverseConfirmedFailure mpesaTxId actorId dto
  | .reconciliation dateStart dateEnd => .runReconciliation dateStart dateEnd

def payouts (config : ReconConfig) :
    Process.Program PayoutDesk Err PayoutCall PayoutInput PayoutTask where
  entry := PayoutCall.entry
  next := PayoutTask.next config

abbrev PayoutWorld := Process.World PayoutDesk PayoutTask

abbrev PayoutEvent := Process.Event PayoutCall PayoutInput

/-- The tables before the first withdrawal. -/
def PayoutWorld.opening (db : Db) : PayoutWorld := ⟨⟨db, [], [], []⟩, []⟩

def PayoutWorld.after (config : ReconConfig) (w : PayoutWorld) (events : List PayoutEvent) :
    PayoutWorld :=
  Machine.run (payouts config).step w events

end BebaSacco
