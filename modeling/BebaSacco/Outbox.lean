import BebaSacco.Lib.Process
import BebaSacco.Schema

/-! # The payout outbox and the callback inbox

A withdrawal leaves a payout intent, a provider callback leaves an inbox row. A dispatcher reads
the row, adds a job for it to a queue and then writes the row's status; a worker that takes up the
job writes the status too. Each of these statements commits alone, so the model is a world of
processes. The queue delivers at least once: a worker may take up any job that was added, any
number of times.
-/

namespace BebaSacco

inductive OutboxStatus | pending | processing | delivered | failed | deadLetter
  deriving DecidableEq, Repr

def retryDelayMs : Int := 60000

def staleProcessingMs : Int := 5 * 60000

structure MpesaPayoutIntent where
  tenantId : String
  dispatchKey : String
  jobId : String
  referenceType : String
  referenceId : String
  sourceTransactionId : String
  phoneNumber : String
  amount : Int
  triggeredBy : String
  status : OutboxStatus := .pending
  attempts : Nat := 0
  lastError : Option String := none
  nextRetryAt : Option Int := none
  dispatchedAt : Option Int := none
  deadLetteredAt : Option Int := none
  mpesaTransactionId : Option Nat := none
  updatedAt : Int
  deriving DecidableEq, Repr

structure MpesaCallbackInbox where
  tenantId : String
  callbackType : String
  providerUniqueId : String
  uniqueKey : String
  payload : String
  correlationId : Option String
  mpesaTransactionId : Option Nat
  status : OutboxStatus := .pending
  attempts : Nat := 0
  queueJobId : Option String := none
  lastError : Option String := none
  nextRetryAt : Option Int := none
  processedAt : Option Int := none
  updatedAt : Int
  deriving DecidableEq, Repr

structure MpesaDisbursementJobPayload where
  payoutIntentId : Option Nat
  referenceType : String
  referenceId : String
  tenantId : String
  phone : String
  amount : Int
  triggeredBy : String
  sourceTransactionId : Option String
  deriving DecidableEq, Repr

structure MpesaCallbackJobPayload where
  tenantId : String
  correlationId : Option String
  mpesaTransactionId : Option Nat
  callbackInboxId : Nat
  callbackType : String
  deriving DecidableEq, Repr

/-- A job of one of the two queues, under its job id. -/
inductive Job
  | disbursement (jobId : String) (data : MpesaDisbursementJobPayload)
  | callback (jobId : String) (data : MpesaCallbackJobPayload)
  deriving DecidableEq, Repr

/-- The two tables, and the jobs that were added to the queues so far. -/
structure OutboxDb where
  intents : List MpesaPayoutIntent
  inboxes : List MpesaCallbackInbox
  added : List Job
  deriving DecidableEq, Repr

abbrev OutboxTx (α : Type) := Txn OutboxDb Err α

/-- A row that is dispatched. -/
inductive OutboxRow
  | intent (id : Nat)
  | inbox (id : Nat)
  deriving DecidableEq, Repr

namespace OutboxDb

def insertIntent (db : OutboxDb) (intent : MpesaPayoutIntent) : OutboxDb :=
  { db with intents := db.intents ++ [intent] }

def insertInbox (db : OutboxDb) (inbox : MpesaCallbackInbox) : OutboxDb :=
  { db with inboxes := db.inboxes ++ [inbox] }

def updateIntent (db : OutboxDb) (id : Nat) (f : MpesaPayoutIntent → MpesaPayoutIntent) :
    OutboxDb :=
  { db with intents := db.intents.modify id f }

def updateInbox (db : OutboxDb) (id : Nat) (f : MpesaCallbackInbox → MpesaCallbackInbox) :
    OutboxDb :=
  { db with inboxes := db.inboxes.modify id f }

def statusOf (db : OutboxDb) : OutboxRow → Option OutboxStatus
  | .intent id => db.intents[id]?.map (·.status)
  | .inbox id => db.inboxes[id]?.map (·.status)

end OutboxDb

/-! ## 1. The points of the services -/

/-- Where a dispatcher or a worker is; `rest` are the rows that the sweep behind a dispatch has
still to do. -/
inductive OutboxTask
  | createIntent (intent : MpesaPayoutIntent)
  | persistCallback (inbox : MpesaCallbackInbox)
  | dispatchDueIntents (limit : Nat)
  | dispatchPendingCallbackInbox (limit : Nat)
  | dispatch (row : OutboxRow) (rest : List OutboxRow)
  | add (row : OutboxRow) (job : Job) (rest : List OutboxRow)
  | markProcessing (row : OutboxRow) (jobId : String) (rest : List OutboxRow)
  | markQueueFailure (row : OutboxRow) (message : String) (rest : List OutboxRow)
  | work (n : Nat)
  | markDelivered (data : MpesaDisbursementJobPayload) (mpesaTransactionId : Nat)
  | onFailed (data : MpesaDisbursementJobPayload) (failedReason : String)
  | markDeadLetter (data : MpesaDisbursementJobPayload) (lastError : String)
  | handle (callbackInboxId : Nat)
  | markProcessed (callbackInboxId : Nat)
  | markHandlingFailed (callbackInboxId : Nat) (message : String)
  deriving DecidableEq, Repr

/-- What a statement gets from outside: the clock, what its call returned or threw, and the number
of attempts of the job. -/
structure OutboxInput where
  now : Int
  outcome : Except String Nat
  attemptsMade : Nat := 1
  deriving DecidableEq

/-- The sweep goes on with its next row. -/
def dispatchNext : List OutboxRow → Option OutboxTask
  | [] => none
  | row :: rest => some (.dispatch row rest)

/-! ## 2. Writing the rows -/

/-- The withdrawal's `upsert` on the dispatch key writes nothing to an intent that is there. -/
def createIntent (intent : MpesaPayoutIntent) (now : Int) : OutboxTx (Option OutboxTask) := do
  let db ← get
  match Table.findRow (fun i => i.dispatchKey == intent.dispatchKey) db.intents with
  | some (id, _) => pure (some (.dispatch (.intent id) []))
  | none => do
    Txn.ensure (∀ i ∈ db.intents, i.jobId ≠ intent.jobId ∧
      i.sourceTransactionId ≠ intent.sourceTransactionId) (.uniqueViolation "MpesaPayoutIntent")
    modify (·.insertIntent
      { intent with
        status := .pending
        attempts := 0
        lastError := none
        nextRetryAt := none
        dispatchedAt := none
        deadLetteredAt := none
        mpesaTransactionId := none
        updatedAt := now })
    pure (some (.dispatch (.intent db.intents.length) []))

/-- The `upsert` of a callback on its unique key leaves the status of a row that is there. -/
def persistCallback (inbox : MpesaCallbackInbox) (now : Int) : OutboxTx (Option OutboxTask) := do
  let db ← get
  match Table.findRow (fun i => i.uniqueKey == inbox.uniqueKey) db.inboxes with
  | some (id, _) => do
    modify (·.updateInbox id fun i =>
      { i with
        payload := inbox.payload
        correlationId := inbox.correlationId
        mpesaTransactionId := inbox.mpesaTransactionId
        updatedAt := now })
    pure (some (.dispatch (.inbox id) []))
  | none => do
    modify (·.insertInbox
      { inbox with
        status := .pending
        attempts := 0
        queueJobId := none
        lastError := none
        nextRetryAt := none
        processedAt := none
        updatedAt := now })
    pure (some (.dispatch (.inbox db.inboxes.length) []))

/-! ## 3. The dispatchers -/

/-- What the sweeps look for: rows to retry now, and rows left processing for too long. -/
def outboxDue (now : Int) (status : OutboxStatus) (nextRetryAt : Option Int) (updatedAt : Int) :
    Bool :=
  ((status == .pending || status == .failed) && nextRetryAt.all (· ≤ now)) ||
    (status == .processing && updatedAt < now - staleProcessingMs)

def dispatchDueIntents (limit : Nat) (now : Int) : OutboxTx (Option OutboxTask) := do
  let db ← get
  pure (dispatchNext (((Table.selectRows
    (fun i => outboxDue now i.status i.nextRetryAt i.updatedAt) db.intents).take limit).map
      fun r => .intent r.1))

def dispatchPendingCallbackInbox (limit : Nat) (now : Int) : OutboxTx (Option OutboxTask) := do
  let db ← get
  pure (dispatchNext (((Table.selectRows
    (fun i => outboxDue now i.status i.nextRetryAt i.updatedAt) db.inboxes).take limit).map
      fun r => .inbox r.1))

def MpesaPayoutIntent.job (intent : MpesaPayoutIntent) (id : Nat) : Job :=
  .disbursement intent.jobId
    { payoutIntentId := some id
      referenceType := intent.referenceType
      referenceId := intent.referenceId
      tenantId := intent.tenantId
      phone := intent.phoneNumber
      amount := intent.amount
      triggeredBy := intent.triggeredBy
      sourceTransactionId := some intent.sourceTransactionId }

/-- The check of `dispatchIntent` before it adds the job. -/
def dispatchIntent (id : Nat) (rest : List OutboxRow) : OutboxTx (Option OutboxTask) := do
  let db ← get
  match db.intents[id]? with
  | none => pure (dispatchNext rest)
  | some intent =>
    if intent.status = .delivered ∨ intent.status = .deadLetter then pure (dispatchNext rest)
    else if intent.referenceType ≠ "FOSA_WITHDRAWAL" ∧ intent.referenceType ≠ "LOAN_DISBURSEMENT" then
      pure (some (.markQueueFailure (.intent id)
        s!"Unsupported payout referenceType={intent.referenceType}" rest))
    else pure (some (.add (.intent id) (intent.job id) rest))

/-- The characters that a callback's job id keeps. -/
def jobIdChar (c : Char) : Bool :=
  c.isAlphanum || c == '_' || c == '.' || c == ':' || c == '-'

def MpesaCallbackInbox.jobId (inbox : MpesaCallbackInbox) : String :=
  s!"mpesa-callback-{inbox.tenantId}-{inbox.callbackType}-{inbox.providerUniqueId}".map
    fun c => if jobIdChar c then c else '-'

def MpesaCallbackInbox.job (inbox : MpesaCallbackInbox) (id : Nat) : Job :=
  .callback inbox.jobId
    { tenantId := inbox.tenantId
      correlationId := inbox.correlationId
      mpesaTransactionId := inbox.mpesaTransactionId
      callbackInboxId := id
      callbackType := inbox.callbackType }

/-- The check of `enqueueCallbackInbox` before it adds the job. -/
def enqueueCallbackInbox (id : Nat) (rest : List OutboxRow) : OutboxTx (Option OutboxTask) := do
  let db ← get
  match db.inboxes[id]?.filter (·.status ≠ .delivered) with
  | none => pure (dispatchNext rest)
  | some inbox => pure (some (.add (.inbox id) (inbox.job id) rest))

def Job.id : Job → String
  | .disbursement jobId _ => jobId
  | .callback jobId _ => jobId

/-- `queue.add`: when it throws, the dispatcher goes to its failure branch. -/
def addJob (row : OutboxRow) (job : Job) (rest : List OutboxRow) (outcome : Except String Nat) :
    OutboxTx (Option OutboxTask) :=
  match outcome with
  | .error message => pure (some (.markQueueFailure row message rest))
  | .ok _ => do
    modify fun db => { db with added := db.added ++ [job] }
    pure (some (.markProcessing row job.id rest))

/-- The row after a dispatcher has added its job. The update looks at the id only. -/
def writeProcessing (row : OutboxRow) (jobId : String) (now : Int) : OutboxTx Unit :=
  match row with
  | .intent id =>
    modify (·.updateIntent id fun i =>
      { i with status := .processing, lastError := none, nextRetryAt := none, updatedAt := now })
  | .inbox id =>
    modify (·.updateInbox id fun i =>
      { i with
        status := .processing
        queueJobId := some jobId
        lastError := none
        nextRetryAt := none
        updatedAt := now })

/-- The row after a dispatcher has failed. -/
def writeQueueFailure (row : OutboxRow) (message : String) (now : Int) : OutboxTx Unit :=
  match row with
  | .intent id =>
    modify (·.updateIntent id fun i =>
      { i with
        status := .failed
        attempts := i.attempts + 1
        lastError := some message
        nextRetryAt := some (now + retryDelayMs)
        updatedAt := now })
  | .inbox id =>
    modify (·.updateInbox id fun i =>
      { i with
        status := .failed
        attempts := i.attempts + 1
        lastError := some message
        nextRetryAt := some (now + retryDelayMs)
        updatedAt := now })

/-- The update after `queue.add` is in the same `try` block. -/
def markProcessing (row : OutboxRow) (jobId : String) (rest : List OutboxRow)
    (input : OutboxInput) : OutboxTx (Option OutboxTask) :=
  match input.outcome with
  | .error message => pure (some (.markQueueFailure row message rest))
  | .ok _ => do
    writeProcessing row jobId input.now
    pure (dispatchNext rest)

def markQueueFailure (row : OutboxRow) (message : String) (rest : List OutboxRow) (now : Int) :
    OutboxTx (Option OutboxTask) := do
  writeQueueFailure row message now
  pure (dispatchNext rest)

/-! ## 4. The workers -/

/-- The first statement of a worker with the `n`-th job that was added: the payout to the provider,
or the read of the inbox. -/
def work (n : Nat) (input : OutboxInput) : OutboxTx (Option OutboxTask) := do
  let db ← get
  match db.added[n]? with
  | none => pure none
  | some (.disbursement _ data) =>
    match input.outcome with
    | .ok mpesaTransactionId => pure (some (.markDelivered data mpesaTransactionId))
    | .error message => pure (some (.onFailed data message))
  | some (.callback _ data) => do
    let inbox ← Txn.required db.inboxes[data.callbackInboxId]?
      (.notFound s!"M-Pesa callback inbox row not found for {data.callbackInboxId}")
    if inbox.status = .delivered then pure none
    else pure (some (.handle data.callbackInboxId))

/-- The intent that a job names: by its id, else by the ledger transaction. -/
def OutboxDb.intentOf (db : OutboxDb) (data : MpesaDisbursementJobPayload) :
    Option (Nat × MpesaPayoutIntent) :=
  match data.payoutIntentId, data.sourceTransactionId.filter (· ≠ "") with
  | some id, _ => db.intents[id]?.map fun intent => (id, intent)
  | none, some sourceTransactionId =>
    Table.findRow (fun i => i.sourceTransactionId == sourceTransactionId) db.intents
  | none, none => none

/-- `markDelivered`: a dead letter stays one. -/
def markDelivered (data : MpesaDisbursementJobPayload) (mpesaTransactionId : Nat) (now : Int) :
    OutboxTx (Option OutboxTask) := do
  let db ← get
  match (db.intentOf data).filter (·.2.status ≠ .deadLetter) with
  | none => pure none
  | some (id, _) => do
    modify (·.updateIntent id fun i =>
      { i with
        status := .delivered
        dispatchedAt := some now
        mpesaTransactionId := some mpesaTransactionId
        lastError := none
        nextRetryAt := none
        updatedAt := now })
    pure none

/-- A job is a dead letter after its third attempt. -/
def onFailed (data : MpesaDisbursementJobPayload) (failedReason : String) (attemptsMade : Nat) :
    OutboxTx (Option OutboxTask) :=
  if attemptsMade < 3 then pure none else pure (some (.markDeadLetter data failedReason))

def markDeadLetter (data : MpesaDisbursementJobPayload) (lastError : String) (now : Int) :
    OutboxTx (Option OutboxTask) := do
  let db ← get
  match (db.intentOf data).filter (·.2.status ≠ .deadLetter) with
  | none => pure none
  | some (id, _) => do
    modify (·.updateIntent id fun i =>
      { i with
        status := .deadLetter
        attempts := i.attempts + 1
        lastError := some lastError
        deadLetteredAt := some now
        nextRetryAt := none
        updatedAt := now })
    pure none

/-- The callback's handler returns, or throws. -/
def handleCallback (callbackInboxId : Nat) (outcome : Except String Nat) :
    OutboxTx (Option OutboxTask) :=
  match outcome with
  | .ok _ => pure (some (.markProcessed callbackInboxId))
  | .error message => pure (some (.markHandlingFailed callbackInboxId message))

/-- The update after the handler is in the same `try` block. -/
def markProcessed (callbackInboxId : Nat) (input : OutboxInput) : OutboxTx (Option OutboxTask) :=
  match input.outcome with
  | .error message => pure (some (.markHandlingFailed callbackInboxId message))
  | .ok _ => do
    modify (·.updateInbox callbackInboxId fun i =>
      { i with
        status := .delivered
        processedAt := some input.now
        lastError := none
        nextRetryAt := none
        updatedAt := input.now })
    pure none

def markHandlingFailed (callbackInboxId : Nat) (message : String) (now : Int) :
    OutboxTx (Option OutboxTask) := do
  writeQueueFailure (.inbox callbackInboxId) message now
  pure none

/-! ## 5. The world -/

def OutboxTask.next : OutboxTask → OutboxInput → OutboxTx (Option OutboxTask)
  | .createIntent intent, input => BebaSacco.createIntent intent input.now
  | .persistCallback inbox, input => BebaSacco.persistCallback inbox input.now
  | .dispatchDueIntents limit, input => BebaSacco.dispatchDueIntents limit input.now
  | .dispatchPendingCallbackInbox limit, input =>
    BebaSacco.dispatchPendingCallbackInbox limit input.now
  | .dispatch (.intent id) rest, _ => dispatchIntent id rest
  | .dispatch (.inbox id) rest, _ => enqueueCallbackInbox id rest
  | .add row job rest, input => addJob row job rest input.outcome
  | .markProcessing row jobId rest, input => BebaSacco.markProcessing row jobId rest input
  | .markQueueFailure row message rest, input =>
    BebaSacco.markQueueFailure row message rest input.now
  | .work n, input => BebaSacco.work n input
  | .markDelivered data mpesaTransactionId, input =>
    BebaSacco.markDelivered data mpesaTransactionId input.now
  | .onFailed data failedReason, input => BebaSacco.onFailed data failedReason input.attemptsMade
  | .markDeadLetter data lastError, input => BebaSacco.markDeadLetter data lastError input.now
  | .handle callbackInboxId, input => handleCallback callbackInboxId input.outcome
  | .markProcessed callbackInboxId, input => BebaSacco.markProcessed callbackInboxId input
  | .markHandlingFailed callbackInboxId message, input =>
    BebaSacco.markHandlingFailed callbackInboxId message input.now

/-- What sets a process off: a member, the provider, a scheduler, another service that dispatches
one row, or the queue with a job. -/
inductive OutboxCall
  | withdraw (intent : MpesaPayoutIntent)
  | callback (inbox : MpesaCallbackInbox)
  | intentSweep (limit : Nat)
  | inboxSweep (limit : Nat)
  | dispatch (row : OutboxRow)
  | deliver (n : Nat)
  deriving DecidableEq, Repr

def OutboxCall.entry : OutboxCall → OutboxTask
  | .withdraw intent => .createIntent intent
  | .callback inbox => .persistCallback inbox
  | .intentSweep limit => .dispatchDueIntents limit
  | .inboxSweep limit => .dispatchPendingCallbackInbox limit
  | .dispatch row => .dispatch row []
  | .deliver n => .work n

def outbox : Process.Program OutboxDb Err OutboxCall OutboxInput OutboxTask where
  entry := OutboxCall.entry
  next := OutboxTask.next

abbrev OutboxWorld := Process.World OutboxDb OutboxTask

abbrev OutboxEvent := Process.Event OutboxCall OutboxInput

/-- No rows, no jobs and no processes. -/
def OutboxWorld.empty : OutboxWorld := ⟨⟨[], [], []⟩, []⟩

def OutboxWorld.after (w : OutboxWorld) (events : List OutboxEvent) : OutboxWorld :=
  Machine.run outbox.step w events

end BebaSacco
