import BebaSacco.DepositPostings
import BebaSacco.Withdrawals

/-! # What a statement on the way of a payout does

Every statement writes one of a few things, and leads to one of a few points. The developments on
the withdrawals argue over these two lists and never look into the statements again.

Results:
 1. `claimMpesa_cases`, `failAndReverse_cases`, `insertAttempt_cases`: the inversions of the shared
    writes.
 2. `PayoutWrite`, `Leads`: what a statement can write, and where it can lead.
 3. `statement_does`: every statement is on the two lists.
 4. `next_cases`: a statement either does that or throws and changes nothing.
-/

namespace BebaSacco

open Txn

/-! ## 1. The shared writes -/

/-- A row as it was inserted, without the columns that follow the payout. -/
def MpesaTransaction.origin (m : MpesaTransaction) : MpesaTransaction :=
  { m with
    status := .pending
    resultCode := none
    resultDesc := none
    failureReason := none
    mpesaReceiptNumber := none
    providerSubmissionState := none
    providerSendAttemptedAt := none
    reconciliationAttemptCount := 0
    reconciliationNextRetryAt := none
    reconciliationLockedAt := none
    manualReviewRequired := false }

/-- The other rows have neither the transaction nor the receipt of `m`. -/
def Db.Apart (db : Db) (id : Nat) (m : MpesaTransaction) : Prop :=
  ∀ (j : Nat) (other : MpesaTransaction), db.mpesaTransactions[j]? = some other → j ≠ id →
    (m.transactionId ≠ none → other.transactionId ≠ m.transactionId) ∧
      (m.mpesaReceiptNumber ≠ none → other.mpesaReceiptNumber ≠ m.mpesaReceiptNumber)

def PayoutDesk.edit (desk : PayoutDesk) (id : Nat) (f : MpesaTransaction → MpesaTransaction) :
    PayoutDesk :=
  { desk with db := desk.db.updateMpesa id f }

/-- `uuidv4` may have been called. -/
def PayoutDesk.drawn (desk : PayoutDesk) (n : Nat) : PayoutDesk :=
  { desk with db := { desk.db with uuid := n } }

namespace WithdrawalLemmas

theorem yields_onTables {α : Type} {x : Tx α} {d d' : PayoutDesk} {a : α} :
    Yields (onTables x) d a d' ↔ ∃ db, Yields x d.db a db ∧ d' = { d with db := db } := by
  unfold onTables
  exact yields_zoom

theorem updateMpesa_apart {id : Nat} {f : MpesaTransaction → MpesaTransaction} {u : Unit}
    {db db' : Db} (h : Yields (updateMpesaTransaction id f) db u db') :
    db' = db.updateMpesa id f ∧
      ∃ m, db.mpesaTransactions[id]? = some m ∧ db.Apart id (f m) := by
  simp only [updateMpesaTransaction, yields_bind, yields_get, yields_required, yields_ensure,
    yields_modify] at h
  obtain ⟨_, _, ⟨rfl, rfl⟩, m, _, ⟨hm, rfl⟩, _, _, ⟨hunique, rfl⟩, rfl⟩ := h
  exact ⟨rfl, m, hm, fun j other ho hne => hunique (j, other) (Table.mem_selectRows.mpr ⟨ho, rfl⟩) hne⟩

/-- The row is there, and no other row has its unique columns: the update goes through. -/
theorem updateMpesa_yields {id : Nat} {f : MpesaTransaction → MpesaTransaction}
    {m : MpesaTransaction} {db : Db} (hm : db.mpesaTransactions[id]? = some m)
    (hapart : db.Apart id (f m)) :
    Yields (updateMpesaTransaction id f) db () (db.updateMpesa id f) := by
  simp only [updateMpesaTransaction, yields_bind, yields_get, yields_required, yields_ensure,
    yields_modify]
  exact ⟨_, _, ⟨rfl, rfl⟩, m, _, ⟨hm, rfl⟩, (), _,
    ⟨fun other ho hne => hapart other.1 other.2 (Table.mem_selectRows.mp ho).1 hne, rfl⟩, rfl⟩

theorem claimMpesa_cases {id : Nat} {c : MpesaTransaction → Bool}
    {f : MpesaTransaction → MpesaTransaction} {b : Bool} {db db' : Db}
    (h : Yields (claimMpesa id c f) db b db') :
    (b = false ∧ db' = db) ∨
    (b = true ∧ db' = db.updateMpesa id f ∧
      ∃ m, db.mpesaTransactions[id]? = some m ∧ c m = true ∧ db.Apart id (f m)) := by
  simp only [claimMpesa, yields_bind, yields_get] at h
  obtain ⟨_, _, ⟨rfl, rfl⟩, h⟩ := h
  cases hrow : db.mpesaTransactions[id]?.filter c with
  | none =>
    simp only [hrow, yields_pure] at h
    exact .inl ⟨h.1.symm, h.2.symm⟩
  | some m =>
    simp only [hrow, yields_bind, yields_pure] at h
    obtain ⟨_, _, hupdate, rfl, rfl⟩ := h
    obtain ⟨hm, hc⟩ := Option.filter_eq_some_iff.mp hrow
    obtain ⟨rfl, m', hm', hapart⟩ := updateMpesa_apart hupdate
    cases hm.symm.trans hm'
    exact .inr ⟨rfl, rfl, m, hm, hc, hapart⟩

theorem failAndReverse_cases {id transactionId : Nat} {reason : String} {actorId : Option String}
    {f : MpesaTransaction → MpesaTransaction} {b : Bool} {db db' : Db}
    (h : Yields (failAndReverse id transactionId reason actorId f) db b db') :
    (b = false ∧ db' = db) ∨
    (b = true ∧ Reversed transactionId (db.updateMpesa id f) db' ∧
      ∃ m, db.mpesaTransactions[id]? = some m ∧ m.unsettled = true ∧ db.Apart id (f m)) := by
  simp only [failAndReverse, yields_bind] at h
  obtain ⟨claimed, t, hclaim, h⟩ := h
  rcases claimMpesa_cases hclaim with ⟨rfl, rfl⟩ | ⟨rfl, rfl, hm⟩
  · simp only [Bool.false_eq_true, if_false, yields_pure] at h
    exact .inl ⟨h.1.symm, h.2.symm⟩
  · simp only [if_true, yields_bind, yields_pure] at h
    obtain ⟨_, _, hreverse, rfl, rfl⟩ := h
    exact .inr ⟨rfl, reverseTransaction_cases hreverse, hm⟩

/-- The attempt that `insertAttempt` writes. -/
def newAttempt (id : Nat) (row : MpesaTransaction) (trigger : ReconTrigger) (actorId : String)
    (now : Int) : MpesaWithdrawalReconciliationAttempt where
  mpesaTransactionId := id
  attemptNumber := row.reconciliationAttemptCount + 1
  triggerType := trigger
  actorId := if actorId = "SYSTEM" then none else some actorId
  startedAt := now
  providerRequestReference := row.conversationId
  oldStatus := row.status

theorem insertAttempt_cases {id : Nat} {row : MpesaTransaction} {trigger : ReconTrigger}
    {actorId : String} {now : Int} {n : Nat} {d d' : PayoutDesk}
    (h : Yields (insertAttempt id row trigger actorId now) d n d') :
    (∀ a ∈ d.attempts, a.mpesaTransactionId = id →
      a.attemptNumber ≠ row.reconciliationAttemptCount + 1) ∧
    n = d.attempts.length ∧
    d' = { d with attempts := d.attempts ++ [newAttempt id row trigger actorId now] } := by
  simp only [insertAttempt, yields_bind, yields_get, yields_ensure, yields_modify,
    yields_pure] at h
  obtain ⟨_, _, ⟨rfl, rfl⟩, _, _, ⟨hfresh, rfl⟩, _, _, rfl, rfl, rfl⟩ := h
  exact ⟨hfresh, rfl, rfl⟩

theorem updateAttempt_cases {n : Nat}
    {f : MpesaWithdrawalReconciliationAttempt → MpesaWithdrawalReconciliationAttempt} {u : Unit}
    {d d' : PayoutDesk} (h : Yields (updateAttempt n f) d u d') :
    d' = { d with attempts := d.attempts.modify n f } := by
  simp only [updateAttempt, yields_bind, yields_get, yields_required, yields_modify] at h
  obtain ⟨_, _, ⟨rfl, rfl⟩, _, _, ⟨_, rfl⟩, rfl⟩ := h
  rfl

end WithdrawalLemmas

open WithdrawalLemmas

/-! ## 2. What a statement can write, and where it can lead -/

/-- The point settles the row `id` if it does not come too late. -/
def PayoutTask.settles (id : Nat) : PayoutTask → Bool
  | .completeMwaloniTransaction mpesaTxId _ _ => mpesaTxId == id
  | .failMwaloniTransaction mpesaTxId _ _ _ => mpesaTxId == id
  | .refundB2c _ mpesaTxId _ => mpesaTxId == id
  | .failB2c _ mpesaTxId => mpesaTxId == id
  | .completeB2c _ mpesaTxId => mpesaTxId == id
  | .completeByHand mpesaTxId _ _ _ => mpesaTxId == id
  | .reverseByHand mpesaTxId _ _ _ _ => mpesaTxId == id
  | _ => false

/-- The point settles the row `id` on the word of an officer. -/
def PayoutTask.byHand (id : Nat) : PayoutTask → Bool
  | .completeByHand mpesaTxId _ _ _ => mpesaTxId == id
  | .reverseByHand mpesaTxId _ _ _ _ => mpesaTxId == id
  | _ => false

/-- The unique key of an attempt. -/
def MpesaWithdrawalReconciliationAttempt.key (a : MpesaWithdrawalReconciliationAttempt) :
    Nat × Nat :=
  (a.mpesaTransactionId, a.attemptNumber)

/-- Whom the point answers to. -/
def PayoutTask.caller : PayoutTask → Option StatusCaller
  | .refreshMwaloniB2cStatus _ caller => some caller
  | .getStatus _ caller => some caller
  | .applyMwaloniStatus _ _ caller => some caller
  | .markMwaloniMismatchReconciliation _ _ caller => some caller
  | .completeMwaloniTransaction _ _ caller => some caller
  | .noteMwaloniPending _ _ caller => some caller
  | .failMwaloniTransaction _ _ _ caller => some caller
  | _ => none

/-- The attempt behind a status query of the reconciliation. -/
def StatusCaller.attempt : StatusCaller → Option ReconAttempt
  | .reconcile attempt => some attempt
  | _ => none

/-- The attempt that the point has created and not completed. -/
def PayoutTask.numbered : PayoutTask → Option ReconAttempt
  | .auditStarted attempt => some attempt
  | .auditQueried attempt => some attempt
  | .readOutcome attempt _ => some attempt
  | .completeAttempt attempt _ _ => some attempt
  | .scheduleAttempt attempt _ _ => some attempt
  | t => t.caller.bind (·.attempt)

/-- The attempt that the point has completed. -/
def PayoutTask.completed : PayoutTask → Option ReconAttempt
  | .raiseOperationalAlert attempt => some attempt
  | .auditOutcome attempt => some attempt
  | _ => none

/-- The run that the point is in. -/
def PayoutTask.run : PayoutTask → Option ReconRun
  | .claim run => some run
  | .readClaimed run => some run
  | .createAttempt run _ => some run
  | t => (t.numbered.or t.completed).map (·.run)

/-- The point writes to the table of attempts on behalf of a run. -/
def PayoutTask.records : PayoutTask → Bool
  | .createAttempt _ _ => true
  | .scheduleAttempt _ _ _ => true
  | _ => false

/-- How far the point is from the end of its run on a row. -/
def PayoutTask.rank : PayoutTask → Nat
  | .claim _ => 15
  | .readClaimed _ => 14
  | .createAttempt _ _ => 13
  | .auditStarted _ => 12
  | .auditQueried _ => 11
  | .refreshMwaloniB2cStatus _ _ => 10
  | .getStatus _ _ => 9
  | .applyMwaloniStatus _ _ _ => 8
  | .readOutcome _ _ => 6
  | .completeAttempt _ _ after => if after = .leave then 2 else 5
  | .scheduleAttempt _ _ after => if after = .leave then 1 else 4
  | .raiseOperationalAlert _ => 3
  | .auditOutcome _ => 3
  | _ => 7

/-- What an update does to the status of the row `id`. A row that is failed without a reversal is
not linked to a debit, or its callback found so. -/
inductive StatusMove (t : PayoutTask) (id : Nat) (m m' : MpesaTransaction) : Prop
  | kept (h : m'.status = m.status)
  | waits (hm : m.unsettled = true) (h : m'.status = .reconPending)
  | completed (hm : m.unsettled = true) (ht : t.settles id = true) (h : m'.status = .completed)
  | failed (hm : m.unsettled = true) (ht : t.settles id = true) (h : m'.status = .failed)
      (hlink : (∃ body, t = .failB2c body id) ∨ m.transactionId = none ∨
        m.referenceType ≠ some .fosaWithdrawal)
  | flagged {stale : StaleRow} {rows : List StaleRow} (ht : t = .flagPending (stale :: rows))
      (hid : stale.id = id) (h : m'.status = .reconPending)

/-- An update that neither counts attempts nor makes the row ready to be sent. -/
structure Edits (t : PayoutTask) (id : Nat) (f : MpesaTransaction → MpesaTransaction)
    (m : MpesaTransaction) : Prop where
  point : t.records = false
  origin : ∀ m, (f m).origin = m.origin
  count : ∀ m, (f m).reconciliationAttemptCount = m.reconciliationAttemptCount
  sent : ∀ m, (f m).providerSubmissionState = some .localCreated →
    m.providerSubmissionState = some .localCreated
  status : StatusMove t id m (f m)

/-- The update of a row whose debit is reversed with it. -/
structure FailsRow (f : MpesaTransaction → MpesaTransaction) : Prop where
  origin : ∀ m, (f m).origin = m.origin
  count : ∀ m, (f m).reconciliationAttemptCount = m.reconciliationAttemptCount
  sent : ∀ m, (f m).providerSubmissionState = some .localCreated →
    m.providerSubmissionState = some .localCreated
  status : ∀ m, (f m).status = .failed

/-- What a statement can write. -/
inductive PayoutWrite (d : PayoutDesk) : PayoutTask → PayoutDesk → Prop
  | nothing {t : PayoutTask} (ht : t.records = false) (n : Nat) : PayoutWrite d t (d.drawn n)
  | withdraw {request : WithdrawMpesa} {accountId : Nat} {r : PostingResult} {db : Db}
      {intents : List PayoutIntent}
      (hpost : Yields (postEntry (request.posting d.db.tenantId accountId)) d.db r db)
      (hintents : (intents = d.intents ∧
          ∃ intent ∈ d.intents, intent.sourceTransactionId = r.transaction) ∨
        ∃ intent : PayoutIntent, intent.sourceTransactionId = r.transaction ∧
          intents = d.intents ++ [intent]) :
      PayoutWrite d (.executeWithdrawMpesa request) { d with db := db, intents := intents }
  | create {payout : MobilePayout} {now : Int}
      (hunique : ∀ r ∈ d.db.mpesaTransactions,
        clash payout.sourceTransactionId r.transactionId = false) :
      PayoutWrite d (.createB2c payout) { d with db := d.db.insertMpesa (payout.row now) }
  | claimSend {id : Nat} {payout : MobilePayout} {now : Int} {m : MpesaTransaction}
      (hm : d.db.mpesaTransactions[id]? = some m) (hopen : m.unsettled = true)
      (hlocal : m.providerSubmissionState = some .localCreated) (hapart : d.db.Apart id m) :
      PayoutWrite d (.claimSend id payout) (d.edit id fun m =>
        { m with
          providerSubmissionState := some .sendAttempted
          providerSendAttemptedAt := some now })
  | send {id : Nat} {payout : MobilePayout} :
      PayoutWrite d (.sendMobile id payout) { d with sends := d.sends ++ [id] }
  | edit {t : PayoutTask} {n id : Nat} {m : MpesaTransaction}
      {f : MpesaTransaction → MpesaTransaction} (hm : d.db.mpesaTransactions[id]? = some m)
      (hapart : d.db.Apart id (f m)) (hf : Edits t id f m) :
      PayoutWrite d t ((d.drawn n).edit id f)
  | reverse {t : PayoutTask} {id transactionId : Nat} {m : MpesaTransaction}
      {f : MpesaTransaction → MpesaTransaction} {db : Db}
      {attempts : List MpesaWithdrawalReconciliationAttempt}
      (hm : d.db.mpesaTransactions[id]? = some m) (hopen : m.unsettled = true)
      (ht : t.settles id = true)
      (hlink : (∃ body, t = .refundB2c body id transactionId) ∨
        (∃ row actorId dto, t = .reverseByHand id row transactionId actorId dto) ∨
        (m.transactionId = some transactionId ∧ m.referenceType = some .fosaWithdrawal))
      (hattempts : attempts = d.attempts ∨ (t.byHand id = true ∧
        ∃ n, attempts.map (·.key) = d.attempts.map (·.key) ++ [(id, n)]))
      (hreversed : Reversed transactionId (d.db.updateMpesa id f) db)
      (hapart : d.db.Apart id (f m)) (hf : FailsRow f) :
      PayoutWrite d t { d with db := db, attempts := attempts }
  | completeByHand {id : Nat} {row m : MpesaTransaction} {actorId : String}
      {dto : ManualReconciliationEvidenceDto} {f : MpesaTransaction → MpesaTransaction}
      {attempts : List MpesaWithdrawalReconciliationAttempt}
      (hm : d.db.mpesaTransactions[id]? = some m)
      (hapart : d.db.Apart id (f m)) (hf : Edits (.completeByHand id row actorId dto) id f m)
      (hattempts : ∃ n, attempts.map (·.key) = d.attempts.map (·.key) ++ [(id, n)])
      (hsettled : ∀ m, (f m).unsettled = false) :
      PayoutWrite d (.completeByHand id row actorId dto) { d.edit id f with attempts := attempts }
  | createAttempt {run : ReconRun} {claimed : MpesaTransaction} {now : Int}
      (hfresh : ∀ a ∈ d.attempts, a.key ≠
        (run.mpesaTransactionId, claimed.reconciliationAttemptCount + 1)) :
      PayoutWrite d (.createAttempt run claimed) { d with attempts := d.attempts ++
        [newAttempt run.mpesaTransactionId claimed run.trigger run.actorId now] }
  | schedule {attempt : ReconAttempt} {result : AttemptResult} {after : AfterCompletion}
      {now : Int} {m : MpesaTransaction}
      (hm : d.db.mpesaTransactions[attempt.run.mpesaTransactionId]? = some m)
      (hapart : d.db.Apart attempt.run.mpesaTransactionId m) :
      PayoutWrite d (.scheduleAttempt attempt result after)
        { d.edit attempt.run.mpesaTransactionId (attempt.release result) with
          attempts := d.attempts.modify attempt.attemptId (attempt.close result now) }

/-- Where a statement can lead. -/
inductive Leads (d : PayoutDesk) : PayoutTask → PayoutTask → Prop
  | taken {n : Nat} {intent : PayoutIntent} {account : Account}
      (hintent : d.intents[n]? = some intent) :
      Leads d (.executeB2cDisbursement n)
        (.findDispatched (intent.payout account) intent.sourceTransactionId)
  | sendAgain {payout : MobilePayout} {source id : Nat} {orderNumber : String} :
      Leads d (.findDispatched payout source) (.claimSend id { payout with orderNumber })
  | ambiguous {payout : MobilePayout} {source id : Nat} {reason : String} :
      Leads d (.findDispatched payout source) (.markMwaloniOutcomeUnknown id reason)
  | execute {payout : MobilePayout} {source : Nat} :
      Leads d (.findDispatched payout source) (.executeMwaloniMobilePayout payout)
  | sendFound {payout : MobilePayout} {id : Nat} :
      Leads d (.executeMwaloniMobilePayout payout) (.claimSend id payout)
  | refreshFound {payout : MobilePayout} {id : Nat} :
      Leads d (.executeMwaloniMobilePayout payout) (.refreshMwaloniB2cStatus id .other)
  | create {payout : MobilePayout} :
      Leads d (.executeMwaloniMobilePayout payout) (.createB2c payout)
  | created {payout : MobilePayout} {id : Nat} : Leads d (.createB2c payout) (.claimSend id payout)
  | claimedSend {payout : MobilePayout} {id : Nat} {m : MpesaTransaction}
      (hm : d.db.mpesaTransactions[id]? = some m) (hopen : m.unsettled = true)
      (hlocal : m.providerSubmissionState = some .localCreated) :
      Leads d (.claimSend id payout) (.sendMobile id payout)
  | accepted {payout : MobilePayout} {id : Nat} {response : MwaloniResponse} :
      Leads d (.sendMobile id payout) (.markAccepted id response)
  | unknown {payout : MobilePayout} {id : Nat} {reason : String} :
      Leads d (.sendMobile id payout) (.markMwaloniOutcomeUnknown id reason)
  | answered {id : Nat} {response : MwaloniResponse} :
      Leads d (.markAccepted id response) (.applyMwaloniStatus id response (.send id))
  | query {id : Nat} {caller : StatusCaller} :
      Leads d (.refreshMwaloniB2cStatus id caller) (.getStatus id caller)
  | apply {id : Nat} {response : MwaloniResponse} {caller : StatusCaller} :
      Leads d (.getStatus id caller) (.applyMwaloniStatus id response caller)
  | mismatch {id : Nat} {response : MwaloniResponse} {message : String} {caller : StatusCaller} :
      Leads d (.applyMwaloniStatus id response caller)
        (.markMwaloniMismatchReconciliation id message caller)
  | success {id : Nat} {response : MwaloniResponse} {message : String} {caller : StatusCaller} :
      Leads d (.applyMwaloniStatus id response caller)
        (.completeMwaloniTransaction id message caller)
  | pending {id : Nat} {response : MwaloniResponse} {message : String} {caller : StatusCaller} :
      Leads d (.applyMwaloniStatus id response caller) (.noteMwaloniPending id message caller)
  | failure {id : Nat} {response : MwaloniResponse} {status message : String}
      {caller : StatusCaller} :
      Leads d (.applyMwaloniStatus id response caller)
        (.failMwaloniTransaction id status message caller)
  | resume {t u : PayoutTask} {caller : StatusCaller} {found : ProviderStatus}
      (ht : t.caller = some caller) (hu : caller.resume found = some u) : Leads d t u
  | poll {job : B2cTimeoutJob} {id : Nat} :
      Leads d (.b2cTimeout job) (.refreshMwaloniB2cStatus id (.timeout job))
  | unpolled {job : B2cTimeoutJob} : Leads d (.b2cTimeout job) (.markTimeout job)
  | callbackMismatch {body : B2cCallback} {id : Nat} :
      Leads d (.handleB2cCallback body) (.markB2cCallbackMismatch body id)
  | callbackSuccess {body : B2cCallback} {id : Nat} :
      Leads d (.handleB2cCallback body) (.completeB2c body id)
  | callbackRefund {body : B2cCallback} {id transactionId : Nat} {m : MpesaTransaction}
      (hm : d.db.mpesaTransactions[id]? = some m) (hfosa : m.referenceType = some .fosaWithdrawal)
      (hlink : m.transactionId = some transactionId) :
      Leads d (.handleB2cCallback body) (.refundB2c body id transactionId)
  | callbackUnlinked {body : B2cCallback} {id : Nat} :
      Leads d (.handleB2cCallback body) (.markNoLinkedLedger body id)
  | callbackFailure {body : B2cCallback} {id : Nat} {m : MpesaTransaction}
      (hm : d.db.mpesaTransactions[id]? = some m)
      (hlink : m.transactionId = none ∨ m.referenceType ≠ some .fosaWithdrawal) :
      Leads d (.handleB2cCallback body) (.failB2c body id)
  | select : Leads d .runAutomatedSweep .selectEligible
  | claimFirst {run : ReconRun} : Leads d .selectEligible (.claim run)
  | claimOne {id : Nat} {actorId : String} {run : ReconRun} :
      Leads d (.refreshProviderStatus id actorId) (.claim run)
  | claimed {run : ReconRun} {m : MpesaTransaction}
      (hm : d.db.mpesaTransactions[run.mpesaTransactionId]? = some m) (hopen : m.unsettled = true) :
      Leads d (.claim run) (.readClaimed run)
  | skipped {run : ReconRun} {u : PayoutTask} (hu : run.finish = some u) : Leads d (.claim run) u
  | read {run : ReconRun} {m : MpesaTransaction}
      (hm : d.db.mpesaTransactions[run.mpesaTransactionId]? = some m) :
      Leads d (.readClaimed run) (.createAttempt run m)
  | numbered {run : ReconRun} {m : MpesaTransaction} :
      Leads d (.createAttempt run m) (.auditStarted ⟨run, d.attempts.length, m⟩)
  | within {t u : PayoutTask} {attempt : ReconAttempt} (ht : t.numbered = some attempt)
      (hu : u.numbered = some attempt) (hrecords : t.records = false) (hrank : u.rank < t.rank) :
      Leads d t u
  | scheduled {attempt : ReconAttempt} {result : AttemptResult} {after : AfterCompletion}
      {u : PayoutTask} (hu : attempt.resume after = some u) :
      Leads d (.scheduleAttempt attempt result after) u
  | finished {t u : PayoutTask} {attempt : ReconAttempt} (ht : t.completed = some attempt)
      (hu : attempt.run.finish = some u) : Leads d t u
  | byHandCompletion {id : Nat} {row : MpesaTransaction} {actorId : String}
      {dto : ManualReconciliationEvidenceDto} :
      Leads d (.markCompletedWithEvidence id actorId dto) (.completeByHand id row actorId dto)
  | byHandReversal {id transactionId : Nat} {row : MpesaTransaction} {actorId : String}
      {dto : ManualReconciliationEvidenceDto}
      (hm : d.db.mpesaTransactions[id]? = some row)
      (hfosa : row.referenceType = some .fosaWithdrawal)
      (hlink : row.transactionId = some transactionId) :
      Leads d (.reverseConfirmedFailure id actorId dto)
        (.reverseByHand id row transactionId actorId dto)
  | flag {dateStart dateEnd : Int} {rows : List StaleRow} :
      Leads d (.runReconciliation dateStart dateEnd) (.flagPending rows)
  | flagNext {row : StaleRow} {rows : List StaleRow} :
      Leads d (.flagPending (row :: rows)) (.flagPending rows)

/-- What a statement has done: its write, where it leads, and whether it may end the process. -/
structure Does (d : PayoutDesk) (t : PayoutTask) (t' : Option PayoutTask) (d' : PayoutDesk) :
    Prop where
  writes : PayoutWrite d t d'
  leads : ∀ u, t' = some u → Leads d t u
  ends : t' = none → (∀ run, t.run = some run → run.finish = none) ∧
    (t.records = false → t.numbered = none)

/-! ## 3. Every statement is on the lists -/

namespace WithdrawalLemmas

theorem run_of_numbered {t : PayoutTask} {attempt : ReconAttempt}
    (h : t.numbered = some attempt) : t.run = some attempt.run := by
  cases t with
  | claim => cases h
  | readClaimed => cases h
  | createAttempt => cases h
  | _ =>
    unfold PayoutTask.run
    simp only [h, Option.some_or, Option.map_some]

theorem numbered_of_run {t : PayoutTask} (h : t.run = none) : t.numbered = none := by
  cases hn : t.numbered with
  | none => rfl
  | some attempt =>
    rw [run_of_numbered hn] at h
    cases h

theorem does_read {d : PayoutDesk} {t u : PayoutTask} (ht : t.records = false)
    (hu : Leads d t u) : Does d t (some u) d where
  writes := .nothing ht d.db.uuid
  leads v hv := Option.some.inj hv ▸ hu
  ends h := by cases h

/-- A statement that only reads, and ends a process that is in no run. -/
theorem does_stop {d : PayoutDesk} {t : PayoutTask} (ht : t.records = false)
    (hrun : t.run = none) : Does d t none d where
  writes := .nothing ht d.db.uuid
  leads v hv := by cases hv
  ends _ := ⟨fun run h => absurd (hrun.symm.trans h) (by simp), fun _ => numbered_of_run hrun⟩

theorem does_write {d d' : PayoutDesk} {t : PayoutTask} (hw : PayoutWrite d t d')
    (hrun : t.run = none) : Does d t none d' where
  writes := hw
  leads v hv := by cases hv
  ends _ := ⟨fun run h => absurd (hrun.symm.trans h) (by simp), fun _ => numbered_of_run hrun⟩

theorem does_step {d d' : PayoutDesk} {t u : PayoutTask} (hw : PayoutWrite d t d')
    (hu : Leads d t u) : Does d t (some u) d' where
  writes := hw
  leads v hv := Option.some.inj hv ▸ hu
  ends h := by cases h

/-- An update that says how far the provider was involved. -/
theorem edits_to {t : PayoutTask} {id : Nat} {f : MpesaTransaction → MpesaTransaction}
    {m : MpesaTransaction} {state : MwaloniProviderState} (ht : t.records = false)
    (horigin : ∀ m, (f m).origin = m.origin)
    (hcount : ∀ m, (f m).reconciliationAttemptCount = m.reconciliationAttemptCount)
    (hstate : ∀ m, (f m).providerSubmissionState = some state) (hne : state ≠ .localCreated)
    (hstatus : StatusMove t id m (f m)) : Edits t id f m where
  point := ht
  origin := horigin
  count := hcount
  sent m h := absurd (Option.some.inj ((hstate m).symm.trans h)) hne
  status := hstatus

theorem edits_beside {t : PayoutTask} {id : Nat} {f : MpesaTransaction → MpesaTransaction}
    {m : MpesaTransaction} (ht : t.records = false) (horigin : ∀ m, (f m).origin = m.origin)
    (hcount : ∀ m, (f m).reconciliationAttemptCount = m.reconciliationAttemptCount)
    (hstate : ∀ m, (f m).providerSubmissionState = m.providerSubmissionState)
    (hstatus : StatusMove t id m (f m)) : Edits t id f m where
  point := ht
  origin := horigin
  count := hcount
  sent m h := (hstate m).symm.trans h
  status := hstatus

/-- The claims of the services: the row is updated, or it is not to be had. -/
theorem claim_writes {t : PayoutTask} {id : Nat} {c : MpesaTransaction → Bool}
    {f : MpesaTransaction → MpesaTransaction} {b : Bool} {d d' : PayoutDesk}
    (h : Yields (onTables (claimMpesa id c f)) d b d') (ht : t.records = false)
    (hf : ∀ m, c m = true → Edits t id f m) : PayoutWrite d t d' := by
  obtain ⟨db, hclaim, rfl⟩ := yields_onTables.mp h
  rcases claimMpesa_cases hclaim with ⟨_, rfl⟩ | ⟨_, rfl, m, hm, hc, hapart⟩
  · exact .nothing ht d.db.uuid
  · exact .edit (n := d.db.uuid) hm hapart (hf m hc)

/-- A point that answers to the reconciliation is in its run, any other caller has none. -/
theorem run_of_caller {t : PayoutTask} {caller : StatusCaller} (h : t.caller = some caller) :
    (∃ attempt, caller = .reconcile attempt) ∨ t.run = none := by
  cases caller with
  | reconcile attempt => exact .inl ⟨attempt, rfl⟩
  | _ =>
    refine .inr ?_
    cases t with
    | refreshMwaloniB2cStatus | getStatus | applyMwaloniStatus | markMwaloniMismatchReconciliation
    | completeMwaloniTransaction | noteMwaloniPending | failMwaloniTransaction =>
      cases h
      rfl
    | _ => cases h

/-- A process in a status query goes on with its caller. -/
theorem does_resume {d d' : PayoutDesk} {t : PayoutTask} {caller : StatusCaller}
    {found : ProviderStatus} (ht : t.caller = some caller) (hw : PayoutWrite d t d') :
    Does d t (caller.resume found) d' where
  writes := hw
  leads u hu := .resume ht hu
  ends hnone := by
    rcases run_of_caller ht with ⟨attempt, rfl⟩ | hrun
    · cases hnone
    · exact ⟨fun run h => absurd (hrun.symm.trans h) (by simp), fun _ => numbered_of_run hrun⟩

/-! ### The withdrawal and its payout -/

theorem executeWithdrawMpesa_does {request : WithdrawMpesa} {t' : Option PayoutTask}
    {d d' : PayoutDesk} (h : Yields (executeWithdrawMpesa request) d t' d') :
    Does d (.executeWithdrawMpesa request) t' d' := by
  simp only [executeWithdrawMpesa, yields_bind, yields_get, yields_required, yields_ensure] at h
  obtain ⟨_, _, ⟨rfl, rfl⟩, account, _, ⟨_, rfl⟩, _, _, ⟨_, rfl⟩, r, _, hpost, h⟩ := h
  obtain ⟨db, hposted, rfl⟩ := yields_onTables.mp hpost
  rcases yields_ite.mp h with ⟨_, h⟩ | ⟨hold, h⟩
  · simp only [yields_bind, yields_modify, yields_pure] at h
    obtain ⟨_, _, rfl, rfl, rfl⟩ := h
    exact does_write (.withdraw hposted (.inr ⟨_, rfl, rfl⟩)) rfl
  · simp only [yields_pure] at h
    obtain ⟨rfl, rfl⟩ := h
    refine does_write (.withdraw hposted (.inl ⟨rfl, ?_⟩)) rfl
    by_contra hnone
    exact hold fun intent hi he => hnone ⟨intent, hi, he⟩

theorem executeB2cDisbursement_does {n : Nat} {t' : Option PayoutTask} {d d' : PayoutDesk}
    (h : Yields (executeB2cDisbursement n) d t' d') : Does d (.executeB2cDisbursement n) t' d' := by
  simp only [executeB2cDisbursement, yields_bind, yields_get, yields_required, yields_pure] at h
  obtain ⟨_, _, ⟨rfl, rfl⟩, intent, _, ⟨hintent, rfl⟩, account, _, ⟨_, rfl⟩, rfl, rfl⟩ := h
  exact does_read rfl (.taken hintent)

theorem findDispatched_does {payout : MobilePayout} {source : Nat} {enabled : Bool}
    {t' : Option PayoutTask} {d d' : PayoutDesk}
    (h : Yields (findDispatched payout source enabled) d t' d') :
    Does d (.findDispatched payout source) t' d' := by
  simp only [findDispatched, yields_bind, yields_get] at h
  obtain ⟨_, _, ⟨rfl, rfl⟩, h⟩ := h
  cases hfind : d.db.mpesaByTransaction source with
  | none =>
    simp only [hfind, yields_bind, yields_ensure, yields_pure] at h
    obtain ⟨_, _, ⟨_, rfl⟩, rfl, rfl⟩ := h
    exact does_read rfl .execute
  | some row =>
    simp only [hfind, yields_bind, yields_required] at h
    obtain ⟨orderNumber, _, ⟨_, rfl⟩, h⟩ := h
    rcases yields_ite.mp h with ⟨_, h⟩ | ⟨_, h⟩
    · simp only [yields_bind, yields_ensure, yields_pure] at h
      obtain ⟨_, _, ⟨_, rfl⟩, rfl, rfl⟩ := h
      exact does_read rfl .sendAgain
    rcases yields_ite.mp h with ⟨_, h⟩ | ⟨_, h⟩
    · obtain ⟨rfl, rfl⟩ := yields_pure.mp h
      exact does_read rfl .ambiguous
    · obtain ⟨rfl, rfl⟩ := yields_pure.mp h
      exact does_stop rfl rfl

theorem executeMwaloniMobilePayout_does {payout : MobilePayout} {t' : Option PayoutTask}
    {d d' : PayoutDesk} (h : Yields (executeMwaloniMobilePayout payout) d t' d') :
    Does d (.executeMwaloniMobilePayout payout) t' d' := by
  simp only [executeMwaloniMobilePayout, yields_bind, yields_get] at h
  obtain ⟨_, _, ⟨rfl, rfl⟩, h⟩ := h
  split at h
  · rcases yields_ite.mp h with ⟨_, h⟩ | ⟨_, h⟩
    · obtain ⟨rfl, rfl⟩ := yields_pure.mp h
      exact does_read rfl .sendFound
    rcases yields_ite.mp h with ⟨_, h⟩ | ⟨_, h⟩
    · obtain ⟨rfl, rfl⟩ := yields_pure.mp h
      exact does_read rfl .refreshFound
    · obtain ⟨rfl, rfl⟩ := yields_pure.mp h
      exact does_stop rfl rfl
  · obtain ⟨rfl, rfl⟩ := yields_pure.mp h
    exact does_read rfl .create

theorem createB2c_does {payout : MobilePayout} {now : Int} {t' : Option PayoutTask}
    {d d' : PayoutDesk} (h : Yields (createB2c payout now) d t' d') :
    Does d (.createB2c payout) t' d' := by
  simp only [createB2c, yields_bind, yields_onTables, yields_pure] at h
  obtain ⟨id, _, ⟨db, hcreate, rfl⟩, rfl, rfl⟩ := h
  obtain ⟨hunique, rfl, rfl⟩ := createMpesaTransaction_cases hcreate
  exact does_step (.create fun r hr => (hunique r hr).2.1) .created

theorem claimSend_does {id : Nat} {payout : MobilePayout} {now : Int} {t' : Option PayoutTask}
    {d d' : PayoutDesk} (h : Yields (claimSend id payout now) d t' d') :
    Does d (.claimSend id payout) t' d' := by
  simp only [claimSend, yields_bind, yields_onTables, yields_pure] at h
  obtain ⟨b, _, ⟨db, hclaim, rfl⟩, rfl, rfl⟩ := h
  rcases claimMpesa_cases hclaim with ⟨rfl, rfl⟩ | ⟨rfl, rfl, m, hm, hc, hapart⟩
  · exact does_stop rfl rfl
  · simp only [Bool.and_eq_true, beq_iff_eq] at hc
    exact does_step (.claimSend hm hc.1 hc.2 hapart) (.claimedSend hm hc.1 hc.2)

theorem sendMobile_does {id : Nat} {payout : MobilePayout} {answer : Except String MwaloniResponse}
    {t' : Option PayoutTask} {d d' : PayoutDesk} (h : Yields (sendMobile id answer) d t' d') :
    Does d (.sendMobile id payout) t' d' := by
  simp only [sendMobile, yields_bind, yields_modify] at h
  obtain ⟨_, _, rfl, h⟩ := h
  cases answer with
  | ok response =>
    obtain ⟨rfl, rfl⟩ := yields_pure.mp h
    exact does_step .send .accepted
  | error message =>
    obtain ⟨rfl, rfl⟩ := yields_pure.mp h
    exact does_step .send .unknown

theorem markAccepted_does {id : Nat} {response : MwaloniResponse} {t' : Option PayoutTask}
    {d d' : PayoutDesk} (h : Yields (markAccepted id response) d t' d') :
    Does d (.markAccepted id response) t' d' := by
  simp only [markAccepted, yields_bind, yields_pure] at h
  obtain ⟨b, _, hclaim, rfl, rfl⟩ := h
  refine does_step (claim_writes hclaim rfl fun m _ => ?_) .answered
  exact edits_to rfl (fun _ => rfl) (fun _ => rfl) (fun _ => rfl) (by decide) (.kept rfl)

theorem markMwaloniOutcomeUnknown_does {id : Nat} {reason : String} {t' : Option PayoutTask}
    {d d' : PayoutDesk} (h : Yields (markMwaloniOutcomeUnknown id reason) d t' d') :
    Does d (.markMwaloniOutcomeUnknown id reason) t' d' := by
  simp only [markMwaloniOutcomeUnknown, yields_bind, yields_pure] at h
  obtain ⟨b, _, hclaim, rfl, rfl⟩ := h
  refine does_write (claim_writes hclaim rfl fun m hm => ?_) rfl
  exact edits_to rfl (fun _ => rfl) (fun _ => rfl) (fun _ => rfl) (by decide) (.waits hm rfl)

/-! ### The status of a payout -/

theorem refreshMwaloniB2cStatus_does {id : Nat} {caller : StatusCaller} {enabled : Bool}
    {t' : Option PayoutTask} {d d' : PayoutDesk}
    (h : Yields (refreshMwaloniB2cStatus id caller enabled) d t' d') :
    Does d (.refreshMwaloniB2cStatus id caller) t' d' := by
  simp only [refreshMwaloniB2cStatus] at h
  rcases yields_ite.mp h with ⟨_, h⟩ | ⟨_, h⟩
  · obtain ⟨rfl, rfl⟩ := yields_pure.mp h
    exact does_resume rfl (.nothing rfl d.db.uuid)
  · simp only [yields_bind, yields_get] at h
    obtain ⟨_, _, ⟨rfl, rfl⟩, h⟩ := h
    split at h
    · obtain ⟨rfl, rfl⟩ := yields_pure.mp h
      exact does_resume rfl (.nothing rfl d.db.uuid)
    · rcases yields_ite.mp h with ⟨_, h⟩ | ⟨_, h⟩
      · obtain ⟨rfl, rfl⟩ := yields_pure.mp h
        exact does_resume rfl (.nothing rfl d.db.uuid)
      · obtain ⟨rfl, rfl⟩ := yields_pure.mp h
        exact does_read rfl .query

theorem getStatus_does {id : Nat} {caller : StatusCaller} {answer : Except String MwaloniResponse}
    {t' : Option PayoutTask} {d d' : PayoutDesk} (h : Yields (getStatus id caller answer) d t' d') :
    Does d (.getStatus id caller) t' d' := by
  unfold getStatus at h
  cases answer with
  | ok response =>
    obtain ⟨rfl, rfl⟩ := yields_pure.mp h
    exact does_read rfl .apply
  | error message => exact (yields_throw.mp h).elim

theorem applyMwaloniStatus_does {id : Nat} {response : MwaloniResponse} {caller : StatusCaller}
    {t' : Option PayoutTask} {d d' : PayoutDesk}
    (h : Yields (applyMwaloniStatus id response caller) d t' d') :
    Does d (.applyMwaloniStatus id response caller) t' d' := by
  simp only [applyMwaloniStatus, yields_bind, yields_get, yields_required] at h
  obtain ⟨_, _, ⟨rfl, rfl⟩, m, _, ⟨_, rfl⟩, h⟩ := h
  rcases yields_ite.mp h with ⟨_, h⟩ | ⟨_, h⟩
  · obtain ⟨rfl, rfl⟩ := yields_pure.mp h
    exact does_read rfl .mismatch
  rcases yields_ite.mp h with ⟨_, h⟩ | ⟨_, h⟩
  · obtain ⟨rfl, rfl⟩ := yields_pure.mp h
    exact does_read rfl .success
  rcases yields_ite.mp h with ⟨_, h⟩ | ⟨_, h⟩
  · obtain ⟨rfl, rfl⟩ := yields_pure.mp h
    exact does_read rfl .pending
  · obtain ⟨rfl, rfl⟩ := yields_pure.mp h
    exact does_read rfl .failure

theorem markMwaloniMismatchReconciliation_does {id : Nat} {message : String}
    {caller : StatusCaller} {t' : Option PayoutTask} {d d' : PayoutDesk}
    (h : Yields (markMwaloniMismatchReconciliation id message caller) d t' d') :
    Does d (.markMwaloniMismatchReconciliation id message caller) t' d' := by
  simp only [markMwaloniMismatchReconciliation, yields_bind, yields_pure] at h
  obtain ⟨b, _, hclaim, rfl, rfl⟩ := h
  refine does_resume rfl (claim_writes hclaim rfl fun m hm => ?_)
  exact edits_to rfl (fun _ => rfl) (fun _ => rfl) (fun _ => rfl) (by decide) (.waits hm rfl)

theorem completeMwaloniTransaction_does {id : Nat} {message : String} {caller : StatusCaller}
    {t' : Option PayoutTask} {d d' : PayoutDesk}
    (h : Yields (completeMwaloniTransaction id message caller) d t' d') :
    Does d (.completeMwaloniTransaction id message caller) t' d' := by
  simp only [completeMwaloniTransaction, yields_bind, yields_pure] at h
  obtain ⟨b, _, hclaim, rfl, rfl⟩ := h
  refine does_resume rfl (claim_writes hclaim rfl fun m hm => ?_)
  exact edits_to rfl (fun _ => rfl) (fun _ => rfl) (fun _ => rfl) (by decide)
    (.completed hm (beq_self_eq_true id) rfl)

theorem noteMwaloniPending_does {id : Nat} {message : String} {caller : StatusCaller}
    {t' : Option PayoutTask} {d d' : PayoutDesk}
    (h : Yields (noteMwaloniPending id message caller) d t' d') :
    Does d (.noteMwaloniPending id message caller) t' d' := by
  simp only [noteMwaloniPending, yields_bind, yields_onTables, yields_pure] at h
  obtain ⟨_, _, ⟨db, hupdate, rfl⟩, rfl, rfl⟩ := h
  obtain ⟨rfl, m, hm, hapart⟩ := updateMpesa_apart hupdate
  refine does_resume rfl (.edit (n := d.db.uuid) hm hapart ?_)
  exact edits_beside rfl (fun _ => rfl) (fun _ => rfl) (fun _ => rfl) (.kept rfl)

theorem failMwaloniTransaction_does {id : Nat} {status message : String} {caller : StatusCaller}
    {t' : Option PayoutTask} {d d' : PayoutDesk}
    (h : Yields (failMwaloniTransaction id status message caller) d t' d') :
    Does d (.failMwaloniTransaction id status message caller) t' d' := by
  simp only [failMwaloniTransaction, yields_bind, yields_get, yields_required] at h
  obtain ⟨_, _, ⟨rfl, rfl⟩, m, _, ⟨hm, rfl⟩, h⟩ := h
  split at h
  · next transactionId hlink =>
    obtain ⟨hlinked, hfosa⟩ := Option.filter_eq_some_iff.mp hlink
    simp only [yields_bind, yields_onTables, yields_pure] at h
    obtain ⟨b, _, ⟨db, hfail, rfl⟩, rfl, rfl⟩ := h
    rcases failAndReverse_cases hfail with ⟨_, rfl⟩ | ⟨_, hreversed, m', hm', hopen, hapart⟩
    · exact does_resume rfl (.nothing rfl d.db.uuid)
    · cases hm.symm.trans hm'
      refine does_resume rfl
        (.reverse hm hopen (beq_self_eq_true id)
          (.inr (.inr ⟨hlinked, of_decide_eq_true hfosa⟩)) (.inl rfl) hreversed hapart ?_)
      refine ⟨fun _ => rfl, fun _ => rfl, fun _ h => ?_, fun _ => rfl⟩
      cases h
  · next hlink =>
    simp only [yields_bind, yields_pure] at h
    obtain ⟨b, _, hfail, rfl, rfl⟩ := h
    obtain ⟨db, hclaim, rfl⟩ := yields_onTables.mp hfail
    rcases claimMpesa_cases hclaim with ⟨_, rfl⟩ | ⟨_, rfl, m', hm', hopen, hapart⟩
    · exact does_resume rfl (.nothing rfl d.db.uuid)
    · cases hm.symm.trans hm'
      refine does_resume rfl (.edit (n := d.db.uuid) hm hapart ?_)
      refine edits_to rfl (fun _ => rfl) (fun _ => rfl) (fun _ => rfl) (by decide)
        (.failed hopen (beq_self_eq_true id) rfl (.inr ?_))
      by_contra hne
      obtain ⟨hnone, hfosa⟩ := not_or.mp hne
      obtain ⟨s, hs⟩ := Option.ne_none_iff_exists'.mp hnone
      rw [hs, Option.filter_some, if_pos (decide_eq_true (not_not.mp hfosa))] at hlink
      cases hlink

/-! ### The timeout job and the callback -/

theorem processB2cTimeout_does {job : B2cTimeoutJob} {t' : Option PayoutTask} {d d' : PayoutDesk}
    (h : Yields (processB2cTimeout job) d t' d') : Does d (.b2cTimeout job) t' d' := by
  simp only [processB2cTimeout, yields_bind, yields_get] at h
  obtain ⟨_, _, ⟨rfl, rfl⟩, h⟩ := h
  split at h
  · obtain ⟨rfl, rfl⟩ := yields_pure.mp h
    exact does_read rfl .unpolled
  · obtain ⟨rfl, rfl⟩ := yields_pure.mp h
    exact does_read rfl .poll

theorem markTimeout_does {job : B2cTimeoutJob} {t' : Option PayoutTask} {d d' : PayoutDesk}
    (h : Yields (markTimeout job) d t' d') : Does d (.markTimeout job) t' d' := by
  simp only [markTimeout, yields_bind, yields_get] at h
  obtain ⟨_, _, ⟨rfl, rfl⟩, h⟩ := h
  split at h
  · obtain ⟨rfl, rfl⟩ := yields_pure.mp h
    exact does_stop rfl rfl
  · next id m hfind =>
    simp only [yields_bind, yields_onTables, yields_pure] at h
    obtain ⟨_, _, ⟨db, hupdate, rfl⟩, rfl, rfl⟩ := h
    obtain ⟨hm, hp⟩ := Table.findRow_some hfind
    simp only [Bool.and_eq_true, beq_iff_eq] at hp
    obtain ⟨rfl, m', hm', hapart⟩ := updateMpesa_apart hupdate
    cases hm.symm.trans hm'
    have hopen : m.unsettled = true := by
      unfold MpesaTransaction.unsettled
      rw [hp.2]
      rfl
    refine does_write (.edit (n := d.db.uuid) hm hapart ?_) rfl
    exact edits_beside rfl (fun _ => rfl) (fun _ => rfl) (fun _ => rfl) (.waits hopen rfl)

theorem handleB2cCallback_does {body : B2cCallback} {t' : Option PayoutTask} {d d' : PayoutDesk}
    (h : Yields (handleB2cCallback body) d t' d') : Does d (.handleB2cCallback body) t' d' := by
  simp only [handleB2cCallback, yields_bind, yields_get] at h
  obtain ⟨_, _, ⟨rfl, rfl⟩, h⟩ := h
  cases hfind : d.db.mpesaByConversation body.conversationId with
  | none =>
    simp only [hfind, yields_pure] at h
    obtain ⟨rfl, rfl⟩ := h
    exact does_stop rfl rfl
  | some row =>
    obtain ⟨id, m⟩ := row
    have hm := (Table.findRow_some hfind).1
    simp only [hfind] at h
    rcases yields_ite.mp h with ⟨_, h⟩ | ⟨_, h⟩
    · obtain ⟨rfl, rfl⟩ := yields_pure.mp h
      exact does_stop rfl rfl
    rcases yields_ite.mp h with ⟨_, h⟩ | ⟨_, h⟩
    · obtain ⟨rfl, rfl⟩ := yields_pure.mp h
      exact does_read rfl .callbackMismatch
    rcases yields_ite.mp h with ⟨_, h⟩ | ⟨_, h⟩
    · rcases yields_ite.mp h with ⟨_, h⟩ | ⟨_, h⟩
      · obtain ⟨rfl, rfl⟩ := yields_pure.mp h
        exact does_read rfl .callbackSuccess
      · obtain ⟨rfl, rfl⟩ := yields_pure.mp h
        exact does_stop rfl rfl
    rcases yields_ite.mp h with ⟨hfosa, h⟩ | ⟨hother, h⟩
    · cases hlink : m.transactionId with
      | some transactionId =>
        simp only [hlink, yields_pure] at h
        obtain ⟨rfl, rfl⟩ := h
        exact does_read rfl (.callbackRefund hm hfosa hlink)
      | none =>
        simp only [hlink] at h
        rcases yields_ite.mp h with ⟨_, h⟩ | ⟨_, h⟩
        · obtain ⟨rfl, rfl⟩ := yields_pure.mp h
          exact does_read rfl .callbackUnlinked
        · obtain ⟨rfl, rfl⟩ := yields_pure.mp h
          exact does_read rfl (.callbackFailure hm (.inl hlink))
    · obtain ⟨rfl, rfl⟩ := yields_pure.mp h
      exact does_read rfl (.callbackFailure hm (.inr hother))

theorem markB2cCallbackMismatch_does {body : B2cCallback} {id : Nat} {t' : Option PayoutTask}
    {d d' : PayoutDesk} (h : Yields (markB2cCallbackMismatch body id) d t' d') :
    Does d (.markB2cCallbackMismatch body id) t' d' := by
  simp only [markB2cCallbackMismatch, yields_bind, yields_pure] at h
  obtain ⟨b, _, hclaim, rfl, rfl⟩ := h
  refine does_write (claim_writes hclaim rfl fun m hm => ?_) rfl
  exact edits_beside rfl (fun _ => rfl) (fun _ => rfl) (fun _ => rfl) (.waits hm rfl)

theorem refundB2c_does {body : B2cCallback} {id transactionId : Nat} {t' : Option PayoutTask}
    {d d' : PayoutDesk} (h : Yields (refundB2c body id transactionId) d t' d') :
    Does d (.refundB2c body id transactionId) t' d' := by
  simp only [refundB2c, yields_bind, yields_onTables, yields_pure] at h
  obtain ⟨b, _, ⟨db, hfail, rfl⟩, rfl, rfl⟩ := h
  rcases failAndReverse_cases hfail with ⟨_, rfl⟩ | ⟨_, hreversed, m, hm, hopen, hapart⟩
  · exact does_stop rfl rfl
  · refine does_write (.reverse hm hopen (beq_self_eq_true id) (.inl ⟨body, rfl⟩) (.inl rfl)
      hreversed hapart ?_) rfl
    exact ⟨fun _ => rfl, fun _ => rfl, fun _ h => h, fun _ => rfl⟩

theorem markNoLinkedLedger_does {body : B2cCallback} {id : Nat} {t' : Option PayoutTask}
    {d d' : PayoutDesk} (h : Yields (markNoLinkedLedger body id) d t' d') :
    Does d (.markNoLinkedLedger body id) t' d' := by
  simp only [markNoLinkedLedger, yields_bind, yields_pure] at h
  obtain ⟨b, _, hclaim, rfl, rfl⟩ := h
  refine does_write (claim_writes hclaim rfl fun m hm => ?_) rfl
  have hopen : m.unsettled = true := (Bool.and_eq_true_iff.mp hm).1
  exact edits_beside rfl (fun _ => rfl) (fun _ => rfl) (fun _ => rfl) (.waits hopen rfl)

theorem failB2c_does {body : B2cCallback} {id : Nat} {t' : Option PayoutTask} {d d' : PayoutDesk}
    (h : Yields (failB2c body id) d t' d') : Does d (.failB2c body id) t' d' := by
  simp only [failB2c, yields_bind, yields_pure] at h
  obtain ⟨b, _, hclaim, rfl, rfl⟩ := h
  refine does_write (claim_writes hclaim rfl fun m hm => ?_) rfl
  exact edits_beside rfl (fun _ => rfl) (fun _ => rfl) (fun _ => rfl)
    (.failed hm (beq_self_eq_true id) rfl (.inl ⟨body, rfl⟩))

theorem completeB2c_does {body : B2cCallback} {id : Nat} {t' : Option PayoutTask}
    {d d' : PayoutDesk} (h : Yields (completeB2c body id) d t' d') :
    Does d (.completeB2c body id) t' d' := by
  have hwrites : ∀ (receipt : String) (n : Nat) (b : Bool) (d' : PayoutDesk),
      Yields (onTables (claimMpesa id (·.unsettled) fun m =>
        { body.record m with status := .completed, mpesaReceiptNumber := some receipt }))
        (d.drawn n) b d' → PayoutWrite d (.completeB2c body id) d' := by
    intro receipt n b d' h
    obtain ⟨db, hclaim, rfl⟩ := yields_onTables.mp h
    rcases claimMpesa_cases hclaim with ⟨_, rfl⟩ | ⟨_, rfl, m, hm, hopen, hapart⟩
    · exact .nothing rfl n
    · refine .edit (n := n) (m := m) hm hapart ?_
      exact edits_beside rfl (fun _ => rfl) (fun _ => rfl) (fun _ => rfl)
        (.completed hopen (beq_self_eq_true id) rfl)
  cases hreceipt : body.transactionReceipt.or body.transactionId with
  | some receipt =>
    simp only [completeB2c, hreceipt, yields_bind, yields_pure] at h
    obtain ⟨_, _, ⟨rfl, rfl⟩, b, _, hclaim, rfl, rfl⟩ := h
    exact does_write (hwrites receipt d.db.uuid b _ hclaim) rfl
  | none =>
    simp only [completeB2c, hreceipt, yields_bind, yields_pure] at h
    obtain ⟨receipt, _, hdraw, b, _, hclaim, rfl, rfl⟩ := h
    obtain ⟨db, huuid, rfl⟩ := yields_onTables.mp hdraw
    obtain ⟨rfl, rfl⟩ := yields_uuidv4.mp huuid
    exact does_write (hwrites _ (d.db.uuid + 1) b _ hclaim) rfl

/-! ### The reconciliation -/

theorem does_finish {d d' : PayoutDesk} {t : PayoutTask} {run : ReconRun} (hw : PayoutWrite d t d')
    (hrun : t.run = some run) (hnumbered : t.numbered = none)
    (hleads : ∀ u, run.finish = some u → Leads d t u) : Does d t run.finish d' where
  writes := hw
  leads := hleads
  ends hnone := by
    refine ⟨fun r hr => ?_, fun _ => hnumbered⟩
    cases hrun.symm.trans hr
    exact hnone

theorem selectEligible_does {config : ReconConfig} {now : Int} {t' : Option PayoutTask}
    {d d' : PayoutDesk} (h : Yields (selectEligible config now) d t' d') :
    Does d .selectEligible t' d' := by
  simp only [selectEligible, yields_bind, yields_get] at h
  obtain ⟨_, _, ⟨rfl, rfl⟩, h⟩ := h
  split at h
  · obtain ⟨rfl, rfl⟩ := yields_pure.mp h
    exact does_stop rfl rfl
  · obtain ⟨rfl, rfl⟩ := yields_pure.mp h
    exact does_read rfl .claimFirst

theorem requireWithdrawal_cases {id : Nat} {m : MpesaTransaction} {d d' : PayoutDesk}
    (h : Yields (requireWithdrawal id) d m d') :
    d' = d ∧ d.db.mpesaTransactions[id]? = some m ∧ m.referenceType = some .fosaWithdrawal := by
  simp only [requireWithdrawal, yields_bind, yields_get, yields_required] at h
  obtain ⟨_, _, ⟨rfl, rfl⟩, hm, rfl⟩ := h
  obtain ⟨hrow, hp⟩ := Option.filter_eq_some_iff.mp hm
  simp only [Bool.and_eq_true, beq_iff_eq] at hp
  exact ⟨rfl, hrow, hp.1⟩

theorem refreshProviderStatus_does {id : Nat} {actorId : String} {t' : Option PayoutTask}
    {d d' : PayoutDesk} (h : Yields (refreshProviderStatus id actorId) d t' d') :
    Does d (.refreshProviderStatus id actorId) t' d' := by
  simp only [refreshProviderStatus, yields_bind, yields_pure] at h
  obtain ⟨m, _, hread, rfl, rfl⟩ := h
  obtain ⟨rfl, _⟩ := requireWithdrawal_cases hread
  exact does_read rfl .claimOne

theorem claim_does {config : ReconConfig} {run : ReconRun} {now : Int} {t' : Option PayoutTask}
    {d d' : PayoutDesk} (h : Yields (claim config run now) d t' d') :
    Does d (.claim run) t' d' := by
  simp only [claim, yields_bind, yields_onTables, yields_pure] at h
  obtain ⟨b, _, ⟨db, hclaim, rfl⟩, rfl, rfl⟩ := h
  rcases claimMpesa_cases hclaim with ⟨rfl, rfl⟩ | ⟨rfl, rfl, m, hm, hc, hapart⟩
  · exact does_finish (.nothing rfl d.db.uuid) rfl rfl fun u hu => .skipped hu
  · have hopen : m.unsettled = true := (Bool.and_eq_true_iff.mp hc).1
    refine does_step (.edit (n := d.db.uuid) hm hapart ?_) (.claimed hm hopen)
    exact edits_beside rfl (fun _ => rfl) (fun _ => rfl) (fun _ => rfl) (.kept rfl)

theorem readClaimed_does {run : ReconRun} {t' : Option PayoutTask} {d d' : PayoutDesk}
    (h : Yields (readClaimed run) d t' d') : Does d (.readClaimed run) t' d' := by
  simp only [readClaimed, yields_bind, yields_get, yields_required, yields_pure] at h
  obtain ⟨_, _, ⟨rfl, rfl⟩, m, _, ⟨hm, rfl⟩, rfl, rfl⟩ := h
  exact does_read rfl (.read hm)

theorem createAttempt_does {run : ReconRun} {claimed : MpesaTransaction} {now : Int}
    {t' : Option PayoutTask} {d d' : PayoutDesk}
    (h : Yields (createAttempt run claimed now) d t' d') :
    Does d (.createAttempt run claimed) t' d' := by
  simp only [createAttempt, yields_bind, yields_pure] at h
  obtain ⟨n, _, hinsert, rfl, rfl⟩ := h
  obtain ⟨hfresh, rfl, rfl⟩ := insertAttempt_cases hinsert
  refine does_step (.createAttempt fun a ha hkey => ?_) .numbered
  exact hfresh a ha (Prod.mk.inj hkey).1 (Prod.mk.inj hkey).2

theorem auditStarted_does {config : ReconConfig} {attempt : ReconAttempt} {now : Int}
    {t' : Option PayoutTask} {d d' : PayoutDesk}
    (h : Yields (auditStarted config attempt now) d t' d') :
    Does d (.auditStarted attempt) t' d' := by
  simp only [auditStarted] at h
  rcases yields_ite.mp h with ⟨_, h⟩ | ⟨_, h⟩
  · obtain ⟨rfl, rfl⟩ := yields_pure.mp h
    exact does_read rfl (.within rfl rfl rfl (show 5 < 12 by decide))
  · obtain ⟨rfl, rfl⟩ := yields_pure.mp h
    exact does_read rfl (.within rfl rfl rfl (show 11 < 12 by decide))

theorem readOutcome_does {config : ReconConfig} {attempt : ReconAttempt} {found : ProviderStatus}
    {now : Int} {t' : Option PayoutTask} {d d' : PayoutDesk}
    (h : Yields (readOutcome config attempt found now) d t' d') :
    Does d (.readOutcome attempt found) t' d' := by
  simp only [readOutcome, yields_bind, yields_get, yields_required, yields_pure] at h
  obtain ⟨_, _, ⟨rfl, rfl⟩, m, _, ⟨_, rfl⟩, rfl, rfl⟩ := h
  exact does_read rfl (.within rfl rfl rfl (show 5 < 6 by decide))

theorem completeAttempt_does {config : ReconConfig} {attempt : ReconAttempt}
    {outcome : ReconOutcome} {after : AfterCompletion} {now : Int} {t' : Option PayoutTask}
    {d d' : PayoutDesk} (h : Yields (completeAttempt config attempt outcome after now) d t' d') :
    Does d (.completeAttempt attempt outcome after) t' d' := by
  simp only [completeAttempt, yields_bind, yields_get, yields_required, yields_pure] at h
  obtain ⟨_, _, ⟨rfl, rfl⟩, m, _, ⟨_, rfl⟩, rfl, rfl⟩ := h
  refine does_read rfl (.within rfl rfl rfl ?_)
  cases after with
  | alert => exact (show 4 < 5 by decide)
  | audit => exact (show 4 < 5 by decide)
  | leave => exact (show 1 < 2 by decide)

theorem scheduleAttempt_does {attempt : ReconAttempt} {result : AttemptResult}
    {after : AfterCompletion} {now : Int} {t' : Option PayoutTask} {d d' : PayoutDesk}
    (h : Yields (scheduleAttempt attempt result after now) d t' d') :
    Does d (.scheduleAttempt attempt result after) t' d' := by
  simp only [scheduleAttempt, yields_bind, yields_onTables, yields_pure] at h
  obtain ⟨_, _, ⟨db, hupdate, rfl⟩, _, _, hattempt, rfl, rfl⟩ := h
  obtain ⟨rfl, m, hm, hapart⟩ := updateMpesa_apart hupdate
  cases updateAttempt_cases hattempt
  refine ⟨.schedule hm hapart, fun u hu => .scheduled hu, fun hnone => ⟨fun run hrun => ?_,
    fun h => absurd h Bool.noConfusion⟩⟩
  cases hrun
  cases after with
  | alert => cases hnone
  | audit => cases hnone
  | leave => exact hnone

/-! ### The officers and the daily reconciliation -/

theorem closeAttempt_cases {n : Nat} {row : MpesaTransaction} {status : TransactionStatus}
    {reasonCode : String} {now : Int} {u : Unit} {d d' : PayoutDesk}
    (h : Yields (closeAttempt n row status reasonCode now) d u d') :
    ∃ attempts, d' = { d with attempts := attempts } ∧
      attempts.map (·.key) = d.attempts.map (·.key) := by
  cases updateAttempt_cases h
  exact ⟨_, rfl, Table.map_modify_same (fun _ => rfl)⟩

theorem markCompletedWithEvidence_does {id : Nat} {actorId : String}
    {dto : ManualReconciliationEvidenceDto} {t' : Option PayoutTask} {d d' : PayoutDesk}
    (h : Yields (markCompletedWithEvidence id actorId dto) d t' d') :
    Does d (.markCompletedWithEvidence id actorId dto) t' d' := by
  simp only [markCompletedWithEvidence, requireEvidence, yields_bind, yields_ensure,
    yields_pure] at h
  obtain ⟨m, _, hread, _, _, ⟨_, rfl⟩, rfl, rfl⟩ := h
  obtain ⟨rfl, _⟩ := requireWithdrawal_cases hread
  exact does_read rfl .byHandCompletion

theorem completeByHand_does {id : Nat} {row : MpesaTransaction} {actorId : String}
    {dto : ManualReconciliationEvidenceDto} {now : Int} {t' : Option PayoutTask}
    {d d' : PayoutDesk} (h : Yields (completeByHand id row actorId dto now) d t' d') :
    Does d (.completeByHand id row actorId dto) t' d' := by
  simp only [completeByHand, yields_bind, yields_onTables, yields_ensure, yields_pure] at h
  obtain ⟨n, _, hinsert, b, _, ⟨db, hclaim, rfl⟩, _, _, ⟨rfl, rfl⟩, _, _, hclose, rfl, rfl⟩ := h
  obtain ⟨_, rfl, rfl⟩ := insertAttempt_cases hinsert
  obtain ⟨attempts, rfl, hkeys⟩ := closeAttempt_cases hclose
  rcases claimMpesa_cases hclaim with ⟨hfalse, _⟩ | ⟨_, rfl, m, hm, hopen, hapart⟩
  · cases hfalse
  · refine does_write (.completeByHand hm hapart ?_ ⟨row.reconciliationAttemptCount + 1, ?_⟩
      fun _ => rfl) rfl
    · exact edits_beside rfl (fun _ => rfl) (fun _ => rfl) (fun _ => rfl)
        (.completed hopen (beq_self_eq_true id) rfl)
    · rw [hkeys, List.map_append]
      rfl

theorem reverseConfirmedFailure_does {id : Nat} {actorId : String}
    {dto : ManualReconciliationEvidenceDto} {t' : Option PayoutTask} {d d' : PayoutDesk}
    (h : Yields (reverseConfirmedFailure id actorId dto) d t' d') :
    Does d (.reverseConfirmedFailure id actorId dto) t' d' := by
  simp only [reverseConfirmedFailure, requireEvidence, yields_bind, yields_ensure,
    yields_required, yields_pure] at h
  obtain ⟨m, _, hread, _, _, ⟨_, rfl⟩, s, _, ⟨hlink, rfl⟩, rfl, rfl⟩ := h
  obtain ⟨rfl, hm, hfosa⟩ := requireWithdrawal_cases hread
  exact does_read rfl (.byHandReversal hm hfosa hlink)

theorem reverseByHand_does {id transactionId : Nat} {row : MpesaTransaction} {actorId : String}
    {dto : ManualReconciliationEvidenceDto} {now : Int} {t' : Option PayoutTask}
    {d d' : PayoutDesk} (h : Yields (reverseByHand id row transactionId actorId dto now) d t' d') :
    Does d (.reverseByHand id row transactionId actorId dto) t' d' := by
  simp only [reverseByHand, yields_bind, yields_onTables, yields_ensure, yields_pure] at h
  obtain ⟨n, _, hinsert, b, _, ⟨db, hfail, rfl⟩, _, _, ⟨rfl, rfl⟩, _, _, hclose, rfl, rfl⟩ := h
  obtain ⟨_, rfl, rfl⟩ := insertAttempt_cases hinsert
  obtain ⟨attempts, rfl, hkeys⟩ := closeAttempt_cases hclose
  rcases failAndReverse_cases hfail with ⟨hfalse, _⟩ | ⟨_, hreversed, m, hm, hopen, hapart⟩
  · cases hfalse
  · refine does_write (.reverse hm hopen (beq_self_eq_true id)
      (.inr (.inl ⟨row, actorId, dto, rfl⟩))
      (.inr ⟨beq_self_eq_true id, row.reconciliationAttemptCount + 1, ?_⟩) hreversed hapart ?_) rfl
    · rw [hkeys, List.map_append]
      rfl
    · exact ⟨fun _ => rfl, fun _ => rfl, fun _ h => h, fun _ => rfl⟩

theorem flagStalePending_does {rows : List StaleRow} {t' : Option PayoutTask}
    {d d' : PayoutDesk} (h : Yields (flagStalePending rows) d t' d') :
    Does d (.flagPending rows) t' d' := by
  cases rows with
  | nil =>
    obtain ⟨rfl, rfl⟩ := yields_pure.mp h
    exact does_stop rfl rfl
  | cons row rows =>
    simp only [flagStalePending, yields_bind, yields_onTables, yields_pure] at h
    obtain ⟨_, _, ⟨db, hupdate, rfl⟩, rfl, rfl⟩ := h
    obtain ⟨rfl, m, hm, hapart⟩ := updateMpesa_apart hupdate
    refine does_step (.edit (n := d.db.uuid) hm hapart ?_) .flagNext
    exact edits_beside rfl (fun _ => rfl) (fun _ => rfl) (fun _ => rfl) (.flagged rfl rfl rfl)

end WithdrawalLemmas

open WithdrawalLemmas

theorem statement_does {config : ReconConfig} {input : PayoutInput} {t : PayoutTask}
    {t' : Option PayoutTask} {d d' : PayoutDesk}
    (h : Yields (t.statement config input) d t' d') : Does d t t' d' := by
  cases t with
  | executeWithdrawMpesa => exact executeWithdrawMpesa_does h
  | executeB2cDisbursement => exact executeB2cDisbursement_does h
  | findDispatched => exact findDispatched_does h
  | executeMwaloniMobilePayout => exact executeMwaloniMobilePayout_does h
  | createB2c => exact createB2c_does h
  | claimSend => exact claimSend_does h
  | sendMobile => exact sendMobile_does h
  | markAccepted => exact markAccepted_does h
  | markMwaloniOutcomeUnknown => exact markMwaloniOutcomeUnknown_does h
  | refreshMwaloniB2cStatus => exact refreshMwaloniB2cStatus_does h
  | getStatus => exact getStatus_does h
  | applyMwaloniStatus => exact applyMwaloniStatus_does h
  | markMwaloniMismatchReconciliation => exact markMwaloniMismatchReconciliation_does h
  | completeMwaloniTransaction => exact completeMwaloniTransaction_does h
  | noteMwaloniPending => exact noteMwaloniPending_does h
  | failMwaloniTransaction => exact failMwaloniTransaction_does h
  | b2cTimeout => exact processB2cTimeout_does h
  | markTimeout => exact markTimeout_does h
  | handleB2cCallback => exact handleB2cCallback_does h
  | markB2cCallbackMismatch => exact markB2cCallbackMismatch_does h
  | refundB2c => exact refundB2c_does h
  | markNoLinkedLedger => exact markNoLinkedLedger_does h
  | failB2c => exact failB2c_does h
  | completeB2c => exact completeB2c_does h
  | runAutomatedSweep =>
    obtain ⟨rfl, rfl⟩ := yields_pure.mp h
    exact does_read rfl .select
  | selectEligible => exact selectEligible_does h
  | refreshProviderStatus => exact refreshProviderStatus_does h
  | claim => exact claim_does h
  | readClaimed => exact readClaimed_does h
  | createAttempt => exact createAttempt_does h
  | auditStarted => exact auditStarted_does h
  | auditQueried =>
    obtain ⟨rfl, rfl⟩ := yields_pure.mp h
    exact does_read rfl (.within rfl rfl rfl (show 10 < 11 by decide))
  | readOutcome => exact readOutcome_does h
  | completeAttempt => exact completeAttempt_does h
  | scheduleAttempt => exact scheduleAttempt_does h
  | raiseOperationalAlert attempt =>
    obtain ⟨rfl, rfl⟩ := yields_pure.mp h
    exact does_finish (.nothing rfl d.db.uuid) rfl rfl fun u hu => .finished rfl hu
  | auditOutcome attempt =>
    obtain ⟨rfl, rfl⟩ := yields_pure.mp h
    exact does_finish (.nothing rfl d.db.uuid) rfl rfl fun u hu => .finished rfl hu
  | markCompletedWithEvidence => exact markCompletedWithEvidence_does h
  | completeByHand => exact completeByHand_does h
  | reverseConfirmedFailure => exact reverseConfirmedFailure_does h
  | reverseByHand => exact reverseByHand_does h
  | runReconciliation =>
    simp only [PayoutTask.statement, readStalePending, yields_bind, yields_get, yields_pure] at h
    obtain ⟨_, _, ⟨rfl, rfl⟩, rfl, rfl⟩ := h
    exact does_read rfl .flag
  | flagPending => exact flagStalePending_does h

/-! ## 4. A statement in its process -/

/-- A statement does what it is for, or it throws, writes nothing and is caught. It throws when the
database is down. -/
theorem next_cases {config : ReconConfig} {input : PayoutInput} {t : PayoutTask}
    {t' : Option PayoutTask} {d d' : PayoutDesk} (h : Yields (t.next config input) d t' d') :
    (input.down = false ∧ Does d t t' d') ∨
    (d' = d ∧ ∃ message, t' = t.caught config input.now message ∧
      (input.down = true ∨ Fails (t.statement config input) d)) := by
  rcases yields_rescue.mp h with h | ⟨hfails, rfl, e, rfl, _⟩
  · simp only [yields_bind, yields_ensure] at h
    obtain ⟨_, _, ⟨hup, rfl⟩, h⟩ := h
    exact .inl ⟨hup, statement_does h⟩
  · refine .inr ⟨rfl, e.message, rfl, ?_⟩
    by_contra hnone
    obtain ⟨hup, hok⟩ := not_or.mp hnone
    rcases yields_or_fails (t.statement config input) d with ⟨u, d', hy⟩ | hf
    · refine hfails u d' ?_
      simp only [yields_bind, yields_ensure]
      exact ⟨(), d, ⟨Bool.eq_false_iff.mpr hup, rfl⟩, hy⟩
    · exact hok hf

end BebaSacco
