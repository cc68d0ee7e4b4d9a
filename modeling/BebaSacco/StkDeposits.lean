import BebaSacco.DepositPostings
import BebaSacco.System

/-! # A deposit from the phone

The member asks for a deposit, the phone is charged, and the provider reports the payment, any
number of times. Each report is handled by a worker of its own, next to the two sweeps and the
daily reconciliation, which change the status of the row without asking the provider.

Results:
 1. `request_opens`: what the request leaves.
 2. `stk_deposit_once`: the account is credited with what the phone was charged, once and by the
    time the first report is handled, in every run in which each handler reads the row while it
    is PENDING or after its deposit was posted, for a charge of whole shillings.
 3. `charged_push_not_credited`: the runs that leave these conditions.
-/

namespace BebaSacco

open Txn Process

/-! ## 1. The race for a row -/

/-- The request of a deposit up to the row of its checkout. -/
def depositRequest (dto : MemberDepositDto) (memberId : Nat) (checkoutRequestId : String)
    (now : Int) : List DepositEvent :=
  .start (.deposit dto memberId) :: List.replicate 3 (.advance 0 ⟨now, .ok checkoutRequestId⟩)

/-- A report that the payment went through, under its receipt. -/
def StkCallback.reports (body : StkCallback) (checkoutRequestId receipt : String) : Bool :=
  body.checkoutRequestId == checkoutRequestId && body.resultCode == 0 &&
    body.mpesaReceiptNumber == some receipt

/-- What is at work on the row of a checkout: reports of its payment, the two sweeps and the
reconciliation, at any time and in any number, each of which may be lost with its host. -/
def races (checkoutRequestId receipt : String) : DepositEvent → Bool
  | .start (.stkCallback body) => body.reports checkoutRequestId receipt
  | .start .timeoutSweep => true
  | .start .expirySweep => true
  | .start (.reconciliation _ _) => true
  | .start _ => false
  | .advance _ _ => true
  | .crash _ => true

/-- A row that its callback still takes up, or does not have to. -/
def MpesaTransaction.awaits (m : MpesaTransaction) : Bool :=
  m.status == .pending || m.transactionId.isSome

/-- A handler reads the row while it is PENDING, or after its deposit was posted. -/
def DepositWorld.heard (w : DepositWorld) : DepositEvent → Bool
  | .advance i _ =>
    match w.task i with
    | some (.handleStkCallback body) =>
      (w.state.db.mpesaByCheckout body.checkoutRequestId).all fun r => r.2.awaits
    | _ => true
  | _ => true

/-- A push for which a deposit can be posted: it is for an active account, whose number is not that
of a loan or of a member, and the provider has not used its checkout id and its receipt before. -/
structure Payable (db : Db) (dto : MemberDepositDto) (checkoutRequestId receipt : String)
    (accountId : Nat) (account : Account) : Prop where
  purpose : dto.purpose = .savings
  account : db.activeAccountByNumber (buildAccountRef dto) = some (accountId, account)
  plain : parseReference (buildAccountRef dto) = ⟨false, buildAccountRef dto, false⟩
  newCheckout : ∀ m ∈ db.mpesaTransactions, m.reference ≠ buildMpesaRef.stk checkoutRequestId ∧
    m.checkoutRequestId ≠ some checkoutRequestId
  newReceipt : ∀ t ∈ db.transactions, t.reference ≠ s!"MPESA_DEP-{receipt}-{db.tenantId}"

/-! ## 2. The request -/

namespace StkLemmas

variable {db : Db} {dto : MemberDepositDto} {memberId accountId : Nat} {account : Account}
  {checkout receipt : String} {now : Int}

theorem createMpesaTransaction_new {m : MpesaTransaction}
    (h : ∀ r ∈ db.mpesaTransactions, m.apart r) :
    Yields (createMpesaTransaction m) db db.mpesaTransactions.length (db.insertMpesa m) := by
  simp only [createMpesaTransaction, yields_bind, yields_get, yields_ensure, yields_modify,
    yields_pure]
  exact ⟨_, _, ⟨rfl, rfl⟩, (), _, ⟨h, rfl⟩, (), _, rfl, rfl, rfl⟩

theorem step_only {t : DepositTask} {t' : Option DepositTask} {desk desk' : Desk}
    {input : DepositInput} (h : Yields (t.next input) desk t' desk') :
    deposits.step ⟨desk, [some t]⟩ (.advance 0 input) = ⟨desk', [t']⟩ :=
  step_yields (P := deposits) (w := ⟨desk, [some t]⟩) (i := 0) rfl h

/-- What a payable request leaves: the push and its row. -/
theorem request_opens (h : Payable db dto checkout receipt accountId account) :
    (DepositWorld.opening db).after (depositRequest dto memberId checkout now) =
      ⟨⟨db.insertMpesa (dto.row memberId (buildAccountRef dto) checkout now),
        [(checkout, dto.charged)], [], [], []⟩, [none]⟩ := by
  have hverify : Yields ((DepositTask.initiateDeposit dto memberId).next ⟨now, .ok checkout⟩)
      ⟨db, [], [], [], []⟩
      (some (.initiateSTKPush dto memberId (buildAccountRef dto))) ⟨db, [], [], [], []⟩ := by
    simp only [DepositTask.next, initiateDeposit, verifyAccountRef, h.purpose, yields_bind,
      yields_onDb, yields_get, yields_required, yields_pure]
    exact ⟨(), _, ⟨_, ⟨_, _, ⟨rfl, rfl⟩, _, _, ⟨h.account, rfl⟩, trivial, rfl⟩, rfl⟩, trivial, rfl⟩
  have hpush : Yields ((DepositTask.initiateSTKPush dto memberId (buildAccountRef dto)).next
      ⟨now, .ok checkout⟩)
      ⟨db, [], [], [], []⟩
      (some (.createRow (dto.row memberId (buildAccountRef dto) checkout now)))
      ⟨db, [(checkout, dto.charged)], [], [], []⟩ := by
    simp only [DepositTask.next, initiateSTKPush, yields_bind, yields_modify, yields_pure]
    exact ⟨(), _, rfl, trivial, rfl⟩
  have hrow : Yields
      ((DepositTask.createRow (dto.row memberId (buildAccountRef dto) checkout now)).next
        ⟨now, .ok checkout⟩)
      ⟨db, [(checkout, dto.charged)], [], [], []⟩ none
      ⟨db.insertMpesa (dto.row memberId (buildAccountRef dto) checkout now),
        [(checkout, dto.charged)], [], [], []⟩ := by
    simp only [DepositTask.next, createRow, yields_bind, yields_onDb, yields_pure]
    refine ⟨_, _, ⟨_, createMpesaTransaction_new fun r hr => ⟨(h.newCheckout r hr).1, rfl, ?_, rfl,
      rfl⟩, rfl⟩, trivial, rfl⟩
    have hne : ¬ some checkout = r.checkoutRequestId := fun he => (h.newCheckout r hr).2 he.symm
    exact beq_eq_false_iff_ne.mpr hne
  unfold depositRequest DepositWorld.after
  rw [List.replicate_succ, List.replicate_succ, List.replicate_succ, List.replicate_zero,
    Machine.run_cons, Machine.run_cons, Machine.run_cons, Machine.run_cons, Machine.run_nil]
  have hstart : deposits.step (DepositWorld.opening db) (.start (.deposit dto memberId)) =
      ⟨⟨db, [], [], [], []⟩, [some (.initiateDeposit dto memberId)]⟩ := rfl
  rw [hstart, step_only hverify, step_only hpush, step_only hrow]

/-! ## 3. What the statements of the race write -/

/-- The columns of a push that its posting reads. -/
def termsOf (m : MpesaTransaction) : Option String × Int × Option String :=
  (m.checkoutRequestId, m.amount, m.accountReference)

def pushOf (m : MpesaTransaction) : (Option String × Int × Option String) × Option Nat :=
  (termsOf m, m.transactionId)

/-- Only columns of the M-Pesa rows were written that are not of the push. -/
structure Quiet (desk desk' : Desk) : Prop where
  rows : desk'.db.mpesaTransactions.map pushOf = desk.db.mpesaTransactions.map pushOf
  tenantId : desk'.db.tenantId = desk.db.tenantId
  accounts : desk'.db.accounts = desk.db.accounts
  transactions : desk'.db.transactions = desk.db.transactions
  pushes : desk'.pushes = desk.pushes
  credits : desk'.credits = desk.credits
  acknowledged : desk'.acknowledged = desk.acknowledged

theorem quiet_refl (desk : Desk) : Quiet desk desk := ⟨rfl, rfl, rfl, rfl, rfl, rfl, rfl⟩

theorem update_quiet {desk : Desk} {id : Nat} {f : MpesaTransaction → MpesaTransaction}
    (hf : ∀ m, pushOf (f m) = pushOf m) :
    Quiet desk { desk with db := desk.db.updateMpesa id f } :=
  ⟨Table.map_modify_same hf, rfl, rfl, rfl, rfl, rfl, rfl⟩

theorem sweep_quiet {desk : Desk} {cutoff : Int} {f : MpesaTransaction → MpesaTransaction}
    (hf : ∀ m, pushOf (f m) = pushOf m) :
    Quiet desk { desk with db := desk.db.sweepPushes cutoff f } := by
  refine ⟨?_, rfl, rfl, rfl, rfl, rfl, rfl⟩
  show (desk.db.mpesaTransactions.map _).map pushOf = _
  rw [List.map_map]
  refine List.map_congr_left fun m _ => ?_
  rw [Function.comp_apply]
  split
  · exact hf m
  · rfl

theorem cleanup_quiet {now : Int} {desk desk' : Desk} {t : Option DepositTask}
    (h : Yields (cleanupStaleStkTransactions now) desk t desk') : Quiet desk desk' ∧ t = none := by
  simp only [cleanupStaleStkTransactions, yields_bind, yields_onDb, yields_modify, yields_pure] at h
  obtain ⟨_, _, ⟨_, rfl, rfl⟩, rfl, rfl⟩ := h
  exact ⟨sweep_quiet fun _ => rfl, rfl⟩

theorem stkExpiry_quiet {now : Int} {desk desk' : Desk} {t : Option DepositTask}
    (h : Yields (stkExpiry now) desk t desk') : Quiet desk desk' ∧ t = none := by
  simp only [stkExpiry, yields_bind, yields_onDb, yields_modify, yields_pure] at h
  obtain ⟨_, _, ⟨_, rfl, rfl⟩, rfl, rfl⟩ := h
  exact ⟨sweep_quiet fun _ => rfl, rfl⟩

theorem runReconciliation_quiet {dateStart dateEnd now : Int} {desk desk' : Desk}
    {t : Option DepositTask} (h : Yields (runReconciliation dateStart dateEnd now) desk t desk') :
    Quiet desk desk' ∧ ∃ rows, t = some (.flagPending rows) := by
  simp only [runReconciliation, yields_bind, yields_get, yields_pure] at h
  obtain ⟨_, _, ⟨rfl, rfl⟩, rfl, rfl⟩ := h
  exact ⟨quiet_refl _, _, rfl⟩

theorem flagPending_quiet {rows : List StaleRow} {desk desk' : Desk} {t : Option DepositTask}
    (h : Yields (flagPending rows) desk t desk') :
    Quiet desk desk' ∧ ∀ u, t = some u → ∃ rows', u = .flagPending rows' := by
  cases rows with
  | nil =>
    obtain ⟨rfl, rfl⟩ := yields_pure.mp h
    exact ⟨quiet_refl _, fun u hu => by cases hu⟩
  | cons row rows =>
    simp only [flagPending, yields_bind, yields_onDb, yields_modify, yields_pure] at h
    obtain ⟨_, _, ⟨_, rfl, rfl⟩, rfl, rfl⟩ := h
    exact ⟨update_quiet fun _ => rfl, fun u hu => ⟨rows, (Option.some.inj hu).symm⟩⟩

theorem persistStk_quiet {body : StkCallback} {desk desk' : Desk} {t : Option DepositTask}
    (h : Yields (persistStk body) desk t desk') :
    Quiet desk desk' ∧ t = some (.handleStkCallback body) := by
  simp only [persistStk, yields_bind, yields_get, yields_required, yields_pure] at h
  obtain ⟨_, _, ⟨rfl, rfl⟩, _, _, ⟨_, rfl⟩, rfl, rfl⟩ := h
  exact ⟨quiet_refl _, rfl⟩

/-- A report of the payment finds the row settled or swept and is done with, or finds it PENDING
and posts it. -/
theorem handleStkCallback_cases {body : StkCallback} (hbody : body.reports checkout receipt = true)
    {desk desk' : Desk} {t : Option DepositTask} {id : Nat} {m : MpesaTransaction}
    (hrow : desk.db.mpesaByCheckout checkout = some (id, m))
    (h : Yields (handleStkCallback body) desk t desk') :
    (m.status ≠ .pending ∧ t = none ∧ desk' = desk.acknowledge (some checkout)) ∨
    (m.status = .pending ∧ desk' = desk ∧
      t = some (.postLedgerEntry
        { memberId := m.memberId
          accountReference := m.accountReference.getD ""
          amount := ofUnits m.amount
          receipt
          mpesaTxId := id
          resultCode := 0
          resultDesc := body.resultDesc
          checkoutRequestId := some checkout })) := by
  simp only [StkCallback.reports, Bool.and_eq_true, beq_iff_eq] at hbody
  obtain ⟨⟨rfl, hcode⟩, hreceipt⟩ := hbody
  simp only [handleStkCallback, yields_bind, yields_get] at h
  obtain ⟨_, _, ⟨rfl, rfl⟩, h⟩ := h
  simp only [hrow] at h
  rcases yields_ite.mp h with ⟨hstatus, h⟩ | ⟨hstatus, h⟩
  · simp only [stkHandled, hcode, if_true, yields_bind, yields_modify, yields_pure] at h
    obtain ⟨_, _, rfl, rfl, rfl⟩ := h
    exact .inl ⟨hstatus, rfl, rfl⟩
  · rw [if_neg (not_not_intro hcode)] at h
    simp only [hreceipt, hcode, yields_pure, yields_bind] at h
    obtain ⟨_, _, ⟨rfl, rfl⟩, rfl, rfl⟩ := h
    exact .inr ⟨not_not.mp hstatus, rfl, rfl⟩

/-! ## 4. Before and after the deposit -/

/-- The columns by which a deposit finds its account. -/
def labelOf (a : Account) : String × Bool := (a.accountNumber, a.isActive)

/-- What stays through the race. -/
structure SamePush (desk desk' : Desk) : Prop where
  rows : desk'.db.mpesaTransactions.map termsOf = desk.db.mpesaTransactions.map termsOf
  tenantId : desk'.db.tenantId = desk.db.tenantId
  accounts : desk'.db.accounts.map labelOf = desk.db.accounts.map labelOf
  pushes : desk'.pushes = desk.pushes

theorem samePush_refl (desk : Desk) : SamePush desk desk := ⟨rfl, rfl, rfl, rfl⟩

theorem samePush_trans {a b c : Desk} (hab : SamePush a b) (hbc : SamePush b c) : SamePush a c :=
  ⟨hbc.rows.trans hab.rows, hbc.tenantId.trans hab.tenantId, hbc.accounts.trans hab.accounts,
    hbc.pushes.trans hab.pushes⟩

theorem samePush_of_quiet {desk desk' : Desk} (h : Quiet desk desk') : SamePush desk desk' := by
  have hterms : ∀ rows : List MpesaTransaction,
      rows.map termsOf = (rows.map pushOf).map Prod.fst := by
    intro rows
    rw [List.map_map]
    rfl
  refine ⟨?_, h.tenantId, by rw [h.accounts], h.pushes⟩
  rw [hterms, h.rows, ← hterms]

/-- No report was posted or is handled yet. -/
structure Awaiting (id accountId : Nat) (reference : String) (balance : Int) (desk : Desk) :
    Prop where
  row : ∃ m, desk.db.mpesaTransactions[id]? = some m ∧ m.transactionId = none
  fresh : desk.db.transactionByReference reference = none
  credits : desk.credits = []
  acknowledged : desk.acknowledged = []
  balance : desk.db.balance accountId = some balance

/-- The deposit `txn` was posted for the row `id`, and nothing else was. -/
structure Credited (id accountId : Nat) (reference : String) (balance : Int) (txn : Nat)
    (desk : Desk) : Prop where
  row : ∃ m, desk.db.mpesaTransactions[id]? = some m ∧ m.transactionId = some txn
  posted : ∃ t, desk.db.transactionByReference reference = some (txn, t)
  credits : desk.credits = [.deposit id accountId txn]
  balance : desk.db.balance accountId = some balance

theorem quiet_row {desk desk' : Desk} (h : Quiet desk desk') {id : Nat} {x : Option Nat}
    (hrow : ∃ m, desk.db.mpesaTransactions[id]? = some m ∧ m.transactionId = x) :
    ∃ m, desk'.db.mpesaTransactions[id]? = some m ∧ m.transactionId = x := by
  obtain ⟨m, hm, hx⟩ := hrow
  have hmap := congrArg (fun l => l[id]?) h.rows
  simp only [List.getElem?_map, hm, Option.map_some] at hmap
  obtain ⟨m', hm', he⟩ := Option.map_eq_some_iff.mp hmap
  exact ⟨m', hm', (congrArg Prod.snd he).trans hx⟩

theorem awaiting_quiet {id : Nat} {reference : String} {balance : Int} {desk desk' : Desk}
    (h : Quiet desk desk') (hs : Awaiting id accountId reference balance desk) :
    Awaiting id accountId reference balance desk' where
  row := quiet_row h hs.row
  fresh := by
    unfold Db.transactionByReference
    rw [h.transactions]
    exact hs.fresh
  credits := h.credits.trans hs.credits
  acknowledged := h.acknowledged.trans hs.acknowledged
  balance := by
    unfold Db.balance
    rw [h.accounts]
    exact hs.balance

theorem credited_quiet {id txn : Nat} {reference : String} {balance : Int} {desk desk' : Desk}
    (h : Quiet desk desk') (hs : Credited id accountId reference balance txn desk) :
    Credited id accountId reference balance txn desk' where
  row := quiet_row h hs.row
  posted := by
    unfold Db.transactionByReference
    rw [h.transactions]
    exact hs.posted
  credits := h.credits.trans hs.credits
  balance := by
    unfold Db.balance
    rw [h.accounts]
    exact hs.balance

/-- The parameters that every report of the payment is posted with. -/
structure Pays (id : Nat) (ref receipt checkout : String) (charged : Int)
    (params : LedgerEntryParams) : Prop where
  accountReference : params.accountReference = ref
  amount : params.amount = ofUnits charged
  receipt : params.receipt = receipt
  mpesaTxId : params.mpesaTxId = id
  checkoutRequestId : params.checkoutRequestId = some checkout

theorem pays_amount {id : Nat} {ref : String} {charged : Int} {params : LedgerEntryParams}
    (h : Pays id ref receipt checkout charged params) :
    toDecimalPlaces4 params.amount = charged := by
  rw [h.amount]
  exact Rounding.roundTo_units (by decide) charged

theorem depositPosted_same {params : LedgerEntryParams} {desk desk' : Desk}
    (h : DepositPosted params accountId desk desk') : SamePush desk desk' := by
  obtain ⟨r, db', hpost, _, rfl⟩ := h.posted
  rcases postEntry_cases hpost with ⟨rfl, _, _⟩ | ⟨hposted, _, _⟩
  · exact ⟨Table.map_modify_same fun _ => rfl, rfl, rfl, rfl⟩
  · obtain ⟨a, type, actor, description, debitCode, creditCode, _, _, _, _, _, rfl⟩ :=
      hposted.written
    exact ⟨Table.map_modify_same fun _ => rfl, rfl, Table.map_modify_same fun _ => rfl, rfl⟩

theorem find_appended {reference : String} {t : Transaction}
    (hfind : db.transactionByReference reference = none) (ht : t.reference = reference) :
    Table.findRow (fun t => t.reference == reference) (db.transactions ++ [t]) =
      some (db.transactions.length, t) := by
  have hnone : Table.findRow (fun t : Transaction => t.reference == reference) db.transactions =
    none := hfind
  rw [Table.findRow_append_one, hnone, if_pos (beq_iff_eq.mpr ht)]
  rfl

theorem awaiting_posted {id : Nat} {ref reference : String} {charged balance : Int}
    {params : LedgerEntryParams} {desk desk' : Desk}
    (hp : Pays id ref receipt checkout charged params)
    (href : params.depositReference desk.db.tenantId = reference)
    (hs : Awaiting id accountId reference balance desk)
    (h : DepositPosted params accountId desk desk') :
    ∃ txn, Credited id accountId reference (balance + charged) txn desk' := by
  obtain ⟨r, db', hpost, ⟨m, hm⟩, rfl⟩ := h.posted
  have hfresh : desk.db.transactionByReference (params.depositReference desk.db.tenantId) = none :=
    href ▸ hs.fresh
  rcases postEntry_cases hpost with ⟨_, _, t, ht⟩ | ⟨hposted, hnew, htxn⟩
  · -- a reference that is not there cannot be found
    rw [show (params.posting desk.db.tenantId accountId).reference =
      params.depositReference desk.db.tenantId from rfl, hfresh] at ht
    cases ht
  · obtain ⟨a, type, actor, description, debitCode, creditCode, ha, _, _, _, _, rfl⟩ :=
      hposted.written
    refine ⟨r.transaction, ?_, ?_, ?_, ?_⟩
    · refine ⟨params.settle r.transaction m, ?_, rfl⟩
      rw [← hp.mpesaTxId]
      exact Table.getElem?_modify_self hm
    · rw [htxn]
      exact ⟨_, find_appended hs.fresh href⟩
    · show desk.credits ++ _ = _
      rw [hs.credits, if_pos hnew, hp.mpesaTxId]
      rfl
    · have hbalance : desk.db.accounts[accountId]?.map (·.balance) = some balance := hs.balance
      have ha' : desk.db.accounts[accountId]? = some a := ha
      rw [ha'] at hbalance
      show (desk.db.accounts.modify accountId _)[accountId]?.map (·.balance) = _
      rw [Table.getElem?_modify_self ha', ← Option.some.inj hbalance]
      show some (a.balance + toDecimalPlaces4 params.amount) = _
      rw [pays_amount hp]

/-- Any other report finds it. -/
theorem credited_posted {id txn : Nat} {ref reference : String} {charged balance : Int}
    {params : LedgerEntryParams} {desk desk' : Desk}
    (hp : Pays id ref receipt checkout charged params)
    (href : params.depositReference desk.db.tenantId = reference)
    (hs : Credited id accountId reference balance txn desk)
    (h : DepositPosted params accountId desk desk') :
    Credited id accountId reference balance txn desk' := by
  obtain ⟨r, db', hpost, ⟨m, hm⟩, rfl⟩ := h.posted
  obtain ⟨t, ht⟩ := hs.posted
  rcases postEntry_cases hpost with ⟨rfl, hold, t', ht'⟩ | ⟨hposted, _, _⟩
  · have htxn : r.transaction = txn := by
      rw [show (params.posting desk.db.tenantId accountId).reference = reference from href, ht]
        at ht'
      exact (congrArg Prod.fst (Option.some.inj ht')).symm
    refine ⟨⟨params.settle r.transaction m, ?_, congrArg some htxn⟩, ⟨t, ht⟩, ?_, hs.balance⟩
    · rw [← hp.mpesaTxId]
      exact Table.getElem?_modify_self hm
    · show desk.credits ++ _ = _
      rw [hold, if_neg Bool.noConfusion, List.append_nil, hs.credits]
  · have hfresh := hposted.fresh
    rw [show (params.posting desk.db.tenantId accountId).reference = reference from href, ht]
      at hfresh
    cases hfresh

/-! ## 5. The run -/

/-- The processes of the race, each at a point that it can be at. -/
def Ours (id : Nat) (ref receipt checkout : String) (charged : Int) : DepositTask → Prop
  | .persistStk body => body.reports checkout receipt = true
  | .handleStkCallback body => body.reports checkout receipt = true
  | .postLedgerEntry params => Pays id ref receipt checkout charged params
  | .postDeposit params accountNumber =>
    Pays id ref receipt checkout charged params ∧ accountNumber = ref
  | .cleanupStaleStkTransactions => True
  | .stkExpiry => True
  | .runReconciliation _ _ => True
  | .flagPending _ => True
  | _ => False

theorem ours_entry {call : DepositCall} {id : Nat} {ref : String} {charged : Int}
    (h : races checkout receipt (.start call) = true) :
    Ours id ref receipt checkout charged call.entry := by
  cases call with
  | stkCallback body => exact h
  | timeoutSweep | expirySweep | reconciliation _ _ => trivial
  | deposit _ _ | scheduledPush _ | payout _ | c2bCallback _ | legacyC2b _ | manualMatch _ _ _ _ =>
    cases h

/-- The desk after the request. -/
def requested (db : Db) (dto : MemberDepositDto) (memberId : Nat) (checkout : String)
    (now : Int) : Desk :=
  ⟨db.insertMpesa (dto.row memberId (buildAccountRef dto) checkout now), [(checkout, dto.charged)],
    [], [], []⟩

theorem push_found (h : Payable db dto checkout receipt accountId account) {desk : Desk}
    (hsame : SamePush (requested db dto memberId checkout now) desk) :
    ∃ m, desk.db.mpesaByCheckout checkout = some (db.mpesaTransactions.length, m) ∧
      m.amount = toDecimalPlaces4 dto.amount ∧ m.accountReference = some (buildAccountRef dto) := by
  have hfirst : Table.findRow (fun m : MpesaTransaction => m.checkoutRequestId == some checkout)
      (requested db dto memberId checkout now).db.mpesaTransactions =
      some (db.mpesaTransactions.length, dto.row memberId (buildAccountRef dto) checkout now) := by
    have hnone : Table.findRow (fun m : MpesaTransaction => m.checkoutRequestId == some checkout)
        db.mpesaTransactions = none :=
      Table.findRow_none.mpr fun m hm => beq_eq_false_iff_ne.mpr (h.newCheckout m hm).2
    show Table.findRow _ (db.mpesaTransactions ++ [_]) = _
    have hrow : ((dto.row memberId (buildAccountRef dto) checkout now).checkoutRequestId ==
        some checkout) = true := beq_self_eq_true (some checkout)
    rw [Table.findRow_append_one, hnone, if_pos hrow]
    rfl
  obtain ⟨m, hm, hterms⟩ := Table.findRow_same (fun c => c.1 == some checkout) termsOf
    (fun _ => rfl) hsame.rows hfirst
  have hrest := congrArg Prod.snd hterms
  exact ⟨m, hm, congrArg Prod.fst hrest, congrArg Prod.snd hrest⟩

theorem account_found (h : Payable db dto checkout receipt accountId account) {desk : Desk}
    (hsame : SamePush (requested db dto memberId checkout now) desk) :
    ∃ a, desk.db.activeAccountByNumber (buildAccountRef dto) = some (accountId, a) := by
  have hfirst : Table.findRow
      (fun a : Account => a.accountNumber == buildAccountRef dto && a.isActive)
      (requested db dto memberId checkout now).db.accounts = some (accountId, account) := h.account
  obtain ⟨a, ha, _⟩ := Table.findRow_same (fun c => c.1 == buildAccountRef dto && c.2) labelOf
    (fun _ => rfl) hsame.accounts hfirst
  exact ⟨a, ha⟩

/-- The desk at every point of the race. -/
structure Race (db : Db) (dto : MemberDepositDto) (memberId : Nat) (checkout receipt : String)
    (now : Int) (accountId : Nat) (account : Account) (desk : Desk) : Prop where
  same : SamePush (requested db dto memberId checkout now) desk
  posted :
    Awaiting db.mpesaTransactions.length accountId s!"MPESA_DEP-{receipt}-{db.tenantId}"
      account.balance desk ∨
    ∃ txn, Credited db.mpesaTransactions.length accountId s!"MPESA_DEP-{receipt}-{db.tenantId}"
      (account.balance + dto.charged) txn desk

theorem race_quiet {desk desk' : Desk} (h : Quiet desk desk')
    (hr : Race db dto memberId checkout receipt now accountId account desk) :
    Race db dto memberId checkout receipt now accountId account desk' := by
  refine ⟨samePush_trans hr.same (samePush_of_quiet h), ?_⟩
  rcases hr.posted with hs | ⟨txn, hs⟩
  · exact .inl (awaiting_quiet h hs)
  · exact .inr ⟨txn, credited_quiet h hs⟩

theorem race_posted {params : LedgerEntryParams} {desk desk' : Desk}
    (hp : Pays db.mpesaTransactions.length (buildAccountRef dto) receipt checkout dto.charged
      params)
    (hr : Race db dto memberId checkout receipt now accountId account desk)
    (h : DepositPosted params accountId desk desk') :
    Race db dto memberId checkout receipt now accountId account desk' := by
  have href : params.depositReference desk.db.tenantId = s!"MPESA_DEP-{receipt}-{db.tenantId}" := by
    unfold LedgerEntryParams.depositReference
    rw [hp.receipt, hr.same.tenantId]
    rfl
  refine ⟨samePush_trans hr.same (depositPosted_same h), .inr ?_⟩
  rcases hr.posted with hs | ⟨txn, hs⟩
  · exact awaiting_posted hp href hs h
  · exact ⟨txn, credited_posted hp href hs h⟩

/-- A report that is done with without a posting finds the deposit. -/
theorem race_handled {desk : Desk}
    (hr : Race db dto memberId checkout receipt now accountId account desk) {m : MpesaTransaction}
    (hm : desk.db.mpesaTransactions[db.mpesaTransactions.length]? = some m)
    (hlinked : m.transactionId.isSome = true) :
    Race db dto memberId checkout receipt now accountId account
      (desk.acknowledge (some checkout)) := by
  refine ⟨⟨hr.same.rows, hr.same.tenantId, hr.same.accounts, hr.same.pushes⟩, ?_⟩
  rcases hr.posted with hs | ⟨txn, hs⟩
  · obtain ⟨m', hm', hnone⟩ := hs.row
    rw [hm] at hm'
    cases hm'
    rw [hnone] at hlinked
    cases hlinked
  · exact .inr ⟨txn, hs.row, hs.posted, hs.credits, hs.balance⟩

theorem handled_report (h : Payable db dto checkout receipt accountId account)
    (hwhole : toDecimalPlaces4 dto.amount = dto.charged) {body : StkCallback}
    (hbody : body.reports checkout receipt = true) {desk desk' : Desk} {t' : Option DepositTask}
    (hr : Race db dto memberId checkout receipt now accountId account desk)
    (hheard : (desk.db.mpesaByCheckout checkout).all (fun r => r.2.awaits) = true)
    (hy : Yields (handleStkCallback body) desk t' desk') :
    Race db dto memberId checkout receipt now accountId account desk' ∧
      ∀ u, t' = some u →
        Ours db.mpesaTransactions.length (buildAccountRef dto) receipt checkout dto.charged u := by
  obtain ⟨m, hm, hamount, haccount⟩ := push_found h hr.same
  rcases handleStkCallback_cases hbody hm hy with ⟨hstatus, rfl, rfl⟩ | ⟨_, rfl, rfl⟩
  · -- the row is not PENDING: it has to be the deposit that settled it
    rw [hm] at hheard
    have hawaits : (m.status == .pending || m.transactionId.isSome) = true := hheard
    rw [beq_eq_false_iff_ne.mpr hstatus, Bool.false_or] at hawaits
    exact ⟨race_handled hr (Table.findRow_some hm).1 hawaits, fun u hu => by cases hu⟩
  · refine ⟨hr, fun u hu => ?_⟩
    cases hu
    refine ⟨?_, ?_, rfl, rfl, rfl⟩
    · rw [haccount]
      rfl
    · rw [hamount, hwhole]

theorem posted_report (h : Payable db dto checkout receipt accountId account)
    {params : LedgerEntryParams} {desk desk' : Desk} {t' : Option DepositTask}
    (hp : Pays db.mpesaTransactions.length (buildAccountRef dto) receipt checkout dto.charged
      params)
    (hy : Yields (postLedgerEntry params now) desk t' desk') :
    desk' = desk ∧ t' = some (.postDeposit params (buildAccountRef dto)) := by
  simp only [postLedgerEntry, hp.accountReference, h.plain, Bool.false_eq_true, if_false,
    yields_bind, yields_get, yields_pure] at hy
  obtain ⟨_, _, ⟨rfl, rfl⟩, rfl, rfl⟩ := hy
  exact ⟨rfl, rfl⟩

theorem race_next (h : Payable db dto checkout receipt accountId account)
    (hwhole : toDecimalPlaces4 dto.amount = dto.charged) {t : DepositTask} {input : DepositInput}
    {desk desk' : Desk} {t' : Option DepositTask}
    (hr : Race db dto memberId checkout receipt now accountId account desk)
    (ht : Ours db.mpesaTransactions.length (buildAccountRef dto) receipt checkout dto.charged t)
    (hheard : ∀ body, t = .handleStkCallback body →
      (desk.db.mpesaByCheckout checkout).all (fun r => r.2.awaits) = true)
    (hy : Yields (t.next input) desk t' desk') :
    Race db dto memberId checkout receipt now accountId account desk' ∧
      ∀ u, t' = some u →
        Ours db.mpesaTransactions.length (buildAccountRef dto) receipt checkout dto.charged u := by
  cases t with
  | persistStk body =>
    obtain ⟨hq, rfl⟩ := persistStk_quiet hy
    exact ⟨race_quiet hq hr, fun u hu => by cases hu; exact ht⟩
  | handleStkCallback body => exact handled_report h hwhole ht hr (hheard body rfl) hy
  | postLedgerEntry params =>
    have hp : Pays db.mpesaTransactions.length (buildAccountRef dto) receipt checkout dto.charged
      params := ht
    obtain ⟨rfl, rfl⟩ := posted_report h hp hy
    refine ⟨hr, fun u hu => ?_⟩
    rw [← Option.some.inj hu]
    exact ⟨hp, rfl⟩
  | postDeposit params accountNumber =>
    obtain ⟨hp, rfl⟩ := ht
    -- the account is found, so the deposit is posted in this very statement
    obtain ⟨a, ha⟩ := account_found h hr.same
    obtain ⟨rfl, ⟨hnone, _⟩ | ⟨_, _, hsome, hposted⟩⟩ := postDeposit_cases hy
    · rw [ha] at hnone
      cases hnone
    · rw [ha] at hsome
      cases hsome
      exact ⟨race_posted hp hr hposted, fun u hu => by cases hu⟩
  | cleanupStaleStkTransactions =>
    obtain ⟨hq, rfl⟩ := cleanup_quiet hy
    exact ⟨race_quiet hq hr, fun u hu => by cases hu⟩
  | stkExpiry =>
    obtain ⟨hq, rfl⟩ := stkExpiry_quiet hy
    exact ⟨race_quiet hq hr, fun u hu => by cases hu⟩
  | runReconciliation dateStart dateEnd =>
    obtain ⟨hq, rows, rfl⟩ := runReconciliation_quiet hy
    exact ⟨race_quiet hq hr, fun u hu => by cases hu; trivial⟩
  | flagPending rows =>
    obtain ⟨hq, hnext⟩ := flagPending_quiet hy
    refine ⟨race_quiet hq hr, fun u hu => ?_⟩
    obtain ⟨rows', rfl⟩ := hnext u hu
    trivial
  | _ => cases ht

theorem race_step (h : Payable db dto checkout receipt accountId account)
    (hwhole : toDecimalPlaces4 dto.amount = dto.charged) {w : DepositWorld} {e : DepositEvent}
    (hw : Upheld (Race db dto memberId checkout receipt now accountId account)
      (fun _ t =>
        Ours db.mpesaTransactions.length (buildAccountRef dto) receipt checkout dto.charged t) w)
    (hraces : races checkout receipt e = true) (hheard : w.heard e = true) :
    Upheld (Race db dto memberId checkout receipt now accountId account)
      (fun _ t =>
        Ours db.mpesaTransactions.length (buildAccountRef dto) receipt checkout dto.charged t)
      (deposits.step w e) := by
  refine upheld_step hw (fun call he => ours_entry (he ▸ hraces))
    fun i input t t' desk he hat hy => ?_
  have hread : ∀ body, t = .handleStkCallback body →
      (w.state.db.mpesaByCheckout checkout).all (fun r => r.2.awaits) = true := by
    intro body hbody
    subst hbody
    have hours : body.reports checkout receipt = true := hw.tasks i _ hat
    simp only [StkCallback.reports, Bool.and_eq_true, beq_iff_eq] at hours
    rw [he] at hheard
    simp only [DepositWorld.heard, task_some.mpr hat, hours.1.1] at hheard
    exact hheard
  obtain ⟨hrace, hown⟩ := race_next h hwhole hw.state (hw.tasks i t hat) hread hy
  exact ⟨hrace, hown, fun _ _ _ _ hours => hours⟩

/-- The race starts with the request. -/
theorem requested_race (h : Payable db dto checkout receipt accountId account) :
    Race db dto memberId checkout receipt now accountId account
      (requested db dto memberId checkout now) := by
  refine ⟨samePush_refl _, .inl ⟨⟨_, Table.getElem?_append_one_self, rfl⟩, ?_, rfl, rfl, ?_⟩⟩
  · exact Table.findRow_none.mpr fun t ht => beq_eq_false_iff_ne.mpr (h.newReceipt t ht)
  · show db.accounts[accountId]?.map (·.balance) = _
    rw [(activeAccountByNumber_some h.account).1]
    rfl

end StkLemmas

open StkLemmas

/-- From the request on, in every run of reports, sweeps and reconciliations in which each handler
of a report reads the row while it is PENDING or after its deposit was posted: the account is
credited at most once, with what the phone was charged, and it is credited once a report was
handled. -/
theorem stk_deposit_once {db : Db} {dto : MemberDepositDto} {memberId accountId : Nat}
    {account : Account} {checkoutRequestId receipt : String} {now : Int}
    {events : List DepositEvent} (h : Payable db dto checkoutRequestId receipt accountId account)
    (hwhole : toDecimalPlaces4 dto.amount = dto.charged)
    (hraces : ∀ e ∈ events, races checkoutRequestId receipt e = true)
    (hheard : Machine.Guarded deposits.step (fun w e => DepositWorld.heard w e = true)
      ((DepositWorld.opening db).after (depositRequest dto memberId checkoutRequestId now))
      events) :
    ∃ desk, desk = ((DepositWorld.opening db).after
        (depositRequest dto memberId checkoutRequestId now ++ events)).state ∧
      desk.pushes = [(checkoutRequestId, dto.charged)] ∧
      ((desk.creditsOf db.mpesaTransactions.length = [] ∧
          desk.db.balance accountId = some account.balance ∧
          checkoutRequestId ∉ desk.acknowledged) ∨
        ∃ txn, desk.creditsOf db.mpesaTransactions.length =
            [.deposit db.mpesaTransactions.length accountId txn] ∧
          desk.db.balance accountId = some (account.balance + dto.charged)) := by
  refine ⟨_, rfl, ?_⟩
  have hopen : (DepositWorld.opening db).after
      (depositRequest dto memberId checkoutRequestId now) = _ := request_opens h
  rw [hopen] at hheard
  have hstart : Upheld (Race db dto memberId checkoutRequestId receipt now accountId account)
      (fun _ t => Ours db.mpesaTransactions.length (buildAccountRef dto) receipt checkoutRequestId
        dto.charged t) ⟨requested db dto memberId checkoutRequestId now, [none]⟩ := by
    refine ⟨requested_race h, fun i t hat => ?_⟩
    have hnone : [(none : Option DepositTask)][i]? = some (some t) := hat
    rw [List.getElem?_singleton] at hnone
    split at hnone
    · cases hnone
    · cases hnone
  have hguard : Machine.Guarded deposits.step
      (fun w e => races checkoutRequestId receipt e = true ∧ DepositWorld.heard w e = true)
      ⟨requested db dto memberId checkoutRequestId now, [none]⟩ events :=
    Machine.guarded_and (Machine.guarded_of_mem hraces) hheard
  -- the race keeps its invariant from the request to the last event
  have hrun := Machine.run_induct (fun _ _ hw hg => race_step h hwhole hw hg.1 hg.2) hstart hguard
  have hafter : (DepositWorld.opening db).after
      (depositRequest dto memberId checkoutRequestId now ++ events) =
      Machine.run deposits.step ⟨requested db dto memberId checkoutRequestId now, [none]⟩
        events := by
    rw [DepositWorld.after, Machine.run_append]
    exact congrArg (fun w => Machine.run deposits.step w events) hopen
  rw [hafter]
  refine ⟨hrun.state.same.pushes, ?_⟩
  rcases hrun.state.posted with hs | ⟨txn, hs⟩
  · refine .inl ⟨?_, hs.balance, ?_⟩
    · rw [Desk.creditsOf, hs.credits]
      rfl
    · rw [hs.acknowledged]
      exact List.not_mem_nil
  · refine .inr ⟨txn, ?_, hs.balance⟩
    have hkeep : ((Credit.deposit db.mpesaTransactions.length accountId txn).mpesaTxId ==
        db.mpesaTransactions.length) = true := beq_self_eq_true db.mpesaTransactions.length
    rw [Desk.creditsOf, hs.credits, List.filter_cons, if_pos hkeep, List.filter_nil]

/-- Member 0 asks to deposit KES 100 to the FOSA account. -/
def exDto : MemberDepositDto where
  phoneNumber := "254700000000"
  amount := 100
  purpose := .savings
  accountRef := "F-0"
  amount_min := by norm_num
  amount_max := by norm_num

/-- KES 10.50, for which the phone is charged KES 11. -/
def exFraction : MemberDepositDto where
  phoneNumber := "254700000000"
  amount := 21 / 2
  purpose := .savings
  accountRef := "F-0"
  amount_min := by norm_num
  amount_max := by norm_num

/-- The report of the payment. -/
def exPaid : StkCallback where
  checkoutRequestId := "ws_1"
  resultCode := 0
  resultDesc := "The service request is processed successfully."
  mpesaReceiptNumber := some "R1"

/-- Process `i` does its next statement. -/
def exNext (i : Nat) (now : Int) : DepositEvent := .advance i ⟨now, .error "not asked"⟩

/-- A report that is handled in one go by process `i`. -/
def exReport (i : Nat) (now : Int) : List DepositEvent :=
  .start (.stkCallback exPaid) :: List.replicate 4 (exNext i now)

/-- Two handlers read the PENDING row and both post it, while a sweep runs between them. -/
def exDuplicates : List DepositEvent :=
  [.start (.stkCallback exPaid), .start (.stkCallback exPaid), exNext 1 1, exNext 2 1, exNext 1 2,
    exNext 2 2, .start .timeoutSweep, exNext 3 130000, exNext 1 130001, exNext 1 130001,
    exNext 2 130002, exNext 2 130002]

/-- Its sweep comes two minutes after the push, before the first report. -/
def exSwept : List DepositEvent :=
  [.start .timeoutSweep, exNext 1 120001] ++ exReport 2 121000

/-- Two handlers that both read the PENDING row post one deposit, and the sweep does not harm it. -/
theorem stk_deposit_once_duplicates :
    ∃ desk, desk = ((DepositWorld.opening exSacco).after
        (depositRequest exDto 0 "ws_1" 0 ++ exDuplicates)).state ∧
      desk.pushes = [("ws_1", exDto.charged)] ∧ desk.acknowledged = ["ws_1", "ws_1"] ∧
      ((desk.creditsOf exSacco.mpesaTransactions.length = [] ∧
          desk.db.balance 0 = some (exAccount 0 .fosa "F-0").balance ∧
          "ws_1" ∉ desk.acknowledged) ∨
        ∃ txn, desk.creditsOf exSacco.mpesaTransactions.length =
            [.deposit exSacco.mpesaTransactions.length 0 txn] ∧
          desk.db.balance 0 = some ((exAccount 0 .fosa "F-0").balance + exDto.charged)) := by
  have hpayable : Payable exSacco exDto "ws_1" "R1" 0 (exAccount 0 .fosa "F-0") :=
    ⟨rfl, by decide +kernel, by decide +kernel, by decide +kernel, by decide +kernel⟩
  obtain ⟨desk, hdesk, hpushes, hcredits⟩ := @stk_deposit_once exSacco exDto 0 0
    (exAccount 0 .fosa "F-0") "ws_1" "R1" 0 exDuplicates hpayable (by decide +kernel)
    (by decide +kernel) (by decide +kernel)
  exact ⟨desk, hdesk, hpushes, by rw [hdesk]; decide +kernel, hcredits⟩

/-- The desk after the request and `events`. -/
def exDesk (dto : MemberDepositDto) (events : List DepositEvent) : Desk :=
  ((DepositWorld.opening exSacco).after (depositRequest dto 0 "ws_1" 0 ++ events)).state

/-- The charged phone is forgotten when the sweep comes first: the report finds a row that is not
PENDING, and is done with. And KES 10.50 are credited for the KES 11 that were charged. -/
theorem charged_push_not_credited :
    ((exDesk exDto exSwept).pushes = [("ws_1", 1000000)] ∧
      (exDesk exDto exSwept).acknowledged = ["ws_1"] ∧ (exDesk exDto exSwept).creditsOf 0 = [] ∧
      (exDesk exDto exSwept).db.balance 0 = some 0) ∧
    ((exDesk exFraction (exReport 1 1000)).pushes = [("ws_1", 110000)] ∧
      (exDesk exFraction (exReport 1 1000)).acknowledged = ["ws_1"] ∧
      (exDesk exFraction (exReport 1 1000)).creditsOf 0 = [.deposit 0 0 0] ∧
      (exDesk exFraction (exReport 1 1000)).db.balance 0 = some 105000) := by
  decide +kernel

end BebaSacco
