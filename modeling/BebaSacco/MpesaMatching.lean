import BebaSacco.StkDeposits

/-! # Manual matching of M-Pesa rows

An officer credits a flagged row to an account of his choice. The callback of the same row may be
on its way, the sweeps and the reconciliation change the row's status, and a payout is a row like
any other.

Results:
 1. `next_booked`: one statement, when a callback posts for a row without a transaction or finds
    what it posted, and no match posts.
 2. `matching_books_once`: in a run of such statements a row is booked at most once and a payout
    never, each deposit is on the control account of its account's type, and a match that reports
    success has its transaction on the account.
 3. `match_misses_control_account`: a match that posts leaves the control account behind; one of a
    payout credits it, and one next to a callback credits the row twice.
-/

namespace BebaSacco

open Txn Process FootprintLemmas

/-! ## 1. What is booked -/

/-- A deposit with its statement row, and its entry on the control account of the account's type.
-/
def Db.Controlled (db : Db) (accountId txn : Nat) : Prop :=
  ∃ a t e, db.accounts[accountId]? = some a ∧ db.transactions[txn]? = some t ∧
    t.accountId = accountId ∧ t.balanceAfter = t.balanceBefore + t.amount ∧
    e ∈ db.journalEntries ∧ e.referenceId = txn ∧
    e.netCredit (memberDepositsCode a.accountType) = t.amount

structure BookedOnce (desk : Desk) : Prop where
  once : ∀ mpesaTxId, (desk.creditsOf mpesaTxId).length ≤ 1
  payout : ∀ c ∈ desk.credits, ∀ m, desk.db.mpesaTransactions[c.mpesaTxId]? = some m →
    m.type ≠ .b2c
  control : ∀ mpesaTxId accountId txn, Credit.deposit mpesaTxId accountId txn ∈ desk.credits →
    desk.db.Controlled accountId txn
  reported : ∀ r ∈ desk.reports, ∃ t, desk.db.transactions[r.transaction]? = some t ∧
    t.accountId = r.accountId

/-- No transaction was linked to the row. -/
def Db.unlinked (db : Db) (mpesaTxId : Nat) : Bool :=
  db.mpesaTransactions[mpesaTxId]?.all fun m => m.transactionId.isNone

/-- A match without a target: the account was closed, or the codes of the entry are missing. -/
def Db.refusesMatch (db : Db) (accountId : Nat) : Bool :=
  !(db.accounts[accountId]?.any (·.isActive)) ||
    !(db.glAccounts.any fun g => g.code == "1000" && g.isActive) ||
    !(db.glAccounts.any fun g => g.code == "2000" && g.isActive)

/-- A callback posts for a row that has no transaction yet, or finds what it posted before. A match
does not post: it finds its own transaction on the account, or is refused. -/
def DepositTask.books (db : Db) : DepositTask → Bool
  | .postLedgerEntry params =>
    !(parseReference params.accountReference).isLoanRepayment ||
      (db.duplicateRepayment params.repayment.reference).isSome || db.unlinked params.mpesaTxId
  | .postDeposit params accountNumber =>
    (db.activeAccountByNumber accountNumber).isNone ||
      (db.transactionByReference (params.depositReference db.tenantId)).isSome ||
      db.unlinked params.mpesaTxId
  | .matchPost mpesaTxId _ accountId _ _ _ =>
    match db.transactionByReference s!"MPESA-RECON-{mpesaTxId}" with
    | some (_, t) => t.accountId == accountId
    | none => db.refusesMatch accountId
  | _ => true

def DepositWorld.booksOnce (w : DepositWorld) : DepositEvent → Bool
  | .advance i _ => (w.task i).all fun t => t.books w.state.db
  | _ => true

/-! ## 2. Rows -/

namespace MatchingLemmas

/-- A payout has no checkout, and its reference is that of an order. -/
def RowOk (m : MpesaTransaction) : Prop :=
  m.type = .b2c →
    m.checkoutRequestId = none ∧ ∃ orderNumber, m.reference = buildMpesaRef.b2c orderNumber

def RowsOk (db : Db) : Prop := ∀ m ∈ db.mpesaTransactions, RowOk m

/-- A later state of a row: it does not become a payout or stop being one, and keeps that it has a
transaction. -/
structure Follows (m m' : MpesaTransaction) : Prop where
  payout : m'.type = .b2c ↔ m.type = .b2c
  linked : m.transactionId.isSome = true → m'.transactionId.isSome = true
  ok : RowOk m → RowOk m'

theorem follows_refl (m : MpesaTransaction) : Follows m m := ⟨Iff.rfl, id, id⟩

theorem follows_trans {a b c : MpesaTransaction} (hab : Follows a b) (hbc : Follows b c) :
    Follows a c :=
  ⟨hbc.payout.trans hab.payout, fun h => hbc.linked (hab.linked h), fun h => hbc.ok (hab.ok h)⟩

theorem follows_keepsLink {f : MpesaTransaction → MpesaTransaction} (hf : KeepsLink f)
    (m : MpesaTransaction) : Follows m (f m) := by
  refine ⟨by rw [hf.type], hf.linked m, fun hok hb2c => ?_⟩
  rw [hf.type] at hb2c
  rw [hf.checkoutRequestId, hf.reference]
  exact hok hb2c

/-- No row is lost. -/
def KeepsRows (db db' : Db) : Prop :=
  ∀ (id : Nat) (m : MpesaTransaction), db.mpesaTransactions[id]? = some m →
    ∃ m', db'.mpesaTransactions[id]? = some m' ∧ Follows m m'

/-- The books and the rows grew. -/
structure Grown (db db' : Db) : Prop where
  books : db.Extends db'
  kept : KeepsRows db db'
  ok : RowsOk db → RowsOk db'

theorem keepsRows_refl (db : Db) : KeepsRows db db := fun _ m h => ⟨m, h, follows_refl m⟩

theorem keepsRows_trans {a b c : Db} (hab : KeepsRows a b) (hbc : KeepsRows b c) :
    KeepsRows a c := by
  intro id m hm
  obtain ⟨m', hm', h⟩ := hab id m hm
  obtain ⟨m'', hm'', h'⟩ := hbc id m' hm'
  exact ⟨m'', hm'', follows_trans h h'⟩

instance : History Grown where
  refl db := ⟨History.refl db, keepsRows_refl db, id⟩
  trans hab hbc :=
    ⟨History.trans hab.books hbc.books, keepsRows_trans hab.kept hbc.kept,
      fun h => hbc.ok (hab.ok h)⟩

theorem grown_of_same {db db' : Db} (hbooks : db.Extends db') (hsame : db.SameMpesa db') :
    Grown db db' := by
  refine ⟨hbooks, ?_, fun h => ?_⟩
  · intro id m hm
    have hrow : db'.mpesaTransactions[id]? = some m := by
      rw [hsame]
      exact hm
    exact ⟨m, hrow, follows_refl m⟩
  · unfold RowsOk
    rw [hsame]
    exact h

theorem grown_rows {db db' : Db} (hbooks : db.Extends db')
    (hlength : db'.mpesaTransactions.length = db.mpesaTransactions.length)
    (hrow : KeepsRows db db') : Grown db db' := by
  refine ⟨hbooks, hrow, fun hok m' hm' => ?_⟩
  obtain ⟨id, hid⟩ := List.mem_iff_getElem?.mp hm'
  have hlt : id < db.mpesaTransactions.length := by
    rw [← hlength]
    exact Table.lt_length_of_getElem? hid
  obtain ⟨m'', hm'', hfollows⟩ := hrow id _ (List.getElem?_eq_getElem hlt)
  rw [hid] at hm''
  cases hm''
  exact hfollows.ok (hok _ (List.getElem_mem hlt))

theorem extends_mpesa {db db' : Db} (ha : db'.accounts = db.accounts)
    (ht : db'.transactions = db.transactions) (he : db'.journalEntries = db.journalEntries) :
    db.Extends db' :=
  HistoryLemmas.extends_of_eq ha ht he

theorem grown_modify {db db' : Db} {id : Nat} {f : MpesaTransaction → MpesaTransaction}
    (hbooks : db.Extends db')
    (hf : ∀ m, db.mpesaTransactions[id]? = some m → Follows m (f m))
    (hrows : db'.mpesaTransactions = db.mpesaTransactions.modify id f) : Grown db db' := by
  refine grown_rows hbooks (by rw [hrows, List.length_modify]) fun j m hm => ?_
  rw [hrows]
  by_cases hj : id = j
  · subst hj
    exact ⟨f m, Table.getElem?_modify_self hm, hf m hm⟩
  · exact ⟨m, by rw [Table.getElem?_modify_other hj, hm], follows_refl m⟩

theorem grown_update {db : Db} {id : Nat} {f : MpesaTransaction → MpesaTransaction}
    (hf : KeepsLink f) : Grown db (db.updateMpesa id f) :=
  grown_modify (extends_mpesa rfl rfl rfl) (fun m _ => follows_keepsLink hf m) rfl

theorem grown_write {db : Db} {id : Nat} {m : MpesaTransaction}
    {f : MpesaTransaction → MpesaTransaction} (hm : db.mpesaTransactions[id]? = some m)
    (htype : m.type ≠ .b2c) (hnew : ∀ m, (f m).type ≠ .b2c)
    (hlink : ∀ m, m.transactionId.isSome = true → (f m).transactionId.isSome = true) :
    Grown db (db.updateMpesa id f) := by
  refine grown_modify (extends_mpesa rfl rfl rfl) (fun m' hm' => ?_) rfl
  rw [hm] at hm'
  cases hm'
  exact ⟨⟨fun h => absurd h (hnew m), fun h => absurd h htype⟩, hlink m,
    fun _ h => absurd h (hnew m)⟩

theorem grown_sweep {db : Db} {cutoff : Int} {f : MpesaTransaction → MpesaTransaction}
    (hf : KeepsLink f) : Grown db (db.sweepPushes cutoff f) := by
  refine grown_rows (extends_mpesa rfl rfl rfl) (List.length_map _) fun j m hm => ?_
  show ∃ m', (db.mpesaTransactions.map _)[j]? = some m' ∧ _
  rw [List.getElem?_map, hm, Option.map_some]
  by_cases hs : m.stalePush cutoff = true
  · exact ⟨f m, by rw [if_pos hs], follows_keepsLink hf m⟩
  · exact ⟨m, by rw [if_neg hs], follows_refl m⟩

theorem grown_insert {db : Db} {m : MpesaTransaction} (hm : RowOk m) :
    Grown db (db.insertMpesa m) := by
  refine ⟨extends_mpesa rfl rfl rfl, ?_, fun hok => Table.forall_append_one hok hm⟩
  intro id m' hm'
  exact ⟨m', Table.getElem?_append_one_old hm', follows_refl m'⟩

/-! ## 3. Statements that book nothing -/

/-- A row that money came in by. -/
def Incoming (db : Db) (id : Nat) : Prop :=
  ∃ m, db.mpesaTransactions[id]? = some m ∧ m.type ≠ .b2c

theorem incoming_kept {db db' : Db} (h : KeepsRows db db') {id : Nat} (hi : Incoming db id) :
    Incoming db' id := by
  obtain ⟨m, hm, htype⟩ := hi
  obtain ⟨m', hm', hfollows⟩ := h id m hm
  exact ⟨m', hm', fun h => htype (hfollows.payout.mp h)⟩

/-- What a process knows of the row it is at work on. -/
def Sits (db : Db) : DepositTask → Prop
  | .createRow row => RowOk row
  | .handleC2bCallback _ persistedTxId => ∀ id, persistedTxId = some id → Incoming db id
  | .findC2bAccounts _ persistedTxId => ∀ id, persistedTxId = some id → Incoming db id
  | .writeC2b _ persistedTxId _ => ∀ id, persistedTxId = some id → Incoming db id
  | .postLedgerEntry params => Incoming db params.mpesaTxId
  | .postDeposit params _ => Incoming db params.mpesaTxId
  | _ => True

theorem sits_kept {db db' : Db} (h : KeepsRows db db') {t : DepositTask} (ht : Sits db t) :
    Sits db' t := by
  cases t with
  | createRow _ => exact ht
  | handleC2bCallback _ _ | findC2bAccounts _ _ | writeC2b _ _ _ =>
    exact fun id hid => incoming_kept h (ht id hid)
  | postLedgerEntry _ | postDeposit _ _ => exact incoming_kept h ht
  | _ => trivial

theorem sits_entry (db : Db) (call : DepositCall) : Sits db call.entry := by
  cases call with
  | legacyC2b body =>
    intro id hid
    cases hid
  | _ => trivial

/-- A statement that books and reports nothing, and where it leads. -/
structure Calm (desk desk' : Desk) (t' : Option DepositTask) : Prop where
  grown : Grown desk.db desk'.db
  credits : desk'.credits = desk.credits
  reports : desk'.reports = desk.reports
  next : ∀ u, t' = some u → Sits desk'.db u

theorem calm_end {desk : Desk} {db' : Db} (h : Grown desk.db db') :
    Calm desk { desk with db := db' } none :=
  ⟨h, rfl, rfl, fun u hu => by cases hu⟩

theorem calm_next {desk : Desk} {u : DepositTask} (h : Sits desk.db u) :
    Calm desk desk (some u) := by
  refine ⟨History.refl _, rfl, rfl, fun v hv => ?_⟩
  cases hv
  exact h

/-! ### Requests and payouts -/

theorem verifyAccountRef_state {purpose : DepositPurpose} {accountRef : String} {u : Unit}
    {db db' : Db} (h : Yields (verifyAccountRef purpose accountRef) db u db') : db' = db := by
  cases purpose with
  | savings =>
    simp only [verifyAccountRef, yields_bind, yields_get, yields_required, yields_pure] at h
    obtain ⟨_, _, ⟨rfl, rfl⟩, _, _, ⟨_, rfl⟩, _, rfl⟩ := h
    rfl
  | loanRepayment =>
    simp only [verifyAccountRef, validateLoanForRepayment, yields_bind, yields_get, yields_required,
      yields_ensure] at h
    obtain ⟨_, _, ⟨rfl, rfl⟩, _, _, ⟨_, rfl⟩, _, rfl⟩ := h
    rfl

theorem initiateDeposit_calm {dto : MemberDepositDto} {memberId : Nat} {desk desk' : Desk}
    {t' : Option DepositTask} (h : Yields (initiateDeposit dto memberId) desk t' desk') :
    Calm desk desk' t' := by
  simp only [initiateDeposit, yields_bind, yields_onDb, yields_pure] at h
  obtain ⟨_, _, ⟨_, hverify, rfl⟩, rfl, rfl⟩ := h
  cases verifyAccountRef_state hverify
  exact calm_next trivial

theorem initiateSTKPush_calm {dto : MemberDepositDto} {memberId : Nat} {accountRef : String}
    {answer : Except String String} {now : Int} {desk desk' : Desk} {t' : Option DepositTask}
    (h : Yields (initiateSTKPush dto memberId accountRef answer now) desk t' desk') :
    Calm desk desk' t' := by
  cases answer with
  | error _ =>
    obtain ⟨rfl, rfl⟩ := yields_pure.mp h
    exact calm_end (History.refl _)
  | ok checkoutRequestId =>
    simp only [initiateSTKPush, yields_bind, yields_modify, yields_pure] at h
    obtain ⟨_, _, rfl, rfl, rfl⟩ := h
    refine ⟨History.refl _, rfl, rfl, fun u hu => ?_⟩
    cases hu
    intro hb2c
    cases hb2c

theorem initiateScheduledStkPush_calm {payload : ScheduledStkPush} {answer : Except String String}
    {now : Int} {desk desk' : Desk} {t' : Option DepositTask}
    (h : Yields (initiateScheduledStkPush payload answer now) desk t' desk') :
    Calm desk desk' t' := by
  cases answer with
  | error _ =>
    obtain ⟨rfl, rfl⟩ := yields_pure.mp h
    exact calm_end (History.refl _)
  | ok checkoutRequestId =>
    simp only [initiateScheduledStkPush, yields_bind, yields_modify, yields_pure] at h
    obtain ⟨_, _, rfl, rfl, rfl⟩ := h
    refine ⟨History.refl _, rfl, rfl, fun u hu => ?_⟩
    cases hu
    intro hb2c
    cases hb2c

theorem createRow_calm {row : MpesaTransaction} {now : Int} {desk desk' : Desk}
    {t' : Option DepositTask} (hrow : RowOk row) (h : Yields (createRow row now) desk t' desk') :
    Calm desk desk' t' := by
  simp only [createRow, yields_bind, yields_onDb, yields_pure] at h
  obtain ⟨_, _, ⟨_, hcreate, rfl⟩, rfl, rfl⟩ := h
  obtain ⟨_, _, rfl⟩ := createMpesaTransaction_cases hcreate
  exact calm_end (grown_insert hrow)

theorem createPayout_calm {payout : MobilePayout} {now : Int} {desk desk' : Desk}
    {t' : Option DepositTask} (h : Yields (createPayout payout now) desk t' desk') :
    Calm desk desk' t' :=
  createRow_calm (fun _ => ⟨rfl, payout.orderNumber, rfl⟩) h

/-! ### Callbacks -/

theorem persistStk_calm {body : StkCallback} {desk desk' : Desk} {t' : Option DepositTask}
    (h : Yields (persistStk body) desk t' desk') : Calm desk desk' t' := by
  simp only [persistStk, yields_bind, yields_get, yields_required, yields_pure] at h
  obtain ⟨_, _, ⟨rfl, rfl⟩, _, _, ⟨_, rfl⟩, rfl, rfl⟩ := h
  exact calm_next trivial

theorem stkHandled_calm {body : StkCallback} {desk desk' : Desk} {t' : Option DepositTask}
    (h : Yields (stkHandled body) desk t' desk') : Calm desk desk' t' := by
  unfold stkHandled at h
  rcases yields_ite.mp h with ⟨_, h⟩ | ⟨_, h⟩
  · simp only [yields_bind, yields_modify, yields_pure] at h
    obtain ⟨_, _, rfl, rfl, rfl⟩ := h
    exact ⟨History.refl _, rfl, rfl, fun u hu => by cases hu⟩
  · obtain ⟨rfl, rfl⟩ := yields_pure.mp h
    exact calm_end (History.refl _)

theorem checkout_incoming {db : Db} (hok : RowsOk db) {checkoutRequestId : String} {id : Nat}
    {m : MpesaTransaction} (h : db.mpesaByCheckout checkoutRequestId = some (id, m)) :
    Incoming db id := by
  obtain ⟨hrow, hp⟩ := Table.findRow_some h
  refine ⟨m, hrow, fun hb2c => ?_⟩
  have hnone := (hok m (List.mem_of_getElem? hrow) hb2c).1
  have hsome : m.checkoutRequestId = some checkoutRequestId := beq_iff_eq.mp hp
  rw [hnone] at hsome
  cases hsome

theorem handleStkCallback_calm {body : StkCallback} {desk desk' : Desk} {t' : Option DepositTask}
    (hok : RowsOk desk.db) (h : Yields (handleStkCallback body) desk t' desk') :
    Calm desk desk' t' := by
  simp only [handleStkCallback, yields_bind, yields_get] at h
  obtain ⟨_, _, ⟨rfl, rfl⟩, h⟩ := h
  cases hrow : desk.db.mpesaByCheckout body.checkoutRequestId with
  | none =>
    simp only [hrow] at h
    exact stkHandled_calm h
  | some r =>
    obtain ⟨id, m⟩ := r
    simp only [hrow] at h
    rcases yields_ite.mp h with ⟨_, h⟩ | ⟨_, h⟩
    · exact stkHandled_calm h
    · rcases yields_ite.mp h with ⟨_, h⟩ | ⟨_, h⟩
      · obtain ⟨rfl, rfl⟩ := yields_pure.mp h
        exact calm_next trivial
      · cases hreceipt : body.mpesaReceiptNumber with
        | some receipt =>
          simp only [hreceipt, yields_bind, yields_pure] at h
          obtain ⟨_, _, ⟨rfl, rfl⟩, rfl, rfl⟩ := h
          exact calm_next (checkout_incoming hok hrow)
        | none =>
          simp only [hreceipt, yields_bind, yields_onDb, yields_uuidv4, yields_pure] at h
          obtain ⟨_, _, ⟨_, ⟨rfl, rfl⟩, rfl⟩, rfl, rfl⟩ := h
          refine ⟨grown_of_same (extends_mpesa rfl rfl rfl) rfl, rfl, rfl, fun u hu => ?_⟩
          cases hu
          exact checkout_incoming hok hrow

theorem failStk_calm {body : StkCallback} {id : Nat} {desk desk' : Desk} {t' : Option DepositTask}
    (h : Yields (failStk body id) desk t' desk') : Calm desk desk' t' := by
  simp only [failStk, yields_bind, yields_get] at h
  obtain ⟨_, _, ⟨rfl, rfl⟩, h⟩ := h
  cases hrow : desk.db.mpesaTransactions[id]?.filter (·.status = .pending) with
  | none =>
    simp only [hrow] at h
    obtain ⟨rfl, rfl⟩ := yields_pure.mp h
    exact calm_end (History.refl _)
  | some m =>
    simp only [hrow, yields_bind, yields_onDb, yields_modify, yields_pure] at h
    obtain ⟨_, _, ⟨_, rfl, rfl⟩, rfl, rfl⟩ := h
    exact calm_end (grown_update ⟨fun _ => rfl, fun _ => rfl, fun _ => rfl, fun _ h => h⟩)

theorem c2b_ne_b2c (transId orderNumber : String) :
    buildMpesaRef.c2b transId ≠ buildMpesaRef.b2c orderNumber := by
  intro h
  have hchars := congrArg (fun s => s.toList.head?) h
  simp only [buildMpesaRef.c2b, buildMpesaRef.b2c, String.toList_append, List.head?_append]
    at hchars
  have hfirst : some 'C' = some 'B' := hchars
  exact absurd hfirst (by decide)

theorem c2b_incoming {db : Db} (hok : RowsOk db) {transId : String} {id : Nat}
    {m : MpesaTransaction}
    (h : Table.findRow (fun m => m.reference == buildMpesaRef.c2b transId) db.mpesaTransactions =
      some (id, m)) : Incoming db id := by
  obtain ⟨hrow, hp⟩ := Table.findRow_some h
  refine ⟨m, hrow, fun hb2c => ?_⟩
  obtain ⟨orderNumber, horder⟩ := (hok m (List.mem_of_getElem? hrow) hb2c).2
  have href : m.reference = buildMpesaRef.c2b transId := beq_iff_eq.mp hp
  exact c2b_ne_b2c transId orderNumber (href.symm.trans horder)

theorem persistC2b_calm {body : C2bCallback} {now : Int} {desk desk' : Desk}
    {t' : Option DepositTask} (hok : RowsOk desk.db)
    (h : Yields (persistC2b body now) desk t' desk') : Calm desk desk' t' := by
  simp only [persistC2b, yields_bind, yields_get] at h
  obtain ⟨_, _, ⟨rfl, rfl⟩, h⟩ := h
  cases hrow : Table.findRow (fun m => m.reference == buildMpesaRef.c2b body.transId)
      desk.db.mpesaTransactions with
  | some r =>
    obtain ⟨id, m⟩ := r
    simp only [hrow] at h
    obtain ⟨rfl, rfl⟩ := yields_pure.mp h
    refine calm_next fun id' hid => ?_
    cases hid
    exact c2b_incoming hok hrow
  | none =>
    simp only [hrow, yields_bind, yields_onDb, yields_pure] at h
    obtain ⟨_, _, ⟨_, hcreate, rfl⟩, rfl, rfl⟩ := h
    obtain ⟨_, rfl, rfl⟩ := createMpesaTransaction_cases hcreate
    refine ⟨grown_insert fun hb2c => ?_, rfl, rfl, fun u hu => ?_⟩
    · cases hb2c
    · cases hu
      intro id' hid
      cases hid
      exact ⟨_, Table.getElem?_append_one_self, fun hb2c => by cases hb2c⟩

theorem handleC2bCallback_calm {body : C2bCallback} {persistedTxId : Option Nat}
    {desk desk' : Desk} {t' : Option DepositTask}
    (hknown : ∀ id, persistedTxId = some id → Incoming desk.db id)
    (h : Yields (handleC2bCallback body persistedTxId) desk t' desk') : Calm desk desk' t' := by
  simp only [handleC2bCallback, yields_bind, yields_get] at h
  obtain ⟨_, _, ⟨rfl, rfl⟩, h⟩ := h
  cases hrow : Table.findRow (fun m => m.mpesaReceiptNumber == some body.transId)
      desk.db.mpesaTransactions with
  | none =>
    simp only [hrow] at h
    obtain ⟨rfl, rfl⟩ := yields_pure.mp h
    exact calm_next hknown
  | some r =>
    simp only [hrow] at h
    rcases yields_ite.mp h with ⟨_, h⟩ | ⟨_, h⟩
    · obtain ⟨rfl, rfl⟩ := yields_pure.mp h
      exact calm_end (History.refl _)
    · rcases yields_ite.mp h with ⟨_, h⟩ | ⟨_, h⟩
      · obtain ⟨rfl, rfl⟩ := yields_pure.mp h
        exact calm_end (History.refl _)
      · obtain ⟨rfl, rfl⟩ := yields_pure.mp h
        exact calm_next hknown

theorem findC2bAccounts_calm {body : C2bCallback} {persistedTxId : Option Nat}
    {desk desk' : Desk} {t' : Option DepositTask}
    (hknown : ∀ id, persistedTxId = some id → Incoming desk.db id)
    (h : Yields (findC2bAccounts body persistedTxId) desk t' desk') : Calm desk desk' t' := by
  simp only [findC2bAccounts, yields_bind, yields_get] at h
  obtain ⟨_, _, ⟨rfl, rfl⟩, h⟩ := h
  split at h
  · obtain ⟨rfl, rfl⟩ := yields_pure.mp h
    exact calm_next trivial
  · obtain ⟨rfl, rfl⟩ := yields_pure.mp h
    exact calm_next hknown
  · obtain ⟨rfl, rfl⟩ := yields_pure.mp h
    exact calm_next trivial

theorem rejectC2b_calm {body : C2bCallback} {persistedTxId : Option Nat} {resultCode now : Int}
    {resultDesc : String} {desk desk' : Desk} {t' : Option DepositTask}
    (h : Yields (rejectC2b body persistedTxId resultCode resultDesc now) desk t' desk') :
    Calm desk desk' t' := by
  cases persistedTxId with
  | some id =>
    simp only [rejectC2b, yields_bind, yields_onDb, yields_pure] at h
    obtain ⟨_, _, ⟨_, hupdate, rfl⟩, rfl, rfl⟩ := h
    obtain ⟨_, rfl⟩ := updateMpesaTransaction_cases hupdate
    exact calm_end (grown_update ⟨fun _ => rfl, fun _ => rfl, fun _ => rfl, fun _ h => h⟩)
  | none =>
    simp only [rejectC2b, yields_bind, yields_onDb, yields_pure] at h
    obtain ⟨_, _, ⟨_, hcreate, rfl⟩, rfl, rfl⟩ := h
    obtain ⟨_, rfl, rfl⟩ := createMpesaTransaction_cases hcreate
    exact calm_end (grown_insert fun hb2c => by cases hb2c)

theorem writeC2b_calm {body : C2bCallback} {persistedTxId : Option Nat} {memberId : Nat} {now : Int}
    {desk desk' : Desk} {t' : Option DepositTask}
    (hknown : ∀ id, persistedTxId = some id → Incoming desk.db id)
    (h : Yields (writeC2b body persistedTxId memberId now) desk t' desk') : Calm desk desk' t' := by
  cases persistedTxId with
  | some id =>
    simp only [writeC2b, yields_bind, yields_onDb, yields_pure] at h
    obtain ⟨_, _, ⟨_, hupdate, rfl⟩, _, _, ⟨rfl, rfl⟩, rfl, rfl⟩ := h
    obtain ⟨_, rfl⟩ := updateMpesaTransaction_cases hupdate
    obtain ⟨m, hm, htype⟩ := hknown id rfl
    refine ⟨grown_write hm htype (fun _ h => ?_) fun _ h => h, rfl, rfl, fun u hu => ?_⟩
    · cases h
    · cases hu
      exact ⟨_, Table.getElem?_modify_self hm, fun h => by cases h⟩
  | none =>
    simp only [writeC2b, yields_bind, yields_onDb, yields_pure] at h
    obtain ⟨_, _, ⟨_, hcreate, rfl⟩, rfl, rfl⟩ := h
    obtain ⟨_, rfl, rfl⟩ := createMpesaTransaction_cases hcreate
    refine ⟨grown_insert fun hb2c => ?_, rfl, rfl, fun u hu => ?_⟩
    · cases hb2c
    · cases hu
      exact ⟨_, Table.getElem?_append_one_self, fun hb2c => by cases hb2c⟩

/-! ### Sweeps, the reconciliation and the reads of a match -/

theorem cleanup_calm {now : Int} {desk desk' : Desk} {t' : Option DepositTask}
    (h : Yields (cleanupStaleStkTransactions now) desk t' desk') : Calm desk desk' t' := by
  simp only [cleanupStaleStkTransactions, yields_bind, yields_onDb, yields_modify, yields_pure] at h
  obtain ⟨_, _, ⟨_, rfl, rfl⟩, rfl, rfl⟩ := h
  exact calm_end (grown_sweep ⟨fun _ => rfl, fun _ => rfl, fun _ => rfl, fun _ h => h⟩)

theorem stkExpiry_calm {now : Int} {desk desk' : Desk} {t' : Option DepositTask}
    (h : Yields (stkExpiry now) desk t' desk') : Calm desk desk' t' := by
  simp only [stkExpiry, yields_bind, yields_onDb, yields_modify, yields_pure] at h
  obtain ⟨_, _, ⟨_, rfl, rfl⟩, rfl, rfl⟩ := h
  exact calm_end (grown_sweep ⟨fun _ => rfl, fun _ => rfl, fun _ => rfl, fun _ h => h⟩)

theorem runReconciliation_calm {dateStart dateEnd now : Int} {desk desk' : Desk}
    {t' : Option DepositTask} (h : Yields (runReconciliation dateStart dateEnd now) desk t' desk') :
    Calm desk desk' t' := by
  simp only [runReconciliation, yields_bind, yields_get, yields_pure] at h
  obtain ⟨_, _, ⟨rfl, rfl⟩, rfl, rfl⟩ := h
  exact calm_next trivial

theorem flagPending_calm {rows : List StaleRow} {desk desk' : Desk} {t' : Option DepositTask}
    (h : Yields (flagPending rows) desk t' desk') : Calm desk desk' t' := by
  cases rows with
  | nil =>
    obtain ⟨rfl, rfl⟩ := yields_pure.mp h
    exact calm_end (History.refl _)
  | cons row rows =>
    simp only [flagPending, yields_bind, yields_onDb, yields_modify, yields_pure] at h
    obtain ⟨_, _, ⟨_, rfl, rfl⟩, rfl, rfl⟩ := h
    refine ⟨grown_update ⟨fun _ => rfl, fun _ => rfl, fun _ => rfl, fun _ h => h⟩, rfl, rfl,
      fun u hu => ?_⟩
    cases hu
    trivial

theorem matchMpesaTransaction_calm {id accountId : Nat} {actorId : String} {note : Option String}
    {desk desk' : Desk} {t' : Option DepositTask}
    (h : Yields (matchMpesaTransaction id accountId actorId note) desk t' desk') :
    Calm desk desk' t' := by
  simp only [matchMpesaTransaction, yields_bind, yields_get, yields_required, yields_pure] at h
  obtain ⟨_, _, ⟨rfl, rfl⟩, _, _, ⟨_, rfl⟩, rfl, rfl⟩ := h
  exact calm_next trivial

theorem matchAccount_calm {id accountId : Nat} {mpesaTx : MpesaTransaction} {actorId : String}
    {note : Option String} {desk desk' : Desk} {t' : Option DepositTask}
    (h : Yields (matchAccount id mpesaTx accountId actorId note) desk t' desk') :
    Calm desk desk' t' := by
  simp only [matchAccount, yields_bind, yields_get, yields_required, yields_pure] at h
  obtain ⟨_, _, ⟨rfl, rfl⟩, _, _, ⟨_, rfl⟩, rfl, rfl⟩ := h
  exact calm_next trivial

/-! ## 4. Statements that book -/

/-- What holds at every point of a run: `BookedOnce`, and a booked row has a transaction. -/
structure Sound (desk : Desk) : Prop where
  rows : RowsOk desk.db
  booked : BookedOnce desk
  linked : ∀ c ∈ desk.credits, ∃ m, desk.db.mpesaTransactions[c.mpesaTxId]? = some m ∧
    m.type ≠ .b2c ∧ m.transactionId.isSome = true

theorem controlled_extends {db db' : Db} (h : db.Extends db') {accountId txn : Nat}
    (hc : db.Controlled accountId txn) : db'.Controlled accountId txn := by
  obtain ⟨a, t, e, ha, ht, haccount, hmove, he, href, hnet⟩ := hc
  obtain ⟨a', ha', hid⟩ := h.account ha
  obtain ⟨t', ht', hposted⟩ := h.transaction ht
  obtain ⟨haccount', _, hamount, hbefore, hafter⟩ := Transaction.posted_eq hposted
  refine ⟨a', t', e, ha', ht', haccount'.trans haccount, ?_, ?_, href, ?_⟩
  · rw [hafter, hbefore, hamount, hmove]
  · exact h.journalEntries.subset he
  · rw [h.accountType ha ha', hamount, hnet]

theorem reported_extends {db db' : Db} (h : db.Extends db') {txn accountId : Nat}
    (hr : ∃ t, db.transactions[txn]? = some t ∧ t.accountId = accountId) :
    ∃ t, db'.transactions[txn]? = some t ∧ t.accountId = accountId := by
  obtain ⟨t, ht, haccount⟩ := hr
  obtain ⟨t', ht', hposted⟩ := h.transaction ht
  exact ⟨t', ht', (Transaction.posted_eq hposted).1.trans haccount⟩

theorem linked_kept {db db' : Db} (h : KeepsRows db db') {id : Nat}
    (hl : ∃ m, db.mpesaTransactions[id]? = some m ∧ m.type ≠ .b2c ∧
      m.transactionId.isSome = true) :
    ∃ m, db'.mpesaTransactions[id]? = some m ∧ m.type ≠ .b2c ∧
      m.transactionId.isSome = true := by
  obtain ⟨m, hm, htype, hsome⟩ := hl
  obtain ⟨m', hm', hfollows⟩ := h id m hm
  exact ⟨m', hm', fun hb2c => htype (hfollows.payout.mp hb2c), hfollows.linked hsome⟩

theorem sound_calm {desk desk' : Desk} {t' : Option DepositTask} (h : Calm desk desk' t')
    (hs : Sound desk) : Sound desk' := by
  have hlinked : ∀ c ∈ desk'.credits, ∃ m, desk'.db.mpesaTransactions[c.mpesaTxId]? = some m ∧
      m.type ≠ .b2c ∧ m.transactionId.isSome = true := by
    intro c hc
    rw [h.credits] at hc
    exact linked_kept h.grown.kept (hs.linked c hc)
  refine ⟨h.grown.ok hs.rows, ⟨fun id => ?_, fun c hc m hm => ?_, fun id accountId txn hc => ?_,
    fun r hr => ?_⟩, hlinked⟩
  · rw [Desk.creditsOf, h.credits]
    exact hs.booked.once id
  · obtain ⟨m', hm', htype, _⟩ := hlinked c hc
    rw [hm] at hm'
    cases hm'
    exact htype
  · rw [h.credits] at hc
    exact controlled_extends h.grown.books (hs.booked.control id accountId txn hc)
  · rw [h.reports] at hr
    exact reported_extends h.grown.books (hs.booked.reported r hr)

/-- Nothing was booked for a row without a transaction. -/
theorem creditsOf_unlinked {desk : Desk} (hs : Sound desk) {id : Nat}
    (h : desk.db.unlinked id = true) : desk.creditsOf id = [] := by
  refine List.filter_eq_nil_iff.mpr fun c hc hid => ?_
  obtain ⟨m, hm, _, hsome⟩ := hs.linked c hc
  rw [beq_iff_eq.mp hid] at hm
  rw [Db.unlinked, hm] at h
  have hnone : m.transactionId.isNone = true := h
  rw [Option.isNone_iff_eq_none.mp hnone] at hsome
  cases hsome

theorem sound_credit {desk desk' : Desk} {c : Credit} (hs : Sound desk)
    (hgrown : Grown desk.db desk'.db) (hcredits : desk'.credits = desk.credits ++ [c])
    (hreports : desk'.reports = desk.reports) (hfree : desk.db.unlinked c.mpesaTxId = true)
    (hlinked : ∃ m, desk'.db.mpesaTransactions[c.mpesaTxId]? = some m ∧ m.type ≠ .b2c ∧
      m.transactionId.isSome = true)
    (hcontrol : ∀ id accountId txn, c = .deposit id accountId txn →
      desk'.db.Controlled accountId txn) : Sound desk' := by
  have hall : ∀ d ∈ desk'.credits, ∃ m, desk'.db.mpesaTransactions[d.mpesaTxId]? = some m ∧
      m.type ≠ .b2c ∧ m.transactionId.isSome = true := by
    intro d hd
    rw [hcredits, List.mem_append, List.mem_singleton] at hd
    rcases hd with hd | rfl
    · exact linked_kept hgrown.kept (hs.linked d hd)
    · exact hlinked
  refine ⟨hgrown.ok hs.rows, ⟨fun id => ?_, fun d hd m hm => ?_, fun id accountId txn hd => ?_,
    fun r hr => ?_⟩, hall⟩
  · rw [Desk.creditsOf, hcredits, List.filter_append, List.length_append]
    by_cases hid : c.mpesaTxId = id
    · -- the first booking of this row
      have hnone : (desk.credits.filter fun c => c.mpesaTxId == id) = [] :=
        creditsOf_unlinked hs (hid ▸ hfree)
      rw [hnone, List.length_nil, Nat.zero_add]
      exact List.length_filter_le _ [c]
    · have hother : ([c].filter fun c => c.mpesaTxId == id) = [] :=
        List.filter_eq_nil_iff.mpr fun d hd hd' => hid <| by
          rw [← List.mem_singleton.mp hd]
          exact beq_iff_eq.mp hd'
      rw [hother]
      exact hs.booked.once id
  · obtain ⟨m', hm', htype, _⟩ := hall d hd
    rw [hm] at hm'
    cases hm'
    exact htype
  · rw [hcredits, List.mem_append, List.mem_singleton] at hd
    rcases hd with hd | hd
    · exact controlled_extends hgrown.books (hs.booked.control id accountId txn hd)
    · exact hcontrol id accountId txn hd.symm
  · rw [hreports] at hr
    exact reported_extends hgrown.books (hs.booked.reported r hr)

/-- What every statement owes the run. -/
structure Moved (desk desk' : Desk) (t' : Option DepositTask) : Prop where
  sound : Sound desk'
  kept : KeepsRows desk.db desk'.db
  next : ∀ u, t' = some u → Sits desk'.db u

theorem moved_calm {desk desk' : Desk} {t' : Option DepositTask} (hs : Sound desk)
    (h : Calm desk desk' t') : Moved desk desk' t' :=
  ⟨sound_calm h hs, h.grown.kept, h.next⟩

theorem rowSettled_grown {id : Nat} {db db' : Db} (hbooks : db.Extends db')
    (h : RowSettled id db db') : Grown db db' := by
  obtain ⟨f, hf, hrows, _⟩ := h.settled
  exact grown_modify hbooks (fun m _ => follows_keepsLink hf m) hrows

theorem repayment_moved {params : LedgerEntryParams} {now : Int} {desk desk' : Desk}
    {t' : Option DepositTask} (hs : Sound desk) (hknown : Incoming desk.db params.mpesaTxId)
    (hbooks : (DepositTask.postLedgerEntry params).books desk.db = true)
    (hloan : (parseReference params.accountReference).isLoanRepayment = true)
    (h : Yields (postLedgerEntry params now) desk t' desk') : Moved desk desk' t' := by
  simp only [postLedgerEntry, yields_bind, yields_get] at h
  obtain ⟨_, _, ⟨rfl, rfl⟩, h⟩ := h
  rw [if_pos hloan] at h
  simp only [yields_bind, yields_onDb, yields_modify, yields_pure] at h
  obtain ⟨result, _, ⟨db', hrepay, rfl⟩, _, _, rfl, _, _, rfl, rfl, rfl⟩ := h
  have hext : desk.db.Extends db' := processRepayment_moves now params.repayment hrepay
  rcases processRepayment_settles rfl hrepay with rfl | ⟨hnew, hsettled⟩
  · rw [if_neg (Nat.lt_irrefl _)]
    exact moved_calm hs ⟨History.refl _, rfl, rfl, fun u hu => by cases hu⟩
  · have hgrown := rowSettled_grown hext hsettled
    split
    · next hposted =>
      obtain ⟨f, hf, hrows, hlinks⟩ := hsettled.settled
      obtain ⟨m, hm, htype⟩ := hknown
      have hfree : desk.db.unlinked params.mpesaTxId = true := by
        simp only [DepositTask.books, hloan, hnew, Bool.not_true, Option.isSome_none,
          Bool.false_or] at hbooks
        exact hbooks
      refine ⟨sound_credit hs hgrown rfl rfl hfree ⟨f m, ?_, ?_, hlinks (fun he => ?_) m⟩
        fun _ _ _ hc => ?_, hgrown.kept, fun u hu => ?_⟩
      · show db'.mpesaTransactions[params.mpesaTxId]? = _
        rw [hrows, Table.getElem?_modify_self hm]
      · rw [hf.type]
        exact htype
      · rw [he] at hposted
        exact Nat.lt_irrefl _ hposted
      · cases hc
      · cases hu
    · exact moved_calm hs ⟨hgrown, rfl, rfl, fun u hu => by cases hu⟩

theorem postLedgerEntry_moved {params : LedgerEntryParams} {now : Int} {desk desk' : Desk}
    {t' : Option DepositTask} (hs : Sound desk) (hknown : Incoming desk.db params.mpesaTxId)
    (hbooks : (DepositTask.postLedgerEntry params).books desk.db = true)
    (h : Yields (postLedgerEntry params now) desk t' desk') : Moved desk desk' t' := by
  cases hloan : (parseReference params.accountReference).isLoanRepayment with
  | true => exact repayment_moved hs hknown hbooks hloan h
  | false =>
    simp only [postLedgerEntry, hloan, Bool.false_eq_true, if_false, yields_bind, yields_get] at h
    obtain ⟨_, _, ⟨rfl, rfl⟩, h⟩ := h
    rcases yields_ite.mp h with ⟨_, h⟩ | ⟨_, h⟩
    · simp only [yields_bind, yields_required, yields_pure] at h
      obtain ⟨_, _, ⟨_, rfl⟩, rfl, rfl⟩ := h
      exact moved_calm hs (calm_next hknown)
    · obtain ⟨rfl, rfl⟩ := yields_pure.mp h
      exact moved_calm hs (calm_next hknown)

/-- A new deposit is on the control account of its account. -/
theorem entryPosted_controlled {params : LedgerEntryParams} {tenantId : String} {accountId : Nat}
    {db db' : Db} (h : EntryPosted (params.posting tenantId accountId) db db') :
    db'.Controlled accountId db.transactions.length := by
  obtain ⟨a, type, actor, description, debitCode, creditCode, ha, _, _, _, hcodes, rfl⟩ := h.written
  have hcredit : creditCode = memberDepositsCode a.accountType ∧ debitCode = GL_CODES.CASH := by
    have hc : (Except.ok (GL_CODES.CASH, memberDepositsCode a.accountType) :
        Except Err (String × String)) = .ok (debitCode, creditCode) := hcodes
    cases hc
    exact ⟨rfl, rfl⟩
  refine ⟨a.move (toDecimalPlaces4 params.amount), _, _, Table.getElem?_modify_self ha,
    Table.getElem?_append_one_self, rfl, rfl, List.mem_append_right _ List.mem_cons_self, rfl, ?_⟩
  have hcash : GL_CODES.CASH ≠ memberDepositsCode a.accountType := by
    cases a.accountType <;> decide
  rw [hcredit.1, hcredit.2]
  show Table.sumOver (GLPosting.netCredit (memberDepositsCode a.accountType)) [_] = _
  rw [Table.sumOver_cons, Table.sumOver_nil, Int.add_zero, GLPosting.netCredit, if_pos rfl,
    if_neg hcash, Int.sub_zero]
  rfl

theorem settle_keepsLink (params : LedgerEntryParams) (txn : Nat) :
    KeepsLink (params.settle txn) :=
  ⟨fun _ => rfl, fun _ => rfl, fun _ => rfl, fun _ _ => rfl⟩

theorem depositPosted_moved {params : LedgerEntryParams} {accountId : Nat} {desk desk' : Desk}
    (hs : Sound desk) (hknown : Incoming desk.db params.mpesaTxId)
    (hfree : (desk.db.transactionByReference
        (params.depositReference desk.db.tenantId)).isSome = true ∨
      desk.db.unlinked params.mpesaTxId = true)
    (h : DepositPosted params accountId desk desk') : Moved desk desk' none := by
  obtain ⟨r, db', hpost, hrow, rfl⟩ := h.posted
  have hext : desk.db.Extends db' := postEntry_moves _ hpost
  have hsame : desk.db.SameMpesa db' := postEntry_moves _ hpost
  have hgrown : Grown desk.db (db'.updateMpesa params.mpesaTxId (params.settle r.transaction)) :=
    History.trans (grown_of_same hext hsame) (grown_update (settle_keepsLink params r.transaction))
  rcases postEntry_cases hpost with ⟨_, hold, _⟩ | ⟨hposted, hnew, htxn⟩
  · rw [hold, if_neg Bool.noConfusion, List.append_nil]
    exact moved_calm hs ⟨hgrown, rfl, rfl, fun u hu => by cases hu⟩
  · have hunlinked : desk.db.unlinked params.mpesaTxId = true := by
      rcases hfree with hfound | hfree
      · have hnone : desk.db.transactionByReference
          (params.depositReference desk.db.tenantId) = none := hposted.fresh
        rw [hnone] at hfound
        cases hfound
      · exact hfree
    obtain ⟨m, hm, htype⟩ := hknown
    have hm' : db'.mpesaTransactions[params.mpesaTxId]? = some m := by
      rw [hsame]
      exact hm
    rw [if_pos hnew]
    refine ⟨sound_credit hs hgrown rfl rfl hunlinked
      ⟨params.settle r.transaction m, Table.getElem?_modify_self hm', htype, rfl⟩
      fun id account txn hc => ?_, hgrown.kept, fun u hu => by cases hu⟩
    cases hc
    rw [htxn]
    have hcontrol := entryPosted_controlled hposted
    have hlater : db'.Extends (db'.updateMpesa params.mpesaTxId
      (params.settle desk.db.transactions.length)) := extends_mpesa rfl rfl rfl
    exact controlled_extends hlater hcontrol

theorem postDeposit_moved {params : LedgerEntryParams} {accountNumber : String} {desk desk' : Desk}
    {t' : Option DepositTask} (hs : Sound desk) (hknown : Incoming desk.db params.mpesaTxId)
    (hbooks : (DepositTask.postDeposit params accountNumber).books desk.db = true)
    (h : Yields (postDeposit params accountNumber) desk t' desk') : Moved desk desk' t' := by
  obtain ⟨rfl, ⟨_, rfl⟩ | ⟨accountId, a, hfound, hposted⟩⟩ := postDeposit_cases h
  · exact moved_calm hs ⟨History.refl _, rfl, rfl, fun u hu => by cases hu⟩
  · refine depositPosted_moved hs hknown ?_ hposted
    simp only [DepositTask.books, hfound, Option.isNone_some, Bool.false_or, Bool.or_eq_true]
      at hbooks
    exact hbooks

/-- The checks of a match that posts. -/
theorem refusesMatch_false {db : Db} {accountId : Nat} {a : Account}
    (ha : db.accounts[accountId]?.filter (·.isActive) = some a)
    (hcash : ∃ g ∈ db.glAccounts, g.code = "1000" ∧ g.isActive = true)
    (hsavings : ∃ g ∈ db.glAccounts, g.code = "2000" ∧ g.isActive = true) :
    db.refusesMatch accountId = false := by
  obtain ⟨hrow, hactive⟩ := Option.filter_eq_some_iff.mp ha
  have hany : ∀ code, (∃ g ∈ db.glAccounts, g.code = code ∧ g.isActive = true) →
      (db.glAccounts.any fun g => g.code == code && g.isActive) = true := by
    rintro code ⟨g, hg, hcode, hgactive⟩
    refine List.any_eq_true.mpr ⟨g, hg, ?_⟩
    rw [hcode, hgactive, beq_self_eq_true]
    rfl
  rw [Db.refusesMatch, hrow, hany _ hcash, hany _ hsavings, Option.any_some, hactive]
  rfl

/-- A match that does not post has found its transaction. -/
theorem matchPost_moved {id accountId memberId : Nat} {mpesaTx : MpesaTransaction}
    {actorId : String} {note : Option String} {desk desk' : Desk} {t' : Option DepositTask}
    (hs : Sound desk)
    (hbooks :
      (DepositTask.matchPost id mpesaTx accountId memberId actorId note).books desk.db = true)
    (h : Yields (matchPost id mpesaTx accountId memberId actorId note) desk t' desk') :
    Moved desk desk' t' := by
  simp only [matchPost, yields_bind, yields_onDb] at h
  obtain ⟨⟨txn, isNew⟩, _, ⟨db', hbody, rfl⟩, h⟩ := h
  simp only [matchBody, yields_bind, yields_get] at hbody
  obtain ⟨_, _, ⟨rfl, rfl⟩, hbody⟩ := hbody
  cases hfind : desk.db.transactionByReference s!"MPESA-RECON-{id}" with
  | none =>
    -- nothing was found, so a check of the posting has to refuse it
    have hrefuses : desk.db.refusesMatch accountId = true := by
      simp only [DepositTask.books, hfind] at hbooks
      exact hbooks
    simp only [hfind, yields_bind, yields_required, yields_modify, yields_ensure] at hbody
    obtain ⟨a, _, ⟨ha, rfl⟩, _, _, rfl, _, _, _, _, _, ⟨⟨hcash, hsavings⟩, _⟩, _⟩ := hbody
    exact absurd hrefuses (by rw [refusesMatch_false ha hcash hsavings]; exact Bool.noConfusion)
  | some row =>
    obtain ⟨dup, t⟩ := row
    simp only [hfind, yields_pure] at hbody
    obtain ⟨hresult, rfl⟩ := hbody
    cases hresult
    simp only [Bool.false_eq_true, if_false, yields_bind, yields_modify, yields_pure] at h
    obtain ⟨_, _, rfl, rfl, rfl⟩ := h
    have haccount : t.accountId = accountId := by
      simp only [DepositTask.books, hfind, beq_iff_eq] at hbooks
      exact hbooks
    refine ⟨⟨hs.rows, ⟨hs.booked.once, hs.booked.payout, hs.booked.control, fun r hr => ?_⟩,
      hs.linked⟩, keepsRows_refl _, fun u hu => by cases hu⟩
    rcases List.mem_append.mp hr with hr | hr
    · exact hs.booked.reported r hr
    · rw [List.mem_singleton.mp hr]
      exact ⟨t, (Table.findRow_some hfind).1, haccount⟩

theorem next_booked {t : DepositTask} {input : DepositInput} {desk desk' : Desk}
    {t' : Option DepositTask} (hs : Sound desk) (ht : Sits desk.db t)
    (hbooks : t.books desk.db = true) (h : Yields (t.next input) desk t' desk') :
    Moved desk desk' t' := by
  cases t with
  | initiateDeposit _ _ => exact moved_calm hs (initiateDeposit_calm h)
  | initiateSTKPush _ _ _ => exact moved_calm hs (initiateSTKPush_calm h)
  | initiateScheduledStkPush _ => exact moved_calm hs (initiateScheduledStkPush_calm h)
  | createPayout _ => exact moved_calm hs (createPayout_calm h)
  | createRow _ => exact moved_calm hs (createRow_calm ht h)
  | persistStk _ => exact moved_calm hs (persistStk_calm h)
  | handleStkCallback _ => exact moved_calm hs (handleStkCallback_calm hs.rows h)
  | failStk _ _ => exact moved_calm hs (failStk_calm h)
  | persistC2b _ => exact moved_calm hs (persistC2b_calm hs.rows h)
  | handleC2bCallback _ _ => exact moved_calm hs (handleC2bCallback_calm ht h)
  | findC2bAccounts _ _ => exact moved_calm hs (findC2bAccounts_calm ht h)
  | rejectC2b _ _ _ _ => exact moved_calm hs (rejectC2b_calm h)
  | writeC2b _ _ _ => exact moved_calm hs (writeC2b_calm ht h)
  | postLedgerEntry _ => exact postLedgerEntry_moved hs ht hbooks h
  | postDeposit _ _ => exact postDeposit_moved hs ht hbooks h
  | cleanupStaleStkTransactions => exact moved_calm hs (cleanup_calm h)
  | stkExpiry => exact moved_calm hs (stkExpiry_calm h)
  | runReconciliation _ _ => exact moved_calm hs (runReconciliation_calm h)
  | flagPending _ => exact moved_calm hs (flagPending_calm h)
  | matchMpesaTransaction _ _ _ _ => exact moved_calm hs (matchMpesaTransaction_calm h)
  | matchAccount _ _ _ _ _ => exact moved_calm hs (matchAccount_calm h)
  | matchPost _ _ _ _ _ _ => exact matchPost_moved hs hbooks h

theorem step_booked {w : DepositWorld} {e : DepositEvent}
    (hw : Upheld Sound (fun desk t => Sits desk.db t) w) (h : w.booksOnce e = true) :
    Upheld Sound (fun desk t => Sits desk.db t) (deposits.step w e) := by
  refine upheld_step hw (fun call _ => sits_entry _ call) fun i input t t' desk he hat hy => ?_
  have hbooks : t.books w.state.db = true := by
    rw [he] at h
    have hall : (w.task i).all (fun t => t.books w.state.db) = true := h
    rw [task_some.mpr hat] at hall
    exact hall
  have hmoved := next_booked hw.state (hw.tasks i t hat) hbooks hy
  exact ⟨hmoved.sound, hmoved.next, fun _ _ _ _ hsits => sits_kept hmoved.kept hsits⟩

theorem opening_upheld {db : Db} (h : db.mpesaTransactions = []) :
    Upheld Sound (fun desk t => Sits desk.db t) (DepositWorld.opening db) := by
  have hnone : ∀ c : Credit, c ∉ (DepositWorld.opening db).state.credits :=
    fun _ => List.not_mem_nil
  refine ⟨⟨?_, ⟨fun _ => Nat.zero_le _, fun c hc => absurd hc (hnone c), fun _ _ _ hc =>
    absurd hc (hnone _), fun r hr => absurd hr List.not_mem_nil⟩, fun c hc =>
    absurd hc (hnone c)⟩, fun i t hat => ?_⟩
  · intro m hm
    have hnil : m ∈ db.mpesaTransactions := hm
    rw [h] at hnil
    exact absurd hnil List.not_mem_nil
  · have hempty : ([] : List (Option DepositTask))[i]? = some (some t) := hat
    rw [List.getElem?_nil] at hempty
    cases hempty

end MatchingLemmas

open MatchingLemmas

/-- In every run from a desk without M-Pesa rows in which a callback posts only for a row that has
no transaction yet (or finds what it posted before) and no match posts: what came in by a row is
booked at most once, a payout never, every deposit has moved the control account of its account's
type by the same amount, and a match that reported success has its transaction on the account. -/
theorem matching_books_once {db : Db} {events : List DepositEvent}
    (hnew : db.mpesaTransactions = [])
    (hbooks : Machine.Guarded deposits.step (fun w e => DepositWorld.booksOnce w e = true)
      (DepositWorld.opening db) events) :
    BookedOnce ((DepositWorld.opening db).after events).state :=
  (Machine.run_induct (fun _ _ hw h => step_booked hw h) (opening_upheld hnew) hbooks).state.booked

/-- A payment of KES 25 to the paybill for the FOSA account of member 0. -/
def exPaybill : C2bCallback where
  transId := "R2"
  transAmount := 25
  billRefNumber := "F-0"
  msisdn := "254700000000"

/-- A deposit from the phone and one at the paybill, each reported twice, and a match of the row
that the second report has settled. -/
def exBooked : List DepositEvent :=
  depositRequest exDto 0 "ws_1" 0 ++ exReport 1 1000 ++ exReport 2 2000 ++
    .start (.c2bCallback exPaybill) :: List.replicate 6 (exNext 3 3000) ++
    .start (.c2bCallback exPaybill) :: List.replicate 6 (exNext 4 4000) ++
    .start (.manualMatch 0 1 "A" none) :: [exNext 5 5000]

theorem matching_books_once_twice_reported :
    BookedOnce ((DepositWorld.opening exSacco).after exBooked).state ∧
      ((DepositWorld.opening exSacco).after exBooked).state.credits =
        [.deposit 0 0 0, .deposit 1 0 1] ∧
      ((DepositWorld.opening exSacco).after exBooked).state.db.balance 0 = some 1250000 :=
  ⟨matching_books_once rfl (by decide +kernel), by decide +kernel, by decide +kernel⟩

/-- The tenant with the code that a match credits. -/
def exSavings : Db := { exSacco with glAccounts := ⟨"2000", true⟩ :: exSacco.glAccounts }

/-- The reconciliation of the day, three hours after the push, by process `i`. -/
def exFlag (i : Nat) : List DepositEvent :=
  .start (.reconciliation 0 86400000) :: List.replicate 2 (exNext i 10800000)

/-- A match of the row 0 to the FOSA account of member 0, by process `i`. -/
def exMatch (i : Nat) : List DepositEvent :=
  .start (.manualMatch 0 0 "A" none) :: List.replicate 3 (exNext i 10900000)

/-- The payout of a loan. -/
def exPayout : MobilePayout where
  orderNumber := "L1"
  referenceType := .loanDisbursement
  referenceId := 0
  memberId := 0
  accountReference := "LN-1"
  phone := "254700000000"
  amount := 100
  sourceTransactionId := none

def exMatched (events : List DepositEvent) : Desk :=
  ((DepositWorld.opening exSavings).after events).state

/-- A flagged push is matched. -/
def exFlagged : List DepositEvent := depositRequest exDto 0 "ws_1" 0 ++ exFlag 1 ++ exMatch 2

/-- A report read the row before it was flagged. -/
def exInFlight : List DepositEvent :=
  depositRequest exDto 0 "ws_1" 0 ++ .start (.stkCallback exPaid) ::
    [exNext 1 10700000, exNext 1 10700000] ++ exFlag 2 ++ exMatch 3 ++
    [exNext 1 11000000, exNext 1 11000000]

/-- The payout stayed PENDING. -/
def exStuck : List DepositEvent :=
  .start (.payout exPayout) :: exNext 0 0 :: exFlag 1 ++ exMatch 2

/-- A match credits the account but not its control account; a report that was read before the row
was flagged credits it a second time; and a loan payout that stayed PENDING is credited to the
member. -/
theorem match_misses_control_account :
    ((exMatched exFlagged).reports = [⟨0, 0, 0⟩] ∧
      (exMatched exFlagged).db.balance 0 = some 1000000 ∧
      (exMatched exFlagged).db.netCredit "2300" = 0 ∧
      (exMatched exFlagged).db.netCredit "2000" = 1000000) ∧
    ((exMatched exInFlight).creditsOf 0 = [.deposit 0 0 0, .deposit 0 0 1] ∧
      (exMatched exInFlight).db.balance 0 = some 2000000) ∧
    ((exMatched exStuck).db.mpesaTransactions.map (·.type) = [.b2c] ∧
      (exMatched exStuck).creditsOf 0 = [.deposit 0 0 0] ∧
      (exMatched exStuck).db.balance 0 = some 1000000) := by
  decide +kernel

end BebaSacco
