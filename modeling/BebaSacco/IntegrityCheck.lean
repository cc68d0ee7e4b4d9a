import BebaSacco.Provenance
import BebaSacco.RepayNumbers

/-! # The ledger integrity check

`FinancialService.runLedgerIntegrityCheck` rebuilds every balance from two fixed lists
of transaction types and reports the accounts that drift from it, and lists the
transactions without a journal entry.

The lists agree with what the ledger does to a balance for the postings of `postEntry` and
for repayments of no more than four decimals from the FOSA balance. They do not know transfers
and reversals, and they count the legs of a repayment from outside, which move no balance.

Results:
 1. `accounted_step`: one operation keeps every balance equal to the sum of a weight over
    the rows of the account, when the rows it writes weigh what it does to the balance.
 2. `integrity_check_exact`: no drift is reported, and a balance that differs from the
    movements of the account by more than a unit is.
 3. `transfer_raises_alarm`: after a transfer both accounts are reported, and so is one that paid
    half a unit twice.
-/

namespace BebaSacco

open Txn HistoryLemmas FootprintLemmas ProvenanceLemmas

/-! ## 1. The check -/

def CREDIT_TYPES : List TransactionType :=
  [.deposit, .loanDisbursement, .interestEarned, .dividendPayout]

def DEBIT_TYPES : List TransactionType :=
  [.withdrawal, .loanRepayment, .interestAccrual, .penalty, .feeCharge]

/-- `aggregate({ where: { accountId, status: COMPLETED, type: { in: types } }, _sum })`. -/
def Db.sumAmounts (db : Db) (accountId : Nat) (types : List TransactionType) : Int :=
  Table.sumOver
    (fun t => if t.accountId = accountId ∧ t.status = .completed ∧ t.type ∈ types then t.amount else 0)
    db.transactions

def Db.expectedBalance (db : Db) (accountId : Nat) : Int :=
  db.sumAmounts accountId CREDIT_TYPES - db.sumAmounts accountId DEBIT_TYPES

structure LedgerDrift where
  accountId : Nat
  accountNumber : String
  expected : Int
  actual : Int
  drift : Nat
  deriving DecidableEq, Repr

/-- The drift of one account: a single unit of 0.0001 is tolerated. -/
def Db.driftOf (db : Db) (accountId : Nat) (account : Account) : Option LedgerDrift :=
  let expected := db.expectedBalance accountId
  let drift := (account.balance - expected).natAbs
  if 1 < drift then
    some
      { accountId, expected, drift
        accountNumber := account.accountNumber
        actual := account.balance }
  else none

def GL_BYPASS_SCAN_LIMIT : Nat := 500

/-- A completed or reversed transaction that no journal entry refers to, itself or through
the transaction it is linked to. -/
def Db.bypassesGl (db : Db) (id : Nat) (t : Transaction) : Bool :=
  (t.status == .completed || t.status == .reversed) &&
    !db.journalEntries.any fun e => e.referenceType == "TRANSACTION" &&
      (e.referenceId == id || some e.referenceId == t.linkedTransactionId)

/-- The transactions without an entry, the newest first. -/
def Db.findGlBypasses (db : Db) : List (Nat × Transaction) :=
  ((Table.selectRows (fun _ => true) db.transactions).filter
    fun r => db.bypassesGl r.1 r.2).reverse

structure IntegrityReport where
  checked : Nat
  drifts : List LedgerDrift
  glBypasses : List (Nat × Transaction)
  glBypassTruncated : Bool

def Db.runLedgerIntegrityCheck (db : Db) : IntegrityReport :=
  let accounts := Table.selectRows (fun a => a.isActive) db.accounts
  let bypasses := db.findGlBypasses
  { checked := accounts.length
    drifts := accounts.filterMap fun r => db.driftOf r.1 r.2
    glBypasses := bypasses.take GL_BYPASS_SCAN_LIMIT
    glBypassTruncated := GL_BYPASS_SCAN_LIMIT < bypasses.length }

/-! ## 2. Weights -/

/-- What the check counts a row as. -/
def Transaction.contribution (t : Transaction) : Int :=
  if t.status = .completed then
    if t.type ∈ CREDIT_TYPES then t.amount else if t.type ∈ DEBIT_TYPES then -t.amount else 0
  else 0

/-- What a row did to its account. -/
def Transaction.movement (t : Transaction) : Int := t.balanceAfter - t.balanceBefore

/-- The sum of a weight over the rows of an account. -/
def Db.total (w : Transaction → Int) (db : Db) (accountId : Nat) : Int :=
  Table.sumOver (fun t => if t.accountId = accountId then w t else 0) db.transactions

/-- Every balance, with `off` on top, is the sum of `w` over the rows of the account. -/
def Db.Accounted (w : Transaction → Int) (off : Nat → Int) (db : Db) : Prop :=
  ∀ (i : Nat) (a : Account), db.accounts[i]? = some a → a.balance + off i = db.total w i

/-- `off` with `n` more on the account `i`. -/
def bump (off : Nat → Int) (i : Nat) (n : Int) (j : Nat) : Int := off j + if i = j then n else 0

/-- No transaction and no balance changed. -/
structure Db.SameBalances (db db' : Db) : Prop where
  accounts : db'.accounts.map Account.books = db.accounts.map Account.books
  transactions : db'.transactions = db.transactions

instance : History Db.SameBalances where
  refl _ := ⟨rfl, rfl⟩
  trans h k := ⟨k.accounts.trans h.accounts, k.transactions.trans h.transactions⟩

instance : AdmitsEntry Db.SameBalances := ⟨fun _ _ => ⟨rfl, rfl⟩⟩

instance : AdmitsLoan Db.SameBalances := ⟨fun _ _ _ _ => ⟨rfl, rfl⟩⟩

instance : AdmitsRepayment Db.SameBalances := ⟨fun _ _ _ => ⟨rfl, rfl⟩, fun _ _ => ⟨rfl, rfl⟩⟩

instance : AdmitsMpesa Db.SameBalances := ⟨fun _ _ _ => ⟨rfl, rfl⟩⟩

namespace IntegrityLemmas

variable {w : Transaction → Int} {off : Nat → Int}

theorem accounted_same {db db' : Db} (hs : db.SameBalances db') (h : db.Accounted w off) :
    db'.Accounted w off := by
  intro i a ha
  have hmap : (db.accounts.map Account.books)[i]? = some a.books := by
    rw [← hs.accounts, List.getElem?_map, ha]
    rfl
  rw [List.getElem?_map] at hmap
  obtain ⟨b, hb, hbooks⟩ := Option.map_eq_some_iff.mp hmap
  have hbal : b.balance = a.balance := by
    have hcong := congrArg Account.balance hbooks
    exact hcong
  rw [Db.total, hs.transactions, ← hbal]
  exact h i b hb

theorem same_accounted {α : Type} {x : Tx α} (hx : Moves Db.SameBalances x) :
    Preserves (Db.Accounted w off) x :=
  Preserves.of_moves hx fun _ _ => accounted_same

theorem total_insert (db : Db) (t : Transaction) (i : Nat) :
    (db.insertTransaction t).total w i = db.total w i + if t.accountId = i then w t else 0 :=
  Table.sumOver_append_one

theorem accounted_insert {db : Db} (t : Transaction) (h : db.Accounted w off) :
    (db.insertTransaction t).Accounted w (bump off t.accountId (w t)) := by
  intro i a ha
  have hold := h i a ha
  rw [total_insert, bump]
  omega

theorem accounted_update {db : Db} {i : Nat} {f : Account → Account} {delta : Int}
    (hf : ∀ a, db.accounts[i]? = some a → (f a).balance = a.balance + delta)
    (h : db.Accounted w off) : (db.updateAccount i f).Accounted w (bump off i (-delta)) := by
  intro j b hb
  obtain ⟨a, ha, rfl⟩ := Table.getElem?_modify_some hb
  have hold := h j a ha
  show _ = db.total w j
  rw [← hold, bump]
  by_cases hij : i = j
  · subst hij
    rw [if_pos rfl, if_pos rfl, hf a ha]
    omega
  · rw [if_neg hij, if_neg hij]
    omega

theorem accounted_move {db : Db} (i : Nat) (delta : Int) (h : db.Accounted w off) :
    (db.updateAccount i (·.move delta)).Accounted w (bump off i (-delta)) :=
  accounted_update (fun _ _ => rfl) h

theorem accounted_set {db : Db} {i : Nat} {a : Account} (n : Int) (ha : db.accounts[i]? = some a)
    (h : db.Accounted w off) :
    (db.updateAccount i fun a => { a with balance := n }).Accounted w
      (bump off i (-(n - a.balance))) := by
  refine accounted_update (fun b hb => ?_) h
  rw [ha] at hb
  cases hb
  show n = a.balance + (n - a.balance)
  omega

/-- Rewriting a row of an account owes it the difference of the weights. -/
theorem accounted_rewrite {db : Db} {id : Nat} {t : Transaction} (f : Transaction → Transaction)
    (ht : db.transactions[id]? = some t) (hf : (f t).accountId = t.accountId)
    (h : db.Accounted w off) :
    (db.updateTransaction id f).Accounted w (bump off t.accountId (w (f t) - w t)) := by
  intro i a ha
  have hold := h i a ha
  have htotal : (db.updateTransaction id f).total w i = db.total w i -
      (if t.accountId = i then w t else 0) + if (f t).accountId = i then w (f t) else 0 :=
    Table.sumOver_modify ht
  rw [htotal, hf, ← hold, bump]
  split <;> omega

theorem accounted_congr {off' : Nat → Int} {db : Db} (hoff : ∀ i, off' i = off i)
    (h : db.Accounted w off) : db.Accounted w off' := by
  intro i a ha
  rw [hoff i]
  exact h i a ha

theorem bump_cancel (off : Nat → Int) (i : Nat) (n : Int) (j : Nat) :
    bump (bump off i (-n)) i n j = off j := by
  unfold bump
  split <;> omega

theorem accounted_post {db : Db} {i : Nat} {delta : Int} {t : Transaction} (hi : t.accountId = i)
    (hw : w t = delta) (h : db.Accounted w off) :
    ((db.updateAccount i (·.move delta)).insertTransaction t).Accounted w off := by
  subst hi hw
  exact accounted_congr (fun j => (bump_cancel off t.accountId (w t) j).symm)
    (accounted_insert t (accounted_move t.accountId (w t) h))

/-! ## 3. The operations -/

/-- The row of a new posting weighs what the posting does to the balance. -/
theorem postEntry_accounted {p : PostEntryParams}
    (hw : ∀ type before ty actor description, p.journalType.singleAccount = true →
      JOURNAL_TO_TRANSACTION_TYPE p.journalType = some type →
      w (p.transaction type ⟨before, before + p.direction.signed (toDecimalPlaces4 p.amount), ty⟩
        (toDecimalPlaces4 p.amount) actor description) =
        p.direction.signed (toDecimalPlaces4 p.amount)) :
    Preserves (Db.Accounted w off) (postEntry p) := by
  intro db r db' h hdb
  rcases postEntry_cases h with ⟨rfl, _, _⟩ | ⟨⟨hpos, _, hwr⟩, _, _⟩
  · exact hdb
  obtain ⟨a, type, actor, description, d, c, _, _, _, htype, hcodes, rfl⟩ := hwr
  have hs := resolveGlCodes_singleAccount hcodes
  exact accounted_same ⟨rfl, rfl⟩
    (accounted_post rfl (hw type a.balance a.accountType actor description hs htype) hdb)

/-- The marked row and the reversal weigh, together, what the row did and its undoing. -/
theorem reverseTransaction_accounted {id : Nat} {reason : String} {actorId : Option String}
    {r : ReversalResult} {db db' : Db} (h : Yields (reverseTransaction id reason actorId) db r db')
    (hw : ∀ t before ty reason by', db.transactions[id]? = some t → t.status ≠ .reversed →
      w { t with status := .reversed } +
        w (t.reversal id ⟨before, before + t.reverseDirection.signed t.amount, ty⟩ reason by') =
        w t + t.reverseDirection.signed t.amount)
    (hdb : db.Accounted w off) : db'.Accounted w off := by
  obtain ⟨t, i, e, posting, a, reason, by', ht, hst, _, _, _, ha, _, _, rfl⟩ :=
    (reverseTransaction_cases h).written
  have hweights := hw t a.balance a.accountType reason by' ht hst
  have hposted := accounted_rewrite (fun t => { t with status := .reversed })
    (Table.getElem?_append_one_old ht) rfl
    (accounted_insert (t.reversal id
      ⟨a.balance, a.balance + t.reverseDirection.signed t.amount, a.accountType⟩ reason by')
      (accounted_move t.accountId (t.reverseDirection.signed t.amount) hdb))
  refine accounted_congr (fun j => ?_) (accounted_same ⟨rfl, rfl⟩ hposted)
  show off j = bump (bump (bump off t.accountId _) t.accountId _) t.accountId _ j
  unfold bump
  split
  · omega
  · omega

theorem repay_accounted {p : RepayParams}
    (hw : ∀ accountId loanNumber reference actualRepayment before,
      w (p.transaction accountId loanNumber reference actualRepayment before) =
        -(actualRepayment : Int)) :
    Preserves (Db.Accounted w off) (repay p) := by
  refine repay_preserves (fun db i account loan ha hdb => ?_)
    (fun q => same_accounted (postGlOnlyLegEntry_moves q))
    fun hs => accounted_same ⟨hs.accounts, hs.transactions⟩
  refine accounted_congr (fun j => ?_)
    (accounted_set (account.balance - p.actualRepayment loan) ha (accounted_insert
      (p.transaction i loan.loanNumber (p.reference db.tenantId) (p.actualRepayment loan)
        account.balance) hdb))
  rw [hw]
  show off j = bump (bump off i _) i _ j
  unfold bump
  split <;> omega

theorem allocateLeg_accounted {input : ProcessRepaymentInput} {accountId loanId : Nat}
    {balance : Int} {leg : Leg} {amount : Nat} {weight : Int}
    (hw : ∀ uuid, w (input.allocationTransaction accountId loanId leg amount balance uuid) =
      weight * amount) :
    Ensures (Db.Accounted w off) (allocateLeg input accountId loanId balance leg amount)
      fun _ => Db.Accounted w (bump off accountId (weight * amount)) := by
  intro db ids db' h hdb
  unfold allocateLeg at h
  rcases yields_ite.mp h with ⟨_, h⟩ | ⟨h0, h⟩
  · simp only [createAllocationTransaction, yields_bind, yields_uuidv4, yields_createTransaction,
      yields_pure] at h
    obtain ⟨txnId, _, ⟨uuid, _, ⟨_, rfl⟩, _, _, rfl⟩, _, _, hleg, _, rfl⟩ := h
    have hrow : Db.Accounted w (bump off accountId (weight * amount)) (Db.insertTransaction _ _) :=
      hw uuid ▸ accounted_insert
        (input.allocationTransaction accountId loanId leg amount balance uuid) hdb
    exact same_accounted (postGlOnlyLegEntry_moves _) hleg hrow
  · cases (yields_pure.mp h).2
    refine accounted_congr (fun j => ?_) hdb
    have hzero : amount = 0 := by omega
    rw [hzero, bump]
    split <;> omega

theorem applyRepayment_accounted {now : Int} {input : ProcessRepaymentInput} {amount loanId : Nat}
    {loan : Loan} {weight : Leg → Int}
    (hw : ∀ accountId leg amount balance uuid,
      w (input.allocationTransaction accountId loanId leg amount balance uuid) =
        weight leg * (amount : Nat))
    (hsum : weight .penalty * (loan.waterfall amount).1.penalty +
      weight .interest * (loan.waterfall amount).1.interest +
      weight .principal * (loan.waterfall amount).1.principal = 0)
    (hdeposit : ∀ p : PostEntryParams, p.journalType = .deposit → p.direction = .credit →
      Preserves (Db.Accounted w off) (postEntry p)) :
    Preserves (Db.Accounted w off) (applyRepayment now input amount loanId loan) := by
  -- the three legs together owe the account nothing
  have hlegs : ∀ accountId j,
      off j = bump (bump (bump off accountId (weight .penalty * (loan.waterfall amount).1.penalty))
        accountId (weight .interest * (loan.waterfall amount).1.interest))
        accountId (weight .principal * (loan.waterfall amount).1.principal) j := by
    intro accountId j
    unfold bump
    split <;> omega
  refine Preserves.bind' (Preserves.bind' Preserves.get' fun _ => Preserves.required') fun fosa =>
    Preserves.bind' (same_accounted (applyInstallmentAllocation_moves _ _ _)) fun _ =>
    Ensures.bind' (allocateLeg_accounted fun uuid => hw _ _ _ _ uuid) fun _ =>
    Ensures.bind' (allocateLeg_accounted fun uuid => hw _ _ _ _ uuid) fun _ =>
    Ensures.bind' (allocateLeg_accounted fun uuid => hw _ _ _ _ uuid) fun _ => ?_
  intro db summary db' h hdb
  have howed : db.Accounted w off := accounted_congr (hlegs fosa.1) hdb
  refine Preserves.bind' ?_ (fun _ => Preserves.bind'
    (same_accounted (modify_updateLoan_moves fun l => l.pay_terms _ _)) fun _ =>
    Preserves.bind' (same_accounted (settleMpesa_moves _ _ _)) fun _ => Preserves.pure' _) h howed
  exact Preserves.ite' (fun _ => Preserves.bind' (hdeposit _ rfl rfl) fun _ =>
    Preserves.pure' _) fun _ => Preserves.pure' _

end IntegrityLemmas

open IntegrityLemmas

/-! ## 4. Runs -/

/-- How the waterfall splits a repayment from outside that is not a duplicate. -/
def Db.allocationOf (db : Db) (input : ProcessRepaymentInput) : Option Allocation :=
  match db.duplicateRepayment input.reference, input.received, db.targetLoan input with
  | none, some amount, some r => some (r.2.waterfall amount).1
  | _, _, _ => none

/-- The check counts the row in the direction in which a reversal takes it to have moved
the balance. -/
def Transaction.countedAsMoved (t : Transaction) : Bool :=
  t.status == .completed &&
    if t.balanceBefore ≤ t.balanceAfter then CREDIT_TYPES.contains t.type
    else DEBIT_TYPES.contains t.type

/-- The operation is a posting, a reversal, a leg or a repayment whose rows the check counts
as what they do to the balance. A transfer never is. -/
def keepsAccounts (db : Db) : Op → Bool
  | .postEntry p => p.direction == p.journalType.direction
  | .reverse id _ _ =>
    db.transactions[id]?.all fun t => t.status == .reversed || t.countedAsMoved
  | .leg _ => true
  | .repay _ => true
  | .processRepayment _ input =>
    (db.allocationOf input).all fun a => a.interest == a.penalty + a.principal
  | _ => false

/-- An operation of the ledger, or a repayment of any number from the FOSA balance. -/
inductive LedgerOp
  | op (op : Op)
  | repay (request : RepayRequest)

def ledgerStep (db : Db) : LedgerOp → Db
  | .op op => step db op
  | .repay request => commit (repayNumber request) db

/-- The database after the operations `ops`. -/
def Db.ledgered (db : Db) (ops : List LedgerOp) : Db := Machine.run ledgerStep db ops

def keepsLedger (db : Db) : LedgerOp → Bool
  | .op op => keepsAccounts db op
  | .repay request => request.inUnits

/-- Every balance is what the check counts, and is what the rows of the account moved. -/
structure Reconciled (db : Db) : Prop where
  counted : db.Accounted Transaction.contribution fun _ => 0
  moved : db.Accounted Transaction.movement fun _ => 0

namespace IntegrityLemmas

theorem contribution_posting {p : PostEntryParams} (hdir : p.direction = p.journalType.direction)
    {type : TransactionType} (before : Int) (ty : AccountType) (actor description : String)
    (hs : p.journalType.singleAccount = true)
    (htype : JOURNAL_TO_TRANSACTION_TYPE p.journalType = some type) :
    (p.transaction type ⟨before, before + p.direction.signed (toDecimalPlaces4 p.amount), ty⟩
      (toDecimalPlaces4 p.amount) actor description).contribution =
      p.direction.signed (toDecimalPlaces4 p.amount) := by
  rw [hdir]
  cases hj : p.journalType <;> rw [hj] at hs htype <;> cases htype <;> first | rfl | cases hs

theorem movement_posting {p : PostEntryParams} (type : TransactionType) (before : Int)
    (ty : AccountType) (actor description : String) :
    (p.transaction type ⟨before, before + p.direction.signed (toDecimalPlaces4 p.amount), ty⟩
      (toDecimalPlaces4 p.amount) actor description).movement =
      p.direction.signed (toDecimalPlaces4 p.amount) := by
  show before + _ - before = _
  omega

theorem contribution_of_counted {t : Transaction} (h : t.countedAsMoved = true) :
    t.contribution + t.reverseDirection.signed t.amount = 0 := by
  simp only [Transaction.countedAsMoved, Bool.and_eq_true, beq_iff_eq] at h
  obtain ⟨hst, hty⟩ := h
  unfold Transaction.contribution Transaction.reverseDirection
  rw [if_pos hst]
  split at hty
  · next hle =>
    have hmem : t.type ∈ CREDIT_TYPES := List.contains_iff_mem.mp hty
    rw [if_pos hmem, if_pos hle, Direction.signed]
    omega
  · next hle =>
    have hmem : t.type ∈ DEBIT_TYPES := List.contains_iff_mem.mp hty
    have hnot : t.type ∉ CREDIT_TYPES := by
      revert hmem
      cases t.type <;> decide
    rw [if_neg hnot, if_pos hmem, if_neg hle, Direction.signed]
    omega

/-- The sign with which the check counts a leg of a repayment from outside. -/
def legSign : Leg → Int
  | .interest => 1
  | _ => -1

theorem contribution_allocation (input : ProcessRepaymentInput) (accountId loanId : Nat) (leg : Leg)
    (amount : Nat) (balance : Int) (uuid : String) :
    (input.allocationTransaction accountId loanId leg amount balance uuid).contribution =
      legSign leg * (amount : Int) := by
  cases leg
  · exact (Int.neg_one_mul _).symm
  · exact (Int.one_mul _).symm
  · exact (Int.neg_one_mul _).symm

theorem allocationOf_eq {db : Db} {input : ProcessRepaymentInput} {amount loanId : Nat} {loan : Loan}
    (hamount : input.received = some amount) (hdup : db.duplicateRepayment input.reference = none)
    (htarget : db.targetLoan input = some (loanId, loan)) :
    db.allocationOf input = some (loan.waterfall amount).1 := by
  rw [Db.allocationOf, hdup, hamount, htarget]

/-- A weight of rows that agrees with the balances wherever the check does. -/
theorem accounted_step {db : Db} {op : Op} {w : Transaction → Int} (weight : Leg → Int)
    (hpost : ∀ p : PostEntryParams, p.direction = p.journalType.direction →
      Preserves (Db.Accounted w fun _ => 0) (postEntry p))
    (hreverse : ∀ t before ty id reason by', t.countedAsMoved = true → t.status ≠ .reversed →
      w { t with status := .reversed } +
        w (t.reversal id ⟨before, before + t.reverseDirection.signed t.amount, ty⟩ reason by') =
        w t + t.reverseDirection.signed t.amount)
    (hrepay : ∀ (p : RepayParams) accountId loanNumber reference actualRepayment before,
      w (p.transaction accountId loanNumber reference actualRepayment before) =
        -(actualRepayment : Int))
    (hleg : ∀ (input : ProcessRepaymentInput) accountId loanId leg amount balance uuid,
      w (input.allocationTransaction accountId loanId leg amount balance uuid) =
        weight leg * (amount : Nat))
    (hweight : ∀ a : Allocation, a.interest = a.penalty + a.principal →
      weight .penalty * a.penalty + weight .interest * a.interest +
        weight .principal * a.principal = 0)
    (hdb : db.Accounted w fun _ => 0) (h : keepsAccounts db op = true) :
    (step db op).Accounted w fun _ => 0 := by
  rcases step_cases db op with ⟨u, hy⟩ | hsame
  · cases op with
    | postEntry p =>
      exact Preserves.bind' (hpost p (beq_iff_eq.mp h)) (fun _ => Preserves.pure' ()) hy hdb
    | reverse id reason actorId =>
      simp only [Op.exec, yields_bind, yields_pure] at hy
      obtain ⟨r, db', hrev, _, rfl⟩ := hy
      refine reverseTransaction_accounted hrev (fun t before ty reason by' ht hst => ?_) hdb
      -- what is reversed was counted before, so the two rows cancel
      have hcounted : t.countedAsMoved = true := by
        simp only [keepsAccounts, ht, Option.all_some, Bool.or_eq_true, beq_iff_eq, hst,
          false_or] at h
        exact h
      exact hreverse t before ty id reason by' hcounted hst
    | leg p =>
      exact same_accounted (Moves.bind' (postGlOnlyLegEntry_moves p) fun _ => Moves.pure' ()) hy hdb
    | repay p =>
      exact Preserves.bind' (repay_accounted (hrepay p)) (fun _ => Preserves.pure' ()) hy hdb
    | processRepayment now input =>
      simp only [Op.exec, yields_bind, yields_pure] at hy
      obtain ⟨r, db', hproc, _, rfl⟩ := hy
      rcases processRepayment_cases hproc with
        ⟨hsame, _⟩ | ⟨amount, loanId, loan, hamount, hdup, htarget, _, happly⟩
      · rw [hsame]
        exact hdb
      · -- the guard: the interest is the penalty and the principal together, so the weights of the
        -- legs cancel
        have hinterest : (loan.waterfall amount).1.interest =
            (loan.waterfall amount).1.penalty + (loan.waterfall amount).1.principal := by
          simp only [keepsAccounts, allocationOf_eq hamount hdup htarget, Option.all_some,
            beq_iff_eq] at h
          exact h
        refine applyRepayment_accounted (fun accountId leg n balance uuid =>
          hleg input accountId loanId leg n balance uuid) (hweight _ hinterest)
          (fun p hty hdir => hpost p ?_) happly hdb
        rw [hdir, hty]
        rfl
    | _ => cases h
  · rw [hsame]
    exact hdb

theorem expectedBalance_eq (db : Db) (i : Nat) :
    db.expectedBalance i = db.total Transaction.contribution i := by
  unfold Db.expectedBalance Db.sumAmounts Db.total
  induction db.transactions with
  | nil => rfl
  | cons t l ih =>
    rw [Table.sumOver_cons, Table.sumOver_cons, Table.sumOver_cons, ← ih]
    have hrow : (if t.accountId = i then t.contribution else 0) =
        (if t.accountId = i ∧ t.status = .completed ∧ t.type ∈ CREDIT_TYPES then t.amount else 0) -
          (if t.accountId = i ∧ t.status = .completed ∧ t.type ∈ DEBIT_TYPES then t.amount else 0) := by
      unfold Transaction.contribution
      by_cases hi : t.accountId = i
      · by_cases hst : t.status = .completed
        · cases t.type <;> simp [hi, hst, CREDIT_TYPES, DEBIT_TYPES]
        · simp only [hi, hst, false_and, and_false, if_false, if_true, Int.sub_zero]
      · simp only [hi, false_and, if_false, Int.sub_zero]
    rw [hrow]
    omega

end IntegrityLemmas

theorem reconciled_step {db : Db} {op : Op} (hdb : Reconciled db) (h : keepsAccounts db op = true) :
    Reconciled (step db op) := by
  constructor
  · refine accounted_step legSign (fun p hdir => postEntry_accounted
      fun type before ty actor description hs htype =>
        contribution_posting hdir before ty actor description hs htype)
      (fun t before ty id reason by' hcounted _ => ?_) (fun _ _ _ _ _ _ => rfl)
      contribution_allocation (fun a ha => ?_) hdb.counted h
    · rw [contribution_of_counted hcounted]
      rfl
    · simp only [legSign]
      omega
  · refine accounted_step (fun _ => 0) (fun p _ => postEntry_accounted
      fun type before ty actor description _ _ => movement_posting type before ty actor description)
      (fun t before ty id reason by' _ _ => ?_) (fun p accountId loanNumber reference n before => ?_)
      (fun input accountId loanId leg n balance uuid => ?_) (fun a _ => ?_) hdb.moved h
    · show t.balanceAfter - t.balanceBefore + (before + _ - before) = t.balanceAfter - t.balanceBefore + _
      omega
    · show before - (n : Int) - before = _
      omega
    · show balance - balance = _
      omega
    · omega

theorem reconciled_ledger {db : Db} {op : LedgerOp} (hdb : Reconciled db)
    (h : keepsLedger db op = true) : Reconciled (ledgerStep db op) := by
  cases op with
  | op op => exact reconciled_step hdb h
  | repay request =>
    -- a number in units is repaid as such
    have hunits : ledgerStep db (.repay request) = step db (.repay request.units) := by
      rw [ledgerStep, repayNumber_units h, commit_bind_pure, step, Op.exec, commit_bind_pure]
    rw [hunits]
    exact reconciled_step hdb rfl

/-- The check reports the account `id`. -/
def Db.reports (db : Db) (id : Nat) : Prop := ∃ d ∈ db.runLedgerIntegrityCheck.drifts, d.accountId = id

/-- The record of an account that drifts. -/
def Db.drift (db : Db) (id : Nat) (a : Account) : LedgerDrift where
  accountId := id
  accountNumber := a.accountNumber
  expected := db.expectedBalance id
  actual := a.balance
  drift := (a.balance - db.expectedBalance id).natAbs

theorem driftOf_eq_some {db : Db} {id : Nat} {a : Account} {d : LedgerDrift} :
    db.driftOf id a = some d ↔
      1 < (a.balance - db.expectedBalance id).natAbs ∧ db.drift id a = d := by
  unfold Db.driftOf
  dsimp only
  split
  · next hlt => exact ⟨fun h => ⟨hlt, Option.some.inj h⟩, fun h => congrArg some h.2⟩
  · next hlt =>
    constructor
    · intro h
      cases h
    · intro h
      exact absurd h.1 hlt

theorem reports_iff {db : Db} {id : Nat} {a : Account} (ha : db.accounts[id]? = some a)
    (hactive : a.isActive = true) :
    db.reports id ↔ 1 < (a.balance - db.expectedBalance id).natAbs := by
  constructor
  · rintro ⟨d, hd, rfl⟩
    obtain ⟨⟨i, b⟩, hb, hdrift⟩ := List.mem_filterMap.mp hd
    obtain ⟨hlt, rfl⟩ := driftOf_eq_some.mp hdrift
    obtain ⟨hrow, _⟩ := Table.mem_selectRows.mp hb
    have hab : some b = some a := hrow.symm.trans ha
    cases hab
    exact hlt
  · intro hlt
    exact ⟨db.drift id a, List.mem_filterMap.mpr
      ⟨(id, a), Table.mem_selectRows.mpr ⟨ha, hactive⟩, driftOf_eq_some.mpr ⟨hlt, rfl⟩⟩, rfl⟩

/-- After every run of such operations from empty books the check reports no account; and
whatever the balances become, it then reports just the active accounts whose balance is
more than one unit away from what their rows moved. -/
theorem integrity_check_exact {db : Db} (hzero : ∀ a ∈ db.accounts, a.balance = 0)
    (hempty : db.transactions = []) {ops : List LedgerOp}
    (h : Machine.Guarded ledgerStep (fun db op => keepsLedger db op = true) db ops) :
    (db.ledgered ops).runLedgerIntegrityCheck.drifts = [] ∧
      ∀ (db' : Db) (id : Nat) (a : Account), db'.transactions = (db.ledgered ops).transactions →
        id < (db.ledgered ops).accounts.length → db'.accounts[id]? = some a → a.isActive = true →
        (db'.reports id ↔ 1 < (a.balance - db'.total Transaction.movement id).natAbs) := by
  have hinit : ∀ w, db.Accounted w fun _ => 0 := by
    intro w i a ha
    rw [hzero a (List.mem_of_getElem? ha), Db.total, hempty]
    rfl
  have hrec : Reconciled (db.ledgered ops) :=
    Machine.run_induct (fun _ _ => reconciled_ledger) ⟨hinit _, hinit _⟩ h
  constructor
  · refine List.eq_nil_iff_forall_not_mem.mpr fun d hd => ?_
    obtain ⟨⟨i, a⟩, ha, hdrift⟩ := List.mem_filterMap.mp hd
    obtain ⟨hrow, _⟩ := Table.mem_selectRows.mp ha
    have hlt : 1 < (a.balance - (db.ledgered ops).expectedBalance i).natAbs :=
      (driftOf_eq_some.mp hdrift).1
    have hbal : a.balance + 0 = _ := hrec.counted i a hrow
    rw [expectedBalance_eq, ← hbal] at hlt
    omega
  · intro db' id a htx hid ha hactive
    have hb := List.getElem?_eq_getElem hid
    have hcounted := hrec.counted id _ hb
    have hmoved := hrec.moved id _ hb
    have htotal : ∀ w, db'.total w id = (db.ledgered ops).total w id := by
      intro w
      rw [Db.total, htx, Db.total]
    rw [reports_iff ha hactive, expectedBalance_eq, htotal, htotal, ← hcounted, ← hmoved]

/-- Two deposits, a repayment from the balance and the reversal of the second deposit. -/
def exDeposits : List LedgerOp :=
  [.op (exDeposit "D1" 0 100),
    .repay
      { loanId := 0, amountKes := 50, amountText := "50", processedBy := "A",
        idempotencyKey := some "k", minute := "m", now := 0 },
    .op (exDeposit "D2" 0 20), .op (.reverse 2 "posted twice" none)]

theorem integrity_check_exact_deposits :
    (exSacco.ledgered exDeposits).runLedgerIntegrityCheck.drifts = [] ∧
      ∀ (db' : Db) (id : Nat) (a : Account),
        db'.transactions = (exSacco.ledgered exDeposits).transactions →
        id < (exSacco.ledgered exDeposits).accounts.length → db'.accounts[id]? = some a →
        a.isActive = true →
        (db'.reports id ↔ 1 < (a.balance - db'.total Transaction.movement id).natAbs) :=
  integrity_check_exact (by decide) rfl (by decide +kernel)

/-- KES 30.00005 is paid twice from KES 500. -/
def exHalves : List LedgerOp :=
  [.op (exDeposit "D1" 0 500)] ++ ["k", "l"].map fun key =>
    .repay
      { loanId := 0, amountKes := 3000005 / 100000, amountText := "30.00005", processedBy := "A",
        idempotencyKey := some key, minute := "m", now := 0 }

/-- A transfer moves two balances, and the check counts neither of its rows. Half a unit leaves the
balance and is a whole one in the row. -/
theorem transfer_raises_alarm :
    (∀ a ∈ exSacco.accounts, a.balance = 0) ∧ exSacco.transactions = [] ∧
      (exSacco.ledgered (exTransfer.map .op)).runLedgerIntegrityCheck.drifts =
        [{ accountId := 0, accountNumber := "F-0", expected := 1000000, actual := 600000
           drift := 400000 },
          { accountId := 1, accountNumber := "B-0", expected := 0, actual := 400000
            drift := 400000 }] ∧
      (exSacco.ledgered exHalves).runLedgerIntegrityCheck.drifts =
        [{ accountId := 0, accountNumber := "F-0", expected := 4399998, actual := 4400000
           drift := 2 }] :=
  ⟨by decide, rfl, by decide +kernel, by decide +kernel⟩

end BebaSacco
