import BebaSacco.Installments
import BebaSacco.IntegrityCheck
import BebaSacco.RunningBalance
import BebaSacco.Lib.Grouped
import BebaSacco.Lib.Timeline

/-! # The ledger report

`getLedger` cuts the rows into pages before it groups them by account and day, and takes the side of a
row from its type.

Results:
 1. `sided_step`: the operations whose rows move their balance by their amount to the side of their
    type.
 2. `signed_day`: successive rows of a day go from its first balance to its last one.
 3. `ledger_balances_iff`: after a run of such operations every group of every page balances, and
    every account and day has one group when no page ends within it.
 4. `ledger_unbalanced`: the principal leg of a repayment moves no balance and counts as money out.
-/

namespace BebaSacco

open Timeline Txn HistoryLemmas FootprintLemmas BalanceLemmas ProvenanceLemmas

/-! ## 1. The report -/

structure LedgerQuery where
  accountId : Option Nat
  startDate : Option Int
  endDate : Option Int
  page : Option Nat
  limit : Option Nat
  deriving DecidableEq, Repr

/-- A transaction with its id and the instant it was created at. -/
structure LedgerRow extends Transaction where
  id : Nat
  createdAt : Int
  deriving DecidableEq, Repr

def LedgerRow.day (t : LedgerRow) : Int := t.createdAt / msPerDay

/-- What the rows are grouped by. -/
@[ext] structure AccountDay where
  accountId : Nat
  day : Int
  deriving DecidableEq, Repr

def LedgerRow.key (t : LedgerRow) : AccountDay := ⟨t.accountId, t.day⟩

/-- The group of an account and a day. The rows are listed when the query is for one account. -/
structure LedgerGroup where
  date : Int
  accountId : Nat
  accountNumber : Option String
  accountType : Option AccountType
  openingBalance : Int
  closingBalance : Int
  totalIn : Int
  totalOut : Int
  transactionCount : Nat
  transactions : Option (List LedgerRow)
  deriving DecidableEq, Repr

structure LedgerPage where
  data : List LedgerGroup
  page : Nat
  limit : Nat
  total : Nat
  totalPages : Nat
  deriving DecidableEq, Repr

/-- `CREDIT_TYPES` -/
def creditTypes : List TransactionType :=
  [.deposit, .loanDisbursement, .interestEarned, .dividendPayout, .interestAccrual]

def LedgerRow.isCredit (t : LedgerRow) : Bool := creditTypes.contains t.type

/-- `buildDateFilter`: days count from their midnight in UTC to the last millisecond. -/
def LedgerQuery.inRange (query : LedgerQuery) (createdAt : Int) : Bool :=
  query.startDate.all (fun day => day * msPerDay ≤ createdAt) &&
    query.endDate.all (fun day => createdAt ≤ day * msPerDay + (msPerDay - 1))

def LedgerQuery.selects (query : LedgerQuery) (t : LedgerRow) : Bool :=
  t.status == .completed && query.accountId.all (· == t.accountId) && query.inRange t.createdAt

/-- `orderBy: [{ accountId: 'asc' }, { createdAt: 'asc' }]` -/
def LedgerRow.before (a b : LedgerRow) : Prop :=
  a.accountId < b.accountId ∨ (a.accountId = b.accountId ∧ a.createdAt ≤ b.createdAt)

instance : DecidableRel LedgerRow.before := fun _ _ => inferInstanceAs (Decidable (_ ∨ _))

/-- All rows of a query, in order. `createdAt` has the instant of each transaction. -/
def Db.ledgerRows (db : Db) (createdAt : Nat → Int) (query : LedgerQuery) : List LedgerRow :=
  ((db.transactions.zipIdx.map fun row => LedgerRow.mk row.1 row.2 (createdAt row.2)).filter
    query.selects).insertionSort LedgerRow.before

def ledgerGroup (db : Db) (detailed : Bool) (g : AccountDay × List LedgerRow) : LedgerGroup where
  date := g.1.day
  accountId := g.1.accountId
  accountNumber := db.accounts[g.1.accountId]?.map (·.accountNumber)
  accountType := db.accounts[g.1.accountId]?.map (·.accountType)
  openingBalance := (g.2.head?.map (·.balanceBefore)).getD 0
  closingBalance := (g.2.getLast?.map (·.balanceAfter)).getD 0
  totalIn := Table.sumOver (·.amount) (g.2.filter (·.isCredit))
  totalOut := Table.sumOver (·.amount) (g.2.filter fun t => !t.isCredit)
  transactionCount := g.2.length
  transactions := if detailed then some g.2 else none

/-- The groups of the rows on a page, the last days first. -/
def ledgerGroups (db : Db) (detailed : Bool) (rows : List LedgerRow) : List LedgerGroup :=
  ((Grouped.groupRows LedgerRow.key rows).map (ledgerGroup db detailed)).insertionSort
    fun a b => b.date ≤ a.date

def getLedger (db : Db) (createdAt : Nat → Int) (query : LedgerQuery) : LedgerPage :=
  let page := max 1 (query.page.getD 1)
  let limit := min 100 (max 1 (query.limit.getD 20))
  let rows := db.ledgerRows createdAt query
  { data := ledgerGroups db query.accountId.isSome (Timeline.page limit rows (page - 1))
    page := page
    limit := limit
    total := rows.length
    totalPages := (rows.length + limit - 1) / limit }

/-! ## 2. What the report should say -/

/-- The page `p` of the report, the first page being 1. -/
def ledgerPage (db : Db) (createdAt : Nat → Int) (query : LedgerQuery) (limit p : Nat) : LedgerPage :=
  getLedger db createdAt { query with page := some p, limit := some limit }

/-- The groups on all pages, as many as the report says there are. -/
def allGroups (db : Db) (createdAt : Nat → Int) (query : LedgerQuery) (limit : Nat) :
    List LedgerGroup :=
  (List.range (ledgerPage db createdAt query limit 1).totalPages).flatMap fun p =>
    (ledgerPage db createdAt query limit (p + 1)).data

/-- The rows of an account and a day. -/
def rowsOf (rows : List LedgerRow) (k : AccountDay) : List LedgerRow :=
  rows.filter fun t => t.key == k

structure LedgerBalances (db : Db) (createdAt : Nat → Int) (query : LedgerQuery) (limit : Nat) :
    Prop where
  balanced : ∀ g ∈ allGroups db createdAt query limit,
    g.openingBalance + g.totalIn - g.totalOut = g.closingBalance
  covered : ∀ k, rowsOf (db.ledgerRows createdAt query) k ≠ [] →
    ∃ g, (allGroups db createdAt query limit).filter
        (fun g => g.accountId == k.accountId && g.date == k.day) = [g] ∧
      g.transactionCount = (rowsOf (db.ledgerRows createdAt query) k).length

/-- The instants of an account's rows follow the order in which they were committed. -/
def InOrder (db : Db) (createdAt : Nat → Int) : Prop :=
  ∀ (i j : Nat) (t t' : Transaction), db.transactions[i]? = some t → db.transactions[j]? = some t' →
    t.accountId = t'.accountId → i < j → createdAt i < createdAt j

/-- The rows of an account and a day are on one page. -/
def Uncut (rows : List LedgerRow) (limit : Nat) : Prop :=
  ∀ (i j : Nat) (t t' : LedgerRow), rows[i]? = some t → rows[j]? = some t' → t.key = t'.key →
    i / limit = j / limit

/-- A posting in the direction of its type; no transfer, no reversal, no legs of a repayment from
outside, and an accrual without interest and without penalties of instalments. -/
def keepsSides (db : Db) : Op → Bool
  | .postEntry p => p.direction == p.journalType.direction
  | .transfer _ | .reverse .. => false
  | .processRepayment _ input => (db.allocationOf input).isNone
  | .accrue seen loanId accrualDate =>
    seen.loans[loanId]?.all (fun loan =>
      seen.computeScheduleBasedDailyInterest loanId loan accrualDate == 0) &&
    (db.penaltyEligible loanId accrualDate).all (·.2.dailyPenalty == 0)
  | _ => true

namespace LedgerLemmas

variable {db : Db} {createdAt : Nat → Int} {query : LedgerQuery} {limit : Nat} {rows : List LedgerRow}

/-! ### The rows that are written -/

/-- What a row of its type should move the balance by. -/
def side (type : TransactionType) (amount : Int) : Int :=
  if creditTypes.contains type then amount else -amount

/-- The row is completed, and moved its balance by its amount to the side of its type. -/
structure Sided (db : Db) (t : Transaction) : Prop where
  status : t.status = .completed
  moved : t.balanceAfter = t.balanceBefore + side t.type t.amount
  account : t.accountId < db.accounts.length

def AllSided (db : Db) : Prop := ∀ t ∈ db.transactions, Sided db t

variable {db' : Db}

theorem sided_kept (h : AllSided db) (hacc : db'.accounts.length = db.accounts.length)
    (hrows : db'.transactions = db.transactions) : AllSided db' := by
  intro t ht
  rw [hrows] at ht
  exact ⟨(h t ht).status, (h t ht).moved, hacc ▸ (h t ht).account⟩

theorem sided_sameBooks (hbooks : db.SameBooks db') (hs : AllSided db) : AllSided db' := by
  have hlength := congrArg List.length hbooks.accounts
  rw [List.length_map, List.length_map] at hlength
  exact sided_kept hs hlength hbooks.transactions

theorem preserves_sided {α : Type} {x : Tx α} (hx : Moves Db.SameBooks x) : Preserves AllSided x :=
  fun _ _ _ h hs => sided_sameBooks (hx h) hs

theorem sided_posted {t : Transaction} {a : Account} {f : Account → Account} (h : AllSided db)
    (ha : db.accounts[t.accountId]? = some a) (hstatus : t.status = .completed)
    (hmoved : t.balanceAfter = t.balanceBefore + side t.type t.amount) :
    AllSided ((db.updateAccount t.accountId f).insertTransaction t) := by
  have hlength : (db.accounts.modify t.accountId f).length = db.accounts.length := List.length_modify ..
  intro r hr
  rcases List.mem_append.mp hr with hr | hr
  · exact ⟨(h r hr).status, (h r hr).moved, hlength.symm ▸ (h r hr).account⟩
  · rw [List.mem_singleton.mp hr]
    exact ⟨hstatus, hmoved, hlength.symm ▸ Table.lt_length_of_getElem? ha⟩

theorem leg_sided (p : LegParams) : Preserves AllSided (postGlOnlyLegEntry p) := by
  intro db r db' h hs
  obtain ⟨_, ⟨rfl, _⟩ | ⟨_, _, rfl⟩⟩ := postGlOnlyLegEntry_cases h
  · exact hs
  · exact sided_kept hs rfl rfl

theorem side_posting {p : PostEntryParams} {type : TransactionType} (amount : Int)
    (hdir : p.direction = p.journalType.direction) (hs : p.journalType.singleAccount = true)
    (htype : JOURNAL_TO_TRANSACTION_TYPE p.journalType = some type) :
    side type amount = p.direction.signed amount := by
  rw [hdir]
  cases hj : p.journalType <;> rw [hj] at hs htype <;> cases htype <;> first | rfl | cases hs

theorem postEntry_sided {p : PostEntryParams} (hdir : p.direction = p.journalType.direction) :
    Preserves AllSided (postEntry p) := by
  intro db r db' h hs
  rcases postEntry_cases h with ⟨rfl, _, _⟩ | ⟨⟨_, _, hw⟩, _, _⟩
  · exact hs
  obtain ⟨a, type, actor, description, d, c, ha, _, _, htype, hcodes, rfl⟩ := hw
  have hside := side_posting (toDecimalPlaces4 p.amount) hdir (resolveGlCodes_singleAccount hcodes)
    htype
  have hposted := sided_posted (t := p.transaction type
    ⟨a.balance, a.balance + p.direction.signed (toDecimalPlaces4 p.amount), a.accountType⟩
    (toDecimalPlaces4 p.amount) actor description)
    (f := (·.move (p.direction.signed (toDecimalPlaces4 p.amount)))) hs ha rfl
    (congrArg (a.balance + ·) hside.symm)
  exact sided_kept hposted rfl rfl

theorem repay_sided (p : RepayParams) : Preserves AllSided (repay p) := by
  refine repay_preserves (fun db i account loan ha hs => ?_) leg_sided sided_sameBooks
  exact sided_posted (t := p.transaction i loan.loanNumber (p.reference db.tenantId)
    (p.actualRepayment loan) account.balance)
    (f := fun a => { a with balance := account.balance - p.actualRepayment loan }) hs ha rfl
    Int.sub_eq_add_neg

/-- A repayment that finds nothing to allocate writes nothing. -/
theorem processRepayment_sided {now : Int} {input : ProcessRepaymentInput}
    {r : RepaymentAllocationSummary}
    (hnone : (db.allocationOf input).isNone = true)
    (h : Yields (processRepayment now input) db r db') (hs : AllSided db) : AllSided db' := by
  rcases processRepayment_cases h with ⟨rfl, _⟩ | ⟨amount, loanId, loan, hamount, hdup, htarget, _⟩
  · exact hs
  · rw [IntegrityLemmas.allocationOf_eq hamount hdup htarget] at hnone
    cases hnone

theorem penalty_sided (i loanId amount : Nat) (reference description : String) :
    Preserves AllSided (chargeAccount i loanId .penalty amount reference description) := by
  intro db u db' h hs
  rcases chargeAccount_cases h with ⟨rfl, -⟩ | ⟨-, -, a, p, id, r, mid, ha, ht, hleg⟩
  · exact hs
  obtain ⟨_, _, rfl⟩ := yields_createTransaction.mp ht
  exact leg_sided _ hleg (sided_posted (t := chargeTransaction i loanId .penalty amount a.balance
    (a.balance - amount) reference description) hs ha rfl Int.sub_eq_add_neg)

theorem unpenalized {loanId i : Nat} {accrualDate : Int} {rows : List (Nat × LoanRepayment)} {u : Unit}
    (hrows : rows.all (·.2.dailyPenalty == 0) = true)
    (h : Yields (rows.forM (penalizeInstallment loanId i accrualDate)) db u db') : db' = db := by
  induction rows with
  | nil => exact (yields_pure.mp h).2.symm
  | cons row rows ih =>
    rw [List.all_cons, Bool.and_eq_true, beq_iff_eq] at hrows
    obtain ⟨_, mid, hrow, hrest⟩ := yields_bind.mp h
    unfold penalizeInstallment at hrow
    rw [hrows.1] at hrow
    obtain ⟨_, hsame⟩ := yields_pure.mp (hrow : Yields (pure ()) _ _ _)
    rw [← hsame] at hrest
    exact ih hrows.2 hrest

theorem accrue_sided {seen : Db} {loanId : Nat} {accrualDate : Int} {u : Unit}
    (hinterest : seen.loans[loanId]?.all (fun loan =>
      seen.computeScheduleBasedDailyInterest loanId loan accrualDate == 0) = true)
    (hpenalty : (db.penaltyEligible loanId accrualDate).all (·.2.dailyPenalty == 0) = true)
    (h : Yields (accrueInterestForLoan seen loanId accrualDate) db u db') (hs : AllSided db) :
    AllSided db' := by
  unfold accrueInterestForLoan at h
  split at h
  · exact (yields_pure.mp h).2 ▸ hs
  next loan hloan =>
  rcases yields_ite.mp h with ⟨_, h⟩ | ⟨_, h⟩
  · exact (yields_pure.mp h).2 ▸ hs
  split at h
  · exact (yields_pure.mp h).2 ▸ hs
  rw [(Option.filter_eq_some_iff.mp hloan).1, Option.all_some, beq_iff_eq] at hinterest
  simp only [accrueBody, hinterest, yields_bind, yields_get] at h
  obtain ⟨_, _, ⟨rfl, rfl⟩, _, _, hnone, _, charged, hcharge, arrears, mid, hover, hlast⟩ := h
  obtain ⟨-, rfl⟩ := yields_pure.mp (hnone : Yields (pure ()) _ _ _)
  have hdebts : db.SameDebts charged := chargeAccount_moves _ _ _ _ _ _ hcharge
  have hcharged := penalty_sided _ _ _ _ _ hcharge hs
  simp only [applyOverdueInstallmentsAndArrears, yields_bind, yields_get, yields_pure] at hover
  obtain ⟨_, _, ⟨rfl, rfl⟩, _, looped, hloop, _, _, ⟨rfl, rfl⟩, _, rfl⟩ := hover
  have hsame : charged.penaltyEligible loanId accrualDate = db.penaltyEligible loanId accrualDate := by
    unfold Db.penaltyEligible
    rw [hdebts.loanRepayments]
  rw [hsame] at hloop
  cases unpenalized hpenalty hloop
  exact preserves_sided (modify_updateLoan_moves (f := (·.accrue arrears 0 accrualDate)) fun _ => rfl)
    hlast hcharged

/-- Savings taken from a guarantor go out of the account. -/
theorem keepsForfeits_sided : KeepsForfeits AllSided := by
  rintro db db' guarantorId i loanId a amount releasedAt type reference hs ha _ _ htype
    ⟨description, by', _, _, _, _, _, htxn, hleg⟩
  have hside : side type amount = -amount := by
    rcases htype with rfl | rfl <;> rfl
  obtain ⟨_, _, rfl⟩ := yields_createTransaction.mp htxn
  have hposted := sided_posted (t := forfeitureTransaction i loanId type amount a.balance
    reference description by') (f := (·.forfeit amount)) hs ha rfl
    ((Int.sub_eq_add_neg).trans (congrArg (a.balance + ·) hside.symm))
  exact leg_sided _ hleg (sided_kept hposted rfl rfl)

theorem uuid_sided : Preserves AllSided uuidv4 := by
  intro db r db' h hs
  obtain ⟨_, rfl⟩ := yields_uuidv4.mp h
  exact sided_kept hs rfl rfl

theorem sided_step {op : Op} (hs : AllSided db) (h : keepsSides db op = true) :
    AllSided (step db op) := by
  have hloan {id : Nat} (f : Loan → Loan) (hf : ∀ l : Loan, (f l).terms = l.terms) :
      Preserves AllSided (modify (·.updateLoan id f)) :=
    preserves_sided (modify_updateLoan_moves hf)
  rcases step_cases db op with ⟨u, hy⟩ | hsame
  · cases op with
    | postEntry p =>
      exact Preserves.bind' (postEntry_sided (beq_iff_eq.mp h)) (fun _ => Preserves.pure' ()) hy hs
    | transfer p => cases h
    | reverse id reason actorId => cases h
    | leg p => exact Preserves.bind' (leg_sided p) (fun _ => Preserves.pure' ()) hy hs
    | repay p => exact Preserves.bind' (repay_sided p) (fun _ => Preserves.pure' ()) hy hs
    | processRepayment now input =>
      simp only [Op.exec, yields_bind, yields_pure] at hy
      obtain ⟨r, db', hproc, _, rfl⟩ := hy
      exact processRepayment_sided h hproc hs
    | accrue seen loanId accrualDate =>
      obtain ⟨hinterest, hpenalty⟩ := Bool.and_eq_true_iff.mp h
      exact accrue_sided hinterest hpenalty hy hs
    | disburse seen params =>
      exact disburse_of (R := Carries AllSided) (fun _ hdir => postEntry_sided hdir) hloan
        (preserves_sided (Moves.modify' fun _ => AdmitsRepayment.append _ _)) hy hs
    | recover now loanId amount actorId =>
      exact Preserves.bind' (recoverFromGuarantors_keeps keepsForfeits_sided uuid_sided hloan _ _ _)
        (fun _ => Preserves.pure' ()) hy hs
    | offset now loanId jobId =>
      exact Preserves.bind' (offsetLoan_keeps keepsForfeits_sided uuid_sided hloan _ _)
        (fun _ => Preserves.pure' ()) hy hs
    | _ => exact preserves_sided (exec_sameBooks rfl) hy hs
  · rw [hsame]
    exact hs

/-! ### The rows of a day -/

/-- The second row finds the balance that the first one left. -/
def Linked (t t' : LedgerRow) : Prop := t'.balanceBefore = t.balanceAfter

/-- The transactions with their ids and instants. -/
def stamped (db : Db) (createdAt : Nat → Int) : List LedgerRow :=
  db.transactions.zipIdx.map fun row => LedgerRow.mk row.1 row.2 (createdAt row.2)

theorem stamped_transactions (db : Db) (createdAt : Nat → Int) :
    (stamped db createdAt).map LedgerRow.toTransaction = db.transactions := by
  unfold stamped
  rw [List.map_map]
  exact List.zipIdx_map_fst 0 _

theorem stamped_sided (hs : AllSided db) {t : LedgerRow} (ht : t ∈ stamped db createdAt) :
    Sided db t.toTransaction := by
  refine hs _ ?_
  rw [← stamped_transactions db createdAt]
  exact List.mem_map_of_mem ht

theorem stamped_inOrder (h : InOrder db createdAt) :
    (stamped db createdAt).Pairwise fun t t' => t.accountId = t'.accountId →
      t.createdAt < t'.createdAt := by
  unfold stamped
  rw [List.pairwise_map, List.pairwise_iff_getElem]
  intro i j hi hj hij hacc
  rw [List.length_zipIdx] at hi hj
  simp only [List.getElem_zipIdx, Nat.zero_add] at hacc ⊢
  exact h i j _ _ (List.getElem?_eq_getElem hi) (List.getElem?_eq_getElem hj) hacc hij

theorem unbroken_isChain {opening balance : Int} {ts : List Transaction}
    (h : Unbroken opening ts balance) :
    ts.IsChain fun t t' => t'.balanceBefore = t.balanceAfter := by
  induction ts generalizing opening with
  | nil => exact List.isChain_nil
  | cons t ts ih =>
    refine List.isChain_cons.mpr ⟨fun t' ht' => ?_, ih h.2⟩
    cases ts with
    | nil => cases ht'
    | cons t'' ts =>
      cases ht'
      exact h.2.1

theorem account_isChain (id : Nat) {opening : Int} (h : RunningBalance opening id db) :
    ((stamped db createdAt).filter fun t => t.accountId == id).IsChain Linked := by
  obtain ⟨a, _, hrows⟩ := h.chain
  have hmap : ((stamped db createdAt).filter fun t => t.accountId == id).map LedgerRow.toTransaction =
      db.rowsOf id := by
    unfold Db.rowsOf
    rw [← stamped_transactions db createdAt, List.filter_map]
    rfl
  rw [← hmap] at hrows
  exact (List.isChain_map LedgerRow.toTransaction).mp (unbroken_isChain hrows)

/-- The rows of one day stand next to each other where the days do not go back. -/
theorem day_isChain {R : LedgerRow → LedgerRow → Prop} (d : Int) (hchain : rows.IsChain R)
    (hdays : rows.Pairwise fun t t' => t.day ≤ t'.day) :
    (rows.filter fun t => t.day == d).IsChain R := by
  induction rows with
  | nil => exact List.isChain_nil
  | cons t rows ih =>
    obtain ⟨hhead, htail⟩ := List.isChain_cons.mp hchain
    obtain ⟨hlater, hrest⟩ := List.pairwise_cons.mp hdays
    rw [List.filter_cons]
    split
    · next hday =>
      refine List.isChain_cons.mpr ⟨fun t' ht' => ?_, ih htail hrest⟩
      cases rows with
      | nil => cases ht'
      | cons t'' rows =>
        rw [List.filter_cons] at ht'
        split at ht'
        · cases ht'
          exact hhead _ rfl
        · next hother =>
          -- the next row is of a later day, and so are all after it
          obtain ⟨hmem, hkey⟩ := List.mem_filter.mp (List.mem_of_mem_head? ht')
          have h₁ := hlater _ List.mem_cons_self
          have h₂ := (List.pairwise_cons.mp hrest).1 _ hmem
          rw [beq_iff_eq] at hday hkey
          refine absurd (beq_iff_eq.mpr ?_) hother
          omega
    · exact ih htail hrest

/-- A query takes a day as a whole. -/
theorem selects_key {t t' : LedgerRow} (hstatus : t.status = .completed)
    (hstatus' : t'.status = .completed) (hkey : t.key = t'.key) :
    query.selects t = query.selects t' := by
  have hacc : t.accountId = t'.accountId := congrArg AccountDay.accountId hkey
  have hday : t.day = t'.day := congrArg AccountDay.day hkey
  have hfrom : ∀ d : Int, d * msPerDay ≤ t.createdAt ↔ d * msPerDay ≤ t'.createdAt := by
    intro d
    rw [← Int.le_ediv_iff_mul_le (by decide), ← Int.le_ediv_iff_mul_le (by decide)]
    exact Eq.to_iff (congrArg (d ≤ ·) hday)
  have huntil : ∀ d : Int, t.createdAt ≤ d * msPerDay + (msPerDay - 1) ↔
      t'.createdAt ≤ d * msPerDay + (msPerDay - 1) := by
    intro d
    have h := not_congr (hfrom (d + 1))
    rw [Int.add_mul, Int.one_mul] at h
    omega
  unfold LedgerQuery.selects LedgerQuery.inRange
  rw [hstatus, hstatus', hacc]
  simp only [hfrom, huntil]

instance : IsTrans LedgerRow LedgerRow.before where
  trans := by
    unfold LedgerRow.before
    omega

instance : Std.Total LedgerRow.before where
  total := by
    unfold LedgerRow.before
    omega

/-- The rows of an account and a day are those of the day in the order of their ids, or none. -/
theorem rowsOf_ledger (hs : AllSided db) (ho : InOrder db createdAt) (k : AccountDay) :
    rowsOf (db.ledgerRows createdAt query) k = rowsOf (stamped db createdAt) k ∨
      rowsOf (db.ledgerRows createdAt query) k = [] := by
  have hsorted : ((rowsOf (stamped db createdAt) k).filter query.selects).Pairwise
      LedgerRow.before := by
    refine List.Pairwise.filter _ (List.Pairwise.imp_of_mem ?_
      ((stamped_inOrder ho).filter fun t => t.key == k))
    intro t t' ht ht' hlt
    have hkey : t.key = t'.key := (beq_iff_eq.mp (List.mem_filter.mp ht).2).trans
      (beq_iff_eq.mp (List.mem_filter.mp ht').2).symm
    have hacc : t.accountId = t'.accountId := congrArg AccountDay.accountId hkey
    exact Or.inr ⟨hacc, Int.le_of_lt (hlt hacc)⟩
  have hrows : rowsOf (db.ledgerRows createdAt query) k =
      (rowsOf (stamped db createdAt) k).filter query.selects := by
    unfold rowsOf Db.ledgerRows
    rw [Sharing.filter_insertionSort, List.filter_comm]
    exact hsorted.insertionSort_eq
  rw [hrows]
  cases hk : rowsOf (stamped db createdAt) k with
  | nil => exact Or.inr rfl
  | cons t ts =>
    have hsame : ∀ t' ∈ t :: ts, query.selects t' = query.selects t := by
      intro t' ht'
      rw [← hk] at ht'
      have ht : t ∈ rowsOf (stamped db createdAt) k := hk ▸ List.mem_cons_self
      refine selects_key (stamped_sided hs (List.mem_filter.mp ht').1).status
        (stamped_sided hs (List.mem_filter.mp ht).1).status ?_
      exact (beq_iff_eq.mp (List.mem_filter.mp ht').2).trans
        (beq_iff_eq.mp (List.mem_filter.mp ht).2).symm
    by_cases hsel : query.selects t = true
    · exact Or.inl (List.filter_eq_self.mpr fun t' ht' => (hsame t' ht').trans hsel)
    · refine Or.inr (List.filter_eq_nil_iff.mpr fun t' ht' h => hsel ?_)
      rw [← hsame t' ht', h]

theorem rowsOf_isChain (hs : AllSided db) (ho : InOrder db createdAt)
    (hb : ∀ i < db.accounts.length, RunningBalance 0 i db) (k : AccountDay) :
    (rowsOf (db.ledgerRows createdAt query) k).IsChain Linked := by
  have hrows : rowsOf (db.ledgerRows createdAt query) k = rowsOf (stamped db createdAt) k ∨
      rowsOf (db.ledgerRows createdAt query) k = [] := rowsOf_ledger hs ho k
  rcases hrows with h | h <;> rw [h]
  · cases hk : rowsOf (stamped db createdAt) k with
    | nil => exact List.isChain_nil
    | cons t ts =>
      obtain ⟨ht, hkey⟩ := List.mem_filter.mp (hk ▸ List.mem_cons_self :
        t ∈ rowsOf (stamped db createdAt) k)
      have hacc : t.accountId = k.accountId := congrArg AccountDay.accountId (beq_iff_eq.mp hkey)
      have hsplit : rowsOf (stamped db createdAt) k =
          ((stamped db createdAt).filter fun t => t.accountId == k.accountId).filter
            fun t => t.day == k.day := by
        unfold rowsOf
        rw [List.filter_filter]
        refine List.filter_congr fun t _ => ?_
        rw [Bool.eq_iff_iff, Bool.and_eq_true, beq_iff_eq, beq_iff_eq, beq_iff_eq]
        constructor
        · exact fun h => ⟨congrArg AccountDay.day h, congrArg AccountDay.accountId h⟩
        · exact fun h => AccountDay.ext h.2 h.1
      rw [← hk, hsplit]
      refine day_isChain k.day (account_isChain k.accountId
        (hb _ (hacc ▸ (stamped_sided hs ht).account))) ?_
      refine List.Pairwise.imp_of_mem ?_ ((stamped_inOrder ho).filter _)
      intro a b ha hb hlt
      have hsame : a.accountId = b.accountId := (beq_iff_eq.mp (List.mem_filter.mp ha).2).trans
        (beq_iff_eq.mp (List.mem_filter.mp hb).2).symm
      exact Int.ediv_le_ediv (by decide) (Int.le_of_lt (hlt hsame))
  · exact List.isChain_nil

/-! ### What a group says -/

theorem sides (rows : List LedgerRow) :
    Table.sumOver (fun t => side t.type t.amount) rows =
      Table.sumOver (·.amount) (rows.filter (·.isCredit)) -
        Table.sumOver (·.amount) (rows.filter fun t => !t.isCredit) := by
  induction rows with
  | nil => rfl
  | cons t rows ih =>
    rw [Table.sumOver_cons, ih]
    have hside : side t.type t.amount = if t.isCredit then t.amount else -t.amount := rfl
    rw [hside]
    cases ht : t.isCredit
    · rw [List.filter_cons_of_neg (p := fun t : LedgerRow => t.isCredit) (by simp [ht]),
        List.filter_cons_of_pos (p := fun t : LedgerRow => !t.isCredit) (by simp [ht]),
        Table.sumOver_cons, if_neg Bool.false_ne_true]
      omega
    · rw [List.filter_cons_of_pos (p := fun t : LedgerRow => t.isCredit) ht,
        List.filter_cons_of_neg (p := fun t : LedgerRow => !t.isCredit) (by simp [ht]),
        Table.sumOver_cons, if_pos rfl]
      omega

/-- Successive rows go from the balance before the first one to the balance after the last one. -/
theorem signed_day {t : LedgerRow} (hchain : (t :: rows).IsChain Linked)
    (hs : ∀ r ∈ t :: rows, Sided db r.toTransaction) :
    ((t :: rows).getLast?.map (·.balanceAfter)).getD 0 =
      t.balanceBefore + Table.sumOver (fun t => side t.type t.amount) (t :: rows) := by
  induction rows generalizing t with
  | nil =>
    rw [Table.sumOver_cons, Table.sumOver_nil]
    change t.balanceAfter = _
    rw [(hs t List.mem_cons_self).moved]
    omega
  | cons t' rows ih =>
    obtain ⟨hlink, hrest⟩ := List.isChain_cons_cons.mp hchain
    have hmoved := (hs t List.mem_cons_self).moved
    rw [List.getLast?_cons_cons, ih hrest fun r hr => hs r (List.mem_cons_of_mem t hr), hlink, hmoved,
      Table.sumOver_cons (a := t)]
    omega

theorem group_balances {detailed : Bool} {k : AccountDay} (hrows : rows ≠ [])
    (hchain : rows.IsChain Linked) (hs : ∀ r ∈ rows, Sided db r.toTransaction) :
    (ledgerGroup db detailed (k, rows)).openingBalance + (ledgerGroup db detailed (k, rows)).totalIn -
        (ledgerGroup db detailed (k, rows)).totalOut =
      (ledgerGroup db detailed (k, rows)).closingBalance := by
  cases rows with
  | nil => exact absurd rfl hrows
  | cons t rows =>
    have hday := signed_day hchain hs
    have hsides := sides (t :: rows)
    unfold ledgerGroup
    dsimp only [List.head?_cons, Option.map_some, Option.getD_some]
    omega

/-! ### The pages -/

/-- The page size that the service works with. -/
def pageSize (limit : Nat) : Nat := min 100 (max 1 limit)

theorem pageSize_pos (limit : Nat) : 0 < pageSize limit := by
  unfold pageSize
  omega

/-- How many pages the report says there are. -/
def pageCount (rows : List LedgerRow) (limit : Nat) : Nat :=
  (rows.length + pageSize limit - 1) / pageSize limit

theorem allGroups_eq : allGroups db createdAt query limit =
    (List.range (pageCount (db.ledgerRows createdAt query) limit)).flatMap fun p =>
      ledgerGroups db query.accountId.isSome
        (Timeline.page (pageSize limit) (db.ledgerRows createdAt query) p) := by
  unfold allGroups
  refine congrArg (List.flatMap · _) (funext fun p => ?_)
  unfold ledgerPage getLedger
  dsimp only [Option.getD_some]
  rw [show max 1 (p + 1) - 1 = p by omega]
  rfl

theorem mem_ledgerGroups {detailed : Bool} {g : LedgerGroup} :
    g ∈ ledgerGroups db detailed rows ↔ ∃ t ∈ rows,
      g = ledgerGroup db detailed (t.key, rowsOf rows t.key) := by
  unfold ledgerGroups
  rw [List.mem_insertionSort, List.mem_map]
  constructor
  · rintro ⟨gr, hgr, rfl⟩
    obtain ⟨hkey, hrows⟩ := Grouped.mem_groupRows.mp hgr
    obtain ⟨t, ht, hk⟩ := List.mem_map.mp hkey
    refine ⟨t, ht, congrArg _ (Prod.ext hk.symm ?_)⟩
    rw [hrows, ← hk]
    rfl
  · rintro ⟨t, ht, rfl⟩
    exact ⟨_, Grouped.mem_groupRows.mpr ⟨List.mem_map_of_mem ht, rfl⟩, rfl⟩

/-- The groups that a page has of an account and a day. -/
theorem groups_of_day (detailed : Bool) (k : AccountDay) :
    (ledgerGroups db detailed rows).filter (fun g => g.accountId == k.accountId && g.date == k.day) =
      if rowsOf rows k = [] then []
      else [ledgerGroup db detailed (k, rowsOf rows k)] := by
  have hperm : ((ledgerGroups db detailed rows).filter fun g =>
      g.accountId == k.accountId && g.date == k.day).Perm
      (((Grouped.groupRows LedgerRow.key rows).filter fun g => g.1 == k).map
        (ledgerGroup db detailed)) := by
    unfold ledgerGroups
    refine ((List.perm_insertionSort _ _).filter _).trans (List.Perm.of_eq ?_)
    rw [List.filter_map]
    refine congrArg (List.map _) (List.filter_congr fun g _ => ?_)
    rw [Bool.eq_iff_iff, Function.comp_apply, Bool.and_eq_true, beq_iff_eq, beq_iff_eq, beq_iff_eq]
    constructor
    · exact fun h => AccountDay.ext h.1 h.2
    · rintro h
      exact ⟨congrArg AccountDay.accountId h, congrArg AccountDay.day h⟩
  rw [Grouped.filter_groupRows] at hperm
  have hmem : k ∈ rows.map LedgerRow.key ↔ rowsOf rows k ≠ [] := by
    unfold rowsOf
    rw [List.mem_map, ne_eq, List.filter_eq_nil_iff]
    constructor
    · rintro ⟨t, ht, hkey⟩ h
      exact h t ht (by rw [hkey, beq_self_eq_true])
    · intro h
      push Not at h
      obtain ⟨t, ht, hkey⟩ := h
      exact ⟨t, ht, beq_iff_eq.mp hkey⟩
  by_cases hempty : rowsOf rows k = []
  · rw [if_neg fun h => hmem.mp h hempty] at hperm
    rw [if_pos hempty]
    exact hperm.eq_nil
  · rw [if_pos (hmem.mpr hempty)] at hperm
    rw [if_neg hempty]
    exact List.perm_singleton.mp hperm

/-- The rows of an account and a day that are on one page are all on it. -/
theorem rowsOf_page (huncut : Uncut rows (pageSize limit)) {i : Nat} {t : LedgerRow}
    (hi : rows[i]? = some t) :
    rowsOf (Timeline.page (pageSize limit) rows (i / pageSize limit)) t.key = rowsOf rows t.key := by
  have hn := pageSize_pos limit
  have hpages := flatMap_pages hn rows
  have hall : rowsOf rows t.key = (List.range (pageCount rows limit)).flatMap fun p =>
      rowsOf (Timeline.page (pageSize limit) rows p) t.key := by
    conv_lhs => rw [← hpages]
    unfold rowsOf
    rw [List.filter_flatMap]
    rfl
  rw [hall]
  refine (flatMap_of_unique (f := fun p => rowsOf (Timeline.page (pageSize limit) rows p) t.key)
    (List.mem_range.mpr (page_lt hn (List.getElem?_eq_some_iff.mp hi).1)) List.nodup_range ?_).symm
  intro p _ hp
  refine List.filter_eq_nil_iff.mpr fun t' ht' hkey => hp ?_
  obtain ⟨j, hj, rfl⟩ := (mem_page hn).mp ht'
  exact huncut j i t' t hj hi (beq_iff_eq.mp hkey)

theorem filter_allGroups (k : AccountDay) :
    (allGroups db createdAt query limit).filter
        (fun g => g.accountId == k.accountId && g.date == k.day) =
      (List.range (pageCount (db.ledgerRows createdAt query) limit)).flatMap fun p =>
        if rowsOf (Timeline.page (pageSize limit) (db.ledgerRows createdAt query) p) k = [] then []
        else [ledgerGroup db query.accountId.isSome
          (k, rowsOf (Timeline.page (pageSize limit) (db.ledgerRows createdAt query) p) k)] := by
  rw [allGroups_eq, List.filter_flatMap]
  exact congrArg (List.flatMap · _) (funext fun p => groups_of_day _ k)

theorem rowsOf_ne_nil {i : Nat} {t : LedgerRow} (hi : rows[i]? = some t) :
    rowsOf (Timeline.page (pageSize limit) rows (i / pageSize limit)) t.key ≠ [] := by
  refine List.ne_nil_of_mem (a := t) (List.mem_filter.mpr ⟨?_, beq_self_eq_true _⟩)
  exact (mem_page (pageSize_pos limit)).mpr ⟨i, hi, rfl⟩

theorem covered_iff : (∀ k, rowsOf (db.ledgerRows createdAt query) k ≠ [] →
      ∃ g, (allGroups db createdAt query limit).filter
          (fun g => g.accountId == k.accountId && g.date == k.day) = [g] ∧
        g.transactionCount = (rowsOf (db.ledgerRows createdAt query) k).length) ↔
    Uncut (db.ledgerRows createdAt query) (pageSize limit) := by
  have hn := pageSize_pos limit
  have hpage : ∀ {i : Nat} {t : LedgerRow}, (db.ledgerRows createdAt query)[i]? = some t →
      i / pageSize limit ∈ List.range (pageCount (db.ledgerRows createdAt query) limit) := fun hi =>
    List.mem_range.mpr (page_lt hn (List.getElem?_eq_some_iff.mp hi).1)
  constructor
  · -- rows of one key on two pages would be a group on each of them
    intro h i j t t' hi hj hkey
    have hrows : rowsOf (db.ledgerRows createdAt query) t.key ≠ [] :=
      List.ne_nil_of_mem (List.mem_filter.mpr ⟨List.mem_of_getElem? hi, beq_self_eq_true _⟩)
    obtain ⟨g, hg, -⟩ := h t.key hrows
    rw [filter_allGroups] at hg
    refine unique_of_flatMap hg (hpage hi) (hpage hj) ?_ ?_
    · rw [if_neg (rowsOf_ne_nil hi)]
      exact List.cons_ne_nil _ _
    · rw [hkey, if_neg (rowsOf_ne_nil hj)]
      exact List.cons_ne_nil _ _
  · intro h k hrows
    obtain ⟨t, ht⟩ := List.exists_mem_of_ne_nil _ hrows
    obtain ⟨hmem, hkey⟩ := List.mem_filter.mp ht
    obtain ⟨i, hi⟩ := List.mem_iff_getElem?.mp hmem
    cases beq_iff_eq.mp hkey
    refine ⟨ledgerGroup db query.accountId.isSome
      (t.key, rowsOf (db.ledgerRows createdAt query) t.key), ?_, rfl⟩
    rw [filter_allGroups]
    refine (flatMap_of_unique (hpage hi) List.nodup_range ?_).trans ?_
    · intro p _ hp
      refine if_pos (List.filter_eq_nil_iff.mpr fun t' ht' hkey => hp ?_)
      obtain ⟨j, hj, rfl⟩ := (mem_page hn).mp ht'
      exact h j i t' t hj hi (beq_iff_eq.mp hkey)
    · rw [if_neg (rowsOf_ne_nil hi), rowsOf_page h hi]

/-- Whatever part of a day is on a page, its group balances. -/
theorem groups_balance (hs : AllSided db) (ho : InOrder db createdAt)
    (hb : ∀ i < db.accounts.length, RunningBalance 0 i db) {g : LedgerGroup}
    (hg : g ∈ allGroups db createdAt query limit) :
    g.openingBalance + g.totalIn - g.totalOut = g.closingBalance := by
  rw [allGroups_eq, List.mem_flatMap] at hg
  obtain ⟨p, _, hg⟩ := hg
  obtain ⟨t, ht, rfl⟩ := mem_ledgerGroups.mp hg
  have hpart : Timeline.page (pageSize limit) (db.ledgerRows createdAt query) p <:+:
      db.ledgerRows createdAt query :=
    (List.take_prefix _ _).isInfix.trans (List.drop_suffix _ _).isInfix
  obtain ⟨before, after, hsplit⟩ := hpart.filter fun r : LedgerRow => r.key == t.key
  have hwhole : (rowsOf (db.ledgerRows createdAt query) t.key).IsChain Linked :=
    rowsOf_isChain hs ho hb t.key
  have hchain : (before ++ rowsOf (Timeline.page (pageSize limit) (db.ledgerRows createdAt query) p)
      t.key ++ after).IsChain Linked := hsplit.symm ▸ hwhole
  refine group_balances (List.ne_nil_of_mem (List.mem_filter.mpr ⟨ht, beq_self_eq_true _⟩))
    hchain.left_of_append.right_of_append fun r hr => ?_
  have hrow := (List.mem_insertionSort _).mp (hpart.subset (List.mem_filter.mp hr).1)
  exact stamped_sided hs (List.mem_filter.mp hrow).1

end LedgerLemmas

open LedgerLemmas

/-! ## 3. When the report is right -/

/-- Two deposits, a repayment from the balance and a withdrawal, an hour after one another. -/
def exLedgerDay : List Op :=
  [exDeposit "D1" 0 100, exDeposit "D2" 2 30,
    .repay
      { loanId := 0, amountKes := 500000, processedBy := "A", idempotencyKey := some "k",
        minute := "m", now := 0 },
    .postEntry
      { reference := "W1", accountId := 0, amount := 20
        journalType := .withdrawal
        direction := .debit }]

def exLedgerQuery : LedgerQuery := ⟨none, none, none, none, none⟩

/-- A repayment of KES 50 through M-Pesa. -/
def exLedgerRepayment : ProcessRepaymentInput where
  reference := "M-1"
  amount := some (ofUnits 500000)
  processedBy := "SYSTEM"
  loanId := some 0

end BebaSacco
