import BebaSacco.Accrual
import BebaSacco.Lib.Timeline

/-! # Statements

A statement opens with a balance that one query adds up and lists the entries of a period that others
return; the FOSA statement subtracts what the instalments in the status PAID say was paid, at the
date that they were scheduled for.

Results:
 1. `fosa_tiles_iff`, `bosa_tiles`: when the statements of two periods make up that of both.
 2. `pages_whole`: the pages of a statement make up the whole of it.
 3. `fosa_closes_iff`: when the closing balance is the principal that is still owed.
 4. `statements_account_iff`: all of it in one.
 5. `statement_skips_partial`: money received for an instalment that is not yet paid in full does not
    show.
-/

namespace BebaSacco

open Timeline

/-! ## 1. The records of a member -/

/-- A payment, when it came. -/
structure Receipt where
  receivedAt : Int
  allocation : Allocation
  deriving DecidableEq, Repr

/-- An instalment, or an imported repayment, and the payments that it records. -/
structure RecordedRepayment extends LoanRepayment where
  receipts : List Receipt
  deriving DecidableEq, Repr

/-- The schedule and the import fill `paymentDate` and `dueDate` with one value, which stays. -/
def RecordedRepayment.paymentDate (r : RecordedRepayment) : Int := r.dueDate

/-- The principal in the payments that came up to an instant. -/
def RecordedRepayment.received (upTo : Int) (r : RecordedRepayment) : Int :=
  Table.sumOver (fun receipt => receipt.allocation.principal)
    (r.receipts.filter fun receipt => receipt.receivedAt ≤ upTo)

/-- A payment that the waterfall puts on an instalment. -/
def RecordedRepayment.pay (r : RecordedRepayment) (add : Allocation) (paidAt : Int) :
    RecordedRepayment where
  toLoanRepayment := r.toLoanRepayment.pay add paidAt
  receipts := r.receipts ++ [⟨paidAt, add⟩]

inductive SavingsType | individual | groupWelfare
  deriving DecidableEq, Repr

structure SavingsRecord where
  memberId : Option Nat
  weekNumber : Nat
  amount : Nat
  periodDate : Int
  recordType : SavingsType
  deriving DecidableEq, Repr

structure StatementMember where
  memberNumber : String
  firstName : String
  lastName : String
  deriving DecidableEq, Repr

/-- `consents` are the users who accepted STATEMENT_EXPORT. -/
structure StatementDb where
  members : List StatementMember
  loans : List Loan
  repayments : List RecordedRepayment
  savings : List SavingsRecord
  consents : List Nat
  deriving DecidableEq, Repr

/-- The instant of the request, and how far the local time is ahead. -/
structure StatementClock where
  now : Int
  zone : Int
  deriving DecidableEq, Repr

inductive StatementErr
  | badRequest (message : String)
  | forbidden (message : String)
  | notFound (message : String)
  deriving DecidableEq, Repr

structure StatementOptions where
  skipConsent : Bool := false
  page : Option Int := none
  limit : Option Int := none
  deriving DecidableEq, Repr

/-! ## 2. The period -/

/-- `setHours(0, 0, 0, 0)` -/
def StatementClock.dayStart (clock : StatementClock) (t : Int) : Int :=
  (t + clock.zone) / msPerDay * msPerDay - clock.zone

/-- `setHours(23, 59, 59, 999)` -/
def StatementClock.dayEnd (clock : StatementClock) (t : Int) : Int :=
  clock.dayStart t + (msPerDay - 1)

structure StatementPeriod where
  first : Int
  last : Int
  deriving DecidableEq, Repr

/-- The days are given as their numbers from 1970; the text of a date is its midnight in UTC. -/
def resolveStatementPeriod (clock : StatementClock) (periodFrom periodTo : Option Int)
    (defaultDays : Int) : Except StatementErr StatementPeriod :=
  let today := clock.dayEnd clock.now
  let first := clock.dayStart ((periodFrom.map (· * msPerDay)).getD
    (clock.now - defaultDays * msPerDay))
  let last := clock.dayEnd ((periodTo.map (· * msPerDay)).getD clock.now)
  if today < first ∨ today < last then
    .error (.badRequest "Statement dates cannot be in the future")
  else if last < first then
    .error (.badRequest "periodFrom cannot be later than periodTo")
  else .ok ⟨first, last⟩

/-! ## 3. The body of a statement -/

inductive StatementReference
  | loan (loanNumber : String)
  | repayment (id : Nat)
  | savings (id : Nat)
  deriving DecidableEq, Repr

structure StatementTransaction where
  date : Int
  description : String
  debit : Nat
  credit : Nat
  balance : Int
  reference : StatementReference
  deriving DecidableEq, Repr

structure StatementMeta where
  page : Nat
  limit : Nat
  total : Nat
  totalPages : Nat
  deriving DecidableEq, Repr

/-- What both statements have. -/
structure MemberStatement where
  memberId : Nat
  memberNumber : String
  memberName : String
  generatedAt : Int
  periodFrom : Int
  periodTo : Int
  openingBalance : Int
  closingBalance : Int
  transactions : List StatementTransaction
  pageMeta : Option StatementMeta
  deriving DecidableEq, Repr

structure FosaStatement extends MemberStatement where
  totalDisbursed : Nat
  totalRepaid : Nat
  deriving DecidableEq, Repr

structure BosaStatement extends MemberStatement where
  totalSavings : Nat
  welfareContributions : Nat
  deriving DecidableEq, Repr

def StatementTransaction.amount (tx : StatementTransaction) : Int := tx.debit - tx.credit

/-- The transactions with the balance after each of them. -/
def withBalances (openingBalance : Int) (txs : List StatementTransaction) :
    List StatementTransaction :=
  (balances StatementTransaction.amount openingBalance txs).map fun row =>
    { row.1 with balance := row.2 }

/-- A page or a limit of 0 counts as none. -/
def StatementOptions.paged (options : StatementOptions) : Bool :=
  options.page.getD 0 != 0 || options.limit.getD 0 != 0

def paginateTransactions (txs : List StatementTransaction) (options : StatementOptions) :
    List StatementTransaction × Option StatementMeta :=
  if options.paged then
    let page := (max 1 (options.page.getD 1)).toNat
    let limit := (min 100 (max 1 (options.limit.getD 20))).toNat
    (Timeline.page limit txs (page - 1),
      some ⟨page, limit, txs.length, (txs.length + limit - 1) / limit⟩)
  else (txs, none)

/-- `toISOString().split('T')[0]` -/
def isoDay (t : Int) : Int := t / msPerDay

/-! ## 4. The FOSA statement -/

def Loan.disbursedUpTo (loan : Loan) (upTo : Int) : Bool := loan.disbursedAt.any (· ≤ upTo)

def StatementDb.loansUpTo (db : StatementDb) (memberId : Nat) (upTo : Int) : List (Nat × Loan) :=
  inOrder (fun row => row.2.disbursedAt.getD 0)
    (Table.selectRows (fun loan => loan.memberId == memberId && loan.disbursedUpTo upTo) db.loans)

/-- The instalments in the status PAID. -/
def StatementDb.paidRows (db : StatementDb) (loans : List (Nat × Loan)) (dated : Int → Bool) :
    List (Nat × RecordedRepayment) :=
  Table.selectRows (fun r => (loans.map Prod.fst).contains r.loanId && r.status == .paid &&
    dated r.paymentDate) db.repayments

/-- `loanNumberById` -/
def loanNumberById (loans : List (Nat × Loan)) (loanId : Nat) : String :=
  ((loans.find? fun row => row.1 == loanId).map fun row => row.2.loanNumber).getD (toString loanId)

/-- A transaction before the order and the balances are known. -/
structure DatedEntry where
  tx : StatementTransaction
  sortDate : Int
  order : Nat
  deriving DecidableEq, Repr

def disbursementEntry (loan : Loan) (disbursedAt : Int) : StatementTransaction where
  date := isoDay disbursedAt
  description := s!"Loan Disbursement - {loan.loanNumber}"
  debit := loan.principalAmount
  credit := 0
  balance := 0
  reference := .loan loan.loanNumber

def repaymentEntry (loans : List (Nat × Loan)) (id : Nat) (r : RecordedRepayment) :
    StatementTransaction where
  date := isoDay r.paymentDate
  description := s!"Repayment Day {r.dayNumber} - {loanNumberById loans r.loanId}"
  debit := 0
  credit := r.amountPaid
  balance := 0
  reference := .repayment id

/-- The comparison of the final sort. -/
def DatedEntry.before (a b : DatedEntry) : Prop :=
  a.sortDate < b.sortDate ∨ (a.sortDate = b.sortDate ∧ a.order ≤ b.order)

instance : DecidableRel DatedEntry.before := fun _ _ => inferInstanceAs (Decidable (_ ∨ _))

/-- The disbursements of the period, in the order of `loans`. -/
def disbursementEntries (period : StatementPeriod) (loans : List (Nat × Loan)) : List DatedEntry :=
  loans.zipIdx.filterMap fun row =>
    row.1.2.disbursedAt.bind fun disbursedAt =>
      if disbursedAt < period.first ∨ period.last < disbursedAt then none
      else some ⟨disbursementEntry row.1.2 disbursedAt, disbursedAt, row.2⟩

/-- The repayments of the period come after all loans. -/
def repaymentEntries (loans : List (Nat × Loan)) (rows : List (Nat × RecordedRepayment)) :
    List DatedEntry :=
  rows.zipIdx.map fun row =>
    ⟨repaymentEntry loans row.1.1 row.1.2, row.1.2.paymentDate, loans.length + row.2⟩

def StatementDb.fosaStatement (db : StatementDb) (clock : StatementClock) (memberId : Nat)
    (member : StatementMember) (period : StatementPeriod) (options : StatementOptions) :
    FosaStatement :=
  let loans := db.loansUpTo memberId period.last
  let periodRepayments := inOrder (fun row => row.2.paymentDate)
    (db.paidRows loans fun date => period.first ≤ date && date ≤ period.last)
  let openingRepayments := db.paidRows loans (· < period.first)
  let openingDisbursed := Table.sumOver (fun row => row.2.principalAmount)
    (loans.filter fun row => row.2.disbursedAt.any (· < period.first))
  let openingRepaid := Table.sumOver (fun row => row.2.amountPaid) openingRepayments
  let disbursements := disbursementEntries period loans
  let datedEntries := disbursements ++ repaymentEntries loans periodRepayments
  let openingBalance := openingDisbursed - openingRepaid
  let entries := (datedEntries.insertionSort DatedEntry.before).map (·.tx)
  let paginated := paginateTransactions (withBalances openingBalance entries) options
  { memberId := memberId
    memberNumber := member.memberNumber
    memberName := s!"{member.firstName} {member.lastName}"
    generatedAt := clock.now
    periodFrom := isoDay period.first
    periodTo := isoDay period.last
    openingBalance := openingBalance
    closingBalance := closing StatementTransaction.amount openingBalance entries
    transactions := paginated.1
    pageMeta := paginated.2
    totalDisbursed := (disbursements.map (·.tx.debit)).sum
    totalRepaid := (periodRepayments.map (·.2.amountPaid)).sum }

def ensureConsent (db : StatementDb) (userId : Nat) (options : StatementOptions) :
    Except StatementErr Unit :=
  if options.skipConsent || db.consents.contains userId then .ok ()
  else .error (.forbidden
    "STATEMENT_EXPORT consent required. Please accept the consent in your profile.")

/-- The checks before either statement. -/
def StatementDb.statementMember (db : StatementDb) (userId : Nat) (memberId : Option Nat)
    (options : StatementOptions) : Except StatementErr (Nat × StatementMember) := do
  let some memberId := memberId
    | throw (.badRequest "memberId is required to generate a statement")
  ensureConsent db userId options
  let some member := db.members[memberId]? | throw (.notFound "Member not found")
  pure (memberId, member)

def StatementDb.getFosaStatement (db : StatementDb) (clock : StatementClock) (userId : Nat)
    (memberId : Option Nat) (periodFrom periodTo : Option Int) (options : StatementOptions) :
    Except StatementErr FosaStatement := do
  let row ← db.statementMember userId memberId options
  let period ← resolveStatementPeriod clock periodFrom periodTo 90
  pure (db.fosaStatement clock row.1 row.2 period options)

/-! ## 5. The BOSA statement -/

def savingsEntry (id : Nat) (record : SavingsRecord) : StatementTransaction where
  date := isoDay record.periodDate
  description :=
    (if record.recordType = .individual then "Savings" else "Welfare") ++
      s!" - Week {record.weekNumber}"
  debit := 0
  credit := record.amount
  balance := 0
  reference := .savings id

def StatementDb.savingsOf (db : StatementDb) (memberId : Nat) (dated : Int → Bool) :
    List (Nat × SavingsRecord) :=
  Table.selectRows (fun record => record.memberId == some memberId && dated record.periodDate)
    db.savings

def StatementDb.bosaStatement (db : StatementDb) (clock : StatementClock) (memberId : Nat)
    (member : StatementMember) (period : StatementPeriod) (options : StatementOptions) :
    BosaStatement :=
  let savings := inOrder (fun row => row.2.periodDate)
    (db.savingsOf memberId fun date => period.first ≤ date && date ≤ period.last)
  let openingBalance := Table.sumOver (fun row => row.2.amount)
    (db.savingsOf memberId (· < period.first))
  let entries := savings.map fun row => savingsEntry row.1 row.2
  -- the balance rises by each record, although they are credits
  let rows := (balances (fun tx => (tx.credit : Int)) openingBalance entries).map fun row =>
    { row.1 with balance := row.2 }
  let paginated := paginateTransactions rows options
  { memberId := memberId
    memberNumber := member.memberNumber
    memberName := s!"{member.firstName} {member.lastName}"
    generatedAt := clock.now
    periodFrom := isoDay period.first
    periodTo := isoDay period.last
    openingBalance := openingBalance
    closingBalance := closing (fun tx => (tx.credit : Int)) openingBalance entries
    transactions := paginated.1
    pageMeta := paginated.2
    totalSavings := ((savings.filter fun row => row.2.recordType = .individual).map
      (·.2.amount)).sum
    welfareContributions := ((savings.filter fun row => row.2.recordType ≠ .individual).map
      (·.2.amount)).sum }

def StatementDb.getBosaStatement (db : StatementDb) (clock : StatementClock) (userId : Nat)
    (memberId : Option Nat) (periodFrom periodTo : Option Int) (options : StatementOptions) :
    Except StatementErr BosaStatement := do
  let row ← db.statementMember userId memberId options
  let period ← resolveStatementPeriod clock periodFrom periodTo 365
  pure (db.bosaStatement clock row.1 row.2 period options)

/-! ## 6. The entries of a period -/

/-- An entry with its time, without its place in the lists. -/
def DatedEntry.timed (e : DatedEntry) : Int × StatementTransaction := (e.sortDate, e.tx)

def disbursementItem (period : StatementPeriod) (row : Nat × Loan) :
    Option (Int × StatementTransaction) :=
  row.2.disbursedAt.bind fun disbursedAt =>
    if disbursedAt < period.first ∨ period.last < disbursedAt then none
    else some (disbursedAt, disbursementEntry row.2 disbursedAt)

def repaymentItem (loans : List (Nat × Loan)) (row : Nat × RecordedRepayment) :
    Int × StatementTransaction :=
  (row.2.paymentDate, repaymentEntry loans row.1 row.2)

/-- The repayments that a statement of the period lists. -/
def StatementDb.repaymentItems (db : StatementDb) (memberId : Nat) (period : StatementPeriod) :
    List (Int × StatementTransaction) :=
  (inOrder (fun row => row.2.paymentDate) (db.paidRows (db.loansUpTo memberId period.last)
    fun date => period.first ≤ date && date ≤ period.last)).map
      (repaymentItem (db.loansUpTo memberId period.last))

def StatementDb.disbursementItems (db : StatementDb) (memberId : Nat) (period : StatementPeriod) :
    List (Int × StatementTransaction) :=
  (db.loansUpTo memberId period.last).filterMap (disbursementItem period)

/-- The entries of a FOSA statement with their times, in order. -/
def StatementDb.fosaItems (db : StatementDb) (memberId : Nat) (period : StatementPeriod) :
    List (Int × StatementTransaction) :=
  inOrder Prod.fst (db.disbursementItems memberId period ++ db.repaymentItems memberId period)

/-- The member has a loan of this id that was disbursed by then. -/
def StatementDb.hasLoan (db : StatementDb) (memberId : Nat) (upTo : Int) (loanId : Nat) : Bool :=
  db.loans[loanId]?.any fun loan => loan.memberId == memberId && loan.disbursedUpTo upTo

/-- A repayment dated by `b` of a loan that was disbursed only after it, by `c`. -/
def StatementDb.paidAhead (db : StatementDb) (memberId : Nat) (b c : Int) (r : RecordedRepayment) :
    Bool :=
  r.status == .paid && db.hasLoan memberId c r.loanId && !db.hasLoan memberId b r.loanId &&
    r.paymentDate ≤ b

variable {db : StatementDb} {clock : StatementClock} {memberId : Nat} {a b c : Int}

namespace StatementLemmas

theorem mem_loansUpTo {row : Nat × Loan} : row ∈ db.loansUpTo memberId b ↔
    db.loans[row.1]? = some row.2 ∧ row.2.memberId = memberId ∧ row.2.disbursedUpTo b = true := by
  unfold StatementDb.loansUpTo
  rw [mem_inOrder, Table.mem_selectRows, Bool.and_eq_true, beq_iff_eq]

theorem hasLoan_iff {loanId : Nat} : db.hasLoan memberId b loanId = true ↔
    ∃ loan, (loanId, loan) ∈ db.loansUpTo memberId b := by
  unfold StatementDb.hasLoan
  rw [Option.any_eq_true_iff_get]
  simp only [mem_loansUpTo]
  cases db.loans[loanId]? with
  | none => simp
  | some loan => simp

theorem contains_loansUpTo (loanId : Nat) :
    ((db.loansUpTo memberId b).map Prod.fst).contains loanId = db.hasLoan memberId b loanId := by
  rw [Bool.eq_iff_iff, hasLoan_iff, List.contains_iff_mem, List.mem_map]
  constructor
  · rintro ⟨⟨id, loan⟩, h, rfl⟩
    exact ⟨loan, h⟩
  · rintro ⟨loan, h⟩
    exact ⟨(loanId, loan), h, rfl⟩

theorem disbursedUpTo_iff {loan : Loan} :
    loan.disbursedUpTo b = true ↔ ∃ t, loan.disbursedAt = some t ∧ t ≤ b := by
  unfold Loan.disbursedUpTo
  cases loan.disbursedAt with
  | none => simp
  | some t => simp

theorem hasLoan_mono (hbc : b ≤ c) {loanId : Nat} (h : db.hasLoan memberId b loanId = true) :
    db.hasLoan memberId c loanId = true := by
  obtain ⟨loan, hrow⟩ := hasLoan_iff.mp h
  obtain ⟨hloan, hmember, hdate⟩ := mem_loansUpTo.mp hrow
  obtain ⟨t, ht, htb⟩ := disbursedUpTo_iff.mp hdate
  exact hasLoan_iff.mpr ⟨loan, mem_loansUpTo.mpr
    ⟨hloan, hmember, disbursedUpTo_iff.mpr ⟨t, ht, Int.le_trans htb hbc⟩⟩⟩

/-- The loans up to `c` are those up to `b` and then the later ones. -/
theorem loansUpTo_split (hbc : b ≤ c) : db.loansUpTo memberId c =
    db.loansUpTo memberId b ++ (db.loansUpTo memberId c).filter fun row =>
      decide (b < row.2.disbursedAt.getD 0) := by
  have hfirst : (Table.selectRows
        (fun loan => loan.memberId == memberId && loan.disbursedUpTo c) db.loans).filter
        (fun row => decide (row.2.disbursedAt.getD 0 ≤ b)) =
      Table.selectRows (fun loan => loan.memberId == memberId && loan.disbursedUpTo b) db.loans := by
    refine (Table.filter_selectRows
      (q := fun loan : Loan => decide (loan.disbursedAt.getD 0 ≤ b))).trans ?_
    refine congrArg (Table.selectRows · db.loans) (funext fun loan => ?_)
    unfold Loan.disbursedUpTo
    cases loan.disbursedAt with
    | none => simp
    | some t =>
      rw [Bool.eq_iff_iff]
      simp only [Option.any_some, Option.getD_some, Bool.and_eq_true, decide_eq_true_eq]
      constructor
      · exact fun h => ⟨h.1.1, h.2⟩
      · exact fun h => ⟨⟨h.1, Int.le_trans h.2 hbc⟩, h.2⟩
  unfold StatementDb.loansUpTo
  rw [inOrder_filter]
  conv_lhs => rw [inOrder_split b, hfirst]

theorem loanNumberById_eq {loanId : Nat} (h : db.hasLoan memberId b loanId = true) (hbc : b ≤ c) :
    loanNumberById (db.loansUpTo memberId b) loanId =
      loanNumberById (db.loansUpTo memberId c) loanId := by
  have hfound : ∀ {t : Int}, db.hasLoan memberId t loanId = true →
      loanNumberById (db.loansUpTo memberId t) loanId =
        ((db.loans[loanId]?).map (·.loanNumber)).getD (toString loanId) := by
    intro t ht
    obtain ⟨loan, hrow⟩ := hasLoan_iff.mp ht
    unfold loanNumberById
    cases hfind : (db.loansUpTo memberId t).find? fun row => row.1 == loanId with
    | none =>
      have := List.find?_eq_none.mp hfind _ hrow
      exact absurd (beq_self_eq_true loanId) this
    | some row =>
      have hid : row.1 = loanId := by simpa using List.find?_some hfind
      rw [← hid, (mem_loansUpTo.mp (List.mem_of_find?_eq_some hfind)).1]
      rfl
  rw [hfound h, hfound (hasLoan_mono hbc h)]

/-- Entries made of the rows of a list, each with its position, have increasing positions. -/
theorem pairwise_zipIdx {α : Type} (l : List α) (k : Nat) :
    (l.zipIdx k).Pairwise fun x y => x.2 < y.2 := by
  have h : ((l.zipIdx k).map Prod.snd).Pairwise (· < ·) := by
    rw [List.zipIdx_map_snd]
    exact List.pairwise_lt_range'
  exact List.pairwise_map.mp h

theorem disbursement_order {period : StatementPeriod} {loans : List (Nat × Loan)} :
    (disbursementEntries period loans).Pairwise (fun x y => x.order < y.order) ∧
      ∀ e ∈ disbursementEntries period loans, e.order < loans.length := by
  have hentry : ∀ (row : (Nat × Loan) × Nat) (e : DatedEntry),
      (row.1.2.disbursedAt.bind fun disbursedAt =>
        if disbursedAt < period.first ∨ period.last < disbursedAt then none
        else some (DatedEntry.mk (disbursementEntry row.1.2 disbursedAt) disbursedAt row.2)) =
          some e → e.order = row.2 := by
    intro row e h
    obtain ⟨t, _, h⟩ := Option.bind_eq_some_iff.mp h
    split at h
    · cases h
    · cases h
      rfl
  constructor
  · refine List.pairwise_filterMap.mpr ((pairwise_zipIdx loans 0).imp ?_)
    intro x y hxy e he e' he'
    rw [hentry x e he, hentry y e' he']
    exact hxy
  · intro e he
    obtain ⟨row, hrow, h⟩ := List.mem_filterMap.mp he
    rw [hentry row e h]
    exact List.snd_lt_of_mem_zipIdx hrow

theorem repayment_order {loans : List (Nat × Loan)} {rows : List (Nat × RecordedRepayment)} :
    (repaymentEntries loans rows).Pairwise (fun x y => x.order < y.order) ∧
      ∀ e ∈ repaymentEntries loans rows, loans.length ≤ e.order := by
  constructor
  · refine List.pairwise_map.mpr ((pairwise_zipIdx rows 0).imp fun hxy => ?_)
    exact Nat.add_lt_add_left hxy _
  · intro e he
    obtain ⟨row, _, rfl⟩ := List.mem_map.mp he
    exact Nat.le_add_right _ _

/-- The order of the entries is that of their times, ties as in the lists. -/
theorem sorted_entries (memberId : Nat) (period : StatementPeriod) :
    ((disbursementEntries period (db.loansUpTo memberId period.last) ++
        repaymentEntries (db.loansUpTo memberId period.last)
          (inOrder (fun row => row.2.paymentDate)
            (db.paidRows (db.loansUpTo memberId period.last)
              fun date => period.first ≤ date && date ≤ period.last))).insertionSort
      DatedEntry.before).map (·.tx) = (db.fosaItems memberId period).map Prod.snd := by
  have hties : ∀ (l l' : List DatedEntry), (l ++ l').Pairwise (fun x y => x.order < y.order) →
      ((l ++ l').insertionSort DatedEntry.before).map (·.tx) =
        (inOrder Prod.fst (l.map DatedEntry.timed ++ l'.map DatedEntry.timed)).map Prod.snd := by
    intro l l' hpair
    have hsort : (l ++ l').insertionSort DatedEntry.before = inOrder DatedEntry.sortDate (l ++ l') := by
      refine insertionSort_ties (hpair.imp fun {x y} hxy => ?_)
      unfold DatedEntry.before Earlier
      omega
    rw [hsort, ← List.map_append, inOrder_map, List.map_map]
    rfl
  rw [hties]
  · unfold StatementDb.fosaItems StatementDb.disbursementItems StatementDb.repaymentItems
    congr 3
    · unfold disbursementEntries
      rw [List.map_filterMap]
      conv_rhs => rw [← List.zipIdx_map_fst 0 (db.loansUpTo memberId period.last), List.filterMap_map]
      refine congrArg (List.filterMap · _) (funext fun row => ?_)
      rw [Function.comp_apply, disbursementItem]
      cases row.1.2.disbursedAt with
      | none => rfl
      | some t =>
        rw [Option.bind_some, Option.bind_some]
        split <;> rfl
    · unfold repaymentEntries
      rw [List.map_map]
      conv_rhs => rw [← List.zipIdx_map_fst 0 (inOrder _ _), List.map_map]
      rfl
  · refine List.pairwise_append.mpr ⟨disbursement_order.1, repayment_order.1, fun x hx y hy => ?_⟩
    exact Nat.lt_of_lt_of_le (disbursement_order.2 x hx) (repayment_order.2 y hy)

/-! ### Two periods -/

theorem loansUpTo_disbursed {row : Nat × Loan} (h : row ∈ db.loansUpTo memberId b) :
    ∃ t, row.2.disbursedAt = some t ∧ t ≤ b :=
  disbursedUpTo_iff.mp (mem_loansUpTo.mp h).2.2

theorem disbursementItem_bounds {period : StatementPeriod} {row : Nat × Loan}
    {item : Int × StatementTransaction} (h : disbursementItem period row = some item) :
    period.first ≤ item.1 ∧ item.1 ≤ period.last := by
  obtain ⟨t, _, h⟩ := Option.bind_eq_some_iff.mp h
  split at h
  · cases h
  · next hin =>
    cases h
    exact not_or.mp hin |>.imp Int.not_lt.mp Int.not_lt.mp

theorem disbursementItems_bounds {period : StatementPeriod} {item : Int × StatementTransaction}
    (h : item ∈ db.disbursementItems memberId period) :
    period.first ≤ item.1 ∧ item.1 ≤ period.last := by
  obtain ⟨row, _, h⟩ := List.mem_filterMap.mp h
  exact disbursementItem_bounds h

theorem disbursementItems_split (hab : a ≤ b + 1) (hbc : b ≤ c) :
    db.disbursementItems memberId ⟨a, c⟩ =
      db.disbursementItems memberId ⟨a, b⟩ ++ db.disbursementItems memberId ⟨b + 1, c⟩ := by
  have hitem : ∀ (first last : Int) (row : Nat × Loan) (t : Int), row.2.disbursedAt = some t →
      disbursementItem ⟨first, last⟩ row = if t < first ∨ last < t then none
        else some (t, disbursementEntry row.2 t) := by
    intro first last row t h
    rw [disbursementItem, h, Option.bind_some]
  have hnone : (db.loansUpTo memberId b).filterMap (disbursementItem ⟨b + 1, c⟩) = [] := by
    refine List.filterMap_eq_nil_iff.mpr fun row hrow => ?_
    obtain ⟨t, ht, htb⟩ := loansUpTo_disbursed hrow
    rw [hitem _ _ _ _ ht, if_pos (by omega)]
  unfold StatementDb.disbursementItems
  rw [loansUpTo_split hbc, List.filterMap_append, List.filterMap_append, hnone, List.nil_append]
  congr 1
  · refine List.filterMap_congr fun row hrow => ?_
    obtain ⟨t, ht, htb⟩ := loansUpTo_disbursed hrow
    rw [hitem _ _ _ _ ht, hitem _ _ _ _ ht]
    refine ite_congr (propext ?_) (fun _ => rfl) fun _ => rfl
    omega
  · refine List.filterMap_congr fun row hrow => ?_
    obtain ⟨hrow, hlate⟩ := List.mem_filter.mp hrow
    obtain ⟨t, ht, htc⟩ := loansUpTo_disbursed hrow
    rw [ht, Option.getD_some, decide_eq_true_eq] at hlate
    rw [hitem _ _ _ _ ht, hitem _ _ _ _ ht]
    refine ite_congr (propext ?_) (fun _ => rfl) fun _ => rfl
    omega

theorem paidRows_eq (dated : Int → Bool) : db.paidRows (db.loansUpTo memberId b) dated =
    Table.selectRows (fun r => db.hasLoan memberId b r.loanId && r.status == .paid &&
      dated r.paymentDate) db.repayments := by
  unfold StatementDb.paidRows
  exact congrArg (Table.selectRows · _) (funext fun r => by rw [contains_loansUpTo])

theorem paidRows_filter (loans : List (Nat × Loan)) {dated dated' : Int → Bool} (q : Int → Bool)
    (h : ∀ date, (dated date = true ∧ q date = true) ↔ dated' date = true) :
    (db.paidRows loans dated).filter (fun row => q row.2.paymentDate) = db.paidRows loans dated' := by
  unfold StatementDb.paidRows
  rw [Table.filter_selectRows (q := fun r : RecordedRepayment => q r.paymentDate)]
  refine congrArg (Table.selectRows · _) (funext fun r => ?_)
  rw [Bool.and_assoc, Bool.eq_iff_iff.mpr (Bool.and_eq_true_iff.trans (h _))]

theorem repaymentItems_bounds {period : StatementPeriod} {item : Int × StatementTransaction}
    (h : item ∈ db.repaymentItems memberId period) :
    period.first ≤ item.1 ∧ item.1 ≤ period.last := by
  obtain ⟨row, hrow, rfl⟩ := List.mem_map.mp h
  have hrow := (Table.mem_selectRows.mp (mem_inOrder.mp hrow)).2
  simp only [Bool.and_eq_true, decide_eq_true_eq] at hrow
  exact hrow.2

/-- The rows of the first period as the statement of both periods sees them. -/
def earlyItems (db : StatementDb) (memberId : Nat) (a b c : Int) :
    List (Int × StatementTransaction) :=
  (inOrder (fun row => row.2.paymentDate) (db.paidRows (db.loansUpTo memberId c)
    fun date => a ≤ date && date ≤ b)).map (repaymentItem (db.loansUpTo memberId c))

theorem repaymentItems_split (hab : a ≤ b + 1) (hbc : b ≤ c) :
    db.repaymentItems memberId ⟨a, c⟩ =
      earlyItems db memberId a b c ++ db.repaymentItems memberId ⟨b + 1, c⟩ := by
  unfold StatementDb.repaymentItems earlyItems
  rw [inOrder_split b, List.map_append]
  congr 3
  · refine paidRows_filter _ (fun date => decide (date ≤ b)) fun date => ?_
    simp only [Bool.and_eq_true, decide_eq_true_eq]
    omega
  · refine paidRows_filter _ (fun date => decide (b < date)) fun date => ?_
    simp only [Bool.and_eq_true, decide_eq_true_eq]
    omega

/-- The paid rows of the loans up to `c` are those of the loans up to `b`, when none comes before its
loan. -/
theorem paidRows_same (hbc : b ≤ c) {dated : Int → Bool}
    (h : ∀ r ∈ db.repayments, dated r.paymentDate = true → r.status = .paid →
      db.hasLoan memberId c r.loanId = true → db.hasLoan memberId b r.loanId = true) :
    db.paidRows (db.loansUpTo memberId c) dated = db.paidRows (db.loansUpTo memberId b) dated := by
  rw [paidRows_eq, paidRows_eq]
  unfold Table.selectRows
  refine congrArg (List.map Prod.swap) (List.filter_congr fun row hrow => ?_)
  have hmem : row.1 ∈ db.repayments :=
    List.mem_iff_getElem?.mpr ⟨row.2, List.mem_zipIdx_iff_getElem?.mp hrow⟩
  rw [Bool.eq_iff_iff]
  simp only [Bool.and_eq_true, beq_iff_eq]
  constructor
  · rintro ⟨⟨hloan, hpaid⟩, hdate⟩
    exact ⟨⟨h row.1 hmem hdate hpaid hloan, hpaid⟩, hdate⟩
  · rintro ⟨⟨hloan, hpaid⟩, hdate⟩
    exact ⟨⟨hasLoan_mono hbc hloan, hpaid⟩, hdate⟩

theorem earlyItems_same (hbc : b ≤ c)
    (h : ∀ r ∈ db.repayments, db.paidAhead memberId b c r = true → r.paymentDate < a) :
    earlyItems db memberId a b c = db.repaymentItems memberId ⟨a, b⟩ := by
  have hrows : db.paidRows (db.loansUpTo memberId c) (fun date => a ≤ date && date ≤ b) =
      db.paidRows (db.loansUpTo memberId b) fun date => a ≤ date && date ≤ b := by
    refine paidRows_same hbc fun r hr hdate hpaid hloan => ?_
    by_contra hearly
    simp only [Bool.and_eq_true, decide_eq_true_eq] at hdate
    have hahead := h r hr (by
      simp only [StatementDb.paidAhead, hpaid, hloan, Bool.eq_false_iff.mpr hearly, hdate.2]
      rfl)
    omega
  unfold earlyItems StatementDb.repaymentItems
  rw [hrows]
  refine List.map_congr_left fun row hrow => ?_
  have hrow := (mem_inOrder.mp hrow)
  rw [paidRows_eq] at hrow
  have hloan := (Table.mem_selectRows.mp hrow).2
  simp only [Bool.and_eq_true] at hloan
  unfold repaymentItem repaymentEntry
  rw [loanNumberById_eq hloan.1.1 hbc]

theorem fosaItems_split (hab : a ≤ b + 1) (hbc : b ≤ c)
    (h : ∀ r ∈ db.repayments, db.paidAhead memberId b c r = true → r.paymentDate < a) :
    db.fosaItems memberId ⟨a, c⟩ =
      db.fosaItems memberId ⟨a, b⟩ ++ db.fosaItems memberId ⟨b + 1, c⟩ := by
  unfold StatementDb.fosaItems
  rw [disbursementItems_split hab hbc, repaymentItems_split hab hbc, earlyItems_same hbc h]
  refine inOrder_parts (t := b) ?_ ?_ ?_ ?_
  · exact fun item hitem => (disbursementItems_bounds hitem).2
  · exact fun item hitem => Int.lt_of_add_one_le (disbursementItems_bounds hitem).1
  · exact fun item hitem => (repaymentItems_bounds hitem).2
  · exact fun item hitem => Int.lt_of_add_one_le (repaymentItems_bounds hitem).1

/-- A row before its loan is in the statement of both periods only. -/
theorem early_of_length (hab : a ≤ b + 1) (hbc : b ≤ c)
    (h : (db.fosaItems memberId ⟨a, c⟩).length =
      (db.fosaItems memberId ⟨a, b⟩).length + (db.fosaItems memberId ⟨b + 1, c⟩).length) :
    ∀ r ∈ db.repayments, db.paidAhead memberId b c r = true → r.paymentDate < a := by
  unfold StatementDb.fosaItems at h
  rw [(inOrder_perm _).length_eq, (inOrder_perm _).length_eq, (inOrder_perm _).length_eq,
    disbursementItems_split hab hbc, repaymentItems_split hab hbc] at h
  simp only [List.length_append] at h
  have hcount : (earlyItems db memberId a b c).length =
      (db.repaymentItems memberId ⟨a, b⟩).length := by omega
  unfold earlyItems StatementDb.repaymentItems at hcount
  rw [List.length_map, List.length_map, (inOrder_perm _).length_eq, (inOrder_perm _).length_eq,
    paidRows_eq, paidRows_eq] at hcount
  have hlength : ∀ p : RecordedRepayment → Bool,
      (Table.selectRows p db.repayments).length = (db.repayments.filter p).length := by
    intro p
    rw [← Table.map_snd_selectRows, List.length_map]
  -- the rows of the first statement are those of `c` whose loan is there by `b`
  have hsub : db.repayments.filter (fun r => db.hasLoan memberId b r.loanId && r.status == .paid &&
        (decide (a ≤ r.paymentDate) && decide (r.paymentDate ≤ b))) =
      (db.repayments.filter fun r => db.hasLoan memberId c r.loanId && r.status == .paid &&
        (decide (a ≤ r.paymentDate) && decide (r.paymentDate ≤ b))).filter
          fun r => db.hasLoan memberId b r.loanId := by
    rw [List.filter_filter]
    refine List.filter_congr fun r _ => ?_
    rw [Bool.eq_iff_iff]
    simp only [Bool.and_eq_true]
    constructor
    · exact fun h => ⟨h.1.1, ⟨hasLoan_mono hbc h.1.1, h.1.2⟩, h.2⟩
    · exact fun h => ⟨⟨h.1, h.2.1.2⟩, h.2.2⟩
  rw [hlength, hlength, hsub] at hcount
  have hall := List.length_filter_eq_length_iff.mp hcount.symm
  intro r hr hahead
  simp only [StatementDb.paidAhead, Bool.and_eq_true, beq_iff_eq, decide_eq_true_eq,
    Bool.not_eq_true'] at hahead
  obtain ⟨⟨⟨hpaid, hloan⟩, hlater⟩, hdate⟩ := hahead
  by_contra hin
  have hearly := hall r (List.mem_filter.mpr ⟨hr, by simp [hpaid, hloan, hdate]; omega⟩)
  rw [hlater] at hearly
  cases hearly

/-! ### The balances -/

/-- What the disbursements and the repayments of rows add up to. -/
def disbursed (rows : List (Nat × Loan)) : Int :=
  Table.sumOver (fun row => (row.2.principalAmount : Int)) rows

def repaid (rows : List (Nat × RecordedRepayment)) : Int :=
  Table.sumOver (fun row => (row.2.amountPaid : Int)) rows

theorem sumOver_disbursementItems (period : StatementPeriod) :
    Table.sumOver (fun item => item.2.amount) (db.disbursementItems memberId period) =
      disbursed ((db.loansUpTo memberId period.last).filter fun row =>
        !row.2.disbursedAt.any (· < period.first)) := by
  have hrows : ∀ rows : List (Nat × Loan), (∀ row ∈ rows, row ∈ db.loansUpTo memberId period.last) →
      Table.sumOver (fun item => item.2.amount) (rows.filterMap (disbursementItem period)) =
        disbursed (rows.filter fun row => !row.2.disbursedAt.any (· < period.first)) := by
    intro rows h
    induction rows with
    | nil => rfl
    | cons row rows ih =>
      have ih := ih fun r hr => h r (List.mem_cons_of_mem row hr)
      obtain ⟨t, ht, htl⟩ := loansUpTo_disbursed (h row List.mem_cons_self)
      have hany : (row.2.disbursedAt.any (· < period.first)) = decide (t < period.first) := by
        rw [ht]
        rfl
      rw [List.filterMap_cons, disbursementItem, ht, Option.bind_some]
      by_cases hin : t < period.first
      · rw [if_pos (.inl hin), List.filter_cons_of_neg (by rw [hany, decide_eq_true hin]; decide)]
        exact ih
      · rw [if_neg (by omega), List.filter_cons_of_pos (by rw [hany, decide_eq_false hin]; rfl)]
        unfold disbursed at ih ⊢
        rw [Table.sumOver_cons, Table.sumOver_cons, ih]
        unfold StatementTransaction.amount disbursementEntry
        dsimp only
        rw [Nat.cast_zero, sub_zero]
  exact hrows _ fun _ h => h

theorem sumOver_repaymentItems (period : StatementPeriod) :
    Table.sumOver (fun item => item.2.amount) (db.repaymentItems memberId period) =
      -repaid (db.paidRows (db.loansUpTo memberId period.last)
        fun date => period.first ≤ date && date ≤ period.last) := by
  unfold StatementDb.repaymentItems repaid
  rw [Table.sumOver_map, Table.sumOver_perm (inOrder_perm _)]
  generalize db.paidRows _ _ = rows
  induction rows with
  | nil => rfl
  | cons row rows ih =>
    rw [Table.sumOver_cons, Table.sumOver_cons, ih, neg_add]
    unfold StatementTransaction.amount repaymentItem repaymentEntry
    dsimp only
    rw [Nat.cast_zero, zero_sub]

/-- The opening balance of a FOSA statement. -/
def fosaOpening (db : StatementDb) (memberId : Nat) (period : StatementPeriod) : Int :=
  disbursed ((db.loansUpTo memberId period.last).filter fun row =>
    row.2.disbursedAt.any (· < period.first)) -
      repaid (db.paidRows (db.loansUpTo memberId period.last) (· < period.first))

theorem repaid_split (loans : List (Nat × Loan)) (hab : a ≤ b + 1) :
    repaid (db.paidRows loans (· ≤ b)) = repaid (db.paidRows loans (· < a)) +
      repaid (db.paidRows loans fun date => a ≤ date && date ≤ b) := by
  unfold repaid
  rw [Table.sumOver_filter_split (fun row => decide (row.2.paymentDate < a)) (db.paidRows loans (· ≤ b))]
  congr 2
  · refine paidRows_filter _ (fun date => decide (date < a)) fun date => ?_
    simp only [decide_eq_true_eq]
    omega
  · refine paidRows_filter _ (fun date => !decide (date < a)) fun date => ?_
    simp only [Bool.and_eq_true, decide_eq_true_eq, Bool.not_eq_true', decide_eq_false_iff_not]
    omega

/-- A FOSA statement closes with what the loans up to its end less their paid rows come to. -/
theorem fosa_closing (hab : a ≤ b + 1) :
    closing StatementTransaction.amount (fosaOpening db memberId ⟨a, b⟩)
        ((db.fosaItems memberId ⟨a, b⟩).map Prod.snd) =
      disbursed (db.loansUpTo memberId b) - repaid (db.paidRows (db.loansUpTo memberId b) (· ≤ b)) := by
  rw [closing_eq, Table.sumOver_map]
  unfold StatementDb.fosaItems
  rw [Table.sumOver_perm (inOrder_perm _), Table.sumOver_append, sumOver_disbursementItems,
    sumOver_repaymentItems, repaid_split _ hab]
  have hsplit := Table.sumOver_filter_split (g := fun row : Nat × Loan => (row.2.principalAmount : Int))
    (fun row => row.2.disbursedAt.any (· < a)) (db.loansUpTo memberId b)
  unfold fosaOpening disbursed at *
  dsimp only
  omega

/-- The loans disbursed before `t` are loans up to `b`. -/
theorem loansUpTo_before {t : Int} (hbc : b ≤ c) (htb : t ≤ b + 1) :
    (db.loansUpTo memberId c).filter (fun row => row.2.disbursedAt.any (· < t)) =
      (db.loansUpTo memberId b).filter fun row => row.2.disbursedAt.any (· < t) := by
  rw [loansUpTo_split hbc, List.filter_append]
  have hnone : ((db.loansUpTo memberId c).filter fun row => decide (b < row.2.disbursedAt.getD 0)).filter
      (fun row => row.2.disbursedAt.any (· < t)) = [] := by
    refine List.filter_eq_nil_iff.mpr fun row hrow => ?_
    obtain ⟨hrow, hlate⟩ := List.mem_filter.mp hrow
    obtain ⟨d, hd, _⟩ := loansUpTo_disbursed hrow
    rw [hd] at hlate ⊢
    have hlate := of_decide_eq_true hlate
    dsimp only [Option.getD_some] at hlate
    have : ¬ d < t := by omega
    simpa using this
  rw [hnone, List.append_nil]

theorem disbursed_before (hbc : b ≤ c) :
    disbursed ((db.loansUpTo memberId c).filter fun row => row.2.disbursedAt.any (· < b + 1)) =
      disbursed (db.loansUpTo memberId b) := by
  rw [loansUpTo_before hbc (Int.le_refl _), List.filter_eq_self.mpr]
  intro row hrow
  obtain ⟨t, ht, htb⟩ := loansUpTo_disbursed hrow
  rw [ht]
  exact decide_eq_true (Int.lt_add_one_of_le htb)

/-- The rows of the loans up to `c` add up to more than those of the loans up to `b` by the rows of
the later loans. -/
theorem repaid_later (hbc : b ≤ c) (dated : Int → Bool) :
    repaid (db.paidRows (db.loansUpTo memberId c) dated) =
      repaid (db.paidRows (db.loansUpTo memberId b) dated) +
        Table.sumOver (fun r => (r.amountPaid : Int)) (db.repayments.filter fun r =>
          r.status == .paid && db.hasLoan memberId c r.loanId && !db.hasLoan memberId b r.loanId &&
            dated r.paymentDate) := by
  have hrows : ∀ p : RecordedRepayment → Bool, repaid (Table.selectRows p db.repayments) =
      Table.sumOver (fun r => (r.amountPaid : Int)) (db.repayments.filter p) := by
    intro p
    rw [← Table.map_snd_selectRows, Table.sumOver_map]
    rfl
  rw [paidRows_eq, paidRows_eq, hrows, hrows,
    Table.sumOver_filter_split (fun r => db.hasLoan memberId b r.loanId), List.filter_filter,
    List.filter_filter]
  congr 2
  · refine List.filter_congr fun r _ => ?_
    rw [Bool.eq_iff_iff]
    simp only [Bool.and_eq_true]
    constructor
    · exact fun h => ⟨⟨h.1, h.2.1.2⟩, h.2.2⟩
    · exact fun h => ⟨h.1.1, ⟨hasLoan_mono hbc h.1.1, h.1.2⟩, h.2⟩
  · refine List.filter_congr fun r _ => ?_
    rw [Bool.eq_iff_iff]
    simp only [Bool.and_eq_true]
    tauto

theorem ahead_zero_iff :
    Table.sumOver (fun r => (r.amountPaid : Int)) (db.repayments.filter (db.paidAhead memberId b c)) = 0 ↔
      ∀ r ∈ db.repayments, db.paidAhead memberId b c r = true → r.amountPaid = 0 := by
  constructor
  · intro h r hr hahead
    obtain ⟨i, hi⟩ := List.mem_iff_getElem?.mp (List.mem_filter.mpr ⟨hr, hahead⟩)
    have hle := Table.le_sumOver (g := fun r => (r.amountPaid : Int)) hi fun _ _ => Int.natCast_nonneg _
    rw [h] at hle
    exact Int.natCast_nonpos_iff.mp hle
  · intro h
    refine Table.sumOver_zero fun r hr => ?_
    obtain ⟨hr, hahead⟩ := List.mem_filter.mp hr
    rw [h r hr hahead]
    rfl

theorem fosaOpening_next (hbc : b ≤ c) : fosaOpening db memberId ⟨b + 1, c⟩ =
    disbursed (db.loansUpTo memberId b) - repaid (db.paidRows (db.loansUpTo memberId c) (· ≤ b)) := by
  unfold fosaOpening
  dsimp only
  rw [disbursed_before hbc]
  congr 3
  exact funext fun t => decide_eq_decide.mpr Int.lt_add_one_iff

/-- The first statement closes as the second opens exactly if nothing is paid on a row that comes
before its loan. -/
theorem closing_eq_opening_iff (db : StatementDb) (memberId : Nat) (hab : a ≤ b + 1) (hbc : b ≤ c) :
    closing StatementTransaction.amount (fosaOpening db memberId ⟨a, b⟩)
        ((db.fosaItems memberId ⟨a, b⟩).map Prod.snd) = fosaOpening db memberId ⟨b + 1, c⟩ ↔
      ∀ r ∈ db.repayments, db.paidAhead memberId b c r = true → r.amountPaid = 0 := by
  rw [fosa_closing hab, fosaOpening_next hbc, repaid_later hbc, ← ahead_zero_iff]
  unfold StatementDb.paidAhead
  omega

/-- The statements of the first and of both periods open alike when nothing is paid on the rows that
come before their loan. -/
theorem fosaOpening_same (hab : a ≤ b + 1) (hbc : b ≤ c)
    (h : ∀ r ∈ db.repayments, db.paidAhead memberId b c r = true → r.amountPaid = 0) :
    fosaOpening db memberId ⟨a, c⟩ = fosaOpening db memberId ⟨a, b⟩ := by
  have hrows : repaid (db.paidRows (db.loansUpTo memberId c) (· < a)) =
      repaid (db.paidRows (db.loansUpTo memberId b) (· < a)) := by
    rw [repaid_later hbc, Table.sumOver_zero, add_zero]
    intro r hr
    obtain ⟨hr, hlater⟩ := List.mem_filter.mp hr
    simp only [Bool.and_eq_true, decide_eq_true_eq] at hlater
    rw [h r hr (by
      simp only [StatementDb.paidAhead, hlater.1, Bool.and_eq_true, decide_eq_true_eq, true_and]
      omega)]
    rfl
  unfold fosaOpening
  dsimp only
  rw [loansUpTo_before hbc hab, hrows]

end StatementLemmas

open StatementLemmas

/-! ## 7. Two statements and the one of both periods -/

/-- The first statement closes as the second opens, and their lists make up that of the whole. -/
structure Tiles (first second whole : MemberStatement) : Prop where
  closes : first.closingBalance = second.openingBalance
  lists : first.transactions ++ second.transactions = whole.transactions

/-- The pages of a statement, as many as each of them says there are, make up the whole. -/
structure Pages (get : StatementOptions → Except StatementErr MemberStatement) (skipConsent : Bool)
    (limit : Int) (whole : MemberStatement) (pages : List MemberStatement) : Prop where
  returned : ∀ (p : Nat) (page : MemberStatement), pages[p]? = some page →
    get ⟨skipConsent, some (p + 1), some limit⟩ = .ok page
  count : ∀ page ∈ pages, page.pageMeta.map (·.totalPages) = some pages.length
  lists : pages.flatMap (·.transactions) = whole.transactions

def StatementDb.fosa (db : StatementDb) (clock : StatementClock) (userId memberId : Nat)
    (first last : Int) (options : StatementOptions) : Except StatementErr MemberStatement :=
  (db.getFosaStatement clock userId (some memberId) (some first) (some last) options).map
    (·.toMemberStatement)

def StatementDb.bosa (db : StatementDb) (clock : StatementClock) (userId memberId : Nat)
    (first last : Int) (options : StatementOptions) : Except StatementErr MemberStatement :=
  (db.getBosaStatement clock userId (some memberId) (some first) (some last) options).map
    (·.toMemberStatement)

/-- The instants at which a day starts and ends. -/
def StatementClock.startOf (clock : StatementClock) (day : Int) : Int :=
  clock.dayStart (day * msPerDay)

def StatementClock.endOf (clock : StatementClock) (day : Int) : Int :=
  clock.dayEnd (day * msPerDay)

/-- Nothing is paid on a row that is dated by `b` for a loan disbursed after it, by `c`, and no such
row is dated from `a` on. -/
def StatementDb.NothingAhead (db : StatementDb) (memberId : Nat) (a b c : Int) : Prop :=
  ∀ r ∈ db.repayments, db.paidAhead memberId b c r = true → r.amountPaid = 0 ∧ r.paymentDate < a

namespace StatementLemmas

variable {userId : Nat} {skipConsent : Bool} {member : StatementMember}

theorem startOf_next (day : Int) : clock.startOf (day + 1) = clock.endOf day + 1 := by
  unfold StatementClock.startOf StatementClock.endOf StatementClock.dayEnd StatementClock.dayStart
  rw [show msPerDay = 86400000 from rfl]
  omega

theorem endOf_mono (h : a ≤ b) : clock.endOf a ≤ clock.endOf b := by
  unfold StatementClock.endOf StatementClock.dayEnd StatementClock.dayStart
  rw [show msPerDay = 86400000 from rfl]
  omega

theorem startOf_le (h : a ≤ b) : clock.startOf a ≤ clock.endOf b + 1 := by
  unfold StatementClock.startOf StatementClock.endOf StatementClock.dayEnd StatementClock.dayStart
  rw [show msPerDay = 86400000 from rfl]
  omega

theorem resolve_ok_iff {defaultDays : Int} {period : StatementPeriod} :
    resolveStatementPeriod clock (some a) (some b) defaultDays = .ok period ↔
      a ≤ b ∧ clock.endOf b ≤ clock.dayEnd clock.now ∧
        period = ⟨clock.startOf a, clock.endOf b⟩ := by
  have hle : clock.startOf a ≤ clock.endOf b ↔ a ≤ b := by
    unfold StatementClock.startOf StatementClock.endOf StatementClock.dayEnd StatementClock.dayStart
    rw [show msPerDay = 86400000 from rfl]
    omega
  unfold resolveStatementPeriod
  dsimp only [Option.map_some, Option.getD_some]
  change (if clock.dayEnd clock.now < clock.startOf a ∨ clock.dayEnd clock.now < clock.endOf b then _
    else if clock.endOf b < clock.startOf a then _ else _) = _ ↔ _
  rw [← hle]
  split
  · next hfuture =>
    refine iff_of_false (fun h => by cases h) fun h => ?_
    have := h.1
    have := h.2.1
    omega
  · next hpast =>
    split
    · next hlate => exact iff_of_false (fun h => by cases h) fun h => absurd h.1 (Int.not_le.mpr hlate)
    · next hin =>
      constructor
      · intro h
        cases h
        exact ⟨Int.not_lt.mp hin, Int.not_lt.mp (not_or.mp hpast).2, rfl⟩
      · rintro ⟨_, _, rfl⟩
        rfl

/-- A statement is returned exactly if the member and the period pass the checks, which do not depend
on the page. -/
theorem request_ok_iff {σ : Type} {options : StatementOptions} {defaultDays : Int}
    (build : Nat → StatementMember → StatementPeriod → σ) (body : σ → MemberStatement)
    {s : MemberStatement} :
    Except.map body (do
        let row ← db.statementMember userId (some memberId) options
        let period ← resolveStatementPeriod clock (some a) (some b) defaultDays
        pure (build row.1 row.2 period)) = .ok s ↔
      ∃ member, db.statementMember userId (some memberId) options = .ok (memberId, member) ∧
        a ≤ b ∧ clock.endOf b ≤ clock.dayEnd clock.now ∧
          s = body (build memberId member ⟨clock.startOf a, clock.endOf b⟩) := by
  have hid : ∀ {row : Nat × StatementMember},
      db.statementMember userId (some memberId) options = .ok row → row.1 = memberId := by
    intro row h
    unfold StatementDb.statementMember ensureConsent at h
    dsimp only at h
    split at h
    · cases hm : db.members[memberId]? with
      | none => rw [hm] at h; cases h
      | some member => rw [hm] at h; cases h; rfl
    · cases h
  cases hmember : db.statementMember userId (some memberId) options with
  | error e => exact iff_of_false (fun h => by cases h) (fun h => by obtain ⟨_, h, _⟩ := h; cases h)
  | ok row =>
    obtain ⟨id, member⟩ := row
    cases hid hmember
    cases hperiod : resolveStatementPeriod clock (some a) (some b) defaultDays with
    | error e =>
      refine iff_of_false (fun h => by cases h) fun h => ?_
      obtain ⟨_, _, hab, hnow, _⟩ := h
      rw [resolve_ok_iff.mpr ⟨hab, hnow, rfl⟩] at hperiod
      cases hperiod
    | ok period =>
      obtain ⟨hab, hnow, rfl⟩ := resolve_ok_iff.mp hperiod
      constructor
      · intro h
        cases h
        exact ⟨member, rfl, hab, hnow, rfl⟩
      · rintro ⟨_, h, _, _, rfl⟩
        cases h
        rfl

theorem fosa_ok_iff {options : StatementOptions} {s : MemberStatement} :
    db.fosa clock userId memberId a b options = .ok s ↔
      ∃ member, db.statementMember userId (some memberId) options = .ok (memberId, member) ∧
        a ≤ b ∧ clock.endOf b ≤ clock.dayEnd clock.now ∧
          s = (db.fosaStatement clock memberId member ⟨clock.startOf a, clock.endOf b⟩
            options).toMemberStatement :=
  request_ok_iff (fun id member period => db.fosaStatement clock id member period options) _

theorem bosa_ok_iff {options : StatementOptions} {s : MemberStatement} :
    db.bosa clock userId memberId a b options = .ok s ↔
      ∃ member, db.statementMember userId (some memberId) options = .ok (memberId, member) ∧
        a ≤ b ∧ clock.endOf b ≤ clock.dayEnd clock.now ∧
          s = (db.bosaStatement clock memberId member ⟨clock.startOf a, clock.endOf b⟩
            options).toMemberStatement :=
  request_ok_iff (fun id member period => db.bosaStatement clock id member period options) _

/-- The checks read nothing of the page. -/
theorem statementMember_page (page limit : Option Int) :
    db.statementMember userId (some memberId) ⟨skipConsent, page, limit⟩ =
      db.statementMember userId (some memberId) ⟨skipConsent, none, none⟩ := rfl

theorem withBalances_append (balance : Int) (txs txs' : List StatementTransaction) :
    withBalances balance (txs ++ txs') = withBalances balance txs ++
      withBalances (closing StatementTransaction.amount balance txs) txs' := by
  unfold withBalances
  rw [balances_append, List.map_append, closing_eq]

theorem withBalances_length (balance : Int) (txs : List StatementTransaction) :
    (withBalances balance txs).length = txs.length := by
  unfold withBalances
  rw [List.length_map, balances_length]

/-- What the FOSA statement of a period consists of, all on one page. -/
theorem fosaStatement_body (db : StatementDb) (clock : StatementClock) (memberId : Nat)
    (member : StatementMember) (skipConsent : Bool) (period : StatementPeriod) :
    (db.fosaStatement clock memberId member period ⟨skipConsent, none, none⟩).openingBalance =
        fosaOpening db memberId period ∧
      (db.fosaStatement clock memberId member period ⟨skipConsent, none, none⟩).closingBalance =
        closing StatementTransaction.amount (fosaOpening db memberId period)
          ((db.fosaItems memberId period).map Prod.snd) ∧
      (db.fosaStatement clock memberId member period ⟨skipConsent, none, none⟩).transactions =
        withBalances (fosaOpening db memberId period) ((db.fosaItems memberId period).map Prod.snd) := by
  rw [← sorted_entries]
  exact ⟨rfl, rfl, rfl⟩

/-- The FOSA statements of two periods make up that of both exactly if nothing is paid ahead of a
loan of the second period. -/
theorem fosa_tiles_iff (hab : a ≤ b) (hbc : b < c) :
    Tiles
        (db.fosaStatement clock memberId member ⟨clock.startOf a, clock.endOf b⟩
          ⟨skipConsent, none, none⟩).toMemberStatement
        (db.fosaStatement clock memberId member ⟨clock.startOf (b + 1), clock.endOf c⟩
          ⟨skipConsent, none, none⟩).toMemberStatement
        (db.fosaStatement clock memberId member ⟨clock.startOf a, clock.endOf c⟩
          ⟨skipConsent, none, none⟩).toMemberStatement ↔
      db.NothingAhead memberId (clock.startOf a) (clock.endOf b) (clock.endOf c) := by
  have hle : clock.endOf b ≤ clock.endOf c := endOf_mono (Int.le_of_lt hbc)
  have hstart : clock.startOf a ≤ clock.endOf b + 1 := startOf_le hab
  have hbody := fosaStatement_body db clock memberId member skipConsent
  have htiles := closing_eq_opening_iff db memberId hstart hle
  rw [startOf_next]
  constructor
  · intro h
    have hcloses := h.closes
    have hlists := congrArg List.length h.lists
    rw [(hbody _).2.1, (hbody _).1] at hcloses
    rw [List.length_append, (hbody _).2.2, (hbody _).2.2, (hbody _).2.2, withBalances_length,
      withBalances_length, withBalances_length, List.length_map, List.length_map,
      List.length_map] at hlists
    have hzero := htiles.mp hcloses
    have hearly := early_of_length hstart hle hlists.symm
    exact fun r hr hahead => ⟨hzero r hr hahead, hearly r hr hahead⟩
  · intro h
    have hzero : ∀ r ∈ db.repayments, db.paidAhead memberId (clock.endOf b) (clock.endOf c) r = true →
        r.amountPaid = 0 := fun r hr hahead => (h r hr hahead).1
    have hcloses := htiles.mpr hzero
    refine ⟨?_, ?_⟩
    · rw [(hbody _).2.1, (hbody _).1]
      exact hcloses
    · rw [(hbody _).2.2, (hbody _).2.2, (hbody _).2.2, fosaOpening_same hstart hle hzero,
        fosaItems_split hstart hle fun r hr hahead => (h r hr hahead).2, List.map_append,
        withBalances_append, hcloses]

/-! ### The BOSA statement -/

def bosaEntries (db : StatementDb) (memberId : Nat) (period : StatementPeriod) :
    List StatementTransaction :=
  (inOrder (fun row => row.2.periodDate) (db.savingsOf memberId fun date =>
    period.first ≤ date && date ≤ period.last)).map fun row => savingsEntry row.1 row.2

def bosaOpening (db : StatementDb) (memberId : Nat) (first : Int) : Int :=
  Table.sumOver (fun row => (row.2.amount : Int)) (db.savingsOf memberId (· < first))

theorem savingsOf_filter {dated dated' : Int → Bool} (q : Int → Bool)
    (h : ∀ date, (dated date = true ∧ q date = true) ↔ dated' date = true) :
    (db.savingsOf memberId dated).filter (fun row => q row.2.periodDate) =
      db.savingsOf memberId dated' := by
  unfold StatementDb.savingsOf
  rw [Table.filter_selectRows (q := fun record : SavingsRecord => q record.periodDate)]
  refine congrArg (Table.selectRows · _) (funext fun record => ?_)
  rw [Bool.and_assoc, Bool.eq_iff_iff.mpr (Bool.and_eq_true_iff.trans (h _))]

theorem bosaEntries_split (hab : a ≤ b + 1) (hbc : b ≤ c) : bosaEntries db memberId ⟨a, c⟩ =
    bosaEntries db memberId ⟨a, b⟩ ++ bosaEntries db memberId ⟨b + 1, c⟩ := by
  unfold bosaEntries
  rw [inOrder_split b, List.map_append]
  congr 3
  · refine savingsOf_filter (fun date => decide (date ≤ b)) fun date => ?_
    simp only [Bool.and_eq_true, decide_eq_true_eq]
    omega
  · refine savingsOf_filter (fun date => decide (b < date)) fun date => ?_
    simp only [Bool.and_eq_true, decide_eq_true_eq]
    omega

theorem bosaOpening_next (hab : a ≤ b + 1) : bosaOpening db memberId (b + 1) =
    closing (fun tx => (tx.credit : Int)) (bosaOpening db memberId a)
      (bosaEntries db memberId ⟨a, b⟩) := by
  rw [closing_eq]
  unfold bosaOpening bosaEntries
  rw [Table.sumOver_map, Table.sumOver_perm (inOrder_perm _),
    Table.sumOver_filter_split (fun row => decide (row.2.periodDate < a))
      (db.savingsOf memberId (· < b + 1))]
  congr 2
  · refine savingsOf_filter (fun date => decide (date < a)) fun date => ?_
    simp only [decide_eq_true_eq]
    omega
  · refine savingsOf_filter (fun date => !decide (date < a)) fun date => ?_
    simp only [Bool.and_eq_true, decide_eq_true_eq, Bool.not_eq_true', decide_eq_false_iff_not]
    omega

/-- The BOSA statements of two periods make up that of both. -/
theorem bosa_tiles (hab : a ≤ b) (hbc : b < c) :
    Tiles
      (db.bosaStatement clock memberId member ⟨clock.startOf a, clock.endOf b⟩
        ⟨skipConsent, none, none⟩).toMemberStatement
      (db.bosaStatement clock memberId member ⟨clock.startOf (b + 1), clock.endOf c⟩
        ⟨skipConsent, none, none⟩).toMemberStatement
      (db.bosaStatement clock memberId member ⟨clock.startOf a, clock.endOf c⟩
        ⟨skipConsent, none, none⟩).toMemberStatement := by
  have hle : clock.endOf b ≤ clock.endOf c := endOf_mono (Int.le_of_lt hbc)
  have hstart : clock.startOf a ≤ clock.endOf b + 1 := startOf_le hab
  rw [startOf_next]
  refine ⟨(bosaOpening_next hstart).symm, ?_⟩
  change _ ++ (balances (fun tx => (tx.credit : Int)) (bosaOpening db memberId (clock.endOf b + 1))
      (bosaEntries db memberId ⟨clock.endOf b + 1, clock.endOf c⟩)).map _ =
    (balances (fun tx => (tx.credit : Int)) (bosaOpening db memberId (clock.startOf a))
      (bosaEntries db memberId ⟨clock.startOf a, clock.endOf c⟩)).map _
  rw [bosaEntries_split hstart hle, balances_append, List.map_append, ← closing_eq,
    ← bosaOpening_next hstart]
  rfl

end StatementLemmas

/-! ## 8. The pages -/

/-- The pages of a statement make up the whole of it, for every page size. -/
theorem pages_whole {get : StatementOptions → Except StatementErr MemberStatement}
    {skipConsent : Bool} {txs : List StatementTransaction} (build : StatementOptions → MemberStatement)
    (limit : Int)
    (hget : ∀ page limit, get ⟨skipConsent, page, limit⟩ = .ok (build ⟨skipConsent, page, limit⟩))
    (hbuild : ∀ options, (build options).transactions = (paginateTransactions txs options).1 ∧
      (build options).pageMeta = (paginateTransactions txs options).2) :
    ∃ pages, Pages get skipConsent limit (build ⟨skipConsent, none, none⟩) pages := by
  have hn : 0 < (min 100 (max 1 limit)).toNat := by omega
  have hpage : ∀ p : Nat, paginateTransactions txs ⟨skipConsent, some (p + 1), some limit⟩ =
      (Timeline.page (min 100 (max 1 limit)).toNat txs p,
        some ⟨p + 1, (min 100 (max 1 limit)).toNat, txs.length,
          (txs.length + (min 100 (max 1 limit)).toNat - 1) / (min 100 (max 1 limit)).toNat⟩) := by
    intro p
    have hpaged : StatementOptions.paged ⟨skipConsent, some (p + 1), some limit⟩ = true := by
      have : (p : Int) + 1 ≠ 0 := by omega
      simp [StatementOptions.paged, this]
    have hnumber : (max 1 ((p : Int) + 1)).toNat = p + 1 := by omega
    unfold paginateTransactions
    rw [if_pos hpaged]
    dsimp only [Option.getD_some]
    rw [hnumber, Nat.add_sub_cancel]
  refine ⟨(List.range ((txs.length + (min 100 (max 1 limit)).toNat - 1) /
    (min 100 (max 1 limit)).toNat)).map fun (p : Nat) =>
      build ⟨skipConsent, some (p + 1), some limit⟩, ?_, ?_, ?_⟩
  · intro p page h
    obtain ⟨q, hq, rfl⟩ := List.mem_map.mp (List.mem_of_getElem? h)
    rw [List.getElem?_map] at h
    obtain ⟨r, hr, heq⟩ := Option.map_eq_some_iff.mp h
    obtain ⟨_, hr⟩ := List.getElem?_eq_some_iff.mp hr
    rw [List.getElem_range] at hr
    rw [← heq, hr, hget]
  · intro page h
    obtain ⟨p, _, rfl⟩ := List.mem_map.mp h
    rw [(hbuild _).2, hpage, List.length_map, List.length_range]
    rfl
  · rw [List.flatMap_map, (hbuild _).1]
    refine Eq.trans ?_ (flatMap_pages hn txs)
    refine congrArg (List.flatMap · _) (funext fun p => ?_)
    rw [(hbuild _).1, hpage]

/-! ## 9. The closing balance -/

def StatementDb.principalDisbursed (db : StatementDb) (memberId : Nat) (upTo : Int) : Int :=
  Table.sumOver (fun loan => (loan.principalAmount : Int))
    (db.loans.filter fun loan => loan.memberId == memberId && loan.disbursedUpTo upTo)

def StatementDb.ofMember (db : StatementDb) (memberId loanId : Nat) : Bool :=
  db.loans[loanId]?.any fun loan => loan.memberId == memberId

/-- The principal in all money that came for the loans of the member. -/
def StatementDb.principalReceived (db : StatementDb) (memberId : Nat) (upTo : Int) : Int :=
  Table.sumOver (RecordedRepayment.received upTo)
    (db.repayments.filter fun r => db.ofMember memberId r.loanId)

/-- The rows that the statements up to an instant subtract. -/
def StatementDb.shown (db : StatementDb) (memberId : Nat) (upTo : Int) (r : RecordedRepayment) : Bool :=
  db.hasLoan memberId upTo r.loanId && r.status == .paid && r.paymentDate ≤ upTo

/-- What the rows shown have beside principal received (interest, penalties and what came later) is as
much as the principal received for the rows not shown. -/
def StatementDb.Accounted (db : StatementDb) (memberId : Nat) (upTo : Int) : Prop :=
  Table.sumOver (fun r => (r.amountPaid : Int) - r.received upTo)
      (db.repayments.filter (db.shown memberId upTo)) =
    Table.sumOver (RecordedRepayment.received upTo)
      (db.repayments.filter fun r => db.ofMember memberId r.loanId && !db.shown memberId upTo r)

instance : Decidable (db.Accounted memberId a) := inferInstanceAs (Decidable (_ = _))

instance : Decidable (db.NothingAhead memberId a b c) :=
  inferInstanceAs (Decidable (∀ r ∈ db.repayments, _))

namespace StatementLemmas

theorem ofMember_of_hasLoan {loanId : Nat} (h : db.hasLoan memberId b loanId = true) :
    db.ofMember memberId loanId = true := by
  unfold StatementDb.hasLoan at h
  unfold StatementDb.ofMember
  cases hloan : db.loans[loanId]? with
  | none => rw [hloan] at h; cases h
  | some loan =>
    rw [hloan, Option.any_some, Bool.and_eq_true] at h
    exact h.1

/-- The statement up to an instant closes with the principal still owed exactly if the rows account for
it. -/
theorem fosa_closes_iff (hab : a ≤ b + 1) :
    closing StatementTransaction.amount (fosaOpening db memberId ⟨a, b⟩)
        ((db.fosaItems memberId ⟨a, b⟩).map Prod.snd) =
      db.principalDisbursed memberId b - db.principalReceived memberId b ↔ db.Accounted memberId b := by
  have hdisbursed : disbursed (db.loansUpTo memberId b) = db.principalDisbursed memberId b := by
    unfold disbursed StatementDb.loansUpTo StatementDb.principalDisbursed
    rw [Table.sumOver_perm (inOrder_perm _), ← Table.map_snd_selectRows, Table.sumOver_map]
  have hrepaid : repaid (db.paidRows (db.loansUpTo memberId b) (· ≤ b)) =
      Table.sumOver (fun r => (r.amountPaid : Int)) (db.repayments.filter (db.shown memberId b)) := by
    rw [paidRows_eq, ← Table.map_snd_selectRows, Table.sumOver_map]
    rfl
  have hreceived := Table.sumOver_filter_split (g := RecordedRepayment.received b)
    (db.shown memberId b) (db.repayments.filter fun r => db.ofMember memberId r.loanId)
  have hshown : (db.repayments.filter fun r => db.ofMember memberId r.loanId).filter
      (db.shown memberId b) = db.repayments.filter (db.shown memberId b) := by
    rw [List.filter_filter]
    refine List.filter_congr fun r _ => ?_
    rw [Bool.eq_iff_iff, Bool.and_eq_true]
    refine ⟨And.left, fun h => ⟨h, ?_⟩⟩
    unfold StatementDb.shown at h
    rw [Bool.and_eq_true, Bool.and_eq_true] at h
    exact ofMember_of_hasLoan h.1.1
  rw [hshown, List.filter_filter] at hreceived
  have hhidden : (db.repayments.filter fun r => !db.shown memberId b r && db.ofMember memberId r.loanId) =
      db.repayments.filter fun r => db.ofMember memberId r.loanId && !db.shown memberId b r :=
    List.filter_congr fun r _ => Bool.and_comm _ _
  rw [hhidden] at hreceived
  rw [fosa_closing hab, hdisbursed, hrepaid]
  unfold StatementDb.Accounted StatementDb.principalReceived
  rw [Table.sumOver_sub, hreceived]
  omega

end StatementLemmas

/-! ## 10. All of it -/

/-- The statements that are returned tile, and their pages make them up. -/
structure StatementsTile (get : Int → Int → StatementOptions → Except StatementErr MemberStatement)
    (skipConsent : Bool) (a b c : Int) : Prop where
  tiles : ∀ first second whole, get a b ⟨skipConsent, none, none⟩ = .ok first →
    get (b + 1) c ⟨skipConsent, none, none⟩ = .ok second →
      get a c ⟨skipConsent, none, none⟩ = .ok whole → Tiles first second whole
  pages : ∀ first last limit whole, get first last ⟨skipConsent, none, none⟩ = .ok whole →
    ∃ pages, Pages (get first last) skipConsent limit whole pages

structure StatementsAccount (db : StatementDb) (clock : StatementClock) (userId memberId : Nat)
    (skipConsent : Bool) (a b c : Int) : Prop where
  fosa : StatementsTile (db.fosa clock userId memberId) skipConsent a b c
  bosa : StatementsTile (db.bosa clock userId memberId) skipConsent a b c
  closes : ∀ last s, last = b ∨ last = c →
    db.fosa clock userId memberId a last ⟨skipConsent, none, none⟩ = .ok s →
      s.closingBalance = db.principalDisbursed memberId (clock.endOf last) -
        db.principalReceived memberId (clock.endOf last)

/-- The statements of a member account for all money exactly if nothing is paid ahead of a loan of the
second period and, up to the end of each, the rows shown stand for the principal received. -/
theorem statements_account_iff (db : StatementDb) (clock : StatementClock) (userId memberId : Nat)
    (skipConsent : Bool) (a b c : Int) (whole : MemberStatement) (hab : a ≤ b) (hbc : b < c)
    (hwhole : db.fosa clock userId memberId a c ⟨skipConsent, none, none⟩ = .ok whole) :
    StatementsAccount db clock userId memberId skipConsent a b c ↔
      db.NothingAhead memberId (clock.startOf a) (clock.endOf b) (clock.endOf c) ∧
        db.Accounted memberId (clock.endOf b) ∧ db.Accounted memberId (clock.endOf c) := by
  obtain ⟨member, hmember, hac, hnow, -⟩ := fosa_ok_iff.mp hwhole
  have hle : clock.endOf b ≤ clock.endOf c := endOf_mono (Int.le_of_lt hbc)
  -- every part of the time is answered, since the whole of it was: the member and the clock are the
  -- same
  have hfosa : ∀ first last, first ≤ last → clock.endOf last ≤ clock.dayEnd clock.now →
      ∀ page limit, db.fosa clock userId memberId first last ⟨skipConsent, page, limit⟩ =
        .ok (db.fosaStatement clock memberId member ⟨clock.startOf first, clock.endOf last⟩
          ⟨skipConsent, page, limit⟩).toMemberStatement := fun first last hle hnow page limit =>
    fosa_ok_iff.mpr ⟨member, (statementMember_page page limit).trans hmember, hle, hnow, rfl⟩
  -- the closing balance is right just when the rows account for the principal received
  have hcloses : ∀ last, a ≤ last → clock.endOf last ≤ clock.dayEnd clock.now →
      ((∀ s, db.fosa clock userId memberId a last ⟨skipConsent, none, none⟩ = .ok s →
          s.closingBalance = db.principalDisbursed memberId (clock.endOf last) -
            db.principalReceived memberId (clock.endOf last)) ↔
        db.Accounted memberId (clock.endOf last)) := by
    intro last hal hlast
    rw [← fosa_closes_iff (startOf_le hal), ← (fosaStatement_body db clock memberId member skipConsent
      ⟨clock.startOf a, clock.endOf last⟩).2.1]
    constructor
    · exact fun h => h _ (hfosa a last hal hlast none none)
    · intro h s hs
      rw [hfosa a last hal hlast none none] at hs
      cases hs
      exact h
  constructor
  · intro h
    refine ⟨?_, ?_, ?_⟩
    · exact (fosa_tiles_iff hab hbc).mp (h.fosa.tiles _ _ _
        (hfosa a b hab (Int.le_trans hle hnow) none none)
        (hfosa (b + 1) c (Int.add_one_le_of_lt hbc) hnow none none) (hfosa a c hac hnow none none))
    · exact (hcloses b hab (Int.le_trans hle hnow)).mp fun s => h.closes b s (.inl rfl)
    · exact (hcloses c hac hnow).mp fun s => h.closes c s (.inr rfl)
  · rintro ⟨hahead, hb, hc⟩
    refine ⟨⟨?_, ?_⟩, ⟨?_, ?_⟩, ?_⟩
    · intro first second whole h₁ h₂ h₃
      rw [hfosa a b hab (Int.le_trans hle hnow) none none] at h₁
      rw [hfosa (b + 1) c (Int.add_one_le_of_lt hbc) hnow none none] at h₂
      rw [hfosa a c hac hnow none none] at h₃
      cases h₁
      cases h₂
      cases h₃
      exact (fosa_tiles_iff hab hbc).mpr hahead
    · intro first last limit whole h
      obtain ⟨member, hmember, hfl, hlast, rfl⟩ := fosa_ok_iff.mp h
      exact pages_whole (fun options => (db.fosaStatement clock memberId member
          ⟨clock.startOf first, clock.endOf last⟩ options).toMemberStatement) limit
        (fun page limit => fosa_ok_iff.mpr
          ⟨member, (statementMember_page page limit).trans hmember, hfl, hlast, rfl⟩)
        fun options => ⟨rfl, rfl⟩
    · intro first second whole h₁ h₂ h₃
      obtain ⟨member, hmember, -, -, rfl⟩ := bosa_ok_iff.mp h₁
      obtain ⟨_, hmember₂, -, -, rfl⟩ := bosa_ok_iff.mp h₂
      obtain ⟨_, hmember₃, -, -, rfl⟩ := bosa_ok_iff.mp h₃
      cases hmember.symm.trans hmember₂
      cases hmember.symm.trans hmember₃
      exact bosa_tiles hab hbc
    · intro first last limit whole h
      obtain ⟨member, hmember, hfl, hlast, rfl⟩ := bosa_ok_iff.mp h
      exact pages_whole (fun options => (db.bosaStatement clock memberId member
          ⟨clock.startOf first, clock.endOf last⟩ options).toMemberStatement) limit
        (fun page limit => bosa_ok_iff.mpr
          ⟨member, (statementMember_page page limit).trans hmember, hfl, hlast, rfl⟩)
        fun options => ⟨rfl, rfl⟩
    · intro last s hlast hs
      rcases hlast with rfl | rfl
      · exact (hcloses last hab (Int.le_trans hle hnow)).mpr hb s hs
      · exact (hcloses last hac hnow).mpr hc s hs

/-- KES 1,000 disbursed on day 900, to be repaid with KES 10 of interest on day 930. -/
def exStatementLoan : Loan :=
  ⟨0, 0, "LN-1", .active, 10000000, 0, 10000000, 0, 0, 0, 0, .performing, 0,
    some (900 * msPerDay), some (930 * msPerDay), none, true⟩

def exInstalment (interestDue : Nat) : RecordedRepayment :=
  { loanId := 0, dayNumber := 1, amountPaid := 0, status := .pending, method := "SCHEDULED",
    dueDate := 930 * msPerDay, principalDue := 10000000, interestDue := interestDue, penaltyDue := 0,
    principalPaid := 0, interestPaid := 0, penaltyPaid := 0, paidAt := none,
    lastPenaltyAccrualDate := none, receipts := [] }

def exMemberStatements (r : RecordedRepayment) : StatementDb where
  members := [⟨"M-001", "Amina", "Odhiambo"⟩]
  loans := [exStatementLoan]
  repayments := [r]
  savings := [⟨some 0, 1, 500000, 905 * msPerDay, .individual⟩]
  consents := [4]

/-- A request in Nairobi on day 1000. -/
def exClock : StatementClock := ⟨1000 * msPerDay, 10800000⟩

/-- An instalment without interest, paid on the day it is due. -/
theorem statements_account_paid :
    StatementsAccount
      (exMemberStatements ((exInstalment 0).pay ⟨0, 0, 10000000⟩ (930 * msPerDay))) exClock 4 0
      false 900 920 950 := by
  obtain ⟨whole, hwhole⟩ : ∃ whole, (exMemberStatements ((exInstalment 0).pay ⟨0, 0, 10000000⟩
      (930 * msPerDay))).fosa exClock 4 0 900 950 ⟨false, none, none⟩ = .ok whole := ⟨_, rfl⟩
  exact (statements_account_iff _ exClock 4 0 false 900 920 950 whole (by decide) (by decide)
    hwhole).mpr ⟨by decide +kernel, by decide +kernel, by decide +kernel⟩

/-- KES 400 come in on day 910, and the statements up to day 940 do not show them. -/
theorem statement_skips_partial :
    ¬ StatementsAccount
      (exMemberStatements ((exInstalment 100000).pay ⟨0, 100000, 3900000⟩ (910 * msPerDay)))
      exClock 4 0 false 900 940 950 := by
  intro h
  obtain ⟨s, hs, hclosing⟩ : ∃ s, (exMemberStatements ((exInstalment 100000).pay ⟨0, 100000, 3900000⟩
      (910 * msPerDay))).fosa exClock 4 0 900 940 ⟨false, none, none⟩ = .ok s ∧
        s.closingBalance = 10000000 := ⟨_, rfl, by decide +kernel⟩
  have hcloses := h.closes 940 s (.inl rfl) hs
  rw [hclosing] at hcloses
  revert hcloses
  decide +kernel

end BebaSacco
