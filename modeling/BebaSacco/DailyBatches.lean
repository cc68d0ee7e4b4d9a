import BebaSacco.ReferenceRows
import BebaSacco.InterestCharged
import BebaSacco.Lib.LockedBatch

/-! # The daily batches

`FinancialService.runDailyAccrual` charges every loan that is being repaid a day's interest, and
`Ifrs9EclService.calculateEclForTenant` writes every open loan a provisioning entry. Both take a
lock for the tenant and the date, read their list of loans once, and work through it with a
transaction for each loan whose failure is only logged. Nothing is undone: a start that is lost
after it took the lock leaves the others to return at once, and a loan that was paid after the list
was read is charged all the same.

Results:
 1. `due_of_listed`: a loan that is as it was listed is due, and it is not fully paid.
 2. `batches_exact`: when no start meets a lock that was left behind, no statement of a listed loan
    fails, and each loan is as it was listed when its accrual commits, the batches are complete and
    do no loan twice.
 3. `batches_left_undone`: otherwise a start returns with no loan done, and a loan that is fully
    paid is charged.
-/

namespace BebaSacco

open Txn LockedBatch FootprintLemmas InstallmentLemmas AccrualLemmas ReferenceLemmas

/-! ## 1. `runDailyAccrual` -/

/-- A loan on the list, with the FOSA account of its member. -/
structure AccrualItem where
  loanId : Nat
  loan : Loan
  fosaAccount : Option Nat
  deriving DecidableEq, Repr

/-- What is computed before the transaction of a loan, and the row that was listed. -/
structure AccrualPlan where
  loanId : Nat
  listed : Loan
  fosaAccountId : Nat
  dailyInterest : Nat
  dailyPenalty : Nat
  deriving DecidableEq, Repr

/-- What an accrual took from the FOSA account and added to the accrued interest, and the status of
the loan before and after it. -/
structure CommittedAccrual where
  plan : AccrualPlan
  debited : Int
  accrued : Int
  statusBefore : Option LoanStatus
  statusAfter : Option LoanStatus
  deriving DecidableEq, Repr

/-- The tables, and the accruals that were committed for the date. -/
structure AccrualDay where
  db : Db
  accruals : List CommittedAccrual

structure BatchCount where
  processed : Nat
  skipped : Nat
  deriving DecidableEq, Repr

def Db.balanceOf (db : Db) (accountId : Nat) : Int :=
  (db.accounts[accountId]?.map (·.balance)).getD 0

def Db.statusOf (db : Db) (loanId : Nat) : Option LoanStatus := db.loans[loanId]?.map (·.status)

def Db.accrualList (db : Db) (accrualDate : Int) : List AccrualItem :=
  (Table.selectRows (·.accruesOn accrualDate) db.loans).map fun (loanId, loan) =>
    { loanId, loan, fosaAccount := (db.activeAccount loan.memberId .fosa).map (·.1) }

/-- The loan and its account are those of the list; the schedule is read now. -/
def AccrualItem.plan (item : AccrualItem) (accrualDate : Int) (db : Db) : Option AccrualPlan :=
  if item.loan.outstandingBalance = 0 then none
  else item.fosaAccount.map fun fosaAccountId =>
    { loanId := item.loanId
      listed := item.loan
      fosaAccountId
      dailyInterest := db.computeScheduleBasedDailyInterest item.loanId item.loan accrualDate
      dailyPenalty := item.loan.maturityPenalty accrualDate }

/-- What the transaction of a loan did between the states `before` and `after`. -/
def AccrualPlan.committed (plan : AccrualPlan) (before after : Db) : CommittedAccrual where
  plan := plan
  debited := before.balanceOf plan.fosaAccountId - after.balanceOf plan.fosaAccountId
  accrued := after.accruedInterest plan.loanId - before.accruedInterest plan.loanId
  statusBefore := before.statusOf plan.loanId
  statusAfter := after.statusOf plan.loanId

/-- The transaction of one loan. The model keeps a record of what it did. -/
def AccrualPlan.accrue (plan : AccrualPlan) (accrualDate : Int) : Txn AccrualDay Err Unit := do
  let before ← get
  zoom AccrualDay.db (fun db day => { day with db := db })
    (accrueBody plan.loanId plan.fosaAccountId plan.dailyInterest plan.dailyPenalty accrualDate)
  modify fun after => { after with accruals := after.accruals ++ [plan.committed before.db after.db] }

/-- A loan that the accrual has nothing to do for counts as processed. -/
def runDailyAccrual (accrualDate : Int) :
    Batch AccrualDay Err AccrualItem AccrualPlan BatchCount where
  list day := day.db.accrualList accrualDate
  prepare item day := item.plan accrualDate day.db
  perform plan := plan.accrue accrualDate
  key := AccrualItem.loanId
  planKey := AccrualPlan.loanId
  planKey_eq item day plan h := by
    unfold AccrualItem.plan at h
    split at h
    · cases h
    · obtain ⟨_, _, rfl⟩ := Option.map_eq_some_iff.mp h
      rfl
  zero := ⟨0, 0⟩
  idle r := { r with processed := r.processed + 1 }
  done _ r := { r with processed := r.processed + 1 }
  failed r := { r with skipped := r.skipped + 1 }

/-- The two channels of repayment. -/
inductive Repayment
  | repay (params : RepayParams)
  | processRepayment (now : Int) (input : ProcessRepaymentInput)
  deriving DecidableEq, Repr

def Repayment.op : Repayment → Op
  | .repay params => .repay params
  | .processRepayment now input => .processRepayment now input

abbrev AccrualWorld := LockedBatch.World AccrualDay AccrualItem AccrualPlan BatchCount

/-- An event of a batch, or a repayment. -/
abbrev BatchEvent := LockedBatch.Event Repayment

def AccrualWorld.step (accrualDate : Int) (w : AccrualWorld) (e : BatchEvent) : AccrualWorld :=
  (runDailyAccrual accrualDate).step
    (fun repayment day => { day with db := BebaSacco.step day.db repayment.op }) w e

def Db.accrualWorld (db : Db) : AccrualWorld := ⟨⟨db, []⟩, false, [], [], false⟩

/-! ## 2. `calculateEclForTenant` -/

structure ProvisioningEntry where
  loanId : Nat
  calculationDate : Int
  staging : LoanStaging
  pd : ℚ
  lgd : ℚ
  ead : Nat
  eclAmount : Int
  macroAdjustment : ℚ
  deriving DecidableEq

def PD_RATES : LoanStaging → ℚ
  | .performing => 2 / 100
  | .watchlist => 15 / 100
  | .npl => 60 / 100

def LGD_UNSECURED : ℚ := 45 / 100

def LGD_SECURED : ℚ := 25 / 100

def GUARANTEE_COVERAGE_THRESHOLD : ℚ := 80 / 100

/-- A loan on the list, with what its accepted guarantors guarantee together. -/
structure EclItem where
  loanId : Nat
  loan : Loan
  totalGuaranteed : Nat

structure EclDay where
  db : Db
  provisioningEntries : List ProvisioningEntry

structure EclCount where
  processed : Nat
  skipped : Nat
  totalEcl : Int
  byStaging : List (LoanStaging × Nat × Int)
  deriving DecidableEq

def Loan.provisioned (loan : Loan) : Bool :=
  loan.status == .active || loan.status == .disbursed || loan.status == .defaulted

def Db.eclList (db : Db) : List EclItem :=
  (Table.selectRows (·.provisioned) db.loans).map fun (loanId, loan) =>
    { loanId
      loan
      totalGuaranteed := ((db.loanGuarantors.filter fun g =>
        g.loanId == loanId && g.status == .accepted).map (·.guaranteedAmount)).sum }

def EclItem.lgd (item : EclItem) : ℚ :=
  let coverageRatio : ℚ :=
    if 0 < item.loan.principalAmount then
      (item.totalGuaranteed : ℚ) / item.loan.principalAmount
    else 0
  if GUARANTEE_COVERAGE_THRESHOLD ≤ coverageRatio then LGD_SECURED else LGD_UNSECURED

/-- What is computed for a loan. -/
structure EclPlan where
  loanId : Nat
  staging : LoanStaging
  pd : ℚ
  lgd : ℚ
  ead : Nat
  eclAmount : Int

/-- `ECL = PD × LGD × EAD × macroAdjustment`. -/
def EclItem.plan (item : EclItem) (macroAdjustment : ℚ) : EclPlan where
  loanId := item.loanId
  staging := item.loan.staging
  pd := PD_RATES item.loan.staging
  lgd := item.lgd
  ead := item.loan.outstandingBalance
  eclAmount := toDecimalPlaces4 (PD_RATES item.loan.staging * item.lgd *
    ofUnits item.loan.outstandingBalance * macroAdjustment)

def EclPlan.entry (plan : EclPlan) (calculationDate : Int) (macroAdjustment : ℚ) :
    ProvisioningEntry where
  loanId := plan.loanId
  calculationDate := calculationDate
  staging := plan.staging
  pd := plan.pd
  lgd := plan.lgd
  ead := plan.ead
  eclAmount := plan.eclAmount
  macroAdjustment := ofUnits (toDecimalPlaces4 macroAdjustment)

/-- `provisioningEntry.findUnique`. -/
def EclDay.existing (day : EclDay) (calculationDate : Int) (loanId : Nat) : Bool :=
  day.provisioningEntries.any fun e => e.loanId == loanId && e.calculationDate == calculationDate

/-- `provisioningEntry.create`, under the unique columns. -/
def ProvisioningEntry.create (entry : ProvisioningEntry) : Txn EclDay Err Unit := do
  let day ← get
  ensure (day.existing entry.calculationDate entry.loanId = false)
    (.uniqueViolation "tenantId_loanId_calculationDate")
  modify fun day => { day with provisioningEntries := day.provisioningEntries ++ [entry] }

def addStaging (staging : LoanStaging) (ecl : Int) :
    List (LoanStaging × Nat × Int) → List (LoanStaging × Nat × Int)
  | [] => [(staging, 1, ecl)]
  | (key, count, total) :: rest =>
    if key = staging then (key, count + 1, total + ecl) :: rest
    else (key, count, total) :: addStaging staging ecl rest

/-- A loan that has its entry counts as skipped. -/
def calculateEclForTenant (calculationDate : Int) (macroAdjustment : ℚ) :
    Batch EclDay Err EclItem EclPlan EclCount where
  list day := day.db.eclList
  prepare item day :=
    if day.existing calculationDate item.loanId then none
    else some (item.plan macroAdjustment)
  perform plan := (plan.entry calculationDate macroAdjustment).create
  key := EclItem.loanId
  planKey := EclPlan.loanId
  planKey_eq item day plan h := by
    split at h
    · cases h
    · cases h
      rfl
  zero := ⟨0, 0, 0, []⟩
  idle r := { r with skipped := r.skipped + 1 }
  done plan r :=
    { r with
      processed := r.processed + 1
      totalEcl := r.totalEcl + plan.eclAmount
      byStaging := addStaging plan.staging plan.eclAmount r.byStaging }
  failed r := { r with skipped := r.skipped + 1 }

abbrev EclWorld := LockedBatch.World EclDay EclItem EclPlan EclCount

def EclWorld.step (calculationDate : Int) (macroAdjustment : ℚ) (w : EclWorld) (e : BatchEvent) :
    EclWorld :=
  (calculateEclForTenant calculationDate macroAdjustment).step
    (fun repayment day => { day with db := BebaSacco.step day.db repayment.op }) w e

/-! ## 3. What is asked for -/

/-- The loan is being repaid. -/
def Db.repaying (db : Db) (loanId : Nat) : Bool :=
  db.loans[loanId]?.any fun l => l.status == .active || l.status == .disbursed

def AccrualDay.accrualsOf (day : AccrualDay) (loanId : Nat) : List CommittedAccrual :=
  day.accruals.filter fun r => r.plan.loanId == loanId

/-- One accrual was committed for the loan; it added the day's interest to what is accrued, and the
row under its reference, if there is interest, is the debit of just as much. -/
def AccrualDay.AccruedOnce (day : AccrualDay) (accrualDate : Int) (loanId : Nat) : Prop :=
  ∃ r, day.accrualsOf loanId = [r] ∧ r.accrued = r.plan.dailyInterest ∧
    (day.db.rowsUnder (accrualReference day.db.tenantId loanId accrualDate)).map
      Transaction.charge =
    if r.plan.dailyInterest = 0 then []
    else [(.interestAccrual, some loanId, (r.plan.dailyInterest : Int))]

/-- No accrual charged a loan that was fully paid, or changed its status. -/
def AccrualDay.SparesPaid (day : AccrualDay) : Prop :=
  ∀ r ∈ day.accruals, r.statusBefore = some .fullyPaid → r.debited = 0 ∧
    r.statusAfter = some .fullyPaid

instance (day : AccrualDay) : Decidable day.SparesPaid :=
  inferInstanceAs (Decidable (∀ r ∈ day.accruals, _))

/-- One provisioning entry was written for the loan. -/
def EclDay.ProvisionedOnce (day : EclDay) (calculationDate : Int) (loanId : Nat) : Prop :=
  ∃ entry, day.provisioningEntries.filter
    (fun e => e.loanId == loanId && e.calculationDate == calculationDate) = [entry]

/-! ## 4. The condition -/

/-- The loan was not accrued on the date or after it. -/
def Loan.accruedBefore (loan : Loan) (accrualDate : Int) : Bool :=
  match loan.lastAccrualDate with
  | none => true
  | some last => last < accrualDate

/-- No loan was accrued on the date yet, and no row has the reference of such an accrual. -/
def Db.unaccruedOn (db : Db) (accrualDate : Int) : Bool :=
  db.loans.all (·.accruedBefore accrualDate) && db.transactions.all fun t =>
    (List.range db.loans.length).all fun loanId =>
      t.reference != accrualReference db.tenantId loanId accrualDate

def AccrualDay.accrued (day : AccrualDay) (loanId : Nat) : Bool :=
  day.accruals.any fun r => r.plan.loanId == loanId

/-- The status of the loan and the date of its last accrual are those that were listed. -/
def AccrualDay.asListed (day : AccrualDay) (plan : AccrualPlan) : Bool :=
  day.db.loans[plan.loanId]?.any fun l =>
    l.status == plan.listed.status && l.lastAccrualDate == plan.listed.lastAccrualDate

/-- A start that does not get the lock comes after one that worked through its list. A listed loan
that is not done yet has a balance and an account, and no statement of it fails; an accrual that
commits finds its loan as it was listed. -/
def AccrualWorld.orderly (accrualDate : Int) (w : AccrualWorld) : BatchEvent → Bool
  | .advance i reply =>
    match w.starts[i]?.join with
    | some .lock => w.completed || (reply == .ok && !w.locked)
    | some (.prepare (item :: _) _) => w.state.accrued item.loanId ||
        (reply == .ok && item.loan.outstandingBalance != 0 && item.fosaAccount.isSome)
    | some (.perform plan _ _) =>
      if reply != .fails && (runDailyAccrual accrualDate).commits plan w.state then
        w.state.asListed plan
      else w.state.accrued plan.loanId
    | _ => true
  | _ => true

/-- The same of the lock, and no statement of a loan without an entry fails. -/
def EclWorld.orderly (calculationDate : Int) (w : EclWorld) : BatchEvent → Bool
  | .advance i reply =>
    match w.starts[i]?.join with
    | some .lock => w.completed || (reply == .ok && !w.locked)
    | some (.prepare (item :: _) _) =>
      w.state.existing calculationDate item.loanId || reply == .ok
    | some (.perform plan _ _) =>
      w.state.existing calculationDate plan.loanId || reply != .fails
    | _ => true
  | _ => true

namespace BatchLemmas

variable {accrualDate : Int}

/-! ## 5. Repayments between the statements -/

theorem step_tenant_rows (db : Db) (repayment : Repayment) (tenantId : String) (l : Nat) :
    db.SameUnder (accrualReference tenantId l accrualDate) (step db repayment.op) := by
  refine Moves.commit' ?_ db
  cases repayment with
  | repay p =>
    exact Moves.bind' (repay_sameUnder fun tenant => repayReference_ne p tenant _ _ _) fun _ =>
      Moves.pure' ()
  | processRepayment now input =>
    exact Moves.bind' (processRepayment_sameUnder (fun _ _ => allocationReference_ne)
      overpayReference_ne) fun _ => Moves.pure' ()

theorem step_lastAccrual (db : Db) (repayment : Repayment) (loanId : Nat) :
    (step db repayment.op).loans[loanId]?.map (·.lastAccrualDate) =
      db.loans[loanId]?.map (·.lastAccrualDate) := by
  have hpaid : ∀ {l : Nat} {loan : Loan} {a : Allocation} {db' : Db}, Paid l loan a db db' →
      db'.loans[loanId]?.map (·.lastAccrualDate) =
        db.loans[loanId]?.map (·.lastAccrualDate) := by
    intro l loan a db' h
    obtain ⟨status, hloans⟩ := h.loans
    have hmap : db'.loans.map (·.lastAccrualDate) = db.loans.map (·.lastAccrualDate) := by
      rw [hloans]
      exact Table.map_modify_same fun _ => rfl
    rw [← List.getElem?_map, hmap, List.getElem?_map]
  rcases step_cases db repayment.op with ⟨u, hy⟩ | hsame
  · cases repayment with
    | repay p =>
      obtain ⟨r, mid, hr, hpure⟩ := yields_bind.mp hy
      obtain ⟨_, hend⟩ := yields_pure.mp hpure
      rw [← hend]
      rcases repay_paid hr with rfl | ⟨loan, _, _, _, hp⟩
      · rfl
      · exact hpaid hp
    | processRepayment now input =>
      obtain ⟨r, mid, hr, hpure⟩ := yields_bind.mp hy
      obtain ⟨_, hend⟩ := yields_pure.mp hpure
      rw [← hend]
      rcases processRepayment_paid hr with rfl | ⟨amount, l, loan, _, _, _, _, hp⟩
      · rfl
      · exact hpaid hp
  · rw [hsame]

/-! ## 6. The accruals of a date -/

/-- What is in the books of a date: a loan that was not accrued is still due and has no row under
its reference, a loan that was accrued was accrued once, and none of them was fully paid. -/
structure Booked (tenantId : String) (accrualDate : Int) (day : AccrualDay) : Prop where
  tenant : day.db.tenantId = tenantId
  due : ∀ loanId loan, day.db.loans[loanId]? = some loan → day.accrualsOf loanId = [] →
    loan.accruedBefore accrualDate = true ∧
      day.db.rowsUnder (accrualReference tenantId loanId accrualDate) = []
  done : ∀ loanId, day.accrualsOf loanId ≠ [] → day.AccruedOnce accrualDate loanId ∧
    ∃ loan, day.db.loans[loanId]? = some loan ∧ loan.lastAccrualDate = some accrualDate
  unpaid : ∀ r ∈ day.accruals, r.statusBefore ≠ some .fullyPaid

theorem map_lastAccrual {loan : Loan} {o : Option Loan}
    (h : o.map (·.lastAccrualDate) = some loan.lastAccrualDate) :
    ∃ loan', o = some loan' ∧ loan'.lastAccrualDate = loan.lastAccrualDate :=
  Option.map_eq_some_iff.mp h

theorem accruedBefore_congr {loan loan' : Loan} (h : loan'.lastAccrualDate = loan.lastAccrualDate) :
    loan'.accruedBefore accrualDate = loan.accruedBefore accrualDate := by
  rw [Loan.accruedBefore, h, Loan.accruedBefore]

theorem booked_served {tenantId : String} {day : AccrualDay} (h : Booked tenantId accrualDate day)
    (repayment : Repayment) :
    Booked tenantId accrualDate { day with db := step day.db repayment.op } := by
  have hsame : ∀ l, day.db.SameUnder (accrualReference tenantId l accrualDate)
      (step day.db repayment.op) := fun l => step_tenant_rows day.db repayment tenantId l
  have htenant : (step day.db repayment.op).tenantId = tenantId := (hsame 0).tenant.trans h.tenant
  refine ⟨htenant, fun loanId loan hloan hnone => ?_, fun loanId hsome => ?_, h.unpaid⟩
  · have hlast := step_lastAccrual day.db repayment loanId
    have hrow : (step day.db repayment.op).loans[loanId]? = some loan := hloan
    rw [hrow] at hlast
    obtain ⟨loan', hloan', heq⟩ := map_lastAccrual hlast.symm
    obtain ⟨hbefore, hrows⟩ := h.due loanId loan' hloan' hnone
    exact ⟨(accruedBefore_congr heq).symm.trans hbefore, (hsame loanId).rows.trans hrows⟩
  · obtain ⟨⟨r, hr, haccrued, hrows⟩, loan, hloan, hlast⟩ := h.done loanId hsome
    refine ⟨⟨r, hr, haccrued, ?_⟩, ?_⟩
    · show ((step day.db repayment.op).rowsUnder
        (accrualReference (step day.db repayment.op).tenantId loanId accrualDate)).map _ = _
      rw [htenant, (hsame loanId).rows, ← h.tenant]
      exact hrows
    · have hkept := step_lastAccrual day.db repayment loanId
      rw [hloan] at hkept
      obtain ⟨loan', hloan', heq⟩ := map_lastAccrual hkept
      exact ⟨loan', hloan', heq.trans hlast⟩

/-- What a committed accrual is: the transaction of the loan, and its record. -/
theorem accrue_written {plan : AccrualPlan} {day day' : AccrualDay}
    (h : Yields (plan.accrue accrualDate) day () day') :
    AccrualWritten plan.loanId plan.fosaAccountId plan.dailyInterest accrualDate day.db day'.db ∧
      day'.accruals = day.accruals ++ [plan.committed day.db day'.db] := by
  simp only [AccrualPlan.accrue, yields_bind, yields_get, yields_zoom, yields_modify] at h
  obtain ⟨_, _, ⟨rfl, rfl⟩, _, _, ⟨db', hbody, rfl⟩, rfl⟩ := h
  exact ⟨accrueBody_written hbody, rfl⟩

theorem accrualsOf_append {plan : AccrualPlan} {before after : Db} {day day' : AccrualDay}
    (loanId : Nat) (h : day'.accruals = day.accruals ++ [plan.committed before after]) :
    day'.accrualsOf loanId = if plan.loanId = loanId then
      day.accrualsOf loanId ++ [plan.committed before after] else day.accrualsOf loanId := by
  unfold AccrualDay.accrualsOf
  rw [h, List.filter_append, List.filter_singleton]
  have hplan : (plan.committed before after).plan.loanId = plan.loanId := rfl
  rw [hplan]
  split
  · next heq =>
    rw [heq, beq_self_eq_true]
    rfl
  · next hne =>
    rw [beq_false_of_ne hne]
    exact List.append_nil _

theorem due_unaccrued {tenantId : String} {day : AccrualDay} {loanId : Nat} {loan : Loan}
    (h : Booked tenantId accrualDate day) (hloan : day.db.loans[loanId]? = some loan)
    (hdue : loan.accruedBefore accrualDate = true) : day.accrualsOf loanId = [] := by
  by_contra hsome
  obtain ⟨_, loan', hloan', hlast⟩ := h.done loanId hsome
  cases hloan.symm.trans hloan'
  rw [Loan.accruedBefore, hlast] at hdue
  exact absurd (of_decide_eq_true hdue) (Int.lt_irrefl _)

/-- A loan that is as it was listed is due, and it is not fully paid. -/
theorem due_of_listed {plan : AccrualPlan} {day : AccrualDay}
    (hlisted : plan.listed.accruesOn accrualDate = true) (h : day.asListed plan = true) :
    (day.db.loans[plan.loanId]?.any fun l =>
      l.status != .fullyPaid && l.accruedBefore accrualDate) = true := by
  obtain ⟨loan, hloan, hsame⟩ := (Option.any_eq_true _ _).mp h
  rw [Bool.and_eq_true, beq_iff_eq, beq_iff_eq] at hsame
  obtain ⟨hopen, hbefore⟩ := Bool.and_eq_true_iff.mp hlisted
  refine (Option.any_eq_true _ _).mpr ⟨loan, hloan, Bool.and_eq_true_iff.mpr ⟨?_, ?_⟩⟩
  · rw [hsame.1, bne_iff_ne]
    intro hpaid
    rw [hpaid] at hopen
    cases hopen
  · rw [accruedBefore_congr hsame.2]
    exact hbefore

theorem booked_accrued {tenantId : String} {plan : AccrualPlan} {day day' : AccrualDay}
    (h : Booked tenantId accrualDate day)
    (hdue : (day.db.loans[plan.loanId]?.any fun l =>
      l.status != .fullyPaid && l.accruedBefore accrualDate) = true)
    (hy : Yields (plan.accrue accrualDate) day () day') : Booked tenantId accrualDate day' := by
  obtain ⟨hw, hlog⟩ := accrue_written hy
  obtain ⟨loan, hloan, hcond⟩ := (Option.any_eq_true _ _).mp hdue
  rw [Bool.and_eq_true, bne_iff_ne] at hcond
  -- a loan that is still due has no accrual of the day yet
  have hnone := due_unaccrued h hloan hcond.2
  obtain ⟨_, hfresh⟩ := h.due _ _ hloan hnone
  obtain ⟨arrears, hloans⟩ := hw.loans
  have hself : day'.db.loans[plan.loanId]? = some (loan.accrue arrears plan.dailyInterest
      accrualDate) := by
    rw [hloans]
    exact Table.getElem?_modify_self hloan
  have hother : ∀ l, plan.loanId ≠ l → day'.db.loans[l]? = day.db.loans[l]? := by
    intro l hne
    rw [hloans]
    exact Table.getElem?_modify_other hne
  have hrows : ∀ l, plan.loanId ≠ l →
      day.db.SameUnder (accrualReference tenantId l accrualDate) day'.db :=
    fun l hne => h.tenant ▸ accrual_other hw hne
  have htenant : day'.db.tenantId = tenantId :=
    (hrows (plan.loanId + 1) (Nat.succ_ne_self _).symm).tenant.trans h.tenant
  -- the loan of the plan has its record now; every other loan has what it had
  refine ⟨htenant, fun l loan' hloan' hempty => ?_, fun l hsome => ?_, fun r hr => ?_⟩
  · rw [accrualsOf_append l hlog] at hempty
    split at hempty
    · exact absurd (List.append_eq_nil_iff.mp hempty).2 (List.cons_ne_nil _ _)
    · next hne =>
      obtain ⟨hbefore, hunder⟩ := h.due l loan' (hother l hne ▸ hloan') hempty
      exact ⟨hbefore, (hrows l hne).rows.trans hunder⟩
  · rw [accrualsOf_append l hlog] at hsome
    by_cases hown : plan.loanId = l
    · subst hown
      refine ⟨⟨plan.committed day.db day'.db, ?_, ?_, ?_⟩, _, hself, rfl⟩
      · rw [accrualsOf_append plan.loanId hlog, hnone, List.nil_append]
        exact if_pos rfl
      · show day'.db.accruedInterest plan.loanId - day.db.accruedInterest plan.loanId = _
        unfold Db.accruedInterest
        rw [hself, hloan]
        show ((loan.accruedInterest + plan.dailyInterest : Nat) : Int) - loan.accruedInterest =
          plan.dailyInterest
        rw [Int.natCast_add]
        exact add_sub_cancel_left _ _
      · rw [htenant, ← h.tenant]
        exact accrual_own hw (h.tenant ▸ hfresh)
    · rw [if_neg hown] at hsome
      obtain ⟨⟨r, hr, haccrued, hunder⟩, loan', hloan', hlast⟩ := h.done l hsome
      refine ⟨⟨r, ?_, haccrued, ?_⟩, loan', (hother l hown).trans hloan', hlast⟩
      · rw [accrualsOf_append l hlog, if_neg hown]
        exact hr
      · rw [htenant, (hrows l hown).rows, ← h.tenant]
        exact hunder
  · rw [hlog] at hr
    rcases List.mem_append.mp hr with hr | hr
    · exact h.unpaid r hr
    · rw [List.mem_singleton.mp hr]
      show day.db.statusOf plan.loanId ≠ some .fullyPaid
      unfold Db.statusOf
      rw [hloan]
      exact fun heq => hcond.1 (Option.some.inj heq)

theorem opening_booked {db : Db} (h : db.unaccruedOn accrualDate = true) :
    Booked db.tenantId accrualDate ⟨db, []⟩ := by
  unfold Db.unaccruedOn at h
  rw [Bool.and_eq_true, List.all_eq_true, List.all_eq_true] at h
  refine ⟨rfl, fun loanId loan hloan _ => ⟨h.1 loan (List.mem_of_getElem? hloan), ?_⟩,
    fun loanId hsome => absurd rfl hsome, fun r hr => by cases hr⟩
  refine List.filter_eq_nil_iff.mpr fun t ht heq => ?_
  have hmem : loanId ∈ List.range db.loans.length :=
    List.mem_range.mpr (Table.lt_length_of_getElem? hloan)
  have hne := List.all_eq_true.mp (h.2 t ht) loanId hmem
  rw [bne, heq] at hne
  cases hne

/-- Whoever is on a list was being repaid and not accrued on the date when it was read. -/
def Listed (accrualDate : Int) (w : AccrualWorld) : Prop :=
  ∀ i p, w.At i p → p.Holds (fun item : AccrualItem => item.loan.accruesOn accrualDate = true)
    fun plan => plan.listed.accruesOn accrualDate = true

theorem listed_step {w : AccrualWorld} {e : BatchEvent} (h : Listed accrualDate w) :
    Listed accrualDate (w.step accrualDate e) := by
  refine holds_step (fun day item hitem => ?_) (fun item day plan hitem hplan => ?_) h
  · obtain ⟨row, hrow, rfl⟩ := List.mem_map.mp hitem
    exact (Table.mem_selectRows.mp hrow).2
  · have hplan : item.plan accrualDate day.db = some plan := hplan
    unfold AccrualItem.plan at hplan
    split at hplan
    · cases hplan
    · obtain ⟨_, _, rfl⟩ := Option.map_eq_some_iff.mp hplan
      exact hitem

theorem booked_step {tenantId : String} {w : AccrualWorld} {e : BatchEvent}
    (h : Booked tenantId accrualDate w.state) (hlisted : Listed accrualDate w)
    (ho : w.orderly accrualDate e = true) :
    Booked tenantId accrualDate (w.step accrualDate e).state := by
  rcases step_state (runDailyAccrual accrualDate)
    (fun repayment day => { day with db := BebaSacco.step day.db repayment.op }) w e with
    ⟨i, reply, plan, rest, r, rfl, hreply, hat, hy⟩ | ⟨repayment, rfl, hstate⟩ | hstate
  · refine booked_accrued h (due_of_listed (hlisted i _ hat).1 ?_) hy
    have hrow : w.starts[i]?.join = some (.perform plan rest r) := Option.join_eq_some_iff.mpr hat
    simp only [AccrualWorld.orderly, hrow] at ho
    rw [if_pos (Bool.and_eq_true_iff.mpr ⟨bne_iff_ne.mpr hreply, commits_iff.mpr ⟨_, hy⟩⟩)] at ho
    exact ho
  · have hserved := booked_served h repayment
    exact hstate ▸ hserved
  · have hsame : (w.step accrualDate e).state = w.state := hstate
    rw [hsame]
    exact h

/-- A loan with a balance and an account is not passed over. -/
theorem careful_accrual {w : AccrualWorld} {e : BatchEvent} (h : w.orderly accrualDate e = true) :
    (runDailyAccrual accrualDate).careful (fun loanId day => day.accrued loanId) w e = true := by
  cases e with
  | advance i reply =>
    show (w.starts[i]?.join).all _ = true
    unfold AccrualWorld.orderly at h
    cases hrow : w.starts[i]?.join with
    | none => rfl
    | some p =>
      simp only [hrow] at h
      rw [Option.all_some]
      unfold Batch.diligent
      split
      · exact h
      · next item rest r =>
        rw [Bool.or_eq_true, Bool.and_eq_true, Bool.and_eq_true] at h
        refine Bool.or_eq_true_iff.mpr (h.imp id fun hitem => ?_)
        rw [Bool.and_eq_true]
        refine ⟨hitem.1.1, ?_⟩
        show (item.plan accrualDate w.state.db).isSome = true
        unfold AccrualItem.plan
        rw [if_neg (bne_iff_ne.mp hitem.1.2), Option.isSome_map]
        exact hitem.2
      · dsimp only at h
        split at h
        · next hcommits => exact Bool.or_eq_true_iff.mpr (.inr hcommits)
        · exact Bool.or_eq_true_iff.mpr (.inl h)
      · rfl
  | _ => rfl

theorem accrued_iff {day : AccrualDay} {loanId : Nat} :
    day.accrued loanId = true ↔ day.accrualsOf loanId ≠ [] := by
  unfold AccrualDay.accrued AccrualDay.accrualsOf
  rw [ne_eq, List.filter_eq_nil_iff, List.any_eq_true]
  constructor
  · rintro ⟨r, hr, hid⟩ hnone
    exact hnone r hr hid
  · intro h
    by_contra hnone
    exact h fun r hr hid => hnone ⟨r, hr, hid⟩

theorem accrual_settles : LockedBatch.Settles (runDailyAccrual accrualDate)
    (fun (repayment : Repayment) day => { day with db := BebaSacco.step day.db repayment.op })
    (fun loanId day => day.accrued loanId) where
  served _ _ _ h := h
  performed plan day day' hy := by
    show day'.accruals.any _ = true
    rw [(accrue_written hy).2, List.any_append]
    exact Bool.or_eq_true_iff.mpr (.inr (List.any_eq_true.mpr
      ⟨_, List.mem_singleton_self _, beq_self_eq_true _⟩))
  kept plan day day' loanId hy h := by
    show day'.accruals.any _ = true
    rw [(accrue_written hy).2, List.any_append]
    exact Bool.or_eq_true_iff.mpr (.inl h)

/-- A loan that is being repaid is on the list until it is accrued. -/
theorem accrual_listed {tenantId : String} {day : AccrualDay} {loanId : Nat}
    (h : Booked tenantId accrualDate day) (hlive : day.db.repaying loanId = true) :
    day.accrued loanId = true ∨ ∃ item ∈ day.db.accrualList accrualDate, item.loanId = loanId := by
  obtain ⟨loan, hloan, hstatus⟩ := (Option.any_eq_true _ _).mp hlive
  by_cases hdone : day.accrualsOf loanId = []
  · obtain ⟨hbefore, _⟩ := h.due loanId loan hloan hdone
    refine .inr ⟨_, List.mem_map_of_mem (Table.mem_selectRows.mpr ⟨hloan, ?_⟩), rfl⟩
    rw [Loan.accruesOn, hstatus, Bool.true_and]
    exact hbefore
  · exact .inl (accrued_iff.mpr hdone)

/-! ## 7. The provisioning entries of a date -/

theorem create_written {entry : ProvisioningEntry} {day day' : EclDay}
    (h : Yields entry.create day () day') :
    day.existing entry.calculationDate entry.loanId = false ∧
      day' = { day with provisioningEntries := day.provisioningEntries ++ [entry] } := by
  simp only [ProvisioningEntry.create, yields_bind, yields_get, yields_ensure, yields_modify] at h
  obtain ⟨_, _, ⟨rfl, rfl⟩, _, _, ⟨hnone, rfl⟩, rfl⟩ := h
  exact ⟨hnone, rfl⟩

theorem ecl_settles (calculationDate : Int) (macroAdjustment : ℚ) :
    LockedBatch.Settles (calculateEclForTenant calculationDate macroAdjustment)
      (fun (repayment : Repayment) day => { day with db := BebaSacco.step day.db repayment.op })
      (fun loanId day => day.existing calculationDate loanId) where
  served _ _ _ h := h
  performed plan day day' hy := by
    obtain ⟨_, rfl⟩ := create_written hy
    show (day.provisioningEntries ++ [_]).any _ = true
    rw [List.any_append]
    refine Bool.or_eq_true_iff.mpr (.inr (List.any_eq_true.mpr
      ⟨_, List.mem_singleton_self _, Bool.and_eq_true_iff.mpr ⟨?_, ?_⟩⟩))
    · exact beq_self_eq_true plan.loanId
    · exact beq_self_eq_true calculationDate
  kept plan day day' loanId hy h := by
    obtain ⟨_, rfl⟩ := create_written hy
    show (day.provisioningEntries ++ [_]).any _ = true
    rw [List.any_append]
    exact Bool.or_eq_true_iff.mpr (.inl h)

/-- A loan is passed over when it has its entry, and only then. -/
theorem careful_ecl {calculationDate : Int} (macroAdjustment : ℚ) {w : EclWorld} {e : BatchEvent}
    (h : w.orderly calculationDate e = true) :
    (calculateEclForTenant calculationDate macroAdjustment).careful
      (fun loanId day => day.existing calculationDate loanId) w e = true := by
  cases e with
  | advance i reply =>
    show (w.starts[i]?.join).all _ = true
    unfold EclWorld.orderly at h
    cases hrow : w.starts[i]?.join with
    | none => rfl
    | some p =>
      simp only [hrow] at h
      rw [Option.all_some]
      unfold Batch.diligent
      split
      · exact h
      · next item rest r =>
        show (w.state.existing calculationDate item.loanId || _) = true
        dsimp only at h
        cases hdone : w.state.existing calculationDate item.loanId with
        | true => rfl
        | false =>
          rw [hdone] at h
          have hprepare : (calculateEclForTenant calculationDate macroAdjustment).prepare item
              w.state = some (item.plan macroAdjustment) :=
            if_neg (Bool.eq_false_iff.mp hdone)
          rw [hprepare]
          exact Bool.and_eq_true_iff.mpr ⟨h, rfl⟩
      · next plan rest r =>
        show (w.state.existing calculationDate plan.loanId || _) = true
        dsimp only at h
        cases hdone : w.state.existing calculationDate plan.loanId with
        | true => rfl
        | false =>
          rw [hdone] at h
          obtain ⟨day', hy⟩ : ∃ day', Yields (plan.entry calculationDate macroAdjustment).create
              w.state () day' := by
            simp only [ProvisioningEntry.create, yields_bind, yields_get, yields_ensure,
              yields_modify]
            exact ⟨_, w.state, w.state, ⟨rfl, rfl⟩, (), w.state, ⟨hdone, rfl⟩, rfl⟩
          exact Bool.and_eq_true_iff.mpr ⟨h, commits_iff.mpr ⟨day', hy⟩⟩
      · rfl
  | _ => rfl

theorem ecl_listed {day : EclDay} {loanId : Nat} (hlive : day.db.repaying loanId = true) :
    ∃ item ∈ day.db.eclList, item.loanId = loanId := by
  obtain ⟨loan, hloan, hstatus⟩ := (Option.any_eq_true _ _).mp hlive
  refine ⟨_, List.mem_map_of_mem (Table.mem_selectRows.mpr ⟨hloan, ?_⟩), rfl⟩
  rw [Loan.provisioned, hstatus]
  rfl

/-- The unique columns of an entry. -/
def entryKey (entry : ProvisioningEntry) : Nat × Int := (entry.loanId, entry.calculationDate)

/-- The unique columns are unique. -/
def Unique (day : EclDay) : Prop := (day.provisioningEntries.map entryKey).Nodup

theorem unique_step {calculationDate : Int} {macroAdjustment : ℚ} {w : EclWorld} {e : BatchEvent}
    (h : Unique w.state) : Unique (w.step calculationDate macroAdjustment e).state := by
  rcases step_state (calculateEclForTenant calculationDate macroAdjustment)
    (fun repayment day => { day with db := BebaSacco.step day.db repayment.op }) w e with
    ⟨i, reply, plan, rest, r, -, -, -, hy⟩ | ⟨repayment, -, hstate⟩ | hstate
  · obtain ⟨hnone, hday⟩ := create_written hy
    have hstate : (w.step calculationDate macroAdjustment e).state = _ := hday
    rw [hstate, Unique, List.map_append, List.nodup_append]
    refine ⟨h, List.nodup_singleton _, fun k hk k' hk' heq => ?_⟩
    obtain ⟨entry, hentry, rfl⟩ := List.mem_map.mp hk
    rw [List.map_singleton, List.mem_singleton] at hk'
    have hkey := heq.trans hk'
    refine absurd ?_ (List.any_eq_false.mp hnone entry hentry)
    rw [Bool.and_eq_true, beq_iff_eq, beq_iff_eq]
    exact ⟨congrArg Prod.fst hkey, congrArg Prod.snd hkey⟩
  · have hserved : (w.step calculationDate macroAdjustment e).state =
      { w.state with db := BebaSacco.step w.state.db repayment.op } := hstate
    rw [hserved]
    exact h
  · have hsame : (w.step calculationDate macroAdjustment e).state = w.state := hstate
    rw [hsame]
    exact h

/-- An entry that exists is the only one of its loan and date. -/
theorem provisionedOnce_of {day : EclDay} {calculationDate : Int} {loanId : Nat} (hu : Unique day)
    (h : day.existing calculationDate loanId = true) :
    day.ProvisionedOnce calculationDate loanId := by
  obtain ⟨entry, hentry, hkey⟩ := List.any_eq_true.mp h
  have hall : ∀ e ∈ day.provisioningEntries.filter
      (fun e => e.loanId == loanId && e.calculationDate == calculationDate),
      entryKey e = (loanId, calculationDate) := by
    intro e he
    have hcols := (List.mem_filter.mp he).2
    rw [Bool.and_eq_true, beq_iff_eq, beq_iff_eq] at hcols
    exact Prod.ext hcols.1 hcols.2
  have hnodup : ((day.provisioningEntries.filter
      (fun e => e.loanId == loanId && e.calculationDate == calculationDate)).map entryKey).Nodup :=
    List.Nodup.sublist (List.Sublist.map _ List.filter_sublist) hu
  have hmem : entry ∈ day.provisioningEntries.filter
      (fun e => e.loanId == loanId && e.calculationDate == calculationDate) :=
    List.mem_filter.mpr ⟨hentry, hkey⟩
  unfold EclDay.ProvisionedOnce
  cases hrows : day.provisioningEntries.filter
      (fun e => e.loanId == loanId && e.calculationDate == calculationDate) with
  | nil =>
    rw [hrows] at hmem
    cases hmem
  | cons first rest =>
    cases rest with
    | nil => exact ⟨first, rfl⟩
    | cons second rest =>
      rw [hrows] at hall hnodup
      have heq : entryKey first = entryKey second :=
        (hall first List.mem_cons_self).trans
          (hall second (List.mem_cons_of_mem _ List.mem_cons_self)).symm
      rw [List.map_cons, List.nodup_cons] at hnodup
      refine absurd ?_ hnodup.1
      rw [heq]
      exact List.mem_cons_self

/-! ## 8. Runs -/

theorem booked_run {db : Db} {events : List BatchEvent} (hday : db.unaccruedOn accrualDate = true)
    (ho : Machine.Guarded (AccrualWorld.step accrualDate)
      (fun w e => w.orderly accrualDate e = true) db.accrualWorld events) :
    Booked db.tenantId accrualDate
      (Machine.run (AccrualWorld.step accrualDate) db.accrualWorld events).state :=
  (Machine.run_induct
    (I := fun w => Booked db.tenantId accrualDate w.state ∧ Listed accrualDate w)
    (fun _ _ h hg => ⟨booked_step h.1 h.2 hg, listed_step h.2⟩)
    ⟨opening_booked hday, fun _ _ hat => by cases hat⟩ ho).1

theorem accrual_run {db : Db} {events : List BatchEvent} {loanId : Nat}
    (hday : db.unaccruedOn accrualDate = true)
    (ho : Machine.Guarded (AccrualWorld.step accrualDate)
      (fun w e => w.orderly accrualDate e = true) db.accrualWorld events)
    (hlive : Machine.Guarded (AccrualWorld.step accrualDate)
      (fun w _ => w.state.db.repaying loanId = true) db.accrualWorld events) :
    Covered (runDailyAccrual accrualDate) (fun loanId day => day.accrued loanId) loanId
      (Machine.run (AccrualWorld.step accrualDate) db.accrualWorld events) := by
  refine (Machine.run_induct (I := fun w => (Booked db.tenantId accrualDate w.state ∧
        Listed accrualDate w) ∧
      Covered (runDailyAccrual accrualDate) (fun loanId day => day.accrued loanId) loanId w)
    (fun w e h hg => ⟨⟨booked_step h.1.1 h.1.2 hg.1, listed_step h.1.2⟩, ?_⟩)
    ⟨⟨opening_booked hday, fun _ _ hat => by cases hat⟩, opening_covered _⟩
    (Machine.guarded_and ho hlive)).2
  exact covered_step accrual_settles h.2 (careful_accrual hg.1) (accrual_listed h.1.1 hg.2)

theorem ecl_run {day : EclDay} {calculationDate : Int} {macroAdjustment : ℚ}
    {events : List BatchEvent} {loanId : Nat} (hu : Unique day)
    (ho : Machine.Guarded (EclWorld.step calculationDate macroAdjustment)
      (fun w e => w.orderly calculationDate e = true)
      ⟨day, false, [], [], false⟩ events)
    (hlive : Machine.Guarded (EclWorld.step calculationDate macroAdjustment)
      (fun w _ => w.state.db.repaying loanId = true) ⟨day, false, [], [], false⟩ events) :
    Unique (Machine.run (EclWorld.step calculationDate macroAdjustment)
        ⟨day, false, [], [], false⟩ events).state ∧
      Covered (calculateEclForTenant calculationDate macroAdjustment)
        (fun loanId day => day.existing calculationDate loanId) loanId
        (Machine.run (EclWorld.step calculationDate macroAdjustment)
          ⟨day, false, [], [], false⟩ events) := by
  refine Machine.run_induct (I := fun w => Unique w.state ∧
      Covered (calculateEclForTenant calculationDate macroAdjustment)
        (fun loanId day => day.existing calculationDate loanId) loanId w)
    (fun w e h hg => ⟨unique_step h.1, ?_⟩) ⟨hu, opening_covered _⟩
    (Machine.guarded_and ho hlive)
  exact covered_step (ecl_settles calculationDate macroAdjustment) h.2
    (careful_ecl macroAdjustment hg.1) (.inr (ecl_listed hg.2))

end BatchLemmas

open BatchLemmas

/-- When no start meets a lock that was left behind, no statement of a listed loan fails, and each loan
is as it was listed when its accrual commits, then once a start of a batch has returned, it has done
every loan that was being repaid all the time, and done it once; and no loan that was fully paid is
charged. -/
theorem batches_exact {day : EclDay} {date : Int} (macroAdjustment : ℚ)
    (hday : day.db.unaccruedOn date = true)
    (hu : (day.provisioningEntries.map entryKey).Nodup) :
    (∀ events, Machine.Guarded (AccrualWorld.step date) (fun w e => w.orderly date e = true)
        day.db.accrualWorld events →
      (Machine.run (AccrualWorld.step date) day.db.accrualWorld events).state.SparesPaid ∧
      ∀ loanId, Machine.Guarded (AccrualWorld.step date)
          (fun w _ => w.state.db.repaying loanId = true) day.db.accrualWorld events →
        (Machine.run (AccrualWorld.step date) day.db.accrualWorld events).returned ≠ [] →
        (Machine.run (AccrualWorld.step date) day.db.accrualWorld events).state.AccruedOnce date
          loanId) ∧
    ∀ events, Machine.Guarded (EclWorld.step date macroAdjustment)
        (fun w e => w.orderly date e = true) ⟨day, false, [], [], false⟩ events →
      ∀ loanId, Machine.Guarded (EclWorld.step date macroAdjustment)
          (fun w _ => w.state.db.repaying loanId = true) ⟨day, false, [], [], false⟩ events →
        (Machine.run (EclWorld.step date macroAdjustment) ⟨day, false, [], [], false⟩
          events).returned ≠ [] →
        (Machine.run (EclWorld.step date macroAdjustment) ⟨day, false, [], [], false⟩
          events).state.ProvisionedOnce date loanId := by
  refine ⟨fun events ho => ⟨?_, fun loanId hlive hret => ?_⟩, fun events ho loanId hlive hret => ?_⟩
  · exact fun r hr hpaid => absurd hpaid ((booked_run hday ho).unpaid r hr)
  · have hcovered := accrual_run hday ho hlive
    have hdone := hcovered.completed (hcovered.returned hret)
    exact ((booked_run hday ho).done loanId (accrued_iff.mp hdone)).1
  · obtain ⟨hunique, hcovered⟩ := ecl_run hu ho hlive
    exact provisionedOnce_of hunique (hcovered.completed (hcovered.returned hret))

/-- Member 0 repays from the FOSA account. -/
def exRepayment (amountKes : Int) : BatchEvent :=
  .serve (.repay
    { loanId := 0, amountKes, processedBy := "A", idempotencyKey := none, minute := "m", now := 0 })

/-- A start works through its list, with a repayment of KES 30 on the way; the next one returns at
once, and a third one is lost. -/
def exDailyRun : List BatchEvent :=
  [.start, .advance 0 .ok, .advance 0 .ok, exRepayment 300000, .advance 0 .ok,
    .advance 0 .ok, .advance 0 .ok, .start, .advance 1 .ok, .start, .crash 2]

theorem batches_exact_daily :
    (Machine.run (AccrualWorld.step msPerDay) exScheduled.accrualWorld exDailyRun).returned =
        [⟨1, 0⟩, ⟨0, 0⟩] ∧
      (Machine.run (AccrualWorld.step msPerDay) exScheduled.accrualWorld
        exDailyRun).state.AccruedOnce msPerDay 0 ∧
      (Machine.run (EclWorld.step msPerDay 1) ⟨⟨exScheduled, []⟩, false, [], [], false⟩
        exDailyRun).state.ProvisionedOnce msPerDay 0 := by
  have hexact := @batches_exact ⟨exScheduled, []⟩ msPerDay 1 (by decide +kernel) (by decide +kernel)
  exact ⟨by decide +kernel,
    (hexact.1 exDailyRun (by decide +kernel)).2 0 (by decide +kernel) (by decide +kernel),
    hexact.2 exDailyRun (by decide +kernel) 0 (by decide +kernel) (by decide +kernel)⟩

/-- A start is lost after it took the lock, and its job is tried again. -/
def exLostRun : List BatchEvent :=
  [.start, .advance 0 .ok, .crash 0, .start, .advance 1 .ok]

/-- The loan is paid in full after its interest was computed. -/
def exPaidRun : List BatchEvent :=
  [.start, .advance 0 .ok, .advance 0 .ok, .advance 0 .ok, exRepayment 1000000,
    .advance 0 .ok, .advance 0 .ok]

/-- The second start returns, and the loan has neither its interest nor its entry. The accrual of the
other run takes KES 5 for a loan that is fully paid. -/
theorem batches_left_undone :
    exScheduled.unaccruedOn msPerDay = true ∧
      Machine.Guarded (AccrualWorld.step msPerDay) (fun w _ => w.state.db.repaying 0 = true)
        exScheduled.accrualWorld exLostRun ∧
      (Machine.run (AccrualWorld.step msPerDay) exScheduled.accrualWorld exLostRun).returned =
        [⟨0, 0⟩] ∧
      ¬ (Machine.run (AccrualWorld.step msPerDay) exScheduled.accrualWorld
        exLostRun).state.AccruedOnce msPerDay 0 ∧
      (Machine.run (EclWorld.step msPerDay 1) ⟨⟨exScheduled, []⟩, false, [], [], false⟩
        exLostRun).returned = [⟨0, 0, 0, []⟩] ∧
      ¬ (Machine.run (EclWorld.step msPerDay 1) ⟨⟨exScheduled, []⟩, false, [], [], false⟩
        exLostRun).state.ProvisionedOnce msPerDay 0 ∧
      ¬ (Machine.run (AccrualWorld.step msPerDay) exScheduled.accrualWorld
        exPaidRun).state.SparesPaid := by
  have hnone : (Machine.run (AccrualWorld.step msPerDay) exScheduled.accrualWorld
      exLostRun).state.accrualsOf 0 = [] := by decide +kernel
  have hempty : (Machine.run (EclWorld.step msPerDay 1) ⟨⟨exScheduled, []⟩, false, [], [], false⟩
      exLostRun).state.provisioningEntries = [] := by decide +kernel
  refine ⟨by decide +kernel, by decide +kernel, by decide +kernel, ?_, by decide +kernel, ?_,
    by decide +kernel⟩
  · rintro ⟨r, hr, _⟩
    rw [hnone] at hr
    cases hr
  · rintro ⟨entry, hentry⟩
    rw [hempty] at hentry
    cases hentry

end BebaSacco
