import BebaSacco.History

/-! # The schedule of a loan

What the services do to the instalments of a loan: the columns that the disbursement fixed
stay as they are, and a repayment takes off the instalments no more than the waterfall gave
them.

Results:
 1. `applyInstallmentAllocation_allocated`: what an allocation does to the instalments.
 2. `applyRepayment_cases`: what a repayment from outside does to the loan.
 3. `repay_paid`, `processRepayment_paid`: what the two channels do to every loan.
-/

namespace BebaSacco

open Txn FootprintLemmas

/-! ## 1. What is fixed and what is unpaid -/

/-- The columns of an instalment that its schedule fixed. -/
def LoanRepayment.quote (row : LoanRepayment) : LoanRepayment :=
  { row with
    amountPaid := 0
    status := .pending
    method := ""
    penaltyDue := 0
    principalPaid := 0
    interestPaid := 0
    penaltyPaid := 0
    paidAt := none
    lastPenaltyAccrualDate := none }

def LoanRepayment.unpaidPrincipal (row : LoanRepayment) : Nat := row.principalDue - row.principalPaid

def LoanRepayment.unpaidInterest (row : LoanRepayment) : Nat := row.interestDue - row.interestPaid

def LoanRepayment.unpaidPenalty (row : LoanRepayment) : Nat := row.penaltyDue - row.penaltyPaid

/-- A column summed over the instalments of a loan. -/
def Db.scheduled (db : Db) (loanId : Nat) (column : LoanRepayment → Nat) : Int :=
  Table.sumOver (fun r => if r.loanId = loanId then (column r : Int) else 0) db.loanRepayments

/-- No loan and no instalment changed. -/
structure Db.SameDebts (db db' : Db) : Prop where
  loans : db'.loans = db.loans
  loanRepayments : db'.loanRepayments = db.loanRepayments

/-- Of the allocation `total` to the loan `loanId`, all but `left` is on the instalments: what
they have still to get fell by no more than that, leg by leg. -/
structure Allocated (loanId : Nat) (total : Allocation) (base : Db) (left : Allocation) (db : Db) :
    Prop where
  others : db = { base with loanRepayments := db.loanRepayments }
  quotes : db.loanRepayments.map LoanRepayment.quote = base.loanRepayments.map LoanRepayment.quote
  principal : base.scheduled loanId LoanRepayment.unpaidPrincipal + left.principal ≤
    db.scheduled loanId LoanRepayment.unpaidPrincipal + total.principal
  interest : base.scheduled loanId LoanRepayment.unpaidInterest + left.interest ≤
    db.scheduled loanId LoanRepayment.unpaidInterest + total.interest
  penalty : base.scheduled loanId LoanRepayment.unpaidPenalty + left.penalty ≤
    db.scheduled loanId LoanRepayment.unpaidPenalty + total.penalty
  apart : ∀ l ≠ loanId, ∀ column, db.scheduled l column = base.scheduled l column

/-- No bucket of the loan gets more than it holds. -/
structure Loan.Fits (loan : Loan) (a : Allocation) : Prop where
  penalty : a.penalty ≤ loan.arrearsAmount
  interest : a.interest ≤ loan.accruedInterest
  principal : a.principal ≤ loan.outstandingBalance

/-- The loan `loanId` was paid the allocation `a`: its instalments got no more of it than that,
and no other loan changed. -/
structure Paid (loanId : Nat) (loan : Loan) (a : Allocation) (db db' : Db) : Prop where
  row : db.loans[loanId]? = some loan
  fits : loan.Fits a
  loans : ∃ status, db'.loans = db.loans.modify loanId (·.pay a status)
  quotes : db'.loanRepayments.map LoanRepayment.quote = db.loanRepayments.map LoanRepayment.quote
  principal : db.scheduled loanId LoanRepayment.unpaidPrincipal ≤
    db'.scheduled loanId LoanRepayment.unpaidPrincipal + a.principal
  interest : db.scheduled loanId LoanRepayment.unpaidInterest ≤
    db'.scheduled loanId LoanRepayment.unpaidInterest + a.interest
  penalty : db.scheduled loanId LoanRepayment.unpaidPenalty ≤
    db'.scheduled loanId LoanRepayment.unpaidPenalty + a.penalty
  apart : ∀ l ≠ loanId, ∀ column, db'.scheduled l column = db.scheduled l column

namespace InstallmentLemmas

instance : History Db.SameDebts where
  refl _ := ⟨rfl, rfl⟩
  trans h k := ⟨k.loans.trans h.loans, k.loanRepayments.trans h.loanRepayments⟩

instance : AdmitsBalance Db.SameDebts := ⟨fun _ _ _ => ⟨rfl, rfl⟩, fun _ _ _ => ⟨rfl, rfl⟩⟩

instance : AdmitsHold Db.SameDebts := ⟨fun _ _ _ => ⟨rfl, rfl⟩⟩

instance : AdmitsTransaction Db.SameDebts where
  insert _ _ := ⟨rfl, rfl⟩
  link _ _ _ := ⟨rfl, rfl⟩
  markReversed _ _ := ⟨rfl, rfl⟩
  uuid _ _ := ⟨rfl, rfl⟩

instance : AdmitsEntry Db.SameDebts := ⟨fun _ _ => ⟨rfl, rfl⟩⟩

instance : AdmitsGuarantor Db.SameDebts := ⟨fun _ _ _ _ => ⟨rfl, rfl⟩⟩

instance : AdmitsMpesa Db.SameDebts := ⟨fun _ _ _ => ⟨rfl, rfl⟩⟩

/-! ## 2. The loop over the instalments -/

/-- The rows that the loop has before it are as the table has them. -/
def Current (rows : List (Nat × LoanRepayment)) (db : Db) : Prop :=
  (rows.map Prod.fst).Nodup ∧ ∀ r ∈ rows, db.loanRepayments[r.1]? = some r.2

theorem allocateInstallments_cons {paidAt : Int} {row : Nat × LoanRepayment}
    {rows : List (Nat × LoanRepayment)} {left : Allocation} {u : Unit} {db db' : Db}
    (h : Yields (allocateInstallments paidAt (row :: rows) left) db u db') :
    (left.total = 0 ∧ db' = db) ∨
    ((row.2.take left).total = 0 ∧ Yields (allocateInstallments paidAt rows left) db u db') ∨
    (0 < (row.2.take left).total ∧
      Yields (allocateInstallments paidAt rows (left.minus (row.2.take left)))
        (db.updateRepayment row.1 fun _ => row.2.pay (row.2.take left) paidAt) u db') := by
  unfold allocateInstallments at h
  rcases yields_ite.mp h with ⟨hzero, h⟩ | ⟨_, h⟩
  · exact .inl ⟨hzero, (yields_pure.mp h).2.symm⟩
  rcases yields_ite.mp h with ⟨hzero, h⟩ | ⟨hpos, h⟩
  · exact .inr (.inl ⟨hzero, h⟩)
  · simp only [yields_bind, yields_modify] at h
    obtain ⟨_, _, rfl, h⟩ := h
    exact .inr (.inr ⟨Nat.pos_of_ne_zero hpos, h⟩)

theorem current_tail {row : Nat × LoanRepayment} {rows : List (Nat × LoanRepayment)} {db : Db}
    (h : Current (row :: rows) db) : Current rows db :=
  ⟨(List.nodup_cons.mp h.1).2, fun r hr => h.2 r (List.mem_cons_of_mem _ hr)⟩

theorem current_update {row : Nat × LoanRepayment} {rows : List (Nat × LoanRepayment)} {db : Db}
    (f : LoanRepayment → LoanRepayment) (h : Current (row :: rows) db) :
    Current rows (db.updateRepayment row.1 f) := by
  obtain ⟨hnew, hnodup⟩ := List.nodup_cons.mp h.1
  refine ⟨hnodup, fun r hr => ?_⟩
  have hne : row.1 ≠ r.1 := fun he => hnew (he ▸ List.mem_map_of_mem hr)
  rw [Db.updateRepayment, Table.getElem?_modify_other hne]
  exact h.2 r (List.mem_cons_of_mem _ hr)

/-- What each payment of an instalment keeps, the whole loop keeps. -/
theorem allocate_induct {paidAt : Int} {loanId : Nat} {M : Allocation → Db → Prop}
    (hstep : ∀ {left db id row}, M left db → db.loanRepayments[id]? = some row →
      row.loanId = loanId → M (left.minus (row.take left))
        (db.updateRepayment id fun _ => row.pay (row.take left) paidAt))
    {rows : List (Nat × LoanRepayment)} {left : Allocation} {u : Unit} {db db' : Db}
    (hrows : Current rows db) (hloan : ∀ r ∈ rows, r.2.loanId = loanId) (hM : M left db)
    (h : Yields (allocateInstallments paidAt rows left) db u db') : ∃ left', M left' db' := by
  induction rows generalizing left db with
  | nil =>
    rw [allocateInstallments, yields_pure] at h
    exact ⟨left, h.2 ▸ hM⟩
  | cons row rows ih =>
    have hrest : ∀ r ∈ rows, r.2.loanId = loanId := fun r hr => hloan r (List.mem_cons_of_mem _ hr)
    rcases allocateInstallments_cons h with ⟨_, rfl⟩ | ⟨_, h⟩ | ⟨_, h⟩
    · exact ⟨left, hM⟩
    · exact ih (current_tail hrows) hrest hM h
    · exact ih (current_update _ hrows) hrest
        (hstep hM (hrows.2 row List.mem_cons_self) (hloan row List.mem_cons_self)) h

/-- The column of the row paid moves, the other rows stay. -/
theorem scheduled_update {db : Db} {id : Nat} {row row' : LoanRepayment} {loanId : Nat}
    (column : LoanRepayment → Nat) (hrow : db.loanRepayments[id]? = some row)
    (hold : row.loanId = loanId) (hnew : row'.loanId = loanId) :
    (db.updateRepayment id fun _ => row').scheduled loanId column =
      db.scheduled loanId column - column row + column row' := by
  rw [Db.scheduled, Db.updateRepayment, Table.sumOver_modify hrow, if_pos hold, if_pos hnew]
  rfl

theorem scheduled_update_other {db : Db} {id l : Nat} {row row' : LoanRepayment}
    (column : LoanRepayment → Nat) (hrow : db.loanRepayments[id]? = some row)
    (hold : row.loanId ≠ l) (hnew : row'.loanId ≠ l) :
    (db.updateRepayment id fun _ => row').scheduled l column = db.scheduled l column := by
  rw [Db.scheduled, Db.updateRepayment, Table.sumOver_modify hrow, if_neg hold, if_neg hnew,
    Int.sub_zero, Int.add_zero, Db.scheduled]

theorem scheduled_pay {db : Db} {id : Nat} {row : LoanRepayment} {loanId : Nat} (add : Allocation)
    (paidAt : Int) (column : LoanRepayment → Nat) (hrow : db.loanRepayments[id]? = some row)
    (hloan : row.loanId = loanId) :
    (db.updateRepayment id fun _ => row.pay add paidAt).scheduled loanId column =
      db.scheduled loanId column - column row + column (row.pay add paidAt) :=
  scheduled_update column hrow hloan hloan

theorem allocated_step {loanId : Nat} {total left : Allocation} {base db : Db} {id : Nat}
    {row : LoanRepayment} (paidAt : Int) (h : Allocated loanId total base left db)
    (hrow : db.loanRepayments[id]? = some row) (hloan : row.loanId = loanId) :
    Allocated loanId total base (left.minus (row.take left))
      (db.updateRepayment id fun _ => row.pay (row.take left) paidAt) where
  others := by
    rw [h.others]
    rfl
  quotes := (Table.map_modify_at hrow rfl).trans h.quotes
  principal := by
    rw [scheduled_pay _ _ _ hrow hloan]
    have hsum := h.principal
    simp only [Allocation.minus, LoanRepayment.take, LoanRepayment.unpaidPrincipal,
      LoanRepayment.pay]
    omega
  interest := by
    rw [scheduled_pay _ _ _ hrow hloan]
    have hsum := h.interest
    simp only [Allocation.minus, LoanRepayment.take, LoanRepayment.unpaidInterest,
      LoanRepayment.pay]
    omega
  penalty := by
    rw [scheduled_pay _ _ _ hrow hloan]
    have hsum := h.penalty
    simp only [Allocation.minus, LoanRepayment.take, LoanRepayment.unpaidPenalty,
      LoanRepayment.pay]
    omega
  apart l hl column := by
    have hne : row.loanId ≠ l := fun he => hl (he.symm.trans hloan)
    refine Eq.trans (scheduled_update_other column hrow hne ?_) (h.apart l hl column)
    exact hne

theorem mem_unpaidInstallments {db : Db} {loanId : Nat} {r : Nat × LoanRepayment} :
    r ∈ db.unpaidInstallments loanId ↔ db.loanRepayments[r.1]? = some r.2 ∧
      r.2.loanId = loanId ∧ (r.2.status = .pending ∨ r.2.status = .partlyPaid) := by
  rw [Db.unpaidInstallments, List.mem_insertionSort, Table.mem_selectRows, Bool.and_eq_true,
    Bool.or_eq_true, beq_iff_eq, beq_iff_eq, beq_iff_eq]

theorem current_unpaidInstallments (db : Db) (loanId : Nat) :
    Current (db.unpaidInstallments loanId) db := by
  refine ⟨?_, fun r hr => (mem_unpaidInstallments.mp hr).1⟩
  have hperm := (List.perm_insertionSort LoanRepayment.dueBefore (Table.selectRows
    (fun r => r.loanId == loanId && (r.status == .pending || r.status == .partlyPaid))
    db.loanRepayments)).map Prod.fst
  exact hperm.nodup_iff.mpr Table.nodup_selectRows

/-- The instalments of the loan take their part of the allocation, and no other row changes. -/
theorem applyInstallmentAllocation_allocated {paidAt : Int} {loanId : Nat} {a : Allocation}
    {u : Unit} {db db' : Db} (h : Yields (applyInstallmentAllocation paidAt loanId a) db u db') :
    ∃ left, Allocated loanId a db left db' := by
  simp only [applyInstallmentAllocation, yields_bind, yields_get] at h
  obtain ⟨_, _, ⟨rfl, rfl⟩, h⟩ := h
  exact allocate_induct (fun hM hrow hl => allocated_step paidAt hM hrow hl)
    (current_unpaidInstallments db loanId) (fun r hr => (mem_unpaidInstallments.mp hr).2.1)
    ⟨rfl, rfl, Int.le_refl _, Int.le_refl _, Int.le_refl _, fun _ _ _ => rfl⟩ h

/-! ## 3. The two channels -/

theorem scheduled_same {db db' : Db} (h : db.SameDebts db') (loanId : Nat)
    (column : LoanRepayment → Nat) : db'.scheduled loanId column = db.scheduled loanId column := by
  rw [Db.scheduled, h.loanRepayments, Db.scheduled]

theorem waterfall_fits (loan : Loan) (amount : Nat) : loan.Fits (loan.waterfall amount).1 := by
  refine ⟨?_, ?_, ?_⟩
  · exact Nat.min_le_right _ _
  · exact Nat.min_le_right _ _
  · exact Nat.min_le_right _ _

theorem repayAllocation_fits {loan : Loan} {n : Nat} (h : n ≤ loan.totalOwed) :
    loan.Fits (loan.repayAllocation n) := by
  unfold Loan.totalOwed at h
  refine ⟨Nat.min_le_right _ _, Nat.min_le_right _ _, ?_⟩
  show n - min n loan.arrearsAmount -
    min (n - min n loan.arrearsAmount) loan.accruedInterest ≤ loan.outstandingBalance
  omega

theorem targetLoan_some {db : Db} {input : ProcessRepaymentInput} {loanId : Nat} {loan : Loan}
    (h : db.targetLoan input = some (loanId, loan)) : db.loans[loanId]? = some loan := by
  unfold Db.targetLoan at h
  dsimp only at h
  split at h
  · obtain ⟨l, hl, heq⟩ := Option.map_eq_some_iff.mp h
    cases heq
    exact hl
  · exact (Table.findRow_some h).1
  · exact (Table.mem_selectRows.mp (Table.leastRow_mem h)).1

/-- A repayment paid the instalments with the waterfall's allocation and then wrote the loan; the
legs before and the settlement after it touch neither. -/
theorem applyRepayment_cases {now : Int} {input : ProcessRepaymentInput} {amount loanId : Nat}
    {loan : Loan} {r : RepaymentAllocationSummary} {db db' : Db}
    (h : Yields (applyRepayment now input amount loanId loan) db r db') :
    ∃ mid, Yields (applyInstallmentAllocation now loanId (loan.waterfall amount).1) db () mid ∧
      (mid.updateLoan loanId (·.pay (loan.waterfall amount).1
        (repaidStatus loan (loan.pay (loan.waterfall amount).1 loan.status)))).SameDebts db' := by
  simp only [applyRepayment, yields_bind, yields_modify, yields_pure] at h
  obtain ⟨fosa, _, hfosa, _, mid, halloc, _, _, hp, _, _, hi, _, _, hr, _, _, ho, _, _, rfl, _, _,
    hm, _, rfl⟩ := h
  simp only [lockFosaAccount, yields_bind, yields_get, yields_required] at hfosa
  obtain ⟨_, _, ⟨rfl, rfl⟩, _, rfl⟩ := hfosa
  refine ⟨mid, halloc, ?_⟩
  have hlegs : mid.SameDebts _ := History.trans (History.trans (History.trans
    (allocateLeg_moves _ _ _ _ _ _ hp) (allocateLeg_moves _ _ _ _ _ _ hi))
    (allocateLeg_moves _ _ _ _ _ _ hr)) (creditOverpayment_moves _ _ _ _ ho)
  have hsettle : Db.SameDebts _ _ := settleMpesa_moves _ _ _ hm
  refine ⟨hsettle.loans.trans ?_, hsettle.loanRepayments.trans hlegs.loanRepayments⟩
  rw [Db.updateLoan, Db.updateLoan, hlegs.loans]

/-- A repayment from outside was recognised as processed before, or paid one loan. -/
theorem processRepayment_paid {now : Int} {input : ProcessRepaymentInput}
    {r : RepaymentAllocationSummary} {db db' : Db}
    (h : Yields (processRepayment now input) db r db') :
    db' = db ∨ ∃ amount loanId loan, db.duplicateRepayment input.reference = none ∧
      input.received = some amount ∧ db.targetLoan input = some (loanId, loan) ∧
      loan.status.repayable = true ∧ Paid loanId loan (loan.waterfall amount).1 db db' := by
  rcases processRepayment_cases h with
    ⟨rfl, _⟩ | ⟨amount, loanId, loan, hamount, hnew, htarget, hst, happly⟩
  · exact .inl rfl
  obtain ⟨mid, halloc, hsame⟩ := applyRepayment_cases happly
  obtain ⟨left, hleft⟩ := applyInstallmentAllocation_allocated halloc
  have hloans : mid.loans = db.loans := by rw [hleft.others]
  have hscheduled : ∀ l column, db'.scheduled l column = mid.scheduled l column :=
    fun l column => scheduled_same hsame l column
  have hp := hleft.principal
  have hi := hleft.interest
  have hn := hleft.penalty
  refine .inr ⟨amount, loanId, loan, hnew, hamount, htarget, hst, targetLoan_some htarget,
    waterfall_fits loan amount, ⟨repaidStatus loan (loan.pay (loan.waterfall amount).1 loan.status),
      ?_⟩, ?_, ?_, ?_, ?_, ?_⟩
  · rw [hsame.loans, Db.updateLoan, hloans]
  · rw [hsame.loanRepayments]
    exact hleft.quotes
  · rw [hscheduled]
    omega
  · rw [hscheduled]
    omega
  · rw [hscheduled]
    omega
  · intro l hl column
    rw [hscheduled]
    exact hleft.apart l hl column

/-- A repayment from the FOSA balance writes the loan and leaves the instalments alone. -/
theorem repayPosted_debts {p : RepayParams} {db mid : Db} {accountId : Nat} {account : Account}
    {loan : Loan} (h : RepayPosted p db accountId account loan mid) :
    (db.updateLoan p.loanId (·.pay (loan.repayAllocation (p.actualRepayment loan))
      (p.newStatus loan))).SameDebts mid := by
  obtain ⟨legged, hlegs, rfl⟩ := h.written
  have hdebit : db.SameDebts (p.debited db accountId account loan) := ⟨rfl, rfl⟩
  have hbooked : db.SameDebts legged := History.trans hdebit (repayLegs_moves _ _ _ _ hlegs)
  refine ⟨?_, hbooked.loanRepayments⟩
  rw [Db.updateLoan, Db.updateLoan, hbooked.loans]

/-- So it paid one loan, or was recognised as made before. -/
theorem repay_paid {p : RepayParams} {r : RepayResult} {db db' : Db}
    (h : Yields (repay p) db r db') :
    db' = db ∨ ∃ loan, db.transactionByReference (p.reference db.tenantId) = none ∧
      loan.status = .active ∧ db'.loanRepayments = db.loanRepayments ∧
      Paid p.loanId loan (loan.repayAllocation (p.actualRepayment loan)) db db' := by
  rcases repay_cases h with rfl | ⟨accountId, account, loan, mid, hposted, hrelease⟩
  · exact .inl rfl
  have hpaid := repayPosted_debts hposted
  have hreleased : mid.SameDebts db' := by
    rcases hrelease with ⟨_, hrelease⟩ | ⟨_, rfl⟩
    · exact releaseOnFullRepayment_moves _ _ hrelease
    · exact History.refl _
  have hrows : db'.loanRepayments = db.loanRepayments :=
    hreleased.loanRepayments.trans hpaid.loanRepayments
  have hscheduled : ∀ l column, db'.scheduled l column = db.scheduled l column := by
    intro l column
    rw [Db.scheduled, hrows, Db.scheduled]
  refine .inr ⟨loan, hposted.fresh, hposted.active, hrows, hposted.loan_eq,
    repayAllocation_fits (Nat.min_le_right _ _), ⟨p.newStatus loan, ?_⟩, ?_, ?_, ?_, ?_, ?_⟩
  · exact hreleased.loans.trans hpaid.loans
  · rw [hrows]
  · rw [hscheduled]
    omega
  · rw [hscheduled]
    omega
  · rw [hscheduled]
    omega
  · exact fun l _ column => hscheduled l column

end InstallmentLemmas

end BebaSacco
