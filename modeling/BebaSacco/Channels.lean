import BebaSacco.Repayment
import BebaSacco.Books

/-! # What the repayment channels write

The inversions of `repay` and of `processRepayment`: what a committed call has
checked, and the tables it leaves.

Results:
 1. `repay_cases`: a repayment from the FOSA balance.
 2. `processRepayment_cases`: a repayment that came from outside.
-/

namespace BebaSacco

open Txn

/-! ## 1. Legs -/

/-- The entry number of a leg of a repayment. -/
def legNumber (reference suffix : String) : String :=
  let legReference := s!"{reference}-{suffix}"
  s!"JE-LEDGER-{legReference}"

theorem legNumber_inj {reference a b : String} (h : legNumber reference a = legNumber reference b) :
    a = b := by
  simp only [legNumber, toString, String.append_right_inj] at h
  exact h

theorem repayLeg_cases {reference suffix by' : String} {leg : Leg} {amount txn : Nat} {u : Unit}
    {db db' : Db} (h : Yields (repayLeg reference leg suffix amount txn by') db u db') :
    (db' = db ∧ (amount = 0 ∨ ∃ e, db.entryByNumber (legNumber reference suffix) = some e)) ∨
    (0 < amount ∧ ∃ actor description, db' = db.insertEntry
      (ledgerEntry s!"{reference}-{suffix}" .loanRepayment description txn amount actor
        GL_CODES.FOSA_DEPOSITS leg.creditCode)) := by
  unfold repayLeg at h
  rcases yields_ite.mp h with ⟨hpos, h⟩ | ⟨hpos, h⟩
  · simp only [yields_bind, yields_pure] at h
    obtain ⟨_, _, hleg, _, rfl⟩ := h
    obtain ⟨_, ⟨rfl, he⟩ | ⟨_, actor, rfl⟩⟩ := postGlOnlyLegEntry_cases hleg
    · exact .inl ⟨rfl, .inr he⟩
    · exact .inr ⟨hpos, actor, _, rfl⟩
  · cases (yields_pure.mp h).2
    exact .inl ⟨rfl, .inl (by omega)⟩

/-- Nothing but journal entries of repayment legs was written. -/
def Db.LegsAdded (db db' : Db) : Prop :=
  ∃ es : List JournalEntry, (∀ e ∈ es, e.type = .loanRepayment) ∧
    db' = { db with journalEntries := db.journalEntries ++ es }

theorem legsAdded_refl (db : Db) : db.LegsAdded db := by
  refine ⟨[], ?_, ?_⟩
  · intro e he
    exact absurd he List.not_mem_nil
  · simp only [List.append_nil]

theorem legsAdded_trans {a b c : Db} (hab : a.LegsAdded b) (hbc : b.LegsAdded c) :
    a.LegsAdded c := by
  obtain ⟨es, hes, rfl⟩ := hab
  obtain ⟨fs, hfs, rfl⟩ := hbc
  refine ⟨es ++ fs, fun e he => ?_, by simp only [List.append_assoc]⟩
  rcases List.mem_append.mp he with h | h
  · exact hes e h
  · exact hfs e h

theorem repayLeg_added {reference suffix by' : String} {leg : Leg} {amount txn : Nat} {u : Unit}
    {db db' : Db} (h : Yields (repayLeg reference leg suffix amount txn by') db u db') :
    db.LegsAdded db' := by
  rcases repayLeg_cases h with ⟨rfl, _⟩ | ⟨_, _, _, rfl⟩
  · exact legsAdded_refl db'
  · exact ⟨[_], fun e he => by rw [List.mem_singleton.mp he]; rfl, rfl⟩

/-! ## 2. `LoansService.repay` -/

/-- What a repayment takes: the amount, or all the loan owes when that is less. -/
def RepayParams.actualRepayment (p : RepayParams) (loan : Loan) : Nat :=
  min p.amountKes.toNat loan.totalOwed

/-- The status of a loan after a repayment from the FOSA balance. -/
def RepayParams.newStatus (p : RepayParams) (loan : Loan) : LoanStatus :=
  if loan.outstandingBalance - (loan.repayAllocation (p.actualRepayment loan)).principal = 0 then
    .fullyPaid
  else .active

/-- The three legs of a repayment. -/
def repayLegs (reference : String) (a : Allocation) (txn : Nat) (by' : String) : Tx Unit := do
  repayLeg reference .penalty "PENALTY" a.penalty txn by'
  repayLeg reference .interest "INTEREST" a.interest txn by'
  repayLeg reference .principal "PRINCIPAL" a.principal txn by'

theorem repayLegs_added {reference by' : String} {a : Allocation} {txn : Nat} {u : Unit}
    {db db' : Db} (h : Yields (repayLegs reference a txn by') db u db') : db.LegsAdded db' := by
  simp only [repayLegs, yields_bind] at h
  obtain ⟨_, _, h₁, _, _, h₂, h₃⟩ := h
  exact legsAdded_trans (repayLeg_added h₁) (legsAdded_trans (repayLeg_added h₂) (repayLeg_added h₃))

/-- The state in which a repayment posts its legs. -/
def RepayParams.debited (p : RepayParams) (db : Db) (accountId : Nat) (account : Account)
    (loan : Loan) : Db :=
  (db.insertTransaction (p.transaction accountId loan.loanNumber (p.reference db.tenantId)
    (p.actualRepayment loan) account.balance)).updateAccount accountId fun a =>
      { a with balance := account.balance - p.actualRepayment loan }

/-- What a repayment that was not there before has checked and written, up to the
release of the holds: `mid` is the state before it. -/
structure RepayPosted (p : RepayParams) (db : Db) (accountId : Nat) (account : Account)
    (loan : Loan) (mid : Db) : Prop where
  amount_pos : 0 < p.amountKes
  loan_eq : db.loans[p.loanId]? = some loan
  active : loan.status = .active
  account_eq : db.activeAccount loan.memberId .fosa = some (accountId, account)
  fresh : db.transactionByReference (p.reference db.tenantId) = none
  covered : (p.actualRepayment loan : Int) ≤ account.balance
  written : ∃ legged : Db,
    Yields (repayLegs (p.reference db.tenantId) (loan.repayAllocation (p.actualRepayment loan))
      db.transactions.length p.processedBy) (p.debited db accountId account loan) () legged ∧
    mid = legged.updateLoan p.loanId
      (·.pay (loan.repayAllocation (p.actualRepayment loan)) (p.newStatus loan))

theorem repay_checked {p : RepayParams} {r : RepayResult} {db db' : Db}
    (h : Yields (repay p) db r db') :
    ∃ accountId account loan, 0 < p.amountKes ∧ db.loans[p.loanId]? = some loan ∧
      loan.status = .active ∧ db.activeAccount loan.memberId .fosa = some (accountId, account) ∧
      Yields (repayBody p accountId loan.loanNumber (p.reference db.tenantId)) db r db' := by
  simp only [repay, yields_bind, yields_get, yields_ensure, yields_required,
    Option.filter_eq_some_iff, decide_eq_true_eq] at h
  obtain ⟨_, _, ⟨hpos, rfl⟩, _, _, ⟨rfl, rfl⟩, loan, _, ⟨⟨hloan, hactive⟩, rfl⟩,
    ⟨accountId, account⟩, _, ⟨hacc, rfl⟩, h⟩ := h
  exact ⟨accountId, account, loan, hpos, hloan, hactive, hacc, h⟩

theorem repay_fresh {p : RepayParams} {r : RepayResult} {db db' : Db}
    (hfind : db.transactionByReference (p.reference db.tenantId) = none)
    (h : Yields (repay p) db r db') :
    ∃ accountId account loan mid, RepayPosted p db accountId account loan mid ∧
      ((p.newStatus loan = .fullyPaid ∧
          Yields (releaseGuarantorHoldsOnFullRepayment p.now p.loanId) mid () db') ∨
        (p.newStatus loan = .active ∧ db' = mid)) := by
  obtain ⟨accountId, account, loan, hpos, hloan, hactive, hacc, h⟩ := repay_checked h
  simp only [repayBody, yields_bind, yields_get] at h
  obtain ⟨_, _, ⟨rfl, rfl⟩, h⟩ := h
  obtain ⟨hrow, _, _, hactive'⟩ := activeAccount_some hacc
  simp only [hfind, yields_bind, yields_required, yields_ensure, yields_createTransaction,
    yields_modify, Option.filter_eq_some_iff, hrow, hloan, Option.some.injEq] at h
  obtain ⟨_, _, ⟨⟨rfl, _⟩, rfl⟩, _, _, ⟨rfl, rfl⟩, _, _, ⟨_, rfl⟩, _, _, ⟨hcov, rfl⟩,
    _, _, ⟨_, rfl, rfl⟩, _, _, rfl, _, _, hl₁, _, _, hl₂, _, legged, hl₃, _, _, rfl,
    h⟩ := h
  have hlegs : Yields (repayLegs (p.reference db.tenantId)
      (loan.repayAllocation (p.actualRepayment loan)) db.transactions.length p.processedBy)
      (p.debited db accountId account loan) () legged := by
    simp only [repayLegs, yields_bind]
    exact ⟨_, _, hl₁, _, _, hl₂, hl₃⟩
  refine ⟨accountId, account, loan, _, ⟨hpos, hloan, hactive, hacc, hfind, hcov, legged, hlegs,
    rfl⟩, ?_⟩
  rcases yields_ite.mp h with ⟨hs, h⟩ | ⟨hs, h⟩
  · simp only [yields_bind, yields_pure] at h
    obtain ⟨_, _, hrel, _, rfl⟩ := h
    exact .inl ⟨hs, hrel⟩
  · simp only [yields_pure] at h
    refine .inr ⟨?_, h.2.symm⟩
    unfold RepayParams.newStatus
    unfold RepayParams.actualRepayment
    split
    · next h0 => exact absurd (if_pos h0) hs
    · rfl

/-- A committed repayment found its reference and wrote nothing, or is new. -/
theorem repay_cases {p : RepayParams} {r : RepayResult} {db db' : Db}
    (h : Yields (repay p) db r db') :
    db' = db ∨ ∃ accountId account loan mid, RepayPosted p db accountId account loan mid ∧
      ((p.newStatus loan = .fullyPaid ∧
          Yields (releaseGuarantorHoldsOnFullRepayment p.now p.loanId) mid () db') ∨
        (p.newStatus loan = .active ∧ db' = mid)) := by
  cases hfind : db.transactionByReference (p.reference db.tenantId) with
  | none => exact .inr (repay_fresh hfind h)
  | some e =>
    obtain ⟨_, _, _, _, _, _, _, h⟩ := repay_checked h
    simp only [repayBody, yields_bind, yields_get] at h
    obtain ⟨_, _, ⟨rfl, rfl⟩, h⟩ := h
    simp only [hfind, yields_bind, yields_required, yields_pure] at h
    obtain ⟨_, _, ⟨_, rfl⟩, _, rfl⟩ := h
    exact .inl rfl

/-! ## 3. `LoanRepaymentService.processRepayment` -/

/-- The amount of a repayment from outside, when it is a positive number. -/
def ProcessRepaymentInput.received (input : ProcessRepaymentInput) : Option Nat :=
  (input.amount.filter (0 < ·)).map fun amount => (toDecimalPlaces4 amount).toNat

/-- A committed repayment was recognised as processed before and wrote nothing, or was
applied to the loan it names. -/
theorem processRepayment_cases {now : Int} {input : ProcessRepaymentInput}
    {r : RepaymentAllocationSummary} {db db' : Db}
    (h : Yields (processRepayment now input) db r db') :
    (db' = db ∧ ∃ d, db.duplicateRepayment input.reference = some d) ∨
    ∃ amount loanId loan, input.received = some amount ∧
      db.duplicateRepayment input.reference = none ∧
      db.targetLoan input = some (loanId, loan) ∧ loan.status.repayable = true ∧
      Yields (applyRepayment now input amount loanId loan) db r db' := by
  simp only [processRepayment, yields_bind, yields_get, yields_required] at h
  obtain ⟨amount, _, ⟨hamount, rfl⟩, _, _, ⟨rfl, rfl⟩, h⟩ := h
  cases hdup : db.duplicateRepayment input.reference with
  | some d =>
    simp only [hdup, yields_bind, yields_required, yields_pure] at h
    obtain ⟨_, _, ⟨_, rfl⟩, _, rfl⟩ := h
    exact .inl ⟨rfl, d, rfl⟩
  | none =>
    simp only [hdup, lockTargetLoan, yields_bind, yields_get, yields_required, yields_ensure,
      yields_pure] at h
    obtain ⟨_, _, ⟨_, _, ⟨rfl, rfl⟩, ⟨loanId, loan⟩, _, ⟨htarget, rfl⟩, _, _, ⟨hst, rfl⟩, rfl, rfl⟩,
      happly⟩ := h
    refine .inr ⟨_, loanId, loan, ?_, rfl, htarget, hst, happly⟩
    rw [ProcessRepaymentInput.received, hamount]
    rfl

end BebaSacco
