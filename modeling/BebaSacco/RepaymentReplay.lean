import BebaSacco.Waterfall

/-! # Redelivered repayments

The queue may deliver a repayment more than once. `processRepayment` takes it for processed when a
statement row of a loan has the very reference, and the rows that it writes have longer ones.

Results:
 1. `duplicate_never_written`: a repayment does not make its own reference known.
 2. `repayment_replayed`: when a redelivery changes nothing, and that it takes from the loans
    otherwise.
 3. `repayment_taken_twice`: two deliveries take KES 60 off a loan.
-/

namespace BebaSacco

open Txn FootprintLemmas InstallmentLemmas ReferenceLemmas WaterfallLemmas

/-! ## 1. Deliveries -/

/-- The same repayment is delivered at each of the times. -/
def Db.delivered (db : Db) (input : ProcessRepaymentInput) (times : List Int) : Db :=
  times.foldl (fun db now => commit (processRepayment now input) db) db

/-- The repayment names its loan by id or by number. -/
def ProcessRepaymentInput.namesLoan (input : ProcessRepaymentInput) : Bool :=
  input.loanId.isSome ||
    ((input.loanNumber.or (input.accountReference.map stripLoanPrefix)).filter (· ≠ "")).isSome

/-- Another loan of the member can be repaid. -/
def Db.otherTarget (db : Db) (input : ProcessRepaymentInput) (loanId : Nat) : Bool :=
  (Table.selectRows (fun loan => some loan.memberId == input.memberId && loan.status.repayable)
    db.loans).any fun r => r.1 != loanId

/-- A second delivery finds the reference or has nothing to repay: no positive amount, no loan that
can be repaid, no FOSA account, or the first one pays off the principal of the only loan that the
repayment leads to. -/
def Db.replaySafe (db : Db) (input : ProcessRepaymentInput) : Bool :=
  (db.duplicateRepayment input.reference).isSome ||
    match input.received, db.targetLoan input with
    | some amount, some (loanId, loan) =>
      !loan.status.repayable || (db.activeAccount loan.memberId .fosa).isNone ||
        (loan.outstandingBalance == (loan.waterfall amount).1.principal &&
          (input.namesLoan || !db.otherTarget input loanId))
    | _, _ => true

namespace ReplayLemmas

variable {now : Int} {input : ProcessRepaymentInput} {r : RepaymentAllocationSummary} {db db' : Db}
  {amount loanId : Nat} {loan : Loan}

/-! ## 2. One delivery -/

theorem suffixed_ne {s suffix : String} (h : suffix ≠ "") : s ++ suffix ≠ s := by
  intro heq
  refine h (String.append_right_inj s |>.mp ?_)
  rw [String.append_empty]
  exact heq

/-- The mark of a processed repayment is the first statement row under its reference. -/
theorem duplicateRepayment_eq (db : Db) (reference : String) :
    db.duplicateRepayment reference =
      (db.rowsUnder reference).head?.bind fun t => t.loanId.map fun loanId => (t, loanId) := by
  unfold Db.duplicateRepayment Db.rowsUnder Db.transactionByReference
  rw [List.head?_filter, Table.find_findRow]
  cases Table.findRow (fun t : Transaction => t.reference == reference) db.transactions with
  | none => rfl
  | some found => rfl

/-- No row that a repayment writes has its reference. -/
theorem duplicate_never_written (h : Yields (processRepayment now input) db r db') :
    db'.duplicateRepayment input.reference = db.duplicateRepayment input.reference := by
  have hleg : ∀ (leg : Leg) (n : Nat),
      s!"{input.reference}-{leg.allocationSuffix}-{toString n}" ≠ input.reference := by
    intro leg n
    have htext : s!"{input.reference}-{leg.allocationSuffix}-{toString n}" =
        input.reference ++ ("-" ++ (leg.allocationSuffix ++ ("-" ++ toString n))) := by
      simp only [← String.append_assoc]
      rfl
    rw [htext]
    refine suffixed_ne fun hempty => ?_
    have hchars := congrArg (fun s => s.toList.head?) hempty
    simp at hchars
  have hover : s!"{input.reference}-OVERPAY" ≠ input.reference := suffixed_ne (by decide)
  rw [duplicateRepayment_eq, duplicateRepayment_eq, (processRepayment_sameUnder hleg hover h).rows]

/-- The loans after a repayment that was applied. -/
theorem applied_loans (happly : Yields (applyRepayment now input amount loanId loan) db r db') :
    db'.loans = db.loans.modify loanId (·.pay (loan.waterfall amount).1
      (repaidStatus loan (loan.pay (loan.waterfall amount).1 loan.status))) := by
  obtain ⟨mid, halloc, hsame⟩ := applyRepayment_cases happly
  obtain ⟨left, hleft⟩ := applyInstallmentAllocation_allocated halloc
  rw [hsame.loans, Db.updateLoan, hleft.others]

/-- A delivery that meets an answered message, or no loan to repay, writes nothing. -/
theorem delivered_idle (hidle : ∀ (now : Int) {r : RepaymentAllocationSummary} {db' : Db},
    Yields (processRepayment now input) db r db' → db' = db) (times : List Int) :
    db.delivered input times = db := by
  induction times with
  | nil => rfl
  | cons now times ih =>
    have hcommit : commit (processRepayment now input) db = db := by
      rcases yields_or_fails (processRepayment now input) db with ⟨r, db', hy⟩ | hfails
      · rw [commit_of_yields hy]
        exact hidle now hy
      · exact commit_of_fails hfails
    show Db.delivered (commit _ db) input times = db
    rw [hcommit]
    exact ih

/-- A delivery that finds the mark writes nothing. -/
theorem delivered_known (hknown : (db.duplicateRepayment input.reference).isSome = true) :
    ∀ times : List Int, db.delivered input times = db := by
  refine delivered_idle fun now _ _ hy => ?_
  rcases processRepayment_cases hy with ⟨rfl, -⟩ | ⟨_, _, _, -, hnew, -⟩
  · rfl
  · rw [hnew] at hknown
    cases hknown

/-- A delivery that finds no loan to repay writes nothing. -/
theorem delivered_aimless
    (hnone : ∀ l loan, db.targetLoan input = some (l, loan) → loan.status.repayable = false) :
    ∀ times : List Int, db.delivered input times = db := by
  refine delivered_idle fun now _ _ hy => ?_
  rcases processRepayment_cases hy with ⟨rfl, -⟩ | ⟨_, l, loan, -, -, htarget, hrepayable, -⟩
  · rfl
  · cases (hnone l loan htarget).symm.trans hrepayable

/-- The loan is paid off, and the repayment leads to no other. -/
theorem target_closed (htarget : db.targetLoan input = some (loanId, loan))
    (hsingle : (input.namesLoan || !db.otherTarget input loanId) = true) {paid : Loan → Loan}
    (hloans : db'.loans = db.loans.modify loanId paid)
    (hnumber : (paid loan).loanNumber = loan.loanNumber)
    (hclosed : (paid loan).status.repayable = false) :
    ∀ l loan', db'.targetLoan input = some (l, loan') → loan'.status.repayable = false := by
  intro l loan' htarget'
  have hrow := targetLoan_some htarget
  have hpaid : db'.loans[loanId]? = some (paid loan) := by
    rw [hloans]
    exact Table.getElem?_modify_self hrow
  unfold Db.targetLoan at htarget htarget'
  dsimp only at htarget htarget'
  split at htarget
  · next id hid =>
    rw [hid] at htarget'
    obtain ⟨_, hl, heq⟩ := Option.map_eq_some_iff.mp htarget
    cases heq
    obtain ⟨_, hl', heq'⟩ := Option.map_eq_some_iff.mp htarget'
    cases heq'
    cases hpaid.symm.trans hl'
    exact hclosed
  · next number hid hnum =>
    rw [hid, hnum] at htarget'
    dsimp only at htarget'
    have hfound := Table.findRow_modify_same htarget (f := paid)
      (by rw [hnumber]; exact (Table.findRow_some htarget).2)
    rw [hloans, hfound] at htarget'
    cases htarget'
    exact hclosed
  · next hid hnum =>
    rw [hid, hnum] at htarget'
    have hmem := Table.mem_selectRows.mp (Table.leastRow_mem htarget')
    -- the other loans of the member are as they were
    have hother : ∀ r ∈ Table.selectRows (fun loan => some loan.memberId == input.memberId &&
        loan.status.repayable) db.loans, r.1 = loanId := by
      unfold ProcessRepaymentInput.namesLoan at hsingle
      rw [hid, hnum, Bool.or_eq_true] at hsingle
      intro r hr
      rcases hsingle with hnames | hsingle
      · cases hnames
      · unfold Db.otherTarget at hsingle
        rw [Bool.not_eq_true', List.any_eq_false] at hsingle
        by_contra hne
        exact hsingle r hr (bne_iff_ne.mpr hne)
    by_cases heq : l = loanId
    · subst heq
      cases hpaid.symm.trans hmem.1
      exact hclosed
    · rw [hloans, Table.getElem?_modify_other (Ne.symm heq)] at hmem
      exact absurd (hother (l, loan') (Table.mem_selectRows.mpr hmem)) heq

/-- A repayment that is applied takes something off its loan, or closes it. -/
theorem applied_changes (hpos : 0 < amount) (hrow : db.loans[loanId]? = some loan)
    (hrepayable : loan.status.repayable = true)
    (happly : Yields (applyRepayment now input amount loanId loan) db r db') :
    db'.loans ≠ db.loans := by
  intro heq
  have hafter := (applyRepayment_applied hrow happly).loan_eq
  rw [heq, hrow] at hafter
  have hsame := Option.some.inj hafter
  have htotal : (loan.waterfall amount).1.total = 0 := by
    have hrepaid := congrArg Loan.totalRepaid hsame
    simp only [Loan.pay] at hrepaid
    omega
  -- nothing was owed, so that the loan is closed
  have hsum := waterfall_sum loan amount
  have hover := waterfall_over loan amount
  have hclosed : repaidStatus loan (loan.pay (loan.waterfall amount).1 loan.status) = .fullyPaid := by
    rw [repaidStatus_fullyPaid]
    simp only [Loan.totalOwed] at hover
    simp only [Loan.pay]
    omega
  have hstatus := congrArg Loan.status hsame
  rw [hclosed] at hstatus
  rw [show loan.status = .fullyPaid from hstatus] at hrepayable
  cases hrepayable

end ReplayLemmas

open ReplayLemmas

/-- When `replaySafe`, a repayment that was processed is not processed again, however often and
whenever it is delivered. Otherwise every redelivery that goes through changes a loan again. -/
theorem repayment_replayed (db : Db) (input : ProcessRepaymentInput) :
    (db.replaySafe input = true →
      (∀ now n, db.delivered input (List.replicate (n + 1) now) = db.delivered input [now]) ∧
      ∀ now r db', Yields (processRepayment now input) db r db' →
        ∀ times, db'.delivered input times = db') ∧
    (db.replaySafe input = false → ∀ now now' r r' db' db'',
      Yields (processRepayment now input) db r db' →
      Yields (processRepayment now' input) db' r' db'' → input.received ≠ some 0 →
        db''.loans ≠ db'.loans) := by
  constructor
  · intro hsafe
    have hreplayed : ∀ now r db', Yields (processRepayment now input) db r db' →
        ∀ times, db'.delivered input times = db' := by
      intro now r db' hy times
      rcases processRepayment_cases hy with
        ⟨rfl, d, hd⟩ | ⟨amount, loanId, loan, hamount, hnew, htarget, hrepayable, happly⟩
      · exact delivered_known (by rw [hd]; rfl) times
      · obtain ⟨_, account, _, hactive, -⟩ :=
          (applyRepayment_applied (targetLoan_some htarget) happly).account_eq
        -- the first delivery closes the loan, and the payer has no other, so the next ones have no
        -- target
        have hcloses : (loan.outstandingBalance == (loan.waterfall amount).1.principal &&
            (input.namesLoan || !db.otherTarget input loanId)) = true := by
          unfold Db.replaySafe at hsafe
          simpa only [hnew, hamount, htarget, hrepayable, hactive, Option.isSome_none,
            Option.isNone_some, Bool.not_true, Bool.false_or] using hsafe
        obtain ⟨hpaid, hsingle⟩ := Bool.and_eq_true_iff.mp hcloses
        refine delivered_aimless (target_closed htarget hsingle (applied_loans happly) rfl ?_) times
        have hclosed : repaidStatus loan
            (loan.pay (loan.waterfall amount).1 loan.status) = .fullyPaid := by
          rw [repaidStatus_fullyPaid]
          simp only [Loan.pay, beq_iff_eq.mp hpaid, Nat.sub_self]
        exact congrArg LoanStatus.repayable hclosed
    refine ⟨fun now n => ?_, hreplayed⟩
    rcases yields_or_fails (processRepayment now input) db with ⟨r, db', hy⟩ | hfails
    · show Db.delivered (commit _ db) input (List.replicate n now) = commit _ db
      rw [commit_of_yields hy]
      exact hreplayed now r db' hy _
    · have hone : db.delivered input [now] = db := commit_of_fails hfails
      induction n with
      | zero => rfl
      | succ n ih =>
        have hfirst : db.delivered input (List.replicate (n + 2) now) =
            (db.delivered input [now]).delivered input (List.replicate (n + 1) now) := rfl
        rw [hfirst, hone]
        exact ih.trans hone
  · intro hunsafe now now' r r' db' db'' hy hy' hzero
    -- the reference was not found before the first delivery, and the repayment does not write it
    have hnone : db.duplicateRepayment input.reference = none := by
      unfold Db.replaySafe at hunsafe
      exact Option.isNone_iff_eq_none.mp (by simpa using (Bool.or_eq_false_iff.mp hunsafe).1)
    rcases processRepayment_cases hy' with
      ⟨-, d, hd⟩ | ⟨amount, loanId, loan, hamount, -, htarget, hrepayable, happly⟩
    · rw [duplicate_never_written hy, hnone] at hd
      cases hd
    · refine applied_changes (Nat.pos_of_ne_zero fun h => hzero ?_) (targetLoan_some htarget)
        hrepayable happly
      rw [hamount, h]

/-- KES 150 on a debt of KES 100, which is the member's only loan. -/
theorem repayment_replayed_closed :
    ∃ r db', Yields (processRepayment 0 (exReceived 150)) (exOwing 0 0 1000000) r db' ∧
      db'.loans.map (·.status) = [.fullyPaid] ∧
      ∀ times, db'.delivered (exReceived 150) times = db' := by
  have h : Yields (processRepayment 0 (exReceived 150)) (exOwing 0 0 1000000)
      ⟨0, "LN-1", ⟨0, 0, 1000000⟩, 500000, 0, .fullyPaid⟩
      (step (exOwing 0 0 1000000) (.processRepayment 0 (exReceived 150))) := by
    decide +kernel
  exact ⟨_, _, h, by decide +kernel,
    ((repayment_replayed (exOwing 0 0 1000000) (exReceived 150)).1 (by decide +kernel)).2 0 _ _ h⟩

/-- KES 30 are delivered twice: KES 60 are off the debt of KES 100, and the general ledger has one
entry. -/
theorem repayment_taken_twice :
    let once := (exOwing 0 0 1000000).delivered (exReceived 30) [0]
    let twice := (exOwing 0 0 1000000).delivered (exReceived 30) [0, 0]
    once.loans.map (·.outstandingBalance) = [700000] ∧
      twice.loans.map (·.outstandingBalance) = [400000] ∧
      twice.transactions.map (·.amount) = [300000, 300000] ∧ twice.journalEntries.length = 1 := by
  decide +kernel

end BebaSacco
