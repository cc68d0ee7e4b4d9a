import BebaSacco.InterestCharged

/-! # What a loan owes, counted once

The waterfall takes arrears, accrued interest and outstanding principal as three separate
buckets. The nightly job fills the arrears from all that is unpaid of the overdue instalments,
principal and interest included, which the other two buckets hold as well. The buckets stay
within the debt of the schedule as long as what is overdue is penalties only.

Results:
 1. `separate_step`: an accrual with no overdue principal or interest, and every repayment, keeps
    the buckets apart.
 2. `buckets_within_debt`: in a run of such operations the waterfall can take no more than the
    schedule asks for.
 3. `arrears_count_twice`: an overdue instalment is counted as arrears and as principal.
-/

namespace BebaSacco

open Txn ProRata FootprintLemmas InstallmentLemmas AccrualLemmas InterestLemmas

/-! ## 1. The debt and the buckets -/

/-- What the schedule still asks for: principal, interest and penalties. -/
def Db.scheduledDebt (db : Db) (loanId : Nat) : Int :=
  db.scheduled loanId LoanRepayment.unpaidPrincipal +
    db.scheduled loanId LoanRepayment.unpaidInterest +
    db.scheduled loanId LoanRepayment.unpaidPenalty

/-- What the waterfall can take before it declares an overpayment. -/
def Db.collectable (db : Db) (loanId : Nat) : Int :=
  ((db.loans[loanId]?.map Loan.totalOwed).getD 0 : Nat)

/-- The interest of the schedule that is still to be accrued. -/
def Db.unaccrued (db : Db) (loanId : Nat) (t : Option Int) : Int :=
  Table.sumOver
    (fun r => if r.loanId = loanId then
      (db.period loanId r).entitled msPerDay (some r.dueDate) -
        (db.period loanId r).entitled msPerDay t
      else 0)
    db.loanRepayments

/-- Each bucket of the loan stays within its part of the debt, the interest together with what
is still to accrue. -/
structure Separate (loanId : Nat) (db : Db) (loan : Loan) : Prop where
  principal : (loan.outstandingBalance : Int) ≤ db.scheduled loanId LoanRepayment.unpaidPrincipal
  interest : loan.accruedInterest + db.unaccrued loanId loan.lastAccrualDate ≤
    db.scheduled loanId LoanRepayment.unpaidInterest
  penalty : (loan.arrearsAmount : Int) ≤ db.scheduled loanId LoanRepayment.unpaidPenalty

/-- The loan as its disbursement leaves it: nothing was paid or accrued, and the schedule asks
for the principal. -/
structure Db.Disbursed (db : Db) (loanId : Nat) (loan : Loan) : Prop where
  row : db.loans[loanId]? = some loan
  principal : (loan.outstandingBalance : Int) ≤ db.scheduled loanId LoanRepayment.principalDue
  accrued : loan.accruedInterest = 0
  arrears : loan.arrearsAmount = 0
  unpaid : ∀ r ∈ db.loanRepayments, r.loanId = loanId → r.principalPaid = 0 ∧ r.interestPaid = 0

/-! ## 2. Operations that keep the buckets apart -/

/-- No principal and no interest of the loan is overdue. -/
def Db.onlyPenaltiesOverdue (db : Db) (loanId : Nat) (accrualDate : Int) : Bool :=
  db.loanRepayments.all fun r =>
    r.loanId != loanId || accrualDate ≤ r.dueDate ||
      (r.unpaidPrincipal == 0 && r.unpaidInterest == 0)

/-- The accrual writes nothing; or it is a new one, accrues nothing or on the plan, and finds no
overdue principal or interest. -/
def Db.accrualSeparate (db seen : Db) (loanId : Nat) (accrualDate : Int) : Bool :=
  match seen.loans[loanId]?.filter (·.accruesOn accrualDate) with
  | none => true
  | some loan =>
    loan.outstandingBalance == 0 || (seen.activeAccount loan.memberId .fosa).isNone ||
      ((db.loans[loanId]?.any fun l => l.lastAccrualDate.all (· < accrualDate)) &&
        (seen.currentInstallment loanId accrualDate).all (fun row =>
          (seen.period loanId row).rate == 0 || db.onPlan seen loanId accrualDate row) &&
        db.onlyPenaltiesOverdue loanId accrualDate)

/-- An accrual of this kind, or any repayment. -/
def keepsApart (loanId : Nat) (db : Db) : Op → Bool
  | .accrue seen l accrualDate => l != loanId || db.accrualSeparate seen loanId accrualDate
  | .repay _ => true
  | .processRepayment _ _ => true
  | _ => false

namespace BucketLemmas

theorem unaccrued_nonneg (db : Db) (loanId : Nat) (t : Option Int) : 0 ≤ db.unaccrued loanId t := by
  refine Table.sumOver_nonneg fun r _ => ?_
  split
  · have hfull : (db.period loanId r).entitled msPerDay t ≤
        (db.period loanId r).entitled msPerDay (some r.dueDate) :=
      Period.entitled_le_full msPerDay_pos
    omega
  · exact Int.le_refl 0

theorem unaccrued_eq (db : Db) (loanId : Nat) (t : Option Int) :
    db.unaccrued loanId t = db.unaccrued loanId none - db.entitled loanId t := by
  unfold Db.unaccrued Db.entitled
  induction db.loanRepayments with
  | nil => rfl
  | cons r rows ih =>
    rw [Table.sumOver_cons, Table.sumOver_cons, Table.sumOver_cons, ih]
    split
    · rw [Period.entitled_none]
      omega
    · omega

theorem unaccrued_plan {loanId : Nat} {db db' : Db} (h : db.SamePlan loanId db') (t : Option Int) :
    db'.unaccrued loanId t = db.unaccrued loanId t := by
  unfold Db.unaccrued
  rw [Table.sumOver_congr fun r _ => by rw [period_plan h r]]
  exact Table.sumOver_map_same LoanRepayment.quote (fun r => if r.loanId = loanId then
    (db.period loanId r).entitled msPerDay (some r.dueDate) -
      (db.period loanId r).entitled msPerDay t else 0) (fun _ => rfl) h.quotes

theorem separate_disbursed {db : Db} {loanId : Nat} {loan : Loan} (h : db.Disbursed loanId loan) :
    Separate loanId db loan := by
  have hprincipal : db.scheduled loanId LoanRepayment.unpaidPrincipal =
      db.scheduled loanId LoanRepayment.principalDue := by
    refine Table.sumOver_congr fun r hr => ?_
    split
    · next hl => rw [LoanRepayment.unpaidPrincipal, (h.unpaid r hr hl).1, Nat.sub_zero]
    · rfl
  have hpenalty : 0 ≤ db.scheduled loanId LoanRepayment.unpaidPenalty := by
    refine Table.sumOver_nonneg fun r _ => ?_
    split
    · exact Int.natCast_nonneg _
    · exact Int.le_refl 0
  refine ⟨hprincipal ▸ h.principal, ?_, ?_⟩
  · rw [h.accrued, Nat.cast_zero, Int.zero_add]
    refine Table.sumOver_le fun r hr => ?_
    split
    · next hl =>
      have hquote : (db.period loanId r).entitled msPerDay (some r.dueDate) ≤ r.interestDue :=
        Period.entitled_le_quote msPerDay_pos
      have hpos : 0 ≤ (db.period loanId r).entitled msPerDay loan.lastAccrualDate :=
        Period.entitled_nonneg
      rw [LoanRepayment.unpaidInterest, (h.unpaid r hr hl).2, Nat.sub_zero]
      omega
    · exact Int.le_refl 0
  · rw [h.arrears]
    exact hpenalty

/-- Buckets that are apart hold no more than the debt. -/
theorem collectable_le {db : Db} {loanId : Nat} {loan : Loan} (hrow : db.loans[loanId]? = some loan)
    (h : Separate loanId db loan) : db.collectable loanId ≤ db.scheduledDebt loanId := by
  have hp := h.principal
  have hi := h.interest
  have hn := h.penalty
  have hrest := unaccrued_nonneg db loanId loan.lastAccrualDate
  rw [Db.collectable, hrow]
  show ((loan.arrearsAmount + loan.accruedInterest + loan.outstandingBalance : Nat) : Int) ≤ _
  unfold Db.scheduledDebt
  omega

/-! ## 3. Repayments -/

theorem separate_paid {l loanId : Nat} {loan paid : Loan} {a : Allocation} {db db' : Db}
    (h : Paid l paid a db db') (hrow : db.loans[loanId]? = some loan)
    (hs : Separate loanId db loan) :
    ∃ loan', db'.loans[loanId]? = some loan' ∧ Separate loanId db' loan' := by
  have hplan : db.SamePlan loanId db' := by
    obtain ⟨status, hloans⟩ := h.loans
    refine ⟨h.quotes, ?_⟩
    rw [hloans]
    exact Table.bind_modify_same fun _ => rfl
  obtain ⟨status, hloans⟩ := h.loans
  by_cases hl : l = loanId
  · subst hl
    have hsame : paid = loan := by
      have hrow' := h.row
      rw [hrow] at hrow'
      exact (Option.some.inj hrow').symm
    subst hsame
    have hp := h.principal
    have hi := h.interest
    have hn := h.penalty
    have hsp := hs.principal
    have hsi := hs.interest
    have hsn := hs.penalty
    refine ⟨paid.pay a status, ?_, ?_, ?_, ?_⟩
    · rw [hloans, Table.getElem?_modify_self hrow]
    · show ((paid.outstandingBalance - a.principal : Nat) : Int) ≤ _
      have hfits := h.fits.principal
      omega
    · rw [unaccrued_plan hplan]
      show ((paid.accruedInterest - a.interest : Nat) : Int) +
        db.unaccrued l paid.lastAccrualDate ≤ _
      have hfits := h.fits.interest
      omega
    · show ((paid.arrearsAmount - a.penalty : Nat) : Int) ≤ _
      have hfits := h.fits.penalty
      omega
  · have hne : loanId ≠ l := fun he => hl he.symm
    refine ⟨loan, by rw [hloans, Table.getElem?_modify_other hl, hrow], ?_, ?_, ?_⟩
    · rw [h.apart loanId hne]
      exact hs.principal
    · rw [h.apart loanId hne, unaccrued_plan hplan]
      exact hs.interest
    · rw [h.apart loanId hne]
      exact hs.penalty

/-! ## 4. Accruals -/

theorem onlyPenaltiesOverdue_same {db db' : Db}
    (h : db'.loanRepayments.map LoanRepayment.unpenalized =
      db.loanRepayments.map LoanRepayment.unpenalized) (loanId : Nat) (accrualDate : Int) :
    db'.onlyPenaltiesOverdue loanId accrualDate = db.onlyPenaltiesOverdue loanId accrualDate := by
  have hcomp : ∀ rows : List LoanRepayment, (rows.all fun r =>
      r.loanId != loanId || accrualDate ≤ r.dueDate ||
        (r.unpaidPrincipal == 0 && r.unpaidInterest == 0)) =
      (rows.map LoanRepayment.unpenalized).all fun r =>
        r.loanId != loanId || accrualDate ≤ r.dueDate ||
          (r.unpaidPrincipal == 0 && r.unpaidInterest == 0) := by
    intro rows
    rw [List.all_map]
    rfl
  rw [Db.onlyPenaltiesOverdue, hcomp, h, ← hcomp, Db.onlyPenaltiesOverdue]

/-- The arrears are penalties when nothing else is overdue. -/
theorem arrears_le {db : Db} {loanId : Nat} {accrualDate : Int}
    (h : db.onlyPenaltiesOverdue loanId accrualDate = true) :
    ((db.arrears loanId accrualDate).arrearsAmount : Int) ≤
      db.scheduled loanId LoanRepayment.unpaidPenalty := by
  rw [arrears_sum]
  refine Table.sum_filter_le (fun r hr hp => ?_) fun r _ => ?_
  · simp only [Bool.and_eq_true, beq_iff_eq, decide_eq_true_eq] at hp
    obtain ⟨hdue, hloan, _⟩ := hp
    have hclear := List.all_eq_true.mp h r hr
    simp only [Bool.or_eq_true, bne_iff_ne, ne_eq, decide_eq_true_eq, Bool.and_eq_true,
      beq_iff_eq] at hclear
    rw [if_pos hloan]
    rcases hclear with (hne | hlate) | ⟨hprincipal, hinterest⟩
    · exact absurd hloan hne
    · omega
    · unfold LoanRepayment.unpaidPrincipal at hprincipal
      unfold LoanRepayment.unpaidInterest at hinterest
      unfold LoanRepayment.unpaid LoanRepayment.unpaidPenalty
      omega
  · split
    · exact Int.natCast_nonneg _
    · exact Int.le_refl 0

theorem separate_accrue {seen : Db} {loanId : Nat} {accrualDate : Int} {u : Unit} {db db' : Db}
    {loan : Loan} (hg : db.accrualSeparate seen loanId accrualDate = true)
    (h : Yields (accrueInterestForLoan seen loanId accrualDate) db u db')
    (hrow : db.loans[loanId]? = some loan) (hs : Separate loanId db loan) :
    ∃ loan', db'.loans[loanId]? = some loan' ∧ Separate loanId db' loan' := by
  rcases accrue_cases h with
    rfl | ⟨found, account, _, _, _, hfound, hout, hacc, _, _, _, _, haccrued⟩
  · exact ⟨loan, hrow, hs⟩
  rw [Db.accrualSeparate, hfound] at hg
  dsimp only at hg
  rw [hacc, beq_false_of_ne hout, Bool.false_or, Option.isNone_some, Bool.false_or,
    Bool.and_eq_true, Bool.and_eq_true, hrow, Option.any_some] at hg
  obtain ⟨⟨hlast, hcurrent⟩, hoverdue⟩ := hg
  have hplan := accrued_plan haccrued (fun _ => rfl) loanId
  -- what accrues today moves out of what was still to accrue
  have hinterest : db.unaccrued loanId (some accrualDate) +
      seen.computeScheduleBasedDailyInterest loanId found accrualDate ≤
        db.unaccrued loanId loan.lastAccrualDate := by
    have hlastAccrual : db.lastAccrual loanId = loan.lastAccrualDate := by
      rw [Db.lastAccrual, hrow]
      rfl
    have hbefore : ∀ a, db.lastAccrual loanId = some a → a < accrualDate := by
      intro a ha
      rw [hlastAccrual] at ha
      rw [ha] at hlast
      exact of_decide_eq_true hlast
    have hgrown := current_entitled (fun n => Nat.le_refl n) hbefore hcurrent
    rw [dailyInterest_eq (Option.filter_eq_some_iff.mp hfound).1, unaccrued_eq,
      unaccrued_eq db loanId loan.lastAccrualDate, ← hlastAccrual]
    omega
  refine ⟨loan.accrue (db'.arrears loanId accrualDate)
    (seen.computeScheduleBasedDailyInterest loanId found accrualDate) accrualDate, ?_, ?_, ?_, ?_⟩
  · rw [haccrued.loans, Table.getElem?_modify_self hrow]
  · rw [scheduled_unpenalized haccrued.rows loanId fun _ => rfl]
    exact hs.principal
  · rw [unaccrued_plan hplan, scheduled_unpenalized haccrued.rows loanId fun _ => rfl]
    show ((loan.accruedInterest + seen.computeScheduleBasedDailyInterest loanId found accrualDate :
      Nat) : Int) + db.unaccrued loanId (some accrualDate) ≤ _
    have hsum := hs.interest
    omega
  · refine arrears_le ?_
    rw [onlyPenaltiesOverdue_same haccrued.rows]
    exact hoverdue

theorem separate_accrue_other {seen : Db} {l loanId : Nat} {accrualDate : Int} {u : Unit}
    {db db' : Db} {loan : Loan} (hl : l ≠ loanId)
    (h : Yields (accrueInterestForLoan seen l accrualDate) db u db')
    (hrow : db.loans[loanId]? = some loan) (hs : Separate loanId db loan) :
    ∃ loan', db'.loans[loanId]? = some loan' ∧ Separate loanId db' loan' := by
  rcases accrue_cases h with rfl | ⟨found, account, _, _, _, _, _, _, _, _, _, _, haccrued⟩
  · exact ⟨loan, hrow, hs⟩
  have hplan := accrued_plan haccrued (fun _ => rfl) loanId
  refine ⟨loan, ?_, ?_, ?_, ?_⟩
  · rw [haccrued.loans, Table.getElem?_modify_other hl, hrow]
  · rw [scheduled_unpenalized haccrued.rows loanId fun _ => rfl]
    exact hs.principal
  · rw [unaccrued_plan hplan, scheduled_unpenalized haccrued.rows loanId fun _ => rfl]
    exact hs.interest
  · exact hs.penalty.trans (haccrued.penalty loanId)

end BucketLemmas

open BucketLemmas

/-! ## 5. Runs -/

/-- An accrual without overdue principal or interest, and every repayment, keeps the buckets of
the loan apart. -/
theorem separate_step {loanId : Nat} {db : Db} {op : Op} (hg : keepsApart loanId db op = true)
    (h : ∃ loan, db.loans[loanId]? = some loan ∧ Separate loanId db loan) :
    ∃ loan, (step db op).loans[loanId]? = some loan ∧ Separate loanId (step db op) loan := by
  obtain ⟨loan, hrow, hs⟩ := h
  rcases step_cases db op with ⟨u, hstep⟩ | hstep
  · cases op with
    | accrue seen l accrualDate =>
      by_cases hl : l = loanId
      · subst hl
        have hseparate : db.accrualSeparate seen l accrualDate = true := by
          rwa [keepsApart, bne_self_eq_false, Bool.false_or] at hg
        exact separate_accrue hseparate hstep hrow hs
      · exact separate_accrue_other hl hstep hrow hs
    | repay p =>
      obtain ⟨_, _, hrepay, hpure⟩ := yields_bind.mp hstep
      have hafter := (yields_pure.mp hpure).2
      rcases repay_paid hrepay with hsame | ⟨paid, _, _, _, hpaid⟩
      · rw [← hafter, hsame]
        exact ⟨loan, hrow, hs⟩
      · rw [← hafter]
        exact separate_paid hpaid hrow hs
    | processRepayment now input =>
      obtain ⟨_, _, hrepay, hpure⟩ := yields_bind.mp hstep
      have hafter := (yields_pure.mp hpure).2
      rcases processRepayment_paid hrepay with hsame | ⟨_, _, paid, _, _, _, _, hpaid⟩
      · rw [← hafter, hsame]
        exact ⟨loan, hrow, hs⟩
      · rw [← hafter]
        exact separate_paid hpaid hrow hs
    | _ => cases hg
  · rw [hstep]
    exact ⟨loan, hrow, hs⟩

/-- In every run from the disbursement in which what is overdue at an accrual is penalties only,
the waterfall can take no more than the schedule still asks for. -/
theorem buckets_within_debt {db : Db} {loanId : Nat} {loan : Loan} {ops : List Op}
    (hd : db.Disbursed loanId loan)
    (hg : Machine.Guarded step (fun db op => keepsApart loanId db op = true) db ops) :
    (db.after ops).collectable loanId ≤ (db.after ops).scheduledDebt loanId := by
  have hstep : ∀ (s : Db) (op : Op),
      (∃ loan, s.loans[loanId]? = some loan ∧ Separate loanId s loan) →
      keepsApart loanId s op = true →
      ∃ loan, (step s op).loans[loanId]? = some loan ∧ Separate loanId (step s op) loan :=
    fun s op hs hop => separate_step hop hs
  have hinit : ∃ loan, db.loans[loanId]? = some loan ∧ Separate loanId db loan :=
    ⟨loan, hd.row, separate_disbursed hd⟩
  obtain ⟨_, hrow, hs⟩ := Machine.run_induct hstep hinit hg
  exact collectable_le hrow hs

/-- The two accruals before the instalment is due, and a repayment of KES 50. -/
theorem buckets_within_debt_paid :
    ∃ ops, ops = exAccruals exScheduled [1, 2] ++ [exRepay 500000] ∧
      (exScheduled.after ops).collectable 0 = 600000 ∧
      (exScheduled.after ops).collectable 0 ≤ (exScheduled.after ops).scheduledDebt 0 := by
  have hdisbursed : exScheduled.Disbursed 0 exLoan := ⟨rfl, by decide, rfl, rfl, by decide⟩
  exact ⟨_, rfl, by decide +kernel, buckets_within_debt hdisbursed (by decide +kernel)⟩

/-- The accrual of the day after the instalment was due: its KES 110 are arrears, and the same
KES 100 are still the outstanding balance. -/
theorem arrears_count_twice :
    exScheduled.Disbursed 0 exLoan ∧
      ¬ (exScheduled.after (exAccruals exScheduled [3])).collectable 0 ≤
        (exScheduled.after (exAccruals exScheduled [3])).scheduledDebt 0 := by
  refine ⟨⟨rfl, by decide, rfl, rfl, by decide⟩, ?_⟩
  decide +kernel

end BebaSacco
