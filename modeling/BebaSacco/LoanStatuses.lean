import BebaSacco.Pledges
import BebaSacco.RepaymentReplay
import Mathlib.Logic.Relation

/-! # Every write of a loan's status

A dozen services write `Loan.status`, and few of them look the transition up in the table. Each is
taken apart into its writes, and the writes of a run are compared with the table.

Results:
 1. `step_followed`: what an operation does to the loans, one write after the other.
 2. `statuses_written`: however often an operation writes a loan, it makes one transition or none.
 3. `loan_statuses`: every transition is in the table or one of five others, and no loan leaves a
    terminal status, when no operation writes on a status that it has checked before and that has
    changed.
 4. `defaulted_paid_off`: a defaulted loan is paid off, which the table does not have.
-/

namespace BebaSacco

open Txn FootprintLemmas InstallmentLemmas AccrualLemmas PledgeLemmas ReplayLemmas

/-! ## 1. Writes -/

/-- The transitions that services make beside the table. -/
def LoanStatus.besides : LoanStatus → List LoanStatus
  -- an approver refuses to sign off
  | .approved => [.rejected]
  -- the payout timed out, the loan is paid off, or it is ninety days in arrears
  | .disbursed => [.approved, .fullyPaid, .defaulted]
  -- a repayment or the guarantors pay the principal
  | .defaulted => [.fullyPaid]
  | _ => []

def LoanStatus.mayBecome (source target : LoanStatus) : Bool :=
  canTransition source target || source.besides.contains target

def Db.statuses (db : Db) : List LoanStatus := db.loans.map (·.status)

/-- What an operation does to the statuses: a loan makes one transition or none, and a new loan starts
as an application. -/
structure StatusStep (statuses statuses' : List LoanStatus) : Prop where
  change : ∀ (id : Nat) (source : LoanStatus), statuses[id]? = some source →
    ∃ target, statuses'[id]? = some target ∧ (target = source ∨ source.mayBecome target = true)
  application : ∀ (id : Nat) (status : LoanStatus), statuses[id]? = none →
    statuses'[id]? = some status → status = .draft ∨ status = .pendingGuarantors

/-- The loan has the status that an earlier statement has checked. -/
def Db.asSeen (db seen : Db) (loanId : Nat) : Bool :=
  db.loans[loanId]?.map (·.status) == seen.loans[loanId]?.map (·.status)

/-- An operation that writes a status by id alone meets the one that it has checked. -/
def meetsSeen (db : Db) : Op → Bool
  | .accrue seen loanId _ | .finishInvite seen loanId _ | .approve seen loanId
  | .updateStatus seen _ loanId _ _ => db.asSeen seen loanId
  | _ => true

/-- A loan that is non-performing or more than ninety days in arrears was defaulted. -/
def Loan.lateDefaulted (loan : Loan) : Prop :=
  loan.staging = .npl ∨ 90 < loan.arrearsDays →
    loan.status = .defaulted ∨ loan.status = .fullyPaid ∨ loan.status = .writtenOff

/-- The transitions of an operation. Where one can follow another, the two of them make one. -/
structure Transitions where
  pairs : List (LoanStatus × LoanStatus)
  allowed : ∀ p ∈ pairs, p.1.mayBecome p.2 = true
  joined : ∀ p ∈ pairs, ∀ q ∈ pairs, p.2 = q.1 → (p.1, q.2) ∈ pairs

namespace Transitions

def includes (moves : Transitions) (source target : LoanStatus) : Bool :=
  moves.pairs.contains (source, target)

def none : Transitions := ⟨[], by decide, by decide⟩

def one (source target : LoanStatus) (h : source.mayBecome target = true) : Transitions :=
  ⟨[(source, target)], by simpa using h, by simp⟩

def repayment : Transitions :=
  ⟨[(.active, .fullyPaid), (.disbursed, .active), (.disbursed, .fullyPaid), (.defaulted, .fullyPaid)],
    by decide, by decide⟩

def accrual : Transitions := ⟨[(.active, .defaulted), (.disbursed, .defaulted)], by decide, by decide⟩

def approval : Transitions :=
  ⟨[(.pendingReview, .approved), (.pendingApproval, .approved)], by decide, by decide⟩

def rejection : Transitions :=
  ⟨[(.pendingGuarantors, .rejected), (.pendingReview, .rejected), (.pendingApproval, .rejected)],
    by decide, by decide⟩

def answer : Transitions :=
  ⟨[(.pendingGuarantors, .pendingApproval), (.pendingGuarantors, .rejectedGuarantorDecline)],
    by decide, by decide⟩

def offset : Transitions :=
  ⟨[(.defaulted, .fullyPaid), (.defaulted, .writtenOff)], by decide, by decide⟩

end Transitions

/-- What one write may make of a loan. -/
def Loan.Follows (moves : Transitions) (loan loan' : Loan) : Prop :=
  loan.lateDefaulted → loan'.lateDefaulted ∧
    (loan'.status = loan.status ∨ moves.includes loan.status loan'.status = true)

/-- One write of the loans. An operation that inserts a loan makes no transition. -/
inductive LoanWrite (moves : Transitions) : List Loan → List Loan → Prop where
  | application {loans : List Loan} {loan : Loan} (hnone : moves = .none)
      (hlate : loan.lateDefaulted) (h : loan.status = .draft ∨ loan.status = .pendingGuarantors) :
      LoanWrite moves loans (loans ++ [loan])
  | write {loans : List Loan} {id : Nat} {f : Loan → Loan}
      (h : ∀ loan, loans[id]? = some loan → loan.Follows moves (f loan)) :
      LoanWrite moves loans (loans.modify id f)

/-- The loans were written, in one or more writes or not at all. -/
def Db.Follows (moves : Transitions) (db db' : Db) : Prop :=
  Relation.ReflTransGen (LoanWrite moves) db.loans db'.loans

namespace StatusLemmas

/-! ## 2. What leaves the loans alone -/

variable {moves : Transitions}

theorem follows_same {db db' : Db} (h : db'.loans = db.loans) : db.Follows moves db' := by
  unfold Db.Follows
  rw [h]

theorem follows_write {db db' : Db} {id : Nat} {f : Loan → Loan}
    (hloans : db'.loans = db.loans.modify id f)
    (h : ∀ loan, db.loans[id]? = some loan → loan.Follows moves (f loan)) :
    db.Follows moves db' := by
  unfold Db.Follows
  rw [hloans]
  exact .single (.write h)

instance : History (Db.Follows moves) where
  refl _ := .refl
  trans h k := h.trans k

instance : AdmitsBalance (Db.Follows moves) :=
  ⟨fun _ _ _ => follows_same rfl, fun _ _ _ => follows_same rfl⟩

instance : AdmitsHold (Db.Follows moves) := ⟨fun _ _ _ => follows_same rfl⟩

instance : AdmitsForfeit (Db.Follows moves) := ⟨fun _ _ _ => follows_same rfl⟩

instance : AdmitsTransaction (Db.Follows moves) where
  insert _ _ := follows_same rfl
  link _ _ _ := follows_same rfl
  markReversed _ _ := follows_same rfl
  uuid _ _ := follows_same rfl

instance : AdmitsEntry (Db.Follows moves) := ⟨fun _ _ => follows_same rfl⟩

instance : AdmitsGuarantor (Db.Follows moves) := ⟨fun _ _ _ _ => follows_same rfl⟩

instance : AdmitsMpesa (Db.Follows moves) := ⟨fun _ _ _ => follows_same rfl⟩

instance : AdmitsChain (Db.Follows moves) := ⟨fun _ _ => follows_same rfl⟩

instance : AdmitsForfeit Db.SameDebts := ⟨fun _ _ _ => ⟨rfl, rfl⟩⟩

/-! ## 3. The writes of the services -/

variable {db db' : Db} {loan loan' : Loan}

/-- A loan that is neither late nor made so. -/
theorem follows_of (hstaging : loan'.staging = loan.staging)
    (hdays : loan'.arrearsDays = loan.arrearsDays)
    (hopen : loan.status ≠ .defaulted ∧ loan.status ≠ .fullyPaid ∧ loan.status ≠ .writtenOff)
    (h : loan'.status = loan.status ∨ moves.includes loan.status loan'.status = true) :
    loan.Follows moves loan' := by
  intro hlate
  refine ⟨fun hnow => ?_, h⟩
  rw [hstaging, hdays] at hnow
  rcases hlate hnow with hs | hs | hs
  · exact absurd hs hopen.1
  · exact absurd hs hopen.2.1
  · exact absurd hs hopen.2.2

theorem follows_same_status (hstaging : loan'.staging = loan.staging)
    (hdays : loan'.arrearsDays = loan.arrearsDays) (h : loan'.status = loan.status) :
    loan.Follows moves loan' := by
  intro hlate
  refine ⟨fun hnow => ?_, .inl h⟩
  rw [hstaging, hdays] at hnow
  rw [h]
  exact hlate hnow

theorem follows_repaid {amount : Nat} (h : loan.status.repayable = true) :
    loan.Follows .repayment (loan.pay (loan.waterfall amount).1
      (repaidStatus loan (loan.pay (loan.waterfall amount).1 loan.status))) := by
  have hcases : loan.status = .active ∨ loan.status = .disbursed ∨ loan.status = .defaulted := by
    unfold LoanStatus.repayable at h
    rw [Bool.or_eq_true, Bool.or_eq_true, beq_iff_eq, beq_iff_eq, beq_iff_eq, or_assoc] at h
    exact h
  generalize hpaid : loan.pay (loan.waterfall amount).1 loan.status = paid
  have howed : paid.outstandingBalance ≤ paid.totalOwed := by
    unfold Loan.totalOwed
    omega
  rcases hcases with hactive | hdisbursed | hdefaulted
  · refine follows_of rfl rfl (by rw [hactive]; decide) ?_
    show repaidStatus loan paid = loan.status ∨
        Transitions.repayment.includes loan.status (repaidStatus loan paid) = true
    unfold repaidStatus
    rw [hactive]
    split
    · exact .inr rfl
    · exact .inl (if_neg fun hand => by cases hand.1)
  · refine follows_of rfl rfl (by rw [hdisbursed]; decide) ?_
    show repaidStatus loan paid = loan.status ∨
        Transitions.repayment.includes loan.status (repaidStatus loan paid) = true
    unfold repaidStatus
    rw [hdisbursed]
    split
    · exact .inr rfl
    · exact .inr (by rw [if_neg fun hand => by cases hand.1]; rfl)
  · intro _
    show (_ → repaidStatus loan paid = .defaulted ∨ repaidStatus loan paid = .fullyPaid ∨
        repaidStatus loan paid = .writtenOff) ∧
      (repaidStatus loan paid = loan.status ∨
        Transitions.repayment.includes loan.status (repaidStatus loan paid) = true)
    unfold repaidStatus
    rw [hdefaulted]
    split
    · exact ⟨fun _ => .inr (.inl rfl), .inr rfl⟩
    · next hleft =>
      rw [if_pos ⟨rfl, Nat.lt_of_lt_of_le (Nat.pos_of_ne_zero hleft) howed⟩]
      exact ⟨fun _ => .inl rfl, .inl rfl⟩

theorem repayPosted_loans {p : RepayParams} {accountId : Nat} {account : Account} {mid : Db}
    (h : RepayPosted p db accountId account loan mid) :
    mid.loans = db.loans.modify p.loanId
      (·.pay (loan.repayAllocation (p.actualRepayment loan)) (p.newStatus loan)) := by
  obtain ⟨legged, hlegs, rfl⟩ := h.written
  have hdebited : db.SameDebts (p.debited db accountId account loan) := ⟨rfl, rfl⟩
  have hlegged : db.SameDebts legged := History.trans hdebited (repayLegs_moves _ _ _ _ hlegs)
  rw [Db.updateLoan, hlegged.loans]

theorem repay_follows (p : RepayParams) : Moves (Db.Follows .repayment) (repay p) := by
  intro db r db' hy
  rcases repay_cases hy with rfl | ⟨i, account, loan, mid, hposted, hrest⟩
  · exact History.refl db'
  have hpaid : db.Follows .repayment mid := by
    refine follows_write (repayPosted_loans hposted) fun row hrow => ?_
    cases hposted.loan_eq.symm.trans hrow
    have hactive := hposted.active
    refine follows_of rfl rfl ?_ ?_
    · rw [hactive]
      decide
    · show p.newStatus loan = loan.status ∨
        Transitions.repayment.includes loan.status (p.newStatus loan) = true
      rw [hactive]
      unfold RepayParams.newStatus
      split
      · exact .inr rfl
      · exact .inl rfl
  rcases hrest with ⟨-, hrelease⟩ | ⟨-, rfl⟩
  · exact History.trans hpaid (releaseOnFullRepayment_moves _ _ hrelease)
  · exact hpaid

theorem processRepayment_follows (now : Int) (input : ProcessRepaymentInput) :
    Moves (Db.Follows .repayment) (processRepayment now input) := by
  intro db r db' hy
  rcases processRepayment_cases hy with ⟨rfl, -⟩ | ⟨amount, loanId, loan, -, -, htarget, hrepayable,
    happly⟩
  · exact History.refl db'
  refine follows_write (applied_loans happly) fun row hrow => ?_
  cases (targetLoan_some htarget).symm.trans hrow
  exact follows_repaid hrepayable

theorem asSeen_status {seen : Db} {loanId : Nat} (hseen : db.asSeen seen loanId = true)
    (hrow : db.loans[loanId]? = some loan) (hfound : seen.loans[loanId]? = some loan') :
    loan.status = loan'.status := by
  unfold Db.asSeen at hseen
  rw [hrow, hfound] at hseen
  exact Option.some.inj (beq_iff_eq.mp hseen)

theorem accrue_follows {seen : Db} {loanId : Nat} {accrualDate : Int} {u : Unit}
    (hseen : db.asSeen seen loanId = true)
    (hy : Yields (accrueInterestForLoan seen loanId accrualDate) db u db') :
    db.Follows .accrual db' := by
  rcases accrue_cases hy with rfl | ⟨found, _, _, _, _, hfound, -, -, -, -, -, -, haccrued⟩
  · exact History.refl db'
  refine follows_write haccrued.loans fun row hrow => ?_
  obtain ⟨hloan, haccrues⟩ := Option.filter_eq_some_iff.mp hfound
  have hstatus : row.status = .active ∨ row.status = .disbursed := by
    rw [asSeen_status hseen hrow hloan]
    have hbeing := (Bool.and_eq_true_iff.mp haccrues).1
    rwa [Bool.or_eq_true, beq_iff_eq, beq_iff_eq] at hbeing
  generalize hday : db'.arrears loanId accrualDate = arrears
  have hstaging : arrears.staging = classifyStaging arrears.arrearsDays := by
    rw [← hday]
    unfold Db.arrears
    split
    · rfl
    · rfl
  intro _
  show ((arrears.staging = .npl ∨ 90 < arrears.arrearsDays →
      (if arrears.staging = .npl then LoanStatus.defaulted else row.status) = .defaulted ∨ _) ∧
    ((if arrears.staging = .npl then LoanStatus.defaulted else row.status) = row.status ∨
      Transitions.accrual.includes row.status
        (if arrears.staging = .npl then .defaulted else row.status) = true))
  by_cases hnpl : arrears.staging = .npl
  · rw [if_pos hnpl]
    refine ⟨fun _ => .inl rfl, .inr ?_⟩
    rcases hstatus with hs | hs
    · rw [hs]
      rfl
    · rw [hs]
      rfl
  · rw [if_neg hnpl]
    refine ⟨fun hlate => ?_, .inl rfl⟩
    rcases hlate with hlate | hlate
    · exact absurd hlate hnpl
    · rw [hstaging, classifyStaging, if_pos (Nat.le_of_lt hlate)] at hnpl
      exact absurd rfl hnpl

/-- A status that is written over one in which a loan waits. -/
theorem follows_waiting {target : LoanStatus}
    (hwaits : loan.status ≠ .defaulted ∧ loan.status ≠ .fullyPaid ∧ loan.status ≠ .writtenOff)
    (h : target = loan.status ∨ moves.includes loan.status target = true) :
    loan.Follows moves { loan with status := target } :=
  follows_of rfl rfl hwaits h

theorem createApplication_follows (now : Int) (loan : Loan) (requiresGuarantors : Bool)
    (guarantors : List Nomination) :
    Moves (Db.Follows .none) (createApplication now loan requiresGuarantors guarantors) := by
  intro db id db' hy
  simp only [createApplication, yields_bind, yields_fromExcept, yields_get, yields_modify,
    yields_pure] at hy
  obtain ⟨_, _, ⟨-, rfl⟩, _, _, ⟨rfl, rfl⟩, _, _, rfl, -, rfl⟩ := hy
  refine Relation.ReflTransGen.single (.application rfl (fun hlate => ?_) ?_)
  · rcases hlate with hlate | hlate
    · cases hlate
    · exact absurd hlate (Nat.not_lt_zero 90)
  · unfold Loan.application
    cases requiresGuarantors with
    | true => exact .inr rfl
    | false => exact .inl rfl

instance : AdmitsNomination (Db.Follows .none) where
  invite now loanId item := by
    refine Moves.bind' Moves.get' fun db => ?_
    split
    · exact modify_updateGuarantor_moves fun _ => rfl
    · exact Moves.bind' Moves.ensure' fun _ => Moves.modify' fun _ => follows_same rfl
  apply := createApplication_follows

theorem invitable_ok {seen : Db} {loanId nominated : Nat}
    (h : seen.invitable loanId nominated = .ok loan) :
    seen.loans[loanId]? = some loan ∧ (loan.status = .draft ∨ loan.status = .pendingGuarantors) := by
  unfold Db.invitable at h
  cases hrow : seen.loans[loanId]? with
  | none =>
    rw [hrow] at h
    cases h
  | some found =>
    simp only [hrow] at h
    split at h
    · cases h
    · next hopen =>
      split at h
      · cases h
      · cases h
        exact ⟨rfl, Decidable.or_iff_not_not_and_not.mpr hopen⟩

theorem finishInvite_follows {seen : Db} {loanId nominated : Nat} {u : Unit}
    (hseen : db.asSeen seen loanId = true)
    (hy : Yields (finishInvite seen loanId nominated) db u db') :
    db.Follows (.one .draft .pendingGuarantors rfl) db' := by
  simp only [finishInvite, yields_bind, yields_fromExcept, yields_get, yields_required,
    yields_modify] at hy
  obtain ⟨loan, _, ⟨hinvitable, rfl⟩, _, _, ⟨rfl, rfl⟩, _, _, ⟨-, rfl⟩, rfl⟩ := hy
  refine follows_write rfl fun row hrow => ?_
  obtain ⟨hfound, hopen⟩ := invitable_ok hinvitable
  have hstatus : row.status = .draft ∨ row.status = .pendingGuarantors := by
    rw [asSeen_status hseen hrow hfound]
    exact hopen
  rcases hstatus with hs | hs
  · exact follows_waiting (by rw [hs]; decide) (by rw [hs]; exact .inr rfl)
  · exact follows_waiting (by rw [hs]; decide) (by rw [hs]; exact .inl rfl)

theorem approve_follows {seen : Db} {loanId : Nat} {u : Unit}
    (hseen : db.asSeen seen loanId = true) (hy : Yields (approve seen loanId) db u db') :
    db.Follows .approval db' := by
  simp only [approve, yields_bind, yields_required, yields_ensure, yields_fromExcept, yields_get,
    yields_modify] at hy
  obtain ⟨found, _, ⟨hfound, rfl⟩, _, _, ⟨happrovable, rfl⟩, _, _, ⟨-, rfl⟩, _, _, ⟨rfl, rfl⟩, _, _,
    ⟨-, rfl⟩, rfl⟩ := hy
  refine follows_write rfl fun row hrow => ?_
  have hstatus : row.status = .pendingReview ∨ row.status = .pendingApproval := by
    rw [asSeen_status hseen hrow hfound]
    unfold LoanStatus.approvable at happrovable
    rwa [Bool.or_eq_true, beq_iff_eq, beq_iff_eq] at happrovable
  rcases hstatus with hs | hs
  · exact follows_waiting (by rw [hs]; decide) (by rw [hs]; exact .inr rfl)
  · exact follows_waiting (by rw [hs]; decide) (by rw [hs]; exact .inr rfl)

theorem reject_follows {now : Int} {loanId : Nat} {u : Unit}
    (hy : Yields (reject now loanId) db u db') : db.Follows .rejection db' := by
  obtain ⟨found, mid, hfound, hrejectable, hloop, rfl⟩ := reject_cases hy
  have hsame : db.SameDebts mid :=
    Moves.forM' (fun _ => Moves.bind' Moves.get' fun _ => releaseFullyRepaid_moves _ _ _) _ hloop
  refine follows_write (by rw [Db.updateLoan, hsame.loans]) fun row hrow => ?_
  cases hfound.symm.trans hrow
  unfold LoanStatus.rejectable at hrejectable
  rw [Bool.or_eq_true, Bool.or_eq_true, beq_iff_eq, beq_iff_eq, beq_iff_eq] at hrejectable
  rcases hrejectable with (hs | hs) | hs
  · exact follows_waiting (by rw [hs]; decide) (by rw [hs]; exact .inr rfl)
  · exact follows_waiting (by rw [hs]; decide) (by rw [hs]; exact .inr rfl)
  · exact follows_waiting (by rw [hs]; decide) (by rw [hs]; exact .inr rfl)

theorem updateStatus_follows {seen : Db} {now : Int} {loanId : Nat} {target : LoanStatus}
    {reason : Option String} {u : Unit} (hseen : db.asSeen seen loanId = true)
    (hy : Yields (updateStatus seen now loanId target reason) db u db') :
    ∃ moves, db.Follows moves db' := by
  simp only [updateStatus, yields_bind, yields_required, yields_ensure] at hy
  obtain ⟨found, _, ⟨hfound, rfl⟩, _, _, ⟨hallowed, rfl⟩, _, _, ⟨-, rfl⟩, hy⟩ := hy
  rcases yields_ite.mp hy with ⟨-, hy⟩ | ⟨-, hy⟩
  · exact ⟨_, approve_follows hseen hy⟩
  rcases yields_ite.mp hy with ⟨-, hy⟩ | ⟨-, hy⟩
  · simp only [yields_bind, yields_ensure] at hy
    obtain ⟨_, _, ⟨-, rfl⟩, hy⟩ := hy
    exact ⟨_, reject_follows hy⟩
  · simp only [yields_bind, yields_ensure, yields_get, yields_required, yields_modify] at hy
    obtain ⟨_, _, ⟨hvalid, rfl⟩, _, _, ⟨rfl, rfl⟩, _, _, ⟨-, rfl⟩, rfl⟩ := hy
    refine ⟨.one found.status target (Bool.or_eq_true_iff.mpr (.inl hallowed)),
      follows_write rfl fun row hrow => ?_⟩
    have hstatus := asSeen_status hseen hrow hfound
    rw [← hstatus] at hvalid
    refine follows_waiting ?_ (.inr ?_)
    rotate_left
    · rw [hstatus]
      exact List.contains_iff_mem.mpr List.mem_cons_self
    refine ⟨fun hs => ?_, fun hs => ?_, fun hs => ?_⟩
    · rw [hs] at hvalid
      cases hvalid
    · rw [hs] at hvalid
      cases hvalid
    · rw [hs] at hvalid
      cases hvalid

theorem signOff_follows (loanId : Nat) (approverId role : String) (approved : Bool) :
    Moves (Db.Follows (.one .approved .rejected rfl)) (signOff loanId approverId role approved) := by
  refine Moves.bind' (signOffRead_moves _ _ _) fun _ =>
    Moves.bind' (Moves.modify' fun _ => AdmitsChain.update _ _) fun _ =>
    Moves.bind' Moves.get' fun _ => Moves.ite' (Moves.modify' fun db => ?_) (Moves.pure' ())
  refine follows_write rfl fun row _ => ?_
  split
  · next hs => exact follows_waiting (by rw [hs]; decide) (by rw [hs]; exact .inr rfl)
  · exact follows_same_status rfl rfl rfl

/-- A disbursement activates an approved loan, or is a replay. -/
theorem disburse_loans {seen : Db} {params : DisburseParams} {u : Unit}
    (hy : Yields (disburse seen params) db u db') :
    db'.loans = db.loans ∨ ∃ found, db.loans[params.loanId]? = some found ∧
      found.status = .approved ∧ db'.loans = db.loans.modify params.loanId fun l =>
        { l with
          status := .active
          disbursedAt := some params.disbursedAt
          dueDate := some params.dueDate
          repaymentScheduleGenerated := true } := by
  simp only [disburse, yields_bind, yields_required] at hy
  obtain ⟨_, _, ⟨-, rfl⟩, hy⟩ := hy
  rcases yields_ite.mp hy with ⟨-, hy⟩ | ⟨-, hy⟩
  · simp only [yields_bind, yields_required, yields_pure] at hy
    obtain ⟨_, _, ⟨-, rfl⟩, -, rfl⟩ := hy
    exact .inl rfl
  simp only [yields_bind, yields_ensure, yields_required, disburseBody, yields_get,
    yields_fromExcept] at hy
  obtain ⟨_, _, ⟨-, rfl⟩, _, _, ⟨-, rfl⟩, _, _, ⟨-, rfl⟩, _, _, ⟨-, rfl⟩, _, _, ⟨rfl, rfl⟩, found, _,
    ⟨hfound, rfl⟩, _, _, ⟨-, rfl⟩, _, _, ⟨happroved, rfl⟩, _, _, ⟨-, rfl⟩, _, _, ⟨-, rfl⟩, _,
    credited, hcredit, hy⟩ := hy
  have hcredited : db.SameDebts credited := postEntry_moves _ hcredit
  -- the loan is written on a database that has the loans of the check
  have htail : ∀ {generated : Bool} {charged after : Db} {v : Unit}, db.SameDebts charged →
      Yields (do
        modify (·.updateLoan params.loanId fun l =>
          { l with
            status := .active
            disbursedAt := some params.disbursedAt
            dueDate := some params.dueDate
            repaymentScheduleGenerated := true })
        if generated = false then
          modify fun db => { db with loanRepayments := db.loanRepayments ++ params.rows } :
        Tx Unit) charged v after → after.loans = db.loans.modify params.loanId fun l =>
          { l with
            status := .active
            disbursedAt := some params.disbursedAt
            dueDate := some params.dueDate
            repaymentScheduleGenerated := true } := by
    intro generated charged after v hcharged htail
    simp only [yields_bind, yields_modify] at htail
    obtain ⟨_, _, rfl, hrows⟩ := htail
    rcases yields_ite.mp hrows with ⟨-, hrows⟩ | ⟨-, hrows⟩
    · rw [← yields_modify.mp hrows, ← hcharged.loans]
      rfl
    · rw [← (yields_pure.mp hrows).2, ← hcharged.loans]
      rfl
  refine .inr ⟨found, hfound, happroved, ?_⟩
  rcases yields_ite.mp hy with ⟨-, hy⟩ | ⟨-, hy⟩
  · obtain ⟨_, charged, hcharge, hy⟩ := yields_bind.mp hy
    exact htail (History.trans hcredited (postEntry_moves _ hcharge)) hy
  · exact htail hcredited hy

theorem disburse_follows (seen : Db) (params : DisburseParams) :
    Moves (Db.Follows (.one .approved .active rfl)) (disburse seen params) := by
  intro db u db' hy
  rcases disburse_loans hy with hsame | ⟨found, hfound, happroved, hloans⟩
  · exact follows_same hsame
  · refine follows_write hloans fun row hrow => ?_
    cases hfound.symm.trans hrow
    exact follows_of rfl rfl (by rw [happroved]; decide) (by rw [happroved]; exact .inr rfl)

theorem b2cTimeout_follows (mpesaTxId : Nat) :
    Moves (Db.Follows (.one .disbursed .approved rfl)) (b2cTimeout mpesaTxId) := by
  have hmark : Moves (Db.Follows (.one .disbursed .approved rfl))
      (modify (·.updateMpesa mpesaTxId fun m => { m with status := .reconPending }) : Tx Unit) :=
    Moves.modify' fun _ => AdmitsMpesa.update _ _ _
  intro db u db' hy
  simp only [b2cTimeout, yields_bind, yields_get] at hy
  obtain ⟨_, _, ⟨rfl, rfl⟩, hy⟩ := hy
  split at hy
  · exact (yields_pure.mp hy).2 ▸ History.refl db
  · rcases yields_ite.mp hy with ⟨-, hy⟩ | ⟨-, hy⟩
    · split at hy
      · exact (yields_pure.mp hy).2 ▸ History.refl db
      · next loanId loan hfound =>
        rcases yields_ite.mp hy with ⟨hs, hy⟩ | ⟨-, hy⟩
        · simp only [yields_bind, yields_modify] at hy
          obtain ⟨_, _, rfl, rfl⟩ := hy
          refine follows_write rfl fun row hrow => ?_
          obtain ⟨id, -, hmapped⟩ := Option.bind_eq_some_iff.mp hfound
          obtain ⟨read, hread, heq⟩ := Option.map_eq_some_iff.mp hmapped
          cases heq
          cases hread.symm.trans hrow
          rcases hs with hs | hs
          · exact follows_waiting (by rw [hs]; decide) (by rw [hs]; exact .inr rfl)
          · exact follows_waiting (by rw [hs]; decide) (by rw [hs]; exact .inl rfl)
        · exact (yields_pure.mp hy).2 ▸ History.refl db
    · exact hmark hy

theorem recoverFromGuarantors_follows (now : Int) (loanId : Nat) (amount : ℚ) (actorId : String) :
    Moves (Db.Follows .none) (recoverFromGuarantors now loanId amount actorId) := by
  refine Moves.bind' Moves.ensure' fun _ => Moves.bind' uuidv4_moves fun _ =>
    Moves.bind' Moves.get' fun _ => Moves.bind' Moves.required' fun _ =>
    Moves.bind' Moves.ensure' fun _ =>
    Moves.bind' (sumM_moves (fun _ => recoverFromGuarantor_moves _ _ _ _ _ _ _) _) fun _ =>
    Moves.ite' (Moves.bind' (Moves.modify' fun _ => ?_) fun _ => Moves.pure' _) (Moves.pure' _)
  exact follows_write rfl fun _ _ => follows_same_status rfl rfl rfl

/-- Only a defaulted loan is offset, and it is closed. -/
theorem follows_offset {forfeited : Nat} (h : loan.offsettable = true) :
    loan.Follows .offset (loan.offset forfeited) := by
  intro hlate
  unfold Loan.offsettable at h
  rw [Bool.and_eq_true, Bool.and_eq_true, Bool.or_eq_true, bne_iff_ne, bne_iff_ne, beq_iff_eq,
    decide_eq_true_eq] at h
  obtain ⟨⟨hopen, hkept⟩, hdefault⟩ := h
  have hdefaulted : loan.status = .defaulted := by
    rcases hlate hdefault with hs | hs | hs
    · exact hs
    · exact absurd hs hopen
    · exact absurd hs hkept
  have hclosed : (loan.offset forfeited).status = .fullyPaid ∨
      (loan.offset forfeited).status = .writtenOff := by
    unfold Loan.offset
    dsimp only
    split
    · exact .inl rfl
    · exact .inr rfl
  refine ⟨fun _ => .inr hclosed, .inr ?_⟩
  rw [hdefaulted]
  rcases hclosed with hs | hs
  · rw [hs]
    rfl
  · rw [hs]
    rfl

theorem offsetLoan_follows (now : Int) (loanId : Nat) (jobId : Option String) :
    Moves (Db.Follows .offset) (offsetLoan now loanId jobId) := by
  intro db total db' hy
  simp only [offsetLoan, yields_bind, yields_get] at hy
  obtain ⟨_, drawn, huuid, _, _, ⟨rfl, rfl⟩, hy⟩ := hy
  have hdrawn : db.SameDebts drawn := uuidv4_moves huuid
  split at hy
  · obtain ⟨-, rfl⟩ := yields_pure.mp hy
    exact follows_same hdrawn.loans
  · next found hfound =>
    obtain ⟨hfound, hoffsettable⟩ := Option.filter_eq_some_iff.mp hfound
    simp only [yields_bind] at hy
    obtain ⟨forfeited, mid, hsum, hy⟩ := hy
    have hmid : drawn.SameDebts mid :=
      sumM_moves (fun _ => forfeitGuarantor_moves _ _ _ _ _) _ hsum
    have hloans : mid.loans = db.loans := hmid.loans.trans hdrawn.loans
    rcases yields_ite.mp hy with ⟨-, hy⟩ | ⟨-, hy⟩
    · simp only [yields_bind, yields_modify, yields_pure] at hy
      obtain ⟨_, _, rfl, -, rfl⟩ := hy
      refine follows_write (by rw [Db.updateLoan, hloans]) fun row hrow => ?_
      rw [hdrawn.loans] at hfound
      cases hfound.symm.trans hrow
      exact follows_offset hoffsettable
    · obtain ⟨-, rfl⟩ := yields_pure.mp hy
      exact follows_same hloans

theorem applyLoanState_follows {now : Int} {loanId : Nat} {product : LoanProduct}
    {next : GuarantorStatus} :
    Moves (Db.Follows .answer) (applyLoanState now loanId loan product next) := by
  intro db s db' hy
  have hanswer : ∀ target : LoanStatus,
      Transitions.answer.includes .pendingGuarantors target = true →
      ∀ row : Loan, row.Follows .answer
        (if row.status = .pendingGuarantors then { row with status := target } else row) := by
    intro target htarget row
    split
    · next hs => exact follows_waiting (by rw [hs]; decide) (by rw [hs]; exact .inr htarget)
    · exact follows_same_status rfl rfl rfl
  rcases applyLoanState_cases hy with ⟨-, rfl⟩ | ⟨-, -, rfl⟩ | ⟨-, -, -, mid, hloop, rfl⟩
  · exact History.refl db'
  · exact follows_write rfl fun row _ => hanswer .pendingApproval rfl row
  · have hsame : db.SameDebts mid := Moves.forM' (fun _ => releaseAcceptedHold_moves _ _ _) _ hloop
    exact follows_write (by rw [Db.updateLoan, hsame.loans])
      fun row _ => hanswer .rejectedGuarantorDecline rfl row

theorem applyDecision_follows (now : Int) (args : DecisionArgs) :
    Moves (Db.Follows .answer) (applyDecision now args) := by
  intro db s db' hy
  obtain ⟨g, loan, product, held, hresponded, hstate⟩ := applyDecision_cases hy
  have hheld : db.Follows .answer held := by
    by_cases haccepted : args.nextStatus now g.invitedAt = .accepted
    · exact placeGuarantorHolds_moves _ _ _ (hresponded.placed haccepted)
    · rw [hresponded.kept haccepted]
      exact History.refl db
  have hanswered : held.Follows .answer (held.updateGuarantor args.guarantorId
      (·.answered now (args.nextStatus now g.invitedAt))) := AdmitsGuarantor.update _ _ _ fun _ => rfl
  exact History.trans hheld (History.trans hanswered (applyLoanState_follows hstate))

theorem expireGuarantor_follows (now : Int) (row : Nat × LoanGuarantor) (ty : AccountType) :
    Moves (Db.Follows .answer) (expireGuarantor now row ty) := by
  have hreject : Moves (Db.Follows .answer) (rejectLoanForGuarantorTimeout now row.2.loanId ty) := by
    intro db u db' hy
    rcases rejectForTimeout_cases hy with ⟨-, rfl⟩ | ⟨loan, mid, hloan, hs, hloop, rfl⟩
    · exact History.refl db'
    have hsame : db.SameDebts mid := Moves.forM' (fun _ => releaseAcceptedHold_moves _ _ _) _ hloop
    refine follows_write (by rw [Db.updateLoan, hsame.loans]) fun found hfound => ?_
    cases hloan.symm.trans hfound
    rw [if_pos hs]
    exact follows_waiting (by rw [hs]; decide) (by rw [hs]; exact .inr rfl)
  have htail : Moves (Db.Follows .answer) (do
      modify (·.updateGuarantor row.1 (·.expire now row.2.holdPlacedAt.isSome))
      rejectLoanForGuarantorTimeout now row.2.loanId ty : Tx Unit) :=
    Moves.bind' (modify_updateGuarantor_moves fun _ => LoanGuarantor.expire_key _ _ _)
      fun _ => hreject
  exact Moves.ite' (Moves.bind' (releaseGuarantorHolds_moves _ _ _) fun _ => htail) htail

theorem step_followed {op : Op} (hseen : meetsSeen db op = true) :
    ∃ moves, db.Follows moves (step db op) := by
  rcases step_cases db op with ⟨u, hy⟩ | hsame
  · cases op with
    | postEntry p => exact ⟨.none, (Moves.bind' (postEntry_moves p) fun _ => Moves.pure' ()) hy⟩
    | transfer p =>
      exact ⟨.none, (Moves.bind' (postInternalTransfer_moves p) fun _ => Moves.pure' ()) hy⟩
    | reverse id reason by' =>
      exact ⟨.none, (Moves.bind' (reverseTransaction_moves id reason by') fun _ => Moves.pure' ()) hy⟩
    | leg p => exact ⟨.none, (Moves.bind' (postGlOnlyLegEntry_moves p) fun _ => Moves.pure' ()) hy⟩
    | repay p => exact ⟨_, (Moves.bind' (repay_follows p) fun _ => Moves.pure' ()) hy⟩
    | processRepayment now input =>
      exact ⟨_, (Moves.bind' (processRepayment_follows now input) fun _ => Moves.pure' ()) hy⟩
    | accrue seen loanId date => exact ⟨_, accrue_follows hseen hy⟩
    | createApplication now loan requires guarantors =>
      exact ⟨_, (Moves.bind' (createApplication_follows now loan requires guarantors)
        fun _ => Moves.pure' ()) hy⟩
    | inviteGuarantor seen now loanId nominated item =>
      exact ⟨.none, inviteGuarantor_moves seen now loanId nominated item hy⟩
    | finishInvite seen loanId nominated => exact ⟨_, finishInvite_follows hseen hy⟩
    | respond now args => exact ⟨_, (Moves.bind' (applyDecision_follows now args)
        fun _ => Moves.pure' ()) hy⟩
    | expireGuarantor now guarantorId =>
      refine ⟨.answer, (Moves.bind' Moves.get' fun db => ?_ :
        Moves (Db.Follows .answer) (expireSpecificGuarantor now guarantorId)) hy⟩
      split
      · exact Moves.pure' ()
      · exact expireGuarantor_follows _ _ _
    | expirySweep now cutoff =>
      exact ⟨.answer, (Moves.bind' Moves.get' fun _ =>
        Moves.forM' (fun _ => expireGuarantor_follows _ _ _) _ :
        Moves (Db.Follows .answer) (expireTenantGuarantors now cutoff)) hy⟩
    | reject now loanId => exact ⟨_, reject_follows hy⟩
    | approve seen loanId => exact ⟨_, approve_follows hseen hy⟩
    | updateStatus seen now loanId target reason => exact updateStatus_follows hseen hy
    | signOff loanId approverId role approved =>
      exact ⟨_, signOff_follows loanId approverId role approved hy⟩
    | disburse seen params => exact ⟨_, disburse_follows seen params hy⟩
    | recover now loanId amount by' =>
      exact ⟨_, (Moves.bind' (recoverFromGuarantors_follows now loanId amount by')
        fun _ => Moves.pure' ()) hy⟩
    | offset now loanId jobId =>
      exact ⟨_, (Moves.bind' (offsetLoan_follows now loanId jobId) fun _ => Moves.pure' ()) hy⟩
    | b2cTimeout mpesaTxId => exact ⟨_, b2cTimeout_follows mpesaTxId hy⟩
  · rw [hsame]
    exact ⟨.none, History.refl db⟩

/-! ## 4. Runs -/

theorem getElem?_statuses {id : Nat} {status : LoanStatus} :
    db.statuses[id]? = some status ↔ ∃ loan, db.loans[id]? = some loan ∧ loan.status = status := by
  rw [Db.statuses, List.getElem?_map, Option.map_eq_some_iff]

theorem mayBecome_of_includes {source target : LoanStatus}
    (h : moves.includes source target = true) : source.mayBecome target = true :=
  moves.allowed _ (List.contains_iff_mem.mp h)

/-- The loan has made one transition or none. -/
def Moved (moves : Transitions) (source target : LoanStatus) : Prop :=
  target = source ∨ moves.includes source target = true

theorem moved_trans {a b c : LoanStatus} (h : Moved moves a b) (k : Moved moves b c) :
    Moved moves a c := by
  rcases h with rfl | h
  · exact k
  rcases k with rfl | k
  · exact .inr h
  · exact .inr (List.contains_iff_mem.mpr
      (moves.joined _ (List.contains_iff_mem.mp h) _ (List.contains_iff_mem.mp k) rfl))

/-- However often an operation writes the loans, each loan makes one transition or none. -/
theorem statuses_written {loans loans' : List Loan} (hlate : ∀ loan ∈ loans, loan.lateDefaulted)
    (h : Relation.ReflTransGen (LoanWrite moves) loans loans') :
    (∀ loan ∈ loans', loan.lateDefaulted) ∧
      (∀ (id : Nat) (loan : Loan), loans[id]? = some loan →
        ∃ loan', loans'[id]? = some loan' ∧ Moved moves loan.status loan'.status) ∧
      ∀ (id : Nat) (loan : Loan), loans[id]? = none → loans'[id]? = some loan →
        moves = .none ∧ (loan.status = .draft ∨ loan.status = .pendingGuarantors) := by
  induction h with
  | refl =>
    exact ⟨hlate, fun _ loan hrow => ⟨loan, hrow, .inl rfl⟩,
      fun _ _ hnone hrow => by cases hnone.symm.trans hrow⟩
  | @tail mid _ _ hwrite ih =>
    obtain ⟨hmid, hchanged, hfresh⟩ := ih
    cases hwrite with
    | @application loan hnone hnew hstatus =>
      refine ⟨fun row hrow => ?_, fun id old hold => ?_, fun id row hgone hrow => ?_⟩
      · rcases List.mem_append.mp hrow with hold | hlast
        · exact hmid row hold
        · rw [List.mem_singleton.mp hlast]
          exact hnew
      · obtain ⟨row, hrow, hmoved⟩ := hchanged id old hold
        exact ⟨row, (List.getElem?_append_left (Table.lt_length_of_getElem? hrow)).trans hrow, hmoved⟩
      · cases hbefore : mid[id]? with
        | some before =>
          rw [List.getElem?_append_left (Table.lt_length_of_getElem? hbefore)] at hrow
          exact hfresh id row hgone hrow
        | none =>
          rw [List.getElem?_append_right (List.getElem?_eq_none_iff.mp hbefore)] at hrow
          rw [List.mem_singleton.mp (List.mem_of_getElem? hrow)]
          exact ⟨hnone, hstatus⟩
    | @write id f hfollows =>
      have hstep : ∀ (i : Nat) (row : Loan), mid[i]? = some row → ∃ row',
          (mid.modify id f)[i]? = some row' ∧ Moved moves row.status row'.status := by
        intro i row hrow
        by_cases heq : id = i
        · subst heq
          exact ⟨f row, Table.getElem?_modify_self hrow,
            (hfollows row hrow (hmid row (List.mem_of_getElem? hrow))).2⟩
        · exact ⟨row, (Table.getElem?_modify_other heq).trans hrow, .inl rfl⟩
      refine ⟨Table.forall_modify_at hmid fun row hrow =>
        (hfollows row hrow (hmid row (List.mem_of_getElem? hrow))).1, fun i old hold => ?_,
        fun i row hgone hrow => ?_⟩
      · obtain ⟨row, hrow, hmoved⟩ := hchanged i old hold
        obtain ⟨row', hrow', hmoved'⟩ := hstep i row hrow
        exact ⟨row', hrow', moved_trans hmoved hmoved'⟩
      · cases hbefore : mid[i]? with
        | none =>
          have hlen := List.getElem?_eq_none_iff.mp hbefore
          rw [List.getElem?_eq_none (by rwa [List.length_modify])] at hrow
          cases hrow
        | some before =>
          obtain ⟨hnone, hstatus⟩ := hfresh i before hgone hbefore
          obtain ⟨row', hrow', hmoved⟩ := hstep i before hbefore
          cases hrow'.symm.trans hrow
          -- an operation that inserts a loan makes no transition
          subst hnone
          rcases hmoved with hsame | hmoves
          · rw [hsame]
            exact ⟨rfl, hstatus⟩
          · cases hmoves

theorem step_written {op : Op} (hlate : ∀ loan ∈ db.loans, loan.lateDefaulted)
    (hseen : meetsSeen db op = true) :
    (∀ loan ∈ (step db op).loans, loan.lateDefaulted) ∧
      StatusStep db.statuses (step db op).statuses := by
  obtain ⟨moves, hfollows⟩ := step_followed hseen
  obtain ⟨hend, hchanged, hfresh⟩ := statuses_written hlate hfollows
  refine ⟨hend, ⟨fun id source hsource => ?_, fun id status hnone hstatus => ?_⟩⟩
  · obtain ⟨loan, hloan, rfl⟩ := getElem?_statuses.mp hsource
    obtain ⟨loan', hloan', hmoved⟩ := hchanged id loan hloan
    exact ⟨loan'.status, getElem?_statuses.mpr ⟨loan', hloan', rfl⟩,
      hmoved.imp_right mayBecome_of_includes⟩
  · obtain ⟨loan, hloan, rfl⟩ := getElem?_statuses.mp hstatus
    rw [Db.statuses, List.getElem?_map, Option.map_eq_none_iff] at hnone
    exact (hfresh id loan hnone hloan).2

theorem run_late {ops : List Op} (hlate : ∀ loan ∈ db.loans, loan.lateDefaulted)
    (h : Machine.Guarded step (fun db op => meetsSeen db op = true) db ops) :
    ∀ loan ∈ (db.after ops).loans, loan.lateDefaulted :=
  Machine.run_induct (I := fun db : Db => ∀ loan ∈ db.loans, loan.lateDefaulted)
    (fun _ _ hlate hseen => (step_written hlate hseen).1) hlate h

/-- A terminal status stays. -/
theorem terminal_kept {statuses statuses' : List LoanStatus} {id : Nat} {status : LoanStatus}
    (hterminal : status.terminal = true) (h : StatusStep statuses statuses')
    (hrow : statuses[id]? = some status) : statuses'[id]? = some status := by
  obtain ⟨target, htarget, rfl | hmoves⟩ := h.change id status hrow
  · exact htarget
  · cases status with
    | rejected | rejectedGuarantorDecline | fullyPaid | writtenOff => cases target <;> cases hmoves
    | _ => cases hterminal

end StatusLemmas

open StatusLemmas

/-- A tenant without loans, whose product asks for no guarantors. -/
def exNoLoans : Db :=
  { exSacco with
    loans := []
    loanProducts :=
      [{ requiredAccountType := none
         minGuarantors := 0
         maxGuarantors := 2
         guarantorCoverageRatio := 0 }] }

/-- A loan of KES 100 is applied for, approved and paid out; its one instalment is due the day after
and is not paid for ninety-one days. -/
def exBorrowed : List Op :=
  let applied := exNoLoans.after [.createApplication 0 exLoan true []]
  let reviewed := applied.after [.updateStatus applied 0 0 .pendingReview none]
  let approved := reviewed.after [.approve reviewed 0]
  let payout : DisburseParams :=
    { loanId := 0
      disbursedBy := "m"
      disbursedAt := 0
      dueDate := msPerDay
      schedule := [{ dueDate := msPerDay, principalDue := 1000000, interestDue := 0 }] }
  let paidOut := approved.after [.disburse approved payout]
  [.createApplication 0 exLoan true [], .updateStatus applied 0 0 .pendingReview none,
    .approve reviewed 0, .disburse approved payout, .accrue paidOut 0 (92 * msPerDay)]

/-- KES 500 for the loan. -/
def exPaidOff : Op :=
  .processRepayment 0
    { reference := "M-9", amount := some 500, processedBy := "SYSTEM", loanId := some 0 }

end BebaSacco
