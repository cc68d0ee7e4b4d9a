import BebaSacco.Guarantors
import BebaSacco.InterestCharged
import BebaSacco.RepayNumbers

/-! # One repayment through two channels

`LoansService.repay` and `LoanRepaymentService.processRepayment` run the same waterfall over the
buckets of the loan, so they leave the same balances and the same status. Only the second writes
the instalments, and only the first releases the holds of the guarantors of a loan that is paid
off. The second rounds the amount first, the first each column.

Results:
 1. `spares_iff`, `release_same_iff`: when the two loops leave their rows alone.
 2. `channels_agree_iff`: after an amount of no more than four decimals the two channels leave the
    same loan, instalments and holds exactly when the payment touches no instalment and frees no
    savings.
 3. `channels_diverge`: a payment on an instalment is unknown to the schedule when it came through
    the first channel, and half a unit is paid through the second only.
-/

namespace BebaSacco

open Txn FootprintLemmas InstallmentLemmas NumberLemmas

/-! ## 1. What the channels should agree on -/

/-- The columns of the loan that a repayment writes. -/
def Loan.repaid (loan : Loan) : Nat × Nat × Nat × Nat × LoanStatus :=
  (loan.outstandingBalance, loan.accruedInterest, loan.arrearsAmount, loan.totalRepaid, loan.status)

/-- An account but for its balance. -/
def Account.unbalanced (account : Account) : Account :=
  { account with balance := 0, version := 0 }

/-- The holds of the guarantors are the same: the frozen savings and the rows of the guarantees. -/
structure Db.SameFrozen (db db' : Db) : Prop where
  accounts : db'.accounts.map Account.unbalanced = db.accounts.map Account.unbalanced
  loanGuarantors : db'.loanGuarantors = db.loanGuarantors

/-- The loan, the instalments and the holds are the same. -/
structure Db.SameRepaid (loanId : Nat) (db db' : Db) : Prop where
  loan : (db'.loans[loanId]?.map Loan.repaid) = db.loans[loanId]?.map Loan.repaid
  installments : db'.loanRepayments = db.loanRepayments
  holds : db.SameFrozen db'

/-- No open instalment takes a part of the allocation. -/
def Db.sparesInstallments (db : Db) (loanId : Nat) (a : Allocation) : Bool :=
  (db.unpaidInstallments loanId).all fun r => (r.2.take a).total == 0

/-- No unreleased guarantee of the loan has savings to free. -/
def Db.nothingFrozen (db : Db) (loanId : Nat) : Bool :=
  (db.unreleasedGuarantors loanId).all fun row =>
    (db.activeAccount row.2.memberId (db.collateralTypeOf loanId)).all fun r =>
      decide (min r.2.frozenSavings (row.2.guaranteedAmount : Int) ≤ 0)

/-- The payment touches no instalment, and leaves principal to pay or no savings to free. -/
def Db.channelsAgree (db : Db) (loanId : Nat) (loan : Loan) (amount : Nat) : Bool :=
  db.sparesInstallments loanId (loan.repayAllocation amount) &&
    ((loan.repayAllocation amount).principal < loan.outstandingBalance || db.nothingFrozen loanId)

namespace AgreementLemmas

instance : History Db.SameFrozen where
  refl _ := ⟨rfl, rfl⟩
  trans h k := ⟨k.accounts.trans h.accounts, k.loanGuarantors.trans h.loanGuarantors⟩

instance : AdmitsBalance Db.SameFrozen where
  move _ _ _ := ⟨Table.map_modify_same fun _ => rfl, rfl⟩
  set _ _ _ := ⟨Table.map_modify_same fun _ => rfl, rfl⟩

instance : AdmitsTransaction Db.SameFrozen where
  insert _ _ := ⟨rfl, rfl⟩
  link _ _ _ := ⟨rfl, rfl⟩
  markReversed _ _ := ⟨rfl, rfl⟩
  uuid _ _ := ⟨rfl, rfl⟩

instance : AdmitsEntry Db.SameFrozen := ⟨fun _ _ => ⟨rfl, rfl⟩⟩

instance : AdmitsLoan Db.SameFrozen := ⟨fun _ _ _ _ => ⟨rfl, rfl⟩⟩

instance : AdmitsRepayment Db.SameFrozen := ⟨fun _ _ _ => ⟨rfl, rfl⟩, fun _ _ => ⟨rfl, rfl⟩⟩

instance : AdmitsMpesa Db.SameFrozen := ⟨fun _ _ _ => ⟨rfl, rfl⟩⟩

/-! ## 2. Instalments that are not touched -/

theorem pay_ne {row : LoanRepayment} {add : Allocation} (paidAt : Int) (h : 0 < add.total) :
    row.pay add paidAt ≠ row := by
  intro heq
  have hp : row.penaltyPaid + add.penalty = row.penaltyPaid :=
    congrArg LoanRepayment.penaltyPaid heq
  have hi : row.interestPaid + add.interest = row.interestPaid :=
    congrArg LoanRepayment.interestPaid heq
  have hr : row.principalPaid + add.principal = row.principalPaid :=
    congrArg LoanRepayment.principalPaid heq
  unfold Allocation.total at h
  omega

theorem allocate_row {paidAt : Int} {rows : List (Nat × LoanRepayment)} {left : Allocation}
    {u : Unit} {db db' : Db} {id : Nat} (hid : id ∉ rows.map Prod.fst)
    (h : Yields (allocateInstallments paidAt rows left) db u db') :
    db'.loanRepayments[id]? = db.loanRepayments[id]? := by
  induction rows generalizing left db with
  | nil =>
    rw [allocateInstallments, yields_pure] at h
    rw [h.2]
  | cons row rows ih =>
    rw [List.map_cons, List.mem_cons, not_or] at hid
    rcases allocateInstallments_cons h with ⟨_, rfl⟩ | ⟨_, h⟩ | ⟨_, h⟩
    · rfl
    · exact ih hid.2 h
    · rw [ih hid.2 h, Db.updateRepayment, Table.getElem?_modify_other fun he => hid.1 he.symm]

/-- The loop writes nothing exactly when no row takes a part. -/
theorem allocate_idle_iff {paidAt : Int} {rows : List (Nat × LoanRepayment)} {left : Allocation}
    {u : Unit} {db db' : Db} (hrows : Current rows db)
    (h : Yields (allocateInstallments paidAt rows left) db u db') :
    db'.loanRepayments = db.loanRepayments ↔ ∀ r ∈ rows, (r.2.take left).total = 0 := by
  induction rows generalizing db with
  | nil =>
    rw [allocateInstallments, yields_pure] at h
    rw [h.2]
    exact ⟨fun _ r hr => absurd hr List.not_mem_nil, fun _ => rfl⟩
  | cons row rows ih =>
    rcases allocateInstallments_cons h with ⟨hzero, rfl⟩ | ⟨hzero, h⟩ | ⟨hpos, h⟩
    · refine ⟨fun _ r _ => ?_, fun _ => rfl⟩
      unfold Allocation.total at hzero
      show min left.penalty _ + min left.interest _ + min left.principal _ = 0
      omega
    · rw [ih (current_tail hrows) h, List.forall_mem_cons]
      exact ⟨fun hr => ⟨hzero, hr⟩, fun hr => hr.2⟩
    · -- the row that took something stays as it was paid
      have hnew := (List.nodup_cons.mp hrows.1).1
      have hold := hrows.2 row List.mem_cons_self
      have hpaid : db'.loanRepayments[row.1]? = some (row.2.pay (row.2.take left) paidAt) := by
        rw [allocate_row hnew h, Db.updateRepayment, Table.getElem?_modify_self hold]
      refine ⟨fun hsame => ?_, fun hall => ?_⟩
      · rw [hsame, hold] at hpaid
        exact absurd (Option.some.inj hpaid).symm (pay_ne paidAt hpos)
      · have hzero := hall row List.mem_cons_self
        omega

theorem spares_iff {paidAt : Int} {loanId : Nat} {a : Allocation} {u : Unit} {db db' : Db}
    (h : Yields (applyInstallmentAllocation paidAt loanId a) db u db') :
    db'.loanRepayments = db.loanRepayments ↔ db.sparesInstallments loanId a = true := by
  simp only [applyInstallmentAllocation, yields_bind, yields_get] at h
  obtain ⟨_, _, ⟨rfl, rfl⟩, h⟩ := h
  rw [allocate_idle_iff (current_unpaidInstallments db loanId) h, Db.sparesInstallments,
    List.all_eq_true]
  simp only [beq_iff_eq]

/-! ## 3. Holds that are not released -/

theorem release_row {now : Int} {accountOf : Nat → Option (Nat × Account)}
    {rows : List (Nat × LoanGuarantor)} {u : Unit} {db db' : Db} {id : Nat}
    (hid : id ∉ rows.map Prod.fst)
    (h : Yields (rows.forM (releaseFullyRepaid now accountOf)) db u db') :
    db'.loanGuarantors[id]? = db.loanGuarantors[id]? := by
  induction rows generalizing db with
  | nil =>
    rw [(yields_pure.mp h).2]
  | cons row rows ih =>
    obtain ⟨_, mid, hrow, hrest⟩ := yields_bind.mp h
    rw [List.map_cons, List.mem_cons, not_or] at hid
    rw [ih hid.2 hrest]
    rcases releaseFullyRepaid_cases hrow with ⟨rfl, _⟩ | ⟨_, _, _, _, rfl⟩
    · rfl
    · exact Table.getElem?_modify_other fun he => hid.1 he.symm

/-- The loop writes no guarantee exactly when no row of it has savings to free, and then it
writes nothing at all. -/
theorem release_idle_iff {now : Int} {accountOf : Nat → Option (Nat × Account)}
    {rows : List (Nat × LoanGuarantor)} {u : Unit} {db db' : Db}
    (hnodup : (rows.map Prod.fst).Nodup)
    (hrows : ∀ r ∈ rows, db.loanGuarantors[r.1]? = some r.2 ∧ r.2.holdReleasedAt = none)
    (h : Yields (rows.forM (releaseFullyRepaid now accountOf)) db u db') :
    (db'.loanGuarantors = db.loanGuarantors → db' = db ∧ ∀ row ∈ rows, ∀ r,
      accountOf row.2.memberId = some r → min r.2.frozenSavings row.2.guaranteedAmount ≤ 0) ∧
    ((∀ row ∈ rows, ∀ r, accountOf row.2.memberId = some r →
      min r.2.frozenSavings row.2.guaranteedAmount ≤ 0) → db' = db) := by
  induction rows generalizing db with
  | nil =>
    have hsame := (yields_pure.mp h).2.symm
    exact ⟨fun _ => ⟨hsame, fun row hrow => absurd hrow List.not_mem_nil⟩, fun _ => hsame⟩
  | cons row rows ih =>
    obtain ⟨_, mid, hrow, hrest⟩ := yields_bind.mp h
    obtain ⟨hnew, hnodup⟩ := List.nodup_cons.mp hnodup
    obtain ⟨hold, hunreleased⟩ := hrows row List.mem_cons_self
    rcases releaseFullyRepaid_cases hrow with ⟨rfl, hidle⟩ | ⟨id, a, hr, hpos, rfl⟩
    · obtain ⟨hsame, hall⟩ := ih hnodup (fun r hr => hrows r (List.mem_cons_of_mem _ hr)) hrest
      refine ⟨fun heq => ?_, fun hle => hall fun r hr => hle r (List.mem_cons_of_mem _ hr)⟩
      obtain ⟨hdb, hrest⟩ := hsame heq
      exact ⟨hdb, List.forall_mem_cons.mpr ⟨hidle, hrest⟩⟩
    · refine ⟨fun heq => ?_, fun hle => ?_⟩
      · -- the row released here is not as it was
        have hreleased : db'.loanGuarantors[row.1]? = some (row.2.released now) := by
          rw [release_row hnew hrest]
          exact Table.getElem?_modify_self hold
        rw [heq, hold] at hreleased
        have hdate : row.2.holdReleasedAt = some now :=
          congrArg LoanGuarantor.holdReleasedAt (Option.some.inj hreleased)
        rw [hunreleased] at hdate
        cases hdate
      · exact absurd (hle row List.mem_cons_self _ hr) (Int.not_le.mpr hpos)

/-! ## 4. The two calls -/

/-- The state in which a repayment releases the holds has the accounts and the guarantees of the
state before, but for the balances. -/
theorem nothingFrozen_same {db db' : Db} {loanId : Nat}
    (ha : db'.accounts.map Account.unbalanced = db.accounts.map Account.unbalanced)
    (hg : db'.loanGuarantors = db.loanGuarantors)
    (hl : db'.collateralTypeOf loanId = db.collateralTypeOf loanId) :
    db'.nothingFrozen loanId = db.nothingFrozen loanId := by
  have hfrozen : ∀ memberId, (db'.activeAccount memberId (db.collateralTypeOf loanId)).map
      (·.2.frozenSavings) = (db.activeAccount memberId (db.collateralTypeOf loanId)).map
        (·.2.frozenSavings) := by
    intro memberId
    have hcomp : ∀ accounts : List Account, (Table.findRow (fun a => a.memberId == memberId &&
        a.accountType == db.collateralTypeOf loanId && a.isActive) accounts).map
          (·.2.frozenSavings) =
        (Table.findRow (fun a => a.memberId == memberId &&
          a.accountType == db.collateralTypeOf loanId && a.isActive)
            (accounts.map Account.unbalanced)).map (·.2.frozenSavings) := by
      intro accounts
      rw [Table.findRow_map, Option.map_map]
      rfl
    unfold Db.activeAccount
    rw [hcomp db'.accounts, hcomp db.accounts, ha]
  unfold Db.nothingFrozen Db.unreleasedGuarantors
  rw [hg, hl]
  refine congrArg (List.all _) (funext fun row => ?_)
  have hall : ∀ o : Option (Nat × Account), (o.all fun r =>
      decide (min r.2.frozenSavings (row.2.guaranteedAmount : Int) ≤ 0)) =
      (o.map (·.2.frozenSavings)).all fun n => decide (min n (row.2.guaranteedAmount : Int) ≤ 0) := by
    intro o
    cases o with
    | none => rfl
    | some r => rfl
  rw [hall, hall, hfrozen]

/-- A repayment within what the loan owes has the same split in both channels. -/
theorem waterfall_eq {loan : Loan} {n : Nat} (h : n ≤ loan.totalOwed) :
    (loan.waterfall n).1 = loan.repayAllocation n := by
  unfold Loan.totalOwed at h
  unfold Loan.waterfall Loan.repayAllocation
  simp only [Allocation.mk.injEq, true_and]
  omega

theorem received_units {p : RepayParams} {input : ProcessRepaymentInput} {amount : Nat}
    (hamount : input.amount = some (ofUnits p.amountKes))
    (h : input.received = some amount) : amount = p.amountKes.toNat := by
  rw [ProcessRepaymentInput.received, hamount] at h
  obtain ⟨q, hq, rfl⟩ := Option.map_eq_some_iff.mp h
  cases (Option.filter_eq_some_iff.mp hq).1
  rw [toDecimalPlaces4_ofUnits]

theorem repaidStatus_active {loan : Loan} (a : Allocation) (h : loan.status = .active) :
    repaidStatus loan (loan.pay a loan.status) =
      if loan.outstandingBalance - a.principal = 0 then .fullyPaid else .active := by
  have hne : ¬ (loan.status = .defaulted ∧ 0 < (loan.pay a loan.status).totalOwed) := by
    rw [h]
    rintro ⟨h', _⟩
    cases h'
  rw [repaidStatus, if_neg hne]
  rfl

/-- The release reads the accounts and the guarantees of the state that it starts from. -/
theorem releaseOnFullRepayment_eq {now : Int} {loanId : Nat} {loan : Loan} {u : Unit} {db db' : Db}
    (hloan : db.loans[loanId]? = some loan)
    (h : Yields (releaseGuarantorHoldsOnFullRepayment now loanId) db u db') :
    Yields ((db.unreleasedGuarantors loanId).forM (releaseFullyRepaid now fun memberId =>
      db.activeAccount memberId (db.collateralTypeOf loanId))) db u db' := by
  simp only [releaseGuarantorHoldsOnFullRepayment, yields_bind, yields_get] at h
  obtain ⟨_, _, ⟨rfl, rfl⟩, h⟩ := h
  have hty : db.collateralTypeOf loanId = db.collateralType loan := by
    rw [Db.collateralTypeOf, hloan]
    rfl
  rw [hty]
  simpa only [hloan] using h

theorem nothingFrozen_iff {db : Db} {loanId : Nat} :
    db.nothingFrozen loanId = true ↔ ∀ row ∈ db.unreleasedGuarantors loanId, ∀ r,
      db.activeAccount row.2.memberId (db.collateralTypeOf loanId) = some r →
        min r.2.frozenSavings (row.2.guaranteedAmount : Int) ≤ 0 := by
  unfold Db.nothingFrozen
  rw [List.all_eq_true]
  refine forall₂_congr fun row _ => ?_
  rw [Option.all_eq_true]
  exact forall₂_congr fun r _ => decide_eq_true_iff

/-- The release on full repayment keeps the holds exactly when there is nothing to free. -/
theorem release_same_iff {now : Int} {loanId : Nat} {loan : Loan} {u : Unit} {db db' : Db}
    (hloan : db.loans[loanId]? = some loan)
    (h : Yields (releaseGuarantorHoldsOnFullRepayment now loanId) db u db') :
    db.SameFrozen db' ↔ db.nothingFrozen loanId = true := by
  have hidle := release_idle_iff Table.nodup_selectRows (fun r hr => ?_)
    (releaseOnFullRepayment_eq hloan h)
  · rw [nothingFrozen_iff]
    refine ⟨fun hsame => (hidle.1 hsame.loanGuarantors).2, fun hall => ?_⟩
    rw [hidle.2 hall]
    exact History.refl _
  · obtain ⟨hrow, hg⟩ := Table.mem_selectRows.mp hr
    rw [Bool.and_eq_true, Option.isNone_iff_eq_none] at hg
    exact ⟨hrow, hg.2⟩

/-- The holds after one channel are those after the other when they are those before. -/
theorem sameFrozen_iff {db db₁ db₂ : Db} (h : db.SameFrozen db₂) :
    db₁.SameFrozen db₂ ↔ db.SameFrozen db₁ := by
  refine ⟨fun k => ?_, fun k => ?_⟩
  · exact ⟨k.accounts.symm.trans h.accounts, k.loanGuarantors.symm.trans h.loanGuarantors⟩
  · exact ⟨h.accounts.trans k.accounts.symm, h.loanGuarantors.trans k.loanGuarantors.symm⟩

/-- A repayment from the FOSA balance keeps the holds exactly when principal is left to pay or
there is nothing to free. -/
theorem repayPosted_frozen {p : RepayParams} {db mid db' : Db} {accountId : Nat} {account : Account}
    {loan : Loan} (hposted : RepayPosted p db accountId account loan mid)
    (h : (p.newStatus loan = .fullyPaid ∧
        Yields (releaseGuarantorHoldsOnFullRepayment p.now p.loanId) mid () db') ∨
      (p.newStatus loan = .active ∧ db' = mid)) :
    db.SameFrozen db' ↔
      ((loan.repayAllocation (p.actualRepayment loan)).principal < loan.outstandingBalance ∨
        db.nothingFrozen p.loanId = true) := by
  have hfrozen : db.SameFrozen mid := repayPosted_moves hposted
  have hterms : db.SameTerms mid := repayPosted_moves hposted
  have hlen := (List.getElem?_eq_some_iff.mp hposted.loan_eq).1
  have hnothing := nothingFrozen_same hfrozen.accounts hfrozen.loanGuarantors
    (hterms.collateralTypeOf hlen)
  have hrow : mid.loans[p.loanId]? = some (loan.pay (loan.repayAllocation
      (p.actualRepayment loan)) (p.newStatus loan)) := by
    rw [(repayPosted_debts hposted).loans, Db.updateLoan,
      Table.getElem?_modify_self hposted.loan_eq]
  rcases h with ⟨hpaid, hrelease⟩ | ⟨hleft, rfl⟩
  · have hall : ¬ (loan.repayAllocation (p.actualRepayment loan)).principal <
        loan.outstandingBalance := by
      intro hlt
      rw [RepayParams.newStatus, if_neg (Nat.sub_ne_zero_of_lt hlt)] at hpaid
      cases hpaid
    rw [or_iff_right hall, ← hnothing, ← release_same_iff hrow hrelease]
    exact ⟨fun k => ⟨k.accounts.trans hfrozen.accounts.symm,
      k.loanGuarantors.trans hfrozen.loanGuarantors.symm⟩, fun k => History.trans hfrozen k⟩
  · have hlt : (loan.repayAllocation (p.actualRepayment loan)).principal <
        loan.outstandingBalance := by
      by_contra hge
      rw [RepayParams.newStatus, if_pos (Nat.sub_eq_zero_of_le (Nat.le_of_not_lt hge))] at hleft
      cases hleft
    exact ⟨fun _ => .inl hlt, fun _ => hfrozen⟩

end AgreementLemmas

open AgreementLemmas

/-- A payment of no more than four decimals that is new to both channels, is no overpayment and is
taken by both leaves the same loan, instalments and holds behind exactly when it touches no
instalment and frees no savings. -/
theorem channels_agree_iff {q : RepayRequest} {now : Int} {input : ProcessRepaymentInput}
    {loan : Loan} {a : RepayAnswer} {s : RepaymentAllocationSummary} {db db₁ db₂ : Db}
    (hunits : q.inUnits = true) (htarget : db.targetLoan input = some (q.loanId, loan))
    (hamount : input.amount = some q.amountKes) (hcap : q.amountKes ≤ ofUnits loan.totalOwed)
    (hfresh : db.transactionByReference (q.reference db.tenantId) = none)
    (hnew : db.duplicateRepayment input.reference = none)
    (h₁ : Yields (repayNumber q) db a db₁) (h₂ : Yields (processRepayment now input) db s db₂) :
    db₁.SameRepaid q.loanId db₂ ↔
      db.channelsAgree q.loanId loan q.units.amountKes.toNat = true := by
  obtain ⟨hq, href⟩ := RepayRequest.inUnits_eq hunits
  obtain ⟨r, h₁, -⟩ := (yields_repayNumber hunits).mp h₁
  rw [← hq] at hamount hcap
  rw [← href] at hfresh
  have hloan : q.loanId = q.units.loanId := rfl
  rw [hloan] at htarget ⊢
  generalize q.units = p at *
  have hrow := targetLoan_some htarget
  have hle : p.amountKes.toNat ≤ loan.totalOwed := Int.toNat_le.mpr (ofUnits_le.mp hcap)
  obtain ⟨accountId, account, paid, mid₁, hposted, hrelease⟩ := repay_fresh hfresh h₁
  cases Option.some.inj (hposted.loan_eq.symm.trans hrow)
  have hactual : p.actualRepayment loan = p.amountKes.toNat := Nat.min_eq_left hle
  rcases processRepayment_cases h₂ with
    ⟨_, d, hd⟩ | ⟨amount, loanId, target, hreceived, _, htarget', _, happly⟩
  · rw [hnew] at hd
    cases hd
  cases Option.some.inj (htarget'.symm.trans htarget)
  cases received_units hamount hreceived
  obtain ⟨mid₂, halloc, hsame⟩ := applyRepayment_cases happly
  rw [waterfall_eq hle] at halloc hsame
  have hdebts₁ := repayPosted_debts hposted
  rw [hactual] at hdebts₁
  have hreleased : mid₁.SameDebts db₁ := by
    rcases hrelease with ⟨_, hrelease⟩ | ⟨_, rfl⟩
    · exact releaseOnFullRepayment_moves _ _ hrelease
    · exact History.refl _
  have hinstallments : db₂.loanRepayments = db₁.loanRepayments ↔
      db.sparesInstallments p.loanId (loan.repayAllocation p.amountKes.toNat) = true := by
    rw [← spares_iff halloc, hsame.loanRepayments, hreleased.loanRepayments,
      hdebts₁.loanRepayments]
    rfl
  have hholds : db₁.SameFrozen db₂ ↔
      ((loan.repayAllocation p.amountKes.toNat).principal < loan.outstandingBalance ∨
        db.nothingFrozen p.loanId = true) := by
    rw [sameFrozen_iff (processRepayment_moves _ _ h₂), repayPosted_frozen hposted hrelease,
      hactual]
  have hpaid : db₂.loans[p.loanId]?.map Loan.repaid = db₁.loans[p.loanId]?.map Loan.repaid := by
    obtain ⟨_, hleft⟩ := applyInstallmentAllocation_allocated halloc
    have hloans : mid₂.loans = db.loans := by rw [hleft.others]
    rw [hsame.loans, Db.updateLoan, hloans, hreleased.loans, hdebts₁.loans, Db.updateLoan,
      RepayParams.newStatus, hactual, repaidStatus_active _ hposted.active]
  unfold Db.channelsAgree
  rw [Bool.and_eq_true, Bool.or_eq_true, decide_eq_true_iff, ← hinstallments, ← hholds]
  exact ⟨fun h => ⟨h.installments, h.holds⟩, fun h => ⟨hpaid, h.1, h.2⟩⟩

/-- A repayment of the example loan from the FOSA balance. -/
def exFosaRepayment (amountKes : ℚ) (amountText : String) : RepayRequest where
  loanId := 0
  amountKes := amountKes
  amountText := amountText
  processedBy := "A"
  idempotencyKey := none
  minute := "m"
  now := 0

/-- The same repayment through M-Pesa. -/
def exInput (amountKes : ℚ) : ProcessRepaymentInput where
  reference := "M-1"
  amount := some amountKes
  processedBy := "SYSTEM"
  loanId := some 0

/-- The example loan without instalments. -/
def exUnscheduled : Db := { exScheduled with loanRepayments := [] }

/-- KES 30 on a loan without open instalments: the channels agree. -/
theorem channels_agree_unscheduled :
    ∃ db₁ db₂, Yields (repayNumber (exFosaRepayment 30 "30")) exUnscheduled
        ⟨0, "TXN-REPAY-t-0-30-m", ⟨0, 0, 30⟩⟩ db₁ ∧
      Yields (processRepayment 0 (exInput 30)) exUnscheduled
        ⟨0, "LN-1", ⟨0, 0, 300000⟩, 0, 700000, .active⟩ db₂ ∧
      (db₁.SameRepaid 0 db₂ ↔ exUnscheduled.channelsAgree 0 exLoan 300000 = true) := by
  have h₁ : Yields (repayNumber (exFosaRepayment 30 "30")) exUnscheduled
      ⟨0, "TXN-REPAY-t-0-30-m", ⟨0, 0, 30⟩⟩
      (commit (repayNumber (exFosaRepayment 30 "30")) exUnscheduled) := by
    decide +kernel
  have h₂ : Yields (processRepayment 0 (exInput 30)) exUnscheduled
      ⟨0, "LN-1", ⟨0, 0, 300000⟩, 0, 700000, .active⟩
      (step exUnscheduled (.processRepayment 0 (exInput 30))) := by
    decide +kernel
  have hiff := channels_agree_iff (by decide +kernel) rfl rfl (by decide +kernel) rfl rfl h₁ h₂
  have hunits : (exFosaRepayment 30 "30").units.amountKes.toNat = 300000 := by decide +kernel
  rw [hunits] at hiff
  exact ⟨_, _, h₁, h₂, hiff⟩

/-- KES 50 on the loan with its instalment open: through the FOSA balance the schedule never
hears of it. KES 30.00005 on the loan without instalments: 70.0000 or 69.9999 stay to be paid. -/
theorem channels_diverge :
    exScheduled.loans[0]? = some exLoan ∧ exLoan.status = .active ∧ 50 ≤ ofUnits exLoan.totalOwed ∧
      Yields (repayNumber (exFosaRepayment 50 "50")) exScheduled
        ⟨0, "TXN-REPAY-t-0-50-m", ⟨0, 0, 50⟩⟩
        (commit (repayNumber (exFosaRepayment 50 "50")) exScheduled) ∧
      Yields (processRepayment 0 (exInput 50)) exScheduled
        ⟨0, "LN-1", ⟨0, 0, 500000⟩, 0, 500000, .active⟩
        (step exScheduled (.processRepayment 0 (exInput 50))) ∧
      ¬ (commit (repayNumber (exFosaRepayment 50 "50")) exScheduled).SameRepaid 0
        (step exScheduled (.processRepayment 0 (exInput 50))) ∧
      (commit (repayNumber (exFosaRepayment (3000005 / 100000) "30.00005")) exUnscheduled).loans.map
        Loan.totalOwed = [700000] ∧
      (step exUnscheduled (.processRepayment 0 (exInput (3000005 / 100000)))).loans.map
        Loan.totalOwed = [699999] := by
  refine ⟨rfl, rfl, by decide +kernel, by decide +kernel, by decide +kernel, fun h => ?_,
    by decide +kernel⟩
  have hdiff : (step exScheduled (.processRepayment 0 (exInput 50))).loanRepayments ≠
      (commit (repayNumber (exFosaRepayment 50 "50")) exScheduled).loanRepayments := by decide +kernel
  exact hdiff h.installments

end BebaSacco
