import BebaSacco.ReferenceRows

/-! # The waterfall of a repayment from outside

`processRepayment` splits an amount over the penalties, the interest and the principal of a loan and
credits what is left to the member's FOSA account. The status of the loan looks at the principal
only.

Results:
 1. `waterfallParts_eq`: the signed arithmetic of the source goes below zero nowhere.
 2. `creditOverpayment_credits`: the overpayment is credited unless a posting has its reference.
 3. `waterfall_holds_iff`: when a repayment is split, credited and closed as it should be.
 4. `waterfall_broken`: a loan closed with penalties to pay, and an overpayment that is lost.
-/

namespace BebaSacco

open Txn FootprintLemmas InstallmentLemmas ReferenceLemmas

/-! ## 1. What a repayment should do -/

/-- The parts of an amount on signed decimals, as the source takes them: for the penalties, the
interest, the principal, and what is left. -/
def waterfallParts (amount penaltyBefore interestBefore outstandingBefore : Int) :
    Int × Int × Int × Int :=
  let remaining := amount
  let toPenalty := min remaining penaltyBefore
  let remaining := remaining - toPenalty
  let toInterest := min remaining interestBefore
  let remaining := remaining - toInterest
  let toPrincipal := min remaining outstandingBefore
  let remaining := remaining - toPrincipal
  let overpayment := if 0 < remaining then remaining else 0
  (toPenalty, toInterest, toPrincipal, overpayment)

/-- The parts that a repayment reports. -/
def RepaymentAllocationSummary.parts (r : RepaymentAllocationSummary) : Int × Int × Int × Int :=
  (r.allocation.penalty, r.allocation.interest, r.allocation.principal, r.overpaymentToFosa)

/-- A repayment of `amount`, with the loan and the FOSA account before and after it. -/
structure Waterfalls (amount : ℚ) (r : RepaymentAllocationSummary) (loan loan' : Loan)
    (account account' : Account) : Prop where
  sum : ofUnits (r.allocation.total + r.overpaymentToFosa) = amount
  penalty : loan'.arrearsAmount + r.allocation.penalty = loan.arrearsAmount
  interest : loan'.accruedInterest + r.allocation.interest = loan.accruedInterest ∧
    (0 < r.allocation.interest → loan'.arrearsAmount = 0)
  principal : loan'.outstandingBalance + r.allocation.principal = loan.outstandingBalance ∧
    (0 < r.allocation.principal → loan'.arrearsAmount = 0 ∧ loan'.accruedInterest = 0)
  overpayment : 0 < r.overpaymentToFosa → loan'.totalOwed = 0
  balance : account'.balance = account.balance + r.overpaymentToFosa
  status : loan'.status = .fullyPaid ↔ loan'.totalOwed = 0

/-- The reference under which an overpayment is posted. -/
def ProcessRepaymentInput.overpayReference (input : ProcessRepaymentInput) : String :=
  s!"{input.reference}-OVERPAY"

/-- The amount has four places, the loan has principal to pay or the amount covers its penalties and
interest, and an overpayment has a reference that is free. -/
def Db.waterfallHolds (db : Db) (input : ProcessRepaymentInput) (amount : ℚ) (loan : Loan) : Bool :=
  ofUnits (toDecimalPlaces4 amount) == amount &&
    (0 < loan.outstandingBalance ||
      ((loan.arrearsAmount + loan.accruedInterest : Nat) : Int) ≤ toDecimalPlaces4 amount) &&
    (toDecimalPlaces4 amount ≤ loan.totalOwed ||
      (db.transactionByReference input.overpayReference).isNone)

/-- No account changed. -/
def Db.SameAccounts (db db' : Db) : Prop := db'.accounts = db.accounts

namespace WaterfallLemmas

variable {input : ProcessRepaymentInput} {db db' : Db} {loan : Loan} {amount accountId loanId : Nat}
  {account : Account}

/-! ## 2. The split -/

/-- No difference of the source is negative. -/
theorem waterfallParts_eq (loan : Loan) (amount : Nat) :
    waterfallParts amount loan.arrearsAmount loan.accruedInterest loan.outstandingBalance =
      (((loan.waterfall amount).1.penalty : Int), ((loan.waterfall amount).1.interest : Int),
        ((loan.waterfall amount).1.principal : Int), ((loan.waterfall amount).2 : Int)) := by
  unfold waterfallParts Loan.waterfall
  simp only [Prod.mk.injEq]
  refine ⟨?_, ?_, ?_, ?_⟩
  · omega
  · omega
  · omega
  · split <;> omega

theorem waterfall_sum (loan : Loan) (amount : Nat) :
    (loan.waterfall amount).1.total + (loan.waterfall amount).2 = amount := by
  simp only [Loan.waterfall, Allocation.total]
  omega

/-- What is over is what exceeds the debt. -/
theorem waterfall_over (loan : Loan) (amount : Nat) :
    (loan.waterfall amount).2 = amount - loan.totalOwed := by
  simp only [Loan.waterfall, Loan.totalOwed]
  omega

theorem pay_owed (status : LoanStatus) :
    (loan.pay (loan.waterfall amount).1 status).totalOwed = loan.totalOwed - amount := by
  simp only [Loan.waterfall, Loan.totalOwed, Loan.pay]
  omega

/-- The status looks at the principal only. -/
theorem repaidStatus_fullyPaid {before after : Loan} :
    repaidStatus before after = .fullyPaid ↔ after.outstandingBalance = 0 := by
  unfold repaidStatus
  split
  · next hzero => exact ⟨fun _ => hzero, fun _ => rfl⟩
  · next hpos =>
    split
    · exact ⟨fun h => (by cases h), fun h => absurd h hpos⟩
    · exact ⟨fun h => (by cases h), fun h => absurd h hpos⟩

/-! ## 3. The account -/

instance : History Db.SameAccounts where
  refl _ := rfl
  trans hab hbc := hbc.trans hab

instance : AdmitsTransaction Db.SameAccounts :=
  ⟨fun _ _ => rfl, fun _ _ _ => rfl, fun _ _ => rfl, fun _ _ => rfl⟩

instance : AdmitsEntry Db.SameAccounts := ⟨fun _ _ => rfl⟩

instance : AdmitsRepayment Db.SameAccounts := ⟨fun _ _ _ => rfl, fun _ _ => rfl⟩

instance : AdmitsMpesa Db.SameAccounts := ⟨fun _ _ _ => rfl⟩

/-- The overpayment is credited exactly when there is none or its reference is free. -/
theorem creditOverpayment_credits {ids : List Nat}
    (haccount : db.accounts[accountId]? = some account)
    (h : Yields (creditOverpayment input accountId loanId amount) db ids db') :
    ∃ account', db'.accounts[accountId]? = some account' ∧
      (account'.balance = account.balance + amount ↔
        amount = 0 ∨ db.transactionByReference input.overpayReference = none) := by
  unfold creditOverpayment at h
  rcases yields_ite.mp h with ⟨hpos, h⟩ | ⟨hzero, h⟩
  · simp only [yields_bind, yields_pure] at h
    obtain ⟨posted, _, hpost, -, rfl⟩ := h
    rcases postEntry_cases hpost with ⟨rfl, -, t, hfound⟩ | ⟨⟨-, hfresh, hwritten⟩, -, -⟩
    · refine ⟨account, haccount, fun heq => ?_, fun hor => ?_⟩
      · omega
      · rcases hor with rfl | hnone
        · cases hpos
        · rw [ProcessRepaymentInput.overpayReference] at hnone
          rw [hnone] at hfound
          cases hfound
    · obtain ⟨a, type, actor, description, debitCode, creditCode, ha, -, -, -, -, rfl⟩ := hwritten
      rw [haccount] at ha
      cases ha
      refine ⟨_, Table.getElem?_modify_self haccount, fun _ => .inr hfresh, fun _ => ?_⟩
      rw [toDecimalPlaces4_ofUnits]
      rfl
  · obtain ⟨rfl, rfl⟩ := yields_pure.mp h
    have hnone : amount = 0 := Nat.eq_zero_of_not_pos hzero
    refine ⟨account, haccount, fun _ => .inl hnone, fun _ => ?_⟩
    rw [hnone]
    exact (Int.add_zero _).symm

/-- The statement rows of the legs have other references. -/
theorem allocationReference_ne (input : ProcessRepaymentInput) (leg : Leg) (n : Nat) :
    s!"{input.reference}-{leg.allocationSuffix}-{toString n}" ≠ input.overpayReference := by
  intro heq
  have hleg : s!"{input.reference}-{leg.allocationSuffix}-{toString n}" =
      input.reference ++ ("-" ++ (leg.allocationSuffix ++ ("-" ++ toString n))) := by
    simp only [← String.append_assoc]
    rfl
  have hover : input.overpayReference = input.reference ++ "-OVERPAY" := rfl
  rw [hleg, hover, String.append_right_inj] at heq
  have hchars := congrArg (fun s => s.toList[1]?) heq
  simp only [String.toList_append] at hchars
  cases leg <;> exact absurd hchars (by simp [Leg.allocationSuffix])

/-- What a repayment reports and leaves of the loan and of the FOSA account. -/
structure Applied (input : ProcessRepaymentInput) (amount loanId : Nat) (loan : Loan)
    (r : RepaymentAllocationSummary) (db db' : Db) : Prop where
  loanId_eq : r.loanId = loanId
  allocation : r.allocation = (loan.waterfall amount).1
  overpayment : r.overpaymentToFosa = (loan.waterfall amount).2
  loan_eq : db'.loans[loanId]? = some (loan.pay (loan.waterfall amount).1
    (repaidStatus loan (loan.pay (loan.waterfall amount).1 loan.status)))
  account_eq : ∃ accountId account account',
    db.activeAccount loan.memberId .fosa = some (accountId, account) ∧
      db'.accounts[accountId]? = some account' ∧
      (account'.balance = account.balance + (loan.waterfall amount).2 ↔
        (loan.waterfall amount).2 = 0 ∨ db.transactionByReference input.overpayReference = none)

theorem applyRepayment_applied {now : Int} {r : RepaymentAllocationSummary}
    (hloan : db.loans[loanId]? = some loan)
    (h : Yields (applyRepayment now input amount loanId loan) db r db') :
    Applied input amount loanId loan r db db' := by
  obtain ⟨mid₀, halloc₀, hdebts⟩ := applyRepayment_cases h
  simp only [applyRepayment, yields_bind, yields_modify, yields_pure] at h
  obtain ⟨⟨accountId, account⟩, _, hfosa, _, mid, halloc, _, db₁, hp, _, db₂, hi, _, db₃, hr, _, db₄,
    ho, _, _, rfl, _, _, hm, rfl, rfl⟩ := h
  simp only [lockFosaAccount, yields_bind, yields_get, yields_required] at hfosa
  obtain ⟨_, _, ⟨rfl, rfl⟩, hactive, rfl⟩ := hfosa
  have hsame : db.SameAccounts db₃ :=
    History.trans (applyInstallmentAllocation_moves _ _ _ halloc) (History.trans
      (allocateLeg_moves _ _ _ _ _ _ hp) (History.trans (allocateLeg_moves _ _ _ _ _ _ hi)
        (allocateLeg_moves _ _ _ _ _ _ hr)))
  have hunder : db.SameUnder input.overpayReference db₃ :=
    History.trans (applyInstallmentAllocation_moves _ _ _ halloc) (History.trans
      (allocateLeg_sameUnder (allocationReference_ne input _) hp) (History.trans
        (allocateLeg_sameUnder (allocationReference_ne input _) hi)
        (allocateLeg_sameUnder (allocationReference_ne input _) hr)))
  have hfree : db₃.transactionByReference input.overpayReference = none ↔
      db.transactionByReference input.overpayReference = none := by
    rw [← rowsUnder_nil, ← rowsUnder_nil, hunder.rows]
  have haccount : db₃.accounts[accountId]? = some account := by
    rw [hsame]
    exact (activeAccount_some hactive).1
  obtain ⟨account', haccount', hcredit⟩ := creditOverpayment_credits haccount ho
  have hsettled : Db.SameAccounts _ _ := settleMpesa_moves _ _ _ hm
  refine ⟨rfl, rfl, rfl, ?_, accountId, account, account', hactive, ?_, ?_⟩
  · have hallocated : mid₀.loans = db.loans := by
      obtain ⟨left, hleft⟩ := applyInstallmentAllocation_allocated halloc₀
      rw [hleft.others]
    rw [hdebts.loans, Db.updateLoan, hallocated]
    exact Table.getElem?_modify_self hloan
  · rw [hsettled]
    exact haccount'
  · rw [hcredit, hfree]

theorem toDecimalPlaces4_nonneg {q : ℚ} (h : 0 ≤ q) : 0 ≤ toDecimalPlaces4 q :=
  Rounding.roundHalfUp_nonneg (mul_nonneg h (Nat.cast_nonneg _))

/-- A loan is closed as it should be exactly when it has principal to pay or its penalties and
interest are covered. -/
theorem closed_iff :
    (repaidStatus loan (loan.pay (loan.waterfall amount).1 loan.status) = .fullyPaid ↔
        (loan.pay (loan.waterfall amount).1 loan.status).totalOwed = 0) ↔
      0 < loan.outstandingBalance ∨ loan.arrearsAmount + loan.accruedInterest ≤ amount := by
  rw [repaidStatus_fullyPaid, pay_owed]
  simp only [Loan.waterfall, Loan.totalOwed, Loan.pay]
  omega

/-- Each part is taken off its bucket, in turn. -/
theorem pay_parts (loan : Loan) (amount : Nat) (status : LoanStatus) :
    let a := (loan.waterfall amount).1
    let paid := loan.pay a status
    paid.arrearsAmount + a.penalty = loan.arrearsAmount ∧
      (paid.accruedInterest + a.interest = loan.accruedInterest ∧
        (0 < a.interest → paid.arrearsAmount = 0)) ∧
      (paid.outstandingBalance + a.principal = loan.outstandingBalance ∧
        (0 < a.principal → paid.arrearsAmount = 0 ∧ paid.accruedInterest = 0)) := by
  simp only [Loan.waterfall, Loan.pay]
  omega

theorem waterfalls_iff {total : ℚ} {r : RepaymentAllocationSummary} {account' : Account}
    (hamount : (amount : Int) = toDecimalPlaces4 total)
    (hallocation : r.allocation = (loan.waterfall amount).1)
    (hover : r.overpaymentToFosa = (loan.waterfall amount).2)
    (hcredit : account'.balance = account.balance + (loan.waterfall amount).2 ↔
      (loan.waterfall amount).2 = 0 ∨ db.transactionByReference input.overpayReference = none) :
    Waterfalls total r loan (loan.pay (loan.waterfall amount).1
        (repaidStatus loan (loan.pay (loan.waterfall amount).1 loan.status))) account account' ↔
      db.waterfallHolds input total loan = true := by
  have hsum : ((r.allocation.total : Int) + r.overpaymentToFosa) = toDecimalPlaces4 total := by
    rw [← hamount, hallocation, hover]
    exact_mod_cast waterfall_sum loan amount
  have hspare : (loan.waterfall amount).2 = 0 ↔ toDecimalPlaces4 total ≤ loan.totalOwed := by
    rw [waterfall_over, ← hamount]
    omega
  have hcovered : loan.arrearsAmount + loan.accruedInterest ≤ amount ↔
      ((loan.arrearsAmount + loan.accruedInterest : Nat) : Int) ≤ toDecimalPlaces4 total := by
    rw [← hamount, Int.ofNat_le]
  have hstatus : (repaidStatus loan (loan.pay (loan.waterfall amount).1 loan.status) = .fullyPaid ↔
      (loan.pay (loan.waterfall amount).1 loan.status).totalOwed = 0) ↔
      0 < loan.outstandingBalance ∨ loan.arrearsAmount + loan.accruedInterest ≤ amount :=
    closed_iff
  unfold Db.waterfallHolds
  rw [Bool.and_eq_true, Bool.and_eq_true, beq_iff_eq, Bool.or_eq_true, Bool.or_eq_true,
    decide_eq_true_eq, decide_eq_true_eq, decide_eq_true_eq, Option.isNone_iff_eq_none, ← hspare,
    ← hcovered]
  constructor
  · rintro ⟨hwhole, -, -, -, -, hbalance, hclosed⟩
    exact ⟨⟨hsum ▸ hwhole, hstatus.mp hclosed⟩, hcredit.mp (hover ▸ hbalance)⟩
  · rintro ⟨⟨hwhole, hpaid⟩, hfree⟩
    obtain ⟨hpenalty, hinterest, hprincipal⟩ := pay_parts loan amount
      (repaidStatus loan (loan.pay (loan.waterfall amount).1 loan.status))
    refine ⟨hsum ▸ hwhole, ?_, ?_, ?_, fun hpos => ?_, hover ▸ hcredit.mpr hfree,
      hstatus.mpr hpaid⟩
    · rw [hallocation]
      exact hpenalty
    · rw [hallocation]
      exact hinterest
    · rw [hallocation]
      exact hprincipal
    · rw [pay_owed]
      rw [hover, waterfall_over] at hpos
      omega

end WaterfallLemmas

open WaterfallLemmas

/-! ## 4. Repayments -/

/-- A committed repayment was recognised as processed before and changed nothing; or it is split
without a part below zero, and it is what it should be exactly when `waterfallHolds`. -/
theorem waterfall_holds_iff {now : Int} {input : ProcessRepaymentInput}
    {r : RepaymentAllocationSummary} {db db' : Db}
    (h : Yields (processRepayment now input) db r db') :
    (db' = db ∧ (db.duplicateRepayment input.reference).isSome = true) ∨
    ∃ amount loan loan' accountId account account', input.amount = some amount ∧ 0 < amount ∧
      db.loans[r.loanId]? = some loan ∧ db'.loans[r.loanId]? = some loan' ∧
      db.activeAccount loan.memberId .fosa = some (accountId, account) ∧
      db'.accounts[accountId]? = some account' ∧
      r.parts = waterfallParts (toDecimalPlaces4 amount) loan.arrearsAmount loan.accruedInterest
        loan.outstandingBalance ∧
      (Waterfalls amount r loan loan' account account' ↔
        db.waterfallHolds input amount loan = true) := by
  rcases processRepayment_cases h with
    ⟨rfl, d, hd⟩ | ⟨n, loanId, loan, hn, -, htarget, -, happly⟩
  · exact .inl ⟨rfl, by rw [hd]; rfl⟩
  obtain ⟨amount, hamount, rfl⟩ := Option.map_eq_some_iff.mp hn
  obtain ⟨hamount, hpos⟩ := Option.filter_eq_some_iff.mp hamount
  have hrounded : ((toDecimalPlaces4 amount).toNat : Int) = toDecimalPlaces4 amount :=
    Int.toNat_of_nonneg (toDecimalPlaces4_nonneg (of_decide_eq_true hpos).le)
  obtain ⟨rfl, hallocation, hover, hloan', accountId, account, account', hactive, haccount',
    hcredit⟩ := applyRepayment_applied (targetLoan_some htarget) happly
  refine .inr ⟨amount, loan, _, accountId, account, account', hamount, of_decide_eq_true hpos,
    targetLoan_some htarget, hloan', hactive, haccount', ?_, ?_⟩
  · rw [← hrounded, waterfallParts_eq, RepaymentAllocationSummary.parts, hallocation, hover]
  · exact waterfalls_iff hrounded hallocation hover hcredit

/-- A tenant with one loan that owes so much. -/
def exOwing (penalty interest principal : Nat) : Db :=
  { exSacco with
    loans := [{ exLoan with
      arrearsAmount := penalty
      accruedInterest := interest
      outstandingBalance := principal }] }

/-- A repayment of `amount` that names the member. -/
def exReceived (amount : ℚ) : ProcessRepaymentInput where
  reference := "M-1"
  amount := some amount
  processedBy := "SYSTEM"
  memberId := some 0

/-- KES 150 on a debt of KES 130. -/
theorem waterfall_holds_overpaid :
    ∃ db', Yields (processRepayment 0 (exReceived 150)) (exOwing 200000 100000 1000000)
        ⟨0, "LN-1", ⟨200000, 100000, 1000000⟩, 200000, 0, .fullyPaid⟩ db' ∧
      ∃ amount loan loan' accountId account account', some (150 : ℚ) = some amount ∧ 0 < amount ∧
        (exOwing 200000 100000 1000000).loans[0]? = some loan ∧ db'.loans[0]? = some loan' ∧
        (exOwing 200000 100000 1000000).activeAccount loan.memberId .fosa =
          some (accountId, account) ∧ db'.accounts[accountId]? = some account' ∧
        Waterfalls amount ⟨0, "LN-1", ⟨200000, 100000, 1000000⟩, 200000, 0, .fullyPaid⟩ loan loan'
          account account' := by
  have h : Yields (processRepayment 0 (exReceived 150)) (exOwing 200000 100000 1000000)
      ⟨0, "LN-1", ⟨200000, 100000, 1000000⟩, 200000, 0, .fullyPaid⟩
      (step (exOwing 200000 100000 1000000) (.processRepayment 0 (exReceived 150))) := by
    decide +kernel
  rcases waterfall_holds_iff h with ⟨-, hdup⟩ |
    ⟨amount, loan, loan', accountId, account, account', hamount, hpos, hloan, hloan', hactive,
      haccount', -, hiff⟩
  · exact absurd hdup (by decide +kernel)
  · cases hamount
    cases hloan
    exact ⟨_, h, _, _, loan', accountId, account, account', rfl, hpos, rfl, hloan', hactive,
      haccount', hiff.mpr (by decide +kernel)⟩

/-- KES 20 on a loan with penalties of KES 50 and no principal: it is closed with KES 30 to pay. A
repayment of KES 150 that is delivered twice pays the member's next loan of KES 20 the second time,
and KES 130 are neither there nor in the account. An amount of less than half a unit pays nothing. -/
theorem waterfall_broken :
    let closed := step (exOwing 500000 0 0) (.processRepayment 0 (exReceived 20))
    let two : Db := { exSacco with
      loans := [exLoan, { exLoan with loanNumber := "LN-2", outstandingBalance := 200000 }] }
    let once := step two (.processRepayment 0 (exReceived 150))
    let twice := step once (.processRepayment 0 (exReceived 150))
    let balance (db : Db) := db.accounts[0]?.map (·.balance)
    closed.loans.map (fun l => (l.status, l.totalOwed)) = [(.fullyPaid, 300000)] ∧
      balance once = some 500000 ∧ once.loans.map (·.totalOwed) = [0, 200000] ∧
      balance twice = some 500000 ∧ twice.loans.map (·.totalOwed) = [0, 0] ∧
      Yields (processRepayment 0 (exReceived 150)) once
        ⟨1, "LN-2", ⟨0, 0, 200000⟩, 1300000, 0, .fullyPaid⟩ twice ∧
      Yields (processRepayment 0 (exReceived (1 / 100000))) (exOwing 500000 0 0)
        ⟨0, "LN-1", ⟨0, 0, 0⟩, 0, 0, .fullyPaid⟩
        (step (exOwing 500000 0 0) (.processRepayment 0 (exReceived (1 / 100000)))) := by
  decide +kernel

end BebaSacco
