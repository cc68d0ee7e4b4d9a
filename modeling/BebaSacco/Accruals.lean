import BebaSacco.Installments

/-! # What the daily accrual writes

The inversions of the accrual of one loan: a charge is one statement row with its leg, the
penalties of a day only move the penalty columns of the instalments, and the loan is written
once, at the end.

Results:
 1. `chargeAccount_posted`: a charge under its reference.
 2. `penalties_sweep`: the penalties of the overdue instalments.
 3. `accrue_cases`: the accrual of one loan.
-/

namespace BebaSacco

open Txn FootprintLemmas InstallmentLemmas

/-! ## 1. Charges -/

/-- The statement row `t` was written, with journal entries. -/
def Db.Posted (db : Db) (t : Transaction) (db' : Db) : Prop :=
  ∃ es : List JournalEntry, db' =
    { db with
      transactions := db.transactions ++ [t]
      journalEntries := db.journalEntries ++ es }

/-- The instalment after the penalty of a day. -/
def LoanRepayment.penalize (row : LoanRepayment) (penalty : Nat) (accrualDate : Int) :
    LoanRepayment :=
  { row with
    penaltyDue := row.penaltyDue + penalty
    lastPenaltyAccrualDate := some accrualDate
    status := .overdue }

/-- An instalment without the columns that a penalty writes. -/
def LoanRepayment.unpenalized (row : LoanRepayment) : LoanRepayment :=
  { row with
    penaltyDue := 0
    lastPenaltyAccrualDate := none
    status := .pending }

/-- The penalties of a day were recognised: no loan changed, the instalments changed in their
penalty columns alone, and the statement rows are all of penalties. -/
structure Db.Swept (db db' : Db) : Prop where
  loans : db'.loans = db.loans
  rows : db'.loanRepayments.map LoanRepayment.unpenalized =
    db.loanRepayments.map LoanRepayment.unpenalized
  penalty : ∀ loanId, db.scheduled loanId LoanRepayment.unpaidPenalty ≤
    db'.scheduled loanId LoanRepayment.unpaidPenalty
  transactions : ∃ ts, db'.transactions = db.transactions ++ ts ∧
    ∀ t ∈ ts, (t : Transaction).type = .penalty

/-- The loan `loanId` was written by its accrual: no other loan changed, and the instalments
changed in their penalty columns alone. -/
structure Accrued (loanId : Nat) (f : Loan → Loan) (db db' : Db) : Prop where
  loans : db'.loans = db.loans.modify loanId f
  rows : db'.loanRepayments.map LoanRepayment.unpenalized =
    db.loanRepayments.map LoanRepayment.unpenalized
  penalty : ∀ l, db.scheduled l LoanRepayment.unpaidPenalty ≤
    db'.scheduled l LoanRepayment.unpaidPenalty

namespace AccrualLemmas

theorem posted_of_leg {t : Transaction} {p : LegParams} {id : Nat} {r : LegResult}
    {db mid db' : Db} (ht : Yields (createTransaction t) db id mid)
    (hl : Yields (postGlOnlyLegEntry p) mid r db') : db.Posted t db' := by
  obtain ⟨_, _, rfl⟩ := yields_createTransaction.mp ht
  obtain ⟨_, ⟨rfl, _⟩ | ⟨_, _, rfl⟩⟩ := postGlOnlyLegEntry_cases hl
  · refine ⟨[], ?_⟩
    rw [List.append_nil]
    rfl
  · exact ⟨[_], rfl⟩

theorem chargeAccount_posted {accountId loanId amount : Nat} {leg : Leg}
    {reference description : String} {u : Unit} {db db' : Db}
    (h : Yields (chargeAccount accountId loanId leg amount reference description) db u db') :
    (db' = db ∧ (amount = 0 ∨ (db.transactionByReference reference).isSome = true)) ∨
    (db.transactionByReference reference = none ∧ ∃ t : Transaction, t.type = leg.chargeType ∧
      t.loanId = some loanId ∧ t.amount = amount ∧
      (db.updateAccount accountId (·.move (-amount))).Posted t db') := by
  rcases chargeAccount_cases h with hsame | ⟨hnone, _, a, p, id, r, mid, _, ht, hleg⟩
  · exact .inl hsame
  · exact .inr ⟨hnone, _, rfl, rfl, rfl, posted_of_leg ht hleg⟩

/-! ## 2. Penalties -/

theorem swept_refl (db : Db) : db.Swept db :=
  ⟨rfl, rfl, fun _ => Int.le_refl _, [], (List.append_nil _).symm,
    fun _ ht => absurd ht List.not_mem_nil⟩

instance : History Db.Swept where
  refl := swept_refl
  trans h k := by
    obtain ⟨ts, hts, htypes⟩ := h.transactions
    obtain ⟨ts', hts', htypes'⟩ := k.transactions
    refine ⟨k.loans.trans h.loans, k.rows.trans h.rows,
      fun l => (h.penalty l).trans (k.penalty l), ts ++ ts', ?_, fun t ht => ?_⟩
    · rw [hts', hts, List.append_assoc]
    · rcases List.mem_append.mp ht with ht | ht
      · exact htypes t ht
      · exact htypes' t ht

/-- A column that no penalty writes adds up to the same. -/
theorem scheduled_unpenalized {db db' : Db} (h : db'.loanRepayments.map LoanRepayment.unpenalized =
      db.loanRepayments.map LoanRepayment.unpenalized) (loanId : Nat)
    {column : LoanRepayment → Nat} (hc : ∀ r, column r.unpenalized = column r) :
    db'.scheduled loanId column = db.scheduled loanId column := by
  refine Table.sumOver_map_same LoanRepayment.unpenalized
    (fun r => if r.loanId = loanId then (column r : Int) else 0) (fun r => ?_) h
  rw [hc]
  rfl

theorem quotes_unpenalized {db db' : Db} (h : db'.loanRepayments.map LoanRepayment.unpenalized =
      db.loanRepayments.map LoanRepayment.unpenalized) :
    db'.loanRepayments.map LoanRepayment.quote = db.loanRepayments.map LoanRepayment.quote := by
  have hcomp : ∀ rows : List LoanRepayment, rows.map LoanRepayment.quote =
      (rows.map LoanRepayment.unpenalized).map LoanRepayment.quote := by
    intro rows
    rw [List.map_map]
    rfl
  rw [hcomp, h, ← hcomp]

theorem swept_posted {db db' : Db} {t : Transaction} (h : db.Posted t db')
    (ht : t.type = .penalty) : db.Swept db' := by
  obtain ⟨es, rfl⟩ := h
  refine ⟨rfl, rfl, fun _ => Int.le_refl _, [t], rfl, fun t' ht' => ?_⟩
  rw [List.mem_singleton.mp ht']
  exact ht

theorem swept_penalize (db : Db) (id penalty : Nat) (accrualDate : Int) :
    db.Swept (db.updateRepayment id (·.penalize penalty accrualDate)) where
  loans := rfl
  rows := Table.map_modify_same fun _ => rfl
  penalty loanId := by
    cases hrow : db.loanRepayments[id]? with
    | none =>
      have hlen : db.loanRepayments.length ≤ id := List.getElem?_eq_none_iff.mp hrow
      rw [Db.updateRepayment, List.modify_eq_self hlen]
    | some row =>
      rw [Db.scheduled, Db.scheduled, Db.updateRepayment, Table.sumOver_modify hrow]
      have hloan : (row.penalize penalty accrualDate).loanId = row.loanId := rfl
      rw [hloan]
      split
      · simp only [LoanRepayment.unpaidPenalty, LoanRepayment.penalize]
        omega
      · omega
  transactions := ⟨[], (List.append_nil _).symm, fun _ ht => absurd ht List.not_mem_nil⟩

theorem penalizeInstallment_swept (loanId accountId : Nat) (accrualDate : Int)
    (row : Nat × LoanRepayment) :
    Moves Db.Swept (penalizeInstallment loanId accountId accrualDate row) := by
  intro db u db' h
  unfold penalizeInstallment at h
  rcases yields_ite.mp h with ⟨_, h⟩ | ⟨_, h⟩
  · simp only [yields_bind, yields_modify, yields_get] at h
    obtain ⟨_, _, rfl, _, _, ⟨rfl, rfl⟩, h⟩ := h
    have hmarked := swept_penalize db row.1 row.2.dailyPenalty accrualDate
    split at h
    · exact (yields_pure.mp h).2 ▸ hmarked
    · simp only [yields_bind, yields_pure] at h
      obtain ⟨_, _, ht, _, _, hleg, _, rfl⟩ := h
      exact History.trans hmarked (swept_posted (posted_of_leg ht hleg) rfl)
  · exact (yields_pure.mp h).2 ▸ swept_refl _

/-- The penalties of the day, and the arrears that are read after them. -/
theorem penalties_sweep {loanId accountId : Nat} {accrualDate : Int} {arrears : Arrears}
    {db db' : Db}
    (h : Yields (applyOverdueInstallmentsAndArrears loanId accountId accrualDate) db arrears db') :
    db.Swept db' ∧ arrears = db'.arrears loanId accrualDate := by
  simp only [applyOverdueInstallmentsAndArrears, yields_bind, yields_get, yields_pure] at h
  obtain ⟨_, _, ⟨rfl, rfl⟩, _, mid, hloop, _, _, ⟨rfl, rfl⟩, rfl, rfl⟩ := h
  exact ⟨Moves.forM' (fun _ => penalizeInstallment_swept _ _ _ _) _ hloop, rfl⟩

/-- The arrears are what is unpaid of the instalments that were due, in whatever order. -/
theorem arrears_sum (db : Db) (loanId : Nat) (accrualDate : Int) :
    (db.arrears loanId accrualDate).arrearsAmount =
      ((db.loanRepayments.filter fun r => decide (r.dueDate < accrualDate) &&
        (r.loanId == loanId && r.status != .paid)).map (·.unpaid)).sum := by
  have hsum : (db.arrears loanId accrualDate).arrearsAmount =
      (((db.openInstallments loanId).filter fun r => r.2.dueDate < accrualDate).map
        (·.2.unpaid)).sum := by
    unfold Db.arrears
    split
    · next hnil => rw [hnil]; rfl
    · next earliest rows hcons => rw [hcons]
  have hsort := ((List.perm_insertionSort (fun a b : Nat × LoanRepayment =>
    a.2.dueDate ≤ b.2.dueDate) (Table.selectRows
      (fun r => r.loanId == loanId && r.status != .paid) db.loanRepayments)).filter
      fun r => decide (r.2.dueDate < accrualDate)).map (·.2.unpaid)
  have hrows : (Table.selectRows (fun r => r.loanId == loanId && r.status != .paid)
      db.loanRepayments).map Prod.snd =
      db.loanRepayments.filter fun r => r.loanId == loanId && r.status != .paid :=
    Table.map_snd_selectRows
  rw [hsum, Db.openInstallments, hsort.sum_eq, ← List.filter_filter, ← hrows, List.filter_map,
    List.map_map]
  rfl

/-! ## 3. The accrual of one loan -/

theorem charge_debts {accountId l amount : Nat} {leg : Leg} {reference description : String}
    {u : Unit} {db db' : Db}
    (h : Yields (chargeAccount accountId l leg amount reference description) db u db') :
    db.SameDebts db' := chargeAccount_moves _ _ _ _ _ _ h

theorem accrued_of_swept {loanId : Nat} {f : Loan → Loan} {db fined swept : Db}
    (hd : db.SameDebts fined) (hs : fined.Swept swept) :
    Accrued loanId f db (swept.updateLoan loanId f) where
  loans := by rw [Db.updateLoan, hs.loans, hd.loans]
  rows := by
    rw [← hd.loanRepayments]
    exact hs.rows
  penalty l := by
    rw [← scheduled_same hd]
    exact hs.penalty l

/-- The job had nothing to do for the loan, or charged the interest and the penalty of the day,
swept the instalments and wrote the loan. -/
theorem accrue_cases {seen : Db} {loanId : Nat} {accrualDate : Int} {u : Unit} {db db' : Db}
    (h : Yields (accrueInterestForLoan seen loanId accrualDate) db u db') :
    db' = db ∨ ∃ loan account charged fined swept,
      seen.loans[loanId]?.filter (·.accruesOn accrualDate) = some loan ∧
      loan.outstandingBalance ≠ 0 ∧ seen.activeAccount loan.memberId .fosa = some account ∧
      Yields (chargeAccount account.1 loanId .interest
        (seen.computeScheduleBasedDailyInterest loanId loan accrualDate)
        (accrualReference db.tenantId loanId accrualDate)
        s!"Daily interest accrual – {isoDate accrualDate}") db () charged ∧
      Yields (chargeAccount account.1 loanId .penalty (loan.maturityPenalty accrualDate)
        (penaltyReference db.tenantId loanId accrualDate)
        s!"Overdue penalty – {isoDate accrualDate}") charged () fined ∧
      fined.Swept swept ∧
      db' = swept.updateLoan loanId (·.accrue (swept.arrears loanId accrualDate)
        (seen.computeScheduleBasedDailyInterest loanId loan accrualDate) accrualDate) ∧
      Accrued loanId (·.accrue (db'.arrears loanId accrualDate)
        (seen.computeScheduleBasedDailyInterest loanId loan accrualDate) accrualDate) db db' := by
  unfold accrueInterestForLoan at h
  cases hloan : seen.loans[loanId]?.filter (·.accruesOn accrualDate) with
  | none =>
    simp only [hloan, yields_pure] at h
    exact .inl h.2.symm
  | some loan =>
    simp only [hloan] at h
    rcases yields_ite.mp h with ⟨_, h⟩ | ⟨hout, h⟩
    · exact .inl (yields_pure.mp h).2.symm
    cases hacc : seen.activeAccount loan.memberId .fosa with
    | none =>
      simp only [hacc, yields_pure] at h
      exact .inl h.2.symm
    | some r =>
      simp only [hacc, accrueBody, yields_bind, yields_get, yields_modify] at h
      obtain ⟨_, _, ⟨rfl, rfl⟩, _, charged, hinterest, _, fined, hpenalty, arrears, swept, hsweep,
        rfl⟩ := h
      obtain ⟨hswept, rfl⟩ := penalties_sweep hsweep
      have hdebts : db.SameDebts fined :=
        History.trans (charge_debts hinterest) (charge_debts hpenalty)
      exact .inr ⟨loan, r, charged, fined, swept, rfl, hout, hacc, hinterest, hpenalty, hswept, rfl,
        accrued_of_swept hdebts hswept⟩

end AccrualLemmas

end BebaSacco
