import BebaSacco.OverdueRollup

/-! # Instalments in every run

Two services write the instalments of a loan: repayments from outside fill the paid columns, and the
nightly job adds penalties. In every run of the operations no column is paid more than it is due, an
instalment is closed only when all of it is paid, and nothing that was paid is taken back.

Results:
 1. `applyInstallmentAllocation_ahead`, `penalties_ahead`: the two writers.
 2. `step_ahead`: one operation.
 3. `instalments_sound`: every run.
-/

namespace BebaSacco

open Txn FootprintLemmas InstallmentLemmas AccrualLemmas OverdueLemmas

/-! ## 1. What an instalment keeps -/

/-- No column is paid more than it is due, and a closed instalment is paid in full. A row of the old
schedule keeps its principal in `amountPaid` and is left out. -/
structure LoanRepayment.WithinDue (row : LoanRepayment) : Prop where
  penalty : row.penaltyPaid ≤ row.penaltyDue
  interest : row.interestPaid ≤ row.interestDue
  principal : row.principalPaid ≤ row.principalDue
  closed : row.status = .paid → row.principalPaid = row.principalDue ∧
    row.interestPaid = row.interestDue ∧ row.penaltyPaid = row.penaltyDue

def LoanRepayment.Sound (row : LoanRepayment) : Prop := 0 < row.principalDue → row.WithinDue

/-- The paid columns of an instalment. -/
def LoanRepayment.paidColumns (row : LoanRepayment) : Nat × Nat × Nat :=
  (row.penaltyPaid, row.interestPaid, row.principalPaid)

/-- What can become of an instalment. Once it is overdue no payment reaches it any more. -/
structure LoanRepayment.Ahead (row row' : LoanRepayment) : Prop where
  quote : row'.quote = row.quote
  penaltyDue : row.penaltyDue ≤ row'.penaltyDue
  penaltyPaid : row.penaltyPaid ≤ row'.penaltyPaid
  interestPaid : row.interestPaid ≤ row'.interestPaid
  principalPaid : row.principalPaid ≤ row'.principalPaid
  sound : row.Sound → row'.Sound
  closed : row.status = .paid → row' = row
  overdue : row.status = .overdue → row'.status = .overdue ∧ row'.paidColumns = row.paidColumns

/-- Every instalment is still there, and the new ones are unpaid. -/
structure Db.InstalmentsAhead (db db' : Db) : Prop where
  rows : ∀ (id : Nat) (row : LoanRepayment), db.loanRepayments[id]? = some row →
    ∃ row' : LoanRepayment, db'.loanRepayments[id]? = some row' ∧ row.Ahead row'
  added : ∀ (id : Nat) (row' : LoanRepayment), db'.loanRepayments[id]? = some row' →
    db.loanRepayments[id]? = none → row'.Sound

def Db.InstalmentsSound (db : Db) : Prop :=
  ∀ (id : Nat) (row : LoanRepayment), db.loanRepayments[id]? = some row → row.Sound

namespace InstallmentsPaidLemmas

variable {db db' : Db} {loanId : Nat} {row row' : LoanRepayment}

theorem ahead_refl (row : LoanRepayment) : row.Ahead row :=
  ⟨rfl, Nat.le_refl _, Nat.le_refl _, Nat.le_refl _, Nat.le_refl _, id, fun _ => rfl,
    fun h => ⟨h, rfl⟩⟩

theorem ahead_trans {a b c : LoanRepayment} (h : a.Ahead b) (k : b.Ahead c) : a.Ahead c where
  quote := k.quote.trans h.quote
  penaltyDue := h.penaltyDue.trans k.penaltyDue
  penaltyPaid := h.penaltyPaid.trans k.penaltyPaid
  interestPaid := h.interestPaid.trans k.interestPaid
  principalPaid := h.principalPaid.trans k.principalPaid
  sound hs := k.sound (h.sound hs)
  closed hs := by
    have hb := h.closed hs
    exact (k.closed (by rw [hb]; exact hs)).trans hb
  overdue hs := by
    obtain ⟨hb, hcols⟩ := h.overdue hs
    obtain ⟨hc, hcols'⟩ := k.overdue hb
    exact ⟨hc, hcols'.trans hcols⟩

/-- Nothing was written to the instalments. -/
theorem ahead_same (h : db'.loanRepayments = db.loanRepayments) : db.InstalmentsAhead db' where
  rows id row hrow := ⟨row, by rw [h, hrow], ahead_refl row⟩
  added id row' hrow' hnone := by
    rw [h, hnone] at hrow'
    cases hrow'

instance : History Db.InstalmentsAhead where
  refl _ := ahead_same rfl
  trans h k := by
    refine ⟨fun id row hrow => ?_, fun id row' hrow' hnone => ?_⟩
    · obtain ⟨mid, hmid, hfirst⟩ := h.rows id row hrow
      obtain ⟨last, hlast, hsecond⟩ := k.rows id mid hmid
      exact ⟨last, hlast, ahead_trans hfirst hsecond⟩
    · rename_i mid _
      cases hmid : mid.loanRepayments[id]? with
      | none => exact k.added id row' hrow' hmid
      | some row =>
        obtain ⟨last, hlast, hahead⟩ := k.rows id row hmid
        cases hrow'.symm.trans hlast
        exact hahead.sound (h.added id row hmid hnone)

instance : AdmitsBalance Db.InstalmentsAhead :=
  ⟨fun _ _ _ => ahead_same rfl, fun _ _ _ => ahead_same rfl⟩

instance : AdmitsHold Db.InstalmentsAhead := ⟨fun _ _ _ => ahead_same rfl⟩

instance : AdmitsForfeit Db.InstalmentsAhead := ⟨fun _ _ _ => ahead_same rfl⟩

instance : AdmitsTransaction Db.InstalmentsAhead where
  insert _ _ := ahead_same rfl
  link _ _ _ := ahead_same rfl
  markReversed _ _ := ahead_same rfl
  uuid _ _ := ahead_same rfl

instance : AdmitsEntry Db.InstalmentsAhead := ⟨fun _ _ => ahead_same rfl⟩

instance : AdmitsLoan Db.InstalmentsAhead := ⟨fun _ _ _ _ => ahead_same rfl⟩

instance : AdmitsGuarantor Db.InstalmentsAhead := ⟨fun _ _ _ _ => ahead_same rfl⟩

instance : AdmitsNomination Db.InstalmentsAhead :=
  admitsNomination (fun _ _ => ahead_same rfl) fun _ _ => ahead_same rfl

instance : AdmitsMpesa Db.InstalmentsAhead := ⟨fun _ _ _ => ahead_same rfl⟩

instance : AdmitsChain Db.InstalmentsAhead := ⟨fun _ _ => ahead_same rfl⟩

/-- One instalment was written. -/
theorem ahead_update {id : Nat} {f : LoanRepayment → LoanRepayment}
    (hrow : db.loanRepayments[id]? = some row) (hf : row.Ahead (f row)) :
    db.InstalmentsAhead (db.updateRepayment id f) := by
  refine ⟨fun i old hold => ?_, fun i new hnew hnone => ?_⟩
  · by_cases hid : id = i
    · subst hid
      cases hrow.symm.trans hold
      exact ⟨_, Table.getElem?_modify_self hrow, hf⟩
    · refine ⟨old, ?_, ahead_refl old⟩
      rw [Db.updateRepayment, Table.getElem?_modify_other hid, hold]
  · obtain ⟨old, hold, _⟩ := Table.getElem?_modify_some hnew
    cases hnone.symm.trans hold

/-! ## 2. Repayments -/

theorem principalOwed_eq (h : 0 < row.principalDue) : row.principalOwed = row.principalDue :=
  if_pos h

/-- A payment takes no column over its due, and closes the instalment when all of it is paid. -/
theorem pay_within (left : Allocation) (paidAt : Int) (h : row.Sound) :
    (row.pay (row.take left) paidAt).Sound := by
  intro hpos
  have hrow := h hpos
  have howed : row.principalOwed = row.principalDue := principalOwed_eq hpos
  have hpenalty : row.penaltyPaid + (row.take left).penalty ≤ row.penaltyDue :=
    Nat.add_le_of_le_sub' hrow.penalty (Nat.min_le_right _ _)
  have hinterest : row.interestPaid + (row.take left).interest ≤ row.interestDue :=
    Nat.add_le_of_le_sub' hrow.interest (Nat.min_le_right _ _)
  have hprincipal : row.principalPaid + (row.take left).principal ≤ row.principalDue := by
    have htake : (row.take left).principal ≤ row.principalOwed - row.principalPaid :=
      Nat.min_le_right _ _
    rw [howed] at htake
    exact Nat.add_le_of_le_sub' hrow.principal htake
  refine ⟨hpenalty, hinterest, hprincipal, fun hclosed => ?_⟩
  have hall : row.penaltyDue + row.interestDue + row.principalOwed ≤
      (row.penaltyPaid + (row.take left).penalty) + (row.interestPaid + (row.take left).interest) +
        (row.principalPaid + (row.take left).principal) := by
    by_contra hopen
    have hpartly : (row.pay (row.take left) paidAt).status = .partlyPaid := if_neg hopen
    cases hclosed.symm.trans hpartly
  rw [howed] at hall
  refine ⟨?_, ?_, ?_⟩
  · show row.principalPaid + _ = row.principalDue
    omega
  · show row.interestPaid + _ = row.interestDue
    omega
  · show row.penaltyPaid + _ = row.penaltyDue
    omega

theorem ahead_pay (left : Allocation) (paidAt : Int)
    (hopen : row.status = .pending ∨ row.status = .partlyPaid) :
    row.Ahead (row.pay (row.take left) paidAt) where
  quote := rfl
  penaltyDue := Nat.le_refl _
  penaltyPaid := Nat.le_add_right _ _
  interestPaid := Nat.le_add_right _ _
  principalPaid := Nat.le_add_right _ _
  sound := pay_within left paidAt
  closed hs := by
    rcases hopen with ho | ho
    · cases hs.symm.trans ho
    · cases hs.symm.trans ho
  overdue hs := by
    rcases hopen with ho | ho
    · cases hs.symm.trans ho
    · cases hs.symm.trans ho

/-- The rows before the loop are open and as the table has them. -/
theorem allocateInstallments_ahead {paidAt : Int} {rows : List (Nat × LoanRepayment)}
    {left : Allocation} {u : Unit} (hrows : Current rows db)
    (hopen : ∀ r ∈ rows, r.2.status = .pending ∨ r.2.status = .partlyPaid)
    (h : Yields (allocateInstallments paidAt rows left) db u db') : db.InstalmentsAhead db' := by
  induction rows generalizing left db with
  | nil =>
    rw [allocateInstallments, yields_pure] at h
    exact h.2 ▸ History.refl db
  | cons r rows ih =>
    have hrest : ∀ r ∈ rows, r.2.status = .pending ∨ r.2.status = .partlyPaid :=
      fun r hr => hopen r (List.mem_cons_of_mem _ hr)
    rcases allocateInstallments_cons h with ⟨_, rfl⟩ | ⟨_, h⟩ | ⟨_, h⟩
    · exact History.refl _
    · exact ih (current_tail hrows) hrest h
    · exact History.trans (ahead_update (hrows.2 r List.mem_cons_self)
        (ahead_pay left paidAt (hopen r List.mem_cons_self)))
        (ih (current_update _ hrows) hrest h)

theorem applyInstallmentAllocation_ahead {paidAt : Int} {a : Allocation} {u : Unit}
    (h : Yields (applyInstallmentAllocation paidAt loanId a) db u db') :
    db.InstalmentsAhead db' := by
  simp only [applyInstallmentAllocation, yields_bind, yields_get] at h
  obtain ⟨_, _, ⟨rfl, rfl⟩, h⟩ := h
  exact allocateInstallments_ahead (current_unpaidInstallments db loanId)
    (fun r hr => (mem_unpaidInstallments.mp hr).2.2) h

theorem processRepayment_ahead (now : Int) (input : ProcessRepaymentInput) :
    Moves Db.InstalmentsAhead (processRepayment now input) := by
  intro db r db' h
  rcases processRepayment_cases h with ⟨rfl, _⟩ | ⟨amount, loanId, loan, -, -, -, -, happly⟩
  · exact History.refl _
  obtain ⟨mid, halloc, hsame⟩ := applyRepayment_cases happly
  exact History.trans (applyInstallmentAllocation_ahead halloc) (ahead_same hsame.loanRepayments)

/-! ## 3. The nightly job -/

theorem ahead_penalize (penalty : Nat) (accrualDate : Int) (hopen : row.status ≠ .paid) :
    row.Ahead (row.penalize penalty accrualDate) where
  quote := rfl
  penaltyDue := Nat.le_add_right _ _
  penaltyPaid := Nat.le_refl _
  interestPaid := Nat.le_refl _
  principalPaid := Nat.le_refl _
  sound h hpos := by
    have hrow := h hpos
    exact ⟨hrow.penalty.trans (Nat.le_add_right _ _), hrow.interest, hrow.principal,
      fun hs => by cases hs⟩
  closed hs := absurd hs hopen
  overdue _ := ⟨rfl, rfl⟩

theorem penalties_ahead {accountId : Nat} {accrualDate : Int} {rows : List (Nat × LoanRepayment)}
    {u : Unit} (hrows : Current rows db) (hopen : ∀ r ∈ rows, r.2.status ≠ .paid)
    (h : Yields (rows.forM (penalizeInstallment loanId accountId accrualDate)) db u db') :
    db.InstalmentsAhead db' := by
  induction rows generalizing db with
  | nil =>
    obtain ⟨-, rfl⟩ := yields_pure.mp h
    exact History.refl _
  | cons r rows ih =>
    obtain ⟨_, mid, hone, hrest⟩ := yields_bind.mp h
    have hopen' : ∀ r ∈ rows, r.2.status ≠ .paid := fun r hr => hopen r (List.mem_cons_of_mem _ hr)
    rcases penalize_cases hone with ⟨_, rfl⟩ | ⟨_, hmid⟩
    · exact ih (current_tail hrows) hopen' hrest
    · have hrow := hrows.2 r List.mem_cons_self
      have hupdate : db.InstalmentsAhead
          (db.updateRepayment r.1 (·.penalize r.2.dailyPenalty accrualDate)) :=
        ahead_update hrow (ahead_penalize _ _ (hopen r List.mem_cons_self))
      have hcurrent : Current rows mid := by
        have hmoved := current_update (·.penalize r.2.dailyPenalty accrualDate) hrows
        refine ⟨hmoved.1, fun r' hr' => ?_⟩
        rw [hmid]
        exact hmoved.2 r' hr'
      exact History.trans (History.trans hupdate (ahead_same hmid)) (ih hcurrent hopen' hrest)

theorem applyOverdue_ahead (accountId : Nat) (accrualDate : Int) : Moves Db.InstalmentsAhead
    (applyOverdueInstallmentsAndArrears loanId accountId accrualDate) := by
  intro db arrears db' h
  simp only [applyOverdueInstallmentsAndArrears, yields_bind, yields_get, yields_pure] at h
  obtain ⟨_, _, ⟨rfl, rfl⟩, _, mid, hloop, _, _, ⟨rfl, rfl⟩, rfl, rfl⟩ := h
  refine penalties_ahead ⟨Table.nodup_selectRows, fun r hr => (mem_penaltyEligible.mp hr).1⟩
    (fun r hr hpaid => ?_) hloop
  have hr' := (mem_penaltyEligible.mp hr).2
  rw [hpaid] at hr'
  simp at hr'

theorem accrue_ahead (seen : Db) (loanId : Nat) (accrualDate : Int) :
    Moves Db.InstalmentsAhead (accrueInterestForLoan seen loanId accrualDate) := by
  unfold accrueInterestForLoan
  split
  · exact Moves.pure' ()
  · refine Moves.ite' (Moves.pure' ()) ?_
    split
    · exact Moves.pure' ()
    · exact Moves.bind' Moves.get' fun _ => Moves.bind' (chargeAccount_moves _ _ _ _ _ _) fun _ =>
        Moves.bind' (chargeAccount_moves _ _ _ _ _ _) fun _ =>
        Moves.bind' (applyOverdue_ahead _ _) fun _ => modify_updateLoan_moves fun _ => rfl

/-! ## 4. Disbursement -/

theorem row_sound (item : ScheduledInstalment) (loanId dayNumber : Nat) :
    (item.row loanId dayNumber).Sound :=
  fun _ => ⟨Nat.le_refl _, Nat.zero_le _, Nat.zero_le _, fun hs => by cases hs⟩

/-- The rows of a schedule were added. -/
theorem ahead_append {rows : List LoanRepayment} (h : ∀ row ∈ rows, row.Sound) :
    db.InstalmentsAhead { db with loanRepayments := db.loanRepayments ++ rows } := by
  refine ⟨fun id row hrow => ⟨row, ?_, ahead_refl row⟩, fun id row' hrow' hnone => ?_⟩
  · exact Table.getElem?_of_prefix (List.prefix_append _ _) hrow
  · have hge : db.loanRepayments.length ≤ id := List.getElem?_eq_none_iff.mp hnone
    rw [List.getElem?_append_right hge] at hrow'
    exact h row' (List.mem_of_getElem? hrow')

theorem params_sound (params : DisburseParams) : ∀ row ∈ params.rows, row.Sound := by
  intro row hrow
  obtain ⟨item, _, rfl⟩ := List.mem_map.mp hrow
  exact row_sound _ _ _

theorem disburse_ahead (seen : Db) (params : DisburseParams) :
    Moves Db.InstalmentsAhead (disburse seen params) :=
  disburse_of (fun _ _ => postEntry_moves _) (fun _ hf => modify_updateLoan_moves hf)
    (Moves.modify' fun _ => ahead_append (params_sound params))

/-! ## 5. Every operation -/

theorem exec_ahead (op : Op) : Moves Db.InstalmentsAhead op.exec := by
  cases op with
  | postEntry p => exact Moves.bind' (postEntry_moves p) fun _ => Moves.pure' ()
  | transfer p => exact Moves.bind' (postInternalTransfer_moves p) fun _ => Moves.pure' ()
  | reverse id reason actorId =>
    exact Moves.bind' (reverseTransaction_moves id reason actorId) fun _ => Moves.pure' ()
  | leg p => exact Moves.bind' (postGlOnlyLegEntry_moves p) fun _ => Moves.pure' ()
  | repay p => exact Moves.bind' (repay_moves p) fun _ => Moves.pure' ()
  | processRepayment now input =>
    exact Moves.bind' (processRepayment_ahead now input) fun _ => Moves.pure' ()
  | accrue seen loanId date => exact accrue_ahead seen loanId date
  | disburse seen params => exact disburse_ahead seen params
  | recover now loanId amount actorId =>
    exact Moves.bind' (recoverFromGuarantors_moves now loanId amount actorId) fun _ =>
      Moves.pure' ()
  | offset now loanId jobId =>
    exact Moves.bind' (offsetLoan_moves now loanId jobId) fun _ => Moves.pure' ()
  | _ => exact exec_quiet rfl

theorem step_ahead (db : Db) (op : Op) : db.InstalmentsAhead (step db op) :=
  Moves.commit' (exec_ahead op) db

theorem after_ahead (db : Db) (ops : List Op) : db.InstalmentsAhead (db.after ops) :=
  Machine.run_related History.refl (fun _ _ _ => History.trans) step_ahead

theorem sound_ahead (h : db.InstalmentsAhead db') (hsound : db.InstalmentsSound) :
    db'.InstalmentsSound := by
  intro id row' hrow'
  cases hold : db.loanRepayments[id]? with
  | none => exact h.added id row' hrow' hold
  | some row =>
    obtain ⟨new, hnew, hahead⟩ := h.rows id row hold
    cases hrow'.symm.trans hnew
    exact hahead.sound (hsound id row hold)

end InstallmentsPaidLemmas

open InstallmentsPaidLemmas

/-- In every run of the operations: every instalment stays, with the dates and amounts that its
schedule fixed; its penalty and the three paid columns never fall; no column of it is paid more than
it is due; it is closed only when all of it is paid, and then nothing writes it again; and once it
is overdue no repayment is booked on it any more. -/
theorem instalments_sound (db : Db) (hdb : db.InstalmentsSound) (ops : List Op) :
    (db.after ops).InstalmentsSound ∧ ∀ (id : Nat) (row : LoanRepayment),
      db.loanRepayments[id]? = some row →
      ∃ row' : LoanRepayment, (db.after ops).loanRepayments[id]? = some row' ∧ row.Ahead row' :=
  ⟨sound_ahead (after_ahead db ops) hdb, (after_ahead db ops).rows⟩

/-- KES 50 into the instalment in time, the accrual of a day past the grace period, then KES 30. -/
def exLatePayments : List Op :=
  [.processRepayment msPerDay
      { reference := "R-1", amount := some 50, processedBy := "u", loanId := some 0 },
    .accrue exInGrace 0 (6 * msPerDay),
    .processRepayment (6 * msPerDay)
      { reference := "R-2", amount := some 30, processedBy := "u", loanId := some 0 }]

/-- The second repayment came after the instalment was overdue: the loan got it, the instalment did
not. -/
theorem instalments_sound_late :
    (exInGrace.after exLatePayments).InstalmentsSound ∧
      ∃ row row' : LoanRepayment, exInGrace.loanRepayments[0]? = some row ∧
        (exInGrace.after exLatePayments).loanRepayments[0]? = some row' ∧ row.Ahead row' ∧
        row'.status = .overdue ∧ row'.principalPaid = 500000 ∧
        (exInGrace.after exLatePayments).loans.map (·.totalRepaid) = [800000] := by
  have hsound : exInGrace.InstalmentsSound := by
    intro id row hrow
    obtain ⟨rfl⟩ := List.mem_singleton.mp (List.mem_of_getElem? hrow)
    exact row_sound _ _ _
  obtain ⟨hafter, hrows⟩ := instalments_sound exInGrace hsound exLatePayments
  obtain ⟨row', hrow', hahead⟩ := hrows 0 _ rfl
  have hlate : ((exInGrace.after exLatePayments).loanRepayments[0]?.map fun r =>
      (r.status, r.principalPaid)) = some (.overdue, 500000) := by decide +kernel
  rw [hrow'] at hlate
  obtain ⟨hstatus, hpaid⟩ := Prod.mk.inj (Option.some.inj hlate)
  exact ⟨hafter, _, row', rfl, hrow', hahead, hstatus, hpaid, by decide +kernel⟩

end BebaSacco
