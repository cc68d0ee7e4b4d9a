import BebaSacco.Pledges
import BebaSacco.Accruals

/-! # Committed funds

What is locked and what is frozen for guarantees should stay on the account: the balance
covers both. The postings of the ledger service check this floor and a hold is placed only
on free savings; the repayment of a loan from the FOSA balance and the daily accrual take
money out of the balance without looking at what is committed.

Results:
 1. `funded_step`: an operation keeps every account covered unless it is a repayment or an
    accrual that reaches into committed funds.
 2. `committed_funds_floor`: so does every run of such operations.
 3. `repay_spends_collateral`: a repayment spends savings that are frozen for a guarantee.
-/

namespace BebaSacco

open Txn FootprintLemmas GuarantorLemmas PledgeLemmas

/-! ## 1. Accounts whose commitments are covered -/

/-- Locks and holds are not negative, and the balance covers them. -/
structure Account.Covered (account : Account) : Prop where
  locked : 0 ≤ account.lockedBalance
  frozen : 0 ≤ account.frozenSavings
  floor : account.lockedBalance + account.frozenSavings ≤ account.balance

/-- Every account is covered, and no transaction has a negative amount. -/
structure Funded (db : Db) : Prop where
  covered : ∀ a ∈ db.accounts, a.Covered
  amounts : ∀ t ∈ db.transactions, 0 ≤ t.amount

/-- A payment of `n` that the balance could make, but only out of committed funds. -/
def Account.overdraws (account : Account) (n : Int) : Bool :=
  account.available < n && n ≤ account.balance

/-- The repayment does not reach into committed funds, or writes nothing. -/
def Db.repayBacked (db : Db) (p : RepayParams) : Bool :=
  match db.loans[p.loanId]?.filter (·.status = .active) with
  | none => true
  | some loan =>
    match db.activeAccount loan.memberId .fosa with
    | none => true
    | some (_, account) =>
      (db.transactionByReference (p.reference db.tenantId)).isSome ||
        !account.overdraws (p.actualRepayment loan)

/-- What a charge under this reference still takes. -/
def Db.chargeDue (db : Db) (reference : String) (amount : Nat) : Nat :=
  if (db.transactionByReference reference).isSome then 0 else amount

/-- The accrual charges no more than the free savings of the account, or nothing. -/
def Db.accrualBacked (db seen : Db) (loanId : Nat) (accrualDate : Int) : Bool :=
  match seen.loans[loanId]?.filter (·.accruesOn accrualDate) with
  | none => true
  | some loan =>
    loan.outstandingBalance == 0 ||
      match seen.activeAccount loan.memberId .fosa with
      | none => true
      | some (fosaAccountId, _) =>
        db.accounts[fosaAccountId]?.all fun account =>
          ((db.chargeDue (accrualReference db.tenantId loanId accrualDate)
              (seen.computeScheduleBasedDailyInterest loanId loan accrualDate) +
            db.chargeDue (penaltyReference db.tenantId loanId accrualDate)
              (loan.maturityPenalty accrualDate) : Nat) : Int) ≤ account.available

/-- The operation takes nothing out of committed funds unchecked. -/
def keepsCommitted (db : Db) : Op → Bool
  | .repay p => db.repayBacked p
  | .accrue seen loanId accrualDate => db.accrualBacked seen loanId accrualDate
  | _ => true

/-- No account and no transaction changed. -/
structure Db.SameFunds (db db' : Db) : Prop where
  accounts : db'.accounts = db.accounts
  transactions : db'.transactions = db.transactions

namespace FundsLemmas

theorem covered_move {a : Account} {dir : Direction} {n : Int} (h : a.Covered) (hn : 0 ≤ n)
    (hfloor : dir = .debit → debitFloor a n ≤ a.balance) : (a.move (dir.signed n)).Covered := by
  obtain ⟨hl, hf, hb⟩ := h
  refine ⟨hl, hf, ?_⟩
  show a.lockedBalance + a.frozenSavings ≤ a.balance + dir.signed n
  cases dir with
  | debit =>
    have hcommitted : a.lockedBalance + a.frozenSavings + n ≤ a.balance :=
      le_trans (le_max_left _ _) (hfloor rfl)
    rw [Direction.signed]
    omega
  | credit =>
    rw [Direction.signed]
    omega

theorem covered_hold {a : Account} {n : Int} (h : a.Covered) (hn : 0 ≤ n) (hav : n ≤ a.available) :
    (a.hold n).Covered := by
  obtain ⟨hl, hf, hb⟩ := h
  unfold Account.available at hav
  refine ⟨hl, ?_, ?_⟩
  · show 0 ≤ a.frozenSavings + n
    omega
  · show a.lockedBalance + (a.frozenSavings + n) ≤ a.balance
    omega

theorem covered_release {a : Account} (h : a.Covered) (amount : Nat) :
    (a.hold (-(min a.frozenSavings amount))).Covered := by
  obtain ⟨hl, hf, hb⟩ := h
  refine ⟨hl, ?_, ?_⟩
  · show 0 ≤ a.frozenSavings + -(min a.frozenSavings amount)
    omega
  · show a.lockedBalance + (a.frozenSavings + -(min a.frozenSavings amount)) ≤ a.balance
    omega

theorem covered_forfeit {a : Account} {n : Int} (h : a.Covered) (hn : n ≤ a.frozenSavings) :
    (a.forfeit n).Covered := by
  obtain ⟨hl, hf, hb⟩ := h
  refine ⟨hl, ?_, ?_⟩
  · show 0 ≤ a.frozenSavings - n
    omega
  · show a.lockedBalance + (a.frozenSavings - n) ≤ a.balance - n
    omega

theorem covered_pay {a : Account} {n : Int} (h : a.Covered) (hn : n ≤ a.available) :
    { a with balance := a.balance - n }.Covered := by
  obtain ⟨hl, hf, hb⟩ := h
  unfold Account.available at hn
  refine ⟨hl, hf, ?_⟩
  show a.lockedBalance + a.frozenSavings ≤ a.balance - n
  omega

/-! ## 2. The single writes -/

instance : History Db.SameFunds where
  refl _ := ⟨rfl, rfl⟩
  trans h k := ⟨k.accounts.trans h.accounts, k.transactions.trans h.transactions⟩

instance : AdmitsEntry Db.SameFunds := ⟨fun _ _ => ⟨rfl, rfl⟩⟩

instance : AdmitsLoan Db.SameFunds := ⟨fun _ _ _ _ => ⟨rfl, rfl⟩⟩

instance : AdmitsRepayment Db.SameFunds := ⟨fun _ _ _ => ⟨rfl, rfl⟩, fun _ _ => ⟨rfl, rfl⟩⟩

instance : AdmitsGuarantor Db.SameFunds := ⟨fun _ _ _ _ => ⟨rfl, rfl⟩⟩

instance : AdmitsNomination Db.SameFunds :=
  admitsNomination (fun _ _ => ⟨rfl, rfl⟩) fun _ _ => ⟨rfl, rfl⟩

instance : AdmitsMpesa Db.SameFunds := ⟨fun _ _ _ => ⟨rfl, rfl⟩⟩

instance : AdmitsChain Db.SameFunds := ⟨fun _ _ => ⟨rfl, rfl⟩⟩

theorem funded_same {db db' : Db} (hs : db.SameFunds db') (h : Funded db) : Funded db' := by
  refine ⟨?_, ?_⟩
  · rw [hs.accounts]
    exact h.covered
  · rw [hs.transactions]
    exact h.amounts

theorem same_funded {α : Type} {x : Tx α} (hx : Moves Db.SameFunds x) : Preserves Funded x :=
  Preserves.of_moves hx fun _ _ => funded_same

theorem funded_account {db : Db} {i : Nat} {a : Account} (h : Funded db)
    (ha : db.accounts[i]? = some a) : a.Covered :=
  h.covered a (List.mem_of_getElem? ha)

theorem funded_updateAccount {db : Db} {i : Nat} {a : Account} {f : Account → Account}
    (h : Funded db) (ha : db.accounts[i]? = some a) (hf : (f a).Covered) :
    Funded (db.updateAccount i f) := by
  refine ⟨Table.forall_modify_at h.covered fun b hb => ?_, h.amounts⟩
  rw [ha] at hb
  cases hb
  exact hf

theorem funded_insertTransaction {db : Db} {t : Transaction} (h : Funded db) (ht : 0 ≤ t.amount) :
    Funded (db.insertTransaction t) :=
  ⟨h.covered, Table.forall_append_one h.amounts ht⟩

theorem funded_updateTransaction {db : Db} {i : Nat} {f : Transaction → Transaction}
    (h : Funded db) (hf : ∀ t, (f t).amount = t.amount) : Funded (db.updateTransaction i f) :=
  ⟨h.covered, Table.forall_modify h.amounts fun t ht => by rw [hf t]; exact ht⟩

theorem funded_insertEntry {db : Db} {e : JournalEntry} (h : Funded db) :
    Funded (db.insertEntry e) :=
  ⟨h.covered, h.amounts⟩

theorem createTransaction_funded {t : Transaction} (ht : 0 ≤ t.amount) :
    Preserves Funded (createTransaction t) := by
  intro db id db' h hdb
  obtain ⟨_, _, rfl⟩ := yields_createTransaction.mp h
  exact funded_insertTransaction hdb ht

/-! ## 3. The ledger service -/

theorem postEntry_funded (p : PostEntryParams) : Preserves Funded (postEntry p) := by
  intro db r db' h hdb
  rcases postEntry_cases h with ⟨rfl, _⟩ | ⟨⟨hpos, _, hw⟩, _⟩
  · exact hdb
  · obtain ⟨a, _, _, _, _, _, ha, _, hfloor, _, _, rfl⟩ := hw
    have hcov := covered_move (funded_account hdb ha) (Int.le_of_lt hpos) hfloor
    exact funded_insertEntry (funded_insertTransaction (funded_updateAccount hdb ha hcov)
      (Int.le_of_lt hpos))

theorem postInternalTransfer_funded (p : TransferParams) :
    Preserves Funded (postInternalTransfer p) := by
  intro db r db' h hdb
  rcases postInternalTransfer_cases h with ⟨rfl, _⟩ | ⟨⟨hpos, hne, hw⟩, _⟩
  · exact hdb
  · obtain ⟨a, b, _, _, _, ha, _, hfloor, hb, _, _, rfl⟩ := hw
    have hfrom : Funded (db.updateAccount p.fromAccountId
        (·.move (Direction.debit.signed (toDecimalPlaces4 p.amount)))) :=
      funded_updateAccount hdb ha
        (covered_move (funded_account hdb ha) (Int.le_of_lt hpos) fun _ => hfloor)
    have hb' : (db.updateAccount p.fromAccountId
        (·.move (Direction.debit.signed (toDecimalPlaces4 p.amount)))).accounts[p.toAccountId]? =
        some b := by
      rw [Db.updateAccount, Table.getElem?_modify_other hne]
      exact hb
    have hto : (b.move (Direction.credit.signed (toDecimalPlaces4 p.amount))).Covered :=
      covered_move (funded_account hfrom hb') (Int.le_of_lt hpos) fun he => by cases he
    exact funded_insertEntry (funded_updateTransaction (funded_insertTransaction
      (funded_insertTransaction (funded_updateAccount hfrom hb' hto) (Int.le_of_lt hpos))
      (Int.le_of_lt hpos)) fun _ => rfl)

theorem reverseTransaction_funded (id : Nat) (reason : String) (actorId : Option String) :
    Preserves Funded (reverseTransaction id reason actorId) := by
  intro db r db' h hdb
  obtain ⟨original, _, _, _, a, _, _, ho, _, _, _, _, ha, _, hfloor, rfl⟩ :=
    (reverseTransaction_cases h).written
  have hamount := hdb.amounts original (List.mem_of_getElem? ho)
  have hcov := covered_move (funded_account hdb ha) hamount hfloor
  exact funded_updateTransaction (funded_insertEntry (funded_insertTransaction
    (funded_updateAccount hdb ha hcov) hamount)) fun _ => rfl

/-! ## 4. Holds -/

theorem unfrozen_funded {memberId amount : Nat} {ty : AccountType} {db db' : Db}
    (h : db.Unfrozen memberId amount ty db') (hdb : Funded db) : Funded db' := by
  rcases h with ⟨rfl, _⟩ | ⟨id, a, hacc, rfl⟩
  · exact hdb
  · have ha := (activeAccount_some hacc).1
    exact funded_updateAccount hdb ha (covered_release (funded_account hdb ha) amount)

theorem placeGuarantorHolds_funded (memberId amount : Nat) (ty : AccountType) :
    Preserves Funded (placeGuarantorHolds memberId amount ty) := by
  intro db u db' h hdb
  obtain ⟨_, id, a, hacc, hav, rfl⟩ := placeGuarantorHolds_cases h
  have ha := (activeAccount_some hacc).1
  exact funded_updateAccount hdb ha
    (covered_hold (funded_account hdb ha) (Int.natCast_nonneg amount) hav)

theorem releaseGuarantorHolds_funded (memberId amount : Nat) (ty : AccountType) :
    Preserves Funded (releaseGuarantorHolds memberId amount ty) := by
  intro db u db' h hdb
  exact unfrozen_funded (releaseGuarantorHolds_cases h).2 hdb

theorem modify_updateGuarantor_funded {id : Nat} {f : LoanGuarantor → LoanGuarantor}
    (hf : ∀ g : LoanGuarantor, (f g).key = g.key) :
    Preserves Funded (modify (·.updateGuarantor id f) : Tx Unit) :=
  same_funded (modify_updateGuarantor_moves hf)

theorem releaseAcceptedHold_funded (now : Int) (ty : AccountType) (row : Nat × LoanGuarantor) :
    Preserves Funded (releaseAcceptedHold now ty row) :=
  Preserves.ite' (fun _ => Preserves.pure' ()) fun _ =>
    Preserves.bind' (releaseGuarantorHolds_funded _ _ _) fun _ =>
    modify_updateGuarantor_funded fun _ => rfl

theorem releaseRejected_funded (now : Int) (ty : AccountType) (row : Nat × LoanGuarantor) :
    Preserves Funded (releaseRejected now ty row) := by
  intro db u db' h hdb
  rcases releaseRejected_cases h with ⟨rfl, _⟩ | ⟨id, a, hacc, _, rfl⟩
  · exact hdb
  · have ha := (activeAccount_some hacc).1
    have hheld := funded_updateAccount hdb ha
      (covered_release (funded_account hdb ha) row.2.guaranteedAmount)
    exact ⟨hheld.covered, hheld.amounts⟩

theorem applyLoanState_funded (now : Int) (loanId : Nat) (loan : Loan) (product : LoanProduct)
    (latest : GuarantorStatus) :
    Preserves Funded (applyLoanState now loanId loan product latest) := by
  intro db s db' h hdb
  rcases applyLoanState_cases h with ⟨-, rfl⟩ | ⟨_, _, rfl⟩ | ⟨_, _, _, mid, hloop, rfl⟩
  · exact hdb
  · exact ⟨hdb.covered, hdb.amounts⟩
  · have hmid := Preserves.forM' (fun _ => releaseAcceptedHold_funded _ _ _) _ hloop hdb
    exact ⟨hmid.covered, hmid.amounts⟩

theorem applyDecision_funded (now : Int) (args : DecisionArgs) :
    Preserves Funded (applyDecision now args) := by
  intro db s db' h hdb
  obtain ⟨g, loan, product, held, hr, happly⟩ := applyDecision_cases h
  have hheld : Funded held := by
    by_cases hacc : args.nextStatus now g.invitedAt = .accepted
    · exact placeGuarantorHolds_funded _ _ _ (hr.placed hacc) hdb
    · rw [hr.kept hacc]
      exact hdb
  exact applyLoanState_funded _ _ _ _ _ happly ⟨hheld.covered, hheld.amounts⟩

theorem rejectForTimeout_funded (now : Int) (loanId : Nat) (ty : AccountType) :
    Preserves Funded (rejectLoanForGuarantorTimeout now loanId ty) := by
  intro db u db' h hdb
  rcases rejectForTimeout_cases h with ⟨-, rfl⟩ | ⟨_, mid, _, _, hloop, rfl⟩
  · exact hdb
  · have hmid := Preserves.forM' (fun _ => releaseAcceptedHold_funded _ _ _) _ hloop hdb
    exact ⟨hmid.covered, hmid.amounts⟩

theorem expireGuarantor_funded (now : Int) (row : Nat × LoanGuarantor) (ty : AccountType) :
    Preserves Funded (expireGuarantor now row ty) := by
  intro db u db' h hdb
  obtain ⟨freed, hheld, hnone, hreject⟩ := expireGuarantor_cases h
  have hfreed : Funded freed := by
    cases hp : row.2.holdPlacedAt with
    | none =>
      rw [hnone hp]
      exact hdb
    | some t => exact unfrozen_funded (hheld (by rw [hp]; rfl)).2 hdb
  exact rejectForTimeout_funded _ _ _ hreject ⟨hfreed.covered, hfreed.amounts⟩

theorem expireSpecificGuarantor_funded (now : Int) (guarantorId : Nat) :
    Preserves Funded (expireSpecificGuarantor now guarantorId) := by
  refine Preserves.bind' Preserves.get' fun db => ?_
  split
  · exact Preserves.pure' ()
  · exact expireGuarantor_funded _ _ _

theorem reject_funded (now : Int) (loanId : Nat) : Preserves Funded (reject now loanId) := by
  intro db u db' h hdb
  obtain ⟨_, mid, _, _, hloop, rfl⟩ := reject_cases h
  have hmid := Preserves.forM' (fun _ => releaseRejected_funded _ _ _) _ hloop hdb
  exact ⟨hmid.covered, hmid.amounts⟩

theorem updateStatus_funded (seen : Db) (now : Int) (loanId : Nat) (target : LoanStatus)
    (reason : Option String) : Preserves Funded (updateStatus seen now loanId target reason) := by
  refine Preserves.bind' Preserves.required' fun _ => Preserves.bind' Preserves.ensure' fun _ =>
    Preserves.bind' Preserves.ensure' fun _ => Preserves.ite'
      (fun _ => same_funded (approve_moves _ _)) fun _ => Preserves.ite' (fun _ => ?_) fun _ => ?_
  · exact Preserves.bind' Preserves.ensure' fun _ => reject_funded _ _
  · exact Preserves.bind' Preserves.ensure' fun _ => Preserves.bind' Preserves.get' fun _ =>
      Preserves.bind' Preserves.required' fun _ =>
      same_funded (modify_updateLoan_moves fun _ => rfl)

/-! ## 5. Recovery -/

theorem booked_funded {db db' : Db} {t : Transaction} (hb : db.Booked t db') (ht : 0 ≤ t.amount)
    (h : Funded db) : Funded db' := by
  refine ⟨?_, ?_⟩
  · rw [hb.holds.accounts]
    exact h.covered
  · rw [hb.transactions]
    exact Table.forall_append_one h.amounts ht

theorem keepsForfeits_funded : KeepsForfeits Funded := by
  rintro db db' guarantorId i loanId a amount releasedAt type reference hdb ha hpos hle _
    ⟨description, by', _, _, _, _, _, htxn, hleg⟩
  have hacc := funded_updateAccount hdb ha (covered_forfeit (funded_account hdb ha) hle)
  exact booked_funded (PledgeLemmas.booked_of_leg htxn hleg) (Int.le_of_lt hpos)
    ⟨hacc.covered, hacc.amounts⟩

theorem uuidv4_same : Moves Db.SameFunds uuidv4 := by
  intro db s db' h
  obtain ⟨_, rfl⟩ := yields_uuidv4.mp h
  exact ⟨rfl, rfl⟩

/-! ## 6. Repayments and the accrual -/

theorem legsAdded_funded {db db' : Db} (hl : db.LegsAdded db') (h : Funded db) : Funded db' := by
  obtain ⟨es, _, rfl⟩ := hl
  exact ⟨h.covered, h.amounts⟩

theorem repayBacked_available {p : RepayParams} {db mid : Db} {id : Nat} {a : Account} {loan : Loan}
    (hp : RepayPosted p db id a loan mid) (hb : db.repayBacked p = true) :
    (p.actualRepayment loan : Int) ≤ a.available := by
  have hloan : db.loans[p.loanId]?.filter (·.status = .active) = some loan := by
    rw [hp.loan_eq]
    exact Option.filter_some_pos (decide_eq_true hp.active)
  have hcov := hp.covered
  simp only [Db.repayBacked, hloan, hp.account_eq, hp.fresh, Option.isSome_none, Bool.false_or,
    Account.overdraws, Bool.not_eq_true', Bool.and_eq_false_iff, decide_eq_false_iff_not] at hb
  omega

theorem repay_funded {p : RepayParams} {r : RepayResult} {db db' : Db} (hk : Keyed db)
    (hb : db.repayBacked p = true) (h : Yields (repay p) db r db') (hdb : Funded db) :
    Funded db' := by
  rcases repay_cases h with rfl | ⟨id, a, loan, mid, hp, hrest⟩
  · exact hdb
  have hmid : Funded mid := by
    obtain ⟨legged, hlegs, rfl⟩ := hp.written
    have ha := (activeAccount_some hp.account_eq).1
    have hdebited : Funded (p.debited db id a loan) :=
      funded_updateAccount (funded_insertTransaction hdb (Int.natCast_nonneg _)) ha
        (covered_pay (funded_account hdb ha) (repayBacked_available hp hb))
    have hlegged := legsAdded_funded (repayLegs_added hlegs) hdebited
    exact ⟨hlegged.covered, hlegged.amounts⟩
  rcases hrest with ⟨_, hrelease⟩ | ⟨_, rfl⟩
  · have hkeys : db.KeepsKeys mid := repayPosted_moves hp
    rcases releaseOnFullRepayment_cases (hkeys hk) hrelease with ⟨_, rfl⟩ | hloop
    · exact hmid
    · exact Preserves.forM' (fun _ => releaseRejected_funded _ _ _) _ hloop hmid
  · exact hmid

theorem allocateLeg_funded (input : ProcessRepaymentInput) (accountId loanId : Nat)
    (balance : Int) (leg : Leg) (amount : Nat) :
    Preserves Funded (allocateLeg input accountId loanId balance leg amount) :=
  Preserves.ite' (fun _ => Preserves.bind' (Preserves.bind' (same_funded uuidv4_same) fun _ =>
    createTransaction_funded (Int.natCast_nonneg amount)) fun _ =>
    Preserves.bind' (same_funded (postGlOnlyLegEntry_moves _)) fun _ => Preserves.pure' _)
    fun _ => Preserves.pure' _

theorem creditOverpayment_funded (input : ProcessRepaymentInput) (accountId loanId n : Nat) :
    Preserves Funded (creditOverpayment input accountId loanId n) :=
  Preserves.ite' (fun _ => Preserves.bind' (postEntry_funded _) fun _ => Preserves.pure' _)
    fun _ => Preserves.pure' _

theorem processRepayment_funded (now : Int) (input : ProcessRepaymentInput) :
    Preserves Funded (processRepayment now input) := by
  intro db r db' h hdb
  rcases processRepayment_cases h with ⟨rfl, _⟩ | ⟨_, _, _, _, _, _, _, happly⟩
  · exact hdb
  · exact applyRepayment_of (R := Carries Funded)
      (fun _ => same_funded (applyInstallmentAllocation_moves _ _ _))
      (fun _ _ _ _ => allocateLeg_funded _ _ _ _ _ _) (fun _ _ => creditOverpayment_funded _ _ _ _)
      (fun _ hf => same_funded (modify_updateLoan_moves hf))
      (fun _ => same_funded (settleMpesa_moves _ _ _)) happly hdb

/-- A charge takes what is due under its reference. -/
theorem chargeAccount_booked {accountId loanId amount : Nat} {leg : Leg}
    {reference description : String} {u : Unit} {db db' : Db}
    (h : Yields (chargeAccount accountId loanId leg amount reference description) db u db') :
    db' = db ∨ ∃ a t, db.accounts[accountId]? = some a ∧ db.chargeDue reference amount = amount ∧
      (t : Transaction).amount = amount ∧
      (db.updateAccount accountId (·.move (-amount))).Booked t db' := by
  rcases chargeAccount_cases h with
    ⟨rfl, _⟩ | ⟨hnone, _, a, p, id, r, mid, ha, ht, hleg⟩
  · exact .inl rfl
  · have hdue : db.chargeDue reference amount = amount := by
      rw [Db.chargeDue, hnone]
      rfl
    exact .inr ⟨a, _, ha, hdue, rfl, booked_of_leg ht hleg⟩

/-- A charge of no more than the free savings keeps the account covered, and leaves free what
it did not take. -/
theorem chargeAccount_funded {accountId loanId amount : Nat} {leg : Leg}
    {reference description : String} {u : Unit} {db db' : Db}
    (h : Yields (chargeAccount accountId loanId leg amount reference description) db u db')
    (hav : ∀ a, db.accounts[accountId]? = some a →
      (db.chargeDue reference amount : Int) ≤ a.available) (hdb : Funded db) :
    Funded db' ∧ ∀ a', db'.accounts[accountId]? = some a' → ∃ a, db.accounts[accountId]? = some a ∧
      a.available - db.chargeDue reference amount ≤ a'.available := by
  rcases chargeAccount_booked h with rfl | ⟨a, t, ha, hdue, ht, hb⟩
  · refine ⟨hdb, fun a' ha' => ⟨a', ha', ?_⟩⟩
    omega
  have hfree := hav a ha
  rw [hdue] at hfree ⊢
  have hcov : (a.move (-amount)).Covered := by
    obtain ⟨hl, hf, hbal⟩ := funded_account hdb ha
    unfold Account.available at hfree
    refine ⟨hl, hf, ?_⟩
    show a.lockedBalance + a.frozenSavings ≤ a.balance + -amount
    omega
  refine ⟨booked_funded hb (ht ▸ Int.natCast_nonneg _) (funded_updateAccount hdb ha hcov),
    fun a' ha' => ⟨a, ha, ?_⟩⟩
  rw [hb.holds.accounts, Db.updateAccount, Table.getElem?_modify_self ha] at ha'
  cases ha'
  show a.available - amount ≤ a.balance + -amount - a.lockedBalance - a.frozenSavings
  unfold Account.available
  omega

/-- What is due under a reference does not grow while rows are added. -/
theorem chargeDue_le {db db' : Db} (h : db.Extends db') (reference : String) (amount : Nat) :
    db'.chargeDue reference amount ≤ db.chargeDue reference amount := by
  unfold Db.chargeDue
  split
  · exact Nat.zero_le _
  next hnew =>
  split
  · next hold =>
    obtain ⟨⟨i, t⟩, hr⟩ := Option.isSome_iff_exists.mp hold
    obtain ⟨hrow, href⟩ := Table.findRow_some hr
    obtain ⟨t', hrow', hposted⟩ := h.transaction hrow
    have hsame : t'.posted.reference = t.posted.reference := by rw [hposted]
    have hmatch : (t'.reference == reference) = true := by
      have href' : t'.reference = t.reference := hsame
      rw [href']
      exact href
    refine absurd (Option.isSome_iff_ne_none.mpr fun hnone => ?_) hnew
    have hno := Table.findRow_none.mp hnone t' (List.mem_of_getElem? hrow')
    rw [hmatch] at hno
    cases hno
  · exact Nat.le_refl _

theorem penalizeInstallment_funded (loanId fosaAccountId : Nat) (accrualDate : Int)
    (row : Nat × LoanRepayment) :
    Preserves Funded (penalizeInstallment loanId fosaAccountId accrualDate row) := by
  refine Preserves.ite' (fun _ => Preserves.bind'
    (same_funded (Moves.modify' fun _ => AdmitsRepayment.update _ _ _)) fun _ =>
    Preserves.bind' Preserves.get' fun db => ?_) fun _ => Preserves.pure' ()
  dsimp only
  split
  · exact Preserves.pure' ()
  · exact Preserves.bind' (createTransaction_funded (Int.natCast_nonneg _)) fun _ =>
      Preserves.bind' (same_funded (postGlOnlyLegEntry_moves _)) fun _ => Preserves.pure' ()

theorem accrue_funded {seen : Db} {loanId : Nat} {accrualDate : Int} {u : Unit} {db db' : Db}
    (hb : db.accrualBacked seen loanId accrualDate = true)
    (h : Yields (accrueInterestForLoan seen loanId accrualDate) db u db') (hdb : Funded db) :
    Funded db' := by
  unfold accrueInterestForLoan at h
  unfold Db.accrualBacked at hb
  cases hloan : seen.loans[loanId]?.filter (·.accruesOn accrualDate) with
  | none =>
    simp only [hloan, yields_pure] at h
    exact h.2 ▸ hdb
  | some loan =>
    simp only [hloan] at h hb
    rcases yields_ite.mp h with ⟨_, h⟩ | ⟨hout, h⟩
    · exact (yields_pure.mp h).2 ▸ hdb
    rw [beq_false_of_ne hout, Bool.false_or] at hb
    cases hacc : seen.activeAccount loan.memberId .fosa with
    | none =>
      simp only [hacc, yields_pure] at h
      exact h.2 ▸ hdb
    | some r =>
      simp only [hacc, accrueBody, yields_bind, yields_get] at h hb
      obtain ⟨_, _, ⟨rfl, rfl⟩, _, mid, hinterest, _, last, hpenalty, arrears, swept, harrears, h⟩ := h
      have hav : ∀ a, db.accounts[r.1]? = some a → ((db.chargeDue
          (accrualReference db.tenantId loanId accrualDate)
            (seen.computeScheduleBasedDailyInterest loanId loan accrualDate) +
          db.chargeDue (penaltyReference db.tenantId loanId accrualDate)
            (loan.maturityPenalty accrualDate) : Nat) : Int) ≤ a.available := by
        intro a ha
        rw [ha] at hb
        exact of_decide_eq_true hb
      -- the interest, then the penalty out of what the interest left
      obtain ⟨hmid, hleft⟩ := chargeAccount_funded hinterest (fun a ha => by
        have hsum := hav a ha
        omega) hdb
      have hext : db.Extends mid := chargeAccount_moves _ _ _ _ _ _ hinterest
      have hdue := chargeDue_le hext (penaltyReference db.tenantId loanId accrualDate)
        (loan.maturityPenalty accrualDate)
      obtain ⟨hlast, _⟩ := chargeAccount_funded hpenalty (fun a' ha' => by
        obtain ⟨a, ha, hle⟩ := hleft a' ha'
        have hsum := hav a ha
        omega) hmid
      have hswept : Funded swept := by
        have hloop : Preserves Funded (applyOverdueInstallmentsAndArrears loanId r.1 accrualDate) :=
          Preserves.bind' Preserves.get' fun _ => Preserves.bind'
            (Preserves.forM' (fun _ => penalizeInstallment_funded _ _ _ _) _) fun _ =>
            Preserves.bind' Preserves.get' fun _ => Preserves.pure' _
        exact hloop harrears hlast
      rw [yields_modify] at h
      exact h ▸ ⟨hswept.covered, hswept.amounts⟩

theorem updateLoan_funded {id : Nat} (f : Loan → Loan) (hf : ∀ l : Loan, (f l).terms = l.terms) :
    Preserves Funded (modify (·.updateLoan id f) : Tx Unit) :=
  same_funded (modify_updateLoan_moves hf)

end FundsLemmas

open FundsLemmas

/-! ## 7. Runs -/

/-- One operation that reaches into no committed funds keeps every account covered. -/
theorem funded_step {db : Db} {op : Op} (hk : Keyed db) (hg : keepsCommitted db op = true)
    (hdb : Funded db) : Funded (step db op) := by
  rcases step_cases db op with ⟨u, h⟩ | h
  · -- one lemma for each operation; only a repayment and an accrual need the guard
    cases op with
    | postEntry p => exact Preserves.bind' (postEntry_funded p) (fun _ => Preserves.pure' ()) h hdb
    | transfer p =>
      exact Preserves.bind' (postInternalTransfer_funded p) (fun _ => Preserves.pure' ()) h hdb
    | reverse id reason actorId =>
      exact Preserves.bind' (reverseTransaction_funded id reason actorId)
        (fun _ => Preserves.pure' ()) h hdb
    | leg p =>
      exact Preserves.bind' (same_funded (postGlOnlyLegEntry_moves p)) (fun _ => Preserves.pure' ())
        h hdb
    | repay p =>
      obtain ⟨_, _, hrepay, hpure⟩ := yields_bind.mp h
      exact (yields_pure.mp hpure).2 ▸ repay_funded hk hg hrepay hdb
    | processRepayment now input =>
      exact Preserves.bind' (processRepayment_funded now input) (fun _ => Preserves.pure' ()) h hdb
    | accrue seen loanId accrualDate => exact accrue_funded hg h hdb
    | createApplication now loan requires guarantors =>
      exact Preserves.bind' (same_funded (AdmitsNomination.apply now loan requires guarantors))
        (fun _ => Preserves.pure' ()) h hdb
    | inviteGuarantor seen now loanId nominated item =>
      exact same_funded (inviteGuarantor_moves seen now loanId nominated item) h hdb
    | finishInvite seen loanId nominated =>
      exact same_funded (finishInvite_moves seen loanId nominated) h hdb
    | respond now args =>
      exact Preserves.bind' (applyDecision_funded now args) (fun _ => Preserves.pure' ()) h hdb
    | expireGuarantor now guarantorId => exact expireSpecificGuarantor_funded now guarantorId h hdb
    | expirySweep now cutoff =>
      exact Preserves.bind' Preserves.get' (fun _ =>
        Preserves.forM' (fun _ => expireGuarantor_funded _ _ _) _) h hdb
    | reject now loanId => exact reject_funded now loanId h hdb
    | approve seen loanId => exact same_funded (approve_moves seen loanId) h hdb
    | updateStatus seen now loanId target reason =>
      exact updateStatus_funded seen now loanId target reason h hdb
    | signOff loanId approverId role approved =>
      exact same_funded (signOff_moves loanId approverId role approved) h hdb
    | disburse seen params =>
      exact disburse_of (R := Carries Funded) (fun _ _ => postEntry_funded _) updateLoan_funded
        (same_funded (Moves.modify' fun _ => AdmitsRepayment.append _ _)) h hdb
    | recover now loanId amount actorId =>
      exact Preserves.bind' (recoverFromGuarantors_keeps keepsForfeits_funded
        (same_funded uuidv4_same) updateLoan_funded _ _ _) (fun _ => Preserves.pure' ()) h hdb
    | offset now loanId jobId =>
      exact Preserves.bind' (offsetLoan_keeps keepsForfeits_funded (same_funded uuidv4_same)
        updateLoan_funded _ _) (fun _ => Preserves.pure' ()) h hdb
    | b2cTimeout mpesaTxId => exact same_funded (b2cTimeout_moves mpesaTxId) h hdb
  · rw [h]
    exact hdb

/-- In every state of a run whose repayments and accruals reach into no committed funds, the
balance of every account covers its locks and its holds. -/
theorem committed_funds_floor {db : Db} (hk : Keyed db) (hdb : Funded db) {ops : List Op}
    (hg : Machine.Guarded step (fun db op => keepsCommitted db op = true) db ops) :
    ∀ a ∈ (db.after ops).accounts,
      a.lockedBalance + a.frozenSavings ≤ a.balance ∧ 0 ≤ a.lockedBalance + a.frozenSavings := by
  have hstep : ∀ (s : Db) (op : Op), Keyed s ∧ Funded s → keepsCommitted s op = true →
      Keyed (step s op) ∧ Funded (step s op) := fun s op hs hop =>
    ⟨step_keyed s op hs.1, funded_step hs.1 hop hs.2⟩
  have hinit : Keyed db ∧ Funded db := ⟨hk, hdb⟩
  have hrun : Keyed (db.after ops) ∧ Funded (db.after ops) := Machine.run_induct hstep hinit hg
  intro a ha
  obtain ⟨hl, hf, hb⟩ := hrun.2.covered a ha
  exact ⟨hb, Int.add_nonneg hl hf⟩

/-- Member 0 has deposited KES 100 and then guaranteed KES 50 of a loan of member 1. -/
def exPledge : List Op :=
  [exDeposit "D1" 0 100,
    .createApplication 0 { exLoan with memberId := 1, loanNumber := "LN-2" } true [⟨0, 500000⟩],
    .respond 0
      { loanId := 1
        guarantorId := 0
        action := .accept
        digitalAcknowledgment := true
        source := .member }]

/-- Member 0 repays `amountKes` of its own loan from the account. -/
def exRepay (amountKes : Int) : Op :=
  .repay
    { loanId := 0, amountKes, processedBy := "A", idempotencyKey := none, minute := "m", now := 0 }

/-- After the guarantee the member repays KES 50: the savings left free. -/
theorem committed_funds_floor_pledge :
    ∃ a ∈ (exSacco.after (exPledge ++ [exRepay 500000])).accounts, a.frozenSavings = 500000 ∧
      a.lockedBalance + a.frozenSavings ≤ a.balance ∧ 0 ≤ a.lockedBalance + a.frozenSavings := by
  have hkeyed : Keyed exSacco := ⟨by decide, by decide⟩
  have hfunded : Funded exSacco := by
    refine ⟨fun a ha => ?_, by decide⟩
    have hcov : ∀ a ∈ exSacco.accounts, 0 ≤ a.lockedBalance ∧ 0 ≤ a.frozenSavings ∧
        a.lockedBalance + a.frozenSavings ≤ a.balance := by decide
    obtain ⟨hl, hf, hb⟩ := hcov a ha
    exact ⟨hl, hf, hb⟩
  have hpledged : ∃ a ∈ (exSacco.after (exPledge ++ [exRepay 500000])).accounts,
      a.frozenSavings = 500000 := by decide +kernel
  obtain ⟨a, ha, hfrozen⟩ := hpledged
  exact ⟨a, ha, hfrozen, committed_funds_floor hkeyed hfunded (by decide +kernel) a ha⟩

/-- After the guarantee the member repays KES 100: the loan takes the frozen savings too. -/
theorem repay_spends_collateral :
    (∀ a ∈ exSacco.accounts,
      a.lockedBalance + a.frozenSavings ≤ a.balance ∧ 0 ≤ a.lockedBalance + a.frozenSavings) ∧
    ¬ ∀ a ∈ (exSacco.after (exPledge ++ [exRepay 1000000])).accounts,
      a.lockedBalance + a.frozenSavings ≤ a.balance ∧ 0 ≤ a.lockedBalance + a.frozenSavings := by
  refine ⟨by decide, ?_⟩
  decide +kernel

end BebaSacco
