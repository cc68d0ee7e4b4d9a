import BebaSacco.History
import BebaSacco.Deposits

/-! # What the statements on the M-Pesa rows write

The inversions that the developments on the deposits share: what the insert and the update of a
row have checked, and what the posting of a deposit leaves on the desk.

Results:
 1. `yields_onDb`, `createMpesaTransaction_cases`, `updateMpesaTransaction_cases`.
 2. `postDeposit_cases`: there was no active account, or the posting was made or found.
 3. `processRepayment_settles`: the row of a repayment is linked once anything was posted for it.
-/

namespace BebaSacco

open Txn FootprintLemmas

/-! ## 1. Rows -/

theorem yields_onDb {α : Type} {x : Tx α} {desk desk' : Desk} {a : α} :
    Yields (onDb x) desk a desk' ↔
      ∃ db, Yields x desk.db a db ∧ desk' = { desk with db := db } := by
  unfold onDb
  exact yields_zoom

theorem createMpesaTransaction_cases {m : MpesaTransaction} {db db' : Db} {id : Nat}
    (h : Yields (createMpesaTransaction m) db id db') :
    (∀ r ∈ db.mpesaTransactions, m.apart r) ∧
    id = db.mpesaTransactions.length ∧ db' = db.insertMpesa m := by
  simp only [createMpesaTransaction, yields_bind, yields_get, yields_ensure, yields_modify,
    yields_pure] at h
  obtain ⟨_, _, ⟨rfl, rfl⟩, _, _, ⟨hunique, rfl⟩, _, _, rfl, rfl, rfl⟩ := h
  exact ⟨hunique, rfl, rfl⟩

theorem updateMpesaTransaction_cases {id : Nat} {f : MpesaTransaction → MpesaTransaction}
    {u : Unit} {db db' : Db} (h : Yields (updateMpesaTransaction id f) db u db') :
    (∃ m, db.mpesaTransactions[id]? = some m) ∧ db' = db.updateMpesa id f := by
  simp only [updateMpesaTransaction, yields_bind, yields_get, yields_required, yields_ensure,
    yields_modify] at h
  obtain ⟨_, _, ⟨rfl, rfl⟩, m, _, ⟨hm, rfl⟩, _, _, ⟨_, rfl⟩, rfl⟩ := h
  exact ⟨⟨m, hm⟩, rfl⟩

/-! ## 2. Deposits -/

theorem activeAccountByNumber_some {db : Db} {number : String} {id : Nat} {a : Account}
    (h : db.activeAccountByNumber number = some (id, a)) :
    db.accounts[id]? = some a ∧ a.accountNumber = number ∧ a.isActive = true := by
  obtain ⟨ha, hp⟩ := Table.findRow_some h
  simp only [Bool.and_eq_true, beq_iff_eq] at hp
  exact ⟨ha, hp.1, hp.2⟩

/-- The deposit of `params` on an account was there before or is new, and its row is settled. -/
structure DepositPosted (params : LedgerEntryParams) (accountId : Nat) (desk desk' : Desk) : Prop
    where
  posted : ∃ r db, Yields (postEntry (params.posting desk.db.tenantId accountId)) desk.db r db ∧
    (∃ m, db.mpesaTransactions[params.mpesaTxId]? = some m) ∧
    desk' = Desk.acknowledge
      { desk with
        db := db.updateMpesa params.mpesaTxId (params.settle r.transaction)
        credits := desk.credits ++
          if r.replayed = false then [.deposit params.mpesaTxId accountId r.transaction] else [] }
      params.checkoutRequestId

/-- A handled posting found no active account and was dropped, or the deposit is posted. -/
theorem postDeposit_cases {params : LedgerEntryParams} {accountNumber : String} {desk desk' : Desk}
    {t : Option DepositTask} (h : Yields (postDeposit params accountNumber) desk t desk') :
    t = none ∧
      ((desk.db.activeAccountByNumber accountNumber = none ∧
          desk' = desk.acknowledge params.checkoutRequestId) ∨
        ∃ accountId a, desk.db.activeAccountByNumber accountNumber = some (accountId, a) ∧
          DepositPosted params accountId desk desk') := by
  simp only [postDeposit, yields_bind, yields_get] at h
  obtain ⟨_, _, ⟨rfl, rfl⟩, h⟩ := h
  cases hfind : desk.db.activeAccountByNumber accountNumber with
  | none =>
    simp only [hfind, yields_bind, yields_modify, yields_pure] at h
    obtain ⟨_, _, rfl, rfl, rfl⟩ := h
    exact ⟨rfl, .inl ⟨rfl, rfl⟩⟩
  | some row =>
    obtain ⟨accountId, a⟩ := row
    simp only [hfind, yields_bind, yields_onDb] at h
    obtain ⟨r, _, ⟨db, hpost, rfl⟩, _, _, ⟨db', hupdate, rfl⟩, h⟩ := h
    obtain ⟨hrow, rfl⟩ := updateMpesaTransaction_cases hupdate
    rcases yields_ite.mp h with ⟨hnew, h⟩ | ⟨hold, h⟩
    · simp only [yields_bind, yields_modify, yields_pure] at h
      obtain ⟨_, _, rfl, _, _, rfl, rfl, rfl⟩ := h
      refine ⟨rfl, .inr ⟨accountId, a, rfl, r, db, hpost, hrow, ?_⟩⟩
      rw [if_pos hnew]
      rfl
    · simp only [yields_bind, yields_modify, yields_pure] at h
      obtain ⟨_, _, rfl, rfl, rfl⟩ := h
      refine ⟨rfl, .inr ⟨accountId, a, rfl, r, db, hpost, hrow, ?_⟩⟩
      rw [if_neg hold, List.append_nil]

/-! ## 3. Repayments -/

/-- An update of a row that keeps what identifies it and the transaction it is linked to. -/
structure KeepsLink (f : MpesaTransaction → MpesaTransaction) : Prop where
  type : ∀ m, (f m).type = m.type
  reference : ∀ m, (f m).reference = m.reference
  checkoutRequestId : ∀ m, (f m).checkoutRequestId = m.checkoutRequestId
  linked : ∀ m, m.transactionId.isSome = true → (f m).transactionId.isSome = true

def Db.SameMpesa (db db' : Db) : Prop := db'.mpesaTransactions = db.mpesaTransactions

instance : History Db.SameMpesa where
  refl _ := rfl
  trans hab hbc := hbc.trans hab

instance : AdmitsBalance Db.SameMpesa := ⟨fun _ _ _ => rfl, fun _ _ _ => rfl⟩

instance : AdmitsTransaction Db.SameMpesa :=
  ⟨fun _ _ => rfl, fun _ _ _ => rfl, fun _ _ => rfl, fun _ _ => rfl⟩

instance : AdmitsEntry Db.SameMpesa := ⟨fun _ _ => rfl⟩

instance : AdmitsRepayment Db.SameMpesa := ⟨fun _ _ _ => rfl, fun _ _ => rfl⟩

/-- The transactions stay as they are. -/
def Db.SameTransactions (db db' : Db) : Prop := db'.transactions = db.transactions

instance : History Db.SameTransactions where
  refl _ := rfl
  trans hab hbc := hbc.trans hab

instance : AdmitsRepayment Db.SameTransactions := ⟨fun _ _ _ => rfl, fun _ _ => rfl⟩

theorem allocateLeg_none {input : ProcessRepaymentInput} {accountId loanId : Nat} {balance : Int}
    {leg : Leg} {amount : Nat} {db db' : Db}
    (h : Yields (allocateLeg input accountId loanId balance leg amount) db [] db') : db' = db := by
  unfold allocateLeg at h
  rcases yields_ite.mp h with ⟨_, h⟩ | ⟨_, h⟩
  · simp only [yields_bind, yields_pure] at h
    obtain ⟨_, _, _, _, _, _, hids, _⟩ := h
    cases hids
  · exact (yields_pure.mp h).2.symm

theorem creditOverpayment_none {input : ProcessRepaymentInput} {accountId loanId amount : Nat}
    {db db' : Db} (h : Yields (creditOverpayment input accountId loanId amount) db [] db') :
    db' = db := by
  unfold creditOverpayment at h
  rcases yields_ite.mp h with ⟨_, h⟩ | ⟨_, h⟩
  · simp only [yields_bind, yields_pure] at h
    obtain ⟨_, _, _, hids, _⟩ := h
    cases hids
  · exact (yields_pure.mp h).2.symm

/-- What a repayment does to its M-Pesa row. -/
structure RowSettled (id : Nat) (db db' : Db) : Prop where
  settled : ∃ f, KeepsLink f ∧ db'.mpesaTransactions = db.mpesaTransactions.modify id f ∧
    (db'.transactions ≠ db.transactions → ∀ m, (f m).transactionId.isSome = true)

/-- The row of a repayment as it leaves it. -/
def ProcessRepaymentInput.settle (input : ProcessRepaymentInput) (loanId : Nat)
    (ledgerIds : List Nat) (m : MpesaTransaction) : MpesaTransaction :=
  { m with
    transactionId := ledgerIds.head?.or m.transactionId
    loanId := some loanId
    status := .completed
    resultCode := some (input.resultCode.getD 0)
    resultDesc := some (input.resultDesc.getD "Success")
    mpesaReceiptNumber := input.receipt.or m.mpesaReceiptNumber }

theorem applyRepayment_settles {now : Int} {input : ProcessRepaymentInput} {id amount loanId : Nat}
    {loan : Loan} {r : RepaymentAllocationSummary} {db db' : Db} (hid : input.mpesaTxId = some id)
    (h : Yields (applyRepayment now input amount loanId loan) db r db') : RowSettled id db db' := by
  simp only [applyRepayment, lockFosaAccount, settleMpesa, hid, yields_bind, yields_get,
    yields_required, yields_modify, yields_pure] at h
  obtain ⟨_, _, ⟨_, _, ⟨rfl, rfl⟩, _, rfl⟩, _, mid, hinstallments, penaltyIds, db₁, h₁, interestIds,
    db₂, h₂, principalIds, db₃, h₃, overpayIds, db₄, h₄, _, _, rfl, _, _, hsettle, _, rfl⟩ := h
  obtain ⟨_, rfl⟩ := updateMpesaTransaction_cases hsettle
  have hrows : db₄.mpesaTransactions = db.mpesaTransactions := by
    have hmid : db.SameMpesa mid := applyInstallmentAllocation_moves _ _ _ hinstallments
    have hlegs : mid.SameMpesa db₃ := History.trans (allocateLeg_moves _ _ _ _ _ _ h₁)
      (History.trans (allocateLeg_moves _ _ _ _ _ _ h₂) (allocateLeg_moves _ _ _ _ _ _ h₃))
    have hover : db₃.SameMpesa db₄ := creditOverpayment_moves _ _ _ _ h₄
    exact History.trans (R := Db.SameMpesa) hmid (History.trans (R := Db.SameMpesa) hlegs hover)
  refine ⟨input.settle loanId (penaltyIds ++ interestIds ++ principalIds ++ overpayIds),
    ⟨fun _ => rfl, fun _ => rfl, fun _ => rfl, fun m hm => ?_⟩,
    ?_, fun hposted m => ?_⟩
  · show (((penaltyIds ++ interestIds ++ principalIds ++ overpayIds).head?).or
      m.transactionId).isSome = true
    cases (penaltyIds ++ interestIds ++ principalIds ++ overpayIds).head? with
    | none => exact hm
    | some txn => rfl
  · rw [← hrows]
    rfl
  · show (((penaltyIds ++ interestIds ++ principalIds ++ overpayIds).head?).or
      m.transactionId).isSome = true
    cases hids : penaltyIds ++ interestIds ++ principalIds ++ overpayIds with
    | cons txn ids => rfl
    | nil =>
      -- no leg and no overpayment was posted, so there is no new transaction
      simp only [List.append_eq_nil_iff] at hids
      obtain ⟨⟨⟨rfl, rfl⟩, rfl⟩, rfl⟩ := hids
      cases creditOverpayment_none h₄
      cases allocateLeg_none h₃
      cases allocateLeg_none h₂
      cases allocateLeg_none h₁
      have hsame : db.SameTransactions mid := applyInstallmentAllocation_moves _ _ _ hinstallments
      exact absurd hsame hposted

/-- A repayment was recognised and wrote nothing, or it has settled its row. -/
theorem processRepayment_settles {now : Int} {input : ProcessRepaymentInput} {id : Nat}
    {r : RepaymentAllocationSummary} {db db' : Db} (hid : input.mpesaTxId = some id)
    (h : Yields (processRepayment now input) db r db') :
    db' = db ∨ (db.duplicateRepayment input.reference = none ∧ RowSettled id db db') := by
  rcases processRepayment_cases h with ⟨rfl, _⟩ | ⟨amount, loanId, loan, _, hnew, _, _, happly⟩
  · exact .inl rfl
  · exact .inr ⟨hnew, applyRepayment_settles hid happly⟩

end BebaSacco
