import BebaSacco.ReferenceRows
import BebaSacco.RepayNumbers

/-! # What a repayment from the FOSA balance moves

`LoansService.repay` debits the FOSA account once, posts a leg for each bucket of the loan that gets
money, and writes the loan. A call whose reference is on a transaction posts nothing and answers
with that transaction, whatever loan it was for. A number of more than four decimals is rounded in
each write on its own.

Results:
 1. `repayLegs_posted`: what the legs post, given the entry numbers that are taken.
 2. `repay_posted`: what a new repayment answers and leaves.
 3. `repay_sound_iff`: when a repayment of no more than four decimals moves the same sum everywhere,
    can be repeated, and is bound to its loan.
 4. `repay_unsound`: a repetition that answers otherwise, one that fails, a key of another loan and
    half a unit.
-/

namespace BebaSacco

open Txn FootprintLemmas InstallmentLemmas ReferenceLemmas NumberLemmas

/-! ## 1. What a repayment should do -/

def JournalEntry.posted (e : JournalEntry) : Int := (e.postings.map (·.amount)).sum

def postedSum (es : List JournalEntry) : Int := (es.map JournalEntry.posted).sum

/-- The entries of `db'` that are not in `db` post `amount`. -/
def Db.Posts (db db' : Db) (amount : Int) : Prop :=
  ∃ es, db'.journalEntries = db.journalEntries ++ es ∧ postedSum es = amount

/-- The FOSA account, the legs and the loan move by the same sum. -/
structure Conserves (loanId accountId : Nat) (loan : Loan) (account : Account) (db db' : Db) :
    Prop where
  moved : ∃ (loan' : Loan) (account' : Account), db'.loans[loanId]? = some loan' ∧
    db'.accounts[accountId]? = some account' ∧
    db.Posts db' (account.balance - account'.balance) ∧
    account.balance - account'.balance = (loan.totalOwed : Int) - loan'.totalOwed

/-- Every later call with the same reference for the loan leaves `db'` as it is and answers `r`. -/
def Repeats (q : RepayRequest) (r : RepayAnswer) (db' : Db) : Prop :=
  ∀ q' : RepayRequest, q'.loanId = q.loanId → 0 < q'.amountKes →
    q'.reference db'.tenantId = q.reference db'.tenantId → Yields (repayNumber q') db' r db'

/-- The transaction that the call answers with is one of the loan. -/
def BoundTo (loanId : Nat) (r : RepayAnswer) (db' : Db) : Prop :=
  ∃ t : Transaction, db'.transactions[r.transaction]? = some t ∧ t.loanId = some loanId

/-- Whether a repayment of `amount` gets to the bucket. -/
def Loan.reaches (loan : Loan) (amount : Int) : Leg → Bool
  | .penalty => 0 < loan.arrearsAmount
  | .interest => loan.arrearsAmount < amount && 0 < loan.accruedInterest
  | .principal => (loan.arrearsAmount + loan.accruedInterest : Nat) < amount &&
      0 < loan.outstandingBalance

/-- No entry has the number of a leg of a bucket that the repayment gets to. -/
def Db.legsFree (db : Db) (reference : String) (loan : Loan) (amount : Int) : Bool :=
  [Leg.penalty, .interest, .principal].all fun leg =>
    !loan.reaches amount leg || (db.entryByNumber (legNumber reference leg.glSuffix)).isNone

namespace RepayLemmas

variable {q : RepayRequest} {a : RepayAnswer} {p : RepayParams} {r : RepayResult}
  {db db' mid : Db} {loan : Loan} {account : Account}
  {accountId : Nat} {reference by' : String}

/-! ## 2. The legs -/

/-- What a leg posts, when its number may be taken. -/
def legPosts (db : Db) (reference suffix : String) (amount : Nat) : Nat :=
  if (db.entryByNumber (legNumber reference suffix)).isSome then 0 else amount

theorem posts_refl (db : Db) : db.Posts db 0 := ⟨[], (List.append_nil _).symm, rfl⟩

theorem posts_trans {a b c : Db} {n m : Int} (hab : a.Posts b n) (hbc : b.Posts c m) :
    a.Posts c (n + m) := by
  obtain ⟨es, hes, rfl⟩ := hab
  obtain ⟨fs, hfs, rfl⟩ := hbc
  refine ⟨es ++ fs, by rw [hfs, hes, List.append_assoc], ?_⟩
  rw [postedSum, List.map_append, List.sum_append]
  rfl

theorem posts_same (h : db'.journalEntries = db.journalEntries) : db.Posts db' 0 :=
  ⟨[], by rw [h, List.append_nil], rfl⟩

theorem posts_unique {n m : Int} (hn : db.Posts db' n) (hm : db.Posts db' m) : n = m := by
  obtain ⟨es, hes, rfl⟩ := hn
  obtain ⟨fs, hfs, rfl⟩ := hm
  rw [List.append_cancel_left (hes.symm.trans hfs)]

theorem entryByNumber_insert {e : JournalEntry} {entryNumber : String}
    (h : e.entryNumber ≠ entryNumber) :
    (db.insertEntry e).entryByNumber entryNumber = db.entryByNumber entryNumber := by
  rw [Db.entryByNumber, Db.insertEntry, Table.findRow_append_one, beq_false_of_ne h]
  exact Option.or_none

theorem repayLeg_posts {suffix : String} {leg : Leg} {amount txn : Nat} {u : Unit}
    (h : Yields (repayLeg reference leg suffix amount txn by') db u db') :
    db.Posts db' (legPosts db reference suffix amount) ∧ ∀ other ≠ suffix,
      db'.entryByNumber (legNumber reference other) =
        db.entryByNumber (legNumber reference other) := by
  unfold repayLeg at h
  rcases yields_ite.mp h with ⟨hpos, h⟩ | ⟨hzero, h⟩
  · simp only [yields_bind, yields_pure] at h
    obtain ⟨_, db', hleg, _, rfl⟩ := h
    obtain ⟨_, ⟨hsame, e, he⟩ | ⟨hnone, actor, rfl⟩⟩ := postGlOnlyLegEntry_cases hleg
    · rw [hsame]
      refine ⟨?_, fun _ _ => rfl⟩
      have htaken : (db.entryByNumber (legNumber reference suffix)).isSome = true :=
        Option.isSome_iff_exists.mpr ⟨e, he⟩
      rw [legPosts, if_pos htaken]
      exact posts_refl db
    · refine ⟨⟨[_], rfl, ?_⟩, fun other hother => ?_⟩
      · have hfree : ¬ (db.entryByNumber (legNumber reference suffix)).isSome = true :=
          Option.not_isSome_iff_eq_none.mpr hnone
        rw [legPosts, if_neg hfree]
        exact (Int.add_zero _).trans (Int.add_zero _)
      · have hne : legNumber reference suffix ≠ legNumber reference other :=
          fun heq => hother (legNumber_inj heq).symm
        exact entryByNumber_insert hne
  · cases (yields_pure.mp h).2
    have hnone : amount = 0 := Nat.eq_zero_of_not_pos hzero
    refine ⟨?_, fun _ _ => rfl⟩
    rw [legPosts, hnone, ite_self]
    exact posts_refl db

/-- The legs post what the numbers that are taken leave of the allocation. -/
theorem repayLegs_posted {a : Allocation} {txn : Nat} {u : Unit}
    (h : Yields (repayLegs reference a txn by') db u db') :
    db.Posts db' (legPosts db reference "PENALTY" a.penalty +
      legPosts db reference "INTEREST" a.interest +
      legPosts db reference "PRINCIPAL" a.principal) := by
  simp only [repayLegs, yields_bind] at h
  obtain ⟨_, _, hpenalty, _, _, hinterest, hprincipal⟩ := h
  obtain ⟨hposts₁, hsame₁⟩ := repayLeg_posts hpenalty
  obtain ⟨hposts₂, hsame₂⟩ := repayLeg_posts hinterest
  obtain ⟨hposts₃, -⟩ := repayLeg_posts hprincipal
  rw [legPosts, hsame₁ _ (by decide)] at hposts₂
  rw [legPosts, hsame₂ _ (by decide), hsame₁ _ (by decide)] at hposts₃
  exact posts_trans (posts_trans hposts₁ hposts₂) hposts₃

theorem repayAllocation_total (loan : Loan) (n : Nat) : (loan.repayAllocation n).total = n := by
  simp only [Loan.repayAllocation, Allocation.total]
  omega

/-- A leg gets money exactly when the repayment gets to its bucket. -/
theorem reaches_iff (loan : Loan) {amount : Int} (hamount : 0 < amount) :
    let a := loan.repayAllocation (min amount.toNat loan.totalOwed)
    (loan.reaches amount .penalty = true ↔ 0 < a.penalty) ∧
      (loan.reaches amount .interest = true ↔ 0 < a.interest) ∧
      (loan.reaches amount .principal = true ↔ 0 < a.principal) := by
  simp only [Loan.reaches, Loan.repayAllocation, Loan.totalOwed, Bool.and_eq_true,
    decide_eq_true_eq]
  omega

/-- A leg posts its whole amount, or is none, exactly when its number is free for what it gets. -/
theorem legPosts_iff {suffix : String} {amount : Nat} {reached : Bool}
    (h : reached = true ↔ 0 < amount) :
    legPosts db reference suffix amount = amount ↔
      (!reached || (db.entryByNumber (legNumber reference suffix)).isNone) = true := by
  unfold legPosts
  cases db.entryByNumber (legNumber reference suffix) with
  | none => simp
  | some e =>
    have hreached : reached = false ↔ amount = 0 := by
      rw [← Bool.not_eq_true, h]
      omega
    simp only [Option.isSome_some, if_true, Option.isNone_some, Bool.or_false, Bool.not_eq_true',
      hreached]
    exact eq_comm

theorem legPosts_le {suffix : String} {amount : Nat} :
    legPosts db reference suffix amount ≤ amount := by
  unfold legPosts
  split
  · exact Nat.zero_le _
  · exact Nat.le_refl _

/-- The whole allocation is posted exactly when the numbers of its legs are free. -/
theorem legsFree_iff {amount : Int} (hamount : 0 < amount) :
    let a := loan.repayAllocation (min amount.toNat loan.totalOwed)
    legPosts db reference "PENALTY" a.penalty + legPosts db reference "INTEREST" a.interest +
      legPosts db reference "PRINCIPAL" a.principal = a.total ↔
      db.legsFree reference loan amount = true := by
  obtain ⟨hpenalty, hinterest, hprincipal⟩ := reaches_iff loan hamount
  dsimp only at hpenalty hinterest hprincipal ⊢
  generalize loan.repayAllocation (min amount.toNat loan.totalOwed) = a at *
  have hp : legPosts db reference "PENALTY" a.penalty ≤ a.penalty := legPosts_le
  have hi : legPosts db reference "INTEREST" a.interest ≤ a.interest := legPosts_le
  have hr : legPosts db reference "PRINCIPAL" a.principal ≤ a.principal := legPosts_le
  simp only [Db.legsFree, List.all_cons, List.all_nil, Bool.and_true, Bool.and_eq_true,
    Leg.glSuffix]
  rw [← legPosts_iff hpenalty, ← legPosts_iff hinterest, ← legPosts_iff hprincipal,
    Allocation.total]
  omega

/-! ## 3. A new repayment -/

/-- What a repayment under a new reference answers and leaves. -/
structure RepayNew (p : RepayParams) (r : RepayResult) (accountId : Nat) (account : Account)
    (loan : Loan) (db db' : Db) : Prop where
  answer : r = ⟨db.transactions.length, p.reference db.tenantId,
    loan.repayAllocation (p.actualRepayment loan)⟩
  tenantId : db'.tenantId = db.tenantId
  transaction : ∃ t : Transaction, db'.transactions = db.transactions ++ [t] ∧
    t.reference = p.reference db.tenantId ∧ t.loanId = some p.loanId
  balance : ∃ account' : Account, db'.accounts[accountId]? = some account' ∧
    account'.balance = account.balance - p.actualRepayment loan
  loan_eq : db'.loans[p.loanId]? = some (loan.pay (loan.repayAllocation (p.actualRepayment loan))
    (p.newStatus loan))
  posts : ∀ n, db.Posts db' n ↔ n = legPosts db (p.reference db.tenantId) "PENALTY"
      (loan.repayAllocation (p.actualRepayment loan)).penalty +
    legPosts db (p.reference db.tenantId) "INTEREST"
      (loan.repayAllocation (p.actualRepayment loan)).interest +
    legPosts db (p.reference db.tenantId) "PRINCIPAL"
      (loan.repayAllocation (p.actualRepayment loan)).principal

/-- The answer to a new repayment. -/
theorem repay_answer (hactive : db.activeAccount loan.memberId .fosa = some (accountId, account))
    (hloan : db.loans[p.loanId]? = some loan)
    (hfresh : db.transactionByReference (p.reference db.tenantId) = none)
    (h : Yields (repay p) db r db') : r = ⟨db.transactions.length, p.reference db.tenantId,
      loan.repayAllocation (p.actualRepayment loan)⟩ := by
  obtain ⟨accountId', account', loan', hpos, hloan', -, hacc, h⟩ := repay_checked h
  cases hloan.symm.trans hloan'
  cases hactive.symm.trans hacc
  simp only [repayBody, yields_bind, yields_get] at h
  obtain ⟨_, _, ⟨rfl, rfl⟩, h⟩ := h
  simp only [hfresh, yields_bind, yields_required, yields_ensure, yields_createTransaction,
    yields_modify, Option.filter_eq_some_iff, hloan, Option.some.injEq] at h
  obtain ⟨_, _, ⟨_, rfl⟩, _, _, ⟨rfl, rfl⟩, _, _, ⟨_, rfl⟩, _, _, ⟨_, rfl⟩, _, _, ⟨_, rfl, rfl⟩, _, _,
    rfl, _, _, -, _, _, -, _, _, -, _, _, rfl, h⟩ := h
  rcases yields_ite.mp h with ⟨-, h⟩ | ⟨-, h⟩
  · simp only [yields_bind, yields_pure] at h
    obtain ⟨_, _, -, rfl, -⟩ := h
    rfl
  · exact (yields_pure.mp h).1.symm

theorem balance_of_books {db db' : Db} (h : db.SameBooks db')
    (haccount : db.accounts[accountId]? = some account) :
    ∃ account' : Account, db'.accounts[accountId]? = some account' ∧
      account'.balance = account.balance := by
  have hmap := congrArg (·[accountId]?) h.accounts
  simp only [List.getElem?_map, haccount, Option.map_some] at hmap
  obtain ⟨account', haccount', hbooks⟩ := Option.map_eq_some_iff.mp hmap
  have hbalance := congrArg Account.balance hbooks
  exact ⟨account', haccount', hbalance⟩

/-- What follows the write of the loan releases holds at most. -/
theorem rest_moves {R : Db → Db → Prop} [History R] [AdmitsHold R] [AdmitsRelease R]
    (h : (p.newStatus loan = .fullyPaid ∧
        Yields (releaseGuarantorHoldsOnFullRepayment p.now p.loanId) mid () db') ∨
      (p.newStatus loan = .active ∧ db' = mid)) : R mid db' := by
  rcases h with ⟨-, hrelease⟩ | ⟨-, rfl⟩
  · exact releaseOnFullRepayment_moves _ _ hrelease
  · exact History.refl _

theorem repay_new (hfresh : db.transactionByReference (p.reference db.tenantId) = none)
    (h : Yields (repay p) db r db') :
    ∃ accountId account loan, db.loans[p.loanId]? = some loan ∧
      db.activeAccount loan.memberId .fosa = some (accountId, account) ∧ 0 < p.amountKes ∧
      loan.status = .active ∧ RepayNew p r accountId account loan db db' := by
  obtain ⟨accountId, account, loan, mid, hposted, hrest⟩ := repay_fresh hfresh h
  have hanswer := repay_answer hposted.account_eq hposted.loan_eq hfresh h
  have hdebts := repayPosted_debts hposted
  obtain ⟨legged, hlegs, hmid⟩ := hposted.written
  obtain ⟨es, -, hlegged⟩ := repayLegs_added hlegs
  have hbooks : mid.SameBooks db' := rest_moves hrest
  have hunder : mid.SameUnder "" db' := rest_moves hrest
  have hloans : mid.SameDebts db' := rest_moves hrest
  have hrow := (activeAccount_some hposted.account_eq).1
  refine ⟨accountId, account, loan, hposted.loan_eq, hposted.account_eq, hposted.amount_pos,
    hposted.active, hanswer, ?_, ?_, ?_, ?_, fun n => ?_⟩
  · rw [hunder.tenant, hmid, hlegged]
    rfl
  · refine ⟨p.transaction accountId loan.loanNumber (p.reference db.tenantId)
      (p.actualRepayment loan) account.balance, ?_, rfl, rfl⟩
    rw [hbooks.transactions, hmid, hlegged]
    rfl
  · have hdebited : mid.accounts[accountId]? =
        some { account with balance := account.balance - p.actualRepayment loan } := by
      rw [hmid, hlegged]
      exact Table.getElem?_modify_self hrow
    exact balance_of_books hbooks hdebited
  · rw [hloans.loans, hdebts.loans, Db.updateLoan]
    exact Table.getElem?_modify_self hposted.loan_eq
  · have hdebit : db.Posts (p.debited db accountId account loan) 0 := posts_same rfl
    have hwritten : legged.Posts db' 0 := posts_same (by rw [hbooks.journalEntries, hmid]; rfl)
    have hposts := posts_trans (posts_trans hdebit (repayLegs_posted hlegs)) hwritten
    rw [Int.zero_add, Int.add_zero] at hposts
    exact ⟨fun hn => posts_unique hn hposts, fun hn => hn ▸ hposts⟩

theorem conserves_new (hpos : 0 < p.amountKes)
    (h : RepayNew p r accountId account loan db db') :
    Conserves p.loanId accountId loan account db db' ↔
      db.legsFree (p.reference db.tenantId) loan p.amountKes = true := by
  obtain ⟨account', haccount', hbalance⟩ := h.balance
  have hfits := repayAllocation_fits (Nat.min_le_right p.amountKes.toNat loan.totalOwed)
  have htotal := repayAllocation_total loan (p.actualRepayment loan)
  have hfall : account.balance - account'.balance = p.actualRepayment loan := by omega
  have howed : (loan.totalOwed : Int) - (loan.pay (loan.repayAllocation (p.actualRepayment loan))
      (p.newStatus loan)).totalOwed = p.actualRepayment loan := by
    obtain ⟨hpenalty, hinterest, hprincipal⟩ := hfits
    unfold RepayParams.actualRepayment at htotal ⊢
    simp only [Loan.totalOwed, Loan.pay, Allocation.total] at *
    omega
  have hfree : _ ↔ db.legsFree (p.reference db.tenantId) loan p.amountKes = true :=
    legsFree_iff hpos
  rw [← hfree]
  have hposted := h.posts (account.balance - account'.balance)
  have hactual : min p.amountKes.toNat loan.totalOwed = p.actualRepayment loan := rfl
  rw [hactual, htotal]
  constructor
  · rintro ⟨loan', account'', -, haccount'', hposts, -⟩
    cases haccount'.symm.trans haccount''
    have hsum := hposted.mp hposts
    omega
  · intro hsum
    refine ⟨_, account', h.loan_eq, haccount', hposted.mpr ?_, hfall.trans howed.symm⟩
    omega

/-- A call whose reference is taken answers with the transaction that has it. -/
theorem repay_replayed {t : Nat × Transaction}
    (hfound : db.transactionByReference (q.reference db.tenantId) = some t) :
    Yields (repayNumber q) db a db' ↔ 0 < q.amountKes ∧ (∃ loan, db.loans[q.loanId]? = some loan ∧
      loan.status = .active ∧ (db.activeAccount loan.memberId .fosa).isSome = true) ∧
      a = ⟨t.1, q.reference db.tenantId, ⟨0, 0, 0⟩⟩ ∧ db' = db := by
  simp only [repayNumber, repayNumberBody, yields_bind, yields_get, yields_ensure, yields_required,
    Option.filter_eq_some_iff, decide_eq_true_eq]
  constructor
  · rintro ⟨_, _, ⟨hpos, rfl⟩, _, _, ⟨rfl, rfl⟩, loan, _, ⟨⟨hloan, hactive⟩, rfl⟩, fosa, _,
      ⟨hfosa, rfl⟩, _, _, ⟨rfl, rfl⟩, h⟩
    simp only [hfound, yields_bind, yields_required, yields_pure] at h
    obtain ⟨_, _, ⟨-, rfl⟩, rfl, rfl⟩ := h
    exact ⟨hpos, ⟨loan, hloan, hactive, Option.isSome_iff_exists.mpr ⟨fosa, hfosa⟩⟩, rfl, rfl⟩
  · rintro ⟨hpos, ⟨loan, hloan, hactive, hfosa⟩, rfl, rfl⟩
    obtain ⟨fosa, hfosa⟩ := Option.isSome_iff_exists.mp hfosa
    refine ⟨(), _, ⟨hpos, rfl⟩, _, _, ⟨rfl, rfl⟩, loan, _, ⟨⟨hloan, hactive⟩, rfl⟩, fosa, _,
      ⟨hfosa, rfl⟩, _, _, ⟨rfl, rfl⟩, ?_⟩
    simp only [hfound, yields_bind, yields_required, yields_pure]
    exact ⟨loan, _, ⟨hloan, rfl⟩, trivial, rfl⟩

theorem reference_taken (h : RepayNew p r accountId account loan db db') :
    ∃ t, db'.transactionByReference (p.reference db'.tenantId) = some t := by
  obtain ⟨t, ht, href, -⟩ := h.transaction
  rw [h.tenantId, Db.transactionByReference, ht, Table.findRow_append_one, href, beq_self_eq_true,
    if_pos rfl]
  cases Table.findRow (fun x => x.reference == p.reference db.tenantId) db.transactions with
  | none => exact ⟨_, rfl⟩
  | some x => exact ⟨x, rfl⟩

/-- A new repayment is not answered in the same way again: a loan that is paid off is no longer
found, and another one gets nothing the second time. -/
theorem repeats_new (hunits : q.inUnits = true) (hpos : 0 < q.units.amountKes)
    (h : RepayNew q.units r accountId account loan db db') : ¬ Repeats q r.answer db' := by
  intro hrepeats
  obtain ⟨hamount, href⟩ := RepayRequest.inUnits_eq hunits
  have hpos' : 0 < q.amountKes := hamount ▸ ofUnits_pos.mpr hpos
  obtain ⟨t, ht⟩ := reference_taken h
  rw [href] at ht
  obtain ⟨-, ⟨loan', hloan', hactive, -⟩, hanswer, -⟩ :=
    (repay_replayed ht).mp (hrepeats q rfl hpos' rfl)
  cases h.loan_eq.symm.trans hloan'
  have hparts := congrArg RepayAnswer.allocation hanswer
  rw [h.answer] at hparts
  have htotal := repayAllocation_total loan (q.units.actualRepayment loan)
  have hnothing : loan.repayAllocation (q.units.actualRepayment loan) = ⟨0, 0, 0⟩ :=
    parts_zero hparts
  rw [hnothing] at htotal
  have hzero : min q.units.amountKes.toNat loan.totalOwed = 0 := htotal.symm
  have howed : loan.outstandingBalance = 0 := by
    unfold Loan.totalOwed at hzero
    omega
  have hpaid : q.units.newStatus loan = .fullyPaid := by
    rw [RepayParams.newStatus, hnothing, howed]
    rfl
  have hstatus : q.units.newStatus loan = .active := hactive
  rw [hpaid] at hstatus
  cases hstatus

theorem repeats_replayed {t : Nat × Transaction}
    (hfound : db.transactionByReference (q.reference db.tenantId) = some t)
    (h : Yields (repayNumber q) db a db') : Repeats q a db' := by
  obtain ⟨-, ⟨loan, hloan, hactive, hfosa⟩, rfl, rfl⟩ := (repay_replayed hfound).mp h
  intro q' hloanId hpos href
  rw [← href] at hfound ⊢
  exact (repay_replayed hfound).mpr ⟨hpos, ⟨loan, hloanId ▸ hloan, hactive, hfosa⟩, rfl, rfl⟩

end RepayLemmas

open RepayLemmas

/-! ## 4. Repayments -/

/-- A repayment of no more than four decimals moves the same sum everywhere exactly when it is a
replay or the numbers of its legs are free; it answers as it did when it is repeated exactly when it
is a replay itself; and it answers with a transaction of its loan exactly when its reference is on
no transaction of another one. -/
theorem repay_sound_iff {q : RepayRequest} {a : RepayAnswer} {db db' : Db}
    (hunits : q.inUnits = true) (h : Yields (repayNumber q) db a db') :
    ∃ accountId account loan, db.loans[q.loanId]? = some loan ∧
      db.activeAccount loan.memberId .fosa = some (accountId, account) ∧
      (Conserves q.loanId accountId loan account db db' ↔
        ((db.transactionByReference (q.reference db.tenantId)).isSome ||
          db.legsFree (q.reference db.tenantId) loan q.units.amountKes) = true) ∧
      (Repeats q a db' ↔ (db.transactionByReference (q.reference db.tenantId)).isSome = true) ∧
      (BoundTo q.loanId a db' ↔ (db.transactionByReference (q.reference db.tenantId)).all
        (fun t => t.2.loanId == some q.loanId) = true) := by
  cases hfind : db.transactionByReference (q.reference db.tenantId) with
  | none =>
    have href := (RepayRequest.inUnits_eq hunits).2
    obtain ⟨r, hr, rfl⟩ := (yields_repayNumber hunits).mp h
    rw [← href] at hfind ⊢
    obtain ⟨accountId, account, loan, hloan, hfosa, hpos, -, hnew⟩ := repay_new hfind hr
    refine ⟨accountId, account, loan, hloan, hfosa, ?_, ?_, ?_⟩
    · rw [Option.isSome_none, Bool.false_or]
      exact conserves_new hpos hnew
    · exact iff_of_false (repeats_new hunits hpos hnew) Bool.false_ne_true
    · obtain ⟨t, ht, -, hloanId⟩ := hnew.transaction
      refine iff_of_true ⟨t, ?_, hloanId⟩ rfl
      rw [hnew.answer, ht, RepayResult.answer, Table.getElem?_append_one_self]
  | some t =>
    have hrepeats := repeats_replayed hfind h
    obtain ⟨-, ⟨loan, hloan, -, hfosa⟩, rfl, rfl⟩ := (repay_replayed hfind).mp h
    obtain ⟨⟨accountId, account⟩, hfosa⟩ := Option.isSome_iff_exists.mp hfosa
    obtain ⟨hrow, -⟩ := Table.findRow_some hfind
    refine ⟨accountId, account, loan, hloan, hfosa, iff_of_true ?_ rfl, iff_of_true hrepeats rfl,
      ?_⟩
    · refine ⟨loan, account, hloan, (activeAccount_some hfosa).1, ?_, by omega⟩
      rw [Int.sub_self]
      exact posts_refl _
    · rw [Option.all_some, beq_iff_eq]
      refine ⟨fun hbound => ?_, fun hloanId => ⟨t.2, hrow, hloanId⟩⟩
      obtain ⟨t', ht', hloanId⟩ := hbound
      cases hrow.symm.trans ht'
      exact hloanId

/-- The member of the example tenant owes KES 100 on one loan and KES 20 on another, and has KES 150. -/
def exTwoLoans : Db :=
  step { exSacco with
    loans := [exLoan, { exLoan with loanNumber := "LN-2", outstandingBalance := 200000 }] }
    (exDeposit "D1" 0 150)

/-- A repayment under the key `K`. -/
def exKeyedRepay (loanId : Nat) (amountKes : ℚ) (amountText : String) : RepayRequest where
  loanId := loanId
  amountKes := amountKes
  amountText := amountText
  processedBy := "A"
  idempotencyKey := some "K"
  minute := "m"
  now := 0

theorem repay_sound_fresh :
    ∃ db', Yields (repayNumber (exKeyedRepay 0 30 "30")) exTwoLoans ⟨1, "REPAY-t-K", ⟨0, 0, 30⟩⟩ db' ∧
      ∃ accountId account loan, Conserves 0 accountId loan account exTwoLoans db' ∧
        BoundTo 0 ⟨1, "REPAY-t-K", ⟨0, 0, 30⟩⟩ db' := by
  have h : Yields (repayNumber (exKeyedRepay 0 30 "30")) exTwoLoans ⟨1, "REPAY-t-K", ⟨0, 0, 30⟩⟩
      (commit (repayNumber (exKeyedRepay 0 30 "30")) exTwoLoans) := by
    decide +kernel
  obtain ⟨accountId, account, loan, hloan, -, hconserves, -, hbound⟩ :=
    repay_sound_iff (by decide +kernel) h
  have hfound : exTwoLoans.loans[0]? = some exLoan := by decide +kernel
  cases hfound.symm.trans hloan
  exact ⟨_, h, accountId, account, _, hconserves.mpr (by decide +kernel),
    hbound.mpr (by decide +kernel)⟩

/-- KES 30 under a key: the repetition answers that nothing was paid. Under the same key, the other
loan gets a success and nothing. A repayment that pays the loan off fails when it is repeated. An
entry under the number of a leg keeps KES 30 out of the books. Of KES 30.00005 the account pays
30.0000 and the leg posts 30.0001. -/
theorem repay_unsound :
    let paid := commit (repayNumber (exKeyedRepay 0 30 "30")) exTwoLoans
    let closed := commit (repayNumber (exKeyedRepay 0 100 "100")) exTwoLoans
    let taken := step exTwoLoans (exDeposit "REPAY-t-K-PRINCIPAL" 2 1)
    let half := commit (repayNumber (exKeyedRepay 0 (3000005 / 100000) "30.00005")) exTwoLoans
    let sums (db : Db) := (db.accounts[0]?.map (·.balance), db.loans.map (·.totalOwed),
      postedSum db.journalEntries)
    Yields (repayNumber (exKeyedRepay 0 30 "30")) exTwoLoans ⟨1, "REPAY-t-K", ⟨0, 0, 30⟩⟩ paid ∧
      Yields (repayNumber (exKeyedRepay 0 30 "30")) paid ⟨1, "REPAY-t-K", ⟨0, 0, 0⟩⟩ paid ∧
      Yields (repayNumber (exKeyedRepay 1 20 "20")) paid ⟨1, "REPAY-t-K", ⟨0, 0, 0⟩⟩ paid ∧
      paid.transactions[1]?.map (·.loanId) = some (some 0) ∧
      Yields (repayNumber (exKeyedRepay 0 100 "100")) exTwoLoans ⟨1, "REPAY-t-K", ⟨0, 0, 100⟩⟩
        closed ∧
      (repayNumber (exKeyedRepay 0 100 "100")).run closed =
        .error (.notFound "Active loan not found") ∧
      sums taken = (some 1500000, [1000000, 200000], 1510000) ∧
      sums (commit (repayNumber (exKeyedRepay 0 30 "30")) taken) =
        (some 1200000, [700000, 200000], 1510000) ∧
      sums exTwoLoans = (some 1500000, [1000000, 200000], 1500000) ∧
      sums half = (some 1200000, [700000, 200000], 1800001) := by
  decide +kernel

end BebaSacco
