import BebaSacco.System
import BebaSacco.Channels

/-! # What each operation touches

A relation between two states of the database can admit the writes to one table
and refuse those to another. Each function of the services moves along every
relation that admits the tables it writes; the binders of its lemma are its
footprint. A relation then gets all the functions it admits at once, from an
instance for each table.

Results:
 1. the `_moves` lemmas, one for each function.
 2. `exec_moves`: an operation moves along a relation that admits every write.
-/

namespace BebaSacco

open Txn

/-! ## 1. Relations that admit a kind of write -/

class AdmitsBalance (R : Db → Db → Prop) : Prop where
  move : ∀ db id delta, R db (db.updateAccount id (·.move delta))
  set : ∀ db id balance, R db (db.updateAccount id fun a => { a with balance := balance })

class AdmitsHold (R : Db → Db → Prop) : Prop where
  hold : ∀ db id delta, R db (db.updateAccount id (·.hold delta))

class AdmitsForfeit (R : Db → Db → Prop) : Prop where
  forfeit : ∀ db id amount, R db (db.updateAccount id (·.forfeit amount))

/-- The transactions, and the ids drawn for them. -/
class AdmitsTransaction (R : Db → Db → Prop) : Prop where
  insert : ∀ db t, R db (db.insertTransaction t)
  link : ∀ db id j,
    R db (db.updateTransaction id fun t => { t with linkedTransactionId := some j })
  markReversed : ∀ db id, R db (db.updateTransaction id fun t => { t with status := .reversed })
  uuid : ∀ db n, R db { db with uuid := n }

class AdmitsEntry (R : Db → Db → Prop) : Prop where
  insert : ∀ db e, R db (db.insertEntry e)

/-- A loan without what is owed and where it stands in its life cycle. -/
def Loan.terms (loan : Loan) : Loan :=
  { loan with
    status := .draft
    outstandingBalance := 0
    accruedInterest := 0
    arrearsAmount := 0
    totalRepaid := 0
    arrearsDays := 0
    staging := .performing
    disbursedAt := none
    dueDate := none
    lastAccrualDate := none
    repaymentScheduleGenerated := false }

@[simp] theorem Loan.pay_terms (loan : Loan) (a : Allocation) (status : LoanStatus) :
    (loan.pay a status).terms = loan.terms := rfl

/-- The columns of a guarantee that identify it. -/
def LoanGuarantor.key (guarantor : LoanGuarantor) : Nat × Nat :=
  (guarantor.loanId, guarantor.memberId)

theorem LoanGuarantor.expire_key (guarantor : LoanGuarantor) (now : Int) (held : Bool) :
    (guarantor.expire now held).key = guarantor.key := by
  unfold LoanGuarantor.expire
  split
  · rfl
  · rfl

/-- No service writes the terms of a loan that is there. -/
class AdmitsLoan (R : Db → Db → Prop) : Prop where
  update : ∀ db id f, (∀ l : Loan, (f l).terms = l.terms) → R db (db.updateLoan id f)

class AdmitsRepayment (R : Db → Db → Prop) : Prop where
  update : ∀ db id f, R db (db.updateRepayment id f)
  append : ∀ db rows, R db { db with loanRepayments := db.loanRepayments ++ rows }

/-- Nor the key of a guarantee that is there. -/
class AdmitsGuarantor (R : Db → Db → Prop) : Prop where
  update : ∀ db id f, (∀ g : LoanGuarantor, (f g).key = g.key) → R db (db.updateGuarantor id f)

/-- A guarantee without what was recovered from it and when its hold was released. -/
def LoanGuarantor.invitation (guarantor : LoanGuarantor) : LoanGuarantor :=
  { guarantor with recoveredAmount := 0, holdReleasedAt := none }

/-- What the release of a hold and a recovery write of a guarantee. -/
class AdmitsRelease (R : Db → Db → Prop) : Prop where
  update : ∀ db id f, (∀ g : LoanGuarantor, (f g).invitation = g.invitation) →
    R db (db.updateGuarantor id f)

instance (priority := low) {R : Db → Db → Prop} [AdmitsGuarantor R] : AdmitsRelease R where
  update db id f hf := by
    refine AdmitsGuarantor.update db id f fun g => ?_
    have hkey : (f g).invitation.key = g.invitation.key := by rw [hf g]
    exact hkey

/-- The two services that insert guarantees. -/
class AdmitsNomination (R : Db → Db → Prop) : Prop where
  invite : ∀ now loanId item, Moves R (upsertGuarantor now loanId item)
  apply : ∀ now loan requiresGuarantors guarantors,
    Moves R (createApplication now loan requiresGuarantors guarantors)

class AdmitsMpesa (R : Db → Db → Prop) : Prop where
  update : ∀ db id f, R db (db.updateMpesa id f)

class AdmitsChain (R : Db → Db → Prop) : Prop where
  update : ∀ db rows, R db { db with loanApprovalChains := rows }

/-- The operations that invite guarantors and those that settle an invitation. -/
def Op.consents : Op → Bool
  | .createApplication .. => true
  | .inviteGuarantor .. => true
  | .respond .. => true
  | .expireGuarantor .. => true
  | .expirySweep .. => true
  | _ => false

/-- The type of the statement row that charges a leg. -/
def Leg.chargeType : Leg → TransactionType
  | .interest => .interestAccrual
  | _ => .penalty

/-- The operations that write rows of a statement or post to the journal. -/
def Op.posts : Op → Bool
  | .postEntry _ | .transfer _ | .reverse .. | .leg _ | .repay _ | .processRepayment .. | .accrue ..
  | .disburse .. | .recover .. | .offset .. => true
  | _ => false

/-- The operation that writes the approval chain. -/
def Op.signs : Op → Bool
  | .signOff .. => true
  | _ => false

/-- The amount a guarantor forfeits from an account: what is left of the guarantee, as far as
the account holds it frozen. -/
def LoanGuarantor.forfeitable (guarantor : LoanGuarantor) (account : Account) : Int :=
  min (min (guarantor.remainingGuarantee : Int) account.balance) account.frozenSavings

/-- Savings are taken from a guarantor, and their row and its leg are written. -/
def Db.Takes (db : Db) (guarantorId accountId loanId : Nat) (a : Account) (amount : Int)
    (releasedAt : Option Int) (type : TransactionType) (reference : String) (db' : Db) : Prop :=
  ∃ description by' ty actorId txn mid r,
    Yields (createTransaction (forfeitureTransaction accountId loanId type amount a.balance reference
      description by'))
      ((db.updateAccount accountId (·.forfeit amount)).updateGuarantor guarantorId
        (·.recover amount releasedAt)) txn mid ∧
    Yields (postGuarantorForfeitureEntry reference amount ty txn actorId (some description)) mid r db'

namespace FootprintLemmas

variable {R : Db → Db → Prop} [History R]

/-! ## 2. The ledger service -/

omit [History R] in
theorem createTransaction_moves [AdmitsTransaction R] (t : Transaction) :
    Moves R (createTransaction t) := by
  intro db id db' h
  obtain ⟨_, _, rfl⟩ := yields_createTransaction.mp h
  exact AdmitsTransaction.insert db t

omit [History R] in
theorem uuidv4_moves [AdmitsTransaction R] : Moves R uuidv4 := by
  intro db s db' h
  obtain ⟨_, rfl⟩ := yields_uuidv4.mp h
  exact AdmitsTransaction.uuid db _

theorem postEntry_moves [AdmitsBalance R] [AdmitsTransaction R] [AdmitsEntry R]
    (p : PostEntryParams) : Moves R (postEntry p) := by
  intro db r db' h
  rcases postEntry_cases h with ⟨rfl, _, _⟩ | ⟨⟨_, _, hw⟩, _, _⟩
  · exact History.refl db'
  · obtain ⟨_, _, _, _, _, _, _, _, _, _, _, rfl⟩ := hw
    exact History.trans (History.trans (AdmitsBalance.move _ _ _) (AdmitsTransaction.insert _ _))
      (AdmitsEntry.insert _ _)

theorem postInternalTransfer_moves [AdmitsBalance R] [AdmitsTransaction R] [AdmitsEntry R]
    (p : TransferParams) :
    Moves R (postInternalTransfer p) := by
  intro db r db' h
  rcases postInternalTransfer_cases h with ⟨rfl, _⟩ | ⟨⟨_, _, hw⟩, _⟩
  · exact History.refl db'
  · obtain ⟨_, _, _, _, _, _, _, _, _, _, _, rfl⟩ := hw
    exact History.trans (History.trans (History.trans (History.trans (History.trans
      (AdmitsBalance.move _ _ _) (AdmitsBalance.move _ _ _))
      (AdmitsTransaction.insert _ _)) (AdmitsTransaction.insert _ _)) (AdmitsTransaction.link _ _ _))
      (AdmitsEntry.insert _ _)

theorem reverseTransaction_moves [AdmitsBalance R] [AdmitsTransaction R] [AdmitsEntry R]
    (id : Nat) (reason : String) (actorId : Option String) :
    Moves R (reverseTransaction id reason actorId) := by
  intro db r db' h
  obtain ⟨_, _, _, _, _, _, _, _, _, _, _, _, _, _, _, rfl⟩ := (reverseTransaction_cases h).written
  exact History.trans (History.trans (History.trans (AdmitsBalance.move _ _ _)
    (AdmitsTransaction.insert _ _)) (AdmitsEntry.insert _ _)) (AdmitsTransaction.markReversed _ _)

theorem postGlOnlyLegEntry_moves [AdmitsEntry R] (p : LegParams) :
    Moves R (postGlOnlyLegEntry p) := by
  intro db r db' h
  obtain ⟨_, ⟨rfl, _⟩ | ⟨_, _, rfl⟩⟩ := postGlOnlyLegEntry_cases h
  · exact History.refl db'
  · exact AdmitsEntry.insert _ _

/-! ## 3. Repayments and accrual -/

omit [History R] in
theorem modify_updateLoan_moves [AdmitsLoan R] {id : Nat} {f : Loan → Loan}
    (hf : ∀ l : Loan, (f l).terms = l.terms) : Moves R (modify (·.updateLoan id f) : Tx Unit) :=
  Moves.modify' fun _ => AdmitsLoan.update _ _ _ hf

theorem terms_ite {p : Loan → Prop} [DecidablePred p] (status : LoanStatus) (l : Loan) :
    (if p l then { l with status := status } else l).terms = l.terms := by
  split
  · rfl
  · rfl

omit [History R] in
theorem modify_updateGuarantor_moves [AdmitsGuarantor R] {id : Nat}
    {f : LoanGuarantor → LoanGuarantor} (hf : ∀ g : LoanGuarantor, (f g).key = g.key) :
    Moves R (modify (·.updateGuarantor id f) : Tx Unit) :=
  Moves.modify' fun _ => AdmitsGuarantor.update _ _ _ hf

omit [History R] in
theorem modify_release_moves [AdmitsRelease R] {id : Nat} {f : LoanGuarantor → LoanGuarantor}
    (hf : ∀ g : LoanGuarantor, (f g).invitation = g.invitation) :
    Moves R (modify (·.updateGuarantor id f) : Tx Unit) :=
  Moves.modify' fun _ => AdmitsRelease.update _ _ _ hf

omit [History R] in
theorem modify_hold_moves [AdmitsHold R] (id : Nat) (delta : Int) :
    Moves R (modify (·.updateAccount id (·.hold delta)) : Tx Unit) :=
  Moves.modify' fun _ => AdmitsHold.hold _ _ _

omit [History R] in
theorem modify_forfeit_moves [AdmitsForfeit R] (id : Nat) (amount : Int) :
    Moves R (modify (·.updateAccount id (·.forfeit amount)) : Tx Unit) :=
  Moves.modify' fun _ => AdmitsForfeit.forfeit _ _ _

theorem releaseFullyRepaid_moves [AdmitsHold R] [AdmitsRelease R] (now : Int)
    (accountOf : Nat → Option (Nat × Account))
    (row : Nat × LoanGuarantor) : Moves R (releaseFullyRepaid now accountOf row) := by
  unfold releaseFullyRepaid
  split
  · exact Moves.pure' ()
  · refine Moves.ite' (Moves.pure' ()) (Moves.bind' ?_ fun _ => ?_)
    · exact modify_hold_moves _ _
    · exact modify_release_moves fun _ => rfl

/-- One turn of the release loop is idle, or releases its row. -/
theorem releaseFullyRepaid_cases {now : Int} {accountOf : Nat → Option (Nat × Account)}
    {row : Nat × LoanGuarantor} {u : Unit} {db db' : Db}
    (h : Yields (releaseFullyRepaid now accountOf row) db u db') :
    (db' = db ∧ ∀ r, accountOf row.2.memberId = some r →
      min r.2.frozenSavings row.2.guaranteedAmount ≤ 0) ∨
    ∃ id a, accountOf row.2.memberId = some (id, a) ∧
      0 < min a.frozenSavings (row.2.guaranteedAmount : Int) ∧
      db' = (db.updateAccount id (·.hold (-(min a.frozenSavings row.2.guaranteedAmount)))).updateGuarantor
        row.1 (·.released now) := by
  unfold releaseFullyRepaid at h
  cases hacc : accountOf row.2.memberId with
  | none =>
    simp only [hacc, yields_pure] at h
    refine .inl ⟨h.2.symm, fun r hr => ?_⟩
    cases hr
  | some r =>
    simp only [hacc, yields_ite, yields_bind, yields_pure, yields_modify] at h
    rcases h with ⟨hzero, _, rfl⟩ | ⟨hpos, _, _, rfl, rfl⟩
    · refine .inl ⟨rfl, fun r' hr' => ?_⟩
      cases hr'
      exact hzero
    · exact .inr ⟨r.1, r.2, rfl, Int.not_le.mp hpos, rfl⟩

theorem releaseOnFullRepayment_moves [AdmitsHold R] [AdmitsRelease R] (now : Int) (loanId : Nat) :
    Moves R (releaseGuarantorHoldsOnFullRepayment now loanId) := by
  refine Moves.bind' Moves.get' fun db => ?_
  split
  · exact Moves.pure' ()
  · exact Moves.forM' (fun _ => releaseFullyRepaid_moves now _ _) _

theorem repayLeg_moves [AdmitsEntry R] (reference : String) (leg : Leg) (suffix : String)
    (amount txn : Nat)
    (by' : String) : Moves R (repayLeg reference leg suffix amount txn by') :=
  Moves.ite' (Moves.bind' (postGlOnlyLegEntry_moves _) fun _ => Moves.pure' ()) (Moves.pure' ())

theorem repay_moves [AdmitsBalance R] [AdmitsTransaction R] [AdmitsEntry R] [AdmitsLoan R]
    [AdmitsHold R] [AdmitsRelease R] (p : RepayParams) : Moves R (repay p) := by
  refine Moves.bind' Moves.ensure' fun _ => Moves.bind' Moves.get' fun db =>
    Moves.bind' Moves.required' fun loan => Moves.bind' Moves.required' fun fosa => ?_
  refine Moves.bind' Moves.get' fun db => ?_
  split
  · exact Moves.bind' Moves.required' fun _ => Moves.pure' _
  · refine Moves.bind' Moves.required' fun acc => Moves.bind' Moves.required' fun loan =>
      Moves.bind' Moves.ensure' fun _ => Moves.bind' Moves.ensure' fun _ =>
      Moves.bind' (createTransaction_moves _) fun txn =>
      Moves.bind' (Moves.modify' fun _ => AdmitsBalance.set _ _ _) fun _ =>
      Moves.bind' (repayLeg_moves _ _ _ _ _ _) fun _ =>
      Moves.bind' (repayLeg_moves _ _ _ _ _ _) fun _ =>
      Moves.bind' (repayLeg_moves _ _ _ _ _ _) fun _ =>
      Moves.bind' (modify_updateLoan_moves fun _ => rfl) fun _ => ?_
    exact Moves.ite' (Moves.bind' (releaseOnFullRepayment_moves _ _) fun _ => Moves.pure' _)
      (Moves.pure' _)

theorem repayLegs_moves [AdmitsEntry R] (reference : String) (a : Allocation) (txn : Nat)
    (by' : String) : Moves R (repayLegs reference a txn by') :=
  Moves.bind' (repayLeg_moves _ _ _ _ _ _) fun _ =>
    Moves.bind' (repayLeg_moves _ _ _ _ _ _) fun _ => repayLeg_moves _ _ _ _ _ _

theorem repayPosted_moves [AdmitsBalance R] [AdmitsTransaction R] [AdmitsEntry R] [AdmitsLoan R]
    {p : RepayParams} {db mid : Db} {accountId : Nat} {account : Account} {loan : Loan}
    (h : RepayPosted p db accountId account loan mid) : R db mid := by
  obtain ⟨legged, hlegs, rfl⟩ := h.written
  have hdebit : R db (p.debited db accountId account loan) :=
    History.trans (AdmitsTransaction.insert _ _) (AdmitsBalance.set _ _ _)
  exact History.trans (History.trans hdebit (repayLegs_moves _ _ _ _ hlegs))
    (AdmitsLoan.update _ _ _ fun _ => rfl)

theorem allocateInstallments_moves [AdmitsRepayment R] (paidAt : Int)
    (rows : List (Nat × LoanRepayment))
    (left : Allocation) : Moves R (allocateInstallments paidAt rows left) := by
  induction rows generalizing left with
  | nil => exact Moves.pure' ()
  | cons row rows ih =>
    refine Moves.ite' (Moves.pure' ()) (Moves.ite' (ih left) (Moves.bind' ?_ fun _ => ih _))
    exact Moves.modify' fun _ => AdmitsRepayment.update _ _ _

theorem allocateLeg_moves [AdmitsTransaction R] [AdmitsEntry R] (input : ProcessRepaymentInput)
    (accountId loanId : Nat)
    (balance : Int) (leg : Leg) (amount : Nat) :
    Moves R (allocateLeg input accountId loanId balance leg amount) := by
  refine Moves.ite' (Moves.bind' ?_ fun _ =>
    Moves.bind' (postGlOnlyLegEntry_moves _) fun _ => Moves.pure' _) (Moves.pure' _)
  exact Moves.bind' uuidv4_moves fun _ => createTransaction_moves _

theorem creditOverpayment_moves [AdmitsBalance R] [AdmitsTransaction R] [AdmitsEntry R]
    (input : ProcessRepaymentInput) (accountId loanId n : Nat) :
    Moves R (creditOverpayment input accountId loanId n) :=
  Moves.ite' (Moves.bind' (postEntry_moves _) fun _ => Moves.pure' _) (Moves.pure' _)

theorem applyInstallmentAllocation_moves [AdmitsRepayment R] (paidAt : Int) (loanId : Nat)
    (a : Allocation) : Moves R (applyInstallmentAllocation paidAt loanId a) :=
  Moves.bind' Moves.get' fun _ => allocateInstallments_moves _ _ _

theorem settleMpesa_moves [AdmitsMpesa R] (input : ProcessRepaymentInput) (loanId : Nat)
    (ledgerIds : List Nat) : Moves R (settleMpesa input loanId ledgerIds) := by
  unfold settleMpesa
  split
  · exact Moves.pure' ()
  · exact Moves.bind' Moves.get' fun _ => Moves.bind' Moves.required' fun _ =>
      Moves.bind' Moves.ensure' fun _ => Moves.modify' fun _ => AdmitsMpesa.update _ _ _

theorem applyRepayment_of {now : Int} {input : ProcessRepaymentInput} {amount loanId : Nat}
    {loan : Loan} (hrows : ∀ a, Moves R (applyInstallmentAllocation now loanId a))
    (hleg : ∀ accountId balance leg n, Moves R (allocateLeg input accountId loanId balance leg n))
    (hover : ∀ accountId n, Moves R (creditOverpayment input accountId loanId n))
    (hloan : ∀ f, (∀ l : Loan, (f l).terms = l.terms) →
      Moves R (modify (·.updateLoan loanId f) : Tx Unit))
    (hmpesa : ∀ ids, Moves R (settleMpesa input loanId ids)) :
    Moves R (applyRepayment now input amount loanId loan) :=
  Moves.bind' (Moves.bind' Moves.get' fun _ => Moves.required') fun _ =>
    Moves.bind' (hrows _) fun _ => Moves.bind' (hleg _ _ _ _) fun _ =>
    Moves.bind' (hleg _ _ _ _) fun _ => Moves.bind' (hleg _ _ _ _) fun _ =>
    Moves.bind' (hover _ _) fun _ => Moves.bind' (hloan _ fun _ => rfl) fun _ =>
    Moves.bind' (hmpesa _) fun _ => Moves.pure' _

theorem applyRepayment_moves [AdmitsBalance R] [AdmitsTransaction R] [AdmitsEntry R]
    [AdmitsLoan R] [AdmitsRepayment R] [AdmitsMpesa R] (now : Int) (input : ProcessRepaymentInput)
    (amount loanId : Nat)
    (loan : Loan) : Moves R (applyRepayment now input amount loanId loan) :=
  applyRepayment_of (fun _ => applyInstallmentAllocation_moves _ _ _)
    (fun _ _ _ _ => allocateLeg_moves _ _ _ _ _ _) (fun _ _ => creditOverpayment_moves _ _ _ _)
    (fun _ hf => modify_updateLoan_moves hf) fun _ => settleMpesa_moves _ _ _

theorem processRepayment_moves [AdmitsBalance R] [AdmitsTransaction R] [AdmitsEntry R]
    [AdmitsLoan R] [AdmitsRepayment R] [AdmitsMpesa R] (now : Int) (input : ProcessRepaymentInput) :
    Moves R (processRepayment now input) := by
  refine Moves.bind' Moves.required' fun amount => Moves.bind' Moves.get' fun db => ?_
  split
  · exact Moves.bind' Moves.required' fun _ => Moves.pure' _
  · refine Moves.bind' (Moves.bind' Moves.get' fun _ => Moves.bind' Moves.required' fun _ =>
      Moves.bind' Moves.ensure' fun _ => Moves.pure' _) fun target => ?_
    exact applyRepayment_moves _ _ _ _ _

theorem debitAccountWithCas_moves [AdmitsBalance R] (accountId amount : Nat) :
    Moves R (debitAccountWithCas accountId amount) :=
  Moves.bind' Moves.get' fun _ => Moves.bind' Moves.required' fun _ =>
    Moves.bind' (Moves.modify' fun _ => AdmitsBalance.move _ _ _) fun _ => Moves.pure' _

/-- A charge finds nothing to charge or its reference in the books, or takes the amount out of the
balance and writes the row and its leg. -/
theorem chargeAccount_cases {accountId loanId amount : Nat} {leg : Leg}
    {reference description : String} {u : Unit} {db db' : Db}
    (h : Yields (chargeAccount accountId loanId leg amount reference description) db u db') :
    (db' = db ∧ (amount = 0 ∨ (db.transactionByReference reference).isSome = true)) ∨
    (db.transactionByReference reference = none ∧ 0 < amount ∧ ∃ a p id r mid,
      db.accounts[accountId]? = some a ∧
      Yields (createTransaction (chargeTransaction accountId loanId leg.chargeType amount a.balance
          (a.balance - amount) reference description))
        (db.updateAccount accountId (·.move (-amount))) id mid ∧
      Yields (postGlOnlyLegEntry p) mid r db') := by
  unfold chargeAccount at h
  rcases yields_ite.mp h with ⟨hpos, h⟩ | ⟨hzero, h⟩
  · simp only [yields_bind, yields_get] at h
    obtain ⟨_, _, ⟨rfl, rfl⟩, h⟩ := h
    cases hfind : db.transactionByReference reference with
    | some t =>
      simp only [hfind, yields_pure] at h
      exact .inl ⟨h.2.symm, .inr rfl⟩
    | none =>
      simp only [hfind, debitAccountWithCas, yields_bind, yields_get, yields_required,
        yields_modify, yields_pure] at h
      obtain ⟨_, _, ⟨_, _, ⟨rfl, rfl⟩, a, _, ⟨ha, rfl⟩, _, _, rfl, rfl, rfl⟩, _, _, ht, h⟩ := h
      refine .inr ⟨rfl, hpos, ?_⟩
      cases leg with
      | interest =>
        simp only [yields_bind, yields_pure] at h
        obtain ⟨_, _, hleg, _, rfl⟩ := h
        exact ⟨a, _, _, _, _, ha, ht, hleg⟩
      | penalty =>
        simp only [yields_bind, yields_pure] at h
        obtain ⟨_, _, hleg, _, rfl⟩ := h
        exact ⟨a, _, _, _, _, ha, ht, hleg⟩
      | principal =>
        simp only [yields_bind, yields_pure] at h
        obtain ⟨_, _, hleg, _, rfl⟩ := h
        exact ⟨a, _, _, _, _, ha, ht, hleg⟩
  · exact .inl ⟨(yields_pure.mp h).2.symm, .inl (Nat.eq_zero_of_not_pos hzero)⟩

theorem chargeAccount_moves [AdmitsBalance R] [AdmitsTransaction R] [AdmitsEntry R]
    (accountId loanId : Nat) (leg : Leg) (amount : Nat)
    (reference description : String) :
    Moves R (chargeAccount accountId loanId leg amount reference description) := by
  intro db u db' h
  rcases chargeAccount_cases h with ⟨rfl, -⟩ | ⟨-, -, a, p, id, r, mid, -, ht, hleg⟩
  · exact History.refl _
  · exact History.trans (History.trans (AdmitsBalance.move _ _ _) (createTransaction_moves _ ht))
      (postGlOnlyLegEntry_moves _ hleg)

theorem penalizeInstallment_moves [AdmitsTransaction R] [AdmitsEntry R] [AdmitsRepayment R]
    (loanId fosaAccountId : Nat) (accrualDate : Int)
    (row : Nat × LoanRepayment) :
    Moves R (penalizeInstallment loanId fosaAccountId accrualDate row) := by
  refine Moves.ite' (Moves.bind' (Moves.modify' fun _ => AdmitsRepayment.update _ _ _) fun _ =>
    Moves.bind' Moves.get' fun db => ?_) (Moves.pure' ())
  dsimp only
  split
  · exact Moves.pure' ()
  · exact Moves.bind' (createTransaction_moves _) fun _ =>
      Moves.bind' (postGlOnlyLegEntry_moves _) fun _ => Moves.pure' ()

theorem accrue_of {seen : Db} {loanId : Nat} {accrualDate : Int}
    (hcharge : ∀ accountId leg amount reference description,
      Moves R (chargeAccount accountId loanId leg amount reference description))
    (hpenalize : ∀ accountId row, Moves R (penalizeInstallment loanId accountId accrualDate row))
    (hloan : ∀ f, (∀ l : Loan, (f l).terms = l.terms) →
      Moves R (modify (·.updateLoan loanId f) : Tx Unit)) :
    Moves R (accrueInterestForLoan seen loanId accrualDate) := by
  unfold accrueInterestForLoan
  split
  · exact Moves.pure' ()
  · refine Moves.ite' (Moves.pure' ()) ?_
    split
    · exact Moves.pure' ()
    · refine Moves.bind' Moves.get' fun _ => Moves.bind' (hcharge _ _ _ _ _) fun _ =>
        Moves.bind' (hcharge _ _ _ _ _) fun _ => Moves.bind' ?_ fun _ => hloan _ fun _ => rfl
      exact Moves.bind' Moves.get' fun _ => Moves.bind' (Moves.forM' (hpenalize _) _) fun _ =>
        Moves.bind' Moves.get' fun _ => Moves.pure' _

theorem accrueInterestForLoan_moves [AdmitsBalance R] [AdmitsTransaction R] [AdmitsEntry R]
    [AdmitsLoan R] [AdmitsRepayment R] (seen : Db) (loanId : Nat) (accrualDate : Int) :
    Moves R (accrueInterestForLoan seen loanId accrualDate) :=
  accrue_of (fun _ _ _ _ _ => chargeAccount_moves _ _ _ _ _ _)
    (fun _ _ => penalizeInstallment_moves _ _ _ _) fun _ hf => modify_updateLoan_moves hf

/-! ## 4. Guarantees -/

theorem placeGuarantorHolds_moves [AdmitsHold R] (memberId amount : Nat) (ty : AccountType) :
    Moves R (placeGuarantorHolds memberId amount ty) :=
  Moves.bind' Moves.fromExcept' fun _ => Moves.bind' Moves.get' fun _ =>
    Moves.bind' Moves.required' fun _ => Moves.bind' Moves.ensure' fun _ =>
    Moves.bind' Moves.ensure' fun _ => modify_hold_moves _ _

theorem releaseGuarantorHolds_moves [AdmitsHold R] (memberId amount : Nat) (ty : AccountType) :
    Moves R (releaseGuarantorHolds memberId amount ty) := by
  refine Moves.bind' Moves.fromExcept' fun _ => Moves.bind' Moves.get' fun db => ?_
  split
  · exact Moves.pure' ()
  · exact Moves.ite' (Moves.pure' ()) (modify_hold_moves _ _)

/-- A relation that admits any guarantee and any loan at the end of their tables admits
nominations. -/
theorem admitsNomination [AdmitsGuarantor R]
    (hg : ∀ db rows, R db { db with loanGuarantors := db.loanGuarantors ++ rows })
    (hl : ∀ db l, R db { db with loans := db.loans ++ [l] }) : AdmitsNomination R := by
  refine ⟨fun now loanId item => ?_, fun now loan requiresGuarantors guarantors => ?_⟩
  · refine Moves.bind' Moves.get' fun db => ?_
    split
    · exact modify_updateGuarantor_moves fun _ => rfl
    · exact Moves.bind' Moves.ensure' fun _ => Moves.modify' fun _ => hg _ _
  · refine Moves.bind' Moves.fromExcept' fun _ => Moves.bind' Moves.get' fun _ =>
      Moves.bind' (Moves.modify' fun db => ?_) fun _ => Moves.pure' _
    exact History.trans (hl db (loan.application now requiresGuarantors))
      (hg { db with loans := db.loans ++ [loan.application now requiresGuarantors] } _)

theorem inviteGuarantor_moves [AdmitsNomination R] (seen : Db) (now : Int) (loanId nominated : Nat)
    (item : Nomination) : Moves R (inviteGuarantor seen now loanId nominated item) := by
  refine Moves.bind' Moves.fromExcept' fun loan => ?_
  split
  · exact Moves.pure' ()
  · exact AdmitsNomination.invite _ _ _

theorem finishInvite_moves [AdmitsLoan R] (seen : Db) (loanId nominated : Nat) :
    Moves R (finishInvite seen loanId nominated) :=
  Moves.bind' Moves.fromExcept' fun _ => Moves.bind' Moves.get' fun _ =>
    Moves.bind' Moves.required' fun _ => modify_updateLoan_moves fun _ => rfl

theorem releaseAcceptedHold_moves [AdmitsHold R] [AdmitsRelease R] (now : Int)
    (ty : AccountType) (row : Nat × LoanGuarantor) :
    Moves R (releaseAcceptedHold now ty row) :=
  Moves.ite' (Moves.pure' ()) (Moves.bind' (releaseGuarantorHolds_moves _ _ _) fun _ =>
    modify_release_moves fun _ => rfl)

theorem applyLoanState_moves [AdmitsLoan R] [AdmitsHold R] [AdmitsRelease R] (now : Int)
    (loanId : Nat) (loan : Loan) (product : LoanProduct)
    (latest : GuarantorStatus) :
    Moves R (applyLoanState now loanId loan product latest) := by
  refine Moves.ite' (Moves.pure' _) (Moves.bind' Moves.get' fun db => Moves.ite' ?_
    (Moves.ite' ?_ (Moves.pure' _)))
  · exact Moves.bind' (modify_updateLoan_moves (terms_ite _)) fun _ => Moves.pure' _
  · exact Moves.bind' (Moves.forM' (fun _ => releaseAcceptedHold_moves _ _ _) _) fun _ =>
      Moves.bind' (modify_updateLoan_moves (terms_ite _)) fun _ => Moves.pure' _

theorem applyDecision_moves [AdmitsLoan R] [AdmitsHold R] [AdmitsGuarantor R] (now : Int)
    (args : DecisionArgs) :
    Moves R (applyDecision now args) := by
  have htail : ∀ loan product next, Moves R (do
      modify (·.updateGuarantor args.guarantorId (·.answered now next))
      applyLoanState now args.loanId loan product next : Tx LoanStatus) := fun _ _ _ =>
    Moves.bind' (modify_updateGuarantor_moves fun _ => rfl) fun _ => applyLoanState_moves _ _ _ _ _
  refine Moves.bind' Moves.ensure' fun _ => Moves.bind' Moves.get' fun _ =>
    Moves.bind' Moves.required' fun _ => Moves.bind' Moves.ensure' fun _ =>
    Moves.bind' Moves.required' fun _ => Moves.bind' Moves.required' fun _ => Moves.ite' ?_ ?_
  · exact Moves.bind' (Moves.bind' Moves.get' fun _ => Moves.bind' Moves.required' fun _ =>
      Moves.ensure') fun _ => Moves.bind' (placeGuarantorHolds_moves _ _ _) fun _ => htail _ _ _
  · exact htail _ _ _

theorem rejectForTimeout_moves [AdmitsLoan R] [AdmitsHold R] [AdmitsRelease R] (now : Int)
    (loanId : Nat) (ty : AccountType) :
    Moves R (rejectLoanForGuarantorTimeout now loanId ty) := by
  refine Moves.bind' Moves.get' fun db => ?_
  split
  · exact Moves.pure' ()
  · exact Moves.bind' (Moves.forM' (fun _ => releaseAcceptedHold_moves _ _ _) _) fun _ =>
      modify_updateLoan_moves (terms_ite _)

theorem expireGuarantor_moves [AdmitsLoan R] [AdmitsHold R] [AdmitsGuarantor R] (now : Int)
    (row : Nat × LoanGuarantor) (ty : AccountType) :
    Moves R (expireGuarantor now row ty) := by
  have htail : Moves R (do
      modify (·.updateGuarantor row.1 (·.expire now row.2.holdPlacedAt.isSome))
      rejectLoanForGuarantorTimeout now row.2.loanId ty : Tx Unit) :=
    Moves.bind' (modify_updateGuarantor_moves fun g => g.expire_key _ _) fun _ =>
      rejectForTimeout_moves _ _ _
  exact Moves.ite' (Moves.bind' (releaseGuarantorHolds_moves _ _ _) fun _ => htail) htail

theorem expireSpecificGuarantor_moves [AdmitsLoan R] [AdmitsHold R] [AdmitsGuarantor R]
    (now : Int) (guarantorId : Nat) : Moves R (expireSpecificGuarantor now guarantorId) := by
  refine Moves.bind' Moves.get' fun db => ?_
  split
  · exact Moves.pure' ()
  · exact expireGuarantor_moves _ _ _

theorem expireTenantGuarantors_moves [AdmitsLoan R] [AdmitsHold R] [AdmitsGuarantor R]
    (now cutoff : Int) : Moves R (expireTenantGuarantors now cutoff) :=
  Moves.bind' Moves.get' fun _ => Moves.forM' (fun _ => expireGuarantor_moves _ _ _) _

theorem reject_moves [AdmitsLoan R] [AdmitsHold R] [AdmitsRelease R] (now : Int) (loanId : Nat) :
    Moves R (reject now loanId) := by
  refine Moves.bind' Moves.get' fun _ => Moves.bind' Moves.required' fun _ =>
    Moves.bind' Moves.ensure' fun _ => Moves.bind' (Moves.forM' (fun _ => ?_) _) fun _ =>
    modify_updateLoan_moves fun _ => rfl
  exact Moves.bind' Moves.get' fun _ => releaseFullyRepaid_moves _ _ _

/-! ## 5. Recovery -/

theorem sumM_moves {α : Type} {f : α → Tx Nat} (hf : ∀ a, Moves R (f a)) (l : List α) :
    Moves R (sumM f l) := by
  induction l with
  | nil => exact Moves.pure' 0
  | cons a l ih => exact Moves.bind' (hf a) fun _ => Moves.bind' ih fun _ => Moves.pure' _

theorem recoverFromGuarantor_moves [AdmitsForfeit R] [AdmitsRelease R] [AdmitsTransaction R]
    [AdmitsEntry R] (now : Int) (loanId : Nat) (loanNumber : String)
    (ty : AccountType) (attempt actorId : String) (allocation : RecoveryAllocation) :
    Moves R
      (recoverFromGuarantor now loanId loanNumber ty attempt actorId allocation) := by
  unfold recoverFromGuarantor
  split
  · exact Moves.pure' 0
  · refine Moves.ite' (Moves.pure' 0) (Moves.bind' Moves.get' fun db => ?_)
    dsimp only
    split
    · exact Moves.pure' 0
    · refine Moves.bind' Moves.required' fun _ => Moves.ite' (Moves.pure' 0)
        (Moves.bind' Moves.ensure' fun _ =>
        Moves.bind' (modify_forfeit_moves _ _) fun _ =>
        Moves.bind' (modify_release_moves fun _ => rfl) fun _ =>
        Moves.bind' (createTransaction_moves _) fun _ =>
        Moves.bind' (postGlOnlyLegEntry_moves _) fun _ => Moves.pure' _)

theorem recoverFromGuarantors_of {now : Int} {loanId : Nat} {amount : ℚ} {actorId : String}
    (huuid : Moves R uuidv4) (hone : ∀ loanNumber ty attempt allocation,
      Moves R (recoverFromGuarantor now loanId loanNumber ty attempt actorId allocation))
    (hloan : ∀ f, (∀ l : Loan, (f l).terms = l.terms) →
      Moves R (modify (·.updateLoan loanId f) : Tx Unit)) :
    Moves R (recoverFromGuarantors now loanId amount actorId) :=
  Moves.bind' Moves.ensure' fun _ => Moves.bind' huuid fun _ =>
    Moves.bind' Moves.get' fun _ => Moves.bind' Moves.required' fun _ =>
    Moves.bind' Moves.ensure' fun _ => Moves.bind' (sumM_moves (hone _ _ _) _) fun _ =>
    Moves.ite' (Moves.bind' (hloan _ fun _ => rfl) fun _ => Moves.pure' _) (Moves.pure' _)

theorem recoverFromGuarantors_moves [AdmitsForfeit R] [AdmitsRelease R] [AdmitsTransaction R]
    [AdmitsEntry R] [AdmitsLoan R] (now : Int) (loanId : Nat) (amount : ℚ) (actorId : String) :
    Moves R (recoverFromGuarantors now loanId amount actorId) :=
  recoverFromGuarantors_of uuidv4_moves (fun _ _ _ _ => recoverFromGuarantor_moves _ _ _ _ _ _ _)
    fun _ hf => modify_updateLoan_moves hf

theorem forfeitGuarantor_moves [AdmitsForfeit R] [AdmitsRelease R] [AdmitsTransaction R]
    [AdmitsEntry R] (now : Int) (loanId : Nat) (loanNumber attempt : String)
    (row : Nat × LoanGuarantor) :
    Moves R (forfeitGuarantor now loanId loanNumber attempt row) := by
  refine Moves.bind' Moves.get' fun db => ?_
  split
  · exact Moves.pure' 0
  · refine Moves.ite' (Moves.pure' 0) ?_
    dsimp only
    split
    · exact Moves.pure' 0
    · exact Moves.bind' (modify_forfeit_moves _ _) fun _ =>
        Moves.bind' (modify_release_moves fun _ => rfl) fun _ =>
        Moves.bind' (createTransaction_moves _) fun _ =>
        Moves.bind' (postGlOnlyLegEntry_moves _) fun _ => Moves.pure' _

theorem offsetLoan_of {now : Int} {loanId : Nat} {jobId : Option String} (huuid : Moves R uuidv4)
    (hone : ∀ loanNumber attempt row, Moves R (forfeitGuarantor now loanId loanNumber attempt row))
    (hloan : ∀ f, (∀ l : Loan, (f l).terms = l.terms) →
      Moves R (modify (·.updateLoan loanId f) : Tx Unit)) :
    Moves R (offsetLoan now loanId jobId) := by
  refine Moves.bind' huuid fun _ => Moves.bind' Moves.get' fun db => ?_
  split
  · exact Moves.pure' 0
  · exact Moves.bind' (sumM_moves (hone _ _) _) fun _ =>
      Moves.ite' (Moves.bind' (hloan _ fun _ => rfl) fun _ => Moves.pure' _) (Moves.pure' _)

theorem offsetLoan_moves [AdmitsForfeit R] [AdmitsRelease R] [AdmitsTransaction R]
    [AdmitsEntry R] [AdmitsLoan R] (now : Int) (loanId : Nat) (jobId : Option String) :
    Moves R (offsetLoan now loanId jobId) :=
  offsetLoan_of uuidv4_moves (fun _ _ _ => forfeitGuarantor_moves _ _ _ _ _)
    fun _ hf => modify_updateLoan_moves hf

theorem recoverFromGuarantor_takes {now : Int} {loanId : Nat} {loanNumber attempt by' : String}
    {ty : AccountType} {al : RecoveryAllocation} {n : Nat} {db db' : Db}
    (h : Yields (recoverFromGuarantor now loanId loanNumber ty attempt by' al) db n db') :
    (db' = db ∧ n = 0) ∨ ∃ id r a amount releasedAt, al.account = some (id, r) ∧
      db.transactionByReference (guarantorForfeitureReference db.tenantId loanId id attempt) = none ∧
      db.accounts[id]? = some a ∧ amount = min (min al.deduction a.balance) a.frozenSavings ∧
      0 < amount ∧ n = amount.toNat ∧
      releasedAt = (if a.frozenSavings - amount ≤ 0 then some now else none) ∧
      db.Takes al.guarantorId id loanId a amount releasedAt .loanRepayment
        (guarantorForfeitureReference db.tenantId loanId id attempt) db' := by
  unfold recoverFromGuarantor at h
  cases hacc : al.account with
  | none =>
    simp only [hacc, yields_pure] at h
    exact .inl ⟨h.2.symm, h.1.symm⟩
  | some r =>
    simp only [hacc] at h
    rcases yields_ite.mp h with ⟨_, h⟩ | ⟨_, h⟩
    · exact .inl ⟨(yields_pure.mp h).2.symm, (yields_pure.mp h).1.symm⟩
    simp only [yields_bind, yields_get] at h
    obtain ⟨_, _, ⟨rfl, rfl⟩, h⟩ := h
    cases hfind : db.transactionByReference
        (guarantorForfeitureReference db.tenantId loanId r.1 attempt) with
    | some t =>
      simp only [hfind, yields_pure] at h
      exact .inl ⟨h.2.symm, h.1.symm⟩
    | none =>
      simp only [hfind, yields_bind, yields_required] at h
      obtain ⟨a, _, ⟨ha, rfl⟩, h⟩ := h
      rcases yields_ite.mp h with ⟨_, h⟩ | ⟨hpos, h⟩
      · exact .inl ⟨(yields_pure.mp h).2.symm, (yields_pure.mp h).1.symm⟩
      simp only [yields_bind, yields_ensure, yields_modify, yields_pure] at h
      obtain ⟨_, _, ⟨_, rfl⟩, _, _, rfl, _, _, rfl, _, _, htxn, _, _, hleg, rfl, rfl⟩ := h
      exact .inr ⟨r.1, r.2, a, _, _, rfl, hfind, ha, rfl, Int.not_le.mp hpos, rfl, rfl,
        _, _, _, _, _, _, _, htxn, hleg⟩

theorem forfeitGuarantor_takes {now : Int} {loanId : Nat} {loanNumber attempt : String}
    {row : Nat × LoanGuarantor} {n : Nat} {db db' : Db}
    (h : Yields (forfeitGuarantor now loanId loanNumber attempt row) db n db') :
    (db' = db ∧ n = 0 ∧ ∀ id a, db.activeAccount row.2.memberId .bosa = some (id, a) →
      0 < row.2.forfeitable a → ∃ t, db.transactionByReference
        (guarantorForfeitureReference db.tenantId loanId id attempt) = some t) ∨
    ∃ id a, db.activeAccount row.2.memberId .bosa = some (id, a) ∧
      db.transactionByReference (guarantorForfeitureReference db.tenantId loanId id attempt) = none ∧
      0 < row.2.forfeitable a ∧ n = (row.2.forfeitable a).toNat ∧
      db.Takes row.1 id loanId a (row.2.forfeitable a) (some now) .withdrawal
        (guarantorForfeitureReference db.tenantId loanId id attempt) db' := by
  simp only [forfeitGuarantor, yields_bind, yields_get] at h
  obtain ⟨_, _, ⟨rfl, rfl⟩, h⟩ := h
  cases hacc : db.activeAccount row.2.memberId .bosa with
  | none =>
    simp only [hacc, yields_pure] at h
    exact .inl ⟨h.2.symm, h.1.symm, fun id a ha => by cases ha⟩
  | some r =>
    simp only [hacc] at h
    rcases yields_ite.mp h with ⟨hle, h⟩ | ⟨hpos, h⟩
    · simp only [yields_pure] at h
      refine .inl ⟨h.2.symm, h.1.symm, fun id a ha hpos => ?_⟩
      cases ha
      exact absurd hle (Int.not_le.mpr hpos)
    cases hfind : db.transactionByReference
        (guarantorForfeitureReference db.tenantId loanId r.1 attempt) with
    | some t =>
      simp only [hfind, yields_pure] at h
      refine .inl ⟨h.2.symm, h.1.symm, fun id a ha _ => ?_⟩
      cases ha
      exact ⟨t, hfind⟩
    | none =>
      simp only [hfind, yields_bind, yields_modify, yields_pure] at h
      obtain ⟨_, _, rfl, _, _, rfl, _, _, htxn, _, _, hleg, rfl, rfl⟩ := h
      exact .inr ⟨r.1, r.2, rfl, hfind, Int.not_le.mp hpos, rfl, _, _, _, _, _, _, _, htxn, hleg⟩

/-- Savings taken from a guarantor keep the invariant. -/
def KeepsForfeits (I : Db → Prop) : Prop :=
  ∀ ⦃db db' : Db⦄ ⦃guarantorId i loanId : Nat⦄ ⦃a : Account⦄ ⦃amount : Int⦄
    ⦃releasedAt : Option Int⦄ ⦃type : TransactionType⦄ ⦃reference : String⦄, I db →
    db.accounts[i]? = some a → 0 < amount → amount ≤ a.frozenSavings →
    (type = .loanRepayment ∨ type = .withdrawal) →
    db.Takes guarantorId i loanId a amount releasedAt type reference db' → I db'

section Takings

variable {I : Db → Prop} {loanId : Nat} (hI : KeepsForfeits I) (huuid : Preserves I uuidv4)
  (hloan : ∀ f, (∀ l : Loan, (f l).terms = l.terms) →
    Preserves I (modify (·.updateLoan loanId f) : Tx Unit))

include hI huuid hloan

theorem recoverFromGuarantors_keeps (now : Int) (amount : ℚ) (actorId : String) :
    Preserves I (recoverFromGuarantors now loanId amount actorId) := by
  refine Preserves.of_carries (recoverFromGuarantors_of (R := Carries I) huuid
    (fun _ _ _ _ db n db' h hdb => ?_) hloan)
  rcases recoverFromGuarantor_takes h with ⟨rfl, -⟩ | ⟨_, _, _, _, _, -, -, ha, rfl, hpos, -, -, htakes⟩
  · exact hdb
  · exact hI hdb ha hpos (min_le_right _ _) (.inl rfl) htakes

theorem offsetLoan_keeps (now : Int) (jobId : Option String) :
    Preserves I (offsetLoan now loanId jobId) := by
  refine Preserves.of_carries (offsetLoan_of (R := Carries I) huuid
    (fun _ _ _ db n db' h hdb => ?_) hloan)
  rcases forfeitGuarantor_takes h with ⟨rfl, -⟩ | ⟨_, _, hacc, -, hpos, -, htakes⟩
  · exact hdb
  · exact hI hdb (activeAccount_some hacc).1 hpos (min_le_right _ _) (.inr rfl) htakes

end Takings

/-! ## 6. The life cycle -/

theorem approve_moves [AdmitsLoan R] (seen : Db) (loanId : Nat) : Moves R (approve seen loanId) :=
  Moves.bind' Moves.required' fun _ => Moves.bind' Moves.ensure' fun _ =>
    Moves.bind' Moves.fromExcept' fun _ => Moves.bind' Moves.get' fun _ =>
    Moves.bind' Moves.required' fun _ => modify_updateLoan_moves fun _ => rfl

theorem updateStatus_moves [AdmitsLoan R] [AdmitsHold R] [AdmitsRelease R] (seen : Db)
    (now : Int) (loanId : Nat) (target : LoanStatus)
    (reason : Option String) : Moves R (updateStatus seen now loanId target reason) := by
  refine Moves.bind' Moves.required' fun _ => Moves.bind' Moves.ensure' fun _ =>
    Moves.bind' Moves.ensure' fun _ => Moves.ite' (approve_moves _ _) (Moves.ite' ?_ ?_)
  · exact Moves.bind' Moves.ensure' fun _ => reject_moves _ _
  · exact Moves.bind' Moves.ensure' fun _ => Moves.bind' Moves.get' fun _ =>
      Moves.bind' Moves.required' fun _ => modify_updateLoan_moves fun _ => rfl

theorem signOffRead_moves (loanId : Nat) (approverId role : String) :
    Moves R (signOffRead loanId approverId role) :=
  Moves.bind' Moves.get' fun _ => Moves.bind' Moves.ensure' fun _ =>
    Moves.bind' Moves.required' fun _ => Moves.bind' Moves.ensure' fun _ => Moves.pure' _

theorem signOffWrite_moves [AdmitsLoan R] [AdmitsChain R] (loanId slotId : Nat)
    (approverId : String) (approved : Bool) :
    Moves R (signOffWrite loanId slotId approverId approved) := by
  refine Moves.bind' (Moves.modify' fun _ => AdmitsChain.update _ _) fun _ =>
    Moves.bind' Moves.get' fun _ => Moves.ite' (modify_updateLoan_moves (terms_ite _))
      (Moves.pure' ())

theorem signOff_moves [AdmitsLoan R] [AdmitsChain R] (loanId : Nat) (approverId role : String)
    (approved : Bool) : Moves R (signOff loanId approverId role approved) :=
  Moves.bind' (signOffRead_moves _ _ _) fun _ => signOffWrite_moves _ _ _ _

section Disbursement

variable {params : DisburseParams}
  (hpost : ∀ p : PostEntryParams, p.direction = p.journalType.direction → Moves R (postEntry p))
  (hloan : ∀ f, (∀ l : Loan, (f l).terms = l.terms) →
    Moves R (modify (·.updateLoan params.loanId f) : Tx Unit))
  (hrows : Moves R (modify fun db =>
    { db with loanRepayments := db.loanRepayments ++ params.rows } : Tx Unit))

include hpost hloan hrows

theorem disburseBody_of {accountId : Nat} {loanNumber : String} :
    Moves R (disburseBody params accountId loanNumber) := by
  refine Moves.bind' Moves.get' fun _ => Moves.bind' Moves.required' fun loan =>
    Moves.bind' Moves.ensure' fun _ => Moves.bind' Moves.ensure' fun _ =>
    Moves.bind' Moves.fromExcept' fun _ => Moves.bind' Moves.ensure' fun _ =>
    Moves.bind' (hpost _ rfl) fun _ => ?_
  refine Moves.ite' (Moves.bind' (hpost _ rfl) fun _ => ?_) ?_
  all_goals exact Moves.bind' (hloan _ fun _ => rfl) fun _ => Moves.ite' hrows (Moves.pure' ())

theorem disburse_of {seen : Db} : Moves R (disburse seen params) :=
  Moves.bind' Moves.required' fun _ => Moves.ite' (Moves.bind' Moves.required' fun _ =>
    Moves.pure' ()) (Moves.bind' Moves.ensure' fun _ => Moves.bind' Moves.ensure' fun _ =>
    Moves.bind' Moves.ensure' fun _ => Moves.bind' Moves.required' fun _ =>
    disburseBody_of hpost hloan hrows)

end Disbursement

theorem disburseBody_moves [AdmitsBalance R] [AdmitsTransaction R] [AdmitsEntry R] [AdmitsLoan R]
    [AdmitsRepayment R] (params : DisburseParams) (fosaAccountId : Nat) (loanNumber : String) :
    Moves R (disburseBody params fosaAccountId loanNumber) :=
  disburseBody_of (fun _ _ => postEntry_moves _) (fun _ hf => modify_updateLoan_moves hf)
    (Moves.modify' fun _ => AdmitsRepayment.append _ _)

theorem disburse_moves [AdmitsBalance R] [AdmitsTransaction R] [AdmitsEntry R] [AdmitsLoan R]
    [AdmitsRepayment R] (seen : Db) (params : DisburseParams) :
    Moves R (disburse seen params) :=
  disburse_of (fun _ _ => postEntry_moves _) (fun _ hf => modify_updateLoan_moves hf)
    (Moves.modify' fun _ => AdmitsRepayment.append _ _)

theorem b2cTimeout_moves [AdmitsLoan R] [AdmitsMpesa R] (mpesaTxId : Nat) :
    Moves R (b2cTimeout mpesaTxId) := by
  have hmark : Moves R (modify (·.updateMpesa mpesaTxId fun m =>
      { m with status := .reconPending }) : Tx Unit) :=
    Moves.modify' fun _ => AdmitsMpesa.update _ _ _
  refine Moves.bind' Moves.get' fun db => ?_
  split
  · exact Moves.pure' ()
  · refine Moves.ite' ?_ hmark
    split
    · exact Moves.pure' ()
    · exact Moves.ite' (Moves.bind' (modify_updateLoan_moves fun _ => rfl) fun _ => hmark)
        (Moves.pure' ())

/-! ## 7. Every operation -/

theorem exec_consents [AdmitsHold R] [AdmitsLoan R] [AdmitsGuarantor R] [AdmitsNomination R] {op : Op}
    (hop : op.consents = true) : Moves R op.exec := by
  cases op with
  | createApplication now loan requires guarantors =>
    exact Moves.bind' (AdmitsNomination.apply now loan requires guarantors) fun _ => Moves.pure' ()
  | inviteGuarantor seen now loanId nominated item =>
    exact inviteGuarantor_moves seen now loanId nominated item
  | respond now args => exact Moves.bind' (applyDecision_moves now args) fun _ => Moves.pure' ()
  | expireGuarantor now guarantorId => exact expireSpecificGuarantor_moves now guarantorId
  | expirySweep now cutoff => exact expireTenantGuarantors_moves now cutoff
  | _ => cases hop

/-- The operations that neither post nor settle an invitation. -/
theorem exec_decides [AdmitsHold R] [AdmitsLoan R] [AdmitsRelease R] [AdmitsMpesa R] {op : Op}
    (hchain : op.signs = true → AdmitsChain R) (hop : op.consents = false)
    (hposts : op.posts = false) : Moves R op.exec := by
  cases op with
  | finishInvite seen loanId nominated => exact finishInvite_moves seen loanId nominated
  | reject now loanId => exact reject_moves now loanId
  | approve seen loanId => exact approve_moves seen loanId
  | updateStatus seen now loanId target reason =>
    exact updateStatus_moves seen now loanId target reason
  | signOff loanId approverId role approved =>
    have := hchain rfl
    exact signOff_moves loanId approverId role approved
  | b2cTimeout mpesaTxId => exact b2cTimeout_moves mpesaTxId
  | createApplication _ _ _ _ | inviteGuarantor _ _ _ _ _ | respond _ _ | expireGuarantor _ _
  | expirySweep _ _ => cases hop
  | _ => cases hposts

theorem exec_quiet [AdmitsHold R] [AdmitsLoan R] [AdmitsGuarantor R] [AdmitsNomination R]
    [AdmitsMpesa R] [AdmitsChain R] {op : Op} (hposts : op.posts = false) : Moves R op.exec := by
  cases hop : op.consents with
  | false => exact exec_decides (fun _ => inferInstance) hop hposts
  | true => exact exec_consents hop

theorem exec_moves_settled_of [AdmitsBalance R] [AdmitsTransaction R] [AdmitsEntry R]
    [AdmitsHold R] [AdmitsForfeit R] [AdmitsLoan R] [AdmitsRepayment R] [AdmitsRelease R]
    [AdmitsMpesa R] {op : Op} (hchain : op.signs = true → AdmitsChain R)
    (hop : op.consents = false) : Moves R op.exec := by
  cases op with
  | postEntry p => exact Moves.bind' (postEntry_moves p) fun _ => Moves.pure' ()
  | transfer p => exact Moves.bind' (postInternalTransfer_moves p) fun _ => Moves.pure' ()
  | reverse id reason by' =>
    exact Moves.bind' (reverseTransaction_moves id reason by') fun _ => Moves.pure' ()
  | leg p => exact Moves.bind' (postGlOnlyLegEntry_moves p) fun _ => Moves.pure' ()
  | repay p => exact Moves.bind' (repay_moves p) fun _ => Moves.pure' ()
  | processRepayment now input =>
    exact Moves.bind' (processRepayment_moves now input) fun _ => Moves.pure' ()
  | accrue seen loanId date => exact accrueInterestForLoan_moves seen loanId date
  | disburse seen params => exact disburse_moves seen params
  | recover now loanId amount by' =>
    exact Moves.bind' (recoverFromGuarantors_moves now loanId amount by') fun _ => Moves.pure' ()
  | offset now loanId jobId =>
    exact Moves.bind' (offsetLoan_moves now loanId jobId) fun _ => Moves.pure' ()
  | _ => exact exec_decides hchain hop rfl

theorem exec_moves_settled [AdmitsBalance R] [AdmitsTransaction R] [AdmitsEntry R] [AdmitsHold R]
    [AdmitsForfeit R] [AdmitsLoan R] [AdmitsRepayment R] [AdmitsRelease R] [AdmitsMpesa R]
    [AdmitsChain R] {op : Op} (hop : op.consents = false) : Moves R op.exec :=
  exec_moves_settled_of (fun _ => inferInstance) hop

theorem exec_moves_of [AdmitsBalance R] [AdmitsTransaction R] [AdmitsEntry R] [AdmitsHold R]
    [AdmitsForfeit R] [AdmitsLoan R] [AdmitsRepayment R] [AdmitsGuarantor R] [AdmitsNomination R]
    [AdmitsMpesa R] {op : Op} (hchain : op.signs = true → AdmitsChain R) : Moves R op.exec := by
  cases hop : op.consents with
  | false => exact exec_moves_settled_of hchain hop
  | true => exact exec_consents hop

theorem exec_moves [AdmitsBalance R] [AdmitsTransaction R] [AdmitsEntry R] [AdmitsHold R]
    [AdmitsForfeit R] [AdmitsLoan R] [AdmitsRepayment R] [AdmitsGuarantor R] [AdmitsNomination R]
    [AdmitsMpesa R] [AdmitsChain R] (op : Op) : Moves R op.exec :=
  exec_moves_of fun _ => inferInstance

end FootprintLemmas

end BebaSacco
