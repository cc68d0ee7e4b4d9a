import BebaSacco.History

/-! # The running balance of an account

Every row of an account's statement carries the balance before and after it. A path that moves a
balance writes its row next to it; the repayment legs and the penalties of instalments write rows
that move nothing, with the balance they found on both sides.

Results:
 1. `runningBalance_posted`, `runningBalance_noted`: a balance that moves with its row, and a row
    that moves nothing, keep the chain of an account.
 2. `step_runningBalance`: so does every operation.
-/

namespace BebaSacco

open Txn HistoryLemmas FootprintLemmas

/-! ## 1. Statements -/

/-- The row was completed; a reversal marks it and leaves it in its place. -/
def Transaction.booked (t : Transaction) : Bool := t.status == .completed || t.status == .reversed

/-- The rows lead from the balance `opening` to `balance` without a gap. -/
def Unbroken (opening : Int) : List Transaction → Int → Prop
  | [], balance => balance = opening
  | t :: rows, balance => t.balanceBefore = opening ∧ Unbroken t.balanceAfter rows balance

instance decidableUnbroken : (opening : Int) → (rows : List Transaction) → (balance : Int) →
    Decidable (Unbroken opening rows balance)
  | opening, [], balance => inferInstanceAs (Decidable (balance = opening))
  | opening, t :: rows, balance =>
    have := decidableUnbroken t.balanceAfter rows balance
    inferInstanceAs (Decidable (t.balanceBefore = opening ∧ Unbroken t.balanceAfter rows balance))

/-- The rows of an account, in the order in which they were committed. -/
def Db.rowsOf (db : Db) (accountId : Nat) : List Transaction :=
  db.transactions.filter fun t => t.accountId == accountId

/-- The rows of an account whose balance was `opening` lead to the balance it has now, and none of
them is open or failed. -/
structure RunningBalance (opening : Int) (accountId : Nat) (db : Db) : Prop where
  booked : ∀ t ∈ db.transactions, t.accountId = accountId → t.booked = true
  chain : ∃ a, db.accounts[accountId]? = some a ∧
    Unbroken opening (db.rowsOf accountId) a.balance

namespace BalanceLemmas

variable {opening : Int} {accountId : Nat} {db db' : Db}

theorem unbroken_append {rows rows' : List Transaction} {balance : Int} :
    Unbroken opening (rows ++ rows') balance ↔
      ∃ middle, Unbroken opening rows middle ∧ Unbroken middle rows' balance := by
  induction rows generalizing opening with
  | nil =>
    constructor
    · exact fun h => ⟨opening, rfl, h⟩
    · rintro ⟨middle, rfl, h⟩
      exact h
  | cons t rows ih =>
    constructor
    · rintro ⟨hbefore, h⟩
      obtain ⟨middle, hrows, h⟩ := ih.mp h
      exact ⟨middle, ⟨hbefore, hrows⟩, h⟩
    · rintro ⟨middle, ⟨hbefore, hrows⟩, h⟩
      exact ⟨hbefore, ih.mpr ⟨middle, hrows, h⟩⟩

/-! ## 2. Writes -/

theorem rowsOf_insert_own {t : Transaction} (h : t.accountId = accountId) :
    (db.insertTransaction t).rowsOf accountId = db.rowsOf accountId ++ [t] := by
  unfold Db.rowsOf Db.insertTransaction
  rw [List.filter_append, List.filter_singleton, h, beq_self_eq_true]
  rfl

theorem rowsOf_insert_other {t : Transaction} (h : t.accountId ≠ accountId) :
    (db.insertTransaction t).rowsOf accountId = db.rowsOf accountId := by
  unfold Db.rowsOf Db.insertTransaction
  rw [List.filter_append, List.filter_singleton, beq_false_of_ne h]
  exact List.append_nil _

theorem booked_insert {t : Transaction}
    (h : ∀ r ∈ db.transactions, r.accountId = accountId → r.booked = true)
    (hstatus : t.status = .completed) :
    ∀ r ∈ (db.insertTransaction t).transactions, r.accountId = accountId → r.booked = true := by
  refine Table.forall_append_one h fun _ => ?_
  rw [Transaction.booked, hstatus]
  rfl

/-- A balance that moves together with the row that says so. -/
theorem runningBalance_posted {t : Transaction} {a : Account} {f : Account → Account}
    (h : RunningBalance opening accountId db) (ha : db.accounts[t.accountId]? = some a)
    (hbefore : t.balanceBefore = a.balance) (hafter : (f a).balance = t.balanceAfter)
    (hstatus : t.status = .completed) :
    RunningBalance opening accountId ((db.updateAccount t.accountId f).insertTransaction t) := by
  refine ⟨booked_insert h.booked hstatus, ?_⟩
  obtain ⟨own, hown, hchain⟩ := h.chain
  by_cases hacc : t.accountId = accountId
  · rw [hacc] at ha
    cases hown.symm.trans ha
    refine ⟨f a, ?_, ?_⟩
    · rw [hacc]
      exact Table.getElem?_modify_self hown
    · have hrows : ((db.updateAccount t.accountId f).insertTransaction t).rowsOf accountId =
          db.rowsOf accountId ++ [t] := rowsOf_insert_own hacc
      rw [hrows, unbroken_append]
      exact ⟨a.balance, hchain, hbefore, hafter⟩
  · have hrows : ((db.updateAccount t.accountId f).insertTransaction t).rowsOf accountId =
        db.rowsOf accountId := rowsOf_insert_other hacc
    rw [hrows]
    exact ⟨own, (Table.getElem?_modify_other hacc).trans hown, hchain⟩

theorem runningBalance_noted {t : Transaction} (h : RunningBalance opening accountId db)
    (ht : ∀ a, db.accounts[t.accountId]? = some a →
      t.balanceBefore = a.balance ∧ t.balanceAfter = a.balance)
    (hstatus : t.status = .completed) :
    RunningBalance opening accountId (db.insertTransaction t) := by
  refine ⟨booked_insert h.booked hstatus, ?_⟩
  obtain ⟨own, hown, hchain⟩ := h.chain
  refine ⟨own, hown, ?_⟩
  by_cases hacc : t.accountId = accountId
  · obtain ⟨hbefore, hafter⟩ := ht own (hacc ▸ hown)
    rw [rowsOf_insert_own hacc, unbroken_append]
    exact ⟨own.balance, hchain, hbefore, hafter.symm⟩
  · rw [rowsOf_insert_other hacc]
    exact hchain

/-- What the chain reads of a row. -/
def line (t : Transaction) : Nat × Int × Int := (t.accountId, t.balanceBefore, t.balanceAfter)

theorem unbroken_lines {rows rows' : List Transaction} {balance : Int}
    (h : rows.map line = rows'.map line) (hu : Unbroken opening rows balance) :
    Unbroken opening rows' balance := by
  induction rows generalizing rows' opening with
  | nil =>
    rw [List.map_nil] at h
    rw [List.map_eq_nil_iff.mp h.symm]
    exact hu
  | cons t rows ih =>
    cases rows' with
    | nil => cases h
    | cons t' rows' =>
      rw [List.map_cons, List.map_cons, List.cons.injEq] at h
      have hbefore : t.balanceBefore = t'.balanceBefore := congrArg (·.2.1) h.1
      have hafter : t.balanceAfter = t'.balanceAfter := congrArg (·.2.2) h.1
      exact ⟨hbefore ▸ hu.1, ih h.2 (hafter ▸ hu.2)⟩

theorem rowsOf_lines (db : Db) (accountId : Nat) :
    (db.rowsOf accountId).map line = (db.transactions.map line).filter (·.1 == accountId) := by
  rw [List.filter_map]
  rfl

/-- A change of the links or of the mark of a row. -/
theorem runningBalance_marked {i : Nat} {f : Transaction → Transaction}
    (hline : ∀ t, line (f t) = line t) (hbooked : ∀ t, t.booked = true → (f t).booked = true)
    (h : RunningBalance opening accountId db) :
    RunningBalance opening accountId (db.updateTransaction i f) := by
  refine ⟨?_, ?_⟩
  · refine Table.forall_modify h.booked fun t ht hacc => hbooked t (ht ?_)
    have hsame : (f t).accountId = t.accountId := congrArg Prod.fst (hline t)
    exact hsame ▸ hacc
  · obtain ⟨own, hown, hchain⟩ := h.chain
    refine ⟨own, hown, unbroken_lines ?_ hchain⟩
    rw [rowsOf_lines, rowsOf_lines, Db.updateTransaction, Table.map_modify_same hline]

theorem runningBalance_same (hacc : db'.accounts.map (·.balance) = db.accounts.map (·.balance))
    (htxn : db'.transactions = db.transactions) (h : RunningBalance opening accountId db) :
    RunningBalance opening accountId db' := by
  have hrows : db'.rowsOf accountId = db.rowsOf accountId := by rw [Db.rowsOf, htxn, Db.rowsOf]
  obtain ⟨own, hown, hchain⟩ := h.chain
  have hbalance : (db'.accounts.map (·.balance))[accountId]? = some own.balance := by
    rw [hacc, List.getElem?_map, hown]
    rfl
  rw [List.getElem?_map] at hbalance
  obtain ⟨own', hown', heq⟩ := Option.map_eq_some_iff.mp hbalance
  refine ⟨htxn ▸ h.booked, own', hown', ?_⟩
  rw [hrows, heq]
  exact hchain

theorem runningBalance_sameBooks (hs : db.SameBooks db') (h : RunningBalance opening accountId db) :
    RunningBalance opening accountId db' := by
  refine runningBalance_same ?_ hs.transactions h
  have hbooks := congrArg (List.map Account.balance) hs.accounts
  rw [List.map_map, List.map_map] at hbooks
  exact hbooks

theorem preserves_same {α : Type} {x : Tx α} (hx : Moves Db.SameBooks x) :
    Preserves (RunningBalance opening accountId) x :=
  fun _ _ _ h hs => runningBalance_sameBooks (hx h) hs

theorem leg_runningBalance (p : LegParams) :
    Preserves (RunningBalance opening accountId) (postGlOnlyLegEntry p) := by
  intro db r db' h hb
  obtain ⟨_, ⟨rfl, _⟩ | ⟨_, _, rfl⟩⟩ := postGlOnlyLegEntry_cases h
  · exact hb
  · exact ⟨hb.booked, hb.chain⟩

/-! ## 3. The operations -/

theorem postEntry_runningBalance (p : PostEntryParams) :
    Preserves (RunningBalance opening accountId) (postEntry p) := by
  intro db r db' h hb
  rcases postEntry_cases h with ⟨rfl, _, _⟩ | ⟨⟨_, _, hw⟩, _, _⟩
  · exact hb
  obtain ⟨a, type, actor, description, d, c, ha, _, _, _, _, rfl⟩ := hw
  have hposted := runningBalance_posted (t := p.transaction type
    ⟨a.balance, a.balance + p.direction.signed (toDecimalPlaces4 p.amount), a.accountType⟩
    (toDecimalPlaces4 p.amount) actor description)
    (f := (·.move (p.direction.signed (toDecimalPlaces4 p.amount)))) hb ha rfl rfl rfl
  exact ⟨hposted.booked, hposted.chain⟩

theorem postInternalTransfer_runningBalance (p : TransferParams) :
    Preserves (RunningBalance opening accountId) (postInternalTransfer p) := by
  intro db r db' h hb
  rcases postInternalTransfer_cases h with ⟨rfl, _⟩ | ⟨⟨_, hne, hw⟩, _⟩
  · exact hb
  obtain ⟨a, b, description, d, c, ha, _, _, hb', _, _, rfl⟩ := hw
  -- the two legs, each next to its balance
  have hsource := runningBalance_posted (t := p.transaction p.fromAccountId s!"{p.reference}-SRC"
    ⟨a.balance, a.balance - toDecimalPlaces4 p.amount, a.accountType⟩
    (toDecimalPlaces4 p.amount) description none)
    (f := (·.move (-toDecimalPlaces4 p.amount))) hb ha rfl rfl rfl
  have htarget := runningBalance_posted (t := p.transaction p.toAccountId s!"{p.reference}-DST"
    ⟨b.balance, b.balance + toDecimalPlaces4 p.amount, b.accountType⟩
    (toDecimalPlaces4 p.amount) description (some db.transactions.length))
    (f := (·.move (toDecimalPlaces4 p.amount))) hsource
    ((Table.getElem?_modify_other hne).trans hb') rfl rfl rfl
  have hlinked := runningBalance_marked (i := db.transactions.length)
    (f := fun t => { t with linkedTransactionId := some (db.transactions.length + 1) })
    (fun _ => rfl) (fun _ hbooked => hbooked) htarget
  exact ⟨hlinked.booked, hlinked.chain⟩

theorem reverseTransaction_runningBalance (id : Nat) (reason : String) (actorId : Option String) :
    Preserves (RunningBalance opening accountId) (reverseTransaction id reason actorId) := by
  intro db r db' h hb
  obtain ⟨t, i, e, posting, a, reason, by', _, _, _, _, _, ha, _, _, rfl⟩ :=
    (reverseTransaction_cases h).written
  have hposted := runningBalance_posted (t := t.reversal id
    ⟨a.balance, a.balance + t.reverseDirection.signed t.amount, a.accountType⟩ reason by')
    (f := (·.move (t.reverseDirection.signed t.amount))) hb ha rfl rfl rfl
  have hmarked := runningBalance_marked (i := id)
    (f := fun t => { t with status := .reversed }) (fun _ => rfl) (fun _ _ => rfl) hposted
  exact ⟨hmarked.booked, hmarked.chain⟩

theorem repay_runningBalance (p : RepayParams) :
    Preserves (RunningBalance opening accountId) (repay p) := by
  refine repay_preserves (fun db i account loan ha hb => ?_) leg_runningBalance
    runningBalance_sameBooks
  -- the absolute balance is written under the row lock, on the balance that was read
  exact runningBalance_posted (t := p.transaction i loan.loanNumber (p.reference db.tenantId)
    (p.actualRepayment loan) account.balance)
    (f := fun a => { a with balance := account.balance - p.actualRepayment loan }) hb ha rfl rfl rfl

/-- The chain of one account, while the account `i` holds `balance`. -/
def Holding (opening : Int) (accountId i : Nat) (balance : Int) (db : Db) : Prop :=
  RunningBalance opening accountId db ∧ db.accounts[i]?.map (·.balance) = some balance

variable {i : Nat} {balance : Int}

theorem holding_same {α : Type} {x : Tx α} (hx : Moves Db.SameBooks x) :
    Preserves (Holding opening accountId i balance) x := by
  intro db a db' h hh
  refine ⟨runningBalance_sameBooks (hx h) hh.1, ?_⟩
  have hbooks := congrArg (List.map Account.balance) (hx h).accounts
  rw [List.map_map, List.map_map] at hbooks
  have hbalances : db'.accounts.map (·.balance) = db.accounts.map (·.balance) := hbooks
  rw [← List.getElem?_map, hbalances, List.getElem?_map]
  exact hh.2

theorem leg_holding (p : LegParams) :
    Preserves (Holding opening accountId i balance) (postGlOnlyLegEntry p) := by
  intro db r db' h hh
  obtain ⟨_, ⟨rfl, _⟩ | ⟨_, _, rfl⟩⟩ := postGlOnlyLegEntry_cases h
  · exact hh
  · exact ⟨⟨hh.1.booked, hh.1.chain⟩, hh.2⟩

theorem allocateLeg_holding (input : ProcessRepaymentInput) (loanId : Nat) (leg : Leg)
    (amount : Nat) :
    Preserves (Holding opening accountId i balance)
      (allocateLeg input i loanId balance leg amount) := by
  refine Preserves.ite' (fun _ => Preserves.bind' ?_ fun _ => Preserves.bind' (leg_holding _)
    fun _ => Preserves.pure' _) fun _ => Preserves.pure' _
  intro db txn db' h hh
  simp only [createAllocationTransaction, yields_bind, yields_uuidv4,
    yields_createTransaction] at h
  obtain ⟨_, _, ⟨rfl, rfl⟩, _, _, rfl⟩ := h
  refine ⟨runningBalance_noted ⟨hh.1.booked, hh.1.chain⟩ (fun a ha => ?_) rfl, hh.2⟩
  have hbalance := hh.2
  have hrow : db.accounts[i]? = some a := ha
  rw [hrow] at hbalance
  have heq : balance = a.balance := (Option.some.inj hbalance).symm
  exact ⟨heq, heq⟩

theorem creditOverpayment_runningBalance (input : ProcessRepaymentInput) (i loanId n : Nat) :
    Preserves (RunningBalance opening accountId) (creditOverpayment input i loanId n) :=
  Preserves.ite' (fun _ => Preserves.bind' (postEntry_runningBalance _) fun _ => Preserves.pure' _)
    fun _ => Preserves.pure' _

theorem lockFosaAccount_holding (memberId : Nat) :
    Ensures (RunningBalance opening accountId) (lockFosaAccount memberId)
      fun fosa => Holding opening accountId fosa.1 fosa.2.balance := by
  intro db fosa db' h hb
  simp only [lockFosaAccount, yields_bind, yields_get, yields_required] at h
  obtain ⟨_, _, ⟨rfl, rfl⟩, hacc, rfl⟩ := h
  obtain ⟨ha, _⟩ := activeAccount_some hacc
  refine ⟨hb, ?_⟩
  rw [ha]
  rfl

theorem applyRepayment_runningBalance (now : Int) (input : ProcessRepaymentInput)
    (amount loanId : Nat) (loan : Loan) :
    Preserves (RunningBalance opening accountId) (applyRepayment now input amount loanId loan) := by
  refine Ensures.bind' (lockFosaAccount_holding _) fun fosa => ?_
  -- the legs find the balance that was read; the overpayment moves it at last
  have hleg : ∀ leg n, Ensures (Holding opening accountId fosa.1 fosa.2.balance)
      (allocateLeg input fosa.1 loanId fosa.2.balance leg n)
      fun _ => Holding opening accountId fosa.1 fosa.2.balance :=
    fun leg n => allocateLeg_holding input loanId leg n
  have hover : ∀ n, Ensures (Holding opening accountId fosa.1 fosa.2.balance)
      (creditOverpayment input fosa.1 loanId n) fun _ => RunningBalance opening accountId :=
    fun n _ _ _ h hh => creditOverpayment_runningBalance input fosa.1 loanId n h hh.1
  refine Ensures.bind' (holding_same (applyInstallmentAllocation_moves _ _ _)) fun _ => ?_
  refine Ensures.bind' (hleg _ _) fun _ => Ensures.bind' (hleg _ _) fun _ =>
    Ensures.bind' (hleg _ _) fun _ => Ensures.bind' (hover _) fun _ => ?_
  exact Preserves.bind' (preserves_same (modify_updateLoan_moves fun _ => rfl)) fun _ =>
    Preserves.bind' (preserves_same (settleMpesa_moves _ _ _)) fun _ => Preserves.pure' _

theorem processRepayment_runningBalance (now : Int) (input : ProcessRepaymentInput) :
    Preserves (RunningBalance opening accountId) (processRepayment now input) := by
  intro db r db' h hb
  rcases processRepayment_cases h with ⟨rfl, _⟩ | ⟨amount, loanId, loan, _, _, _, _, happly⟩
  · exact hb
  · exact applyRepayment_runningBalance now input amount loanId loan happly hb

/-- A charge against an account that is there. -/
theorem chargeAccount_runningBalance (i loanId : Nat) (leg : Leg) (amount : Nat)
    (reference description : String) :
    Preserves (RunningBalance opening accountId)
      (chargeAccount i loanId leg amount reference description) := by
  intro db u db' h hb
  rcases chargeAccount_cases h with ⟨rfl, -⟩ | ⟨-, -, a, p, id, r, mid, ha, ht, hleg⟩
  · exact hb
  obtain ⟨_, _, rfl⟩ := yields_createTransaction.mp ht
  exact leg_runningBalance _ hleg (runningBalance_posted (t := chargeTransaction i loanId
    leg.chargeType amount a.balance (a.balance - amount) reference description) hb ha rfl
    (Int.sub_eq_add_neg).symm rfl)

theorem penalizeInstallment_runningBalance (loanId i : Nat) (accrualDate : Int)
    (row : Nat × LoanRepayment) :
    Preserves (RunningBalance opening accountId)
      (penalizeInstallment loanId i accrualDate row) := by
  refine Preserves.ite' (fun _ => Preserves.bind'
    (preserves_same (Moves.modify' fun _ => AdmitsRepayment.update _ _ _)) fun _ => ?_) fun _ =>
    Preserves.pure' ()
  intro db u db' h hb
  obtain ⟨_, _, hget, h⟩ := yields_bind.mp h
  obtain ⟨rfl, rfl⟩ := yields_get.mp hget
  dsimp only at h
  split at h
  · obtain ⟨_, rfl⟩ := yields_pure.mp h
    exact hb
  · simp only [yields_bind, yields_pure, yields_createTransaction] at h
    obtain ⟨txn, _, ⟨_, rfl, rfl⟩, _, _, hleg, _, rfl⟩ := h
    refine leg_runningBalance _ hleg (runningBalance_noted hb (fun a ha => ?_) rfl)
    have hrow : db.accounts[i]? = some a := ha
    show (db.accounts[i]?.map (·.balance)).getD 0 = a.balance ∧
      (db.accounts[i]?.map (·.balance)).getD 0 = a.balance
    rw [hrow]
    exact ⟨rfl, rfl⟩

/-- Savings taken from a guarantor, with their row and its leg. -/
theorem keepsForfeits : KeepsForfeits (RunningBalance opening accountId) := by
  rintro db db' guarantorId i loanId a amount releasedAt type reference hb ha _ _ _
    ⟨description, by', _, _, _, _, _, htxn, hleg⟩
  obtain ⟨_, _, rfl⟩ := yields_createTransaction.mp htxn
  have hposted := runningBalance_posted (t := forfeitureTransaction i loanId type amount a.balance
    reference description by') (f := (·.forfeit amount)) hb ha rfl rfl rfl
  exact leg_runningBalance _ hleg ⟨hposted.booked, hposted.chain⟩

theorem uuid_runningBalance : Preserves (RunningBalance opening accountId) uuidv4 := by
  intro db s db' h hb
  obtain ⟨_, rfl⟩ := yields_uuidv4.mp h
  exact ⟨hb.booked, hb.chain⟩

theorem exec_runningBalance (op : Op) : Preserves (RunningBalance opening accountId) op.exec := by
  have hloan {id : Nat} (f : Loan → Loan) (hf : ∀ l : Loan, (f l).terms = l.terms) :
      Preserves (RunningBalance opening accountId) (modify (·.updateLoan id f)) :=
    preserves_same (modify_updateLoan_moves hf)
  cases op with
  | postEntry p => exact Preserves.bind' (postEntry_runningBalance p) fun _ => Preserves.pure' ()
  | transfer p =>
    exact Preserves.bind' (postInternalTransfer_runningBalance p) fun _ => Preserves.pure' ()
  | reverse id reason by' =>
    exact Preserves.bind' (reverseTransaction_runningBalance id reason by') fun _ =>
      Preserves.pure' ()
  | leg p => exact Preserves.bind' (leg_runningBalance p) fun _ => Preserves.pure' ()
  | repay p => exact Preserves.bind' (repay_runningBalance p) fun _ => Preserves.pure' ()
  | processRepayment now input =>
    exact Preserves.bind' (processRepayment_runningBalance now input) fun _ => Preserves.pure' ()
  | accrue seen loanId date =>
    exact Preserves.of_carries (accrue_of (R := Carries _)
      (fun _ _ _ _ _ => chargeAccount_runningBalance _ _ _ _ _ _)
      (fun _ _ => penalizeInstallment_runningBalance _ _ _ _) hloan)
  | disburse seen params =>
    exact Preserves.of_carries (disburse_of (R := Carries _)
      (fun _ _ => postEntry_runningBalance _) hloan
      (preserves_same (Moves.modify' fun _ => AdmitsRepayment.append _ _)))
  | recover now loanId amount by' =>
    exact Preserves.bind' (recoverFromGuarantors_keeps keepsForfeits uuid_runningBalance hloan _ _ _)
      fun _ => Preserves.pure' ()
  | offset now loanId jobId =>
    exact Preserves.bind' (offsetLoan_keeps keepsForfeits uuid_runningBalance hloan _ _) fun _ =>
      Preserves.pure' ()
  | _ => exact preserves_same (exec_sameBooks rfl)

end BalanceLemmas

open BalanceLemmas

/-- Every operation keeps the chain of an account: it moves the balance next to the row that says
so, or leaves both alone. -/
theorem step_runningBalance {opening : Int} {accountId : Nat} {db : Db} (op : Op)
    (h : RunningBalance opening accountId db) : RunningBalance opening accountId (step db op) :=
  Preserves.commit' (exec_runningBalance op) h

end BebaSacco
