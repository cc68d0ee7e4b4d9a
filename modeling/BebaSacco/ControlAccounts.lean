import BebaSacco.Provenance

/-! # The control accounts

The liability codes 2300 and 2400 should carry what the members hold in their FOSA
and BOSA accounts. Every posting of the ledger service keeps this, with one
exception: the reversal of an entry that is not the whole of its operation, such as
the entry of a transfer, undoes the GL side and only one of the two balances.

Results:
 1. `controlAccounts_step`: one operation keeps the control accounts when it does
    not reverse such an entry.
 2. `control_accounts_reconcile`: so does every run of such operations.
 3. `transfer_reversal_breaks_control`: the reversal of a transfer breaks them.
-/

namespace BebaSacco

open Txn HistoryLemmas FootprintLemmas

/-! ## 1. Entries that carry their transaction -/

/-- The entry has one posting, and what it does to the deposits codes is what its
transaction did to the balance of the account. -/
def Db.Traced (db : Db) (e : JournalEntry) : Prop :=
  ∃ (t : Transaction) (a : Account) (posting : GLPosting),
    db.transactions[e.referenceId]? = some t ∧ db.accounts[t.accountId]? = some a ∧
    e.singlePosting = some posting ∧ t.Moved ∧
    ∀ ty, posting.netCredit (memberDepositsCode ty) =
      if a.accountType = ty then t.balanceAfter - t.balanceBefore else 0

/-- The books of a tenant whose control accounts reconcile. -/
structure ControlAccounts (db : Db) : Prop where
  reconciled : ∀ ty, db.netCredit (memberDepositsCode ty) = db.deposits ty
  traced : ∀ e ∈ db.journalEntries, e.type.singleAccount = true → db.Traced e

/-- A state in which nothing has been posted and every account is empty. -/
structure Db.Opening (db : Db) : Prop where
  balances : ∀ a ∈ db.accounts, a.balance = 0
  journalEntries : db.journalEntries = []

/-- No leg of a repayment under this reference is in the books. -/
def Db.LegsUnposted (db : Db) (reference : String) : Prop :=
  ∀ suffix ∈ ["PENALTY", "INTEREST", "PRINCIPAL"],
    db.entryByNumber (legNumber reference suffix) = none

instance (db : Db) (reference : String) : Decidable (db.LegsUnposted reference) :=
  inferInstanceAs (Decidable (∀ suffix ∈ ["PENALTY", "INTEREST", "PRINCIPAL"], _))

namespace ControlLemmas

theorem opening_controls {db : Db} (h : db.Opening) : ControlAccounts db where
  reconciled ty := by
    have hdep : db.deposits ty = 0 := by
      refine Table.sumOver_zero fun a ha => ?_
      unfold Account.depositsIn
      rw [h.balances a ha, ite_self]
    rw [hdep, Db.netCredit, h.journalEntries]
    rfl
  traced e he := by
    rw [h.journalEntries] at he
    exact absurd he List.not_mem_nil

theorem traced_mono {db db' : Db} (h : db.Extends db') {e : JournalEntry} (he : db.Traced e) :
    db'.Traced e := by
  obtain ⟨t, a, posting, ht, ha, hp, hm, hnet⟩ := he
  obtain ⟨t', ht', hposted⟩ := h.transaction ht
  obtain ⟨hacc, _, hamt, hbef, haft⟩ := Transaction.posted_eq hposted
  obtain ⟨a', ha', _⟩ := h.account ha
  refine ⟨t', a', posting, ht', hacc ▸ ha', hp, ?_, fun ty => ?_⟩
  · unfold Transaction.Moved
    rw [hamt, hbef, haft]
    exact hm
  · rw [hnet ty, h.accountType ha ha', hbef, haft]

theorem memberDepositsCode_inj {a b : AccountType} :
    memberDepositsCode a = memberDepositsCode b ↔ a = b := by
  cases a <;> cases b <;> decide

/-- A posting in the direction of its type credits or debits the code of its account. -/
theorem resolveGlCodes_netCredit (amount : Int) (description : String) {ty : AccountType}
    {jt : JournalEntryType} {d c : String}
    (h : resolveGlCodes ty jt jt.direction none = .ok (d, c)) (ty' : AccountType) :
    GLPosting.netCredit (memberDepositsCode ty') ⟨d, c, amount, description⟩ =
      if ty = ty' then jt.direction.signed amount else 0 := by
  have hcash : GL_CODES.CASH ≠ memberDepositsCode ty' := by cases ty' <;> decide
  have hloan : GL_CODES.LOAN_RECEIVABLE ≠ memberDepositsCode ty' := by cases ty' <;> decide
  have hfee : GL_CODES.FEE_INCOME ≠ memberDepositsCode ty' := by cases ty' <;> decide
  cases jt <;> simp only [resolveGlCodes] at h <;> cases h <;>
    simp only [GLPosting.netCredit, memberDepositsCode_inj, JournalEntryType.direction,
      Direction.signed, if_neg hcash, if_neg hloan, if_neg hfee, Int.sub_zero, Int.zero_sub] <;>
    split <;> rfl

theorem transferCodes_netCredit (amount : Int) (description : String) {a b : AccountType}
    {d c : String} (h : resolveGlCodes a .transfer .debit (some b) = .ok (d, c))
    (ty : AccountType) :
    GLPosting.netCredit (memberDepositsCode ty) ⟨d, c, amount, description⟩ =
      (if b = ty then amount else 0) - (if a = ty then amount else 0) := by
  cases h
  simp only [GLPosting.netCredit, memberDepositsCode_inj]

/-! ## 2. The ledger service -/

/-- A state with more entries is controlled when the balances moved by what the entries do
to the deposits codes and the entries of single postings among them are traced. -/
theorem controls_append {db db' : Db} {es : List JournalEntry} (hext : db.Extends db')
    (hc : ControlAccounts db) (he : db'.journalEntries = db.journalEntries ++ es)
    (hrec : ∀ ty, db'.netCredit (memberDepositsCode ty) - db.netCredit (memberDepositsCode ty) =
      db'.deposits ty - db.deposits ty)
    (htr : ∀ e ∈ es, e.type.singleAccount = true → db'.Traced e) : ControlAccounts db' where
  reconciled ty := by
    have hold := hc.reconciled ty
    have hnew := hrec ty
    omega
  traced e hmem hs := by
    rw [he] at hmem
    rcases List.mem_append.mp hmem with hmem | hmem
    · exact traced_mono hext (hc.traced e hmem hs)
    · exact htr e hmem hs

theorem controls_insert {db db' : Db} {e : JournalEntry} (hext : db.Extends db')
    (hc : ControlAccounts db) (he : db'.journalEntries = db.journalEntries ++ [e])
    (hdep : ∀ ty, db'.deposits ty = db.deposits ty + e.netCredit (memberDepositsCode ty))
    (htr : e.type.singleAccount = true → db'.Traced e) : ControlAccounts db' := by
  refine controls_append hext hc he (fun ty => ?_) fun f hf => ?_
  · rw [hdep ty, Db.netCredit, he, Table.sumOver_append_one, Db.netCredit]
    omega
  · rw [List.mem_singleton.mp hf]
    exact htr

/-- What leaves the books alone keeps the control accounts. -/
theorem preserves_of_sameBooks {α : Type} {x : Tx α} (hext : Moves Db.Extends x)
    (hsame : Moves Db.SameBooks x) : Preserves ControlAccounts x := by
  intro db a db' h hc
  have hs := hsame h
  refine @controls_append db db' [] (hext h) hc ?_ (fun ty => ?_) fun e he => by cases he
  · rw [hs.journalEntries, List.append_nil]
  · rw [hs.netCredit, hs.deposits]
    omega

theorem postEntry_controls {p : PostEntryParams} (hdir : p.direction = p.journalType.direction) :
    Preserves ControlAccounts (postEntry p) := by
  intro db r db' h hc
  have hext : db.Extends db' := postEntry_moves p h
  rcases postEntry_cases h with ⟨rfl, _, _⟩ | ⟨⟨hpos, _, hw⟩, _, _⟩
  · exact hc
  obtain ⟨a, type, actor, description, d, c, ha, _, _, _, hcodes, rfl⟩ := hw
  rw [hdir] at hcodes
  have hnet := resolveGlCodes_netCredit (toDecimalPlaces4 p.amount) description hcodes
  rw [hdir] at hext ⊢
  refine controls_insert hext hc rfl (fun ty => ?_) fun _ => ?_
  · rw [deposits_insertEntry, deposits_insertTransaction, deposits_move ha,
      JournalEntry.netCredit_of_single singlePosting_ledgerEntry, hnet]
  · refine ⟨_, _, _, Table.getElem?_append_one_self, Table.getElem?_modify_self ha,
      singlePosting_ledgerEntry, ⟨hpos.le, ?_⟩, fun ty => ?_⟩
    · cases p.journalType.direction with
      | credit => exact .inl rfl
      | debit => exact .inr rfl
    · rw [hnet ty, Account.move_accountType]
      by_cases hty : a.accountType = ty
      · rw [if_pos hty, if_pos hty]
        show _ = a.balance + p.journalType.direction.signed (toDecimalPlaces4 p.amount) - a.balance
        omega
      · rw [if_neg hty, if_neg hty]

theorem postInternalTransfer_controls (p : TransferParams) :
    Preserves ControlAccounts (postInternalTransfer p) := by
  intro db r db' h hc
  have hext : db.Extends db' := postInternalTransfer_moves p h
  rcases postInternalTransfer_cases h with ⟨rfl, _⟩ | ⟨⟨_, hne, hw⟩, _⟩
  · exact hc
  obtain ⟨a, b, description, d, c, ha, _, _, hb, _, hcodes, rfl⟩ := hw
  have hnet := transferCodes_netCredit (toDecimalPlaces4 p.amount) description hcodes
  have hb' : (db.updateAccount p.fromAccountId
      (·.move (-toDecimalPlaces4 p.amount))).accounts[p.toAccountId]? = some b := by
    rw [Db.updateAccount, Table.getElem?_modify_other hne, hb]
  refine controls_insert hext hc rfl (fun ty => ?_) fun hs => by cases hs
  rw [deposits_insertEntry, deposits_updateTransaction, deposits_insertTransaction,
    deposits_insertTransaction, deposits_move hb', deposits_move ha,
    JournalEntry.netCredit_of_single singlePosting_ledgerEntry, hnet]
  split <;> split <;> omega

theorem reverseTransaction_controls {id : Nat} {reason : String} {actorId : Option String}
    {r : ReversalResult} {db db' : Db} (h : Yields (reverseTransaction id reason actorId) db r db')
    (hsingle : ∀ i e, db.entryOfTransaction id = some (i, e) → e.type.singleAccount = true)
    (hc : ControlAccounts db) : ControlAccounts db' := by
  have hext : db.Extends db' := reverseTransaction_moves id reason actorId h
  obtain ⟨t, i, e, posting, a, reason, by', ht, _, he, hp, _, ha, _, _, rfl⟩ :=
    (reverseTransaction_cases h).written
  obtain ⟨hrow, href⟩ := entryOfTransaction_some he
  obtain ⟨t', a', posting', ht', ha', hp', hm, hnet⟩ :=
    hc.traced e (List.mem_of_getElem? hrow) (hsingle i e he)
  rw [href, ht] at ht'
  cases ht'
  rw [ha] at ha'
  cases ha'
  rw [hp] at hp'
  cases hp'
  -- the reversal moves the account back, and its posting is the old one swapped
  have hdelta := hm.reverseDirection_signed
  have hswap : ∀ ty, posting.swapped.netCredit (memberDepositsCode ty) =
      if a.accountType = ty then t.balanceBefore - t.balanceAfter else 0 := by
    intro ty
    rw [GLPosting.netCredit_swapped, hnet ty]
    split
    · omega
    · rfl
  have hlt : id ≠ db.transactions.length :=
    Nat.ne_of_lt (Table.lt_length_of_getElem? ht)
  refine controls_insert hext hc rfl (fun ty => ?_) fun _ => ?_
  · have hrev := JournalEntry.netCredit_of_single
      (singlePosting_reversal e i posting t.reference db.transactions.length reason by')
      (memberDepositsCode ty)
    rw [deposits_updateTransaction, deposits_insertEntry, deposits_insertTransaction,
      deposits_move ha, hrev, hswap ty, hdelta]
  · refine ⟨t.reversal id
      ⟨a.balance, a.balance + t.reverseDirection.signed t.amount, a.accountType⟩ reason by',
      a.move (t.reverseDirection.signed t.amount), posting.swapped, ?_,
      Table.getElem?_modify_self ha, rfl, ⟨hm.1, ?_⟩, fun ty => ?_⟩
    · exact (Table.getElem?_modify_other hlt).trans Table.getElem?_append_one_self
    · obtain ⟨_, hmove⟩ := hm
      dsimp only [Transaction.reversal]
      omega
    · rw [hswap ty, Account.move_accountType]
      by_cases hty : a.accountType = ty
      · rw [if_pos hty, if_pos hty]
        show _ = a.balance + t.reverseDirection.signed t.amount - a.balance
        omega
      · rw [if_neg hty, if_neg hty]

/-! ## 3. Repayments -/

theorem createTransaction_controls (t : Transaction) :
    Preserves ControlAccounts (createTransaction t) := by
  intro db id db' h hc
  have hext : db.Extends db' := createTransaction_moves t h
  obtain ⟨_, _, rfl⟩ := yields_createTransaction.mp h
  exact ⟨hc.reconciled, fun e he hs => traced_mono hext (hc.traced e he hs)⟩

theorem uuidv4_controls : Preserves ControlAccounts uuidv4 := by
  intro db s db' h hc
  obtain ⟨_, rfl⟩ := yields_uuidv4.mp h
  exact ⟨hc.reconciled, hc.traced⟩

theorem memberDepositsCode_ne_creditCode (ty : AccountType) (leg : Leg) :
    leg.creditCode ≠ memberDepositsCode ty := by
  cases ty <;> cases leg <;> decide

/-- A leg that does not debit the deposits of the members. -/
theorem postGlOnlyLegEntry_controls {p : LegParams}
    (hdebit : ∀ ty, p.debitCode ≠ memberDepositsCode ty)
    (htype : p.journalType.singleAccount = false) :
    Preserves ControlAccounts (postGlOnlyLegEntry p) := by
  intro db r db' h hc
  have hext : db.Extends db' := postGlOnlyLegEntry_moves p h
  obtain ⟨_, ⟨rfl, _⟩ | ⟨_, actor, rfl⟩⟩ := postGlOnlyLegEntry_cases h
  · exact hc
  refine controls_insert hext hc rfl (fun ty => ?_) fun hs => ?_
  · rw [deposits_insertEntry, JournalEntry.netCredit_of_single singlePosting_ledgerEntry]
    simp only [GLPosting.netCredit, if_neg (hdebit ty),
      if_neg (memberDepositsCode_ne_creditCode ty p.leg), Int.sub_zero, Int.add_zero]
  · change p.journalType.singleAccount = true at hs
    rw [htype] at hs
    cases hs

theorem allocateLeg_controls (input : ProcessRepaymentInput) (accountId loanId : Nat)
    (balance : Int) (leg : Leg) (amount : Nat) :
    Preserves ControlAccounts (allocateLeg input accountId loanId balance leg amount) := by
  refine Preserves.ite' (fun _ => Preserves.bind' ?_ fun txnId =>
    Preserves.bind' (postGlOnlyLegEntry_controls ?_ rfl) fun _ => Preserves.pure' _)
    fun _ => Preserves.pure' _
  · exact Preserves.bind' uuidv4_controls fun _ => createTransaction_controls _
  · intro ty
    show GL_CODES.CASH ≠ memberDepositsCode ty
    cases ty <;> decide

theorem processRepayment_controls (now : Int) (input : ProcessRepaymentInput) :
    Preserves ControlAccounts (processRepayment now input) := by
  refine Preserves.bind' Preserves.required' fun amount => Preserves.bind' Preserves.get' fun db => ?_
  split
  · exact Preserves.bind' Preserves.required' fun _ => Preserves.pure' _
  refine Preserves.bind' (Preserves.bind' Preserves.get' fun _ =>
    Preserves.bind' Preserves.required' fun _ => Preserves.bind' Preserves.ensure' fun _ =>
    Preserves.pure' _) fun target => ?_
  refine Preserves.bind' (Preserves.bind' Preserves.get' fun _ => Preserves.required') fun fosa =>
    Preserves.bind' ?_ fun _ =>
    Preserves.bind' (allocateLeg_controls _ _ _ _ _ _) fun _ =>
    Preserves.bind' (allocateLeg_controls _ _ _ _ _ _) fun _ =>
    Preserves.bind' (allocateLeg_controls _ _ _ _ _ _) fun _ =>
    Preserves.bind' ?_ fun _ => Preserves.bind' ?_ fun _ => Preserves.bind' ?_ fun _ =>
    Preserves.pure' _
  · exact preserves_of_sameBooks (applyInstallmentAllocation_moves _ _ _)
      (applyInstallmentAllocation_moves _ _ _)
  · exact Preserves.ite' (fun _ => Preserves.bind' (postEntry_controls rfl) fun _ =>
      Preserves.pure' _) fun _ => Preserves.pure' _
  · exact preserves_of_sameBooks (modify_updateLoan_moves fun _ => rfl)
      (modify_updateLoan_moves fun _ => rfl)
  · exact preserves_of_sameBooks (settleMpesa_moves _ _ _) (settleMpesa_moves _ _ _)

/-- A leg debits the deposits of the FOSA accounts by its amount. -/
theorem repayLeg_netCredit {reference suffix by' : String} {leg : Leg} {amount txn : Nat} {u : Unit}
    {db db' : Db} (h : Yields (repayLeg reference leg suffix amount txn by') db u db')
    (hfresh : db.entryByNumber (legNumber reference suffix) = none) (ty : AccountType) :
    db'.netCredit (memberDepositsCode ty) =
      db.netCredit (memberDepositsCode ty) - if ty = .fosa then (amount : Int) else 0 := by
  rcases repayLeg_cases h with ⟨rfl, h0 | ⟨e, he⟩⟩ | ⟨_, actor, description, rfl⟩
  · subst h0
    cases ty <;> simp only [reduceCtorEq, if_false, if_true, Int.natCast_zero, Int.sub_zero]
  · rw [hfresh] at he
    cases he
  · have hdebit : GL_CODES.FOSA_DEPOSITS = memberDepositsCode ty ↔ ty = .fosa := by
      cases ty <;> decide
    rw [netCredit_insertEntry, JournalEntry.netCredit_of_single singlePosting_ledgerEntry]
    simp only [GLPosting.netCredit, if_neg (memberDepositsCode_ne_creditCode ty leg), hdebit]
    omega

theorem repayLeg_unposted {reference suffix suffix' by' : String} {leg : Leg} {amount txn : Nat}
    {u : Unit} {db db' : Db} (h : Yields (repayLeg reference leg suffix amount txn by') db u db')
    (hne : suffix ≠ suffix') (hfresh : db.entryByNumber (legNumber reference suffix') = none) :
    db'.entryByNumber (legNumber reference suffix') = none := by
  rcases repayLeg_cases h with ⟨rfl, _⟩ | ⟨_, actor, description, rfl⟩
  · exact hfresh
  · have hnum : legNumber reference suffix ≠ legNumber reference suffix' :=
      fun heq => hne (legNumber_inj heq)
    unfold Db.entryByNumber at hfresh ⊢
    rw [Db.insertEntry, Table.findRow_append_one, hfresh, Option.none_or, if_neg]
    rw [beq_iff_eq]
    exact hnum

theorem repayLegs_netCredit {reference by' : String} {a : Allocation} {txn : Nat} {u : Unit}
    {db db' : Db} (h : Yields (repayLegs reference a txn by') db u db')
    (hfresh : db.LegsUnposted reference) (ty : AccountType) :
    db'.netCredit (memberDepositsCode ty) =
      db.netCredit (memberDepositsCode ty) - if ty = .fosa then (a.total : Int) else 0 := by
  simp only [repayLegs, yields_bind] at h
  obtain ⟨_, db₁, h₁, _, db₂, h₂, h₃⟩ := h
  have hp : db.entryByNumber (legNumber reference "PENALTY") = none := hfresh _ (by decide)
  have hi : db.entryByNumber (legNumber reference "INTEREST") = none := hfresh _ (by decide)
  have hr : db.entryByNumber (legNumber reference "PRINCIPAL") = none := hfresh _ (by decide)
  have hi' := repayLeg_unposted h₁ (by decide) hi
  have hr' := repayLeg_unposted h₂ (by decide) (repayLeg_unposted h₁ (by decide) hr)
  rw [repayLeg_netCredit h₃ hr' ty, repayLeg_netCredit h₂ hi' ty, repayLeg_netCredit h₁ hp ty]
  unfold Allocation.total
  split <;> omega

theorem repayAllocation_total (loan : Loan) (n : Nat) : (loan.repayAllocation n).total = n := by
  simp only [Loan.repayAllocation, Allocation.total]
  omega

theorem deposits_set {db : Db} {id : Nat} {a : Account} {n : Int} {ty : AccountType}
    (h : db.accounts[id]? = some a) :
    (db.updateAccount id fun a => { a with balance := n }).deposits ty =
      db.deposits ty + if a.accountType = ty then n - a.balance else 0 := by
  rw [Db.deposits, Db.updateAccount, Table.sumOver_modify h]
  simp only [Account.depositsIn, Db.deposits]
  split <;> omega

/-- The balance that a repayment takes is what its legs debit. -/
theorem repayPosted_controls {p : RepayParams} {db mid : Db} {accountId : Nat} {account : Account}
    {loan : Loan} (h : RepayPosted p db accountId account loan mid) (hext : db.Extends mid)
    (hfresh : db.LegsUnposted (p.reference db.tenantId)) (hc : ControlAccounts db) :
    ControlAccounts mid := by
  obtain ⟨legged, hlegs, rfl⟩ := h.written
  obtain ⟨ha, _, hty, _⟩ := activeAccount_some h.account_eq
  have hnet := repayLegs_netCredit hlegs hfresh
  obtain ⟨es, hes, hadd⟩ := repayLegs_added hlegs
  have hentries : legged.journalEntries = db.journalEntries ++ es := by
    rw [hadd]
    rfl
  have hdep : ∀ ty, legged.deposits ty =
      db.deposits ty - if ty = .fosa then (p.actualRepayment loan : Int) else 0 := by
    intro ty
    rw [hadd]
    show (db.updateAccount accountId fun a =>
      { a with balance := account.balance - p.actualRepayment loan }).deposits ty = _
    rw [deposits_set ha, hty]
    by_cases h0 : ty = .fosa
    · rw [if_pos h0, if_pos h0.symm]
      omega
    · rw [if_neg h0, if_neg fun h1 => h0 h1.symm]
      omega
  refine controls_append hext hc hentries (fun ty => ?_) fun e he hs => ?_
  · have hnet' := hnet ty
    rw [repayAllocation_total] at hnet'
    show legged.netCredit (memberDepositsCode ty) - _ = legged.deposits ty - _
    rw [hdep ty, hnet']
    show db.netCredit (memberDepositsCode ty) - _ - _ = _
    omega
  · rw [hes e he] at hs
    cases hs

theorem repay_controls {p : RepayParams} {r : RepayResult} {db db' : Db}
    (h : Yields (repay p) db r db') (hfresh : db.LegsUnposted (p.reference db.tenantId))
    (hc : ControlAccounts db) : ControlAccounts db' := by
  rcases repay_cases h with rfl | ⟨accountId, account, loan, mid, hposted, hrest⟩
  · exact hc
  have hmid : ControlAccounts mid :=
    repayPosted_controls hposted (repayPosted_moves hposted) hfresh hc
  rcases hrest with ⟨_, hrel⟩ | ⟨_, rfl⟩
  · exact preserves_of_sameBooks (releaseOnFullRepayment_moves _ _)
      (releaseOnFullRepayment_moves _ _) hrel hmid
  · exact hmid

end ControlLemmas

open ControlLemmas

/-! ## 4. Runs -/

/-- The operations that move a balance or post one. -/
def Op.movesBalance : Op → Bool
  | .postEntry _ | .transfer _ | .reverse _ _ _ | .repay _ | .processRepayment _ _ => true
  | _ => false

/-- The operation is one of these and leaves the control accounts in step: a posting goes
in the direction of its type, a reversal finds the entry of a single posting, and a
repayment finds none of its legs in the books. -/
def KeepsControl (db : Db) : Op → Prop
  | .postEntry p => p.direction = p.journalType.direction
  | .transfer _ => True
  | .reverse id _ _ => ∀ r ∈ db.entryOfTransaction id, r.2.type.singleAccount = true
  | .repay p => db.LegsUnposted (p.reference db.tenantId)
  | .processRepayment _ _ => True
  | _ => False

instance (db : Db) (op : Op) : Decidable (KeepsControl db op) := by
  cases op <;> unfold KeepsControl <;> infer_instance

theorem controlAccounts_step {db : Db} {op : Op} (hc : ControlAccounts db)
    (h : KeepsControl db op) : ControlAccounts (step db op) := by
  rcases step_cases db op with ⟨u, hy⟩ | hsame
  · cases op with
    | postEntry p =>
      exact Preserves.bind' (postEntry_controls h) (fun _ => Preserves.pure' ()) hy hc
    | transfer p =>
      exact Preserves.bind' (postInternalTransfer_controls p) (fun _ => Preserves.pure' ()) hy hc
    | reverse id reason actorId =>
      simp only [Op.exec, yields_bind, yields_pure] at hy
      obtain ⟨r, db', hrev, _, rfl⟩ := hy
      exact reverseTransaction_controls hrev (fun i e he => h (i, e) he) hc
    | repay p =>
      simp only [Op.exec, yields_bind, yields_pure] at hy
      obtain ⟨r, db', hrep, _, rfl⟩ := hy
      exact repay_controls hrep h hc
    | processRepayment now input =>
      exact Preserves.bind' (processRepayment_controls now input) (fun _ => Preserves.pure' ()) hy hc
    | _ => exact h.elim
  · rw [hsame]
    exact hc

/-- The control accounts of an opening that is followed by such operations carry what the
members hold. -/
theorem control_accounts_reconcile {db : Db} (hopen : db.Opening) {ops : List Op}
    (h : Machine.Guarded step KeepsControl db ops) :
    (db.after ops).netCredit "2300" = (db.after ops).deposits .fosa ∧
      (db.after ops).netCredit "2400" = (db.after ops).deposits .bosa := by
  have hc : ControlAccounts (db.after ops) :=
    Machine.run_induct (fun _ _ => controlAccounts_step) (opening_controls hopen) h
  exact ⟨hc.reconciled .fosa, hc.reconciled .bosa⟩

/-- A deposit, a transfer from the FOSA to the BOSA account, a repayment from the balance, one
from outside with an overpayment, and the reversal of the deposit of the overpayment. -/
def exBooks : List Op :=
  [exDeposit "D1" 0 100,
    .transfer { fromAccountId := 0, toAccountId := 1, amount := 40, reference := "T1", actorId := "A" },
    .repay
      { loanId := 0, amountKes := 500000, processedBy := "A", idempotencyKey := some "k",
        minute := "m", now := 0 },
    .processRepayment 0
      { reference := "P1", amount := some 70, processedBy := "A", memberId := some 0 },
    .reverse 5 "posted twice" none]

theorem control_accounts_reconcile_books :
    (exSacco.after exBooks).netCredit "2300" = (exSacco.after exBooks).deposits .fosa ∧
      (exSacco.after exBooks).netCredit "2400" = (exSacco.after exBooks).deposits .bosa :=
  control_accounts_reconcile ⟨by decide, rfl⟩ (by decide +kernel)

/-- The reversal of the transfer's first transaction. -/
def exTransferReversal : List Op := exTransfer ++ [.reverse 1 "wrong account" none]

/-- The reversal takes the transfer out of the ledger and leaves the money in the BOSA
account. -/
theorem transfer_reversal_breaks_control :
    exSacco.Opening ∧ (∀ op ∈ exTransferReversal, op.movesBalance = true) ∧
      (exSacco.after exTransferReversal).netCredit "2400" = 0 ∧
      (exSacco.after exTransferReversal).deposits .bosa = 400000 :=
  ⟨⟨by decide, rfl⟩, by decide, by decide +kernel, by decide +kernel⟩

end BebaSacco
