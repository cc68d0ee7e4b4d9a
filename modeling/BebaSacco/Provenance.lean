import BebaSacco.History

/-! # Where journal entries come from

Every entry refers to a transaction. The entries of `postEntry` and of reversals are the
only ones of their transaction, and the transaction moved its account by its amount;
transfers, repayments and the charges against an account leave entries that are only a
part of what was done.

Results:
 1. `attributed_step`: every operation keeps this.
 2. `attributed_after`: it holds after every run from an empty journal.
-/

namespace BebaSacco

open Txn HistoryLemmas FootprintLemmas

/-! ## 1. Kinds of entries -/

/-- The types of the entries that stand for one posting on one account. -/
def JournalEntryType.singleAccount : JournalEntryType → Bool
  | .deposit | .mpesaDeposit | .withdrawal | .loanDisbursement | .feeCharge | .reversal => true
  | _ => false

/-- The types of the entries that are a part of an operation: of a transfer, of a repayment,
of a forfeiture or of a charge. -/
def JournalEntryType.part : JournalEntryType → Bool
  | .transfer | .loanRepayment | .interestAccrual => true
  | _ => false

/-- The row moved its account by its amount, up or down. -/
def Transaction.Moved (t : Transaction) : Prop :=
  0 ≤ t.amount ∧
    (t.balanceAfter = t.balanceBefore + t.amount ∨ t.balanceAfter = t.balanceBefore - t.amount)

/-- The reversal moves the account by the opposite of what the row did. -/
theorem Transaction.Moved.reverseDirection_signed {t : Transaction} (h : t.Moved) :
    t.reverseDirection.signed t.amount = t.balanceBefore - t.balanceAfter := by
  obtain ⟨hpos, hmove⟩ := h
  unfold Transaction.reverseDirection
  split
  · rw [Direction.signed]
    omega
  · rw [Direction.signed]
    omega

/-- The journal as the services keep it. -/
structure Attributed (db : Db) : Prop where
  amounts : ∀ t ∈ db.transactions, 0 ≤ t.amount
  referred : ∀ e ∈ db.journalEntries, e.referenceId < db.transactions.length
  typed : ∀ e ∈ db.journalEntries, e.type.singleAccount = true ∨ e.type.part = true
  single : ∀ e ∈ db.journalEntries, e.type.singleAccount = true →
    ∃ t : Transaction, db.transactions[e.referenceId]? = some t ∧ t.Moved ∧ t.type ≠ .transfer
  alone : ∀ (i j : Nat) (e f : JournalEntry), db.journalEntries[i]? = some e →
    db.journalEntries[j]? = some f → e.type.singleAccount = true →
    f.referenceId = e.referenceId → i = j

/-- The transaction `id` has no entry of a single posting. -/
structure AttributedAt (id : Nat) (db : Db) : Prop where
  base : Attributed db
  row : id < db.transactions.length
  free : ∀ e ∈ db.journalEntries, e.type.singleAccount = true → e.referenceId ≠ id

namespace ProvenanceLemmas

theorem part_not_singleAccount {ty : JournalEntryType} (h : ty.part = true) :
    ty.singleAccount = false := by
  cases ty <;> first | rfl | cases h

theorem singleAccount_not_part {ty : JournalEntryType} (h : ty.singleAccount = true) :
    ty.part = false := by
  cases ty <;> first | rfl | cases h

end ProvenanceLemmas

/-! ## 2. Writes that add no row -/

/-- No transaction and no journal entry changed. -/
structure Db.SameRows (db db' : Db) : Prop where
  transactions : db'.transactions = db.transactions
  journalEntries : db'.journalEntries = db.journalEntries

instance : History Db.SameRows where
  refl _ := ⟨rfl, rfl⟩
  trans h k :=
    ⟨k.transactions.trans h.transactions, k.journalEntries.trans h.journalEntries⟩

instance : AdmitsBalance Db.SameRows := ⟨fun _ _ _ => ⟨rfl, rfl⟩, fun _ _ _ => ⟨rfl, rfl⟩⟩

instance : AdmitsHold Db.SameRows := ⟨fun _ _ _ => ⟨rfl, rfl⟩⟩

instance : AdmitsLoan Db.SameRows := ⟨fun _ _ _ _ => ⟨rfl, rfl⟩⟩

instance : AdmitsRepayment Db.SameRows := ⟨fun _ _ _ => ⟨rfl, rfl⟩, fun _ _ => ⟨rfl, rfl⟩⟩

instance : AdmitsGuarantor Db.SameRows := ⟨fun _ _ _ _ => ⟨rfl, rfl⟩⟩

instance : AdmitsMpesa Db.SameRows := ⟨fun _ _ _ => ⟨rfl, rfl⟩⟩

namespace ProvenanceLemmas

theorem uuidv4_rows : Moves Db.SameRows uuidv4 := by
  intro db s db' h
  obtain ⟨_, rfl⟩ := yields_uuidv4.mp h
  exact ⟨rfl, rfl⟩

theorem attributed_rows {db db' : Db} (hs : db.SameRows db') (h : Attributed db) :
    Attributed db' := by
  obtain ⟨ht, he⟩ := hs
  constructor
  · rw [ht]; exact h.amounts
  · rw [ht, he]; exact h.referred
  · rw [he]; exact h.typed
  · rw [ht, he]; exact h.single
  · rw [he]; exact h.alone

theorem attributedAt_rows {id : Nat} {db db' : Db} (hs : db.SameRows db') (h : AttributedAt id db) :
    AttributedAt id db' := by
  refine ⟨attributed_rows hs h.base, ?_, ?_⟩
  · rw [hs.transactions]; exact h.row
  · rw [hs.journalEntries]; exact h.free

variable {α : Type} {x : Tx α}

theorem rows_attributed (hx : Moves Db.SameRows x) : Preserves Attributed x :=
  Preserves.of_moves hx fun _ _ => attributed_rows

theorem rows_attributedAt {id : Nat} (hx : Moves Db.SameRows x) : Preserves (AttributedAt id) x :=
  Preserves.of_moves hx fun _ _ => attributedAt_rows

/-! ## 3. New rows -/

theorem length_le_of_extends {db db' : Db} (h : db.Extends db') :
    db.transactions.length ≤ db'.transactions.length := by
  have hlen := h.transactions.length_le
  rw [List.length_map, List.length_map] at hlen
  exact hlen

/-- A journal with one more entry is attributed when the entry shares its transaction with
no other entry, or neither is the entry of a single posting. -/
theorem attributed_insert {db db' : Db} {e : JournalEntry} (hext : db.Extends db')
    (h : Attributed db) (he : db'.journalEntries = db.journalEntries ++ [e])
    (hamounts : ∀ t ∈ db'.transactions, 0 ≤ t.amount)
    (href : e.referenceId < db'.transactions.length)
    (htyped : e.type.singleAccount = true ∨ e.type.part = true)
    (hsingle : e.type.singleAccount = true →
      ∃ t : Transaction, db'.transactions[e.referenceId]? = some t ∧ t.Moved ∧ t.type ≠ .transfer)
    (halone : ∀ f ∈ db.journalEntries, f.referenceId = e.referenceId →
      f.type.singleAccount = false ∧ e.type.singleAccount = false) : Attributed db' where
  amounts := hamounts
  referred := by
    rw [he]
    exact Table.forall_append_one
      (fun f hf => Nat.lt_of_lt_of_le (h.referred f hf) (length_le_of_extends hext)) href
  typed := by
    rw [he]
    exact Table.forall_append_one h.typed htyped
  single := by
    rw [he]
    refine Table.forall_append_one (fun f hf hs => ?_) hsingle
    obtain ⟨t, ht, hm, hty⟩ := h.single f hf hs
    obtain ⟨t', ht', hposted⟩ := hext.transaction ht
    obtain ⟨_, htype, hamt, hbef, haft⟩ := Transaction.posted_eq hposted
    refine ⟨t', ht', ?_, by rw [htype]; exact hty⟩
    unfold Transaction.Moved
    rw [hamt, hbef, haft]
    exact hm
  alone i j f g hi hj hs hfg := by
    rw [he] at hi hj
    rcases Table.getElem?_append_one_some hi with hi' | ⟨hilen, hie⟩ <;>
      rcases Table.getElem?_append_one_some hj with hj' | ⟨hjlen, hje⟩
    · exact h.alone i j f g hi' hj' hs hfg
    · rw [hje] at hfg
      have hno := (halone f (List.mem_of_getElem? hi') hfg.symm).1
      rw [hno] at hs
      cases hs
    · rw [hie] at hfg hs
      have hno := (halone g (List.mem_of_getElem? hj') hfg).2
      rw [hno] at hs
      cases hs
    · rw [hilen, hjlen]

theorem createTransaction_at {t : Transaction} (ht : 0 ≤ t.amount) :
    Ensures Attributed (createTransaction t) fun id => AttributedAt id := by
  intro db id db' h hdb
  obtain ⟨_, rfl, rfl⟩ := yields_createTransaction.mp h
  refine ⟨⟨Table.forall_append_one hdb.amounts ht, ?_, hdb.typed, ?_, hdb.alone⟩, ?_, ?_⟩
  · intro e he
    have hlt := hdb.referred e he
    rw [Db.insertTransaction, List.length_append]
    exact Nat.lt_add_right _ hlt
  · intro e he hs
    obtain ⟨t', ht', hm⟩ := hdb.single e he hs
    exact ⟨t', Table.getElem?_append_one_old ht', hm⟩
  · rw [Db.insertTransaction, List.length_append]
    exact Nat.lt_succ_self _
  · intro e he _
    exact Nat.ne_of_lt (hdb.referred e he)

/-- A leg is posted for a transaction without the entry of a single posting. -/
theorem postGlOnlyLegEntry_at {id : Nat} {p : LegParams} (hid : p.transactionId = id)
    (htype : p.journalType.part = true) :
    Preserves (AttributedAt id) (postGlOnlyLegEntry p) := by
  intro db r db' h hdb
  have hext : db.Extends db' := postGlOnlyLegEntry_moves p h
  obtain ⟨_, ⟨rfl, _⟩ | ⟨_, actor, rfl⟩⟩ := postGlOnlyLegEntry_cases h
  · exact hdb
  have hns : p.journalType.singleAccount = false := part_not_singleAccount htype
  refine ⟨attributed_insert hext hdb.base rfl hdb.base.amounts ?_ (.inr htype) ?_ ?_, hdb.row, ?_⟩
  · show p.transactionId < _
    rw [hid]
    exact hdb.row
  · intro hs
    change p.journalType.singleAccount = true at hs
    rw [hns] at hs
    cases hs
  · intro f hf href
    refine ⟨?_, hns⟩
    cases hsf : f.type.singleAccount with
    | false => rfl
    | true =>
      refine absurd ?_ (hdb.free f hf hsf)
      rw [href]
      exact hid
  · intro e he hs
    rcases List.mem_append.mp he with he | he
    · exact hdb.free e he hs
    · rw [List.mem_singleton.mp he] at hs
      change p.journalType.singleAccount = true at hs
      rw [hns] at hs
      cases hs

/-! ## 4. The ledger service -/

theorem resolveGlCodes_singleAccount {ty : AccountType} {jt : JournalEntryType} {dir : Direction}
    {codes : String × String} (h : resolveGlCodes ty jt dir none = .ok codes) :
    jt.singleAccount = true := by
  cases jt <;> first | rfl | cases h

theorem transactionType_ne_transfer {jt : JournalEntryType} {type : TransactionType}
    (hs : jt.singleAccount = true) (h : JOURNAL_TO_TRANSACTION_TYPE jt = some type) :
    type ≠ .transfer := by
  cases jt <;> cases h <;> first | decide | cases hs

/-- Entries refer to older transactions, so none refers to the next one. -/
theorem next_alone {db : Db} (h : Attributed db) {n : Nat} (hn : db.transactions.length ≤ n)
    {b : Bool} : ∀ f ∈ db.journalEntries, f.referenceId = n →
      f.type.singleAccount = false ∧ b = false := by
  intro f hf href
  have hlt := h.referred f hf
  omega

theorem postEntry_attributed (p : PostEntryParams) : Preserves Attributed (postEntry p) := by
  intro db r db' h hdb
  have hext : db.Extends db' := postEntry_moves p h
  rcases postEntry_cases h with ⟨rfl, _, _⟩ | ⟨⟨hpos, _, hw⟩, _, _⟩
  · exact hdb
  obtain ⟨a, type, actor, description, d, c, _, _, _, htype, hcodes, rfl⟩ := hw
  have hs := resolveGlCodes_singleAccount hcodes
  refine attributed_insert hext hdb rfl (Table.forall_append_one hdb.amounts hpos.le) ?_ (.inl hs)
    (fun _ => ⟨_, Table.getElem?_append_one_self, ⟨hpos.le, ?_⟩, ?_⟩) (next_alone hdb le_rfl)
  · show db.transactions.length < (db.transactions ++ [_]).length
    rw [List.length_append]
    exact Nat.lt_succ_self _
  · cases hdir : p.direction with
    | credit => exact .inl rfl
    | debit => exact .inr rfl
  · exact transactionType_ne_transfer hs htype

theorem postInternalTransfer_attributed (p : TransferParams) :
    Preserves Attributed (postInternalTransfer p) := by
  intro db r db' h hdb
  have hext : db.Extends db' := postInternalTransfer_moves p h
  rcases postInternalTransfer_cases h with ⟨rfl, _⟩ | ⟨⟨hpos, _, hw⟩, _⟩
  · exact hdb
  obtain ⟨a, b, description, d, c, _, _, _, _, _, _, rfl⟩ := hw
  refine attributed_insert hext hdb rfl ?_ ?_ (.inr rfl) (fun hs => by cases hs)
    (next_alone hdb le_rfl)
  · exact Table.forall_modify (Table.forall_append_one
      (Table.forall_append_one hdb.amounts hpos.le) hpos.le) fun _ ht => ht
  · show db.transactions.length < (List.modify (db.transactions ++ [_] ++ [_]) _ _).length
    rw [List.length_modify, List.length_append, List.length_append]
    exact Nat.lt_add_right _ (Nat.lt_succ_self _)

theorem reverseTransaction_attributed (id : Nat) (reason : String) (actorId : Option String) :
    Preserves Attributed (reverseTransaction id reason actorId) := by
  intro db r db' h hdb
  have hext : db.Extends db' := reverseTransaction_moves id reason actorId h
  obtain ⟨t, i, e, posting, a, reason, by', ht, _, _, _, _, _, _, _, rfl⟩ :=
    (reverseTransaction_cases h).written
  have hamt : 0 ≤ t.amount := hdb.amounts t (List.mem_of_getElem? ht)
  have hne : id ≠ db.transactions.length := Nat.ne_of_lt (Table.lt_length_of_getElem? ht)
  refine attributed_insert hext hdb rfl ?_ ?_ (.inl rfl) (fun _ => ?_) (next_alone hdb le_rfl)
  · exact Table.forall_modify (Table.forall_append_one hdb.amounts hamt) fun _ ht => ht
  · show db.transactions.length < (List.modify (db.transactions ++ [_]) _ _).length
    rw [List.length_modify, List.length_append]
    exact Nat.lt_succ_self _
  · refine ⟨_, (Table.getElem?_modify_other hne).trans Table.getElem?_append_one_self,
      ⟨hamt, ?_⟩, fun hc => by cases hc⟩
    cases hdir : t.reverseDirection with
    | credit => exact .inl rfl
    | debit => exact .inr rfl

/-! ## 5. Repayments and accrual -/

theorem repayLeg_at (reference : String) (leg : Leg) (suffix : String) (amount txn : Nat)
    (by' : String) :
    Preserves (AttributedAt txn) (repayLeg reference leg suffix amount txn by') :=
  Preserves.ite' (fun _ => Preserves.bind' (postGlOnlyLegEntry_at rfl rfl) fun _ =>
    Preserves.pure' ()) fun _ => Preserves.pure' ()

theorem base_of_at {id : Nat} : Ensures (AttributedAt id) x (fun _ => AttributedAt id) →
    Ensures (AttributedAt id) x fun _ => Attributed :=
  fun h => h.mono fun _ _ hat => hat.base

theorem repay_attributed (p : RepayParams) : Preserves Attributed (repay p) := by
  refine Preserves.bind' Preserves.ensure' fun _ => Preserves.bind' Preserves.get' fun db =>
    Preserves.bind' Preserves.required' fun loan => Preserves.bind' Preserves.required' fun fosa => ?_
  refine Preserves.bind' Preserves.get' fun db => ?_
  split
  · exact Preserves.bind' Preserves.required' fun _ => Preserves.pure' _
  refine Preserves.bind' Preserves.required' fun acc => Preserves.bind' Preserves.required' fun loan =>
    Preserves.bind' Preserves.ensure' fun _ => Preserves.bind' Preserves.ensure' fun _ =>
    Ensures.bind' (createTransaction_at (Int.natCast_nonneg _)) fun txn => base_of_at ?_
  exact Preserves.bind' (rows_attributedAt (Moves.modify' fun _ => AdmitsBalance.set _ _ _)) fun _ =>
    Preserves.bind' (repayLeg_at _ _ _ _ _ _) fun _ =>
    Preserves.bind' (repayLeg_at _ _ _ _ _ _) fun _ =>
    Preserves.bind' (repayLeg_at _ _ _ _ _ _) fun _ =>
    Preserves.bind' (rows_attributedAt (modify_updateLoan_moves fun _ => rfl)) fun _ =>
    Preserves.ite' (fun _ => Preserves.bind' (rows_attributedAt (releaseOnFullRepayment_moves _ _))
      fun _ => Preserves.pure' _) fun _ => Preserves.pure' _

theorem allocateLeg_attributed (input : ProcessRepaymentInput) (accountId loanId : Nat)
    (balance : Int) (leg : Leg) (amount : Nat) :
    Preserves Attributed (allocateLeg input accountId loanId balance leg amount) := by
  refine Preserves.ite' (fun _ => Ensures.bind' (Ensures.bind' (rows_attributed uuidv4_rows)
    fun _ => createTransaction_at (Int.natCast_nonneg _)) fun txnId => base_of_at ?_)
    fun _ => Preserves.pure' _
  exact Preserves.bind' (postGlOnlyLegEntry_at rfl rfl) fun _ => Preserves.pure' _

theorem processRepayment_attributed (now : Int) (input : ProcessRepaymentInput) :
    Preserves Attributed (processRepayment now input) := by
  intro db r db' h hdb
  rcases processRepayment_cases h with ⟨rfl, _⟩ | ⟨_, _, _, _, _, _, _, happly⟩
  · exact hdb
  refine Preserves.of_carries (applyRepayment_of (fun _ =>
    rows_attributed (applyInstallmentAllocation_moves _ _ _))
    (fun _ _ _ _ => allocateLeg_attributed _ _ _ _ _ _) (fun _ _ => ?_)
    (fun _ hf => rows_attributed (modify_updateLoan_moves hf))
    fun _ => rows_attributed (settleMpesa_moves _ _ _)) happly hdb
  exact Preserves.ite' (fun _ => Preserves.bind' (postEntry_attributed _) fun _ =>
    Preserves.pure' _) fun _ => Preserves.pure' _

theorem chargeAccount_attributed (accountId loanId : Nat) (leg : Leg) (amount : Nat)
    (reference description : String) :
    Preserves Attributed (chargeAccount accountId loanId leg amount reference description) := by
  refine Preserves.ite' (fun _ => Preserves.bind' Preserves.get' fun db => ?_)
    fun _ => Preserves.pure' ()
  split
  · exact Preserves.pure' ()
  refine Preserves.bind' (rows_attributed (debitAccountWithCas_moves _ _)) fun _ =>
    Ensures.bind' (createTransaction_at (Int.natCast_nonneg _)) fun txn => base_of_at ?_
  cases leg with
  | interest => exact Preserves.bind' (postGlOnlyLegEntry_at rfl rfl) fun _ => Preserves.pure' ()
  | penalty => exact Preserves.bind' (postGlOnlyLegEntry_at rfl rfl) fun _ => Preserves.pure' ()
  | principal => exact Preserves.bind' (postGlOnlyLegEntry_at rfl rfl) fun _ => Preserves.pure' ()

theorem penalizeInstallment_attributed (loanId fosaAccountId : Nat) (accrualDate : Int)
    (row : Nat × LoanRepayment) :
    Preserves Attributed (penalizeInstallment loanId fosaAccountId accrualDate row) := by
  refine Preserves.ite' (fun _ => Preserves.bind'
    (rows_attributed (Moves.modify' fun _ => AdmitsRepayment.update _ _ _)) fun _ =>
    Preserves.bind' Preserves.get' fun db => ?_) fun _ => Preserves.pure' ()
  dsimp only
  split
  · exact Preserves.pure' ()
  exact Ensures.bind' (createTransaction_at (Int.natCast_nonneg _)) fun _ => base_of_at
    (Preserves.bind' (postGlOnlyLegEntry_at rfl rfl) fun _ => Preserves.pure' ())

/-! ## 6. Recovery -/

/-- Savings taken from a guarantor are a row with its leg. -/
theorem keepsForfeits_attributed : KeepsForfeits Attributed := by
  rintro db db' guarantorId i loanId a amount releasedAt type reference hdb _ hpos _ _
    ⟨description, by', _, _, _, _, _, htxn, hleg⟩
  have hsame : db.SameRows ((db.updateAccount i (·.forfeit amount)).updateGuarantor guarantorId
      (·.recover amount releasedAt)) :=
    ⟨rfl, rfl⟩
  have hrow := createTransaction_at (Int.le_of_lt hpos) htxn (attributed_rows hsame hdb)
  exact (postGlOnlyLegEntry_at rfl rfl hleg hrow).base

end ProvenanceLemmas

open ProvenanceLemmas

/-! ## 7. Runs -/

/-- The operation posts no GL-only leg on its own. -/
def Op.posted : Op → Bool
  | .leg _ => false
  | _ => true

theorem exec_attributed {op : Op} (h : op.posted = true) : Preserves Attributed op.exec := by
  have hloan {id : Nat} (f : Loan → Loan) (hf : ∀ l : Loan, (f l).terms = l.terms) :
      Preserves Attributed (modify (·.updateLoan id f)) :=
    rows_attributed (modify_updateLoan_moves hf)
  cases op with
  | postEntry p => exact Preserves.bind' (postEntry_attributed p) fun _ => Preserves.pure' ()
  | transfer p =>
    exact Preserves.bind' (postInternalTransfer_attributed p) fun _ => Preserves.pure' ()
  | reverse id reason actorId =>
    exact Preserves.bind' (reverseTransaction_attributed id reason actorId) fun _ =>
      Preserves.pure' ()
  | leg p => cases h
  | repay p => exact Preserves.bind' (repay_attributed p) fun _ => Preserves.pure' ()
  | processRepayment now input =>
    exact Preserves.bind' (processRepayment_attributed now input) fun _ => Preserves.pure' ()
  | accrue seen loanId date =>
    exact Preserves.of_carries (accrue_of (fun _ _ _ _ _ => chargeAccount_attributed _ _ _ _ _ _)
      (fun _ _ => penalizeInstallment_attributed _ _ _ _) hloan)
  | disburse seen params =>
    exact Preserves.of_carries (disburse_of (R := Carries Attributed)
      (fun _ _ => postEntry_attributed _) hloan
      (rows_attributed (Moves.modify' fun _ => AdmitsRepayment.append _ _)))
  | recover now loanId amount actorId =>
    exact Preserves.bind' (recoverFromGuarantors_keeps keepsForfeits_attributed
      (rows_attributed uuidv4_rows) hloan _ _ _) fun _ => Preserves.pure' ()
  | offset now loanId jobId =>
    exact Preserves.bind' (offsetLoan_keeps keepsForfeits_attributed (rows_attributed uuidv4_rows)
      hloan _ _) fun _ => Preserves.pure' ()
  | _ =>
    refine rows_attributed fun _ _ _ hy => ?_
    have hbooks := exec_sameBooks rfl hy
    exact ⟨hbooks.transactions, hbooks.journalEntries⟩

theorem attributed_step {db : Db} {op : Op} (hdb : Attributed db) (h : op.posted = true) :
    Attributed (step db op) :=
  Preserves.commit' (exec_attributed h) hdb

/-- The journal is attributed after every run from empty books. -/
theorem attributed_after {db : Db} (ht : db.transactions = []) (he : db.journalEntries = [])
    {ops : List Op} (h : ∀ op ∈ ops, op.posted = true) : Attributed (db.after ops) := by
  have hinit : Attributed db := by
    constructor <;> simp only [ht, he, List.not_mem_nil, List.getElem?_nil, reduceCtorEq,
      false_implies, implies_true]
  exact Machine.run_induct (fun _ _ => attributed_step) hinit (Machine.guarded_of_mem h)

end BebaSacco
