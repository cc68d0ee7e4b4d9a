import BebaSacco.Footprint

/-! # What no operation ever undoes

Rows are never lost: an account keeps its identity, a transaction keeps what was
posted, a reversed transaction stays reversed, and journal entries are only
added. `Db.Extends` says this of two states; every operation moves along it.

Results:
 1. `step_extends`: every operation extends the database.
 2. `after_extends`: so does every run.
-/

namespace BebaSacco

open Txn FootprintLemmas

/-- An account without its moving columns. -/
def Account.identity (account : Account) : Account :=
  { account with balance := 0, version := 0, frozenSavings := 0 }

/-- A transaction without its status and link. -/
def Transaction.posted (t : Transaction) : Transaction :=
  { t with status := .completed, linkedTransactionId := none }

/-- `db'` has all rows of `db`, with the same accounts, the same postings and the
same reversals. -/
structure Db.Extends (db db' : Db) : Prop where
  accounts : db'.accounts.map Account.identity = db.accounts.map Account.identity
  transactions :
    db.transactions.map Transaction.posted <+: db'.transactions.map Transaction.posted
  reversed : ∀ (i : Nat) (t : Transaction), db.transactions[i]? = some t → t.status = .reversed →
    ∃ t' : Transaction, db'.transactions[i]? = some t' ∧ t'.status = .reversed
  journalEntries : db.journalEntries <+: db'.journalEntries

namespace HistoryLemmas

theorem extends_refl (db : Db) : db.Extends db :=
  ⟨rfl, List.prefix_refl _, fun _ t h hr => ⟨t, h, hr⟩, List.prefix_refl _⟩

theorem extends_trans {a b c : Db} (hab : a.Extends b) (hbc : b.Extends c) : a.Extends c where
  accounts := hbc.accounts.trans hab.accounts
  transactions := hab.transactions.trans hbc.transactions
  reversed i t h hr := by
    obtain ⟨t', h', hr'⟩ := hab.reversed i t h hr
    exact hbc.reversed i t' h' hr'
  journalEntries := hab.journalEntries.trans hbc.journalEntries

instance : History Db.Extends := ⟨extends_refl, extends_trans⟩

/-- A row is found under its reference at its place, with what was posted. -/
theorem transactionByReference_extends {db db' : Db} {reference : String} {id : Nat} {t : Transaction}
    (h : db.Extends db') (ht : db.transactionByReference reference = some (id, t)) :
    ∃ t', db'.transactionByReference reference = some (id, t') ∧ t'.posted = t.posted := by
  have hposted : Table.findRow (·.reference == reference) (db.transactions.map Transaction.posted) =
      some (id, t.posted) := by
    rw [Table.findRow_map]
    exact congrArg (Option.map _) ht
  have hlater := Table.findRow_of_prefix h.transactions hposted
  rw [Table.findRow_map] at hlater
  obtain ⟨row, hrow, heq⟩ := Option.map_eq_some_iff.mp hlater
  obtain ⟨hid, hrow_posted⟩ := Prod.mk.inj heq
  exact ⟨row.2, hid ▸ hrow, hrow_posted⟩

theorem entryOfTransaction_extends {db db' : Db} {id : Nat} {e : Nat × JournalEntry}
    (h : db.Extends db') (he : db.entryOfTransaction id = some e) :
    db'.entryOfTransaction id = some e :=
  Table.findRow_of_prefix h.journalEntries he

/-- The entry that was written last is found, unless there was one before. -/
theorem entryOfTransaction_append {db : Db} {entries : List JournalEntry} {entry : JournalEntry}
    (hentries : db.journalEntries = entries ++ [entry]) (htype : entry.referenceType = "TRANSACTION") :
    ∃ e, db.entryOfTransaction entry.referenceId = some e := by
  unfold Db.entryOfTransaction
  rw [hentries, Table.findRow_append_one, htype]
  cases Table.findRow _ entries with
  | some row => exact ⟨row, rfl⟩
  | none =>
    exact ⟨_, if_pos (Bool.and_eq_true_iff.mpr ⟨beq_self_eq_true _, beq_self_eq_true _⟩)⟩

/-! ## 1. The single writes -/

theorem extends_of_eq {db db' : Db} (ha : db'.accounts = db.accounts)
    (ht : db'.transactions = db.transactions) (he : db'.journalEntries = db.journalEntries) :
    db.Extends db' where
  accounts := by rw [ha]
  transactions := by rw [ht]
  reversed i t h hr := ⟨t, by rw [ht]; exact h, hr⟩
  journalEntries := by rw [he]

theorem extends_updateAccount {db : Db} {id : Nat} {f : Account → Account}
    (hf : ∀ a, (f a).identity = a.identity) : db.Extends (db.updateAccount id f) where
  accounts := Table.map_modify_same hf
  transactions := List.prefix_refl _
  reversed _ t h hr := ⟨t, h, hr⟩
  journalEntries := List.prefix_refl _

theorem extends_insertTransaction (db : Db) (t : Transaction) :
    db.Extends (db.insertTransaction t) where
  accounts := rfl
  transactions := by
    rw [Db.insertTransaction, List.map_append]
    exact List.prefix_append _ _
  reversed _ t h hr := ⟨t, Table.getElem?_append_one_old h, hr⟩
  journalEntries := List.prefix_refl _

theorem extends_insertEntry (db : Db) (e : JournalEntry) : db.Extends (db.insertEntry e) where
  accounts := rfl
  transactions := List.prefix_refl _
  reversed _ t h hr := ⟨t, h, hr⟩
  journalEntries := List.prefix_append _ _

theorem extends_updateTransaction {db : Db} {id : Nat} {f : Transaction → Transaction}
    (hf : ∀ t, (f t).posted = t.posted)
    (hr : ∀ t, t.status = .reversed → (f t).status = .reversed) :
    db.Extends (db.updateTransaction id f) where
  accounts := rfl
  transactions := by
    have hmap : (db.updateTransaction id f).transactions.map Transaction.posted =
        db.transactions.map Transaction.posted := Table.map_modify_same hf
    rw [hmap]
  reversed i t h hrev := by
    by_cases hid : id = i
    · subst hid
      exact ⟨f t, Table.getElem?_modify_self h, hr t hrev⟩
    · exact ⟨t, by rw [Db.updateTransaction, Table.getElem?_modify_other hid, h], hrev⟩
  journalEntries := List.prefix_refl _

instance : AdmitsBalance Db.Extends where
  move _ _ _ := extends_updateAccount fun _ => rfl
  set _ _ _ := extends_updateAccount fun _ => rfl

instance : AdmitsHold Db.Extends := ⟨fun _ _ _ => extends_updateAccount fun _ => rfl⟩

instance : AdmitsForfeit Db.Extends := ⟨fun _ _ _ => extends_updateAccount fun _ => rfl⟩

instance : AdmitsTransaction Db.Extends where
  insert := extends_insertTransaction
  link _ _ _ := extends_updateTransaction (fun _ => rfl) fun _ h => h
  markReversed _ _ := extends_updateTransaction (fun _ => rfl) fun _ _ => rfl
  uuid _ _ := extends_of_eq rfl rfl rfl

instance : AdmitsEntry Db.Extends := ⟨extends_insertEntry⟩

instance : AdmitsLoan Db.Extends := ⟨fun _ _ _ _ => extends_of_eq rfl rfl rfl⟩

instance : AdmitsRepayment Db.Extends :=
  ⟨fun _ _ _ => extends_of_eq rfl rfl rfl, fun _ _ => extends_of_eq rfl rfl rfl⟩

instance : AdmitsGuarantor Db.Extends := ⟨fun _ _ _ _ => extends_of_eq rfl rfl rfl⟩

instance : AdmitsNomination Db.Extends :=
  admitsNomination (fun _ _ => extends_of_eq rfl rfl rfl) fun _ _ => extends_of_eq rfl rfl rfl

instance : AdmitsMpesa Db.Extends := ⟨fun _ _ _ => extends_of_eq rfl rfl rfl⟩

instance : AdmitsChain Db.Extends := ⟨fun _ _ => extends_of_eq rfl rfl rfl⟩

end HistoryLemmas

open HistoryLemmas

/-! ## 2. Every operation -/

theorem step_extends (db : Db) (op : Op) : db.Extends (step db op) :=
  Moves.commit' (exec_moves op) db

/-- No run loses a row, changes what was posted or takes a reversal back. -/
theorem after_extends (db : Db) (ops : List Op) : db.Extends (db.after ops) :=
  Machine.run_related extends_refl (fun _ _ _ => extends_trans) step_extends

/-! ## 3. Rows of an extended database -/

theorem Db.Extends.account {db db' : Db} (h : db.Extends db') {i : Nat} {a : Account}
    (ha : db.accounts[i]? = some a) :
    ∃ a' : Account, db'.accounts[i]? = some a' ∧ a'.identity = a.identity := by
  have hmap : (db'.accounts.map Account.identity)[i]? = some a.identity := by
    rw [h.accounts, List.getElem?_map, ha]
    rfl
  rw [List.getElem?_map] at hmap
  exact Option.map_eq_some_iff.mp hmap

theorem Db.Extends.accountType {db db' : Db} (h : db.Extends db') {i : Nat} {a a' : Account}
    (ha : db.accounts[i]? = some a) (ha' : db'.accounts[i]? = some a') :
    a'.accountType = a.accountType := by
  obtain ⟨b, hb, hid⟩ := h.account ha
  rw [ha'] at hb
  cases hb
  have htype := congrArg Account.accountType hid
  exact htype

theorem Db.Extends.transaction {db db' : Db} (h : db.Extends db') {i : Nat} {t : Transaction}
    (ht : db.transactions[i]? = some t) :
    ∃ t' : Transaction, db'.transactions[i]? = some t' ∧ t'.posted = t.posted := by
  have hold : (db.transactions.map Transaction.posted)[i]? = some t.posted := by
    rw [List.getElem?_map, ht]
    rfl
  have hnew := Table.getElem?_of_prefix h.transactions hold
  rw [List.getElem?_map] at hnew
  exact Option.map_eq_some_iff.mp hnew

/-- Rows with the same posted columns moved the same account by the same amount. -/
theorem Transaction.posted_eq {t t' : Transaction} (h : t'.posted = t.posted) :
    t'.accountId = t.accountId ∧ t'.type = t.type ∧ t'.amount = t.amount ∧
      t'.balanceBefore = t.balanceBefore ∧ t'.balanceAfter = t.balanceAfter := by
  simp only [Transaction.posted, Transaction.mk.injEq] at h
  exact ⟨h.1, h.2.2.1, h.2.2.2.2.1, h.2.2.2.2.2.1, h.2.2.2.2.2.2.1⟩

/-! ## 4. Operations that leave the books alone -/

/-- An account without its version and its hold. -/
def Account.books (account : Account) : Account :=
  { account with version := 0, frozenSavings := 0 }

/-- No transaction, no journal entry and no balance changed. -/
structure Db.SameBooks (db db' : Db) : Prop where
  accounts : db'.accounts.map Account.books = db.accounts.map Account.books
  transactions : db'.transactions = db.transactions
  journalEntries : db'.journalEntries = db.journalEntries

instance : History Db.SameBooks where
  refl _ := ⟨rfl, rfl, rfl⟩
  trans h k :=
    ⟨k.accounts.trans h.accounts, k.transactions.trans h.transactions,
      k.journalEntries.trans h.journalEntries⟩

instance : AdmitsHold Db.SameBooks where
  hold db id delta := by
    refine ⟨?_, rfl, rfl⟩
    exact Table.map_modify_same fun _ => rfl

instance : AdmitsLoan Db.SameBooks := ⟨fun _ _ _ _ => ⟨rfl, rfl, rfl⟩⟩

instance : AdmitsRepayment Db.SameBooks :=
  ⟨fun _ _ _ => ⟨rfl, rfl, rfl⟩, fun _ _ => ⟨rfl, rfl, rfl⟩⟩

instance : AdmitsGuarantor Db.SameBooks := ⟨fun _ _ _ _ => ⟨rfl, rfl, rfl⟩⟩

instance : AdmitsNomination Db.SameBooks :=
  admitsNomination (fun _ _ => ⟨rfl, rfl, rfl⟩) fun _ _ => ⟨rfl, rfl, rfl⟩

instance : AdmitsMpesa Db.SameBooks := ⟨fun _ _ _ => ⟨rfl, rfl, rfl⟩⟩

instance : AdmitsChain Db.SameBooks := ⟨fun _ _ => ⟨rfl, rfl, rfl⟩⟩

theorem Db.SameBooks.deposits {db db' : Db} (h : db.SameBooks db') (ty : AccountType) :
    db'.deposits ty = db.deposits ty :=
  Table.sumOver_map_same Account.books (Account.depositsIn ty) (fun _ => rfl) h.accounts

theorem Db.SameBooks.netCredit {db db' : Db} (h : db.SameBooks db') (code : String) :
    db'.netCredit code = db.netCredit code := by
  rw [Db.netCredit, h.journalEntries, Db.netCredit]

namespace HistoryLemmas

theorem exec_sameBooks {op : Op} (h : op.posts = false) : Moves Db.SameBooks op.exec :=
  exec_quiet h

theorem repayLeg_preserves {I : Db → Prop} (hleg : ∀ q, Preserves I (postGlOnlyLegEntry q))
    (reference : String) (leg : Leg) (suffix : String) (amount txn : Nat) (by' : String) :
    Preserves I (repayLeg reference leg suffix amount txn by') :=
  Preserves.ite' (fun _ => Preserves.bind' (hleg _) fun _ => Preserves.pure' ()) fun _ =>
    Preserves.pure' ()

/-- A repayment keeps what its debit, the legs and what does not write the books keep. -/
theorem repay_preserves {I : Db → Prop} {p : RepayParams}
    (hdebit : ∀ (db : Db) (i : Nat) (account : Account) (loan : Loan),
      db.accounts[i]? = some account → I db → I (p.debited db i account loan))
    (hleg : ∀ q, Preserves I (postGlOnlyLegEntry q))
    (hsame : ∀ {db db' : Db}, db.SameBooks db' → I db → I db') : Preserves I (repay p) := by
  intro db r db' h hdb
  rcases repay_cases h with rfl | ⟨i, account, loan, mid, hposted, hrest⟩
  · exact hdb
  obtain ⟨legged, hlegs, rfl⟩ := hposted.written
  have hdebited := hdebit db i account loan (activeAccount_some hposted.account_eq).1 hdb
  have hlegged : I legged := Preserves.bind' (repayLeg_preserves hleg _ _ _ _ _ _) (fun _ =>
    Preserves.bind' (repayLeg_preserves hleg _ _ _ _ _ _) fun _ =>
    repayLeg_preserves hleg _ _ _ _ _ _) hlegs hdebited
  have hpaid : legged.SameBooks (legged.updateLoan p.loanId
      (·.pay (loan.repayAllocation (p.actualRepayment loan)) (p.newStatus loan))) := ⟨rfl, rfl, rfl⟩
  have hmid := hsame hpaid hlegged
  rcases hrest with ⟨_, hrel⟩ | ⟨_, rfl⟩
  · exact hsame (releaseOnFullRepayment_moves _ _ hrel) hmid
  · exact hmid

end HistoryLemmas

end BebaSacco
