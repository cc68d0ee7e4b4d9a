import BebaSacco.Ledger

/-! # What the ledger service writes

For each method of the ledger service, what a committed call did to the tables
(the `_cases` lemmas), and the two totals the books are judged by: the net credit
of a GL code and the sum of the balances of one account type.

Results:
 1. `applyBalanceChange_iff`, `postEntry_cases`, `postInternalTransfer_cases`,
    `reverseTransaction_cases`, `postGlOnlyLegEntry_cases`: the inversions.
 2. `netCredit_insertEntry`, `deposits_updateAccount`: how a write moves the totals.
-/

namespace BebaSacco

open Txn

/-- The direction in which a posting of this type moves the account. -/
def JournalEntryType.direction : JournalEntryType → Direction
  | .withdrawal | .feeCharge => .debit
  | _ => .credit

/-! ## 1. Inversion of the ledger methods -/

theorem applyBalanceChange_iff {id : Nat} {amount : Int} {dir : Direction} {c : BalanceChange}
    {db db' : Db} :
    Yields (applyBalanceChange id amount dir) db c db' ↔
      ∃ a, db.accounts[id]? = some a ∧ a.isActive = true ∧
        (dir = .debit → debitFloor a amount ≤ a.balance) ∧
        c = ⟨a.balance, a.balance + dir.signed amount, a.accountType⟩ ∧
        db' = db.updateAccount id (·.move (dir.signed amount)) := by
  simp only [applyBalanceChange, yields_bind, yields_get, yields_required, yields_ensure,
    yields_modify, yields_pure, Option.filter_eq_some_iff]
  constructor
  · rintro ⟨_, _, ⟨rfl, rfl⟩, a, _, ⟨⟨ha, hact⟩, rfl⟩, _, _, ⟨hf, rfl⟩, _, _, rfl, rfl, rfl⟩
    exact ⟨a, ha, hact, hf, rfl, rfl⟩
  · rintro ⟨a, ha, hact, hf, rfl, rfl⟩
    exact ⟨_, _, ⟨rfl, rfl⟩, a, _, ⟨⟨ha, hact⟩, rfl⟩, (), _, ⟨hf, rfl⟩, (), _, rfl, rfl, rfl⟩

theorem activeAccount_some {db : Db} {memberId : Nat} {ty : AccountType} {id : Nat} {a : Account}
    (h : db.activeAccount memberId ty = some (id, a)) :
    db.accounts[id]? = some a ∧ a.memberId = memberId ∧ a.accountType = ty ∧
      a.isActive = true := by
  obtain ⟨ha, hp⟩ := Table.findRow_some h
  simp only [Bool.and_eq_true, beq_iff_eq] at hp
  exact ⟨ha, hp.1.1, hp.1.2, hp.2⟩

/-- The transaction that an entry found for it refers to. -/
theorem entryOfTransaction_some {db : Db} {id i : Nat} {e : JournalEntry}
    (h : db.entryOfTransaction id = some (i, e)) :
    db.journalEntries[i]? = some e ∧ e.referenceId = id := by
  obtain ⟨hrow, hp⟩ := Table.findRow_some h
  simp only [Bool.and_eq_true, beq_iff_eq] at hp
  exact ⟨hrow, hp.2⟩

theorem resolveSystemActorId_state {actorId : Option String} {s : String} {db db' : Db}
    (h : Yields (resolveSystemActorId actorId) db s db') : db' = db := by
  unfold resolveSystemActorId at h
  cases actorId with
  | some a =>
    simp only [yields_pure] at h
    exact h.2.symm
  | none =>
    simp only [yields_bind, yields_get, yields_required] at h
    obtain ⟨_, _, ⟨rfl, rfl⟩, _, rfl⟩ := h
    rfl

theorem findGlAccountPair_state {d c : String} {u : Unit} {db db' : Db}
    (h : Yields (findGlAccountPair d c) db u db') : db' = db := by
  simp only [findGlAccountPair, yields_bind, yields_get, yields_ensure] at h
  obtain ⟨_, _, ⟨rfl, rfl⟩, _, rfl⟩ := h
  rfl

/-- What a posting that was not there before has checked and written. -/
structure EntryPosted (p : PostEntryParams) (db : Db) (db' : Db) : Prop where
  amount_pos : 0 < toDecimalPlaces4 p.amount
  fresh : db.transactionByReference p.reference = none
  written : ∃ a type actor description debitCode creditCode,
    db.accounts[p.accountId]? = some a ∧ a.isActive = true ∧
    (p.direction = .debit → debitFloor a (toDecimalPlaces4 p.amount) ≤ a.balance) ∧
    JOURNAL_TO_TRANSACTION_TYPE p.journalType = some type ∧
    resolveGlCodes a.accountType p.journalType p.direction none = .ok (debitCode, creditCode) ∧
    db' =
      ((db.updateAccount p.accountId
          (·.move (p.direction.signed (toDecimalPlaces4 p.amount)))).insertTransaction
        (p.transaction type
          ⟨a.balance, a.balance + p.direction.signed (toDecimalPlaces4 p.amount), a.accountType⟩
          (toDecimalPlaces4 p.amount) actor description)).insertEntry
        (ledgerEntry p.reference p.journalType description db.transactions.length
          (toDecimalPlaces4 p.amount) actor debitCode creditCode)

/-- A committed posting either found its reference and wrote nothing, or is new. -/
theorem postEntry_cases {p : PostEntryParams} {r : PostingResult} {db db' : Db}
    (h : Yields (postEntry p) db r db') :
    (db' = db ∧ r.replayed = true ∧
      ∃ t, db.transactionByReference p.reference = some (r.transaction, t)) ∨
    (EntryPosted p db db' ∧ r.replayed = false ∧ r.transaction = db.transactions.length) := by
  simp only [postEntry, yields_bind, yields_ensure] at h
  obtain ⟨actor, _, hact, _, _, ⟨hpos, rfl⟩, hbody⟩ := h
  cases resolveSystemActorId_state hact
  simp only [postEntryBody, yields_bind, yields_get] at hbody
  obtain ⟨_, _, ⟨rfl, rfl⟩, hbody⟩ := hbody
  cases hfind : db.transactionByReference p.reference with
  | some e =>
    simp only [hfind, yields_bind, yields_required, yields_pure] at hbody
    obtain ⟨_, _, ⟨_, rfl⟩, rfl, rfl⟩ := hbody
    exact .inl ⟨rfl, rfl, e.2, rfl⟩
  | none =>
    simp only [hfind, yields_bind, yields_required, yields_pure, yields_createTransaction,
      yields_createJournalEntry, yields_fromExcept, applyBalanceChange_iff] at hbody
    obtain ⟨_, _, ⟨a, ha, hactive, hfloor, rfl, rfl⟩, type, _, ⟨htype, rfl⟩, t, _, ⟨_, rfl, rfl⟩,
      codes, _, ⟨hcodes, rfl⟩, _, _, hgl, e, _, ⟨_, rfl, rfl⟩, rfl, rfl⟩ := hbody
    cases findGlAccountPair_state hgl
    exact .inr ⟨⟨hpos, hfind, a, type, actor, _, codes.1, codes.2, ha, hactive, hfloor, htype,
      hcodes, rfl⟩, rfl, rfl⟩

/-- What a transfer that was not there before has checked and written. -/
structure TransferPosted (p : TransferParams) (db : Db) (db' : Db) : Prop where
  amount_pos : 0 < toDecimalPlaces4 p.amount
  distinct : p.fromAccountId ≠ p.toAccountId
  written : ∃ a b description debitCode creditCode,
    db.accounts[p.fromAccountId]? = some a ∧ a.isActive = true ∧
    debitFloor a (toDecimalPlaces4 p.amount) ≤ a.balance ∧
    db.accounts[p.toAccountId]? = some b ∧ b.isActive = true ∧
    resolveGlCodes a.accountType .transfer .debit (some b.accountType) =
      .ok (debitCode, creditCode) ∧
    db' =
      (((((db.updateAccount p.fromAccountId
            (·.move (-toDecimalPlaces4 p.amount))).updateAccount p.toAccountId
            (·.move (toDecimalPlaces4 p.amount))).insertTransaction
          (p.transaction p.fromAccountId s!"{p.reference}-SRC"
            ⟨a.balance, a.balance - toDecimalPlaces4 p.amount, a.accountType⟩
            (toDecimalPlaces4 p.amount) description none)).insertTransaction
          (p.transaction p.toAccountId s!"{p.reference}-DST"
            ⟨b.balance, b.balance + toDecimalPlaces4 p.amount, b.accountType⟩
            (toDecimalPlaces4 p.amount) description
            (some db.transactions.length))).updateTransaction db.transactions.length
          fun t => { t with linkedTransactionId := some (db.transactions.length + 1) }).insertEntry
        (ledgerEntry p.reference .transfer description db.transactions.length
          (toDecimalPlaces4 p.amount) p.actorId debitCode creditCode)

theorem postInternalTransfer_cases {p : TransferParams} {r : TransferResult} {db db' : Db}
    (h : Yields (postInternalTransfer p) db r db') :
    (db' = db ∧ r.replayed = true) ∨ (TransferPosted p db db' ∧ r.replayed = false) := by
  simp only [postInternalTransfer, yields_bind, yields_ensure] at h
  obtain ⟨_, _, ⟨hpos, rfl⟩, _, _, ⟨hne, rfl⟩, hbody⟩ := h
  simp only [postInternalTransferBody, yields_bind, yields_get] at hbody
  obtain ⟨_, _, ⟨rfl, rfl⟩, hbody⟩ := hbody
  cases hfind : db.transactionByReference s!"{p.reference}-SRC" with
  | some e =>
    simp only [hfind, yields_bind, yields_required, yields_pure] at hbody
    obtain ⟨_, _, ⟨_, rfl⟩, _, _, ⟨_, rfl⟩, rfl, rfl⟩ := hbody
    exact .inl ⟨rfl, rfl⟩
  | none =>
    simp only [hfind, yields_bind, yields_pure, yields_createTransaction, yields_modify,
      yields_createJournalEntry, yields_fromExcept, applyBalanceChange_iff] at hbody
    obtain ⟨_, _, ⟨a, ha, hactive, hfloor, rfl, rfl⟩, _, _, ⟨b, hb, hbactive, _, rfl, rfl⟩,
      _, _, ⟨_, rfl, rfl⟩, _, _, ⟨_, rfl, rfl⟩, _, _, rfl, codes, _, ⟨hcodes, rfl⟩, _, _, hgl,
      e, _, ⟨_, rfl, rfl⟩, rfl, rfl⟩ := hbody
    cases findGlAccountPair_state hgl
    have hb' : db.accounts[p.toAccountId]? = some b := by
      rwa [Db.updateAccount, Table.getElem?_modify_other hne] at hb
    refine .inr ⟨⟨hpos, hne, a, b, p.description.getD "Internal transfer", codes.1, codes.2, ha,
      hactive, hfloor trivial, hb', hbactive, hcodes, ?_⟩, rfl⟩
    simp only [Db.updateAccount, Db.insertTransaction, List.length_append, List.length_cons,
      List.length_nil, Direction.signed, Int.sub_eq_add_neg, Nat.zero_add]

/-- What a committed reversal has checked and written. -/
structure Reversed (id : Nat) (db : Db) (db' : Db) : Prop where
  written : ∃ original entryId entry posting a reason by',
    db.transactions[id]? = some original ∧ original.status ≠ .reversed ∧
    db.entryOfTransaction id = some (entryId, entry) ∧ entry.singlePosting = some posting ∧
    (∀ e ∈ db.journalEntries, e.reversalOfJournalEntryId ≠ some entryId) ∧
    db.accounts[original.accountId]? = some a ∧ a.isActive = true ∧
    (original.reverseDirection = .debit → debitFloor a original.amount ≤ a.balance) ∧
    db' =
      (((db.updateAccount original.accountId
          (·.move (original.reverseDirection.signed original.amount))).insertTransaction
        (original.reversal id
          ⟨a.balance, a.balance + original.reverseDirection.signed original.amount, a.accountType⟩
          reason by')).insertEntry
        (entry.reversal entryId posting original.reference db.transactions.length
          reason by')).updateTransaction id fun t => { t with status := .reversed }

theorem reverseTransaction_cases {id : Nat} {reason : String} {by' : Option String}
    {r : ReversalResult} {db db' : Db} (h : Yields (reverseTransaction id reason by') db r db') :
    Reversed id db db' := by
  simp only [reverseTransaction, yields_bind] at h
  obtain ⟨actor, _, hact, h⟩ := h
  cases resolveSystemActorId_state hact
  simp only [reverseTransactionBody, yields_bind, yields_get, yields_required, yields_ensure,
    yields_pure, yields_modify, yields_createTransaction, yields_createJournalEntry,
    applyBalanceChange_iff] at h
  obtain ⟨_, _, ⟨rfl, rfl⟩, original, _, ⟨ho, rfl⟩, _, _, ⟨hst, rfl⟩, e, _, ⟨he, rfl⟩,
    posting, _, ⟨hp, rfl⟩, _, _, ⟨hrev, rfl⟩, _, _, ⟨a, ha, hactive, hfloor, rfl, rfl⟩,
    _, _, ⟨_, rfl, rfl⟩, _, _, ⟨_, rfl, rfl⟩, _, _, rfl, _, rfl⟩ := h
  exact ⟨original, e.1, e.2, posting, a, reason, actor, ho, hst, he, hp, hrev, ha, hactive, hfloor,
    rfl⟩

/-- A committed leg found its entry number and wrote nothing, or wrote its entry. -/
theorem postGlOnlyLegEntry_cases {p : LegParams} {r : LegResult} {db db' : Db}
    (h : Yields (postGlOnlyLegEntry p) db r db') :
    0 < p.amount ∧
    ((db' = db ∧ ∃ e, db.entryByNumber s!"JE-LEDGER-{p.reference}" = some e) ∨
      (db.entryByNumber s!"JE-LEDGER-{p.reference}" = none ∧ ∃ actor,
        db' = db.insertEntry (ledgerEntry p.reference p.journalType p.description p.transactionId
          p.amount actor p.debitCode p.leg.creditCode))) := by
  simp only [postGlOnlyLegEntry, yields_bind, yields_get, yields_ensure] at h
  obtain ⟨actor, _, hact, _, _, ⟨hpos, rfl⟩, _, _, ⟨rfl, rfl⟩, h⟩ := h
  cases resolveSystemActorId_state hact
  refine ⟨hpos, ?_⟩
  cases hfind : db.entryByNumber s!"JE-LEDGER-{p.reference}" with
  | some e =>
    simp only [hfind, yields_pure] at h
    exact .inl ⟨h.2.symm, e, rfl⟩
  | none =>
    simp only [hfind, yields_bind, yields_pure, yields_createJournalEntry] at h
    obtain ⟨_, _, hgl, _, _, ⟨_, rfl, rfl⟩, _, rfl⟩ := h
    cases findGlAccountPair_state hgl
    exact .inr ⟨rfl, actor, rfl⟩

/-! ## 2. The totals of the books -/

/-- What one posting adds to the net credit of `code`. -/
def GLPosting.netCredit (code : String) (posting : GLPosting) : Int :=
  (if posting.creditCode = code then posting.amount else 0) -
    (if posting.debitCode = code then posting.amount else 0)

def JournalEntry.netCredit (code : String) (entry : JournalEntry) : Int :=
  Table.sumOver (GLPosting.netCredit code) entry.postings

/-- The net credit of the GL account `code` over all postings. -/
def Db.netCredit (db : Db) (code : String) : Int :=
  Table.sumOver (JournalEntry.netCredit code) db.journalEntries

/-- What one account adds to the deposits of `accountType`. -/
def Account.depositsIn (accountType : AccountType) (account : Account) : Int :=
  if account.accountType = accountType then account.balance else 0

/-- The sum of the balances of all accounts of type `accountType`. -/
def Db.deposits (db : Db) (accountType : AccountType) : Int :=
  Table.sumOver (Account.depositsIn accountType) db.accounts

@[simp] theorem GLPosting.netCredit_swapped (code : String) (posting : GLPosting) :
    posting.swapped.netCredit code = -posting.netCredit code := by
  unfold GLPosting.netCredit
  rw [Int.neg_sub]
  rfl

theorem JournalEntry.netCredit_of_single {entry : JournalEntry} {posting : GLPosting}
    (h : entry.singlePosting = some posting) (code : String) :
    entry.netCredit code = posting.netCredit code := by
  unfold JournalEntry.singlePosting at h
  split at h
  · next hp =>
    cases h
    rw [JournalEntry.netCredit, hp, Table.sumOver_cons, Table.sumOver_nil, Int.add_zero]
  · cases h

@[simp] theorem singlePosting_ledgerEntry {reference : String} {type : JournalEntryType}
    {description : String} {id : Nat} {amount : Int} {actor debitCode creditCode : String} :
    (ledgerEntry reference type description id amount actor debitCode creditCode).singlePosting =
      some { debitCode, creditCode, amount, description } := rfl

@[simp] theorem singlePosting_reversal (e : JournalEntry) (i : Nat) (posting : GLPosting)
    (reference : String) (id : Nat) (reason by' : String) :
    (e.reversal i posting reference id reason by').singlePosting = some posting.swapped := rfl

@[simp] theorem netCredit_insertEntry (db : Db) (e : JournalEntry) (code : String) :
    (db.insertEntry e).netCredit code = db.netCredit code + e.netCredit code :=
  Table.sumOver_append_one

@[simp] theorem netCredit_insertTransaction (db : Db) (t : Transaction) (code : String) :
    (db.insertTransaction t).netCredit code = db.netCredit code := rfl

@[simp] theorem netCredit_updateTransaction (db : Db) (id : Nat) (f : Transaction → Transaction)
    (code : String) : (db.updateTransaction id f).netCredit code = db.netCredit code := rfl

@[simp] theorem netCredit_updateAccount (db : Db) (id : Nat) (f : Account → Account)
    (code : String) : (db.updateAccount id f).netCredit code = db.netCredit code := rfl

@[simp] theorem deposits_insertEntry (db : Db) (e : JournalEntry) (ty : AccountType) :
    (db.insertEntry e).deposits ty = db.deposits ty := rfl

@[simp] theorem deposits_insertTransaction (db : Db) (t : Transaction) (ty : AccountType) :
    (db.insertTransaction t).deposits ty = db.deposits ty := rfl

@[simp] theorem deposits_updateTransaction (db : Db) (id : Nat) (f : Transaction → Transaction)
    (ty : AccountType) : (db.updateTransaction id f).deposits ty = db.deposits ty := rfl

/-- Moving a balance by `delta` moves the deposits of the account's type by `delta`. -/
theorem deposits_move {db : Db} {id : Nat} {a : Account} {delta : Int} {ty : AccountType}
    (h : db.accounts[id]? = some a) :
    (db.updateAccount id (·.move delta)).deposits ty =
      db.deposits ty + if a.accountType = ty then delta else 0 := by
  rw [Db.deposits, Db.updateAccount, Table.sumOver_modify h]
  have hmove : (a.move delta).depositsIn ty =
      a.depositsIn ty + if a.accountType = ty then delta else 0 := by
    by_cases hty : a.accountType = ty
    · simp only [Account.depositsIn, Account.move, hty, if_true]
    · simp only [Account.depositsIn, Account.move, hty, if_false, Int.add_zero]
  rw [hmove, Db.deposits]
  omega

end BebaSacco
