import BebaSacco.History

/-! # Transfers between two accounts

A transfer debits one account and credits another under one journal entry; its two transactions
carry the reference of the transfer, by which a repeated call finds them.

Results:
 1. `transfer_result`: the rows that a committed transfer has found or written.
 2. `transfer_once`: a transfer moves the rounded amount or changes nothing, and after it a call
    with its reference changes nothing and returns the same transactions, whatever comes between.
 3. `transfer_rounds`: an amount of more than four places is rounded before it is moved.
-/

namespace BebaSacco

open Txn HistoryLemmas

/-! ## 1. What a transfer does -/

/-- What is moved. -/
def TransferParams.units (p : TransferParams) : Int := toDecimalPlaces4 p.amount

/-- The amount went from the source to the destination, and nothing else changed. -/
structure TransferParams.Moved (p : TransferParams) (db db' : Db) : Prop where
  accounts : ∃ source destination source' destination' : Account,
    db.accounts[p.fromAccountId]? = some source ∧
    db.accounts[p.toAccountId]? = some destination ∧
    db'.accounts[p.fromAccountId]? = some source' ∧
    db'.accounts[p.toAccountId]? = some destination' ∧
    source' = source.move (-p.units) ∧ destination' = destination.move p.units ∧
    source'.balance + destination'.balance = source.balance + destination.balance ∧
    source'.lockedBalance + source'.frozenSavings ≤ source'.balance ∧
    (source'.allowsNegative = false → source'.minimumBalance ≤ source'.balance) ∧
    ∃ entry posting, db'.journalEntries = db.journalEntries ++ [entry] ∧
      entry.postings = [posting] ∧ entry.totalAmount = p.units ∧ posting.amount = p.units ∧
      posting.debitCode = memberDepositsCode source.accountType ∧
      posting.creditCode = memberDepositsCode destination.accountType
  others : ∀ id, id ≠ p.fromAccountId → id ≠ p.toAccountId → db'.accounts[id]? = db.accounts[id]?
  transactions : ∃ source destination : Transaction,
    db'.transactions = db.transactions ++ [source, destination] ∧
    source.reference = s!"{p.reference}-SRC" ∧ destination.reference = s!"{p.reference}-DST" ∧
    source.accountId = p.fromAccountId ∧ destination.accountId = p.toAccountId ∧
    source.amount = p.units ∧ destination.amount = p.units
  tables : { db' with
    accounts := db.accounts
    transactions := db.transactions
    journalEntries := db.journalEntries } = db

/-- The transactions and the entry of a transfer, as a repeated call finds them. -/
structure Db.Holds (db : Db) (reference : String) (r : TransferResult) : Prop where
  source : ∃ t, db.transactionByReference s!"{reference}-SRC" = some (r.fromTransaction, t)
  destination : ∃ t, db.transactionByReference s!"{reference}-DST" = some (r.toTransaction, t)
  entry : ∃ e, db.entryOfTransaction r.fromTransaction = some e

namespace TransferLemmas

variable {p p' : TransferParams} {r r' : TransferResult} {db db' : Db} {reference : String} {id : Nat}

theorem modify_length {α : Type} (f : α → α) (l rest : List α) (a : α) :
    (l ++ a :: rest).modify l.length f = l ++ f a :: rest := by
  induction l with
  | nil => rfl
  | cons x l ih => rw [List.cons_append, List.length_cons, List.modify_succ_cons, ih, List.cons_append]

theorem moved_of_posted (h : TransferPosted p db db') : p.Moved db db' := by
  obtain ⟨source, destination, description, debitCode, creditCode, hsource, -, hfloor,
    hdestination, -, hcodes, rfl⟩ := h.written
  have hne := h.distinct
  have hpos : 0 < p.units := h.amount_pos
  cases hcodes
  have hcommitted : source.lockedBalance + source.frozenSavings + p.units ≤ source.balance :=
    Int.le_trans (Int.le_max_left ..) hfloor
  have hpolicy : source.allowsNegative = false →
      source.minimumBalance + p.units ≤ source.balance := by
    intro hnegative
    have hmax := Int.le_trans (Int.le_max_right ..) hfloor
    rwa [if_neg (by rw [hnegative]; exact Bool.false_ne_true)] at hmax
  refine ⟨⟨source, destination, source.move (-p.units), destination.move p.units, hsource,
      hdestination, ?_, ?_, rfl, rfl, ?_, ?_, fun hnegative => ?_, _, _, rfl, rfl, rfl, rfl, rfl,
      rfl⟩, fun id hfrom hto => ?_, ⟨
      { p.transaction p.fromAccountId s!"{p.reference}-SRC"
          ⟨source.balance, source.balance - p.units, source.accountType⟩ p.units description none with
        linkedTransactionId := some (db.transactions.length + 1) },
      p.transaction p.toAccountId s!"{p.reference}-DST"
        ⟨destination.balance, destination.balance + p.units, destination.accountType⟩ p.units
        description (some db.transactions.length), ?_, rfl, rfl, rfl, rfl, rfl, rfl⟩, rfl⟩
  · exact (Table.getElem?_modify_other hne.symm).trans (Table.getElem?_modify_self hsource)
  · exact Table.getElem?_modify_self ((Table.getElem?_modify_other hne).trans hdestination)
  · rw [Account.move_balance, Account.move_balance]
    omega
  · show source.lockedBalance + source.frozenSavings ≤ source.balance + -p.units
    omega
  · have hminimum := hpolicy hnegative
    show source.minimumBalance ≤ source.balance + -p.units
    omega
  · exact (Table.getElem?_modify_other (Ne.symm hto)).trans
      (Table.getElem?_modify_other (Ne.symm hfrom))
  · simp only [Db.insertEntry, Db.updateTransaction, Db.insertTransaction, Db.updateAccount,
      List.append_assoc, List.singleton_append]
    exact modify_length ..

/-- A repeated call has found the rows of the transfer; a new one has found none and writes them. -/
theorem transfer_result (h : Yields (postInternalTransfer p) db r db') :
    (db' = db ∧ db.Holds p.reference r) ∨
      db.transactionByReference s!"{p.reference}-SRC" = none ∧ p.Moved db db' ∧
        db'.Holds p.reference r := by
  have hcases := postInternalTransfer_cases h
  simp only [postInternalTransfer, yields_bind, yields_ensure] at h
  obtain ⟨_, _, ⟨hpos, rfl⟩, _, _, ⟨hne, rfl⟩, hbody⟩ := h
  simp only [postInternalTransferBody, yields_bind, yields_get] at hbody
  obtain ⟨_, _, ⟨rfl, rfl⟩, hbody⟩ := hbody
  cases hfind : db.transactionByReference s!"{p.reference}-SRC" with
  | some e =>
    simp only [hfind, yields_bind, yields_required, yields_pure] at hbody
    obtain ⟨destination, _, ⟨hdestination, rfl⟩, entry, _, ⟨hentry, rfl⟩, rfl, rfl⟩ := hbody
    exact .inl ⟨rfl, ⟨e.2, hfind⟩, ⟨destination.2, hdestination⟩, entry, hentry⟩
  | none =>
    simp only [hfind, yields_bind, yields_pure, yields_createTransaction, yields_modify,
      yields_createJournalEntry, yields_fromExcept, applyBalanceChange_iff] at hbody
    obtain ⟨_, _, ⟨_, _, _, _, rfl, rfl⟩, _, _, ⟨_, _, _, _, rfl, rfl⟩,
      _, _, ⟨_, rfl, rfl⟩, _, _, ⟨hdst, rfl, rfl⟩, _, _, rfl, _, _, ⟨_, rfl⟩, _, _, _,
      _, _, ⟨_, rfl, -⟩, rfl, -⟩ := hbody
    obtain ⟨-, hreplayed⟩ | ⟨hposted, -⟩ := hcases
    · cases hreplayed
    refine .inr ⟨rfl, moved_of_posted hposted, ?_⟩
    obtain ⟨source, destination, hrows, hsource, hdestination, -⟩ :=
      (moved_of_posted hposted).transactions
    have hfresh : Table.findRow (fun t => t.reference == s!"{p.reference}-DST") db.transactions =
        none := by
      refine Table.findRow_none.mpr fun t ht => beq_eq_false_iff_ne.mpr ?_
      exact hdst t (List.mem_append_left _ ht)
    have hother : s!"{p.reference}-SRC" ≠ s!"{p.reference}-DST" :=
      hdst _ (List.mem_append_right _ (List.mem_singleton_self _))
    -- the two new rows are the last ones, so a reference is looked up in what was there first
    have hfind' : ∀ reference, db'.transactionByReference reference =
        ((db.transactionByReference reference).or
          (if source.reference == reference then some (db.transactions.length, source)
            else none)).or
          (if destination.reference == reference then
            some (db.transactions.length + 1, destination) else none) := by
      intro reference
      unfold Db.transactionByReference
      rw [hrows, List.append_cons, Table.findRow_append_one, Table.findRow_append_one,
        List.length_append, List.length_singleton]
    refine ⟨⟨source, ?_⟩, ⟨destination, ?_⟩, ?_⟩
    · rw [hfind', hfind, hsource, beq_self_eq_true, if_pos rfl]
      rfl
    · rw [hfind', show db.transactionByReference s!"{p.reference}-DST" = none from hfresh, hsource,
        hdestination, beq_eq_false_iff_ne.mpr hother, beq_self_eq_true, if_pos rfl]
      simp [Db.insertTransaction, Db.updateAccount]
    · obtain ⟨_, _, description, debitCode, creditCode, -, -, -, -, -, -, hdb⟩ := hposted.written
      have hentries : db'.journalEntries = db.journalEntries ++
          [ledgerEntry p.reference .transfer description db.transactions.length p.units p.actorId
            debitCode creditCode] := by
        rw [hdb]
        rfl
      exact entryOfTransaction_append hentries rfl

/-! ## 2. A repeated transfer -/

/-- The rows are found at their places whatever happens in between. -/
theorem holds_extends (h : db.Holds reference r) (hext : db.Extends db') :
    db'.Holds reference r := by
  obtain ⟨_, hsource⟩ := h.source
  obtain ⟨_, hdestination⟩ := h.destination
  obtain ⟨entry, hentry⟩ := h.entry
  obtain ⟨source, hsource', _⟩ := transactionByReference_extends hext hsource
  obtain ⟨destination, hdestination', _⟩ := transactionByReference_extends hext hdestination
  exact ⟨⟨source, hsource'⟩, ⟨destination, hdestination'⟩, entry,
    entryOfTransaction_extends hext hentry⟩

/-- A call that finds the rows returns them and writes nothing. -/
theorem replayed_of_holds (h : db.Holds p.reference r)
    (hy : Yields (postInternalTransfer p) db r' db') :
    db' = db ∧ r'.fromTransaction = r.fromTransaction ∧ r'.toTransaction = r.toTransaction := by
  obtain ⟨source, hsource⟩ := h.source
  obtain ⟨destination, hdestination⟩ := h.destination
  rcases transfer_result hy with ⟨rfl, hfound⟩ | ⟨hnone, -⟩
  · obtain ⟨source', hsource'⟩ := hfound.source
    obtain ⟨destination', hdestination'⟩ := hfound.destination
    have hfrom := (Prod.mk.inj (Option.some.inj (hsource'.symm.trans hsource))).1
    have hto := (Prod.mk.inj (Option.some.inj (hdestination'.symm.trans hdestination))).1
    exact ⟨rfl, hfrom, hto⟩
  · cases hnone.symm.trans hsource

theorem replays (h : db.Holds p.reference r) (hpos : 0 < p.units)
    (hne : p.fromAccountId ≠ p.toAccountId) :
    ∃ r', Yields (postInternalTransfer p) db r' db := by
  obtain ⟨source, hsource⟩ := h.source
  obtain ⟨destination, hdestination⟩ := h.destination
  obtain ⟨entry, hentry⟩ := h.entry
  unfold postInternalTransfer postInternalTransferBody
  simp only [yields_bind, yields_ensure, yields_get]
  refine ⟨⟨r.fromTransaction, r.toTransaction, entry.1, true⟩, (), db, ⟨hpos, rfl⟩, (), db,
    ⟨hne, rfl⟩, db, db, ⟨rfl, rfl⟩, ?_⟩
  simp only [hsource, hdestination, hentry, yields_bind, yields_required, yields_pure]
  exact ⟨_, db, ⟨rfl, rfl⟩, entry, db, ⟨rfl, rfl⟩, rfl, rfl⟩

end TransferLemmas

open TransferLemmas

/-- A transfer moves the rounded amount or changes nothing. After it a call with its reference
changes nothing and returns its transactions, and the same call is not refused. -/
theorem transfer_once (p : TransferParams) (db : Db) :
    (step db (.transfer p) = db ∨ p.Moved db (step db (.transfer p))) ∧
      ∀ (r : TransferResult) (db' : Db), Yields (postInternalTransfer p) db r db' →
        ∀ (ops : List Op) (p' : TransferParams), p'.reference = p.reference →
          step (db'.after ops) (.transfer p') = db'.after ops ∧
            (∀ (r' : TransferResult) (db'' : Db),
              Yields (postInternalTransfer p') (db'.after ops) r' db'' →
                r'.fromTransaction = r.fromTransaction ∧ r'.toTransaction = r.toTransaction) ∧
            ∃ r', Yields (postInternalTransfer p) (db'.after ops) r' (db'.after ops) := by
  have hexec : ∀ {p : TransferParams} {db db' : Db} {u : Unit}, Yields (Op.transfer p).exec db u db' →
      ∃ r, Yields (postInternalTransfer p) db r db' := by
    intro p db db' u h
    simp only [Op.exec, yields_bind, yields_pure] at h
    obtain ⟨r, _, hy, -, rfl⟩ := h
    exact ⟨r, hy⟩
  constructor
  · rcases step_cases db (.transfer p) with ⟨u, hy⟩ | hsame
    · obtain ⟨r, hr⟩ := hexec hy
      rcases transfer_result hr with ⟨hsame, -⟩ | ⟨-, hmoved, -⟩
      · exact .inl hsame
      · exact .inr hmoved
    · exact .inl hsame
  · intro r db' hy ops p' hreference
    -- whichever way the call went, the pair of entries is under the reference now, and no operation
    -- takes it away
    have hholds : db'.Holds p.reference r := by
      rcases transfer_result hy with ⟨rfl, hfound⟩ | ⟨-, -, hwritten⟩
      · exact hfound
      · exact hwritten
    have hlater := holds_extends hholds (after_extends db' ops)
    -- the guards of the call pass again, since they read the parameters alone
    have hchecked : 0 < p.units ∧ p.fromAccountId ≠ p.toAccountId := by
      simp only [postInternalTransfer, yields_bind, yields_ensure] at hy
      obtain ⟨_, _, ⟨hpos, -⟩, _, _, ⟨hne, -⟩, -⟩ := hy
      exact ⟨hpos, hne⟩
    refine ⟨?_, fun r' db'' hy' => ?_, replays hlater hchecked.1 hchecked.2⟩
    · rcases step_cases (db'.after ops) (.transfer p') with ⟨u, hy'⟩ | hsame
      · obtain ⟨r', hr'⟩ := hexec hy'
        exact (replayed_of_holds (hreference ▸ hlater) hr').1
      · exact hsame
    · exact (replayed_of_holds (hreference ▸ hlater) hy').2

/-- Every account of the tenant holds 500. -/
def exHolding : Db :=
  { exSacco with accounts := exSacco.accounts.map fun a => { a with balance := 5000000 } }

/-- From the FOSA to the BOSA account of member 0. -/
def exSavingsTransfer (amount : ℚ) : TransferParams where
  fromAccountId := 0
  toAccountId := 1
  amount := amount
  reference := "XFER-t-1"
  actorId := "u"

theorem transfer_once_repeated :
    ∃ r db', Yields (postInternalTransfer (exSavingsTransfer 200)) exHolding r db' ∧
      (exSavingsTransfer 200).Moved exHolding (step exHolding (.transfer (exSavingsTransfer 200))) ∧
      step (db'.after [.transfer (exSavingsTransfer 50)]) (.transfer (exSavingsTransfer 200)) =
        db'.after [.transfer (exSavingsTransfer 50)] := by
  have hmoved := (transfer_once (exSavingsTransfer 200) exHolding).1.resolve_left (by decide +kernel)
  obtain ⟨r, db', hy⟩ : ∃ r db', Yields (postInternalTransfer (exSavingsTransfer 200)) exHolding r
      db' := exists_yields (by decide +kernel)
  exact ⟨r, db', hy, hmoved, ((transfer_once (exSavingsTransfer 200) exHolding).2 r db' hy
    [.transfer (exSavingsTransfer 50)] (exSavingsTransfer 200) rfl).1⟩

/-- A transfer of 200.00005 moves 200.0001. -/
theorem transfer_rounds :
    (step exHolding (.transfer (exSavingsTransfer (20000005 / 100000)))).accounts.map (·.balance) =
        [2999999, 7000001, 5000000, 5000000, 5000000] ∧
      ofUnits 2000001 ≠ (exSavingsTransfer (20000005 / 100000)).amount := by
  decide +kernel

end BebaSacco
