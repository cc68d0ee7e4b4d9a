import BebaSacco.Provenance

/-! # Reversal

A reversal reads what it has to undo off the stored rows. For the entry of a single
posting it undoes the posting exactly. The entry of a transfer and the entry of a
GL-only leg have one posting as well, so their reversal is accepted too, although the
service means to refuse it.

Results:
 1. `reverseTransaction_accepts_iff`: which calls are accepted.
 2. `reversal_sound_iff`: in every reachable state a call is sound exactly when it does
    not find the entry of a transfer or of a leg, or is refused on other grounds.
 3. `transfer_reversal_unsound`: the reversal of a transfer.
-/

namespace BebaSacco

open Txn HistoryLemmas FootprintLemmas ProvenanceLemmas

/-! ## 1. What a reversal has to undo -/

/-- The rows of the posting of the transaction `id`: the row itself, and for one side of a
transfer the other side. -/
def Db.movements (db : Db) (id : Nat) : List Transaction :=
  match db.transactions[id]? with
  | none => []
  | some t =>
    t :: if t.type = .transfer then
        (t.linkedTransactionId.bind fun j => db.transactions[j]?).toList
      else []

/-- What a row did to the balance of the account `accountId`. -/
def Transaction.movementOn (accountId : Nat) (t : Transaction) : Int :=
  if t.accountId = accountId then t.balanceAfter - t.balanceBefore else 0

def Db.movementOf (db : Db) (id accountId : Nat) : Int :=
  Table.sumOver (Transaction.movementOn accountId) (db.movements id)

/-- What an entry adds to the net credit of `code` on behalf of the transaction `id`. -/
def JournalEntry.netCreditFor (id : Nat) (code : String) (e : JournalEntry) : Int :=
  if e.referenceType = "TRANSACTION" ∧ e.referenceId = id then e.netCredit code else 0

/-- The net credit of `code` over the postings of the transaction `id`. -/
def Db.netCreditOf (db : Db) (id : Nat) (code : String) : Int :=
  Table.sumOver (JournalEntry.netCreditFor id code) db.journalEntries

/-- In `db'` the books are those of `db` without the transaction `id`, the transaction is
marked, and whatever happens later it is not reversed again. -/
structure Undone (db : Db) (id : Nat) (db' : Db) : Prop where
  balances : ∀ (i : Nat) (a : Account), db.accounts[i]? = some a →
    ∃ a' : Account, db'.accounts[i]? = some a' ∧ a'.balance = a.balance - db.movementOf id i
  ledger : ∀ code, db'.netCredit code = db.netCredit code - db.netCreditOf id code
  marked : ∃ t : Transaction, db'.transactions[id]? = some t ∧ t.status = .reversed
  once : ∀ later reason actorId, Fails (reverseTransaction id reason actorId) (db'.after later)

/-- A call that is accepted undoes the transaction, and the transaction is none of those
that a reversal cannot undo in full: a transfer, or a leg of a repayment, of a forfeiture
or of a charge. -/
def ReversalSound (db : Db) (id : Nat) (reason : String) (actorId : Option String) : Prop :=
  ∀ r db', Yields (reverseTransaction id reason actorId) db r db' →
    (∀ entry ∈ db.entryOfTransaction id, entry.2.type.part = false) ∧ Undone db id db'

/-! ## 2. Which calls are accepted -/

/-- The checks of a reversal. -/
structure Db.Reversible (db : Db) (id : Nat) (actorId : Option String) : Prop where
  actor : actorId.isSome = true ∨ db.systemUserId.isSome = true
  rows : ∃ (t : Transaction) (i : Nat) (e : JournalEntry) (posting : GLPosting) (a : Account),
    db.transactions[id]? = some t ∧ t.status ≠ .reversed ∧
    db.entryOfTransaction id = some (i, e) ∧ e.singlePosting = some posting ∧
    (∀ f ∈ db.journalEntries, f.reversalOfJournalEntryId ≠ some i) ∧
    db.accounts[t.accountId]? = some a ∧ a.isActive = true ∧
    (t.reverseDirection = .debit → debitFloor a t.amount ≤ a.balance) ∧
    (∀ r ∈ db.transactions, r.reference ≠ s!"{t.reference}-REVERSAL") ∧
    ∀ f ∈ db.journalEntries, f.entryNumber ≠ s!"JE-REVERSAL-{t.reference}"

namespace ReversalLemmas

theorem resolveSystemActorId_accepts {actorId : Option String} {db : Db} :
    (∃ s, Yields (resolveSystemActorId actorId) db s db) ↔
      actorId.isSome = true ∨ db.systemUserId.isSome = true := by
  unfold resolveSystemActorId
  cases actorId with
  | some s =>
    simp only [yields_pure, and_true, exists_eq', Option.isSome_some, true_or]
  | none =>
    simp only [yields_bind, yields_get, yields_required, Option.isSome_none, Bool.false_eq_true,
      false_or, Option.isSome_iff_exists]
    constructor
    · rintro ⟨s, _, _, ⟨rfl, rfl⟩, h, _⟩
      exact ⟨s, h⟩
    · rintro ⟨s, h⟩
      exact ⟨s, _, _, ⟨rfl, rfl⟩, h, rfl⟩

end ReversalLemmas

open ReversalLemmas

theorem reverseTransaction_accepts_iff {db : Db} {id : Nat} (reason : String)
    {actorId : Option String} :
    (∃ r db', Yields (reverseTransaction id reason actorId) db r db') ↔
      db.Reversible id actorId := by
  constructor
  · rintro ⟨r, db', h⟩
    simp only [reverseTransaction, yields_bind] at h
    obtain ⟨actor, _, hact, h⟩ := h
    cases resolveSystemActorId_state hact
    simp only [reverseTransactionBody, yields_bind, yields_get, yields_required, yields_ensure,
      yields_pure, yields_modify, yields_createTransaction, yields_createJournalEntry,
      applyBalanceChange_iff] at h
    obtain ⟨_, _, ⟨rfl, rfl⟩, t, _, ⟨ht, rfl⟩, _, _, ⟨hst, rfl⟩, e, _, ⟨he, rfl⟩,
      posting, _, ⟨hp, rfl⟩, _, _, ⟨hrev, rfl⟩, _, _, ⟨a, ha, hactive, hfloor, rfl, rfl⟩,
      _, _, ⟨href, rfl, rfl⟩, _, _, ⟨hnum, rfl, rfl⟩, _, _, rfl, _, rfl⟩ := h
    exact ⟨resolveSystemActorId_accepts.mp ⟨actor, hact⟩, t, e.1, e.2, posting, a, ht, hst, he, hp,
      hrev, ha, hactive, hfloor, href, hnum⟩
  · rintro ⟨hact, t, i, e, posting, a, ht, hst, he, hp, hrev, ha, hactive, hfloor, href, hnum⟩
    obtain ⟨actor, hact⟩ := resolveSystemActorId_accepts.mpr hact
    simp only [reverseTransaction, reverseTransactionBody, yields_bind, yields_get,
      yields_required, yields_ensure, yields_pure, yields_modify, yields_createTransaction,
      yields_createJournalEntry, applyBalanceChange_iff]
    exact ⟨_, _, actor, _, hact, _, _, ⟨rfl, rfl⟩, t, _, ⟨ht, rfl⟩, (), _, ⟨hst, rfl⟩, (i, e), _,
      ⟨he, rfl⟩, posting, _, ⟨hp, rfl⟩, (), _, ⟨hrev, rfl⟩, _, _,
      ⟨a, ha, hactive, hfloor, rfl, rfl⟩, _, _, ⟨href, rfl, rfl⟩, _, _, ⟨hnum, rfl, rfl⟩, (), _,
      rfl, rfl, rfl⟩

/-! ## 3. Single postings are undone exactly -/

namespace ReversalLemmas

theorem reverse_fails {db : Db} {id : Nat} {t : Transaction} (ht : db.transactions[id]? = some t)
    (hst : t.status = .reversed) (reason : String) (actorId : Option String) :
    Fails (reverseTransaction id reason actorId) db := by
  intro r db' h
  obtain ⟨t', _, _, _, _, _, _, ht', hst', _⟩ := (reverseTransaction_cases h).written
  rw [ht] at ht'
  cases ht'
  exact hst' hst

theorem movements_of_single {db : Db} {id : Nat} {t : Transaction}
    (ht : db.transactions[id]? = some t) (hty : t.type ≠ .transfer) : db.movements id = [t] := by
  rw [Db.movements, ht]
  exact congrArg (t :: ·) (if_neg hty)

/-- The postings of a transaction with the entry of a single posting are that posting. -/
theorem netCreditOf_single {db : Db} (hdb : Attributed db) {id i : Nat} {e : JournalEntry}
    {posting : GLPosting} (he : db.entryOfTransaction id = some (i, e))
    (hs : e.type.singleAccount = true) (hp : e.singlePosting = some posting) (code : String) :
    db.netCreditOf id code = posting.netCredit code := by
  obtain ⟨hrow, hcond⟩ := Table.findRow_some he
  simp only [Bool.and_eq_true, beq_iff_eq] at hcond
  have hzero : ∀ (j : Nat) (f : JournalEntry), db.journalEntries[j]? = some f → j ≠ i →
      f.netCreditFor id code = 0 := by
    intro j f hf hne
    refine if_neg fun hc => hne ?_
    exact (hdb.alone i j e f hrow hf hs (hc.2.trans hcond.2.symm)).symm
  rw [Db.netCreditOf, Table.sumOver_single hrow hzero, JournalEntry.netCreditFor, if_pos hcond,
    JournalEntry.netCredit_of_single hp]

theorem undone_of_single {db db' : Db} {id : Nat} {reason : String} {actorId : Option String}
    {r : ReversalResult} (hdb : Attributed db)
    (h : Yields (reverseTransaction id reason actorId) db r db')
    (hs : ∀ entry ∈ db.entryOfTransaction id, entry.2.type.singleAccount = true) :
    Undone db id db' := by
  obtain ⟨t, i, e, posting, a, reason, by', ht, _, he, hp, _, ha, _, _, hdb'⟩ :=
    (reverseTransaction_cases h).written
  have hse : e.type.singleAccount = true := hs (i, e) he
  obtain ⟨hrow, href⟩ := entryOfTransaction_some he
  obtain ⟨t', ht', hm, hty⟩ := hdb.single e (List.mem_of_getElem? hrow) hse
  rw [href, ht] at ht'
  cases ht'
  have hmarked : ∃ t' : Transaction, db'.transactions[id]? = some t' ∧ t'.status = .reversed := by
    rw [hdb']
    exact ⟨_, Table.getElem?_modify_self (Table.getElem?_append_one_old ht), rfl⟩
  refine ⟨?_, ?_, hmarked, ?_⟩
  · subst hdb'
    intro j b hb
    have hmove : db.movementOf id j = t.movementOn j := by
      rw [Db.movementOf, movements_of_single ht hty, Table.sumOver_cons, Table.sumOver_nil,
        Int.add_zero]
    rw [hmove, Transaction.movementOn]
    by_cases hj : t.accountId = j
    · subst hj
      rw [ha] at hb
      cases hb
      refine ⟨_, Table.getElem?_modify_self ha, ?_⟩
      rw [if_pos rfl, Account.move_balance, hm.reverseDirection_signed]
      omega
    · refine ⟨b, (Table.getElem?_modify_other hj).trans hb, ?_⟩
      rw [if_neg hj, Int.sub_zero]
  · subst hdb'
    intro code
    have hrev := JournalEntry.netCredit_of_single
      (singlePosting_reversal e i posting t.reference db.transactions.length reason by') code
    rw [netCredit_updateTransaction, netCredit_insertEntry, netCredit_insertTransaction,
      netCredit_updateAccount, hrev, GLPosting.netCredit_swapped,
      netCreditOf_single hdb he hse hp code]
    rfl
  · intro later reason' actorId'
    obtain ⟨t', ht', hst'⟩ := hmarked
    obtain ⟨t'', ht'', hst''⟩ := (after_extends db' later).reversed id t' ht' hst'
    exact reverse_fails ht'' hst'' reason' actorId'

end ReversalLemmas

/-! ## 4. Soundness in every reachable state -/

/-- In every state that the services reach from empty books, a reversal is sound exactly
when it is refused or the first entry of the transaction is that of a single posting. -/
theorem reversal_sound_iff {db : Db} (ht : db.transactions = []) (he : db.journalEntries = [])
    {ops : List Op} (hops : ∀ op ∈ ops, op.posted = true) (id : Nat) (reason : String)
    (actorId : Option String) :
    ReversalSound (db.after ops) id reason actorId ↔
      ((db.after ops).Reversible id actorId →
        ∀ entry ∈ (db.after ops).entryOfTransaction id, entry.2.type.singleAccount = true) := by
  have hdb := attributed_after ht he hops
  constructor
  · rintro hsound hrev ⟨i, e⟩ hentry
    obtain ⟨r, db', h⟩ := (reverseTransaction_accepts_iff reason).mpr hrev
    have hpart := (hsound r db' h).1 (i, e) hentry
    obtain ⟨hrow, _⟩ := entryOfTransaction_some hentry
    rcases hdb.typed e (List.mem_of_getElem? hrow) with hs | hp
    · exact hs
    · rw [hpart] at hp
      cases hp
  · intro hcond r db' h
    have hs := hcond ((reverseTransaction_accepts_iff reason).mp ⟨r, db', h⟩)
    refine ⟨fun entry hentry => ?_, undone_of_single hdb h hs⟩
    exact singleAccount_not_part (hs entry hentry)

/-- The service accepts and undoes the reversal of a deposit. -/
theorem reversal_sound_deposit :
    ReversalSound (exSacco.after [exDeposit "D1" 0 100]) 0 "posted twice" none ↔
      ((exSacco.after [exDeposit "D1" 0 100]).Reversible 0 none →
        ∀ entry ∈ (exSacco.after [exDeposit "D1" 0 100]).entryOfTransaction 0,
          entry.2.type.singleAccount = true) :=
  reversal_sound_iff rfl rfl (by decide) 0 "posted twice" none

/-- The reversal of the transfer's first transaction is accepted, and it leaves the money
in the BOSA account. -/
theorem transfer_reversal_unsound :
    Yields (reverseTransaction 1 "wrong account" none) (exSacco.after exTransfer) ⟨3, 2⟩
        ((exSacco.after exTransfer).after [.reverse 1 "wrong account" none]) ∧
      ¬ Undone (exSacco.after exTransfer) 1
        ((exSacco.after exTransfer).after [.reverse 1 "wrong account" none]) ∧
      ¬ ReversalSound (exSacco.after exTransfer) 1 "wrong account" none := by
  have hyields : Yields (reverseTransaction 1 "wrong account" none) (exSacco.after exTransfer)
      ⟨3, 2⟩ ((exSacco.after exTransfer).after [.reverse 1 "wrong account" none]) := by
    decide +kernel
  have hundone : ¬ Undone (exSacco.after exTransfer) 1
      ((exSacco.after exTransfer).after [.reverse 1 "wrong account" none]) := by
    intro h
    have hbosa : ((exSacco.after exTransfer).after
        [.reverse 1 "wrong account" none]).accounts[1]? =
          (exSacco.after exTransfer).accounts[1]? := by decide +kernel
    have hmoved : (exSacco.after exTransfer).movementOf 1 1 = 400000 := by decide +kernel
    cases hb : (exSacco.after exTransfer).accounts[1]? with
    | none => exact absurd hb (by decide +kernel)
    | some a =>
      obtain ⟨a', ha', hbal⟩ := h.balances 1 a hb
      rw [hbosa, hb] at ha'
      cases ha'
      omega
  exact ⟨hyields, hundone, fun h => hundone (h _ _ hyields).2⟩

end BebaSacco
