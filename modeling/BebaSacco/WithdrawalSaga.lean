import BebaSacco.System
import BebaSacco.WithdrawalSteps

/-! # The saga of a withdrawal

A payout that failed has its debit reversed, and a payout that went through keeps it. Many services
settle the row of a payout, and whichever comes first decides: each of them claims the row while it
waits, and a failure reverses the debit in the transaction of its claim. Only the daily
reconciliation writes a status without looking whether the row still waits.

Results:
 1. `PayoutDesk.Linked`: every payout of a withdrawal has a debit of its own, reversed once at most.
 2. `PayoutDesk.Settled`: the debit of a row is reversed exactly when the row failed.
 3. `withdrawal_settled_once`: a settled row stays as it is, in every run in which the daily
    reconciliation flags no row that is settled by then.
 4. `settled_row_reopened`: a row that was completed in the meantime is flagged, and failed.
-/

namespace BebaSacco

open Txn Process WithdrawalLemmas

/-! ## 1. Debits and their reversals -/

/-- The reference is that of a withdrawal. -/
def Transaction.isWithdrawal (t : Transaction) : Bool :=
  "MPESA_WD-".toList.isPrefixOf t.reference.toList

def Transaction.reverses (r : Transaction) (id : Nat) : Bool :=
  r.type == .reversal && r.linkedTransactionId == some id

def Db.reversals (db : Db) (id : Nat) : Nat := db.transactions.countP (·.reverses id)

/-- How often the debit of a payout was reversed. -/
def Db.debitReversals (db : Db) (m : MpesaTransaction) : Nat :=
  (m.transactionId.map db.reversals).getD 0

def MpesaTransaction.isWithdrawal (m : MpesaTransaction) : Bool :=
  m.referenceType == some .fosaWithdrawal

/-- Nobody has withdrawn money by M-Pesa yet. -/
structure Db.BeforeWithdrawals (db : Db) : Prop where
  rows : ∀ m ∈ db.mpesaTransactions, m.isWithdrawal = false
  debits : ∀ t ∈ db.transactions, t.isWithdrawal = false
  links : ∀ t ∈ db.transactions, ∀ id ∈ t.linkedTransactionId, id < db.transactions.length

/-- The row was completed or has failed. -/
def MpesaTransaction.final (m : MpesaTransaction) : Bool :=
  m.status == .completed || m.status == .failed

/-- The row that the point flags. -/
def PayoutTask.flags : PayoutTask → Option StaleRow
  | .flagPending (stale :: _) => some stale
  | _ => none

/-- A row that was not settled when the reconciliation read it is not settled when it is flagged. -/
def PayoutWorld.flagsWaiting (w : PayoutWorld) : PayoutEvent → Bool
  | .advance i _ =>
    (w.task i).all fun t => t.flags.all fun stale =>
      w.state.db.mpesaTransactions[stale.id]?.all fun m => !stale.row.unsettled || m.unsettled
  | _ => true

/-! ## 2. The rows and their debits -/

/-- The transaction `t` debited a withdrawal. -/
def Db.Withdrew (db : Db) (t : Nat) : Prop :=
  ∃ debit, db.transactions[t]? = some debit ∧ debit.isWithdrawal = true

/-- The row `id` pays out what the transaction `t` debited. -/
def PayoutDesk.PaidFrom (d : PayoutDesk) (id t : Nat) : Prop :=
  ∃ m, d.db.mpesaTransactions[id]? = some m ∧ m.isWithdrawal = true ∧ m.transactionId = some t

structure PayoutDesk.Linked (d : PayoutDesk) : Prop where
  links : ∀ r ∈ d.db.transactions, ∀ id ∈ r.linkedTransactionId, id < d.db.transactions.length
  intents : ∀ n ∈ d.intents, d.db.Withdrew n.sourceTransactionId
  rows : ∀ (id : Nat) (m : MpesaTransaction), d.db.mpesaTransactions[id]? = some m →
    m.isWithdrawal = true →
    ∃ t, m.transactionId = some t ∧ d.db.Withdrew t
  unique : ∀ i j t, d.PaidFrom i t → d.PaidFrom j t → i = j
  once : ∀ t, d.db.Withdrew t → d.db.reversals t ≤ 1
  undone : ∀ (t : Nat) (debit : Transaction), d.db.transactions[t]? = some debit →
    debit.isWithdrawal = true → 0 < d.db.reversals t → debit.status = .reversed ∧ ∃ id, d.PaidFrom id t

/-- The debit of a row is reversed exactly when the row failed. -/
def PayoutDesk.Settled (d : PayoutDesk) : Prop :=
  ∀ (id : Nat) (m : MpesaTransaction) (t : Nat), d.db.mpesaTransactions[id]? = some m →
    m.isWithdrawal = true → m.transactionId = some t → (0 < d.db.reversals t ↔ m.status = .failed)

/-- A payout for a debit. -/
def Db.Debited (db : Db) (payout : MobilePayout) : Prop :=
  payout.referenceType = .fosaWithdrawal ∧ ∃ t, payout.sourceTransactionId = some t ∧ db.Withdrew t

/-- What a process knows of the debit that it is about. -/
def PayoutTask.Linked (d : PayoutDesk) : PayoutTask → Prop
  | .findDispatched payout _ => d.db.Debited payout
  | .executeMwaloniMobilePayout payout => d.db.Debited payout
  | .createB2c payout => d.db.Debited payout
  | .refundB2c _ id t => d.PaidFrom id t
  | .reverseByHand id _ t _ _ => d.PaidFrom id t
  | .failB2c _ id => ∃ m, d.db.mpesaTransactions[id]? = some m ∧
      (m.transactionId = none ∨ m.isWithdrawal = false)
  | _ => True

/-- Debits and rows stay what they are. -/
structure PayoutDesk.Grows (d d' : PayoutDesk) : Prop where
  debits : ∀ t, d.db.Withdrew t → d'.db.Withdrew t
  rows : ∀ (id : Nat) (m : MpesaTransaction), d.db.mpesaTransactions[id]? = some m →
    ∃ m', d'.db.mpesaTransactions[id]? = some m' ∧ m'.origin = m.origin

/-- What a statement does to the debits and to the rows. -/
inductive SagaWrite (d : PayoutDesk) (t : PayoutTask) (d' : PayoutDesk) : Prop
  | rest (hdebits : d'.db.transactions = d.db.transactions)
      (hrows : d'.db.mpesaTransactions = d.db.mpesaTransactions) (hintents : d'.intents = d.intents)
  | withdraw (hrows : d'.db.mpesaTransactions = d.db.mpesaTransactions)
      (hdebits : d'.db.transactions = d.db.transactions ∨
        ∃ debit : Transaction, d'.db.transactions = d.db.transactions ++ [debit] ∧
          debit.type = .withdrawal ∧ debit.linkedTransactionId = none)
      (hintents : ∀ n ∈ d'.intents, n ∈ d.intents ∨ d'.db.Withdrew n.sourceTransactionId)
  | create {payout : MobilePayout} {now : Int} (ht : t = .createB2c payout)
      (hdebits : d'.db.transactions = d.db.transactions) (hintents : d'.intents = d.intents)
      (hrows : d'.db.mpesaTransactions = d.db.mpesaTransactions ++ [payout.row now])
      (hunique : ∀ r ∈ d.db.mpesaTransactions,
        clash payout.sourceTransactionId r.transactionId = false)
  | edit {id : Nat} {m : MpesaTransaction} {f : MpesaTransaction → MpesaTransaction}
      (hdebits : d'.db.transactions = d.db.transactions) (hintents : d'.intents = d.intents)
      (hrows : d'.db.mpesaTransactions = d.db.mpesaTransactions.modify id f)
      (hm : d.db.mpesaTransactions[id]? = some m) (horigin : ∀ m, (f m).origin = m.origin)
      (hstatus : StatusMove t id m (f m))
  | reverse {id s : Nat} {m : MpesaTransaction} {f : MpesaTransaction → MpesaTransaction}
      {original r : Transaction} (hintents : d'.intents = d.intents)
      (hrows : d'.db.mpesaTransactions = d.db.mpesaTransactions.modify id f)
      (hm : d.db.mpesaTransactions[id]? = some m) (hopen : m.unsettled = true)
      (horigin : ∀ m, (f m).origin = m.origin) (hfailed : ∀ m, (f m).status = .failed)
      (hlink : (∃ body, t = .refundB2c body id s) ∨
        (∃ row actorId dto, t = .reverseByHand id row s actorId dto) ∨
        (m.transactionId = some s ∧ m.isWithdrawal = true))
      (horiginal : d.db.transactions[s]? = some original) (hstatus : original.status ≠ .reversed)
      (hr : r.type = .reversal ∧ r.linkedTransactionId = some s)
      (hdebits : d'.db.transactions =
        (d.db.transactions ++ [r]).modify s fun t => { t with status := .reversed })

namespace SagaLemmas

theorem isWithdrawal_iff {m : MpesaTransaction} :
    m.isWithdrawal = true ↔ m.referenceType = some .fosaWithdrawal := by
  unfold MpesaTransaction.isWithdrawal
  rw [beq_iff_eq]

theorem not_isWithdrawal {m : MpesaTransaction} (h : m.referenceType ≠ some .fosaWithdrawal) :
    m.isWithdrawal = false :=
  Bool.eq_false_iff.mpr fun hm => h (isWithdrawal_iff.mp hm)

theorem transactionId_of_origin {m m' : MpesaTransaction} (h : m'.origin = m.origin) :
    m'.transactionId = m.transactionId := by
  have htransactionId := congrArg MpesaTransaction.transactionId h
  exact htransactionId

theorem isWithdrawal_of_origin {m m' : MpesaTransaction} (h : m'.origin = m.origin) :
    m'.isWithdrawal = m.isWithdrawal := by
  have hreferenceType := congrArg MpesaTransaction.isWithdrawal h
  exact hreferenceType

theorem posting_isWithdrawal {request : WithdrawMpesa} {tenantId : String} {accountId : Nat}
    {t : Transaction} (h : t.reference = (request.posting tenantId accountId).reference) :
    t.isWithdrawal = true := by
  unfold Transaction.isWithdrawal
  rw [h]
  simp only [WithdrawMpesa.posting, toString, String.toList_append, List.append_assoc]
  exact List.isPrefixOf_iff_prefix.mpr (List.prefix_append _ _)

/-- A withdrawal that was posted before is found by its reference. -/
theorem withdrew_of_posting {request : WithdrawMpesa} {tenantId : String} {accountId : Nat}
    {r : PostingResult} {db db' : Db}
    (h : Yields (postEntry (request.posting tenantId accountId)) db r db') :
    db'.Withdrew r.transaction ∧ db'.mpesaTransactions = db.mpesaTransactions ∧
      (db'.transactions = db.transactions ∨
        ∃ debit : Transaction, db'.transactions = db.transactions ++ [debit] ∧
          debit.type = .withdrawal ∧ debit.linkedTransactionId = none) := by
  rcases postEntry_cases h with ⟨rfl, -, t, hfind⟩ | ⟨hposted, -, hr⟩
  · obtain ⟨ht, hreference⟩ := Table.findRow_some hfind
    exact ⟨⟨t, ht, posting_isWithdrawal (beq_iff_eq.mp hreference)⟩, rfl, .inl rfl⟩
  · obtain ⟨-, -, a, type, actor, description, debitCode, creditCode, -, -, -, htype, -, rfl⟩ :=
      hposted
    cases htype
    refine ⟨⟨_, hr ▸ Table.getElem?_append_one_self, @posting_isWithdrawal request tenantId
      accountId _ rfl⟩, rfl,
      .inr ⟨_, rfl, rfl, rfl⟩⟩

theorem saga_write {d d' : PayoutDesk} {t : PayoutTask} (h : PayoutWrite d t d') :
    SagaWrite d t d' := by
  cases h with
  | nothing => exact .rest rfl rfl rfl
  | withdraw hpost hintents =>
    obtain ⟨hwithdrew, hrows, hdebits⟩ := withdrew_of_posting hpost
    refine .withdraw hrows hdebits fun n hn => ?_
    rcases hintents with ⟨rfl, -⟩ | ⟨intent, hsource, rfl⟩
    · exact .inl hn
    · rcases List.mem_append.mp hn with hn | hn
      · exact .inl hn
      · obtain rfl := List.mem_singleton.mp hn
        exact .inr (hsource ▸ hwithdrew)
  | create hunique => exact .create rfl rfl rfl rfl hunique
  | claimSend hm => exact .edit rfl rfl rfl hm (fun _ => rfl) (.kept rfl)
  | send => exact .rest rfl rfl rfl
  | edit hm _ hf => exact .edit rfl rfl rfl hm hf.origin hf.status
  | reverse hm hopen _ hlink _ hreversed _ hf =>
    obtain ⟨original, entryId, entry, posting, a, reason, by', ho, hst, -, -, -, -, -, -, rfl⟩ :=
      hreversed
    refine .reverse rfl rfl hm hopen hf.origin hf.status ?_ ho hst ⟨rfl, rfl⟩ rfl
    rcases hlink with h | h | ⟨h, hfosa⟩
    · exact .inl h
    · exact .inr (.inl h)
    · exact .inr (.inr ⟨h, isWithdrawal_iff.mpr hfosa⟩)
  | completeByHand hm _ hf => exact .edit rfl rfl rfl hm hf.origin hf.status
  | createAttempt => exact .rest rfl rfl rfl
  | schedule hm => exact .edit rfl rfl rfl hm (fun _ => rfl) (.kept rfl)

theorem paidFrom_iff {d : PayoutDesk} {id t : Nat} :
    d.PaidFrom id t ↔ ∃ o, (d.db.mpesaTransactions.map (·.origin))[id]? = some o ∧
      o.isWithdrawal = true ∧ o.transactionId = some t := by
  rw [List.getElem?_map]
  constructor
  · rintro ⟨m, hm, h⟩
    exact ⟨m.origin, by rw [hm]; rfl, h⟩
  · rintro ⟨o, ho, h⟩
    obtain ⟨m, hm, rfl⟩ := Option.map_eq_some_iff.mp ho
    exact ⟨m, hm, h⟩

/-- A payout is told by its row as it was inserted. -/
theorem paidFrom_congr {d d' : PayoutDesk} {id t : Nat}
    (h : d'.db.mpesaTransactions.map (·.origin) = d.db.mpesaTransactions.map (·.origin)) :
    d'.PaidFrom id t ↔ d.PaidFrom id t := by
  rw [paidFrom_iff, paidFrom_iff, h]

theorem withdrew_congr {db db' : Db} {t : Nat} (h : db'.transactions = db.transactions) :
    db'.Withdrew t ↔ db.Withdrew t := by
  unfold Db.Withdrew
  rw [h]

theorem reversals_congr {db db' : Db} {t : Nat} (h : db'.transactions = db.transactions) :
    db'.reversals t = db.reversals t := by
  unfold Db.reversals
  rw [h]

/-- A row of a withdrawal is one of a withdrawal that was there, when the rows only changed. -/
theorem row_of_congr {d d' : PayoutDesk} {id : Nat} {m' : MpesaTransaction}
    (h : d'.db.mpesaTransactions.map (·.origin) = d.db.mpesaTransactions.map (·.origin))
    (hm : d'.db.mpesaTransactions[id]? = some m') :
    ∃ m, d.db.mpesaTransactions[id]? = some m ∧ m'.origin = m.origin := by
  have hid := congrArg (fun l : List MpesaTransaction => l[id]?) h
  simp only [List.getElem?_map, hm, Option.map_some] at hid
  obtain ⟨m, hm', ho⟩ := Option.map_eq_some_iff.mp hid.symm
  exact ⟨m, hm', ho.symm⟩

theorem row_of_modify {d d' : PayoutDesk} {id j : Nat} {m' : MpesaTransaction}
    {f : MpesaTransaction → MpesaTransaction}
    (hrows : d'.db.mpesaTransactions = d.db.mpesaTransactions.modify j f)
    (hf : ∀ m, (f m).origin = m.origin) (hm : d'.db.mpesaTransactions[id]? = some m') :
    ∃ m, d.db.mpesaTransactions[id]? = some m ∧ m'.origin = m.origin :=
  row_of_congr (hrows ▸ Table.map_modify_same hf) hm

/-- The rows are linked as before when no row is new and the debits are still there. -/
theorem rows_of_congr {d d' : PayoutDesk} (h : d.Linked)
    (hrows : d'.db.mpesaTransactions.map (·.origin) = d.db.mpesaTransactions.map (·.origin))
    (hgrows : ∀ t, d.db.Withdrew t → d'.db.Withdrew t) (id : Nat) (m' : MpesaTransaction)
    (hm : d'.db.mpesaTransactions[id]? = some m') (hw : m'.isWithdrawal = true) :
    ∃ t, m'.transactionId = some t ∧ d'.db.Withdrew t := by
  obtain ⟨m, hm', ho⟩ := row_of_congr hrows hm
  obtain ⟨t, ht, hdebit⟩ := h.rows id m hm' (isWithdrawal_of_origin ho ▸ hw)
  exact ⟨t, transactionId_of_origin ho ▸ ht, hgrows t hdebit⟩

theorem unique_of_congr {d d' : PayoutDesk} (h : d.Linked)
    (hrows : d'.db.mpesaTransactions.map (·.origin) = d.db.mpesaTransactions.map (·.origin))
    (i j t : Nat) (hi : d'.PaidFrom i t) (hj : d'.PaidFrom j t) : i = j :=
  h.unique i j t ((paidFrom_congr hrows).mp hi) ((paidFrom_congr hrows).mp hj)

/-- The debits and the rows are as before, but for what an update of a row may do. -/
theorem linked_same {d d' : PayoutDesk} (h : d.Linked)
    (hdebits : d'.db.transactions = d.db.transactions)
    (hrows : d'.db.mpesaTransactions.map (·.origin) = d.db.mpesaTransactions.map (·.origin))
    (hintents : d'.intents = d.intents) : d'.Linked where
  links := by
    rw [hdebits]
    exact h.links
  intents n hn := (withdrew_congr hdebits).mpr (h.intents n (hintents ▸ hn))
  rows := rows_of_congr h hrows fun t ht => (withdrew_congr hdebits).mpr ht
  unique := unique_of_congr h hrows
  once t ht := reversals_congr hdebits ▸ h.once t ((withdrew_congr hdebits).mp ht)
  undone t debit hdebit hw hpos := by
    rw [reversals_congr hdebits] at hpos
    obtain ⟨hstatus, id, hid⟩ := h.undone t debit (hdebits ▸ hdebit) hw hpos
    exact ⟨hstatus, id, (paidFrom_congr hrows).mpr hid⟩

theorem reverses_iff {r : Transaction} {id : Nat} :
    r.reverses id = true ↔ r.type = .reversal ∧ r.linkedTransactionId = some id := by
  unfold Transaction.reverses
  rw [Bool.and_eq_true, beq_iff_eq, beq_iff_eq]

/-- Nothing reverses a transaction that is not there yet. -/
theorem reversals_fresh {d : PayoutDesk} (h : d.Linked) :
    d.db.reversals d.db.transactions.length = 0 := by
  refine List.countP_eq_zero.mpr fun r hr hrev => ?_
  exact Nat.lt_irrefl _ (h.links r hr _ (reverses_iff.mp hrev).2)

theorem reversals_append {db db' : Db} {r : Transaction} {t : Nat}
    (h : db'.transactions = db.transactions ++ [r]) :
    db'.reversals t = db.reversals t + if r.reverses t = true then 1 else 0 := by
  unfold Db.reversals
  rw [h, List.countP_append, List.countP_singleton]

theorem withdrew_append {db db' : Db} {r : Transaction} {t : Nat}
    (h : db'.transactions = db.transactions ++ [r]) (ht : db.Withdrew t) : db'.Withdrew t := by
  obtain ⟨debit, hdebit, hw⟩ := ht
  exact ⟨debit, h ▸ Table.getElem?_append_one_old hdebit, hw⟩

theorem linked_withdraw {d d' : PayoutDesk} {debit : Transaction} (h : d.Linked)
    (hrows : d'.db.mpesaTransactions = d.db.mpesaTransactions)
    (hdebits : d'.db.transactions = d.db.transactions ++ [debit]) (htype : debit.type = .withdrawal)
    (hlink : debit.linkedTransactionId = none)
    (hintents : ∀ n ∈ d'.intents, n ∈ d.intents ∨ d'.db.Withdrew n.sourceTransactionId) :
    d'.Linked := by
  have horigins : d'.db.mpesaTransactions.map (·.origin) =
      d.db.mpesaTransactions.map (·.origin) := congrArg _ hrows
  have hgrows : ∀ t, d.db.Withdrew t → d'.db.Withdrew t := fun _ => withdrew_append hdebits
  have hcount : ∀ t, d'.db.reversals t = d.db.reversals t := by
    intro t
    rw [reversals_append hdebits, if_neg, Nat.add_zero]
    intro hrev
    cases htype.symm.trans (reverses_iff.mp hrev).1
  refine ⟨?_, ?_, rows_of_congr h horigins hgrows, unique_of_congr h horigins, ?_, ?_⟩
  · rw [hdebits, List.length_append]
    intro r hr id hid
    rcases List.mem_append.mp hr with hr | hr
    · exact Nat.lt_of_lt_of_le (h.links r hr id hid) (Nat.le_add_right _ _)
    · obtain rfl := List.mem_singleton.mp hr
      rw [hlink] at hid
      cases hid
  · intro n hn
    rcases hintents n hn with hn | hn
    · exact hgrows _ (h.intents n hn)
    · exact hn
  · rintro t ⟨debit', hdebit', hw⟩
    rw [hcount]
    rcases Table.getElem?_append_one_some (hdebits ▸ hdebit') with hold | ⟨rfl, -⟩
    · exact h.once t ⟨debit', hold, hw⟩
    · rw [reversals_fresh h]
      exact Nat.zero_le 1
  · intro t debit' hdebit' hw hpos
    rw [hcount] at hpos
    rcases Table.getElem?_append_one_some (hdebits ▸ hdebit') with hold | ⟨rfl, -⟩
    · obtain ⟨hstatus, id, hid⟩ := h.undone t debit' hold hw hpos
      exact ⟨hstatus, id, (paidFrom_congr horigins).mpr hid⟩
    · rw [reversals_fresh h] at hpos
      cases hpos

/-- The row of a payout whose debit has no row yet. -/
theorem linked_create {d d' : PayoutDesk} {payout : MobilePayout} {now : Int} (h : d.Linked)
    (hdebited : d.db.Debited payout) (hdebits : d'.db.transactions = d.db.transactions)
    (hintents : d'.intents = d.intents)
    (hrows : d'.db.mpesaTransactions = d.db.mpesaTransactions ++ [payout.row now])
    (hunique : ∀ r ∈ d.db.mpesaTransactions,
      clash payout.sourceTransactionId r.transactionId = false) : d'.Linked := by
  obtain ⟨-, s, hs, hwithdrew⟩ := hdebited
  have hpaid : ∀ id t, d'.PaidFrom id t →
      d.PaidFrom id t ∨ (id = d.db.mpesaTransactions.length ∧ t = s) := by
    rintro id t ⟨m, hm, hw, ht⟩
    rcases Table.getElem?_append_one_some (hrows ▸ hm) with hold | ⟨rfl, rfl⟩
    · exact .inl ⟨m, hold, hw, ht⟩
    · exact .inr ⟨rfl, Option.some.inj (ht.symm.trans hs)⟩
  have hnew : ∀ id, ¬ d.PaidFrom id s := by
    rintro id ⟨m, hm, -, ht⟩
    have hclash := hunique m (List.mem_of_getElem? hm)
    rw [hs, ht] at hclash
    simp [clash] at hclash
  have hgrows : ∀ t, d.db.Withdrew t → d'.db.Withdrew t := fun t ht =>
    (withdrew_congr hdebits).mpr ht
  refine ⟨?_, ?_, ?_, ?_, ?_, ?_⟩
  · rw [hdebits]
    exact h.links
  · exact fun n hn => hgrows _ (h.intents n (hintents ▸ hn))
  · intro id m hm hw
    rcases Table.getElem?_append_one_some (hrows ▸ hm) with hold | ⟨-, rfl⟩
    · obtain ⟨t, ht, hdebit⟩ := h.rows id m hold hw
      exact ⟨t, ht, hgrows t hdebit⟩
    · exact ⟨s, hs, hgrows s hwithdrew⟩
  · intro i j t hi hj
    rcases hpaid i t hi with hi | ⟨rfl, rfl⟩
    · rcases hpaid j t hj with hj | ⟨rfl, rfl⟩
      · exact h.unique i j t hi hj
      · exact absurd hi (hnew i)
    · rcases hpaid j t hj with hj | ⟨rfl, -⟩
      · exact absurd hj (hnew j)
      · rfl
  · intro t ht
    rw [reversals_congr hdebits]
    exact h.once t ((withdrew_congr hdebits).mp ht)
  · intro t debit hdebit hw hpos
    rw [reversals_congr hdebits] at hpos
    obtain ⟨hstatus, id, m, hm, hid⟩ := h.undone t debit (hdebits ▸ hdebit) hw hpos
    exact ⟨hstatus, id, m, hrows ▸ Table.getElem?_append_one_old hm, hid⟩

theorem reversals_reverse {db db' : Db} {r : Transaction} {s t : Nat}
    (h : db'.transactions =
      (db.transactions ++ [r]).modify s fun t => { t with status := .reversed })
    (hr : r.type = .reversal ∧ r.linkedTransactionId = some s) :
    db'.reversals t = db.reversals t + if t = s then 1 else 0 := by
  have hrev : r.reverses t = true ↔ t = s := by
    rw [reverses_iff, hr.2, Option.some.injEq, eq_comm (a := s)]
    exact and_iff_right hr.1
  have hsame : ∀ x : Transaction, { x with status := .reversed : Transaction }.reverses t =
      x.reverses t := fun _ => rfl
  unfold Db.reversals
  rw [h, Table.countP_modify_same hsame, List.countP_append, List.countP_singleton]
  simp only [hrev]

/-- A transaction after a reversal is one that was there before, or the reversal. -/
theorem debit_reverse {db db' : Db} {r debit' : Transaction} {s t : Nat}
    (h : db'.transactions =
      (db.transactions ++ [r]).modify s fun t => { t with status := .reversed })
    (hdebit : db'.transactions[t]? = some debit') :
    t = db.transactions.length ∨
    ∃ debit, db.transactions[t]? = some debit ∧ debit'.isWithdrawal = debit.isWithdrawal ∧
      debit'.status = if s = t then .reversed else debit.status := by
  rw [h] at hdebit
  obtain ⟨debit, hold, rfl⟩ := Table.getElem?_modify_some hdebit
  rcases Table.getElem?_append_one_some hold with hold | ⟨rfl, -⟩
  · refine .inr ⟨debit, hold, ?_⟩
    split
    · exact ⟨rfl, rfl⟩
    · exact ⟨rfl, rfl⟩
  · exact .inl rfl

theorem withdrew_reverse {db db' : Db} {r : Transaction} {s t : Nat}
    (h : db'.transactions =
      (db.transactions ++ [r]).modify s fun t => { t with status := .reversed })
    (ht : db.Withdrew t) : db'.Withdrew t := by
  obtain ⟨debit, hdebit, hw⟩ := ht
  have hold := Table.getElem?_append_one_old (a := r) hdebit
  unfold Db.Withdrew
  rw [h]
  by_cases hst : s = t
  · subst hst
    exact ⟨_, Table.getElem?_modify_self hold, hw⟩
  · exact ⟨debit, by rw [Table.getElem?_modify_other hst]; exact hold, hw⟩

theorem linked_reverse {d d' : PayoutDesk} {original r : Transaction} {id s : Nat} (h : d.Linked)
    (hintents : d'.intents = d.intents)
    (hrows : d'.db.mpesaTransactions.map (·.origin) = d.db.mpesaTransactions.map (·.origin))
    (hpaid : d.PaidFrom id s) (horiginal : d.db.transactions[s]? = some original)
    (hstatus : original.status ≠ .reversed)
    (hr : r.type = .reversal ∧ r.linkedTransactionId = some s)
    (hdebits : d'.db.transactions =
      (d.db.transactions ++ [r]).modify s fun t => { t with status := .reversed }) : d'.Linked := by
  have hlt := Table.lt_length_of_getElem? horiginal
  have hcount : ∀ t, d'.db.reversals t = d.db.reversals t + if t = s then 1 else 0 :=
    fun _ => reversals_reverse hdebits hr
  have hgrows : ∀ t, d.db.Withdrew t → d'.db.Withdrew t := fun _ => withdrew_reverse hdebits
  have hlength : d'.db.transactions.length = d.db.transactions.length + 1 := by
    rw [hdebits, List.length_modify, List.length_append, List.length_singleton]
  -- The count of `s` was zero, or the transaction had been reversed.
  have hzero : original.isWithdrawal = true → d.db.reversals s = 0 := by
    intro hw
    rcases Nat.eq_zero_or_pos (d.db.reversals s) with hz | hpos
    · exact hz
    · exact absurd (h.undone s original horiginal hw hpos).1 hstatus
  refine ⟨?_, fun n hn => hgrows _ (h.intents n (hintents ▸ hn)), rows_of_congr h hrows hgrows,
    unique_of_congr h hrows, ?_, ?_⟩
  · rw [hlength, hdebits]
    refine Table.forall_modify (Table.forall_append_one (fun x hx n hn => ?_) fun n hn => ?_)
      fun _ hx => hx
    · exact Nat.lt_succ_of_lt (h.links x hx n hn)
    · rw [hr.2] at hn
      cases hn
      exact Nat.lt_succ_of_lt hlt
  · rintro t ⟨debit', hdebit', hw⟩
    rw [hcount]
    rcases debit_reverse hdebits hdebit' with rfl | ⟨debit, hdebit, hsame, -⟩
    · rw [reversals_fresh h, if_neg (Nat.ne_of_gt hlt)]
      exact Nat.zero_le 1
    · split
      · next hst =>
        subst hst
        cases horiginal.symm.trans hdebit
        rw [hzero (hsame ▸ hw)]
      · exact h.once t ⟨debit, hdebit, hsame ▸ hw⟩
  · intro t debit' hdebit' hw hpos
    rw [hcount] at hpos
    rcases debit_reverse hdebits hdebit' with rfl | ⟨debit, hdebit, hsame, hstatus'⟩
    · rw [reversals_fresh h, if_neg (Nat.ne_of_gt hlt)] at hpos
      cases hpos
    · by_cases hst : t = s
      · subst hst
        rw [if_pos rfl] at hstatus'
        exact ⟨hstatus', id, (paidFrom_congr hrows).mpr hpaid⟩
      · rw [if_neg hst] at hpos
        rw [if_neg fun he => hst he.symm] at hstatus'
        obtain ⟨hreversed, j, hj⟩ := h.undone t debit hdebit (hsame ▸ hw) hpos
        exact ⟨hstatus'.trans hreversed, j, (paidFrom_congr hrows).mpr hj⟩

/-! ### Every statement -/

theorem origins_modify {f : MpesaTransaction → MpesaTransaction} {id : Nat}
    {rows : List MpesaTransaction} (h : ∀ m, (f m).origin = m.origin) :
    (rows.modify id f).map (·.origin) = rows.map (·.origin) :=
  Table.map_modify_same h

/-- The row of a reversal is the one that its debit pays for. -/
theorem reverse_paidFrom {d : PayoutDesk} {t : PayoutTask} {id s : Nat} {m : MpesaTransaction}
    (ht : t.Linked d) (hm : d.db.mpesaTransactions[id]? = some m)
    (hlink : (∃ body, t = .refundB2c body id s) ∨
      (∃ row actorId dto, t = .reverseByHand id row s actorId dto) ∨
      (m.transactionId = some s ∧ m.isWithdrawal = true)) : d.PaidFrom id s := by
  rcases hlink with ⟨_, rfl⟩ | ⟨_, _, _, rfl⟩ | ⟨hs, hw⟩
  · exact ht
  · exact ht
  · exact ⟨m, hm, hw, hs⟩

theorem linked_write {d d' : PayoutDesk} {t : PayoutTask} (h : d.Linked) (ht : t.Linked d)
    (hw : SagaWrite d t d') : d'.Linked := by
  cases hw with
  | rest hdebits hrows hintents => exact linked_same h hdebits (congrArg _ hrows) hintents
  | withdraw hrows hdebits hintents =>
    rcases hdebits with hdebits | ⟨debit, hdebits, htype, hlink⟩
    · have hsame : PayoutDesk.Linked { d' with intents := d.intents } :=
        linked_same h hdebits (congrArg _ hrows) rfl
      refine { hsame with intents := fun n hn => ?_ }
      rcases hintents n hn with hn | hn
      · exact hsame.intents n hn
      · exact hn
    · exact linked_withdraw h hrows hdebits htype hlink hintents
  | create hcreate hdebits hintents hrows hunique =>
    subst hcreate
    exact linked_create h ht hdebits hintents hrows hunique
  | edit hdebits hintents hrows hm horigin hstatus =>
    exact linked_same h hdebits (hrows ▸ origins_modify horigin) hintents
  | reverse hintents hrows hm hopen horigin hfailed hlink horiginal hstatus hr hdebits =>
    exact linked_reverse h hintents (hrows ▸ origins_modify horigin) (reverse_paidFrom ht hm hlink)
      horiginal hstatus hr hdebits

theorem grows_rows {d d' : PayoutDesk}
    (h : d'.db.mpesaTransactions.map (·.origin) = d.db.mpesaTransactions.map (·.origin)) (id : Nat)
    (m : MpesaTransaction) (hm : d.db.mpesaTransactions[id]? = some m) :
    ∃ m', d'.db.mpesaTransactions[id]? = some m' ∧ m'.origin = m.origin := by
  obtain ⟨m', hm', ho⟩ := row_of_congr h.symm hm
  exact ⟨m', hm', ho.symm⟩

theorem grows_write {d d' : PayoutDesk} {t : PayoutTask} (h : SagaWrite d t d') : d.Grows d' := by
  cases h with
  | rest hdebits hrows => exact ⟨fun _ => (withdrew_congr hdebits).mpr, grows_rows (congrArg _ hrows)⟩
  | withdraw hrows hdebits =>
    refine ⟨fun t ht => ?_, grows_rows (congrArg _ hrows)⟩
    rcases hdebits with hdebits | ⟨debit, hdebits, -⟩
    · exact (withdrew_congr hdebits).mpr ht
    · exact withdrew_append hdebits ht
  | create _ hdebits _ hrows =>
    exact ⟨fun _ => (withdrew_congr hdebits).mpr,
      fun id m hm => ⟨m, hrows ▸ Table.getElem?_append_one_old hm, rfl⟩⟩
  | edit hdebits _ hrows _ horigin =>
    exact ⟨fun _ => (withdrew_congr hdebits).mpr, grows_rows (hrows ▸ origins_modify horigin)⟩
  | reverse _ hrows _ _ horigin _ _ _ _ _ hdebits =>
    exact ⟨fun _ => withdrew_reverse hdebits, grows_rows (hrows ▸ origins_modify horigin)⟩

theorem debited_grows {d d' : PayoutDesk} {payout : MobilePayout} (h : d.Grows d')
    (hp : d.db.Debited payout) : d'.db.Debited payout := by
  obtain ⟨htype, t, ht, hdebit⟩ := hp
  exact ⟨htype, t, ht, h.debits t hdebit⟩

theorem paidFrom_grows {d d' : PayoutDesk} {id t : Nat} (h : d.Grows d') (hp : d.PaidFrom id t) :
    d'.PaidFrom id t := by
  obtain ⟨m, hm, hw, ht⟩ := hp
  obtain ⟨m', hm', ho⟩ := h.rows id m hm
  exact ⟨m', hm', (isWithdrawal_of_origin ho).trans hw, (transactionId_of_origin ho).trans ht⟩

theorem task_grows {d d' : PayoutDesk} {t : PayoutTask} (h : d.Grows d') (ht : t.Linked d) :
    t.Linked d' := by
  cases t with
  | findDispatched => exact debited_grows h ht
  | executeMwaloniMobilePayout => exact debited_grows h ht
  | createB2c => exact debited_grows h ht
  | refundB2c => exact paidFrom_grows h ht
  | reverseByHand => exact paidFrom_grows h ht
  | failB2c =>
    obtain ⟨m, hm, hlink⟩ := ht
    obtain ⟨m', hm', ho⟩ := h.rows _ m hm
    refine ⟨m', hm', hlink.imp (fun hnone => ?_) fun hno => ?_⟩
    · exact (transactionId_of_origin ho).trans hnone
    · exact (isWithdrawal_of_origin ho).trans hno
  | _ => trivial

theorem linked_of_run {d : PayoutDesk} {t : PayoutTask} {run : ReconRun} (h : t.run = some run) :
    t.Linked d := by
  cases t with
  | findDispatched | executeMwaloniMobilePayout | createB2c | refundB2c | reverseByHand | failB2c =>
    cases h
  | _ => trivial

theorem finish_cases {run : ReconRun} {u : PayoutTask} (h : run.finish = some u) :
    ∃ next, u = .claim next := by
  unfold ReconRun.finish at h
  split at h
  · cases h
  · cases h
    exact ⟨_, rfl⟩

theorem linked_finish {d : PayoutDesk} {run : ReconRun} {u : PayoutTask}
    (h : run.finish = some u) : u.Linked d := by
  obtain ⟨next, rfl⟩ := finish_cases h
  trivial

theorem resume_cases {caller : StatusCaller} {found : ProviderStatus} {u : PayoutTask}
    (h : caller.resume found = some u) :
    (∃ attempt, u = .readOutcome attempt found) ∨ ∃ job, u = .markTimeout job := by
  cases caller with
  | send => cases h
  | other => cases h
  | reconcile =>
    cases h
    exact .inl ⟨_, rfl⟩
  | timeout =>
    simp only [StatusCaller.resume] at h
    split at h
    · cases h
    · cases h
      exact .inr ⟨_, rfl⟩

theorem linked_resume {d : PayoutDesk} {caller : StatusCaller} {found : ProviderStatus}
    {u : PayoutTask} (h : caller.resume found = some u) : u.Linked d := by
  rcases resume_cases h with ⟨attempt, rfl⟩ | ⟨job, rfl⟩
  · trivial
  · trivial

theorem resumeAfter_cases {attempt : ReconAttempt} {after : AfterCompletion} {u : PayoutTask}
    (h : attempt.resume after = some u) :
    u = .raiseOperationalAlert attempt ∨ u = .auditOutcome attempt ∨ ∃ next, u = .claim next := by
  cases after with
  | alert => exact .inl (Option.some.inj h).symm
  | audit => exact .inr (.inl (Option.some.inj h).symm)
  | leave => exact .inr (.inr (finish_cases h))

/-- What leads to the call of a payout, and to the attempt of a run. -/
def comesFrom (d : PayoutDesk) (t : PayoutTask) : PayoutTask → Prop
  | .sendMobile id payout => t = .claimSend id payout
  | .readClaimed run => t = .claim run ∧
      ∃ m, d.db.mpesaTransactions[run.mpesaTransactionId]? = some m ∧ m.unsettled = true
  | .createAttempt run m => t = .readClaimed run ∧
      d.db.mpesaTransactions[run.mpesaTransactionId]? = some m
  | _ => True

theorem leads_comesFrom {d : PayoutDesk} {t u : PayoutTask} (h : Leads d t u) :
    comesFrom d t u := by
  cases h with
  | claimedSend => rfl
  | claimed hm hopen => exact ⟨rfl, _, hm, hopen⟩
  | read hm => exact ⟨rfl, hm⟩
  | resume _ hu => rcases resume_cases hu with ⟨_, rfl⟩ | ⟨_, rfl⟩ <;> trivial
  | skipped hu | finished _ hu =>
    obtain ⟨_, rfl⟩ := finish_cases hu
    trivial
  | within _ hu =>
    unfold comesFrom
    split <;> trivial
  | scheduled hu => rcases resumeAfter_cases hu with rfl | rfl | ⟨_, rfl⟩ <;> trivial
  | _ => trivial

theorem leads_linked {d : PayoutDesk} {t u : PayoutTask} (hd : d.Linked) (ht : t.Linked d)
    (h : Leads d t u) : u.Linked d := by
  cases h with
  | taken hintent =>
    exact ⟨rfl, _, rfl, hd.intents _ (List.mem_of_getElem? hintent)⟩
  | execute => exact ht
  | create => exact ht
  | callbackRefund hm hfosa hlink => exact ⟨_, hm, isWithdrawal_iff.mpr hfosa, hlink⟩
  | callbackFailure hm hlink => exact ⟨_, hm, hlink.imp id not_isWithdrawal⟩
  | byHandReversal hm hfosa hlink => exact ⟨_, hm, isWithdrawal_iff.mpr hfosa, hlink⟩
  | resume _ hu => exact linked_resume hu
  | skipped hu => exact linked_finish hu
  | finished _ hu => exact linked_finish hu
  | within _ hu => exact linked_of_run (run_of_numbered hu)
  | scheduled hu =>
    rcases resumeAfter_cases hu with rfl | rfl | ⟨next, rfl⟩
    · trivial
    · trivial
    · trivial
  | _ => trivial

theorem caughtBy_cases {config : ReconConfig} {now : Int} {message : String}
    {caller : StatusCaller} {u : PayoutTask} (h : caller.caught config now message = some u) :
    (∃ id reason, u = .markMwaloniOutcomeUnknown id reason) ∨
      ∃ attempt, u = ReconAttempt.unavailable config attempt now := by
  cases caller with
  | send =>
    cases h
    exact .inl ⟨_, _, rfl⟩
  | reconcile =>
    cases h
    exact .inr ⟨_, rfl⟩
  | timeout => cases h
  | other => cases h

/-- A `catch` either notes that the outcome of a call is unknown, or completes an attempt. -/
theorem caught_cases {config : ReconConfig} {now : Int} {message : String} {t u : PayoutTask}
    (h : t.caught config now message = some u) :
    (∃ id reason, u = .markMwaloniOutcomeUnknown id reason) ∨
      ∃ attempt, u = ReconAttempt.unavailable config attempt now := by
  cases t with
  | refreshMwaloniB2cStatus => exact caughtBy_cases h
  | getStatus => exact caughtBy_cases h
  | applyMwaloniStatus => exact caughtBy_cases h
  | markMwaloniMismatchReconciliation => exact caughtBy_cases h
  | completeMwaloniTransaction => exact caughtBy_cases h
  | noteMwaloniPending => exact caughtBy_cases h
  | failMwaloniTransaction => exact caughtBy_cases h
  | markAccepted =>
    cases h
    exact .inl ⟨_, _, rfl⟩
  | auditQueried | readOutcome | raiseOperationalAlert | auditOutcome =>
    cases h
    exact .inr ⟨_, rfl⟩
  | completeAttempt | scheduleAttempt =>
    simp only [PayoutTask.caught] at h
    split at h
    · cases h
    · cases h
      exact .inr ⟨_, rfl⟩
  | _ => cases h

theorem linked_caught {config : ReconConfig} {now : Int} {message : String} {d : PayoutDesk}
    {t u : PayoutTask} (h : t.caught config now message = some u) : u.Linked d := by
  rcases caught_cases h with ⟨id, reason, rfl⟩ | ⟨attempt, rfl⟩
  · trivial
  · trivial

theorem desk_step {config : ReconConfig} {w : PayoutWorld} {input : PayoutInput}
    {t : PayoutTask} {t' : Option PayoutTask} {d' : PayoutDesk} (hd : w.state.Linked)
    (ht : t.Linked w.state) (hy : Yields ((payouts config).next t input) w.state t' d') :
    SagaWrite w.state t d' ∧ ∀ u, t' = some u → u.Linked d' := by
  rcases next_cases hy with ⟨-, hdoes⟩ | ⟨rfl, message, rfl, -⟩
  · have hwrite := saga_write hdoes.writes
    exact ⟨hwrite, fun u hu =>
      task_grows (grows_write hwrite) (leads_linked hd ht (hdoes.leads u hu))⟩
  · exact ⟨.rest rfl rfl rfl, fun u hu => linked_caught hu⟩

end SagaLemmas

open SagaLemmas

def PayoutWorld.Linked (w : PayoutWorld) : Prop :=
  Upheld PayoutDesk.Linked (fun d t => t.Linked d) w

theorem step_linked {config : ReconConfig} {w : PayoutWorld} {e : PayoutEvent}
    (h : PayoutWorld.Linked w) : PayoutWorld.Linked ((payouts config).step w e) := by
  refine upheld_step h (fun a _ => ?_) fun i input t t' d' _ hat hy => ?_
  · cases a <;> exact trivial
  · have ht := h.tasks i t hat
    obtain ⟨hwrite, hown⟩ := desk_step h.state ht hy
    exact ⟨linked_write h.state ht hwrite, hown, fun j u _ _ hu => task_grows (grows_write hwrite) hu⟩

/-! ## 3. Settled once -/

namespace SagaLemmas

theorem final_of_failed {m : MpesaTransaction} (h : m.status = .failed) : m.final = true := by
  unfold MpesaTransaction.final
  rw [h]
  rfl

theorem not_final {m : MpesaTransaction} (h : m.unsettled = true) : m.final = false := by
  simp only [MpesaTransaction.unsettled, Bool.or_eq_true, beq_iff_eq] at h
  unfold MpesaTransaction.final
  rcases h with h | h <;> rw [h] <;> rfl

/-- An update leaves a final row alone, and fails no row that has a debit. -/
theorem move_cases {d : PayoutDesk} {t : PayoutTask} {id s : Nat} {m m' : MpesaTransaction}
    (ht : t.Linked d) (hflags : t.flags.map (·.id) = some id → m.unsettled = true)
    (hm : d.db.mpesaTransactions[id]? = some m) (hw : m.isWithdrawal = true)
    (hs : m.transactionId = some s) (h : StatusMove t id m m') :
    m'.status = m.status ∨ (m.unsettled = true ∧ m'.status ≠ .failed) := by
  cases h with
  | kept h => exact .inl h
  | waits hopen h => exact .inr ⟨hopen, by rw [h]; decide⟩
  | completed hopen _ h => exact .inr ⟨hopen, by rw [h]; decide⟩
  | flagged hpoint hid h =>
    subst hpoint
    exact .inr ⟨hflags (congrArg some hid), by rw [h]; decide⟩
  | failed _ _ _ hlink =>
    rcases hlink with ⟨body, rfl⟩ | hnone | hno
    · obtain ⟨m', hm', hlink⟩ := ht
      cases hm.symm.trans hm'
      rcases hlink with hnone | hno
      · cases hs.symm.trans hnone
      · cases hw.symm.trans hno
    · cases hs.symm.trans hnone
    · exact absurd (isWithdrawal_iff.mp hw) hno

/-- What an event does to the row of a withdrawal and to the count of the reversals of its debit. -/
theorem row_write {d d' : PayoutDesk} {t : PayoutTask} (hd : d.Linked) (ht : t.Linked d)
    (hflags : ∀ id m, t.flags.map (·.id) = some id → d.db.mpesaTransactions[id]? = some m →
      m.unsettled = true)
    (h : SagaWrite d t d') {id s : Nat} {m : MpesaTransaction}
    (hm : d.db.mpesaTransactions[id]? = some m) (hw : m.isWithdrawal = true)
    (hs : m.transactionId = some s) :
    ∃ m', d'.db.mpesaTransactions[id]? = some m' ∧
      ((m'.status = m.status ∧ d'.db.reversals s = d.db.reversals s) ∨
        (m.unsettled = true ∧ m'.status ≠ .failed ∧ d'.db.reversals s = d.db.reversals s) ∨
        (m.unsettled = true ∧ m'.status = .failed ∧ 0 < d'.db.reversals s)) := by
  have hpaid : d.PaidFrom id s := ⟨m, hm, hw, hs⟩
  cases h with
  | rest hdebits hrows => exact ⟨m, hrows ▸ hm, .inl ⟨rfl, reversals_congr hdebits⟩⟩
  | withdraw hrows hdebits =>
    refine ⟨m, hrows ▸ hm, .inl ⟨rfl, ?_⟩⟩
    rcases hdebits with hdebits | ⟨debit, hdebits, htype, -⟩
    · exact reversals_congr hdebits
    · rw [reversals_append hdebits, if_neg, Nat.add_zero]
      intro hrev
      cases htype.symm.trans (reverses_iff.mp hrev).1
  | create _ hdebits _ hrows =>
    exact ⟨m, hrows ▸ Table.getElem?_append_one_old hm, .inl ⟨rfl, reversals_congr hdebits⟩⟩
  | @edit j mj f hdebits _ hrows hmj horigin hstatus =>
    by_cases hj : j = id
    · subst hj
      cases hm.symm.trans hmj
      refine ⟨f m, hrows ▸ Table.getElem?_modify_self hm, ?_⟩
      rcases move_cases ht (fun hf => hflags j m hf hm) hm hw hs hstatus with hkept | ⟨hopen, hno⟩
      · exact .inl ⟨hkept, reversals_congr hdebits⟩
      · exact .inr (.inl ⟨hopen, hno, reversals_congr hdebits⟩)
    · refine ⟨m, ?_, .inl ⟨rfl, reversals_congr hdebits⟩⟩
      rw [hrows, Table.getElem?_modify_other hj]
      exact hm
  | @reverse j r mj f original rev _ hrows hmj hopen horigin hfailed hlink _ _ hrev hdebits =>
    have hother := reverse_paidFrom ht hmj hlink
    have hcount : d'.db.reversals s = d.db.reversals s + if s = r then 1 else 0 :=
      reversals_reverse hdebits hrev
    by_cases hj : j = id
    · subst hj
      cases hm.symm.trans hmj
      obtain ⟨m', hm', -, hr⟩ := hother
      cases hm.symm.trans hm'
      cases hs.symm.trans hr
      refine ⟨f m, hrows ▸ Table.getElem?_modify_self hm, .inr (.inr ⟨hopen, hfailed m, ?_⟩)⟩
      rw [hcount, if_pos rfl]
      exact Nat.succ_pos _
    · refine ⟨m, ?_, .inl ⟨rfl, ?_⟩⟩
      · rw [hrows, Table.getElem?_modify_other hj]
        exact hm
      · rw [hcount, if_neg, Nat.add_zero]
        rintro rfl
        exact hj (hd.unique j id s hother hpaid)

/-- A row of a withdrawal was there before, or it is new and waits for its payout. -/
theorem old_or_new {d d' : PayoutDesk} {t : PayoutTask} (hd : d.Linked) (ht : t.Linked d)
    (h : SagaWrite d t d')
    {id s : Nat} {m' : MpesaTransaction} (hm : d'.db.mpesaTransactions[id]? = some m')
    (hw : m'.isWithdrawal = true) (hs : m'.transactionId = some s) :
    (∃ m, d.db.mpesaTransactions[id]? = some m ∧ m.isWithdrawal = true ∧
      m.transactionId = some s) ∨
    (m'.status = .pending ∧ d'.db.reversals s = 0) := by
  have hsame : ∀ {m}, m'.origin = m.origin → d.db.mpesaTransactions[id]? = some m →
      ∃ m, d.db.mpesaTransactions[id]? = some m ∧ m.isWithdrawal = true ∧
        m.transactionId = some s := fun {m} ho hold =>
    ⟨m, hold, isWithdrawal_of_origin ho ▸ hw, transactionId_of_origin ho ▸ hs⟩
  cases h with
  | rest _ hrows => exact .inl ⟨m', hrows ▸ hm, hw, hs⟩
  | withdraw hrows => exact .inl ⟨m', hrows ▸ hm, hw, hs⟩
  | edit _ _ hrows _ horigin =>
    obtain ⟨m, hold, ho⟩ := row_of_modify hrows horigin hm
    exact .inl (hsame ho hold)
  | reverse _ hrows _ _ horigin =>
    obtain ⟨m, hold, ho⟩ := row_of_modify hrows horigin hm
    exact .inl (hsame ho hold)
  | create hpoint hdebits _ hrows hunique =>
    rcases Table.getElem?_append_one_some (hrows ▸ hm) with hold | ⟨-, rfl⟩
    · exact .inl ⟨m', hold, hw, hs⟩
    · subst hpoint
      obtain ⟨-, r, hr, debit, hdebit, hwithdrew⟩ := ht
      cases hr.symm.trans hs
      refine .inr ⟨rfl, ?_⟩
      rw [reversals_congr hdebits]
      rcases Nat.eq_zero_or_pos (d.db.reversals s) with hz | hpos
      · exact hz
      · obtain ⟨-, j, m, hm, -, ht⟩ := hd.undone s debit hdebit hwithdrew hpos
        have hclash := hunique m (List.mem_of_getElem? hm)
        rw [hr, ht] at hclash
        simp [clash] at hclash

theorem settled_write {d d' : PayoutDesk} {t : PayoutTask} (hd : d.Linked) (ht : t.Linked d)
    (hsettled : d.Settled)
    (hflags : ∀ id m, t.flags.map (·.id) = some id → d.db.mpesaTransactions[id]? = some m →
      m.unsettled = true)
    (h : SagaWrite d t d') : d'.Settled := by
  intro id m' s hm' hw hs
  rcases old_or_new hd ht h hm' hw hs with ⟨m, hm, hwm, hsm⟩ | ⟨hstatus, hzero⟩
  · obtain ⟨m'', hm'', hcases⟩ := row_write hd ht hflags h hm hwm hsm
    cases hm'.symm.trans hm''
    have hold := hsettled id m s hm hwm hsm
    rcases hcases with ⟨hstatus, hcount⟩ | ⟨hopen, hno, hcount⟩ | ⟨-, hfailed, hpos⟩
    · rw [hstatus, hcount]
      exact hold
    · rw [hcount]
      refine ⟨fun hpos => ?_, fun hf => absurd hf hno⟩
      cases (final_of_failed (hold.mp hpos)).symm.trans (not_final hopen)
    · exact ⟨fun _ => hfailed, fun _ => hpos⟩
  · rw [hstatus, hzero]
    exact ⟨fun h => absurd h (Nat.lt_irrefl 0), fun h => by cases h⟩

theorem flags_advance {w : PayoutWorld} {i : Nat} {input : PayoutInput} {t : PayoutTask}
    (h : w.flagsWaiting (.advance i input) = true) (hat : w.At i t) (id : Nat)
    (m : MpesaTransaction) (hid : t.flags.map (·.id) = some id)
    (hm : w.state.db.mpesaTransactions[id]? = some m) : m.unsettled = true := by
  obtain ⟨stale, hflags, rfl⟩ := Option.map_eq_some_iff.mp hid
  have hread : stale.row.unsettled = true := by
    unfold MpesaTransaction.unsettled
    rw [stale.pending]
    rfl
  simp only [PayoutWorld.flagsWaiting, task_some.mpr hat, Option.all_some, hflags, hm, hread,
    Bool.not_true, Bool.false_or] at h
  exact h

/-- A final row keeps its status. -/
def KeepsFinal (w w' : PayoutWorld) : Prop :=
  ∀ (id : Nat) (m : MpesaTransaction), w.state.db.mpesaTransactions[id]? = some m →
    m.isWithdrawal = true → m.final = true →
    ∃ m', w'.state.db.mpesaTransactions[id]? = some m' ∧ m'.isWithdrawal = true ∧
      m'.status = m.status

theorem keepsFinal_trans (w₁ w₂ w₃ : PayoutWorld) (h : KeepsFinal w₁ w₂) (h' : KeepsFinal w₂ w₃) :
    KeepsFinal w₁ w₃ := by
  intro id m hm hw hfinal
  obtain ⟨m', hm', hw', hstatus⟩ := h id m hm hw hfinal
  have hfinal' : m'.final = true := by
    unfold MpesaTransaction.final at hfinal ⊢
    rwa [hstatus]
  obtain ⟨m'', hm'', hw'', hstatus'⟩ := h' id m' hm' hw' hfinal'
  exact ⟨m'', hm'', hw'', hstatus'.trans hstatus⟩

theorem keepsFinal_of_eq {w w' : PayoutWorld} (h : w'.state = w.state) : KeepsFinal w w' :=
  fun _ m hm hw _ => ⟨m, h ▸ hm, hw, rfl⟩

theorem keepsFinal_write {w w' : PayoutWorld} {t : PayoutTask} (hd : w.state.Linked)
    (ht : t.Linked w.state)
    (hflags : ∀ id m, t.flags.map (·.id) = some id → w.state.db.mpesaTransactions[id]? = some m →
      m.unsettled = true)
    (h : SagaWrite w.state t w'.state) : KeepsFinal w w' := by
  intro id m hm hw hfinal
  obtain ⟨s, hs, -⟩ := hd.rows id m hm hw
  obtain ⟨m', hm', hcases⟩ := row_write hd ht hflags h hm hw hs
  obtain ⟨m'', hm'', ho⟩ := (grows_write h).rows id m hm
  cases hm'.symm.trans hm''
  have hw' := (isWithdrawal_of_origin ho).trans hw
  have hclosed : m.unsettled ≠ true := fun hopen => by
    cases hfinal.symm.trans (not_final hopen)
  rcases hcases with ⟨hstatus, -⟩ | ⟨hopen, -⟩ | ⟨hopen, -⟩
  · exact ⟨m', hm', hw', hstatus⟩
  · exact absurd hopen hclosed
  · exact absurd hopen hclosed

end SagaLemmas

open SagaLemmas

/-- What holds in every run. -/
structure PayoutWorld.Sound (w : PayoutWorld) : Prop where
  linked : PayoutWorld.Linked w
  settled : w.state.Settled

theorem step_sound {config : ReconConfig} {w : PayoutWorld} {e : PayoutEvent} (h : w.Sound)
    (hflags : w.flagsWaiting e = true) : PayoutWorld.Sound ((payouts config).step w e) ∧
      KeepsFinal w ((payouts config).step w e) := by
  have hlinked := @step_linked config w e h.linked
  rcases Process.step_cases (payouts config) w e with ⟨a, -, hstep⟩ | ⟨i, input, t, t', rfl, hat, hy, -⟩ |
    ⟨hstate, -⟩
  · rw [hstep] at hlinked ⊢
    exact ⟨⟨hlinked, h.settled⟩, keepsFinal_of_eq rfl⟩
  · have hd := h.linked.state
    have ht := h.linked.tasks i t hat
    obtain ⟨hwrite, -⟩ := desk_step hd ht hy
    exact ⟨⟨hlinked, settled_write hd ht h.settled (flags_advance hflags hat) hwrite⟩,
      keepsFinal_write hd ht (flags_advance hflags hat) hwrite⟩
  · exact ⟨⟨hlinked, hstate ▸ h.settled⟩, keepsFinal_of_eq hstate⟩

theorem upheld_opening {db : Db} (h : db.BeforeWithdrawals) :
    PayoutWorld.Linked (PayoutWorld.opening db) := by
  have hnone : ∀ t, ¬ db.Withdrew t := by
    rintro t ⟨debit, hdebit, hw⟩
    cases hw.symm.trans (h.debits debit (List.mem_of_getElem? hdebit))
  refine ⟨⟨h.links, ?_, ?_, ?_, ?_, ?_⟩, ?_⟩
  · intro n hn
    cases hn
  · intro id m hm hw
    cases hw.symm.trans (h.rows m (List.mem_of_getElem? hm))
  · rintro i j t ⟨m, hm, hw, -⟩ -
    cases hw.symm.trans (h.rows m (List.mem_of_getElem? hm))
  · exact fun t ht => absurd ht (hnone t)
  · exact fun t debit hdebit hw => absurd ⟨debit, hdebit, hw⟩ (hnone t)
  · intro i t hat
    cases hat

theorem upheld_run (config : ReconConfig) {db : Db} (h : db.BeforeWithdrawals)
    (events : List PayoutEvent) :
    PayoutWorld.Linked ((PayoutWorld.opening db).after config events) := by
  have hfree : Machine.Guarded (payouts config).step (fun _ _ => True) (PayoutWorld.opening db) events :=
    Machine.guarded_of_forall fun _ _ => trivial
  exact Machine.run_induct (fun _ _ hw _ => step_linked hw) (upheld_opening h) hfree

theorem sound_opening {db : Db} (h : db.BeforeWithdrawals) :
    PayoutWorld.Sound (PayoutWorld.opening db) where
  linked := upheld_opening h
  settled id m _ hm hw := by cases hw.symm.trans (h.rows m (List.mem_of_getElem? hm))

/-- The debit of a withdrawal is reversed at most once in every run. A row that was completed or has
failed stays so, and has its debit reversed exactly when it failed, in every run in which the daily
reconciliation flags no row that is settled by then. -/
theorem withdrawal_settled_once (config : ReconConfig) {db : Db} (hdb : db.BeforeWithdrawals) :
    (∀ (events : List PayoutEvent) (id : Nat) (m : MpesaTransaction),
      ((PayoutWorld.opening db).after config events).state.db.mpesaTransactions[id]? = some m →
      m.isWithdrawal = true →
      ((PayoutWorld.opening db).after config events).state.db.debitReversals m ≤ 1) ∧
    ∀ (events later : List PayoutEvent), Machine.Guarded (payouts config).step
        (fun w e => PayoutWorld.flagsWaiting w e = true) (PayoutWorld.opening db) (events ++ later) →
      ∀ (id : Nat) (m : MpesaTransaction),
        ((PayoutWorld.opening db).after config events).state.db.mpesaTransactions[id]? = some m →
        m.isWithdrawal = true → m.final = true →
        (0 < ((PayoutWorld.opening db).after config events).state.db.debitReversals m ↔
          m.status = .failed) ∧
        ∃ m', ((PayoutWorld.opening db).after config
            (events ++ later)).state.db.mpesaTransactions[id]? = some m' ∧
          m'.status = m.status := by
  constructor
  · intro events id m hm hw
    have hlinked := (upheld_run config hdb events).state
    obtain ⟨s, hs, hwithdrew⟩ := hlinked.rows id m hm hw
    unfold Db.debitReversals
    rw [hs]
    exact hlinked.once s hwithdrew
  · intro events later hguard id m hm hw hfinal
    obtain ⟨hfirst, hlater⟩ := Machine.guarded_append.mp hguard
    have hsound : PayoutWorld.Sound ((PayoutWorld.opening db).after config events) :=
      Machine.run_induct (fun _ _ hs hg => (step_sound hs hg).1) (sound_opening hdb) hfirst
    constructor
    · obtain ⟨s, hs, -⟩ := hsound.linked.state.rows id m hm hw
      unfold Db.debitReversals
      rw [hs]
      exact hsound.settled id m s hm hw hs
    · have hkeeps : KeepsFinal ((PayoutWorld.opening db).after config events)
          ((PayoutWorld.opening db).after config (events ++ later)) := by
        unfold PayoutWorld.after
        rw [Machine.run_append]
        exact Machine.run_relates (fun _ => keepsFinal_of_eq rfl) keepsFinal_trans
          (fun _ _ hs hg => (step_sound hs hg).1) (fun _ _ hs hg => (step_sound hs hg).2) hsound
          hlater
      obtain ⟨m', hm', -, hstatus⟩ := hkeeps id m hm hw hfinal
      exact ⟨m', hm', hstatus⟩

/-- The member 0 has 1000 shillings in the FOSA account. -/
def exFunded : Db := exSacco.updateAccount 0 fun a => { a with balance := 10000000 }

def exWithdrawal : WithdrawMpesa :=
  { memberId := 0, userId := "u0", phone := "254700000000", amount := 100, idempotencyKey := "K" }

/-- A statement for which the provider, if it is asked, says that the payout is queued. -/
def exQueued (i : Nat) (now : Int) : PayoutEvent :=
  .advance i { now, provider := .ok { status := "02" } }

/-- A withdrawal of 100 shillings whose payout was sent. -/
def exSent : List PayoutEvent :=
  [.start (.withdraw exWithdrawal), exQueued 0 0, .start (.payout 0)] ++
    List.replicate 9 (exQueued 1 0)

/-- The callback of a payout that failed. -/
def exRefused : List PayoutEvent :=
  [.start (.callback { conversationId := "MWD-0", resultCode := 1, resultDesc := "no" }),
    exQueued 2 8000000, exQueued 2 8000000]

theorem withdrawal_settled_once_refused :
    ∃ m : MpesaTransaction, m.status = .failed ∧
      0 < ((PayoutWorld.opening exFunded).after {} (exSent ++ exRefused)).state.db.debitReversals m ∧
      ∃ m', ((PayoutWorld.opening exFunded).after {}
          (exSent ++ exRefused ++ [exQueued 1 0])).state.db.mpesaTransactions[0]? = some m' ∧
        m'.status = m.status := by
  have hdb : exFunded.BeforeWithdrawals := ⟨by decide, by decide, by decide⟩
  have hrow : (((PayoutWorld.opening exFunded).after {}
      (exSent ++ exRefused)).state.db.mpesaTransactions[0]?.any fun m =>
        m.isWithdrawal && m.status == .failed) = true := by
    decide +kernel
  obtain ⟨m, hm, hrefused⟩ := (Option.any_eq_true _ _).mp hrow
  obtain ⟨hw, hstatus⟩ := Bool.and_eq_true_iff.mp hrefused
  rw [beq_iff_eq] at hstatus
  obtain ⟨hiff, m', hm', hkept⟩ := (withdrawal_settled_once {} hdb).2 (exSent ++ exRefused)
    [exQueued 1 0] (by decide +kernel) 0 m hm hw (final_of_failed hstatus)
  exact ⟨m, hstatus, hiff.mpr hstatus, m', hm', hkept⟩

/-- The daily reconciliation has read the row as stale when the callback fails it and the debit is
reversed; then it flags the row, and an officer completes it. -/
theorem settled_row_reopened :
    let reading := exSent ++ [.start (.reconciliation 0 100), exQueued 2 8000000]
    let refused := reading ++
      [.start (.callback { conversationId := "MWD-0", resultCode := 1, resultDesc := "no" }),
        exQueued 3 8000000, exQueued 3 8000000]
    let completed := refused ++ [exQueued 2 8000000,
      .start (.manualComplete 0 "officer" { reason := "paid", evidenceReference := "R" }),
      exQueued 4 8000000, exQueued 4 8000000]
    let row (events : List PayoutEvent) := ((PayoutWorld.opening exFunded).after {}
      events).state.db.mpesaTransactions.map fun m => (m.status,
        ((PayoutWorld.opening exFunded).after {} events).state.db.debitReversals m)
    row refused = [(.failed, 1)] ∧ row completed = [(.completed, 1)] := by
  decide +kernel

end BebaSacco
