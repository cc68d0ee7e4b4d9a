import BebaSacco.Idempotency
import BebaSacco.WithdrawalSaga

/-! # A withdrawal under an idempotency key

A member's calls of `withdrawMpesa` under one key. A call reserves the key in Redis; the debit and
its payout intent are one Serializable transaction, whose posting looks for the reference of the key
first; then the intent is dispatched and the answer stored under the key for a day. Any failure in
between deletes the key. Redis forgets the key after its day and its failures are swallowed, the
database may refuse a statement or commit it and not answer, a call may be lost at any point, and in
between the accounts may change in any way.

Results:
 1. `withdrawal_posted`: what the transaction of a call does to the debit and to its intent.
 2. `withdrawal_debited_once`: one debit and one intent for the key, in every run.
 3. `withdrawal_replayed`: no success for another amount, and a later call without overlap returns
    the transaction of the debit, when every call that gets as far as the ledger again has the same
    payload and the funds for it, and none finds the reservation of a lost call.
 4. `withdrawal_not_replayed`: a member who has withdrawn everything is refused the answer when the
    call is repeated, and one who repeats it with another amount is told that it succeeded.
-/

namespace BebaSacco

open Txn Process

/-- What the key is used for again; the record keeps its hash. -/
structure WithdrawalPayload where
  phone : String
  amount : ℚ
  deriving DecidableEq

/-- `{ payloadHash, response }` -/
structure WithdrawalRecord where
  payload : WithdrawalPayload
  transactionId : Nat
  deriving DecidableEq

/-- How a call ended, `none` being an error. -/
structure WithdrawalAnswer where
  payload : WithdrawalPayload
  transactionId : Option Nat
  deriving DecidableEq

/-- The key in Redis and the tables. `first` is the payload of the call that committed the debit and
`answers` are the answers so far, the last first: the code reads neither. -/
structure WithdrawalDesk where
  now : Nat
  slot : Option (Cell WithdrawalRecord)
  payout : PayoutDesk
  first : Option WithdrawalPayload
  answers : List WithdrawalAnswer

/-- A member and the key. -/
structure WithdrawalKey where
  memberId : Nat
  idempotencyKey : String

structure WithdrawalRequest where
  userId : String
  phone : String
  amount : ℚ

/-- A call, or whatever else changes the accounts. -/
inductive WithdrawalCall where
  | withdrawMpesa (request : WithdrawalRequest)
  | others (accounts : List Account)

/-- Where a call is; `replayed` says that its posting found the debit. -/
inductive WithdrawalTask where
  | reserve (request : WithdrawalRequest)
  | read (request : WithdrawalRequest)
  | overwrite (request : WithdrawalRequest)
  | execute (request : WithdrawalRequest)
  | dispatch (request : WithdrawalRequest) (transactionId : Nat) (replayed : Bool)
  | complete (request : WithdrawalRequest) (transactionId : Nat)
  | release (request : WithdrawalRequest)
  | others (accounts : List Account)

/-- What becomes of a database transaction. -/
inductive CommitAnswer where
  | committed
  | unanswered
  | refused
  deriving DecidableEq, Repr

/-- The time, whether Redis answers, what becomes of the transaction, and whether `dispatchIntent`
returns. -/
structure WithdrawalInput where
  time : Nat
  reachable : Bool
  commit : CommitAnswer
  dispatched : Bool

abbrev WithdrawalWorld := World WithdrawalDesk WithdrawalTask

abbrev WithdrawalEvent := Event WithdrawalCall WithdrawalInput

/-! ## 1. What a call does -/

def WithdrawalRequest.payload (r : WithdrawalRequest) : WithdrawalPayload := ⟨r.phone, r.amount⟩

namespace WithdrawalKey

variable (k : WithdrawalKey)

def withdrawal (r : WithdrawalRequest) : WithdrawMpesa where
  memberId := k.memberId
  userId := r.userId
  phone := r.phone
  amount := r.amount
  idempotencyKey := k.idempotencyKey

/-- The reference of the debit. -/
def reference (tenantId : String) : String := s!"MPESA_WD-{tenantId}-{k.memberId}-{k.idempotencyKey}"

/-- The debit of the key, with its id. -/
def debit (d : PayoutDesk) : Option (Nat × Transaction) :=
  d.db.transactionByReference (k.reference d.db.tenantId)

end WithdrawalKey

/-- The record lasts for a day. -/
def withdrawalTtlSeconds : Nat := 24 * 60 * 60

/-- A command that sets the key; nobody reads who has set it. -/
def WithdrawalDesk.setKey (d : WithdrawalDesk) (reachable : Bool) (entry : Entry WithdrawalRecord)
    (nx : Bool) : Bool × WithdrawalDesk :=
  let (stored, slot) := redisSet d.slot d.now reachable 0 entry withdrawalTtlSeconds nx
  (stored, { d with slot })

def WithdrawalDesk.answer (d : WithdrawalDesk) (r : WithdrawalRequest) (transactionId : Option Nat) :
    WithdrawalDesk :=
  { d with answers := ⟨r.payload, transactionId⟩ :: d.answers }

/-- The debit and its intent; nothing is written when it throws or the database refuses it. -/
def WithdrawalKey.executeTransaction (k : WithdrawalKey) (r : WithdrawalRequest) (commit : CommitAnswer) :
    Txn WithdrawalDesk Err (Option WithdrawalTask) := do
  let d ← get
  ensure (commit ≠ .refused) (.serviceUnavailable "Transaction refused")
  let _ ← zoom WithdrawalDesk.payout (fun payout d => { d with payout })
    (executeWithdrawMpesa (k.withdrawal r))
  let d' ← get
  let (transactionId, _) ← required (k.debit d'.payout) (.notFound "No transaction")
  modify fun d' => { d' with first := d.first.orElse fun _ => some r.payload }
  if commit = .committed then
    return some (.dispatch r transactionId (k.debit d.payout).isSome)
  else
    return some (.release r)

/-- One statement of a call, at its time. -/
def WithdrawalTask.statement (k : WithdrawalKey) (input : WithdrawalInput) :
    WithdrawalTask → Txn WithdrawalDesk Err (Option WithdrawalTask)
  | .reserve r => do
    let d ← get
    let (reserved, d') := d.setKey input.reachable .processing true
    modify fun _ => d'
    return some (if reserved then .execute r else .read r)
  | .read r => do
    let d ← get
    match redisGet d.slot d.now input.reachable with
    | none => return some (.execute r)
    | some (.completed record) => do
      modify (·.answer r (if record.payload = r.payload then some record.transactionId else none))
      return none
    | some .processing => do
      modify (·.answer r none)
      return none
    | some .corrupted => return some (.overwrite r)
  | .overwrite r => do
    modify fun d => (d.setKey input.reachable .processing false).2
    return some (.execute r)
  | .execute r => rescue (k.executeTransaction r input.commit) fun _ => some (.release r)
  | .dispatch r transactionId _ =>
    return some (if input.dispatched then .complete r transactionId else .release r)
  | .complete r transactionId => do
    modify fun d =>
      ((d.setKey input.reachable (.completed ⟨r.payload, transactionId⟩) false).2).answer r
        (some transactionId)
    return none
  | .release r => do
    modify fun d => { d with slot := redisDel d.slot input.reachable }.answer r none
    return none
  | .others accounts => do
    modify fun d => { d with payout := { d.payout with db := { d.payout.db with accounts } } }
    return none

def WithdrawalTask.next (k : WithdrawalKey) (t : WithdrawalTask) (input : WithdrawalInput) :
    Txn WithdrawalDesk Err (Option WithdrawalTask) := do
  modify fun d => { d with now := max d.now input.time }
  t.statement k input

def WithdrawalCall.entry : WithdrawalCall → WithdrawalTask
  | .withdrawMpesa request => .reserve request
  | .others accounts => .others accounts

def withdrawalKeyProgram (k : WithdrawalKey) :
    Program WithdrawalDesk Err WithdrawalCall WithdrawalInput WithdrawalTask :=
  ⟨WithdrawalCall.entry, WithdrawalTask.next k⟩

/-- The key was not used before. -/
def WithdrawalWorld.opening (payout : PayoutDesk) : WithdrawalWorld := ⟨⟨0, none, payout, none, []⟩, []⟩

def WithdrawalWorld.after (w : WithdrawalWorld) (k : WithdrawalKey) (events : List WithdrawalEvent) :
    WithdrawalWorld :=
  Machine.run (withdrawalKeyProgram k).step w events

/-! ## 2. The properties and the condition -/

/-- No transaction has the reference of the key, and no intent a source that is not there. -/
structure WithdrawalKey.Unused (k : WithdrawalKey) (d : PayoutDesk) : Prop where
  debit : ∀ t ∈ d.db.transactions, t.reference ≠ k.reference d.db.tenantId
  intents : ∀ n ∈ d.intents, n.sourceTransactionId < d.db.transactions.length

/-- The transaction `id` is the one debit of the key, and it has one intent, for the amount and the
phone of the call that made it. -/
structure WithdrawalKey.Debited (k : WithdrawalKey) (d : PayoutDesk) (first : WithdrawalPayload)
    (id : Nat) (t : Transaction) : Prop where
  row : d.db.transactions[id]? = some t
  only : ∀ j u, d.db.transactions[j]? = some u → u.reference = k.reference d.db.tenantId → j = id
  type : t.type = .withdrawal
  amount : t.amount = toDecimalPlaces4 first.amount
  positive : 0 < t.amount
  entry : (d.db.entryOfTransaction id).isSome = true
  intent : ∃ n, d.intents.filter (·.sourceTransactionId == id) = [n] ∧ n.phoneNumber = first.phone ∧
    n.amount = toDecimalPlaces4 first.amount

/-- Nothing was debited, or there is one debit with its intent. -/
def WithdrawalDesk.DebitedOnce (d : WithdrawalDesk) (k : WithdrawalKey) : Prop :=
  (d.first = none ∧ k.Unused d.payout) ∨
    ∃ first id t, d.first = some first ∧ k.debit d.payout = some (id, t) ∧
      k.Debited d.payout first id t

/-- A call that succeeds was told the transaction of the debit and asked for its amount. -/
def WithdrawalDesk.AnswersFirst (d : WithdrawalDesk) (k : WithdrawalKey) : Prop :=
  ∀ a ∈ d.answers, ∀ id, a.transactionId = some id →
    ∃ first t, d.first = some first ∧ a.payload.amount = first.amount ∧
      k.debit d.payout = some (id, t)

/-- The funds that a call has to find. -/
def WithdrawalKey.funded (k : WithdrawalKey) (d : PayoutDesk) (amount : ℚ) : Bool :=
  (d.db.activeAccount k.memberId .fosa).any fun a => amount ≤ ofUnits a.2.availableForWithdrawal

/-- The process is not a call of the member. -/
def WithdrawalTask.byOthers : WithdrawalTask → Bool
  | .others _ => true
  | _ => false

/-- The member has no other call than `i` in flight. -/
def WithdrawalWorld.alone (w : WithdrawalWorld) (i : Nat) : Bool :=
  (List.range w.tasks.length).all fun j => j == i || (w.task j).all (·.byOthers)

/-- The condition on a statement of a call, which may be alone. Once there is a debit, a call that
gets as far as the ledger again has its payload, the funds and a database and a dispatch that answer,
and a call that is alone finds no reservation. -/
def WithdrawalTask.orderly (k : WithdrawalKey) (input : WithdrawalInput) (alone : Bool)
    (d : WithdrawalDesk) : WithdrawalTask → Bool
  | .read _ =>
    d.first.isNone || !alone || redisGet d.slot d.now input.reachable != some .processing
  | .execute r =>
    d.first.all fun first =>
      first == r.payload && k.funded d.payout r.amount && input.commit == .committed
  | .dispatch _ _ replayed => !replayed || input.dispatched
  | _ => true

/-- The condition on an event. -/
def WithdrawalWorld.orderly (k : WithdrawalKey) (w : WithdrawalWorld) : WithdrawalEvent → Bool
  | .advance i input =>
    (w.task i).all
      (·.orderly k input (w.alone i) { w.state with now := max w.state.now input.time })
  | _ => true

/-- An event while the call `i` runs: nobody starts another call, and the call is not lost. -/
def withoutOverlap (i : Nat) : WithdrawalEvent → Bool
  | .start (.withdrawMpesa _) => false
  | .crash j => j != i
  | _ => true

def advances (i : Nat) : WithdrawalEvent → Bool
  | .advance j _ => j == i
  | _ => false

namespace RetryLemmas

variable {k : WithdrawalKey} {d d' : WithdrawalDesk} {p p' : PayoutDesk} {r : WithdrawalRequest}
  {t : WithdrawalTask} {t' : Option WithdrawalTask} {input : WithdrawalInput} {w : WithdrawalWorld}
  {id i : Nat} {first : WithdrawalPayload} {row : Transaction}

/-! ## 3. The transaction of a call -/

theorem debit_none (h : k.Unused p) : k.debit p = none :=
  Table.findRow_none.mpr fun t ht => beq_eq_false_iff_ne.mpr (h.debit t ht)

/-- The transaction of a call finds the debit, or it makes it and its intent. -/
inductive Posted (k : WithdrawalKey) (r : WithdrawalRequest) (p p' : PayoutDesk) : Prop
  | found (id : Nat) (t : Transaction) (hdebit : k.debit p = some (id, t)) (hsame : p' = p)
  | made (t : Transaction) (n : PayoutIntent) (hnone : k.debit p = none)
      (htenant : p'.db.tenantId = p.db.tenantId)
      (hrows : p'.db.transactions = p.db.transactions ++ [t])
      (htype : t.type = .withdrawal) (hreference : t.reference = k.reference p.db.tenantId)
      (hamount : t.amount = toDecimalPlaces4 r.amount) (hpositive : 0 < t.amount)
      (hentry : (p'.db.entryOfTransaction p.db.transactions.length).isSome = true)
      (hintents : p'.intents = p.intents ++ [n])
      (hsource : n.sourceTransactionId = p.db.transactions.length)
      (hphone : n.phoneNumber = r.phone) (hpaid : n.amount = toDecimalPlaces4 r.amount)

/-- The intents have their sources. -/
def Sources (k : WithdrawalKey) (p : PayoutDesk) : Prop :=
  (k.debit p = none → ∀ n ∈ p.intents, n.sourceTransactionId < p.db.transactions.length) ∧
    ∀ id t, k.debit p = some (id, t) → ∃ n ∈ p.intents, n.sourceTransactionId = id

theorem withdrawal_posted {u : Option PayoutTask} (hsources : Sources k p)
    (h : Yields (executeWithdrawMpesa (k.withdrawal r)) p u p') : Posted k r p p' := by
  simp only [executeWithdrawMpesa, yields_bind, yields_get, yields_required, yields_ensure] at h
  obtain ⟨_, _, ⟨rfl, rfl⟩, account, _, ⟨-, rfl⟩, _, _, ⟨-, rfl⟩, posted, _, hpost, h⟩ := h
  obtain ⟨db, hposted, rfl⟩ := WithdrawalLemmas.yields_onTables.mp hpost
  have hintent : (∃ n ∈ p.intents, n.sourceTransactionId = posted.transaction) ∧
        p' = { p with db } ∨
      (∀ n ∈ p.intents, n.sourceTransactionId ≠ posted.transaction) ∧
        ∃ n, n.sourceTransactionId = posted.transaction ∧ n.phoneNumber = r.phone ∧
          n.amount = toDecimalPlaces4 r.amount ∧
          p' = { p with db := db, intents := p.intents ++ [n] } := by
    rcases yields_ite.mp h with ⟨hnew, h⟩ | ⟨hold, h⟩
    · simp only [yields_bind, yields_modify, yields_pure] at h
      obtain ⟨_, _, rfl, -, rfl⟩ := h
      exact .inr ⟨hnew, _, rfl, rfl, rfl, rfl⟩
    · simp only [yields_pure] at h
      obtain ⟨-, rfl⟩ := h
      refine .inl ⟨?_, rfl⟩
      by_contra hnone
      exact hold fun n hn he => hnone ⟨n, hn, he⟩
  rcases postEntry_cases hposted with ⟨rfl, -, t, hfind⟩ | ⟨hnew, -, hlast⟩
  · obtain ⟨n, hn, he⟩ := hsources.2 posted.transaction t hfind
    refine .found posted.transaction t hfind ?_
    rcases hintent with ⟨-, rfl⟩ | ⟨hnone, -⟩
    · rfl
    · exact absurd he (hnone n hn)
  · obtain ⟨hpositive, hfresh, a, type, actor, description, debitCode, creditCode, -, -, -, htype, -,
      rfl⟩ := hnew
    cases htype
    rcases hintent with ⟨⟨n, hn, he⟩, -⟩ | ⟨-, n, hsource, hphone, hpaid, rfl⟩
    · exact absurd (he.trans hlast) (Nat.ne_of_lt (hsources.1 hfresh n hn))
    · refine .made _ n hfresh rfl rfl rfl rfl rfl hpositive ?_ rfl (hsource.trans hlast) hphone hpaid
      unfold Db.entryOfTransaction Db.insertEntry
      rw [Table.findRow_append_one, Option.isSome_or, if_pos]
      · exact Bool.or_true _
      · simp [ledgerEntry]

theorem debited_made {tx : Transaction} {n : PayoutIntent} (h : k.Unused p)
    (htenant : p'.db.tenantId = p.db.tenantId)
    (hrows : p'.db.transactions = p.db.transactions ++ [tx]) (htype : tx.type = .withdrawal)
    (hreference : tx.reference = k.reference p.db.tenantId)
    (hamount : tx.amount = toDecimalPlaces4 r.amount) (hpositive : 0 < tx.amount)
    (hentry : (p'.db.entryOfTransaction p.db.transactions.length).isSome = true)
    (hintents : p'.intents = p.intents ++ [n])
    (hsource : n.sourceTransactionId = p.db.transactions.length)
    (hphone : n.phoneNumber = r.phone) (hpaid : n.amount = toDecimalPlaces4 r.amount) :
    k.debit p' = some (p.db.transactions.length, tx) ∧
      k.Debited p' r.payload p.db.transactions.length tx := by
  have hfind : k.debit p' = some (p.db.transactions.length, tx) := by
    unfold WithdrawalKey.debit Db.transactionByReference
    rw [htenant, hrows, Table.findRow_append_one]
    have hnone := debit_none h
    unfold WithdrawalKey.debit Db.transactionByReference at hnone
    rw [hnone, if_pos (beq_iff_eq.mpr hreference), Option.none_or]
  refine ⟨hfind, ⟨?_, fun j u hu he => ?_, htype, hamount, hpositive, hentry, n, ?_, hphone, hpaid⟩⟩
  · rw [hrows]
    exact Table.getElem?_append_one_self
  · rw [hrows] at hu
    rw [htenant] at he
    rcases Table.getElem?_append_one_some hu with hold | ⟨hj, -⟩
    · exact absurd he (h.debit u (List.mem_of_getElem? hold))
    · exact hj
  · have hnone : p.intents.filter (·.sourceTransactionId == p.db.transactions.length) = [] := by
      refine List.filter_eq_nil_iff.mpr fun n hn he => ?_
      exact absurd (beq_iff_eq.mp he) (Nat.ne_of_lt (h.intents n hn))
    rw [hintents, List.filter_append, hnone, List.nil_append, List.filter_singleton,
      beq_iff_eq.mpr hsource, cond_true]

theorem sources_of_debited (h : d.DebitedOnce k) : Sources k d.payout := by
  rcases h with ⟨-, hunused⟩ | ⟨first, id, row, -, hdebit, hdebited⟩
  · refine ⟨fun _ => hunused.intents, fun id row hsome => ?_⟩
    cases (debit_none hunused).symm.trans hsome
  · refine ⟨fun hnone => ?_, fun id' row' hsome => ?_⟩
    · cases hnone.symm.trans hdebit
    · obtain ⟨rfl, -⟩ := Prod.mk.inj (Option.some.inj (hdebit.symm.trans hsome))
      obtain ⟨n, hn, -, -⟩ := hdebited.intent
      have hmem : n ∈ d.payout.intents.filter (·.sourceTransactionId == id) := by
        rw [hn]
        exact List.mem_singleton_self n
      obtain ⟨hmem, hsource⟩ := List.mem_filter.mp hmem
      exact ⟨n, hmem, beq_iff_eq.mp hsource⟩

/-- What the transaction of a call leaves, when it commits: the debit was there, or it is new. -/
structure Executes (k : WithdrawalKey) (r : WithdrawalRequest) (commit : CommitAnswer)
    (d : WithdrawalDesk) (t' : Option WithdrawalTask) (d' : WithdrawalDesk) : Prop where
  debited : d'.DebitedOnce k
  now : d'.now = d.now
  slot : d'.slot = d.slot
  answers : d'.answers = d.answers
  first : d'.first = d.first ∧ d'.payout = d.payout ∧ d.first.isSome = true ∨
    d.first = none ∧ d'.first = some r.payload
  next : t' = some (.release r) ∨ ∃ id row, k.debit d'.payout = some (id, row) ∧
    commit = .committed ∧ t' = some (.dispatch r id (k.debit d.payout).isSome)

theorem executeTransaction_does {commit : CommitAnswer} (h : d.DebitedOnce k)
    (hy : Yields (k.executeTransaction r commit) d t' d') : Executes k r commit d t' d' := by
  simp only [WithdrawalKey.executeTransaction, yields_bind, yields_get, yields_ensure, yields_zoom,
    yields_required, yields_modify] at hy
  obtain ⟨_, _, ⟨rfl, rfl⟩, _, _, ⟨-, rfl⟩, _, _, ⟨p', hexecute, rfl⟩, _, _, ⟨rfl, rfl⟩, ⟨id, row⟩, _,
    ⟨hdebit, rfl⟩, _, _, rfl, hy⟩ := hy
  have hnext : t' = some (.release r) ∨ ∃ id row, k.debit p' = some (id, row) ∧
      commit = .committed ∧ t' = some (.dispatch r id (k.debit d.payout).isSome) := by
    rcases yields_ite.mp hy with ⟨hcommit, hy⟩ | ⟨-, hy⟩
    · simp only [yields_pure] at hy
      exact .inr ⟨id, row, hdebit, hcommit, hy.1.symm⟩
    · simp only [yields_pure] at hy
      exact .inl hy.1.symm
  have hd : d' = { d with payout := p', first := d.first.orElse fun _ => some r.payload } := by
    rcases yields_ite.mp hy with ⟨-, hy⟩ | ⟨-, hy⟩ <;>
      exact (yields_pure.mp hy).2.symm
  subst hd
  rcases h with ⟨hfirst, hunused⟩ | ⟨first, id', row', hfirst, hdebit', hdebited⟩
  · cases withdrawal_posted (sources_of_debited (.inl ⟨hfirst, hunused⟩)) hexecute with
    | found _ _ hsome _ => cases (debit_none hunused).symm.trans hsome
    | made tx n _ htenant hrows htype hreference hamount hpositive hentry hintents hsource hphone
        hpaid =>
      obtain ⟨hmade, hdebited⟩ := debited_made (r := r) hunused htenant hrows htype hreference hamount
        hpositive hentry hintents hsource hphone hpaid
      have hnew : (d.first.orElse fun _ => some r.payload) = some r.payload := by rw [hfirst]; rfl
      exact ⟨.inr ⟨_, _, _, hnew, hmade, hdebited⟩, rfl, rfl, rfl, .inr ⟨hfirst, hnew⟩, hnext⟩
  · cases withdrawal_posted
      (sources_of_debited (.inr ⟨first, id', row', hfirst, hdebit', hdebited⟩)) hexecute with
    | made _ _ hnone => cases hnone.symm.trans hdebit'
    | found _ _ _ hsame =>
      subst hsame
      have hold : (d.first.orElse fun _ => some r.payload) = d.first := by rw [hfirst]; rfl
      refine ⟨.inr ⟨first, id', row', hold.trans hfirst, hdebit', hdebited⟩, rfl, rfl, rfl,
        .inl ⟨hold, rfl, ?_⟩, hnext⟩
      rw [hfirst]
      rfl

/-! ## 4. One statement -/

/-- The call with this payload debited the transaction `id`. -/
def Known (k : WithdrawalKey) (d : WithdrawalDesk) (payload : WithdrawalPayload) (id : Nat) : Prop :=
  d.first = some payload ∧ ∃ row, k.debit d.payout = some (id, row)

structure Kept (k : WithdrawalKey) (d : WithdrawalDesk) : Prop where
  debited : d.DebitedOnce k
  record : ∀ cell, d.slot = some cell → cell.entry ≠ .corrupted ∧
    ∀ record, cell.entry = .completed record → Known k d record.payload record.transactionId
  answers : d.AnswersFirst k

/-- What a call knows that is past its posting. -/
def Knows (k : WithdrawalKey) (d : WithdrawalDesk) : WithdrawalTask → Prop
  | .overwrite _ => False
  | .dispatch r id _ => Known k d r.payload id
  | .complete r id => Known k d r.payload id
  | _ => True

/-- What one statement does: the debit stays, and its call knows what it has to. -/
structure Does (k : WithdrawalKey) (d : WithdrawalDesk) (t' : Option WithdrawalTask)
    (d' : WithdrawalDesk) : Prop where
  kept : Kept k d'
  keeps : ∀ payload id, Known k d payload id → Known k d' payload id
  knows : ∀ u, t' = some u → Knows k d' u

theorem knows_keeps (hkeeps : ∀ payload id, Known k d payload id → Known k d' payload id)
    (h : Knows k d t) : Knows k d' t := by
  cases t with
  | overwrite _ => exact h
  | dispatch r id _ => exact hkeeps _ _ h
  | complete r id => exact hkeeps _ _ h
  | _ => trivial

/-- What others do to the accounts leaves the debit and its intent. -/
theorem debited_accounts (h : d.DebitedOnce k) (accounts : List Account) :
    WithdrawalDesk.DebitedOnce
      { d with payout := { d.payout with db := { d.payout.db with accounts } } } k := by
  rcases h with ⟨hfirst, hunused⟩ | ⟨first, id, row, hfirst, hdebit, hdebited⟩
  · exact .inl ⟨hfirst, hunused.debit, hunused.intents⟩
  · exact .inr ⟨first, id, row, hfirst, hdebit, hdebited.row, hdebited.only, hdebited.type,
      hdebited.amount, hdebited.positive, hdebited.entry, hdebited.intent⟩

theorem kept_later (h : Kept k d) (time : Nat) : Kept k { d with now := time } :=
  ⟨h.debited, h.record, h.answers⟩

theorem redisSet_slot {slot : Option (Cell WithdrawalRecord)} {now ttlSeconds : Nat}
    {reachable nx : Bool} {entry : Entry WithdrawalRecord} {cell : Cell WithdrawalRecord}
    (h : (redisSet slot now reachable 0 entry ttlSeconds nx).2 = some cell) :
    slot = some cell ∨ cell.entry = entry := by
  unfold redisSet at h
  split at h
  · exact .inl h
  · split at h
    · exact .inl h
    · cases h
      exact .inr rfl

theorem knows_later (h : Knows k d t) (time : Nat) : Knows k { d with now := time } t :=
  knows_keeps (fun _ _ hknown => hknown) h

theorem setKey_slot (d : WithdrawalDesk) (reachable : Bool) (entry : Entry WithdrawalRecord)
    (nx : Bool) : ∃ slot, (d.setKey reachable entry nx).2 = { d with slot } ∧
      ∀ cell, slot = some cell → d.slot = some cell ∨ cell.entry = entry :=
  ⟨_, rfl, fun _ hcell => redisSet_slot hcell⟩

/-- The key is set to a reservation. -/
theorem kept_processing (h : Kept k d) (reachable nx : Bool) :
    Kept k (d.setKey reachable .processing nx).2 := by
  obtain ⟨slot, hset, hslot⟩ := setKey_slot d reachable .processing nx
  rw [hset]
  refine ⟨h.debited, fun cell hcell => ?_, h.answers⟩
  rcases hslot cell hcell with hold | hnew
  · exact h.record cell hold
  · rw [hnew]
    exact ⟨fun he => (by cases he), fun _ he => (by cases he)⟩

theorem kept_answer (h : Kept k d) (r : WithdrawalRequest) {answer : Option Nat}
    (hanswer : ∀ id, answer = some id → Known k d r.payload id) : Kept k (d.answer r answer) := by
  refine ⟨h.debited, h.record, fun a ha id hid => ?_⟩
  rcases List.mem_cons.mp ha with rfl | hold
  · obtain ⟨hfirst, row, hdebit⟩ := hanswer id hid
    exact ⟨_, row, hfirst, rfl, hdebit⟩
  · exact h.answers a hold id hid

theorem get_completed {slot : Option (Cell WithdrawalRecord)} {now : Nat} {reachable : Bool}
    {entry : Entry WithdrawalRecord} (h : redisGet slot now reachable = some entry) :
    ∃ cell, slot = some cell ∧ cell.entry = entry := by
  unfold redisGet at h
  split at h
  · obtain ⟨cell, hcell, he⟩ := Option.map_eq_some_iff.mp h
    exact ⟨cell, (Option.filter_eq_some_iff.mp hcell).1, he⟩
  · cases h

theorem known_executes {commit : CommitAnswer} (hdoes : Executes k r commit d t' d')
    {payload : WithdrawalPayload} (h : Known k d payload id) : Known k d' payload id := by
  obtain ⟨hfirst, hdebit⟩ := h
  rcases hdoes.first with ⟨hsame, hpayout, -⟩ | ⟨hnone, -⟩
  · exact ⟨hsame.trans hfirst, by rw [hpayout]; exact hdebit⟩
  · cases hnone.symm.trans hfirst

theorem execute_does {alone : Bool} (h : Kept k d)
    (horderly : (WithdrawalTask.execute r).orderly k input alone d = true)
    (hy : Yields ((WithdrawalTask.execute r).statement k input) d t' d') : Does k d t' d' := by
  rcases yields_rescue.mp hy with hy | ⟨-, rfl, _, rfl, -⟩
  · have hdoes := executeTransaction_does h.debited hy
    refine ⟨⟨hdoes.debited, fun cell hcell => ?_, fun a ha id hid => ?_⟩,
      fun _ _ => known_executes hdoes, fun u hu => ?_⟩
    · rw [hdoes.slot] at hcell
      exact (h.record cell hcell).imp_right fun hrecord record he =>
        known_executes hdoes (hrecord record he)
    · rw [hdoes.answers] at ha
      obtain ⟨first, row, hfirst, hamount, hdebit⟩ := h.answers a ha id hid
      obtain ⟨hfirst', row', hdebit'⟩ := known_executes hdoes ⟨hfirst, row, hdebit⟩
      exact ⟨first, row', hfirst', hamount, hdebit'⟩
    · rcases hdoes.next with hrelease | ⟨id, row, hdebit, -, hdispatch⟩
      · cases hu.symm.trans hrelease
        trivial
      · cases hu.symm.trans hdispatch
        refine ⟨?_, row, hdebit⟩
        rcases hdoes.first with ⟨hsame, -, hsome⟩ | ⟨-, hnew⟩
        · obtain ⟨first, hfirst⟩ := Option.isSome_iff_exists.mp hsome
          simp only [WithdrawalTask.orderly, hfirst, Option.all_some, Bool.and_eq_true,
            beq_iff_eq] at horderly
          rw [hsame, hfirst, horderly.1.1]
        · exact hnew
  · refine ⟨h, fun _ _ hknown => hknown, fun u hu => ?_⟩
    cases hu
    trivial

theorem statement_does {alone : Bool} (h : Kept k d) (hk : Knows k d t)
    (horderly : t.orderly k input alone d = true) (hy : Yields (t.statement k input) d t' d') :
    Does k d t' d' := by
  cases t with
  | reserve r =>
    simp only [WithdrawalTask.statement, yields_bind, yields_get, yields_modify, yields_pure] at hy
    obtain ⟨_, _, ⟨rfl, rfl⟩, _, _, rfl, rfl, rfl⟩ := hy
    refine ⟨kept_processing h _ _, fun _ _ hknown => hknown, fun u hu => ?_⟩
    split at hu <;> (cases hu; trivial)
  | read r =>
    simp only [WithdrawalTask.statement, yields_bind, yields_get] at hy
    obtain ⟨_, _, ⟨rfl, rfl⟩, hy⟩ := hy
    cases hget : redisGet d.slot d.now input.reachable with
    | none =>
      simp only [hget, yields_pure] at hy
      obtain ⟨rfl, rfl⟩ := hy
      exact ⟨h, fun _ _ hknown => hknown, fun u hu => by cases hu; trivial⟩
    | some entry =>
      obtain ⟨cell, hcell, he⟩ := get_completed hget
      -- what the key holds is either the reservation or a record of a debit that was made
      obtain ⟨hreadable, hrecord⟩ := h.record cell hcell
      cases entry with
      | corrupted => exact absurd he hreadable
      | processing =>
        simp only [hget, yields_bind, yields_modify, yields_pure] at hy
        obtain ⟨_, _, rfl, rfl, rfl⟩ := hy
        exact ⟨kept_answer h r fun _ hid => (by cases hid), fun _ _ hknown => hknown,
          fun _ hu => (by cases hu)⟩
      | completed record =>
        simp only [hget, yields_bind, yields_modify, yields_pure] at hy
        obtain ⟨_, _, rfl, rfl, rfl⟩ := hy
        refine ⟨kept_answer h r fun id hid => ?_, fun _ _ hknown => hknown, fun _ hu => (by cases hu)⟩
        -- the record answers a retry with the same payload only
        split at hid
        · next hsame =>
          cases hid
          exact hsame ▸ hrecord record he
        · cases hid
  | overwrite r => exact absurd hk id
  | execute r => exact execute_does h horderly hy
  | dispatch r id replayed =>
    simp only [WithdrawalTask.statement, yields_pure] at hy
    obtain ⟨rfl, rfl⟩ := hy
    refine ⟨h, fun _ _ hknown => hknown, fun u hu => ?_⟩
    split at hu
    · cases hu
      exact hk
    · cases hu
      trivial
  | complete r id =>
    simp only [WithdrawalTask.statement, yields_bind, yields_modify, yields_pure] at hy
    obtain ⟨_, _, rfl, rfl, rfl⟩ := hy
    -- whether redis is reached or not, the key holds its old record or the new one
    obtain ⟨slot, hset, hslot⟩ := setKey_slot d input.reachable (.completed ⟨r.payload, id⟩) false
    rw [hset]
    have hkept : Kept k { d with slot } := by
      refine ⟨h.debited, fun cell hcell => ?_, h.answers⟩
      rcases hslot cell hcell with hold | hnew
      · exact h.record cell hold
      · rw [hnew]
        refine ⟨fun he => (by cases he), fun record he => ?_⟩
        cases he
        exact hk
    refine ⟨kept_answer hkept r fun id' hid => ?_, fun _ _ hknown => hknown, fun _ hu => (by cases hu)⟩
    cases hid
    exact hk
  | release r =>
    simp only [WithdrawalTask.statement, yields_bind, yields_modify, yields_pure] at hy
    obtain ⟨_, _, rfl, rfl, rfl⟩ := hy
    have hkept : Kept k { d with slot := redisDel d.slot input.reachable } := by
      refine ⟨h.debited, fun cell hcell => ?_, h.answers⟩
      simp only [redisDel] at hcell
      split at hcell
      · cases hcell
      · exact h.record cell hcell
    exact ⟨kept_answer hkept r fun _ hid => (by cases hid), fun _ _ hknown => hknown,
      fun _ hu => (by cases hu)⟩
  | others accounts =>
    simp only [WithdrawalTask.statement, yields_bind, yields_modify, yields_pure] at hy
    obtain ⟨_, _, rfl, rfl, rfl⟩ := hy
    exact ⟨⟨debited_accounts h.debited accounts, h.record, h.answers⟩, fun _ _ hknown => hknown,
      fun _ hu => (by cases hu)⟩

theorem yields_next : Yields (t.next k input) d t' d' ↔
    Yields (t.statement k input) { d with now := max d.now input.time } t' d' := by
  simp only [WithdrawalTask.next, yields_bind, yields_modify]
  constructor
  · rintro ⟨_, _, rfl, h⟩
    exact h
  · intro h
    exact ⟨(), _, rfl, h⟩

theorem orderly_at {k : WithdrawalKey} (h : w.orderly k (.advance i input) = true) (hat : w.At i t) :
    t.orderly k input (w.alone i) { w.state with now := max w.state.now input.time } = true := by
  simp only [WithdrawalWorld.orderly, task_some.mpr hat, Option.all_some] at h
  exact h

theorem upheld_kept {e : WithdrawalEvent} (h : Upheld (Kept k) (Knows k) w)
    (horderly : w.orderly k e = true) :
    Upheld (Kept k) (Knows k) ((withdrawalKeyProgram k).step w e) := by
  refine upheld_step h (fun a _ => ?_) fun i input t t' d' he hat hy => ?_
  · cases a <;> trivial
  · subst he
    have hdoes := statement_does (kept_later h.state _) (knows_later (h.tasks i t hat) _)
      (orderly_at horderly hat) (yields_next.mp hy)
    exact ⟨hdoes.kept, hdoes.knows, fun j u _ _ hu => knows_keeps hdoes.keeps (knows_later hu _)⟩

/-- Without any condition, no statement makes a second debit or a second intent. -/
theorem statement_debits (h : d.DebitedOnce k) (hy : Yields (t.statement k input) d t' d') :
    d'.DebitedOnce k := by
  have hsame : d'.first = d.first → d'.payout = d.payout → d'.DebitedOnce k := by
    intro hfirst hpayout
    unfold WithdrawalDesk.DebitedOnce
    rw [hfirst, hpayout]
    exact h
  cases t with
  | execute r =>
    rcases yields_rescue.mp hy with hy | ⟨-, rfl, -⟩
    · exact (executeTransaction_does h hy).debited
    · exact h
  | read r =>
    simp only [WithdrawalTask.statement, yields_bind, yields_get] at hy
    obtain ⟨_, _, ⟨rfl, rfl⟩, hy⟩ := hy
    split at hy
    · obtain ⟨-, rfl⟩ := yields_pure.mp hy
      exact h
    · simp only [yields_bind, yields_modify, yields_pure] at hy
      obtain ⟨_, _, rfl, -, rfl⟩ := hy
      exact h
    · simp only [yields_bind, yields_modify, yields_pure] at hy
      obtain ⟨_, _, rfl, -, rfl⟩ := hy
      exact h
    · obtain ⟨-, rfl⟩ := yields_pure.mp hy
      exact h
  | others accounts =>
    simp only [WithdrawalTask.statement, yields_bind, yields_modify, yields_pure] at hy
    obtain ⟨_, _, rfl, -, rfl⟩ := hy
    exact debited_accounts h accounts
  | reserve r =>
    simp only [WithdrawalTask.statement, yields_bind, yields_get, yields_modify, yields_pure] at hy
    obtain ⟨_, _, ⟨rfl, rfl⟩, _, _, rfl, -, rfl⟩ := hy
    exact hsame rfl rfl
  | dispatch r id replayed =>
    obtain ⟨-, rfl⟩ := yields_pure.mp hy
    exact h
  | overwrite r | complete r id | release r =>
    simp only [WithdrawalTask.statement, yields_bind, yields_modify, yields_pure] at hy
    obtain ⟨_, _, rfl, -, rfl⟩ := hy
    exact hsame rfl rfl

/-! ## 5. A call without overlap -/

theorem posting_replays (accountId : Nat) (hdebit : k.debit p = some (id, row))
    (hentry : (p.db.entryOfTransaction id).isSome = true) (hpositive : 0 < toDecimalPlaces4 r.amount) :
    ∃ posted : PostingResult, posted.transaction = id ∧
      Yields (postEntry ((k.withdrawal r).posting p.db.tenantId accountId)) p.db posted p.db := by
  obtain ⟨e, he⟩ := Option.isSome_iff_exists.mp hentry
  have hactor : Yields (resolveSystemActorId ((k.withdrawal r).posting p.db.tenantId accountId).actorId)
      p.db r.userId p.db := yields_pure.mpr ⟨rfl, rfl⟩
  refine ⟨⟨id, e.1, true⟩, rfl, ?_⟩
  simp only [postEntry, yields_bind, yields_ensure]
  refine ⟨r.userId, p.db, hactor, (), p.db, ⟨hpositive, rfl⟩, ?_⟩
  simp only [postEntryBody, yields_bind, yields_get]
  refine ⟨_, _, ⟨rfl, rfl⟩, ?_⟩
  have hfind : p.db.transactionByReference
      ((k.withdrawal r).posting p.db.tenantId accountId).reference = some (id, row) := hdebit
  simp only [hfind, yields_bind, yields_required, yields_pure]
  exact ⟨_, _, ⟨he, rfl⟩, rfl, rfl⟩

/-- A call with the payload of the debit that has the funds goes on with the debit. -/
theorem execute_replays (h : d.DebitedOnce k) (hfirst : d.first = some r.payload)
    (hfunded : k.funded d.payout r.amount = true) (hcommit : input.commit = .committed) :
    ∃ id row, k.debit d.payout = some (id, row) ∧
      Yields ((WithdrawalTask.execute r).statement k input) d (some (.dispatch r id true)) d := by
  have hsources := sources_of_debited h
  rcases h with ⟨hnone, -⟩ | ⟨first, id, row, hfirst', hdebit, hdebited⟩
  · cases hnone.symm.trans hfirst
  · cases hfirst.symm.trans hfirst'
    obtain ⟨account, haccount, hle⟩ := (Option.any_eq_true _ _).mp hfunded
    obtain ⟨posted, hposted, hpost⟩ := posting_replays account.1 hdebit hdebited.entry
      (hdebited.amount ▸ hdebited.positive)
    obtain ⟨n, hn, hsource⟩ := hsources.2 id row hdebit
    have hexecute : Yields (executeWithdrawMpesa (k.withdrawal r)) d.payout none d.payout := by
      simp only [executeWithdrawMpesa, yields_bind, yields_get, yields_required, yields_ensure]
      refine ⟨_, _, ⟨rfl, rfl⟩, account, _, ⟨haccount, rfl⟩, (), _, ⟨?_, rfl⟩, posted, d.payout, ?_, ?_⟩
      · exact of_decide_eq_true hle
      · exact WithdrawalLemmas.yields_onTables.mpr ⟨_, hpost, rfl⟩
      · refine yields_ite.mpr (.inr ⟨fun hnone => hnone n hn (hsource.trans hposted.symm), ?_⟩)
        exact yields_pure.mpr ⟨rfl, rfl⟩
    refine ⟨id, row, hdebit, yields_rescue.mpr (.inl ?_)⟩
    simp only [WithdrawalKey.executeTransaction, yields_bind, yields_get, yields_ensure, yields_zoom,
      yields_required, yields_modify]
    refine ⟨_, _, ⟨rfl, rfl⟩, (), _, ⟨?_, rfl⟩, none, d, ⟨d.payout, hexecute, rfl⟩, _, _, ⟨rfl, rfl⟩,
      (id, row), _, ⟨hdebit, rfl⟩, (), d, ?_, ?_⟩
    · rw [hcommit]
      exact fun hfailed => (by cases hfailed)
    · simp only [hfirst, Option.orElse_some]
      rw [← hfirst]
    · refine yields_ite.mpr (.inl ⟨hcommit, yields_pure.mpr ⟨?_, rfl⟩⟩)
      rw [hdebit]
      rfl

/-- How many statements a call has left at most. -/
def rank : WithdrawalTask → Nat
  | .reserve _ => 6
  | .read _ => 5
  | .overwrite _ => 4
  | .execute _ => 3
  | .dispatch _ _ _ => 2
  | .complete _ _ | .release _ | .others _ => 1

/-- The points of a call that is going to be told the debit. -/
def replays (r : WithdrawalRequest) (t : WithdrawalTask) : Prop :=
  t = .reserve r ∨ t = .read r ∨ t = .execute r ∨ (∃ id, t = .dispatch r id true) ∨
    ∃ id, t = .complete r id

/-- The call has at most `n` statements left, or it was told the debit. -/
def Replaying (k : WithdrawalKey) (r : WithdrawalRequest) (earlier : List WithdrawalAnswer) (n : Nat)
    (d : WithdrawalDesk) (t : Option WithdrawalTask) : Prop :=
  (∃ u, t = some u ∧ replays r u ∧ rank u ≤ n ∧ d.answers = earlier) ∨
    (t = none ∧ ∃ id row, k.debit d.payout = some (id, row) ∧
      d.answers = ⟨r.payload, some id⟩ :: earlier)

/-- A statement of a call that is alone gets it nearer to its end, where it is told the debit. -/
theorem statement_replays {earlier : List WithdrawalAnswer} {n : Nat} (h : Kept k d)
    (hk : Knows k d t) (hfirst : d.first = some r.payload) (hreplays : replays r t)
    (hrank : rank t ≤ n) (hearlier : d.answers = earlier)
    (horderly : t.orderly k input true d = true) :
    ∃ t' d', Yields (t.statement k input) d t' d' ∧ Replaying k r earlier (n - 1) d' t' := by
  rcases hreplays with rfl | rfl | rfl | ⟨id, rfl⟩ | ⟨id, rfl⟩
  · have hnext : ∀ reserved : Bool,
        replays r (if reserved then .execute r else .read r) ∧
          rank (if reserved then .execute r else .read r) ≤ n - 1 := by
      intro reserved
      cases reserved with
      | true =>
        have hleft : 6 ≤ n := hrank
        exact ⟨.inr (.inr (.inl rfl)), show 3 ≤ n - 1 by omega⟩
      | false => exact ⟨.inr (.inl rfl), Nat.le_sub_one_of_lt hrank⟩
    exact ⟨_, _, rfl, .inl ⟨_, rfl, (hnext _).1, (hnext _).2, hearlier⟩⟩
  · cases hget : redisGet d.slot d.now input.reachable with
    | none =>
      have hleft : 5 ≤ n := hrank
      refine ⟨some (.execute r), d, ?_, .inl ⟨_, rfl, .inr (.inr (.inl rfl)),
        show 3 ≤ n - 1 by omega, hearlier⟩⟩
      simp only [WithdrawalTask.statement, yields_bind, yields_get]
      refine ⟨_, _, ⟨rfl, rfl⟩, ?_⟩
      simp only [hget, yields_pure, and_self]
    | some entry =>
      -- a reservation would be that of a call still running, which the guard excludes
      obtain ⟨cell, hcell, he⟩ := get_completed hget
      obtain ⟨hreadable, hrecord⟩ := h.record cell hcell
      cases entry with
      | corrupted => exact absurd he hreadable
      | processing =>
        simp only [WithdrawalTask.orderly, hfirst, hget, Option.isNone_some, Bool.not_true,
          Bool.false_or, bne_self_eq_false, Bool.false_eq_true] at horderly
      | completed record =>
        obtain ⟨hpayload, row, hdebit⟩ := hrecord record he
        have hsame : record.payload = r.payload := Option.some.inj (hpayload.symm.trans hfirst)
        refine ⟨none, d.answer r (some record.transactionId), ?_,
          .inr ⟨rfl, record.transactionId, row, hdebit, ?_⟩⟩
        · simp only [WithdrawalTask.statement, yields_bind, yields_get]
          refine ⟨_, _, ⟨rfl, rfl⟩, ?_⟩
          simp only [hget, if_pos hsame, yields_bind, yields_modify, yields_pure]
          exact ⟨(), _, rfl, trivial, rfl⟩
        · rw [← hearlier]
          rfl
  · simp only [WithdrawalTask.orderly, hfirst, Option.all_some, Bool.and_eq_true, beq_iff_eq] at horderly
    obtain ⟨id, row, hdebit, hy⟩ := execute_replays h.debited hfirst horderly.1.2 horderly.2
    exact ⟨_, _, hy, .inl ⟨_, rfl, .inr (.inr (.inr (.inl ⟨id, rfl⟩))), Nat.le_sub_one_of_lt hrank,
      hearlier⟩⟩
  · simp only [WithdrawalTask.orderly, Bool.not_true, Bool.false_or] at horderly
    refine ⟨some (.complete r id), d, ?_, .inl ⟨_, rfl, .inr (.inr (.inr (.inr ⟨id, rfl⟩))),
      Nat.le_sub_one_of_lt hrank, hearlier⟩⟩
    simp only [WithdrawalTask.statement, horderly, if_pos, yields_pure, and_self]
  · obtain ⟨-, row, hdebit⟩ := hk
    refine ⟨_, _, rfl, .inr ⟨rfl, id, row, hdebit, ?_⟩⟩
    rw [← hearlier]
    rfl

/-- The call `i` runs without overlap. -/
structure Solo (k : WithdrawalKey) (r : WithdrawalRequest) (earlier : List WithdrawalAnswer)
    (id i n : Nat) (w : WithdrawalWorld) : Prop where
  upheld : Upheld (Kept k) (Knows k) w
  known : Known k w.state r.payload id
  others : ∀ j t, j ≠ i → w.At j t → t.byOthers = true
  started : i < w.tasks.length
  call : Replaying k r earlier n w.state (w.task i)

theorem alone_of_others (h : ∀ j t, j ≠ i → w.At j t → t.byOthers = true) : w.alone i = true := by
  refine List.all_eq_true.mpr fun j _ => ?_
  by_cases hj : j = i
  · exact Bool.or_eq_true_iff.mpr (.inl (beq_iff_eq.mpr hj))
  · refine Bool.or_eq_true_iff.mpr (.inr ((Option.all_eq_true _ _).mpr fun t ht => ?_))
    exact h j t hj (task_some.mp ht)

theorem replaying_state {earlier : List WithdrawalAnswer} {n : Nat} {u : Option WithdrawalTask}
    (h : Replaying k r earlier n d u) (hdebit : k.debit d'.payout = k.debit d.payout)
    (hanswers : d'.answers = d.answers) : Replaying k r earlier n d' u := by
  rcases h with ⟨v, hv, hreplays, hrank, hearlier⟩ | ⟨hv, id, row, hid, hearlier⟩
  · exact .inl ⟨v, hv, hreplays, hrank, hanswers.trans hearlier⟩
  · exact .inr ⟨hv, id, row, hdebit.trans hid, hanswers.trans hearlier⟩

theorem solo_advance {earlier : List WithdrawalAnswer} {n : Nat} (h : Solo k r earlier id i n w)
    (horderly : w.orderly k (.advance i input) = true) :
    Solo k r earlier id i (n - 1) ((withdrawalKeyProgram k).step w (.advance i input)) := by
  have hupheld := upheld_kept h.upheld horderly
  rcases h.call with ⟨t, ht, hreplays, hrank, hearlier⟩ | ⟨hended, hanswered⟩
  · have hat := task_some.mp ht
    have halone := orderly_at horderly hat
    rw [alone_of_others h.others] at halone
    have hkept := kept_later h.upheld.state (max w.state.now input.time)
    have hknows := knows_later (h.upheld.tasks i t hat) (max w.state.now input.time)
    obtain ⟨t', d', hy, hcall⟩ :=
      statement_replays hkept hknows h.known.1 hreplays hrank hearlier halone
    have hstep := step_yields (P := withdrawalKeyProgram k) hat (yields_next.mpr hy)
    rw [hstep] at hupheld ⊢
    refine ⟨hupheld, (statement_does hkept hknows halone hy).keeps _ id h.known,
      fun j u hj hu => ?_, ?_, ?_⟩
    · rcases at_set hu with ⟨hi, -⟩ | ⟨-, hold⟩
      · exact absurd hi hj
      · exact h.others j u hj hold
    · rw [List.length_set]
      exact h.started
    · have htask : World.task ⟨d', w.tasks.set i t'⟩ i = t' := by
        unfold World.task
        rw [List.getElem?_set_self h.started]
        rfl
      rw [htask]
      exact hcall
  · rw [step_ended hended]
    exact ⟨h.upheld, h.known, h.others, h.started, .inr ⟨hended, hanswered⟩⟩

theorem solo_others {earlier : List WithdrawalAnswer} {n j : Nat} (h : Solo k r earlier id i n w)
    (hj : j ≠ i) (horderly : w.orderly k (.advance j input) = true) :
    Solo k r earlier id i n ((withdrawalKeyProgram k).step w (.advance j input)) := by
  have hupheld := upheld_kept h.upheld horderly
  cases ht : w.task j with
  | none =>
    rw [step_ended ht]
    exact h
  | some t =>
    have hat := task_some.mp ht
    have hothers := h.others j t hj hat
    cases t with
    | others accounts =>
      have hy : Yields ((WithdrawalTask.others accounts).next k input) w.state none
          { w.state with
            now := max w.state.now input.time
            payout := { w.state.payout with db := { w.state.payout.db with accounts } } } := rfl
      have hstep := step_yields (P := withdrawalKeyProgram k) hat hy
      rw [hstep] at hupheld ⊢
      refine ⟨hupheld, h.known, fun l u hl hu => ?_, ?_, ?_⟩
      · rcases at_set hu with ⟨-, hnone⟩ | ⟨-, hold⟩
        · cases hnone
        · exact h.others l u hl hold
      · rw [List.length_set]
        exact h.started
      · have htask : ∀ d : WithdrawalDesk, World.task ⟨d, w.tasks.set j none⟩ i = w.task i := by
          intro d
          unfold World.task
          rw [List.getElem?_set_ne hj]
        rw [htask]
        exact replaying_state h.call rfl rfl
    | _ => cases hothers

theorem solo_step {earlier : List WithdrawalAnswer} {n : Nat} {e : WithdrawalEvent}
    (h : Solo k r earlier id i n w) (horderly : w.orderly k e = true)
    (he : withoutOverlap i e = true) :
    Solo k r earlier id i (if advances i e then n - 1 else n) ((withdrawalKeyProgram k).step w e) := by
  have hupheld := upheld_kept h.upheld horderly
  cases e with
  | advance j input =>
    by_cases hj : j = i
    · subst hj
      rw [advances, beq_self_eq_true, if_pos rfl]
      exact solo_advance h horderly
    · rw [advances, beq_eq_false_iff_ne.mpr hj, if_neg Bool.false_ne_true]
      exact solo_others h hj horderly
  | crash j =>
    have hj : j ≠ i := bne_iff_ne.mp he
    refine ⟨hupheld, h.known, fun l u hl hu => ?_, ?_, ?_⟩
    · rcases at_set hu with ⟨-, hnone⟩ | ⟨-, hold⟩
      · cases hnone
      · exact h.others l u hl hold
    · exact (List.length_set).symm ▸ h.started
    · have htask : ((withdrawalKeyProgram k).step w (.crash j)).task i = w.task i := by
        unfold World.task Program.step
        rw [List.getElem?_set_ne hj]
      rw [htask]
      exact h.call
  | start a =>
    cases a with
    | withdrawMpesa request => cases he
    | others accounts =>
      refine ⟨hupheld, h.known, fun l u hl hu => ?_, ?_, ?_⟩
      · rcases Table.getElem?_append_one_some hu with hold | ⟨-, hnew⟩
        · exact h.others l u hl hold
        · cases hnew
          rfl
      · have hlength : (w.tasks ++ [some (WithdrawalTask.others accounts)]).length =
            w.tasks.length + 1 := List.length_append
        exact Nat.lt_of_lt_of_eq (Nat.lt_succ_of_lt h.started) hlength.symm
      · have htask : ((withdrawalKeyProgram k).step w (.start (.others accounts))).task i = w.task i := by
          unfold World.task Program.step
          rw [List.getElem?_append_left h.started]
        rw [htask]
        exact h.call

theorem solo_run {earlier : List WithdrawalAnswer} {n : Nat} {events : List WithdrawalEvent}
    (h : Solo k r earlier id i n w)
    (hguard : Machine.Guarded (withdrawalKeyProgram k).step
      (fun w e => WithdrawalWorld.orderly k w e = true) w events)
    (hevents : ∀ e ∈ events, withoutOverlap i e = true) :
    Solo k r earlier id i (n - events.countP (advances i)) (w.after k events) := by
  induction events generalizing w n with
  | nil => exact h
  | cons e events ih =>
    have hstep := solo_step h hguard.1 (hevents e List.mem_cons_self)
    have hrest := ih hstep hguard.2 fun e he => hevents e (List.mem_cons_of_mem _ he)
    have hcount : (if advances i e then n - 1 else n) - events.countP (advances i) =
        n - (e :: events).countP (advances i) := by
      rw [List.countP_cons]
      split <;> omega
    rw [hcount] at hrest
    exact hrest

theorem known_of_first (h : Kept k d) (hfirst : d.first = some first) : ∃ id, Known k d first id := by
  rcases h.debited with ⟨hnone, -⟩ | ⟨first', id, row, hfirst', hdebit, -⟩
  · cases hnone.symm.trans hfirst
  · exact ⟨id, hfirst, row, hdebit⟩

theorem upheld_after {events : List WithdrawalEvent} (h : k.Unused p)
    (hguard : Machine.Guarded (withdrawalKeyProgram k).step
      (fun w e => WithdrawalWorld.orderly k w e = true) (WithdrawalWorld.opening p) events) :
    Upheld (Kept k) (Knows k) ((WithdrawalWorld.opening p).after k events) := by
  refine Machine.run_induct (fun w e => upheld_kept) ⟨⟨.inl ⟨rfl, h⟩, fun _ hcell => (by cases hcell),
    fun _ hmem => (by cases hmem)⟩, ?_⟩ hguard
  intro i t hat
  cases hat

end RetryLemmas

open RetryLemmas

/-! ## 6. The key -/

/-- The call that is started next runs without overlap, and to its end: it has six statements at
most. -/
structure WithdrawalWorld.Undisturbed (w : WithdrawalWorld) (during : List WithdrawalEvent) : Prop where
  alone : w.tasks.all (·.all (·.byOthers)) = true
  withoutOverlap : ∀ e ∈ during, withoutOverlap w.tasks.length e = true
  ends : 6 ≤ during.countP (advances w.tasks.length)

/-- In every run, whatever happens, the key has one debit at most, with one intent for the amount and
the phone of the call that made it. -/
theorem withdrawal_debited_once (k : WithdrawalKey) (payout : PayoutDesk) (h : k.Unused payout)
    (events : List WithdrawalEvent) :
    ((WithdrawalWorld.opening payout).after k events).state.DebitedOnce k := by
  have hguard : Machine.Guarded (withdrawalKeyProgram k).step (fun _ _ => True)
      (WithdrawalWorld.opening payout) events := Machine.guarded_of_forall fun _ _ => trivial
  refine Machine.run_induct (I := fun w : WithdrawalWorld => w.state.DebitedOnce k)
    (fun w e hw _ => ?_) (.inl ⟨rfl, h⟩) hguard
  rcases Process.step_cases (withdrawalKeyProgram k) w e with ⟨a, -, hstep⟩ |
    ⟨i, input, t, t', -, -, hy, -⟩ | ⟨hstate, -⟩
  · rw [hstep]
    exact hw
  · exact statement_debits (d := { w.state with now := max w.state.now input.time }) hw
      (yields_next.mp hy)
  · rw [hstate]
    exact hw

/-- Between the two worlds the last call has ended, and was told the debit. -/
def WithdrawalKey.Told (k : WithdrawalKey) (payload : WithdrawalPayload) (w w' : WithdrawalWorld) :
    Prop :=
  ∃ id row, k.debit w.state.payout = some (id, row) ∧
    w'.state.answers = ⟨payload, some id⟩ :: w.state.answers

/-- In every run whose steps meet the condition, the key has one debit and one intent, nobody who
asked for another amount is told of a success, and a later call without overlap for the payload of
the debit is told its transaction. -/
theorem withdrawal_replayed (k : WithdrawalKey) (payout : PayoutDesk) (h : k.Unused payout)
    (events : List WithdrawalEvent)
    (hguard : Machine.Guarded (withdrawalKeyProgram k).step
      (fun w e => WithdrawalWorld.orderly k w e = true) (WithdrawalWorld.opening payout) events) :
    ((WithdrawalWorld.opening payout).after k events).state.DebitedOnce k ∧
      ((WithdrawalWorld.opening payout).after k events).state.AnswersFirst k ∧
      ∀ before request during, events = before ++ .start (.withdrawMpesa request) :: during →
        ((WithdrawalWorld.opening payout).after k before).state.first = some request.payload →
        ((WithdrawalWorld.opening payout).after k before).Undisturbed during →
        k.Told request.payload ((WithdrawalWorld.opening payout).after k before)
          ((WithdrawalWorld.opening payout).after k events) := by
  have hrun := upheld_after h hguard
  refine ⟨hrun.state.debited, hrun.state.answers, fun before request during he hfirst hquiet => ?_⟩
  subst he
  obtain ⟨hbefore, horderly, hduring⟩ := Machine.guarded_append.mp hguard
  have hupheld := upheld_after h hbefore
  obtain ⟨id, hknown⟩ := known_of_first hupheld.state hfirst
  -- the retry is the last process of its world, with six statements to go at most
  have hlast : ((WithdrawalWorld.opening payout).after k before).tasks.length <
      (((WithdrawalWorld.opening payout).after k before).tasks ++
        [some (WithdrawalTask.reserve request)]).length := by
    rw [List.length_append]
    exact Nat.lt_succ_self _
  have hstart : Solo k request ((WithdrawalWorld.opening payout).after k before).state.answers id
      ((WithdrawalWorld.opening payout).after k before).tasks.length 6
      ((withdrawalKeyProgram k).step ((WithdrawalWorld.opening payout).after k before)
        (.start (.withdrawMpesa request))) := by
    refine ⟨upheld_kept hupheld horderly, hknown, fun j u hj hu => ?_, hlast, ?_⟩
    · rcases Table.getElem?_append_one_some hu with hold | ⟨hnew, -⟩
      · exact List.all_eq_true.mp hquiet.alone _ (List.mem_of_getElem? hold)
      · exact absurd hnew hj
    · refine .inl ⟨.reserve request, ?_, .inl rfl, Nat.le_refl _, rfl⟩
      exact task_some.mpr Table.getElem?_append_one_self
  have hend := solo_run hstart hduring hquiet.withoutOverlap
  rw [Nat.sub_eq_zero_of_le hquiet.ends] at hend
  have hwhole : (WithdrawalWorld.opening payout).after k
      (before ++ .start (.withdrawMpesa request) :: during) =
      WithdrawalWorld.after ((withdrawalKeyProgram k).step
        ((WithdrawalWorld.opening payout).after k before) (.start (.withdrawMpesa request))) k during :=
    Machine.run_append
  rw [hwhole]
  obtain ⟨-, row, hdebit⟩ := hknown
  refine ⟨id, row, hdebit, ?_⟩
  -- a call with no statement left has answered
  rcases hend.call with ⟨u, -, -, hrank, -⟩ | ⟨-, id', row', hdebit', hanswers⟩
  · cases u <;> cases hrank
  · obtain ⟨-, row'', hdebit''⟩ := hend.known
    cases hdebit'.symm.trans hdebit''
    exact hanswers

def exKey : WithdrawalKey := ⟨0, "K"⟩

/-- The member 0 has 1000 shillings in the FOSA account. -/
def exFundedDesk : PayoutDesk := ⟨exFunded, [], [], []⟩

def exRequest (amount : ℚ) : WithdrawalRequest := ⟨"u0", "254700000000", amount⟩

/-- A statement of the call `i` that everything answers. -/
def exAnswered (i time : Nat) : WithdrawalEvent := .advance i ⟨time, true, .committed, true⟩

/-- A call that is served at once. -/
def exWithdrawn (amount : ℚ) : List WithdrawalEvent :=
  .start (.withdrawMpesa (exRequest amount)) :: List.replicate 4 (exAnswered 0 0)

theorem unused_exFunded : exKey.Unused exFundedDesk := ⟨by decide, by decide⟩

/-- Two days later Redis has forgotten the key, and the call is repeated. -/
theorem withdrawal_replayed_witness :
    exKey.Told ⟨"254700000000", 100⟩
      ((WithdrawalWorld.opening exFundedDesk).after exKey (exWithdrawn 100))
      ((WithdrawalWorld.opening exFundedDesk).after exKey
        (exWithdrawn 100 ++
          .start (.withdrawMpesa (exRequest 100)) :: List.replicate 6 (exAnswered 1 172800000))) :=
  (withdrawal_replayed exKey exFundedDesk unused_exFunded _ (by decide +kernel)).2.2
    (exWithdrawn 100) (exRequest 100) (List.replicate 6 (exAnswered 1 172800000)) rfl
    (by decide +kernel) ⟨by decide +kernel, by decide +kernel, by decide +kernel⟩

/-- Everything is withdrawn, and the call fails at its dispatch. It is repeated. -/
def exDrained : List WithdrawalEvent :=
  [.start (.withdrawMpesa (exRequest 1000)), exAnswered 0 0, exAnswered 0 0,
    .advance 0 ⟨0, true, .committed, false⟩, exAnswered 0 0]

/-- The reply to the repeated call is that there are no funds. With another amount, two days later,
it is that the withdrawal succeeded. -/
theorem withdrawal_not_replayed :
    let drained := (WithdrawalWorld.opening exFundedDesk).after exKey exDrained
    let again := (WithdrawalWorld.opening exFundedDesk).after exKey (exDrained ++
      .start (.withdrawMpesa (exRequest 1000)) :: List.replicate 6 (exAnswered 1 1))
    let less := (WithdrawalWorld.opening exFundedDesk).after exKey (exWithdrawn 100 ++
      .start (.withdrawMpesa (exRequest 50)) :: List.replicate 6 (exAnswered 1 172800000))
    (drained.state.first = some (exRequest 1000).payload ∧ drained.tasks.all (·.isNone) = true ∧
        again.state.answers = [⟨(exRequest 1000).payload, none⟩, ⟨(exRequest 1000).payload, none⟩]) ∧
      less.state.first = some (exRequest 100).payload ∧
        less.state.answers =
          [⟨(exRequest 50).payload, some 0⟩, ⟨(exRequest 100).payload, some 0⟩] := by
  decide +kernel

end BebaSacco
