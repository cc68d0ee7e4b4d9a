import BebaSacco.Outbox

/-! # Settled rows of the outbox

A row is settled when a worker has made it DELIVERED or DEAD_LETTER. A dispatcher checks that when
it reads the row, but its later statements look at the id only. So a settled row stays settled as
long as no dispatch of it is under way when it is settled, and no second handler of a callback
fails on it.

Results:
 1. `next_statement`: what one statement of a dispatcher or a worker does to the rows.
 2. `settled_stable`: in every run without such an overlap a settled row stays settled and is
    never dispatched again.
 3. `delivered_intent_reopened`: a worker that is faster than the dispatcher's update.
-/

namespace BebaSacco

open Txn Process

/-! ## 1. Settled rows and dispatches under way -/

def OutboxStatus.terminal (status : OutboxStatus) : Bool :=
  status == .delivered || status == .deadLetter

def OutboxDb.settled (db : OutboxDb) (row : OutboxRow) : Bool :=
  (db.statusOf row).any OutboxStatus.terminal

/-- The row that a job was added for. -/
def Job.row : Job → Option OutboxRow
  | .disbursement _ data => data.payoutIntentId.map .intent
  | .callback _ data => some (.inbox data.callbackInboxId)

/-- How often a row was dispatched so far. -/
def OutboxDb.dispatches (db : OutboxDb) (row : OutboxRow) : Nat :=
  db.added.countP fun job => job.row == some row

/-- The dispatcher has read the row and has not written it yet. -/
def OutboxTask.dispatching (row : OutboxRow) : OutboxTask → Bool
  | .add r _ _ => r == row
  | .markProcessing r _ _ => r == row
  | .markQueueFailure r _ _ => r == row
  | _ => false

/-- The row that the next statement of a worker settles. -/
def OutboxTask.settles (db : OutboxDb) (input : OutboxInput) : OutboxTask → Option OutboxRow
  | .markDelivered data _ =>
    ((db.intentOf data).filter (·.2.status ≠ .deadLetter)).map fun r => .intent r.1
  | .markDeadLetter data _ =>
    ((db.intentOf data).filter (·.2.status ≠ .deadLetter)).map fun r => .intent r.1
  | .markProcessed id => if input.outcome.isOk then some (.inbox id) else none
  | _ => none

/-- The row that a callback worker, whose handler threw, marks as failed. -/
def OutboxTask.fails : OutboxTask → Option OutboxRow
  | .markHandlingFailed id _ => some (.inbox id)
  | _ => none

/-- When a row is settled no dispatch of it is under way, and no handler fails on a settled row. -/
def OutboxWorld.apart (w : OutboxWorld) : OutboxEvent → Bool
  | .advance i input =>
    (w.task i).all fun t =>
      ((t.settles w.state input).all fun row =>
        w.tasks.all fun u => !(u.any (OutboxTask.dispatching row))) &&
      t.fails.all fun row => !(w.state.settled row)
  | _ => true

namespace OutboxLemmas

/-! ## 2. One statement -/

/-- What a statement does to the rows and where it leads. A status that changes is that of a new
row, of a row written by its dispatcher or by a failed handler, or of a row that is settled. -/
structure Statement (t : OutboxTask) (input : OutboxInput) (db : OutboxDb)
    (t' : Option OutboxTask) (db' : OutboxDb) : Prop where
  status : ∀ row, db'.statusOf row = db.statusOf row ∨
    (db'.settled row = false ∧
      (db.statusOf row = none ∨ t.dispatching row = true ∨ t.fails = some row)) ∨
    (t.settles db input = some row ∧ db'.settled row = true)
  inbox : ∀ id, db'.statusOf (.inbox id) ≠ db.statusOf (.inbox id) →
    db'.statusOf (.inbox id) ≠ some .deadLetter
  added : db'.added = db.added ∨ ∃ row job rest, t = .add row job rest ∧
    db'.added = db.added ++ [job]
  leads : ∀ u row, t' = some u → u.dispatching row = true →
    (∀ r, db'.statusOf r = db.statusOf r) ∧ (t.dispatching row = true ∨
      db.settled row = false ∨ ∃ id, row = .inbox id ∧ db.statusOf row = some .deadLetter)
  job : ∀ row job rest, t' = some (.add row job rest) → job.row = some row

theorem status_modify {α : Type} {l : List α} {id : Nat} {f : α → α} {status : α → OutboxStatus}
    {s : OutboxStatus} (hf : ∀ i, status (f i) = s) (j : Nat) :
    ((l.modify id f)[j]?).map status = (l[j]?).map status ∨
      (j = id ∧ ((l.modify id f)[j]?).map status = some s) := by
  by_cases hj : id = j
  · subst hj
    cases hi : l[id]? with
    | none =>
      refine .inl ?_
      rw [List.getElem?_modify_eq, hi]
      rfl
    | some i => exact .inr ⟨rfl, by rw [Table.getElem?_modify_self hi, Option.map_some, hf]⟩
  · exact .inl (by rw [Table.getElem?_modify_other hj])

theorem status_updateIntent {db : OutboxDb} {id : Nat} {f : MpesaPayoutIntent → MpesaPayoutIntent}
    {s : OutboxStatus} (hf : ∀ i, (f i).status = s) (row : OutboxRow) :
    (db.updateIntent id f).statusOf row = db.statusOf row ∨
      (row = .intent id ∧ (db.updateIntent id f).statusOf row = some s) := by
  cases row with
  | inbox j => exact .inl rfl
  | intent j => exact (status_modify hf j).imp_right fun ⟨h, hs⟩ => ⟨h ▸ rfl, hs⟩

theorem status_updateInbox {db : OutboxDb} {id : Nat}
    {f : MpesaCallbackInbox → MpesaCallbackInbox} {s : OutboxStatus}
    (hf : ∀ i, (f i).status = s) (row : OutboxRow) :
    (db.updateInbox id f).statusOf row = db.statusOf row ∨
      (row = .inbox id ∧ (db.updateInbox id f).statusOf row = some s) := by
  cases row with
  | intent j => exact .inl rfl
  | inbox j => exact (status_modify hf j).imp_right fun ⟨h, hs⟩ => ⟨h ▸ rfl, hs⟩

theorem settled_of_status {db : OutboxDb} {row : OutboxRow} {s : OutboxStatus}
    (h : db.statusOf row = some s) : db.settled row = s.terminal := by
  rw [OutboxDb.settled, h, Option.any_some]

/-- A statement that writes nothing and does not lead to a dispatch under way. -/
theorem statement_idle {t : OutboxTask} {input : OutboxInput} {db : OutboxDb}
    {t' : Option OutboxTask} (ht : ∀ u row, t' = some u → u.dispatching row = false) :
    Statement t input db t' db where
  status _ := .inl rfl
  inbox _ h := absurd rfl h
  added := .inl rfl
  leads u row hu h := by
    rw [ht u row hu] at h
    cases h
  job row job rest hu := by
    have h := ht _ row hu
    rw [OutboxTask.dispatching, beq_self_eq_true] at h
    cases h

theorem dispatchNext_idle {rest : List OutboxRow} {u : OutboxTask} {row : OutboxRow}
    (h : dispatchNext rest = some u) : u.dispatching row = false := by
  cases rest with
  | nil => cases h
  | cons r rest =>
    cases h
    rfl

/-- A dispatcher's read: it writes nothing and may lead to a dispatch of the row it read. -/
theorem statement_read {row : OutboxRow} {rest : List OutboxRow} {input : OutboxInput}
    {db : OutboxDb} {t' : Option OutboxTask}
    (hopen : ∀ u r, t' = some u → u.dispatching r = true → r = row ∧
      (db.settled row = false ∨ ∃ id, row = .inbox id ∧ db.statusOf row = some .deadLetter))
    (hjob : ∀ r job rest, t' = some (.add r job rest) → job.row = some r) :
    Statement (.dispatch row rest) input db t' db where
  status _ := .inl rfl
  inbox _ h := absurd rfl h
  added := .inl rfl
  leads u r hu h := by
    obtain ⟨rfl, hr⟩ := hopen u r hu h
    exact ⟨fun _ => rfl, .inr hr⟩
  job := hjob

theorem dispatchIntent_statement {id : Nat} {rest : List OutboxRow} {input : OutboxInput}
    {db db' : OutboxDb} {t' : Option OutboxTask}
    (h : Yields (dispatchIntent id rest) db t' db') :
    Statement (.dispatch (.intent id) rest) input db t' db' := by
  simp only [dispatchIntent, yields_bind, yields_get] at h
  obtain ⟨_, _, ⟨rfl, rfl⟩, h⟩ := h
  cases hi : db.intents[id]? with
  | none =>
    simp only [hi, yields_pure] at h
    obtain ⟨rfl, rfl⟩ := h
    exact statement_idle fun _ _ hu => dispatchNext_idle hu
  | some intent =>
    have hstatus : db.statusOf (.intent id) = some intent.status := by
      rw [OutboxDb.statusOf, hi, Option.map_some]
    simp only [hi, yields_ite, yields_pure] at h
    rcases h with ⟨_, rfl, rfl⟩ | ⟨hopen, h⟩
    · exact statement_idle fun _ _ hu => dispatchNext_idle hu
    have hsettled : db.settled (.intent id) = false := by
      rw [settled_of_status hstatus, OutboxStatus.terminal, Bool.or_eq_false_iff,
        beq_eq_false_iff_ne, beq_eq_false_iff_ne]
      exact not_or.mp hopen
    rcases h with ⟨_, rfl, rfl⟩ | ⟨_, rfl, rfl⟩
    · refine statement_read (fun u r hu hr => ?_) fun r job rest hu => ?_
      · cases hu
        exact ⟨(beq_iff_eq.mp hr).symm, .inl hsettled⟩
      · cases hu
    · refine statement_read (fun u r hu hr => ?_) fun r job rest hu => ?_
      · cases hu
        exact ⟨(beq_iff_eq.mp hr).symm, .inl hsettled⟩
      · cases hu
        rfl

theorem enqueueCallbackInbox_statement {id : Nat} {rest : List OutboxRow} {input : OutboxInput}
    {db db' : OutboxDb} {t' : Option OutboxTask}
    (h : Yields (enqueueCallbackInbox id rest) db t' db') :
    Statement (.dispatch (.inbox id) rest) input db t' db' := by
  simp only [enqueueCallbackInbox, yields_bind, yields_get] at h
  obtain ⟨_, _, ⟨rfl, rfl⟩, h⟩ := h
  cases hi : db.inboxes[id]?.filter (·.status ≠ .delivered) with
  | none =>
    simp only [hi, yields_pure] at h
    obtain ⟨rfl, rfl⟩ := h
    exact statement_idle fun _ _ hu => dispatchNext_idle hu
  | some inbox =>
    simp only [hi, yields_pure] at h
    obtain ⟨rfl, rfl⟩ := h
    obtain ⟨hrow, hopen⟩ := Option.filter_eq_some_iff.mp hi
    have hstatus : db.statusOf (.inbox id) = some inbox.status := by
      rw [OutboxDb.statusOf, hrow, Option.map_some]
    refine statement_read (fun u r hu hr => ?_) fun r job rest hu => ?_
    · cases hu
      refine ⟨(beq_iff_eq.mp hr).symm, ?_⟩
      by_cases hdead : inbox.status = .deadLetter
      · exact .inr ⟨id, rfl, hdead ▸ hstatus⟩
      · refine .inl ?_
        rw [settled_of_status hstatus, OutboxStatus.terminal, Bool.or_eq_false_iff,
          beq_eq_false_iff_ne, beq_eq_false_iff_ne]
        exact ⟨of_decide_eq_true hopen, hdead⟩
    · cases hu
      rfl

/-- At most the row `row` got a new status, `s`. -/
structure Wrote (row : OutboxRow) (s : OutboxStatus) (db db' : OutboxDb) : Prop where
  status : ∀ r, db'.statusOf r = db.statusOf r ∨ (r = row ∧ db'.statusOf r = some s)
  added : db'.added = db.added

theorem wrote_intent {id : Nat} {s : OutboxStatus} {f : MpesaPayoutIntent → MpesaPayoutIntent}
    (db : OutboxDb) (hf : ∀ i, (f i).status = s) :
    Wrote (.intent id) s db (db.updateIntent id f) := ⟨status_updateIntent hf, rfl⟩

theorem wrote_inbox {id : Nat} {s : OutboxStatus} {f : MpesaCallbackInbox → MpesaCallbackInbox}
    (db : OutboxDb) (hf : ∀ i, (f i).status = s) :
    Wrote (.inbox id) s db (db.updateInbox id f) := ⟨status_updateInbox hf, rfl⟩

theorem writeProcessing_wrote {row : OutboxRow} {jobId : String} {now : Int} {u : Unit}
    {db db' : OutboxDb} (h : Yields (writeProcessing row jobId now) db u db') :
    Wrote row .processing db db' := by
  cases row with
  | intent id =>
    rw [← yields_modify.mp h]
    exact wrote_intent db fun _ => rfl
  | inbox id =>
    rw [← yields_modify.mp h]
    exact wrote_inbox db fun _ => rfl

theorem writeQueueFailure_wrote {row : OutboxRow} {message : String} {now : Int} {u : Unit}
    {db db' : OutboxDb} (h : Yields (writeQueueFailure row message now) db u db') :
    Wrote row .failed db db' := by
  cases row with
  | intent id =>
    rw [← yields_modify.mp h]
    exact wrote_intent db fun _ => rfl
  | inbox id =>
    rw [← yields_modify.mp h]
    exact wrote_inbox db fun _ => rfl

/-- A statement that writes one row, and does not lead to a dispatch under way. -/
theorem statement_wrote {t : OutboxTask} {input : OutboxInput} {db db' : OutboxDb}
    {t' : Option OutboxTask} {row : OutboxRow} {s : OutboxStatus} (h : Wrote row s db db')
    (hs : (s.terminal = false ∧ (t.dispatching row = true ∨ t.fails = some row)) ∨
      (s.terminal = true ∧ t.settles db input = some row))
    (hdead : s = .deadLetter → ∃ id, row = .intent id)
    (ht : ∀ u r, t' = some u → u.dispatching r = false) : Statement t input db t' db' where
  status r := by
    rcases h.status r with hr | ⟨rfl, hr⟩
    · exact .inl hr
    · have hsettled := settled_of_status hr
      rcases hs with ⟨hopen, hd⟩ | ⟨hterm, hset⟩
      · exact .inr (.inl ⟨hsettled.trans hopen, .inr hd⟩)
      · exact .inr (.inr ⟨hset, hsettled.trans hterm⟩)
  inbox id hne heq := by
    rcases h.status (.inbox id) with hr | ⟨hrow, hr⟩
    · exact hne hr
    · obtain ⟨j, hj⟩ := hdead (Option.some.inj (hr.symm.trans heq))
      rw [hj] at hrow
      cases hrow
  added := .inl h.added
  leads u r hu hr := by
    rw [ht u r hu] at hr
    cases hr
  job r job rest hu := by
    have hr := ht _ r hu
    rw [OutboxTask.dispatching, beq_self_eq_true] at hr
    cases hr

theorem statement_fail {t : OutboxTask} {input : OutboxInput} {db : OutboxDb} {row : OutboxRow}
    {message : String} {rest : List OutboxRow} (ht : t.dispatching row = true) :
    Statement t input db (some (.markQueueFailure row message rest)) db where
  status _ := .inl rfl
  inbox _ h := absurd rfl h
  added := .inl rfl
  leads u r hu hr := by
    cases hu
    cases beq_iff_eq.mp hr
    exact ⟨fun _ => rfl, .inl ht⟩
  job r job rest hu := by cases hu

theorem addJob_statement {row : OutboxRow} {job : Job} {rest : List OutboxRow} {input : OutboxInput}
    {db db' : OutboxDb} {t' : Option OutboxTask}
    (h : Yields (addJob row job rest input.outcome) db t' db') :
    Statement (.add row job rest) input db t' db' := by
  unfold addJob at h
  split at h
  · obtain ⟨rfl, rfl⟩ := yields_pure.mp h
    exact statement_fail (beq_self_eq_true row)
  · simp only [yields_bind, yields_modify, yields_pure] at h
    obtain ⟨_, _, rfl, rfl, rfl⟩ := h
    refine ⟨fun r => .inl (by cases r <;> rfl), fun id hne => absurd rfl hne,
      .inr ⟨row, job, rest, rfl, rfl⟩, fun u r hu hr => ?_, fun r job rest hu => ?_⟩
    · cases hu
      exact ⟨fun r => by cases r <;> rfl, .inl hr⟩
    · cases hu

theorem markProcessing_statement {row : OutboxRow} {jobId : String} {rest : List OutboxRow}
    {input : OutboxInput} {db db' : OutboxDb} {t' : Option OutboxTask}
    (h : Yields (markProcessing row jobId rest input) db t' db') :
    Statement (.markProcessing row jobId rest) input db t' db' := by
  unfold markProcessing at h
  split at h
  · obtain ⟨rfl, rfl⟩ := yields_pure.mp h
    exact statement_fail (beq_self_eq_true row)
  · simp only [yields_bind, yields_pure] at h
    obtain ⟨_, _, hwrite, rfl, rfl⟩ := h
    exact statement_wrote (writeProcessing_wrote hwrite)
      (.inl ⟨rfl, .inl (beq_self_eq_true row)⟩) (fun hdead => by cases hdead)
      fun _ _ hu => dispatchNext_idle hu

theorem markQueueFailure_statement {row : OutboxRow} {message : String} {rest : List OutboxRow}
    {input : OutboxInput} {db db' : OutboxDb} {t' : Option OutboxTask}
    (h : Yields (markQueueFailure row message rest input.now) db t' db') :
    Statement (.markQueueFailure row message rest) input db t' db' := by
  simp only [markQueueFailure, yields_bind, yields_pure] at h
  obtain ⟨_, _, hwrite, rfl, rfl⟩ := h
  exact statement_wrote (writeQueueFailure_wrote hwrite)
    (.inl ⟨rfl, .inl (beq_self_eq_true row)⟩) (fun hdead => by cases hdead)
    fun _ _ hu => dispatchNext_idle hu

/-! ### The workers -/

theorem work_statement {n : Nat} {input : OutboxInput} {db db' : OutboxDb}
    {t' : Option OutboxTask} (h : Yields (work n input) db t' db') :
    Statement (.work n) input db t' db' := by
  simp only [work, yields_bind, yields_get] at h
  obtain ⟨_, _, ⟨rfl, rfl⟩, h⟩ := h
  cases hjob : db.added[n]? with
  | none =>
    simp only [hjob, yields_pure] at h
    obtain ⟨rfl, rfl⟩ := h
    exact statement_idle fun u row hu => by cases hu
  | some job =>
    cases job with
    | disbursement jobId data =>
      cases hout : input.outcome with
      | ok mpesaTransactionId =>
        simp only [hjob, hout, yields_pure] at h
        obtain ⟨rfl, rfl⟩ := h
        exact statement_idle fun u row hu => by cases hu; rfl
      | error message =>
        simp only [hjob, hout, yields_pure] at h
        obtain ⟨rfl, rfl⟩ := h
        exact statement_idle fun u row hu => by cases hu; rfl
    | callback jobId data =>
      simp only [hjob, yields_bind, yields_required, yields_ite, yields_pure] at h
      obtain ⟨_, _, ⟨_, rfl⟩, ⟨_, rfl, rfl⟩ | ⟨_, rfl, rfl⟩⟩ := h
      · exact statement_idle fun u row hu => by cases hu
      · exact statement_idle fun u row hu => by cases hu; rfl

theorem markDelivered_statement {data : MpesaDisbursementJobPayload} {txn : Nat}
    {input : OutboxInput} {db db' : OutboxDb} {t' : Option OutboxTask}
    (h : Yields (markDelivered data txn input.now) db t' db') :
    Statement (.markDelivered data txn) input db t' db' := by
  simp only [markDelivered, yields_bind, yields_get] at h
  obtain ⟨_, _, ⟨rfl, rfl⟩, h⟩ := h
  cases hrow : (db.intentOf data).filter (·.2.status ≠ .deadLetter) with
  | none =>
    simp only [hrow, yields_pure] at h
    obtain ⟨rfl, rfl⟩ := h
    exact statement_idle fun u row hu => by cases hu
  | some r =>
    simp only [hrow, yields_bind, yields_modify, yields_pure] at h
    obtain ⟨_, _, rfl, rfl, rfl⟩ := h
    refine statement_wrote (wrote_intent db fun _ => rfl) (.inr ⟨rfl, ?_⟩)
      (fun hdead => by cases hdead) fun u row hu => by cases hu
    rw [OutboxTask.settles, hrow, Option.map_some]

theorem markDeadLetter_statement {data : MpesaDisbursementJobPayload} {lastError : String}
    {input : OutboxInput} {db db' : OutboxDb} {t' : Option OutboxTask}
    (h : Yields (markDeadLetter data lastError input.now) db t' db') :
    Statement (.markDeadLetter data lastError) input db t' db' := by
  simp only [markDeadLetter, yields_bind, yields_get] at h
  obtain ⟨_, _, ⟨rfl, rfl⟩, h⟩ := h
  cases hrow : (db.intentOf data).filter (·.2.status ≠ .deadLetter) with
  | none =>
    simp only [hrow, yields_pure] at h
    obtain ⟨rfl, rfl⟩ := h
    exact statement_idle fun u row hu => by cases hu
  | some r =>
    simp only [hrow, yields_bind, yields_modify, yields_pure] at h
    obtain ⟨_, _, rfl, rfl, rfl⟩ := h
    refine statement_wrote (wrote_intent db fun _ => rfl) (.inr ⟨rfl, ?_⟩)
      (fun _ => ⟨_, rfl⟩) fun u row hu => by cases hu
    rw [OutboxTask.settles, hrow, Option.map_some]

theorem markProcessed_statement {id : Nat} {input : OutboxInput} {db db' : OutboxDb}
    {t' : Option OutboxTask} (h : Yields (markProcessed id input) db t' db') :
    Statement (.markProcessed id) input db t' db' := by
  unfold markProcessed at h
  cases hout : input.outcome with
  | error message =>
    simp only [hout, yields_pure] at h
    obtain ⟨rfl, rfl⟩ := h
    exact statement_idle fun u row hu => by cases hu; rfl
  | ok _ =>
    simp only [hout, yields_bind, yields_modify, yields_pure] at h
    obtain ⟨_, _, rfl, rfl, rfl⟩ := h
    refine statement_wrote (wrote_inbox db fun _ => rfl) (.inr ⟨rfl, ?_⟩)
      (fun hdead => by cases hdead) fun u row hu => by cases hu
    rw [OutboxTask.settles, hout]
    rfl

/-! ### New rows -/

theorem statement_inserted {t : OutboxTask} {input : OutboxInput} {db db' : OutboxDb}
    {t' : Option OutboxTask} {row : OutboxRow}
    (hstatus : ∀ r, db'.statusOf r = db.statusOf r ∨
      (db.statusOf r = none ∧ db'.statusOf r = some .pending))
    (hadded : db'.added = db.added) (ht' : t' = some (.dispatch row [])) :
    Statement t input db t' db' where
  status r := by
    rcases hstatus r with hr | ⟨hnone, hr⟩
    · exact .inl hr
    · exact .inr (.inl ⟨settled_of_status hr, .inl hnone⟩)
  inbox id hne heq := by
    rcases hstatus (.inbox id) with hr | ⟨_, hr⟩
    · exact hne hr
    · cases hr.symm.trans heq
  added := .inl hadded
  leads u r hu hr := by
    rw [ht'] at hu
    cases hu
    cases hr
  job r job rest hu := by
    rw [ht'] at hu
    cases hu

theorem getElem?_append_pending {α : Type} {l : List α} {a : α} {status : α → OutboxStatus}
    (ha : status a = .pending) (j : Nat) :
    (l ++ [a])[j]?.map status = l[j]?.map status ∨
      (l[j]?.map status = none ∧ (l ++ [a])[j]?.map status = some .pending) := by
  rcases Nat.lt_trichotomy j l.length with hlt | rfl | hgt
  · exact .inl (congrArg (Option.map status) (List.getElem?_append_left hlt))
  · refine .inr ⟨?_, ?_⟩
    · rw [List.getElem?_eq_none (Nat.le_refl _), Option.map_none]
    · rw [List.getElem?_concat_length, Option.map_some, ha]
  · refine .inl ?_
    rw [List.getElem?_eq_none (Nat.le_of_lt hgt), List.getElem?_eq_none]
    rw [List.length_append, List.length_singleton]
    exact hgt

theorem createIntent_statement {intent : MpesaPayoutIntent} {input : OutboxInput}
    {db db' : OutboxDb} {t' : Option OutboxTask}
    (h : Yields (createIntent intent input.now) db t' db') :
    Statement (.createIntent intent) input db t' db' := by
  simp only [createIntent, yields_bind, yields_get] at h
  obtain ⟨_, _, ⟨rfl, rfl⟩, h⟩ := h
  cases hfind : Table.findRow (fun i => i.dispatchKey == intent.dispatchKey) db.intents with
  | some r =>
    simp only [hfind, yields_pure] at h
    obtain ⟨rfl, rfl⟩ := h
    exact statement_idle fun u row hu => by cases hu; rfl
  | none =>
    simp only [hfind, yields_bind, yields_ensure, yields_modify, yields_pure] at h
    obtain ⟨_, _, ⟨_, rfl⟩, _, _, rfl, rfl, rfl⟩ := h
    refine statement_inserted (fun r => ?_) rfl rfl
    cases r with
    | inbox id => exact .inl rfl
    | intent id => exact getElem?_append_pending rfl id

theorem persistCallback_statement {inbox : MpesaCallbackInbox} {input : OutboxInput}
    {db db' : OutboxDb} {t' : Option OutboxTask}
    (h : Yields (persistCallback inbox input.now) db t' db') :
    Statement (.persistCallback inbox) input db t' db' := by
  simp only [persistCallback, yields_bind, yields_get] at h
  obtain ⟨_, _, ⟨rfl, rfl⟩, h⟩ := h
  cases hfind : Table.findRow (fun i => i.uniqueKey == inbox.uniqueKey) db.inboxes with
  | some r =>
    simp only [hfind, yields_bind, yields_modify, yields_pure] at h
    obtain ⟨_, _, rfl, rfl, rfl⟩ := h
    refine statement_inserted (fun row => .inl ?_) rfl rfl
    cases row with
    | intent id => rfl
    | inbox id =>
      -- the payload is refreshed, the status is not
      have hsame := Table.map_modify_same (l := db.inboxes) (i := r.1) (f := fun i =>
        { i with
          payload := inbox.payload
          correlationId := inbox.correlationId
          mpesaTransactionId := inbox.mpesaTransactionId
          updatedAt := input.now }) (g := (·.status)) fun _ => rfl
      show (db.inboxes.modify r.1 _)[id]?.map _ = db.inboxes[id]?.map _
      rw [← List.getElem?_map, hsame, List.getElem?_map]
  | none =>
    simp only [hfind, yields_bind, yields_modify, yields_pure] at h
    obtain ⟨_, _, rfl, rfl, rfl⟩ := h
    refine statement_inserted (fun r => ?_) rfl rfl
    cases r with
    | intent id => exact .inl rfl
    | inbox id => exact getElem?_append_pending rfl id

/-- What any statement of a dispatcher or a worker does. -/
theorem next_statement {t : OutboxTask} {input : OutboxInput} {db db' : OutboxDb}
    {t' : Option OutboxTask} (h : Yields (t.next input) db t' db') :
    Statement t input db t' db' := by
  cases t with
  | createIntent intent => exact createIntent_statement h
  | persistCallback inbox => exact persistCallback_statement h
  | dispatchDueIntents limit =>
    simp only [OutboxTask.next, dispatchDueIntents, yields_bind, yields_get, yields_pure] at h
    obtain ⟨_, _, ⟨rfl, rfl⟩, rfl, rfl⟩ := h
    exact statement_idle fun _ _ hu => dispatchNext_idle hu
  | dispatchPendingCallbackInbox limit =>
    simp only [OutboxTask.next, dispatchPendingCallbackInbox, yields_bind, yields_get,
      yields_pure] at h
    obtain ⟨_, _, ⟨rfl, rfl⟩, rfl, rfl⟩ := h
    exact statement_idle fun _ _ hu => dispatchNext_idle hu
  | dispatch row rest =>
    cases row with
    | intent id => exact dispatchIntent_statement h
    | inbox id => exact enqueueCallbackInbox_statement h
  | add row job rest => exact addJob_statement h
  | markProcessing row jobId rest => exact markProcessing_statement h
  | markQueueFailure row message rest => exact markQueueFailure_statement h
  | work n => exact work_statement h
  | markDelivered data txn => exact markDelivered_statement h
  | onFailed data failedReason =>
    simp only [OutboxTask.next, onFailed, yields_ite, yields_pure] at h
    rcases h with ⟨_, rfl, rfl⟩ | ⟨_, rfl, rfl⟩
    · exact statement_idle fun u row hu => by cases hu
    · exact statement_idle fun u row hu => by cases hu; rfl
  | markDeadLetter data lastError => exact markDeadLetter_statement h
  | handle id =>
    simp only [OutboxTask.next, handleCallback] at h
    split at h
    · obtain ⟨rfl, rfl⟩ := yields_pure.mp h
      exact statement_idle fun u row hu => by cases hu; rfl
    · obtain ⟨rfl, rfl⟩ := yields_pure.mp h
      exact statement_idle fun u row hu => by cases hu; rfl
  | markProcessed id => exact markProcessed_statement h
  | markHandlingFailed id message =>
    simp only [OutboxTask.next, markHandlingFailed, yields_bind, yields_pure] at h
    obtain ⟨_, _, hwrite, rfl, rfl⟩ := h
    exact statement_wrote (writeQueueFailure_wrote hwrite) (.inl ⟨rfl, .inr rfl⟩)
      (fun hdead => by cases hdead) fun u row hu => by cases hu

/-! ## 3. Runs -/

/-- No callback is a dead letter. -/
def NoDeadInbox (db : OutboxDb) : Prop := ∀ id, db.statusOf (.inbox id) ≠ some .deadLetter

/-- A dispatch under way is that of a row that is not settled. -/
structure Open (db : OutboxDb) (t : OutboxTask) : Prop where
  row : ∀ row, t.dispatching row = true → db.settled row = false
  job : ∀ row job rest, t = .add row job rest → job.row = some row

theorem settled_congr {db db' : OutboxDb} {row : OutboxRow}
    (h : db'.statusOf row = db.statusOf row) : db'.settled row = db.settled row := by
  rw [OutboxDb.settled, h, OutboxDb.settled]

theorem apart_advance {w : OutboxWorld} {i : Nat} {input : OutboxInput} {t : OutboxTask}
    (h : w.apart (.advance i input) = true) (hat : w.At i t) :
    (∀ row, t.settles w.state input = some row → ∀ j u, w.At j u → u.dispatching row = false) ∧
      ∀ row, t.fails = some row → w.state.settled row = false := by
  unfold OutboxWorld.apart at h
  dsimp only at h
  rw [task_some.mpr hat, Option.all_some, Bool.and_eq_true, Option.all_eq_true,
    Option.all_eq_true] at h
  refine ⟨fun row hrow j u hu => ?_, fun row hrow => ?_⟩
  · have hall := List.all_eq_true.mp (h.1 row hrow) _ (List.mem_of_getElem? hu)
    rwa [Option.any_some, Bool.not_eq_true'] at hall
  · exact (Bool.not_eq_true' _).mp (h.2 row hrow)

/-- A settled row after one statement, when no dispatch of it is under way. -/
theorem statement_settled {t : OutboxTask} {input : OutboxInput} {db db' : OutboxDb}
    {t' : Option OutboxTask} (h : Statement t input db t' db') (hopen : Open db t)
    (hfails : ∀ row, t.fails = some row → db.settled row = false) {row : OutboxRow}
    (hrow : db.settled row = true) :
    db'.settled row = true ∧ db'.dispatches row = db.dispatches row := by
  refine ⟨?_, ?_⟩
  · rcases h.status row with hsame | ⟨_, hnone | hdispatch | hfail⟩ | ⟨_, hsettled⟩
    · rw [settled_congr hsame, hrow]
    · rw [OutboxDb.settled, hnone] at hrow
      cases hrow
    · rw [hopen.row row hdispatch] at hrow
      cases hrow
    · rw [hfails row hfail] at hrow
      cases hrow
    · exact hsettled
  · rcases h.added with hsame | ⟨r, job, rest, rfl, hadded⟩
    · rw [OutboxDb.dispatches, hsame, OutboxDb.dispatches]
    · have hjob := hopen.job r job rest rfl
      have hne : job.row ≠ some row := by
        intro heq
        cases hjob.symm.trans heq
        rw [hopen.row row (beq_self_eq_true row)] at hrow
        cases hrow
      rw [OutboxDb.dispatches, hadded, List.countP_append, List.countP_singleton,
        if_neg (fun heq => hne (beq_iff_eq.mp heq)), Nat.add_zero, OutboxDb.dispatches]

/-- The obligation of a statement that keeps apart from the dispatches of the row it settles. -/
theorem statement_owes {w : OutboxWorld} {i : Nat} {input : OutboxInput} {t : OutboxTask}
    {t' : Option OutboxTask} {db' : OutboxDb} (hw : Upheld NoDeadInbox Open w) (hat : w.At i t)
    (hapart : w.apart (.advance i input) = true) (h : Statement t input w.state t' db') :
    Owes NoDeadInbox Open w i t' db' := by
  obtain ⟨hsettles, _⟩ := apart_advance hapart hat
  refine ⟨fun id hdead => ?_, fun u hu => ⟨fun row hrow => ?_, fun row job rest he => ?_⟩,
    fun j u _ hu hopen => ⟨fun row hrow => ?_, hopen.job⟩⟩
  · by_cases hsame : db'.statusOf (.inbox id) = w.state.statusOf (.inbox id)
    · exact hw.state id (hsame.symm.trans hdead)
    · exact h.inbox id hsame hdead
  · obtain ⟨hsame, hdispatch | hfree | ⟨id, rfl, hdead⟩⟩ := h.leads u row hu hrow
    · rw [settled_congr (hsame row)]
      exact (hw.tasks i t hat).row row hdispatch
    · rw [settled_congr (hsame row), hfree]
    · exact absurd hdead (hw.state id)
  · exact h.job row job rest (he ▸ hu)
  · rcases h.status row with hsame | ⟨hfree, _⟩ | ⟨hset, _⟩
    · rw [settled_congr hsame]
      exact hopen.row row hrow
    · exact hfree
    · rw [hsettles row hset j u hu] at hrow
      cases hrow

theorem step_upheld {w : OutboxWorld} {e : OutboxEvent} (hw : Upheld NoDeadInbox Open w)
    (h : w.apart e = true) : Upheld NoDeadInbox Open (outbox.step w e) := by
  refine upheld_step hw (fun call _ => ?_) fun i input t t' db' he hat hy => ?_
  · cases call with
    | withdraw _ | callback _ | intentSweep _ | inboxSweep _ | dispatch _ | deliver _ =>
      exact ⟨fun _ hrow => Bool.noConfusion hrow, fun _ _ _ hadd => by cases hadd⟩
  · exact statement_owes hw hat (he ▸ h) (next_statement hy)

/-- One event leaves a settled row settled and does not dispatch it. -/
theorem step_settled {w : OutboxWorld} {e : OutboxEvent} (hw : Upheld NoDeadInbox Open w)
    (h : w.apart e = true) {row : OutboxRow} (hrow : w.state.settled row = true) :
    (outbox.step w e).state.settled row = true ∧
      (outbox.step w e).state.dispatches row = w.state.dispatches row := by
  rcases Process.step_cases outbox w e with ⟨call, _, hstep⟩ | ⟨i, input, t, t', he, hat, hy, _⟩ |
    ⟨hsame, _⟩
  · rw [hstep]
    exact ⟨hrow, rfl⟩
  · rw [he] at h
    exact statement_settled (next_statement hy) (hw.tasks i t hat) (apart_advance h hat).2 hrow
  · rw [hsame]
    exact ⟨hrow, rfl⟩

end OutboxLemmas

open OutboxLemmas

/-- In every run in which a row is settled only when no dispatch of it is under way, and no
handler fails on a settled row, a row that is settled at one point stays settled from then on and
is never dispatched again. -/
theorem settled_stable {events later : List OutboxEvent} {row : OutboxRow}
    (hapart : Machine.Guarded outbox.step (fun w e => OutboxWorld.apart w e = true)
      OutboxWorld.empty (events ++ later))
    (hrow : (OutboxWorld.empty.after events).state.settled row = true) :
    (OutboxWorld.empty.after (events ++ later)).state.settled row = true ∧
      (OutboxWorld.empty.after (events ++ later)).state.dispatches row =
        (OutboxWorld.empty.after events).state.dispatches row := by
  obtain ⟨hbefore, hlater⟩ := Machine.guarded_append.mp hapart
  have hempty : Upheld NoDeadInbox Open OutboxWorld.empty := by
    refine ⟨fun id hdead => ?_, fun i t hat => ?_⟩
    · cases hdead
    · cases hat
  have hw := Machine.run_induct (fun _ _ hw h => step_upheld hw h) hempty hbefore
  have hstep : ∀ (w : OutboxWorld) (e : OutboxEvent),
      (Upheld NoDeadInbox Open w ∧ w.state.settled row = true ∧
        w.state.dispatches row = (OutboxWorld.empty.after events).state.dispatches row) →
      OutboxWorld.apart w e = true →
      (Upheld NoDeadInbox Open (outbox.step w e) ∧ (outbox.step w e).state.settled row = true ∧
        (outbox.step w e).state.dispatches row =
          (OutboxWorld.empty.after events).state.dispatches row) := by
    rintro w e ⟨hw, hrow, hcount⟩ h
    obtain ⟨hrow', hcount'⟩ := step_settled hw h hrow
    exact ⟨step_upheld hw h, hrow', hcount'.trans hcount⟩
  have hrun := Machine.run_induct hstep ⟨hw, hrow, rfl⟩ hlater
  rw [OutboxWorld.after, Machine.run_append]
  exact hrun.2

/-- A withdrawal of KES 50 to a phone. -/
def exIntent : MpesaPayoutIntent where
  tenantId := "t"
  dispatchKey := "FOSA_WITHDRAWAL:t:0"
  jobId := "fosa-withdraw-0"
  referenceType := "FOSA_WITHDRAWAL"
  referenceId := "0"
  sourceTransactionId := "0"
  phoneNumber := "254700000000"
  amount := 500000
  triggeredBy := "A"
  updatedAt := 0

/-- Process `i` does its next statement, and what it calls succeeds. -/
def exAdvance (i : Nat) (now : Int) : OutboxEvent := .advance i { now, outcome := .ok 0 }

/-- The withdrawal is written and read by its dispatcher, which adds the job. -/
def exDispatch : List OutboxEvent :=
  [.start (.withdraw exIntent), exAdvance 0 0, exAdvance 0 0, exAdvance 0 0]

/-- A worker takes up the job, pays out and marks the intent as delivered. -/
def exWorker : List OutboxEvent := [.start (.deliver 0), exAdvance 1 1, exAdvance 1 1]

/-- The intent stays delivered when the dispatcher has written it before the worker starts: the
sweep ten minutes later leaves it alone. -/
theorem settled_stable_delivered :
    ∃ events later, events = exDispatch ++ exAdvance 0 0 :: exWorker ∧
      later = [.start (.intentSweep 50), exAdvance 2 600000, exAdvance 2 600000] ∧
      (OutboxWorld.empty.after (events ++ later)).state.settled (.intent 0) = true ∧
      (OutboxWorld.empty.after (events ++ later)).state.dispatches (.intent 0) =
        (OutboxWorld.empty.after events).state.dispatches (.intent 0) :=
  ⟨_, _, rfl, rfl, settled_stable (by decide +kernel) (by decide +kernel)⟩

/-- The worker is done before the dispatcher's update: the delivered intent is PROCESSING again,
and the next sweep adds a second job for it. -/
theorem delivered_intent_reopened :
    (OutboxWorld.empty.after (exDispatch ++ exWorker)).state.statusOf (.intent 0) =
        some .delivered ∧
      (OutboxWorld.empty.after (exDispatch ++ exWorker ++ [exAdvance 0 2])).state.statusOf
        (.intent 0) = some .processing ∧
      (OutboxWorld.empty.after (exDispatch ++ exWorker)).state.dispatches (.intent 0) = 1 ∧
      (OutboxWorld.empty.after (exDispatch ++ exWorker ++ [exAdvance 0 2] ++
        [.start (.intentSweep 50), exAdvance 2 600000, exAdvance 2 600000,
          exAdvance 2 600000])).state.dispatches (.intent 0) = 2 := by
  decide +kernel

end BebaSacco
