import BebaSacco.WithdrawalSaga

/-! # A payout is sent once

The worker that turns the row of a payout from LOCAL_CREATED to SEND_ATTEMPTED is the one that calls
the provider, and no write turns a row back. So however often the job of an intent is delivered, one
call is made at most. The claim and the call are two statements, though: between them the row may be
settled, and its debit reversed, by whoever asks the provider about a payout it has not heard of.

Results:
 1. `PayoutWorld.SentOnce`: the rows whose payout was sent, or is about to be, were claimed once.
 2. `payout_sent_once`: one call for a row in every run, and only for a row that waits, with its
    debit in place, when nothing settles a row between the claim and the call.
 3. `sent_after_reversal`: a status query in between fails the row, and the payout is sent after it.
-/

namespace BebaSacco

open Txn Process WithdrawalLemmas SagaLemmas

/-! ## 1. The condition -/

/-- The row that the point is about to call the provider for. -/
def PayoutTask.sending : PayoutTask → Option Nat
  | .sendMobile mpesaTxId _ => some mpesaTxId
  | _ => none

/-- No row is settled while a worker is about to call the provider for it. -/
def PayoutWorld.settlesNoneInFlight (w : PayoutWorld) : PayoutEvent → Bool
  | .advance i _ =>
    (w.task i).all fun t => w.tasks.all (·.all fun u => u.sending.all fun id => !t.settles id)
  | _ => true

/-- The row is there and cannot be claimed for a call any more. -/
def PayoutDesk.Claimed (d : PayoutDesk) (id : Nat) : Prop :=
  ∃ m, d.db.mpesaTransactions[id]? = some m ∧ m.providerSubmissionState ≠ some .localCreated

/-- One call for a row at most, made or about to be made. -/
structure PayoutWorld.SentOnce (w : PayoutWorld) : Prop where
  nodup : w.state.sends.Nodup
  sent : ∀ id ∈ w.state.sends, w.state.Claimed id
  sending : ∀ i t id, w.At i t → t.sending = some id → w.state.Claimed id ∧ id ∉ w.state.sends
  alone : ∀ i j t u id, w.At i t → w.At j u → t.sending = some id → u.sending = some id → i = j

/-- A row that a worker is about to call the provider for waits for its payout. -/
def PayoutWorld.InTime (w : PayoutWorld) : Prop :=
  ∀ i t id, w.At i t → t.sending = some id →
    ∃ m, w.state.db.mpesaTransactions[id]? = some m ∧ m.unsettled = true

/-! ## 2. What a statement does to the row of a call -/

namespace SendLemmas

theorem sending_iff {t : PayoutTask} {id : Nat} :
    t.sending = some id ↔ ∃ payout, t = .sendMobile id payout := by
  constructor
  · intro h
    cases t with
    | sendMobile _ payout =>
      cases h
      exact ⟨payout, rfl⟩
    | _ => cases h
  · rintro ⟨payout, rfl⟩
    rfl

theorem claimed_modify {d d' : PayoutDesk} {id j : Nat} {f : MpesaTransaction → MpesaTransaction}
    (hrows : d'.db.mpesaTransactions = d.db.mpesaTransactions.modify j f)
    (hf : ∀ m, (f m).providerSubmissionState = some .localCreated →
      m.providerSubmissionState = some .localCreated)
    (h : d.Claimed id) : d'.Claimed id := by
  obtain ⟨m, hm, hstate⟩ := h
  unfold PayoutDesk.Claimed
  rw [hrows]
  by_cases hj : j = id
  · subst hj
    exact ⟨f m, Table.getElem?_modify_self hm, fun hlocal => hstate (hf m hlocal)⟩
  · exact ⟨m, by rw [Table.getElem?_modify_other hj]; exact hm, hstate⟩

theorem claimed_of_rows {d d' : PayoutDesk} {id : Nat}
    (hrows : d'.db.mpesaTransactions = d.db.mpesaTransactions) (h : d.Claimed id) :
    d'.Claimed id := by
  unfold PayoutDesk.Claimed
  rw [hrows]
  exact h

theorem rows_of_posting {request : WithdrawMpesa} {tenantId : String} {accountId : Nat}
    {r : PostingResult} {db db' : Db}
    (h : Yields (postEntry (request.posting tenantId accountId)) db r db') :
    db'.mpesaTransactions = db.mpesaTransactions :=
  (withdrew_of_posting h).2.1

theorem rows_of_reversed {id : Nat} {db db' : Db} (h : Reversed id db db') :
    db'.mpesaTransactions = db.mpesaTransactions := by
  obtain ⟨_, _, _, _, _, _, _, -, -, -, -, -, -, -, -, rfl⟩ := h
  rfl

theorem claimed_write {d d' : PayoutDesk} {t : PayoutTask} {id : Nat} (h : PayoutWrite d t d')
    (hid : d.Claimed id) : d'.Claimed id := by
  cases h with
  | nothing => exact hid
  | withdraw hpost => exact claimed_of_rows (rows_of_posting hpost) hid
  | create =>
    obtain ⟨m, hm, hstate⟩ := hid
    exact ⟨m, Table.getElem?_append_one_old hm, hstate⟩
  | claimSend hm =>
    refine claimed_modify rfl (fun m hlocal => ?_) hid
    cases hlocal
  | send => exact hid
  | edit _ _ hf => exact claimed_modify rfl hf.sent hid
  | reverse _ _ _ _ _ hreversed _ hf =>
    exact claimed_modify (rows_of_reversed hreversed) hf.sent hid
  | completeByHand _ _ hf => exact claimed_modify rfl hf.sent hid
  | createAttempt => exact hid
  | schedule => exact claimed_modify rfl (fun _ h => h) hid

theorem sends_write {d d' : PayoutDesk} {t : PayoutTask} (h : PayoutWrite d t d') :
    d'.sends = d.sends ∨ ∃ id, t.sending = some id ∧ d'.sends = d.sends ++ [id] := by
  cases h with
  | send => exact .inr ⟨_, rfl, rfl⟩
  | _ => exact .inl rfl

theorem waits_modify {d d' : PayoutDesk} {id j : Nat} {m : MpesaTransaction}
    {f : MpesaTransaction → MpesaTransaction}
    (hrows : d'.db.mpesaTransactions = d.db.mpesaTransactions.modify j f)
    (hm : d.db.mpesaTransactions[id]? = some m) (hopen : m.unsettled = true)
    (hf : j = id → (f m).unsettled = true) :
    ∃ m', d'.db.mpesaTransactions[id]? = some m' ∧ m'.unsettled = true := by
  rw [hrows]
  by_cases hj : j = id
  · subst hj
    exact ⟨f m, Table.getElem?_modify_self hm, hf rfl⟩
  · exact ⟨m, by rw [Table.getElem?_modify_other hj]; exact hm, hopen⟩

theorem waits_move {t : PayoutTask} {id : Nat} {m m' : MpesaTransaction} (h : StatusMove t id m m')
    (hopen : m.unsettled = true) (ht : t.settles id = false) : m'.unsettled = true := by
  have hrecon : m'.status = .reconPending → m'.unsettled = true := by
    intro hs
    unfold MpesaTransaction.unsettled
    rw [hs]
    rfl
  cases h with
  | kept h =>
    unfold MpesaTransaction.unsettled at hopen ⊢
    rwa [h]
  | waits _ h => exact hrecon h
  | flagged _ _ h => exact hrecon h
  | completed _ hs => cases hs.symm.trans ht
  | failed _ hs => cases hs.symm.trans ht

theorem waits_write {d d' : PayoutDesk} {t : PayoutTask} {id : Nat} {m : MpesaTransaction}
    (h : PayoutWrite d t d') (hm : d.db.mpesaTransactions[id]? = some m)
    (hopen : m.unsettled = true) (ht : t.settles id = false) :
    ∃ m', d'.db.mpesaTransactions[id]? = some m' ∧ m'.unsettled = true := by
  cases h with
  | nothing => exact ⟨m, hm, hopen⟩
  | withdraw hpost => exact ⟨m, rows_of_posting hpost ▸ hm, hopen⟩
  | create => exact ⟨m, Table.getElem?_append_one_old hm, hopen⟩
  | claimSend => exact waits_modify rfl hm hopen fun _ => hopen
  | send => exact ⟨m, hm, hopen⟩
  | edit hmj _ hf =>
    refine waits_modify rfl hm hopen fun hj => ?_
    subst hj
    cases hm.symm.trans hmj
    exact waits_move hf.status hopen ht
  | reverse _ _ hs _ _ hreversed =>
    refine waits_modify (rows_of_reversed hreversed) hm hopen fun hj => ?_
    subst hj
    cases hs.symm.trans ht
  | completeByHand hmj _ hf =>
    refine waits_modify rfl hm hopen fun hj => ?_
    subst hj
    cases hm.symm.trans hmj
    exact waits_move hf.status hopen ht
  | createAttempt => exact ⟨m, hm, hopen⟩
  | schedule => exact waits_modify rfl hm hopen fun _ => hopen

/-- A worker that gets to its call has just claimed the row, which waited to be sent. -/
theorem claimed_next {config : ReconConfig} {input : PayoutInput} {t : PayoutTask} {id : Nat}
    {payout : MobilePayout} {d d' : PayoutDesk}
    (h : Yields (t.next config input) d (some (.sendMobile id payout)) d') :
    d'.sends = d.sends ∧ d'.Claimed id ∧
      (∃ m, d'.db.mpesaTransactions[id]? = some m ∧ m.unsettled = true) ∧
      ∃ m, d.db.mpesaTransactions[id]? = some m ∧
        m.providerSubmissionState = some .localCreated := by
  rcases yields_rescue.mp h with h | ⟨-, -, e, he, -⟩
  · simp only [yields_bind, yields_ensure] at h
    obtain ⟨_, _, ⟨-, rfl⟩, h⟩ := h
    obtain rfl : t = .claimSend id payout := leads_comesFrom ((statement_does h).leads _ rfl)
    simp only [PayoutTask.statement, claimSend, yields_bind, yields_onTables, yields_pure] at h
    obtain ⟨claimed, _, ⟨db, hclaim, rfl⟩, hlead, rfl⟩ := h
    rcases claimMpesa_cases hclaim with ⟨rfl, rfl⟩ | ⟨-, rfl, m, hm, hc, -⟩
    · cases hlead
    · obtain ⟨hopen, hlocal⟩ := Bool.and_eq_true_iff.mp hc
      refine ⟨rfl, ⟨_, Table.getElem?_modify_self hm, fun h => by cases h⟩,
        ⟨_, Table.getElem?_modify_self hm, hopen⟩, m, hm, beq_iff_eq.mp hlocal⟩
  · rcases caught_cases he with ⟨_, _, h⟩ | ⟨_, h⟩ <;> cases h

theorem entry_sending (a : PayoutCall) : a.entry.sending = none := by
  cases a <;> rfl

theorem at_append {tasks : List (Option PayoutTask)} {a : PayoutCall} {j id : Nat} {u : PayoutTask}
    (h : (tasks ++ [some a.entry])[j]? = some (some u)) (hu : u.sending = some id) :
    tasks[j]? = some (some u) := by
  rcases Table.getElem?_append_one_some h with hold | ⟨-, hnew⟩
  · exact hold
  · cases hnew
    cases (entry_sending a).symm.trans hu

end SendLemmas

open SendLemmas

/-! ## 3. Sent once -/

theorem step_sentOnce {config : ReconConfig} {w : PayoutWorld} {e : PayoutEvent} (h : w.SentOnce) :
    PayoutWorld.SentOnce ((payouts config).step w e) := by
  rcases Process.step_cases (payouts config) w e with ⟨a, -, hstep⟩ |
    ⟨i, input, t, t', -, hat, hy, htasks⟩ | ⟨hstate, htasks⟩
  · rw [hstep]
    refine ⟨h.nodup, h.sent, fun j u id hu hs => h.sending j u id (at_append hu hs) hs, ?_⟩
    exact fun j k u v id hu hv hs hs' =>
      h.alone j k u v id (at_append hu hs) (at_append hv hs') hs hs'
  · generalize hw : (payouts config).step w e = w' at hy htasks ⊢
    have hkeeps : ∀ id, w.state.Claimed id → w'.state.Claimed id := by
      intro id hid
      rcases next_cases hy with ⟨-, hdoes⟩ | ⟨hsame, -⟩
      · exact claimed_write hdoes.writes hid
      · exact hsame ▸ hid
    have hsends : w'.state.sends = w.state.sends ∨
        ∃ id, t.sending = some id ∧ w'.state.sends = w.state.sends ++ [id] := by
      rcases next_cases hy with ⟨-, hdoes⟩ | ⟨hsame, -⟩
      · exact sends_write hdoes.writes
      · exact .inl (hsame ▸ rfl)
    -- The process that has moved is at its call only after a claim of its own.
    have hown : ∀ u id, t' = some u → u.sending = some id →
        w'.state.sends = w.state.sends ∧ w'.state.Claimed id ∧ ¬ w.state.Claimed id := by
      intro u id ht' hu
      obtain ⟨payout, rfl⟩ := sending_iff.mp hu
      subst ht'
      obtain ⟨hsame, hclaimed, -, m, hm, hlocal⟩ := claimed_next hy
      refine ⟨hsame, hclaimed, ?_⟩
      rintro ⟨m', hm', hstate⟩
      cases hm.symm.trans hm'
      exact hstate hlocal
    have hafter : ∀ j u, w'.At j u → (j = i ∧ t' = some u) ∨ (j ≠ i ∧ w.At j u) := by
      intro j u hu
      unfold World.At at hu
      rw [htasks] at hu
      exact at_set hu
    refine ⟨?_, fun id hid => ?_, fun j u id hu hs => ?_, fun j k u v id hu hv hs hs' => ?_⟩
    · rcases hsends with hsame | ⟨id, hs, hsame⟩
      · exact hsame ▸ h.nodup
      · rw [hsame, List.nodup_append]
        refine ⟨h.nodup, List.nodup_singleton id, fun x hx y hy hxy => ?_⟩
        obtain rfl := List.mem_singleton.mp hy
        exact (h.sending i t y hat hs).2 (hxy ▸ hx)
    · rcases hsends with hsame | ⟨j, hs, hsame⟩
      · exact hkeeps id (h.sent id (hsame ▸ hid))
      · rcases List.mem_append.mp (hsame ▸ hid) with hid | hid
        · exact hkeeps id (h.sent id hid)
        · obtain rfl := List.mem_singleton.mp hid
          exact hkeeps id (h.sending i t id hat hs).1
    · rcases hafter j u hu with ⟨rfl, ht'⟩ | ⟨hne, hold⟩
      · obtain ⟨hsame, hclaimed, hfresh⟩ := hown u id ht' hs
        exact ⟨hclaimed, fun hid => hfresh (h.sent id (hsame ▸ hid))⟩
      · obtain ⟨hclaimed, hnot⟩ := h.sending j u id hold hs
        refine ⟨hkeeps id hclaimed, fun hid => ?_⟩
        rcases hsends with hsame | ⟨k, hk, hsame⟩
        · exact hnot (hsame ▸ hid)
        · rcases List.mem_append.mp (hsame ▸ hid) with hid | hid
          · exact hnot hid
          · obtain rfl := List.mem_singleton.mp hid
            exact hne (h.alone j i u t id hold hat hs hk)
    · rcases hafter j u hu with ⟨rfl, hj⟩ | ⟨-, hj⟩ <;> rcases hafter k v hv with ⟨rfl, hk⟩ | ⟨-, hk⟩
      · rfl
      · exact absurd (h.sending k v id hk hs').1 (hown u id hj hs).2.2
      · exact absurd (h.sending j u id hj hs).1 (hown v id hk hs').2.2
      · exact h.alone j k u v id hj hk hs hs'
  · rw [show (payouts config).step w e = ⟨w.state, ((payouts config).step w e).tasks⟩ by rw [← hstate]]
    refine ⟨h.nodup, h.sent, fun j u id hu => h.sending j u id (htasks j u hu), ?_⟩
    exact fun j k u v id hu hv => h.alone j k u v id (htasks j u hu) (htasks k v hv)

theorem inTime_advance {w : PayoutWorld} {i j id : Nat} {input : PayoutInput} {t u : PayoutTask}
    (h : w.settlesNoneInFlight (.advance i input) = true) (hat : w.At i t) (hu : w.At j u)
    (hs : u.sending = some id) : t.settles id = false := by
  simp only [PayoutWorld.settlesNoneInFlight, task_some.mpr hat, Option.all_some] at h
  have hother := List.all_eq_true.mp h _ (List.mem_of_getElem? hu)
  simp only [Option.all_some, hs, Bool.not_eq_true'] at hother
  exact hother

theorem step_inTime {config : ReconConfig} {w : PayoutWorld} {e : PayoutEvent} (h : w.InTime)
    (hg : w.settlesNoneInFlight e = true) : PayoutWorld.InTime ((payouts config).step w e) := by
  rcases Process.step_cases (payouts config) w e with ⟨a, -, hstep⟩ |
    ⟨i, input, t, t', rfl, hat, hy, htasks⟩ | ⟨hstate, htasks⟩
  · rw [hstep]
    exact fun j u id hu hs => h j u id (at_append hu hs) hs
  · generalize (payouts config).step w (.advance i input) = w' at hy htasks ⊢
    intro j u id hu hs
    unfold World.At at hu
    rw [htasks] at hu
    rcases at_set hu with ⟨-, rfl⟩ | ⟨-, hold⟩
    · obtain ⟨payout, rfl⟩ := sending_iff.mp hs
      exact (claimed_next hy).2.2.1
    · obtain ⟨m, hm, hopen⟩ := h j u id hold hs
      rcases next_cases hy with ⟨-, hdoes⟩ | ⟨hsame, -⟩
      · exact waits_write hdoes.writes hm hopen (inTime_advance hg hat hold hs)
      · exact ⟨m, hsame ▸ hm, hopen⟩
  · intro j u id hu hs
    rw [hstate]
    exact h j u id (htasks j u hu) hs

theorem sentOnce_run (config : ReconConfig) (db : Db) (events : List PayoutEvent) :
    PayoutWorld.SentOnce ((PayoutWorld.opening db).after config events) := by
  have hfree : Machine.Guarded (payouts config).step (fun _ _ => True) (PayoutWorld.opening db)
      events := Machine.guarded_of_forall fun _ _ => trivial
  refine Machine.run_induct (fun _ _ hw _ => step_sentOnce hw) ?_ hfree
  refine ⟨List.nodup_nil, ?_, ?_, ?_⟩
  · intro _ h
    cases h
  · intro _ _ _ h
    cases h
  · intro _ _ _ _ _ h
    cases h

theorem sends_step {config : ReconConfig} {w : PayoutWorld} {e : PayoutEvent} {id : Nat}
    (h : ((payouts config).step w e).state.sends = w.state.sends ++ [id]) :
    ∃ i t, w.At i t ∧ t.sending = some id := by
  have hne : ((payouts config).step w e).state.sends ≠ w.state.sends := by
    intro hsame
    have hlength := congrArg List.length (hsame.symm.trans h)
    rw [List.length_append, List.length_singleton] at hlength
    exact absurd hlength (Nat.ne_of_lt (Nat.lt_succ_self _))
  rcases Process.step_cases (payouts config) w e with ⟨a, -, hstep⟩ |
    ⟨i, input, t, t', -, hat, hy, -⟩ | ⟨hstate, -⟩
  · exact absurd (hstep ▸ rfl) hne
  · rcases next_cases hy with ⟨-, hdoes⟩ | ⟨hsame, -⟩
    · rcases sends_write hdoes.writes with hsame | ⟨j, hj, hsends⟩
      · exact absurd hsame hne
      · have hid := List.append_cancel_left (h.symm.trans hsends)
        exact ⟨i, t, hat, by rw [hj, List.cons.inj hid |>.1]⟩
    · exact absurd (congrArg PayoutDesk.sends hsame) hne
  · exact absurd (congrArg PayoutDesk.sends hstate) hne

/-- The condition on an event of a run. -/
def PayoutWorld.timely (w : PayoutWorld) (e : PayoutEvent) : Bool :=
  w.flagsWaiting e && w.settlesNoneInFlight e

/-- The provider is called once for a row at most, in every run. If nothing settles a row between
the claim of a worker and its call, and the daily reconciliation flags no settled row, then the row
of every call waits and its debit is in place. -/
theorem payout_sent_once (config : ReconConfig) {db : Db} (hdb : db.BeforeWithdrawals) :
    (∀ (events : List PayoutEvent) (id : Nat),
      ((PayoutWorld.opening db).after config events).state.sends.count id ≤ 1) ∧
    ∀ (events : List PayoutEvent), Machine.Guarded (payouts config).step
        (fun w e => PayoutWorld.timely w e = true) (PayoutWorld.opening db) events →
      ∀ (e : PayoutEvent) (id : Nat),
        ((PayoutWorld.opening db).after config (events ++ [e])).state.sends =
          ((PayoutWorld.opening db).after config events).state.sends ++ [id] →
        ∃ m, ((PayoutWorld.opening db).after config events).state.db.mpesaTransactions[id]? =
            some m ∧ m.final = false ∧
          (m.isWithdrawal = true →
            ((PayoutWorld.opening db).after config events).state.db.debitReversals m = 0) := by
  constructor
  · intro events id
    exact List.nodup_iff_count_le_one.mp (sentOnce_run config db events).nodup id
  · intro events hguard e id hsent
    have hsound : PayoutWorld.Sound ((PayoutWorld.opening db).after config events) ∧
        PayoutWorld.InTime ((PayoutWorld.opening db).after config events) := by
      refine Machine.run_induct (I := fun w => PayoutWorld.Sound w ∧ PayoutWorld.InTime w)
        (fun w e hw hg => ?_) ⟨sound_opening hdb, fun _ _ _ h => (by cases h)⟩ hguard
      obtain ⟨hflags, hsettles⟩ := Bool.and_eq_true_iff.mp hg
      exact ⟨(step_sound hw.1 hflags).1, step_inTime hw.2 hsettles⟩
    rw [PayoutWorld.after, Machine.run_append] at hsent
    change (Machine.run _ (PayoutWorld.after config _ events) [e]).state.sends = _ at hsent
    generalize (PayoutWorld.opening db).after config events = w at hsound hsent ⊢
    obtain ⟨i, t, hat, hs⟩ := sends_step hsent
    obtain ⟨m, hm, hopen⟩ := hsound.2 i t id hat hs
    refine ⟨m, hm, not_final hopen, fun hw => ?_⟩
    obtain ⟨s, hsource, -⟩ := hsound.1.linked.state.rows id m hm hw
    have hiff := hsound.1.settled id m s hm hw hsource
    unfold Db.debitReversals
    rw [hsource]
    refine Nat.eq_zero_of_not_pos fun hpos => ?_
    cases (final_of_failed (hiff.mp hpos)).symm.trans (not_final hopen)

/-- A withdrawal whose payout was claimed, with the worker about to call the provider. -/
def exClaimed : List PayoutEvent := exSent.take 8

theorem payout_sent_once_queued :
    ((PayoutWorld.opening exFunded).after {} exSent).state.sends.count 0 ≤ 1 ∧
    ∃ m, ((PayoutWorld.opening exFunded).after {} exClaimed).state.db.mpesaTransactions[0]? =
        some m ∧ m.final = false ∧
      (m.isWithdrawal = true →
        ((PayoutWorld.opening exFunded).after {} exClaimed).state.db.debitReversals m = 0) := by
  have hdb : exFunded.BeforeWithdrawals := ⟨by decide, by decide, by decide⟩
  exact ⟨(payout_sent_once {} hdb).1 exSent 0,
    (payout_sent_once {} hdb).2 exClaimed (by decide +kernel) (exQueued 1 0) 0
      (by decide +kernel)⟩

/-- The member asks for the status before the worker has made its call. The provider does not know
the payout, the row fails and its debit is reversed; then the worker sends the payout. -/
theorem sent_after_reversal :
    let unknown := Process.Event.advance 2 { now := 0, provider := .ok { status := "01" } }
    let refused := exClaimed ++
      [.start (.memberStatus 0), unknown, unknown, unknown, unknown]
    let world (events : List PayoutEvent) := (PayoutWorld.opening exFunded).after {} events
    ((world refused).state.db.mpesaTransactions.map fun m =>
        (m.status, (world refused).state.db.debitReversals m)) = [(.failed, 1)] ∧
      (world refused).state.sends = [] ∧
      (world (refused ++ [exQueued 1 0])).state.sends = [0] := by
  decide +kernel

end BebaSacco
