import BebaSacco.WithdrawalSaga

/-! # The reconciliation makes progress

A run of the reconciliation numbers its attempt one above the count on the row, and only the
completion of the attempt moves the count. A run that is lost in between leaves an attempt that is
not counted, and every later run on the row collides with it. The number is drawn outside the
`try` of a run, so the collision also ends the sweep the run belongs to.

Results:
 1. `PayoutWorld.orderly`: nothing is lost or refused between an attempt and its completion, the
    runs on one row follow one another, and nobody settles or reopens the row behind their back.
 2. `PayoutWorld.Tracked`: the attempts of a row are counted, but for the one at work.
 3. `reconciliation_progresses`: in an orderly run the next number of a row is free unless an
    attempt is at work on it, and every statement takes a sweep on towards its next row.
 4. `crashed_run_blocks`: a run that crashed blocks its row and the rows after it in every sweep.
-/

namespace BebaSacco

open Txn Process WithdrawalLemmas SagaLemmas

/-! ## 1. The condition and the claim -/

/-- The row that the run of the point is about, from its claim on. -/
def PayoutTask.holds : PayoutTask → Option Nat
  | .claim _ => none
  | t => t.run.map (·.mpesaTransactionId)

/-- The row that the point is about to number an attempt for. -/
def PayoutTask.numbering : PayoutTask → Option Nat
  | .readClaimed run => some run.mpesaTransactionId
  | .createAttempt run _ => some run.mpesaTransactionId
  | _ => none

/-- What the point of a run throws leaves the run, and its sweep. -/
def PayoutTask.uncaught : PayoutTask → Bool
  | .claim _ => true
  | .readClaimed _ => true
  | .createAttempt _ _ => true
  | .auditStarted _ => true
  | .completeAttempt _ _ after => after = .leave
  | .scheduleAttempt _ _ after => after = .leave
  | _ => false

/-- So does a refused statement, and an attempt or the rest of a sweep hangs on it. -/
def PayoutTask.exposed (t : PayoutTask) : Bool :=
  t.uncaught && t.run.any fun run => t.numbered.isSome || !run.rest.isEmpty

/-- The row that the point settles on the word of an officer. -/
def PayoutTask.handled : PayoutTask → Option Nat
  | .completeByHand id _ _ _ => some id
  | .reverseByHand id _ _ _ _ => some id
  | _ => none

/-- No process is at a point that `p` tells to be about the row. -/
def PayoutWorld.free (w : PayoutWorld) (p : PayoutTask → Option Nat) (id : Nat) : Bool :=
  w.tasks.all (·.all fun u => p u != some id)

/-- No run is lost with its attempt, and the database refuses none of its statements outside the
`try`; the runs on a row do not overlap, no officer settles the row just before its attempt is
numbered, and a row that is flagged is not settled. -/
def PayoutWorld.orderly (w : PayoutWorld) : PayoutEvent → Bool
  | .start _ => true
  | .crash i => (w.task i).all fun t => t.numbered.isNone
  | .advance i input => w.flagsWaiting (.advance i input) &&
      (w.task i).all fun t => !(input.down && t.exposed) &&
        (t.handled.all fun id => w.free PayoutTask.numbering id) &&
        match t with
        | .claim run => w.free PayoutTask.holds run.mpesaTransactionId
        | _ => true

def PayoutDesk.keys (d : PayoutDesk) : List (Nat × Nat) := d.attempts.map (·.key)

/-- A later run is never blocked, and a sweep never stops short. -/
structure PayoutWorld.Progresses (config : ReconConfig) (w : PayoutWorld) : Prop where
  numbers : ∀ (id : Nat) (m : MpesaTransaction), w.state.db.mpesaTransactions[id]? = some m →
    m.unsettled = true →
    (id, m.reconciliationAttemptCount + 1) ∉ w.state.keys ∨
      ∃ i t a, w.At i t ∧ t.numbered = some a ∧ a.run.mpesaTransactionId = id
  sweeps : ∀ (i : Nat) (input : PayoutInput) (t : PayoutTask) (run : ReconRun) (next : PayoutTask),
    w.orderly (.advance i input) = true → w.At i t → t.run = some run → run.finish = some next →
    ∃ u, World.At ((payouts config).step w (.advance i input)) i u ∧
      ((u.run = some run ∧ u.rank < t.rank) ∨ u = next)

/-- The unique columns of the M-Pesa rows. -/
def Db.MpesaUnique (db : Db) : Prop := ∀ id m, db.mpesaTransactions[id]? = some m → db.Apart id m

/-- What a point about the row `id`, which is `m`, knows of its attempts. -/
structure PayoutTask.TracksRow (d : PayoutDesk) (t : PayoutTask) (id : Nat)
    (m : MpesaTransaction) : Prop where
  numbering : t.numbering = some id → ∀ n, (id, n) ∈ d.keys → n ≤ m.reconciliationAttemptCount
  read : ∀ run claimed, t = .createAttempt run claimed →
    claimed.reconciliationAttemptCount = m.reconciliationAttemptCount
  numbered : ∀ a, t.numbered = some a → a.attemptId < d.attempts.length ∧
    (a.claimed.reconciliationAttemptCount = m.reconciliationAttemptCount ∨
      a.number = m.reconciliationAttemptCount)
  completed : ∀ a, t.completed = some a →
    a.attemptId < d.attempts.length ∧ a.number = m.reconciliationAttemptCount

def PayoutTask.Tracks (d : PayoutDesk) (t : PayoutTask) : Prop :=
  ∀ id, t.holds = some id → ∃ m, d.db.mpesaTransactions[id]? = some m ∧ t.TracksRow d id m

/-- The attempts of a row that waits are counted, but for the one at work; and one run at most is
about a row. -/
structure PayoutWorld.Tracked (w : PayoutWorld) : Prop where
  unique : w.state.db.MpesaUnique
  known : ∀ k ∈ w.state.keys, k.1 < w.state.db.mpesaTransactions.length
  counted : ∀ id m, w.state.db.mpesaTransactions[id]? = some m → m.unsettled = true →
    ∀ n, (id, n) ∈ w.state.keys → n ≤ m.reconciliationAttemptCount ∨
      (n = m.reconciliationAttemptCount + 1 ∧
        ∃ i t a, w.At i t ∧ t.numbered = some a ∧ a.run.mpesaTransactionId = id ∧
          a.claimed.reconciliationAttemptCount = m.reconciliationAttemptCount)
  alone : ∀ i j t u id, w.At i t → w.At j u → t.holds = some id → u.holds = some id → i = j
  tasks : ∀ i t, w.At i t → t.Tracks w.state

/-! ## 2. Where a point leads within its run -/

namespace ReconLemmas

theorem completed_run {t : PayoutTask} {a : ReconAttempt} (h : t.completed = some a) :
    t.run = some a.run ∧ t.numbered = none ∧ t.uncaught = false ∧ t.rank = 3 := by
  cases t with
  | raiseOperationalAlert attempt =>
    cases h
    exact ⟨rfl, rfl, rfl, rfl⟩
  | auditOutcome attempt =>
    cases h
    exact ⟨rfl, rfl, rfl, rfl⟩
  | _ => cases h

/-- A point that is in a run is at its claim, or about its row. -/
theorem holds_of_run {t : PayoutTask} {run : ReconRun} (h : t.run = some run) :
    t = .claim run ∨ t.holds = some run.mpesaTransactionId := by
  cases t with
  | claim =>
    cases h
    exact .inl rfl
  | _ => exact .inr (congrArg (Option.map ReconRun.mpesaTransactionId) h)

theorem holds_of_numbered {t : PayoutTask} {a : ReconAttempt} (h : t.numbered = some a) :
    t.holds = some a.run.mpesaTransactionId := by
  rcases holds_of_run (run_of_numbered h) with rfl | hholds
  · cases h
  · exact hholds

theorem holds_of_completed {t : PayoutTask} {a : ReconAttempt} (h : t.completed = some a) :
    t.holds = some a.run.mpesaTransactionId := by
  rcases holds_of_run (completed_run h).1 with rfl | hholds
  · cases h
  · exact hholds

theorem run_of_holds {t : PayoutTask} {id : Nat} (h : t.holds = some id) :
    ∃ run, t.run = some run ∧ run.mpesaTransactionId = id := by
  cases t with
  | claim => cases h
  | _ => exact Option.map_eq_some_iff.mp h

/-- A point about a row is about to number an attempt, has numbered it, or has completed it. -/
theorem holds_cases {t : PayoutTask} {id : Nat} (h : t.holds = some id) :
    t.numbering = some id ∨ (∃ a, t.numbered = some a ∧ a.run.mpesaTransactionId = id) ∨
      ∃ a, t.completed = some a ∧ a.run.mpesaTransactionId = id := by
  obtain ⟨run, hrun, rfl⟩ := run_of_holds h
  cases hn : t.numbered with
  | some a =>
    cases (run_of_numbered hn).symm.trans hrun
    exact .inr (.inl ⟨a, rfl, rfl⟩)
  | none =>
    cases t with
    | claim => cases h
    | readClaimed => exact .inl h
    | createAttempt => exact .inl h
    | raiseOperationalAlert attempt => exact .inr (.inr ⟨attempt, rfl, Option.some.inj h⟩)
    | auditOutcome attempt => exact .inr (.inr ⟨attempt, rfl, Option.some.inj h⟩)
    | _ =>
      unfold PayoutTask.run at hrun
      simp only [hn, PayoutTask.completed, Option.or_none, Option.map_none] at hrun
      cases hrun

theorem numbering_holds {t : PayoutTask} {id : Nat} (h : t.numbering = some id) :
    t.holds = some id ∧ t.numbered = none ∧ t.completed = none := by
  cases t with
  | readClaimed => exact ⟨h, rfl, rfl⟩
  | createAttempt => exact ⟨h, rfl, rfl⟩
  | _ => cases h

theorem numbered_of_caller {t : PayoutTask} {caller : StatusCaller} (h : t.caller = some caller) :
    t.numbered = caller.attempt ∧ 6 < t.rank := by
  cases t with
  | refreshMwaloniB2cStatus | getStatus | applyMwaloniStatus | markMwaloniMismatchReconciliation
  | completeMwaloniTransaction | noteMwaloniPending | failMwaloniTransaction =>
    cases h
    exact ⟨rfl, Nat.le_of_ble_eq_true rfl⟩
  | _ => cases h

/-- A statement of a run stays in it and comes closer to its end, or the run is over. -/
theorem leads_run {d : PayoutDesk} {t u : PayoutTask} {run : ReconRun} (h : Leads d t u)
    (hrun : t.run = some run) :
    (u.run = some run ∧ u.rank < t.rank) ∨ run.finish = some u := by
  cases h with
  | query | apply | mismatch | success | pending | failure =>
    exact .inl ⟨hrun, Nat.le_of_ble_eq_true rfl⟩
  | resume ht hu =>
    obtain ⟨hnumbered, hrank⟩ := numbered_of_caller ht
    rcases run_of_caller ht with ⟨a, rfl⟩ | hnone
    · cases hu
      cases (run_of_numbered hnumbered).symm.trans hrun
      exact .inl ⟨rfl, hrank⟩
    · cases hnone.symm.trans hrun
  | claimed =>
    cases hrun
    exact .inl ⟨rfl, Nat.le_of_ble_eq_true rfl⟩
  | skipped hu =>
    cases hrun
    exact .inr hu
  | read =>
    cases hrun
    exact .inl ⟨rfl, Nat.le_of_ble_eq_true rfl⟩
  | numbered =>
    cases hrun
    exact .inl ⟨rfl, Nat.le_of_ble_eq_true rfl⟩
  | within ht hu _ hrank =>
    cases (run_of_numbered ht).symm.trans hrun
    exact .inl ⟨run_of_numbered hu, hrank⟩
  | @scheduled attempt _ after _ hu =>
    cases hrun
    cases after with
    | alert =>
      cases hu
      exact .inl ⟨rfl, Nat.le_of_ble_eq_true rfl⟩
    | audit =>
      cases hu
      exact .inl ⟨rfl, Nat.le_of_ble_eq_true rfl⟩
    | leave => exact .inr hu
  | finished ht hu =>
    cases (completed_run ht).1.symm.trans hrun
    exact .inr hu
  | _ => cases hrun

/-- A statement between an attempt and its completion leads to another one. -/
theorem leads_numbered {d : PayoutDesk} {t u : PayoutTask} {a : ReconAttempt} (h : Leads d t u)
    (ha : t.numbered = some a) (hrecords : t.records = false) : u.numbered = some a := by
  cases h with
  | query | apply | mismatch | success | pending | failure => exact ha
  | resume ht hu =>
    obtain ⟨hnumbered, -⟩ := numbered_of_caller ht
    rcases run_of_caller ht with ⟨b, rfl⟩ | hnone
    · cases hu
      exact hnumbered.symm.trans ha
    · cases (numbered_of_run hnone).symm.trans ha
  | within ht hu =>
    cases ht.symm.trans ha
    exact hu
  | scheduled => cases hrecords
  | finished ht => cases (completed_run ht).2.1.symm.trans ha
  | _ => cases ha

/-- A point whose `catch` is in its run goes on there. -/
theorem caught_run {config : ReconConfig} {now : Int} {message : String} {t : PayoutTask}
    {run : ReconRun} (hrun : t.run = some run) (hcaught : t.uncaught = false) :
    ∃ a, (t.numbered = some a ∨ t.completed = some a) ∧
      t.caught config now message = some (ReconAttempt.unavailable config a now) ∧ 2 < t.rank := by
  have hcaller : ∀ {caller}, t.caller = some caller →
      t.caught config now message = caller.caught config now message →
      ∃ a, (t.numbered = some a ∨ t.completed = some a) ∧
        t.caught config now message = some (ReconAttempt.unavailable config a now) ∧
        2 < t.rank := by
    intro caller ht hc
    obtain ⟨hnumbered, hrank⟩ := numbered_of_caller ht
    rcases run_of_caller ht with ⟨a, rfl⟩ | hnone
    · exact ⟨a, .inl hnumbered, hc, Nat.lt_trans (Nat.le_of_ble_eq_true rfl) hrank⟩
    · cases hnone.symm.trans hrun
  cases t with
  | refreshMwaloniB2cStatus | getStatus | applyMwaloniStatus | markMwaloniMismatchReconciliation
  | completeMwaloniTransaction | noteMwaloniPending | failMwaloniTransaction =>
    exact hcaller rfl rfl
  | auditQueried a => exact ⟨a, .inl rfl, rfl, Nat.le_of_ble_eq_true rfl⟩
  | readOutcome a => exact ⟨a, .inl rfl, rfl, Nat.le_of_ble_eq_true rfl⟩
  | raiseOperationalAlert a => exact ⟨a, .inr rfl, rfl, Nat.le_of_ble_eq_true rfl⟩
  | auditOutcome a => exact ⟨a, .inr rfl, rfl, Nat.le_of_ble_eq_true rfl⟩
  | completeAttempt a outcome after =>
    cases after with
    | alert => exact ⟨a, .inl rfl, rfl, Nat.le_of_ble_eq_true rfl⟩
    | audit => exact ⟨a, .inl rfl, rfl, Nat.le_of_ble_eq_true rfl⟩
    | leave => cases hcaught
  | scheduleAttempt a result after =>
    cases after with
    | alert => exact ⟨a, .inl rfl, rfl, Nat.le_of_ble_eq_true rfl⟩
    | audit => exact ⟨a, .inl rfl, rfl, Nat.le_of_ble_eq_true rfl⟩
    | leave => cases hcaught
  | claim | readClaimed | createAttempt | auditStarted => cases hcaught
  | _ => cases hrun

/-! ### Nothing refuses the points outside the `try` -/

theorem apart_same {db : Db} {id : Nat} {m m' : MpesaTransaction} (h : db.Apart id m)
    (htransaction : m'.transactionId = m.transactionId)
    (hreceipt : m'.mpesaReceiptNumber = m.mpesaReceiptNumber) : db.Apart id m' := by
  unfold Db.Apart
  rw [htransaction, hreceipt]
  exact h

/-- A claim that keeps the unique columns goes through. -/
theorem claimMpesa_yields {id : Nat} {c : MpesaTransaction → Bool}
    {f : MpesaTransaction → MpesaTransaction} {db : Db} (hunique : db.MpesaUnique)
    (htransaction : ∀ m, (f m).transactionId = m.transactionId)
    (hreceipt : ∀ m, (f m).mpesaReceiptNumber = m.mpesaReceiptNumber) :
    ∃ b db', Yields (claimMpesa id c f) db b db' := by
  cases hrow : db.mpesaTransactions[id]?.filter c with
  | none =>
    refine ⟨false, db, ?_⟩
    simp only [claimMpesa, yields_bind, yields_get]
    refine ⟨_, _, ⟨rfl, rfl⟩, ?_⟩
    rw [hrow]
    exact yields_pure.mpr ⟨rfl, rfl⟩
  | some m =>
    have hm := (Option.filter_eq_some_iff.mp hrow).1
    refine ⟨true, db.updateMpesa id f, ?_⟩
    simp only [claimMpesa, yields_bind, yields_get]
    refine ⟨_, _, ⟨rfl, rfl⟩, ?_⟩
    simp only [hrow, yields_bind, yields_pure]
    exact ⟨(), _, updateMpesa_yields hm (apart_same (hunique id m hm) (htransaction m) (hreceipt m)),
      trivial, rfl⟩

theorem claim_yields {config : ReconConfig} {run : ReconRun} {now : Int} {d : PayoutDesk}
    (hunique : d.db.MpesaUnique) : ∃ t' d', Yields (claim config run now) d t' d' := by
  obtain ⟨b, db, hclaim⟩ := @claimMpesa_yields run.mpesaTransactionId
    (fun m => m.unsettled && m.lockable config now)
    (fun m => { m with reconciliationLockedAt := some now }) d.db hunique (fun _ => rfl)
    fun _ => rfl
  simp only [claim, yields_bind, yields_onTables, yields_pure]
  exact ⟨_, _, b, _, ⟨db, hclaim, rfl⟩, rfl, rfl⟩

theorem createAttempt_yields {run : ReconRun} {claimed : MpesaTransaction} {now : Int}
    {d : PayoutDesk}
    (hfresh : (run.mpesaTransactionId, claimed.reconciliationAttemptCount + 1) ∉ d.keys) :
    ∃ t' d', Yields (createAttempt run claimed now) d t' d' := by
  simp only [createAttempt, insertAttempt, yields_bind, yields_get, yields_ensure, yields_modify,
    yields_pure]
  refine ⟨_, _, _, _, ⟨_, _, ⟨rfl, rfl⟩, (), _, ⟨fun a ha hid hn => ?_, rfl⟩, (), _, rfl, rfl, rfl⟩,
    rfl, rfl⟩
  exact hfresh (List.mem_map.mpr ⟨a, ha, Prod.ext hid hn⟩)

theorem scheduleAttempt_yields {attempt : ReconAttempt} {result : AttemptResult}
    {after : AfterCompletion} {now : Int} {m : MpesaTransaction} {d : PayoutDesk}
    (hunique : d.db.MpesaUnique)
    (hm : d.db.mpesaTransactions[attempt.run.mpesaTransactionId]? = some m)
    (hattempt : attempt.attemptId < d.attempts.length) :
    ∃ t' d', Yields (scheduleAttempt attempt result after now) d t' d' := by
  have hupdate := @updateMpesa_yields attempt.run.mpesaTransactionId (attempt.release result) m d.db
    hm (apart_same (hunique _ m hm) rfl rfl)
  simp only [scheduleAttempt, updateAttempt, yields_bind, yields_onTables, yields_get,
    yields_required, yields_modify, yields_pure]
  exact ⟨_, _, (), _, ⟨_, hupdate, rfl⟩, (), _, ⟨_, _, ⟨rfl, rfl⟩, _, _,
    ⟨List.getElem?_eq_getElem hattempt, rfl⟩, rfl⟩, rfl, rfl⟩

/-- A point outside the `try` does its statement. -/
theorem uncaught_yields {config : ReconConfig} {input : PayoutInput} {t : PayoutTask}
    {d : PayoutDesk} (hunique : d.db.MpesaUnique) (ht : t.Tracks d) (huncaught : t.uncaught = true) :
    ∃ t' d', Yields (t.statement config input) d t' d' := by
  have hrow : ∀ id, t.holds = some id → ∃ m, d.db.mpesaTransactions[id]? = some m := fun id h => by
    obtain ⟨m, hm, -⟩ := ht id h
    exact ⟨m, hm⟩
  cases t with
  | claim => exact claim_yields hunique
  | readClaimed run =>
    obtain ⟨m, hm⟩ := hrow run.mpesaTransactionId rfl
    simp only [PayoutTask.statement, readClaimed, yields_bind, yields_get, yields_required,
      yields_pure]
    exact ⟨_, _, _, _, ⟨rfl, rfl⟩, m, _, ⟨hm, rfl⟩, rfl, rfl⟩
  | createAttempt run claimed =>
    obtain ⟨m, -, htracks⟩ := ht run.mpesaTransactionId rfl
    refine createAttempt_yields fun hmem => ?_
    have hle := htracks.numbering rfl _ hmem
    rw [htracks.read run claimed rfl] at hle
    exact Nat.not_succ_le_self _ hle
  | auditStarted attempt =>
    simp only [PayoutTask.statement, auditStarted]
    split
    · exact ⟨_, _, yields_pure.mpr ⟨rfl, rfl⟩⟩
    · exact ⟨_, _, yields_pure.mpr ⟨rfl, rfl⟩⟩
  | completeAttempt attempt outcome after =>
    obtain ⟨m, hm⟩ := hrow attempt.run.mpesaTransactionId rfl
    simp only [PayoutTask.statement, completeAttempt, yields_bind, yields_get, yields_required,
      yields_pure]
    exact ⟨_, _, _, _, ⟨rfl, rfl⟩, m, _, ⟨hm, rfl⟩, rfl, rfl⟩
  | scheduleAttempt attempt result after =>
    obtain ⟨m, hm, htracks⟩ := ht attempt.run.mpesaTransactionId rfl
    exact scheduleAttempt_yields hunique hm (htracks.numbered attempt rfl).1
  | _ => cases huncaught

/-! ### What a statement does to the counts and to the attempts -/

theorem unique_congr {db db' : Db} (h : db'.mpesaTransactions = db.mpesaTransactions)
    (hunique : db.MpesaUnique) : db'.MpesaUnique := by
  unfold Db.MpesaUnique Db.Apart
  rw [h]
  exact hunique

theorem unique_modify {db db' : Db} {id : Nat} {m : MpesaTransaction}
    {f : MpesaTransaction → MpesaTransaction} (hunique : db.MpesaUnique)
    (hrows : db'.mpesaTransactions = db.mpesaTransactions.modify id f)
    (hm : db.mpesaTransactions[id]? = some m) (hapart : db.Apart id (f m)) : db'.MpesaUnique := by
  intro j mj hj k mk hk hne
  rw [hrows] at hj hk
  obtain ⟨oj, hoj, rfl⟩ := Table.getElem?_modify_some hj
  obtain ⟨ok, hok, rfl⟩ := Table.getElem?_modify_some hk
  by_cases hidj : id = j
  · subst hidj
    cases hm.symm.trans hoj
    rw [if_pos rfl, if_neg fun he => hne he.symm]
    exact hapart k ok hok hne
  · rw [if_neg hidj]
    by_cases hidk : id = k
    · subst hidk
      cases hm.symm.trans hok
      rw [if_pos rfl]
      obtain ⟨htransaction, hreceipt⟩ := hapart j oj hoj fun he => hidj he.symm
      exact ⟨fun hn he => htransaction (he ▸ hn) he.symm, fun hn he => hreceipt (he ▸ hn) he.symm⟩
    · rw [if_neg hidk]
      exact hunique j oj hoj k ok hok hne

theorem unique_create {db db' : Db} {payout : MobilePayout} {now : Int} (hunique : db.MpesaUnique)
    (hrows : db'.mpesaTransactions = db.mpesaTransactions ++ [payout.row now])
    (hnew : ∀ r ∈ db.mpesaTransactions, clash payout.sourceTransactionId r.transactionId = false) :
    db'.MpesaUnique := by
  have hother : ∀ r ∈ db.mpesaTransactions, payout.sourceTransactionId ≠ none →
      r.transactionId ≠ payout.sourceTransactionId := by
    intro r hr hn he
    have hclash := hnew r hr
    rw [he] at hclash
    cases hs : payout.sourceTransactionId with
    | none => exact hn hs
    | some s => simp [hs, clash] at hclash
  intro j mj hj k mk hk hne
  rw [hrows] at hj hk
  rcases Table.getElem?_append_one_some hj with hj | ⟨rfl, rfl⟩
  · rcases Table.getElem?_append_one_some hk with hk | ⟨rfl, rfl⟩
    · exact hunique j mj hj k mk hk hne
    · exact ⟨fun hn he => hother mj (List.mem_of_getElem? hj)
        (fun hnone => hn (he.symm.trans hnone)) he.symm, fun hn he => hn he.symm⟩
  · rcases Table.getElem?_append_one_some hk with hk | ⟨rfl, rfl⟩
    · exact ⟨hother mk (List.mem_of_getElem? hk), fun hn => absurd rfl hn⟩
    · exact absurd rfl hne

/-- The row `m` is still there: the end of an attempt sets its count, and a flag opens it again. -/
def RowKept (t : PayoutTask) (d' : PayoutDesk) (id : Nat) (m : MpesaTransaction) : Prop :=
  ∃ m', d'.db.mpesaTransactions[id]? = some m' ∧
      (m'.reconciliationAttemptCount = m.reconciliationAttemptCount ∨
        ∃ a result after, t = .scheduleAttempt a result after ∧ a.run.mpesaTransactionId = id ∧
          m'.reconciliationAttemptCount = a.number) ∧
      (m'.unsettled = true → m.unsettled = true ∨ t.flags.map (·.id) = some id)

/-- What a statement does to the rows, their counts and the attempts. -/
structure ReconEffect (d : PayoutDesk) (t : PayoutTask) (d' : PayoutDesk) : Prop where
  unique : d.db.MpesaUnique → d'.db.MpesaUnique
  rows : d.db.mpesaTransactions.length ≤ d'.db.mpesaTransactions.length
  attempts : d.attempts.length ≤ d'.attempts.length
  row : ∀ id m, d.db.mpesaTransactions[id]? = some m → RowKept t d' id m
  key : ∀ k ∈ d'.keys, k ∈ d.keys ∨
    (∃ run claimed, t = .createAttempt run claimed ∧ d' ≠ d ∧
      k = (run.mpesaTransactionId, claimed.reconciliationAttemptCount + 1)) ∨
    (t.handled = some k.1 ∧ ∃ m', d'.db.mpesaTransactions[k.1]? = some m' ∧ m'.unsettled = false)
  grown : ∀ run claimed, t = .createAttempt run claimed → d.attempts.length < d'.attempts.length
  scheduled : ∀ a result after, t = .scheduleAttempt a result after →
    ∀ m', d'.db.mpesaTransactions[a.run.mpesaTransactionId]? = some m' →
      m'.reconciliationAttemptCount = a.number

theorem row_same {d d' : PayoutDesk} {t : PayoutTask}
    (h : ∀ (id : Nat) (m : MpesaTransaction), d.db.mpesaTransactions[id]? = some m →
      d'.db.mpesaTransactions[id]? = some m)
    (id : Nat) (m : MpesaTransaction) (hm : d.db.mpesaTransactions[id]? = some m) : RowKept t d' id m :=
  ⟨m, h id m hm, .inl rfl, .inl⟩

theorem row_modify {d d' : PayoutDesk} {t : PayoutTask} {j : Nat} {mj : MpesaTransaction}
    {f : MpesaTransaction → MpesaTransaction}
    (hrows : d'.db.mpesaTransactions = d.db.mpesaTransactions.modify j f)
    (hmj : d.db.mpesaTransactions[j]? = some mj)
    (hcount : (f mj).reconciliationAttemptCount = mj.reconciliationAttemptCount)
    (hopen : (f mj).unsettled = true → mj.unsettled = true ∨ t.flags.map (·.id) = some j)
    (id : Nat) (m : MpesaTransaction) (hm : d.db.mpesaTransactions[id]? = some m) :
    RowKept t d' id m := by
  rw [RowKept, hrows]
  by_cases hj : j = id
  · subst hj
    cases hmj.symm.trans hm
    exact ⟨f mj, Table.getElem?_modify_self hm, .inl hcount, hopen⟩
  · exact ⟨m, by rw [Table.getElem?_modify_other hj]; exact hm, .inl rfl, .inl⟩

theorem move_unsettled {t : PayoutTask} {id : Nat} {m m' : MpesaTransaction}
    (h : StatusMove t id m m') (hopen : m'.unsettled = true) :
    m.unsettled = true ∨ t.flags.map (·.id) = some id := by
  cases h with
  | kept h =>
    unfold MpesaTransaction.unsettled at hopen ⊢
    exact .inl (h ▸ hopen)
  | waits hm => exact .inl hm
  | completed hm => exact .inl hm
  | failed hm => exact .inl hm
  | flagged ht hid =>
    subst ht
    exact .inr (congrArg some hid)

theorem handled_of_byHand {t : PayoutTask} {id : Nat} (h : t.byHand id = true) :
    t.handled = some id := by
  cases t with
  | completeByHand => exact congrArg some (beq_iff_eq.mp h)
  | reverseByHand => exact congrArg some (beq_iff_eq.mp h)
  | _ => cases h

theorem effect_of_same {d d' : PayoutDesk} {t : PayoutTask} (ht : t.records = false)
    (hrows : d'.db.mpesaTransactions = d.db.mpesaTransactions) (hattempts : d'.attempts = d.attempts) :
    ReconEffect d t d' where
  unique := unique_congr hrows
  rows := Nat.le_of_eq (congrArg List.length hrows.symm)
  attempts := Nat.le_of_eq (congrArg List.length hattempts.symm)
  row := row_same fun id m hm => hrows ▸ hm
  key k hk := by
    unfold PayoutDesk.keys at hk ⊢
    exact .inl (hattempts ▸ hk)
  grown run claimed h := by
    subst h
    cases ht
  scheduled a result after h := by
    subst h
    cases ht

theorem effect_of_edit {d d' : PayoutDesk} {t : PayoutTask} {id : Nat} {m : MpesaTransaction}
    {f : MpesaTransaction → MpesaTransaction} (ht : t.records = false)
    (hrows : d'.db.mpesaTransactions = d.db.mpesaTransactions.modify id f)
    (hattempts : d'.attempts = d.attempts)
    (hm : d.db.mpesaTransactions[id]? = some m) (hapart : d.db.Apart id (f m))
    (hcount : (f m).reconciliationAttemptCount = m.reconciliationAttemptCount)
    (hopen : (f m).unsettled = true → m.unsettled = true ∨ t.flags.map (·.id) = some id) :
    ReconEffect d t d' where
  unique hunique := unique_modify hunique hrows hm hapart
  rows := by rw [hrows, List.length_modify]
  attempts := Nat.le_of_eq (congrArg List.length hattempts.symm)
  row := row_modify hrows hm hcount hopen
  key k hk := by
    unfold PayoutDesk.keys at hk ⊢
    exact .inl (hattempts ▸ hk)
  grown run claimed h := by
    subst h
    cases ht
  scheduled a result after h := by
    subst h
    cases ht

/-- An officer settles the row and leaves an attempt that the row does not count. -/
theorem effect_of_hand {d d' : PayoutDesk} {t : PayoutTask} {id n : Nat} {m : MpesaTransaction}
    {f : MpesaTransaction → MpesaTransaction} (ht : t.handled = some id)
    (hrows : d'.db.mpesaTransactions = d.db.mpesaTransactions.modify id f)
    (hkeys : d'.keys = d.keys ++ [(id, n)])
    (hm : d.db.mpesaTransactions[id]? = some m) (hapart : d.db.Apart id (f m))
    (hcount : (f m).reconciliationAttemptCount = m.reconciliationAttemptCount)
    (hsettled : (f m).unsettled = false) : ReconEffect d t d' where
  unique hunique := unique_modify hunique hrows hm hapart
  rows := by rw [hrows, List.length_modify]
  attempts := by
    have hlength := congrArg List.length hkeys
    simp only [PayoutDesk.keys, List.length_map, List.length_append, List.length_singleton] at hlength
    rw [hlength]
    exact Nat.le_succ _
  row := row_modify hrows hm hcount fun h => by cases hsettled.symm.trans h
  key k hk := by
    rw [hkeys] at hk
    rcases List.mem_append.mp hk with hk | hk
    · exact .inl hk
    · obtain rfl := List.mem_singleton.mp hk
      exact .inr (.inr ⟨ht, f m, hrows ▸ Table.getElem?_modify_self hm, hsettled⟩)
  grown run claimed h := by
    subst h
    cases ht
  scheduled a result after h := by
    subst h
    cases ht

theorem records_of_settles {t : PayoutTask} {id : Nat} (h : t.settles id = true) :
    t.records = false := by
  cases t with
  | createAttempt => cases h
  | scheduleAttempt => cases h
  | _ => rfl

theorem unsettled_of_failed {m : MpesaTransaction} (h : m.status = .failed) :
    m.unsettled = false := by
  unfold MpesaTransaction.unsettled
  rw [h]
  rfl

theorem recon_write {d d' : PayoutDesk} {t : PayoutTask} (h : PayoutWrite d t d') :
    ReconEffect d t d' := by
  cases h with
  | nothing ht => exact effect_of_same ht rfl rfl
  | withdraw hpost => exact effect_of_same rfl (withdrew_of_posting hpost).2.1 rfl
  | @create payout now hunique =>
    refine ⟨fun h => unique_create h rfl hunique, ?_, Nat.le_refl _,
      row_same fun _ _ hm => Table.getElem?_append_one_old hm, fun _ hk => .inl hk, ?_, ?_⟩
    · show _ ≤ (d.db.mpesaTransactions ++ [payout.row now]).length
      rw [List.length_append]
      exact Nat.le_add_right _ _
    · intro _ _ h
      cases h
    · intro _ _ _ h
      cases h
  | claimSend hm _ _ hapart =>
    exact effect_of_edit rfl rfl rfl hm (apart_same hapart rfl rfl) rfl .inl
  | send => exact effect_of_same rfl rfl rfl
  | edit hm hapart hf =>
    exact effect_of_edit hf.point rfl rfl hm hapart (hf.count _) (move_unsettled hf.status)
  | reverse hm hopen hs _ hattempts hreversed hapart hf =>
    obtain ⟨_, _, _, _, _, _, _, -, -, -, -, -, -, -, -, rfl⟩ := hreversed
    rcases hattempts with rfl | ⟨hhand, n, hkeys⟩
    · exact effect_of_edit (records_of_settles hs) rfl rfl hm hapart (hf.count _) fun _ => .inl hopen
    · exact effect_of_hand (handled_of_byHand hhand) rfl hkeys hm hapart (hf.count _)
        (unsettled_of_failed (hf.status _))
  | completeByHand hm hapart hf hattempts hsettled =>
    obtain ⟨n, hkeys⟩ := hattempts
    exact effect_of_hand rfl rfl hkeys hm hapart (hf.count _) (hsettled _)
  -- a new attempt is the only write that brings in a key of its own
  | @createAttempt run claimed now hfresh =>
    have hgrown : d.attempts.length < (d.attempts ++
        [newAttempt run.mpesaTransactionId claimed run.trigger run.actorId now]).length := by
      rw [List.length_append]
      exact Nat.lt_succ_self _
    refine ⟨id, Nat.le_refl _, Nat.le_of_lt hgrown, row_same fun _ _ hm => hm, fun k hk => ?_,
      fun _ _ _ => hgrown, ?_⟩
    · unfold PayoutDesk.keys at hk
      rw [List.map_append] at hk
      rcases List.mem_append.mp hk with hk | hk
      · exact .inl hk
      · refine .inr (.inl ⟨run, claimed, rfl, fun hsame => ?_, List.mem_singleton.mp hk⟩)
        exact Nat.ne_of_lt hgrown (congrArg (·.attempts.length) hsame).symm
    · intro _ _ _ h
      cases h
  -- closing an attempt keeps its key, and it says when the payout is looked at again
  | @schedule attempt result after now m hm hapart =>
    refine ⟨fun hunique => unique_modify hunique rfl hm (apart_same hapart rfl rfl), ?_, ?_, ?_, ?_,
      ?_, ?_⟩
    · exact Nat.le_of_eq (List.length_modify _ _ _).symm
    · exact Nat.le_of_eq (List.length_modify _ _ _).symm
    · intro id mid hmid
      by_cases hid : attempt.run.mpesaTransactionId = id
      · subst hid
        exact ⟨_, Table.getElem?_modify_self hmid, .inr ⟨attempt, result, after, rfl, rfl, rfl⟩, .inl⟩
      · exact ⟨mid, (Table.getElem?_modify_other hid).trans hmid, .inl rfl, .inl⟩
    · have hkeys : (d.attempts.modify attempt.attemptId (attempt.close result now)).map (·.key) =
          d.attempts.map (·.key) := Table.map_modify_same fun _ => rfl
      exact fun k hk => .inl (show k ∈ d.attempts.map (·.key) from hkeys ▸ hk)
    · intro _ _ h
      cases h
    · intro a r after' h m' hm'
      cases h
      obtain ⟨mid, -, rfl⟩ := Table.getElem?_modify_some hm'
      rw [if_pos rfl]
      rfl

/-! ### Where a point about a row comes from -/

/-- A point with an attempt comes from another one, or the attempt is new. -/
theorem leads_from {d : PayoutDesk} {t u : PayoutTask} {a : ReconAttempt} (h : Leads d t u)
    (ha : u.numbered = some a) : (t.numbered = some a ∧ t.records = false) ∨
      (t = .createAttempt a.run a.claimed ∧ a.attemptId = d.attempts.length) := by
  cases h with
  | query | apply | mismatch | success | pending | failure => exact .inl ⟨ha, rfl⟩
  | @resume _ _ caller found ht hu =>
    rcases resume_cases hu with ⟨b, rfl⟩ | ⟨_, rfl⟩
    · cases ha
      cases caller with
      | reconcile =>
        cases hu
        refine .inl ⟨(numbered_of_caller ht).1, ?_⟩
        cases t with
        | createAttempt => cases ht
        | scheduleAttempt => cases ht
        | _ => rfl
      | timeout =>
        simp only [StatusCaller.resume] at hu
        split at hu
        · cases hu
        · cases hu
      | _ => cases hu
    · cases ha
  | numbered =>
    cases ha
    exact .inr ⟨rfl, rfl⟩
  | within ht hu hrecords =>
    cases hu.symm.trans ha
    exact .inl ⟨ht, hrecords⟩
  | skipped hu =>
    obtain ⟨_, rfl⟩ := finish_cases hu
    cases ha
  | finished _ hu =>
    obtain ⟨_, rfl⟩ := finish_cases hu
    cases ha
  | scheduled hu =>
    rcases resumeAfter_cases hu with rfl | rfl | ⟨_, rfl⟩ <;> cases ha
  | _ => cases ha

theorem leads_completed {d : PayoutDesk} {t u : PayoutTask} {a : ReconAttempt} (h : Leads d t u)
    (ha : u.completed = some a) : ∃ result after, t = .scheduleAttempt a result after := by
  cases h with
  | resume _ hu => rcases resume_cases hu with ⟨_, rfl⟩ | ⟨_, rfl⟩ <;> cases ha
  | skipped hu =>
    obtain ⟨_, rfl⟩ := finish_cases hu
    cases ha
  | finished _ hu =>
    obtain ⟨_, rfl⟩ := finish_cases hu
    cases ha
  | within _ hu => cases (completed_run ha).2.1.symm.trans hu
  | scheduled hu =>
    rcases resumeAfter_cases hu with rfl | rfl | ⟨_, rfl⟩
    · cases ha
      exact ⟨_, _, rfl⟩
    · cases ha
      exact ⟨_, _, rfl⟩
    · cases ha
  | _ => cases ha

theorem caught_unavailable {config : ReconConfig} {now : Int} {message : String} {t : PayoutTask}
    {a : ReconAttempt}
    (h : t.caught config now message = some (ReconAttempt.unavailable config a now)) :
    t.numbered = some a ∨ t.completed = some a := by
  have hcaller : ∀ {caller}, t.caller = some caller →
      caller.caught config now message = some (ReconAttempt.unavailable config a now) →
      t.numbered = some a ∨ t.completed = some a := by
    intro caller ht hc
    cases caller with
    | reconcile b =>
      cases hc
      exact .inl (numbered_of_caller ht).1
    | _ => cases hc
  cases t with
  | refreshMwaloniB2cStatus | getStatus | applyMwaloniStatus | markMwaloniMismatchReconciliation
  | completeMwaloniTransaction | noteMwaloniPending | failMwaloniTransaction =>
    exact hcaller rfl h
  | auditQueried | readOutcome =>
    cases h
    exact .inl rfl
  | raiseOperationalAlert | auditOutcome =>
    cases h
    exact .inr rfl
  | completeAttempt | scheduleAttempt =>
    simp only [PayoutTask.caught] at h
    split at h
    · cases h
    · cases h
      exact .inl rfl
  | _ => cases h

/-- A `catch` about a row comes from a point that had the attempt. -/
theorem caught_from {config : ReconConfig} {now : Int} {message : String} {t u : PayoutTask}
    {id : Nat} (h : t.caught config now message = some u) (hu : u.holds = some id) :
    ∃ a, (t.numbered = some a ∨ t.completed = some a) ∧ u.numbered = some a ∧
      a.run.mpesaTransactionId = id := by
  rcases caught_cases h with ⟨_, _, rfl⟩ | ⟨a, rfl⟩
  · cases hu
  · exact ⟨a, caught_unavailable h, rfl, Option.some.inj hu⟩

theorem caught_of_uncaught {config : ReconConfig} {now : Int} {message : String} {t : PayoutTask}
    (h : t.caught config now message = none) (hrun : t.run ≠ none) : t.uncaught = true := by
  obtain ⟨run, hrun⟩ := Option.ne_none_iff_exists'.mp hrun
  cases huncaught : t.uncaught with
  | true => rfl
  | false =>
    obtain ⟨a, -, hcaught, -⟩ := @caught_run config now message t run hrun huncaught
    cases h.symm.trans hcaught

theorem uncaught_none {config : ReconConfig} {now : Int} {message : String} {t : PayoutTask}
    (h : t.uncaught = true) : t.caught config now message = none := by
  cases t with
  | claim | readClaimed | createAttempt | auditStarted => rfl
  | completeAttempt _ _ after =>
    cases after with
    | leave => rfl
    | _ => cases h
  | scheduleAttempt _ _ after =>
    cases after with
    | leave => rfl
    | _ => cases h
  | _ => cases h

/-- A point with an attempt keeps it in its `catch`. -/
theorem caught_numbered {config : ReconConfig} {now : Int} {message : String} {t u : PayoutTask}
    {a : ReconAttempt} (ha : t.numbered = some a) (h : t.caught config now message = some u) :
    u.numbered = some a := by
  cases huncaught : t.uncaught with
  | true => cases (uncaught_none huncaught).symm.trans h
  | false =>
    obtain ⟨b, hb, hcaught, -⟩ :=
      @caught_run config now message t a.run (run_of_numbered ha) huncaught
    cases hcaught.symm.trans h
    rcases hb with hb | hb
    · exact hb.symm.trans ha
    · cases (completed_run hb).2.1.symm.trans ha

/-! ### One statement -/

/-- What the condition says about the statement of a process. -/
structure Orderly (w : PayoutWorld) (input : PayoutInput) (t : PayoutTask) : Prop where
  flags : ∀ id m, t.flags.map (·.id) = some id → w.state.db.mpesaTransactions[id]? = some m →
    m.unsettled = true
  exposed : input.down = true → t.exposed = false
  handled : ∀ id, t.handled = some id → ∀ j u, w.At j u → u.numbering ≠ some id
  claims : ∀ run, t = .claim run → ∀ j u, w.At j u → u.holds ≠ some run.mpesaTransactionId

theorem free_of {w : PayoutWorld} {p : PayoutTask → Option Nat} {id j : Nat} {u : PayoutTask}
    (h : w.free p id = true) (hu : w.At j u) : p u ≠ some id := by
  have hother := List.all_eq_true.mp h _ (List.mem_of_getElem? hu)
  exact bne_iff_ne.mp hother

theorem orderly_advance {w : PayoutWorld} {i : Nat} {input : PayoutInput} {t : PayoutTask}
    (h : w.orderly (.advance i input) = true) (hat : w.At i t) : Orderly w input t := by
  have hflags := flags_advance (Bool.and_eq_true_iff.mp h).1 hat
  simp only [PayoutWorld.orderly, task_some.mpr hat, Option.all_some, Bool.and_eq_true] at h
  obtain ⟨-, ⟨hexposed, hhandled⟩, hclaims⟩ := h
  refine ⟨hflags, fun hdown => ?_, fun id hid j u hu => ?_, fun run hrun j u hu => ?_⟩
  · rw [hdown, Bool.true_and, Bool.not_eq_true'] at hexposed
    exact hexposed
  · rw [hid, Option.all_some] at hhandled
    exact free_of hhandled hu
  · subst hrun
    exact free_of hclaims hu

/-- A process about a row came to it by its claim, or was about it before. -/
theorem holds_next {config : ReconConfig} {input : PayoutInput} {t u : PayoutTask} {id : Nat}
    {d d' : PayoutDesk} (hy : Yields (t.next config input) d (some u) d')
    (hu : u.holds = some id) :
    t.holds = some id ∨ ∃ run, t = .claim run ∧ run.mpesaTransactionId = id := by
  rcases next_cases hy with ⟨-, hdoes⟩ | ⟨-, message, hcaught, -⟩
  · have hleads := hdoes.leads u rfl
    rcases holds_cases hu with hnumbering | ⟨a, ha, rfl⟩ | ⟨a, ha, rfl⟩
    · cases u with
      | readClaimed run =>
        obtain ⟨rfl, -⟩ := leads_comesFrom hleads
        exact .inr ⟨run, rfl, Option.some.inj hu⟩
      | createAttempt run m =>
        obtain ⟨rfl, -⟩ := leads_comesFrom hleads
        exact .inl hu
      | _ => cases hnumbering
    · rcases leads_from hleads ha with ⟨ht, -⟩ | ⟨rfl, -⟩
      · exact .inl (holds_of_numbered ht)
      · exact .inl rfl
    · obtain ⟨result, after, rfl⟩ := leads_completed hleads ha
      exact .inl rfl
  · obtain ⟨a, ha, -, rfl⟩ := caught_from hcaught.symm hu
    rcases ha with ha | ha
    · exact .inl (holds_of_numbered ha)
    · exact .inl (holds_of_completed ha)

/-- A statement that throws has a process of its run go on in its `catch`. -/
theorem caught_goes_on {config : ReconConfig} {input : PayoutInput} {w : PayoutWorld}
    {t : PayoutTask} {message : String} (hw : w.Tracked) {i : Nat} (hat : w.At i t)
    (hg : Orderly w input t)
    (hfails : input.down = true ∨ Fails (t.statement config input) w.state)
    (hrun : t.run ≠ none) (hexposed : t.uncaught = true → t.exposed = true) :
    t.caught config input.now message ≠ none := by
  intro hnone
  have huncaught := caught_of_uncaught hnone hrun
  rcases hfails with hdown | hfails
  · cases (hexposed huncaught).symm.trans (hg.exposed hdown)
  · obtain ⟨t', d', hy⟩ := @uncaught_yields config input t w.state hw.unique (hw.tasks i t hat) huncaught
    exact hfails t' d' hy

theorem exposed_of_numbered {t : PayoutTask} {a : ReconAttempt} (ha : t.numbered = some a)
    (h : t.uncaught = true) : t.exposed = true := by
  unfold PayoutTask.exposed
  rw [h, run_of_numbered ha, ha]
  rfl

/-- An attempt is not lost in a `catch`. -/
theorem numbered_caught {config : ReconConfig} {input : PayoutInput} {w : PayoutWorld} {i : Nat}
    {t : PayoutTask} {message : String} {a : ReconAttempt} (hw : w.Tracked) (hat : w.At i t)
    (hg : Orderly w input t)
    (hfails : input.down = true ∨ Fails (t.statement config input) w.state)
    (ha : t.numbered = some a) :
    ∃ u, t.caught config input.now message = some u ∧ u.numbered = some a := by
  have hrun : t.run ≠ none := by
    rw [run_of_numbered ha]
    exact Option.some_ne_none _
  have hsome := @caught_goes_on config input w t message hw i hat hg hfails hrun
    (exposed_of_numbered ha)
  obtain ⟨u, hu⟩ := Option.ne_none_iff_exists'.mp hsome
  exact ⟨u, hu, caught_numbered ha hu⟩

theorem numbered_next {config : ReconConfig} {input : PayoutInput} {w : PayoutWorld} {i : Nat}
    {t : PayoutTask} {t' : Option PayoutTask} {d' : PayoutDesk} {a : ReconAttempt}
    (hw : w.Tracked) (hat : w.At i t) (hg : Orderly w input t)
    (hy : Yields (t.next config input) w.state t' d') (ha : t.numbered = some a) :
    (∃ u, t' = some u ∧ u.numbered = some a) ∨
      ∃ result after, t = .scheduleAttempt a result after := by
  rcases next_cases hy with ⟨-, hdoes⟩ | ⟨-, message, hcaught, hfails⟩
  · cases hrecords : t.records with
    | false =>
      cases ht' : t' with
      | none => cases ((hdoes.ends ht').2 hrecords).symm.trans ha
      | some u => exact .inl ⟨u, rfl, leads_numbered (hdoes.leads u ht') ha hrecords⟩
    | true =>
      cases t with
      | scheduleAttempt b result after =>
        cases ha
        exact .inr ⟨result, after, rfl⟩
      | createAttempt => cases ha
      | _ => cases hrecords
  · obtain ⟨u, hu, hua⟩ := @numbered_caught config input w i t message a hw hat hg hfails ha
    exact .inl ⟨u, hcaught.trans hu, hua⟩

theorem tracksRow_of_numbered {d : PayoutDesk} {t : PayoutTask} {id : Nat} {m : MpesaTransaction}
    {a : ReconAttempt} (ha : t.numbered = some a) (hattempt : a.attemptId < d.attempts.length)
    (hcount : a.claimed.reconciliationAttemptCount = m.reconciliationAttemptCount ∨
      a.number = m.reconciliationAttemptCount) : t.TracksRow d id m where
  numbering h := by cases (numbering_holds h).2.1.symm.trans ha
  read run claimed h := by
    subst h
    cases ha
  numbered b hb := by
    cases ha.symm.trans hb
    exact ⟨hattempt, hcount⟩
  completed b hb := by cases (completed_run hb).2.1.symm.trans ha

theorem tracksRow_of_completed {d : PayoutDesk} {t : PayoutTask} {id : Nat} {m : MpesaTransaction}
    {a : ReconAttempt} (ha : t.completed = some a) (hattempt : a.attemptId < d.attempts.length)
    (hcount : a.number = m.reconciliationAttemptCount) : t.TracksRow d id m where
  numbering h := by cases (numbering_holds h).2.2.symm.trans ha
  read run claimed h := by
    subst h
    cases ha
  numbered b hb := by cases (completed_run ha).2.1.symm.trans hb
  completed b hb := by
    cases ha.symm.trans hb
    exact ⟨hattempt, hcount⟩

theorem tracksRow_of_numbering {d : PayoutDesk} {t : PayoutTask} {id : Nat} {m : MpesaTransaction}
    (ht : t.numbering = some id) (hkeys : ∀ n, (id, n) ∈ d.keys → n ≤ m.reconciliationAttemptCount)
    (hread : ∀ run claimed, t = .createAttempt run claimed →
      claimed.reconciliationAttemptCount = m.reconciliationAttemptCount) : t.TracksRow d id m where
  numbering _ := hkeys
  read := hread
  numbered a ha := by cases (numbering_holds ht).2.1.symm.trans ha
  completed a ha := by cases (numbering_holds ht).2.2.symm.trans ha

/-- The count of a row that is not being scheduled, after a statement. -/
theorem count_next {d d' : PayoutDesk} {t : PayoutTask} {id : Nat} {m : MpesaTransaction}
    (h : ReconEffect d t d') (hm : d.db.mpesaTransactions[id]? = some m)
    (ht : ∀ a result after, t = .scheduleAttempt a result after → a.run.mpesaTransactionId ≠ id) :
    ∃ m', d'.db.mpesaTransactions[id]? = some m' ∧
      m'.reconciliationAttemptCount = m.reconciliationAttemptCount := by
  obtain ⟨m', hm', hcount | ⟨a, result, after, rfl, hid, -⟩, -⟩ := h.row id m hm
  · exact ⟨m', hm', hcount⟩
  · exact absurd hid (ht a result after rfl)

/-- What the points of a run before its attempt know when they are reached. -/
theorem tracks_numbering {w : PayoutWorld} {i id : Nat} {input : PayoutInput} {t u : PayoutTask}
    {d' : PayoutDesk} (hw : w.Tracked) (hat : w.At i t) (hg : Orderly w input t)
    (heffect : ReconEffect w.state t d') (hleads : Leads w.state t u)
    (hu : u.numbering = some id) :
    ∃ m, d'.db.mpesaTransactions[id]? = some m ∧ u.TracksRow d' id m := by
  -- No statement that leads there adds an attempt.
  have hkeys : ∀ m, (∀ n, (id, n) ∈ w.state.keys → n ≤ m) → t.records = false →
      t.handled = none → ∀ n, (id, n) ∈ d'.keys → n ≤ m := by
    intro m hold hrecords hhandled n hn
    rcases heffect.key _ hn with hn | ⟨run, claimed, rfl, -⟩ | ⟨hh, -⟩
    · exact hold n hn
    · cases hrecords
    · cases hhandled.symm.trans hh
  cases u with
  | readClaimed run =>
    cases hu
    obtain ⟨rfl, m, hm, hopen⟩ := leads_comesFrom hleads
    obtain ⟨m', hm', hcount⟩ := count_next heffect hm fun _ _ _ h => by cases h
    refine ⟨m', hm', tracksRow_of_numbering rfl (hkeys _ (fun n hn => ?_) rfl rfl)
      fun _ _ h => by cases h⟩
    rw [hcount]
    rcases hw.counted _ m hm hopen n hn with hle | ⟨-, j, v, a, hv, ha, hrow, -⟩
    · exact hle
    · exact absurd (hrow ▸ holds_of_numbered ha) (hg.claims run rfl j v hv)
  | createAttempt run claimed =>
    cases hu
    obtain ⟨rfl, hm⟩ := leads_comesFrom hleads
    obtain ⟨m, hm₀, htracks⟩ := hw.tasks i _ hat run.mpesaTransactionId rfl
    cases hm.symm.trans hm₀
    obtain ⟨m', hm', hcount⟩ := count_next heffect hm fun _ _ _ h => by cases h
    refine ⟨m', hm', tracksRow_of_numbering rfl (hkeys _ (fun n hn => ?_) rfl rfl) fun _ _ h => ?_⟩
    · rw [hcount]
      exact htracks.numbering rfl n hn
    · cases h
      exact hcount.symm
  | _ => cases hu

theorem tracks_numbered {w : PayoutWorld} {i : Nat} {t u : PayoutTask} {d' : PayoutDesk}
    {a : ReconAttempt} (hw : w.Tracked) (hat : w.At i t) (heffect : ReconEffect w.state t d')
    (hleads : Leads w.state t u) (ha : u.numbered = some a) :
    ∃ m, d'.db.mpesaTransactions[a.run.mpesaTransactionId]? = some m ∧
      u.TracksRow d' a.run.mpesaTransactionId m := by
  rcases leads_from hleads ha with ⟨hta, hrecords⟩ | ⟨rfl, hattempt⟩
  · obtain ⟨m, hm, htracks⟩ := hw.tasks i t hat _ (holds_of_numbered hta)
    obtain ⟨m', hm', hcount⟩ := count_next heffect hm fun _ _ _ h => by
      subst h
      cases hrecords
    obtain ⟨hlt, hnumber⟩ := htracks.numbered a hta
    exact ⟨m', hm', tracksRow_of_numbered ha (Nat.lt_of_lt_of_le hlt heffect.attempts)
      (hcount ▸ hnumber)⟩
  · obtain ⟨m, hm, htracks⟩ := hw.tasks i _ hat _ rfl
    obtain ⟨m', hm', hcount⟩ := count_next heffect hm fun _ _ _ h => by cases h
    refine ⟨m', hm', tracksRow_of_numbered ha ?_ (.inl ?_)⟩
    · rw [hattempt]
      exact heffect.grown _ _ rfl
    · rw [hcount]
      exact htracks.read _ _ rfl

theorem tracks_completed {w : PayoutWorld} {i : Nat} {t u : PayoutTask} {d' : PayoutDesk}
    {a : ReconAttempt} (hw : w.Tracked) (hat : w.At i t) (heffect : ReconEffect w.state t d')
    (hleads : Leads w.state t u) (ha : u.completed = some a) :
    ∃ m, d'.db.mpesaTransactions[a.run.mpesaTransactionId]? = some m ∧
      u.TracksRow d' a.run.mpesaTransactionId m := by
  obtain ⟨result, after, rfl⟩ := leads_completed hleads ha
  obtain ⟨m, hm, htracks⟩ := hw.tasks i _ hat _ rfl
  obtain ⟨m', hm', -⟩ := heffect.row _ m hm
  exact ⟨m', hm', tracksRow_of_completed ha
    (Nat.lt_of_lt_of_le (htracks.numbered a rfl).1 heffect.attempts)
    (heffect.scheduled a result after rfl m' hm').symm⟩

/-- What a process that goes on knows of the row it is about. -/
theorem tracks_next {config : ReconConfig} {input : PayoutInput} {w : PayoutWorld} {i : Nat}
    {t u : PayoutTask} {d' : PayoutDesk} (hw : w.Tracked) (hat : w.At i t)
    (hg : Orderly w input t) (hy : Yields (t.next config input) w.state (some u) d') :
    u.Tracks d' := by
  intro id hid
  rcases next_cases hy with ⟨-, hdoes⟩ | ⟨rfl, message, hcaught, -⟩
  · have heffect := recon_write hdoes.writes
    rcases holds_cases hid with hnumbering | ⟨a, ha, rfl⟩ | ⟨a, ha, rfl⟩
    · exact tracks_numbering hw hat hg heffect (hdoes.leads u rfl) hnumbering
    · exact tracks_numbered hw hat heffect (hdoes.leads u rfl) ha
    · exact tracks_completed hw hat heffect (hdoes.leads u rfl) ha
  · obtain ⟨a, ha, hu, rfl⟩ := caught_from hcaught.symm hid
    rcases ha with ha | ha
    · obtain ⟨m, hm, htracks⟩ := hw.tasks i t hat _ (holds_of_numbered ha)
      obtain ⟨hlt, hnumber⟩ := htracks.numbered a ha
      exact ⟨m, hm, tracksRow_of_numbered hu hlt hnumber⟩
    · obtain ⟨m, hm, htracks⟩ := hw.tasks i t hat _ (holds_of_completed ha)
      obtain ⟨hlt, hnumber⟩ := htracks.completed a ha
      exact ⟨m, hm, tracksRow_of_numbered hu hlt (.inr hnumber)⟩

/-- What the other processes know stays true. -/
theorem tracks_other {w : PayoutWorld} {i j : Nat} {input : PayoutInput} {t u : PayoutTask}
    {d' : PayoutDesk} (hw : w.Tracked) (hat : w.At i t) (hg : Orderly w input t)
    (heffect : ReconEffect w.state t d') (hne : j ≠ i) (hu : w.At j u) : u.Tracks d' := by
  intro id hid
  have hself : t.holds ≠ some id := fun h => hne (hw.alone j i u t id hu hat hid h)
  obtain ⟨m, hm, htracks⟩ := hw.tasks j u hu id hid
  obtain ⟨m', hm', hcount⟩ := count_next heffect hm fun a result after h hrow => by
    subst h
    exact hself (congrArg some hrow)
  refine ⟨m', hm', ⟨fun hnumbering n hn => ?_, fun run claimed h => ?_, fun a ha => ?_,
    fun a ha => ?_⟩⟩
  · rw [hcount]
    rcases heffect.key _ hn with hn | ⟨run, claimed, rfl, -, hk⟩ | ⟨hhandled, -⟩
    · exact htracks.numbering hnumbering n hn
    · exact absurd (congrArg some (Prod.mk.inj hk).1).symm hself
    · exact absurd hnumbering (hg.handled id hhandled j u hu)
  · rw [hcount]
    exact htracks.read run claimed h
  · obtain ⟨hlt, hnumber⟩ := htracks.numbered a ha
    rw [hcount]
    exact ⟨Nat.lt_of_lt_of_le hlt heffect.attempts, hnumber⟩
  · obtain ⟨hlt, hnumber⟩ := htracks.completed a ha
    rw [hcount]
    exact ⟨Nat.lt_of_lt_of_le hlt heffect.attempts, hnumber⟩

/-- An attempt that was created is in the hands of its run. -/
theorem createAttempt_next {config : ReconConfig} {input : PayoutInput} {run : ReconRun}
    {claimed : MpesaTransaction} {t' : Option PayoutTask} {d d' : PayoutDesk}
    (hy : Yields ((PayoutTask.createAttempt run claimed).next config input) d t' d') :
    d' = d ∨ t' = some (.auditStarted ⟨run, d.attempts.length, claimed⟩) := by
  rcases yields_rescue.mp hy with h | ⟨-, hsame, -⟩
  · simp only [yields_bind, yields_ensure, PayoutTask.statement, createAttempt, yields_pure] at h
    obtain ⟨_, _, ⟨-, rfl⟩, n, _, hinsert, rfl, rfl⟩ := h
    obtain ⟨-, rfl, rfl⟩ := insertAttempt_cases hinsert
    exact .inr rfl
  · exact .inl hsame.symm

/-- The attempts of the rows that wait, after a statement. -/
theorem counted_next {config : ReconConfig} {input : PayoutInput} {w : PayoutWorld} {i : Nat}
    {t : PayoutTask} {t' : Option PayoutTask} {d' : PayoutDesk} (hw : w.Tracked) (hat : w.At i t)
    (hg : Orderly w input t) (hy : Yields (t.next config input) w.state t' d')
    (heffect : ReconEffect w.state t d') (id : Nat) (m' : MpesaTransaction)
    (hm' : d'.db.mpesaTransactions[id]? = some m') (hopen' : m'.unsettled = true) (n : Nat)
    (hn : (id, n) ∈ d'.keys) : n ≤ m'.reconciliationAttemptCount ∨
      (n = m'.reconciliationAttemptCount + 1 ∧
        ∃ j u a, World.At ⟨d', w.tasks.set i t'⟩ j u ∧ u.numbered = some a ∧
          a.run.mpesaTransactionId = id ∧
          a.claimed.reconciliationAttemptCount = m'.reconciliationAttemptCount) := by
  rcases heffect.key _ hn with hold | ⟨run, claimed, rfl, hne, hk⟩ | ⟨-, m, hm, hsettled⟩
  · obtain ⟨m, hm⟩ : ∃ m, w.state.db.mpesaTransactions[id]? = some m :=
      ⟨_, List.getElem?_eq_getElem (hw.known _ hold)⟩
    obtain ⟨m₀, hm₀, hcount, hwaits⟩ := heffect.row id m hm
    cases hm'.symm.trans hm₀
    have hopen : m.unsettled = true := (hwaits hopen').elim (fun h => h) fun h => hg.flags id m h hm
    -- A row that is scheduled counts at least as much as before.
    have hscheduled : ∀ a result after, t = .scheduleAttempt a result after →
        a.run.mpesaTransactionId = id →
        m'.reconciliationAttemptCount = a.number ∧ m.reconciliationAttemptCount ≤ a.number := by
      rintro a result after rfl rfl
      obtain ⟨m₁, hm₁, htracks⟩ := hw.tasks i _ hat _ rfl
      cases hm.symm.trans hm₁
      refine ⟨heffect.scheduled a result after rfl m' hm', ?_⟩
      rcases (htracks.numbered a rfl).2 with hclaimed | hnumber
      · exact hclaimed ▸ Nat.le_succ _
      · exact Nat.le_of_eq hnumber.symm
    rcases hw.counted id m hm hopen n hold with hle | ⟨rfl, j, v, a, hv, ha, hrow, hclaimed⟩
    · refine .inl (Nat.le_trans hle ?_)
      rcases hcount with hcount | ⟨a, result, after, ht, hrow, -⟩
      · exact Nat.le_of_eq hcount.symm
      · obtain ⟨hcount, hge⟩ := hscheduled a result after ht hrow
        exact hcount ▸ hge
    · have hdone : ∀ result after, t = .scheduleAttempt a result after →
          m.reconciliationAttemptCount + 1 ≤ m'.reconciliationAttemptCount := by
        intro result after ht
        rw [(hscheduled a result after ht hrow).1, ← hclaimed]
        exact Nat.le_refl _
      by_cases hji : j = i
      · subst hji
        cases Option.some.inj (Option.some.inj (hv.symm.trans hat))
        rcases numbered_next hw hat hg hy ha with ⟨u, rfl, hu⟩ | ⟨result, after, ht⟩
        · rcases hcount with hcount | ⟨b, result, after, ht, -⟩
          · refine .inr ⟨by rw [hcount], j, u, a, at_set_self hat, hu, hrow, by rw [hcount, hclaimed]⟩
          · subst ht
            cases ha
            exact .inl (hdone result after rfl)
        · exact .inl (hdone result after ht)
      · have hother : t.holds ≠ some id := fun h =>
          hji (hw.alone j i v t id hv hat (hrow ▸ holds_of_numbered ha) h)
        rcases hcount with hcount | ⟨b, result, after, rfl, hb, -⟩
        · exact .inr ⟨by rw [hcount], j, v, a, at_set_other hji hv, ha, hrow, by rw [hcount, hclaimed]⟩
        · exact absurd (congrArg some hb) hother
  · obtain ⟨rfl, rfl⟩ := Prod.mk.inj hk
    obtain ⟨m, hm, htracks⟩ := hw.tasks i _ hat run.mpesaTransactionId rfl
    obtain ⟨m₀, hm₀, hcount⟩ := count_next heffect hm fun _ _ _ h => by cases h
    cases hm'.symm.trans hm₀
    have hread := htracks.read run claimed rfl
    rcases createAttempt_next hy with hsame | rfl
    · exact absurd hsame hne
    · exact .inr ⟨by rw [hread, hcount], i, _, ⟨run, w.state.attempts.length, claimed⟩,
        at_set_self hat, rfl, rfl, hread.trans hcount.symm⟩
  · cases hm.symm.trans hm'
    cases hsettled.symm.trans hopen'

/-- No two processes are about one row. -/
theorem alone_next {config : ReconConfig} {input : PayoutInput} {w : PayoutWorld} {i : Nat}
    {t : PayoutTask} {t' : Option PayoutTask} {d' : PayoutDesk} (hw : w.Tracked) (hat : w.At i t)
    (hg : Orderly w input t) (hy : Yields (t.next config input) w.state t' d') (j k : Nat)
    (u v : PayoutTask) (id : Nat) (hu : World.At ⟨d', w.tasks.set i t'⟩ j u)
    (hv : World.At ⟨d', w.tasks.set i t'⟩ k v) (hju : u.holds = some id)
    (hkv : v.holds = some id) : j = k := by
  have hown : ∀ u l x, t' = some u → u.holds = some id → w.At l x → x.holds = some id → l = i := by
    intro u l x ht' huid hx hxid
    rcases holds_next (ht' ▸ hy) huid with ht | ⟨run, rfl, rfl⟩
    · exact hw.alone l i x t id hx hat hxid ht
    · exact absurd hxid (hg.claims run rfl l x hx)
  rcases at_set hu with ⟨rfl, hju'⟩ | ⟨hj, hju'⟩
  · rcases at_set hv with ⟨rfl, -⟩ | ⟨-, hkv'⟩
    · rfl
    · exact (hown u k v hju' hju hkv' hkv).symm
  · rcases at_set hv with ⟨rfl, hkv'⟩ | ⟨-, hkv'⟩
    · exact hown v j u hkv' hkv hju' hju
    · exact hw.alone j k u v id hju' hkv' hju hkv

/-- A statement keeps account of the attempts. -/
theorem advance_tracked {config : ReconConfig} {input : PayoutInput} {w : PayoutWorld} {i : Nat}
    {t : PayoutTask} {t' : Option PayoutTask} {d' : PayoutDesk} (hw : w.Tracked) (hat : w.At i t)
    (hg : Orderly w input t) (hy : Yields (t.next config input) w.state t' d') :
    PayoutWorld.Tracked ⟨d', w.tasks.set i t'⟩ := by
  have hown : ∀ u, t' = some u → u.Tracks d' := fun u ht' => tracks_next hw hat hg (ht' ▸ hy)
  rcases next_cases hy with ⟨-, hdoes⟩ | ⟨rfl, message, hcaught, hfails⟩
  · have heffect := recon_write hdoes.writes
    refine ⟨heffect.unique hw.unique, fun k hk => ?_, counted_next hw hat hg hy heffect,
      alone_next hw hat hg hy, fun j u hu => ?_⟩
    · rcases heffect.key k hk with hk | ⟨run, claimed, rfl, -, rfl⟩ | ⟨-, m, hm, -⟩
      · exact Nat.lt_of_lt_of_le (hw.known k hk) heffect.rows
      · obtain ⟨m, hm, -⟩ := hw.tasks i _ hat run.mpesaTransactionId rfl
        exact Nat.lt_of_lt_of_le (Table.lt_length_of_getElem? hm) heffect.rows
      · exact Table.lt_length_of_getElem? hm
    · rcases at_set hu with ⟨-, ht'⟩ | ⟨hne, hold⟩
      · exact hown u ht'
      · exact tracks_other hw hat hg heffect hne hold
  · refine ⟨hw.unique, hw.known, fun id m hm hopen n hn => ?_, alone_next hw hat hg hy,
      fun j u hu => ?_⟩
    · rcases hw.counted id m hm hopen n hn with hle | ⟨rfl, j, v, a, hv, ha, hrow, hclaimed⟩
      · exact .inl hle
      · refine .inr ⟨rfl, ?_⟩
        by_cases hji : j = i
        · subst hji
          cases Option.some.inj (Option.some.inj (hv.symm.trans hat))
          obtain ⟨u, hu, hua⟩ := @numbered_caught config input w j t message a hw hat hg hfails ha
          refine ⟨j, u, a, ?_, hua, hrow, hclaimed⟩
          rw [hcaught, hu]
          exact at_set_self hat
        · exact ⟨j, v, a, at_set_other hji hv, ha, hrow, hclaimed⟩
    · rcases at_set hu with ⟨-, ht'⟩ | ⟨-, hold⟩
      · exact hown u ht'
      · exact hw.tasks j u hold

theorem entry_holds (a : PayoutCall) : a.entry.holds = none := by
  cases a <;> rfl

/-- A process of a run stays in it and comes closer to its end, or it goes on to the next row. -/
theorem run_next {config : ReconConfig} {input : PayoutInput} {w : PayoutWorld} {i : Nat}
    {t next : PayoutTask} {t' : Option PayoutTask} {d' : PayoutDesk} {run : ReconRun}
    (hw : w.Tracked) (hat : w.At i t) (hg : Orderly w input t)
    (hy : Yields (t.next config input) w.state t' d') (hrun : t.run = some run)
    (hnext : run.finish = some next) :
    ∃ u, t' = some u ∧ ((u.run = some run ∧ u.rank < t.rank) ∨ u = next) := by
  rcases next_cases hy with ⟨-, hdoes⟩ | ⟨-, message, hcaught, hfails⟩
  · cases ht' : t' with
    | none => cases ((hdoes.ends ht').1 run hrun).symm.trans hnext
    | some u =>
      refine ⟨u, rfl, ?_⟩
      rcases leads_run (hdoes.leads u ht') hrun with hstays | hends
      · exact .inl hstays
      · exact .inr (Option.some.inj (hends.symm.trans hnext))
  · have hexposed : t.uncaught = true → t.exposed = true := by
      intro huncaught
      have hrest : run.rest.isEmpty = false := by
        unfold ReconRun.finish at hnext
        split at hnext
        · cases hnext
        · next h => rw [h]; rfl
      unfold PayoutTask.exposed
      rw [huncaught, hrun, Option.any_some, hrest, Bool.not_false, Bool.or_true, Bool.and_true]
    have hsome := @caught_goes_on config input w t message hw i hat hg hfails
      (by rw [hrun]; exact Option.some_ne_none _) hexposed
    cases huncaught : t.uncaught with
    | true => exact absurd (uncaught_none huncaught) hsome
    | false =>
      obtain ⟨a, ha, hunavailable, hrank⟩ := @caught_run config input.now message t run hrun huncaught
      refine ⟨_, hcaught.trans hunavailable, .inl ⟨?_, hrank⟩⟩
      show some a.run = some run
      rcases ha with ha | ha
      · exact (run_of_numbered ha).symm.trans hrun
      · exact (completed_run ha).1.symm.trans hrun

end ReconLemmas

open ReconLemmas

/-! ## 3. Progress -/

theorem step_tracked {config : ReconConfig} {w : PayoutWorld} {e : PayoutEvent} (hw : w.Tracked)
    (hg : w.orderly e = true) : PayoutWorld.Tracked ((payouts config).step w e) := by
  cases e with
  | start a =>
    have hold : ∀ j u id, World.At ⟨w.state, w.tasks ++ [some a.entry]⟩ j u → u.holds = some id →
        w.At j u := by
      intro j u id hu hid
      rcases Table.getElem?_append_one_some hu with hold | ⟨-, hnew⟩
      · exact hold
      · cases hnew
        cases (entry_holds a).symm.trans hid
    refine ⟨hw.unique, hw.known, fun id m hm hopen n hn => ?_, ?_, fun j u hu id hid => ?_⟩
    · refine (hw.counted id m hm hopen n hn).imp_right ?_
      rintro ⟨hn, j, v, b, hv, hb⟩
      exact ⟨hn, j, v, b, Table.getElem?_append_one_old hv, hb⟩
    · exact fun j k u v id hu hv hju hkv =>
        hw.alone j k u v id (hold j u id hu hju) (hold k v id hv hkv) hju hkv
    · exact hw.tasks j u (hold j u id hu hid) id hid
  | crash i =>
    have hold : ∀ j u, World.At ⟨w.state, w.tasks.set i none⟩ j u → w.At j u := by
      intro j u hu
      rcases at_set hu with ⟨-, h⟩ | ⟨-, h⟩
      · cases h
      · exact h
    refine ⟨hw.unique, hw.known, fun id m hm hopen n hn => ?_, ?_,
      fun j u hu => hw.tasks j u (hold j u hu)⟩
    · refine (hw.counted id m hm hopen n hn).imp_right ?_
      rintro ⟨hn, j, v, b, hv, hb, hrow⟩
      refine ⟨hn, j, v, b, at_set_other ?_ hv, hb, hrow⟩
      rintro rfl
      simp only [PayoutWorld.orderly, task_some.mpr hv, Option.all_some, hb] at hg
      cases hg
    · exact fun j k u v id hu hv => hw.alone j k u v id (hold j u hu) (hold k v hv)
  | advance i input =>
    cases ht : w.task i with
    | none =>
      rw [step_ended ht]
      exact hw
    | some t =>
      have hat := task_some.mp ht
      obtain ⟨t', d', hy⟩ : ∃ t' d', Yields ((payouts config).next t input) w.state t' d' :=
        rescue_yields _ _ _
      rw [step_yields hat hy]
      exact advance_tracked hw hat (orderly_advance hg hat) hy

theorem progresses_of_tracked {config : ReconConfig} {w : PayoutWorld} (hw : w.Tracked) :
    w.Progresses config where
  numbers id m hm hopen := by
    by_cases hfree : (id, m.reconciliationAttemptCount + 1) ∈ w.state.keys
    · refine .inr ?_
      rcases hw.counted id m hm hopen _ hfree with hle | ⟨-, i, t, a, hat, ha, hrow, -⟩
      · exact absurd hle (Nat.not_succ_le_self _)
      · exact ⟨i, t, a, hat, ha, hrow⟩
    · exact .inl hfree
  sweeps i input t run next hg hat hrun hnext := by
    obtain ⟨t', d', hy⟩ : ∃ t' d', Yields ((payouts config).next t input) w.state t' d' :=
      rescue_yields _ _ _
    obtain ⟨u, rfl, hu⟩ := run_next hw hat (orderly_advance hg hat) hy hrun hnext
    rw [step_yields hat hy]
    exact ⟨u, at_set_self hat, hu⟩

/-- In an orderly run the number of the next attempt on a row that waits is free, unless an attempt
is at work on the row; and every statement of a sweep that has rows left takes it closer to the next
one. -/
theorem reconciliation_progresses (config : ReconConfig) {db : Db} (hdb : db.MpesaUnique)
    {events : List PayoutEvent} (horderly : Machine.Guarded (payouts config).step
      (fun w e => PayoutWorld.orderly w e = true) (PayoutWorld.opening db) events) :
    PayoutWorld.Progresses config ((PayoutWorld.opening db).after config events) := by
  refine progresses_of_tracked
    (Machine.run_induct (fun _ _ hw hg => step_tracked hw hg) ⟨hdb, ?_, ?_, ?_, ?_⟩ horderly)
  · intro k hk
    cases hk
  · intro _ _ _ _ _ h
    cases h
  · intro _ _ _ _ _ h
    cases h
  · intro _ _ h
    cases h

/-- Two withdrawals whose payouts were sent. -/
def exTwoSent : List PayoutEvent :=
  exSent ++ [.start (.withdraw { exWithdrawal with idempotencyKey := "L" }), exQueued 2 0,
    .start (.payout 1)] ++ List.replicate 9 (exQueued 3 0)

/-- The first `n` statements of a sweep, which is process `i`. -/
def exSweepRun (i : Nat) (now : Int) (n : Nat) : List PayoutEvent :=
  .start .sweep :: List.replicate n (exQueued i now)

theorem reconciliation_progresses_sweep :
    PayoutWorld.Progresses {}
      ((PayoutWorld.opening exFunded).after {} (exTwoSent ++ exSweepRun 4 2000000 5)) := by
  have hdb : exFunded.MpesaUnique := by
    intro id m hm
    cases hm
  exact reconciliation_progresses {} hdb (by decide +kernel)

/-- A sweep is lost with the first attempt on its first row. The next sweep numbers the same
attempt, and ends there: neither row is reconciled by it, though nothing is at work on them. -/
theorem crashed_run_blocks :
    let crashed := exTwoSent ++ exSweepRun 4 2000000 5 ++ [.crash 4]
    let swept := crashed ++ exSweepRun 5 3000000 5
    let world (events : List PayoutEvent) := (PayoutWorld.opening exFunded).after {} events
    (world crashed).tasks.all (·.isNone) = true ∧
      (world crashed).state.keys = [(0, 1)] ∧
      ((world crashed).state.db.mpesaTransactions.map fun m =>
        (m.unsettled, m.reconciliationAttemptCount)) = [(true, 0), (true, 0)] ∧
      ((world crashed).state.db.mpesaTransactions.map fun m => m.eligible {} 3000000) =
        [true, true] ∧
      (world swept).tasks.all (·.isNone) = true ∧ (world swept).state.keys = [(0, 1)] := by
  decide +kernel

end BebaSacco
