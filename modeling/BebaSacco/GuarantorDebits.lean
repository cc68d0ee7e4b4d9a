import BebaSacco.RecoveryCaps
import BebaSacco.Lib.RetriedJob

/-! # The delayed debit of the guarantors

The debit job reads the loan, recovers its default from the guarantors in one transaction, and then
tells them and writes the audit. The queue runs the job again after any throw. A recovery carries a
fresh id each time, so nothing in the books says that the job has had its money.

Results:
 1. `recovery_takes`: a recovery takes what it reports, at most what it is asked for and at most
    what is recoverable.
 2. `debit_once`: when no attempt gets to its recovery after an earlier one has committed, or it
    finds nothing recoverable then, the job takes what its first recovery took.
 3. `retry_debits_again`: an enqueue that fails after the recovery makes the job debit twice.
-/

namespace BebaSacco

open Txn

/-! ## 1. The job -/

/-- What the notice job puts on the queue; the amount has four decimals. -/
structure ExecuteGuarantorDebitJobPayload where
  loanId : Nat
  actorId : String
  defaultAmount : Nat
  deriving DecidableEq, Repr

def isStillDefaulted (status : LoanStatus) (arrearsDays : Nat) : Bool :=
  status == .defaulted || decide (14 ≤ arrearsDays)

/-- The database, and what each recovery of the job took from the accounts. -/
structure DebitDesk where
  db : Db
  debits : List Int

/-- All savings together. -/
def Db.savings (db : Db) : Int := Table.sumOver (·.balance) db.accounts

/-- Ids of guarantees, with an amount. -/
abbrev GuarantorAmounts := List (Nat × Nat)

/-- The statements of an attempt. -/
inductive DebitTask
  | findLoan
  | auditSkipped
  | acquireLock (beforeRecovered : GuarantorAmounts)
  | recover (beforeRecovered : GuarantorAmounts)
  | releaseLock (beforeRecovered : GuarantorAmounts)
  | findUpdated (beforeRecovered : GuarantorAmounts)
  | notify (deducted : GuarantorAmounts)
  | auditExecuted
  deriving DecidableEq, Repr

/-- What was recovered from the accepted guarantors of a loan. -/
def Db.recoveredAmounts (db : Db) (loanId : Nat) : GuarantorAmounts :=
  (db.guarantorsOf loanId [.accepted]).map fun row => (row.1, row.2.recoveredAmount)

/-- The guarantors to tell: those from whom more was recovered than before. -/
def deductions (beforeRecovered updated : GuarantorAmounts) : GuarantorAmounts :=
  (updated.map fun row =>
    (row.1, row.2 - ((beforeRecovered.find? (·.1 == row.1)).map (·.2)).getD 0)).filter (0 < ·.2)

/-- One statement at the time `now`. The lock, the queues and the audit log are outside the
database: where one of them fails, the attempt throws before the next statement. -/
def executeDelayedDebit (payload : ExecuteGuarantorDebitJobPayload) :
    DebitTask → Int → Txn DebitDesk Err (Option DebitTask)
  | .findLoan, _ => do
    let desk ← get
    let loan ← required desk.db.loans[payload.loanId]? (.notFound "Loan not found for guarantor debit")
    pure (some (if isStillDefaulted loan.status loan.arrearsDays
      then .acquireLock (desk.db.recoveredAmounts payload.loanId) else .auditSkipped))
  | .auditSkipped, _ => pure none
  | .acquireLock beforeRecovered, _ => pure (some (.recover beforeRecovered))
  | .recover beforeRecovered, now => do
    let desk ← get
    let _ ← zoom DebitDesk.db (fun db desk => { desk with db := db })
      (recoverFromGuarantors now payload.loanId (ofUnits payload.defaultAmount) payload.actorId)
    modify fun after => { after with debits := after.debits ++ [desk.db.savings - after.db.savings] }
    pure (some (.releaseLock beforeRecovered))
  | .releaseLock beforeRecovered, _ => pure (some (.findUpdated beforeRecovered))
  | .findUpdated beforeRecovered, _ => do
    let desk ← get
    pure (some (.notify (deductions beforeRecovered (desk.db.recoveredAmounts payload.loanId))))
  | .notify [], _ => pure (some .auditExecuted)
  | .notify (_ :: deducted), _ => pure (some (.notify deducted))
  | .auditExecuted, _ => pure none

def debitJob (payload : ExecuteGuarantorDebitJobPayload) :
    RetriedJob.Program DebitDesk Err Int DebitTask where
  entry := .findLoan
  next := executeDelayedDebit payload
  attempts := 3

abbrev DebitWorld := RetriedJob.World DebitDesk DebitTask

/-- An event of the job, or any other operation of the services. -/
abbrev DebitEvent := RetriedJob.Event Op Int

def DebitDesk.serve (op : Op) (desk : DebitDesk) : DebitDesk := { desk with db := step desk.db op }

def DebitWorld.step (payload : ExecuteGuarantorDebitJobPayload) (w : DebitWorld)
    (e : DebitEvent) : DebitWorld :=
  (debitJob payload).step DebitDesk.serve w e

/-- The job waits, after the week of the notice. -/
def DebitWorld.opening (db : Db) : DebitWorld := ⟨⟨db, []⟩, .waiting 0⟩

def DebitWorld.after (payload : ExecuteGuarantorDebitJobPayload) (w : DebitWorld)
    (events : List DebitEvent) : DebitWorld :=
  Machine.run (DebitWorld.step payload) w events

/-! ## 2. What is asked for -/

/-- What the job has taken from the guarantors. -/
def DebitDesk.debited (desk : DebitDesk) : Int := desk.debits.sum

/-- What the job takes when it runs once: what its first recovery takes. -/
def DebitDesk.debitedOnce (desk : DebitDesk) : Int := desk.debits.headD 0

/-- Nothing can be recovered for the loan. -/
def Db.exhausted (db : Db) (loanId : Nat) : Bool :=
  db.loans[loanId]?.all fun loan => decide (db.recoverable loanId loan = 0)

/-- An attempt that comes to its recovery is the first one, or finds nothing recoverable. -/
def DebitWorld.recoversOnce (payload : ExecuteGuarantorDebitJobPayload) (w : DebitWorld) :
    DebitEvent → Bool
  | .advance _ =>
    match w.phase with
    | .active _ (.recover _) => w.state.debits.isEmpty || w.state.db.exhausted payload.loanId
    | _ => true
  | _ => true

namespace GuarantorDebitLemmas

open RecoveryLemmas

variable {db db' : Db} {loanId n : Nat}

/-! ## 3. One recovery -/

theorem savings_forfeit {i : Nat} {a : Account} {amount : Int} (ha : db.accounts[i]? = some a) :
    Table.sumOver (·.balance) (db.accounts.modify i (·.forfeit amount)) = db.savings - amount := by
  rw [Table.sumOver_modify ha]
  show db.savings - a.balance + (a.balance - amount) = _
  ring

theorem leg_accounts {params : LegParams} {r : LegResult}
    (h : Yields (postGlOnlyLegEntry params) db r db') : db'.accounts = db.accounts := by
  obtain ⟨_, ⟨rfl, _⟩ | ⟨_, _, rfl⟩⟩ := postGlOnlyLegEntry_cases h
  · rfl
  · rfl

theorem recoverFromGuarantor_debits {now : Int} {loanNumber attempt by' : String}
    {ty : AccountType} {al : RecoveryAllocation}
    (h : Yields (recoverFromGuarantor now loanId loanNumber ty attempt by' al) db n db') :
    db.savings - db'.savings = n ∧ (n : Int) ≤ max 0 al.deduction := by
  rcases FootprintLemmas.recoverFromGuarantor_takes h with ⟨rfl, rfl⟩ |
    ⟨id, _, a, amount, _, -, -, ha, hamount, hpos, rfl, -, _, _, _, _, _, _, _, htxn, hleg⟩
  · exact ⟨Int.sub_self _, Int.le_max_left _ _⟩
  obtain ⟨_, _, rfl⟩ := yields_createTransaction.mp htxn
  have hsavings : db'.savings = db.savings - amount := by
    unfold Db.savings
    rw [leg_accounts hleg]
    exact savings_forfeit ha
  rw [hsavings, Int.toNat_of_nonneg (Int.le_of_lt hpos)]
  refine ⟨Int.sub_sub_self _ _, ?_⟩
  calc amount ≤ min al.deduction a.balance := hamount ▸ Int.min_le_left _ _
    _ ≤ al.deduction := Int.min_le_left _ _
    _ ≤ max 0 al.deduction := Int.le_max_right _ _

theorem sumM_takes {α : Type} {f : α → Tx Nat} (cap : α → Int) {items : List α}
    (hf : ∀ a ∈ items, ∀ db n db', Yields (f a) db n db' →
      db.savings - db'.savings = n ∧ (n : Int) ≤ cap a)
    (h : Yields (sumM f items) db n db') :
    db.savings - db'.savings = n ∧ (n : Int) ≤ Table.sumOver cap items := by
  induction items generalizing db n with
  | nil =>
    obtain ⟨rfl, rfl⟩ := yields_pure.mp h
    exact ⟨Int.sub_self _, Int.le_refl 0⟩
  | cons a items ih =>
    simp only [sumM, yields_bind, yields_pure] at h
    obtain ⟨k, mid, hfirst, m, _, hrest, rfl, rfl⟩ := h
    obtain ⟨htake, hle⟩ := hf a List.mem_cons_self _ _ _ hfirst
    obtain ⟨htake', hle'⟩ := ih (fun b hb => hf b (List.mem_cons_of_mem a hb)) hrest
    rw [Table.sumOver_cons, Int.natCast_add]
    refine ⟨?_, Int.add_le_add hle hle'⟩
    rw [← htake, ← htake']
    ring

/-- A recovery takes what it reports: at most what it is asked for, and at most what is
recoverable. -/
theorem recovery_takes {now : Int} {amount : Nat} {actorId : String}
    (h : Yields (recoverFromGuarantors now loanId (ofUnits amount) actorId) db n db') :
    db.savings - db'.savings = n ∧ n ≤ amount ∧
      ∃ loan, db.loans[loanId]? = some loan ∧ (n : Int) ≤ db.recoverable loanId loan := by
  simp only [recoverFromGuarantors, yields_bind, yields_get, yields_ensure, yields_required,
    yields_uuidv4] at h
  obtain ⟨_, _, ⟨_, rfl⟩, attempt, drawn, ⟨rfl, rfl⟩, _, _, ⟨rfl, rfl⟩, loan, _, ⟨hloan, rfl⟩,
    _, _, ⟨_, rfl⟩, total, mid, hloop, h⟩ := h
  have hasked : toDecimalPlaces4 (ofUnits amount) = amount :=
    Rounding.roundTo_units (by decide) _
  rw [hasked] at hloop
  obtain ⟨htake, hle⟩ := sumM_takes (fun al => max 0 al.deduction)
    (fun al _ _ _ _ hy => recoverFromGuarantor_debits hy) hloop
  -- lowering the loan does not touch the accounts
  have hend : n = total ∧ db'.savings = mid.savings := by
    rcases yields_ite.mp h with ⟨_, h⟩ | ⟨_, h⟩
    · simp only [yields_bind, yields_modify, yields_pure] at h
      obtain ⟨_, _, rfl, rfl, rfl⟩ := h
      exact ⟨rfl, rfl⟩
    · obtain ⟨rfl, rfl⟩ := yields_pure.mp h
      exact ⟨rfl, rfl⟩
  obtain ⟨rfl, hsavings⟩ := hend
  rw [hsavings]
  refine ⟨htake, ?_, loan, hloan, ?_⟩
  · rw [allocateRecovery_eq] at hle
    exact Int.ofNat_le.mp (Int.le_trans hle (shareDebt_le_debt (Int.natCast_nonneg _)))
  · rw [recoverable_eq]
    rw [allocateRecovery_eq] at hle
    exact Int.le_trans hle shareDebt_le_capacity

/-! ## 4. The attempts -/

variable {payload : ExecuteGuarantorDebitJobPayload} {desk desk' : DebitDesk} {t : DebitTask}
  {t' : Option DebitTask} {now : Int}

/-- What the job has taken: nothing yet, or once, and nothing after that. -/
def DebitedOnce (payload : ExecuteGuarantorDebitJobPayload) (desk : DebitDesk) : Prop :=
  desk.debits = [] ∨ ∃ first later, desk.debits = first :: later ∧ first ≤ payload.defaultAmount ∧
    ∀ d ∈ later, d = 0

theorem next_debits (h : Yields (executeDelayedDebit payload t now) desk t' desk') :
    desk'.debits = desk.debits ∨
      ∃ (beforeRecovered : GuarantorAmounts) (n : Nat), t = .recover beforeRecovered ∧
        desk'.debits = desk.debits ++ [(n : Int)] ∧ n ≤ payload.defaultAmount ∧
        ∃ loan, desk.db.loans[payload.loanId]? = some loan ∧
          (n : Int) ≤ desk.db.recoverable payload.loanId loan := by
  cases t with
  | findLoan =>
    simp only [executeDelayedDebit, yields_bind, yields_get, yields_required, yields_pure] at h
    obtain ⟨_, _, ⟨rfl, rfl⟩, _, _, ⟨-, rfl⟩, -, rfl⟩ := h
    exact .inl rfl
  | recover beforeRecovered =>
    simp only [executeDelayedDebit, yields_bind, yields_get, yields_zoom, yields_modify,
      yields_pure] at h
    obtain ⟨_, _, ⟨rfl, rfl⟩, n, _, ⟨db', hrecover, rfl⟩, _, _, rfl, -, rfl⟩ := h
    obtain ⟨htake, hasked, hloan⟩ := recovery_takes hrecover
    refine .inr ⟨beforeRecovered, n, rfl, ?_, hasked, hloan⟩
    show desk.debits ++ [desk.db.savings - db'.savings] = _
    rw [htake]
  | findUpdated beforeRecovered =>
    simp only [executeDelayedDebit, yields_bind, yields_get, yields_pure] at h
    obtain ⟨_, _, ⟨rfl, rfl⟩, -, rfl⟩ := h
    exact .inl rfl
  | auditSkipped | acquireLock beforeRecovered | releaseLock beforeRecovered | auditExecuted =>
    obtain ⟨-, rfl⟩ := yields_pure.mp h
    exact .inl rfl
  | notify deducted =>
    cases deducted with
    | nil | cons row deducted =>
      obtain ⟨-, rfl⟩ := yields_pure.mp h
      exact .inl rfl

theorem exhausted_recoverable {db : Db} {loanId : Nat} {loan : Loan}
    (h : db.exhausted loanId = true) (hloan : db.loans[loanId]? = some loan) :
    db.recoverable loanId loan = 0 := by
  unfold Db.exhausted at h
  rw [hloan, Option.all_some, decide_eq_true_eq] at h
  exact h

theorem next_debitedOnce (h : DebitedOnce payload desk)
    (hg : ∀ beforeRecovered, t = .recover beforeRecovered →
      (desk.debits.isEmpty || desk.db.exhausted payload.loanId) = true)
    (hy : Yields (executeDelayedDebit payload t now) desk t' desk') :
    DebitedOnce payload desk' := by
  rcases next_debits hy with hsame | ⟨beforeRecovered, n, ht, hdebits, hasked, loan, hloan, hle⟩
  · unfold DebitedOnce
    rw [hsame]
    exact h
  · rcases h with hnone | ⟨first, later, hfirst, hle', hlater⟩
    · -- the first recovery
      refine .inr ⟨n, [], ?_, Int.ofNat_le.mpr hasked, fun d hd => absurd hd List.not_mem_nil⟩
      rw [hdebits, hnone]
      rfl
    · -- a later one, which the guard says finds nothing
      have hexhausted : desk.db.exhausted payload.loanId = true := by
        have hor := hg beforeRecovered ht
        rw [hfirst] at hor
        exact hor
      rw [exhausted_recoverable hexhausted hloan] at hle
      have hzero : (n : Int) = 0 := Int.le_antisymm hle (Int.natCast_nonneg n)
      refine .inr ⟨first, later ++ [0], ?_, hle', Table.forall_append_one hlater rfl⟩
      rw [hdebits, hfirst, hzero]
      rfl

theorem step_debitedOnce {w : DebitWorld} {e : DebitEvent} (h : DebitedOnce payload w.state)
    (hg : w.recoversOnce payload e = true) : DebitedOnce payload (w.step payload e).state := by
  refine RetriedJob.step_keeps h (fun input t t' s he hat hy => ?_) fun op => h
  subst he
  obtain ⟨made, hphase⟩ := hat
  refine next_debitedOnce h (fun beforeRecovered ht => ?_) hy
  subst ht
  simp only [DebitWorld.recoversOnce, hphase] at hg
  exact hg

theorem debited_of_once (h : DebitedOnce payload desk) :
    desk.debited ≤ payload.defaultAmount ∧ desk.debited = desk.debitedOnce := by
  unfold DebitDesk.debited DebitDesk.debitedOnce
  rcases h with hnone | ⟨first, later, hfirst, hle, hlater⟩
  · rw [hnone]
    exact ⟨Int.natCast_nonneg _, rfl⟩
  · have hsum : (first :: later).sum = first := by
      rw [List.sum_cons, List.sum_eq_zero hlater, Int.add_zero]
    rw [hfirst, hsum]
    exact ⟨hle, rfl⟩

end GuarantorDebitLemmas

open GuarantorDebitLemmas

/-- In every run of a debit job, with any failures of its attempts and any operations of others in
between, in which no attempt recovers after another one unless nothing is recoverable: the job
takes at most its amount, and no more than if it had run once. -/
theorem debit_once {db : Db} {payload : ExecuteGuarantorDebitJobPayload} {events : List DebitEvent}
    (hg : Machine.Guarded (DebitWorld.step payload)
      (fun w e => DebitWorld.recoversOnce payload w e = true) (DebitWorld.opening db) events) :
    ((DebitWorld.opening db).after payload events).state.debited ≤ payload.defaultAmount ∧
      ((DebitWorld.opening db).after payload events).state.debited =
        ((DebitWorld.opening db).after payload events).state.debitedOnce :=
  debited_of_once (Machine.run_induct (I := fun w => DebitedOnce payload w.state)
    (fun _ _ h hg => step_debitedOnce h hg) (.inl rfl) hg)

/-! ### A failed enqueue -/

/-- Member 1 has guaranteed the loan of KES 100 with all of its FOSA savings, and the loan is in
default. -/
def exDefaulted : Db :=
  { exSacco with
    accounts := exSacco.accounts.modify 2 fun a =>
      { a with balance := 1000000, frozenSavings := 1000000 }
    loans := [{ exLoan with status := .defaulted }]
    loanGuarantors :=
      [{ (⟨1, 1000000⟩ : Nomination).invited 0 0 with
         status := .accepted
         respondedAt := some 0
         holdPlacedAt := some 0 }] }

/-- The job is to debit KES 30. -/
def exDebit : ExecuteGuarantorDebitJobPayload where
  loanId := 0
  actorId := "A"
  defaultAmount := 300000

/-- An attempt up to its recovery, and the rest of one that completes. -/
def exRecovers : List DebitEvent := [.pick, .advance 0, .advance 0, .advance 0]

def exCompletes : List DebitEvent := List.replicate 5 (.advance 0)

/-- The first attempt is lost with the lock in its hand, the second one completes. -/
theorem debit_once_retried :
    ((DebitWorld.opening exDefaulted).after exDebit
        ([.pick, .advance 0, .throw] ++ exRecovers ++ exCompletes)).state.debited ≤
      exDebit.defaultAmount ∧
    ((DebitWorld.opening exDefaulted).after exDebit
        ([.pick, .advance 0, .throw] ++ exRecovers ++ exCompletes)).state.debited =
      ((DebitWorld.opening exDefaulted).after exDebit
        ([.pick, .advance 0, .throw] ++ exRecovers ++ exCompletes)).state.debitedOnce :=
  debit_once (by decide +kernel)

/-- The recovery has committed and the enqueue of a message fails. -/
def exUntold : List DebitEvent :=
  exRecovers ++ [.advance 0, .advance 0, .throw] ++ exRecovers ++ exCompletes

/-- The next attempt takes KES 30 again, and the job completes. -/
theorem retry_debits_again :
    ¬ ((DebitWorld.opening exDefaulted).after exDebit exUntold).state.debited ≤
        exDebit.defaultAmount ∧
    ((DebitWorld.opening exDefaulted).after exDebit exUntold).state.debited ≠
      ((DebitWorld.opening exDefaulted).after exDebit exUntold).state.debitedOnce ∧
    ((DebitWorld.opening exDefaulted).after exDebit exUntold).state.debits = [300000, 300000] ∧
    ((DebitWorld.opening exDefaulted).after exDebit exUntold).phase = .completed := by
  decide +kernel

end BebaSacco
