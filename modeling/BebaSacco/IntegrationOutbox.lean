import BebaSacco.Lib.Json
import BebaSacco.Lib.Table
import BebaSacco.Lib.TaskWeights
import BebaSacco.Outbox
import Mathlib.Algebra.Group.Int.Defs

/-! # The integration outbox

Business logic leaves an entry in the integration outbox. Every 30 seconds a run of the publisher
reads the entries that are due and takes each in turn: it marks the entry PROCESSING, hands it to
the queue of its type and marks it DELIVERED, or FAILED with a time for the next try. It writes by
id, from what it read at its start, and runs may overlap. An entry that has used up its attempts is
dead-lettered, until somebody retries it by hand.

Each statement commits alone. A call to the database or to a queue is done, fails, or is done and
reports an error because its answer is lost.

Results:
 1. `upheld_entries`: what holds of each entry and of what a call knows about it.
 2. `integration_entries_sound`: an entry that was not handed over is in a status that is picked up
    or dead-lettered or is with a run, it is handed over `maxAttempts` times at most between retries
    by hand, and never again once it is delivered, when no call writes an entry that another has
    written since and no run is lost with an entry that it was about to hand over.
 3. `integration_entry_stranded`: a run that is lost leaves an entry that no run picks up, and of two
    runs that overlap the second hands over what the first has delivered.
-/

namespace BebaSacco

open Txn Process

/-- What happened to an entry. -/
inductive EntryMark where
  | processing
  | handed
  | delivered
  | failed
  | deadLettered
  | retried
  deriving DecidableEq, Repr

/-- A row of the outbox; `history` is what happened to it, the last first. -/
structure IntegrationOutbox where
  tenantId : String
  idempotencyKey : String
  integrationType : String
  payload : Json.Fields
  status : OutboxStatus := .pending
  attempts : Nat := 0
  maxAttempts : Int
  lastError : Option String := none
  nextRetryAt : Option Int := none
  processedAt : Option Int := none
  deadLetteredAt : Option Int := none
  history : List EntryMark := []

structure CreateEntry where
  tenantId : String
  idempotencyKey : String
  integrationType : String
  payload : Json.Fields
  maxAttempts : Option Int := none

/-- A job of one of the three queues. -/
inductive IntegrationJob where
  | crbExport (tenantId : String) (reportId : Option Json) (outboxId : Nat)
  | amlScreen (tenantId : String) (screeningId memberId trigger triggerRef : Option Json)
  | notify (payload : Json.Fields)

structure IntegrationDesk where
  entries : List IntegrationOutbox
  jobs : List IntegrationJob

inductive IntegrationCall where
  | createEntry (params : CreateEntry)
  | publishPendingEntries
  | retryDeadLetter (outboxId : Nat) (tenantId : String)

/-- Where a call is; `entry` is as the run has read it, `batch` are the entries after it, and `seen`
is the history of the entry when the call last read or wrote it. -/
inductive IntegrationTask where
  | create (params : CreateEntry)
  | findEntries
  | markDeadLetter (id : Nat) (entry : IntegrationOutbox) (batch : List (Nat × IntegrationOutbox))
  | markProcessing (id : Nat) (entry : IntegrationOutbox) (batch : List (Nat × IntegrationOutbox))
  | routeToQueue (id : Nat) (entry : IntegrationOutbox) (batch : List (Nat × IntegrationOutbox))
      (seen : List EntryMark)
  | markDelivered (id : Nat) (entry : IntegrationOutbox) (batch : List (Nat × IntegrationOutbox))
      (seen : List EntryMark)
  | markFailed (id : Nat) (entry : IntegrationOutbox) (batch : List (Nat × IntegrationOutbox))
      (seen : List EntryMark) (error : String)
  | findDeadLetter (outboxId : Nat) (tenantId : String)
  | updateRetried (outboxId : Nat) (seen : List EntryMark)

inductive CallOutcome where
  | done
  | failed
  | lost
  deriving DecidableEq, Repr

/-- The clock, and what becomes of the call to the database or the queue. -/
structure IntegrationInput where
  now : Int
  outcome : CallOutcome
  error : String := ""

abbrev IntegrationWorld := World IntegrationDesk IntegrationTask

abbrev IntegrationEvent := Event IntegrationCall IntegrationInput

/-! ## 1. What the calls do -/

/-- The entry is in a status that the publisher looks for. -/
def IntegrationOutbox.pickable (e : IntegrationOutbox) : Bool :=
  e.status == .pending || e.status == .failed

def IntegrationOutbox.due (now : Int) (e : IntegrationOutbox) : Bool :=
  e.pickable && e.nextRetryAt.all (· ≤ now)

/-- The job of an entry; an unknown type has none. -/
def IntegrationOutbox.job (id : Nat) (e : IntegrationOutbox) : Option IntegrationJob :=
  match e.integrationType with
  | "CRB_EXPORT" => some (.crbExport e.tenantId (e.payload.lookup "reportId") id)
  | "AML_SCREEN" =>
    some (.amlScreen e.tenantId (e.payload.lookup "screeningId") (e.payload.lookup "memberId")
      (e.payload.lookup "trigger") (e.payload.lookup "triggerRef"))
  | "NOTIFY" => some (.notify e.payload)
  | _ => none

namespace IntegrationDesk

/-- A statement that writes one entry. -/
def write (d : IntegrationDesk) (id : Nat) (mark : EntryMark)
    (f : IntegrationOutbox → IntegrationOutbox) : IntegrationDesk :=
  { d with entries := d.entries.modify id fun e => { f e with history := mark :: e.history } }

def handOver (d : IntegrationDesk) (id : Nat) (job : IntegrationJob) : IntegrationDesk :=
  { d with jobs := d.jobs ++ [job] }.write id .handed fun e => e

end IntegrationDesk

/-- The run takes the next entry of its batch, by what it has read. -/
def publishNext : List (Nat × IntegrationOutbox) → Option IntegrationTask
  | [] => none
  | (id, entry) :: batch =>
    if entry.maxAttempts ≤ entry.attempts then some (.markDeadLetter id entry batch)
    else some (.markProcessing id entry batch)

/-- The statement is done, fails, or is done with its answer lost: the run goes on to the point for
that. -/
def reply (input : IntegrationInput) (f : IntegrationDesk → IntegrationDesk)
    (goesOn lost failed : Option IntegrationTask) :
    Txn IntegrationDesk Err (Option IntegrationTask) := do
  match input.outcome with
  | .done => do
    modify f
    return goesOn
  | .lost => do
    modify f
    return lost
  | .failed => return failed

def IntegrationTask.next (t : IntegrationTask) (input : IntegrationInput) :
    Txn IntegrationDesk Err (Option IntegrationTask) := do
  let d ← get
  match t with
  | .create params => do
    ensure (∀ e ∈ d.entries, e.idempotencyKey ≠ params.idempotencyKey)
      (.uniqueViolation "IntegrationOutbox_idempotencyKey_key")
    let entry : IntegrationOutbox :=
      { tenantId := params.tenantId
        idempotencyKey := params.idempotencyKey
        integrationType := params.integrationType
        payload := params.payload
        status := .pending
        maxAttempts := params.maxAttempts.getD 5 }
    modify fun d => { d with entries := d.entries ++ [entry] }
    return none
  | .findEntries => return publishNext ((Table.selectRows (·.due input.now) d.entries).take 100)
  | .markDeadLetter id entry batch =>
    reply input
      (·.write id .deadLettered fun e =>
        { e with
          status := .deadLetter
          deadLetteredAt := some input.now
          lastError := some s!"Max attempts ({entry.maxAttempts}) exceeded" })
      (publishNext batch)
      (some (.markFailed id entry batch (.deadLettered :: entry.history) input.error))
      (some (.markFailed id entry batch entry.history input.error))
  | .markProcessing id entry batch =>
    reply input
      (·.write id .processing fun e =>
        { e with status := .processing, attempts := e.attempts + 1 })
      (some (.routeToQueue id entry batch (.processing :: entry.history)))
      (some (.markFailed id entry batch (.processing :: entry.history) input.error))
      (some (.markFailed id entry batch entry.history input.error))
  | .routeToQueue id entry batch seen => do
    match entry.job id with
    | some job =>
      reply input (·.handOver id job)
        (some (.markDelivered id entry batch (.handed :: seen)))
        (some (.markFailed id entry batch (.handed :: seen) input.error))
        (some (.markFailed id entry batch seen input.error))
    | none =>
      return some (.markFailed id entry batch seen
        s!"Unknown integration type: {entry.integrationType}")
  | .markDelivered id entry batch seen =>
    reply input
      (·.write id .delivered fun e =>
        { e with status := .delivered, processedAt := some input.now })
      (publishNext batch)
      (some (.markFailed id entry batch (.delivered :: seen) input.error))
      (some (.markFailed id entry batch seen input.error))
  | .markFailed id entry batch _ error => do
    -- exponential backoff; nothing catches an error of this statement
    ensure (input.outcome ≠ .failed) (.serviceUnavailable input.error)
    modify (·.write id .failed fun e =>
      { e with
        status := .failed
        lastError := some error
        nextRetryAt := some (input.now + 2 ^ entry.attempts * 5000) })
    return if input.outcome = .lost then none else publishNext batch
  | .findDeadLetter outboxId tenantId => do
    let entry ← required d.entries[outboxId]?
      (.notFound "Outbox entry not found or not in DEAD_LETTER status")
    ensure (entry.tenantId = tenantId ∧ entry.status = .deadLetter)
      (.notFound "Outbox entry not found or not in DEAD_LETTER status")
    return some (.updateRetried outboxId entry.history)
  | .updateRetried outboxId _ => do
    ensure (input.outcome ≠ .failed) (.serviceUnavailable input.error)
    modify (·.write outboxId .retried fun e =>
      { e with
        status := .pending
        attempts := 0
        nextRetryAt := none
        deadLetteredAt := none
        lastError := none })
    return none

def IntegrationCall.entry : IntegrationCall → IntegrationTask
  | .createEntry params => .create params
  | .publishPendingEntries => .findEntries
  | .retryDeadLetter outboxId tenantId => .findDeadLetter outboxId tenantId

def integrationProgram :
    Program IntegrationDesk Err IntegrationCall IntegrationInput IntegrationTask :=
  ⟨IntegrationCall.entry, IntegrationTask.next⟩

def IntegrationWorld.opening : IntegrationWorld := ⟨⟨[], []⟩, []⟩

def IntegrationWorld.after (w : IntegrationWorld) (events : List IntegrationEvent) :
    IntegrationWorld :=
  Machine.run integrationProgram.step w events

/-! ## 2. The properties and the condition -/

/-- How often the entry was handed over since it was last retried by hand. -/
def handedSinceRetry (history : List EntryMark) : Nat :=
  (history.takeWhile (· != .retried)).count .handed

/-- No hand-over comes after a delivery. -/
def settledOnce : List EntryMark → Bool
  | [] => true
  | mark :: history => (mark != .handed || !history.contains .delivered) && settledOnce history

/-- A run has marked the entry and has neither handed it over nor put it back. -/
def IntegrationOutbox.unhanded (e : IntegrationOutbox) : Bool :=
  e.status == .processing && handedSinceRetry e.history == 0

def IntegrationDesk.unhanded (d : IntegrationDesk) (id : Nat) : Bool :=
  d.entries[id]?.any (·.unhanded)

/-- The entry that a run has marked, and is about to hand over or to put back. -/
def IntegrationTask.engagedWith : IntegrationTask → Option Nat
  | .routeToQueue id _ _ _ | .markFailed id _ _ _ _ => some id
  | _ => none

/-- The entry is picked up by a later run, or dead-lettered, or a run is at it. -/
def IntegrationWorld.Kept (w : IntegrationWorld) (id : Nat) (e : IntegrationOutbox) : Prop :=
  e.pickable = true ∨ e.status = .deadLetter ∨ ∃ i t, w.At i t ∧ t.engagedWith = some id

structure IntegrationWorld.Sound (w : IntegrationWorld) : Prop where
  kept : ∀ id e, w.state.entries[id]? = some e → handedSinceRetry e.history = 0 → w.Kept id e
  attempts : ∀ e ∈ w.state.entries, handedSinceRetry e.history ≤ e.maxAttempts.toNat
  delivered : ∀ e ∈ w.state.entries, settledOnce e.history = true

/-- Nothing has happened to the entry since the call has read or written it. -/
def IntegrationDesk.unchanged (d : IntegrationDesk) (id : Nat) (seen : List EntryMark) : Bool :=
  d.entries[id]?.any (·.history == seen)

/-- The condition on a statement: it writes or hands over no entry that has changed meanwhile, the
answer of a delivery is not lost, and an entry that was not handed over is put back. -/
def IntegrationTask.orderly (input : IntegrationInput) (d : IntegrationDesk) :
    IntegrationTask → Bool
  | .markDeadLetter id entry _ | .markProcessing id entry _ =>
    input.outcome == .failed || d.unchanged id entry.history
  | .routeToQueue id entry _ seen =>
    input.outcome == .failed || (entry.job id).isNone || d.unchanged id seen
  | .markDelivered id _ _ seen =>
    input.outcome == .failed || (input.outcome == .done && d.unchanged id seen)
  | .markFailed id _ _ seen _ =>
    if input.outcome = .failed then !d.unhanded id else d.unchanged id seen
  | .updateRetried id seen => input.outcome == .failed || d.unchanged id seen
  | .create _ | .findEntries | .findDeadLetter _ _ => true

/-- The condition on an event. -/
def IntegrationWorld.orderly (w : IntegrationWorld) : IntegrationEvent → Bool
  | .advance i input => (w.task i).all (·.orderly input w.state)
  | .crash i => (w.task i).all fun t => t.engagedWith.all fun id => !w.state.unhanded id
  | .start _ => true

namespace IntegrationLemmas

variable {d d' : IntegrationDesk} {w : IntegrationWorld} {t : IntegrationTask}
  {t' : Option IntegrationTask} {input : IntegrationInput} {e : IntegrationOutbox} {id j : Nat}
  {mark : EntryMark} {f : IntegrationOutbox → IntegrationOutbox} {seen : List EntryMark}
  {φ ψ : IntegrationOutbox → Prop}

/-! ## 3. An entry since it was read -/

/-- The entry has the history that was seen, or a longer one; in the first case `φ` holds. -/
def Since (d : IntegrationDesk) (id : Nat) (seen : List EntryMark) (φ : IntegrationOutbox → Prop) :
    Prop :=
  ∃ e, d.entries[id]? = some e ∧ seen.length ≤ e.history.length ∧ (e.history = seen → φ e)

theorem since_found (h : d.entries[id]? = some e) (hφ : φ e) : Since d id e.history φ :=
  ⟨e, h, Nat.le_refl _, fun _ => hφ⟩

theorem since_mono (h : Since d id seen φ) (himp : ∀ e, φ e → ψ e) : Since d id seen ψ := by
  obtain ⟨e, he, hle, hφ⟩ := h
  exact ⟨e, he, hle, fun hseen => himp e (hφ hseen)⟩

/-- What was seen of an entry that has not changed holds of it. -/
theorem since_unchanged (h : Since d id seen φ) (hunchanged : d.unchanged id seen = true) :
    ∃ e, d.entries[id]? = some e ∧ e.history = seen ∧ φ e := by
  obtain ⟨e, he, -, hφ⟩ := h
  unfold IntegrationDesk.unchanged at hunchanged
  rw [he, Option.any_some, beq_iff_eq] at hunchanged
  exact ⟨e, he, hunchanged, hφ hunchanged⟩

theorem write_self (h : d.entries[id]? = some e) :
    (d.write id mark f).entries[id]? = some { f e with history := mark :: e.history } :=
  Table.getElem?_modify_self h

theorem write_other (h : id ≠ j) : (d.write id mark f).entries[j]? = d.entries[j]? :=
  Table.getElem?_modify_other h

/-- An entry that is written has a longer history than the one that was seen. -/
theorem since_write (h : Since d j seen φ) : Since (d.write id mark f) j seen φ := by
  obtain ⟨e, he, hle, hφ⟩ := h
  by_cases hij : id = j
  · subst hij
    refine ⟨_, write_self he, Nat.le_succ_of_le hle, fun hseen => ?_⟩
    have hlength : (mark :: e.history).length = seen.length := congrArg List.length hseen
    rw [List.length_cons] at hlength
    omega
  · exact ⟨e, by rw [write_other hij]; exact he, hle, hφ⟩

theorem since_own (h : d.entries[id]? = some e) (hseen : e.history = seen)
    (hφ : φ { f e with history := mark :: e.history }) :
    Since (d.write id mark f) id (mark :: seen) φ := by
  subst hseen
  exact ⟨_, write_self h, Nat.le_refl _, fun _ => hφ⟩

/-! ## 4. The assertions -/

/-- What holds of an entry between two statements. -/
structure Consistent (e : IntegrationOutbox) : Prop where
  handed : handedSinceRetry e.history ≤ e.attempts
  attempts : e.attempts ≤ e.maxAttempts.toNat
  delivered : .delivered ∈ e.history → e.status = .delivered
  arrived : e.status = .delivered → handedSinceRetry e.history ≠ 0
  settled : settledOnce e.history = true

def Entries (d : IntegrationDesk) : Prop := ∀ e ∈ d.entries, Consistent e

/-- A run knows the entries of its batch as they were. -/
def Batch (d : IntegrationDesk) (batch : List (Nat × IntegrationOutbox)) : Prop :=
  ∀ r ∈ batch, r.2.pickable = true ∧ Since d r.1 r.2.history fun e => e = r.2

/-- What a call knows of the entry that it is at. -/
def Knows (d : IntegrationDesk) : IntegrationTask → Prop
  | .create _ | .findEntries | .findDeadLetter _ _ => True
  | .markDeadLetter id entry batch => Batch d ((id, entry) :: batch)
  | .markProcessing id entry batch =>
    Batch d ((id, entry) :: batch) ∧ entry.attempts < entry.maxAttempts.toNat
  | .routeToQueue id _ batch seen =>
    Batch d batch ∧ Since d id seen fun e =>
      handedSinceRetry e.history < e.attempts ∧ .delivered ∉ e.history
  | .markDelivered id _ batch seen =>
    Batch d batch ∧ Since d id seen fun e =>
      handedSinceRetry e.history ≠ 0 ∧ .delivered ∉ e.history
  | .markFailed id _ batch seen _ =>
    Batch d batch ∧ Since d id seen fun e => .delivered ∉ e.history
  | .updateRetried id seen => Since d id seen fun e => e.status = .deadLetter

theorem batch_write {batch : List (Nat × IntegrationOutbox)} (h : Batch d batch) :
    Batch (d.write id mark f) batch :=
  fun r hr => ⟨(h r hr).1, since_write (h r hr).2⟩

theorem knows_mono (hsince : ∀ id seen (φ : IntegrationOutbox → Prop), Since d id seen φ →
    Since d' id seen φ) (h : Knows d t) : Knows d' t := by
  have hbatch : ∀ {batch}, Batch d batch → Batch d' batch := by
    intro batch hb r hr
    exact ⟨(hb r hr).1, hsince _ _ _ (hb r hr).2⟩
  cases t with
  | create _ | findEntries | findDeadLetter _ _ => trivial
  | markDeadLetter _ _ _ => exact hbatch h
  | markProcessing _ _ _ => exact ⟨hbatch h.1, h.2⟩
  | routeToQueue _ _ _ _ => exact ⟨hbatch h.1, hsince _ _ _ h.2⟩
  | markDelivered _ _ _ _ => exact ⟨hbatch h.1, hsince _ _ _ h.2⟩
  | markFailed _ _ _ _ _ => exact ⟨hbatch h.1, hsince _ _ _ h.2⟩
  | updateRetried _ _ => exact hsince _ _ _ h

theorem knows_next {batch : List (Nat × IntegrationOutbox)} (h : Batch d batch)
    (u : IntegrationTask) (hu : publishNext batch = some u) : Knows d u := by
  cases batch with
  | nil => cases hu
  | cons r batch =>
    obtain ⟨id, entry⟩ := r
    simp only [publishNext] at hu
    split at hu
    · cases hu
      exact h
    · cases hu
      exact ⟨h, by omega⟩

theorem entries_write (h : Entries d)
    (hf : ∀ e, d.entries[id]? = some e → Consistent e →
      Consistent { f e with history := mark :: e.history }) : Entries (d.write id mark f) := by
  intro e' he'
  obtain ⟨j, hj⟩ := List.mem_iff_getElem?.mp he'
  obtain ⟨e, he, heq⟩ := Table.getElem?_modify_some hj
  rw [heq]
  split
  · next hij =>
    subst hij
    exact hf e he (h e (List.mem_of_getElem? he))
  · exact h e (List.mem_of_getElem? he)

theorem handed_cons (hmark : mark ≠ .retried) (history : List EntryMark) :
    handedSinceRetry (mark :: history) =
      handedSinceRetry history + if mark = .handed then 1 else 0 := by
  unfold handedSinceRetry
  rw [List.takeWhile_cons, if_pos (bne_iff_ne.mpr hmark), List.count_cons]
  simp only [beq_iff_eq]

/-- An entry that was not delivered gets a mark other than a hand-over, and keeps its attempts or
has one more, or none since it is retried. -/
theorem consistent_mark {e' : IntegrationOutbox} (h : Consistent e)
    (hdelivered : .delivered ∉ e.history) (hhistory : e'.history = mark :: e.history)
    (hhanded : mark ≠ .handed) (hmark : mark = .delivered ↔ e'.status = .delivered)
    (harrived : mark = .delivered → handedSinceRetry e.history ≠ 0)
    (hattempts : mark = .retried ∨ e.attempts ≤ e'.attempts)
    (hmax : e'.attempts ≤ e'.maxAttempts.toNat) : Consistent e' := by
  have hcount : mark ≠ .retried → handedSinceRetry e'.history = handedSinceRetry e.history := by
    intro hretried
    rw [hhistory, handed_cons hretried, if_neg hhanded, Nat.add_zero]
  refine ⟨?_, hmax, fun hmem => ?_, fun hstatus => ?_, ?_⟩
  · by_cases hretried : mark = .retried
    · rw [hhistory, hretried]
      exact Nat.zero_le _
    · rw [hcount hretried]
      exact Nat.le_trans h.handed (hattempts.resolve_left hretried)
  · rw [hhistory] at hmem
    rcases List.mem_cons.mp hmem with hnew | hold
    · exact hmark.mp hnew.symm
    · exact absurd hold hdelivered
  · have hdeliver := hmark.mpr hstatus
    rw [hcount fun hretried => by cases hdeliver.symm.trans hretried]
    exact harrived hdeliver
  · rw [hhistory]
    simp only [settledOnce, h.settled, Bool.and_true, Bool.or_eq_true, bne_iff_ne]
    exact .inl hhanded

/-- An entry that was not delivered is handed over for an attempt that is counted. -/
theorem consistent_handed (h : Consistent e) (hless : handedSinceRetry e.history < e.attempts)
    (hdelivered : .delivered ∉ e.history) :
    Consistent { e with history := .handed :: e.history } := by
  have hcount : handedSinceRetry (.handed :: e.history) = handedSinceRetry e.history + 1 :=
    handed_cons (by decide) e.history
  refine ⟨hcount.trans_le hless, h.attempts, fun hmem => ?_, fun _ => ?_, ?_⟩
  · rcases List.mem_cons.mp hmem with hnew | hold
    · cases hnew
    · exact absurd hold hdelivered
  · rw [hcount]
    exact Nat.succ_ne_zero _
  · simp only [settledOnce, h.settled, Bool.and_true, Bool.or_eq_true, Bool.not_eq_true',
      List.contains_eq_mem, decide_eq_false_iff_not]
    exact .inr hdelivered

theorem undelivered_of_status (h : Consistent e) (hstatus : e.status ≠ .delivered) :
    .delivered ∉ e.history :=
  fun hmem => hstatus (h.delivered hmem)

theorem undelivered_of_pickable (h : Consistent e) (hpickable : e.pickable = true) :
    .delivered ∉ e.history := by
  refine undelivered_of_status h fun hstatus => ?_
  unfold IntegrationOutbox.pickable at hpickable
  rw [hstatus] at hpickable
  cases hpickable

/-! ## 5. One statement -/

theorem yields_reply {g : IntegrationDesk → IntegrationDesk}
    {goesOn lost failed : Option IntegrationTask} :
    Yields (reply input g goesOn lost failed) d t' d' ↔
      (input.outcome = .done ∧ t' = goesOn ∧ d' = g d) ∨
      (input.outcome = .lost ∧ t' = lost ∧ d' = g d) ∨
      (input.outcome = .failed ∧ t' = failed ∧ d' = d) := by
  unfold reply
  cases input.outcome <;> simp [-bind_pure_comp, eq_comm]

theorem reply_commits (input : IntegrationInput) (g : IntegrationDesk → IntegrationDesk)
    (goesOn lost failed : Option IntegrationTask) (d : IntegrationDesk) :
    ∃ t' d', Yields (reply input g goesOn lost failed) d t' d' := by
  unfold reply
  cases input.outcome with
  | done => exact ⟨_, _, rfl⟩
  | failed => exact ⟨_, _, rfl⟩
  | lost => exact ⟨_, _, rfl⟩

/-- What one statement does to an entry, and what its call knows afterwards. -/
structure Does (d : IntegrationDesk) (t : IntegrationTask) (t' : Option IntegrationTask)
    (d' : IntegrationDesk) : Prop where
  entries : Entries d'
  knows : ∀ u, t' = some u → Knows d' u
  since : ∀ id seen (φ : IntegrationOutbox → Prop), Since d id seen φ → Since d' id seen φ
  tends : ∀ id, d'.unhanded id = true → (∃ u, t' = some u ∧ u.engagedWith = some id) ∨
    (d.unhanded id = true ∧ t.engagedWith ≠ some id)

theorem unhanded_write (hj : (d.write id mark f).unhanded j = true) (hne : id ≠ j) :
    d.unhanded j = true := by
  unfold IntegrationDesk.unhanded at hj ⊢
  rw [write_other hne] at hj
  exact hj

/-- A statement that does nothing to any entry. -/
theorem does_quiet (h : Entries d) (hknows : ∀ u, t' = some u → Knows d u)
    (htends : ∀ id, t.engagedWith = some id → ∃ u, t' = some u ∧ u.engagedWith = some id) :
    Does d t t' d := by
  refine ⟨h, hknows, fun _ _ _ hs => hs, fun id hid => ?_⟩
  by_cases ht : t.engagedWith = some id
  · exact .inl (htends id ht)
  · exact .inr ⟨hid, ht⟩

theorem does_write (h : Entries d) (he : d.entries[id]? = some e)
    (hentry : Consistent e → Consistent { f e with history := mark :: e.history })
    (hknows : ∀ u, t' = some u → Knows (d.write id mark f) u)
    (htask : ∀ j, t.engagedWith = some j → j = id)
    (htends : (∃ u, t' = some u ∧ u.engagedWith = some id) ∨
      IntegrationOutbox.unhanded { f e with history := mark :: e.history } = false) :
    Does d t t' (d.write id mark f) := by
  refine ⟨entries_write h fun e' he' => ?_, hknows, fun _ _ _ => since_write, fun j hj => ?_⟩
  · cases Option.some.inj (he.symm.trans he')
    exact hentry
  · by_cases hij : id = j
    · subst hij
      refine .inl (htends.resolve_right fun hfalse => ?_)
      unfold IntegrationDesk.unhanded at hj
      rw [write_self he, Option.any_some, hfalse] at hj
      cases hj
    · exact .inr ⟨unhanded_write hj hij, fun ht => hij (htask j ht).symm⟩

theorem batch_rest {r : Nat × IntegrationOutbox} {batch : List (Nat × IntegrationOutbox)}
    (h : Batch d (r :: batch)) : Batch d batch :=
  fun r' hr' => h r' (List.mem_cons_of_mem r hr')

theorem does_create {params : CreateEntry} (h : Entries d)
    (hy : Yields (IntegrationTask.next (.create params) input) d t' d') :
    Does d (.create params) t' d' := by
  simp only [IntegrationTask.next, yields_bind, yields_get, yields_ensure, yields_modify,
    yields_pure] at hy
  obtain ⟨_, _, ⟨rfl, rfl⟩, _, _, ⟨-, rfl⟩, _, _, rfl, rfl, rfl⟩ := hy
  refine ⟨fun e he => ?_, fun u hu => (by cases hu), fun id seen φ hs => ?_, fun id hid => ?_⟩
  · rcases List.mem_append.mp he with hold | hnew
    · exact h e hold
    · cases List.mem_singleton.mp hnew
      exact ⟨Nat.le_refl _, Nat.zero_le _, fun hmem => (by cases hmem), fun hs => (by cases hs), rfl⟩
  · obtain ⟨e, he, hs⟩ := hs
    exact ⟨e, Table.getElem?_append_one_old he, hs⟩
  · refine .inr ⟨?_, fun ht => (by cases ht)⟩
    unfold IntegrationDesk.unhanded at hid ⊢
    obtain ⟨e, he, hunhanded⟩ := (Option.any_eq_true _ _).mp hid
    rcases Table.getElem?_append_one_some he with hold | ⟨-, rfl⟩
    · exact (Option.any_eq_true _ _).mpr ⟨e, hold, hunhanded⟩
    · cases hunhanded

theorem does_find (h : Entries d)
    (hy : Yields (IntegrationTask.next .findEntries input) d t' d') :
    Does d .findEntries t' d' := by
  simp only [IntegrationTask.next, yields_bind, yields_get, yields_pure] at hy
  obtain ⟨_, _, ⟨rfl, rfl⟩, rfl, rfl⟩ := hy
  refine does_quiet h (fun u hu => knows_next (fun r hr => ?_) u hu) fun id hid => by cases hid
  obtain ⟨hrow, hdue⟩ := Table.mem_selectRows.mp (List.mem_of_mem_take hr)
  unfold IntegrationOutbox.due at hdue
  exact ⟨(Bool.and_eq_true_iff.mp hdue).1, since_found hrow rfl⟩

theorem does_of_entries {d₁ : IntegrationDesk} (h : Does d t t' d₁) (heq : d'.entries = d₁.entries) :
    Does d t t' d' := by
  have hsince : ∀ id seen (φ : IntegrationOutbox → Prop), Since d₁ id seen φ →
      Since d' id seen φ := by
    intro id seen φ hs
    unfold Since at hs ⊢
    rw [heq]
    exact hs
  refine ⟨fun e he => h.entries e (heq ▸ he), fun u hu => knows_mono hsince (h.knows u hu),
    fun id seen φ hs => hsince id seen φ (h.since id seen φ hs), fun id hid => h.tends id ?_⟩
  unfold IntegrationDesk.unhanded at hid ⊢
  rw [← heq]
  exact hid

theorem since_entries (h : Entries d) (hs : Since d id seen φ) :
    Since d id seen fun e => φ e ∧ Consistent e := by
  obtain ⟨e, he, hle, hφ⟩ := hs
  exact ⟨e, he, hle, fun hseen => ⟨hφ hseen, h e (List.mem_of_getElem? he)⟩⟩

/-- A statement that writes an entry which has not changed since the run has seen it, or fails. -/
theorem does_reply {batch : List (Nat × IntegrationOutbox)} {g : IntegrationDesk → IntegrationDesk}
    {goesOn : Option IntegrationTask}
    (hy : Yields (reply input g goesOn
      (some (.markFailed id e batch (mark :: seen) input.error))
      (some (.markFailed id e batch seen input.error))) d t' d')
    (hg : (g d).entries = (d.write id mark f).entries) (h : Entries d) (hbatch : Batch d batch)
    (htask : ∀ j, t.engagedWith = some j → j = id)
    (hsince : Since d id seen fun e => φ e ∧ .delivered ∉ e.history)
    (hunchanged : input.outcome = .failed ∨ d.unchanged id seen = true)
    (hentry : ∀ e, φ e → .delivered ∉ e.history → Consistent e →
      Consistent { f e with history := mark :: e.history })
    (hlost : input.outcome = .lost → mark ≠ .delivered)
    (hknows : ∀ e, d.entries[id]? = some e → e.history = seen → φ e → .delivered ∉ e.history →
      ∀ u, goesOn = some u → Knows (d.write id mark f) u)
    (htends : (∃ u, goesOn = some u ∧ u.engagedWith = some id) ∨
      ∀ e, IntegrationOutbox.unhanded { f e with history := mark :: e.history } = false) :
    Does d t t' d' := by
  rcases yields_reply.mp hy with ⟨hdone, rfl, rfl⟩ | ⟨hlose, rfl, rfl⟩ | ⟨hfail, rfl, rfl⟩
  · obtain ⟨e', he, hseen, hφ, hfresh⟩ := since_unchanged hsince
      (hunchanged.resolve_left fun hf => by cases hdone.symm.trans hf)
    refine does_of_entries
      (does_write h he (hentry e' hφ hfresh) (hknows e' he hseen hφ hfresh) htask ?_) hg
    exact htends.imp_right fun hnot => hnot e'
  · obtain ⟨e', he, hseen, hφ, hfresh⟩ := since_unchanged hsince
      (hunchanged.resolve_left fun hf => by cases hlose.symm.trans hf)
    refine does_of_entries (does_write h he (hentry e' hφ hfresh) (fun u hu => ?_) htask
      (.inl ⟨_, rfl, rfl⟩)) hg
    cases hu
    refine ⟨batch_write hbatch, since_own he hseen fun hmem => ?_⟩
    rcases List.mem_cons.mp hmem with hnew | hold
    · exact hlost hlose hnew.symm
    · exact hfresh hold
  · refine does_quiet h (fun u hu => ?_) fun j hj => ?_
    · cases hu
      exact ⟨hbatch, since_mono hsince fun _ hφ => hφ.2⟩
    · cases htask j hj
      exact ⟨_, rfl, rfl⟩

theorem since_taken {batch : List (Nat × IntegrationOutbox)} (h : Entries d)
    (hk : Batch d ((id, e) :: batch)) :
    Since d id e.history fun e' => e' = e ∧ .delivered ∉ e'.history := by
  obtain ⟨hpickable, hsince⟩ := hk (id, e) List.mem_cons_self
  refine since_mono (since_entries h hsince) ?_
  rintro e' ⟨rfl, hc⟩
  exact ⟨rfl, undelivered_of_pickable hc hpickable⟩

theorem does_markDeadLetter {batch : List (Nat × IntegrationOutbox)} (h : Entries d)
    (hk : Knows d (.markDeadLetter id e batch))
    (horderly : (IntegrationTask.markDeadLetter id e batch).orderly input d = true)
    (hy : Yields (IntegrationTask.next (.markDeadLetter id e batch) input) d t' d') :
    Does d (.markDeadLetter id e batch) t' d' := by
  simp only [IntegrationTask.next, yields_bind, yields_get] at hy
  obtain ⟨_, _, ⟨rfl, rfl⟩, hy⟩ := hy
  simp only [IntegrationTask.orderly, Bool.or_eq_true, beq_iff_eq] at horderly
  refine does_reply hy rfl h (batch_rest hk) (fun j hj => (by cases hj)) (since_taken h hk) horderly
    (fun e' _ hfresh hc => ?_) (fun _ => by decide) (fun _ _ _ _ _ => ?_) (.inr fun _ => rfl)
  · exact consistent_mark hc hfresh rfl (by decide) (by simp) (fun hmark => by cases hmark)
      (.inr (Nat.le_refl _)) hc.attempts
  · exact knows_next (batch_write (batch_rest hk))

theorem does_markProcessing {batch : List (Nat × IntegrationOutbox)} (h : Entries d)
    (hk : Knows d (.markProcessing id e batch))
    (horderly : (IntegrationTask.markProcessing id e batch).orderly input d = true)
    (hy : Yields (IntegrationTask.next (.markProcessing id e batch) input) d t' d') :
    Does d (.markProcessing id e batch) t' d' := by
  obtain ⟨hbatch, hless⟩ := hk
  simp only [IntegrationTask.next, yields_bind, yields_get] at hy
  obtain ⟨_, _, ⟨rfl, rfl⟩, hy⟩ := hy
  simp only [IntegrationTask.orderly, Bool.or_eq_true, beq_iff_eq] at horderly
  refine does_reply hy rfl h (batch_rest hbatch) (fun j hj => (by cases hj)) (since_taken h hbatch)
    horderly (fun e' he' hfresh hc => ?_) (fun _ => by decide)
    (fun e' hrow hseen he' hfresh u hu => ?_) (.inl ⟨_, rfl, rfl⟩)
  · subst he'
    exact consistent_mark hc hfresh rfl (by decide) (by simp) (fun hmark => by cases hmark)
      (.inr (Nat.le_succ _)) hless
  · cases hu
    have hc := h e' (List.mem_of_getElem? hrow)
    have hhanded := hc.handed
    refine ⟨batch_write (batch_rest hbatch), since_own hrow hseen ⟨?_, fun hmem => ?_⟩⟩
    · have hne : EntryMark.processing ≠ .retried := by decide
      have hnot : EntryMark.processing ≠ .handed := by decide
      simp only [handed_cons hne, if_neg hnot]
      omega
    · rcases List.mem_cons.mp hmem with hnew | hold
      · cases hnew
      · exact hfresh hold

theorem does_routeToQueue {batch : List (Nat × IntegrationOutbox)} (h : Entries d)
    (hk : Knows d (.routeToQueue id e batch seen))
    (horderly : (IntegrationTask.routeToQueue id e batch seen).orderly input d = true)
    (hy : Yields (IntegrationTask.next (.routeToQueue id e batch seen) input) d t' d') :
    Does d (.routeToQueue id e batch seen) t' d' := by
  obtain ⟨hbatch, hsince⟩ := hk
  simp only [IntegrationTask.next, yields_bind, yields_get] at hy
  obtain ⟨_, _, ⟨rfl, rfl⟩, hy⟩ := hy
  simp only [IntegrationTask.orderly, Bool.or_eq_true, beq_iff_eq] at horderly
  cases hjob : e.job id with
  | none =>
    simp only [hjob, yields_pure] at hy
    obtain ⟨rfl, rfl⟩ := hy
    refine does_quiet h (fun u hu => ?_) fun j hj => ?_
    · cases hu
      exact ⟨hbatch, since_mono hsince fun _ hφ => hφ.2⟩
    · cases hj
      exact ⟨_, rfl, rfl⟩
  | some job =>
    simp only [hjob] at hy
    have hunchanged : input.outcome = .failed ∨ d.unchanged id seen = true := by
      rcases horderly with (hfailed | hnone) | hsame
      · exact .inl hfailed
      · rw [hjob] at hnone
        cases hnone
      · exact .inr hsame
    refine does_reply hy rfl h hbatch (fun j hj => (by cases hj; rfl)) hsince hunchanged
      (fun e' hless hfresh hc => consistent_handed hc hless hfresh) (fun _ => by decide)
      (fun e' hrow hseen _ hfresh u hu => ?_) (.inr fun e' => ?_)
    · cases hu
      have hcount : handedSinceRetry (.handed :: e'.history) ≠ 0 := by
        rw [handed_cons (by decide)]
        exact Nat.succ_ne_zero _
      refine ⟨batch_write hbatch, since_own hrow hseen ⟨hcount, fun hmem => ?_⟩⟩
      rcases List.mem_cons.mp hmem with hnew | hold
      · cases hnew
      · exact hfresh hold
    · have hne : EntryMark.handed ≠ .retried := by decide
      simp only [IntegrationOutbox.unhanded, handed_cons hne, if_pos, Bool.and_eq_false_iff,
        beq_eq_false_iff_ne]
      exact .inr (Nat.succ_ne_zero _)

theorem does_markDelivered {batch : List (Nat × IntegrationOutbox)} (h : Entries d)
    (hk : Knows d (.markDelivered id e batch seen))
    (horderly : (IntegrationTask.markDelivered id e batch seen).orderly input d = true)
    (hy : Yields (IntegrationTask.next (.markDelivered id e batch seen) input) d t' d') :
    Does d (.markDelivered id e batch seen) t' d' := by
  obtain ⟨hbatch, hsince⟩ := hk
  simp only [IntegrationTask.next, yields_bind, yields_get] at hy
  obtain ⟨_, _, ⟨rfl, rfl⟩, hy⟩ := hy
  simp only [IntegrationTask.orderly, Bool.or_eq_true, Bool.and_eq_true, beq_iff_eq] at horderly
  refine does_reply hy rfl h hbatch (fun j hj => (by cases hj)) hsince (horderly.imp_right And.right)
    (fun e' hhanded hfresh hc => ?_) (fun hlost => ?_) (fun _ _ _ _ _ => ?_) (.inr fun _ => rfl)
  · exact consistent_mark hc hfresh rfl (by decide) (by simp) (fun _ => hhanded)
      (.inr (Nat.le_refl _)) hc.attempts
  · rw [hlost] at horderly
    rcases horderly with hfailed | ⟨hdone, -⟩
    · cases hfailed
    · cases hdone
  · exact knows_next (batch_write hbatch)

theorem does_markFailed {batch : List (Nat × IntegrationOutbox)} {error : String} (h : Entries d)
    (hk : Knows d (.markFailed id e batch seen error))
    (horderly : (IntegrationTask.markFailed id e batch seen error).orderly input d = true)
    (hy : Yields (IntegrationTask.next (.markFailed id e batch seen error) input) d t' d') :
    Does d (.markFailed id e batch seen error) t' d' := by
  obtain ⟨hbatch, hsince⟩ := hk
  simp only [IntegrationTask.next, yields_bind, yields_get, yields_ensure, yields_modify,
    yields_pure] at hy
  obtain ⟨_, _, ⟨rfl, rfl⟩, _, _, ⟨hdone, rfl⟩, _, _, rfl, rfl, rfl⟩ := hy
  simp only [IntegrationTask.orderly, if_neg hdone] at horderly
  obtain ⟨e', he, -, hfresh⟩ := since_unchanged hsince horderly
  refine does_write h he (fun hc => ?_) (fun u hu => ?_) (fun j hj => (by cases hj; rfl)) (.inr rfl)
  · exact consistent_mark hc hfresh rfl (by decide) (by simp) (fun hmark => by cases hmark)
      (.inr (Nat.le_refl _)) hc.attempts
  · split at hu
    · cases hu
    · exact knows_next (batch_write hbatch) u hu

theorem does_retry {outboxId : Nat} (h : Entries d) (hk : Knows d (.updateRetried outboxId seen))
    (horderly : (IntegrationTask.updateRetried outboxId seen).orderly input d = true)
    (hy : Yields (IntegrationTask.next (.updateRetried outboxId seen) input) d t' d') :
    Does d (.updateRetried outboxId seen) t' d' := by
  simp only [IntegrationTask.next, yields_bind, yields_get, yields_ensure, yields_modify,
    yields_pure] at hy
  obtain ⟨_, _, ⟨rfl, rfl⟩, _, _, ⟨hdone, rfl⟩, _, _, rfl, rfl, rfl⟩ := hy
  simp only [IntegrationTask.orderly, Bool.or_eq_true, beq_iff_eq] at horderly
  obtain ⟨e', he, -, hdead⟩ := since_unchanged hk (horderly.resolve_left hdone)
  refine does_write h he (fun hc => ?_) (fun u hu => (by cases hu)) (fun j hj => (by cases hj))
    (.inr rfl)
  have hfresh := undelivered_of_status hc fun hs => by cases hdead.symm.trans hs
  exact consistent_mark hc hfresh rfl (by decide) (by simp) (fun hmark => by cases hmark) (.inl rfl)
    (Nat.zero_le _)

theorem does_findDeadLetter {outboxId : Nat} {tenantId : String} (h : Entries d)
    (hy : Yields (IntegrationTask.next (.findDeadLetter outboxId tenantId) input) d t' d') :
    Does d (.findDeadLetter outboxId tenantId) t' d' := by
  simp only [IntegrationTask.next, yields_bind, yields_get, yields_ensure, yields_required,
    yields_pure] at hy
  obtain ⟨_, _, ⟨rfl, rfl⟩, e', _, ⟨he, rfl⟩, _, _, ⟨⟨-, hdead⟩, rfl⟩, rfl, rfl⟩ := hy
  refine does_quiet h (fun u hu => ?_) fun j hj => by cases hj
  cases hu
  exact since_found he hdead

theorem statement_does (h : Entries d) (hk : Knows d t) (horderly : t.orderly input d = true)
    (hy : Yields (t.next input) d t' d') : Does d t t' d' := by
  cases t with
  | create params => exact does_create h hy
  | findEntries => exact does_find h hy
  | markDeadLetter id entry batch => exact does_markDeadLetter h hk horderly hy
  | markProcessing id entry batch => exact does_markProcessing h hk horderly hy
  | routeToQueue id entry batch seen => exact does_routeToQueue h hk horderly hy
  | markDelivered id entry batch seen => exact does_markDelivered h hk horderly hy
  | markFailed id entry batch seen error => exact does_markFailed h hk horderly hy
  | findDeadLetter outboxId tenantId => exact does_findDeadLetter h hy
  | updateRetried outboxId seen => exact does_retry h hk horderly hy

/-! ## 6. Runs -/

/-- The entries that need a run are with one. -/
abbrev WithRun : IntegrationWorld → Prop :=
  Tended (fun d id => d.unhanded id = true) fun t id => t.engagedWith = some id

theorem orderly_at {i : Nat} (h : w.orderly (.advance i input) = true) (hat : w.At i t) :
    t.orderly input w.state = true := by
  simp only [IntegrationWorld.orderly, task_some.mpr hat, Option.all_some] at h
  exact h

theorem upheld_entries {event : IntegrationEvent} (h : Upheld Entries Knows w)
    (horderly : w.orderly event = true) :
    Upheld Entries Knows (integrationProgram.step w event) := by
  refine upheld_step h (fun a _ => ?_) fun i input t t' d' he hat hy => ?_
  · cases a <;> trivial
  · subst he
    have hdoes := statement_does h.state (h.tasks i t hat) (orderly_at horderly hat) hy
    exact ⟨hdoes.entries, hdoes.knows, fun j u _ _ hu => knows_mono hdoes.since hu⟩

theorem unhanded_lost {event : IntegrationEvent} {i : Nat} (horderly : w.orderly event = true)
    (hlost : event = .crash i ∨ ∃ input, event = .advance i input ∧
      Fails (integrationProgram.next t input) w.state) (hat : w.At i t)
    (htask : t.engagedWith = some id) : ¬ w.state.unhanded id = true := by
  rcases hlost with rfl | ⟨input, rfl, hfails⟩
  · simp only [IntegrationWorld.orderly, task_some.mpr hat, Option.all_some, htask,
      Bool.not_eq_true'] at horderly
    rw [horderly]
    exact Bool.false_ne_true
  · have hown := orderly_at horderly hat
    cases t with
    | routeToQueue id' entry batch seen =>
      exfalso
      cases hjob : entry.job id' with
      | none =>
        refine absurd ?_ (hfails (some (.markFailed id' entry batch seen
          s!"Unknown integration type: {entry.integrationType}")) w.state)
        simp only [integrationProgram, IntegrationTask.next, yields_bind, yields_get]
        refine ⟨_, _, ⟨rfl, rfl⟩, ?_⟩
        simp only [hjob, yields_pure, and_self]
      | some job =>
        obtain ⟨u, d', hreply⟩ := reply_commits input (·.handOver id' job)
          (some (.markDelivered id' entry batch (.handed :: seen)))
          (some (.markFailed id' entry batch (.handed :: seen) input.error))
          (some (.markFailed id' entry batch seen input.error)) w.state
        refine hfails u d' ?_
        simp only [integrationProgram, IntegrationTask.next, yields_bind, yields_get]
        refine ⟨_, _, ⟨rfl, rfl⟩, ?_⟩
        simp only [hjob]
        exact hreply
    | markFailed _ entry batch seen error =>
      cases htask
      by_cases hfailed : input.outcome = .failed
      · simp only [IntegrationTask.orderly, if_pos hfailed, Bool.not_eq_true'] at hown
        rw [hown]
        exact Bool.false_ne_true
      · have hcommits : ∃ t' d', Yields (IntegrationTask.next
            (.markFailed id entry batch seen error) input) w.state t' d' := by
          simp only [IntegrationTask.next, yields_bind, yields_get, yields_ensure, yields_modify,
            yields_pure]
          exact ⟨_, _, _, _, ⟨rfl, rfl⟩, (), _, ⟨hfailed, rfl⟩, (), _, rfl, rfl, rfl⟩
        obtain ⟨u, d', hy⟩ := hcommits
        exact absurd hy (hfails u d')
    | _ => cases htask

theorem with_run {event : IntegrationEvent} (h : Upheld Entries Knows w) (hrun : WithRun w)
    (horderly : w.orderly event = true) : WithRun (integrationProgram.step w event) := by
  refine tended_step hrun (fun i t id hlost hat => unhanded_lost horderly hlost hat)
    fun i input t t' d' id he hat hy hid => ?_
  subst he
  exact (statement_does h.state (h.tasks i t hat) (orderly_at horderly hat) hy).tends id hid

theorem sound_of_upheld (h : Upheld Entries Knows w) (hrun : WithRun w) : w.Sound := by
  refine ⟨fun id e he hnone => ?_, fun e he => ?_, fun e he => (h.state e he).settled⟩
  · have hc := h.state e (List.mem_of_getElem? he)
    cases hstatus : e.status with
    | pending =>
      left
      simp [IntegrationOutbox.pickable, hstatus]
    | failed =>
      left
      simp [IntegrationOutbox.pickable, hstatus]
    | deadLetter => exact .inr (.inl hstatus)
    | processing =>
      refine .inr (.inr (hrun id ?_))
      simp [IntegrationDesk.unhanded, he, IntegrationOutbox.unhanded, hstatus, hnone]
    | delivered => exact absurd hnone (hc.arrived hstatus)
  · exact Nat.le_trans (h.state e he).handed (h.state e he).attempts

end IntegrationLemmas

open IntegrationLemmas

/-! ## 7. The outbox -/

/-- In every run whose steps meet the condition, an entry that was not handed over is in a status
that is picked up, or is dead-lettered, or is with a run; it is handed over `maxAttempts` times at
most between retries by hand, and never again once it is delivered. -/
theorem integration_entries_sound (events : List IntegrationEvent)
    (h : Machine.Guarded integrationProgram.step (fun w e => IntegrationWorld.orderly w e = true)
      IntegrationWorld.opening events) :
    (IntegrationWorld.opening.after events).Sound := by
  have hrun := Machine.run_induct
    (I := fun w : IntegrationWorld => Upheld Entries Knows w ∧ WithRun w)
    (fun w event hw horderly =>
      ⟨upheld_entries hw.1 horderly, with_run hw.1 hw.2 horderly⟩) ?_ h
  · exact sound_of_upheld hrun.1 hrun.2
  · refine ⟨⟨fun e he => ?_, fun i t hat => ?_⟩, fun id hid => ?_⟩
    · cases he
    · cases hat
    · cases hid

/-- An entry for the CRB that may be handed over once. -/
def exIntegration : IntegrationCall :=
  .createEntry
    { tenantId := "t1"
      idempotencyKey := "crb-1"
      integrationType := "CRB_EXPORT"
      payload := [("reportId", .string "r1")]
      maxAttempts := some 1 }

def exTick : IntegrationInput := ⟨0, .done, ""⟩

/-- A run hands the entry over, and it is delivered. -/
theorem integration_entries_sound_witness :
    (IntegrationWorld.opening.after
      [.start exIntegration, .advance 0 exTick, .start .publishPendingEntries, .advance 1 exTick,
        .advance 1 exTick, .advance 1 exTick, .advance 1 exTick]).Sound :=
  integration_entries_sound _ (by decide +kernel)

/-- A run is lost after its mark: the entry is in a status that no run looks for. -/
def exStranded : IntegrationWorld :=
  IntegrationWorld.opening.after
    [.start exIntegration, .advance 0 exTick, .start .publishPendingEntries, .advance 1 exTick,
      .advance 1 exTick, .crash 1]

/-- Two runs have read the entry; the first delivers it, and the second takes it then. -/
def exOverlapped : IntegrationWorld :=
  IntegrationWorld.opening.after
    [.start exIntegration, .advance 0 exTick, .start .publishPendingEntries,
      .start .publishPendingEntries, .advance 1 exTick, .advance 2 exTick, .advance 1 exTick,
      .advance 1 exTick, .advance 1 exTick, .advance 2 exTick, .advance 2 exTick]

/-- The entry of the lost run was not handed over, and is neither picked up nor dead-lettered; the
second of the two runs hands over what was delivered, once more than it may be. -/
theorem integration_entry_stranded :
    (exStranded.state.entries.map (fun e => (e.status, e.history)) = [(.processing, [.processing])] ∧
      exStranded.tasks.all (·.isNone) = true ∧ ¬ exStranded.Sound) ∧
    (exOverlapped.state.entries.map (fun e => (e.maxAttempts, e.history)) =
        [(1, [.handed, .processing, .delivered, .handed, .processing])] ∧ ¬ exOverlapped.Sound) := by
  have hstranded : exStranded.state.entries.map (fun e => (e.status, e.history)) =
      [(.processing, [.processing])] := by decide +kernel
  have htasks : exStranded.tasks.all (·.isNone) = true := by decide +kernel
  have hoverlapped : exOverlapped.state.entries.map (fun e => (e.maxAttempts, e.history)) =
      [(1, [.handed, .processing, .delivered, .handed, .processing])] := by decide +kernel
  refine ⟨⟨hstranded, htasks, fun hsound => ?_⟩, hoverlapped, fun hsound => ?_⟩
  · obtain ⟨e, hentries, hrow⟩ := List.map_eq_singleton_iff.mp hstranded
    obtain ⟨hstatus, hhistory⟩ := Prod.mk.inj hrow
    have he : exStranded.state.entries[0]? = some e := by rw [hentries, List.getElem?_cons_zero]
    rcases hsound.kept 0 e he (by rw [hhistory]; rfl) with hpickable | hdead | ⟨i, t, hat, -⟩
    · unfold IntegrationOutbox.pickable at hpickable
      rw [hstatus] at hpickable
      cases hpickable
    · cases hstatus.symm.trans hdead
    · have hnone := List.all_eq_true.mp htasks _ (List.mem_of_getElem? hat)
      cases hnone
  · obtain ⟨e, hentries, hrow⟩ := List.map_eq_singleton_iff.mp hoverlapped
    obtain ⟨hmax, hhistory⟩ := Prod.mk.inj hrow
    have hattempts := hsound.attempts e (by rw [hentries]; exact List.mem_singleton_self e)
    rw [hmax, hhistory] at hattempts
    exact absurd hattempts (by decide)

end BebaSacco
