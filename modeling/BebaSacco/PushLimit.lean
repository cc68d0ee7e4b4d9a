import BebaSacco.Lib.PeriodCounter
import BebaSacco.Lib.TaskWeights
import BebaSacco.Lib.Table
import BebaSacco.Users

/-! # The daily limit of STK pushes

A member's deposits and the scheduler of loan repayments both send STK pushes to the member's phone,
and each counts them under a Redis key of its own. A call is a sequence of Redis commands, requests
to Daraja and operations on the queue; those of all calls interleave, and each has its time. This is
the slice of one member.

Redis answers every command. The lock of a run is left out, so that runs may overlap here.

Results:
 1. `midnight_deadline`, `day_lasts`: until when the deadlines of the two keys let them live.
    `clear_count`, `counted_return`: what a key stands at.
 2. `statement_charges`: what one statement takes, uses and returns.
 3. `pushes_limited`: three pushes a day, and a refusal only on a day with three counts, when the
    sources do not share a day, the keys of earlier days had the time to expire and the slots of a
    day are used and returned on that day.
 4. `pushes_unlimited`: six pushes on one day, and a push refused because of the day before.
-/

namespace BebaSacco

open Txn Process ExpiringKey PeriodCounter

def EAT_OFFSET_MS : Nat := 3 * 60 * 60 * 1000

def DAY_MS : Nat := 24 * 60 * 60 * 1000

/-- The calendar day in East Africa. -/
@[irreducible] def dayEAT (time : Nat) : Nat := (time + EAT_OFFSET_MS) / DAY_MS

def secondsUntilMidnightEAT (now : Nat) : Nat :=
  ((dayEAT now + 1) * DAY_MS - EAT_OFFSET_MS - now + 999) / 1000

/-- `stkRateLimitPerDay` and `MAX_PUSHES_PER_DAY` -/
def MAX_PUSHES_PER_DAY : Int := 3

def RATE_LIMIT_TTL_SECS : Nat := 86400

/-- A call that was refused, and what its key had counted on that day. -/
structure PushRefusal where
  time : Nat
  counted : Int
  deriving DecidableEq, Repr

/-- The key of one source of pushes, the times of its pushes, and its refusals. -/
structure PushAllowance where
  counter : Counter
  pushes : List Nat
  refusals : List PushRefusal
  deriving DecidableEq, Repr

inductive PushJobState where
  | waiting
  | active
  | completed
  | removed
  deriving DecidableEq, Repr

/-- A repayment job; `countedAt` is when its slot was counted, and `sent` that its push went out. -/
structure PushJob where
  loanId : Nat
  day : Nat
  countedAt : Nat
  state : PushJobState
  sent : Bool
  deriving DecidableEq, Repr

structure PushDesk where
  now : Nat
  deposits : PushAllowance
  repayments : PushAllowance
  jobs : List PushJob
  deriving DecidableEq, Repr

inductive PushCall where
  | initiateDeposit
  | runDailyRepaymentSchedule (loans : List Nat)
  | processJob (job : Nat)
  | requeueStalled (job : Nat)
  | removeFinished (job : Nat)
  deriving DecidableEq, Repr

/-- Where a call is; `readAt` is the clock that it has read, and `countedAt` when the slot that it has
taken was counted. -/
inductive PushTask where
  | limitDeposit
  | incrDeposit (readAt : Nat)
  | pushDeposit (countedAt : Nat)
  | releaseSlot (countedAt : Nat)
  | startRun (loans : List Nat)
  | findJob (day : Nat) (loans : List Nat)
  | incrRepayment (day loanId : Nat) (loans : List Nat)
  | expireRepayment (day loanId : Nat) (loans : List Nat) (countedAt : Nat)
  | enqueue (day loanId : Nat) (loans : List Nat) (countedAt : Nat)
  | undo (day : Nat) (loans : List Nat) (countedAt : Nat)
  | takeJob (job : Nat)
  | pushScheduled (job : Nat)
  | finishJob (job : Nat)
  | requeueJob (job : Nat)
  | removeJob (job : Nat)
  deriving DecidableEq, Repr

inductive DarajaAnswer where
  | accepted
  | retryable
  | rejected
  deriving DecidableEq, Repr

/-- What `add` does: it returns the job of that id, which it creates if there is none, or another
one, or throws. -/
inductive EnqueueAnswer where
  | job
  | otherJob
  | alreadyExists
  | failed
  deriving DecidableEq, Repr

/-- The time of a statement, whether the push goes out, Daraja's answer, and the queue's. -/
structure PushInput where
  time : Nat
  sent : Bool
  answer : DarajaAnswer
  queue : EnqueueAnswer
  deriving DecidableEq, Repr

abbrev PushWorld := World PushDesk PushTask

abbrev PushEvent := Event PushCall PushInput

/-! ## 1. What the calls do -/

namespace PushAllowance

variable (a : PushAllowance)

def count (now : Nat) : Int := ExpiringKey.count a.counter.slot now

/-- What the key has counted on the day of `now`. -/
def counted (now : Nat) : Int := tally dayEAT (dayEAT now) a.counter.counts

def add (now : Nat) (amount : Int) : PushAllowance :=
  { a with counter := a.counter.add now amount }

def expireAt (now deadline : Nat) : PushAllowance :=
  { a with counter := a.counter.expireAt now deadline }

/-- `decrIfPositive` -/
def decrIfPositive (now : Nat) : PushAllowance := if 0 < a.count now then a.add now (-1) else a

def push (now : Nat) (sent : Bool) : PushAllowance :=
  if sent then { a with pushes := now :: a.pushes } else a

def refuse (now : Nat) (counted : Int) : PushAllowance :=
  { a with refusals := ⟨now, counted⟩ :: a.refusals }

end PushAllowance

def PushJob.live (x : PushJob) : Bool := x.state == .waiting || x.state == .active

def PushDesk.setJob (d : PushDesk) (job : Nat) (state : PushJobState) : PushDesk :=
  { d with jobs := d.jobs.modify job ({ · with state }) }

/-- The job with an id that is not removed. -/
def PushDesk.findJob (d : PushDesk) (loanId day : Nat) : Option PushJob :=
  d.jobs.find? fun x => x.loanId == loanId && x.day == day && x.state != .removed

/-- One statement of a call, at its time. -/
def PushTask.statement (input : PushInput) : PushTask → Txn PushDesk AuthErr (Option PushTask)
  | .limitDeposit => do
    let d ← get
    return some (.incrDeposit d.now)
  | .incrDeposit readAt => do
    let d ← get
    let expiresAt := readAt + secondsUntilMidnightEAT readAt * 1000
    modify fun d => { d with deposits := (d.deposits.add d.now 1).expireAt d.now expiresAt }
    if d.deposits.count d.now + 1 > MAX_PUSHES_PER_DAY then do
      -- the slot of a refused deposit stays counted
      modify fun d' => { d' with deposits := d'.deposits.refuse d.now (d.deposits.counted d.now) }
      return none
    else
      return some (.pushDeposit d.now)
  | .pushDeposit countedAt => do
    modify fun d => { d with deposits := d.deposits.push d.now input.sent }
    return if input.answer = .retryable then some (.releaseSlot countedAt) else none
  | .releaseSlot _ => do
    modify fun d => { d with deposits := d.deposits.decrIfPositive d.now }
    return none
  | .startRun loans => do
    let d ← get
    return some (.findJob (dayEAT d.now) loans)
  | .findJob _ [] => return none
  | .findJob day (loanId :: loans) => do
    let d ← get
    if (d.findJob loanId day).any (·.live) then
      return some (.findJob day loans)
    else
      return some (.incrRepayment day loanId loans)
  | .incrRepayment day loanId loans => do
    let d ← get
    let currentCount := d.repayments.count d.now + 1
    modify fun d => { d with repayments := d.repayments.add d.now 1 }
    if currentCount = 1 then
      return some (.expireRepayment day loanId loans d.now)
    else if currentCount > MAX_PUSHES_PER_DAY then do
      modify fun d' =>
        { d' with repayments := d'.repayments.refuse d.now (d.repayments.counted d.now) }
      return some (.undo day loans d.now)
    else
      return some (.enqueue day loanId loans d.now)
  | .expireRepayment day loanId loans countedAt => do
    modify fun d =>
      { d with repayments := d.repayments.expireAt d.now (d.now + RATE_LIMIT_TTL_SECS * 1000) }
    return some (.enqueue day loanId loans countedAt)
  | .enqueue day loanId loans countedAt => do
    match input.queue with
    | .job =>
      let d ← get
      if (d.findJob loanId day).isSome then
        return some (.findJob day loans)
      else
        modify fun d => { d with jobs := d.jobs ++ [⟨loanId, day, countedAt, .waiting, false⟩] }
        return some (.findJob day loans)
    | .otherJob | .alreadyExists => return some (.undo day loans countedAt)
    | .failed => return some (.findJob day loans)
  | .undo day loans _ => do
    modify fun d => { d with repayments := d.repayments.add d.now (-1) }
    return some (.findJob day loans)
  | .takeJob job => do
    let d ← get
    ensure (d.jobs[job]?.any (·.state == .waiting) = true) (.notFound "Missing job")
    modify (·.setJob job .active)
    return some (.pushScheduled job)
  | .pushScheduled job => do
    modify fun d =>
      { d with
        repayments := d.repayments.push d.now input.sent
        jobs := d.jobs.modify job fun x => { x with sent := x.sent || input.sent } }
    return some (.finishJob job)
  | .finishJob job => do
    modify (·.setJob job .completed)
    return none
  | .requeueJob job => do
    -- the worker of an active job is gone
    let d ← get
    ensure (d.jobs[job]?.any (·.state == .active) = true) (.notFound "Missing job")
    modify (·.setJob job .waiting)
    return none
  | .removeJob job => do
    let d ← get
    ensure (d.jobs[job]?.any (·.state == .completed) = true) (.notFound "Missing job")
    modify (·.setJob job .removed)
    return none

def PushTask.next (t : PushTask) (input : PushInput) : Txn PushDesk AuthErr (Option PushTask) := do
  modify fun d => { d with now := max d.now input.time }
  t.statement input

def PushCall.entry : PushCall → PushTask
  | .initiateDeposit => .limitDeposit
  | .runDailyRepaymentSchedule loans => .startRun loans
  | .processJob job => .takeJob job
  | .requeueStalled job => .requeueJob job
  | .removeFinished job => .removeJob job

def pushProgram : Program PushDesk AuthErr PushCall PushInput PushTask :=
  ⟨PushCall.entry, PushTask.next⟩

def PushAllowance.new : PushAllowance := ⟨.new, [], []⟩

def PushWorld.opening : PushWorld := ⟨⟨0, .new, .new, []⟩, []⟩

def PushWorld.after (w : PushWorld) (events : List PushEvent) : PushWorld :=
  Machine.run pushProgram.step w events

/-! ## 2. The properties and the condition -/

def pushesOn (pushes : List Nat) (day : Nat) : Nat := pushes.countP fun time => dayEAT time == day

structure PushDesk.Limited (d : PushDesk) : Prop where
  pushes : ∀ day, pushesOn d.deposits.pushes day + pushesOn d.repayments.pushes day ≤ 3
  deposits : ∀ r ∈ d.deposits.refusals, MAX_PUSHES_PER_DAY ≤ r.counted
  repayments : ∀ r ∈ d.repayments.refusals, MAX_PUSHES_PER_DAY ≤ r.counted

/-- A second of the next day in East Africa is over. -/
def nextDay (time : Nat) : Nat := (dayEAT time + 1) * DAY_MS - EAT_OFFSET_MS + 1000

/-- Twenty-four hours later. -/
def dayLater (time : Nat) : Nat := time + DAY_MS

/-- A key may be counted on when the other one has counted nothing on that day, or both together
fewer than three; and when it was created on that day, or the time since its deadline was set is
over. -/
def PushAllowance.clear (life : Nat → Nat) (a other : PushAllowance) (now : Nat) : Bool :=
  (other.counted now == 0 || a.counted now + other.counted now < MAX_PUSHES_PER_DAY) &&
    a.counter.settled dayEAT life now

/-- The condition on a statement. -/
def PushTask.orderly (input : PushInput) (d : PushDesk) : PushTask → Bool
  | .incrDeposit readAt =>
    d.deposits.clear nextDay d.repayments d.now && dayEAT d.now == dayEAT readAt
  | .incrRepayment _ _ _ => d.repayments.clear dayLater d.deposits d.now
  | .pushDeposit countedAt =>
    !input.sent || (dayEAT d.now == dayEAT countedAt && input.answer != .retryable)
  | .releaseSlot countedAt | .undo _ _ countedAt => dayEAT d.now == dayEAT countedAt
  | .pushScheduled job =>
    !input.sent || d.jobs[job]?.any fun x => dayEAT d.now == dayEAT x.countedAt && !x.sent
  | _ => true

/-- The condition on an event. -/
def PushWorld.orderly (w : PushWorld) : PushEvent → Bool
  | .advance i input =>
    (w.task i).all (·.orderly input { w.state with now := max w.state.now input.time })
  | _ => true

namespace PushLemmas

variable {w : PushWorld} {d d' : PushDesk} {t : PushTask} {t' : Option PushTask} {input : PushInput}
  {e : PushEvent} {a other : PushAllowance} {life : Nat → Nat} {now day readAt countedAt job : Nat}

/-! ## 3. Days and counters -/

theorem day_mono : Monotone dayEAT := by
  intro time time' hle
  unfold dayEAT
  exact Nat.div_le_div_right (Nat.add_le_add_right hle EAT_OFFSET_MS)

/-- A key that lives for a day is there until the day is over. -/
theorem day_lasts (now : Nat) : dayEAT now < dayEAT (now + RATE_LIMIT_TTL_SECS * 1000) := by
  unfold dayEAT RATE_LIMIT_TTL_SECS DAY_MS
  omega

theorem day_later (now : Nat) : now + RATE_LIMIT_TTL_SECS * 1000 ≤ dayLater now :=
  Nat.le_refl _

/-- The deadline of a deposit's key is the next midnight, or within a second of it. -/
theorem midnight_deadline (h : dayEAT now = dayEAT readAt) :
    dayEAT now < dayEAT (readAt + secondsUntilMidnightEAT readAt * 1000) ∧
      readAt + secondsUntilMidnightEAT readAt * 1000 ≤ nextDay now := by
  unfold nextDay secondsUntilMidnightEAT
  rw [h]
  unfold dayEAT EAT_OFFSET_MS DAY_MS
  omega

theorem tally_add (amount : Int) : tally dayEAT day (a.add now amount).counter.counts =
    (if dayEAT now = day then amount else 0) + tally dayEAT day a.counter.counts := rfl

theorem pushesOn_push (sent : Bool) : pushesOn (a.push now sent).pushes day =
    pushesOn a.pushes day + if sent = true ∧ dayEAT now = day then 1 else 0 := by
  unfold PushAllowance.push pushesOn
  cases sent with
  | false => simp
  | true => simp [List.countP_cons]

/-- What a key that may be counted on stands at. -/
theorem clear_count (h : Faithful dayEAT life d.now a.counter)
    (hclear : a.clear life other d.now = true) :
    a.count d.now = a.counted d.now ∧ (a.counted d.now < MAX_PUSHES_PER_DAY →
      a.counted d.now + other.counted d.now < MAX_PUSHES_PER_DAY) := by
  unfold PushAllowance.clear at hclear
  simp only [Bool.and_eq_true, Bool.or_eq_true, beq_iff_eq, decide_eq_true_eq] at hclear
  refine ⟨count_fresh day_mono h (fresh_of_settled h hclear.2), fun hless => ?_⟩
  rcases hclear.1 with hzero | hsum
  · rw [hzero, Int.add_zero]
    exact hless
  · exact hsum

theorem clear_add (h : Faithful dayEAT life d.now a.counter)
    (hclear : a.clear life other d.now = true) :
    Faithful dayEAT life d.now (a.add d.now 1).counter :=
  faithful_add day_mono h (Nat.le_refl _) (fresh_of_settled h (Bool.and_eq_true_iff.mp hclear).2)

/-- A slot of the day is returned to a key that still counts it. -/
theorem counted_return (h : Faithful dayEAT life d.now a.counter)
    (hcounted : 0 < a.counted d.now) :
    0 < a.count d.now ∧ Faithful dayEAT life d.now (a.add d.now (-1)).counter := by
  obtain ⟨⟨held, hslot, hlive, hvalue⟩, hsince⟩ :=
    counted_live day_mono h (Nat.le_refl d.now) (Int.ne_of_gt hcounted)
  have hcount : a.count d.now = held.value := count_live hslot hlive
  have hfresh : a.counter.fresh dayEAT d.now = true := by
    unfold Counter.fresh
    rw [hsince, beq_self_eq_true, Bool.or_true]
  refine ⟨?_, faithful_add day_mono h (Nat.le_refl _) hfresh⟩
  rw [hcount, hvalue]
  exact hcounted

/-! ## 4. Slots -/

/-- The slot of the deposit key that a call has taken and may still use or return. -/
def depositSlot : PushTask → Option Nat
  | .pushDeposit countedAt | .releaseSlot countedAt => some countedAt
  | _ => none

def repaymentSlot : PushTask → Option Nat
  | .expireRepayment _ _ _ countedAt | .enqueue _ _ _ countedAt | .undo _ _ countedAt =>
    some countedAt
  | _ => none

/-- The slot that a call may still use. -/
def usableSlot : PushTask → Option Nat
  | .pushDeposit countedAt | .expireRepayment _ _ _ countedAt | .enqueue _ _ _ countedAt =>
    some countedAt
  | _ => none

/-- Whether a slot is one of the day. -/
@[irreducible] def onDay (day : Nat) : Option Nat → Nat
  | some countedAt => if dayEAT countedAt = day then 1 else 0
  | none => 0

theorem onDay_some : onDay day (some countedAt) = if dayEAT countedAt = day then 1 else 0 := by
  rw [onDay]

theorem onDay_none : onDay day none = 0 := by rw [onDay]

theorem onDay_same (h : dayEAT countedAt = day) : onDay day (some countedAt) = 1 :=
  onDay_some.trans (if_pos h)

theorem onDay_other (h : dayEAT countedAt ≠ day) : onDay day (some countedAt) = 0 :=
  onDay_some.trans (if_neg h)

theorem usable_le (day : Nat) (t : PushTask) :
    onDay day (usableSlot t) ≤ onDay day (depositSlot t) + onDay day (repaymentSlot t) := by
  have hunused : usableSlot t = none → onDay day (usableSlot t) ≤
      onDay day (depositSlot t) + onDay day (repaymentSlot t) := by
    intro hnone
    rw [hnone, onDay_none]
    exact Nat.zero_le _
  cases t with
  | pushDeposit c => exact Nat.le_add_right _ _
  | expireRepayment _ _ _ c | enqueue _ _ _ c => exact Nat.le_add_left _ _
  | _ => exact hunused rfl

/-- The slot of a job whose push is still to be sent. -/
def jobSlot (x : PushJob) : Option Nat := if x.sent then none else some x.countedAt

/-- The slots of a day that jobs may still use. -/
def unsent (day : Nat) : List PushJob → Nat
  | [] => 0
  | x :: jobs => onDay day (jobSlot x) + unsent day jobs

theorem unsent_append {x : PushJob} {jobs : List PushJob} :
    unsent day (jobs ++ [x]) = unsent day jobs + onDay day (jobSlot x) := by
  induction jobs with
  | nil => exact Nat.add_comm _ _
  | cons y jobs ih => rw [List.cons_append, unsent, ih, unsent, Nat.add_assoc]

theorem unsent_modify (day : Nat) (f : PushJob → PushJob) {jobs : List PushJob} {x : PushJob}
    (hx : jobs[job]? = some x) :
    unsent day (jobs.modify job f) + onDay day (jobSlot x) =
      unsent day jobs + onDay day (jobSlot (f x)) := by
  induction jobs generalizing job with
  | nil => cases hx
  | cons y jobs ih =>
    cases job with
    | zero =>
      cases hx
      rw [List.modify_zero_cons, unsent, unsent]
      omega
    | succ job =>
      have hrest := ih hx
      rw [List.modify_succ_cons, unsent, unsent, Nat.add_assoc, hrest, Nat.add_assoc]

theorem unsent_same {f : PushJob → PushJob} {jobs : List PushJob}
    (hf : ∀ x, jobSlot (f x) = jobSlot x) : unsent day (jobs.modify job f) = unsent day jobs := by
  cases hx : jobs[job]? with
  | none => rw [List.modify_eq_self (List.getElem?_eq_none_iff.mp hx)]
  | some x =>
    have hmodify := unsent_modify day f hx
    rw [hf x] at hmodify
    exact Nat.add_right_cancel hmodify

/-! ## 5. One statement -/

/-- The pushes of a day and what a call may still use or return, against what is counted. -/
def depositUse (day : Nat) (d : PushDesk) (o : Option PushTask) : Int :=
  pushesOn d.deposits.pushes day + heldBy (fun t => onDay day (depositSlot t)) o -
    tally dayEAT day d.deposits.counter.counts

def repaymentUse (day : Nat) (d : PushDesk) (o : Option PushTask) : Int :=
  pushesOn d.repayments.pushes day + heldBy (fun t => onDay day (repaymentSlot t)) o +
    unsent day d.jobs - tally dayEAT day d.repayments.counter.counts

/-- The pushes of a day, and those that may still be sent. -/
def pushUse (day : Nat) (d : PushDesk) (o : Option PushTask) : Int :=
  pushesOn d.deposits.pushes day + pushesOn d.repayments.pushes day +
    heldBy (fun t => onDay day (usableSlot t)) o + unsent day d.jobs

/-- What both keys have counted on a day. -/
def countedOn (day : Nat) (d : PushDesk) : Int :=
  tally dayEAT day d.deposits.counter.counts + tally dayEAT day d.repayments.counter.counts

/-- A statement uses what it has counted or what its call had taken, and lets a push more pass only
when less than three are counted. -/
structure Charges (d : PushDesk) (t : PushTask) (t' : Option PushTask) (d' : PushDesk) : Prop where
  now : d'.now = d.now
  deposits : Faithful dayEAT nextDay d.now d'.deposits.counter
  repayments : Faithful dayEAT dayLater d.now d'.repayments.counter
  depositUse : ∀ day, depositUse day d' t' ≤ depositUse day d (some t)
  repaymentUse : ∀ day, repaymentUse day d' t' ≤ repaymentUse day d (some t)
  pushUse : ∀ day, pushUse day d' t' ≤ pushUse day d (some t) ∨
    (pushUse day d' t' ≤ pushUse day d (some t) + 1 ∧ countedOn day d < MAX_PUSHES_PER_DAY)
  depositRefusals : ∀ r ∈ d'.deposits.refusals,
    r ∈ d.deposits.refusals ∨ MAX_PUSHES_PER_DAY ≤ r.counted
  repaymentRefusals : ∀ r ∈ d'.repayments.refusals,
    r ∈ d.repayments.refusals ∨ MAX_PUSHES_PER_DAY ≤ r.counted

/-- Before a statement both keys are faithful, and a slot of the day that its call has taken is
counted. -/
structure Ready (d : PushDesk) (t : PushTask) : Prop where
  deposits : Faithful dayEAT nextDay d.now d.deposits.counter
  repayments : Faithful dayEAT dayLater d.now d.repayments.counter
  depositSlot : ∀ c, depositSlot t = some c → dayEAT d.now = dayEAT c → 0 < d.deposits.counted d.now
  repaymentSlot : ∀ c, repaymentSlot t = some c → dayEAT d.now = dayEAT c →
    0 < d.repayments.counted d.now

theorem heldBy_some {f : PushTask → Nat} : heldBy f (some t) = f t := by
  rw [heldBy, Option.elim_some]

theorem heldBy_none {f : PushTask → Nat} : heldBy f none = 0 := by
  rw [heldBy, Option.elim_none]

/-- A task that is not at a slot holds none. -/
theorem heldBy_slot {slot : PushTask → Option Nat} (h : ∀ u, t' = some u → slot u = none) :
    heldBy (fun t => onDay day (slot t)) t' = 0 := by
  cases t' with
  | none => exact heldBy_none
  | some u => rw [heldBy_some, h u rfl, onDay_none]

/-- The deposits' key and pushes stay as they are. -/
theorem deposits_untouched (hcounts : d'.deposits.counter.counts = d.deposits.counter.counts)
    (hpushes : d'.deposits.pushes = d.deposits.pushes)
    (h : ∀ u, t' = some u → depositSlot u = none) :
    depositUse day d' t' ≤ depositUse day d (some t) := by
  unfold depositUse
  rw [hcounts, hpushes, heldBy_slot h]
  omega

theorem repayments_untouched
    (hcounts : d'.repayments.counter.counts = d.repayments.counter.counts)
    (hpushes : d'.repayments.pushes = d.repayments.pushes)
    (hjobs : unsent day d'.jobs = unsent day d.jobs)
    (h : ∀ u, t' = some u → repaymentSlot u = none) :
    repaymentUse day d' t' ≤ repaymentUse day d (some t) := by
  unfold repaymentUse
  rw [hcounts, hpushes, hjobs, heldBy_slot h]
  omega

/-- No push goes out, and the call has none left to send. -/
theorem pushes_untouched (hdeposits : d'.deposits.pushes = d.deposits.pushes)
    (hrepayments : d'.repayments.pushes = d.repayments.pushes)
    (hjobs : unsent day d'.jobs = unsent day d.jobs)
    (h : ∀ u, t' = some u → usableSlot u = none) :
    pushUse day d' t' ≤ pushUse day d (some t) := by
  unfold pushUse
  rw [hdeposits, hrepayments, hjobs, heldBy_slot h]
  omega

theorem charges_jobs {jobs : List PushJob} (h : Ready d t)
    (hdeposit : ∀ day, heldBy (fun t => onDay day (depositSlot t)) t' ≤ onDay day (depositSlot t))
    (hrepayment : ∀ day, heldBy (fun t => onDay day (repaymentSlot t)) t' + unsent day jobs ≤
      onDay day (repaymentSlot t) + unsent day d.jobs)
    (husable : ∀ day, heldBy (fun t => onDay day (usableSlot t)) t' + unsent day jobs ≤
      onDay day (usableSlot t) + unsent day d.jobs) : Charges d t t' { d with jobs } := by
  refine ⟨rfl, h.deposits, h.repayments, fun day => ?_, fun day => ?_, fun day => .inl ?_,
    fun _ hr => .inl hr, fun _ hr => .inl hr⟩
  · have hday := hdeposit day
    simp only [depositUse, heldBy_some]
    omega
  · have hday := hrepayment day
    simp only [repaymentUse, heldBy_some]
    omega
  · have hday := husable day
    simp only [pushUse, heldBy_some]
    omega

theorem charges_quiet (h : Ready d t) (hdeposit : ∀ u, t' = some u → depositSlot u = none)
    (hrepayment : ∀ u, t' = some u → repaymentSlot u = none) : Charges d t t' d := by
  cases t' with
  | none =>
    refine charges_jobs h (fun day => ?_) (fun day => ?_) fun day => ?_
    · exact Nat.zero_le _
    · rw [heldBy_none]
      omega
    · rw [heldBy_none]
      omega
  | some u =>
    have husable : ∀ day, onDay day (usableSlot u) = 0 := by
      intro day
      have hle := usable_le day u
      rw [hdeposit u rfl, hrepayment u rfl, onDay_none] at hle
      exact Nat.le_zero.mp hle
    refine charges_jobs h (fun day => ?_) (fun day => ?_) fun day => ?_
    · rw [heldBy_some, hdeposit u rfl, onDay_none]
      exact Nat.zero_le _
    · rw [heldBy_some, hrepayment u rfl, onDay_none]
      omega
    · rw [heldBy_some, husable day]
      omega

/-- A deposit is counted and passes. -/
theorem charges_deposit {expiresAt : Nat} (h : Ready d (.incrDeposit readAt))
    (hclear : d.deposits.clear nextDay d.repayments d.now = true)
    (hlater : dayEAT d.now < dayEAT expiresAt) (hlife : expiresAt ≤ nextDay d.now)
    (hpass : ¬ d.deposits.count d.now + 1 > MAX_PUSHES_PER_DAY) :
    Charges d (.incrDeposit readAt) (some (.pushDeposit d.now))
      { d with deposits := (d.deposits.add d.now 1).expireAt d.now expiresAt } := by
  obtain ⟨hcount, hroom⟩ := clear_count h.deposits hclear
  have hfaithful :=
    faithful_expireAt day_mono (clear_add h.deposits hclear) (Nat.le_refl _) hlater hlife
  have hcounts : ((d.deposits.add d.now 1).expireAt d.now expiresAt).counter.counts =
      (d.now, 1) :: d.deposits.counter.counts := rfl
  refine ⟨rfl, hfaithful, h.repayments, fun day => ?_, fun day => ?_, fun day => ?_,
    fun _ hr => .inl hr, fun _ hr => .inl hr⟩
  · have hpushes : ((d.deposits.add d.now 1).expireAt d.now expiresAt).pushes =
      d.deposits.pushes := rfl
    simp only [depositUse, hpushes, hcounts, tally, heldBy_some, depositSlot, onDay_none]
    by_cases hday : dayEAT d.now = day
    · rw [onDay_same hday, if_pos hday]
      omega
    · rw [onDay_other hday, if_neg hday]
      omega
  · exact repayments_untouched rfl rfl rfl fun _ hu => by cases hu; rfl
  · have hpushes : ((d.deposits.add d.now 1).expireAt d.now expiresAt).pushes =
      d.deposits.pushes := rfl
    simp only [pushUse, heldBy_some, usableSlot, onDay_none, hpushes]
    by_cases hday : dayEAT d.now = day
    · refine .inr ⟨?_, ?_⟩
      · rw [onDay_same hday]
        omega
      · subst hday
        refine hroom ?_
        rw [← hcount]
        omega
    · refine .inl ?_
      rw [onDay_other hday]

theorem charges_refused {expiresAt : Nat} (h : Ready d (.incrDeposit readAt))
    (hclear : d.deposits.clear nextDay d.repayments d.now = true)
    (hlater : dayEAT d.now < dayEAT expiresAt) (hlife : expiresAt ≤ nextDay d.now)
    (hover : d.deposits.count d.now + 1 > MAX_PUSHES_PER_DAY) :
    Charges d (.incrDeposit readAt) none
      { d with
        deposits := ((d.deposits.add d.now 1).expireAt d.now expiresAt).refuse d.now
          (d.deposits.counted d.now) } := by
  obtain ⟨hcount, -⟩ := clear_count h.deposits hclear
  have hfaithful :=
    faithful_expireAt day_mono (clear_add h.deposits hclear) (Nat.le_refl _) hlater hlife
  refine ⟨rfl, hfaithful, h.repayments, fun day => ?_,
    fun day => repayments_untouched rfl rfl rfl fun _ hu => (by cases hu),
    fun day => .inl (pushes_untouched rfl rfl rfl fun _ hu => (by cases hu)),
    fun r hr => ?_, fun _ hr => .inl hr⟩
  · have htally : tally dayEAT day (((d.deposits.add d.now 1).expireAt d.now expiresAt).refuse d.now
        (d.deposits.counted d.now)).counter.counts =
        (if dayEAT d.now = day then 1 else 0) + tally dayEAT day d.deposits.counter.counts := rfl
    have hpushes : (((d.deposits.add d.now 1).expireAt d.now expiresAt).refuse d.now
        (d.deposits.counted d.now)).pushes = d.deposits.pushes := rfl
    simp only [depositUse, htally, hpushes, heldBy_some, heldBy_none, depositSlot, onDay_none]
    split <;> omega
  · rcases List.mem_cons.mp hr with rfl | hr
    · refine .inr ?_
      have hless : d.deposits.count d.now ≥ MAX_PUSHES_PER_DAY := Int.lt_add_one_iff.mp hover
      exact hcount ▸ hless
    · exact .inl hr

theorem charges_push (h : Ready d (.pushDeposit countedAt))
    (horderly : (PushTask.pushDeposit countedAt).orderly input d = true) :
    Charges d (.pushDeposit countedAt)
      (if input.answer = .retryable then some (.releaseSlot countedAt) else none)
      { d with deposits := d.deposits.push d.now input.sent } := by
  have hcounter : (d.deposits.push d.now input.sent).counter = d.deposits.counter := by
    unfold PushAllowance.push
    split <;> rfl
  have hrefusals : (d.deposits.push d.now input.sent).refusals = d.deposits.refusals := by
    unfold PushAllowance.push
    split <;> rfl
  unfold PushTask.orderly at horderly
  simp only [Bool.or_eq_true, Bool.not_eq_true', Bool.and_eq_true, beq_iff_eq, bne_iff_ne] at horderly
  have hslot : ∀ day, (if input.sent = true ∧ dayEAT d.now = day then 1 else 0) +
      heldBy (fun t => onDay day (depositSlot t))
        (if input.answer = .retryable then some (.releaseSlot countedAt) else none) ≤
      onDay day (some countedAt) := by
    intro day
    rcases horderly with hunsent | ⟨hday, hanswer⟩
    · rw [if_neg (by simp [hunsent]), Nat.zero_add]
      split
      · rw [heldBy_some, depositSlot]
      · rw [heldBy_none]
        exact Nat.zero_le _
    · rw [if_neg hanswer, heldBy_none, hday, onDay_some]
      split
      · next hsame => rw [if_pos hsame.2]
      · exact Nat.zero_le _
  have hnext : ∀ u, (if input.answer = .retryable then some (PushTask.releaseSlot countedAt)
      else none) = some u → u = .releaseSlot countedAt := by
    intro u hu
    split at hu
    · cases hu
      rfl
    · cases hu
  have husable : ∀ day, heldBy (fun t => onDay day (usableSlot t))
      (if input.answer = .retryable then some (.releaseSlot countedAt) else none) = 0 :=
    fun day => heldBy_slot fun u hu => by rw [hnext u hu]; rfl
  refine ⟨rfl, hcounter ▸ h.deposits, h.repayments, fun day => ?_, fun day => ?_, fun day => .inl ?_,
    fun r hr => .inl (hrefusals ▸ hr), fun _ hr => .inl hr⟩
  · have hmine : depositSlot (.pushDeposit countedAt) = some countedAt := rfl
    have hday := hslot day
    simp only [depositUse, hcounter, pushesOn_push, heldBy_some, hmine]
    omega
  · exact repayments_untouched rfl rfl rfl fun u hu => by rw [hnext u hu]; rfl
  · have hmine : usableSlot (.pushDeposit countedAt) = some countedAt := rfl
    have hday := hslot day
    simp only [pushUse, pushesOn_push, husable day, heldBy_some, hmine]
    omega

theorem charges_release (h : Ready d (.releaseSlot countedAt))
    (hday : dayEAT d.now = dayEAT countedAt) :
    Charges d (.releaseSlot countedAt) none
      { d with deposits := d.deposits.decrIfPositive d.now } := by
  obtain ⟨hpositive, hfaithful⟩ := counted_return h.deposits (h.depositSlot countedAt rfl hday)
  have hdecr : d.deposits.decrIfPositive d.now = d.deposits.add d.now (-1) := if_pos hpositive
  rw [hdecr]
  refine ⟨rfl, hfaithful, h.repayments, fun day => ?_,
    fun day => repayments_untouched rfl rfl rfl fun _ hu => (by cases hu),
    fun day => .inl (pushes_untouched rfl rfl rfl fun _ hu => (by cases hu)),
    fun _ hr => .inl hr, fun _ hr => .inl hr⟩
  have hpushes : (d.deposits.add d.now (-1)).pushes = d.deposits.pushes := rfl
  simp only [depositUse, hpushes, tally_add, heldBy_some, heldBy_none, depositSlot, onDay_some, hday]
  split <;> omega

/-- A slot of a repayment is counted; the call may use it, or is about to return it. -/
theorem charges_repayment {run loanId : Nat} {loans : List Nat} {u : PushTask}
    (h : Ready d (.incrRepayment run loanId loans))
    (hclear : d.repayments.clear dayLater d.deposits d.now = true)
    (hslot : repaymentSlot u = some d.now) (hdeposit : depositSlot u = none)
    (husable : usableSlot u = none ∨ d.repayments.count d.now < MAX_PUSHES_PER_DAY) :
    Charges d (.incrRepayment run loanId loans) (some u)
      { d with repayments := d.repayments.add d.now 1 } := by
  obtain ⟨hcount, hroom⟩ := clear_count h.repayments hclear
  have hpushes : (d.repayments.add d.now 1).pushes = d.repayments.pushes := rfl
  have hle : ∀ day, onDay day (usableSlot u) ≤ if dayEAT d.now = day then 1 else 0 := by
    intro day
    have hday := usable_le day u
    rw [hdeposit, hslot, onDay_none, Nat.zero_add, onDay_some] at hday
    exact hday
  refine ⟨rfl, h.deposits, clear_add h.repayments hclear, fun day => ?_, fun day => ?_, fun day => ?_,
    fun _ hr => .inl hr, fun _ hr => .inl hr⟩
  · exact deposits_untouched rfl rfl fun v hv => by cases hv; exact hdeposit
  · have hmine : repaymentSlot (.incrRepayment run loanId loans) = none := rfl
    simp only [repaymentUse, hpushes, tally_add, heldBy_some, hslot, hmine, onDay_some, onDay_none]
    split <;> omega
  · have hmine : usableSlot (.incrRepayment run loanId loans) = none := rfl
    simp only [pushUse, hpushes, heldBy_some, hmine, onDay_none]
    rcases husable with hnone | hless
    · refine .inl ?_
      rw [hnone, onDay_none]
    · by_cases hday : dayEAT d.now = day
      · refine .inr ⟨?_, ?_⟩
        · have hone := hle day
          rw [if_pos hday] at hone
          omega
        · subst hday
          rw [hcount] at hless
          have hboth : countedOn (dayEAT d.now) d =
            d.repayments.counted d.now + d.deposits.counted d.now := Int.add_comm _ _
          rw [hboth]
          exact hroom hless
      · refine .inl ?_
        have hzero := hle day
        rw [if_neg hday] at hzero
        omega

theorem charges_refuse {u : Option PushTask}
    (h : Charges d t u { d with repayments := d.repayments.add d.now 1 })
    (hover : MAX_PUSHES_PER_DAY ≤ d.repayments.counted d.now) :
    Charges d t u
      { d with
        repayments := (d.repayments.add d.now 1).refuse d.now (d.repayments.counted d.now) } := by
  refine ⟨h.now, h.deposits, h.repayments, h.depositUse, h.repaymentUse, h.pushUse, h.depositRefusals,
    fun r hr => ?_⟩
  rcases List.mem_cons.mp hr with rfl | hr
  · exact .inr hover
  · exact .inl hr

theorem charges_expire {run loanId : Nat} {loans : List Nat}
    (h : Ready d (.expireRepayment run loanId loans countedAt)) :
    Charges d (.expireRepayment run loanId loans countedAt)
      (some (.enqueue run loanId loans countedAt))
      { d with
        repayments := d.repayments.expireAt d.now (d.now + RATE_LIMIT_TTL_SECS * 1000) } := by
  have hcounts : (d.repayments.expireAt d.now
      (d.now + RATE_LIMIT_TTL_SECS * 1000)).counter.counts = d.repayments.counter.counts := rfl
  have hpushes : (d.repayments.expireAt d.now (d.now + RATE_LIMIT_TTL_SECS * 1000)).pushes =
    d.repayments.pushes := rfl
  refine ⟨rfl, h.deposits,
    faithful_expireAt day_mono h.repayments (Nat.le_refl _) (day_lasts d.now) (day_later d.now),
    fun day => deposits_untouched rfl rfl fun _ hu => by cases hu; rfl, fun day => ?_,
    fun day => .inl ?_, fun _ hr => .inl hr, fun _ hr => .inl hr⟩
  · simp only [repaymentUse, hcounts, hpushes, heldBy_some, repaymentSlot]
    omega
  · simp only [pushUse, hpushes, heldBy_some, usableSlot]
    omega

theorem charges_undo {run : Nat} {loans : List Nat} (h : Ready d (.undo run loans countedAt))
    (hday : dayEAT d.now = dayEAT countedAt) :
    Charges d (.undo run loans countedAt) (some (.findJob run loans))
      { d with repayments := d.repayments.add d.now (-1) } := by
  obtain ⟨-, hfaithful⟩ := counted_return h.repayments (h.repaymentSlot countedAt rfl hday)
  have hpushes : (d.repayments.add d.now (-1)).pushes = d.repayments.pushes := rfl
  refine ⟨rfl, h.deposits, hfaithful,
    fun day => deposits_untouched rfl rfl fun _ hu => (by cases hu; rfl), fun day => ?_,
    fun day => .inl (pushes_untouched rfl rfl rfl fun _ hu => (by cases hu; rfl)),
    fun _ hr => .inl hr, fun _ hr => .inl hr⟩
  simp only [repaymentUse, hpushes, tally_add, heldBy_some, repaymentSlot, onDay_some, onDay_none,
    hday]
  split <;> omega

theorem charges_scheduled (h : Ready d (.pushScheduled job))
    (horderly : (PushTask.pushScheduled job).orderly input d = true) :
    Charges d (.pushScheduled job) (some (.finishJob job))
      { d with
        repayments := d.repayments.push d.now input.sent
        jobs := d.jobs.modify job fun x => { x with sent := x.sent || input.sent } } := by
  have hcounter : (d.repayments.push d.now input.sent).counter = d.repayments.counter := by
    unfold PushAllowance.push
    split <;> rfl
  have hrefusals : (d.repayments.push d.now input.sent).refusals = d.repayments.refusals := by
    unfold PushAllowance.push
    split <;> rfl
  have hslot : ∀ day, (if input.sent = true ∧ dayEAT d.now = day then 1 else 0) +
      unsent day (d.jobs.modify job fun x => { x with sent := x.sent || input.sent }) =
      unsent day d.jobs := by
    intro day
    unfold PushTask.orderly at horderly
    cases hsent : input.sent with
    | false =>
      rw [if_neg (by simp), Nat.zero_add]
      exact unsent_same fun x => by simp [jobSlot]
    | true =>
      simp only [hsent, Bool.not_true, Bool.false_or, Option.any_eq_true] at horderly
      obtain ⟨x, hx, hdue⟩ := horderly
      simp only [Bool.and_eq_true, beq_iff_eq, Bool.not_eq_true'] at hdue
      have hmodify := unsent_modify day (fun x => { x with sent := x.sent || true }) hx
      simp only [jobSlot, hdue.2, Bool.or_true, if_true, Bool.false_eq_true, if_false, onDay_some,
        onDay_none, ← hdue.1] at hmodify
      simp only [true_and, Nat.add_zero, Bool.or_true] at hmodify ⊢
      rw [Nat.add_comm]
      exact hmodify
  refine ⟨rfl, h.deposits, hcounter ▸ h.repayments,
    fun day => deposits_untouched rfl rfl fun _ hu => (by cases hu; rfl), fun day => ?_,
    fun day => .inl ?_, fun _ hr => .inl hr, fun r hr => .inl (hrefusals ▸ hr)⟩
  · have hday := hslot day
    simp only [repaymentUse, hcounter, pushesOn_push, heldBy_some, repaymentSlot, onDay_none]
    omega
  · have hday := hslot day
    simp only [pushUse, pushesOn_push, heldBy_some, usableSlot, onDay_none]
    omega

/-- A repayment is enqueued, unless its job is there. -/
theorem charges_enqueue {run loanId : Nat} {loans : List Nat}
    (h : Ready d (.enqueue run loanId loans countedAt)) :
    Charges d (.enqueue run loanId loans countedAt) (some (.findJob run loans))
      { d with jobs := d.jobs ++ [⟨loanId, run, countedAt, .waiting, false⟩] } := by
  have hslot : ∀ day, unsent day (d.jobs ++ [⟨loanId, run, countedAt, .waiting, false⟩]) =
      unsent day d.jobs + onDay day (some countedAt) := fun day => unsent_append
  refine charges_jobs h (fun day => ?_) (fun day => ?_) fun day => ?_
  · simp only [heldBy_some, depositSlot, onDay_none]
    omega
  · simp only [hslot, heldBy_some, repaymentSlot, onDay_none]
    omega
  · simp only [hslot, heldBy_some, usableSlot, onDay_none]
    omega

theorem charges_undone {run loanId : Nat} {loans : List Nat}
    (h : Ready d (.enqueue run loanId loans countedAt)) :
    Charges d (.enqueue run loanId loans countedAt) (some (.undo run loans countedAt)) d := by
  have hslot : repaymentSlot (.undo run loans countedAt) =
    repaymentSlot (.enqueue run loanId loans countedAt) := rfl
  refine charges_jobs h (fun day => ?_) (fun day => ?_) fun day => ?_
  · rw [heldBy_slot fun u hu => (by cases hu; rfl)]
    exact Nat.zero_le _
  · rw [heldBy_some, hslot]
  · rw [heldBy_slot fun u hu => (by cases hu; rfl), Nat.zero_add]
    exact Nat.le_add_left _ _

theorem charges_setJob {state : PushJobState} (h : Ready d t) {u : Option PushTask}
    (hu : ∀ v, u = some v → depositSlot v = none ∧ repaymentSlot v = none) :
    Charges d t u (d.setJob job state) := by
  have hjobs : ∀ day, unsent day (d.setJob job state).jobs = unsent day d.jobs :=
    fun day => unsent_same fun _ => rfl
  have hquiet := charges_quiet h (fun v hv => (hu v hv).1) fun v hv => (hu v hv).2
  refine ⟨hquiet.now, hquiet.deposits, hquiet.repayments, hquiet.depositUse, fun day => ?_, fun day => ?_,
    hquiet.depositRefusals, hquiet.repaymentRefusals⟩
  · have hday := hquiet.repaymentUse day
    unfold repaymentUse at hday ⊢
    rw [hjobs day]
    exact hday
  · have hday := hquiet.pushUse day
    unfold pushUse at hday ⊢
    rw [hjobs day]
    exact hday

theorem statement_charges (h : Ready d t) (horderly : t.orderly input d = true)
    (hy : Yields (t.statement input) d t' d') : Charges d t t' d' := by
  cases t with
  | limitDeposit =>
    simp only [PushTask.statement, yields_bind, yields_get, yields_pure] at hy
    obtain ⟨_, _, ⟨rfl, rfl⟩, rfl, rfl⟩ := hy
    exact charges_quiet h (fun u hu => by cases hu; rfl) fun u hu => by cases hu; rfl
  | incrDeposit readAt =>
    obtain ⟨hclear, hday⟩ := Bool.and_eq_true_iff.mp horderly
    obtain ⟨hlater, hlife⟩ := midnight_deadline (beq_iff_eq.mp hday)
    simp only [PushTask.statement, yields_bind, yields_get, yields_modify] at hy
    obtain ⟨_, _, ⟨rfl, rfl⟩, _, _, rfl, hy⟩ := hy
    split at hy
    · next hover =>
      simp only [yields_bind, yields_modify, yields_pure] at hy
      obtain ⟨_, _, rfl, rfl, rfl⟩ := hy
      exact charges_refused h hclear hlater hlife hover
    · next hpass =>
      obtain ⟨rfl, rfl⟩ := yields_pure.mp hy
      exact charges_deposit h hclear hlater hlife hpass
  | pushDeposit countedAt =>
    simp only [PushTask.statement, yields_bind, yields_modify, yields_pure] at hy
    obtain ⟨_, _, rfl, rfl, rfl⟩ := hy
    exact charges_push h horderly
  | releaseSlot countedAt =>
    simp only [PushTask.statement, yields_bind, yields_modify, yields_pure] at hy
    obtain ⟨_, _, rfl, rfl, rfl⟩ := hy
    exact charges_release h (beq_iff_eq.mp horderly)
  | startRun loans =>
    simp only [PushTask.statement, yields_bind, yields_get, yields_pure] at hy
    obtain ⟨_, _, ⟨rfl, rfl⟩, rfl, rfl⟩ := hy
    exact charges_quiet h (fun u hu => by cases hu; rfl) fun u hu => by cases hu; rfl
  | findJob day loans =>
    cases loans with
    | nil =>
      obtain ⟨rfl, rfl⟩ := yields_pure.mp hy
      exact charges_quiet h (fun u hu => by cases hu) fun u hu => by cases hu
    | cons loanId loans =>
      simp only [PushTask.statement, yields_bind, yields_get] at hy
      obtain ⟨_, _, ⟨rfl, rfl⟩, hy⟩ := hy
      split at hy
      · obtain ⟨rfl, rfl⟩ := yields_pure.mp hy
        exact charges_quiet h (fun u hu => by cases hu; rfl) fun u hu => by cases hu; rfl
      · obtain ⟨rfl, rfl⟩ := yields_pure.mp hy
        exact charges_quiet h (fun u hu => by cases hu; rfl) fun u hu => by cases hu; rfl
  | incrRepayment day loanId loans =>
    have hcount := (clear_count h.repayments horderly).1
    simp only [PushTask.statement, yields_bind, yields_get, yields_modify] at hy
    obtain ⟨_, _, ⟨rfl, rfl⟩, _, _, rfl, hy⟩ := hy
    split at hy
    · next hone =>
      obtain ⟨rfl, rfl⟩ := yields_pure.mp hy
      refine charges_repayment h horderly rfl rfl (.inr ?_)
      have hzero : d.repayments.count d.now = 0 := by omega
      rw [hzero]
      decide
    · split at hy
      · next hover =>
        simp only [yields_bind, yields_modify, yields_pure] at hy
        obtain ⟨_, _, rfl, rfl, rfl⟩ := hy
        refine charges_refuse (charges_repayment h horderly rfl rfl (.inl rfl)) ?_
        have hless : d.repayments.count d.now ≥ MAX_PUSHES_PER_DAY := Int.lt_add_one_iff.mp hover
        exact hcount ▸ hless
      · next hpass =>
        obtain ⟨rfl, rfl⟩ := yields_pure.mp hy
        exact charges_repayment h horderly rfl rfl (.inr (by omega))
  | expireRepayment day loanId loans countedAt =>
    simp only [PushTask.statement, yields_bind, yields_modify, yields_pure] at hy
    obtain ⟨_, _, rfl, rfl, rfl⟩ := hy
    exact charges_expire h
  | enqueue day loanId loans countedAt =>
    simp only [PushTask.statement] at hy
    split at hy
    · simp only [yields_bind, yields_get] at hy
      obtain ⟨_, _, ⟨rfl, rfl⟩, hy⟩ := hy
      split at hy
      · obtain ⟨rfl, rfl⟩ := yields_pure.mp hy
        exact charges_quiet h (fun u hu => by cases hu; rfl) fun u hu => by cases hu; rfl
      · simp only [yields_bind, yields_modify, yields_pure] at hy
        obtain ⟨_, _, rfl, rfl, rfl⟩ := hy
        exact charges_enqueue h
    · obtain ⟨rfl, rfl⟩ := yields_pure.mp hy
      exact charges_undone h
    · obtain ⟨rfl, rfl⟩ := yields_pure.mp hy
      exact charges_undone h
    · obtain ⟨rfl, rfl⟩ := yields_pure.mp hy
      exact charges_quiet h (fun u hu => by cases hu; rfl) fun u hu => by cases hu; rfl
  | undo day loans countedAt =>
    simp only [PushTask.statement, yields_bind, yields_modify, yields_pure] at hy
    obtain ⟨_, _, rfl, rfl, rfl⟩ := hy
    exact charges_undo h (beq_iff_eq.mp horderly)
  | takeJob job =>
    simp only [PushTask.statement, yields_bind, yields_get, yields_ensure, yields_modify,
      yields_pure] at hy
    obtain ⟨_, _, ⟨rfl, rfl⟩, _, _, ⟨-, rfl⟩, _, _, rfl, rfl, rfl⟩ := hy
    exact charges_setJob h fun v hv => by cases hv; exact ⟨rfl, rfl⟩
  | pushScheduled job =>
    simp only [PushTask.statement, yields_bind, yields_modify, yields_pure] at hy
    obtain ⟨_, _, rfl, rfl, rfl⟩ := hy
    exact charges_scheduled h horderly
  | finishJob job =>
    simp only [PushTask.statement, yields_bind, yields_modify, yields_pure] at hy
    obtain ⟨_, _, rfl, rfl, rfl⟩ := hy
    exact charges_setJob h fun v hv => by cases hv
  | requeueJob job | removeJob job =>
    simp only [PushTask.statement, yields_bind, yields_get, yields_ensure, yields_modify,
      yields_pure] at hy
    obtain ⟨_, _, ⟨rfl, rfl⟩, _, _, ⟨-, rfl⟩, _, _, rfl, rfl, rfl⟩ := hy
    exact charges_setJob h fun v hv => by cases hv

theorem next_charges (h : Ready { d with now := max d.now input.time } t)
    (horderly : t.orderly input { d with now := max d.now input.time } = true)
    (hy : Yields (t.next input) d t' d') :
    Charges { d with now := max d.now input.time } t t' d' := by
  simp only [PushTask.next, yields_bind, yields_modify] at hy
  obtain ⟨_, _, rfl, hy⟩ := hy
  exact statement_charges h horderly hy

/-! ## 6. One event -/

structure PushKept (d : PushDesk) (tasks : List (Option PushTask)) : Prop where
  deposits : Faithful dayEAT nextDay d.now d.deposits.counter
  repayments : Faithful dayEAT dayLater d.now d.repayments.counter
  /-- What was sent and what may still be used or returned is counted. -/
  depositSlots : ∀ day, (pushesOn d.deposits.pushes day : Int) +
    weight (fun t => onDay day (depositSlot t)) tasks ≤ tally dayEAT day d.deposits.counter.counts
  repaymentSlots : ∀ day, (pushesOn d.repayments.pushes day : Int) +
    weight (fun t => onDay day (repaymentSlot t)) tasks + unsent day d.jobs ≤
      tally dayEAT day d.repayments.counter.counts
  limit : ∀ day, (pushesOn d.deposits.pushes day : Int) + pushesOn d.repayments.pushes day +
    weight (fun t => onDay day (usableSlot t)) tasks + unsent day d.jobs ≤ MAX_PUSHES_PER_DAY
  depositRefusals : ∀ r ∈ d.deposits.refusals, MAX_PUSHES_PER_DAY ≤ r.counted
  repaymentRefusals : ∀ r ∈ d.repayments.refusals, MAX_PUSHES_PER_DAY ≤ r.counted

variable {tasks tasks' : List (Option PushTask)} {i : Nat}

/-- The same desk, and slots of no more calls. -/
theorem kept_lighter (h : PushKept d tasks)
    (hdeposit : ∀ day, weight (fun t => onDay day (depositSlot t)) tasks' ≤
      weight (fun t => onDay day (depositSlot t)) tasks)
    (hrepayment : ∀ day, weight (fun t => onDay day (repaymentSlot t)) tasks' ≤
      weight (fun t => onDay day (repaymentSlot t)) tasks)
    (husable : ∀ day, weight (fun t => onDay day (usableSlot t)) tasks' ≤
      weight (fun t => onDay day (usableSlot t)) tasks) : PushKept d tasks' := by
  refine ⟨h.deposits, h.repayments, fun day => ?_, fun day => ?_, fun day => ?_, h.depositRefusals,
    h.repaymentRefusals⟩
  · have hday := h.depositSlots day
    have hweight := hdeposit day
    omega
  · have hday := h.repaymentSlots day
    have hweight := hrepayment day
    omega
  · have hday := h.limit day
    have hweight := husable day
    omega

theorem kept_later (h : PushKept d tasks) (now : Nat) :
    PushKept { d with now := max d.now now } tasks :=
  ⟨faithful_later h.deposits (Nat.le_max_left _ _), faithful_later h.repayments (Nat.le_max_left _ _),
    h.depositSlots, h.repaymentSlots, h.limit, h.depositRefusals, h.repaymentRefusals⟩

/-- A slot of the day that a call has taken is counted. -/
theorem ready_of_kept (h : PushKept d tasks) (hat : tasks[i]? = some (some t)) : Ready d t := by
  refine ⟨h.deposits, h.repayments, fun c hc hday => ?_, fun c hc hday => ?_⟩
  · have hslots := h.depositSlots (dayEAT d.now)
    have hmine := le_weight (f := fun t => onDay (dayEAT d.now) (depositSlot t)) hat
    simp only [hc] at hmine
    rw [onDay_same hday.symm] at hmine
    exact Int.lt_of_lt_of_le (by omega) hslots
  · have hslots := h.repaymentSlots (dayEAT d.now)
    have hmine := le_weight (f := fun t => onDay (dayEAT d.now) (repaymentSlot t)) hat
    simp only [hc] at hmine
    rw [onDay_same hday.symm] at hmine
    exact Int.lt_of_lt_of_le (by omega) hslots

/-- What may still be used is counted, in one key or in the other. -/
theorem use_le_counted (h : PushKept d tasks) (day : Nat) :
    (pushesOn d.deposits.pushes day : Int) + pushesOn d.repayments.pushes day +
      weight (fun t => onDay day (usableSlot t)) tasks + unsent day d.jobs ≤ countedOn day d := by
  have hdeposits := h.depositSlots day
  have hrepayments := h.repaymentSlots day
  have hweight : weight (fun t => onDay day (usableSlot t)) tasks ≤
      weight (fun t => onDay day (depositSlot t)) tasks +
        weight (fun t => onDay day (repaymentSlot t)) tasks := weight_le_add (usable_le day)
  unfold countedOn
  omega

theorem kept_charged (h : PushKept d tasks) (hcharges : Charges d t t' d')
    (hweight : ∀ f : PushTask → Nat, weight f tasks' + f t = weight f tasks + heldBy f t') :
    PushKept d' tasks' := by
  refine ⟨hcharges.now ▸ hcharges.deposits, hcharges.now ▸ hcharges.repayments, fun day => ?_,
    fun day => ?_, fun day => ?_, fun r hr => ?_, fun r hr => ?_⟩
  · have hday := h.depositSlots day
    have huse := hcharges.depositUse day
    have hslots := hweight fun t => onDay day (depositSlot t)
    simp only [depositUse, heldBy_some] at huse
    omega
  · have hday := h.repaymentSlots day
    have huse := hcharges.repaymentUse day
    have hslots := hweight fun t => onDay day (repaymentSlot t)
    simp only [repaymentUse, heldBy_some] at huse
    omega
  · have hday := h.limit day
    have hcounted := use_le_counted h day
    have hslots := hweight fun t => onDay day (usableSlot t)
    rcases hcharges.pushUse day with huse | ⟨huse, hroom⟩
    · simp only [pushUse, heldBy_some] at huse
      omega
    · simp only [pushUse, heldBy_some] at huse
      omega
  · exact (hcharges.depositRefusals r hr).elim (h.depositRefusals r) id
  · exact (hcharges.repaymentRefusals r hr).elim (h.repaymentRefusals r) id

theorem entry_slot (call : PushCall) :
    depositSlot call.entry = none ∧ repaymentSlot call.entry = none ∧ usableSlot call.entry = none := by
  cases call <;> exact ⟨rfl, rfl, rfl⟩

theorem kept_step (h : PushKept w.state w.tasks) (horderly : w.orderly e = true) :
    PushKept (pushProgram.step w e).state (pushProgram.step w e).tasks := by
  rcases weight_cases pushProgram w e with ⟨call, -, hstate, hweight⟩ |
    ⟨i, input, t, t', he, hat, hy, hweight⟩ | ⟨hstate, hweight⟩
  · rw [hstate]
    have hentry : ∀ slot : PushTask → Option Nat, slot call.entry = none → ∀ day,
        weight (fun t => onDay day (slot t)) (pushProgram.step w e).tasks =
          weight (fun t => onDay day (slot t)) w.tasks := by
      intro slot hslot day
      have hcall : pushProgram.entry call = call.entry := rfl
      rw [hweight, hcall, hslot, onDay_none, Nat.add_zero]
    obtain ⟨hdeposit, hrepayment, husable⟩ := entry_slot call
    exact kept_lighter h (fun day => Nat.le_of_eq (hentry _ hdeposit day))
      (fun day => Nat.le_of_eq (hentry _ hrepayment day))
      fun day => Nat.le_of_eq (hentry _ husable day)
  · subst he
    have hlater := kept_later h input.time
    unfold PushWorld.orderly at horderly
    simp only [task_some.mpr hat, Option.all_some] at horderly
    exact kept_charged hlater (next_charges (ready_of_kept hlater hat) horderly hy) hweight
  · rw [hstate]
    exact kept_lighter h (fun day => hweight _) (fun day => hweight _) fun day => hweight _

theorem kept_opening : PushKept PushWorld.opening.state PushWorld.opening.tasks := by
  refine ⟨faithful_new, faithful_new, fun day => ?_, fun day => ?_, fun day => ?_,
    fun _ hr => (by cases hr), fun _ hr => (by cases hr)⟩
  · exact Int.le_refl 0
  · exact Int.le_refl 0
  · exact Int.le_of_lt (by decide : (0 : Int) < MAX_PUSHES_PER_DAY)

theorem limited_of_kept (h : PushKept d tasks) : d.Limited := by
  refine ⟨fun day => ?_, h.depositRefusals, h.repaymentRefusals⟩
  have hday := h.limit day
  have hmax : MAX_PUSHES_PER_DAY = 3 := rfl
  omega

end PushLemmas

open PushLemmas

/-! ## 7. Runs -/

/-- While the two sources share no day or no more than three counts, the keys of earlier days had the
time to expire, and slots are used and returned on the day on which they were counted, at most three
pushes go out on a day and a push is refused only on a day with three counts. -/
theorem pushes_limited (events : List PushEvent)
    (h : Machine.Guarded pushProgram.step (fun w e => PushWorld.orderly w e = true)
      PushWorld.opening events) : (PushWorld.opening.after events).state.Limited :=
  limited_of_kept (Machine.run_induct (I := fun w : PushWorld => PushKept w.state w.tasks)
    (fun _ _ => kept_step) kept_opening h)

/-- A statement of call `i` at the time `time`, with what Daraja answers. -/
def exPushStep (i time : Nat) (sent : Bool) (answer : DarajaAnswer) : PushEvent :=
  .advance i ⟨time, sent, answer, .job⟩

/-- `n` statements of call `i` that send nothing. -/
def exPushSteps (i time n : Nat) : List PushEvent :=
  List.replicate n (exPushStep i time false .accepted)

/-- Call `i` is a deposit of which the push goes out. -/
def exPushedDeposit (i time : Nat) : List PushEvent :=
  .start .initiateDeposit :: exPushSteps i time 2 ++ [exPushStep i time true .accepted]

/-- Call `i` is a deposit that Daraja fails, and whose slot is returned. -/
def exReturnedDeposit (i time : Nat) : List PushEvent :=
  .start .initiateDeposit :: exPushSteps i time 2 ++
    [exPushStep i time false .retryable, exPushStep i time false .accepted]

/-- Call `i` processes a job. -/
def exProcessedJob (i job time : Nat) : List PushEvent :=
  [.start (.processJob job), exPushStep i time false .accepted, exPushStep i time true .accepted,
    exPushStep i time false .accepted]

/-- Three deposits on one day, with one that is returned and one that is refused, and a repayment
and a deposit on the next day. -/
def exOrderlyPushes : List PushEvent :=
  exPushedDeposit 0 1000 ++ exReturnedDeposit 1 2000 ++ exPushedDeposit 2 3000 ++
    exPushedDeposit 3 4000 ++ exPushedDeposit 4 5000 ++
    .start (.runDailyRepaymentSchedule [7]) :: exPushSteps 5 86400000 6 ++
    exProcessedJob 6 0 86400000 ++ exPushedDeposit 7 86400000

theorem pushes_limited_orderly : (PushWorld.opening.after exOrderlyPushes).state.Limited :=
  pushes_limited exOrderlyPushes (by decide +kernel)

/-- Three deposits and three repayments go out on one day, since neither key counts the other
source. A run a second less than 24 hours after that of the day before still finds its key, and
refuses the first push of the day. -/
theorem pushes_unlimited :
    let both : PushDesk := (PushWorld.opening.after
      (exPushedDeposit 0 1000 ++ exPushedDeposit 1 2000 ++ exPushedDeposit 2 3000 ++
        .start (.runDailyRepaymentSchedule [5, 6, 7]) :: exPushSteps 3 4000 12 ++
        exProcessedJob 4 0 5000 ++ exProcessedJob 5 1 5000 ++ exProcessedJob 6 2 5000)).state
    let blocked : PushDesk := (PushWorld.opening.after
      (.start (.runDailyRepaymentSchedule [5, 6, 7]) :: exPushSteps 0 25200000 12 ++
        .start (.runDailyRepaymentSchedule [5]) :: exPushSteps 1 111599000 3)).state
    both.deposits.pushes = [3000, 2000, 1000] ∧ both.repayments.pushes = [5000, 5000, 5000] ∧
      pushesOn both.deposits.pushes 0 + pushesOn both.repayments.pushes 0 = 6 ∧
      dayEAT 25200000 = 0 ∧ dayEAT 111599000 = 1 ∧
      blocked.repayments.refusals = [⟨111599000, 0⟩] := by
  decide +kernel

end BebaSacco
