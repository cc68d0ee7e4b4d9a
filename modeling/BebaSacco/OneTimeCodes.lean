import BebaSacco.Lib.ExpiringKey
import BebaSacco.Lib.SerialProcess
import BebaSacco.Deposits
import BebaSacco.Users

/-! # One-time codes

`validatePin` and `validate` compare what was submitted with the record that Redis holds for a code,
and then delete the record or write it back with one more attempt and its whole time to live. A call
is a sequence of Redis commands and statements, and those of different calls interleave; the time of
each comes with the event.

Results:
 1. `next_cases`: what a statement of a call can do.
 2. `sound_step`: one event keeps the bound when the calls on a code do not overlap and end in time.
 3. `code_guesses_bounded`: the bound on guesses, the single acceptance and the time to live in
    every such run.
 4. `code_guesses_unbounded`: parallel guesses, a record written back after its deletion, and one
    whose time to live was renewed.
-/

namespace BebaSacco

open Txn Process ExpiringKey

/-- What the two services do with a code: how many attempts there are, how long it lives, what is
compared of a submitted text, and whether a row of the database is kept for it. -/
structure CodePolicy where
  maxAttempts : Nat
  ttlSeconds : Nat
  submitted : String → String
  persisted : Bool

/-- `PinService`, which keeps the hash of a code. -/
def pinPolicy (sha256 : String → String) : CodePolicy where
  maxAttempts := 5
  ttlSeconds := 20 * 60
  submitted plainPin := sha256 (jsTrim plainPin)
  persisted := true

/-- `OtpService`, which keeps the code. -/
def otpPolicy : CodePolicy where
  maxAttempts := 3
  ttlSeconds := 30 * 60
  submitted code := jsTrim code
  persisted := false

structure CodeRecord where
  code : String
  attempts : Nat
  deriving DecidableEq, Repr

/-- What happened, for the statement of the properties. -/
inductive CodeMark where
  | compared (isValid : Bool)
  | deleted
  | accepted (time : Nat)
  deriving DecidableEq, Repr

/-- The time, the key of the code and, newest first, what happened. -/
structure CodeDesk where
  now : Nat
  slot : Slot CodeRecord
  history : List CodeMark
  deriving DecidableEq, Repr

/-- Where a call is, with the time at which it read the record if it accepts the code. -/
inductive CodeTask where
  | getRecord (guess : String)
  | consume (readAt : Nat)
  | markConsumed (readAt : Nat)
  | recordAttempts (record : CodeRecord)
  | exhaust
  | writeBack (record : CodeRecord)
  deriving DecidableEq, Repr

/-- The time of a command and whether Redis answers it. -/
structure CodeInput where
  time : Nat
  reachable : Bool
  deriving DecidableEq, Repr

abbrev CodeWorld := World CodeDesk CodeTask

abbrev CodeEvent := Event String CodeInput

namespace CodePolicy

variable (policy : CodePolicy)

def ttlMs : Nat := policy.ttlSeconds * 1000

/-- A wrong guess uses the record up or is written back. -/
def count (record : CodeRecord) : CodeTask :=
  if record.attempts + 1 ≥ policy.maxAttempts then .exhaust else .writeBack record

/-- What follows the comparison of a guess with the record that was read. -/
def compare (guess : String) (record : CodeRecord) (readAt : Nat) : CodeTask :=
  if policy.submitted guess = record.code then .consume readAt
  else if policy.persisted then .recordAttempts record
  else policy.count record

/-- A command of a call at its time. -/
def command (d : CodeDesk) (input : CodeInput) : CodeTask → Option CodeTask × CodeDesk
  | .getRecord guess =>
    match if input.reachable then read d.slot d.now else none with
    | none => (none, d)
    | some record =>
      (some (policy.compare guess record d.now),
        { d with history := .compared (policy.submitted guess = record.code) :: d.history })
  | .consume readAt =>
    let d := if input.reachable then { d with slot := none, history := .deleted :: d.history } else d
    if policy.persisted then (some (.markConsumed readAt), d)
    else (none, { d with history := .accepted d.now :: d.history })
  | .markConsumed _ => (none, { d with history := .accepted d.now :: d.history })
  | .recordAttempts record => (some (policy.count record), d)
  | .exhaust =>
    (none, if input.reachable then { d with slot := none, history := .deleted :: d.history } else d)
  | .writeBack record =>
    (none,
      if input.reachable then
        { d with slot := setex { record with attempts := record.attempts + 1 } d.now policy.ttlMs }
      else d)

/-- `validatePin` and `validate`. -/
def next (t : CodeTask) (input : CodeInput) : Txn CodeDesk AuthErr (Option CodeTask) := fun d =>
  .ok (policy.command { d with now := max d.now input.time } input t)

def program : Program CodeDesk AuthErr String CodeInput CodeTask := ⟨.getRecord, policy.next⟩

/-- The world after the code was issued. -/
def issue (code : String) (issuedAt : Nat) : CodeWorld :=
  ⟨⟨issuedAt, setex ⟨code, 0⟩ issuedAt policy.ttlMs, []⟩, []⟩

end CodePolicy

/-! ## 1. The properties and the condition -/

def CodeMark.accepts : CodeMark → Bool
  | .accepted _ => true
  | _ => false

/-- No acceptance comes after a deletion other than its own. -/
def NoneAfterDeletion : List CodeMark → Prop
  | [] => True
  | mark :: earlier =>
    (mark.accepts = true → earlier.count .deleted ≤ 1) ∧ NoneAfterDeletion earlier

/-- The bound for a code whose time to live ends at the deadline. -/
structure CodeDesk.Bounded (d : CodeDesk) (maxAttempts deadline : Nat) : Prop where
  guesses : d.history.count (.compared false) ≤ maxAttempts
  once : d.history.countP (·.accepts) ≤ 1
  dead : NoneAfterDeletion d.history
  inTime : ∀ time, .accepted time ∈ d.history → time < deadline

/-- A call that has read the record and has not yet deleted it or written it back. -/
def CodeTask.holds : CodeTask → Bool
  | .consume _ | .recordAttempts _ | .exhaust | .writeBack _ => true
  | _ => false

/-- What a call does after its read is answered by Redis, and it is not held up beyond the deadline
when it read before. -/
def CodeTask.inTime (deadline now : Nat) (reachable : Bool) : CodeTask → Bool
  | .getRecord _ | .recordAttempts _ => true
  | .markConsumed readAt => deadline ≤ readAt || now < deadline
  | .consume readAt => reachable && (deadline ≤ readAt || now < deadline)
  | .exhaust | .writeBack _ => reachable

/-- A write-back has renewed the record. -/
def CodeDesk.renewed (d : CodeDesk) (deadline : Nat) : Bool :=
  d.slot.any fun held => held.expiresAt.all (deadline < ·)

/-- The condition on an event: the record is read while no other call holds it, and not past the
deadline when it was renewed; a call that holds it is not lost, Redis answers its command, and it is
not held up. -/
def CodeWorld.orderly (deadline : Nat) (w : CodeWorld) : CodeEvent → Bool
  | .start _ => true
  | .advance i input =>
    let now := max w.state.now input.time
    match w.task i with
    | none => true
    | some (.getRecord _) =>
      !input.reachable || (read w.state.slot now).isNone ||
        (w.tasks.all (·.all (!·.holds)) && (!w.state.renewed deadline || now < deadline))
    | some t => t.inTime deadline now input.reachable
  | .crash i => (w.task i).all (!·.holds)

/-! ## 2. One event -/

namespace CodeLemmas

variable {policy : CodePolicy} {code : String} {deadline : Nat} {w : CodeWorld} {d d' : CodeDesk}
  {t : CodeTask} {t' : Option CodeTask} {input : CodeInput} {e : CodeEvent}

/-- What is in the history: how many wrong guesses, deletions and acceptances. -/
structure Tally (deadline : Nat) (history : List CodeMark) (wrong deleted accepted : Nat) :
    Prop where
  wrong : history.count (.compared false) = wrong
  deleted : history.count .deleted = deleted
  accepted : history.countP (·.accepts) = accepted
  dead : NoneAfterDeletion history
  inTime : ∀ time, .accepted time ∈ history → time < deadline

variable {history : List CodeMark} {wrong deleted accepted : Nat}

theorem tally_mark (mark : CodeMark) (hmark : mark.accepts = false)
    (h : Tally deadline history wrong deleted accepted) :
    Tally deadline (mark :: history) (wrong + if mark == .compared false then 1 else 0)
      (deleted + if mark == .deleted then 1 else 0) accepted where
  wrong := by rw [List.count_cons, h.wrong]
  deleted := by rw [List.count_cons, h.deleted]
  accepted := by rw [List.countP_cons_of_neg (by simp [hmark]), h.accepted]
  dead := ⟨fun hacc => absurd hacc (by simp [hmark]), h.dead⟩
  inTime time hmem := h.inTime time ((List.mem_cons.mp hmem).resolve_left fun he => by
    rw [← he] at hmark
    cases hmark)

theorem tally_accepted {now : Nat} (h : Tally deadline history wrong deleted accepted)
    (hdeleted : deleted ≤ 1) (hnow : now < deadline) :
    Tally deadline (.accepted now :: history) wrong deleted (accepted + 1) where
  wrong := by rw [List.count_cons_of_ne (by simp), h.wrong]
  deleted := by rw [List.count_cons_of_ne (by simp), h.deleted]
  accepted := by rw [List.countP_cons_of_pos rfl, h.accepted]
  dead := ⟨fun _ => h.deleted ▸ hdeleted, h.dead⟩
  inTime time hmem := by
    rcases List.mem_cons.mp hmem with heq | hmem
    · cases heq
      exact hnow
    · exact h.inTime time hmem

/-- The record of a code that `attempts` guesses have missed. -/
def Holding (code : String) (slot : Slot CodeRecord) (attempts : Nat) : Prop :=
  ∃ expiresAt, slot = some ⟨⟨code, attempts⟩, expiresAt⟩

/-- The state of a code next to the one call that is past its read, if there is one. -/
inductive Stage (policy : CodePolicy) (code : String) (deadline : Nat) (d : CodeDesk) :
    Option CodeTask → Prop
  | opened {k : Nat} (hslot : Holding code d.slot k) (hk : k < policy.maxAttempts)
      (htally : Tally deadline d.history k 0 0) : Stage policy code deadline d none
  | matched {k readAt : Nat} (hslot : Holding code d.slot k) (hk : k < policy.maxAttempts)
      (hread : readAt < deadline) (htally : Tally deadline d.history k 0 0) :
      Stage policy code deadline d (some (.consume readAt))
  | recording {k : Nat} (hslot : Holding code d.slot k) (hk : k < policy.maxAttempts)
      (htally : Tally deadline d.history (k + 1) 0 0) :
      Stage policy code deadline d (some (.recordAttempts ⟨code, k⟩))
  | writing {k : Nat} (hslot : Holding code d.slot k) (hk : k + 1 < policy.maxAttempts)
      (htally : Tally deadline d.history (k + 1) 0 0) :
      Stage policy code deadline d (some (.writeBack ⟨code, k⟩))
  | exhausting {k : Nat} (hslot : Holding code d.slot k) (hk : k < policy.maxAttempts)
      (htally : Tally deadline d.history (k + 1) 0 0) : Stage policy code deadline d (some .exhaust)
  | marking {wrong readAt : Nat} (hslot : d.slot = none) (hwrong : wrong ≤ policy.maxAttempts)
      (hread : readAt < deadline) (htally : Tally deadline d.history wrong 1 0) :
      Stage policy code deadline d (some (.markConsumed readAt))
  | closed {wrong accepted : Nat} (hslot : d.slot = none) (hwrong : wrong ≤ policy.maxAttempts)
      (haccepted : accepted ≤ 1) (htally : Tally deadline d.history wrong 1 accepted) :
      Stage policy code deadline d none

/-- A call that has not read the record yet. -/
def Unread (t : CodeTask) : Prop := ∃ guess, t = .getRecord guess

def Sound (policy : CodePolicy) (code : String) (deadline : Nat) (w : CodeWorld) : Prop :=
  Serial Unread (Stage policy code deadline) w

theorem stage_later {o : Option CodeTask} (now : Nat) (h : Stage policy code deadline d o) :
    Stage policy code deadline { d with now } o := by
  cases h with
  | opened hslot hk htally => exact .opened hslot hk htally
  | matched hslot hk hread htally => exact .matched hslot hk hread htally
  | recording hslot hk htally => exact .recording hslot hk htally
  | writing hslot hk htally => exact .writing hslot hk htally
  | exhausting hslot hk htally => exact .exhausting hslot hk htally
  | marking hslot hwrong hread htally => exact .marking hslot hwrong hread htally
  | closed hslot hwrong haccepted htally => exact .closed hslot hwrong haccepted htally

theorem command_of_yields (h : Yields (policy.next t input) d t' d') :
    policy.command { d with now := max d.now input.time } input t = (t', d') :=
  Except.ok.inj h

theorem stage_count {k : Nat} (hslot : Holding code d.slot k) (hk : k < policy.maxAttempts)
    (htally : Tally deadline d.history (k + 1) 0 0) :
    Stage policy code deadline d (some (policy.count ⟨code, k⟩)) := by
  unfold CodePolicy.count
  split
  · exact .exhausting hslot hk htally
  · next hlt => exact .writing hslot (Nat.lt_of_not_le hlt) htally

theorem stage_compare {guess : String} {record : CodeRecord} (h : Stage policy code deadline d none)
    (hread : read d.slot d.now = some record) (hnow : d.now < deadline) :
    Stage policy code deadline
      { d with history := .compared (policy.submitted guess = record.code) :: d.history }
      (some (policy.compare guess record d.now)) := by
  cases h with
  | closed hslot =>
    rw [hslot] at hread
    cases hread
  | opened hslot hk htally =>
    obtain ⟨expiresAt, hslot'⟩ := hslot
    obtain ⟨held, hheld, -, rfl⟩ := read_some.mp hread
    cases hslot'.symm.trans hheld
    unfold CodePolicy.compare
    split
    · next hvalid =>
      rw [decide_eq_true hvalid]
      exact .matched ⟨expiresAt, hslot'⟩ hk hnow (tally_mark (.compared true) rfl htally)
    · next hvalid =>
      rw [decide_eq_false hvalid]
      split
      · exact .recording ⟨expiresAt, hslot'⟩ hk (tally_mark (.compared false) rfl htally)
      · exact stage_count ⟨expiresAt, hslot'⟩ hk (tally_mark (.compared false) rfl htally)

/-- A call that read in time and is not held up. -/
theorem goes_on {readAt now : Nat} (hread : readAt < deadline)
    (h : (decide (deadline ≤ readAt) || decide (now < deadline)) = true) : now < deadline := by
  rw [decide_eq_false (Nat.not_le.mpr hread), Bool.false_or] at h
  exact of_decide_eq_true h

/-- A record that was not renewed is gone after the deadline. -/
theorem read_inTime {record : CodeRecord} (hread : read d.slot d.now = some record)
    (h : (!d.renewed deadline || decide (d.now < deadline)) = true) : d.now < deadline := by
  rw [Bool.or_eq_true, Bool.not_eq_true', decide_eq_true_eq] at h
  refine h.elim (fun hkept => ?_) id
  obtain ⟨held, hheld, hlive, -⟩ := read_some.mp hread
  unfold CodeDesk.renewed at hkept
  rw [hheld, Option.any_some] at hkept
  unfold Held.live at hlive
  cases hexpiry : held.expiresAt with
  | none =>
    rw [hexpiry] at hkept
    cases hkept
  | some expiresAt =>
    rw [hexpiry, Option.all_some] at hkept hlive
    exact Nat.lt_of_lt_of_le (of_decide_eq_true hlive) (Nat.not_lt.mp (of_decide_eq_false hkept))

theorem stage_command (h : Stage policy code deadline d (some t))
    (htime : t.inTime deadline d.now input.reachable = true) :
    Stage policy code deadline (policy.command d input t).2 (policy.command d input t).1 := by
  cases h with
  | matched hslot hk hread htally =>
    obtain ⟨hreachable, hnow⟩ := Bool.and_eq_true_iff.mp htime
    have hdeleted := tally_mark .deleted rfl htally
    unfold CodePolicy.command
    simp only [if_pos hreachable]
    split
    · exact .marking rfl (Nat.le_of_lt hk) hread hdeleted
    · exact .closed rfl (Nat.le_of_lt hk) (Nat.le_refl 1)
        (tally_accepted hdeleted (Nat.le_refl 1) (goes_on hread hnow))
  | recording hslot hk htally => exact stage_count hslot hk htally
  | writing hslot hk htally =>
    have hreachable : input.reachable = true := htime
    unfold CodePolicy.command
    simp only [if_pos hreachable]
    exact .opened ⟨_, rfl⟩ hk htally
  | exhausting hslot hk htally =>
    have hreachable : input.reachable = true := htime
    unfold CodePolicy.command
    simp only [if_pos hreachable]
    exact .closed rfl hk (Nat.zero_le 1) (tally_mark .deleted rfl htally)
  | marking hslot hwrong hread htally =>
    exact .closed hslot hwrong (Nat.le_refl 1)
      (tally_accepted htally (Nat.le_refl 1) (goes_on hread htime))

/-- Nobody is past its read when nobody holds the record, unless the code is closed. -/
theorem stage_idle {o : Option CodeTask} (h : Stage policy code deadline d o) {record : CodeRecord}
    (hread : read d.slot d.now = some record) (hidle : ∀ t, o = some t → t.holds = false) :
    o = none := by
  cases h with
  | opened _ _ _ | closed _ _ _ _ => rfl
  | marking hslot =>
    rw [hslot] at hread
    cases hread
  | matched _ _ _ _ | recording _ _ _ | writing _ _ _ | exhausting _ _ _ => cases hidle _ rfl

theorem command_read (ht : ¬ Unread t) : ∀ u, (policy.command d input t).1 = some u → ¬ Unread u := by
  have hcount : ∀ {record : CodeRecord}, ¬ Unread (policy.count record) := by
    rintro record ⟨guess, hguess⟩
    unfold CodePolicy.count at hguess
    split at hguess <;> cases hguess
  intro u hu
  cases t with
  | getRecord guess => exact absurd ⟨guess, rfl⟩ ht
  | consume readAt =>
    simp only [CodePolicy.command] at hu
    split at hu
    · cases hu
      rintro ⟨_, h⟩
      cases h
    · cases hu
  | recordAttempts record =>
    cases hu
    exact hcount
  | markConsumed _ | exhaust | writeBack _ => cases hu

theorem compare_read {guess : String} {record : CodeRecord} {readAt : Nat} :
    ¬ Unread (policy.compare guess record readAt) := by
  rintro ⟨_, h⟩
  unfold CodePolicy.compare CodePolicy.count at h
  split at h
  · cases h
  · split at h
    · cases h
    · split at h <;> cases h

theorem turns_read {i : Nat} {guess : String} (hat : w.At i (.getRecord guess))
    (horderly : w.orderly deadline (.advance i input) = true)
    (h : policy.command { w.state with now := max w.state.now input.time } input
      (.getRecord guess) = (t', d')) :
    Turns Unread (Stage policy code deadline) w (.getRecord guess) t' d' := by
  unfold CodePolicy.command at h
  cases hread : (if input.reachable then
      read w.state.slot (max w.state.now input.time) else none) with
  | none =>
    simp only [hread] at h
    cases h
    exact .inr (.inl ⟨⟨guess, rfl⟩, fun u hu => (by cases hu), fun o => stage_later _⟩)
  | some record =>
    simp only [hread] at h
    cases h
    obtain ⟨hreachable, hread⟩ := Option.ite_none_right_eq_some.mp hread
    simp only [CodeWorld.orderly, task_some.mpr hat, hreachable, hread, Bool.not_true,
      Option.isNone_some, Bool.false_or, Bool.and_eq_true] at horderly
    refine .inr (.inr ⟨⟨guess, rfl⟩, fun u hu => ?_, fun o hstage hthere => ?_⟩)
    · cases hu
      exact compare_read
    · have hlater := stage_later (max w.state.now input.time) hstage
      have hnone := stage_idle hlater hread fun u hu => by
        obtain ⟨-, j, hj⟩ := hthere u hu
        have hnot := List.all_eq_true.mp horderly.1 _ (List.mem_of_getElem? hj)
        exact Bool.not_eq_true' _ ▸ hnot
      subst hnone
      exact ⟨rfl, stage_compare hlater hread (read_inTime hread horderly.2)⟩

theorem orderly_command {i : Nat} (hat : w.At i t) (ht : ¬ Unread t)
    (horderly : w.orderly deadline (.advance i input) = true) :
    t.inTime deadline (max w.state.now input.time) input.reachable = true := by
  unfold CodeWorld.orderly at horderly
  simp only [task_some.mpr hat] at horderly
  cases t with
  | getRecord guess => exact absurd ⟨guess, rfl⟩ ht
  | _ => exact horderly

theorem sound_step (h : Sound policy code deadline w) (horderly : w.orderly deadline e = true) :
    Sound policy code deadline (policy.program.step w e) := by
  refine serial_step h (fun guess => ⟨guess, rfl⟩) ?_ ?_
  · intro i t hlost hat ht hstage
    rcases hlost with rfl | ⟨input, -, hfails⟩
    · have hholds : t.holds = false := by
        simp only [CodeWorld.orderly, task_some.mpr hat, Option.all_some] at horderly
        exact Bool.not_eq_true' _ ▸ horderly
      cases hstage with
      | marking hslot hwrong _ htally => exact .closed hslot hwrong (Nat.zero_le 1) htally
      | matched _ _ _ _ | recording _ _ _ | writing _ _ _ | exhausting _ _ _ => cases hholds
    · exact absurd rfl (hfails _ _)
  · intro i input t t' d' he hat hy
    subst he
    have hcommand := command_of_yields hy
    by_cases ht : Unread t
    · obtain ⟨guess, rfl⟩ := ht
      exact turns_read hat horderly hcommand
    · refine .inl ⟨ht, fun u hu => ?_, fun hstage => ?_⟩
      · subst hu
        exact command_read ht u (congrArg Prod.fst hcommand)
      · have hnext := stage_command (stage_later (max w.state.now input.time) hstage)
          (orderly_command hat ht horderly)
        rw [hcommand] at hnext
        exact hnext

theorem bounded_of_sound (h : Sound policy code deadline w) :
    w.state.Bounded policy.maxAttempts deadline := by
  have hbound : ∀ {wrong deleted accepted : Nat},
      Tally deadline w.state.history wrong deleted accepted → wrong ≤ policy.maxAttempts →
        accepted ≤ 1 → w.state.Bounded policy.maxAttempts deadline := by
    intro _ _ _ htally hwrong haccepted
    exact ⟨htally.wrong ▸ hwrong, htally.accepted ▸ haccepted, htally.dead, htally.inTime⟩
  obtain ⟨engaged, -, hstage⟩ := h
  generalize engaged.map Prod.snd = o at hstage
  cases hstage with
  | opened _ hk htally => exact hbound htally (Nat.le_of_lt hk) (Nat.zero_le 1)
  | matched _ hk _ htally => exact hbound htally (Nat.le_of_lt hk) (Nat.zero_le 1)
  | recording _ hk htally => exact hbound htally hk (Nat.zero_le 1)
  | writing _ hk htally => exact hbound htally (Nat.le_of_lt hk) (Nat.zero_le 1)
  | exhausting _ hk htally => exact hbound htally hk (Nat.zero_le 1)
  | marking _ hwrong _ htally => exact hbound htally hwrong (Nat.zero_le 1)
  | closed _ hwrong haccepted htally => exact hbound htally hwrong haccepted

theorem sound_issue {issuedAt : Nat} (h : 0 < policy.maxAttempts) :
    Sound policy code deadline (policy.issue code issuedAt) := by
  refine ⟨none, ⟨fun i t hi => (by cases hi), fun i t hit => (by cases hit)⟩, ?_⟩
  refine .opened ⟨_, rfl⟩ h ⟨rfl, rfl, rfl, trivial, fun time hmem => ?_⟩
  cases hmem

end CodeLemmas

open CodeLemmas

/-! ## 3. Runs -/

def CodeWorld.after (policy : CodePolicy) (w : CodeWorld) (events : List CodeEvent) : CodeWorld :=
  Machine.run policy.program.step w events

/-- Of a code that was issued once, with calls that do not overlap and end in time, no more wrong
guesses are compared than are allowed, and it is accepted once at most, not after its deletion and
not after its time to live. -/
theorem code_guesses_bounded (sha256 : String → String) {policy : CodePolicy}
    (hpolicy : policy = pinPolicy sha256 ∨ policy = otpPolicy) (code : String) (issuedAt : Nat)
    (events : List CodeEvent)
    (h : Machine.Guarded policy.program.step
      (fun w e => CodeWorld.orderly (issuedAt + policy.ttlMs) w e = true)
      (policy.issue code issuedAt) events) :
    (CodeWorld.after policy (policy.issue code issuedAt) events).state.Bounded policy.maxAttempts
      (issuedAt + policy.ttlMs) := by
  have hpos : 0 < policy.maxAttempts := by
    rcases hpolicy with rfl | rfl
    · exact Nat.succ_pos 4
    · exact Nat.succ_pos 2
  exact bounded_of_sound (Machine.run_induct (fun _ _ => sound_step) (sound_issue hpos) h)

/-- A call that reads at one time and does the rest at another. -/
def exGuess (i readAt writtenAt : Nat) : List CodeEvent :=
  [.advance i ⟨readAt, true⟩, .advance i ⟨writtenAt, true⟩, .advance i ⟨writtenAt, true⟩]

theorem code_guesses_bounded_twice :
    (CodeWorld.after otpPolicy (otpPolicy.issue "482915" 0)
      (.start "111111" :: exGuess 0 10 20 ++ .start "482915 " :: exGuess 1 30 40)).state.Bounded 3
        1800000 :=
  code_guesses_bounded id (.inr rfl) "482915" 0 _ (by decide +kernel)

/-- Six guesses are compared with a PIN when all of them read first. A code is accepted, deleted,
written back by a guess that had read it before, and accepted again. One is accepted when twice its
time to live has almost passed, since a wrong guess renewed it. -/
theorem code_guesses_unbounded :
    let pin := pinPolicy id
    let parallel : List CodeEvent :=
      (List.range 6).map (fun _ => .start "wrong") ++
        (List.range 6).map fun i => .advance i ⟨10, true⟩
    let revived : List CodeEvent :=
      .start "wrong" :: .start "482915" :: .advance 0 ⟨10, true⟩ :: exGuess 1 10 20 ++
        .advance 0 ⟨30, true⟩ :: .start "482915" :: exGuess 2 40 50
    let renewed : List CodeEvent :=
      .start "wrong" :: exGuess 0 1799000 1799000 ++ .start "482915" :: exGuess 1 3598000 3598000
    (CodeWorld.after pin (pin.issue "aB3$aB3$" 0) parallel).state.history.count (.compared false) =
        6 ∧
      (CodeWorld.after otpPolicy (otpPolicy.issue "482915" 0) revived).state.history =
        [.accepted 50, .deleted, .compared true, .accepted 20, .deleted, .compared true,
          .compared false] ∧
      .accepted 3598000 ∈
        (CodeWorld.after otpPolicy (otpPolicy.issue "482915" 0) renewed).state.history := by
  decide +kernel

end BebaSacco
