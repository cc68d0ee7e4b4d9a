import BebaSacco.Lib.Run

/-! # Idempotency reservations

Callers of `checkAndReserve`, `complete` and `release` on one key of Redis. A call is a sequence of
Redis commands and the commands of different calls interleave; the time of each command comes with
the event, so a key may expire between any two of them. A cell remembers which call wrote it and the
history records what the calls answered, stored and replaced: neither is read by the code.

Results:
 1. `redisSet_cases`: what a `SET` does to the key.
 2. `sound_step`: one timely event keeps the reservations sound.
 3. `reservations_exclusive`: in a run of timely events one call at most holds an unexpired
    reservation, calls replace their own cells only, and a stored result is what is answered.
-/

namespace BebaSacco

/-- The JSON under the key: a record with one of the two statuses, or a text that does not parse. -/
inductive Entry (ρ : Type) where
  | processing
  | completed (result : ρ)
  | corrupted
  deriving DecidableEq, Repr

inductive IdempotencyStatus (ρ : Type) where
  | NEW
  | PROCESSING
  | COMPLETED (result : ρ)
  deriving DecidableEq, Repr

/-- The value of the key, the call that set it and the millisecond at which it expires. -/
structure Cell (ρ : Type) where
  entry : Entry ρ
  owner : Nat
  expiresAt : Option Nat
  deriving DecidableEq, Repr

/-- `now` is before the deadline, `none` being no deadline at all. -/
def unexpired (now : Nat) (deadline : Option Nat) : Bool := deadline.all (now < ·)

variable {ρ : Type}

/-- What Redis holds under the key. -/
def readKey (slot : Option (Cell ρ)) (now : Nat) : Option (Cell ρ) :=
  slot.filter fun cell => unexpired now cell.expiresAt

/-- The deadline of a key that is set now. A TTL of zero is falsy and sets none. -/
def deadline (now ttlSeconds : Nat) : Option Nat :=
  if ttlSeconds == 0 then none else some (now + ttlSeconds * 1000)

/-- `RedisService.set`: a command that Redis does not answer counts as not set. -/
def redisSet (slot : Option (Cell ρ)) (now : Nat) (reachable : Bool) (owner : Nat) (entry : Entry ρ)
    (ttlSeconds : Nat) (nx : Bool) : Bool × Option (Cell ρ) :=
  if !reachable then
    (false, slot)
  else if nx && ttlSeconds != 0 && (readKey slot now).isSome then
    (false, slot)
  else
    (true, some ⟨entry, owner, deadline now ttlSeconds⟩)

/-- `RedisService.get` -/
def redisGet (slot : Option (Cell ρ)) (now : Nat) (reachable : Bool) : Option (Entry ρ) :=
  if reachable then (readKey slot now).map (·.entry) else none

/-- `RedisService.del` -/
def redisDel (slot : Option (Cell ρ)) (reachable : Bool) : Option (Cell ρ) :=
  if reachable then none else slot

/-- Where a call is. `working` is a caller that was answered `NEW`; its reservation is to last until
the deadline. -/
inductive Call where
  | reserve (ttlSeconds : Nat)
  | read (ttlSeconds : Nat)
  | overwrite (ttlSeconds : Nat)
  | working (expiry : Option Nat)
  | ended
  deriving DecidableEq, Repr

/-- What a caller does after `NEW`. -/
inductive Finish (ρ : Type) where
  | complete (result : ρ) (ttlSeconds : Nat)
  | release
  deriving DecidableEq, Repr

/-- What happened, for the statement of the properties. -/
inductive Mark (ρ : Type) where
  | answered (status : IdempotencyStatus ρ) (time : Nat)
  | stored (result : ρ) (expiry : Option Nat)
  | replaced (caller owner : Nat)
  deriving DecidableEq, Repr

/-- The key, its callers and, newest first, the history. -/
structure IdempotencyKey (ρ : Type) where
  now : Nat
  slot : Option (Cell ρ)
  calls : List Call
  history : List (Mark ρ)
  deriving DecidableEq, Repr

/-- The time of a command, whether Redis answers it and what the caller is about to do. -/
structure CommandInput (ρ : Type) where
  time : Nat
  reachable : Bool
  finish : Finish ρ
  deriving DecidableEq, Repr

/-- A caller calls `checkAndReserve`, the call `i` issues its next command, its process is lost, or
an administrator releases the key. -/
inductive IdempotencyEvent (ρ : Type) where
  | checkAndReserve (ttlSeconds : Nat)
  | advance (i : Nat) (input : CommandInput ρ)
  | crash (i : Nat)
  | cleanup (time : Nat) (reachable : Bool)
  deriving DecidableEq, Repr

def IdempotencyKey.opening : IdempotencyKey ρ := ⟨0, none, [], []⟩

/-- Call `i` gets an answer. -/
def IdempotencyKey.answer (w : IdempotencyKey ρ) (i : Nat) (status : IdempotencyStatus ρ)
    (call : Call) : IdempotencyKey ρ :=
  { w with calls := w.calls.set i call, history := .answered status w.now :: w.history }

/-- The live cell that call `i` is about to replace, for the history. -/
def IdempotencyKey.replacing (w : IdempotencyKey ρ) (i : Nat) : List (Mark ρ) :=
  match readKey w.slot w.now with
  | none => []
  | some cell => [.replaced i cell.owner]

/-- `complete` -/
def IdempotencyKey.complete (w : IdempotencyKey ρ) (i : Nat) (reachable : Bool) (result : ρ)
    (ttlSeconds : Nat) : IdempotencyKey ρ :=
  let (stored, slot) := redisSet w.slot w.now reachable i (.completed result) ttlSeconds false
  let marks := if stored then .stored result (deadline w.now ttlSeconds) :: w.replacing i else []
  { w with slot, calls := w.calls.set i .ended, history := marks ++ w.history }

/-- `release` -/
def IdempotencyKey.release (w : IdempotencyKey ρ) (i : Nat) (reachable : Bool) :
    IdempotencyKey ρ :=
  let marks := if reachable then w.replacing i else []
  { w with
    slot := redisDel w.slot reachable
    calls := w.calls.set i .ended
    history := marks ++ w.history }

/-- The next command of call `i`. -/
def IdempotencyKey.command (w : IdempotencyKey ρ) (i : Nat) (input : CommandInput ρ) :
    Call → IdempotencyKey ρ
  | .reserve ttlSeconds =>
    let (reserved, slot) := redisSet w.slot w.now input.reachable i .processing ttlSeconds true
    if reserved then
      { w with slot }.answer i .NEW (.working (deadline w.now ttlSeconds))
    else
      { w with calls := w.calls.set i (.read ttlSeconds) }
  | .read ttlSeconds =>
    match redisGet w.slot w.now input.reachable with
    | none =>
      -- the key expired between the two commands: the answer is NEW and nothing is reserved
      w.answer i .NEW (.working (deadline w.now ttlSeconds))
    | some (.completed result) => w.answer i (.COMPLETED result) .ended
    | some .processing => w.answer i .PROCESSING .ended
    | some .corrupted => { w with calls := w.calls.set i (.overwrite ttlSeconds) }
  | .overwrite ttlSeconds =>
    let (_, slot) := redisSet w.slot w.now input.reachable i .processing ttlSeconds false
    { w with slot }.answer i .NEW (.working (deadline w.now ttlSeconds))
  | .working _ =>
    match input.finish with
    | .complete result ttlSeconds => w.complete i input.reachable result ttlSeconds
    | .release => w.release i input.reachable
  | .ended => w

def IdempotencyKey.step (w : IdempotencyKey ρ) : IdempotencyEvent ρ → IdempotencyKey ρ
  | .checkAndReserve ttlSeconds => { w with calls := w.calls ++ [.reserve ttlSeconds] }
  | .advance i input =>
    let w := { w with now := max w.now input.time }
    match w.calls[i]? with
    | none => w
    | some call => w.command i input call
  | .crash i => { w with calls := w.calls.set i .ended }
  | .cleanup time reachable =>
    -- `release` by someone who is none of the callers
    { w with now := max w.now time }.release w.calls.length reachable

/-! ## The properties and the condition -/

/-- Call `i` was answered `NEW` and its reservation has not expired. -/
def IdempotencyKey.Holds (w : IdempotencyKey ρ) (i : Nat) : Prop :=
  ∃ expiry, w.calls[i]? = some (.working expiry) ∧ unexpired w.now expiry = true

/-- What a mark says about the marks before it: a call replaces its own cell, and an answer within
the TTL of a stored result is that result. -/
def Mark.Fair (earlier : List (Mark ρ)) : Mark ρ → Prop
  | .answered status time => ∀ result expiry, .stored result expiry ∈ earlier →
      unexpired time expiry = true → status = .COMPLETED result
  | .stored _ _ => True
  | .replaced caller owner => caller = owner

def FairHistory : List (Mark ρ) → Prop
  | [] => True
  | mark :: earlier => mark.Fair earlier ∧ FairHistory earlier

structure IdempotencyKey.Exclusive (w : IdempotencyKey ρ) : Prop where
  single : ∀ i j, w.Holds i → w.Holds j → i = j
  fair : FairHistory w.history

/-- The condition on an event: a reservation asks for a TTL and Redis answers it, the key has not
expired by the time it is read, a caller completes or releases before its reservation expires, and
an administrator releases a key that is not there. -/
def timely (w : IdempotencyKey ρ) : IdempotencyEvent ρ → Bool
  | .checkAndReserve _ => true
  | .advance i input =>
    let now := max w.now input.time
    match w.calls[i]? with
    | some (.reserve ttlSeconds) => ttlSeconds != 0
    | some (.read _) => input.reachable && (readKey w.slot now).isSome
    | some (.working expiry) => unexpired now expiry
    | _ => true
  | .crash _ => true
  | .cleanup time _ => (readKey w.slot (max w.now time)).isNone

namespace IdempotencyLemmas

variable {w w' : IdempotencyKey ρ} {i j now time : Nat} {expiry : Option Nat} {result : ρ}
  {e : IdempotencyEvent ρ}

/-- What the key, the calls and the history say about each other. -/
structure Sound (w : IdempotencyKey ρ) : Prop where
  readable : ∀ cell, w.slot = some cell → cell.entry ≠ .corrupted
  straight : ∀ (i ttlSeconds : Nat), w.calls[i]? ≠ some (Call.overwrite ttlSeconds)
  held : ∀ (i : Nat) expiry, w.calls[i]? = some (.working expiry) → unexpired w.now expiry = true →
    w.slot = some ⟨.processing, i, expiry⟩
  stored : ∀ result expiry, Mark.stored result expiry ∈ w.history → unexpired w.now expiry = true →
    ∃ owner, w.slot = some ⟨.completed result, owner, expiry⟩
  fair : FairHistory w.history

/-! ## 1. Time and the key -/

theorem unexpired_earlier (hle : now ≤ time) (h : unexpired time expiry = true) :
    unexpired now expiry = true := by
  cases expiry with
  | none => rfl
  | some deadline =>
    simp only [unexpired, Option.all_some, decide_eq_true_eq] at h ⊢
    exact Nat.lt_of_le_of_lt hle h

theorem readKey_live {cell : Cell ρ} (h : unexpired now cell.expiresAt = true) :
    readKey (some cell) now = some cell := by
  rw [readKey, Option.filter_some, if_pos h]

theorem sound_later (h : Sound w) (hle : w.now ≤ time) : Sound { w with now := time } where
  readable := h.readable
  straight := h.straight
  held i expiry hcall hlive := h.held i expiry hcall (unexpired_earlier hle hlive)
  stored result expiry hmark hlive := h.stored result expiry hmark (unexpired_earlier hle hlive)
  fair := h.fair

/-- While the key is vacant, nobody holds a reservation. -/
theorem not_held_of_vacant (h : Sound w) (hvacant : readKey w.slot w.now = none)
    (hcall : w.calls[i]? = some (.working expiry)) : unexpired w.now expiry = false := by
  by_contra hlive
  rw [Bool.not_eq_false] at hlive
  rw [h.held i expiry hcall hlive, readKey_live hlive] at hvacant
  cases hvacant

/-- While the key is vacant, no stored result is within its TTL. -/
theorem not_stored_of_vacant (h : Sound w) (hvacant : readKey w.slot w.now = none)
    (hmark : .stored result expiry ∈ w.history) : unexpired w.now expiry = false := by
  by_contra hlive
  rw [Bool.not_eq_false] at hlive
  obtain ⟨owner, hslot⟩ := h.stored result expiry hmark hlive
  rw [hslot, readKey_live hlive] at hvacant
  cases hvacant

theorem readKey_slot {cell : Cell ρ} (h : readKey w.slot w.now = some cell) :
    w.slot = some cell ∧ unexpired w.now cell.expiresAt = true :=
  Option.filter_eq_some_iff.mp h

/-! ## 2. Calls that change no key -/

theorem getElem?_set_some {calls : List Call} {call call' : Call}
    (h : (calls.set i call)[j]? = some call') :
    (j = i ∧ call' = call) ∨ (j ≠ i ∧ calls[j]? = some call') := by
  rw [List.getElem?_set] at h
  split at h
  · next hij =>
    split at h
    · exact .inl ⟨hij.symm, (Option.some.inj h).symm⟩
    · cases h
  · next hij => exact .inr ⟨Ne.symm hij, h⟩

theorem sound_set (h : Sound w) {call : Call} (hidle : ∀ expiry, call ≠ .working expiry)
    (hstraight : ∀ ttlSeconds, call ≠ .overwrite ttlSeconds) :
    Sound { w with calls := w.calls.set i call } where
  readable := h.readable
  straight j ttlSeconds hcall := by
    rcases getElem?_set_some hcall with ⟨-, heq⟩ | ⟨-, hold⟩
    · exact hstraight ttlSeconds heq.symm
    · exact h.straight j ttlSeconds hold
  held j expiry hcall hlive := by
    rcases getElem?_set_some hcall with ⟨-, heq⟩ | ⟨-, hold⟩
    · exact absurd heq.symm (hidle expiry)
    · exact h.held j expiry hold hlive
  stored := h.stored
  fair := h.fair

theorem sound_ended (h : Sound w) : Sound { w with calls := w.calls.set i .ended } :=
  sound_set h (by simp) (by simp)

theorem sound_checkAndReserve (h : Sound w) {ttlSeconds : Nat} :
    Sound { w with calls := w.calls ++ [.reserve ttlSeconds] } := by
  have hcalls : ∀ {i : Nat} {call : Call}, (w.calls ++ [.reserve ttlSeconds])[i]? = some call →
      w.calls[i]? = some call ∨ call = .reserve ttlSeconds := by
    intro i call hcall
    rw [List.getElem?_append] at hcall
    split at hcall
    · exact .inl hcall
    · rw [List.getElem?_singleton] at hcall
      split at hcall
      · exact .inr (Option.some.inj hcall).symm
      · cases hcall
  refine ⟨h.readable, ?_, ?_, h.stored, h.fair⟩
  · intro i ttl hcall
    rcases hcalls hcall with hold | heq
    · exact h.straight i ttl hold
    · cases heq
  · intro i expiry hcall hlive
    rcases hcalls hcall with hold | heq
    · exact h.held i expiry hold hlive
    · cases heq

/-! ## 3. Answers -/

/-- An answer that every stored result within its TTL agrees with. -/
theorem fair_answer (h : Sound w) {status : IdempotencyStatus ρ}
    (hstatus : ∀ result owner expiry, w.slot = some ⟨.completed result, owner, expiry⟩ →
      unexpired w.now expiry = true → status = .COMPLETED result) :
    FairHistory (.answered status w.now :: w.history) := by
  refine ⟨fun result expiry hmark hlive => ?_, h.fair⟩
  obtain ⟨owner, hslot⟩ := h.stored result expiry hmark hlive
  exact hstatus result owner expiry hslot hlive

theorem stored_of_mem_answered {status : IdempotencyStatus ρ} {history : List (Mark ρ)}
    (h : .stored result expiry ∈ .answered status time :: history) :
    .stored result expiry ∈ history := by
  rcases List.mem_cons.mp h with heq | hmem
  · cases heq
  · exact hmem

theorem sound_reserve (h : Sound w) (hvacant : readKey w.slot w.now = none) :
    Sound (({ w with slot := some ⟨.processing, i, expiry⟩ } : IdempotencyKey ρ).answer i .NEW
      (.working expiry)) where
  readable cell hcell := by
    obtain rfl := Option.some.inj hcell
    simp
  straight j ttlSeconds hcall := by
    rcases getElem?_set_some hcall with ⟨-, heq⟩ | ⟨-, hold⟩
    · cases heq
    · exact h.straight j ttlSeconds hold
  held j expiry' hcall hlive := by
    rcases getElem?_set_some hcall with ⟨rfl, heq⟩ | ⟨-, hold⟩
    · cases heq
      rfl
    · exact absurd ((not_held_of_vacant h hvacant hold).symm.trans hlive) Bool.false_ne_true
  stored result expiry' hmark hlive := by
    have hold := stored_of_mem_answered hmark
    exact absurd ((not_stored_of_vacant h hvacant hold).symm.trans hlive) Bool.false_ne_true
  fair := by
    refine fair_answer h fun result owner expiry' hslot hlive => ?_
    rw [hslot, readKey_live hlive] at hvacant
    cases hvacant

theorem sound_read (h : Sound w) {cell : Cell ρ} {status : IdempotencyStatus ρ}
    (hcell : w.slot = some cell)
    (hstatus : ∀ result, cell.entry = .completed result → status = .COMPLETED result) :
    Sound (w.answer i status .ended) := by
  have hset := sound_ended (i := i) h
  refine ⟨hset.readable, hset.straight, hset.held, ?_, ?_⟩
  · intro result expiry hmark hlive
    exact h.stored result expiry (stored_of_mem_answered hmark) hlive
  · refine fair_answer h fun result owner expiry hslot hlive => ?_
    rw [hcell] at hslot
    obtain rfl := Option.some.inj hslot
    exact hstatus result rfl

/-! ## 4. The end of a reservation -/

/-- The calls that still hold a reservation after `i` has ended in time: none. -/
theorem not_held_after (h : Sound w) (hslot : w.slot = some ⟨.processing, i, expiry⟩)
    {expiry' : Option Nat} (hcall : (w.calls.set i .ended)[j]? = some (.working expiry')) :
    unexpired w.now expiry' = false := by
  by_contra hlive
  rw [Bool.not_eq_false] at hlive
  rcases getElem?_set_some hcall with ⟨-, heq⟩ | ⟨hne, hold⟩
  · cases heq
  · rw [h.held j expiry' hold hlive] at hslot
    cases hslot
    exact hne rfl

theorem not_stored_after (h : Sound w) (hslot : w.slot = some ⟨.processing, i, expiry⟩)
    {expiry' : Option Nat} (hmark : .stored result expiry' ∈ w.history) :
    unexpired w.now expiry' = false := by
  by_contra hlive
  rw [Bool.not_eq_false] at hlive
  obtain ⟨owner, hstored⟩ := h.stored result expiry' hmark hlive
  rw [hstored] at hslot
  cases hslot

theorem replacing_own (hslot : w.slot = some ⟨.processing, i, expiry⟩)
    (hlive : unexpired w.now expiry = true) : w.replacing i = [.replaced i i] := by
  rw [IdempotencyKey.replacing, hslot, readKey_live hlive]

/-- `complete` within the reservation: the result takes the place of its own cell. -/
theorem sound_complete (h : Sound w) (hslot : w.slot = some ⟨.processing, i, expiry⟩)
    (hlive : unexpired w.now expiry = true) (reachable : Bool) (ttlSeconds : Nat) :
    Sound (w.complete i reachable result ttlSeconds) := by
  have hset := sound_ended (i := i) h
  cases reachable with
  | false =>
    -- Redis did not answer: the key stays as it is and nothing is stored
    exact hset
  | true =>
    have hcompleted : w.complete i true result ttlSeconds =
        { w with
          slot := some ⟨.completed result, i, deadline w.now ttlSeconds⟩
          calls := w.calls.set i .ended
          history :=
            .stored result (deadline w.now ttlSeconds) :: .replaced i i :: w.history } := by
      simp [IdempotencyKey.complete, redisSet, replacing_own hslot hlive]
    rw [hcompleted]
    refine ⟨?_, hset.straight, ?_, ?_, ⟨trivial, rfl, h.fair⟩⟩
    · intro cell hcell
      obtain rfl := Option.some.inj hcell
      simp
    · intro j expiry' hcall hlive'
      exact absurd ((not_held_after h hslot hcall).symm.trans hlive') Bool.false_ne_true
    · intro result' expiry' hmark hlive'
      rcases List.mem_cons.mp hmark with heq | hmark
      · cases heq
        exact ⟨i, rfl⟩
      · rcases List.mem_cons.mp hmark with heq | hmark
        · cases heq
        · exact absurd ((not_stored_after h hslot hmark).symm.trans hlive') Bool.false_ne_true

/-- `release` within the reservation: the call deletes its own cell. -/
theorem sound_release (h : Sound w) (hslot : w.slot = some ⟨.processing, i, expiry⟩)
    (hlive : unexpired w.now expiry = true) (reachable : Bool) :
    Sound (w.release i reachable) := by
  have hset := sound_ended (i := i) h
  cases reachable with
  | false => exact hset
  | true =>
    have hreleased : w.release i true =
        { w with
          slot := none
          calls := w.calls.set i .ended
          history := .replaced i i :: w.history } := by
      simp [IdempotencyKey.release, redisDel, replacing_own hslot hlive]
    rw [hreleased]
    refine ⟨(by simp), hset.straight, ?_, ?_, ⟨rfl, h.fair⟩⟩
    · intro j expiry' hcall hlive'
      exact absurd ((not_held_after h hslot hcall).symm.trans hlive') Bool.false_ne_true
    · intro result' expiry' hmark hlive'
      rcases List.mem_cons.mp hmark with heq | hmark
      · cases heq
      · exact absurd ((not_stored_after h hslot hmark).symm.trans hlive') Bool.false_ne_true

theorem sound_cleanup (h : Sound w) (hvacant : readKey w.slot w.now = none) (reachable : Bool) :
    Sound (w.release w.calls.length reachable) := by
  have hcalls : w.calls.set w.calls.length .ended = w.calls :=
    List.set_eq_of_length_le (Nat.le_refl _)
  cases reachable with
  | false =>
    rw [IdempotencyKey.release, hcalls]
    exact h
  | true =>
    have hreleased : w.release w.calls.length true = { w with slot := none } := by
      simp [IdempotencyKey.release, redisDel, IdempotencyKey.replacing, hvacant, hcalls]
    rw [hreleased]
    refine ⟨(by simp), h.straight, ?_, ?_, h.fair⟩
    · intro j expiry hcall hlive
      exact absurd ((not_held_of_vacant h hvacant hcall).symm.trans hlive) Bool.false_ne_true
    · intro result expiry hmark hlive
      exact absurd ((not_stored_of_vacant h hvacant hmark).symm.trans hlive) Bool.false_ne_true

/-! ## 5. One event -/

/-- `SET NX EX`: the command fails and leaves the key, or it found it vacant. -/
theorem redisSet_nx_cases {slot : Option (Cell ρ)} {reachable : Bool} {ttlSeconds : Nat}
    {entry : Entry ρ} (httl : ttlSeconds ≠ 0) :
    redisSet slot now reachable i entry ttlSeconds true = (false, slot) ∨
    (readKey slot now = none ∧ redisSet slot now reachable i entry ttlSeconds true =
      (true, some ⟨entry, i, deadline now ttlSeconds⟩)) := by
  cases reachable with
  | false => exact .inl rfl
  | true =>
    cases hread : readKey slot now with
    | none => exact .inr ⟨rfl, by simp [redisSet, hread]⟩
    | some cell => exact .inl (by simp [redisSet, hread, httl])

theorem sound_command (h : Sound w) {call : Call} {input : CommandInput ρ}
    (hcall : w.calls[i]? = some call)
    (hreserve : ∀ ttlSeconds, call = .reserve ttlSeconds → ttlSeconds ≠ 0)
    (hread : ∀ ttlSeconds, call = .read ttlSeconds →
      input.reachable = true ∧ (readKey w.slot w.now).isSome = true)
    (hworking : ∀ expiry, call = .working expiry → unexpired w.now expiry = true) :
    Sound (w.command i input call) := by
  cases call with
  | reserve ttlSeconds =>
    rw [IdempotencyKey.command]
    rcases redisSet_nx_cases (hreserve ttlSeconds rfl) with hset | ⟨hvacant, hset⟩
    · rw [hset]
      exact sound_set h (by simp) (by simp)
    · rw [hset]
      exact sound_reserve h hvacant
  | read ttlSeconds =>
    obtain ⟨hreachable, hpresent⟩ := hread ttlSeconds rfl
    obtain ⟨cell, hcell⟩ := Option.isSome_iff_exists.mp hpresent
    have hget : redisGet w.slot w.now input.reachable = some cell.entry := by
      simp [redisGet, hreachable, hcell]
    obtain ⟨hslot, -⟩ := readKey_slot hcell
    rw [IdempotencyKey.command, hget]
    cases hentry : cell.entry with
    | processing =>
      exact sound_read h hslot fun result heq => by rw [hentry] at heq; cases heq
    | completed stored =>
      exact sound_read h hslot fun result heq => by rw [hentry] at heq; cases heq; rfl
    | corrupted => exact absurd hentry (h.readable cell hslot)
  | overwrite ttlSeconds => exact absurd hcall (h.straight i ttlSeconds)
  | working expiry =>
    have hlive := hworking expiry rfl
    have hslot := h.held i expiry hcall hlive
    rw [IdempotencyKey.command]
    cases input.finish with
    | complete result ttlSeconds => exact sound_complete h hslot hlive input.reachable ttlSeconds
    | release => exact sound_release h hslot hlive input.reachable
  | ended => exact h

theorem sound_step (h : Sound w) (htimely : timely w e = true) : Sound (w.step e) := by
  cases e with
  | checkAndReserve ttlSeconds => exact sound_checkAndReserve h
  | crash i => exact sound_set h (by simp) (by simp)
  | cleanup time reachable =>
    exact sound_cleanup (sound_later h (Nat.le_max_left _ _))
      (Option.isNone_iff_eq_none.mp htimely) reachable
  | advance i input =>
    have hlater := sound_later h (Nat.le_max_left w.now input.time)
    rw [IdempotencyKey.step]
    cases hcall : w.calls[i]? with
    | none => exact hlater
    | some call =>
      simp only [timely, hcall] at htimely
      refine sound_command hlater hcall ?_ ?_ ?_
      · rintro ttlSeconds rfl
        exact bne_iff_ne.mp htimely
      · rintro ttlSeconds rfl
        exact Bool.and_eq_true_iff.mp htimely
      · rintro expiry rfl
        exact htimely

theorem sound_opening : Sound (.opening : IdempotencyKey ρ) where
  readable cell hcell := by cases hcell
  straight i ttlSeconds hcall := by cases hcall
  held i expiry hcall := by cases hcall
  stored result expiry hmark := by cases hmark
  fair := trivial

/-- Two holders own the one cell. -/
theorem exclusive_of_sound (h : Sound w) : w.Exclusive where
  single i j hi hj := by
    obtain ⟨expiry, hcall, hlive⟩ := hi
    obtain ⟨expiry', hcall', hlive'⟩ := hj
    have hslot := h.held i expiry hcall hlive
    rw [h.held j expiry' hcall' hlive'] at hslot
    cases hslot
    rfl
  fair := h.fair

end IdempotencyLemmas

open IdempotencyLemmas

/-! ## 6. Runs -/

/-- In every state that timely events lead to, the reservation is exclusive. -/
theorem reservations_exclusive (events : List (IdempotencyEvent ρ))
    (h : Machine.Guarded IdempotencyKey.step (fun w e => timely w e = true) .opening events) :
    (Machine.run IdempotencyKey.step .opening events).Exclusive :=
  exclusive_of_sound (Machine.run_induct (fun _ _ => sound_step) sound_opening h)

/-- A first call works, completes and is replayed to a second one. -/
def exCompleted : List (IdempotencyEvent Nat) :=
  [.checkAndReserve 1, .advance 0 ⟨0, true, .release⟩, .checkAndReserve 1,
    .advance 1 ⟨10, true, .release⟩, .advance 0 ⟨500, true, .complete 7 1⟩,
    .advance 1 ⟨600, true, .release⟩]

theorem reservations_exclusive_completed :
    (Machine.run IdempotencyKey.step .opening exCompleted).Exclusive :=
  reservations_exclusive exCompleted (by decide)

/-- The first reservation lasts a second. The second call finds it there and reads after it has
expired; the third one reserves the key. -/
def exExpired : List (IdempotencyEvent Nat) :=
  [.checkAndReserve 1, .advance 0 ⟨0, true, .release⟩, .checkAndReserve 1,
    .advance 1 ⟨999, true, .release⟩, .advance 1 ⟨1000, true, .release⟩, .checkAndReserve 1,
    .advance 2 ⟨1001, true, .release⟩]

/-- The first call outlives its reservation and releases the one of the second. -/
def exLateRelease : List (IdempotencyEvent Nat) :=
  [.checkAndReserve 1, .advance 0 ⟨0, true, .release⟩, .checkAndReserve 1,
    .advance 1 ⟨1000, true, .release⟩, .advance 0 ⟨1001, true, .release⟩]

/-- Two callers are told `NEW` at once, and a late caller takes another's reservation away. -/
theorem reservation_not_exclusive :
    ¬ (Machine.run IdempotencyKey.step .opening exExpired).Exclusive ∧
    ¬ (Machine.run IdempotencyKey.step .opening exLateRelease).Exclusive := by
  constructor
  · intro h
    have hsame := h.single 1 2 ⟨some 2000, by decide, by decide⟩ ⟨some 2001, by decide, by decide⟩
    exact absurd hsame (by decide)
  · intro h
    have howner : (0 : Nat) = 1 := h.fair.1
    exact absurd howner (by decide)

end BebaSacco
