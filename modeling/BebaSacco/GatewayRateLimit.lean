import BebaSacco.Lib.ExpiringKey
import BebaSacco.Lib.Process
import Mathlib.Data.List.Nodup
import Mathlib.Data.List.Perm.Subperm

/-! # The rate limit of the gateway

`checkRateLimit` reads the counter of a client and a minute, compares it with the limit and writes what
it read plus one: two Redis commands, between which those of other calls can come.

Results:
 1. `statement_does`: what one command reads and writes.
 2. `requests_limited`: no more calls than the limit are allowed, each with a remainder of its own, when
    each call writes over the count that it read.
 3. `requests_unlimited`: a hundred calls that all read before one of them writes are all allowed.
-/

namespace BebaSacco

open Txn Process ExpiringKey

/-! ## 1. The calls -/

/-- `rate-limit:${clientId}:${minute}` -/
structure WindowKey where
  clientId : String
  minute : Nat
  deriving DecidableEq, Repr

/-- What a call returned, with the window and the tier that it was for. -/
structure RateLimitAnswer where
  key : WindowKey
  tier : String
  allowed : Bool
  remaining : Int
  limit : Int
  resetAt : Nat
  deriving DecidableEq, Repr

/-- The counters in Redis and the answers so far. -/
structure Gateway where
  counters : WindowKey → Slot Int
  answers : List RateLimitAnswer

inductive RateLimitTask
  | read (key : WindowKey) (tier : String)
  | write (key : WindowKey) (tier : String) (count : Int)
  deriving DecidableEq, Repr

/-- A call of `checkRateLimit`, with the time of its first line. -/
structure RateLimitCall where
  clientId : String
  tier : String
  now : Nat
  deriving DecidableEq, Repr

abbrev GatewayWorld := World Gateway RateLimitTask

/-- A call starts, does its next command at a time, or is lost. -/
abbrev GatewayEvent := Event RateLimitCall Nat

/-- `RATE_LIMIT_TIERS` -/
def rateLimit (tier : String) : Int :=
  if tier = "internal" then 1000 else if tier = "partner" then 500 else 60

def Gateway.setCounter (g : Gateway) (key : WindowKey) (slot : Slot Int) : Gateway :=
  { g with counters := fun k => if k = key then slot else g.counters k }

def Gateway.answer (g : Gateway) (a : RateLimitAnswer) : Gateway :=
  { g with answers := g.answers ++ [a] }

def resetAt (now : Nat) : Nat := (now / 60000 + 1) * 60000

/-- `redis.get`, and the answer of a call that is refused. -/
def readCounter (key : WindowKey) (tier : String) (now : Nat) :
    Txn Gateway Unit (Option RateLimitTask) := do
  let g ← get
  let count := ExpiringKey.count (g.counters key) now
  if rateLimit tier ≤ count then
    modify (·.answer ⟨key, tier, false, 0, rateLimit tier, resetAt now⟩)
    pure none
  else pure (some (.write key tier count))

/-- `redis.set`, and the answer of a call that is allowed. -/
def writeCounter (key : WindowKey) (tier : String) (count : Int) (now : Nat) :
    Txn Gateway Unit (Option RateLimitTask) := do
  modify (·.setCounter key (setex (count + 1) now 120000))
  modify (·.answer ⟨key, tier, true, rateLimit tier - count - 1, rateLimit tier, resetAt now⟩)
  pure none

def gatewayProgram : Program Gateway Unit RateLimitCall Nat RateLimitTask where
  entry call := .read ⟨call.clientId, call.now / 60000⟩ call.tier
  next
    | .read key tier, now => readCounter key tier now
    | .write key tier count, now => writeCounter key tier count now

def GatewayWorld.opening : GatewayWorld := ⟨⟨fun _ => none, []⟩, []⟩

def GatewayWorld.after (w : GatewayWorld) (events : List GatewayEvent) : GatewayWorld :=
  Machine.run gatewayProgram.step w events

/-- The calls of a tier that a window allowed. -/
def Gateway.allowed (g : Gateway) (key : WindowKey) (tier : String) : List RateLimitAnswer :=
  g.answers.filter fun a => a.allowed && a.key == key && a.tier == tier

/-- Each window allows no more calls of a tier than its limit, and their remainders differ. -/
def Gateway.Limited (g : Gateway) : Prop :=
  ∀ key tier, ((g.allowed key tier).length : Int) ≤ rateLimit tier ∧
    ((g.allowed key tier).map (·.remaining)).Nodup

/-- What was written last under a key, whether or not it has expired. -/
def Gateway.written (g : Gateway) (key : WindowKey) : Int := ((g.counters key).map (·.value)).getD 0

/-- A call writes while the counter still stands at what it read, and reads it before it expires. -/
def GatewayWorld.undisturbed (w : GatewayWorld) : GatewayEvent → Bool
  | .advance i now =>
    match w.task i with
    | some (.read key _) => (w.state.counters key).all (·.live now)
    | some (.write key _ count) => w.state.written key == count
    | none => true
  | _ => true

namespace GatewayLemmas

variable {w : GatewayWorld} {g g' : Gateway} {t : RateLimitTask} {t' : Option RateLimitTask}
  {now : Nat} {e : GatewayEvent} {key : WindowKey} {tier : String} {count : Int}

/-! ## 2. One command -/

/-- A command refuses the call, lets it go on with the count, or allows it and writes the count. -/
inductive Does (g : Gateway) (now : Nat) : RateLimitTask → Option RateLimitTask → Gateway → Prop
  | refused {key : WindowKey} {tier : String} :
      Does g now (.read key tier) none
        (g.answer ⟨key, tier, false, 0, rateLimit tier, resetAt now⟩)
  | went {key : WindowKey} {tier : String}
      (hlimit : ExpiringKey.count (g.counters key) now < rateLimit tier) :
      Does g now (.read key tier)
        (some (.write key tier (ExpiringKey.count (g.counters key) now))) g
  | allowed {key : WindowKey} {tier : String} {count : Int} :
      Does g now (.write key tier count) none
        ((g.setCounter key (setex (count + 1) now 120000)).answer
          ⟨key, tier, true, rateLimit tier - count - 1, rateLimit tier, resetAt now⟩)

theorem statement_does (h : Yields (gatewayProgram.next t now) g t' g') : Does g now t t' g' := by
  cases t with
  | read key tier =>
    simp only [gatewayProgram, readCounter, yields_bind, yields_get] at h
    obtain ⟨_, _, ⟨rfl, rfl⟩, h⟩ := h
    rcases yields_ite.mp h with ⟨_, h⟩ | ⟨hlt, h⟩
    · simp only [yields_bind, yields_modify, yields_pure] at h
      obtain ⟨_, _, rfl, rfl, rfl⟩ := h
      exact .refused
    · obtain ⟨rfl, rfl⟩ := yields_pure.mp h
      exact .went (Int.not_le.mp hlt)
  | write key tier count =>
    simp only [gatewayProgram, writeCounter, yields_bind, yields_modify, yields_pure] at h
    obtain ⟨_, _, rfl, _, _, rfl, rfl, rfl⟩ := h
    exact .allowed

/-! ## 3. The counts -/

/-- The count that an answer was allowed at. -/
def seen (a : RateLimitAnswer) : Int := rateLimit a.tier - a.remaining - 1

def allowedOf (g : Gateway) (key : WindowKey) : List RateLimitAnswer :=
  g.answers.filter fun a => a.allowed && a.key == key

/-- The calls that a window allowed were allowed at different counts, all below what is written. -/
structure Counted (g : Gateway) (key : WindowKey) : Prop where
  written : 0 ≤ g.written key
  below : ∀ a ∈ allowedOf g key, 0 ≤ seen a ∧ seen a < g.written key ∧ seen a < rateLimit a.tier
  distinct : ((allowedOf g key).map seen).Nodup

/-- A call that is to write read a count below its limit. -/
def Reads : RateLimitTask → Prop
  | .read _ _ => True
  | .write _ tier count => 0 ≤ count ∧ count < rateLimit tier

/-- There are at most `limit` different numbers from 0 to below `limit`. -/
theorem length_le_of_bounded {l : List Int} {limit : Int} (hlimit : 0 ≤ limit) (hnodup : l.Nodup)
    (h : ∀ n ∈ l, 0 ≤ n ∧ n < limit) : (l.length : Int) ≤ limit := by
  have hnat : (l.map Int.toNat).Nodup := by
    refine List.Nodup.map_on (fun m hm n hn heq => ?_) hnodup
    have hm := (h m hm).1
    have hn := (h n hn).1
    omega
  have hsub : l.map Int.toNat ⊆ List.range limit.toNat := by
    intro k hk
    obtain ⟨n, hn, rfl⟩ := List.mem_map.mp hk
    have hn := h n hn
    rw [List.mem_range]
    omega
  have hle := (List.subperm_of_subset hnat hsub).length_le
  rw [List.length_map, List.length_range] at hle
  omega

theorem rateLimit_nonneg (tier : String) : 0 ≤ rateLimit tier := by
  unfold rateLimit
  split
  · decide
  · split <;> decide

theorem limited_of_counted (h : ∀ key, Counted g key) : g.Limited := by
  intro key tier
  have hsub : (g.allowed key tier).Sublist (allowedOf g key) := by
    have heq : g.allowed key tier = (allowedOf g key).filter fun a => a.tier == tier := by
      unfold Gateway.allowed allowedOf
      rw [List.filter_filter]
      exact List.filter_congr fun a _ => Bool.and_comm _ _
    rw [heq]
    exact List.filter_sublist
  have htier : ∀ a ∈ g.allowed key tier, a.tier = tier := by
    intro a ha
    have hp := (List.mem_filter.mp ha).2
    rw [Bool.and_eq_true, beq_iff_eq] at hp
    exact hp.2
  have hdistinct : ((g.allowed key tier).map seen).Nodup := (h key).distinct.sublist (hsub.map seen)
  constructor
  · rw [← List.length_map (f := seen)]
    refine length_le_of_bounded (rateLimit_nonneg tier) hdistinct fun n hn => ?_
    obtain ⟨a, ha, rfl⟩ := List.mem_map.mp hn
    have hbelow := (h key).below a (hsub.subset ha)
    rw [htier a ha] at hbelow
    exact ⟨hbelow.1, hbelow.2.2⟩
  · refine List.Nodup.of_map (fun n => rateLimit tier - n - 1) ?_
    rw [List.map_map]
    have heq : (g.allowed key tier).map ((fun n => rateLimit tier - n - 1) ∘ (·.remaining)) =
        (g.allowed key tier).map seen :=
      List.map_congr_left fun a ha => by
        rw [Function.comp_apply, seen, htier a ha]
    rw [heq]
    exact hdistinct

theorem written_setCounter (g : Gateway) (key k : WindowKey) (value : Int) (ttl : Nat) :
    (g.setCounter key (setex value now ttl)).written k = if k = key then value else g.written k := by
  unfold Gateway.setCounter Gateway.written
  dsimp only
  split <;> rfl

theorem allowedOf_answer (g : Gateway) (a : RateLimitAnswer) (k : WindowKey) :
    allowedOf (g.answer a) k =
      if a.allowed = true ∧ a.key = k then allowedOf g k ++ [a] else allowedOf g k := by
  unfold allowedOf Gateway.answer
  rw [List.filter_append]
  by_cases h : a.allowed = true ∧ a.key = k
  · rw [if_pos h, List.filter_cons_of_pos, List.filter_nil]
    rw [Bool.and_eq_true, beq_iff_eq]
    exact h
  · rw [if_neg h, List.filter_cons_of_neg, List.filter_nil, List.append_nil]
    rw [Bool.and_eq_true, beq_iff_eq]
    exact h

/-- What a call reads of a counter that has not expired is what was written. -/
theorem count_eq_written (h : (g.counters key).all (·.live now) = true) :
    ExpiringKey.count (g.counters key) now = g.written key := by
  unfold ExpiringKey.count ExpiringKey.read Gateway.written
  cases hslot : g.counters key with
  | none => rfl
  | some c =>
    rw [hslot, Option.all_some] at h
    rw [Option.filter_some, if_pos h]

/-- A call that writes over what it read is allowed at a count of its own. -/
theorem counted_write (h : ∀ key, Counted g key) (hread : Reads (.write key tier count))
    (hwritten : g.written key = count) (k : WindowKey) :
    Counted ((g.setCounter key (setex (count + 1) now 120000)).answer
      ⟨key, tier, true, rateLimit tier - count - 1, rateLimit tier, resetAt now⟩) k := by
  obtain ⟨hpos, hlt⟩ := hread
  have hold : ∀ k, allowedOf (g.setCounter key (setex (count + 1) now 120000)) k = allowedOf g k :=
    fun _ => rfl
  have hafter : ∀ k, ((g.setCounter key (setex (count + 1) now 120000)).answer
      ⟨key, tier, true, rateLimit tier - count - 1, rateLimit tier, resetAt now⟩).written k =
        if k = key then count + 1 else g.written k := fun k =>
    written_setCounter g key k (count + 1) 120000
  obtain ⟨hk, hbelow, hdistinct⟩ := h k
  by_cases hkey : k = key
  · subst hkey
    have hseen : seen ⟨k, tier, true, rateLimit tier - count - 1, rateLimit tier, resetAt now⟩ =
        count := by
      unfold seen
      dsimp only
      omega
    refine ⟨?_, ?_, ?_⟩
    · rw [hafter, if_pos rfl]
      omega
    · intro a ha
      rw [hafter, if_pos rfl]
      rw [allowedOf_answer, if_pos ⟨rfl, rfl⟩, hold] at ha
      rcases List.mem_append.mp ha with ha | ha
      · have hb := hbelow a ha
        exact ⟨hb.1, by omega, hb.2.2⟩
      · rw [List.mem_singleton.mp ha, hseen]
        exact ⟨hpos, by omega, hlt⟩
    · rw [allowedOf_answer, if_pos ⟨rfl, rfl⟩, hold, List.map_append, List.map_singleton, hseen]
      refine List.nodup_append.mpr ⟨hdistinct, List.nodup_singleton _, ?_⟩
      intro n hn m hm heq
      obtain ⟨a, ha, rfl⟩ := List.mem_map.mp hn
      have hb := (hbelow a ha).2.1
      rw [List.mem_singleton.mp hm] at heq
      omega
  · refine ⟨?_, ?_, ?_⟩
    · rw [hafter, if_neg hkey]
      exact hk
    · intro a ha
      rw [hafter, if_neg hkey]
      rw [allowedOf_answer, if_neg fun hc => hkey hc.2.symm, hold] at ha
      exact hbelow a ha
    · rw [allowedOf_answer, if_neg fun hc => hkey hc.2.symm, hold]
      exact hdistinct

theorem counted_refused (h : Counted g key) {a : RateLimitAnswer} (ha : a.allowed = false) :
    Counted (g.answer a) key := by
  have hsame : allowedOf (g.answer a) key = allowedOf g key := by
    rw [allowedOf_answer, if_neg]
    rintro ⟨h, _⟩
    rw [ha] at h
    cases h
  refine ⟨h.written, ?_, ?_⟩
  · rw [hsame]
    exact h.below
  · rw [hsame]
    exact h.distinct

/-- The counts hold, and the calls that are to write read below their limits. -/
abbrev Sound (w : GatewayWorld) : Prop :=
  Upheld (fun g => ∀ key, Counted g key) (fun _ t => Reads t) w

theorem sound_step (h : Sound w) (hguard : w.undisturbed e = true) :
    Sound (gatewayProgram.step w e) := by
  refine upheld_step h (fun _ _ => trivial) fun i now t t' g' he hat hy => ?_
  subst he
  have hothers : ∀ j u, j ≠ i → w.At j u → Reads u → Reads u := fun _ _ _ _ h => h
  cases statement_does hy with
  | refused =>
    exact ⟨fun k => counted_refused (h.state k) rfl, (fun u hu => by cases hu), hothers⟩
  | @went key tier hlimit =>
    simp only [GatewayWorld.undisturbed, task_some.mpr hat] at hguard
    refine ⟨h.state, fun u hu => ?_, hothers⟩
    cases hu
    refine ⟨?_, hlimit⟩
    rw [count_eq_written hguard]
    exact (h.state key).written
  | @allowed key tier count =>
    simp only [GatewayWorld.undisturbed, task_some.mpr hat] at hguard
    exact ⟨counted_write h.state (h.tasks i _ hat) (beq_iff_eq.mp hguard), (fun u hu => by cases hu),
      hothers⟩

theorem sound_opening : Sound GatewayWorld.opening :=
  ⟨fun _ => ⟨Int.le_refl 0, fun _ h => (List.not_mem_nil h).elim, List.nodup_nil⟩, fun i t h => by
    cases h⟩

end GatewayLemmas

open GatewayLemmas

/-! ## 4. Runs -/

/-- If every call writes while the counter stands at what it read, and reads it before it expires, a
window allows no more calls than the limit, and no two of them the same remainder. -/
theorem requests_limited (events : List GatewayEvent)
    (h : Machine.Guarded gatewayProgram.step (fun w e => GatewayWorld.undisturbed w e = true)
      GatewayWorld.opening events) :
    (GatewayWorld.opening.after events).state.Limited :=
  limited_of_counted (Machine.run_induct (fun _ _ => sound_step) sound_opening h).state

/-- Two calls that start together, the second of which reads when the first has written. -/
theorem requests_limited_twice :
    (GatewayWorld.opening.after
      [.start ⟨"c", "public", 5⟩, .start ⟨"c", "public", 5⟩, .advance 0 6, .advance 0 7, .advance 1 8,
        .advance 1 9]).state.Limited :=
  requests_limited _ (by decide +kernel)

/-- A hundred calls of a public client in one minute. -/
def exBurst : List GatewayEvent :=
  (List.range 100).map (fun _ => .start ⟨"c", "public", 5⟩) ++
    (List.range 100).map (fun i => .advance i 6) ++ (List.range 100).map fun i => .advance i 7

/-- They all read 0 before one of them writes, and are all allowed with 59 remaining. -/
theorem requests_unlimited :
    ((GatewayWorld.opening.after exBurst).state.allowed ⟨"c", 0⟩ "public").map (·.remaining) =
        List.replicate 100 59 ∧
      ¬ (GatewayWorld.opening.after exBurst).state.Limited := by
  have hrun : ((GatewayWorld.opening.after exBurst).state.allowed ⟨"c", 0⟩ "public").map (·.remaining) =
      List.replicate 100 59 := by
    decide +kernel
  refine ⟨hrun, fun h => ?_⟩
  have hlimit := (h ⟨"c", 0⟩ "public").1
  have hlength := congrArg List.length hrun
  rw [List.length_map, List.length_replicate] at hlength
  rw [hlength] at hlimit
  revert hlimit
  decide

end BebaSacco
