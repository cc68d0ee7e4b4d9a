import BebaSacco.Lib.ExpiringKey
import Mathlib.Order.Monotone.Basic

/-! # Counters that should cover one period

A counter under an expiring key is meant to hold what was counted in the current period, a day for
example. Next to the key stands a record: since when the key has been there, when its deadline was
set, and what was added to it when.

`period` numbers the periods; later times are not in earlier ones. A deadline that is set at `time`
is over by `life time`.

Results:
 1. `fresh_of_settled`: a key whose deadline was set long enough ago is gone.
    `count_fresh`: a key that is gone, or was created in the current period, stands at what was
    counted in it.
 2. `counted_live`: while something is counted in the current period the key is there.
 3. `faithful_add`, `faithful_expireAt`: the commands that keep it so.
-/

namespace PeriodCounter

open ExpiringKey

/-- The key, the time when it was created and when its deadline was set, and what was added to it,
the newest first. -/
structure Counter where
  slot : Slot Int
  since : Nat
  setAt : Option Nat
  counts : List (Nat × Int)
  deriving DecidableEq, Repr

def Counter.new : Counter := ⟨none, 0, none, []⟩

/-- `INCRBY` -/
def Counter.add (c : Counter) (now : Nat) (amount : Int) : Counter where
  slot := incrBy c.slot now amount
  since := if (read c.slot now).isSome then c.since else now
  setAt := if (read c.slot now).isSome then c.setAt else none
  counts := (now, amount) :: c.counts

/-- `PEXPIREAT` -/
def Counter.expireAt (c : Counter) (now deadline : Nat) : Counter :=
  { c with
    slot := ExpiringKey.expireAt c.slot now deadline
    setAt := if (read c.slot now).isSome then some now else c.setAt }

/-- What was counted in the period `p`. -/
def tally (period : Nat → Nat) (p : Nat) : List (Nat × Int) → Int
  | [] => 0
  | c :: counts => (if period c.1 = p then c.2 else 0) + tally period p counts

/-- The key is gone, or was created in the current period. -/
def Counter.fresh (period : Nat → Nat) (c : Counter) (now : Nat) : Bool :=
  (read c.slot now).isNone || period c.since == period now

/-- There never was a key, it was created in the current period, or the deadline that was set is
over by now. -/
def Counter.settled (period life : Nat → Nat) (c : Counter) (now : Nat) : Bool :=
  c.slot.isNone || period c.since == period now || c.setAt.any fun time => life time ≤ now

/-- The key stands at what was counted in the period in which it was created, nothing was counted
later, and the key outlives that period, but not what its deadline allows. -/
structure Faithful (period life : Nat → Nat) (now : Nat) (c : Counter) : Prop where
  value : ∀ held, c.slot = some held → held.value = tally period (period c.since) c.counts
  lasts : ∀ held deadline, c.slot = some held → held.expiresAt = some deadline →
    period c.since < period deadline
  since_le : c.since ≤ now
  latest : ∀ x ∈ c.counts, period x.1 ≤ period c.since
  unused : c.slot = none → c.counts = []
  ends : ∀ held time, c.slot = some held → c.setAt = some time →
    ∃ deadline, held.expiresAt = some deadline ∧ deadline ≤ life time

variable {period life : Nat → Nat} {c : Counter} {now time deadline p : Nat} {amount : Int}

theorem tally_absent {counts : List (Nat × Int)} (h : ∀ x ∈ counts, period x.1 ≠ p) :
    tally period p counts = 0 := by
  induction counts with
  | nil => rfl
  | cons x counts ih =>
    have hrest := ih fun y hy => h y (List.mem_cons_of_mem x hy)
    rw [tally, hrest, if_neg (h x List.mem_cons_self), Int.add_zero]

theorem tally_later (h : Faithful period life now c) (hlt : period c.since < p) :
    tally period p c.counts = 0 :=
  tally_absent fun x hx heq => absurd (h.latest x hx) (Nat.not_le_of_lt (heq.symm ▸ hlt))

theorem faithful_new : Faithful period life now .new where
  value _ h := by cases h
  lasts _ _ h := by cases h
  since_le := Nat.zero_le now
  latest _ hx := by cases hx
  unused _ := rfl
  ends _ _ h := by cases h

theorem faithful_later (h : Faithful period life now c) (hle : now ≤ time) :
    Faithful period life time c :=
  ⟨h.value, h.lasts, Nat.le_trans h.since_le hle, h.latest, h.unused, h.ends⟩

theorem fresh_of_settled (h : Faithful period life now c)
    (hsettled : c.settled period life time = true) : c.fresh period time = true := by
  unfold Counter.settled at hsettled
  unfold Counter.fresh
  rw [Bool.or_eq_true]
  rcases Bool.or_eq_true_iff.mp hsettled with hsame | hlife
  · rcases Bool.or_eq_true_iff.mp hsame with hnone | hperiod
    · rw [Option.isNone_iff_eq_none.mp hnone]
      exact .inl rfl
    · exact .inr hperiod
  · obtain ⟨set, hset, hle⟩ := (Option.any_eq_true _ _).mp hlife
    refine .inl (Option.isNone_iff_eq_none.mpr ?_)
    by_contra hlive
    obtain ⟨value, hread⟩ := Option.ne_none_iff_exists'.mp hlive
    obtain ⟨held, hslot, hlive, -⟩ := read_some.mp hread
    obtain ⟨deadline, hdeadline, hover⟩ := h.ends held set hslot hset
    unfold Held.live at hlive
    rw [hdeadline, Option.all_some, decide_eq_true_eq] at hlive
    exact absurd hlive (Nat.not_lt_of_le (Nat.le_trans hover (of_decide_eq_true hle)))

section

variable (hmono : Monotone period)
include hmono

/-- A key that is gone leaves nothing counted in the current period. -/
theorem tally_gone (h : Faithful period life now c) (hgone : read c.slot time = none) :
    tally period (period time) c.counts = 0 := by
  cases hslot : c.slot with
  | none =>
    rw [h.unused hslot]
    rfl
  | some held =>
    have hdead : held.live time = false := by
      have hfilter := filter_gone hgone
      rw [hslot] at hfilter
      by_contra hlive
      rw [Bool.not_eq_false] at hlive
      cases (Option.filter_some_pos (p := fun x : Held Int => x.live time) hlive).symm.trans hfilter
    unfold Held.live at hdead
    cases hdeadline : held.expiresAt with
    | none =>
      rw [hdeadline] at hdead
      cases hdead
    | some deadline =>
      rw [hdeadline, Option.all_some, decide_eq_false_iff_not, Nat.not_lt] at hdead
      exact tally_later h (Nat.lt_of_lt_of_le (h.lasts held deadline hslot hdeadline) (hmono hdead))

/-- While something is counted in the current period, the key is there and stands at it. -/
theorem counted_live (h : Faithful period life now c) (hle : now ≤ time)
    (hcounted : tally period (period time) c.counts ≠ 0) :
    (∃ held, c.slot = some held ∧ held.live time = true ∧
      held.value = tally period (period time) c.counts) ∧ period c.since = period time := by
  have hsince : period c.since = period time := by
    by_contra hne
    have hlt : period c.since < period time :=
      Nat.lt_of_le_of_ne (hmono (Nat.le_trans h.since_le hle)) hne
    exact hcounted (tally_later h hlt)
  refine ⟨?_, hsince⟩
  cases hread : read c.slot time with
  | none => exact absurd (tally_gone hmono h hread) hcounted
  | some value =>
    obtain ⟨held, hslot, hlive, -⟩ := read_some.mp hread
    exact ⟨held, hslot, hlive, hsince ▸ h.value held hslot⟩

/-- A fresh key stands at what was counted in the current period. -/
theorem count_fresh (h : Faithful period life now c)
    (hfresh : c.fresh period time = true) :
    count c.slot time = tally period (period time) c.counts := by
  cases hread : read c.slot time with
  | none => rw [count_gone hread, tally_gone hmono h hread]
  | some value =>
    unfold Counter.fresh at hfresh
    rw [hread, Option.isNone_some, Bool.false_or, beq_iff_eq] at hfresh
    obtain ⟨held, hslot, hlive, -⟩ := read_some.mp hread
    rw [count_live hslot hlive, h.value held hslot, hfresh]

theorem faithful_add (h : Faithful period life now c) (hle : now ≤ time)
    (hfresh : c.fresh period time = true) : Faithful period life time (c.add time amount) := by
  rcases incrBy_cases c.slot time amount with ⟨held, hslot, hlive, hnew⟩ | ⟨hgone, hnew⟩
  · have hread : read c.slot time = some held.value := read_some.mpr ⟨held, hslot, hlive, rfl⟩
    have hsince : (c.add time amount).since = c.since := by
      unfold Counter.add
      rw [hread]
      rfl
    have hperiod : period c.since = period time := by
      unfold Counter.fresh at hfresh
      rw [hread, Option.isNone_some, Bool.false_or, beq_iff_eq] at hfresh
      exact hfresh
    refine ⟨fun held' h' => ?_, fun held' deadline h' hdeadline => ?_, ?_, fun x hx => ?_, ?_,
      fun held' set h' hset => ?_⟩
    · cases hnew.symm.trans h'
      rw [hsince]
      simp only [Counter.add, tally, hperiod, if_true]
      rw [h.value held hslot, hperiod, Int.add_comm]
    · cases hnew.symm.trans h'
      rw [hsince]
      exact h.lasts held deadline hslot hdeadline
    · rw [hsince]
      exact Nat.le_trans h.since_le hle
    · rw [hsince]
      rcases List.mem_cons.mp hx with rfl | hx
      · exact Nat.le_of_eq hperiod.symm
      · exact h.latest x hx
    · intro hnone
      cases hnew.symm.trans hnone
    · cases hnew.symm.trans h'
      unfold Counter.add at hset
      rw [hread] at hset
      exact h.ends held set hslot hset
  · have hsince : (c.add time amount).since = time := by
      unfold Counter.add
      rw [hgone]
      rfl
    refine ⟨fun held' h' => ?_, fun held' deadline h' hdeadline => ?_, ?_, fun x hx => ?_, ?_,
      fun held' set h' hset => ?_⟩
    · cases hnew.symm.trans h'
      rw [hsince]
      simp only [Counter.add, tally, if_true, tally_gone hmono h hgone, Int.add_zero]
    · cases hnew.symm.trans h'
      cases hdeadline
    · exact Nat.le_of_eq hsince
    · rw [hsince]
      rcases List.mem_cons.mp hx with rfl | hx
      · exact Nat.le_refl _
      · exact Nat.le_trans (h.latest x hx) (hmono (Nat.le_trans h.since_le hle))
    · intro hnone
      cases hnew.symm.trans hnone
    · unfold Counter.add at hset
      rw [hgone] at hset
      cases hset

/-- A deadline in a later period. -/
theorem faithful_expireAt (h : Faithful period life now c) (hle : now ≤ time)
    (hlater : period time < period deadline) (hlife : deadline ≤ life time) :
    Faithful period life time (c.expireAt time deadline) := by
  have hlt : time < deadline := by
    by_contra hnot
    exact absurd (hmono (Nat.le_of_not_lt hnot)) (Nat.not_le_of_lt hlater)
  cases hread : read c.slot time with
  | none =>
    have hsame : c.expireAt time deadline = c := by
      unfold Counter.expireAt
      rw [expireAt_gone hread, hread]
      rfl
    rw [hsame]
    exact faithful_later h hle
  | some value =>
    obtain ⟨held, hslot, hlive, -⟩ := read_some.mp hread
    have hnew := expireAt_live hslot hlive hlt
    refine ⟨fun held' h' => ?_, fun held' x h' hx => ?_, Nat.le_trans h.since_le hle, h.latest,
      fun hnone => ?_, fun held' set h' hset => ?_⟩
    · cases hnew.symm.trans h'
      exact h.value held hslot
    · cases hnew.symm.trans h'
      cases hx
      exact Nat.lt_of_le_of_lt (hmono (Nat.le_trans h.since_le hle)) hlater
    · cases hnew.symm.trans hnone
    · cases hnew.symm.trans h'
      unfold Counter.expireAt at hset
      rw [hread] at hset
      cases hset
      exact ⟨deadline, rfl, hlife⟩

end

end PeriodCounter
