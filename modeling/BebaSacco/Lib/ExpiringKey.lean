import Mathlib.Logic.Basic
import Mathlib.Tactic.Common

/-! # Keys that expire

One key of a store whose values have a deadline. A value that is past its deadline reads as none; it
stays where it is until something is written over it.

Results:
 1. `read_none`, `read_some`: what a read returns.
 2. `incrBy_cases`, `expireAt_live`: what a counter's commands leave under the key.
-/

namespace ExpiringKey

/-- A value and the millisecond from which it is gone, `none` being never. -/
structure Held (α : Type) where
  value : α
  expiresAt : Option Nat
  deriving DecidableEq, Repr

abbrev Slot (α : Type) := Option (Held α)

def Held.live {α : Type} (h : Held α) (now : Nat) : Bool := h.expiresAt.all (now < ·)

variable {α : Type} {slot : Slot α} {h : Held α} {now time : Nat} {a : α}

/-- `GET` -/
def read (slot : Slot α) (now : Nat) : Option α := (slot.filter (·.live now)).map (·.value)

/-- `SETEX`: the value and its time to live. -/
def setex (value : α) (now ttlMs : Nat) : Slot α := some ⟨value, some (now + ttlMs)⟩

theorem read_some : read slot now = some a ↔ ∃ h, slot = some h ∧ h.live now = true ∧ h.value = a := by
  unfold read
  rw [Option.map_eq_some_iff]
  constructor
  · rintro ⟨h, hh, rfl⟩
    obtain ⟨hslot, hlive⟩ := Option.filter_eq_some_iff.mp hh
    exact ⟨h, hslot, hlive, rfl⟩
  · rintro ⟨h, rfl, hlive, rfl⟩
    exact ⟨h, Option.filter_eq_some_iff.mpr ⟨rfl, hlive⟩, rfl⟩

@[simp] theorem read_none : read (none : Slot α) now = none := rfl

/-! ## Counters -/

variable {counter : Slot Int} {c : Held Int} {amount : Int} {deadline : Nat}

/-- What a counter stands at; a missing key counts as zero. -/
def count (counter : Slot Int) (now : Nat) : Int := (read counter now).getD 0

/-- `INCRBY`: a missing key is created without a deadline, a deadline that is there stays. -/
def incrBy (counter : Slot Int) (now : Nat) (amount : Int) : Slot Int :=
  match counter.filter (·.live now) with
  | some c => some { c with value := c.value + amount }
  | none => some ⟨amount, none⟩

/-- `PEXPIREAT`: a deadline that has passed removes the key, a missing key stays missing. -/
def expireAt (counter : Slot Int) (now deadline : Nat) : Slot Int :=
  match counter.filter (·.live now) with
  | some c => if now < deadline then some { c with expiresAt := some deadline } else none
  | none => counter

theorem count_live (hslot : counter = some c) (hlive : c.live now = true) :
    count counter now = c.value := by
  unfold count
  rw [read_some.mpr ⟨c, hslot, hlive, rfl⟩, Option.getD_some]

theorem count_gone (h : read counter now = none) : count counter now = 0 := by
  unfold count
  rw [h, Option.getD_none]

theorem filter_live (hslot : counter = some c) (hlive : c.live now = true) :
    counter.filter (·.live now) = some c := by
  rw [hslot]
  exact Option.filter_some_pos hlive

theorem filter_gone (h : read counter now = none) : counter.filter (·.live now) = none :=
  Option.map_eq_none_iff.mp h

/-- A counter goes on, or starts anew. -/
theorem incrBy_cases (counter : Slot Int) (now : Nat) (amount : Int) :
    (∃ c, counter = some c ∧ c.live now = true ∧
      incrBy counter now amount = some { c with value := c.value + amount }) ∨
    (read counter now = none ∧ incrBy counter now amount = some ⟨amount, none⟩) := by
  cases hread : counter.filter (·.live now) with
  | some c =>
    obtain ⟨hslot, hlive⟩ := Option.filter_eq_some_iff.mp hread
    refine .inl ⟨c, hslot, hlive, ?_⟩
    unfold incrBy
    rw [hread]
  | none =>
    refine .inr ⟨Option.map_eq_none_iff.mpr hread, ?_⟩
    unfold incrBy
    rw [hread]

theorem expireAt_live (hslot : counter = some c) (hlive : c.live now = true)
    (hlt : now < deadline) :
    expireAt counter now deadline = some { c with expiresAt := some deadline } := by
  unfold expireAt
  rw [filter_live hslot hlive]
  exact if_pos hlt

theorem expireAt_gone (h : read counter now = none) :
    expireAt counter now deadline = counter := by
  unfold expireAt
  rw [filter_gone h]

end ExpiringKey
