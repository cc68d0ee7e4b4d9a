import Mathlib.Order.Bounds.Basic
import Mathlib.Tactic.Common

/-! # Edit distance

A text is edited one letter at a time: a letter is inserted, deleted or replaced, anywhere. `Edits n a b`
says that `n` edits turn `a` into `b`, and `Least a b n` that no fewer do. An alignment reads both texts
from the left at the same time; it is an edit script in order, and every script can be put in order
without getting longer.

Results:
1. `aligned_of_edits`, `edits_of_aligned`: scripts and alignments.
2. `least_keep`: an equal first letter is kept (the exchange argument); `least_differ`: different first
   letters are settled by the cheapest of three edits.
3. `least_reverse`: texts can be read from the right as well.
-/

namespace EditDistance

variable {α : Type} {a a' b b' c : List α} {x y z : α} {n m : Nat}

/-! ## 1. Scripts and alignments -/

/-- One letter is inserted, deleted or replaced. -/
inductive EditStep : List α → List α → Prop
  | insert (x : α) (a : List α) : EditStep a (x :: a)
  | delete (x : α) (a : List α) : EditStep (x :: a) a
  | replace (x y : α) (a : List α) : EditStep (x :: a) (y :: a)
  | cons (z : α) {a a' : List α} : EditStep a a' → EditStep (z :: a) (z :: a')

inductive Edits : Nat → List α → List α → Prop
  | refl (a : List α) : Edits 0 a a
  | step {n : Nat} {a a' b : List α} : EditStep a a' → Edits n a' b → Edits (n + 1) a b

def Least (a b : List α) (n : Nat) : Prop := IsLeast { k | Edits k a b } n

inductive Aligned : Nat → List α → List α → Prop
  | nil : Aligned 0 [] []
  | keep (x : α) {n : Nat} {a b : List α} : Aligned n a b → Aligned n (x :: a) (x :: b)
  | replace (x y : α) {n : Nat} {a b : List α} :
      Aligned n a b → Aligned (n + 1) (x :: a) (y :: b)
  | delete (x : α) {n : Nat} {a b : List α} : Aligned n a b → Aligned (n + 1) (x :: a) b
  | insert (y : α) {n : Nat} {a b : List α} : Aligned n a b → Aligned (n + 1) a (y :: b)

theorem aligned_refl (a : List α) : Aligned 0 a a := by
  induction a with
  | nil => exact .nil
  | cons x a ih => exact .keep x ih

theorem aligned_symm (h : Aligned n a b) : Aligned n b a := by
  induction h with
  | nil => exact .nil
  | keep x _ ih => exact .keep x ih
  | replace x y _ ih => exact .replace y x ih
  | delete x _ ih => exact .insert x ih
  | insert y _ ih => exact .delete y ih

/-- A letter less on the left costs one edit at most. -/
theorem aligned_drop_left (h : Aligned n (x :: a) b) : ∃ m ≤ n + 1, Aligned m a b := by
  generalize hxa : x :: a = l at h
  induction h with
  | nil => cases hxa
  | keep z h _ =>
    cases hxa
    exact ⟨_, Nat.le_refl _, .insert _ h⟩
  | replace z y h _ =>
    cases hxa
    exact ⟨_, Nat.le_succ _, .insert y h⟩
  | delete z h _ =>
    cases hxa
    exact ⟨_, by omega, h⟩
  | insert y _ ih =>
    obtain ⟨m, hm, h⟩ := ih hxa
    exact ⟨m + 1, by omega, .insert y h⟩

theorem aligned_drop_right (h : Aligned n a (y :: b)) : ∃ m ≤ n + 1, Aligned m a b := by
  obtain ⟨m, hm, h⟩ := aligned_drop_left (aligned_symm h)
  exact ⟨m, hm, aligned_symm h⟩

theorem aligned_replace_left (h : Aligned n (x :: a) b) : ∃ m ≤ n + 1, Aligned m (z :: a) b := by
  generalize hxa : x :: a = l at h
  induction h with
  | nil => cases hxa
  | keep y h _ =>
    cases hxa
    exact ⟨_, Nat.le_refl _, .replace z _ h⟩
  | replace _ y h _ =>
    cases hxa
    exact ⟨_, Nat.le_succ _, .replace z y h⟩
  | delete _ h _ =>
    cases hxa
    exact ⟨_, Nat.le_succ _, .delete z h⟩
  | insert y _ ih =>
    obtain ⟨m, hm, h⟩ := ih hxa
    exact ⟨m + 1, by omega, .insert y h⟩

/-- What costs one edit at most costs no more behind a letter. -/
theorem aligned_cons_left (hstep : ∀ n b, Aligned n a' b → ∃ m ≤ n + 1, Aligned m a b)
    (h : Aligned n (z :: a') b) : ∃ m ≤ n + 1, Aligned m (z :: a) b := by
  generalize hza : z :: a' = l at h
  induction h with
  | nil => cases hza
  | keep _ h _ =>
    cases hza
    obtain ⟨m, hm, h⟩ := hstep _ _ h
    exact ⟨m, hm, .keep _ h⟩
  | replace _ y h _ =>
    cases hza
    obtain ⟨m, hm, h⟩ := hstep _ _ h
    exact ⟨m + 1, by omega, .replace _ y h⟩
  | delete _ h _ =>
    cases hza
    obtain ⟨m, hm, h⟩ := hstep _ _ h
    exact ⟨m + 1, by omega, .delete _ h⟩
  | insert y _ ih =>
    obtain ⟨m, hm, h⟩ := ih hza
    exact ⟨m + 1, by omega, .insert y h⟩

/-- An edit before an alignment makes it longer by one at most. -/
theorem aligned_of_step (hstep : EditStep a a') (h : Aligned n a' b) :
    ∃ m ≤ n + 1, Aligned m a b := by
  induction hstep generalizing n b with
  | insert x a => exact aligned_drop_left h
  | delete x a => exact ⟨n + 1, Nat.le_refl _, .delete x h⟩
  | replace x y a => exact aligned_replace_left h
  | cons z _ ih => exact aligned_cons_left (fun _ _ h => ih h) h

theorem aligned_of_edits (h : Edits n a b) : ∃ m ≤ n, Aligned m a b := by
  induction h with
  | refl a => exact ⟨0, Nat.le_refl 0, aligned_refl a⟩
  | step hstep _ ih =>
    obtain ⟨m, hm, h⟩ := ih
    obtain ⟨k, hk, h⟩ := aligned_of_step hstep h
    exact ⟨k, by omega, h⟩

theorem edits_cons (z : α) (h : Edits n a b) : Edits n (z :: a) (z :: b) := by
  induction h with
  | refl a => exact .refl _
  | step hstep _ ih => exact .step (.cons z hstep) ih

theorem edits_of_aligned (h : Aligned n a b) : Edits n a b := by
  induction h with
  | nil => exact .refl []
  | keep x _ ih => exact edits_cons x ih
  | replace x y _ ih => exact .step (.replace x y _) (edits_cons y ih)
  | delete x _ ih => exact .step (.delete x _) ih
  | insert y _ ih => exact .step (.insert y _) (edits_cons y ih)

/-- The least number of edits is the least length of an alignment. -/
theorem least_of_aligned (h : Aligned n a b) (hle : ∀ m, Aligned m a b → n ≤ m) : Least a b n := by
  refine ⟨edits_of_aligned h, fun k hk => ?_⟩
  obtain ⟨m, hm, halign⟩ := aligned_of_edits hk
  exact (hle m halign).trans hm

theorem aligned_of_least (h : Least a b n) : Aligned n a b := by
  obtain ⟨m, hm, halign⟩ := aligned_of_edits h.1
  have hn : n ≤ m := h.2 (edits_of_aligned halign)
  obtain rfl : m = n := by omega
  exact halign

theorem le_of_least (h : Least a b n) (halign : Aligned m a b) : n ≤ m :=
  h.2 (edits_of_aligned halign)

/-! ## 2. The first letters -/

theorem least_nil_left (b : List α) : Least [] b b.length := by
  refine least_of_aligned ?_ fun m h => ?_
  · induction b with
    | nil => exact .nil
    | cons y b ih => exact .insert y ih
  · generalize hnil : ([] : List α) = l at h
    induction h with
    | nil => exact Nat.le_refl 0
    | insert y _ ih => exact Nat.succ_le_succ (ih hnil)
    | keep => cases hnil
    | replace => cases hnil
    | delete => cases hnil

theorem least_symm (h : Least a b n) : Least b a n :=
  least_of_aligned (aligned_symm (aligned_of_least h)) fun _ hm => le_of_least h (aligned_symm hm)

theorem least_nil_right (a : List α) : Least a [] a.length := least_symm (least_nil_left a)

theorem least_self (a : List α) : Least a a 0 :=
  least_of_aligned (aligned_refl a) fun m _ => Nat.zero_le m

/-- An equal first letter may as well be kept: whatever else is done with it costs an edit, which pays
for doing without it. -/
theorem least_keep (h : Least a b n) : Least (x :: a) (x :: b) n := by
  refine least_of_aligned (.keep x (aligned_of_least h)) fun m hm => ?_
  cases hm with
  | keep _ hm => exact le_of_least h hm
  | replace _ _ hm => exact (le_of_least h hm).trans (Nat.le_succ _)
  | delete _ hm =>
    obtain ⟨k, hk, hm⟩ := aligned_drop_right hm
    exact (le_of_least h hm).trans hk
  | insert _ hm =>
    obtain ⟨k, hk, hm⟩ := aligned_drop_left hm
    exact (le_of_least h hm).trans hk

theorem least_differ (hne : x ≠ y) {deleted inserted replaced : Nat} (hd : Least a (y :: b) deleted)
    (hi : Least (x :: a) b inserted) (hr : Least a b replaced) :
    Least (x :: a) (y :: b) (1 + min (min deleted inserted) replaced) := by
  refine least_of_aligned ?_ fun m hm => ?_
  · rcases Nat.le_total (min deleted inserted) replaced with h | h
    · rw [Nat.min_eq_left h, Nat.add_comm]
      rcases Nat.le_total deleted inserted with h | h
      · rw [Nat.min_eq_left h]
        exact .delete x (aligned_of_least hd)
      · rw [Nat.min_eq_right h]
        exact .insert y (aligned_of_least hi)
    · rw [Nat.min_eq_right h, Nat.add_comm]
      exact .replace x y (aligned_of_least hr)
  · cases hm with
    | keep => exact absurd rfl hne
    | replace _ _ hm =>
      have := le_of_least hr hm
      omega
    | delete _ hm =>
      have := le_of_least hd hm
      omega
    | insert _ hm =>
      have := le_of_least hi hm
      omega

/-! ## 3. From the right -/

theorem step_append_left (l : List α) (h : EditStep a a') : EditStep (l ++ a) (l ++ a') := by
  induction l with
  | nil => exact h
  | cons z l ih => exact .cons z ih

theorem step_append_right (l : List α) (h : EditStep a a') : EditStep (a ++ l) (a' ++ l) := by
  induction h with
  | insert x a => exact .insert x _
  | delete x a => exact .delete x _
  | replace x y a => exact .replace x y _
  | cons z _ ih => exact .cons z ih

theorem step_reverse (h : EditStep a a') : EditStep a.reverse a'.reverse := by
  induction h with
  | insert x a =>
    have hlast := step_append_left a.reverse (.insert x [])
    rwa [List.append_nil, ← List.reverse_cons] at hlast
  | delete x a =>
    have hlast := step_append_left a.reverse (.delete x [])
    rwa [List.append_nil, ← List.reverse_cons] at hlast
  | replace x y a =>
    have hlast := step_append_left a.reverse (.replace x y [])
    rwa [← List.reverse_cons, ← List.reverse_cons] at hlast
  | cons z _ ih =>
    rw [List.reverse_cons, List.reverse_cons]
    exact step_append_right [z] ih

theorem edits_reverse (h : Edits n a b) : Edits n a.reverse b.reverse := by
  induction h with
  | refl a => exact .refl _
  | step hstep _ ih => exact .step (step_reverse hstep) ih

theorem least_reverse (h : Least a.reverse b.reverse n) : Least a b n := by
  constructor
  · have hback := edits_reverse h.1
    rwa [List.reverse_reverse, List.reverse_reverse] at hback
  · intro m hm
    exact h.2 (edits_reverse hm)

end EditDistance
