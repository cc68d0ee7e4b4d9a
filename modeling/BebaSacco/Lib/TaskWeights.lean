import BebaSacco.Lib.Process

/-! # Processes that hold something

Each process holds so much of something at the point where it is; the weight of a world is what its
processes hold together.

Results:
 1. `weight_start`, `weight_set`, `weight_lost`: what becomes of the weight when a process starts,
    goes on or is lost.
 2. `le_weight`, `weight_le_add`: the part of one process, and weights that are less than a sum.
 3. `weight_cases`: what one event can do, with the weight of the processes afterwards.
 4. `Tended` and `tended_step`: whatever needs a process to look after it has one.
-/

namespace Process

open Txn

variable {σ ε α ι τ : Type} {P : Program σ ε α ι τ} {w : World σ τ} {e : Event α ι} {f : τ → Nat}
  {tasks : List (Option τ)} {i : Nat} {t : τ} {t' : Option τ}

/-! ## 1. The weight of a world -/

/-- What a process that may have ended holds. -/
def heldBy (f : τ → Nat) (t : Option τ) : Nat := t.elim 0 f

/-- What all processes hold together. -/
def weight (f : τ → Nat) : List (Option τ) → Nat
  | [] => 0
  | t :: tasks => heldBy f t + weight f tasks

theorem weight_start : weight f (tasks ++ [some t]) = weight f tasks + f t := by
  induction tasks with
  | nil => exact Nat.add_comm _ _
  | cons u tasks ih =>
    rw [List.cons_append, weight, ih, weight, Nat.add_assoc]

theorem weight_set (hat : tasks[i]? = some (some t)) :
    weight f (tasks.set i t') + f t = weight f tasks + heldBy f t' := by
  induction tasks generalizing i with
  | nil => cases hat
  | cons u tasks ih =>
    cases i with
    | zero =>
      cases hat
      have hheld : heldBy f (some t) = f t := rfl
      rw [List.set_cons_zero, weight, weight, hheld]
      omega
    | succ i =>
      rw [List.set_cons_succ, weight, weight, Nat.add_assoc, ih hat, Nat.add_assoc]

theorem weight_lost : weight f (tasks.set i none) ≤ weight f tasks := by
  induction tasks generalizing i with
  | nil => exact Nat.le_refl 0
  | cons u tasks ih =>
    cases i with
    | zero => exact Nat.add_le_add_right (Nat.zero_le _) _
    | succ i => exact Nat.add_le_add_left ih _

/-- Each process holds a part of the weight. -/
theorem le_weight (hat : tasks[i]? = some (some t)) : f t ≤ weight f tasks := by
  have hset : weight f (tasks.set i none) + f t = weight f tasks + heldBy f none := weight_set hat
  have hnone : heldBy f (none : Option τ) = 0 := rfl
  omega

theorem weight_le_add {g h : τ → Nat} (hle : ∀ t, f t ≤ g t + h t) :
    weight f tasks ≤ weight g tasks + weight h tasks := by
  induction tasks with
  | nil => exact Nat.le_refl 0
  | cons u tasks ih =>
    have hhead : heldBy f u ≤ heldBy g u + heldBy h u := by
      cases u with
      | none => exact Nat.le_refl 0
      | some t => exact hle t
    simp only [weight]
    omega

/-- A process starts, a statement commits, or at most a process is lost. -/
theorem weight_cases (P : Program σ ε α ι τ) (w : World σ τ) (e : Event α ι) :
    (∃ a, e = .start a ∧ (P.step w e).state = w.state ∧
      ∀ f : τ → Nat, weight f (P.step w e).tasks = weight f w.tasks + f (P.entry a)) ∨
    (∃ i input t t', e = .advance i input ∧ w.At i t ∧
      Yields (P.next t input) w.state t' (P.step w e).state ∧
      ∀ f : τ → Nat, weight f (P.step w e).tasks + f t = weight f w.tasks + heldBy f t') ∨
    ((P.step w e).state = w.state ∧
      ∀ f : τ → Nat, weight f (P.step w e).tasks ≤ weight f w.tasks) := by
  cases e with
  | start a => exact .inl ⟨a, rfl, rfl, fun f => weight_start⟩
  | crash i => exact .inr (.inr ⟨rfl, fun f => weight_lost⟩)
  | advance i input =>
    rcases advance_cases P w i input with hstep | ⟨t, t', s, hat, hy, hstep⟩ | ⟨t, hat, -, hstep⟩
    · rw [hstep]
      exact .inr (.inr ⟨rfl, fun f => Nat.le_refl _⟩)
    · rw [hstep]
      exact .inr (.inl ⟨i, input, t, t', rfl, hat, hy, fun f => weight_set hat⟩)
    · rw [hstep]
      exact .inr (.inr ⟨rfl, fun f => weight_lost⟩)

/-! ## 2. Whatever needs a process has one -/

/-- Each key that needs a process is with one. -/
def Tended {κ : Type} (needs : σ → κ → Prop) (tends : τ → κ → Prop) (w : World σ τ) : Prop :=
  ∀ k, needs w.state k → ∃ i t, w.At i t ∧ tends t k

/-- A process that is lost or fails leaves nothing behind that needs it, and a statement after which
a key needs a process goes to a point with the key, or leaves it to whoever had it. -/
theorem tended_step {κ : Type} {needs : σ → κ → Prop} {tends : τ → κ → Prop}
    (h : Tended needs tends w)
    (hlost : ∀ i t k, (e = .crash i ∨
        ∃ input, e = .advance i input ∧ Fails (P.next t input) w.state) → w.At i t → tends t k →
      ¬ needs w.state k)
    (hnext : ∀ i input t t' s' k, e = .advance i input → w.At i t →
      Yields (P.next t input) w.state t' s' → needs s' k →
        (∃ u, t' = some u ∧ tends u k) ∨ (needs w.state k ∧ ¬ tends t k)) :
    Tended needs tends (P.step w e) := by
  -- a task that is dropped tended nothing that is still needed
  have hdrop : ∀ i, (∀ t k, w.At i t → tends t k → ¬ needs w.state k) →
      Tended needs tends { w with tasks := w.tasks.set i none } := by
    intro i hi k hk
    obtain ⟨j, u, hj, hu⟩ := h k hk
    refine ⟨j, u, at_set_other (fun hji => ?_) hj, hu⟩
    subst hji
    exact hi u k hj hu hk
  cases e with
  | start a =>
    intro k hk
    obtain ⟨j, u, hj, hu⟩ := h k hk
    exact ⟨j, u, (List.getElem?_append_left (List.getElem?_eq_some_iff.mp hj).1).trans hj, hu⟩
  | crash i => exact hdrop i fun t k => hlost i t k (.inl rfl)
  | advance i input =>
    rcases advance_cases P w i input with hstep | ⟨t, t', s', hat, hy, hstep⟩ |
      ⟨t, hat, hfails, hstep⟩
    · rw [hstep]
      exact h
    · rw [hstep]
      intro k hk
      rcases hnext i input t t' s' k rfl hat hy hk with ⟨u, hu, htends⟩ | ⟨hneeds, hnot⟩
      · refine ⟨i, u, ?_, htends⟩
        unfold World.At
        rw [hu]
        exact at_set_self hat
      · obtain ⟨j, u, hj, hu⟩ := h k hneeds
        refine ⟨j, u, at_set_other (fun hji => ?_) hj, hu⟩
        subst hji
        cases Option.some.inj (Option.some.inj (hat.symm.trans hj))
        exact hnot hu
    · rw [hstep]
      refine hdrop i fun u k hu => ?_
      cases Option.some.inj (Option.some.inj (hat.symm.trans hu))
      exact hlost i _ k (.inr ⟨input, rfl, hfails⟩) hu

end Process
