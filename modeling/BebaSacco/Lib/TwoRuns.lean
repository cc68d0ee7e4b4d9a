import BebaSacco.Lib.Process

/-! # Two runs side by side

The same events on two worlds. `Lockstep R J` says that the processes of both are at the same points,
that the states are related by `R`, and that `J` relates them too for the point of each process.

Results:
 1. `lockstep_step`: what one statement owes for the two worlds to stay in lockstep.
-/

namespace Process

open Txn

variable {σ ε α ι τ : Type} {P : Program σ ε α ι τ} {w w' : World σ τ} {e : Event α ι}
  {R : σ → σ → Prop} {J : σ → σ → τ → Prop}

structure Lockstep (R : σ → σ → Prop) (J : σ → σ → τ → Prop) (w w' : World σ τ) : Prop where
  tasks : w'.tasks = w.tasks
  states : R w.state w'.state
  points : ∀ i t, w.At i t → J w.state w'.state t

/-- A statement fails on both states, or does the same on both: it goes on to the same point, and
the states are related as before, for that point and for all others. -/
def Alike (P : Program σ ε α ι τ) (R : σ → σ → Prop) (J : σ → σ → τ → Prop) (t : τ) (input : ι)
    (s s' : σ) : Prop :=
  (Fails (P.next t input) s ∧ Fails (P.next t input) s') ∨
    ∃ t' s₁ s₁', Yields (P.next t input) s t' s₁ ∧ Yields (P.next t input) s' t' s₁' ∧ R s₁ s₁' ∧
      (∀ u, t' = some u → J s₁ s₁' u) ∧ ∀ u, J s s' u → J s₁ s₁' u

theorem lockstep_set {i : Nat} {t : Option τ} {s s' : σ} (h : Lockstep R J w w') (hstates : R s s')
    (hown : ∀ u, t = some u → J s s' u) (hothers : ∀ u, J w.state w'.state u → J s s' u) :
    Lockstep R J ⟨s, w.tasks.set i t⟩ ⟨s', w'.tasks.set i t⟩ := by
  refine ⟨by rw [h.tasks], hstates, fun j u hu => ?_⟩
  rcases at_set hu with ⟨-, hu⟩ | ⟨-, hu⟩
  · exact hown u hu
  · exact hothers u (h.points j u hu)

theorem lockstep_step (h : Lockstep R J w w')
    (hstart : ∀ a, e = .start a → J w.state w'.state (P.entry a))
    (hnext : ∀ i input t, e = .advance i input → w.At i t → R w.state w'.state →
      J w.state w'.state t → Alike P R J t input w.state w'.state) :
    Lockstep R J (P.step w e) (P.step w' e) := by
  cases e with
  | start a =>
    refine ⟨congrArg (· ++ [some (P.entry a)]) h.tasks, h.states, fun j u hu => ?_⟩
    have hmem : (w.tasks ++ [some (P.entry a)])[j]? = some (some u) := hu
    rcases Nat.lt_or_ge j w.tasks.length with hlt | hge
    · rw [List.getElem?_append_left hlt] at hmem
      exact h.points j u hmem
    · rw [List.getElem?_append_right hge, List.getElem?_singleton] at hmem
      split at hmem
      · cases hmem
        exact hstart a rfl
      · cases hmem
  | crash i => exact lockstep_set h h.states nofun fun _ hu => hu
  | advance i input =>
    -- both worlds are at the same points, so a statement is due in both or in neither
    have htask : w'.task i = w.task i := by
      unfold World.task
      rw [h.tasks]
    cases ht : w.task i with
    | none =>
      rw [step_ended ht, step_ended (htask.trans ht)]
      exact h
    | some t =>
      have hat := task_some.mp ht
      have hat' := task_some.mp (htask.trans ht)
      rcases hnext i input t rfl hat h.states (h.points i t hat) with ⟨hfails, hfails'⟩ |
        ⟨t', s₁, s₁', hy, hy', hR, hown, hothers⟩
      · rw [step_fails hat hfails, step_fails hat' hfails']
        exact lockstep_set h h.states nofun fun _ hu => hu
      · rw [step_yields hat hy, step_yields hat' hy']
        exact lockstep_set h hR hown hothers

end Process
