import BebaSacco.Lib.Run
import BebaSacco.Lib.Transaction

/-! # A job that a queue retries

A job waits in a queue until a worker picks it. Each attempt runs the program of the job from its
start, one transaction at a time; when a statement throws or the worker is lost, the attempt is over
and the job waits again, until its attempts are used up. Others write to the same state at any
moment.

Results:
 1. `step_state`: what one event does to the state.
 2. `step_keeps`: an assertion on the state is kept when the statements of the job and the others
    keep it.
-/

namespace RetriedJob

open Txn

/-- The program of one attempt, and how many attempts there are. -/
structure Program (σ ε ι τ : Type) where
  entry : τ
  next : τ → ι → Txn σ ε (Option τ)
  attempts : Nat

/-- `made` counts the attempts that are over. -/
inductive Phase (τ : Type) where
  | waiting (made : Nat)
  | active (made : Nat) (t : τ)
  | completed
  | failed
  deriving DecidableEq, Repr

structure World (σ τ : Type) where
  state : σ
  phase : Phase τ

/-- A worker picks the job, does its next statement, or throws or is lost before it; or somebody
else writes. -/
inductive Event (κ ι : Type) where
  | pick
  | advance (input : ι)
  | throw
  | serve (k : κ)
  deriving DecidableEq, Repr

variable {σ ε ι κ τ : Type} {P : Program σ ε ι τ} {serve : κ → σ → σ} {w : World σ τ}
  {e : Event κ ι}

/-- The job after an attempt that did not complete. -/
def Program.retry (P : Program σ ε ι τ) (made : Nat) : Phase τ :=
  if made + 1 < P.attempts then .waiting (made + 1) else .failed

def Program.step (P : Program σ ε ι τ) (serve : κ → σ → σ) (w : World σ τ) :
    Event κ ι → World σ τ
  | .pick =>
    match w.phase with
    | .waiting made => { w with phase := .active made P.entry }
    | _ => w
  | .advance input =>
    match w.phase with
    | .active made t =>
      match (P.next t input).run w.state with
      | .ok (some t', s) => ⟨s, .active made t'⟩
      | .ok (none, s) => ⟨s, .completed⟩
      | .error _ => { w with phase := P.retry made }
    | _ => w
  | .throw =>
    match w.phase with
    | .active made _ => { w with phase := P.retry made }
    | _ => w
  | .serve k => { w with state := serve k w.state }

/-- The worker is about to do the statement `t`. -/
def World.At (w : World σ τ) (t : τ) : Prop := ∃ made, w.phase = .active made t

/-- A statement of the job commits, somebody else writes, or nothing is written. -/
theorem step_state (P : Program σ ε ι τ) (serve : κ → σ → σ) (w : World σ τ) (e : Event κ ι) :
    (∃ input t t', e = .advance input ∧ w.At t ∧
      Yields (P.next t input) w.state t' (P.step serve w e).state) ∨
    (∃ k, e = .serve k ∧ (P.step serve w e).state = serve k w.state) ∨
    (P.step serve w e).state = w.state := by
  cases e with
  | pick | throw =>
    refine .inr (.inr ?_)
    unfold Program.step
    cases w.phase with
    | waiting made | active made t | completed | failed => rfl
  | serve k => exact .inr (.inl ⟨k, rfl, rfl⟩)
  | advance input =>
    cases hphase : w.phase with
    | active made t =>
      cases hrun : (P.next t input).run w.state with
      | error _ =>
        refine .inr (.inr ?_)
        unfold Program.step
        simp only [hphase, hrun]
      | ok r =>
        obtain ⟨t', s⟩ := r
        have hstate : (P.step serve w (.advance input)).state = s := by
          unfold Program.step
          cases t' with
          | none => simp only [hphase, hrun]
          | some t' => simp only [hphase, hrun]
        rw [hstate]
        exact .inl ⟨input, t, t', rfl, ⟨made, hphase⟩, hrun⟩
    | waiting made | completed | failed =>
      refine .inr (.inr ?_)
      unfold Program.step
      simp only [hphase]

theorem step_keeps {I : σ → Prop} (h : I w.state)
    (hnext : ∀ input t t' s, e = .advance input → w.At t → Yields (P.next t input) w.state t' s →
      I s)
    (hserve : ∀ k, I (serve k w.state)) : I (P.step serve w e).state := by
  rcases step_state P serve w e with ⟨input, t, t', he, hat, hy⟩ | ⟨k, -, hstate⟩ | hstate
  · exact hnext input t t' _ he hat hy
  · rw [hstate]
    exact hserve k
  · rw [hstate]
    exact h

end RetriedJob
